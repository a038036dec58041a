import EmotoFleet.Financials.FinancialsService
import EmotoFleet.Foundations.Doubles
import EmotoFleet.Foundations.Runs
import EmotoFleet.Telemetry.LiveOrder

/-!
# Battery swaps that are detected

When a live state replaces the cached one, the charge of both is compared: a rise by a
quarter within a quarter of an hour is a swapped battery, and is written as such unless the
bike has had one already. The charge is compared with whatever state was cached, and the
swaps of the last quarter of an hour are looked for by the clock of the server. Both agree
with the readings and their own clock only as long as nothing comes between.

The runs are those of one bike. Its swaps are also recorded and deleted by hand. The charges
are the decimals that the tracker sends; the program reads them as doubles, and the rise that it
computes can be on the other side of the threshold: 32.3 less 14.3 is a little less than 18.
-/

namespace EmotoFleet.BatterySwapDetector

open Expiring Runs
open EmotoFleet.Doubles (toDouble)
open EmotoFleet.LiveState
open EmotoFleet.LiveOrder (discards)
open EmotoFleet.Access (Id BikeAssignment mathRound)
open EmotoFleet.Financials.Service (BatterySwap SwapType)

/-- A quarter of an hour. -/
def QUARTER_HOUR_MS : Int := 15 * 60 * 1000

/-- A station, with its fees. -/
structure Poi where
  type : String
  name : String
  lat : ℚ
  lng : ℚ
  fullSwapFeeRwf : Option Int
  halfSwapFeeRwf : Option Int
  quarterSwapFeeRwf : Option Int

/-- What the detector reads besides the two states. The places are missing where they could
not be loaded. -/
structure Surroundings where
  swapId : Id
  assignments : List BikeAssignment
  pois : Option (List Poi)
  haversineKm : ℚ → ℚ → ℚ → ℚ → ℚ

/-! What is written about a swap -/

section Rows

variable (around : Surroundings) (prevPct nextPct : ℚ)

/-- The swap station that is nearest, within half a kilometre. -/
def findNearestSwapStation (lat lng : ℚ) : Option Poi :=
  ((((around.pois.getD []).filter fun poi => poi.type == "SWAP").foldl
    (fun (closest : Option (ℚ × Poi)) poi =>
      let distKm := around.haversineKm lat lng poi.lat poi.lng
      if distKm ≤ 1 / 2 ∧ closest.all (fun best => decide (distKm < best.1)) = true then
        some (distKm, poi)
      else closest)
    none).map (·.2))

/-- The kind of a swap and the part of a battery that it counts for. -/
def classify : SwapType × ℚ :=
  let deltaSoC := toDouble (nextPct - prevPct)
  if 65 ≤ deltaSoC ∨ 85 ≤ nextPct then (.FULL, 1)
  else if 35 ≤ deltaSoC then (.HALF, 1 / 2)
  else if 18 ≤ deltaSoC then (.QUARTER, 1 / 4)
  else
    let hundredths := mathRound (toDouble (toDouble (deltaSoC / 100) * 100))
    (.CUSTOM, min 1 (max (toDouble (1 / 10)) (toDouble (hundredths / 100))))

/-- The price of a whole battery; a price of zero counts as none. -/
def unitPriceOf (nearestPoi : Option Poi) : Int :=
  ((nearestPoi.bind (·.fullSwapFeeRwf)).filter fun fee => decide (fee ≠ 0)).getD 2500

/-- What a swap costs at a station. -/
def totalCostOf (nearestPoi : Option Poi) (kind : SwapType × ℚ) : Int :=
  match kind.1 with
  | .FULL => (nearestPoi.bind (·.fullSwapFeeRwf)).getD 2500
  | .HALF => (nearestPoi.bind (·.halfSwapFeeRwf)).getD 1250
  | .QUARTER => (nearestPoi.bind (·.quarterSwapFeeRwf)).getD 625
  | .CUSTOM => mathRound (toDouble (unitPriceOf nearestPoi * kind.2))

/-- What is noted of a swap. -/
def notesOf (deltaMs : Int) : String :=
  "[Auto-Detected] Battery SoC jump +" ++ toString (mathRound (toDouble (nextPct - prevPct))) ++ "% (" ++
    toString (mathRound prevPct) ++ "% -> " ++ toString (mathRound nextPct) ++ "%) in " ++
    toString (mathRound (toDouble ((deltaMs : ℚ) / 60000))) ++ "m"

/-- The row of a swap between two states. -/
def detectedSwap (now : Int) (prevState nextState : LiveBikeState) : BatterySwap :=
  let nearestPoi := findNearestSwapStation around nextState.lat nextState.lng
  let kind := classify prevPct nextPct
  { id := around.swapId
    fleetId := nextState.fleetId
    bikeId := some nextState.bikeId
    riderId := (around.assignments.find? fun row =>
      row.bikeId == nextState.bikeId && row.active).map (·.riderUserId)
    swapStation := (nearestPoi.map (·.name)).getD "Kigali Central Station"
    swapType := kind.1
    fraction := kind.2
    unitPriceRwf := unitPriceOf nearestPoi
    totalCostRwf := totalCostOf nearestPoi kind
    batterySerialOut := none
    batterySerialIn := none
    soCOutPct := some (mathRound prevPct)
    soCInPct := some (mathRound nextPct)
    ts := nextState.ts.epochMs
    notes := some (notesOf prevPct nextPct |nextState.ts.epochMs - prevState.ts.epochMs|)
    createdAt := now
    updatedAt := now }

end Rows

/-! The detector -/

/-- The two charges in double precision, where they tell of a swap. -/
def jump (prevState nextState : LiveBikeState) : Option (ℚ × ℚ) :=
  if prevState.ts.text = "" ∨ nextState.bikeId = "" then none
  else
    match nextState.batteryPct, prevState.batteryPct with
    | some nextPct, some prevPct =>
      let deltaSoC := toDouble (toDouble nextPct - toDouble prevPct)
      let deltaMs := |nextState.ts.epochMs - prevState.ts.epochMs|
      if deltaSoC < 18 ∨ QUARTER_HOUR_MS < deltaMs then none
      else some (toDouble prevPct, toDouble nextPct)
    | _, _ => none

/-- A swap of the bike in the last quarter of an hour, by the clock of the server. -/
def recentSwap (swaps : List BatterySwap) (now : Int) (bikeId : Id) : Bool :=
  swaps.any fun swap => swap.bikeId == some bikeId && decide (now - QUARTER_HOUR_MS ≤ swap.ts)

/-- The swap that is recorded when a state replaces the cached one. -/
def evaluateTelemetryForSwap (around : Surroundings) (swaps : List BatterySwap) (now : Int)
    (prevState : Option LiveBikeState) (nextState : LiveBikeState) : Option BatterySwap :=
  match prevState with
  | none => none
  | some prevState =>
    match jump prevState nextState with
    | none => none
    | some (prevPct, nextPct) =>
      if recentSwap swaps now nextState.bikeId then none
      else some (detectedSwap around prevPct nextPct now prevState nextState)

/-- The cached state of a bike and the swaps. The last live state that carried a charge and
the instants of the swaps that were detected are notes of the model. -/
structure World where
  now : Int
  cell : Cell LiveBikeState
  swaps : List BatterySwap
  lastReading : Option LiveBikeState
  recorded : List Int

/-- The world before the first report. -/
def newWorld (now : Int) : World := ⟨now, none, [], none, []⟩

/-- What may happen next. -/
inductive Action (fleetId bikeId : Id) where
  | tick (elapsed : Nat)
  | setLatestBikeState (state : LiveBikeState) (around : Surroundings)
      (own : state.fleetId = fleetId ∧ state.bikeId = bikeId)
  | createBatterySwap (swap : BatterySwap)
  | deleteBatterySwap (id : Id)

variable {fleetId bikeId : Id}

/-- A state that replaces the cached one, and the swap that is detected with it. -/
def World.accept (world : World) (state : LiveBikeState) (around : Surroundings) : World :=
  let detected := evaluateTelemetryForSwap around world.swaps world.now
    (read world.cell world.now) state
  { now := world.now
    cell := setLatestBikeState world.cell world.now state
    swaps := world.swaps ++ detected.toList
    lastReading := if state.batteryPct.isSome then some state else world.lastReading
    recorded := world.recorded ++ detected.toList.map (·.ts) }

/-- Some time, or one report. -/
def occur (world : World) : Action fleetId bikeId → World
  | .tick elapsed => { world with now := world.now + elapsed }
  | .setLatestBikeState state around _ =>
    if discards world.cell world.now state then world else world.accept state around
  | .createBatterySwap swap => { world with swaps := world.swaps ++ [swap] }
  | .deleteBatterySwap id => { world with swaps := world.swaps.filter fun swap => swap.id != id }

/-! What is to hold -/

/-- The charge rises by the threshold within a quarter of an hour. -/
def Rises (last state : LiveBikeState) : Prop :=
  ∃ before after, last.batteryPct = some before ∧ state.batteryPct = some after ∧
    18 ≤ after - before ∧ |state.ts.epochMs - last.ts.epochMs| ≤ QUARTER_HOUR_MS

/-- The charge rises by the threshold in double precision. -/
def ReadsRise (last state : LiveBikeState) : Prop :=
  ∃ before after, last.batteryPct = some before ∧ state.batteryPct = some after ∧
    18 ≤ toDouble (toDouble after - toDouble before) ∧
    |state.ts.epochMs - last.ts.epochMs| ≤ QUARTER_HOUR_MS

/-- The charge rises from the reading before. -/
def World.Swapped (world : World) (state : LiveBikeState) : Prop :=
  ∃ last, world.lastReading = some last ∧ Rises last state

/-- In double precision the charge rises from the reading before. -/
def World.ReadsSwap (world : World) (state : LiveBikeState) : Prop :=
  ∃ last, world.lastReading = some last ∧ ReadsRise last state

/-- A swap was detected within a quarter of an hour, by the clock of the telemetry. -/
def World.Cooling (world : World) (state : LiveBikeState) : Prop :=
  ∃ instant ∈ world.recorded, |state.ts.epochMs - instant| ≤ QUARTER_HOUR_MS

/-- A swap is recorded exactly with a rise between readings outside the cooldown, and swaps
are more than a quarter of an hour apart. -/
structure Specified (world : World) (action : Action fleetId bikeId) (next : World) : Prop where
  detected : ∀ state around own, action = .setLatestBikeState state around own →
    discards world.cell world.now state = false →
    (next.recorded = world.recorded ++ [state.ts.epochMs] ↔
      world.Swapped state ∧ ¬ world.Cooling state)
  apart : next.recorded.Pairwise fun earlier later => QUARTER_HOUR_MS < |later - earlier|

/-- The cached state carries the reading that a state is to be compared with. -/
def World.seesReading (world : World) (state : LiveBikeState) : Bool :=
  decide (state.bikeId ≠ "") && (read world.cell world.now).any fun cached =>
    decide (cached.ts.text ≠ "") && cached.batteryPct.isSome

/-- The swap of a rise is seen: the cached state carries a reading, and no swap of the bike,
whoever recorded it, lies in the last quarter of an hour of the server. -/
def World.sees (world : World) (state : LiveBikeState) : Bool :=
  world.seesReading state && !recentSwap world.swaps world.now state.bikeId

/-- With every rise between readings, the cache and the clock of the server tell what the
readings and their own clock do. A rise that is lost in double precision falls into the
cooldown, and one that exists only there is not seen. -/
structure Agrees (world : World) (state : LiveBikeState) : Prop where
  rises : world.Swapped state → world.ReadsSwap state →
    (world.sees state = true ↔ ¬ world.Cooling state)
  lost : world.Swapped state → ¬ world.ReadsSwap state → world.Cooling state
  gained : ¬ world.Swapped state → world.ReadsSwap state → world.sees state = false

/-- The detector agrees with what happened. -/
def Agreeing (world : World) (action : Action fleetId bikeId) (_next : World) : Prop :=
  ∀ state around own, action = .setLatestBikeState state around own →
    discards world.cell world.now state = false → Agrees world state

/-! One action -/

section Steps

variable {world : World} {state prevState nextState : LiveBikeState} {around : Surroundings}

/-- What was cached last with a charge is the last reading. -/
def Known (world : World) : Prop :=
  ∀ cached, read world.cell world.now = some cached → cached.batteryPct.isSome = true →
    world.lastReading = some cached

/-- The detector sees a jump exactly when the level has risen enough between two reports. -/
theorem jump_isSome_iff (prevState nextState : LiveBikeState) :
    (jump prevState nextState).isSome = true ↔
      (prevState.ts.text ≠ "" ∧ nextState.bikeId ≠ "") ∧ ReadsRise prevState nextState := by
  rw [jump, ReadsRise]
  by_cases unnamed : prevState.ts.text = "" ∨ nextState.bikeId = ""
  case pos =>
    rw [if_pos unnamed, ← not_or]
    exact iff_of_false (by simp) fun both => both.1 unnamed
  case neg =>
    rw [if_neg unnamed, ← not_or, and_iff_right unnamed]
    cases after : nextState.batteryPct with
    | none => exact iff_of_false (by simp) (by rintro ⟨_, _, _, absent, _⟩; cases absent)
    | some nextPct =>
      cases before : prevState.batteryPct with
      | none => exact iff_of_false (by simp) (by rintro ⟨_, _, absent, _⟩; cases absent)
      | some prevPct =>
        dsimp only
        constructor
        case mp =>
          intro given
          split at given
          case isTrue => cases given
          case isFalse large =>
            rw [not_or, not_lt, not_lt] at large
            exact ⟨prevPct, nextPct, rfl, rfl, large⟩
        case mpr =>
          rintro ⟨_, _, first, second, rise, near⟩
          obtain rfl := Option.some.inj first
          obtain rfl := Option.some.inj second
          rw [if_neg (not_or.mpr ⟨not_lt.mpr rise, not_lt.mpr near⟩)]
          rfl

/-- A detected swap has the time of its report. -/
theorem detected_ts {swaps : List BatterySwap} {now : Int} {prevState : Option LiveBikeState}
    {swap : BatterySwap}
    (detected : evaluateTelemetryForSwap around swaps now prevState state = some swap) :
    swap.ts = state.ts.epochMs := by
  unfold evaluateTelemetryForSwap at detected
  split at detected
  case h_1 => cases detected
  case h_2 =>
    split at detected
    case h_1 => cases detected
    case h_2 =>
      split at detected
      case isTrue => cases detected
      case isFalse =>
        rw [← Option.some.inj detected]
        rfl

/-- A swap is detected exactly where the cached state shows the rise between readings. -/
theorem detected_iff (known : Known world) (state : LiveBikeState) (around : Surroundings) :
    (evaluateTelemetryForSwap around world.swaps world.now (read world.cell world.now)
        state).isSome = true ↔
      world.sees state = true ∧ world.ReadsSwap state := by
  rw [World.sees, Bool.and_eq_true, Bool.not_eq_true', World.seesReading, Bool.and_eq_true,
    decide_eq_true_eq, World.ReadsSwap]
  cases found : read world.cell world.now with
  | none => exact iff_of_false (by simp [evaluateTelemetryForSwap]) (by simp)
  | some cached =>
    rw [evaluateTelemetryForSwap, Option.any_some, Bool.and_eq_true, decide_eq_true_eq]
    constructor
    case mp =>
      intro detected
      cases jumped : jump cached state with
      | none =>
        rw [jumped] at detected
        cases detected
      | some charges =>
        obtain ⟨⟨text, bike⟩, rises⟩ :=
          (jump_isSome_iff cached state).mp (Option.isSome_of_eq_some jumped)
        have carried : cached.batteryPct.isSome = true := by
          obtain ⟨before, _, charged, _⟩ := rises
          exact Option.isSome_of_eq_some charged
        rw [jumped] at detected
        dsimp only at detected
        split at detected
        case isTrue => cases detected
        case isFalse quiet =>
          exact ⟨⟨⟨bike, text, carried⟩, Bool.not_eq_true _ ▸ quiet⟩, cached,
            known cached found carried, rises⟩
    case mpr =>
      rintro ⟨⟨⟨bike, text, carried⟩, quiet⟩, last, lastReading, rises⟩
      obtain rfl := Option.some.inj ((known cached found carried).symm.trans lastReading)
      obtain ⟨charges, jumped⟩ :=
        Option.isSome_iff_exists.mp ((jump_isSome_iff cached state).mpr ⟨⟨text, bike⟩, rises⟩)
      rw [jumped]
      dsimp only
      rw [quiet]
      rfl

/-- The note of an accepted state tells whether a swap was detected. -/
theorem accept_recorded_iff (world : World) (state : LiveBikeState) (around : Surroundings) :
    (world.accept state around).recorded = world.recorded ++ [state.ts.epochMs] ↔
      (evaluateTelemetryForSwap around world.swaps world.now (read world.cell world.now)
        state).isSome = true := by
  rw [World.accept]
  dsimp only
  cases detected : evaluateTelemetryForSwap around world.swaps world.now
      (read world.cell world.now) state with
  | none => simp
  | some swap => simp [detected_ts detected]

/-- A report keeps the world known. -/
theorem known_accept (world : World) (state : LiveBikeState) (around : Surroundings)
    (accepted : discards world.cell world.now state = false) :
    Known (world.accept state around) := by
  intro cached found carried
  have alive : world.now < world.now + LIVE_STATE_TTL_SECONDS * 1000 := by
    rw [LIVE_STATE_TTL_SECONDS]
    omega
  have written : (world.accept state around).cell =
      write state world.now (LIVE_STATE_TTL_SECONDS * 1000) := by
    rcases setLatestBikeState_cases world.cell world.now state with
      ⟨existing, present, older, _⟩ | written
    case inl =>
      rw [discards, present, Option.any_some, older] at accepted
      cases accepted
    case inr => exact written
  have same : (world.accept state around).now = world.now := rfl
  rw [written, same, read_write_alive state alive] at found
  obtain rfl := Option.some.inj found
  rw [World.accept]
  dsimp only
  rw [if_pos carried]

/-- Every occurrence keeps the world known. -/
theorem known_occur (known : Known world) (action : Action fleetId bikeId) :
    Known (occur world action) := by
  cases action with
  | tick elapsed =>
    intro cached found
    exact known cached (read_alive_earlier (by dsimp only [occur]; omega) found)
  | setLatestBikeState state around own =>
    rw [occur]
    cases discarded : discards world.cell world.now state with
    | true => exact known
    | false => exact known_accept world state around discarded
  | createBatterySwap swap => exact known
  | deleteBatterySwap id => exact known

/-- The instants of the detected swaps are apart. -/
def Apart (world : World) : Prop :=
  world.recorded.Pairwise fun earlier later => QUARTER_HOUR_MS < |later - earlier|

/-- A recorded swap keeps the swaps apart. -/
theorem apart_accept (apart : Apart world) (state : LiveBikeState) (around : Surroundings)
    (recorded : (world.accept state around).recorded = world.recorded ++ [state.ts.epochMs] →
      ¬ world.Cooling state) : Apart (world.accept state around) := by
  have notes := accept_recorded_iff world state around
  rw [Apart]
  cases detected : evaluateTelemetryForSwap around world.swaps world.now
      (read world.cell world.now) state with
  | none =>
    have same : (world.accept state around).recorded = world.recorded := by
      rw [World.accept]
      simp [detected]
    rw [same]
    exact apart
  | some swap =>
    have added := notes.mpr (Option.isSome_of_eq_some detected)
    have warm := recorded added
    rw [added, List.pairwise_append]
    refine ⟨apart, List.pairwise_singleton _ _, ?_⟩
    intro instant member later last
    rw [List.mem_singleton.mp last]
    by_contra near
    exact warm ⟨instant, member, not_lt.mp near⟩

/-- The detector agrees exactly when it sees a swap where there was one. -/
theorem agrees_iff (world : World) (state : LiveBikeState) :
    Agrees world state ↔ (world.sees state = true ∧ world.ReadsSwap state ↔
      world.Swapped state ∧ ¬ world.Cooling state) := by
  have unseen := Bool.not_eq_true (world.sees state)
  by_cases swapped : world.Swapped state <;> by_cases reads : world.ReadsSwap state
  · rw [and_iff_left reads, and_iff_right swapped]
    exact ⟨fun agrees => agrees.rises swapped reads,
      fun same => ⟨fun _ _ => same, fun _ absent => absurd reads absent,
        fun absent => absurd swapped absent⟩⟩
  · rw [and_iff_right swapped]
    constructor
    · intro agrees
      exact iff_of_false (fun both => reads both.2) (not_not_intro (agrees.lost swapped reads))
    · intro same
      exact ⟨fun _ read => absurd read reads,
        fun _ _ => not_not.mp (mt same.mpr fun both => reads both.2),
        fun absent => absurd swapped absent⟩
  · rw [and_iff_left reads]
    constructor
    · intro agrees
      exact iff_of_false (unseen.mpr (agrees.gained swapped reads)) fun both => swapped both.1
    · intro same
      exact ⟨fun swap => absurd swap swapped, fun swap => absurd swap swapped,
        fun _ _ => unseen.mp (mt same.mp fun both => swapped both.1)⟩
  · exact iff_of_true
      ⟨fun swap => absurd swap swapped, fun swap => absurd swap swapped,
        fun _ read => absurd read reads⟩
      (iff_of_false (fun both => reads both.2) fun both => swapped both.1)

/-- An accepted state meets the specification exactly if cache and clock agree with it. -/
theorem specified_accept_iff (known : Known world) (apart : Apart world)
    (state : LiveBikeState) (around : Surroundings) :
    (((world.accept state around).recorded = world.recorded ++ [state.ts.epochMs] ↔
        world.Swapped state ∧ ¬ world.Cooling state) ∧ Apart (world.accept state around)) ↔
      Agrees world state := by
  have notes := (accept_recorded_iff world state around).trans (detected_iff known state around)
  rw [agrees_iff]
  constructor
  case mp =>
    rintro ⟨detected, _⟩
    exact notes.symm.trans detected
  case mpr =>
    intro agrees
    have detected := notes.trans agrees
    exact ⟨detected, apart_accept apart state around fun added => (detected.mp added).2⟩

/-- An occurrence is as specified exactly when the detector agrees. -/
theorem specified_iff (known : Known world) (apart : Apart world)
    (action : Action fleetId bikeId) :
    Specified world action (occur world action) ↔ Agreeing world action (occur world action) := by
  cases action with
  | tick elapsed =>
    exact iff_of_true ⟨fun _ _ _ other => (by cases other), apart⟩
      fun _ _ _ other => (by cases other)
  | createBatterySwap swap =>
    exact iff_of_true ⟨fun _ _ _ other => (by cases other), apart⟩
      fun _ _ _ other => (by cases other)
  | deleteBatterySwap id =>
    exact iff_of_true ⟨fun _ _ _ other => (by cases other), apart⟩
      fun _ _ _ other => (by cases other)
  | setLatestBikeState state around own =>
    cases discarded : discards world.cell world.now state with
    | true =>
      have same : occur world (.setLatestBikeState state around own) = world := by
        rw [occur, discarded, if_pos rfl]
      rw [same]
      constructor
      case mp =>
        rintro - other _ _ equal kept
        obtain ⟨rfl, rfl⟩ := Action.setLatestBikeState.inj equal
        rw [discarded] at kept
        cases kept
      case mpr =>
        intro _
        refine ⟨?_, apart⟩
        intro other _ _ equal kept
        obtain ⟨rfl, rfl⟩ := Action.setLatestBikeState.inj equal
        rw [discarded] at kept
        cases kept
    | false =>
      have same : occur world (.setLatestBikeState state around own) =
          world.accept state around := by
        rw [occur, discarded, if_neg Bool.false_ne_true]
      have exactly := specified_accept_iff known apart state around
      rw [same]
      constructor
      case mp =>
        rintro ⟨detected, spread⟩ other _ _ equal _
        obtain ⟨rfl, rfl⟩ := Action.setLatestBikeState.inj equal
        exact exactly.mp ⟨detected state around own rfl discarded, spread⟩
      case mpr =>
        intro agreeing
        obtain ⟨detected, spread⟩ := exactly.mpr (agreeing state around own rfl discarded)
        refine ⟨?_, spread⟩
        intro other _ _ equal _
        obtain ⟨rfl, rfl⟩ := Action.setLatestBikeState.inj equal
        exact detected

end Steps

/-- In every run of live states of a bike, swaps are detected as specified exactly if the
cache and the clock of the server agree with the readings wherever the charge rises, and
rounding does not decide about a rise. -/
theorem swaps_detected_iff (now : Int) (actions : List (Action fleetId bikeId)) :
    Along (total occur) Specified (newWorld now) actions ↔
      Along (total occur) Agreeing (newWorld now) actions := by
  refine along_iff_of_invariant (fun world => Known world ∧ Apart world) ?_ ?_ actions ?_
  case refine_1 =>
    rintro world action next ⟨known, apart⟩ moved
    obtain rfl := Option.some.inj moved
    exact specified_iff known apart action
  case refine_2 =>
    rintro world action next ⟨known, _⟩ specified moved
    obtain rfl := Option.some.inj moved
    exact ⟨known_occur known action, specified.apart⟩
  case refine_3 =>
    exact ⟨fun _ absent => (by cases absent), List.Pairwise.nil⟩

section Samples

/-- A live state of the bike. -/
def stateAt (text : String) (epochMs : Int) (batteryPct : Option ℚ) : LiveBikeState where
  fleetId := "fleet"
  bikeId := "bike"
  deviceId := "device"
  deviceUid := "tracker"
  ts := ⟨text, epochMs⟩
  lat := -2
  lng := 30
  speedKph := 0
  heading := none
  batteryV := none
  batteryPct := batteryPct
  ignition := none

/-- Surroundings without stations. -/
def noStations : Surroundings := ⟨"swap", [], some [], fun _ _ _ _ => 1⟩

/-- A reading of ten percent, a state without a reading, and ninety percent, all within
twenty seconds. -/
def interrupted : List (Action "fleet" "bike") :=
  [.setLatestBikeState (stateAt "2026-03-04T12:00:00.000Z" 1772625600000 (some 10))
      noStations ⟨rfl, rfl⟩,
    .setLatestBikeState (stateAt "2026-03-04T12:00:10.000Z" 1772625610000 none)
      noStations ⟨rfl, rfl⟩]

/-- The swap is missed, for the state without a reading is compared with. -/
theorem swap_missed :
    ¬ ∀ (now : Int) (actions : List (Action "fleet" "bike")),
      Along (total occur) Specified (newWorld now) actions := by
  intro claim
  have everywhere := claim 1772625620000 (interrupted ++ [.setLatestBikeState
    (stateAt "2026-03-04T12:00:20.000Z" 1772625620000 (some 90)) noStations ⟨rfl, rfl⟩])
  rw [along_total_append, along_total_cons] at everywhere
  have specified := everywhere.2.1.detected _ _ _ rfl (by decide +kernel)
  have recorded := specified.mpr
    ⟨⟨stateAt "2026-03-04T12:00:00.000Z" 1772625600000 (some 10), rfl, 10, 90, rfl, rfl,
      by norm_num, by decide +kernel⟩, by rintro ⟨_, member, _⟩; cases member⟩
  exact absurd recorded (by decide +kernel)

end Samples

end EmotoFleet.BatterySwapDetector
