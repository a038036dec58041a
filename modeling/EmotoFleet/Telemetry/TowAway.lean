import EmotoFleet.Foundations.Runs
import EmotoFleet.Telemetry.Ingestion
import Mathlib.Data.List.Chain
import Mathlib.Data.List.Induction

/-!
# Detection of a bike that is towed away

A bike towed with its ignition off sends packets whose speed exceeds the
movement threshold for longer than the confirmation time. The movement rule is
meant to raise a suspicion then. It sees the packets only through the drift
filter, however, and the filter erases the speed of every ignition-off packet as
soon as a position of the bike is cached.

Detection therefore depends on the cache. The main result says exactly when a
towed bike is detected, in terms of the states that the packets meet; a second
result shows that an ordinary run, whose positions are not zero, goes unnoticed
however long it lasts.
-/

namespace EmotoFleet.TowAway

open Expiring LiveState TheftRules Ingestion Runs

/-- A packet as a towed bike sends it: ignition off, faster than the threshold and
accepted by the drift check. -/
structure TowedPacket (packet : Packet) : Prop where
  ignitionOff : packet.payload.ignition = some false
  fast : packet.payload.speedKph > MOVEMENT_SPEED_THRESHOLD_KPH
  timely : Timely packet

/-- A run of such packets, processed one after another, stamped in order less than
three hundred seconds apart and spanning the confirmation time. -/
structure Towed (packets : List Packet) : Prop where
  each : ∀ packet ∈ packets, TowedPacket packet
  inTurn : packets.Pairwise fun earlier later => earlier.receivedAt ≤ later.receivedAt
  close : packets.IsChain fun earlier later =>
    earlier.payload.ts.epochMs ≤ later.payload.ts.epochMs ∧
      later.payload.ts.epochMs - earlier.payload.ts.epochMs < 300 * 1000
  spans : ∃ first ∈ packets.head?, ∃ last ∈ packets.getLast?,
    THEFT_MOVEMENT_SECONDS * 1000 ≤ last.payload.ts.epochMs - first.payload.ts.epochMs

/-- No movement is being followed and nothing has been raised yet. -/
structure Untracked (world : World) : Prop where
  unopened : world.theftKeys.movementStart = none
  inactive : world.theftKeys.movementActive = none
  silent : world.raised = []

/-- The movement rule has raised an event. -/
def Detected (world : World) : Prop := world.raised.any fromMovement = true

/-- The packet meets no cached position that the filter would substitute. -/
def Unfixed (world : World) (packet : Packet) : Prop :=
  cachedFix world.liveState packet.receivedAt = none

/-- No window of the movement rule is open when the packet arrives. -/
def Unopened (world : World) (packet : Packet) : Prop :=
  read world.theftKeys.movementStart packet.receivedAt = none

instance (world : World) (packet : Packet) : Decidable (Unfixed world packet) :=
  inferInstanceAs (Decidable (_ = _))

variable (geography : Geography) (device : DeviceForIngestion)

/-- The condition for detection. One packet opens a window and another one,
stamped at least twenty seconds later, arrives before the window lapses; both of
them and all packets between them meet no cached position. -/
def ConfirmedUnfixed (world : World) (packets : List Packet) : Prop :=
  ∃ before opener between confirming after,
    packets = before ++ (opener :: (between ++ [confirming])) ++ after ∧
      Unopened (receiveAll geography device world before) opener ∧
      Along (total (receive geography device)) (fun state packet _ => Unfixed state packet)
        (receiveAll geography device world before) (opener :: (between ++ [confirming])) ∧
      THEFT_MOVEMENT_SECONDS * 1000 ≤
        confirming.payload.ts.epochMs - opener.payload.ts.epochMs ∧
      confirming.receivedAt < opener.receivedAt + THEFT_EVENT_COOLDOWN_SECONDS * 1000

variable {device} {bikeId : String}

/-- The movement rule's part in processing one packet. -/
theorem receive_movement (world : World) {packet : Packet}
    (assigned : device.bikeId = some bikeId) (timely : Timely packet) :
    let alone := evaluateIgnitionOffMovementTheft device.ruleContext packet.receivedAt
      (filteredPayload geography device world packet) world.theftKeys
    let next := receive geography device world packet
    next.theftKeys.movementStart = alone.1.movementStart ∧
      next.theftKeys.movementActive = alone.1.movementActive ∧
      next.raised.any fromMovement = (world.raised.any fromMovement || alone.2.any fromMovement) := by
  obtain ⟨_, keys, raised⟩ := receive_timely geography device world packet bikeId assigned timely
  have same := evaluateTelemetry_movement geography.insideParkZone device.ruleContext
    packet.receivedAt (filteredPayload geography device world packet) world.theftKeys
  refine ⟨?_, ?_, ?_⟩
  · rw [keys]; exact same.start
  · rw [keys]; exact same.active
  · rw [raised, List.any_append, verdict, same.events]

/-- A towed bike's packet that meets no cached position keeps its speed. -/
theorem movement_of_unfixed {world : World} {packet : Packet} (towed : TowedPacket packet)
    (unfixed : Unfixed world packet) :
    movementDetected (filteredPayload geography device world packet) = true := by
  have kept : clampNoise packet.payload.speedKph = packet.payload.speedKph := by
    have fast := towed.fast
    have quick : ¬ packet.payload.speedKph < 2 := by
      simp only [MOVEMENT_SPEED_THRESHOLD_KPH] at fast
      linarith
    simp [clampNoise, quick]
  rw [filteredPayload_unfixed geography device world packet unfixed]
  simp only [movementDetected, kept, towed.ignitionOff, towed.fast]
  rfl

/-- One that meets a cached position appears to stand still. -/
theorem no_movement_of_fixed {world : World} {packet : Packet}
    (assigned : device.bikeId = some bikeId) (towed : TowedPacket packet)
    (fixed : ¬ Unfixed world packet) :
    movementDetected (filteredPayload geography device world packet) = false := by
  obtain ⟨cached, found⟩ := Option.ne_none_iff_exists'.mp fixed
  rw [filteredPayload_parked geography device world packet bikeId cached assigned found
    towed.ignitionOff]
  simp [movementDetected, MOVEMENT_SPEED_THRESHOLD_KPH]

section Step

variable {world : World} {packet : Packet} (assigned : device.bikeId = some bikeId)
  (towed : TowedPacket packet)
include assigned towed

/-- A packet that meets a cached position closes the window and raises nothing. -/
theorem step_fixed (fixed : ¬ Unfixed world packet) :
    let next := receive geography device world packet
    next.theftKeys.movementStart = none ∧ next.theftKeys.movementActive = none ∧
      (Detected next ↔ Detected world) := by
  obtain ⟨start, active, raised⟩ :=
    receive_movement geography world assigned towed.timely
  have still := movement_absent device.ruleContext packet.receivedAt
    (filteredPayload geography device world packet) world.theftKeys
    (no_movement_of_fixed geography assigned towed fixed)
  rw [still] at start active raised
  exact ⟨start, active, by simp [Detected, raised]⟩

/-- One that meets neither a cached position nor an open window opens the window. -/
theorem step_opens (unfixed : Unfixed world packet) (unopened : Unopened world packet) :
    let next := receive geography device world packet
    next.theftKeys.movementStart =
        write packet.payload.ts packet.receivedAt (THEFT_EVENT_COOLDOWN_SECONDS * 1000) ∧
      next.theftKeys.movementActive = world.theftKeys.movementActive ∧
      (Detected next ↔ Detected world) := by
  obtain ⟨start, active, raised⟩ :=
    receive_movement geography world assigned towed.timely
  have opened := movement_opens device.ruleContext packet.receivedAt
    (filteredPayload geography device world packet) world.theftKeys
    (movement_of_unfixed geography towed unfixed) unopened
  rw [opened] at start active raised
  exact ⟨start, active, by simp [Detected, raised]⟩

/-- One that meets an open window keeps it. Within twenty seconds of its opening
nothing else happens; later the rule raises an event unless its active key says
that it did already. -/
theorem step_continues (unfixed : Unfixed world packet) {opened : Timestamp}
    (inside : read world.theftKeys.movementStart packet.receivedAt = some opened) :
    let next := receive geography device world packet
    next.theftKeys.movementStart = world.theftKeys.movementStart ∧
      ((packet.payload.ts.epochMs - opened.epochMs < THEFT_MOVEMENT_SECONDS * 1000 ∧
          next.theftKeys.movementActive = world.theftKeys.movementActive ∧
          (Detected next ↔ Detected world)) ∨
        (THEFT_MOVEMENT_SECONDS * 1000 ≤ packet.payload.ts.epochMs - opened.epochMs ∧
          world.theftKeys.movementActive ≠ none ∧
          next.theftKeys.movementActive = world.theftKeys.movementActive ∧
          (Detected next ↔ Detected world)) ∨
        (THEFT_MOVEMENT_SECONDS * 1000 ≤ packet.payload.ts.epochMs - opened.epochMs ∧
          Detected next)) := by
  obtain ⟨start, active, raised⟩ :=
    receive_movement geography world assigned towed.timely
  obtain ⟨kept, outcome⟩ := movement_continues device.ruleContext packet.receivedAt
    (filteredPayload geography device world packet) world.theftKeys
    (movement_of_unfixed geography towed unfixed) opened inside
  refine ⟨start.trans kept, ?_⟩
  rcases outcome with ⟨short, held, nothing⟩ | ⟨long, busy, held, nothing⟩ | ⟨long, event⟩
  · exact Or.inl ⟨short, active.trans held, by simp [Detected, raised, nothing]⟩
  · have present : world.theftKeys.movementActive ≠ none := by
      intro absent
      exact busy (by rw [absent, read_none])
    exact Or.inr (Or.inl ⟨long, present, active.trans held, by simp [Detected, raised, nothing]⟩)
  · exact Or.inr (Or.inr ⟨long, by simp [Detected, raised, event]⟩)

/-- An event once raised stays raised. -/
theorem step_detected (detected : Detected world) :
    Detected (receive geography device world packet) := by
  obtain ⟨_, _, raised⟩ :=
    receive_movement geography world assigned towed.timely
  rw [Detected] at detected ⊢
  rw [raised, detected, Bool.true_or]

/-- The active key is only ever set together with an event. -/
theorem step_active (explained : world.theftKeys.movementActive ≠ none → Detected world) :
    let next := receive geography device world packet
    next.theftKeys.movementActive ≠ none → Detected next := by
  intro next active
  by_cases unfixed : Unfixed world packet
  · cases opened : read world.theftKeys.movementStart packet.receivedAt with
    | none =>
      obtain ⟨_, held, _⟩ := step_opens geography assigned towed unfixed opened
      exact step_detected geography assigned towed (explained (held ▸ active))
    | some start =>
      obtain ⟨_, outcome⟩ := step_continues geography assigned towed unfixed opened
      rcases outcome with ⟨_, held, _⟩ | ⟨_, _, held, _⟩ | ⟨_, detected⟩
      · exact step_detected geography assigned towed (explained (held ▸ active))
      · exact step_detected geography assigned towed (explained (held ▸ active))
      · exact detected
  · obtain ⟨_, cleared, _⟩ := step_fixed geography assigned towed unfixed
    exact absurd cleared active

end Step

section Run

variable (assigned : device.bikeId = some bikeId)
include assigned

theorem run_detected {world : World} {packets : List Packet}
    (towed : ∀ packet ∈ packets, TowedPacket packet) (detected : Detected world) :
    Detected (receiveAll geography device world packets) := by
  induction packets generalizing world with
  | nil => exact detected
  | cons packet rest inductionHypothesis =>
    exact inductionHypothesis (fun later member => towed later (List.mem_cons_of_mem _ member))
      (step_detected geography assigned (towed packet List.mem_cons_self) detected)

theorem run_active (world : World) (packets : List Packet)
    (towed : ∀ packet ∈ packets, TowedPacket packet)
    (explained : world.theftKeys.movementActive ≠ none → Detected world) :
    (receiveAll geography device world packets).theftKeys.movementActive ≠ none →
      Detected (receiveAll geography device world packets) := by
  induction packets generalizing world with
  | nil => exact explained
  | cons packet rest inductionHypothesis =>
    exact inductionHypothesis _ (fun later member => towed later (List.mem_cons_of_mem _ member))
      (step_active geography assigned (towed packet List.mem_cons_self) explained)

/-- Packets without a cached position that arrive while a window is open leave it
open. -/
theorem run_window {world : World} {packets : List Packet} {start : Entry Timestamp}
    (towed : ∀ packet ∈ packets, TowedPacket packet)
    (opened : world.theftKeys.movementStart = some start)
    (early : ∀ packet ∈ packets, packet.receivedAt < start.expiresAt)
    (unfixed : Along (total (receive geography device)) (fun state packet _ => Unfixed state packet)
      world packets) :
    (receiveAll geography device world packets).theftKeys.movementStart = some start := by
  induction packets generalizing world with
  | nil => exact opened
  | cons packet rest inductionHypothesis =>
    obtain ⟨here, onward⟩ := (along_total_cons _ _ _ _ _).mp unfixed
    have inside : read world.theftKeys.movementStart packet.receivedAt = some start.value :=
      (read_eq_some_iff _ _ _).mpr ⟨start, opened, early packet List.mem_cons_self, rfl⟩
    obtain ⟨kept, _⟩ := step_continues geography assigned
      (towed packet List.mem_cons_self) here inside
    exact inductionHypothesis (fun later member => towed later (List.mem_cons_of_mem _ member))
      (kept.trans opened) (fun later member => early later (List.mem_cons_of_mem _ member)) onward

/-- A confirmed run is detected. The opening packet's window stays open through
the packets between and the confirming packet finds it twenty seconds old; if the
active key keeps the rule from raising an event there, one was raised before. -/
theorem detected_of_confirmed {world : World} {packets : List Packet}
    (towed : ∀ packet ∈ packets, TowedPacket packet)
    (inTurn : packets.Pairwise fun earlier later => earlier.receivedAt ≤ later.receivedAt)
    (untracked : Untracked world)
    (confirmed : ConfirmedUnfixed geography device world packets) :
    Detected (receiveAll geography device world packets) := by
  obtain ⟨before, opener, between, confirming, after, rfl, unopened, unfixed, long, early⟩ :=
    confirmed
  have towedBefore : ∀ packet ∈ before, TowedPacket packet := fun packet member =>
    towed packet (by simp [member])
  have towedBetween : ∀ packet ∈ between, TowedPacket packet := fun packet member =>
    towed packet (by simp [member])
  have towedAfter : ∀ packet ∈ after, TowedPacket packet := fun packet member =>
    towed packet (by simp [member])
  have towedOpener : TowedPacket opener := towed opener (by simp)
  have towedConfirming : TowedPacket confirming := towed confirming (by simp)
  have arrivals : ∀ packet ∈ between, packet.receivedAt ≤ confirming.receivedAt := by
    intro packet member
    simp only [List.append_assoc, List.cons_append, List.pairwise_append,
      List.pairwise_cons] at inTurn
    exact inTurn.2.1.2.2.2 packet member confirming (by simp)
  obtain ⟨unfixedOpener, unfixedRest⟩ := (along_total_cons _ _ _ _ _).mp unfixed
  obtain ⟨unfixedBetween, unfixedLast⟩ := (along_total_append _ _ _ _ _).mp unfixedRest
  have unfixedConfirming := ((along_total_cons _ _ _ _ _).mp unfixedLast).1
  obtain ⟨opened, _, _⟩ := step_opens geography assigned towedOpener
    unfixedOpener unopened
  have window := run_window geography assigned towedBetween opened
    (fun packet member => lt_of_le_of_lt (arrivals packet member) early) unfixedBetween
  have explained := run_active geography assigned world (before ++ opener :: between)
    (by simpa [or_imp, forall_and] using ⟨towedBefore, towedOpener, towedBetween⟩)
    (fun active => absurd untracked.inactive active)
  have middle : receiveAll geography device world (before ++ opener :: between) =
      between.foldl (receive geography device)
        (receive geography device (receiveAll geography device world before) opener) := by
    simp [receiveAll]
  have inside : read (receiveAll geography device world
      (before ++ opener :: between)).theftKeys.movementStart confirming.receivedAt =
        some opener.payload.ts := by
    rw [middle]
    exact (read_eq_some_iff _ _ _).mpr ⟨_, window, early, rfl⟩
  have detected : Detected (receive geography device
      (receiveAll geography device world (before ++ opener :: between)) confirming) := by
    obtain ⟨_, outcome⟩ := step_continues geography assigned towedConfirming
      (by rw [middle]; exact unfixedConfirming) inside
    rcases outcome with ⟨short, _⟩ | ⟨_, active, _, _⟩ | ⟨_, detected⟩
    · omega
    · exact step_detected geography assigned towedConfirming (explained active)
    · exact detected
  have whole : receiveAll geography device world
      (before ++ (opener :: (between ++ [confirming])) ++ after) =
        receiveAll geography device (receive geography device
          (receiveAll geography device world (before ++ opener :: between)) confirming) after := by
    simp [receiveAll]
  rw [whole]
  exact run_detected geography assigned towedAfter detected

/-- An open window was opened by one of the packets, and no packet since then met
a cached position. The induction is on the run from its end. -/
theorem window_opened {world : World} {packets : List Packet} {start : Entry Timestamp}
    (towed : ∀ packet ∈ packets, TowedPacket packet) (untracked : Untracked world)
    (opened : (receiveAll geography device world packets).theftKeys.movementStart = some start) :
    ∃ before opener between, packets = before ++ opener :: between ∧
      Unopened (receiveAll geography device world before) opener ∧
      Along (total (receive geography device)) (fun state packet _ => Unfixed state packet)
        (receiveAll geography device world before) (opener :: between) ∧
      start = ⟨opener.payload.ts, opener.receivedAt + THEFT_EVENT_COOLDOWN_SECONDS * 1000⟩ := by
  induction packets using List.reverseRecOn generalizing start with
  | nil => simp [untracked.unopened] at opened
  | append_singleton earlier packet inductionHypothesis =>
    have towedLast : TowedPacket packet := towed packet (by simp)
    have last : receiveAll geography device world (earlier ++ [packet]) =
        receive geography device (receiveAll geography device world earlier) packet := by
      simp [receiveAll]
    rw [last] at opened
    by_cases unfixed : Unfixed (receiveAll geography device world earlier) packet
    · cases found : read (receiveAll geography device world earlier).theftKeys.movementStart
          packet.receivedAt with
      | none =>
        obtain ⟨written, _, _⟩ := step_opens geography assigned towedLast
          unfixed found
        refine ⟨earlier, packet, [], rfl, found, ?_, ?_⟩
        · simpa using unfixed
        · exact (Option.some.inj (written.symm.trans opened)).symm
      | some stamp =>
        obtain ⟨kept, _⟩ := step_continues geography assigned towedLast
          unfixed found
        obtain ⟨before, opener, between, rfl, unopened, along, same⟩ := inductionHypothesis
          (fun packet member => towed packet (by simp only [List.mem_append]; exact Or.inl member))
          (kept.symm.trans opened)
        refine ⟨before, opener, between ++ [packet], by simp, unopened, ?_, same⟩
        rw [← List.cons_append]
        refine (along_total_append _ _ _ _ _).mpr ⟨along, ?_⟩
        rw [receiveAll_append] at unfixed
        simpa [receiveAll] using unfixed
    · obtain ⟨closed, _, _⟩ := step_fixed geography assigned towedLast unfixed
      rw [closed] at opened
      exact absurd opened.symm (Option.some_ne_none start)

/-- A detected run is confirmed. The event was raised by a packet that found a
window open, and that window is the one of the condition. -/
theorem confirmed_of_detected {world : World} {packets : List Packet}
    (towed : ∀ packet ∈ packets, TowedPacket packet) (untracked : Untracked world)
    (detected : Detected (receiveAll geography device world packets)) :
    ConfirmedUnfixed geography device world packets := by
  induction packets using List.reverseRecOn with
  | nil => simp [Detected, untracked.silent] at detected
  | append_singleton earlier packet inductionHypothesis =>
    have towedEarlier : ∀ packet ∈ earlier, TowedPacket packet := fun packet member =>
      towed packet (by simp [member])
    have towedLast : TowedPacket packet := towed packet (by simp)
    have longer : Detected (receiveAll geography device world earlier) →
        ConfirmedUnfixed geography device world (earlier ++ [packet]) := by
      intro already
      obtain ⟨before, opener, between, confirming, after, rfl, rest⟩ :=
        inductionHypothesis towedEarlier already
      exact ⟨before, opener, between, confirming, after ++ [packet], by simp, rest⟩
    have last : receiveAll geography device world (earlier ++ [packet]) =
        receive geography device (receiveAll geography device world earlier) packet := by
      simp [receiveAll]
    rw [last] at detected
    by_cases unfixed : Unfixed (receiveAll geography device world earlier) packet
    · cases found : read (receiveAll geography device world earlier).theftKeys.movementStart
          packet.receivedAt with
      | none =>
        obtain ⟨_, _, same⟩ := step_opens geography assigned towedLast
          unfixed found
        exact longer (same.mp detected)
      | some stamp =>
        obtain ⟨_, outcome⟩ := step_continues geography assigned towedLast
          unfixed found
        rcases outcome with ⟨_, _, same⟩ | ⟨_, _, _, same⟩ | ⟨long, _⟩
        · exact longer (same.mp detected)
        · exact longer (same.mp detected)
        · obtain ⟨start, opened, early, rfl⟩ := (read_eq_some_iff _ _ _).mp found
          obtain ⟨before, opener, between, rfl, unopened, along, rfl⟩ :=
            window_opened geography assigned towedEarlier untracked opened
          refine ⟨before, opener, between, packet, [], by simp, unopened, ?_, long, early⟩
          rw [← List.cons_append]
          refine (along_total_append _ _ _ _ _).mpr ⟨along, ?_⟩
          rw [receiveAll_append] at unfixed
          simpa [receiveAll] using unfixed
    · obtain ⟨_, _, same⟩ := step_fixed geography assigned towedLast unfixed
      exact longer (same.mp detected)

end Run

/-- A packet whose coordinates do not round to zero. -/
def Located (packet : Packet) : Prop :=
  roundCoordinate packet.payload.lat ≠ 0 ∧ roundCoordinate packet.payload.lng ≠ 0

/-- A cached position that a packet does not meet is not met later either. -/
theorem cachedFix_later {cell : Cell LiveBikeState} {now later : Int} (ordered : now ≤ later)
    (unfixed : cachedFix cell now = none) : cachedFix cell later = none := by
  cases found : read cell later with
  | none => simp [cachedFix, found]
  | some state =>
    have earlier := read_alive_earlier ordered found
    simpa [cachedFix, found, earlier] using unfixed

/-- A packet that meets no cached position and brings none leaves none. -/
theorem unfixed_after {world : World} {packet later : Packet}
    (assigned : device.bikeId = some bikeId) (timely : Timely packet)
    (ordered : packet.receivedAt ≤ later.receivedAt) (unfixed : Unfixed world packet)
    (unlocated : ¬ Located packet) : Unfixed (receive geography device world packet) later := by
  obtain ⟨cached, _, _⟩ := receive_timely geography device world packet bikeId assigned timely
  refine cachedFix_later ordered ?_
  rw [cached]
  rcases setLatestBikeState_cases world.liveState packet.receivedAt
    (buildLiveBikeState device bikeId (filteredPayload geography device world packet)) with
    ⟨_, _, _, kept⟩ | written
  · rw [kept]; exact unfixed
  · have away : ∀ entry, read (write (buildLiveBikeState device bikeId
        (filteredPayload geography device world packet)) packet.receivedAt
        (LIVE_STATE_TTL_SECONDS * 1000)) packet.receivedAt = some entry →
          hasPosition entry = false := by
      intro entry found
      rw [read_write_alive _ (by norm_num [LIVE_STATE_TTL_SECONDS])] at found
      obtain rfl := Option.some.inj found
      rw [filteredPayload_unfixed geography device world packet unfixed]
      by_contra present
      exact unlocated (by simpa [hasPosition, Located, buildLiveBikeState] using present)
    rw [written]
    simpa [Unfixed, cachedFix, Option.filter_eq_none_iff] using away

/-- Packets without a position never meet a cached one, once the first does not. -/
theorem unfixed_along (world : World) {packets : List Packet}
    (assigned : device.bikeId = some bikeId) (timely : ∀ packet ∈ packets, Timely packet)
    (inTurn : packets.Pairwise fun earlier later => earlier.receivedAt ≤ later.receivedAt)
    (unlocated : ∀ packet ∈ packets, ¬ Located packet)
    (initially : ∀ first ∈ packets.head?, Unfixed world first) :
    Along (total (receive geography device)) (fun state packet _ => Unfixed state packet)
      world packets := by
  induction packets generalizing world with
  | nil => trivial
  | cons packet rest inductionHypothesis =>
    have here : Unfixed world packet := initially packet rfl
    refine (along_total_cons _ _ _ _ _).mpr ⟨here, inductionHypothesis _
      (fun later member => timely later (List.mem_cons_of_mem _ member))
      (List.pairwise_cons.mp inTurn).2
      (fun later member => unlocated later (List.mem_cons_of_mem _ member)) ?_⟩
    intro next first
    have member : next ∈ rest := List.mem_of_mem_head? first
    exact unfixed_after geography assigned (timely packet List.mem_cons_self)
      ((List.pairwise_cons.mp inTurn).1 next member) here (unlocated packet List.mem_cons_self)

/-- Consecutive packets less than an hour apart whose stamps are in order keep the
cached state fresh. -/
def Refreshing (earlier later : Packet) : Prop :=
  later.receivedAt < earlier.receivedAt + LIVE_STATE_TTL_SECONDS * 1000 ∧
    localeCompare earlier.payload.ts.text later.payload.ts.text ≠ .gt

/-- The cache holds a usable position that the given packet stored. -/
def CachedBy (packet : Packet) (world : World) : Prop :=
  ∃ state, world.liveState = write state packet.receivedAt (LIVE_STATE_TTL_SECONDS * 1000) ∧
    hasPosition state = true ∧ state.ts = packet.payload.ts

/-- The first located packet caches its position. -/
theorem cached_first {world : World} {packet : Packet} (assigned : device.bikeId = some bikeId)
    (timely : Timely packet) (uncached : world.liveState = none) (located : Located packet) :
    CachedBy packet (receive geography device world packet) := by
  obtain ⟨cached, _, _⟩ := receive_timely geography device world packet bikeId assigned timely
  have unfixed : cachedFix world.liveState packet.receivedAt = none := by
    simp [uncached, cachedFix]
  refine ⟨buildLiveBikeState device bikeId (filteredPayload geography device world packet),
    ?_, ?_, rfl⟩
  · rw [cached, uncached]; rfl
  · rw [filteredPayload_unfixed geography device world packet unfixed]
    simpa [hasPosition, buildLiveBikeState, Located] using located

/-- A later packet meets the position cached by the one before it. -/
theorem fixed_next {world : World} {earlier packet : Packet} (cached : CachedBy earlier world)
    (refreshing : Refreshing earlier packet) : ¬ Unfixed world packet := by
  obtain ⟨state, held, usable, _⟩ := cached
  simp [Unfixed, cachedFix, held, read_write_alive _ refreshing.1, Option.filter, usable]

/-- It stores that position again under its own stamp. -/
theorem cached_next {world : World} {earlier packet : Packet}
    (assigned : device.bikeId = some bikeId) (towed : TowedPacket packet)
    (cached : CachedBy earlier world) (refreshing : Refreshing earlier packet) :
    CachedBy packet (receive geography device world packet) := by
  obtain ⟨after, _, _⟩ :=
    receive_timely geography device world packet bikeId assigned towed.timely
  obtain ⟨state, held, usable, stamped⟩ := cached
  have found : read world.liveState packet.receivedAt = some state := by
    rw [held, read_write_alive _ refreshing.1]
  have fixed : cachedFix world.liveState packet.receivedAt = some state := by
    simp [cachedFix, found, Option.filter, usable]
  refine ⟨buildLiveBikeState device bikeId (filteredPayload geography device world packet),
    ?_, ?_, rfl⟩
  · rw [after]
    rcases setLatestBikeState_cases world.liveState packet.receivedAt
      (buildLiveBikeState device bikeId (filteredPayload geography device world packet)) with
      ⟨existing, present, newer, _⟩ | written
    · obtain rfl := Option.some.inj (found.symm.trans present)
      rw [stamped] at newer
      exact absurd newer refreshing.2
    · exact written
  · rw [filteredPayload_parked geography device world packet bikeId state assigned fixed
      towed.ignitionOff]
    simpa [hasPosition, buildLiveBikeState] using usable

/-- A run of located packets is never detected. The first packet caches the
position that hides all later ones; the induction is on the run from its end. -/
theorem located_run {world : World} {packets : List Packet}
    (assigned : device.bikeId = some bikeId) (towed : ∀ packet ∈ packets, TowedPacket packet)
    (untracked : Untracked world) (uncached : world.liveState = none)
    (located : ∀ packet ∈ packets, Located packet) (refreshing : packets.IsChain Refreshing) :
    ¬ Detected (receiveAll geography device world packets) ∧
      ∀ last ∈ packets.getLast?, CachedBy last (receiveAll geography device world packets) := by
  induction packets using List.reverseRecOn with
  | nil => exact ⟨by simp [Detected, untracked.silent], by simp⟩
  | append_singleton earlier packet inductionHypothesis =>
    have towedLast : TowedPacket packet := towed packet (by simp)
    have last : receiveAll geography device world (earlier ++ [packet]) =
        receive geography device (receiveAll geography device world earlier) packet := by
      simp [receiveAll]
    obtain ⟨silent, cached⟩ := inductionHypothesis
      (fun packet member => towed packet (by simp [member]))
      (fun packet member => located packet (by simp [member]))
      (List.isChain_append.mp refreshing).1
    rw [last]
    cases previous : earlier.getLast? with
    | none =>
      have empty : earlier = [] := List.getLast?_eq_none_iff.mp previous
      subst empty
      have unfixed : Unfixed world packet := by simp [Unfixed, uncached, cachedFix]
      have unopened : Unopened world packet := by simp [Unopened, untracked.unopened]
      obtain ⟨_, _, same⟩ := step_opens geography assigned towedLast unfixed unopened
      refine ⟨fun detected => silent (same.mp detected), ?_⟩
      simpa using cached_first geography assigned towedLast.timely uncached (located packet (by simp))
    | some before =>
      have next : Refreshing before packet :=
        (List.isChain_append.mp refreshing).2.2 before previous packet rfl
      have present := cached before previous
      obtain ⟨_, _, same⟩ := step_fixed geography assigned towedLast
        (fixed_next present next)
      refine ⟨fun detected => silent (same.mp detected), ?_⟩
      simpa using cached_next geography assigned towedLast present next

/-- The exact condition for detection. From a state in which no movement is being
followed, a towed bike is detected if and only if one of its packets opens a
window and another, stamped twenty seconds later, arrives before the window
lapses, with no cached position met by either or by any packet between. -/
theorem towed_detected_iff (geography : Geography) (device : DeviceForIngestion)
    (world : World) (packets : List Packet) (assigned : device.bikeId ≠ none)
    (towed : Towed packets) (untracked : Untracked world) :
    Detected (receiveAll geography device world packets) ↔
      ConfirmedUnfixed geography device world packets := by
  obtain ⟨bikeId, assigned⟩ := Option.ne_none_iff_exists'.mp assigned
  constructor
  · exact confirmed_of_detected geography assigned towed.each untracked
  · exact detected_of_confirmed geography assigned towed.each towed.inTurn untracked

/-- A device on a bike, as the following runs use it. -/
def trackedBike : DeviceForIngestion := ⟨"device-1", "fleet-1", some "bike-1", "8600000001"⟩

/-- A world in which nothing is cached. -/
def freshWorld : World := ⟨none, ⟨none, none, none, none⟩, [], none, []⟩

/-- A geography for runs that stay in one place and outside all park zones. -/
def onePlace : Geography := ⟨fun _ _ _ _ => 0, fun _ _ => false⟩

def towingPacket (text : String) (epochMs : Int) (lat lng : ℚ) : Packet :=
  ⟨epochMs, ⟨⟨text, epochMs⟩, lat, lng, 25, none, none, none, some false, none⟩⟩

/-- Half a minute of ignition-off movement at twenty-five kilometres an hour, as
reported by a tracker whose position does not change. -/
def towingRun (lat lng : ℚ) : List Packet :=
  [towingPacket "2026-03-02T08:00:00Z" 1772438400000 lat lng,
   towingPacket "2026-03-02T08:00:10Z" 1772438410000 lat lng,
   towingPacket "2026-03-02T08:00:30Z" 1772438430000 lat lng]

theorem towingRun_towed (lat lng : ℚ) : Towed (towingRun lat lng) where
  each := by
    intro packet member
    simp only [towingRun, List.mem_cons, List.not_mem_nil, or_false] at member
    rcases member with rfl | rfl | rfl <;>
      exact ⟨rfl, by norm_num [towingPacket, MOVEMENT_SPEED_THRESHOLD_KPH],
        by norm_num [Timely, towingPacket, MQTT_MAX_TIMESTAMP_DRIFT_MS]⟩
  inTurn := by simp [towingRun, towingPacket]
  close := by simp [towingRun, towingPacket]
  spans := by simp [towingRun, towingPacket, THEFT_MOVEMENT_SECONDS]

theorem freshWorld_untracked : Untracked freshWorld := ⟨rfl, rfl, rfl⟩

/-- A tracker without a satellite fix reports zero coordinates, and its towing is
detected. -/
theorem towed_without_fix_detected :
    Detected (receiveAll onePlace trackedBike freshWorld (towingRun 0 0)) := by
  have towed := towingRun_towed 0 0
  refine (towed_detected_iff onePlace trackedBike freshWorld (towingRun 0 0) (by decide)
    towed freshWorld_untracked).mpr ?_
  have unlocated : ∀ packet ∈ towingRun 0 0, ¬ Located packet := by
    intro packet member
    simp only [towingRun, List.mem_cons, List.not_mem_nil, or_false] at member
    rcases member with rfl | rfl | rfl <;> norm_num [Located, roundCoordinate, towingPacket]
  have assigned : trackedBike.bikeId = some "bike-1" := rfl
  have unfixed := unfixed_along onePlace freshWorld assigned
    (fun packet member => (towed.each packet member).timely)
    towed.inTurn unlocated (fun _ _ => rfl)
  exact ⟨[], _, [_], _, [], rfl, rfl, unfixed, by norm_num [towingPacket, THEFT_MOVEMENT_SECONDS],
    by norm_num [towingPacket, THEFT_EVENT_COOLDOWN_SECONDS]⟩

/-- The same movement reported from Kigali goes unnoticed, although nothing was
cached before. -/
theorem towed_in_kigali_undetected :
    ¬ ∀ (device : DeviceForIngestion) (world : World) (packets : List Packet),
      device.bikeId ≠ none → Towed packets → Untracked world →
        Detected (receiveAll onePlace device world packets) := by
  intro always
  have nonzero : roundCoordinate (-1.95) ≠ 0 ∧ roundCoordinate 30.06 ≠ 0 := by decide +kernel
  have located : ∀ packet ∈ towingRun (-1.95) 30.06, Located packet := by
    intro packet member
    simp only [towingRun, List.mem_cons, List.not_mem_nil, or_false] at member
    rcases member with rfl | rfl | rfl <;> exact nonzero
  have refreshing : (towingRun (-1.95) 30.06).IsChain Refreshing := by
    simp only [towingRun, List.isChain_cons_cons, List.IsChain.singleton, and_true]
    refine ⟨⟨?_, ?_⟩, ?_, ?_⟩ <;>
      first | (norm_num [towingPacket, LIVE_STATE_TTL_SECONDS]; done) | decide
  have towed := towingRun_towed (-1.95) 30.06
  have assigned : trackedBike.bikeId = some "bike-1" := rfl
  have undetected := (located_run onePlace assigned towed.each freshWorld_untracked rfl located refreshing).1
  exact undetected (always trackedBike freshWorld _ (by decide) towed freshWorld_untracked)

end EmotoFleet.TowAway
