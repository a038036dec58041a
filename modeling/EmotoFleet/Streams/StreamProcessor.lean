import EmotoFleet.Foundations.Runs
import EmotoFleet.Webhooks.WebhookDispatcher

/-!
# The stream processor

The processor reads entries of the telemetry stream as a member of a consumer group. For a
report it writes an enriched record and then a score to two other streams, for an alarm a
record to the outbox of webhooks, and at last it acknowledges the entry. When it starts it
claims what earlier consumers left pending, once and up to fifty entries that have been idle
for a minute; from then on it only reads what is new.

Each of its waits for the streams may fail, with or without having taken effect, and the
process may stop at any point. An entry that it leaves without an acknowledgement stays
pending for as long as the process runs. What trimming removes from the streams is left out.
-/

namespace EmotoFleet.StreamProcessor

open Accounts (given)
open ConsumerGroups Runs Tables
open WebhookDispatcher (fieldOf)

/-- The number that a text denotes for the language, if it is finite. -/
structure Settings where
  parseNumber : String → Option ℚ

/-- A row of enriched telemetry. -/
structure EnrichedRecord where
  sourceEntryId : Nat
  deviceId : String
  fleetId : String
  bikeId : String
  ts : String
  speedKph : String
  speedBand : String

/-- A row with what a packet takes off the score. -/
structure ScoreRecord where
  sourceEntryId : Nat
  deviceId : String
  fleetId : String
  bikeId : String
  ts : String
  scoreDelta : String

/-- A row of an alarm that is handed on. -/
structure WebhookRecord where
  sourceEntryId : Nat
  fleetId : String
  bikeId : String
  deviceId : String
  ts : String
  type : String
  severity : String
  metaJson : String

/-- Where the work on an entry stands. -/
inductive Stage where
  | started
  | enriched
  | scored
  | forwarded
  deriving DecidableEq

/-- What the processor waits for. -/
inductive Await where
  | writeEnriched
  | writeScore
  | writeWebhook
  | acknowledge
  deriving DecidableEq

/-- The entries in hand are worked off from the first on; the stage is that of the first.
`deliveredAt` keeps when an entry was last handed to a consumer. -/
structure World where
  now : Int
  group : ConsumerGroup (List String)
  deliveredAt : Nat → Int
  running : Bool
  reclaimed : Bool
  batch : List (List String × Nat)
  stage : Stage
  enriched : List EnrichedRecord
  scores : List ScoreRecord
  webhooks : List WebhookRecord

/-- What happens to the processor and around it. -/
inductive Action where
  | wait (duration : Nat)
  | append (fields : List String)
  | reclaim
  | reclaimFails (claimed : Bool)
  | read
  | readFails (handedOut : Bool)
  | proceed (now : String)
  | fail (done : Bool) (now : String)
  | stop
  deriving DecidableEq

/-- How many entries are read at once. -/
def readCount : Nat := 50

/-- One minute, in milliseconds. -/
def minIdleMs : Int := 60000

/-- How many entries are reclaimed at once. -/
def reclaimCount : Nat := 50

/-- How many pending entries are looked at for each one that may be claimed. -/
def scanFactor : Nat := 10

/-! ## What is written -/

section Records

variable (settings : Settings) (fields : List String)

/-- The kind of an entry, telemetry unless it says another. -/
def kindOf : String := (fieldOf fields "kind").getD "telemetry"

/-- Whether an entry has a packet of a tracker. -/
def isTelemetry : Bool := kindOf fields == "telemetry"

/-- Whether an entry has an event that is handed on. -/
def isAlarm : Bool :=
  kindOf fields == "event" &&
    ["CRASH", "SOS", "THEFT_SUSPECTED"].contains ((fieldOf fields "type").getD "")

/-- The number in a field, if it has one. -/
def asNumber (value : Option String) : Option ℚ := (given value).bind settings.parseNumber

/-- The name of the range that a speed is in. -/
def computeSpeedBand : Option ℚ → String
  | none => "unknown"
  | some speedKph =>
    if speedKph < 5 then "idle"
    else if speedKph < 30 then "low"
    else if speedKph < 60 then "medium"
    else "high"

/-- What a speed takes off the score. -/
def penalty : Option ℚ → Int
  | none => 0
  | some speedKph => if 80 ≤ speedKph then 3 else if 60 ≤ speedKph then 2 else if 40 ≤ speedKph then 1 else 0

/-- The row that enriched telemetry is written as. -/
def enrichedRecord (entryId : Nat) (now : String) : EnrichedRecord where
  sourceEntryId := entryId
  deviceId := (fieldOf fields "deviceId").getD ""
  fleetId := (fieldOf fields "fleetId").getD ""
  bikeId := (fieldOf fields "bikeId").getD ""
  ts := (fieldOf fields "ts").getD now
  speedKph := (fieldOf fields "speedKph").getD ""
  speedBand := computeSpeedBand (asNumber settings (fieldOf fields "speedKph"))

/-- The row that a score is written as. -/
def scoreRecord (entryId : Nat) (now : String) : ScoreRecord where
  sourceEntryId := entryId
  deviceId := (fieldOf fields "deviceId").getD ""
  fleetId := (fieldOf fields "fleetId").getD ""
  bikeId := (fieldOf fields "bikeId").getD ""
  ts := (fieldOf fields "ts").getD now
  scoreDelta := toString (-penalty (asNumber settings (fieldOf fields "speedKph")))

/-- The text of an object without keys. -/
def emptyObject : String := String.ofList ['{', '}']

/-- The row that an alarm is written as. -/
def webhookRecord (entryId : Nat) (now : String) : WebhookRecord where
  sourceEntryId := entryId
  fleetId := (fieldOf fields "fleetId").getD ""
  bikeId := (fieldOf fields "bikeId").getD ""
  deviceId := (fieldOf fields "deviceId").getD ""
  ts := (fieldOf fields "ts").getD now
  type := (fieldOf fields "type").getD ""
  severity := (fieldOf fields "severity").getD ""
  metaJson := (fieldOf fields "metaJson").getD emptyObject

end Records

/-! ## Steps -/

section Processing

variable (settings : Settings)

/-- The access that the work on an entry waits for next. -/
def nextAwait (fields : List String) : Stage → Await
  | .started =>
    if isTelemetry fields then .writeEnriched
    else if isAlarm fields then .writeWebhook
    else .acknowledge
  | .enriched => .writeScore
  | .scored | .forwarded => .acknowledge

/-- What a wait takes effect on. -/
def perform (world : World) (fields : List String) (entryId : Nat) (now : String) : Await → World
  | .writeEnriched =>
    { world with enriched := world.enriched ++ [enrichedRecord settings fields entryId now] }
  | .writeScore => { world with scores := world.scores ++ [scoreRecord settings fields entryId now] }
  | .writeWebhook => { world with webhooks := world.webhooks ++ [webhookRecord fields entryId now] }
  | .acknowledge => { world with group := world.group.acknowledge entryId }

/-- Where the work goes on; nowhere when the entry is done. -/
def resume : Await → Option Stage
  | .writeEnriched => some .enriched
  | .writeScore => some .scored
  | .writeWebhook => some .forwarded
  | .acknowledge => none

/-- The work on an entry ends, and that on the next one begins. -/
def leave (world : World) (rest : List (List String × Nat)) : World :=
  { world with batch := rest, stage := .started }

/-- Entries are handed to the processor. -/
def deliver (world : World) (entries : List (List String × Nat)) : World :=
  { world with
    deliveredAt := fun place =>
      if place ∈ places entries then world.now else world.deliveredAt place }

/-- Fresh entries are handed to the processor. -/
def readGroup (world : World) : World :=
  { deliver world (world.group.fresh readCount) with group := world.group.read readCount }

/-- The pending entries that are claimed at the start. -/
def claimable (world : World) : List (List String × Nat) :=
  ((world.group.pending.take (scanFactor * reclaimCount)).filter fun entry =>
    decide (minIdleMs ≤ world.now - world.deliveredAt entry.2)).take reclaimCount

/-- One step, if it is possible. -/
def step (world : World) : Action → Option World
  | .wait duration => some { world with now := world.now + duration }
  | .append fields => some { world with group := world.group.append fields }
  | .reclaim =>
    if world.running && !world.reclaimed then
      some (leave { deliver world (claimable world) with reclaimed := true } (claimable world))
    else none
  | .reclaimFails claimed =>
    if world.running && !world.reclaimed then
      some { (if claimed then deliver world (claimable world) else world) with reclaimed := true }
    else none
  | .read =>
    if world.running && world.reclaimed && world.batch.isEmpty then
      some (leave (readGroup world) (world.group.fresh readCount))
    else none
  | .readFails handedOut =>
    if world.running && world.reclaimed && world.batch.isEmpty then
      some { (if handedOut then readGroup world else world) with running := false }
    else none
  | .proceed now =>
    match world.batch with
    | [] => none
    | (fields, entryId) :: rest =>
      let await := nextAwait fields world.stage
      match resume await with
      | some stage => some { perform settings world fields entryId now await with stage }
      | none => some (leave (perform settings world fields entryId now await) rest)
  | .fail done now =>
    match world.batch with
    | [] => none
    | (fields, entryId) :: rest =>
      let await := nextAwait fields world.stage
      some (leave (if done then perform settings world fields entryId now await else world) rest)
  | .stop => if world.running then some { leave world [] with running := false } else none

end Processing

/-! ## Property and condition -/

/-- The claim of the start is over, there is nothing new to read, and nothing is in hand. -/
structure Drained (world : World) : Prop where
  reclaimed : world.reclaimed = true
  idle : world.batch = []
  drained : world.group.cursor = world.group.log.length

/-- The two kinds of rows that telemetry leads to. -/
inductive Output where
  | enriched
  | score
  deriving DecidableEq

/-- The entries that one of the two streams has records of. -/
def recorded (world : World) : Output → List Nat
  | .enriched => world.enriched.map (·.sourceEntryId)
  | .score => world.scores.map (·.sourceEntryId)

/-- No entry that was read is pending, and each report has one record in either stream. -/
structure ExactlyOnce (world : World) : Prop where
  nonePending : world.group.pending = []
  contributed : ∀ entry ∈ world.group.delivered, ∀ output,
    (recorded world output).count entry.2 = (isTelemetry entry.1).toNat

/-- Before the start: some entries were read, and only they have records. -/
structure LeftBehind (world : World) : Prop where
  valid : Valid world.group []
  reclaimed : world.reclaimed = false
  idle : world.batch = []
  known : ∀ output, ∀ place ∈ recorded world output, place < world.group.cursor

/-- The earlier consumers wrote nothing for an entry that they left pending, and one record
in either stream for each other report. -/
def CleanlyLeft (world : World) : Prop :=
  ∀ entry ∈ world.group.delivered, ∀ output, (recorded world output).count entry.2 =
    (isTelemetry entry.1 && decide (entry.2 ∈ world.group.acked)).toNat

/-- At the start no more than fifty entries are pending, all of them for at least a minute,
and the claim succeeds unless there are none. No failure hits an entry in hand: a read whose
answer is lost handed nothing out, a wait fails only after an acknowledgement took effect,
and the process stops with nothing in hand. -/
def Undisturbed (world : World) : Action → Prop
  | .reclaim => world.group.pending.length ≤ reclaimCount ∧
      ∀ entry ∈ world.group.pending, minIdleMs ≤ world.now - world.deliveredAt entry.2
  | .reclaimFails _ => world.group.pending = []
  | .readFails handedOut => handedOut = true → world.group.fresh readCount = []
  | .fail done _ => done = true ∧
      world.batch.head?.any (fun entry => nextAwait entry.1 world.stage == .acknowledge) = true
  | .stop => world.batch = []
  | .wait _ | .append _ | .read | .proceed _ => True

/-! ## Accounts -/

section Accounts

/-- The entry, if it is a report. -/
def due (entry : List String × Nat) : List Nat := if isTelemetry entry.1 then [entry.2] else []

/-- What remains to be recorded of an entry at some stage. -/
def remaining (entry : List String × Nat) : Output → Stage → List Nat
  | _, .started => due entry
  | .score, .enriched => [entry.2]
  | .enriched, .enriched | _, .scored | _, .forwarded => []

/-- What the entries in hand are going to be recorded as; before the claim of the start all
pending ones count as in hand. -/
def outstanding (world : World) (output : Output) : List Nat :=
  if world.reclaimed then
    match world.batch with
    | [] => []
    | entry :: rest => remaining entry output world.stage ++ rest.flatMap due
  else world.group.pending.flatMap due

/-- What is recorded and what is going to be is what the entries that were read are due. -/
def Balanced (world : World) : Prop :=
  ∀ output place, (recorded world output).count place + (outstanding world output).count place =
    (world.group.delivered.flatMap due).count place

/-- Nothing is lost, and the records balance. -/
structure Whole (world : World) : Prop where
  kept : world.reclaimed = true → Kept world.group world.batch
  balanced : Balanced world

/-- What holds in every run. -/
structure Sound (world : World) : Prop where
  valid : Valid world.group world.batch
  unclaimed : world.reclaimed = false → world.batch = []
  known : ∀ output, ∀ place ∈ recorded world output, place < world.group.cursor

variable {world next : World}

/-- A processor that starts on what others have left is sound. -/
theorem LeftBehind.sound (left : LeftBehind world) : Sound world := by
  refine ⟨?_, fun _ => left.idle, left.known⟩
  rw [left.idle]
  exact left.valid

/-- Who works on a batch has reclaimed before. -/
theorem Sound.reclaimed (sound : Sound world) {entry : List String × Nat}
    {rest : List (List String × Nat)} (working : world.batch = entry :: rest) :
    world.reclaimed = true := by
  cases claimed : world.reclaimed with
  | true => rfl
  | false => cases working.symm.trans (sound.unclaimed claimed)

/-- Without a batch nothing is outstanding. -/
theorem outstanding_idle (reclaimed : world.reclaimed = true) (idle : world.batch = [])
    (output : Output) : outstanding world output = [] := by
  rw [outstanding, if_pos reclaimed, idle]

/-- In the middle of a batch, what is left of the entry and the later ones is outstanding. -/
theorem outstanding_working (reclaimed : world.reclaimed = true) {entry : List String × Nat}
    {rest : List (List String × Nat)} (working : world.batch = entry :: rest) (output : Output) :
    outstanding world output = remaining entry output world.stage ++ rest.flatMap due := by
  rw [outstanding, if_pos reclaimed, working]

/-- A fresh batch is outstanding as a whole. -/
theorem outstanding_leave (reclaimed : world.reclaimed = true) (rest : List (List String × Nat))
    (output : Output) : outstanding (leave world rest) output = rest.flatMap due := by
  cases rest with
  | nil => exact @outstanding_idle (leave world []) reclaimed rfl output
  | cons entry others =>
    exact @outstanding_working (leave world (entry :: others)) reclaimed _ _ rfl output

/-- Steps that keep the records, what is outstanding and what was read keep the balance. -/
theorem balanced_congr
    (sums : ∀ output place,
      (recorded next output).count place + (outstanding next output).count place +
          (world.group.delivered.flatMap due).count place =
        (recorded world output).count place + (outstanding world output).count place +
          (next.group.delivered.flatMap due).count place) :
    Balanced next ↔ Balanced world := by
  apply forall₂_congr
  intro output place
  have sum := sums output place
  omega

/-- Which wait comes next, and what remains to be recorded before it. -/
theorem nextAwait_cases (entry : List String × Nat) (stage : Stage) :
    (nextAwait entry.1 stage = .writeEnriched ∧ stage = .started ∧ due entry = [entry.2]) ∨
      (nextAwait entry.1 stage = .writeScore ∧ stage = .enriched) ∨
      (nextAwait entry.1 stage = .writeWebhook ∧ stage = .started ∧ due entry = []) ∨
      (nextAwait entry.1 stage = .acknowledge ∧ ∀ output, remaining entry output stage = []) := by
  cases stage with
  | started =>
    rw [nextAwait, due]
    cases report : isTelemetry entry.1 with
    | true => exact .inl ⟨rfl, rfl, rfl⟩
    | false =>
      right
      right
      cases isAlarm entry.1 with
      | true => exact .inl ⟨rfl, rfl, rfl⟩
      | false =>
        refine .inr ⟨rfl, fun output => ?_⟩
        rw [remaining, due, report]
        rfl
  | enriched => exact .inr (.inl ⟨rfl, rfl⟩)
  | scored => exact .inr (.inr (.inr ⟨rfl, fun output => by cases output <;> rfl⟩))
  | forwarded => exact .inr (.inr (.inr ⟨rfl, fun output => by cases output <;> rfl⟩))

end Accounts

/-! ## What each step can do -/

section Steps

variable {settings : Settings} {world next : World}

/-- What a reclaim does. -/
theorem step_reclaim (moved : step settings world .reclaim = some next) :
    world.reclaimed = false ∧
      next = leave { deliver world (claimable world) with reclaimed := true } (claimable world) := by
  rw [step] at moved
  split at moved
  case isTrue awake =>
    rw [Bool.and_eq_true, Bool.not_eq_true'] at awake
    exact ⟨awake.2, (Option.some.inj moved).symm⟩
  case isFalse => cases moved

/-- A failing reclaim ends the processor, whether or not entries were handed to it. -/
theorem step_reclaimFails {claimed : Bool}
    (moved : step settings world (.reclaimFails claimed) = some next) :
    world.reclaimed = false ∧
      next = { (if claimed then deliver world (claimable world) else world) with
        reclaimed := true } := by
  rw [step] at moved
  split at moved
  case isTrue awake =>
    rw [Bool.and_eq_true, Bool.not_eq_true'] at awake
    exact ⟨awake.2, (Option.some.inj moved).symm⟩
  case isFalse => cases moved

/-- What a read does. -/
theorem step_read (moved : step settings world .read = some next) :
    world.reclaimed = true ∧ world.batch = [] ∧
      next = leave (readGroup world) (world.group.fresh readCount) := by
  rw [step] at moved
  split at moved
  case isTrue awake =>
    rw [Bool.and_eq_true, Bool.and_eq_true, List.isEmpty_iff] at awake
    exact ⟨awake.1.2, awake.2, (Option.some.inj moved).symm⟩
  case isFalse => cases moved

/-- A failing read ends the processor, whether or not entries were handed to it. -/
theorem step_readFails {handedOut : Bool}
    (moved : step settings world (.readFails handedOut) = some next) :
    world.reclaimed = true ∧ world.batch = [] ∧
      next = { (if handedOut then readGroup world else world) with running := false } := by
  rw [step] at moved
  split at moved
  case isTrue awake =>
    rw [Bool.and_eq_true, Bool.and_eq_true, List.isEmpty_iff] at awake
    exact ⟨awake.1.2, awake.2, (Option.some.inj moved).symm⟩
  case isFalse => cases moved

/-- A wait succeeds in the middle of an entry or at its acknowledgement. -/
theorem step_proceed {now : String} (moved : step settings world (.proceed now) = some next) :
    ∃ entry rest, world.batch = entry :: rest ∧
      ((∃ stage, resume (nextAwait entry.1 world.stage) = some stage ∧
          next = { perform settings world entry.1 entry.2 now (nextAwait entry.1 world.stage) with
            stage }) ∨
        (nextAwait entry.1 world.stage = .acknowledge ∧
          next = leave (perform settings world entry.1 entry.2 now .acknowledge) rest)) := by
  rw [step] at moved
  split at moved
  case h_1 => cases moved
  case h_2 fields entryId rest working =>
    refine ⟨(fields, entryId), rest, working, ?_⟩
    dsimp only at moved ⊢
    cases awaited : nextAwait fields world.stage with
    | acknowledge =>
      rw [awaited] at moved
      exact .inr ⟨rfl, (Option.some.inj moved).symm⟩
    | writeEnriched =>
      rw [awaited] at moved
      exact .inl ⟨_, rfl, (Option.some.inj moved).symm⟩
    | writeScore =>
      rw [awaited] at moved
      exact .inl ⟨_, rfl, (Option.some.inj moved).symm⟩
    | writeWebhook =>
      rw [awaited] at moved
      exact .inl ⟨_, rfl, (Option.some.inj moved).symm⟩

/-- A failing access leaves its entry, whether or not it took effect. -/
theorem step_fail {done : Bool} {now : String}
    (moved : step settings world (.fail done now) = some next) :
    ∃ entry rest, world.batch = entry :: rest ∧
      next = leave (if done then
          perform settings world entry.1 entry.2 now (nextAwait entry.1 world.stage)
        else world) rest := by
  rw [step] at moved
  split at moved
  case h_1 => cases moved
  case h_2 fields entryId rest working =>
    exact ⟨(fields, entryId), rest, working, (Option.some.inj moved).symm⟩

/-- Stopping drops the batch. -/
theorem step_stop (moved : step settings world .stop = some next) :
    next = { leave world [] with running := false } := by
  rw [step] at moved
  split at moved
  case isTrue => exact (Option.some.inj moved).symm
  case isFalse => cases moved

/-- What can be reclaimed is pending. -/
theorem claimable_sublist (world : World) : (claimable world).Sublist world.group.pending :=
  ((List.take_sublist _ _).trans List.filter_sublist).trans (List.take_sublist _ _)

/-- All that is pending is reclaimed exactly if nothing disturbs the reclaim. -/
theorem claimable_eq_iff (world : World) :
    claimable world = world.group.pending ↔ Undisturbed world .reclaim := by
  rw [Undisturbed]
  constructor
  · intro all
    constructor
    · have few : (claimable world).length ≤ reclaimCount := List.length_take_le _ _
      rwa [all] at few
    · intro entry listed
      rw [← all] at listed
      exact of_decide_eq_true (List.mem_filter.mp (List.mem_of_mem_take listed)).2
  · rintro ⟨few, idle⟩
    have scanned : world.group.pending.length ≤ scanFactor * reclaimCount :=
      Nat.le_trans few (by decide)
    rw [claimable, List.take_of_length_le scanned, List.filter_eq_self.mpr, List.take_of_length_le few]
    exact fun entry listed => decide_eq_true (idle entry listed)

/-- A reclaim keeps the outputs whole exactly if it takes all that is pending. -/
theorem whole_reclaim (sound : Sound world) (moved : step settings world .reclaim = some next) :
    Whole next ↔ Whole world ∧ Undisturbed world .reclaim := by
  obtain ⟨unclaimed, rfl⟩ := step_reclaim moved
  have valid := sound.valid
  rw [sound.unclaimed unclaimed] at valid
  have claims := kept_claim_iff valid (claimable_sublist world)
  have balance (all : claimable world = world.group.pending) :
      Balanced (leave { deliver world (claimable world) with reclaimed := true } (claimable world)) ↔
        Balanced world := by
    apply balanced_congr
    intro output place
    rw [outstanding_leave rfl, all, outstanding, unclaimed, if_neg Bool.false_ne_true]
    rfl
  rw [← claimable_eq_iff]
  constructor
  · intro whole
    have all := claims.mp (whole.kept rfl)
    exact ⟨⟨fun claimed => Bool.noConfusion (unclaimed.symm.trans claimed),
      (balance all).mp whole.balanced⟩, all⟩
  · rintro ⟨whole, all⟩
    exact ⟨fun _ => claims.mpr all, (balance all).mpr whole.balanced⟩

/-- Before the reclaim the times of delivery do not matter. -/
theorem whole_unclaimed (sound : Sound world) (unclaimed : world.reclaimed = false)
    (times : Nat → Int) :
    Whole { world with deliveredAt := times, reclaimed := true } ↔
      Whole world ∧ world.group.pending = [] := by
  have idle := sound.unclaimed unclaimed
  have valid := sound.valid
  rw [idle] at valid
  have claims := kept_claim_iff valid (List.nil_sublist world.group.pending)
  have balance (none : world.group.pending = []) :
      Balanced { world with deliveredAt := times, reclaimed := true } ↔ Balanced world := by
    apply balanced_congr
    intro output place
    have taken : outstanding { world with deliveredAt := times, reclaimed := true } output = [] :=
      @outstanding_idle { world with deliveredAt := times, reclaimed := true } rfl idle output
    rw [taken, outstanding, unclaimed, if_neg Bool.false_ne_true, none]
    rfl
  constructor
  · intro whole
    have kept := whole.kept rfl
    dsimp only at kept
    rw [idle] at kept
    have none := (claims.mp kept).symm
    exact ⟨⟨fun claimed => Bool.noConfusion (unclaimed.symm.trans claimed),
      (balance none).mp whole.balanced⟩, none⟩
  · rintro ⟨whole, none⟩
    refine ⟨fun _ => ?_, (balance none).mpr whole.balanced⟩
    dsimp only
    rw [idle]
    exact claims.mpr none.symm

/-- A failing reclaim keeps the outputs whole exactly if it loses nothing. -/
theorem whole_reclaimFails (sound : Sound world) {claimed : Bool}
    (moved : step settings world (.reclaimFails claimed) = some next) :
    Whole next ↔ Whole world ∧ Undisturbed world (.reclaimFails claimed) := by
  obtain ⟨unclaimed, rfl⟩ := step_reclaimFails moved
  cases claimed with
  | true => exact whole_unclaimed sound unclaimed _
  | false => exact whole_unclaimed sound unclaimed world.deliveredAt

/-- A read keeps the outputs whole exactly if it is undisturbed. -/
theorem whole_read (sound : Sound world) (moved : step settings world .read = some next) :
    Whole next ↔ Whole world ∧ Undisturbed world .read := by
  obtain ⟨reclaimed, idle, rfl⟩ := step_read moved
  have keeps := @kept_read_iff _ world.group readCount
  have balance : Balanced (leave (readGroup world) (world.group.fresh readCount)) ↔
      Balanced world := by
    apply balanced_congr
    intro output place
    have grown : (world.group.read readCount).delivered.flatMap due =
        world.group.delivered.flatMap due ++ (world.group.fresh readCount).flatMap due := by
      rw [delivered_read sound.valid.bounded, List.flatMap_append]
    have stored : recorded (leave (readGroup world) (world.group.fresh readCount)) output =
        recorded world output := rfl
    have group : (leave (readGroup world) (world.group.fresh readCount)).group =
        world.group.read readCount := rfl
    rw [@outstanding_leave (readGroup world) reclaimed, outstanding_idle reclaimed idle, stored, group,
      grown, List.count_append, List.count_nil]
    omega
  rw [Undisturbed, and_true]
  constructor
  · intro whole
    refine ⟨fun _ => ?_, balance.mp whole.balanced⟩
    rw [idle]
    exact keeps.mp (whole.kept reclaimed)
  · intro whole
    have kept := whole.kept reclaimed
    rw [idle] at kept
    exact ⟨fun _ => keeps.mpr kept, balance.mpr whole.balanced⟩

/-- With nothing in hand, a process that ends changes nothing. -/
theorem whole_ended (idle : world.batch = []) :
    Whole { leave world [] with running := false } ↔ Whole world := by
  have balance : Balanced { leave world [] with running := false } ↔ Balanced world := by
    apply balanced_congr
    intro output place
    rw [outstanding, outstanding, idle]
    rfl
  constructor
  · intro whole
    refine ⟨fun reclaimed => ?_, balance.mp whole.balanced⟩
    rw [idle]
    exact whole.kept reclaimed
  · intro whole
    refine ⟨fun reclaimed => ?_, balance.mpr whole.balanced⟩
    have kept := whole.kept reclaimed
    rwa [idle] at kept

/-- After the reclaim a lost entry is never made up for. -/
theorem not_whole_of_lost (reclaimed : world.reclaimed = true) (lost : Lost world.group world.batch) :
    ¬ Whole world :=
  fun whole => kept_iff_not_lost.mp (whole.kept reclaimed) lost

/-- A failing read keeps the outputs whole exactly if it was handed nothing. -/
theorem whole_readFails (sound : Sound world) {handedOut : Bool}
    (moved : step settings world (.readFails handedOut) = some next) :
    Whole next ↔ Whole world ∧ Undisturbed world (.readFails handedOut) := by
  obtain ⟨reclaimed, idle, rfl⟩ := step_readFails moved
  have valid := sound.valid
  rw [idle] at valid
  cases handedOut with
  | false =>
    have same : Whole { world with running := false } ↔ Whole world :=
      ⟨fun whole => ⟨whole.kept, whole.balanced⟩, fun whole => ⟨whole.kept, whole.balanced⟩⟩
    rw [if_neg Bool.false_ne_true, same, Undisturbed]
    exact (and_iff_left fun none => Bool.noConfusion none).symm
  | true =>
    rw [if_pos rfl]
    cases fresh : world.group.fresh readCount with
    | cons entry rest =>
      have lost : Lost (world.group.read readCount) world.batch := by
        rw [idle]
        exact lost_of_unread valid fresh
      have broken : ¬ Whole { readGroup world with running := false } :=
        not_whole_of_lost reclaimed lost
      refine iff_of_false broken fun both => ?_
      cases fresh.symm.trans (both.2 rfl)
    | nil =>
      have keeps := @kept_read_iff _ world.group readCount
      rw [fresh] at keeps
      have balance : Balanced { readGroup world with running := false } ↔ Balanced world := by
        apply balanced_congr
        intro output place
        have grown : (world.group.read readCount).delivered = world.group.delivered := by
          rw [delivered_read valid.bounded, fresh, List.append_nil]
        have taken : outstanding { readGroup world with running := false } output = [] :=
          @outstanding_idle { readGroup world with running := false } reclaimed idle output
        have stored : recorded { readGroup world with running := false } output =
            recorded world output := rfl
        have group : ({ readGroup world with running := false } : World).group =
            world.group.read readCount := rfl
        rw [taken, outstanding_idle reclaimed idle, stored, group, grown]
      constructor
      · intro whole
        refine ⟨⟨fun _ => ?_, balance.mp whole.balanced⟩, fun _ => fresh⟩
        have kept := whole.kept reclaimed
        have batch : ({ readGroup world with running := false } : World).batch = [] := idle
        rw [batch] at kept
        rw [idle]
        exact keeps.mp kept
      · rintro ⟨whole, -⟩
        refine ⟨fun _ => ?_, balance.mpr whole.balanced⟩
        have kept := whole.kept reclaimed
        have batch : ({ readGroup world with running := false } : World).batch = [] := idle
        rw [idle] at kept
        rw [batch]
        exact keeps.mpr kept

/-- New entries keep the outputs whole. -/
theorem whole_append (sound : Sound world) (fields : List String) :
    Whole { world with group := world.group.append fields } ↔ Whole world := by
  have balance : Balanced { world with group := world.group.append fields } ↔ Balanced world := by
    apply balanced_congr
    intro output place
    have same : outstanding { world with group := world.group.append fields } output =
        outstanding world output := by
      rw [outstanding, outstanding, ← pending_append sound.valid.bounded fields]
    rw [same, ← delivered_append sound.valid.bounded fields]
    rfl
  exact ⟨fun whole => ⟨whole.kept, balance.mp whole.balanced⟩,
    fun whole => ⟨whole.kept, balance.mpr whole.balanced⟩⟩

/-- An entry that nothing remains to be recorded of is acknowledged. -/
theorem whole_acknowledged (reclaimed : world.reclaimed = true) {entry : List String × Nat}
    {rest : List (List String × Nat)} (working : world.batch = entry :: rest)
    (settled : ∀ output, remaining entry output world.stage = []) :
    Whole (leave { world with group := world.group.acknowledge entry.2 } rest) ↔ Whole world := by
  have keeps := @kept_acknowledge_iff _ world.group rest entry
  have balance : Balanced (leave { world with group := world.group.acknowledge entry.2 } rest) ↔
      Balanced world := by
    apply balanced_congr
    intro output place
    have left := @outstanding_leave { world with group := world.group.acknowledge entry.2 }
      reclaimed rest output
    rw [left, outstanding_working reclaimed working, settled, List.nil_append]
    rfl
  constructor
  · intro whole
    refine ⟨fun _ => ?_, balance.mp whole.balanced⟩
    rw [working]
    exact keeps.mp (whole.kept reclaimed)
  · intro whole
    refine ⟨fun _ => ?_, balance.mpr whole.balanced⟩
    have kept := whole.kept reclaimed
    rw [working] at kept
    exact keeps.mpr kept

/-- What is written remains to be written no more. -/
theorem whole_written (reclaimed : world.reclaimed = true) {entry : List String × Nat}
    {rest : List (List String × Nat)} (working : world.batch = entry :: rest)
    (sameReclaimed : next.reclaimed = world.reclaimed) (sameGroup : next.group = world.group)
    (sameBatch : next.batch = world.batch)
    (moved : ∀ output, recorded next output ++ remaining entry output next.stage =
      recorded world output ++ remaining entry output world.stage) :
    Whole next ↔ Whole world := by
  have balance : Balanced next ↔ Balanced world := by
    apply balanced_congr
    intro output place
    have counted := congrArg (List.count place) (moved output)
    rw [List.count_append, List.count_append] at counted
    rw [outstanding_working (sameReclaimed.trans reclaimed) (sameBatch.trans working),
      outstanding_working reclaimed working, sameGroup, List.count_append, List.count_append]
    omega
  constructor
  · intro whole
    refine ⟨fun _ => ?_, balance.mp whole.balanced⟩
    have kept := whole.kept (sameReclaimed.trans reclaimed)
    rwa [sameGroup, sameBatch] at kept
  · intro whole
    refine ⟨fun _ => ?_, balance.mpr whole.balanced⟩
    rw [sameGroup, sameBatch]
    exact whole.kept reclaimed

/-- An access that succeeds keeps the outputs whole. -/
theorem whole_proceed (sound : Sound world) {now : String}
    (moved : step settings world (.proceed now) = some next) : Whole next ↔ Whole world := by
  obtain ⟨entry, rest, working, resumed⟩ := step_proceed moved
  have reclaimed := sound.reclaimed working
  obtain ⟨awaited, started, report⟩ | ⟨awaited, enriched⟩ | ⟨awaited, started, noReport⟩ |
    ⟨awaited, settled⟩ := nextAwait_cases entry world.stage
  case inl =>
    rw [awaited] at resumed
    obtain ⟨stage, resumes, rfl⟩ | ⟨impossible, -⟩ := resumed
    case inr => cases impossible
    obtain rfl := Option.some.inj resumes
    refine whole_written reclaimed working ?_ ?_ ?_ fun output => ?_
    iterate 3 rfl
    rw [started]
    cases output with
    | enriched =>
      rw [remaining, remaining, report, List.append_nil, recorded, perform, List.map_append]
      rfl
    | score =>
      rw [remaining, remaining, report]
      rfl
  case inr.inl =>
    rw [awaited] at resumed
    obtain ⟨stage, resumes, rfl⟩ | ⟨impossible, -⟩ := resumed
    case inr => cases impossible
    obtain rfl := Option.some.inj resumes
    refine whole_written reclaimed working ?_ ?_ ?_ fun output => ?_
    iterate 3 rfl
    rw [enriched]
    cases output with
    | enriched => rfl
    | score =>
      rw [remaining, remaining, List.append_nil, recorded, perform, List.map_append]
      rfl
  case inr.inr.inl =>
    rw [awaited] at resumed
    obtain ⟨stage, resumes, rfl⟩ | ⟨impossible, -⟩ := resumed
    case inr => cases impossible
    obtain rfl := Option.some.inj resumes
    refine whole_written reclaimed working ?_ ?_ ?_ fun output => ?_
    iterate 3 rfl
    rw [started]
    cases output with
    | enriched =>
      rw [remaining, remaining, noReport]
      rfl
    | score =>
      rw [remaining, remaining, noReport]
      rfl
  case inr.inr.inr =>
    rw [awaited] at resumed
    obtain ⟨stage, resumes, -⟩ | ⟨-, rfl⟩ := resumed
    case inl => cases resumes
    exact whole_acknowledged reclaimed working settled

/-- A failing access keeps the outputs whole exactly if nothing of it is due any more. -/
theorem whole_fail (sound : Sound world) {done : Bool} {now : String}
    (moved : step settings world (.fail done now) = some next) :
    Whole next ↔ Whole world ∧ Undisturbed world (.fail done now) := by
  obtain ⟨entry, rest, working, rfl⟩ := step_fail moved
  have reclaimed := sound.reclaimed working
  have valid := sound.valid
  rw [working] at valid
  have forgotten : Lost world.group rest := lost_of_forgotten valid (List.Sublist.refl rest)
  have condition : Undisturbed world (.fail done now) ↔
      done = true ∧ nextAwait entry.1 world.stage = .acknowledge := by
    rw [Undisturbed, working, List.head?_cons, Option.any_some, beq_iff_eq]
  rw [condition]
  cases done with
  | false =>
    have broken : ¬ Whole (leave world rest) := not_whole_of_lost reclaimed forgotten
    rw [if_neg Bool.false_ne_true]
    exact iff_of_false broken fun both => Bool.false_ne_true both.2.1
  | true =>
    rw [if_pos rfl, and_iff_right rfl]
    obtain ⟨awaited, -⟩ | ⟨awaited, -⟩ | ⟨awaited, -⟩ | ⟨awaited, settled⟩ :=
      nextAwait_cases entry world.stage
    case inr.inr.inr =>
      rw [awaited, and_iff_left rfl]
      exact whole_acknowledged reclaimed working settled
    all_goals
      rw [awaited]
      refine iff_of_false ?_ fun both => by cases both.2
      exact not_whole_of_lost reclaimed forgotten

/-- Stopping keeps the outputs whole exactly if nothing is lost with the batch. -/
theorem whole_stop (sound : Sound world) (moved : step settings world .stop = some next) :
    Whole next ↔ Whole world ∧ Undisturbed world .stop := by
  obtain rfl := step_stop moved
  rw [Undisturbed]
  cases working : world.batch with
  | nil => exact (whole_ended working).trans (and_iff_left rfl).symm
  | cons entry rest =>
    have valid := sound.valid
    rw [working] at valid
    have forgotten : Lost world.group [] := lost_of_forgotten valid (List.nil_sublist rest)
    refine iff_of_false ?_ fun both => by cases both.2
    exact not_whole_of_lost (sound.reclaimed working) forgotten

/-- A step leaves the records and the group whole just if it disturbs nothing and they were
whole before. -/
theorem whole_step (sound : Sound world) {action : Action}
    (moved : step settings world action = some next) :
    Whole next ↔ Whole world ∧ Undisturbed world action := by
  cases action with
  | wait duration =>
    obtain rfl := Option.some.inj moved
    rw [Undisturbed, and_true]
    exact ⟨fun whole => ⟨whole.kept, whole.balanced⟩, fun whole => ⟨whole.kept, whole.balanced⟩⟩
  | append fields =>
    obtain rfl := Option.some.inj moved
    rw [Undisturbed, and_true]
    exact whole_append sound fields
  | reclaim => exact whole_reclaim sound moved
  | reclaimFails claimed => exact whole_reclaimFails sound moved
  | read => exact whole_read sound moved
  | readFails handedOut => exact whole_readFails sound moved
  | proceed now =>
    rw [Undisturbed, and_true]
    exact whole_proceed sound moved
  | fail done now => exact whole_fail sound moved
  | stop => exact whole_stop sound moved

/-- Only what was read is recorded, whatever a wait takes effect on. -/
theorem known_perform
    (known : ∀ output, ∀ place ∈ recorded world output, place < world.group.cursor)
    (fields : List String) {entryId : Nat} (read : entryId < world.group.cursor) (now : String)
    (await : Await) (output : Output) :
    ∀ place ∈ recorded (perform settings world fields entryId now await) output,
      place < world.group.cursor := by
  intro place listed
  cases await with
  | writeEnriched =>
    cases output with
    | score => exact known .score place listed
    | enriched =>
      rw [recorded, perform, List.map_append, List.mem_append, List.map_singleton,
        List.mem_singleton] at listed
      cases listed with
      | inl earlier => exact known .enriched place earlier
      | inr new => exact new ▸ read
  | writeScore =>
    cases output with
    | enriched => exact known .enriched place listed
    | score =>
      rw [recorded, perform, List.map_append, List.mem_append, List.map_singleton,
        List.mem_singleton] at listed
      cases listed with
      | inl earlier => exact known .score place earlier
      | inr new => exact new ▸ read
  | writeWebhook => exact known output place listed
  | acknowledge => exact known output place listed

/-- An entry that is left, and one that is gone on with. -/
theorem sound_perform (sound : Sound world) {entry : List String × Nat}
    {rest : List (List String × Nat)} (working : world.batch = entry :: rest) (now : String)
    (await : Await) :
    Sound (leave (perform settings world entry.1 entry.2 now await) rest) ∧
      ∀ stage, resume await = some stage →
        Sound { perform settings world entry.1 entry.2 now await with stage } := by
  have valid := sound.valid
  rw [working] at valid
  have read : entry.2 < world.group.cursor :=
    valid.known entry.2 (List.mem_append_right _ List.mem_cons_self)
  have known := @known_perform settings world sound.known entry.1 entry.2 read now await
  have reclaimed := sound.reclaimed working
  have forgets : Valid world.group rest := valid_forget valid (List.sublist_cons_self entry rest)
  have unclaimed {batch : List (List String × Nat)} : world.reclaimed = false → batch = [] :=
    fun claimed => Bool.noConfusion (reclaimed.symm.trans claimed)
  cases await with
  | acknowledge => exact ⟨⟨valid_acknowledge valid, unclaimed, known⟩, fun _ none => by cases none⟩
  | writeEnriched =>
    exact ⟨⟨forgets, unclaimed, known⟩, fun _ _ => ⟨sound.valid, unclaimed, known⟩⟩
  | writeScore =>
    exact ⟨⟨forgets, unclaimed, known⟩, fun _ _ => ⟨sound.valid, unclaimed, known⟩⟩
  | writeWebhook =>
    exact ⟨⟨forgets, unclaimed, known⟩, fun _ _ => ⟨sound.valid, unclaimed, known⟩⟩

/-- The batch may get shorter in a sound world. -/
theorem sound_leave (sound : Sound world) {rest : List (List String × Nat)}
    (kept : rest.Sublist world.batch) : Sound (leave world rest) where
  valid := valid_forget sound.valid kept
  unclaimed := fun claimed => by
    rw [sound.unclaimed claimed] at kept
    exact List.sublist_nil.mp kept
  known := sound.known

/-- Every step keeps the world sound. -/
theorem sound_step {action : Action} (sound : Sound world)
    (moved : step settings world action = some next) : Sound next := by
  cases action with
  | wait duration =>
    obtain rfl := Option.some.inj moved
    exact ⟨sound.valid, sound.unclaimed, sound.known⟩
  | append fields =>
    obtain rfl := Option.some.inj moved
    exact ⟨valid_append sound.valid fields, sound.unclaimed, sound.known⟩
  | reclaim =>
    obtain ⟨unclaimed, rfl⟩ := step_reclaim moved
    have valid := sound.valid
    rw [sound.unclaimed unclaimed] at valid
    exact ⟨valid_claim valid (claimable_sublist world), fun claimed => Bool.noConfusion claimed,
      sound.known⟩
  | reclaimFails claimed =>
    obtain ⟨unclaimed, rfl⟩ := step_reclaimFails moved
    cases claimed with
    | true => exact ⟨sound.valid, fun claimed => Bool.noConfusion claimed, sound.known⟩
    | false => exact ⟨sound.valid, fun claimed => Bool.noConfusion claimed, sound.known⟩
  | read =>
    obtain ⟨reclaimed, idle, rfl⟩ := step_read moved
    have valid := sound.valid
    rw [idle] at valid
    exact ⟨valid_read valid readCount, fun claimed => Bool.noConfusion (reclaimed.symm.trans claimed),
      fun output place listed => Nat.lt_of_lt_of_le (sound.known output place listed)
        (Nat.le_add_right _ _)⟩
  | readFails handedOut =>
    obtain ⟨reclaimed, idle, rfl⟩ := step_readFails moved
    have valid := sound.valid
    rw [idle] at valid
    cases handedOut with
    | false => exact ⟨sound.valid, sound.unclaimed, sound.known⟩
    | true =>
      refine ⟨?_, sound.unclaimed, fun output place listed =>
        Nat.lt_of_lt_of_le (sound.known output place listed) (Nat.le_add_right _ _)⟩
      have missed := valid_forget (valid_read valid readCount) (List.nil_sublist _)
      rw [← idle] at missed
      exact missed
  | proceed now =>
    obtain ⟨entry, rest, working, resumed⟩ := step_proceed moved
    have performed := @sound_perform settings world sound entry rest working now
    obtain ⟨stage, resumes, rfl⟩ | ⟨-, rfl⟩ := resumed
    case inl => exact (performed _).2 stage resumes
    case inr => exact (performed .acknowledge).1
  | fail done now =>
    obtain ⟨entry, rest, working, rfl⟩ := step_fail moved
    cases done with
    | true => exact (@sound_perform settings world sound entry rest working now _).1
    | false =>
      apply sound_leave sound
      rw [working]
      exact List.sublist_cons_self entry rest
  | stop =>
    obtain rfl := step_stop moved
    have left := sound_leave sound (List.nil_sublist world.batch)
    exact ⟨left.valid, left.unclaimed, left.known⟩

end Steps

/-! ## Where the records are exact -/

section Exactness

variable {world : World} {entries : List (List String × Nat)}

/-- An entry is only due under its own number. -/
theorem mem_due {entry : List String × Nat} {place : Nat} (listed : place ∈ due entry) :
    place = entry.2 := by
  rw [due] at listed
  split at listed
  case isTrue => exact List.mem_singleton.mp listed
  case isFalse => cases listed

/-- Telemetry is due once for each kind of row, other entries never. -/
theorem count_due_self (entry : List String × Nat) :
    (due entry).count entry.2 = (isTelemetry entry.1).toNat := by
  rw [due]
  cases isTelemetry entry.1 with
  | true => exact List.count_singleton_self
  | false => rfl

/-- What is due of some entries, counted at the place of one of them. -/
theorem count_due (unique : (places entries).Nodup) {entry : List String × Nat}
    (listed : entry ∈ entries) :
    (entries.flatMap due).count entry.2 = (isTelemetry entry.1).toNat := by
  rw [← count_due_self]
  refine countP_flatMap_key due (· == entry.2) unique listed ?_
  intro other _ apart
  refine List.count_eq_zero.mpr fun made => ?_
  exact apart (mem_due made).symm

/-- An entry that is not among those in question is not due for them. -/
theorem count_due_absent {place : Nat} (absent : place ∉ places entries) :
    (entries.flatMap due).count place = 0 := by
  refine List.count_eq_zero.mpr fun made => ?_
  obtain ⟨entry, listed, ofEntry⟩ := List.mem_flatMap.mp made
  exact absent (List.mem_map.mpr ⟨entry, listed, (mem_due ofEntry).symm⟩)

/-- The delivered entries are those before the cursor. -/
theorem mem_places_delivered (sound : Sound world) {place : Nat} :
    place ∈ places world.group.delivered ↔ place < world.group.cursor := by
  rw [places_delivered sound.valid.bounded, List.mem_range]

/-- No entry is delivered twice as a fresh one. -/
theorem nodup_delivered (sound : Sound world) : (places world.group.delivered).Nodup := by
  rw [places_delivered sound.valid.bounded]
  exact List.nodup_range

/-- The balance concerns the entries that were read, one by one. -/
theorem balanced_iff (sound : Sound world)
    (read : ∀ output, ∀ place ∈ outstanding world output, place < world.group.cursor) :
    Balanced world ↔ ∀ entry ∈ world.group.delivered, ∀ output,
      (recorded world output).count entry.2 + (outstanding world output).count entry.2 =
        (isTelemetry entry.1).toNat := by
  constructor
  · intro balanced entry listed output
    rw [← count_due (nodup_delivered sound) listed]
    exact balanced output entry.2
  · intro contributed output place
    by_cases below : place < world.group.cursor
    case pos =>
      obtain ⟨entry, listed, rfl⟩ := List.mem_map.mp ((mem_places_delivered sound).mpr below)
      rw [count_due (nodup_delivered sound) listed]
      exact contributed entry listed output
    case neg =>
      have unread : place ∉ places world.group.delivered :=
        fun listed => below ((mem_places_delivered sound).mp listed)
      rw [count_due_absent unread,
        List.count_eq_zero.mpr fun listed => below (sound.known output place listed),
        List.count_eq_zero.mpr fun listed => below (read output place listed)]

/-- At rest nothing is pending exactly if nothing was lost. -/
theorem pending_eq_nil_iff (sound : Sound world) (idle : world.batch = []) :
    world.group.pending = [] ↔ Kept world.group [] := by
  have valid := sound.valid
  rw [idle] at valid
  rw [kept_claim_iff valid (List.nil_sublist _)]
  exact eq_comm

/-- In a drained world each entry led to each row once exactly if the outputs are whole. -/
theorem exactlyOnce_iff_whole (sound : Sound world) (drained : Drained world) :
    ExactlyOnce world ↔ Whole world := by
  have settled := outstanding_idle drained.reclaimed drained.idle
  have balance := balanced_iff sound fun output place listed => by
    rw [settled] at listed
    cases listed
  have none := pending_eq_nil_iff sound drained.idle
  constructor
  · intro exactly
    refine ⟨fun _ => ?_, balance.mpr fun entry listed output => ?_⟩
    · rw [drained.idle]
      exact none.mp exactly.nonePending
    · rw [settled]
      exact exactly.contributed entry listed output
  · intro whole
    constructor
    case nonePending =>
      have kept := whole.kept drained.reclaimed
      rw [drained.idle] at kept
      exact none.mpr kept
    case contributed =>
      intro entry listed output
      have sum := balance.mp whole.balanced entry listed output
      rwa [settled] at sum

/-- At the start, what is outstanding is what is pending. -/
theorem count_outstanding_left (left : LeftBehind world) {entry : List String × Nat}
    (listed : entry ∈ world.group.delivered) (output : Output) :
    (outstanding world output).count entry.2 =
      (isTelemetry entry.1 && decide (entry.2 ∉ world.group.acked)).toNat := by
  have bounded := left.valid.bounded
  rw [outstanding, left.reclaimed, if_neg Bool.false_ne_true]
  by_cases acked : entry.2 ∈ world.group.acked
  case pos =>
    have absent : entry.2 ∉ places world.group.pending :=
      fun pending => ((mem_places_pending bounded).mp pending).2 acked
    rw [count_due_absent absent, decide_eq_false (not_not_intro acked), Bool.and_false]
    rfl
  case neg =>
    have pending : entry ∈ world.group.pending :=
      List.mem_filter.mpr ⟨listed, decide_eq_true acked⟩
    rw [count_due (nodup_places_pending bounded) pending, decide_eq_true acked, Bool.and_true]

/-- The outputs are whole at the start exactly if they were left cleanly. -/
theorem cleanlyLeft_iff_whole (left : LeftBehind world) : CleanlyLeft world ↔ Whole world := by
  have balance := balanced_iff left.sound fun output place listed => by
    rw [outstanding, left.reclaimed, if_neg Bool.false_ne_true] at listed
    obtain ⟨entry, pending, ofEntry⟩ := List.mem_flatMap.mp listed
    rw [mem_due ofEntry]
    exact ((mem_places_pending left.valid.bounded).mp (List.mem_map_of_mem pending)).1
  have sums : Balanced world ↔ CleanlyLeft world := by
    rw [balance]
    apply forall₂_congr
    intro entry listed
    apply forall_congr'
    intro output
    rw [count_outstanding_left left listed output]
    cases isTelemetry entry.1 with
    | false => exact Iff.rfl
    | true =>
      by_cases acked : entry.2 ∈ world.group.acked
      case pos => simp [acked]
      case neg => simp [acked]
  rw [← sums]
  exact ⟨fun balanced => ⟨fun claimed => Bool.noConfusion (left.reclaimed.symm.trans claimed),
    balanced⟩, fun whole => whole.balanced⟩

/-- Once the claim of the start is over and all is read, nothing is pending and each report
has its two records if and only if the earlier consumers left whole entries and nothing
disturbed the work on those in hand. -/
theorem stream_processed_once_iff {settings : Settings} {start : World} {actions : List Action}
    (left : LeftBehind start) (reached : run (step settings) start actions = some world)
    (drained : Drained world) :
    ExactlyOnce world ↔ CleanlyLeft start ∧
      Along (step settings) (fun before action _ => Undisturbed before action) start actions := by
  have sound : Sound world :=
    invariant_reached Sound (fun _ _ _ sound _ moved => sound_step sound moved) left.sound
      (along_true _ _ actions) reached
  rw [exactlyOnce_iff_whole sound drained, cleanlyLeft_iff_whole left]
  exact whole_iff_along (fun _ _ _ sound moved => sound_step sound moved)
    (fun _ _ _ sound moved => whole_step sound moved) left.sound reached

end Exactness

section Samples

def sampleSettings : Settings := ⟨fun _ => none⟩

def sampleEntry : List String := ["kind", "telemetry", "bikeId", "bike", "ts", "2026-06-04T00:00:00Z"]

/-- An earlier consumer read one report a minute ago and ended before it wrote anything. -/
def sampleStart : World where
  now := 60000
  group := ⟨[sampleEntry], 1, []⟩
  deliveredAt := fun _ => 0
  running := true
  reclaimed := false
  batch := []
  stage := .started
  enriched := []
  scores := []
  webhooks := []

/-- The sample starts on a stream that nobody has read. -/
theorem leftBehind_sampleStart : LeftBehind sampleStart where
  valid := ⟨by decide, by decide, by decide⟩
  reclaimed := rfl
  idle := rfl
  known := by
    intro output place listed
    cases output with
    | enriched => cases listed
    | score => cases listed

/-- The accesses of one entry with telemetry. -/
def workOff : List Action := List.replicate 3 (.proceed "2026-06-04T00:01:00.000Z")

/-- The report is claimed, and a second one comes in. -/
def bothProcessed : List Action :=
  [Action.reclaim] ++ workOff ++ [Action.append sampleEntry, Action.read] ++ workOff

/-- The score of the second report cannot be written, and there is nothing else to read. -/
def scoreFails : List Action :=
  [Action.reclaim] ++ workOff ++
    ([.append sampleEntry, .read, .proceed "2026-06-04T00:01:00.000Z",
      .fail false "2026-06-04T00:01:00.000Z", .read] : List Action)

/-- Where some actions lead from the sample. -/
def worldAfter (actions : List Action) : World :=
  (run (step sampleSettings) sampleStart actions).getD sampleStart

/-- The actions lead to the world after them. -/
theorem run_worldAfter {actions : List Action}
    (enabled : (run (step sampleSettings) sampleStart actions).isSome = true) :
    run (step sampleSettings) sampleStart actions = some (worldAfter actions) := by
  obtain ⟨world, reached⟩ := Option.isSome_iff_exists.mp enabled
  rw [worldAfter, reached, Option.getD_some]

/-- Two entries are processed, one after the other. -/
theorem stream_processed_once_bothProcessed :
    ExactlyOnce (worldAfter bothProcessed) ↔ CleanlyLeft sampleStart ∧
      Along (step sampleSettings) (fun before action _ => Undisturbed before action) sampleStart
        bothProcessed :=
  stream_processed_once_iff leftBehind_sampleStart (run_worldAfter (by decide +kernel))
    ⟨by decide +kernel, by decide +kernel, by decide +kernel⟩

/-- An entry whose processing failed once stays pending, and half recorded. -/
theorem half_recorded_entry :
    ¬ ∀ settings start actions world, LeftBehind start → CleanlyLeft start →
      run (step settings) start actions = some world → Drained world → ExactlyOnce world := by
  intro claim
  have clean : CleanlyLeft sampleStart := by
    intro entry listed output
    obtain rfl := List.mem_singleton.mp listed
    cases output with
    | enriched => decide +kernel
    | score => decide +kernel
  have exactly := claim sampleSettings sampleStart scoreFails (worldAfter scoreFails)
    leftBehind_sampleStart clean (run_worldAfter (by decide +kernel))
    ⟨by decide +kernel, by decide +kernel, by decide +kernel⟩
  exact absurd exactly.nonePending (by decide +kernel)

end Samples

end EmotoFleet.StreamProcessor
