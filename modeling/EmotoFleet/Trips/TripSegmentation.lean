import EmotoFleet.Trips.TripOrder

/-!
# How packets are cut into trips

Trips begin with the ignition, outside the cooldown after the trip before, or with enough
movement, and they end with the ignition or with enough idling. The runtime state tells
this from four timestamps. They agree with the packets of the past, but for the end of the
last trip, which is forgotten together with the runtime state: when a trip that lasts too
long is ended, and after a day without packets.
-/

namespace EmotoFleet.TripSegmentation

open Expiring
open EmotoFleet.Runs
open EmotoFleet.Spans
open EmotoFleet.TripBuilder
open EmotoFleet.TheftRules (TelemetryPayload)
open EmotoFleet.TripOrder (Event)

/-! Decisions, case by case -/

section Decisions

variable (settings : TripSettings) (loaded : TripRuntimeState) (payload : TelemetryPayload)

/-- The packet is older than the last one that was processed. -/
def isLate : Bool :=
  loaded.lastProcessedTs.any fun lastProcessedTs => decide (payload.ts.epochMs < lastProcessedTs)

/-- A packet of a bike that rides. -/
def Moving : Prop := settings.startSpeedKph ≤ payload.speedKph

/-- A packet of a bike that stands. -/
def Slow : Prop := payload.speedKph < settings.endSpeedKph

instance : DecidablePred (Moving settings) := fun _ => inferInstanceAs (Decidable (_ ≤ _))

instance : DecidablePred (Slow settings) := fun _ => inferInstanceAs (Decidable (_ < _))

/-- The state in which the packet is judged. -/
def noted : TripRuntimeState := { loaded with lastProcessedTs := some payload.ts.epochMs }

/-- Since when an active trip is idle, once the packet has been seen. -/
def idleSince : Option Int :=
  if Slow settings payload then some (loaded.idleSinceTs.getD payload.ts.epochMs) else none

/-- The trip is out of its cooldown. -/
def Cooled (lastTripEnd : Option Int) (instant : Int) : Prop :=
  ∀ stop, lastTripEnd = some stop → stop + settings.tripCooldownSec * 1000 ≤ instant

/-- What becomes of the state of a device without an active trip. -/
inductive Idling : TripRuntimeState → Prop where
  | ignition (on : payload.ignition = some true)
      (cooled : Cooled settings loaded.lastTripEndTs payload.ts.epochMs) :
      Idling { noted loaded payload with
        activeStartTs := some payload.ts.epochMs, candidateStartTs := none, idleSinceTs := none }
  | still : Idling { noted loaded payload with candidateStartTs := none }
  | candidate (moving : Moving settings payload) (fresh : loaded.candidateStartTs = none) :
      Idling { noted loaded payload with candidateStartTs := some payload.ts.epochMs }
  | movement (start : Int) (moving : Moving settings payload)
      (waiting : loaded.candidateStartTs = some start)
      (long : settings.startMovementSeconds * 1000 ≤ payload.ts.epochMs - start) :
      Idling { noted loaded payload with
        activeStartTs := some start, candidateStartTs := none, idleSinceTs := none }
  | waiting (moving : Moving settings payload) : Idling (noted loaded payload)

/-- The decision about a packet, with what it was taken on. -/
inductive Judged : Decision → Prop where
  | discard (late : isLate loaded payload = true) : Judged .discard
  | idle (state : TripRuntimeState) (current : isLate loaded payload = false)
      (parked : loaded.activeStartTs = none) (idling : Idling settings loaded payload state) :
      Judged (.idle state)
  | tooLong (start : Int) (current : isLate loaded payload = false)
      (active : loaded.activeStartTs = some start)
      (long : settings.maxTripDurationSeconds * 1000 ≤ payload.ts.epochMs - start) :
      Judged (.tooLong start)
  | ongoing (start : Int) (current : isLate loaded payload = false)
      (active : loaded.activeStartTs = some start)
      (short : payload.ts.epochMs - start < settings.maxTripDurationSeconds * 1000) :
      Judged (.ongoing { noted loaded payload with idleSinceTs := idleSince settings loaded payload })
  | ended (start stop : Int) (current : isLate loaded payload = false)
      (active : loaded.activeStartTs = some start)
      (short : payload.ts.epochMs - start < settings.maxTripDurationSeconds * 1000)
      (slow : Slow settings payload)
      (cause : payload.ignition = some false ∧ stop = payload.ts.epochMs ∨
        idleSince settings loaded payload = some stop ∧
          settings.endIdleSeconds * 1000 ≤ payload.ts.epochMs - stop) :
      Judged (.ended start stop
        { noted loaded payload with
          activeStartTs := none
          candidateStartTs := none
          idleSinceTs := none
          lastTripEndTs := some stop })

/-- An idle builder waits for a ride to begin. -/
theorem handleIdleState_idling :
    Idling settings loaded payload
      (handleIdleState settings (noted loaded payload) payload.ts.epochMs
        (decide (settings.startSpeedKph ≤ payload.speedKph))
        (decide (payload.ignition = some true))) := by
  rw [handleIdleState]
  split
  case isTrue started =>
    obtain ⟨on, warm⟩ := Bool.and_eq_true_iff.mp started
    refine .ignition (of_decide_eq_true on) ?_
    intro stop last
    have remembered : (noted loaded payload).lastTripEndTs = some stop := last
    rw [remembered, Option.any_some, Bool.not_eq_true', decide_eq_false_iff_not] at warm
    omega
  case isFalse =>
    split
    case isTrue => exact .still
    case isFalse moves =>
      have moving : Moving settings payload := by
        rw [Moving]
        simpa using moves
      cases waiting : loaded.candidateStartTs with
      | none =>
        have same : (noted loaded payload).candidateStartTs = none := waiting
        rw [same]
        exact .candidate moving waiting
      | some start =>
        have same : (noted loaded payload).candidateStartTs = some start := waiting
        rw [same]
        dsimp only
        split
        case isTrue long => exact .movement start moving waiting long
        case isFalse =>
          exact .waiting moving

/-- Every decision is judged by the packet and the state. -/
theorem decision_judged :
    Judged settings loaded payload (decision settings loaded payload) := by
  rw [decision]
  dsimp only
  split
  case isTrue late => exact .discard late
  case isFalse notLate =>
    have current : isLate loaded payload = false := Bool.not_eq_true _ ▸ notLate
    cases active : loaded.activeStartTs with
    | none => 
      have idling := handleIdleState_idling settings loaded payload
      simp only [noted, active] at idling
      exact .idle _ current active idling
    | some start =>
      dsimp only
      split
      case isTrue long => exact .tooLong start current active long
      case isFalse short =>
        by_cases slow : Slow settings payload
        case neg =>
          have fast : decide (settings.endSpeedKph ≤ payload.speedKph) = true :=
            decide_eq_true (not_lt.mp slow)
          have moves : idleSince settings loaded payload = none := if_neg slow
          rw [fast]
          simp only [Bool.not_true, Bool.and_false, Bool.false_and, Bool.not_false, Bool.and_true,
            if_true]
          have going : Judged settings loaded payload (.ongoing { noted loaded payload with
              idleSinceTs := idleSince settings loaded payload }) :=
            .ongoing start current active (not_le.mp short)
          rw [moves] at going
          simpa [noted, active] using going
        case pos =>
          have halted : decide (settings.endSpeedKph ≤ payload.speedKph) = false :=
            decide_eq_false (not_le.mpr slow)
          have idles : idleSince settings loaded payload =
              some (loaded.idleSinceTs.getD payload.ts.epochMs) := if_pos slow
          rw [halted]
          simp only [Bool.not_false, Bool.and_true, Bool.true_and, if_true, Option.any_some,
            Option.getD_some]
          split
          case isTrue =>
            have going : Judged settings loaded payload (.ongoing { noted loaded payload with
                idleSinceTs := idleSince settings loaded payload }) :=
              .ongoing start current active (not_le.mp short)
            rw [idles] at going
            simpa [noted, active] using going
          case isFalse stops =>
            split
            case isTrue long =>
              exact .ended start _ current active (not_le.mp short) slow
                (Or.inr ⟨idles, of_decide_eq_true long⟩)
            case isFalse brief =>
              have off : payload.ignition = some false := by
                simpa [brief] using stops
              exact .ended start _ current active (not_le.mp short) slow (Or.inl ⟨off, rfl⟩)

/-- Outside an active trip the ignition starts one, unless the last trip is remembered. -/
theorem decision_ignition (current : isLate loaded payload = false)
    (parked : loaded.activeStartTs = none) (on : payload.ignition = some true)
    (forgotten : loaded.lastTripEndTs = none) :
    ∃ state, decision settings loaded payload = .idle state ∧
      state.activeStartTs = some payload.ts.epochMs := by
  have started : (handleIdleState settings (noted loaded payload) payload.ts.epochMs
      (decide (settings.startSpeedKph ≤ payload.speedKph))
      (decide (payload.ignition = some true))).activeStartTs = some payload.ts.epochMs := by
    rw [handleIdleState]
    simp [noted, on, forgotten]
  have decided : decision settings loaded payload = .idle (handleIdleState settings
      (noted loaded payload) payload.ts.epochMs
      (decide (settings.startSpeedKph ≤ payload.speedKph))
      (decide (payload.ignition = some true))) := by
    have notLate : ¬ loaded.lastProcessedTs.any (fun lastProcessedTs =>
        decide (payload.ts.epochMs < lastProcessedTs)) = true := by
      rw [Bool.not_eq_true]
      exact current
    simp only [decision, noted, if_neg notLate, parked]
  exact ⟨_, decided, started⟩

end Decisions

/-! The past of a device -/

/-- The tables of a device, with notes on its past, the latest first: the packets that were
processed, those among them that followed the start of the active trip, and the rides that
have ended. -/
structure World where
  store : TripStore
  processed : List TelemetryPayload
  ofTrip : List TelemetryPayload
  ended : List (Span Int)

/-- The end of the last trip. -/
def World.lastTripEnd (world : World) : Option Int := world.ended.head?.map (·.stop)

/-- A device that is not known yet. -/
def newWorld (store : TripStore) : World :=
  ⟨{ store with state := none, finalizing := none }, [], [], []⟩

variable (builder : Builder)

/-- The notes about a packet. -/
def note (world : World) (payload : TelemetryPayload) (next : TripStore) : World :=
  match decision builder.settings world.store.loadState payload with
  | .discard => { world with store := next }
  | .idle _ => ⟨next, payload :: world.processed, [], world.ended⟩
  | .tooLong start =>
    ⟨next, payload :: world.processed, [], ⟨start, payload.ts.epochMs⟩ :: world.ended⟩
  | .ongoing _ => ⟨next, payload :: world.processed, payload :: world.ofTrip, world.ended⟩
  | .ended start stop _ => ⟨next, payload :: world.processed, [], ⟨start, stop⟩ :: world.ended⟩

/-- One packet, one point or some time. -/
def occur (world : World) : Event → World
  | .tick elapsed => { world with store := TripOrder.occur builder world.store (.tick elapsed) }
  | .storePoint point =>
    { world with store := TripOrder.occur builder world.store (.storePoint point) }
  | .process payload => note builder world payload (TripOrder.occur builder world.store (.process payload))

/-! What is to hold -/

/-- All packets from this one on are chosen; those before it are the last argument. -/
def Since (chosen : TelemetryPayload → Prop) (packets : List TelemetryPayload)
    (first : TelemetryPayload) (before : List TelemetryPayload) : Prop :=
  ∃ later, packets = later ++ first :: before ∧ ∀ packet ∈ later ++ [first], chosen packet

section Specification

variable (settings : TripSettings) (world : World) (payload : TelemetryPayload)

/-- The ignition is on, the cooldown after the last trip is over, and the trip begins with
the packet. -/
def BeginsByIgnition (start : Int) : Prop :=
  payload.ignition = some true ∧ Cooled settings world.lastTripEnd payload.ts.epochMs ∧
    start = payload.ts.epochMs

/-- The packets have been fast enough since one of this instant. -/
def MovingSince (packets : List TelemetryPayload) (instant : Int) : Prop :=
  ∃ first before, Since (Moving settings) packets first before ∧ first.ts.epochMs = instant

/-- The packets have moved fast enough since an earlier one, for long enough. -/
def BeginsByMovement (start : Int) : Prop :=
  Moving settings payload ∧ MovingSince settings world.processed start ∧
    settings.startMovementSeconds * 1000 ≤ payload.ts.epochMs - start

/-- The ignition is off, the bike is slow, and the trip ends with the packet. -/
def EndsByIgnition (stop : Int) : Prop :=
  payload.ignition = some false ∧ Slow settings payload ∧ stop = payload.ts.epochMs

/-- The packets have been slow since this instant, when the first of them came. -/
def SlowSince (packets : List TelemetryPayload) (instant : Int) : Prop :=
  ∃ first before, Since (Slow settings) packets first before ∧ first.ts.epochMs = instant ∧
    ∀ earlier ∈ before.head?, ¬ Slow settings earlier

/-- The packets of the trip have been slow since its end, for long enough. -/
def EndsByIdling (stop : Int) : Prop :=
  SlowSince settings (payload :: world.ofTrip) stop ∧
    settings.endIdleSeconds * 1000 ≤ payload.ts.epochMs - stop

/-- An active trip has no candidate, and idling belongs to an active trip. -/
structure Consistent (state : TripRuntimeState) : Prop where
  candidate : ∀ start, state.activeStartTs = some start → state.candidateStartTs = none
  idle : ∀ since, state.idleSinceTs = some since →
    ∃ start last, state.activeStartTs = some start ∧ state.lastProcessedTs = some last ∧
      start ≤ since ∧ since ≤ last

/-- What is specified of one event. -/
structure Specified (event : Event) (next : World) : Prop where
  begins : ∀ payload start, event = .process payload →
    world.store.loadState.activeStartTs = none → next.store.loadState.activeStartTs = some start →
    BeginsByIgnition settings world payload start ∨ BeginsByMovement settings world payload start
  ends : ∀ payload start, event = .process payload →
    world.store.loadState.activeStartTs = some start → next.store.loadState.activeStartTs = none →
    payload.ts.epochMs - start < settings.maxTripDurationSeconds * 1000 →
    ∃ stop, next.ended = ⟨start, stop⟩ :: world.ended ∧
      (EndsByIgnition settings payload stop ∨ EndsByIdling settings world payload stop)
  consistent : Consistent next.store.loadState

/-- A packet that may start a trip by its ignition, while the end of the last trip is
forgotten, comes after the cooldown all the same. -/
def Remembered (event : Event) (_next : World) : Prop :=
  ∀ payload, event = .process payload → payload.ignition = some true →
    isLate world.store.loadState payload = false → world.store.loadState.activeStartTs = none →
    world.store.loadState.lastTripEndTs = none →
    Cooled settings world.lastTripEnd payload.ts.epochMs

end Specification

/-! What the runtime state recalls -/

section Recall

variable {settings : TripSettings} {world : World} {loaded : TripRuntimeState}
  {payload : TelemetryPayload} {packets : List TelemetryPayload} {instant : Int}

/-- What the runtime state tells of the past is true. -/
structure Recalls (settings : TripSettings) (world : World) (state : TripRuntimeState) : Prop where
  lastTripEnd : ∀ stop, state.lastTripEndTs = some stop → world.lastTripEnd = some stop
  active : ∀ start, state.activeStartTs = some start →
    state.candidateStartTs = none ∧ ∃ last, state.lastProcessedTs = some last ∧ start ≤ last
  candidate : ∀ start, state.candidateStartTs = some start →
    MovingSince settings world.processed start ∧
      ∃ last, state.lastProcessedTs = some last ∧ start ≤ last
  idle : ∀ since, state.idleSinceTs = some since →
    SlowSince settings world.ofTrip since ∧
      ∃ start last, state.activeStartTs = some start ∧ state.lastProcessedTs = some last ∧
        start ≤ since ∧ since ≤ last
  awake : ∀ start, state.activeStartTs = some start → state.idleSinceTs = none →
    ∀ latest ∈ world.ofTrip.head?, ¬ Slow settings latest

/-- What is recalled is of the packets, wherever the runtime state is kept. -/
theorem Recalls.stored (recalls : Recalls settings world loaded) (store : TripStore) :
    Recalls settings { world with store } loaded :=
  ⟨recalls.lastTripEnd, recalls.active, recalls.candidate, recalls.idle, recalls.awake⟩

/-- The empty state recalls nothing. -/
theorem recalls_nothing : Recalls settings world emptyState := by
  refine ⟨?_, ?_, ?_, ?_, ?_⟩
  all_goals
    intro _ present
    cases present

/-- What is recalled is consistent. -/
theorem Recalls.consistent (recalls : Recalls settings world loaded) : Consistent loaded :=
  ⟨fun start active => (recalls.active start active).1, fun since idle => (recalls.idle since idle).2⟩

/-- A ride that goes on began when it did. -/
theorem movingSince_cons (moving : Moving settings payload)
    (since : MovingSince settings packets instant) :
    MovingSince settings (payload :: packets) instant := by
  obtain ⟨first, before, ⟨later, rfl, fast⟩, same⟩ := since
  refine ⟨first, before, ⟨payload :: later, rfl, ?_⟩, same⟩
  intro packet member
  cases member with
  | head => exact moving
  | tail _ earlier => exact fast packet earlier

/-- A ride may begin here. -/
theorem movingSince_here (moving : Moving settings payload) :
    MovingSince settings (payload :: packets) payload.ts.epochMs := by
  refine ⟨payload, packets, ⟨[], rfl, ?_⟩, rfl⟩
  intro packet member
  exact List.mem_singleton.mp member ▸ moving

/-- A rest that goes on began when it did. -/
theorem slowSince_cons (slow : Slow settings payload) (since : SlowSince settings packets instant) :
    SlowSince settings (payload :: packets) instant := by
  obtain ⟨first, before, ⟨later, rfl, still⟩, same, awake⟩ := since
  refine ⟨first, before, ⟨payload :: later, rfl, ?_⟩, same, awake⟩
  intro packet member
  cases member with
  | head => exact slow
  | tail _ earlier => exact still packet earlier

/-- A rest may begin here. -/
theorem slowSince_here (slow : Slow settings payload)
    (awake : ∀ latest ∈ packets.head?, ¬ Slow settings latest) :
    SlowSince settings (payload :: packets) payload.ts.epochMs := by
  refine ⟨payload, packets, ⟨[], rfl, ?_⟩, rfl, awake⟩
  intro packet member
  exact List.mem_singleton.mp member ▸ slow

/-- A packet that is not late is not older than what was processed. -/
theorem last_le (current : isLate loaded payload = false) {last : Int}
    (processed : loaded.lastProcessedTs = some last) : last ≤ payload.ts.epochMs := by
  rw [isLate, processed, Option.any_some, decide_eq_false_iff_not] at current
  omega

/-- Idling that is noted with a packet has begun in the trip, with the first slow packet. -/
theorem Recalls.idleSince (recalls : Recalls settings world loaded)
    (current : isLate loaded payload = false) {start since : Int}
    (active : loaded.activeStartTs = some start)
    (idle : idleSince settings loaded payload = some since) :
    SlowSince settings (payload :: world.ofTrip) since ∧ start ≤ since ∧
      since ≤ payload.ts.epochMs := by
  rw [TripSegmentation.idleSince] at idle
  split at idle
  case isFalse => cases idle
  case isTrue slow =>
    obtain rfl := Option.some.inj idle
    cases earlier : loaded.idleSinceTs with
    | none =>
      obtain ⟨_, last, processed, begun⟩ := recalls.active start active
      exact ⟨slowSince_here slow (recalls.awake start active earlier),
        le_trans begun (last_le current processed), le_refl _⟩
    | some since =>
      obtain ⟨still, began, last, sameStart, processed, begun, idled⟩ := recalls.idle since earlier
      obtain rfl := Option.some.inj (sameStart.symm.trans active)
      exact ⟨slowSince_cons slow still, begun, le_trans idled (last_le current processed)⟩

/-- The state that is kept without an active trip still recalls the past. -/
theorem Recalls.idling (recalls : Recalls settings world loaded)
    (current : isLate loaded payload = false) (parked : loaded.activeStartTs = none)
    {state : TripRuntimeState} (idling : Idling settings loaded payload state) (next : TripStore) :
    Recalls settings ⟨next, payload :: world.processed, [], world.ended⟩ state := by
  have unidle : loaded.idleSinceTs = none := by
    cases idle : loaded.idleSinceTs with
    | none => rfl
    | some since =>
      obtain ⟨_, start, _, active, _⟩ := recalls.idle since idle
      rw [parked] at active
      cases active
  have unmoved : ∀ latest ∈ ([] : List TelemetryPayload).head?, ¬ Slow settings latest := by
    intro latest member
    cases member
  cases idling with
  | ignition _ _ =>
    refine ⟨recalls.lastTripEnd, ?_, fun _ absent => (by cases absent),
      fun _ absent => (by cases absent), fun _ _ _ => unmoved⟩
    intro start active
    exact ⟨rfl, _, rfl, le_of_eq (Option.some.inj active).symm⟩
  | still =>
    refine ⟨recalls.lastTripEnd, ?_, fun _ absent => (by cases absent), ?_, fun _ _ _ => unmoved⟩
    · intro start active
      rw [noted, parked] at active
      cases active
    · intro since idle
      rw [noted, unidle] at idle
      cases idle
  | candidate moving _ =>
    refine ⟨recalls.lastTripEnd, ?_, ?_, ?_, fun _ _ _ => unmoved⟩
    · intro start active
      rw [noted, parked] at active
      cases active
    · intro start waiting
      obtain rfl := Option.some.inj waiting
      exact ⟨movingSince_here moving, _, rfl, le_refl _⟩
    · intro since idle
      rw [noted, unidle] at idle
      cases idle
  | movement began moving waiting _ =>
    refine ⟨recalls.lastTripEnd, ?_, fun _ absent => (by cases absent),
      fun _ absent => (by cases absent), fun _ _ _ => unmoved⟩
    intro start active
    obtain rfl := Option.some.inj active
    obtain ⟨_, last, processed, begun⟩ := recalls.candidate began waiting
    exact ⟨rfl, _, rfl, le_trans begun (last_le current processed)⟩
  | waiting moving =>
    refine ⟨recalls.lastTripEnd, ?_, ?_, ?_, fun _ _ _ => unmoved⟩
    · intro start active
      rw [noted, parked] at active
      cases active
    · intro start waiting
      obtain ⟨since, last, processed, begun⟩ := recalls.candidate start waiting
      exact ⟨movingSince_cons moving since, _, rfl, le_trans begun (last_le current processed)⟩
    · intro since idle
      rw [noted, unidle] at idle
      cases idle

/-- So does the state that is kept of a trip that goes on. -/
theorem Recalls.ongoing (recalls : Recalls settings world loaded)
    (current : isLate loaded payload = false) {start : Int}
    (active : loaded.activeStartTs = some start) (next : TripStore) :
    Recalls settings ⟨next, payload :: world.processed, payload :: world.ofTrip, world.ended⟩
      { noted loaded payload with
        idleSinceTs := TripSegmentation.idleSince settings loaded payload } := by
  obtain ⟨uncandidate, last, processed, begun⟩ := recalls.active start active
  refine ⟨recalls.lastTripEnd, ?_, ?_, ?_, ?_⟩
  · intro began same
    obtain rfl := Option.some.inj (same.symm.trans active)
    exact ⟨uncandidate, _, rfl, le_trans begun (last_le current processed)⟩
  · intro began waiting
    rw [noted, uncandidate] at waiting
    cases waiting
  · intro since idle
    obtain ⟨slow, after, before⟩ := recalls.idleSince current active idle
    exact ⟨slow, start, _, active, rfl, after, before⟩
  · intro _ _ awake latest member
    obtain rfl := Option.some.inj member
    intro slow
    rw [TripSegmentation.idleSince, if_pos slow] at awake
    cases awake

end Recall

/-! One event -/

section Steps

variable {builder : Builder} {store : TripStore} {world : World} {payload : TelemetryPayload}

/-- A finished trip leaves the mark. -/
theorem finalizeTrip_finalizing (builder : Builder) (store : TripStore) (ride : Span Int) :
    (store.finalizeTrip builder ride).finalizing = store.finalizing := by
  unfold TripStore.finalizeTrip TripStore.createTrip
  split
  case isTrue => rfl
  case isFalse =>
    split
    case isTrue => rfl
    case isFalse =>
      split
      case isTrue => rfl
      case isFalse => rfl

/-- What was just written is loaded. -/
theorem loadState_written {state : TripRuntimeState}
    (written : store.state = write state store.now STATE_TTL_MS) : store.loadState = state := by
  have alive : store.now < store.now + STATE_TTL_MS := by
    rw [STATE_TTL_MS]
    omega
  rw [TripStore.loadState, written, read_write_alive state alive, Option.getD_some]

/-- The runtime state that a decision leaves. -/
def resulting (loaded : TripRuntimeState) : Decision → TripRuntimeState
  | .discard => loaded
  | .idle state => state
  | .tooLong _ => emptyState
  | .ongoing state => state
  | .ended _ _ state => state

/-- Without the lock, the packet's decision is carried out. -/
theorem process_resulting (builder : Builder) (unlocked : store.finalizing = none)
    (payload : TelemetryPayload) :
    (store.processTelemetryForTrips builder payload).finalizing = none ∧
      (store.processTelemetryForTrips builder payload).loadState =
        resulting store.loadState (decision builder.settings store.loadState payload) := by
  unfold TripStore.processTelemetryForTrips
  cases decision builder.settings store.loadState payload with
  | discard => exact ⟨unlocked, rfl⟩
  | idle state =>
    have free : store.isFinalizing = false := by
      rw [TripStore.isFinalizing, unlocked, read_none, Option.isSome_none]
    simp only [free, Bool.false_eq_true, if_false]
    exact ⟨unlocked, loadState_written rfl⟩
  | tooLong start =>
    have finalized := TripOrder.finalizeTrip_finalized builder store.clearState
      ⟨start, payload.ts.epochMs⟩
    refine ⟨(finalizeTrip_finalizing builder store.clearState _).trans unlocked, ?_⟩
    dsimp only [resulting]
    rw [TripStore.loadState, finalized.state]
    rfl
  | ongoing state => exact ⟨unlocked, loadState_written rfl⟩
  | ended start stop state =>
    have finalized := TripOrder.finalizeTrip_finalized builder
      ((store.setFinalizing stop).saveState state) ⟨start, stop⟩
    refine ⟨rfl, loadState_written ?_⟩
    dsimp only [TripStore.clearFinalizing]
    rw [finalized.state, finalized.now]
    rfl

/-- No lock is left behind, and the runtime state recalls the past. -/
structure Known (builder : Builder) (world : World) : Prop where
  unlocked : world.store.finalizing = none
  recalls : Recalls builder.settings world world.store.loadState

/-- A new world is known. -/
theorem known_new (builder : Builder) (store : TripStore) : Known builder (newWorld store) :=
  ⟨rfl, recalls_nothing⟩

/-- A note leaves the store. -/
theorem note_store (world : World) (payload : TelemetryPayload) (next : TripStore) :
    (note builder world payload next).store = next := by
  unfold note
  cases decision builder.settings world.store.loadState payload <;> rfl

/-- Time can only lose the runtime state. -/
theorem loadState_later (store : TripStore) (elapsed : Nat) :
    ({ store with now := store.now + elapsed } : TripStore).loadState = store.loadState ∨
      ({ store with now := store.now + elapsed } : TripStore).loadState = emptyState := by
  unfold TripStore.loadState
  cases later : read store.state (store.now + elapsed) with
  | none => exact Or.inr rfl
  | some state =>
    rw [read_alive_earlier (by omega) later]
    exact Or.inl rfl

/-- A packet keeps the world known. -/
theorem known_process (known : Known builder world) (payload : TelemetryPayload) :
    Known builder (occur builder world (.process payload)) := by
  obtain ⟨unlocked, loaded⟩ := process_resulting builder known.unlocked payload
  have judged := decision_judged builder.settings world.store.loadState payload
  have recalls := known.recalls
  refine ⟨?_, ?_⟩
  · rw [occur, note_store]
    exact unlocked
  · rw [occur, note_store]
    rw [TripOrder.occur, loaded, note]
    cases decided : decision builder.settings world.store.loadState payload with
    | discard => exact recalls.stored _
    | idle state =>
      rw [decided] at judged
      cases judged with
      | idle _ current parked idling => exact recalls.idling current parked idling _
    | tooLong start => exact recalls_nothing
    | ongoing state =>
      rw [decided] at judged
      cases judged with
      | ongoing start current active _ => exact recalls.ongoing current active _
    | ended start stop state =>
      rw [decided] at judged
      cases judged with
      | ended _ _ _ _ _ _ _ =>
        exact ⟨fun _ same => same, fun _ absent => (by cases absent), fun _ absent => (by cases absent),
          fun _ absent => (by cases absent), fun _ absent => (by cases absent)⟩

/-- Every occurrence keeps the world known. -/
theorem known_occur (known : Known builder world) (event : Event) :
    Known builder (occur builder world event) := by
  have recalls := known.recalls
  cases event with
  | tick elapsed =>
    refine ⟨known.unlocked, ?_⟩
    rw [occur, TripOrder.occur]
    cases loadState_later world.store elapsed with
    | inl same =>
      rw [same]
      exact recalls.stored _
    | inr lost =>
      rw [lost]
      exact recalls_nothing
  | storePoint point => exact ⟨known.unlocked, recalls.stored _⟩
  | process payload => exact known_process known payload

/-- A packet begins a trip as it is specified, unless it may not know of the trip before. -/
theorem process_begins (known : Known builder world) (payload : TelemetryPayload)
    (remembered : Remembered builder.settings world (.process payload)
      (occur builder world (.process payload)))
    {start : Int} (parked : world.store.loadState.activeStartTs = none)
    (active : (occur builder world (.process payload)).store.loadState.activeStartTs = some start) :
    BeginsByIgnition builder.settings world payload start ∨
      BeginsByMovement builder.settings world payload start := by
  obtain ⟨_, loaded⟩ := process_resulting builder known.unlocked payload
  have judged := decision_judged builder.settings world.store.loadState payload
  rw [occur, note_store, TripOrder.occur, loaded] at active
  cases decided : decision builder.settings world.store.loadState payload with
  | discard =>
    rw [decided, resulting, parked] at active
    cases active
  | tooLong _ =>
    rw [decided] at active
    cases active
  | ongoing _ =>
    rw [decided] at judged
    cases judged with
    | ongoing _ _ going _ =>
      rw [parked] at going
      cases going
  | ended _ _ _ =>
    rw [decided] at judged
    cases judged with
    | ended _ _ _ going _ _ _ =>
      rw [parked] at going
      cases going
  | idle state =>
    rw [decided] at judged active
    cases judged with
    | idle _ current _ idling =>
      cases idling with
      | ignition on cooled =>
        refine Or.inl ⟨on, ?_, (Option.some.inj active).symm⟩
        cases last : world.store.loadState.lastTripEndTs with
        | none => exact remembered payload rfl on current parked last
        | some stop =>
          rw [Cooled, known.recalls.lastTripEnd stop last, ← last]
          exact cooled
      | still =>
        rw [resulting, noted, parked] at active
        cases active
      | candidate _ _ =>
        rw [resulting, noted, parked] at active
        cases active
      | movement began moving waiting long =>
        obtain rfl := Option.some.inj active
        exact Or.inr ⟨moving, (known.recalls.candidate began waiting).1, long⟩
      | waiting _ =>
        rw [resulting, noted, parked] at active
        cases active

/-- A packet ends a trip as it is specified. -/
theorem process_ends (known : Known builder world) (payload : TelemetryPayload) {start : Int}
    (active : world.store.loadState.activeStartTs = some start)
    (parked : (occur builder world (.process payload)).store.loadState.activeStartTs = none)
    (short : payload.ts.epochMs - start < builder.settings.maxTripDurationSeconds * 1000) :
    ∃ stop, (occur builder world (.process payload)).ended = ⟨start, stop⟩ :: world.ended ∧
      (EndsByIgnition builder.settings payload stop ∨
        EndsByIdling builder.settings world payload stop) := by
  obtain ⟨_, loaded⟩ := process_resulting builder known.unlocked payload
  have judged := decision_judged builder.settings world.store.loadState payload
  rw [occur, note_store, TripOrder.occur, loaded] at parked
  cases decided : decision builder.settings world.store.loadState payload with
  | discard =>
    rw [decided, resulting, active] at parked
    cases parked
  | idle _ =>
    rw [decided] at judged
    cases judged with
    | idle _ _ idle _ =>
      rw [active] at idle
      cases idle
  | tooLong _ =>
    rw [decided] at judged
    cases judged with
    | tooLong _ _ going long =>
      obtain rfl := Option.some.inj (active.symm.trans going)
      omega
  | ongoing _ =>
    rw [decided] at judged parked
    cases judged with
    | ongoing _ _ going _ =>
      rw [resulting, noted, active] at parked
      cases parked
  | ended began stop _ =>
    rw [decided] at judged
    cases judged with
    | ended _ _ current going _ slow cause =>
      obtain rfl := Option.some.inj (active.symm.trans going)
      refine ⟨stop, ?_, ?_⟩
      · rw [occur, note, decided]
      · cases cause with
        | inl off => exact Or.inl ⟨off.1, slow, off.2⟩
        | inr idles => exact Or.inr ⟨(known.recalls.idleSince current active idles.1).1, idles.2⟩

/-- Every event meets the specification, if the end of the last trip is not missed. -/
theorem occur_specified (known : Known builder world) {event : Event}
    (remembered : Remembered builder.settings world event (occur builder world event)) :
    Specified builder.settings world event (occur builder world event) := by
  refine ⟨?_, ?_, (known_occur known event).recalls.consistent⟩
  · rintro payload start rfl parked active
    exact process_begins known payload remembered parked active
  · rintro payload start rfl active parked short
    exact process_ends known payload active parked short

/-- A trip that begins too early is not as specified. -/
theorem remembered_of_specified (known : Known builder world)
    (positive : 0 < builder.settings.startMovementSeconds) {event : Event}
    (specified : Specified builder.settings world event (occur builder world event)) :
    Remembered builder.settings world event (occur builder world event) := by
  rintro payload rfl on current parked forgotten
  obtain ⟨_, loaded⟩ := process_resulting builder known.unlocked payload
  obtain ⟨state, decided, started⟩ := decision_ignition builder.settings world.store.loadState
    payload current parked on forgotten
  have active : (occur builder world (.process payload)).store.loadState.activeStartTs =
      some payload.ts.epochMs := by
    rw [occur, note_store, TripOrder.occur, loaded, decided]
    exact started
  cases specified.begins payload payload.ts.epochMs rfl parked active with
  | inl ignition => exact ignition.2.1
  | inr movement =>
    have long := movement.2.2
    omega

end Steps

/-- In every run of packets of one device whose ignition starts no trip within the cooldown
of a forgotten one, trips begin and end as specified and the runtime state is consistent. In
a run that breaks this, a trip begins too early. -/
theorem segmentation_specified (builder : Builder) (store : TripStore) (events : List Event) :
    (Along (total (occur builder)) (Remembered builder.settings) (newWorld store) events →
      Along (total (occur builder)) (Specified builder.settings) (newWorld store) events) ∧
    (0 < builder.settings.startMovementSeconds →
      Along (total (occur builder)) (Specified builder.settings) (newWorld store) events →
        Along (total (occur builder)) (Remembered builder.settings) (newWorld store) events) := by
  have onward : ∀ world event next, Known builder world →
      total (occur builder) world event = some next → Known builder next := by
    intro world event next known moved
    obtain rfl := Option.some.inj moved
    exact known_occur known event
  constructor
  case left =>
    intro remembered
    refine along_of_invariant (Known builder)
      (fun world event next known _ moved => onward world event next known moved) ?_
      (known_new builder store) remembered
    intro world event next known met moved
    obtain rfl := Option.some.inj moved
    exact occur_specified known met
  case right =>
    intro positive specified
    refine along_of_invariant (Known builder)
      (fun world event next known _ moved => onward world event next known moved) ?_
      (known_new builder store) specified
    intro world event next known met moved
    obtain rfl := Option.some.inj moved
    exact remembered_of_specified known positive met

/-- A ride of twelve hours with the ignition on, and the ignition again ten seconds after. -/
def bounce : List Event :=
  [.process (ridingAt 0), .process (ridingAt 43200000)]

/-- The guard against long trips loses the end of the trip, and the next trip begins in its
cooldown. -/
theorem cooldown_forgotten :
    ¬ ∀ (builder : Builder) (store : TripStore) (events : List Event),
      Along (total (occur builder)) (Specified builder.settings) (newWorld store) events := by
  intro claim
  have everywhere := claim defaultBuilder newStore
    (bounce ++ [Event.process (ridingAt 43210000)])
  rw [along_total_append, along_total_cons] at everywhere
  have begins := everywhere.2.1.begins (ridingAt 43210000) 43210000 rfl (by decide +kernel)
    (by decide +kernel)
  cases begins with
  | inl ignition =>
    have cooled := ignition.2.1 43200000 (by decide +kernel)
    exact absurd cooled (by decide +kernel)
  | inr movement => exact absurd movement.2.2 (by decide +kernel)

end EmotoFleet.TripSegmentation
