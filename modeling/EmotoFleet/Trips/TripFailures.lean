import EmotoFleet.Trips.TripOrder

/-!
# Trips whose finalisation fails

A trip is finalised once the runtime state has been saved or cleared. The accesses to the
database follow one after another, without a transaction, and the summary of the trip goes
to a stream. An access that fails ends the handler, and what was done before stays done; a
write that fails may have been carried out, with only the answer lost. The accesses to
the cache fall back to the memory of the process and do not fail.
-/

namespace EmotoFleet.TripFailures

open Expiring
open EmotoFleet.Spans
open EmotoFleet.TripBuilder
open EmotoFleet.Billing (Trip overlaps)
open EmotoFleet.TheftRules (TelemetryPayload)
open EmotoFleet.TripOrder (overlaps_tripOf)

/-- The accesses of a finalisation that can fail, in their order. -/
inductive StoreOperation where
  | findTelemetryPoints
  | groupEvents
  | findAssignment
  | deleteTrips
  | createTrip
  | addToStream
  deriving DecidableEq

/-- The access that fails, and whether the store has carried it out. -/
structure Fault where
  operation : StoreOperation
  applied : Bool
  deriving DecidableEq

/-- One access. A failure hands on the store as it was left. -/
def attempt (fault : Option Fault) (operation : StoreOperation) (effect : TripStore → TripStore)
    (store : TripStore) : Except TripStore TripStore :=
  match fault with
  | none => .ok (effect store)
  | some fault =>
    if fault.operation = operation then .error (if fault.applied then effect store else store)
    else .ok (effect store)

variable (builder : Builder) (fault : Option Fault)

/-- A trip whose key is taken is dropped, and there is a summary only of one that was
created. -/
def publishTripSummary (streamEnabled : Bool) (ride : Span Int) (before created : TripStore) :
    Except TripStore TripStore :=
  if isTaken before.trips (tripOf builder ride) || !streamEnabled then .ok created
  else attempt fault .addToStream id created

def finalizeTrip (streamEnabled : Bool) (ride : Span Int) (store : TripStore) :
    Except TripStore TripStore :=
  if ride.stop ≤ ride.start then .ok store
  else do
    let gathered ← attempt fault .findTelemetryPoints id store
    if isNoise builder gathered.telemetry ride then .ok gathered
    else do
      let counted ← attempt fault .groupEvents id gathered
      let assigned ← attempt fault .findAssignment id counted
      let cleared ← attempt fault .deleteTrips (·.deleteTrips builder ride) assigned
      let created ← attempt fault .createTrip (·.createTrip builder ride) cleared
      publishTripSummary builder fault streamEnabled ride cleared created

def processTelemetryForTrips (streamEnabled : Bool) (payload : TelemetryPayload)
    (store : TripStore) : Except TripStore TripStore :=
  match decision builder.settings store.loadState payload with
  | .discard => .ok store
  | .idle state => .ok (if store.isFinalizing then store else store.saveState state)
  | .tooLong activeStartTs =>
    finalizeTrip builder fault streamEnabled ⟨activeStartTs, payload.ts.epochMs⟩ store.clearState
  | .ongoing state => .ok (store.saveState state)
  | .ended activeStartTs tripEndTs state => do
    let finalized ← finalizeTrip builder fault streamEnabled ⟨activeStartTs, tripEndTs⟩
      ((store.setFinalizing tripEndTs).saveState state)
    .ok finalized.clearFinalizing

/-- Where nothing fails, this is the handler of the trip builder. -/
theorem processTelemetryForTrips_of_no_fault (streamEnabled : Bool) (payload : TelemetryPayload)
    (store : TripStore) :
    processTelemetryForTrips builder none streamEnabled payload store =
      .ok (store.processTelemetryForTrips builder payload) := by
  have finalizes : ∀ (ride : Span Int) (before : TripStore),
      finalizeTrip builder none streamEnabled ride before = .ok (before.finalizeTrip builder ride) := by
    intro ride before
    rw [finalizeTrip, TripStore.finalizeTrip]
    split
    case isTrue => rfl
    case isFalse =>
      change (if isNoise builder before.telemetry ride then _ else _) = _
      split
      case isTrue => rfl
      case isFalse =>
        change publishTripSummary builder none streamEnabled ride _ _ = _
        rw [publishTripSummary]
        split <;> rfl
  rw [processTelemetryForTrips, TripStore.processTelemetryForTrips]
  cases decision builder.settings store.loadState payload with
  | discard => rfl
  | idle state => rfl
  | tooLong activeStartTs => exact finalizes _ _
  | ongoing state => rfl
  | ended activeStartTs tripEndTs state =>
    dsimp only
    rw [finalizes]
    rfl

/-! ## What a failure leaves -/

/-- The ride that a packet ends. -/
def endedRide (store : TripStore) (payload : TelemetryPayload) : Option (Span Int) :=
  match decision builder.settings store.loadState payload with
  | .tooLong activeStartTs => some ⟨activeStartTs, payload.ts.epochMs⟩
  | .ended activeStartTs tripEndTs _ => some ⟨activeStartTs, tripEndTs⟩
  | .discard | .idle _ | .ongoing _ => none

/-- The trip is stored, or the runtime state still has its start, and all trips that were
stored before are there. -/
structure Atomic (store : TripStore) (ride : Span Int) (left : TripStore) : Prop where
  kept : tripOf builder ride ∈ left.trips ∨ left.loadState.activeStartTs = some ride.start
  intact : ∀ trip ∈ store.trips, trip ∈ left.trips

/-- No other trip is deleted for the ride. -/
def Spares (trips : List Trip) (ride : Span Int) : Prop :=
  ∀ trip ∈ trips, overlaps trip (tripOf builder ride) = true → trip = tripOf builder ride

/-- The access that fails leaves the ride stored. Before the trips are deleted this means
that it was stored earlier; afterwards, that it is created and no other had to be deleted. -/
def KeepsRide (trips : List Trip) (ride : Span Int) (fault : Fault) : Prop :=
  match fault.operation with
  | .findTelemetryPoints | .groupEvents | .findAssignment => tripOf builder ride ∈ trips
  | .deleteTrips => fault.applied = false ∧ tripOf builder ride ∈ trips
  | .createTrip => fault.applied = true ∧ Spares builder trips ride ∧
      isTaken (deleteOverlaps trips (tripOf builder ride)) (tripOf builder ride) = false
  | .addToStream => Spares builder trips ride

/-- The store that a failing access leaves behind. -/
def leftBy (fault : Fault) (ride : Span Int) (store : TripStore) : TripStore :=
  match fault.operation with
  | .findTelemetryPoints | .groupEvents | .findAssignment => store
  | .deleteTrips => if fault.applied then store.deleteTrips builder ride else store
  | .createTrip =>
    if fault.applied then (store.deleteTrips builder ride).createTrip builder ride
    else store.deleteTrips builder ride
  | .addToStream => (store.deleteTrips builder ride).createTrip builder ride

section Leaving

variable {builder} {fault : Fault} {trips : List Trip} {ride : Span Int} {store left : TripStore}

theorem attempt_failed {operation : StoreOperation} {effect : TripStore → TripStore}
    (failed : attempt (some fault) operation effect store = .error left) :
    fault.operation = operation ∧ left = if fault.applied then effect store else store := by
  rw [attempt] at failed
  split at failed
  case isTrue same => exact ⟨same, (Except.error.inj failed).symm⟩
  case isFalse => cases failed

theorem attempt_passed {operation : StoreOperation} {effect : TripStore → TripStore}
    {next : TripStore} (passed : attempt (some fault) operation effect store = .ok next) :
    next = effect store := by
  rw [attempt] at passed
  split at passed
  case isTrue => cases passed
  case isFalse => exact (Except.ok.inj passed).symm

/-- A read that fails leaves the store alone. -/
theorem read_failed {operation : StoreOperation}
    (failed : attempt (some fault) operation id store = .error left) :
    fault.operation = operation ∧ left = store := by
  obtain ⟨same, unchanged⟩ := attempt_failed failed
  exact ⟨same, unchanged.trans (ite_self store)⟩

theorem bind_failed {first : Except TripStore TripStore}
    {rest : TripStore → Except TripStore TripStore} (failed : (first >>= rest) = .error left) :
    first = .error left ∨ ∃ next, first = .ok next ∧ rest next = .error left := by
  cases first with
  | error other => exact Or.inl failed
  | ok next => exact Or.inr ⟨next, rfl, failed⟩

/-- A finalisation fails only for a ride of some length, and for its summary only if the trip
was created. -/
theorem finalizeTrip_failed {streamEnabled : Bool}
    (failed : finalizeTrip builder (some fault) streamEnabled ride store = .error left) :
    ride.start < ride.stop ∧ left = leftBy builder fault ride store ∧
      (fault.operation = .addToStream →
        isTaken (deleteOverlaps store.trips (tripOf builder ride)) (tripOf builder ride) = false) := by
  rw [finalizeTrip] at failed
  split at failed
  case isTrue => cases failed
  case isFalse lasting =>
    refine ⟨lt_of_not_ge lasting, ?_⟩
    rw [leftBy]
    rcases bind_failed failed with points | ⟨gathered, passed, gathering⟩
    · obtain ⟨same, rfl⟩ := read_failed points
      rw [same]
      exact ⟨rfl, fun other => nomatch other⟩
    obtain rfl := attempt_passed passed
    split at gathering
    case isTrue => cases gathering
    case isFalse =>
      rcases bind_failed gathering with events | ⟨counted, passed, counting⟩
      · obtain ⟨same, rfl⟩ := read_failed events
        rw [same]
        exact ⟨rfl, fun other => nomatch other⟩
      obtain rfl := attempt_passed passed
      rcases bind_failed counting with assignment | ⟨assigned, passed, assigning⟩
      · obtain ⟨same, rfl⟩ := read_failed assignment
        rw [same]
        exact ⟨rfl, fun other => nomatch other⟩
      obtain rfl := attempt_passed passed
      rcases bind_failed assigning with deletion | ⟨cleared, passed, clearing⟩
      · obtain ⟨same, rfl⟩ := attempt_failed deletion
        rw [same]
        exact ⟨rfl, fun other => nomatch other⟩
      obtain rfl := attempt_passed passed
      rcases bind_failed clearing with creation | ⟨created, passed, creating⟩
      · obtain ⟨same, rfl⟩ := attempt_failed creation
        rw [same]
        exact ⟨rfl, fun other => nomatch other⟩
      obtain rfl := attempt_passed passed
      rw [publishTripSummary] at creating
      split at creating
      case isTrue => cases creating
      case isFalse shown =>
        obtain ⟨same, rfl⟩ := read_failed creating
        rw [same]
        rw [Bool.or_eq_true, not_or] at shown
        exact ⟨rfl, fun _ => Bool.eq_false_iff.mpr shown.1⟩

/-- A ride of some length overlaps itself. -/
theorem not_mem_deleteOverlaps (lasting : ride.start < ride.stop) :
    tripOf builder ride ∉ deleteOverlaps trips (tripOf builder ride) := by
  intro spared
  have apart := (List.mem_filter.mp spared).2
  rw [Bool.not_eq_true', Bool.eq_false_iff, ne_eq, overlaps_tripOf, Classical.not_not] at apart
  rcases apart with before | after
  · exact absurd (lt_of_lt_of_le lasting before) (lt_irrefl _)
  · exact absurd (lt_of_lt_of_le lasting after) (lt_irrefl _)

/-- After the deletion and the creation exactly the other trips are missing that had to be
deleted. -/
theorem intact_iff_spares :
    (∀ trip ∈ trips, trip ∈ deleteOverlaps trips (tripOf builder ride) ++ [tripOf builder ride]) ↔
      Spares builder trips ride := by
  refine forall₂_congr fun trip stored => ?_
  rw [List.mem_append, List.mem_singleton, deleteOverlaps, List.mem_filter, Bool.not_eq_true']
  cases overlapping : overlaps trip (tripOf builder ride) with
  | true => simp
  | false => simp [stored]

theorem createTrip_trips (store : TripStore) (ride : Span Int) :
    (store.createTrip builder ride).trips =
      if isTaken store.trips (tripOf builder ride) then store.trips
      else store.trips ++ [tripOf builder ride] := by
  rw [TripStore.createTrip]
  split <;> rfl

/-- No failure changes the runtime state. -/
theorem leftBy_loadState (saved : TripStore) :
    (leftBy builder fault ride saved).loadState = saved.loadState := by
  have created : ∀ before : TripStore,
      (before.createTrip builder ride).loadState = before.loadState := by
    intro before
    rw [TripStore.createTrip]
    split <;> rfl
  rw [leftBy]
  cases fault.operation with
  | findTelemetryPoints | groupEvents | findAssignment => rfl
  | deleteTrips => dsimp only; split <;> rfl
  | createTrip =>
    dsimp only
    split
    · exact created _
    · rfl
  | addToStream => exact created _

/-- Exactly a failure that leaves the ride stored leaves it and all trips from before. -/
theorem stored_leftBy_iff {saved : TripStore} (sameTrips : saved.trips = trips)
    (lasting : ride.start < ride.stop)
    (created : fault.operation = .addToStream →
      isTaken (deleteOverlaps trips (tripOf builder ride)) (tripOf builder ride) = false) :
    (tripOf builder ride ∈ (leftBy builder fault ride saved).trips ∧
        ∀ trip ∈ trips, trip ∈ (leftBy builder fault ride saved).trips) ↔
      KeepsRide builder trips ride fault := by
  have deleted : (saved.deleteTrips builder ride).trips =
      deleteOverlaps trips (tripOf builder ride) := by
    rw [TripStore.deleteTrips, sameTrips]
  have missing := @not_mem_deleteOverlaps builder trips ride lasting
  have creation : isTaken (deleteOverlaps trips (tripOf builder ride)) (tripOf builder ride) = false →
      ((saved.deleteTrips builder ride).createTrip builder ride).trips =
        deleteOverlaps trips (tripOf builder ride) ++ [tripOf builder ride] := by
    intro untaken
    rw [createTrip_trips, deleted, untaken, if_neg Bool.false_ne_true]
  obtain ⟨operation, applied⟩ := fault
  cases operation with
  | findTelemetryPoints | groupEvents | findAssignment =>
    simp only [leftBy, KeepsRide, sameTrips, and_iff_left_iff_imp]
    exact fun _ _ listed => listed
  | deleteTrips =>
    cases applied with
    | false =>
      simp only [leftBy, KeepsRide, sameTrips, Bool.false_eq_true, if_false, true_and,
        and_iff_left_iff_imp]
      exact fun _ _ listed => listed
    | true =>
      simp only [leftBy, KeepsRide, deleted, if_true, Bool.true_eq_false, false_and, iff_false,
        not_and]
      exact fun listed => absurd listed missing
  | createTrip =>
    cases applied with
    | false =>
      simp only [leftBy, KeepsRide, deleted, Bool.false_eq_true, if_false, false_and, iff_false,
        not_and]
      exact fun listed => absurd listed missing
    | true =>
      simp only [leftBy, KeepsRide, if_true, true_and]
      cases taken : isTaken (deleteOverlaps trips (tripOf builder ride)) (tripOf builder ride) with
      | false =>
        rw [creation taken, intact_iff_spares]
        simp only [List.mem_append, List.mem_singleton, or_true, true_and, and_true]
      | true =>
        rw [createTrip_trips, deleted, taken, if_pos rfl]
        exact iff_of_false (fun both => missing both.1) (fun both => nomatch both.2)
  | addToStream =>
    simp only [leftBy, KeepsRide]
    rw [creation (created rfl), intact_iff_spares]
    simp only [List.mem_append, List.mem_singleton, or_true, true_and]

/-- Where the runtime state does not have the start of the ride any more, a failure is atomic
exactly if it leaves the ride stored. -/
theorem atomic_leftBy_iff {saved : TripStore} (sameTrips : saved.trips = store.trips)
    (forgotten : saved.loadState.activeStartTs = none) (lasting : ride.start < ride.stop)
    (created : fault.operation = .addToStream →
      isTaken (deleteOverlaps store.trips (tripOf builder ride)) (tripOf builder ride) = false) :
    Atomic builder store ride (leftBy builder fault ride saved) ↔
      KeepsRide builder store.trips ride fault := by
  rw [← stored_leftBy_iff sameTrips lasting created]
  constructor
  · rintro ⟨kept | active, intact⟩
    · exact ⟨kept, intact⟩
    · rw [leftBy_loadState, forgotten] at active
      cases active
  · exact fun both => ⟨Or.inl both.1, both.2⟩

/-- A packet that ends a trip takes its start out of the runtime state. -/
theorem ended_forgets {settings : TripSettings} {loaded state : TripRuntimeState}
    {payload : TelemetryPayload} {start stop : Int}
    (decided : decision settings loaded payload = .ended start stop state) :
    state.activeStartTs = none := by
  rw [decision] at decided
  split at decided
  case isTrue => cases decided
  case isFalse =>
    dsimp only at decided
    split at decided
    case h_1 => cases decided
    case h_2 =>
      split at decided
      case isTrue => cases decided
      case isFalse =>
        -- the idling is decided first, since the end of the trip depends on it
        split at decided
        all_goals
          split at decided
          case isTrue => cases decided
          case isFalse =>
            cases decided
            rfl

end Leaving

/-- A failure in the finalisation of a trip leaves the trip stored or its start in the runtime
state, with all earlier trips, exactly if the access that fails keeps the ride. -/
theorem failed_finalisation_iff (builder : Builder) (streamEnabled : Bool) (store left : TripStore)
    (payload : TelemetryPayload) (ride : Span Int) (fault : Fault)
    (ends : endedRide builder store payload = some ride)
    (failed : processTelemetryForTrips builder (some fault) streamEnabled payload store =
      .error left) :
    Atomic builder store ride left ↔ KeepsRide builder store.trips ride fault := by
  rw [endedRide] at ends
  rw [processTelemetryForTrips] at failed
  cases decided : decision builder.settings store.loadState payload with
  | discard | idle state | ongoing state =>
    rw [decided] at ends
    cases ends
  | tooLong start =>
    rw [decided] at ends failed
    cases ends
    obtain ⟨lasting, rfl, created⟩ := finalizeTrip_failed failed
    exact atomic_leftBy_iff rfl rfl lasting created
  | ended start stop state =>
    rw [decided] at ends failed
    cases ends
    rcases bind_failed failed with finalisation | ⟨finalized, _, cleared⟩
    case inr => cases cleared
    case inl =>
      obtain ⟨lasting, rfl, created⟩ := finalizeTrip_failed finalisation
      have reloaded : ((store.setFinalizing stop).saveState state).loadState = state := by
        rw [TripStore.loadState, TripStore.saveState]
        dsimp only
        rw [read_write_alive state (Int.lt_add_of_pos_right _ (by decide))]
        rfl
      have forgotten : ((store.setFinalizing stop).saveState state).loadState.activeStartTs = none := by
        rw [reloaded]
        exact ended_forgets decided
      exact @atomic_leftBy_iff builder fault ⟨start, stop⟩ store _ rfl forgotten lasting created

/-- A bike that has been ridden for two minutes and is parked. -/
def riding : TripStore where
  now := 120000
  state := write ⟨some 0, none, none, some 0, none⟩ 0 STATE_TTL_MS
  finalizing := none
  telemetry := [pointAt 0 (-2), pointAt 120000 (-1)]
  trips := []
  created := []

/-- What the packet at the end of the ride comes to with a failure. -/
def parkedWith (fault : Fault) : Except TripStore TripStore :=
  processTelemetryForTrips defaultBuilder (some fault) true (parkedAt 120000) riding

/-- The store that a failing handler leaves. -/
def leftAfter (result : Except TripStore TripStore) : TripStore :=
  match result with
  | .ok store => store
  | .error store => store

theorem parkedWith_failed {fault : Fault}
    (shown : (match parkedWith fault with | .ok _ => false | .error _ => true) = true) :
    parkedWith fault = .error (leftAfter (parkedWith fault)) := by
  cases outcome : parkedWith fault with
  | ok store =>
    rw [outcome] at shown
    cases shown
  | error store => rfl

/-- The stream fails after the trip has been created. -/
theorem failed_finalisation_iff_summary :
    Atomic defaultBuilder riding ⟨0, 120000⟩ (leftAfter (parkedWith ⟨.addToStream, false⟩)) ↔
      KeepsRide defaultBuilder riding.trips ⟨0, 120000⟩ ⟨.addToStream, false⟩ :=
  failed_finalisation_iff defaultBuilder true riding _ (parkedAt 120000) ⟨0, 120000⟩
    ⟨.addToStream, false⟩ (by decide +kernel) (parkedWith_failed (by decide +kernel))

/-- The creation fails, and the ride is lost. -/
theorem failed_creation_loses_ride :
    ¬ ∀ (builder : Builder) (streamEnabled : Bool) (store left : TripStore)
      (payload : TelemetryPayload) (ride : Span Int) (fault : Fault),
      endedRide builder store payload = some ride →
      processTelemetryForTrips builder (some fault) streamEnabled payload store = .error left →
      Atomic builder store ride left := by
  intro claim
  have atomic := claim defaultBuilder true riding _ (parkedAt 120000) ⟨0, 120000⟩
    ⟨.createTrip, false⟩ (by decide +kernel) (parkedWith_failed (by decide +kernel))
  have lost : tripOf defaultBuilder ⟨0, 120000⟩ ∉
        (leftAfter (parkedWith ⟨.createTrip, false⟩)).trips ∧
      (leftAfter (parkedWith ⟨.createTrip, false⟩)).loadState.activeStartTs ≠ some 0 := by
    decide +kernel
  rcases atomic.kept with stored | active
  case inl => exact lost.1 stored
  case inr => exact lost.2 active

end EmotoFleet.TripFailures
