import EmotoFleet.Foundations.Runs
import EmotoFleet.Trips.RuntimeState

/-!
# Trips that are never destroyed

The packets of a device are processed one after another, with any timestamps. The trips
they create follow one another and stay in the table as long as the runtime state is
kept. The state is lost when a trip that lasts too long is ended, and after a day
without packets; a packet that comes then must not be older than the trips before.
-/

namespace EmotoFleet.TripOrder

open Expiring
open EmotoFleet.Runs
open EmotoFleet.Spans
open EmotoFleet.TripBuilder
open EmotoFleet.Billing (Trip overlaps defaultFleet)
open EmotoFleet.TheftRules (TelemetryPayload RuleDeviceContext)
open EmotoFleet.Ingestion (TelemetryPoint upsertTelemetryPoint)

/-- What happens to the device's tables: time passes, a point is stored, a packet is
processed. -/
inductive Event where
  | tick (elapsed : Nat)
  | storePoint (point : TelemetryPoint)
  | process (payload : TelemetryPayload)

variable (builder : Builder)

def occur (store : TripStore) : Event → TripStore
  | .tick elapsed => { store with now := store.now + elapsed }
  | .storePoint point => { store with telemetry := upsertTelemetryPoint store.telemetry point }
  | .process payload => store.processTelemetryForTrips builder payload

/-- No trip that the device created before is deleted, and the trips that it has created
are apart. -/
def Safe (store : TripStore) (_event : Event) (next : TripStore) : Prop :=
  (∀ ride ∈ store.created, tripOf builder ride ∈ next.trips) ∧
    next.created.Pairwise Span.Apart

/-- A packet that finds no runtime state is not older than the end of any trip that the
device has created. -/
def OnTime (store : TripStore) (event : Event) (_next : TripStore) : Prop :=
  ∀ payload, event = .process payload → read store.state store.now = none →
    OverBy store.created payload.ts.epochMs

/-! Finalisation -/

variable {builder} {store : TripStore} {ride : Span Int}

/-- The table's notion of an overlap. Trips that only touch do not overlap. -/
theorem overlaps_tripOf (one other : Span Int) :
    overlaps (tripOf builder one) (tripOf builder other) = true ↔ ¬ one.Apart other := by
  have columns : overlaps (tripOf builder one) (tripOf builder other) = true ↔
      one.start < other.stop ∧ other.start < one.stop := by
    rw [overlaps, Bool.and_eq_true, Bool.and_eq_true]
    constructor
    · rintro ⟨⟨_, starts⟩, stops⟩
      exact ⟨of_decide_eq_true starts, of_decide_eq_true stops⟩
    · rintro ⟨starts, stops⟩
      exact ⟨⟨decide_eq_true rfl, decide_eq_true starts⟩, decide_eq_true stops⟩
  rw [columns, Span.Apart, Span.Before, Span.Before, not_or, not_le, not_le, and_comm]

/-- What a finalisation leaves. -/
structure Finalized (builder : Builder) (store : TripStore) (ride : Span Int) (next : TripStore) :
    Prop where
  state : next.state = store.state
  now : next.now = store.now
  created : next.created = store.created ∨
    next.created = store.created ++ [ride] ∧ ride.start < ride.stop ∧
      tripOf builder ride ∈ next.trips
  spared : ∀ other : Span Int, other.Apart ride → tripOf builder other ∈ store.trips →
    tripOf builder other ∈ next.trips

theorem deleteTrips_spared {other : Span Int} (apart : other.Apart ride)
    (stored : tripOf builder other ∈ store.trips) :
    tripOf builder other ∈ (store.deleteTrips builder ride).trips := by
  apply List.mem_filter.mpr
  refine ⟨stored, ?_⟩
  rw [Bool.not_eq_true', ← Bool.not_eq_true, overlaps_tripOf]
  exact not_not_intro apart

theorem finalizeTrip_finalized (builder : Builder) (store : TripStore) (ride : Span Int) :
    Finalized builder store ride (store.finalizeTrip builder ride) := by
  unfold TripStore.finalizeTrip
  by_cases empty : ride.stop ≤ ride.start
  · rw [if_pos empty]
    exact ⟨rfl, rfl, Or.inl rfl, fun _ _ stored => stored⟩
  · rw [if_neg empty]
    by_cases noise : isNoise builder store.telemetry ride = true
    · rw [if_pos noise]
      exact ⟨rfl, rfl, Or.inl rfl, fun _ _ stored => stored⟩
    · rw [if_neg noise]
      unfold TripStore.createTrip
      by_cases taken : isTaken (store.deleteTrips builder ride).trips (tripOf builder ride) = true
      · rw [if_pos taken]
        exact ⟨rfl, rfl, Or.inl rfl, fun _ apart stored => deleteTrips_spared apart stored⟩
      · rw [if_neg taken]
        refine ⟨rfl, rfl, Or.inr ⟨rfl, not_le.mp empty, ?_⟩, ?_⟩
        · exact List.mem_append_right _ (List.mem_singleton_self _)
        · intro other apart stored
          exact List.mem_append_left _ (deleteTrips_spared apart stored)

/-! The invariant -/

/-- The trips created so far follow one another, are still stored, and the runtime state
reaches beyond them. -/
structure Guarded (builder : Builder) (store : TripStore) : Prop where
  chronicle : Chronicle store.created
  stored : ∀ ride ∈ store.created, tripOf builder ride ∈ store.trips
  covers : ∀ entry, store.state = some entry → Covers store.created entry.value

/-- A ride that starts when the earlier ones are over is written beside them. -/
theorem Guarded.finalize {next : TripStore} (guarded : Guarded builder store)
    (finalized : Finalized builder store ride next) (after : OverBy store.created ride.start)
    (covers : ∀ entry, store.state = some entry → Covers (store.created ++ [ride]) entry.value) :
    Guarded builder next ∧ ∀ earlier ∈ store.created, tripOf builder earlier ∈ next.trips := by
  have kept : ∀ earlier ∈ store.created, tripOf builder earlier ∈ next.trips := by
    intro earlier member
    exact finalized.spared earlier (Or.inl (after earlier member)) (guarded.stored earlier member)
  refine ⟨?_, kept⟩
  cases finalized.created with
  | inl same =>
    refine ⟨same ▸ guarded.chronicle, ?_, ?_⟩
    · rw [same]
      exact kept
    · rw [same, finalized.state]
      intro entry present
      exact (covers entry present).mono fun _ member => List.mem_append_left _ member
  | inr added =>
    obtain ⟨same, proper, written⟩ := added
    refine ⟨?_, ?_, ?_⟩
    · rw [same]
      exact guarded.chronicle.append proper after
    · rw [same]
      intro earlier member
      cases List.mem_append.mp member with
      | inl old => exact kept earlier old
      | inr new =>
        rw [List.mem_singleton.mp new]
        exact written
    · rw [same, finalized.state]
      exact covers

theorem Guarded.save {state : TripRuntimeState} (guarded : Guarded builder store)
    (covers : Covers store.created state) : Guarded builder (store.saveState state) := by
  refine ⟨guarded.chronicle, guarded.stored, ?_⟩
  intro entry present
  obtain rfl := Option.some.inj present
  exact covers

/-- The loaded state is fit to judge the packet. -/
theorem Guarded.ready (guarded : Guarded builder store) {payload : TelemetryPayload}
    (onTime : read store.state store.now = none → OverBy store.created payload.ts.epochMs) :
    Ready store.created store.loadState payload.ts.epochMs := by
  unfold TripStore.loadState
  cases loaded : read store.state store.now with
  | none => exact Or.inr ⟨rfl, onTime loaded⟩
  | some state =>
    obtain ⟨entry, present, _, rfl⟩ := (read_eq_some_iff _ _ _).mp loaded
    exact Or.inl (guarded.covers entry present)

theorem process_guarded (guarded : Guarded builder store) {payload : TelemetryPayload}
    (onTime : read store.state store.now = none → OverBy store.created payload.ts.epochMs) :
    Guarded builder (store.processTelemetryForTrips builder payload) ∧
      ∀ ride ∈ store.created,
        tripOf builder ride ∈ (store.processTelemetryForTrips builder payload).trips := by
  have decided := decision_covers builder.settings (guarded.ready onTime)
  unfold TripStore.processTelemetryForTrips
  cases decided' : decision builder.settings store.loadState payload with
  | discard => exact ⟨guarded, guarded.stored⟩
  | idle state =>
    rw [decided'] at decided
    cases decided with
    | idle _ covers =>
      simp only []
      split
      · exact ⟨guarded, guarded.stored⟩
      · exact ⟨guarded.save covers, guarded.stored⟩
  | ongoing state =>
    rw [decided'] at decided
    cases decided with
    | ongoing _ covers => exact ⟨guarded.save covers, guarded.stored⟩
  | tooLong start =>
    rw [decided'] at decided
    cases decided with
    | tooLong _ after =>
      have cleared : Guarded builder store.clearState :=
        ⟨guarded.chronicle, guarded.stored, fun _ present => by cases present⟩
      have finalized := finalizeTrip_finalized builder store.clearState
        ⟨start, payload.ts.epochMs⟩
      exact cleared.finalize finalized after fun _ present => by cases present
  | ended start stop state =>
    rw [decided'] at decided
    cases decided with
    | ended _ _ _ after within covers =>
      have reduced := covers.mono fun _ member => List.mem_append_left _ member
      have locked : Guarded builder (store.setFinalizing stop) :=
        ⟨guarded.chronicle, guarded.stored, guarded.covers⟩
      have saved : Guarded builder ((store.setFinalizing stop).saveState state) := locked.save reduced
      have finalized := finalizeTrip_finalized builder ((store.setFinalizing stop).saveState state)
        ⟨start, stop⟩
      obtain ⟨after, kept⟩ := saved.finalize finalized after (by
        intro entry present
        obtain rfl := Option.some.inj present
        exact covers)
      exact ⟨⟨after.chronicle, after.stored, after.covers⟩, kept⟩

theorem guarded_occur (guarded : Guarded builder store) {event : Event}
    (onTime : OnTime store event (occur builder store event)) :
    Guarded builder (occur builder store event) ∧
      ∀ ride ∈ store.created, tripOf builder ride ∈ (occur builder store event).trips := by
  cases event with
  | tick elapsed => exact ⟨⟨guarded.chronicle, guarded.stored, guarded.covers⟩, guarded.stored⟩
  | storePoint point => exact ⟨⟨guarded.chronicle, guarded.stored, guarded.covers⟩, guarded.stored⟩
  | process payload => exact process_guarded guarded (onTime payload rfl)

/-- In a run whose packets are on time wherever they find no runtime state, no trip is
destroyed and the trips are apart. -/
theorem trips_never_destroyed {start : TripStore} (unknown : start.state = none)
    (none : start.created = []) (events : List Event)
    (onTime : Along (total (occur builder)) OnTime start events) :
    Along (total (occur builder)) (Safe builder) start events := by
  have initially : Guarded builder start := by
    refine ⟨?_, ?_, ?_⟩
    · rw [none]
      exact chronicle_nil
    · rw [none]
      intro ride member
      cases member
    · rw [unknown]
      intro entry present
      cases present
  apply along_of_invariant (Guarded builder) ?_ ?_ initially onTime
  · rintro store event next guarded timely moved
    obtain rfl := Option.some.inj moved
    exact (guarded_occur guarded timely).1
  · rintro store event next guarded timely moved
    obtain rfl := Option.some.inj moved
    obtain ⟨after, kept⟩ := guarded_occur guarded timely
    exact ⟨kept, after.chronicle.apart⟩

/-- The executable form of `OnTime`. -/
def onTimeCheck (store : TripStore) : Event → Bool
  | .process payload =>
    (read store.state store.now).isSome ||
      store.created.all fun ride => decide (ride.stop ≤ payload.ts.epochMs)
  | _ => true

theorem onTime_of_check (store : TripStore) (event : Event) (next : TripStore)
    (checked : onTimeCheck store event = true) : OnTime store event next := by
  rintro payload rfl lost
  rw [onTimeCheck, lost, Option.isSome_none, Bool.false_or, List.all_eq_true] at checked
  intro ride member
  exact of_decide_eq_true (checked ride member)

/-- Two rides of two minutes, the second one after a break of two minutes. -/
def twoRides : List Event :=
  [.storePoint (pointAt 0 (-2)), .process (ridingAt 0),
    .storePoint (pointAt 120000 (-1)), .process (parkedAt 120000),
    .storePoint (pointAt 240000 (-1)), .process (ridingAt 240000),
    .storePoint (pointAt 360000 (-2)), .process (parkedAt 360000)]

theorem trips_never_destroyed_two_rides :
    (twoRides.foldl (occur defaultBuilder) newStore).created.length = 2 ∧
      Along (total (occur defaultBuilder)) (Safe defaultBuilder) newStore twoRides := by
  refine ⟨by decide +kernel, trips_never_destroyed rfl rfl twoRides ?_⟩
  apply along_of_check (fun store event next => onTime_of_check store event next)
  decide +kernel

/-- A ride of twelve hours, and then two packets that are four and two minutes late. -/
def lateRide : List Event :=
  [.storePoint (pointAt 0 (-2)), .process (ridingAt 0),
    .storePoint (pointAt 43200000 (-1)), .process (ridingAt 43200000),
    .storePoint (pointAt 42960000 (-3 / 2)), .process (ridingAt 42960000),
    .storePoint (pointAt 43080000 (-1))]

/-- The long ride is ended by the guard, which loses the runtime state. The late packets
make up another ride, for which the long one is deleted. -/
theorem long_trip_destroyed :
    ¬ ∀ (builder : Builder) (start : TripStore) (events : List Event), start.state = none →
      start.created = [] → Along (total (occur builder)) (Safe builder) start events := by
  intro claim
  have everywhere := claim defaultBuilder newStore (lateRide ++ [Event.process (parkedAt 43080000)])
    rfl rfl
  rw [along_total_append, along_total_cons] at everywhere
  have ridden : ⟨0, 43200000⟩ ∈ (lateRide.foldl (occur defaultBuilder) newStore).created := by
    decide +kernel
  have gone : tripOf defaultBuilder ⟨0, 43200000⟩ ∉
      (occur defaultBuilder (lateRide.foldl (occur defaultBuilder) newStore)
        (.process (parkedAt 43080000))).trips := by
    decide +kernel
  exact gone (everywhere.2.1.1 _ ridden)

end EmotoFleet.TripOrder
