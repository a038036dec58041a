import EmotoFleet.Trips.TripSegmentation

/-!
# How long trips last

A trip that has lasted too long is ended by the next packet, and with it: however long the
device was silent, the trip reaches up to this packet. All other trips end before they are
too long.
-/

namespace EmotoFleet.TripDurations

open Expiring
open EmotoFleet.Runs
open EmotoFleet.Spans
open EmotoFleet.TripBuilder
open EmotoFleet.TripSegmentation (isLate Judged decision_judged)
open EmotoFleet.TheftRules (TelemetryPayload)
open EmotoFleet.TripOrder (Event occur)

variable (builder : Builder)

/-- A ride that lasts no longer than a trip may. -/
def Short (ride : Span Int) : Prop :=
  ride.stop - ride.start ≤ builder.settings.maxTripDurationSeconds * 1000

instance : DecidablePred (Short builder) := fun _ => inferInstanceAs (Decidable (_ ≤ _))

/-- No trip that was written is too long. -/
def Bounded (store : TripStore) : Prop := ∀ ride ∈ store.created, Short builder ride

/-- The ride is not empty, no noise, and its key is free. -/
def isWritten (store : TripStore) (ride : Span Int) : Bool :=
  decide (ride.start < ride.stop) && !isNoise builder store.telemetry ride &&
    !isTaken (deleteOverlaps store.trips (tripOf builder ride)) (tripOf builder ride)

/-- A packet comes in time for the active trip, or the trip up to it is not written. -/
def InTime (store : TripStore) (payload : TelemetryPayload) : Prop :=
  ∀ start, isLate store.loadState payload = false → store.loadState.activeStartTs = some start →
    isWritten builder store ⟨start, payload.ts.epochMs⟩ = true →
    Short builder ⟨start, payload.ts.epochMs⟩

/-- A device without a runtime state and without trips of its own. -/
def newDevice (store : TripStore) : TripStore := { store with state := none, created := [] }

variable {builder} {store : TripStore} {payload : TelemetryPayload} {ride : Span Int}

theorem finalizeTrip_created (builder : Builder) (store : TripStore) (ride : Span Int) :
    (store.finalizeTrip builder ride).created =
      if isWritten builder store ride then store.created ++ [ride] else store.created := by
  unfold TripStore.finalizeTrip isWritten
  by_cases empty : ride.stop ≤ ride.start
  case pos => simp [empty, not_lt.mpr empty]
  case neg =>
    rw [if_neg empty, decide_eq_true (not_le.mp empty), Bool.true_and]
    cases noise : isNoise builder store.telemetry ride with
    | true => simp
    | false =>
      rw [Bool.not_false, Bool.true_and, if_neg Bool.false_ne_true, TripStore.createTrip]
      cases taken : isTaken (deleteOverlaps store.trips (tripOf builder ride)) (tripOf builder ride) with
      | true =>
        have same : isTaken (store.deleteTrips builder ride).trips (tripOf builder ride) = true := taken
        rw [if_pos same]
        rfl
      | false =>
        have same : isTaken (store.deleteTrips builder ride).trips (tripOf builder ride) = false := taken
        rw [same]
        rfl

/-- The ride of a finalisation is the only one to look at. -/
theorem bounded_finalize (before : TripStore) (created : before.created = store.created)
    (telemetry : before.telemetry = store.telemetry) (trips : before.trips = store.trips)
    (ride : Span Int) :
    Bounded builder (before.finalizeTrip builder ride) ↔
      Bounded builder store ∧ (isWritten builder store ride = true → Short builder ride) := by
  have same : isWritten builder before ride = isWritten builder store ride := by
    rw [isWritten, isWritten, telemetry, trips]
  rw [Bounded, Bounded, finalizeTrip_created, same, created]
  cases isWritten builder store ride with
  | false => simp
  | true => simp [or_imp, forall_and]

/-- No idling that is remembered lies after the last packet. -/
def Sound (store : TripStore) : Prop := ∀ entry, store.state = some entry → Covers [] entry.value

theorem Sound.ready (sound : Sound store) (instant : Int) : Ready [] store.loadState instant := by
  unfold TripStore.loadState
  cases loaded : read store.state store.now with
  | none => exact Or.inr ⟨rfl, fun _ member => (by cases member)⟩
  | some state =>
    obtain ⟨entry, present, _, rfl⟩ := (read_eq_some_iff _ _ _).mp loaded
    exact Or.inl (sound entry present)

theorem Sound.save (state : TripRuntimeState) (covers : Covers [] state) :
    Sound (store.saveState state) := by
  intro entry present
  obtain rfl := Option.some.inj present
  exact covers

theorem sound_process (sound : Sound store) (payload : TelemetryPayload) :
    Sound (store.processTelemetryForTrips builder payload) := by
  have decided := decision_covers builder.settings (sound.ready payload.ts.epochMs)
  unfold TripStore.processTelemetryForTrips
  cases decided' : decision builder.settings store.loadState payload with
  | discard => exact sound
  | idle state =>
    rw [decided'] at decided
    cases decided with
    | idle _ covers =>
      dsimp only
      split
      case isTrue => exact sound
      case isFalse => exact Sound.save state covers
  | tooLong start =>
    intro entry present
    dsimp only at present
    rw [(TripOrder.finalizeTrip_finalized builder store.clearState _).state] at present
    cases present
  | ongoing state =>
    rw [decided'] at decided
    cases decided with
    | ongoing _ covers => exact Sound.save state covers
  | ended start stop state =>
    rw [decided'] at decided
    cases decided with
    | ended _ _ _ _ _ covers =>
      intro entry present
      dsimp only [TripStore.clearFinalizing] at present
      rw [(TripOrder.finalizeTrip_finalized builder _ _).state] at present
      exact Sound.save state (covers.mono fun _ member => (by cases member)) entry present

theorem sound_occur (sound : Sound store) (event : Event) : Sound (occur builder store event) := by
  cases event with
  | tick elapsed => exact sound
  | storePoint point => exact sound
  | process payload => exact sound_process sound payload

/-- After a packet the trips are bounded exactly if they were before and the packet comes in
time. -/
theorem bounded_process (sound : Sound store) (payload : TelemetryPayload) :
    Bounded builder (store.processTelemetryForTrips builder payload) ↔
      Bounded builder store ∧ InTime builder store payload := by
  have judged := decision_judged builder.settings store.loadState payload
  have covered := decision_covers builder.settings (sound.ready payload.ts.epochMs)
  unfold TripStore.processTelemetryForTrips
  cases decided : decision builder.settings store.loadState payload with
  | discard =>
    rw [decided] at judged
    cases judged with
    | discard late =>
      refine (and_iff_left ?_).symm
      intro start current
      rw [late] at current
      cases current
  | idle state =>
    rw [decided] at judged
    cases judged with
    | idle _ _ parked _ =>
      have inTime : InTime builder store payload := by
        intro start _ active
        rw [parked] at active
        cases active
      rw [and_iff_left inTime]
      dsimp only
      split
      case isTrue => exact Iff.rfl
      case isFalse => exact Iff.rfl
  | tooLong start =>
    rw [decided] at judged
    cases judged with
    | tooLong _ current active _ =>
      rw [bounded_finalize store.clearState rfl rfl rfl]
      apply and_congr_right
      intro _
      constructor
      case mp =>
        intro short began _ same
        obtain rfl := Option.some.inj (active.symm.trans same)
        exact short
      case mpr => exact fun inTime => inTime start current active
  | ongoing state =>
    rw [decided] at judged
    cases judged with
    | ongoing start current active brief =>
      refine (and_iff_left ?_).symm
      intro began _ same _
      obtain rfl := Option.some.inj (active.symm.trans same)
      exact le_of_lt brief
  | ended start stop state =>
    rw [decided] at judged covered
    cases judged with
    | ended _ _ current active brief _ _ =>
      cases covered with
      | ended _ _ _ _ within _ =>
        have inTime : InTime builder store payload := by
          intro began _ same _
          obtain rfl := Option.some.inj (active.symm.trans same)
          exact le_of_lt brief
        have short : Short builder ⟨start, stop⟩ := by
          rw [Short]
          dsimp only
          omega
        have bounded := fun state => @bounded_finalize builder store
          ((store.setFinalizing stop).saveState state) rfl rfl rfl ⟨start, stop⟩
        rw [and_iff_left inTime]
        exact (bounded _).trans (and_iff_left fun _ => short)

/-- In every run of packets of a device, no trip that is written is ever too long exactly if
every packet comes in time. -/
theorem durations_bounded_iff (builder : Builder) (store : TripStore) (events : List Event) :
    Along (total (occur builder)) (fun _ _ next => Bounded builder next) (newDevice store) events ↔
      Along (total (occur builder))
        (fun store event _ => ∀ payload, event = .process payload → InTime builder store payload)
        (newDevice store) events := by
  refine along_iff_of_invariant (fun store => Sound store ∧ Bounded builder store) ?_ ?_ events ?_
  case refine_1 =>
    rintro store event next ⟨sound, bounded⟩ moved
    obtain rfl := Option.some.inj moved
    cases event with
    | tick elapsed => exact iff_of_true bounded fun _ other => (by cases other)
    | storePoint point => exact iff_of_true bounded fun _ other => (by cases other)
    | process payload =>
      have after := @bounded_process builder store sound payload
      constructor
      case mp =>
        intro short other same
        obtain rfl := Event.process.inj same
        exact (after.mp short).2
      case mpr => exact fun inTime => after.mpr ⟨bounded, inTime payload rfl⟩
  case refine_2 =>
    rintro store event next ⟨sound, _⟩ bounded moved
    obtain rfl := Option.some.inj moved
    exact ⟨sound_occur sound event, bounded⟩
  case refine_3 =>
    exact ⟨fun _ absent => (by cases absent), fun _ absent => (by cases absent)⟩

/-- A ride that begins at midnight, and the next packet after thirteen hours of silence. -/
def silence : List Event :=
  [.storePoint (pointAt 0 (-2)), .process (ridingAt 0), .storePoint (pointAt 46800000 (-1))]

/-- A trip of thirteen hours is written, where twelve are allowed. -/
theorem silent_trip_too_long :
    ¬ ∀ (builder : Builder) (store : TripStore) (events : List Event),
      Along (total (occur builder)) (fun _ _ next => Bounded builder next) (newDevice store)
        events := by
  intro claim
  have everywhere := claim defaultBuilder newStore (silence ++ [Event.process (ridingAt 46800000)])
  rw [along_total_append, along_total_cons] at everywhere
  exact absurd (everywhere.2.1 ⟨0, 46800000⟩ (by decide +kernel)) (by decide +kernel)

end EmotoFleet.TripDurations
