import EmotoFleet.Fleets.DeviceLinks

/-!
# The route of a trip

The route of a stored trip is looked up through the device that is linked to the bike now:
its points between the start and the end of the trip. What the bike did is what was
recorded while a device was on it. The two agree for every trip, whatever is done to
devices and bikes, exactly as long as no device comes to a bike or leaves it that reported
during one of its trips, no second device records for a bike, and a trip is stored only
while the device that made it is still there.
-/

namespace EmotoFleet.Fleets

open Accounts (UserRole)
open Interleavings Runs

/-- The user that a route is shown to. -/
structure AuthenticatedUser where
  fleetId : FleetId
  role : UserRole
  insurerName : Option String

/-! ## The lookup -/

/-- The first device that is linked to a bike. -/
def fittedDevice (devices : List Device) (bikeId : BikeId) : Option DeviceId :=
  (devices.find? fun device => decide (device.bikeId = some bikeId)).map Device.id

/-- A trip that has not ended reaches until now. -/
def within (trip : Trip) (now ts : Int) : Bool :=
  decide (trip.startTs ≤ ts ∧ ts ≤ trip.endTs.getD now)

/-- The trip is one that the user may see. -/
def assertTripAccess (tables : Tables) (user : AuthenticatedUser) (trip : Trip) :
    Except Failure Unit :=
  if user.role = .INSURER then
    if (tables.findBike trip.bikeId).map Bike.insurerName = some user.insurerName then .ok ()
    else .error (.forbidden "Access to this trip is denied")
  else if trip.fleetId = user.fleetId then .ok ()
  else .error (.forbidden "Fleet access violation")

/-- The rows that a reply is made of. -/
structure LoadedRoute where
  points : List TelemetryPoint
  events : List Event

/-- Rows by their time, stably. -/
def byTime {ρ : Type} (time : ρ → Int) (rows : List ρ) : List ρ :=
  rows.mergeSort fun left right => decide (time left ≤ time right)

/-- The points and events of a trip that the user may see. -/
def loadTripRoute (tables : Tables) (user : AuthenticatedUser) (id : TripId) (now : Int) :
    Except Failure LoadedRoute :=
  match tables.trips.find? fun trip => decide (trip.id = id) with
  | none => .error (.notFound "Trip not found")
  | some trip => do
    assertTripAccess tables user trip
    match fittedDevice tables.devices trip.bikeId with
    | none => .ok ⟨[], []⟩
    | some deviceId =>
      .ok
        { points := byTime TelemetryPoint.ts (tables.points.filter fun point =>
            decide (point.deviceId = deviceId) && within trip now point.ts)
          events := byTime Event.ts (tables.events.filter fun event =>
            decide (event.bikeId = some trip.bikeId) && within trip now event.ts) }

/-- A point of a route. -/
structure RoutePoint where
  ts : Int
  lat : ℚ
  lng : ℚ
  speedKph : ℚ
  batteryV : Option ℚ
  batteryPct : Option ℚ
  ignition : Option Bool
  deriving DecidableEq

/-- An event of a route. -/
structure RouteEvent where
  id : Nat
  ts : Int
  type : RulesEngine.EventType
  severity : RulesEngine.Severity
  metaJson : CanonicalJson.Json ℚ

/-- A route as it is sent. -/
structure TripRoute where
  route : List RoutePoint
  events : List RouteEvent

/-- What is sent of a point. -/
def toRoutePoint (point : TelemetryPoint) : RoutePoint where
  ts := point.ts
  lat := point.reading.lat
  lng := point.reading.lng
  speedKph := point.reading.speedKph
  batteryV := point.reading.batteryV
  batteryPct := point.reading.batteryPct
  ignition := point.reading.ignition

/-- What is sent of an event. -/
def toRouteEvent (event : Event) : RouteEvent :=
  ⟨event.id, event.ts, event.type, event.severity, event.metaJson⟩

/-- What is sent of a route. -/
def toTripRoute (loaded : LoadedRoute) : TripRoute :=
  ⟨loaded.points.map toRoutePoint, loaded.events.map toRouteEvent⟩

/-- The route of a trip, for a user. -/
def getTripRouteForUser (tables : Tables) (user : AuthenticatedUser) (id : TripId) (now : Int) :
    Except Failure TripRoute :=
  (loadTripRoute tables user id now).map toTripRoute

/-! ## What a route ought to be -/

/-- What was recorded for the bike of a trip, from its start to its end. -/
def recordedPoints (tables : Tables) (trip : Trip) (now : Int) : List TelemetryPoint :=
  byTime TelemetryPoint.ts (tables.points.filter fun point =>
    decide (point.recordedFor = some trip.bikeId) && within trip now point.ts)

/-- Whoever is shown the route of a stored trip is shown what was recorded for its bike: the
rows are those, and the reply tells them. -/
def Stable (tables : Tables) : Prop :=
  ∀ trip ∈ tables.trips, ∀ user now loaded,
    loadTripRoute tables user trip.id now = .ok loaded →
      loaded.points = recordedPoints tables trip now ∧
        getTripRouteForUser tables user trip.id now =
          .ok ⟨(recordedPoints tables trip now).map toRoutePoint, loaded.events.map toRouteEvent⟩

/-- An instant lies in a trip. -/
def During (trip : Trip) (ts : Int) : Prop :=
  trip.startTs ≤ ts ∧ ∀ endTs, trip.endTs = some endTs → ts ≤ endTs

instance (trip : Trip) (ts : Int) : Decidable (During trip ts) :=
  decidable_of_iff (trip.startTs ≤ ts ∧ ∀ endTs ∈ trip.endTs, ts ≤ endTs) <| by
    simp only [During, Option.mem_def]

/-- Of the points from a trip the linked device recorded those that are recorded for the bike. -/
def Faithful (devices : List Device) (points : List TelemetryPoint) (trip : Trip) : Prop :=
  ∀ point ∈ points, During trip point.ts →
    (fittedDevice devices trip.bikeId = some point.deviceId ↔
      point.recordedFor = some trip.bikeId)

instance (devices : List Device) (points : List TelemetryPoint) (trip : Trip) :
    Decidable (Faithful devices points trip) :=
  inferInstanceAs (Decidable (∀ _ ∈ _, _))

/-- The device that is found for the bike of a trip reported during it, if it is one of the
given devices, exactly if the one that was found before did. -/
def SameReports (tables : Tables) (devices : List Device) (kept : DeviceId → Prop) : Prop :=
  ∀ trip ∈ tables.trips, ∀ point ∈ tables.points, kept point.deviceId → During trip point.ts →
    (fittedDevice devices trip.bikeId = some point.deviceId ↔
      fittedDevice tables.devices trip.bikeId = some point.deviceId)

instance (tables : Tables) (devices : List Device) (kept : DeviceId → Prop) [DecidablePred kept] :
    Decidable (SameReports tables devices kept) :=
  inferInstanceAs (Decidable (∀ _ ∈ _, ∀ _ ∈ _, _))

/-- No device that reported during a trip comes to its bike or leaves it, unless it is
deleted with all it recorded. What is recorded for the bike of a trip comes from the device
that is found for it, and so do the points of a trip when it is stored. -/
def KeepsRoutes (tables : Tables) : Write → Prop
  | .setBike id bikeId =>
    SameReports tables (Tables.updateKey Device.id id (fun device => { device with bikeId })
      tables.devices) fun _ => True
  | .deleteDevice id =>
    SameReports tables (tables.devices.filter fun device => decide (device.id ≠ id)) (· ≠ id)
  | .record (.upsertPoint deviceId ts _) =>
    tables.points.any (samePoint deviceId ts) = false →
      ∀ device ∈ tables.devices, device.id = deviceId → ∀ trip ∈ tables.trips, During trip ts →
        device.bikeId = some trip.bikeId →
        fittedDevice tables.devices trip.bikeId = some deviceId
  | .record (.createTrip fleetId bikeId startTs endTs) =>
    Faithful tables.devices tables.points ⟨tables.nextId, fleetId, bikeId, startTs, endTs⟩
  | .createDevice .. | .updateDevice .. | .deleteBike _ | .record _ => True

instance (tables : Tables) : (operation : Write) → Decidable (KeepsRoutes tables operation)
  | .setBike .. => inferInstanceAs (Decidable (SameReports tables _ fun _ => True))
  | .deleteDevice id => inferInstanceAs (Decidable (SameReports tables _ (· ≠ id)))
  | .record (.upsertPoint ..) => inferInstanceAs (Decidable (_ → ∀ _ ∈ _, _ → ∀ _ ∈ _, _))
  | .record (.createTrip ..) => inferInstanceAs (Decidable (Faithful ..))
  | .createDevice .. | .updateDevice .. | .deleteBike _ => isTrue trivial
  | .record .createFleet | .record (.createBike ..) | .record (.insureBike ..)
  | .record (.deleteTrips _) | .record (.createEvent ..) => isTrue trivial

/-- The keys of trips. -/
structure TripKeys (tables : Tables) : Prop where
  unique : (tables.trips.map Trip.id).Nodup
  numbered : ∀ trip ∈ tables.trips, trip.id < tables.nextId

/-! ## From the lists to their points -/

/-- Sorting keeps the rows. -/
theorem byTime_perm {ρ : Type} (time : ρ → Int) (rows : List ρ) : (byTime time rows).Perm rows :=
  List.mergeSort_perm _ _

/-- Two choices from one table are the same rows exactly if they agree on each row. -/
theorem byTime_filter_iff {ρ : Type} {time : ρ → Int} {rows : List ρ} {chosen other : ρ → Bool} :
    byTime time (rows.filter chosen) = byTime time (rows.filter other) ↔
      ∀ row ∈ rows, chosen row = other row := by
  constructor
  · intro same row listed
    have permuted : (rows.filter chosen).Perm (rows.filter other) :=
      (byTime_perm time _).symm.trans (same ▸ byTime_perm time _)
    have shared : row ∈ rows.filter chosen ↔ row ∈ rows.filter other := permuted.mem_iff
    simp only [List.mem_filter, listed, true_and] at shared
    exact Bool.eq_iff_iff.mpr shared
  · intro same
    rw [List.filter_congr same]

/-- A stored trip is found by its identity. -/
theorem find?_trip {tables : Tables} (keys : TripKeys tables) {trip : Trip}
    (stored : trip ∈ tables.trips) :
    tables.trips.find? (fun other => decide (other.id = trip.id)) = some trip :=
  (Tables.find?_key_iff keys.unique).mpr ⟨stored, rfl⟩

/-- The points of a reply, whether or not a device is found. -/
theorem loadTripRoute_points {tables : Tables} (keys : TripKeys tables) {trip : Trip}
    (stored : trip ∈ tables.trips) {user : AuthenticatedUser} {now : Int} {loaded : LoadedRoute}
    (reply : loadTripRoute tables user trip.id now = .ok loaded) :
    loaded.points = byTime TelemetryPoint.ts (tables.points.filter fun point =>
      decide (fittedDevice tables.devices trip.bikeId = some point.deviceId) &&
        within trip now point.ts) := by
  rw [loadTripRoute, find?_trip keys stored] at reply
  cases admitted : assertTripAccess tables user trip with
  | error failure =>
    simp only [admitted] at reply
    cases reply
  | ok _ =>
    simp only [admitted] at reply
    cases fitted : fittedDevice tables.devices trip.bikeId with
    | none =>
      rw [fitted] at reply
      cases reply
      have nothing : tables.points.filter (fun point =>
          decide (none = some point.deviceId) && within trip now point.ts) = [] := by
        apply List.filter_eq_nil_iff.mpr
        simp
      rw [nothing, byTime, List.mergeSort_nil]
    | some deviceId =>
      rw [fitted] at reply
      cases reply
      apply congrArg (byTime TelemetryPoint.ts)
      apply List.filter_congr
      intro point _
      congr 1
      apply decide_eq_decide.mpr
      rw [Option.some.injEq]
      exact eq_comm

/-- Somebody of the fleet of a trip is shown its route. -/
theorem exists_reply {tables : Tables} (keys : TripKeys tables) {trip : Trip}
    (stored : trip ∈ tables.trips) (now : Int) :
    ∃ user loaded, loadTripRoute tables user trip.id now = .ok loaded := by
  refine ⟨⟨trip.fleetId, .ADMIN, none⟩, ?_⟩
  have admitted : assertTripAccess tables ⟨trip.fleetId, .ADMIN, none⟩ trip = .ok () := by
    rw [assertTripAccess, if_neg (fun role : UserRole.ADMIN = .INSURER => nomatch role), if_pos rfl]
  rw [loadTripRoute, find?_trip keys stored]
  simp only [admitted]
  cases fittedDevice tables.devices trip.bikeId with
  | none => exact ⟨_, rfl⟩
  | some deviceId => exact ⟨_, rfl⟩

/-- An instant lies in a trip exactly when it does at some present. -/
theorem during_iff {trip : Trip} {ts : Int} :
    During trip ts ↔ ∃ now, within trip now ts = true := by
  simp only [within, decide_eq_true_eq]
  constructor
  · rintro ⟨started, ended⟩
    refine ⟨ts, started, ?_⟩
    cases ending : trip.endTs with
    | none => exact Int.le_refl _
    | some endTs => exact ended endTs ending
  · rintro ⟨now, started, ended⟩
    refine ⟨started, ?_⟩
    intro endTs ending
    rw [ending] at ended
    exact ended

/-- The reply tells the rows that were loaded. -/
theorem getTripRouteForUser_loaded {tables : Tables} {user : AuthenticatedUser} {id : TripId}
    {now : Int} {loaded : LoadedRoute} (reply : loadTripRoute tables user id now = .ok loaded) :
    getTripRouteForUser tables user id now = .ok (toTripRoute loaded) := by
  rw [getTripRouteForUser, reply]
  rfl

/-- The routes are right exactly if the points of each trip are. -/
theorem stable_iff {tables : Tables} (keys : TripKeys tables) :
    Stable tables ↔ ∀ trip ∈ tables.trips, Faithful tables.devices tables.points trip := by
  constructor
  · intro stable trip stored point listed during
    obtain ⟨now, inside⟩ := during_iff.mp during
    obtain ⟨user, loaded, reply⟩ := exists_reply keys stored now
    have same := (stable trip stored user now loaded reply).1
    rw [loadTripRoute_points keys stored reply, recordedPoints, byTime_filter_iff] at same
    have agree := same point listed
    rw [inside, Bool.and_true, Bool.and_true] at agree
    exact decide_eq_decide.mp agree
  · intro faithful trip stored user now loaded reply
    have recorded : loaded.points = recordedPoints tables trip now := by
      rw [loadTripRoute_points keys stored reply, recordedPoints, byTime_filter_iff]
      intro point listed
      cases inside : within trip now point.ts with
      | false => rw [Bool.and_false, Bool.and_false]
      | true =>
        rw [Bool.and_true, Bool.and_true]
        exact decide_eq_decide.mpr
          (faithful trip stored point listed (during_iff.mpr ⟨now, inside⟩))
    exact ⟨recorded, by rw [getTripRouteForUser_loaded reply, toTripRoute, recorded]⟩

/-! ## What writes do to the routes -/

section Commits

variable {tables written : Tables}

/-- Which device is found depends on the links alone. -/
theorem fittedDevice_congr {devices others : List Device}
    (same : (devices.map fun device => (device.id, device.bikeId)) =
      others.map fun device => (device.id, device.bikeId)) (bikeId : BikeId) :
    fittedDevice devices bikeId = fittedDevice others bikeId := by
  have byLink : ∀ devices : List Device, fittedDevice devices bikeId =
      ((devices.map fun device => (device.id, device.bikeId)).find? fun link =>
        decide (link.2 = some bikeId)).map Prod.fst := by
    intro devices
    rw [fittedDevice, List.find?_map, Option.map_map]
    rfl
  rw [byLink, byLink, same]

/-- A new device without a bike is fitted to none. -/
theorem fittedDevice_append {devices : List Device} {device : Device} (unlinked : device.bikeId = none)
    (bikeId : BikeId) : fittedDevice (devices ++ [device]) bikeId = fittedDevice devices bikeId := by
  rw [fittedDevice, fittedDevice, List.find?_append]
  have apart : [device].find? (fun device => decide (device.bikeId = some bikeId)) = none := by
    simp [unlinked]
  rw [apart, Option.or_none]

/-- Taking the devices off one bike does not matter to another one. -/
theorem fittedDevice_unlinked {devices : List Device} {id bikeId : BikeId} (apart : bikeId ≠ id) :
    fittedDevice (devices.map fun device =>
      if device.bikeId = some id then { device with bikeId := none } else device) bikeId =
      fittedDevice devices bikeId := by
  induction devices with
  | nil => rfl
  | cons device rest inductionHypothesis =>
    simp only [fittedDevice, List.map_cons, List.find?_cons] at inductionHypothesis ⊢
    by_cases taken : device.bikeId = some id
    · have other : device.bikeId ≠ some bikeId :=
        fun same => apart (Option.some.inj (same.symm.trans taken))
      rw [if_pos taken, decide_eq_false other]
      exact inductionHypothesis
    · rw [if_neg taken]
      cases decide (device.bikeId = some bikeId) with
      | true => rfl
      | false => exact inductionHypothesis

/-- Every accepted write keeps the trips' identities apart. -/
theorem tripKeys_commit {operation : Write} (keys : TripKeys tables)
    (accepted : commit tables operation = .ok written) : TripKeys written := by
  have later : ∀ trip ∈ tables.trips, trip.id < tables.nextId + 1 :=
    fun trip stored => Nat.lt_succ_of_lt (keys.numbered trip stored)
  have fewer : ∀ chosen : Trip → Bool, ((tables.trips.filter chosen).map Trip.id).Nodup ∧
      ∀ trip ∈ tables.trips.filter chosen, trip.id < tables.nextId := by
    intro chosen
    constructor
    · exact keys.unique.sublist (List.filter_sublist.map _)
    · exact fun trip stored => keys.numbered trip (List.mem_filter.mp stored).1
  cases operation with
  | setBike id bikeId =>
    obtain ⟨-, -, rfl⟩ := setBike_accepted accepted
    exact ⟨keys.unique, keys.numbered⟩
  | updateDevice id change =>
    obtain ⟨-, rfl⟩ := updateDevice_accepted accepted
    exact ⟨keys.unique, keys.numbered⟩
  | createDevice fleetId deviceUid imei simPhoneNumber =>
    obtain ⟨-, rfl⟩ := createDevice_accepted accepted
    exact ⟨keys.unique, later⟩
  | deleteDevice id =>
    obtain ⟨-, rfl⟩ := deleteDevice_accepted accepted
    exact ⟨keys.unique, keys.numbered⟩
  | deleteBike id =>
    obtain ⟨-, rfl⟩ := deleteBike_accepted accepted
    exact ⟨(fewer _).1, (fewer _).2⟩
  | record record =>
    cases record with
    | createFleet =>
      cases accepted
      exact ⟨keys.unique, later⟩
    | createBike fleetId insurerName =>
      obtain ⟨-, rfl⟩ := createBike_accepted accepted
      exact ⟨keys.unique, later⟩
    | insureBike id insurerName =>
      cases accepted
      exact ⟨keys.unique, keys.numbered⟩
    | createTrip fleetId bikeId startTs endTs =>
      obtain ⟨-, rfl⟩ := createTrip_accepted accepted
      constructor
      · rw [Tables.unique_append_iff]
        refine ⟨keys.unique, ?_⟩
        intro taken
        obtain ⟨trip, stored, same⟩ := List.mem_map.mp taken
        exact Nat.lt_irrefl _ (same ▸ keys.numbered trip stored)
      · intro trip stored
        cases List.mem_append.mp stored with
        | inl earlier => exact later trip earlier
        | inr last =>
          rw [List.mem_singleton.mp last]
          exact Nat.lt_succ_self _
    | deleteTrips chosen =>
      cases accepted
      exact ⟨(fewer _).1, (fewer _).2⟩
    | upsertPoint deviceId ts reading =>
      obtain ⟨device, -, rfl⟩ := upsertPoint_accepted accepted
      exact ⟨keys.unique, keys.numbered⟩
    | createEvent bikeId ts type severity metaJson =>
      cases accepted
      exact ⟨keys.unique, later⟩

/-- Whether the points of a trip are right after the links or the points have changed. -/
theorem stable_sameReports_iff {devices : List Device} {kept : DeviceId → Prop}
    [DecidablePred kept] (stable : ∀ trip ∈ tables.trips, Faithful tables.devices tables.points trip) :
    (∀ trip ∈ tables.trips, Faithful devices
        (tables.points.filter fun point => decide (kept point.deviceId)) trip) ↔
      SameReports tables devices kept := by
  constructor
  · intro faithful trip stored point listed remains during
    rw [faithful trip stored point (List.mem_filter.mpr ⟨listed, decide_eq_true remains⟩) during,
      stable trip stored point listed during]
  · intro same trip stored point listed during
    obtain ⟨present, remains⟩ := List.mem_filter.mp listed
    rw [same trip stored point present (of_decide_eq_true remains) during,
      stable trip stored point present during]

/-- A reading that is stored anew is right if the device that recorded it is the one that is
found; one that replaces another changes nothing. -/
theorem stable_upsertPoint_iff {deviceId : DeviceId} {ts : Int} {reading : Reading}
    (sound : Sound tables)
    (stable : ∀ trip ∈ tables.trips, Faithful tables.devices tables.points trip)
    (accepted : commit tables (.record (.upsertPoint deviceId ts reading)) = .ok written) :
    (∀ trip ∈ written.trips, Faithful written.devices written.points trip) ↔
      KeepsRoutes tables (.record (.upsertPoint deviceId ts reading)) := by
  obtain ⟨device, found, rfl⟩ := upsertPoint_accepted accepted
  obtain ⟨listed, known⟩ := (findDevice_iff sound).mp found
  subst known
  have alone : ∀ other ∈ tables.devices, other.id = device.id → other = device :=
    fun other stored same => Tables.eq_of_key_eq sound.devices stored listed same
  cases present : tables.points.any (samePoint device.id ts) with
  | true =>
    refine iff_of_true ?_ (fun absent => by rw [present] at absent; cases absent)
    intro trip stored point pointListed during
    rw [upsertPoint, if_pos present] at pointListed
    obtain ⟨old, oldListed, rfl⟩ := List.mem_map.mp pointListed
    have unchanged := stable trip stored old oldListed
    split at during
    case isTrue same =>
      rw [if_pos same]
      exact unchanged during
    case isFalse apart =>
      rw [if_neg apart]
      exact unchanged during
  | false =>
    have points : upsertPoint tables device ts reading =
        tables.points ++ [⟨device.id, ts, reading, device.bikeId⟩] := by
      rw [upsertPoint, present]
      rfl
    simp only [points]
    constructor
    · intro faithful _ other stored same trip tripListed during link
      rw [alone other stored same] at link
      exact (faithful trip tripListed _ (List.mem_append_right _ (List.mem_singleton_self _))
        during).mpr link
    · intro keeps trip tripListed point pointListed during
      cases List.mem_append.mp pointListed with
      | inl earlier => exact stable trip tripListed point earlier during
      | inr last =>
        rw [List.mem_singleton.mp last] at during ⊢
        constructor
        · intro fitted
          obtain ⟨holder, first, same⟩ := Option.map_eq_some_iff.mp fitted
          have link : holder.bikeId = some trip.bikeId := by simpa using List.find?_some first
          rw [alone holder (List.mem_of_find?_eq_some first) same] at link
          exact link
        · exact keeps present device listed rfl trip tripListed during

/-- A write keeps the routes stable exactly when every trip's device keeps its points. -/
theorem stable_commit_iff {operation : Write} (sound : Sound tables)
    (stable : ∀ trip ∈ tables.trips, Faithful tables.devices tables.points trip)
    (accepted : commit tables operation = .ok written) :
    (∀ trip ∈ written.trips, Faithful written.devices written.points trip) ↔
      KeepsRoutes tables operation := by
  have everything : tables.points.filter (fun _ => decide True) = tables.points :=
    List.filter_eq_self.mpr fun _ _ => rfl
  have unmoved : ∀ devices : List Device,
      (∀ bikeId, fittedDevice devices bikeId = fittedDevice tables.devices bikeId) →
      ∀ trip ∈ tables.trips, Faithful devices tables.points trip := by
    intro devices same trip stored point listed during
    rw [same]
    exact stable trip stored point listed during
  cases operation with
  | setBike id bikeId =>
    obtain ⟨-, -, rfl⟩ := setBike_accepted accepted
    rw [KeepsRoutes, ← stable_sameReports_iff stable, everything]
  | updateDevice id change =>
    obtain ⟨-, rfl⟩ := updateDevice_accepted accepted
    exact iff_of_true (unmoved _ (fittedDevice_congr (Tables.map_updateKey fun _ => rfl))) trivial
  | createDevice fleetId deviceUid imei simPhoneNumber =>
    obtain ⟨-, rfl⟩ := createDevice_accepted accepted
    exact iff_of_true (unmoved _ (fittedDevice_append rfl)) trivial
  | deleteDevice id =>
    obtain ⟨-, rfl⟩ := deleteDevice_accepted accepted
    rw [KeepsRoutes, ← stable_sameReports_iff stable]
  | deleteBike id =>
    obtain ⟨-, rfl⟩ := deleteBike_accepted accepted
    refine iff_of_true ?_ trivial
    intro trip stored point listed during
    obtain ⟨there, apart⟩ := List.mem_filter.mp stored
    rw [fittedDevice_unlinked (of_decide_eq_true apart)]
    exact stable trip there point listed during
  | record record =>
    cases record with
    | createFleet =>
      cases accepted
      exact iff_of_true stable trivial
    | createBike fleetId insurerName =>
      obtain ⟨-, rfl⟩ := createBike_accepted accepted
      exact iff_of_true stable trivial
    | insureBike id insurerName =>
      cases accepted
      exact iff_of_true stable trivial
    | createTrip fleetId bikeId startTs endTs =>
      obtain ⟨-, rfl⟩ := createTrip_accepted accepted
      constructor
      · intro faithful
        exact faithful _ (List.mem_append_right _ (List.mem_singleton_self _))
      · intro keeps trip stored
        cases List.mem_append.mp stored with
        | inl earlier => exact stable trip earlier
        | inr last =>
          rw [List.mem_singleton.mp last]
          exact keeps
    | deleteTrips chosen =>
      cases accepted
      exact iff_of_true (fun trip stored => stable trip (List.mem_filter.mp stored).1) trivial
    | upsertPoint deviceId ts reading => exact stable_upsertPoint_iff sound stable accepted
    | createEvent bikeId ts type severity metaJson =>
      cases accepted
      exact iff_of_true stable trivial

end Commits

/-- Over every interleaving of the operations the routes of all stored trips are right after
each step if and only if every write that the database accepts keeps them so. -/
theorem routes_stable_iff (system : System Tables Write DatabaseError Failure)
    (actions : List (Action Request)) (sound : Sound system.store) (keys : TripKeys system.store)
    (stable : Stable system.store) :
    Along (step commit handle) (fun _ _ next => Stable next.store) system actions ↔
      Along (step commit handle) (fun before action _ => Meets commit KeepsRoutes before action)
        system actions := by
  apply @along_writes_iff _ _ _ _ _ _ _ (fun tables => Sound tables ∧ TripKeys tables)
  · rintro tables operation written ⟨sound, keys⟩ accepted
    exact ⟨sound_commit sound accepted, tripKeys_commit keys accepted⟩
  · rintro tables operation written ⟨sound, keys⟩ stable accepted
    rw [stable_iff (tripKeys_commit keys accepted)]
    exact stable_commit_iff sound ((stable_iff keys).mp stable) accepted
  · exact ⟨sound, keys⟩
  · exact stable

/-- Without trips all routes are stable. -/
theorem stable_empty : Stable emptySystem.store :=
  fun _ stored => nomatch stored

/-- Without trips no identity is taken twice. -/
theorem tripKeys_empty : TripKeys emptySystem.store :=
  ⟨List.nodup_nil, fun _ stored => nomatch stored⟩

/-- A device reports from a bike, the trip is stored, and a device that reported nothing is
linked to another bike. -/
def reported : List (Action Request) :=
  fleetAndDevices ++
    ([.submit (.assignBikeForUser 3 2 0), .advance 5, .advance 5, .advance 5, .advance 5,
      .submit (.record (.upsertPoint 3 100 ⟨-2, 30, 20, none, none, some true⟩)), .advance 6,
      .submit (.record (.createTrip 0 2 50 (some 150))), .advance 7,
      .submit (.record (.createBike 0 none)), .advance 8,
      .submit (.assignBikeToDevice 4 6), .advance 9, .advance 9, .advance 9, .advance 9] :
      List (Action Request))

/-- In the run of the example the routes are stable. -/
theorem routes_stable_reported :
    Along (step commit handle) (fun _ _ next => Stable next.store) emptySystem reported :=
  (routes_stable_iff emptySystem reported sound_empty tripKeys_empty stable_empty).mpr
    (along_of_decide (by decide +kernel))

/-- A trip in the first fleet, on which nothing was reported. Then the device of the bike is
taken off, and one that reported at that time from a bike of the second fleet comes in its
place. -/
def deviceReplaced : List (Action Request) :=
  fleetAndDevices ++
    ([.submit (.updateDevice 4 ⟨none, none, none, none, some 1⟩), .advance 5, .advance 5, .advance 5,
      .submit (.record (.createBike 1 none)), .advance 6,
      .submit (.assignBikeToDevice 4 5), .advance 7, .advance 7, .advance 7, .advance 7,
      .submit (.record (.upsertPoint 4 100 ⟨-2, 30, 20, none, none, some true⟩)), .advance 8,
      .submit (.assignBikeForUser 3 2 0), .advance 9, .advance 9, .advance 9, .advance 9,
      .submit (.record (.createTrip 0 2 50 (some 150))), .advance 10,
      .submit (.unassignBikeFromDevice 3), .advance 11, .advance 11,
      .submit (.updateDevice 4 ⟨none, none, none, none, some 0⟩), .advance 12, .advance 12, .advance 12,
      .submit (.assignBikeToDevice 4 2), .advance 13, .advance 13, .advance 13] :
      List (Action Request))

/-- A user of the first fleet is shown something else than what was recorded. -/
def misrouted (tables : Tables) : Bool :=
  tables.trips.any fun trip =>
    match loadTripRoute tables ⟨0, .ADMIN, none⟩ trip.id 0 with
    | .ok loaded => decide (loaded.points ≠ recordedPoints tables trip 0)
    | .error _ => false

/-- A misrouted trip is not stable. -/
theorem not_stable_of_misrouted {tables : Tables} (shown : misrouted tables = true) :
    ¬ Stable tables := by
  intro stable
  obtain ⟨trip, stored, differs⟩ := List.any_eq_true.mp shown
  cases reply : loadTripRoute tables ⟨0, .ADMIN, none⟩ trip.id 0 with
  | ok loaded =>
    rw [reply] at differs
    exact of_decide_eq_true differs (stable trip stored _ 0 loaded reply).1
  | error failure =>
    rw [reply] at differs
    cases differs

/-- The first fleet is shown what the device recorded in the second one. -/
theorem foreign_route_shown :
    ¬ ∀ (system : System Tables Write DatabaseError Failure) actions,
      Sound system.store → TripKeys system.store → Stable system.store →
      Along (step commit handle) (fun _ _ next => Stable next.store) system actions := by
  intro claim
  refine not_along_of_check emptySystem deviceReplaced (.advance 13)
    (fun _ next (broken : misrouted next.store = true) => not_stable_of_misrouted broken) ?_
    (claim emptySystem _ sound_empty tripKeys_empty stable_empty)
  decide +kernel

end EmotoFleet.Fleets
