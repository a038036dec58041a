import EmotoFleet.Fleets.DeviceTables
import EmotoFleet.Foundations.Overlaps

/-!
# Links between devices and bikes

Every operation that links a device first checks that the bike is of the same fleet and
that no other device is linked to it. What is checked may have changed when the link is
written, and moving a device to another fleet checks nothing. Where no call that links a
device is overtaken, the links are sound exactly if devices move to another fleet without a
bike, or together with theirs.
-/

namespace EmotoFleet.Fleets

open Interleavings Runs

/-- The bike of a device is of its fleet, and no two devices are linked to one bike. -/
structure Linked (tables : Tables) : Prop where
  fleet : ∀ device ∈ tables.devices, ∀ bike ∈ tables.bikes, device.bikeId = some bike.id →
    bike.fleetId = device.fleetId
  single : ∀ left ∈ tables.devices, ∀ right ∈ tables.devices, left.bikeId ≠ none →
    left.bikeId = right.bikeId → left.id = right.id

instance (tables : Tables) : Decidable (Linked tables) :=
  decidable_of_iff
    ((∀ device ∈ tables.devices, ∀ bike ∈ tables.bikes, device.bikeId = some bike.id →
        bike.fleetId = device.fleetId) ∧
      ∀ left ∈ tables.devices, ∀ right ∈ tables.devices, left.bikeId ≠ none →
        left.bikeId = right.bikeId → left.id = right.id)
    ⟨fun ⟨fleet, single⟩ => ⟨fleet, single⟩, fun linked => ⟨linked.fleet, linked.single⟩⟩

/-- At the moment of a write the bike that is linked is of the fleet of the device, with no
other device linked to it, and the fleet to which a device moves is that of its bike. -/
def KeepsLinks (tables : Tables) : Write → Prop
  | .setBike id (some bikeId) =>
    ∀ device ∈ tables.devices, device.id = id →
      (∀ bike ∈ tables.bikes, bike.id = bikeId → bike.fleetId = device.fleetId) ∧
        ∀ other ∈ tables.devices, other.bikeId = some bikeId → other.id = id
  | .updateDevice id change =>
    ∀ device ∈ tables.devices, device.id = id → ∀ bike ∈ tables.bikes,
      device.bikeId = some bike.id → bike.fleetId = change.fleetId.getD device.fleetId
  | .setBike _ none | .createDevice .. | .deleteDevice _ | .deleteBike _ | .record _ => True

section Commits

variable {tables written : Tables}

/-! ## What accepted writes do to the tables -/

/-- The device of an accepted update is there. -/
theorem device_of_accepted {id : DeviceId} (found : tables.findDevice id ≠ none) :
    ∃ device ∈ tables.devices, device.id = id := by
  obtain ⟨device, present⟩ := Option.ne_none_iff_exists'.mp found
  exact ⟨device, List.mem_of_find?_eq_some present, by simpa using List.find?_some present⟩

/-- A device that is put on a bike is there, and so is the bike. -/
theorem setBike_accepted {id : DeviceId} {bikeId : Option BikeId}
    (accepted : commit tables (.setBike id bikeId) = .ok written) :
    (∃ device ∈ tables.devices, device.id = id) ∧
      (∀ linked, bikeId = some linked → ∃ bike ∈ tables.bikes, bike.id = linked) ∧
      written = { tables with
        devices := Tables.updateKey Device.id id (fun device => { device with bikeId })
          tables.devices } := by
  rw [commit] at accepted
  split at accepted
  case isTrue => cases accepted
  case isFalse found =>
    split at accepted
    case isTrue => cases accepted
    case isFalse present =>
      cases accepted
      refine ⟨device_of_accepted found, ?_, rfl⟩
      rintro linked rfl
      cases stored : tables.findBike linked with
      | none => simp [stored] at present
      | some bike =>
        exact ⟨bike, List.mem_of_find?_eq_some stored, by simpa using List.find?_some stored⟩

/-- A device that is changed is there, and its columns take the new values. -/
theorem updateDevice_accepted {id : DeviceId} {change : DeviceChange}
    (accepted : commit tables (.updateDevice id change) = .ok written) :
    (∃ device ∈ tables.devices, device.id = id) ∧
      written = { tables with
        devices := Tables.updateKey Device.id id change.applyTo tables.devices } := by
  rw [commit] at accepted
  split at accepted
  case h_1 => cases accepted
  case h_2 device found =>
    refine ⟨device_of_accepted (found ▸ Option.some_ne_none _), ?_⟩
    simp only at accepted
    split at accepted
    · cases accepted
    · split at accepted
      · cases accepted
      · cases accepted
        rfl

/-- A new device belongs to a fleet and its identifiers are free. -/
theorem createDevice_accepted {fleetId : FleetId} {deviceUid : String}
    {imei simPhoneNumber : Option String}
    (accepted : commit tables (.createDevice fleetId deviceUid imei simPhoneNumber) = .ok written) :
    fleetId ∈ tables.fleets ∧ written = { tables with
      devices := tables.devices ++
        [⟨tables.nextId, fleetId, imei, deviceUid, none, simPhoneNumber, .ACTIVE⟩]
      nextId := tables.nextId + 1 } := by
  rw [commit] at accepted
  split at accepted
  case isTrue => cases accepted
  case isFalse =>
    split at accepted
    case isTrue => cases accepted
    case isFalse present =>
      cases accepted
      exact ⟨not_not.mp present, rfl⟩

/-- A deleted device takes its telemetry along. -/
theorem deleteDevice_accepted {id : DeviceId}
    (accepted : commit tables (.deleteDevice id) = .ok written) :
    tables.findDevice id ≠ none ∧ written = { tables with
      devices := tables.devices.filter fun device => decide (device.id ≠ id)
      points := tables.points.filter fun point => decide (point.deviceId ≠ id) } := by
  rw [commit] at accepted
  split at accepted
  case isTrue => cases accepted
  case isFalse found =>
    cases accepted
    exact ⟨found, rfl⟩

/-- A deleted bike is taken off its device and takes its trips along. -/
theorem deleteBike_accepted {id : BikeId} (accepted : commit tables (.deleteBike id) = .ok written) :
    tables.findBike id ≠ none ∧ written = { tables with
      bikes := tables.bikes.filter fun bike => decide (bike.id ≠ id)
      devices := tables.devices.map fun device =>
        if device.bikeId = some id then { device with bikeId := none } else device
      trips := tables.trips.filter fun trip => decide (trip.bikeId ≠ id) } := by
  rw [commit] at accepted
  split at accepted
  case isTrue => cases accepted
  case isFalse found =>
    cases accepted
    exact ⟨found, rfl⟩

/-- A new bike belongs to a fleet. -/
theorem createBike_accepted {fleetId : FleetId} {insurerName : Option String}
    (accepted : commitRecord tables (.createBike fleetId insurerName) = .ok written) :
    fleetId ∈ tables.fleets ∧ written = { tables with
      bikes := tables.bikes ++ [⟨tables.nextId, fleetId, insurerName⟩]
      nextId := tables.nextId + 1 } := by
  rw [commitRecord] at accepted
  split at accepted
  case isTrue present =>
    cases accepted
    exact ⟨present, rfl⟩
  case isFalse => cases accepted

/-- A new trip belongs to a fleet and a bike. -/
theorem createTrip_accepted {fleetId : FleetId} {bikeId : BikeId} {startTs : Int}
    {endTs : Option Int}
    (accepted : commitRecord tables (.createTrip fleetId bikeId startTs endTs) = .ok written) :
    (tables.findBike bikeId).isSome ∧ written = { tables with
      trips := tables.trips ++ [⟨tables.nextId, fleetId, bikeId, startTs, endTs⟩]
      nextId := tables.nextId + 1 } := by
  rw [commitRecord] at accepted
  split at accepted
  case isTrue present =>
    cases accepted
    exact ⟨present, rfl⟩
  case isFalse => cases accepted

/-- A point belongs to a device. -/
theorem upsertPoint_accepted {deviceId : DeviceId} {ts : Int} {reading : Reading}
    (accepted : commitRecord tables (.upsertPoint deviceId ts reading) = .ok written) :
    ∃ device, tables.findDevice deviceId = some device ∧
      written = { tables with points := upsertPoint tables device ts reading } := by
  rw [commitRecord] at accepted
  split at accepted
  case h_1 => cases accepted
  case h_2 device found =>
    cases accepted
    exact ⟨device, found, rfl⟩

/-! ## The keys and the references -/

/-- Records leave the devices alone, and of the bikes the identity and the fleet. -/
theorem commitRecord_kept {record : Record} (sound : Sound tables)
    (accepted : commitRecord tables record = .ok written) :
    written.devices = tables.devices ∧ tables.nextId ≤ written.nextId ∧
      (written.bikes.map Bike.id).Nodup ∧ (∀ bike ∈ written.bikes, bike.id < written.nextId) ∧
      (∀ bike ∈ tables.bikes, ∃ kept ∈ written.bikes, kept.id = bike.id) ∧
      ∀ kept ∈ written.bikes, kept.id < tables.nextId →
        ∃ bike ∈ tables.bikes, bike.id = kept.id ∧ bike.fleetId = kept.fleetId := by
  have unchanged : (tables.bikes.map Bike.id).Nodup ∧
      (∀ bike ∈ tables.bikes, bike.id < tables.nextId) ∧
      (∀ bike ∈ tables.bikes, ∃ kept ∈ tables.bikes, kept.id = bike.id) ∧
      ∀ kept ∈ tables.bikes, kept.id < tables.nextId →
        ∃ bike ∈ tables.bikes, bike.id = kept.id ∧ bike.fleetId = kept.fleetId :=
    ⟨sound.bikes, sound.numberedBikes, fun bike listed => ⟨bike, listed, rfl⟩,
      fun kept listed _ => ⟨kept, listed, rfl, rfl⟩⟩
  have numbered : ∀ bike ∈ tables.bikes, bike.id < tables.nextId + 1 :=
    fun bike listed => Nat.lt_succ_of_lt (sound.numberedBikes bike listed)
  cases record with
  | createFleet =>
    cases accepted
    exact ⟨rfl, Nat.le_succ _, unchanged.1, numbered, unchanged.2.2⟩
  | createBike fleetId insurerName =>
    obtain ⟨-, rfl⟩ := createBike_accepted accepted
    refine ⟨rfl, Nat.le_succ _, ?_, ?_, ?_, ?_⟩
    · rw [Tables.unique_append_iff]
      refine ⟨sound.bikes, ?_⟩
      intro taken
      obtain ⟨bike, listed, same⟩ := List.mem_map.mp taken
      exact Nat.lt_irrefl _ (same ▸ sound.numberedBikes bike listed)
    · intro bike listed
      cases List.mem_append.mp listed with
      | inl earlier => exact numbered bike earlier
      | inr last =>
        rw [List.mem_singleton.mp last]
        exact Nat.lt_succ_self _
    · intro bike listed
      exact ⟨bike, List.mem_append_left _ listed, rfl⟩
    · intro kept listed below
      cases List.mem_append.mp listed with
      | inl earlier => exact ⟨kept, earlier, rfl, rfl⟩
      | inr last =>
        rw [List.mem_singleton.mp last] at below
        exact absurd below (Nat.lt_irrefl _)
  | insureBike id insurerName =>
    cases accepted
    have ids : ((Tables.updateKey Bike.id id (fun bike => { bike with insurerName })
        tables.bikes).map Bike.id) = tables.bikes.map Bike.id :=
      Tables.map_updateKey fun _ => rfl
    have row : ∀ kept, kept ∈ Tables.updateKey Bike.id id (fun bike => { bike with insurerName })
        tables.bikes → ∃ bike ∈ tables.bikes, bike.id = kept.id ∧ bike.fleetId = kept.fleetId := by
      intro kept listed
      rcases Tables.mem_updateKey.mp listed with ⟨bike, stored, -, same⟩ | ⟨stored, -⟩
      · exact ⟨bike, stored, same ▸ rfl, same ▸ rfl⟩
      · exact ⟨kept, stored, rfl, rfl⟩
    refine ⟨rfl, Nat.le_refl _, ids ▸ sound.bikes, ?_, ?_, fun kept listed _ => row kept listed⟩
    · intro kept listed
      obtain ⟨bike, stored, same, -⟩ := row kept listed
      exact same ▸ sound.numberedBikes bike stored
    · intro bike listed
      have there : bike.id ∈ (Tables.updateKey Bike.id id (fun bike => { bike with insurerName })
          tables.bikes).map Bike.id := ids ▸ List.mem_map_of_mem listed
      exact List.mem_map.mp there
  | createTrip fleetId bikeId startTs endTs =>
    obtain ⟨-, rfl⟩ := createTrip_accepted accepted
    exact ⟨rfl, Nat.le_succ _, unchanged.1, numbered, unchanged.2.2⟩
  | deleteTrips chosen =>
    cases accepted
    exact ⟨rfl, Nat.le_refl _, unchanged⟩
  | upsertPoint deviceId ts reading =>
    obtain ⟨device, -, rfl⟩ := upsertPoint_accepted accepted
    exact ⟨rfl, Nat.le_refl _, unchanged⟩
  | createEvent bikeId ts type severity metaJson =>
    cases accepted
    exact ⟨rfl, Nat.le_succ _, unchanged.1, numbered, unchanged.2.2⟩

/-- A new device takes the next number and is on no bike. -/
theorem sound_createDevice (sound : Sound tables) {device : Device} (numbered : device.id = tables.nextId)
    (unlinked : device.bikeId = none) :
    Sound { tables with
      devices := tables.devices ++ [device]
      nextId := tables.nextId + 1 } := by
  constructor
  case devices =>
    rw [Tables.unique_append_iff]
    refine ⟨sound.devices, ?_⟩
    intro taken
    obtain ⟨other, listed, same⟩ := List.mem_map.mp taken
    exact Nat.lt_irrefl _ (same.trans numbered ▸ sound.numbered other listed)
  case bikes => exact sound.bikes
  case numbered =>
    intro other listed
    cases List.mem_append.mp listed with
    | inl earlier => exact Nat.lt_succ_of_lt (sound.numbered other earlier)
    | inr last =>
      rw [List.mem_singleton.mp last, numbered]
      exact Nat.lt_succ_self _
  case numberedBikes =>
    exact fun bike listed => Nat.lt_succ_of_lt (sound.numberedBikes bike listed)
  case linked =>
    intro other listed bikeId link
    cases List.mem_append.mp listed with
    | inl earlier => exact sound.linked other earlier bikeId link
    | inr last =>
      rw [List.mem_singleton.mp last, unlinked] at link
      cases link

/-- A change of a device that keeps its identity and puts it on a stored bike, if on any. -/
theorem sound_changeDevice (sound : Sound tables) {id : DeviceId} {change : Device → Device}
    (kept : ∀ device, (change device).id = device.id)
    (linked : ∀ device ∈ tables.devices, ∀ bikeId, (change device).bikeId = some bikeId →
      ∃ bike ∈ tables.bikes, bike.id = bikeId) :
    Sound { tables with devices := Tables.updateKey Device.id id change tables.devices } := by
  have ids : (Tables.updateKey Device.id id change tables.devices).map Device.id =
      tables.devices.map Device.id := Tables.map_updateKey kept
  constructor
  case devices => exact ids ▸ sound.devices
  case bikes => exact sound.bikes
  case numbered =>
    intro device listed
    rcases Tables.mem_updateKey.mp listed with ⟨old, stored, -, rfl⟩ | ⟨stored, -⟩
    · exact kept old ▸ sound.numbered old stored
    · exact sound.numbered device stored
  case numberedBikes => exact sound.numberedBikes
  case linked =>
    intro device listed bikeId link
    rcases Tables.mem_updateKey.mp listed with ⟨old, stored, -, rfl⟩ | ⟨stored, -⟩
    · exact linked old stored bikeId link
    · exact sound.linked device stored bikeId link

/-- A bike is deleted together with the links to it. -/
theorem sound_deleteBike (sound : Sound tables) (id : BikeId) :
    Sound { tables with
      bikes := tables.bikes.filter fun bike => decide (bike.id ≠ id)
      devices := tables.devices.map fun device =>
        if device.bikeId = some id then { device with bikeId := none } else device
      trips := tables.trips.filter fun trip => decide (trip.bikeId ≠ id) } := by
  have ids : ((tables.devices.map fun device =>
      if device.bikeId = some id then { device with bikeId := none } else device).map
        Device.id) = tables.devices.map Device.id := by
    rw [List.map_map]
    apply List.map_congr_left
    intro device _
    simp only [Function.comp_apply]
    split <;> rfl
  constructor
  case devices => exact ids ▸ sound.devices
  case bikes => exact sound.bikes.sublist (List.filter_sublist.map _)
  case numbered =>
    intro device listed
    obtain ⟨old, stored, rfl⟩ := List.mem_map.mp listed
    split
    · exact sound.numbered old stored
    · exact sound.numbered old stored
  case numberedBikes =>
    exact fun bike listed => sound.numberedBikes bike (List.mem_filter.mp listed).1
  case linked =>
    intro device listed bikeId link
    obtain ⟨old, stored, rfl⟩ := List.mem_map.mp listed
    split at link
    case isTrue => cases link
    case isFalse apart =>
      obtain ⟨bike, present, same⟩ := sound.linked old stored bikeId link
      refine ⟨bike, List.mem_filter.mpr ⟨present, decide_eq_true ?_⟩, same⟩
      rintro rfl
      exact apart (same ▸ link)

/-- Every accepted write keeps the tables sound. -/
theorem sound_commit {operation : Write} (sound : Sound tables)
    (accepted : commit tables operation = .ok written) : Sound written := by
  cases operation with
  | createDevice fleetId deviceUid imei simPhoneNumber =>
    obtain ⟨-, rfl⟩ := createDevice_accepted accepted
    exact sound_createDevice sound rfl rfl
  | setBike id bikeId =>
    obtain ⟨-, present, rfl⟩ := setBike_accepted accepted
    exact sound_changeDevice sound (fun _ => rfl) fun _ _ => present
  | updateDevice id change =>
    obtain ⟨-, rfl⟩ := updateDevice_accepted accepted
    exact sound_changeDevice sound (fun _ => rfl) sound.linked
  | deleteDevice id =>
    obtain ⟨-, rfl⟩ := deleteDevice_accepted accepted
    constructor
    case devices => exact sound.devices.sublist (List.filter_sublist.map _)
    case bikes => exact sound.bikes
    case numbered => exact fun device listed => sound.numbered device (List.mem_filter.mp listed).1
    case numberedBikes => exact sound.numberedBikes
    case linked => exact fun device listed => sound.linked device (List.mem_filter.mp listed).1
  | deleteBike id =>
    obtain ⟨-, rfl⟩ := deleteBike_accepted accepted
    exact sound_deleteBike sound id
  | record record =>
    obtain ⟨devices, later, bikes, numbered, kept, -⟩ := commitRecord_kept sound accepted
    constructor
    case devices => exact devices ▸ sound.devices
    case bikes => exact bikes
    case numbered =>
      intro device listed
      exact Nat.lt_of_lt_of_le (sound.numbered device (devices ▸ listed)) later
    case numberedBikes => exact numbered
    case linked =>
      intro device listed bikeId link
      obtain ⟨bike, stored, same⟩ := sound.linked device (devices ▸ listed) bikeId link
      obtain ⟨there, present, equal⟩ := kept bike stored
      exact ⟨there, present, equal.trans same⟩

/-- A device put on a bike keeps the links exactly when they are of one fleet and the bike is free.
-/
theorem linked_setBike_iff {id : DeviceId} {bikeId : Option BikeId} (sound : Sound tables)
    (linked : Linked tables) (accepted : commit tables (.setBike id bikeId) = .ok written) :
    Linked written ↔ KeepsLinks tables (.setBike id bikeId) := by
  obtain ⟨⟨device, listed, known⟩, present, rfl⟩ := setBike_accepted accepted
  have alone : ∀ other ∈ tables.devices, other.id = id → other = device :=
    fun other stored same => Tables.eq_of_key_eq sound.devices stored listed (same.trans known.symm)
  have updated : { device with bikeId } ∈ Tables.updateKey Device.id id
      (fun device => { device with bikeId }) tables.devices :=
    Tables.mem_updateKey.mpr (.inl ⟨device, listed, known, rfl⟩)
  cases bikeId with
  | none =>
    refine iff_of_true ⟨?_, ?_⟩ trivial
    · intro other stored bike bikeListed link
      rcases Tables.mem_updateKey.mp stored with ⟨old, -, -, rfl⟩ | ⟨old, -⟩
      · cases link
      · exact linked.fleet other old bike bikeListed link
    · intro left leftStored right rightStored some_ same
      rcases Tables.mem_updateKey.mp leftStored with ⟨_, _, _, rfl⟩ | ⟨leftOld, -⟩
      · exact absurd rfl some_
      · rcases Tables.mem_updateKey.mp rightStored with ⟨_, _, _, rfl⟩ | ⟨rightOld, -⟩
        · exact absurd same some_
        · exact linked.single left leftOld right rightOld some_ same
  | some bikeId =>
    constructor
    · intro kept owner stored owned
      rw [alone owner stored owned]
      constructor
      · intro bike bikeListed same
        exact kept.fleet _ updated bike bikeListed (congrArg some same.symm)
      · intro other otherStored link
        by_contra apart
        have stays : other ∈ Tables.updateKey Device.id id
            (fun device => { device with bikeId := some bikeId }) tables.devices :=
          Tables.mem_updateKey.mpr (.inr ⟨otherStored, apart⟩)
        exact apart ((kept.single _ stays _ updated (link ▸ Option.some_ne_none _) link).trans known)
    · intro kept
      obtain ⟨fleets, free⟩ := kept device listed known
      constructor
      · intro other stored bike bikeListed link
        rcases Tables.mem_updateKey.mp stored with ⟨old, oldListed, same, rfl⟩ | ⟨old, -⟩
        · rw [alone old oldListed same]
          exact fleets bike bikeListed (Option.some.inj link).symm
        · exact linked.fleet other old bike bikeListed link
      · intro left leftStored right rightStored some_ same
        rcases Tables.mem_updateKey.mp leftStored with ⟨old, -, known, rfl⟩ | ⟨leftOld, -⟩
        · rcases Tables.mem_updateKey.mp rightStored with ⟨other, -, otherKnown, rfl⟩ | ⟨rightOld, -⟩
          · exact known.trans otherKnown.symm
          · exact known.trans (free right rightOld same.symm).symm
        · rcases Tables.mem_updateKey.mp rightStored with ⟨other, -, otherKnown, rfl⟩ | ⟨rightOld, -⟩
          · exact (free left leftOld same).trans otherKnown.symm
          · exact linked.single left leftOld right rightOld some_ same

/-- A changed device keeps the links exactly when its bike stays in its fleet. -/
theorem linked_updateDevice_iff {id : DeviceId} {change : DeviceChange}
    (linked : Linked tables) (accepted : commit tables (.updateDevice id change) = .ok written) :
    Linked written ↔ KeepsLinks tables (.updateDevice id change) := by
  obtain ⟨⟨device, listed, known⟩, rfl⟩ := updateDevice_accepted accepted
  have old : ∀ row ∈ Tables.updateKey Device.id id change.applyTo tables.devices,
      ∃ device ∈ tables.devices, device.id = row.id ∧ device.bikeId = row.bikeId := by
    intro row stored
    rcases Tables.mem_updateKey.mp stored with ⟨device, there, -, rfl⟩ | ⟨there, -⟩
    · exact ⟨device, there, rfl, rfl⟩
    · exact ⟨row, there, rfl, rfl⟩
  constructor
  · intro kept owner stored owned bike bikeListed link
    have updated : change.applyTo owner ∈ Tables.updateKey Device.id id change.applyTo
        tables.devices := Tables.mem_updateKey.mpr (.inl ⟨owner, stored, owned, rfl⟩)
    exact kept.fleet _ updated bike bikeListed link
  · intro kept
    constructor
    · intro row stored bike bikeListed link
      rcases Tables.mem_updateKey.mp stored with ⟨owner, there, owned, rfl⟩ | ⟨there, -⟩
      · exact kept owner there owned bike bikeListed link
      · exact linked.fleet row there bike bikeListed link
    · intro left leftStored right rightStored some_ same
      obtain ⟨leftOld, leftThere, leftId, leftBike⟩ := old left leftStored
      obtain ⟨rightOld, rightThere, rightId, rightBike⟩ := old right rightStored
      rw [← leftId, ← rightId]
      apply linked.single leftOld leftThere rightOld rightThere
      · exact leftBike ▸ some_
      · exact leftBike.trans (same.trans rightBike.symm)

/-- Every other write keeps the links. -/
theorem linked_commit_iff {operation : Write} (sound : Sound tables) (linked : Linked tables)
    (accepted : commit tables operation = .ok written) :
    Linked written ↔ KeepsLinks tables operation := by
  cases operation with
  | setBike id bikeId => exact linked_setBike_iff sound linked accepted
  | updateDevice id change => exact linked_updateDevice_iff linked accepted
  | createDevice fleetId deviceUid imei simPhoneNumber =>
    obtain ⟨-, rfl⟩ := createDevice_accepted accepted
    refine iff_of_true ⟨?_, ?_⟩ trivial
    · intro device stored bike bikeListed link
      cases List.mem_append.mp stored with
      | inl earlier => exact linked.fleet device earlier bike bikeListed link
      | inr last =>
        rw [List.mem_singleton.mp last] at link
        cases link
    · intro left leftStored right rightStored some_ same
      cases List.mem_append.mp leftStored with
      | inl leftEarlier =>
        cases List.mem_append.mp rightStored with
        | inl rightEarlier => exact linked.single left leftEarlier right rightEarlier some_ same
        | inr last =>
          rw [List.mem_singleton.mp last] at same
          exact absurd same some_
      | inr last =>
        rw [List.mem_singleton.mp last] at some_
        exact absurd rfl some_
  | deleteDevice id =>
    obtain ⟨-, rfl⟩ := deleteDevice_accepted accepted
    refine iff_of_true ⟨?_, ?_⟩ trivial
    · intro device stored
      exact linked.fleet device (List.mem_filter.mp stored).1
    · intro left leftStored right rightStored
      exact linked.single left (List.mem_filter.mp leftStored).1 right
        (List.mem_filter.mp rightStored).1
  | deleteBike id =>
    obtain ⟨-, rfl⟩ := deleteBike_accepted accepted
    have old : ∀ row ∈ tables.devices.map (fun device =>
        if device.bikeId = some id then { device with bikeId := none } else device),
        row.bikeId ≠ none → row ∈ tables.devices := by
      intro row stored some_
      obtain ⟨device, there, rfl⟩ := List.mem_map.mp stored
      split at some_
      case isTrue => exact absurd rfl some_
      case isFalse apart =>
        rw [if_neg apart]
        exact there
    refine iff_of_true ⟨?_, ?_⟩ trivial
    · intro device stored bike bikeListed link
      exact linked.fleet device (old device stored (link ▸ Option.some_ne_none _)) bike
        (List.mem_filter.mp bikeListed).1 link
    · intro left leftStored right rightStored some_ same
      exact linked.single left (old left leftStored some_) right
        (old right rightStored (same ▸ some_)) some_ same
  | record record =>
    refine iff_of_true ?_ trivial
    obtain ⟨devices, -, -, -, -, earlier⟩ := commitRecord_kept sound accepted
    constructor
    · intro device stored bike bikeListed link
      rw [devices] at stored
      obtain ⟨linkedBike, there, same⟩ := sound.linked device stored bike.id link
      obtain ⟨bikeBefore, stored', equal, fleet⟩ :=
        earlier bike bikeListed (same ▸ sound.numberedBikes linkedBike there)
      rw [← fleet]
      exact linked.fleet device stored bikeBefore stored' (equal ▸ link)
    · rw [devices]
      exact linked.single

end Commits

section Overlaps

/-- What a call that links a device to a bike has read is still so: the device and the bike
are of the fleets that it found, by its first and its second access, and whoever is linked
to the bike was so when it looked for other devices, by its third. -/
def LinkUndisturbed (id : DeviceId) (bikeId : BikeId) (seen : List Tables) (tables : Tables) : Prop :=
  (seen[0]?.bind (·.findDevice id)).map Device.fleetId = (tables.findDevice id).map Device.fleetId ∧
    (seen[1]?.bind (·.findBike bikeId)).map Bike.fleetId = (tables.findBike bikeId).map Bike.fleetId ∧
    ∀ other ∈ tables.devices, other.bikeId = some bikeId →
      ∃ table ∈ seen[2]?, ∃ old ∈ table.devices, old.id = other.id ∧ old.bikeId = some bikeId

instance (id : DeviceId) (bikeId : BikeId) (seen : List Tables) (tables : Tables) :
    Decidable (LinkUndisturbed id bikeId seen tables) :=
  inferInstanceAs (Decidable (_ = _ ∧ _ = _ ∧ ∀ _ ∈ _, _ → ∃ table, table ∈ seen[2]? ∧ _))

/-- No other call comes in between the reads of a call that links a device and its write. -/
def NotOvertaken : Request → List Tables → Tables → Write → Prop
  | .assignBikeForUser id bikeId _, seen, tables, _ | .assignBikeToDevice id bikeId, seen, tables, _ =>
    LinkUndisturbed id bikeId seen tables
  | .unassignBikeFromDevice _, _, _, _ | .createDeviceForUser .., _, _, _ | .createDevice _, _, _, _
  | .updateDevice _ _, _, _, _ | .permanentDeleteDevice _, _, _, _ | .deleteBikeHq _, _, _, _
  | .deleteBikeForUser _ _, _, _, _ | .record _, _, _, _ => True

instance : (request : Request) → (seen : List Tables) → (tables : Tables) → (operation : Write) →
    Decidable (NotOvertaken request seen tables operation)
  | .assignBikeForUser id bikeId _, seen, tables, _ | .assignBikeToDevice id bikeId, seen, tables, _ =>
    inferInstanceAs (Decidable (LinkUndisturbed id bikeId seen tables))
  | .unassignBikeFromDevice _, _, _, _ | .createDeviceForUser .., _, _, _ | .createDevice _, _, _, _
  | .updateDevice _ _, _, _, _ | .permanentDeleteDevice _, _, _, _ | .deleteBikeHq _, _, _, _
  | .deleteBikeForUser _ _, _, _, _ | .record _, _, _, _ => inferInstanceAs (Decidable True)

/-- A request of the headquarters for another fleet is for a device without a bike, or with
one of that fleet. -/
def MovesWithBike : Request → List Tables → Tables → Write → Prop
  | .updateDevice id body, _, tables, _ =>
    ∀ fleetId ∈ body.fleetId, ∀ device ∈ tables.findDevice id, ∀ bike ∈ tables.bikes,
      device.bikeId = some bike.id → bike.fleetId = fleetId
  | _, _, _, _ => True

/-- What a call that links a device to a bike has checked: they are of one fleet, and no
other device is linked to the bike. -/
def LinkChecked (id : DeviceId) (bikeId : BikeId) (seen : List Tables) : Prop :=
  (∃ device ∈ seen[0]?.bind (·.findDevice id), ∃ bike ∈ seen[1]?.bind (·.findBike bikeId),
      bike.fleetId = device.fleetId) ∧
    ∃ table ∈ seen[2]?, ∀ other ∈ table.devices, other.bikeId = some bikeId → other.id = id

/-- A write that links a device to a bike or may move it to another fleet. -/
def Write.setsLink : Write → Bool
  | .setBike _ (some _) | .updateDevice _ _ => true
  | .setBike _ none | .createDevice .. | .deleteDevice _ | .deleteBike _ | .record _ => false

/-- What is known of a write when a call makes it. -/
def Checked : Request → List Tables → Write → Prop
  | .assignBikeForUser id bikeId _, seen, operation | .assignBikeToDevice id bikeId, seen, operation =>
    operation = .setBike id (some bikeId) ∧ LinkChecked id bikeId seen
  | .updateDevice id body, _, operation =>
    ∃ change, operation = .updateDevice id change ∧ change.fleetId = body.fleetId
  | _, _, operation => operation.setsLink = false

section Calls

variable {sound : Tables → Prop} {vouched : List Tables → Write → Prop} {α : Type}
  {concluded : List Tables → α → Prop} {seen : List Tables}

/-- A row that is loaded was in one of the tables. -/
theorem loadOrThrow_vouches {search : Tables → Option α} {message : String}
    (next : ∀ tables row, search tables = some row → concluded (seen ++ [tables]) row) :
    Overlaps.Vouches commit sound vouched concluded seen (loadOrThrow search message) := by
  intro tables _
  dsimp only
  cases found : search tables with
  | none => trivial
  | some row => exact next tables row found

/-- Behind the check the fleet is the user's. -/
theorem assertFleetAccess_vouches {concluded : List Tables → Unit → Prop}
    {fleetId userFleetId : FleetId} (next : fleetId = userFleetId → concluded seen ()) :
    Overlaps.Vouches commit sound vouched concluded seen (assertFleetAccess fleetId userFleetId) :=
  Overlaps.vouches_ite (fun _ => trivial) fun same => next (not_not.mp same)

/-- Behind the check no other device was on the bike. -/
theorem assertBikeFree_vouches {concluded : List Tables → Unit → Prop} {bikeId : BikeId}
    {id : DeviceId} (next : ∀ tables : Tables,
      (∀ other ∈ tables.devices, other.bikeId = some bikeId → other.id = id) →
        concluded (seen ++ [tables]) ()) :
    Overlaps.Vouches commit sound vouched concluded seen (assertBikeFree bikeId id) := by
  intro tables _
  dsimp only
  cases found : tables.findOtherDevice bikeId id with
  | some other => trivial
  | none =>
    refine next tables fun other listed linked => ?_
    have passed := List.find?_eq_none.mp found other listed
    simpa [linked] using passed

end Calls

/-- The checks of every request answer for the link that it writes. -/
theorem handle_vouches {sound : Tables → Prop} (request : Request) :
    Overlaps.Vouches commit sound (Checked request) (fun _ _ => True) [] (handle request) := by
  cases request with
  | assignBikeForUser id bikeId userFleetId =>
    rw [handle, assignBikeForUser, Overlaps.vouches_bind]
    refine loadOrThrow_vouches fun first device found => ?_
    rw [Overlaps.vouches_bind]
    refine assertFleetAccess_vouches fun deviceOurs => ?_
    rw [Overlaps.vouches_bind]
    refine loadOrThrow_vouches fun second bike bikeFound => ?_
    rw [Overlaps.vouches_bind]
    refine assertFleetAccess_vouches fun bikeOurs => ?_
    rw [Overlaps.vouches_bind]
    refine assertBikeFree_vouches fun third free => ?_
    have sameDevice : device.id = id := by simpa using List.find?_some found
    have sameBike : bike.id = bikeId := by simpa using List.find?_some bikeFound
    rw [sameDevice, sameBike] at free ⊢
    exact ⟨⟨rfl, ⟨device, found, bike, bikeFound, bikeOurs.trans deviceOurs.symm⟩, third, rfl, free⟩,
      fun _ _ _ _ => trivial⟩
  | assignBikeToDevice id bikeId =>
    rw [handle, assignBikeToDevice, Overlaps.vouches_bind]
    refine loadOrThrow_vouches fun first device found => ?_
    rw [Overlaps.vouches_bind]
    refine loadOrThrow_vouches fun second bike bikeFound => ?_
    refine Overlaps.vouches_ite (fun _ => trivial) fun same => ?_
    rw [Overlaps.vouches_bind]
    refine assertBikeFree_vouches fun third free => ?_
    exact ⟨⟨rfl, ⟨device, found, bike, bikeFound, (not_not.mp same).symm⟩, third, rfl, free⟩,
      fun _ _ _ _ => trivial⟩
  | updateDevice id body =>
    rw [handle, updateDevice, Overlaps.vouches_bind]
    refine loadOrThrow_vouches fun first existing _ => ?_
    have write : ∀ shown, Checked (.updateDevice id body) shown (.updateDevice id
        { deviceUid := body.deviceUid
          imei := body.imei.map fun imei => Accounts.given (some imei)
          simPhoneNumber := body.simPhoneNumber.map fun phone => Accounts.given (some phone)
          status := body.status
          fleetId := body.fleetId }) := fun _ => ⟨_, rfl, rfl⟩
    cases asked : body.fleetId with
    | none => exact ⟨asked ▸ write _, fun _ _ _ _ => trivial⟩
    | some fleetId =>
      refine Overlaps.vouches_ite (fun _ => ?_) fun _ => ⟨asked ▸ write _, fun _ _ _ _ => trivial⟩
      rw [Overlaps.vouches_bind]
      change Overlaps.Vouches _ _ _ _ _ (loadOrThrow _ _ >>= fun _ => pure ())
      rw [Overlaps.vouches_bind]
      exact loadOrThrow_vouches fun _ _ _ => ⟨asked ▸ write _, fun _ _ _ _ => trivial⟩
  | unassignBikeFromDevice deviceId =>
    rw [handle, unassignBikeFromDevice, Overlaps.vouches_bind]
    exact loadOrThrow_vouches fun _ _ _ => ⟨rfl, fun _ _ _ _ => trivial⟩
  | createDeviceForUser deviceUid imei simPhoneNumber userFleetId =>
    exact ⟨rfl, fun _ _ _ _ => trivial⟩
  | createDevice body =>
    rw [handle, createDevice, Overlaps.vouches_bind]
    exact loadOrThrow_vouches fun _ _ _ => ⟨rfl, fun _ _ _ _ => trivial⟩
  | permanentDeleteDevice deviceId =>
    rw [handle, permanentDeleteDevice, Overlaps.vouches_bind]
    exact loadOrThrow_vouches fun _ _ _ => ⟨rfl, fun _ _ _ _ => trivial⟩
  | deleteBikeHq id =>
    rw [handle, deleteBikeHq, Overlaps.vouches_bind]
    exact loadOrThrow_vouches fun _ _ _ => ⟨rfl, fun _ _ _ _ => trivial⟩
  | deleteBikeForUser id userFleetId =>
    rw [handle, deleteBikeForUser, Overlaps.vouches_bind]
    refine loadOrThrow_vouches fun _ _ _ => ?_
    rw [Overlaps.vouches_bind]
    exact assertFleetAccess_vouches fun _ => ⟨rfl, fun _ _ _ _ => trivial⟩
  | record record => exact ⟨rfl, fun _ _ _ _ => trivial⟩

/-- A write that sets no link keeps the links. -/
theorem keepsLinks_of_unrelated {tables : Tables} {operation : Write}
    (unrelated : operation.setsLink = false) : KeepsLinks tables operation := by
  cases operation with
  | setBike id bikeId =>
    cases bikeId with
    | none => trivial
    | some bikeId => cases unrelated
  | updateDevice id change => cases unrelated
  | createDevice fleetId deviceUid imei simPhoneNumber => trivial
  | deleteDevice id => trivial
  | deleteBike id => trivial
  | record record => trivial

/-- A call that is not overtaken keeps the links, unless it moves a device without its bike. -/
theorem keepsLinks_iff {request : Request} {seen : List Tables} {tables : Tables}
    {operation : Write} (sound : Sound tables) (linked : Linked tables)
    (checked : Checked request seen operation) (timely : NotOvertaken request seen tables operation) :
    KeepsLinks tables operation ↔ MovesWithBike request seen tables operation := by
  have link : ∀ id bikeId, LinkChecked id bikeId seen → LinkUndisturbed id bikeId seen tables →
      KeepsLinks tables (.setBike id (some bikeId)) := by
    rintro id bikeId ⟨⟨device, found, bike, bikeFound, same⟩, table, shown, free⟩
      ⟨deviceFleet, bikeFleet, linkedBefore⟩ stored listed rfl
    rw [found, (findDevice_iff sound).mpr ⟨listed, rfl⟩] at deviceFleet
    constructor
    · rintro other otherListed rfl
      have there : tables.findBike other.id = some other :=
        (Tables.find?_key_iff sound.bikes).mpr ⟨otherListed, rfl⟩
      rw [bikeFound, there] at bikeFleet
      exact (Option.some.inj bikeFleet).symm.trans (same.trans (Option.some.inj deviceFleet))
    · intro other otherListed linkedToo
      obtain ⟨shownToo, read, old, oldListed, sameId, oldLink⟩ := linkedBefore other otherListed linkedToo
      obtain rfl := Option.some.inj (shown.symm.trans read)
      exact sameId ▸ free old oldListed oldLink
  cases request with
  | assignBikeForUser id bikeId userFleetId =>
    obtain ⟨rfl, checked⟩ := checked
    exact iff_of_true (link id bikeId checked timely) trivial
  | assignBikeToDevice id bikeId =>
    obtain ⟨rfl, checked⟩ := checked
    exact iff_of_true (link id bikeId checked timely) trivial
  | updateDevice id body =>
    obtain ⟨change, rfl, same⟩ := checked
    rw [KeepsLinks, MovesWithBike, same]
    cases body.fleetId with
    | none =>
      refine iff_of_true ?_ fun _ asked => absurd asked (Option.not_mem_none _)
      exact fun device listed _ bike bikeListed owned => linked.fleet device listed bike bikeListed owned
    | some fleetId =>
      constructor
      · rintro keeps other asked device found
        obtain ⟨listed, wanted⟩ := (findDevice_iff sound).mp found
        exact Option.some.inj asked ▸ keeps device listed wanted
      · exact fun moves device listed wanted =>
          moves fleetId rfl device ((findDevice_iff sound).mpr ⟨listed, wanted⟩)
  | unassignBikeFromDevice deviceId => exact iff_of_true (keepsLinks_of_unrelated checked) trivial
  | createDeviceForUser deviceUid imei simPhoneNumber userFleetId =>
    exact iff_of_true (keepsLinks_of_unrelated checked) trivial
  | createDevice body => exact iff_of_true (keepsLinks_of_unrelated checked) trivial
  | permanentDeleteDevice deviceId => exact iff_of_true (keepsLinks_of_unrelated checked) trivial
  | deleteBikeHq id => exact iff_of_true (keepsLinks_of_unrelated checked) trivial
  | deleteBikeForUser id userFleetId => exact iff_of_true (keepsLinks_of_unrelated checked) trivial
  | record record => exact iff_of_true (keepsLinks_of_unrelated checked) trivial

end Overlaps

/-- Over every interleaving of the operations in which no call that links a device is
overtaken, the links are sound after each step exactly if devices move to another fleet
without a bike, or to that of their bike. -/
theorem links_sound_iff (tables : Tables) (actions : List (Action Request)) (sound : Sound tables)
    (linked : Linked tables)
    (timely : Along (Overlaps.watch commit handle)
      (fun before action _ => Overlaps.Meets commit NotOvertaken before action)
      (Overlaps.Watched.begun tables) actions) :
    Along (step commit handle) (fun _ _ next => Linked next.store) ⟨tables, []⟩ actions ↔
      Along (Overlaps.watch commit handle)
        (fun before action _ => Overlaps.Meets commit MovesWithBike before action)
        (Overlaps.Watched.begun tables) actions :=
  @Overlaps.along_changes_iff _ _ _ _ _ commit handle (fun tables => Sound tables ∧ Linked tables)
    Checked NotOvertaken MovesWithBike (fun _ next => Linked next) handle_vouches
    (fun _ both => both.2)
    (fun _ _ _ _ _ both checked timely accepted =>
      (linked_commit_iff both.1 both.2 accepted).trans
        (keepsLinks_iff both.1 both.2 checked timely))
    (fun _ _ _ both keeps accepted => ⟨sound_commit both.1 accepted, keeps⟩) tables actions
    ⟨sound, linked⟩ timely

/-- No fleets yet, and no calls. -/
def emptySystem : System Tables Write DatabaseError Failure where
  store := ⟨[], [], [], [], [], [], 0⟩
  calls := []

/-- The empty tables are sound. -/
theorem sound_empty : Sound emptySystem.store :=
  ⟨List.nodup_nil, List.nodup_nil, fun _ listed => (nomatch listed),
    fun _ listed => (nomatch listed), fun _ listed => (nomatch listed)⟩

/-- The empty tables are linked. -/
theorem linked_empty : Linked emptySystem.store :=
  ⟨fun _ listed => (nomatch listed), fun _ listed => (nomatch listed)⟩

/-- Two fleets, a bike and two devices in the first one. -/
def fleetAndDevices : List (Action Request) :=
  [.submit (.record .createFleet), .advance 0, .submit (.record .createFleet), .advance 1,
    .submit (.record (.createBike 0 none)), .advance 2,
    .submit (.createDeviceForUser "tracker-1" none none 0), .advance 3,
    .submit (.createDeviceForUser "tracker-2" none none 0), .advance 4]

/-- One device is linked and unlinked, then the other one is linked. -/
def relinked : List (Action Request) :=
  fleetAndDevices ++
    ([.submit (.assignBikeForUser 3 2 0), .advance 5, .advance 5, .advance 5, .advance 5,
      .submit (.unassignBikeFromDevice 3), .advance 6, .advance 6,
      .submit (.assignBikeToDevice 4 2), .advance 7, .advance 7, .advance 7, .advance 7] :
      List (Action Request))

/-- In the run of the example the links hold exactly when no assignment is overtaken. -/
theorem links_sound_relinked :
    Along (step commit handle) (fun _ _ next => Linked next.store) emptySystem relinked ↔
      Along (Overlaps.watch commit handle)
        (fun before action _ => Overlaps.Meets commit MovesWithBike before action)
        (Overlaps.Watched.begun emptySystem.store) relinked :=
  links_sound_iff emptySystem.store relinked sound_empty linked_empty
    (along_of_decide (by decide +kernel))

/-- Two requests each find the bike free before either of them links its device. -/
def linkedTwice : List (Action Request) :=
  fleetAndDevices ++
    ([.submit (.assignBikeForUser 3 2 0), .submit (.assignBikeToDevice 4 2),
      .advance 5, .advance 5, .advance 5, .advance 6, .advance 6, .advance 6,
      .advance 5, .advance 6] : List (Action Request))

example : (run (step commit handle) emptySystem linkedTwice).map (fun system =>
    decide (Linked system.store)) = some false := by decide +kernel

/-- A linked device is moved to another fleet. -/
theorem device_moved_with_bike :
    ¬ ∀ (system : System Tables Write DatabaseError Failure) actions,
      Sound system.store → Linked system.store →
      Along (step commit handle) (fun _ _ next => Linked next.store) system actions := by
  intro claim
  refine not_along_of_check emptySystem
    (fleetAndDevices ++
      ([.submit (.assignBikeForUser 3 2 0), .advance 5, .advance 5, .advance 5, .advance 5,
        .submit (.updateDevice 3 ⟨none, none, none, none, some 1⟩), .advance 6, .advance 6] :
        List (Action Request)))
    (.advance 6) (fun _ next (broken : decide (¬ Linked next.store) = true) =>
      of_decide_eq_true broken) ?_ (claim emptySystem _ sound_empty linked_empty)
  decide +kernel

end EmotoFleet.Fleets
