import EmotoFleet.Accounts.UserIdentities
import EmotoFleet.Foundations.CanonicalJson
import EmotoFleet.Foundations.Interleavings
import EmotoFleet.Foundations.Tables
import EmotoFleet.Telemetry.RulesEngine

/-!
# Devices, the bikes that they are linked to, and what they record

A device belongs to a fleet and may be linked to a bike. Fleets and headquarters link,
unlink, move and delete devices; each of these operations reads the rows it is about and
then writes one row, and other operations take place in between. A device that reports
stores telemetry under its own identity. Which bike it was on at that moment is not
stored; the model keeps it beside each point, where no operation reads it.

The secrets of a device, the columns that only describe it and the audit log are left out.
-/

namespace EmotoFleet.Fleets

open CanonicalJson (Json)
open Interleavings
open RulesEngine (EventType Severity)

abbrev FleetId := Nat
abbrev BikeId := Nat
abbrev DeviceId := Nat
abbrev TripId := Nat

/-- A bike as the devices service reads it. -/
structure Bike where
  id : BikeId
  fleetId : FleetId
  insurerName : Option String
  deriving DecidableEq

/-- The states of a device. -/
inductive DeviceStatus where
  | ACTIVE
  | INACTIVE
  | RETIRED
  deriving DecidableEq

/-- A device and what it is known by. -/
structure Device where
  id : DeviceId
  fleetId : FleetId
  imei : Option String
  deviceUid : String
  bikeId : Option BikeId
  simPhoneNumber : Option String
  status : DeviceStatus
  deriving DecidableEq

/-- A trip of a bike. -/
structure Trip where
  id : TripId
  fleetId : FleetId
  bikeId : BikeId
  startTs : Int
  endTs : Option Int
  deriving DecidableEq

/-- What a device measured. -/
structure Reading where
  lat : ℚ
  lng : ℚ
  speedKph : ℚ
  batteryV : Option ℚ
  batteryPct : Option ℚ
  ignition : Option Bool
  deriving DecidableEq

/-- A stored point, and beside it the bike that the device was linked to at the time. -/
structure TelemetryPoint where
  deviceId : DeviceId
  ts : Int
  reading : Reading
  recordedFor : Option BikeId
  deriving DecidableEq

/-- An event of a bike. -/
structure Event where
  id : Nat
  bikeId : Option BikeId
  ts : Int
  type : EventType
  severity : Severity
  metaJson : Json ℚ

/-- The tables. New rows are numbered by `nextId`. -/
structure Tables where
  fleets : List FleetId
  bikes : List Bike
  devices : List Device
  trips : List Trip
  points : List TelemetryPoint
  events : List Event
  nextId : Nat

/-- The codes of the database for a value that is not unique, a reference to a missing
row, and a row to update that is missing. -/
inductive DatabaseError where
  | P2002
  | P2003
  | P2025
  deriving DecidableEq

/-- How an operation may end without an answer. -/
inductive Failure where
  | badRequest (message : String)
  | conflict (message : String)
  | forbidden (message : String)
  | notFound (message : String)
  | database (error : DatabaseError)
  deriving DecidableEq

namespace Tables

variable (tables : Tables)

/-- The device of an identity. -/
def findDevice (id : DeviceId) : Option Device :=
  tables.devices.find? fun device => decide (device.id = id)

/-- The bike of an identity. -/
def findBike (id : BikeId) : Option Bike :=
  tables.bikes.find? fun bike => decide (bike.id = id)

/-- Another device that is linked to a bike. -/
def findOtherDevice (bikeId : BikeId) (id : DeviceId) : Option Device :=
  tables.devices.find? fun device => decide (device.bikeId = some bikeId) && decide (device.id ≠ id)

/-- Some other device has the identifier, or the IMEI if there is one. -/
def identifierTaken (id : DeviceId) (deviceUid : String) (imei : Option String) : Bool :=
  tables.devices.any fun device => decide (device.id ≠ id) &&
    (decide (device.deviceUid = deviceUid) || imei.isSome && decide (device.imei = imei))

end Tables

/-! ## Writes -/

/-- The columns that an update of the headquarters sets; `none` leaves a column as it is. -/
structure DeviceChange where
  deviceUid : Option String
  imei : Option (Option String)
  simPhoneNumber : Option (Option String)
  status : Option DeviceStatus
  fleetId : Option FleetId

/-- A device with the given columns changed. -/
def DeviceChange.applyTo (change : DeviceChange) (device : Device) : Device :=
  { device with
    deviceUid := change.deviceUid.getD device.deviceUid
    imei := change.imei.getD device.imei
    simPhoneNumber := change.simPhoneNumber.getD device.simPhoneNumber
    status := change.status.getD device.status
    fleetId := change.fleetId.getD device.fleetId }

/-- What changes neither devices nor their links. Deleting trips is how a trip takes the
place of those it overlaps. -/
inductive Record where
  | createFleet
  | createBike (fleetId : FleetId) (insurerName : Option String)
  | insureBike (id : BikeId) (insurerName : Option String)
  | createTrip (fleetId : FleetId) (bikeId : BikeId) (startTs : Int) (endTs : Option Int)
  | deleteTrips (chosen : Trip → Bool)
  | upsertPoint (deviceId : DeviceId) (ts : Int) (reading : Reading)
  | createEvent (bikeId : Option BikeId) (ts : Int) (type : EventType) (severity : Severity)
    (metaJson : Json ℚ)

/-- The writes of the operations. -/
inductive Write where
  | createDevice (fleetId : FleetId) (deviceUid : String) (imei simPhoneNumber : Option String)
  | setBike (id : DeviceId) (bikeId : Option BikeId)
  | updateDevice (id : DeviceId) (change : DeviceChange)
  | deleteDevice (id : DeviceId)
  | deleteBike (id : BikeId)
  | record (record : Record)

/-- Whether a point is that of a device and an instant. -/
def samePoint (deviceId : DeviceId) (ts : Int) (point : TelemetryPoint) : Bool :=
  decide (point.deviceId = deviceId ∧ point.ts = ts)

/-- A point is stored once for a device and an instant; later readings replace it. -/
def upsertPoint (tables : Tables) (device : Device) (ts : Int) (reading : Reading) :
    List TelemetryPoint :=
  if tables.points.any (samePoint device.id ts) then
    tables.points.map fun point =>
      if samePoint device.id ts point then { point with reading := reading } else point
  else tables.points ++ [⟨device.id, ts, reading, device.bikeId⟩]

/-- What the telemetry and the rest of the system add to the tables. -/
def commitRecord (tables : Tables) : Record → Except DatabaseError Tables
  | .createFleet =>
    .ok { tables with fleets := tables.fleets ++ [tables.nextId], nextId := tables.nextId + 1 }
  | .createBike fleetId insurerName =>
    if fleetId ∈ tables.fleets then
      .ok { tables with
        bikes := tables.bikes ++ [⟨tables.nextId, fleetId, insurerName⟩]
        nextId := tables.nextId + 1 }
    else .error .P2003
  | .insureBike id insurerName =>
    .ok { tables with
      bikes := Tables.updateKey Bike.id id (fun bike => { bike with insurerName }) tables.bikes }
  | .createTrip fleetId bikeId startTs endTs =>
    if (tables.findBike bikeId).isSome then
      .ok { tables with
        trips := tables.trips ++ [⟨tables.nextId, fleetId, bikeId, startTs, endTs⟩]
        nextId := tables.nextId + 1 }
    else .error .P2003
  | .deleteTrips chosen =>
    .ok { tables with trips := tables.trips.filter fun trip => !chosen trip }
  | .upsertPoint deviceId ts reading =>
    match tables.findDevice deviceId with
    | none => .error .P2003
    | some device => .ok { tables with points := upsertPoint tables device ts reading }
  | .createEvent bikeId ts type severity metaJson =>
    .ok { tables with
      events := tables.events ++ [⟨tables.nextId, bikeId, ts, type, severity, metaJson⟩]
      nextId := tables.nextId + 1 }

/-- A deleted device takes its points with it, a deleted bike its trips; a device that was
linked to it is linked to none. -/
def commit (tables : Tables) : Write → Except DatabaseError Tables
  | .createDevice fleetId deviceUid imei simPhoneNumber =>
    if tables.identifierTaken tables.nextId deviceUid imei then .error .P2002
    else if fleetId ∉ tables.fleets then .error .P2003
    else .ok { tables with
      devices := tables.devices ++
        [⟨tables.nextId, fleetId, imei, deviceUid, none, simPhoneNumber, .ACTIVE⟩]
      nextId := tables.nextId + 1 }
  | .setBike id bikeId =>
    if tables.findDevice id = none then .error .P2025
    else if bikeId.any fun bike => (tables.findBike bike).isNone then .error .P2003
    else .ok { tables with
      devices := Tables.updateKey Device.id id (fun device => { device with bikeId })
        tables.devices }
  | .updateDevice id change =>
    match tables.findDevice id with
    | none => .error .P2025
    | some device =>
      let updated := change.applyTo device
      if tables.identifierTaken id updated.deviceUid updated.imei then .error .P2002
      else if updated.fleetId ∉ tables.fleets then .error .P2003
      else .ok { tables with
        devices := Tables.updateKey Device.id id change.applyTo tables.devices }
  | .deleteDevice id =>
    if tables.findDevice id = none then .error .P2025
    else .ok { tables with
      devices := tables.devices.filter fun device => decide (device.id ≠ id)
      points := tables.points.filter fun point => decide (point.deviceId ≠ id) }
  | .deleteBike id =>
    if tables.findBike id = none then .error .P2025
    else .ok { tables with
      bikes := tables.bikes.filter fun bike => decide (bike.id ≠ id)
      devices := tables.devices.map fun device =>
        if device.bikeId = some id then { device with bikeId := none } else device
      trips := tables.trips.filter fun trip => decide (trip.bikeId ≠ id) }
  | .record record => commitRecord tables record

/-! ## Operations -/

/-- An operation, access by access. -/
abbrev Operation := Program Tables Write DatabaseError Failure

/-- An operation that ends with a failure. -/
def fail {α : Type} (failure : Failure) : Operation α :=
  .failed failure

/-- A row that is there, or the failure of the operation. -/
def loadOrThrow {α : Type} (search : Tables → Option α) (message : String) : Operation α :=
  .reading fun tables =>
    match search tables with
    | none => fail (.notFound message)
    | some row => pure row

/-- A user keeps to their own fleet. -/
def assertFleetAccess (fleetId userFleetId : FleetId) : Operation Unit := do
  if fleetId ≠ userFleetId then
    fail (.forbidden "Fleet access violation")

/-- Refuses a bike to which another device is linked. -/
def assertBikeFree (bikeId : BikeId) (id : DeviceId) : Operation Unit :=
  .reading fun tables =>
    match tables.findOtherDevice bikeId id with
    | none => pure ()
    | some _ => fail (.conflict "Bike is already assigned to another device")

/-- A user puts a device on a bike of their fleet. -/
def assignBikeForUser (id : DeviceId) (bikeId : BikeId) (userFleetId : FleetId) :
    Operation Unit := do
  let device ← loadOrThrow (·.findDevice id) "Device not found"
  assertFleetAccess device.fleetId userFleetId
  let bike ← loadOrThrow (·.findBike bikeId) "Bike not found"
  assertFleetAccess bike.fleetId userFleetId
  assertBikeFree bike.id device.id
  .write (.setBike device.id (some bike.id)) .database

/-- Headquarters puts a device on a bike of its fleet. -/
def assignBikeToDevice (deviceId : DeviceId) (bikeId : BikeId) : Operation Unit := do
  let device ← loadOrThrow (·.findDevice deviceId) "Device not found"
  let bike ← loadOrThrow (·.findBike bikeId) "Bike not found"
  if device.fleetId ≠ bike.fleetId then
    fail (.badRequest "Device and bike must belong to the same fleet")
  assertBikeFree bikeId deviceId
  .write (.setBike deviceId (some bikeId)) .database

/-- Headquarters takes a device off its bike. -/
def unassignBikeFromDevice (deviceId : DeviceId) : Operation Unit := do
  let _ ← loadOrThrow (·.findDevice deviceId) "Device not found"
  .write (.setBike deviceId none) .database

/-- What a caller is told of an identifier that is taken. -/
def rejectedIdentifier (failure : String → Failure) : DatabaseError → Failure
  | .P2002 => failure "deviceUid or imei already exists"
  | error => .database error

/-- A user adds a device to their fleet. -/
def createDeviceForUser (deviceUid : String) (imei simPhoneNumber : Option String)
    (userFleetId : FleetId) : Operation Unit :=
  .write (.createDevice userFleetId deviceUid imei simPhoneNumber) (rejectedIdentifier .conflict)

/-- What headquarters sends for a new device. -/
structure CreateDeviceBody where
  deviceUid : String
  imei : Option String
  simPhoneNumber : Option String
  fleetId : FleetId

/-- Headquarters adds a device to a fleet. -/
def createDevice (body : CreateDeviceBody) : Operation Unit := do
  let _ ← loadOrThrow (fun tables => tables.fleets.find? (· = body.fleetId)) "Fleet not found"
  .write (.createDevice body.fleetId body.deviceUid (Accounts.given body.imei)
    (Accounts.given body.simPhoneNumber)) (rejectedIdentifier .badRequest)

/-- What headquarters sends for a changed device. -/
structure UpdateDeviceBody where
  deviceUid : Option String
  imei : Option String
  simPhoneNumber : Option String
  status : Option DeviceStatus
  fleetId : Option FleetId

/-- A fleet other than that of the device has to exist. The bike of the device is not looked at. -/
def updateDevice (id : DeviceId) (body : UpdateDeviceBody) : Operation Unit := do
  let existing ← loadOrThrow (·.findDevice id) "Device not found"
  match body.fleetId with
  | none => pure ()
  | some fleetId =>
    if fleetId ≠ existing.fleetId then
      discard (loadOrThrow (fun tables => tables.fleets.find? (· = fleetId)) "Target fleet not found")
  .write (.updateDevice id
      { deviceUid := body.deviceUid
        imei := body.imei.map fun imei => Accounts.given (some imei)
        simPhoneNumber := body.simPhoneNumber.map fun phone => Accounts.given (some phone)
        status := body.status
        fleetId := body.fleetId })
    (rejectedIdentifier .badRequest)

/-- Headquarters deletes a device. -/
def permanentDeleteDevice (deviceId : DeviceId) : Operation Unit := do
  let _ ← loadOrThrow (·.findDevice deviceId) "Device not found"
  .write (.deleteDevice deviceId) .database

/-- Headquarters deletes a bike. -/
def deleteBikeHq (id : BikeId) : Operation Unit := do
  let _ ← loadOrThrow (·.findBike id) "Bike not found"
  .write (.deleteBike id) .database

/-- A user deletes a bike of their fleet. -/
def deleteBikeForUser (id : BikeId) (userFleetId : FleetId) : Operation Unit := do
  let bike ← loadOrThrow (·.findBike id) "Bike not found"
  assertFleetAccess bike.fleetId userFleetId
  .write (.deleteBike id) .database

/-- A request to one of the operations, with the caller's fleet where it matters. The last
one stands for whatever else fills the tables. -/
inductive Request where
  | assignBikeForUser (id : DeviceId) (bikeId : BikeId) (userFleetId : FleetId)
  | assignBikeToDevice (deviceId : DeviceId) (bikeId : BikeId)
  | unassignBikeFromDevice (deviceId : DeviceId)
  | createDeviceForUser (deviceUid : String) (imei simPhoneNumber : Option String)
    (userFleetId : FleetId)
  | createDevice (body : CreateDeviceBody)
  | updateDevice (id : DeviceId) (body : UpdateDeviceBody)
  | permanentDeleteDevice (deviceId : DeviceId)
  | deleteBikeHq (id : BikeId)
  | deleteBikeForUser (id : BikeId) (userFleetId : FleetId)
  | record (record : Record)

/-- The operations that serve the requests. -/
def handle : Request → Operation Unit
  | .assignBikeForUser id bikeId userFleetId => assignBikeForUser id bikeId userFleetId
  | .assignBikeToDevice deviceId bikeId => assignBikeToDevice deviceId bikeId
  | .unassignBikeFromDevice deviceId => unassignBikeFromDevice deviceId
  | .createDeviceForUser deviceUid imei simPhoneNumber userFleetId =>
    createDeviceForUser deviceUid imei simPhoneNumber userFleetId
  | .createDevice body => createDevice body
  | .updateDevice id body => updateDevice id body
  | .permanentDeleteDevice deviceId => permanentDeleteDevice deviceId
  | .deleteBikeHq id => deleteBikeHq id
  | .deleteBikeForUser id userFleetId => deleteBikeForUser id userFleetId
  | .record record => .write (.record record) .database

/-! ## What writes keep -/

/-- Keys are unique, references lead to rows, and the numbers from `nextId` on are free. -/
structure Sound (tables : Tables) : Prop where
  devices : (tables.devices.map Device.id).Nodup
  bikes : (tables.bikes.map Bike.id).Nodup
  numbered : ∀ device ∈ tables.devices, device.id < tables.nextId
  numberedBikes : ∀ bike ∈ tables.bikes, bike.id < tables.nextId
  linked : ∀ device ∈ tables.devices, ∀ bikeId, device.bikeId = some bikeId →
    ∃ bike ∈ tables.bikes, bike.id = bikeId

/-- In sound tables an identity finds its only device. -/
theorem findDevice_iff {tables : Tables} (sound : Sound tables) {id : DeviceId} {device : Device} :
    tables.findDevice id = some device ↔ device ∈ tables.devices ∧ device.id = id :=
  Tables.find?_key_iff sound.devices

end EmotoFleet.Fleets
