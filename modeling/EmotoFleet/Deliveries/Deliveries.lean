import EmotoFleet.Access.FleetTables
import EmotoFleet.Foundations.Interleavings
import EmotoFleet.Foundations.Tables

/-!
# Deliveries

A delivery is created, assigned to a rider by a member of the fleet or to the nearest rider
by the service, and moved on by its rider. Each of these calls reads the delivery, checks
what it read and writes afterwards; other calls may write in between.

The distance between two points is a parameter, as it is computed in floating point. The
audit rows and the messages to partners that follow a write are left out, and so are the
times that a row was created and changed; the number of updates stands for the latter.
-/

namespace EmotoFleet.Deliveries

open Access (Id User BikeAssignment)
open Accounts (UserRole)
open Billing (FleetType)
open Interleavings Tables

/-- The states of a delivery. -/
inductive DeliveryStatus where
  | PENDING
  | ASSIGNED
  | PICKED_UP
  | IN_TRANSIT
  | DELIVERED
  | FAILED
  deriving DecidableEq, Repr

/-- The word for each state. -/
def DeliveryStatus.name : DeliveryStatus → String
  | .PENDING => "PENDING"
  | .ASSIGNED => "ASSIGNED"
  | .PICKED_UP => "PICKED_UP"
  | .IN_TRANSIT => "IN_TRANSIT"
  | .DELIVERED => "DELIVERED"
  | .FAILED => "FAILED"

/-- The states that may follow each state. -/
def VALID_TRANSITIONS : DeliveryStatus → List DeliveryStatus
  | .PENDING => [.ASSIGNED, .FAILED]
  | .ASSIGNED => [.PENDING, .PICKED_UP, .FAILED]
  | .PICKED_UP => [.IN_TRANSIT, .DELIVERED, .FAILED]
  | .IN_TRANSIT => [.DELIVERED, .FAILED]
  | .DELIVERED => []
  | .FAILED => []

/-- Whether a delivery is over. -/
def isTerminal (status : DeliveryStatus) : Bool := status == .DELIVERED || status == .FAILED

/-- What a client orders. -/
structure CreateDeliveryDto where
  orderNumber : String
  pickupAddress : String
  pickupLat : ℚ
  pickupLng : ℚ
  dropoffAddress : String
  dropoffLat : ℚ
  dropoffLng : ℚ
  customerName : String
  customerPhone : String
  notes : Option String
  deriving DecidableEq

/-- A delivery. -/
structure Delivery where
  id : Id
  fleetId : Id
  riderId : Option Id
  order : CreateDeliveryDto
  status : DeliveryStatus
  assignedAt : Option Int
  pickedUpAt : Option Int
  inTransitAt : Option Int
  deliveredAt : Option Int
  failedAt : Option Int
  failureReason : Option String
  proofPhotoUrl : Option String
  proofSignature : Option String
  notes : Option String
  updates : Nat
  deriving DecidableEq

/-- What the cache holds about a bike. -/
structure LiveState where
  fleetId : Id
  bikeId : Id
  batteryV : Option ℚ
  lat : ℚ
  lng : ℚ

/-- What the calls read besides deliveries. -/
structure Surroundings where
  now : Int
  fleets : List (Id × FleetType)
  users : List User
  assignments : List BikeAssignment
  online : List (Id × String)
  live : List LiveState

/-- The deliveries, and what the service reads besides. -/
structure Store where
  deliveries : List Delivery
  distinct : (deliveries.map (·.id)).Nodup
  surroundings : Surroundings

/-- The columns that a change of the status sets. Of the optional ones those without a
value stay as they are. -/
structure StatusData where
  status : DeliveryStatus
  notes : Option String
  pickedUpAt : Option Int
  inTransitAt : Option Int
  deliveredAt : Option Int
  proofPhotoUrl : Option String
  proofSignature : Option String
  failedAt : Option Int
  failureReason : Option String

/-- The codes of the database for a value that is not unique, a reference to a missing
row, and a row to update that is missing. -/
inductive DatabaseError where
  | P2002
  | P2003
  | P2025
  deriving DecidableEq

/-- How an operation may end without an answer. -/
inductive Failure where
  | badRequest (message : String)
  | forbidden (message : String)
  | notFound (message : String)
  | database (error : DatabaseError)
  deriving DecidableEq

/-- One write: of a delivery, or of what the calls read besides. -/
inductive Write where
  | create (id fleetId : Id) (order : CreateDeliveryDto)
  | assign (id riderId : Id) (assignedAt : Int)
  | setStatus (id : Id) (data : StatusData)
  | surround (surroundings : Surroundings)

section Writes

/-- A delivery that was just ordered. -/
def newDelivery (id fleetId : Id) (order : CreateDeliveryDto) : Delivery where
  id := id
  fleetId := fleetId
  riderId := none
  order := order
  status := .PENDING
  assignedAt := none
  pickedUpAt := none
  inTransitAt := none
  deliveredAt := none
  failedAt := none
  failureReason := none
  proofPhotoUrl := none
  proofSignature := none
  notes := order.notes
  updates := 0

/-- A delivery given to a rider. -/
def assigned (riderId : Id) (assignedAt : Int) (row : Delivery) : Delivery :=
  { row with
    riderId := some riderId
    status := .ASSIGNED
    assignedAt := some assignedAt
    updates := row.updates + 1 }

/-- A delivery with the data of a new status. -/
def moved (data : StatusData) (row : Delivery) : Delivery :=
  { row with
    status := data.status
    notes := data.notes
    pickedUpAt := data.pickedUpAt <|> row.pickedUpAt
    inTransitAt := data.inTransitAt <|> row.inTransitAt
    deliveredAt := data.deliveredAt <|> row.deliveredAt
    proofPhotoUrl := data.proofPhotoUrl <|> row.proofPhotoUrl
    proofSignature := data.proofSignature <|> row.proofSignature
    failedAt := data.failedAt <|> row.failedAt
    failureReason := data.failureReason <|> row.failureReason
    updates := row.updates + 1 }

/-- An assigned delivery stays the same delivery. -/
@[simp] theorem assigned_id (riderId : Id) (assignedAt : Int) (row : Delivery) :
    (assigned riderId assignedAt row).id = row.id :=
  rfl

/-- A moved delivery stays the same delivery. -/
@[simp] theorem moved_id (data : StatusData) (row : Delivery) : (moved data row).id = row.id := rfl

/-- The delivery with an identity is changed and keeps it. -/
def Store.change (store : Store) (id : Id) (change : Delivery → Delivery)
    (kept : ∀ row, (change row).id = row.id) : Store :=
  { store with
    deliveries := updateKey (·.id) id change store.deliveries
    distinct := by
      rw [map_updateKey kept]
      exact store.distinct }

/-- The delivery of an identity. -/
def find (store : Store) (id : Id) : Option Delivery :=
  store.deliveries.find? fun row => decide (row.id = id)

/-- Whether an identity is that of an account. -/
def isUser (surroundings : Surroundings) (id : Id) : Bool :=
  surroundings.users.any fun user => user.id == id

/-- A write, unless the database refuses it. A user who is the rider of a delivery stays. -/
def commit (store : Store) : Write → Except DatabaseError Store
  | .create id fleetId order =>
    if taken : id ∈ store.deliveries.map (·.id) then .error .P2002
    else if store.deliveries.any fun row =>
        row.fleetId == fleetId && row.order.orderNumber == order.orderNumber then
      .error .P2002
    else
      .ok { store with
        deliveries := store.deliveries ++ [newDelivery id fleetId order]
        distinct := (unique_append_iff _).mpr ⟨store.distinct, taken⟩ }
  | .assign id riderId assignedAt =>
    match find store id with
    | none => .error .P2025
    | some _ =>
      if isUser store.surroundings riderId then
        .ok (store.change id (assigned riderId assignedAt) (assigned_id riderId assignedAt))
      else .error .P2003
  | .setStatus id data =>
    match find store id with
    | none => .error .P2025
    | some _ => .ok (store.change id (moved data) (moved_id data))
  | .surround surroundings =>
    if store.deliveries.all fun row => row.riderId.all (isUser surroundings) then
      .ok { store with surroundings }
    else .error .P2003

end Writes

/-! ## The operations -/

section Operations

/-- An operation, access by access. -/
abbrev Operation := Program Store Write DatabaseError Failure

/-- An operation that ends with a failure. -/
def fail (failure : Failure) : Operation Unit := .failed failure

/-- The fields of the caller that the operations use. -/
structure AuthenticatedUser where
  id : Id
  role : UserRole

/-- What is sent to change the status. -/
structure UpdateDeliveryStatusDto where
  status : DeliveryStatus
  failureReason : Option String
  proofPhotoUrl : Option String
  proofSignature : Option String
  notes : Option String

/-- The delivery of an identity in a fleet. -/
def findInFleet (store : Store) (fleetId id : Id) : Option Delivery :=
  store.deliveries.find? fun row => row.id == id && row.fleetId == fleetId

/-- The fleet is one that delivers. -/
def ensureDeliveryFleet (fleetId : Id) : Operation Unit :=
  .reading fun store =>
    if store.surroundings.fleets.any fun fleet => fleet.1 == fleetId && fleet.2 == .DELIVERY then
      pure ()
    else fail (.forbidden "Delivery management is restricted to DELIVERY fleets")

/-- The identity of the new delivery is an argument. -/
def createDelivery (id fleetId : Id) (dto : CreateDeliveryDto) : Operation Unit := do
  ensureDeliveryFleet fleetId
  .write (.create id fleetId dto) .database

/-- A dispatcher gives a delivery to a rider. -/
def assignDelivery (fleetId id riderId : Id) : Operation Unit := do
  match ← Program.read fun store => findInFleet store fleetId id with
  | none => fail (.notFound "Delivery not found")
  | some delivery =>
    if isTerminal delivery.status then
      fail (.badRequest "Cannot assign a delivery in a terminal state")
    let riderUser ← Program.read fun store => store.surroundings.users.any fun user =>
      user.id == riderId && user.fleetId == fleetId && user.role == .RIDER
    unless riderUser do
      fail (.badRequest "Rider not found in this fleet")
    let now ← Program.read fun store => store.surroundings.now
    .write (.assign id riderId now) .database

/-- The columns that a request for a status sets on a delivery with some notes. -/
def statusData (dto : UpdateDeliveryStatusDto) (notes : Option String) (now : Int) : StatusData where
  status := dto.status
  notes := dto.notes <|> notes
  pickedUpAt := if dto.status = .PICKED_UP then some now else none
  inTransitAt := if dto.status = .IN_TRANSIT then some now else none
  deliveredAt := if dto.status = .DELIVERED then some now else none
  proofPhotoUrl := if dto.status = .DELIVERED then dto.proofPhotoUrl else none
  proofSignature := if dto.status = .DELIVERED then dto.proofSignature else none
  failedAt := if dto.status = .FAILED then some now else none
  failureReason := if dto.status = .FAILED then dto.failureReason else none

/-- A rider or a dispatcher changes the status. -/
def updateDeliveryStatus (fleetId id : Id) (dto : UpdateDeliveryStatusDto)
    (actor : AuthenticatedUser) : Operation Unit := do
  match ← Program.read fun store => findInFleet store fleetId id with
  | none => fail (.notFound "Delivery not found")
  | some delivery =>
    if actor.role = .RIDER ∧ delivery.riderId ≠ some actor.id then
      fail (.badRequest "You can only update status of deliveries assigned to you")
    let currentStatus := delivery.status
    let nextStatus := dto.status
    if currentStatus ≠ nextStatus ∧ nextStatus ∉ VALID_TRANSITIONS currentStatus then
      fail (.badRequest ("Invalid status transition from " ++ currentStatus.name ++ " to " ++
        nextStatus.name))
    let now ← Program.read fun store => store.surroundings.now
    .write (.setStatus id (statusData dto delivery.notes now)) .database

/-- A rider who is online on a bike of which the place is known. -/
structure Candidate where
  riderId : Id
  bikeId : Id
  distance : ℚ
  batteryLevel : ℚ

variable (calculateHaversineDistance : ℚ → ℚ → ℚ → ℚ → ℚ)

/-- The riders of a fleet who may be asked. -/
def activeRiders (store : Store) (fleetId : Id) : List User :=
  store.surroundings.users.filter fun user =>
    user.fleetId == fleetId && user.role == .RIDER && user.status == "ACTIVE"

/-- The riders who are online, each with the bike of the first active assignment. -/
def onlineRidersWithBikes (store : Store) (riders : List (User × Option Id)) : List (Id × Id) :=
  riders.filterMap fun (rider, bike) =>
    if store.surroundings.online.lookup rider.id = some "ONLINE" then
      bike.map fun bikeId => (rider.id, bikeId)
    else none

/-- The riders who could take a delivery, with their distances. -/
def findCandidates (store : Store) (fleetId : Id) (pickup : CreateDeliveryDto)
    (riders : List (Id × Id)) : List Candidate :=
  riders.filterMap fun (riderId, bikeId) => do
    let state ← store.surroundings.live.find? fun state =>
      state.fleetId == fleetId && state.bikeId == bikeId
    -- a voltage of zero counts as missing
    let batteryV := (state.batteryV.filter (· ≠ 0)).getD 48
    guard (42 ≤ batteryV)
    return {
      riderId, bikeId, batteryLevel := batteryV
      distance := calculateHaversineDistance state.lat state.lng pickup.pickupLat pickup.pickupLng }

/-- The delivery goes to the nearest rider. -/
def autoAssignDelivery (fleetId id : Id) : Operation Unit := do
  match ← Program.read fun store => findInFleet store fleetId id with
  | none => fail (.notFound "Delivery not found")
  | some delivery =>
    if delivery.status ≠ .PENDING then
      fail (.badRequest "Delivery must be in PENDING status to auto-assign")
    let riders ← Program.read fun store => (activeRiders store fleetId).map fun rider =>
      (rider, (store.surroundings.assignments.find? fun row =>
        row.riderUserId == rider.id && row.active).map (·.bikeId))
    if riders.isEmpty then
      fail (.badRequest "No riders registered in this fleet")
    let online ← Program.read fun store => onlineRidersWithBikes store riders
    let candidates ← Program.read fun store =>
      findCandidates calculateHaversineDistance store fleetId delivery.order online
    match (candidates.mergeSort fun left right => decide (left.distance ≤ right.distance)).head? with
    | none =>
      fail (.badRequest "No online couriers with active vehicles and sufficient battery found")
    | some bestCandidate =>
      let now ← Program.read fun store => store.surroundings.now
      .write (.assign id bestCandidate.riderId now) .database

/-- What comes in: a request, or a change of what the calls read besides deliveries. -/
inductive Request where
  | createDelivery (id fleetId : Id) (dto : CreateDeliveryDto)
  | assignDelivery (fleetId id riderId : Id)
  | autoAssignDelivery (fleetId id : Id)
  | updateDeliveryStatus (fleetId id : Id) (dto : UpdateDeliveryStatusDto) (actor : AuthenticatedUser)
  | surround (surroundings : Surroundings)

/-- The operations that serve the requests. -/
def handle : Request → Operation Unit
  | .createDelivery id fleetId dto => createDelivery id fleetId dto
  | .assignDelivery fleetId id riderId => assignDelivery fleetId id riderId
  | .autoAssignDelivery fleetId id => autoAssignDelivery calculateHaversineDistance fleetId id
  | .updateDeliveryStatus fleetId id dto actor => updateDeliveryStatus fleetId id dto actor
  | .surround surroundings => .write (.surround surroundings) .database

end Operations

end EmotoFleet.Deliveries
