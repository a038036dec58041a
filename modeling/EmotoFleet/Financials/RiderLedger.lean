import EmotoFleet.Access.FleetTables
import EmotoFleet.Billing.BillingCycles
import EmotoFleet.Commands.DeviceCommands
import EmotoFleet.Foundations.Tables

/-!
# The ledger of rider payments

Riders pay for their bikes, and every payment is a row of one table. Four parts of the
service write into it: a member of the fleet records what was paid by hand, a confirmed
mobile money transfer records itself, a new rider on a lease starts with the deposit, and
the commissions for deliveries, which the fleet owes to the rider, are paid out.

A query without an order may meet the rows in any order; where a search takes the first
row that it meets, the place where it starts is an argument. Audit rows and the names in
the answers are left out.
-/

namespace EmotoFleet.Financials

open Access (Id User RiderProfile BikeAssignment Bike millisPerDay toFixed)
open Accounts (UserRole given)
open Billing (PaymentMethod BikeStatus PARTIAL_PREFIX)
open DeviceCommands (DeviceCommandType DeviceCommandStatus)
open Tables
open WhiteSpace (trim)

inductive PaymentStatus where
  | PAID
  | PARTIAL
  | UNPAID
  | OVERDUE
  deriving DecidableEq

/-- Who recorded a row. This is a note of the model; the table does not store it. -/
inductive Writer where
  | manual
  | momo
  | upfront
  | commission
  deriving DecidableEq

/-- Who recorded a row that is overwritten by hand: the part of the service that did so first,
and otherwise the one that writes now, which may be for a commission. -/
def Writer.overwrittenBy (earlier later : Writer) : Writer :=
  if earlier = .manual then later else earlier

structure RiderPayment where
  id : Nat
  fleetId : Id
  riderId : Id
  amount : ℚ
  paidAt : Int
  method : PaymentMethod
  status : PaymentStatus
  reference : Option String
  notes : Option String
  isPartial : Bool
  partialReason : Option String
  recordedBy : Writer
  deriving DecidableEq

/-- The table, whose rows are known by their identity. -/
structure Ledger where
  rows : List RiderPayment
  distinct : (rows.map (·.id)).Nodup

namespace Ledger

def nextId (ledger : Ledger) : Nat := (ledger.rows.map (·.id)).foldr max 0 + 1

theorem le_foldr_max {ids : List Nat} {id : Nat} (listed : id ∈ ids) : id ≤ ids.foldr max 0 := by
  induction ids with
  | nil => cases listed
  | cons first rest inductionHypothesis =>
    rw [List.foldr_cons]
    cases List.mem_cons.mp listed with
    | inl same => exact same ▸ Nat.le_max_left _ _
    | inr later => exact Nat.le_trans (inductionHypothesis later) (Nat.le_max_right _ _)

theorem nextId_new (ledger : Ledger) : ledger.nextId ∉ ledger.rows.map (·.id) := by
  intro listed
  exact absurd (le_foldr_max listed) (Nat.not_le.mpr (Nat.lt_succ_self _))

/-- A new row, whatever identity it is given. -/
def create (ledger : Ledger) (row : RiderPayment) : Ledger where
  rows := ledger.rows ++ [{ row with id := ledger.nextId }]
  distinct := (unique_append_iff _).mpr ⟨ledger.distinct, ledger.nextId_new⟩

/-- The row with an identity is changed and keeps it. -/
def update (ledger : Ledger) (id : Nat) (change : RiderPayment → RiderPayment) : Ledger where
  rows := updateKey (·.id) id (fun row => { change row with id := row.id }) ledger.rows
  distinct := by
    have kept : ∀ row, ({ change row with id := row.id } : RiderPayment).id = row.id :=
      fun _ => rfl
    rw [map_updateKey kept]
    exact ledger.distinct

/-- What becomes of a row. -/
theorem mem_update {ledger : Ledger} {row : RiderPayment} (stored : row ∈ ledger.rows) (id : Nat)
    (change : RiderPayment → RiderPayment) :
    (if row.id = id then { change row with id := row.id } else row) ∈
      (ledger.update id change).rows :=
  List.mem_map.mpr ⟨row, stored, rfl⟩

/-- All rows of some kind are changed and keep their identities. -/
def updateMany (ledger : Ledger) (chosen : RiderPayment → Bool)
    (change : RiderPayment → RiderPayment) : Ledger where
  rows := ledger.rows.map fun row => if chosen row then { change row with id := row.id } else row
  distinct := by
    rw [List.map_map]
    have kept : (fun row : RiderPayment => row.id) ∘
        (fun row => if chosen row then { change row with id := row.id } else row) =
        fun row => row.id := by
      funext row
      rw [Function.comp_apply]
      split
      case isTrue => rfl
      case isFalse => rfl
    rw [kept]
    exact ledger.distinct

end Ledger

structure TrafficFine where
  id : Id
  fleetId : Id
  riderId : Id
  amount : Int
  status : String
  deriving DecidableEq

/-- The columns of a command that tell whether a bike is locked. -/
structure DeviceCommand where
  bikeId : Id
  type : DeviceCommandType
  status : DeviceCommandStatus
  ackedAt : Option Int
  deriving DecidableEq

/-- The tables that the accounts of riders are made from. -/
structure Database where
  users : List User
  known : (users.map (·.id)).Nodup
  bikes : List Bike
  commands : List DeviceCommand
  assignments : List BikeAssignment
  fines : List TrafficFine
  ledger : Ledger

/-- The fields of the caller that the queries use. -/
structure AuthenticatedUser where
  id : Id
  fleetId : Id
  deriving DecidableEq

/-- A validated request. The instant is the one that its text denotes, if it does. -/
structure RecordPaymentDto where
  riderId : Id
  amount : ℚ
  paidAt : Option Int
  method : PaymentMethod
  status : PaymentStatus
  reference : Option String
  notes : Option String
  isPartial : Option Bool
  partialReason : Option String
  least : 1 / 100 ≤ amount

inductive PaymentError where
  /-- "Rider not found in this fleet" -/
  | riderNotFound
  /-- "Cannot collect lease fees for a rider who is not assigned to a bike" -/
  | notAssigned
  /-- The database cannot store a date that is none. -/
  | invalidDate
  /-- The database cannot store the amount. -/
  | amountOverflow
  /-- "No pending commissions to pay out for this rider" -/
  | noCommissions
  deriving DecidableEq

/-- The column holds ten digits, two of them after the point. -/
def toDecimal (amount : ℚ) : Option ℚ :=
  if toFixed 2 amount < 10 ^ 8 then some (toFixed 2 amount) else none

section Recording

variable (db : Database) (user : AuthenticatedUser) (dto : RecordPaymentDto)

/-- The day of an instant, in universal time. -/
def dayStart (instant : Int) : Int := instant / millisPerDay * millisPerDay

def dayEnd (instant : Int) : Int := dayStart instant + millisPerDay - 1

/-- A row of the caller's fleet for the rider on the day of an instant. -/
def onDay (paidAt : Int) (row : RiderPayment) : Bool :=
  row.fleetId == user.fleetId && row.riderId == dto.riderId &&
    decide (dayStart paidAt ≤ row.paidAt ∧ row.paidAt ≤ dayEnd paidAt)

/-- The row that the search for a payment of the day meets first. -/
def existingPayment (scan : Nat) (paidAt : Int) : Option RiderPayment :=
  (db.ledger.rows.rotate scan).find? (onDay user dto paidAt)

/-- The rider in the caller's fleet. -/
def findRider : Option User :=
  db.users.find? fun row =>
    row.id == dto.riderId && row.fleetId == user.fleetId && row.role == .RIDER

def isAssigned (riderId : Id) : Bool :=
  db.assignments.any fun row => row.riderUserId == riderId && row.active

def startsWith (text pattern : String) : Bool := pattern.toList.isPrefixOf text.toList

/-- Notes that mark a commission for a delivery. -/
def marksCommission (notes : Option String) : Bool :=
  notes.any fun text => startsWith text "Delivery Commission"

/-- The columns that a recorded payment sets. -/
def payment (amount : ℚ) (paidAt : Int) : RiderPayment where
  id := 0
  fleetId := user.fleetId
  riderId := dto.riderId
  amount := amount
  paidAt := paidAt
  method := dto.method
  status := dto.status
  reference := given dto.reference
  notes := given dto.notes
  isPartial := dto.isPartial.getD (dto.status == .PARTIAL)
  partialReason := given dto.partialReason
  recordedBy := if marksCommission (given dto.notes) then .commission else .manual

/-- What is checked before a payment is written: the amount and the instant of the row. -/
def checkPayment : Except PaymentError (ℚ × Int) := do
  match findRider db user dto with
  | none => throw .riderNotFound
  | some rider =>
    if rider.riderProfile.any (·.leaseToOwn) && !isAssigned db dto.riderId then throw .notAssigned
    match dto.paidAt with
    | none => throw .invalidDate
    | some paidAt =>
      match toDecimal dto.amount with
      | none => throw .amountOverflow
      | some amount => return (amount, paidAt)

/-- A payment recorded by hand. One of the same day is overwritten. -/
def recordPayment (scan : Nat) : Except PaymentError Ledger := do
  let (amount, paidAt) ← checkPayment db user dto
  match existingPayment db user dto scan paidAt with
  | some existing =>
    return db.ledger.update existing.id fun row =>
      let written := payment user dto amount paidAt
      { written with recordedBy := row.recordedBy.overwrittenBy written.recordedBy }
  | none => return db.ledger.create (payment user dto amount paidAt)

end Recording

section OtherWriters

/-- A rider's transfer that was confirmed. -/
structure MomoTransfer where
  fleetId : Id
  riderId : Id
  amount : Int
  payerMessage : Option String
  payerPhone : String
  referenceId : String
  financialTransactionId : Option String
  deriving DecidableEq

/-- The rider's part of a confirmed transfer. -/
def processSuccessfulPayment (ledger : Ledger) (now : Int) (transaction : MomoTransfer) : Ledger :=
  let message := transaction.payerMessage.getD ""
  let isPartial := startsWith message PARTIAL_PREFIX
  let partialReason := trim (message.drop PARTIAL_PREFIX.length).toString
  ledger.create
    { id := 0
      fleetId := transaction.fleetId
      riderId := transaction.riderId
      amount := transaction.amount
      paidAt := now
      method := .MOBILE_MONEY
      status := if isPartial then .PARTIAL else .PAID
      reference := (given transaction.financialTransactionId).getD transaction.referenceId
      notes :=
        if isPartial then "Partial MoMo direct transfer: " ++ partialReason
        else "Direct MoMo transfer from " ++ transaction.payerPhone ++
          " to Fleet Admin wallet. Recorded in eMoto ledger."
      isPartial := isPartial
      partialReason := if isPartial then some partialReason else none
      recordedBy := .momo }

/-- The deposit of a new rider on a lease. -/
def upfrontDeposit (ledger : Ledger) (now : Int) (fleetId riderId : Id) (leaseToOwn : Bool)
    (leaseDownPayment : Option Int) : Ledger :=
  match leaseDownPayment with
  | none => ledger
  | some deposit =>
    if leaseToOwn ∧ 0 < deposit then
      ledger.create
        { id := 0, fleetId, riderId, amount := deposit, paidAt := now, method := .CASH,
          status := .PAID, reference := some "UPFRONT-LEASE-DEPOSIT",
          notes := some "Upfront Lease Deposit / Down Payment", isPartial := false,
          partialReason := none, recordedBy := .upfront }
    else ledger

/-- A commission that has not been paid out to the rider. -/
def isUnpaidCommission (user : AuthenticatedUser) (riderId : Id) (row : RiderPayment) : Bool :=
  row.fleetId == user.fleetId && row.riderId == riderId && row.status == .UNPAID &&
    marksCommission row.notes

/-- The commissions that the fleet owes to a rider are paid out. -/
def recordDeliveryPayout (db : Database) (user : AuthenticatedUser) (riderId : Id) (now : Int) :
    Except PaymentError (Ledger × Nat) := do
  let unpaidCommissions := db.ledger.rows.filter (isUnpaidCommission user riderId)
  if unpaidCommissions.isEmpty then throw .noCommissions
  let ids := unpaidCommissions.map (·.id)
  return (db.ledger.updateMany (fun row => ids.contains row.id) fun row =>
    { row with status := .PAID, method := .MOBILE_MONEY, paidAt := now }, unpaidCommissions.length)

end OtherWriters

end EmotoFleet.Financials
