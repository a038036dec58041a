import EmotoFleet.Access.InsurerReads
import EmotoFleet.Financials.LeaseAccounts

/-!
# The financials of a fleet

The ten operations behind the financial pages: payments that are recorded and listed, the
summary, the leases, the commissions for deliveries and their payout, and the battery swaps.
Each takes the caller's fleet from the session and every other id from the request. A row
that an answer or a condition includes through a relation is looked up by its id alone.

A query without an order meets the rows as the table has them. What the service draws or
reads from its surroundings, an id, the time and the starts of months and years where it
runs, comes with the request. Figures are calculated in double precision, and ids are well
formed.
-/

namespace EmotoFleet.Financials.Service

open Access (Id User RiderProfile BikeAssignment Bike PaginatedResponse createPaginatedResponse
  getPaginationParams latestFirst mathRound)
open Access.Insurers (TextSearch PaginationQueryDto searched between)
open Accounts (UserRole given)
open Billing (PaymentMethod BikeStatus)
open Doubles (Rounding toDouble)
open Tables

/-- A payment as the table has it, with the instant at which it was created. -/
structure PaymentRow extends RiderPayment where
  createdAt : Int
  deriving DecidableEq

/-- A command with the fleet that its row names. -/
structure CommandRow extends DeviceCommand where
  fleetId : Id
  deriving DecidableEq

/-- The column is a text; all that is ever stored is one of these. -/
inductive SwapType where
  | FULL
  | HALF
  | QUARTER
  | CUSTOM
  deriving DecidableEq

/-- A swap of batteries as the table has it. -/
structure BatterySwap where
  id : Id
  fleetId : Id
  bikeId : Option Id
  riderId : Option Id
  swapStation : String
  swapType : SwapType
  fraction : ℚ
  unitPriceRwf : Int
  totalCostRwf : Int
  batterySerialOut : Option String
  batterySerialIn : Option String
  soCOutPct : Option ℚ
  soCInPct : Option ℚ
  ts : Int
  notes : Option String
  createdAt : Int
  updatedAt : Int
  deriving DecidableEq

/-- What a row of the audit log is about. -/
inductive AuditTarget where
  | riderPayment (id : Nat)
  | riderPayout (riderId : Id)
  | batterySwap (id : Id)
  deriving DecidableEq

/-- Of the data that comes with it, the ids. -/
structure AuditLog where
  fleetId : Id
  actorUserId : Id
  target : AuditTarget
  riderId : Option Id
  bikeId : Option Id
  deriving DecidableEq

/-- The tables that the requests read and write, with the rows of all fleets. -/
structure FleetTables where
  users : List User
  bikes : List Bike
  commands : List CommandRow
  assignments : List BikeAssignment
  fines : List TrafficFine
  payments : List PaymentRow
  swaps : List BatterySwap
  auditLogs : List AuditLog
  deriving DecidableEq

namespace FleetTables

variable (tables : FleetTables)

/-- An account by its identity, of whatever fleet. -/
def findUser (id : Id) : Option User := tables.users.find? fun user => decide (user.id = id)

/-- A bike by its identity, of whatever fleet. -/
def findBike (id : Id) : Option Bike := tables.bikes.find? fun bike => decide (bike.id = id)

end FleetTables

/-- What a request finds around it. The current month is the one of the local calendar; the
month and the year of another instant are those in universal time. Both start at midnight of
the local clock. -/
structure Moment where
  now : Int
  swapId : Id
  paymentId : Nat
  startOfCurrentMonth : Int
  startOfMonth : Int → Int
  startOfYear : Int → Int

inductive FinancialsError where
  /-- A payment is refused. -/
  | payment (error : PaymentError)
  /-- "Battery swap record not found" -/
  | swapNotFound
  /-- The database does not know a row that the request names. -/
  | missingReference
  /-- The database cannot store a number. -/
  | outOfRange
  deriving DecidableEq

/-- The bounds of a search by time. A given text must denote a date. -/
def dateRange (startDate endDate : Option Bound) :
    Except FinancialsError (Option Int × Option Int) :=
  match startDate.map Bound.start, endDate.map Bound.finish with
  | some none, _ | _, some none => throw (.payment .invalidDate)
  | start, finish => return (start.join, finish.join)

section Payments

variable (tables : FleetTables) (moment : Moment) (user : AuthenticatedUser)

/-! ## Payments -/

/-- A payment as it is answered, with the rider's name and contact. -/
structure PaymentAnswer where
  id : Nat
  fleetId : Id
  riderId : Id
  riderName : String
  riderEmail : Option String
  riderPhone : Option String
  amount : ℚ
  paidAt : Int
  method : PaymentMethod
  status : PaymentStatus
  isPartial : Bool
  partialReason : Option String
  reference : Option String
  notes : Option String
  createdAt : Int
  deriving DecidableEq

/-- The name in the profile, if there is one. -/
def fullName (rider : Option User) : Option String :=
  (rider.bind (·.riderProfile)).map (·.fullName)

/-- A row with the rider that it names. -/
def toPaymentSummary (row : PaymentRow) : PaymentAnswer :=
  let rider := tables.findUser row.riderId
  { id := row.id
    fleetId := row.fleetId
    riderId := row.riderId
    riderName := (fullName rider).getD ("Rider " ++ String.ofList (row.riderId.toList.take 8))
    riderEmail := given (rider.bind (·.email))
    riderPhone := given (rider.bind (·.phone))
    amount := row.amount
    paidAt := row.paidAt
    method := row.method
    status := row.status
    isPartial := row.isPartial
    partialReason := row.partialReason
    reference := row.reference
    notes := row.notes
    createdAt := row.createdAt }

/-- The rider in the caller's fleet. -/
def riderInFleet (riderId : Id) : Option User :=
  tables.users.find? fun row =>
    row.id == riderId && row.fleetId == user.fleetId && row.role == .RIDER

/-- Whether some bike is assigned to the rider. -/
def hasActiveAssignment (riderId : Id) : Bool :=
  tables.assignments.any fun row => row.riderUserId == riderId && row.active

/-- The columns that a later payment of the same day sets. -/
def overwritePayment (dto : RecordPaymentDto) (amount : ℚ) (paidAt : Int) (row : PaymentRow) :
    PaymentRow :=
  let data := payment user dto amount paidAt
  { row with
    amount := data.amount
    paidAt := data.paidAt
    method := data.method
    status := data.status
    isPartial := data.isPartial
    partialReason := data.partialReason
    reference := data.reference
    notes := data.notes }

/-- The row of a payment that is the first of its day. -/
def newPayment (dto : RecordPaymentDto) (amount : ℚ) (paidAt : Int) : PaymentRow :=
  { payment user dto amount paidAt with id := moment.paymentId, createdAt := moment.now }

/-- The payment of the rider on that day, which a new one overwrites. -/
def paymentOfDay (dto : RecordPaymentDto) (paidAt : Int) : Option PaymentRow :=
  tables.payments.find? fun row => onDay user dto paidAt row.toRiderPayment

/-- What the request must meet: the amount and the instant that are stored. -/
def acceptPayment (dto : RecordPaymentDto) : Except FinancialsError (ℚ × Int) :=
  match riderInFleet tables user dto.riderId with
  | none => throw (.payment .riderNotFound)
  | some rider =>
    if rider.riderProfile.any (·.leaseToOwn) && !hasActiveAssignment tables dto.riderId then
      throw (.payment .notAssigned)
    else
      match dto.paidAt, toDecimal dto.amount with
      | none, _ => throw (.payment .invalidDate)
      | some _, none => throw (.payment .amountOverflow)
      | some paidAt, some amount => return (amount, paidAt)

/-- The audit row of a payment. -/
def paymentLog (dto : RecordPaymentDto) (id : Nat) : AuditLog where
  fleetId := user.fleetId
  actorUserId := user.id
  target := .riderPayment id
  riderId := some dto.riderId
  bikeId := none

/-- A payment is stored as a new row or in the place of the one of its day. -/
def recordPayment (dto : RecordPaymentDto) : Except FinancialsError (PaymentAnswer × FleetTables) := do
  let (amount, paidAt) ← acceptPayment tables user dto
  match paymentOfDay tables user dto paidAt with
  | some existing =>
    return (toPaymentSummary tables (overwritePayment user dto amount paidAt existing),
      { tables with
        payments := updateKey (·.id) existing.id (overwritePayment user dto amount paidAt)
          tables.payments
        auditLogs := tables.auditLogs ++ [paymentLog user dto existing.id] })
  | none =>
    return (toPaymentSummary tables (newPayment moment user dto amount paidAt),
      { tables with
        payments := tables.payments ++ [newPayment moment user dto amount paidAt]
        auditLogs := tables.auditLogs ++ [paymentLog user dto moment.paymentId] })

/-- What a list of payments may be narrowed to. -/
structure ListPaymentsDto extends PaginationQueryDto where
  riderId : Option Id
  startDate : Option Bound
  endDate : Option Bound
  method : Option PaymentMethod
  status : Option PaymentStatus

/-- The `where` of the list of payments. -/
def selectsPayment (query : ListPaymentsDto) (range : Option Int × Option Int) (row : PaymentRow) :
    Bool :=
  row.fleetId == user.fleetId && query.riderId.all (row.riderId == ·) &&
    query.method.all (row.method == ·) && query.status.all (row.status == ·) &&
    between range.1 range.2 row.paidAt

/-- A page of payments, the latest first. -/
def listPayments (query : ListPaymentsDto) :
    Except FinancialsError (PaginatedResponse PaymentAnswer) := do
  let range ← dateRange query.startDate query.endDate
  return createPaginatedResponse
    (latestFirst (·.paidAt) (tables.payments.filter (selectsPayment user query range)))
    (getPaginationParams query.toPaginationQuery) (toPaymentSummary tables)

end Payments

section Leases

variable (tables : FleetTables) (moment : Moment) (user : AuthenticatedUser)

/-! ## Leases -/

/-- The lease of a rider, from all that the query loads with the rider. -/
def leaseSummary (rounding : Rounding) (now : Int) (startDate endDate : Option Bound) (rider : User)
    (payments : List RiderPayment) (trafficFines : List TrafficFine)
    (activeAssignment : Option BikeAssignment) (bike : Option Bike)
    (lastCommand : Option DeviceCommand) : LeaseSummary :=
  let profile := rider.riderProfile
  let totalPrincipal := (profile.map (·.leasePrincipal)).getD 2500000
  let dailyRate := (profile.map (·.leaseDailyRate)).getD 15000
  let totalPaid := rounding.sum (payments.map (·.amount))
  let dailyPaymentsTotal :=
    rounding.sum ((payments.filter fun row => row.reference != UPFRONT_LEASE_DEPOSIT).map (·.amount))
  let periodPaid := rounding.sum ((payments.filter (inPeriod startDate endDate)).map (·.amount))
  let isBikeUnderMaintenance := bike.any fun bike => bike.status == .MAINTENANCE
  let timeArrears : ℚ :=
    match activeAssignment with
    | some assignment =>
      let expected : ℚ :=
        if isBikeUnderMaintenance then 0
        else rounding (daysSince now assignment.assignedAt * dailyRate)
      max 0 (rounding (expected - dailyPaymentsTotal))
    | none => 0
  let totalPendingFines : ℚ :=
    rounding.sum
      ((trafficFines.filter fun fine => fine.status == "PENDING").map fun fine => (fine.amount : ℚ))
  let arrears := rounding (timeArrears + totalPendingFines)
  { id := rider.id
    riderName := (profile.map (·.fullName)).getD ("Rider " ++ String.ofList (rider.id.toList.take 8))
    riderPhone := rider.phone.getD ""
    bikeLabel := (bike.map (·.label)).getD "N/A"
    bikePlate := (given (bike.bind (·.plate))).getD "N/A"
    totalPrincipal, totalPaid, periodPaid, dailyRate, arrears
    status :=
      if totalPaid ≥ totalPrincipal then .PAID_OFF
      else if arrears > 0 then .DELINQUENT
      else .ACTIVE
    lockState := if lastCommand.any (fun command => command.type == .LOCK) then .LOCKED else .UNLOCKED
    bikeId := activeAssignment.map (·.bikeId)
    pendingFines := totalPendingFines }

/-- The account that the list of leases makes of the same rows. -/
theorem toLeaseSummary_eq (rounding : Rounding) (db : Database) (now : Int) (scan : Nat)
    (startDate endDate : Option Bound) (rider : User) :
    toLeaseSummary rounding db now scan startDate endDate rider =
      leaseSummary rounding now startDate endDate rider
        (db.ledger.rows.filter fun row => row.riderId == rider.id && isPaid row)
        (db.fines.filter fun fine => fine.riderId == rider.id)
        (activeAssignments db rider.id scan).head?
        ((activeAssignments db rider.id scan).head?.bind (bikeOf db))
        (((activeAssignments db rider.id scan).head?.bind (bikeOf db)).bind fun bike =>
          (ackedCommands db bike.id).head?) := by
  have pending : (db.fines.filter fun fine => fine.riderId == rider.id && fine.status == "PENDING") =
      (db.fines.filter fun fine => fine.riderId == rider.id).filter fun fine =>
        fine.status == "PENDING" := by
    rw [List.filter_filter]
    exact List.filter_congr fun fine _ => Bool.and_comm _ _
  unfold toLeaseSummary leaseSummary
  exact pending ▸ rfl

/-- The payments of a rider that were made. -/
def paymentsOf (riderId : Id) : List PaymentRow :=
  tables.payments.filter fun row => row.riderId == riderId && isPaid row.toRiderPayment

/-- The fines of a rider. -/
def finesOf (riderId : Id) : List TrafficFine :=
  tables.fines.filter fun row => row.riderId == riderId

/-- The first active assignment of a rider. -/
def activeAssignmentOf (riderId : Id) : Option BikeAssignment :=
  tables.assignments.find? fun row => row.riderUserId == riderId && row.active

/-- Whether a command comes before another in the list, the latest acknowledgement first and
those without one before all others. -/
def ackedBefore (left right : CommandRow) : Bool :=
  match left.ackedAt, right.ackedAt with
  | none, _ => true
  | some _, none => false
  | some earlier, some later => decide (later ≤ earlier)

/-- The command of a bike that was acknowledged last. -/
def lastCommandOf (bikeId : Id) : Option CommandRow :=
  ((tables.commands.filter fun row => row.bikeId == bikeId && row.status == .ACKED).mergeSort
    ackedBefore).head?

/-- The lease of a rider, from the rows about the rider and the bike. -/
def leaseOf (startDate endDate : Option Bound) (rider : User) : LeaseSummary :=
  let activeAssignment := activeAssignmentOf tables rider.id
  let bike := activeAssignment.bind fun assignment => tables.findBike assignment.bikeId
  leaseSummary .double moment.now startDate endDate rider
    ((paymentsOf tables rider.id).map (·.toRiderPayment)) (finesOf tables rider.id) activeAssignment
    bike ((bike.bind fun bike => lastCommandOf tables bike.id).map (·.toDeviceCommand))

/-- The riders of the fleet on a lease. -/
def ridersOnLease : List User :=
  tables.users.filter fun row =>
    row.fleetId == user.fleetId && row.role == .RIDER && row.riderProfile.any (·.leaseToOwn)

/-- The leases of the fleet. -/
def listLeases (startDate endDate : Option Bound) : List LeaseSummary :=
  (ridersOnLease tables user).map (leaseOf tables moment startDate endDate)

/-! ## The summary -/

/-- An amount is added to the sum of its kind; the kinds stay in the order of their coming. -/
def addTo {κ : Type} [DecidableEq κ] (sums : List (κ × ℚ)) (kind : κ) (amount : ℚ) :
    List (κ × ℚ) :=
  if kind ∈ sums.map (·.1) then
    sums.map fun sum =>
      if sum.1 = kind then (kind, toDouble (sum.2 + toDouble amount)) else sum
  else sums ++ [(kind, toDouble amount)]

/-- Sums of the payments by some column, in the order in which its values appear. -/
def breakdown {κ : Type} [DecidableEq κ] (kindOf : PaymentRow → κ) (rows : List PaymentRow) :
    List (κ × ℚ) :=
  rows.foldl (fun sums row => addTo sums (kindOf row) row.amount) []

/-- The sum of some payments, added up from the first to the last. -/
def earned (rows : List PaymentRow) : ℚ := Rounding.double.sum (rows.map (·.amount))

/-- Days are given by their first instants. -/
structure FinancialSummary where
  earnedToday : ℚ
  earnedThisMonth : ℚ
  earnedThisYear : ℚ
  totalEarnedAllTime : ℚ
  totalEarnedRange : ℚ
  activeRidersCount : Nat
  overdueCount : Nat
  unpaidCount : Nat
  unpaidLogsSum : ℚ
  totalLeaseArrears : ℚ
  methodBreakdown : List (PaymentMethod × ℚ)
  statusBreakdown : List (PaymentStatus × ℚ)
  dailyEarnings : List (Int × ℚ)
  deriving DecidableEq

/-- The figures of the summary, from the rows that its queries return. -/
def summarizePayments (allPayments rangePayments : List PaymentRow) (activeRidersCount : Nat)
    (leases : List LeaseSummary) (reference : Int) : FinancialSummary :=
  let totalLeaseArrears := Rounding.double.sum (leases.map (·.arrears))
  let rawUnpaidLogsSum :=
    earned (allPayments.filter fun row => row.status == .UNPAID || row.status == .OVERDUE)
  { earnedToday := earned (allPayments.filter fun row =>
      decide (dayStart reference ≤ row.paidAt ∧ row.paidAt ≤ dayEnd reference))
    earnedThisMonth := earned (allPayments.filter fun row =>
      decide (moment.startOfMonth reference ≤ row.paidAt))
    earnedThisYear := earned (allPayments.filter fun row =>
      decide (moment.startOfYear reference ≤ row.paidAt))
    totalEarnedAllTime := earned allPayments
    totalEarnedRange := earned rangePayments
    activeRidersCount
    overdueCount := allPayments.countP fun row => row.status == .OVERDUE
    unpaidCount := allPayments.countP fun row => row.status == .UNPAID
    unpaidLogsSum := if 0 < rawUnpaidLogsSum then rawUnpaidLogsSum else totalLeaseArrears
    totalLeaseArrears
    methodBreakdown := breakdown (·.method) rangePayments
    statusBreakdown := breakdown (·.status) rangePayments
    dailyEarnings := (breakdown (fun row => dayStart row.paidAt) rangePayments).mergeSort
      fun left right => decide (left.1 ≤ right.1) }

/-- A payment of the fleet that was made. -/
def paidInFleet (row : PaymentRow) : Bool :=
  row.fleetId == user.fleetId && isPaid row.toRiderPayment

/-- The riders of the fleet who may work. -/
def activeRiders : List User :=
  tables.users.filter fun row =>
    row.fleetId == user.fleetId && row.role == .RIDER && row.status == "ACTIVE"

/-- The figures of the fleet over a range, with those of the month and the year. -/
def getSummary (startDate endDate : Option Bound) : Except FinancialsError FinancialSummary := do
  let range ← dateRange startDate endDate
  let start := range.1.getD moment.startOfCurrentMonth
  let finish := range.2.getD moment.now
  let allPayments := tables.payments.filter (paidInFleet user)
  -- a day is referred to by its first instant, and counted up to its last
  let reference := (endDate.bind Bound.start).getD moment.now
  return summarizePayments moment allPayments
    (allPayments.filter fun row => between (some start) (some finish) row.paidAt)
    (activeRiders tables user).length (listLeases tables moment user none none) reference

end Leases

section Commissions

variable (tables : FleetTables) (moment : Moment) (user : AuthenticatedUser)

/-! ## Commissions -/

/-- The commissions of a fleet in figures. -/
structure DeliverySummary where
  totalPending : ℚ
  totalPaid : ℚ
  deliveryCount : Nat
  avgCommission : ℚ
  deriving DecidableEq

/-- A commission as it is answered. -/
structure DeliveryPayout where
  id : Nat
  riderId : Id
  riderName : String
  riderPhone : String
  amount : ℚ
  paidAt : Int
  status : PaymentStatus
  notes : Option String
  reference : Option String
  deriving DecidableEq

/-- The payments of the fleet whose notes mark a commission. -/
def commissions : List PaymentRow :=
  tables.payments.filter fun row => row.fleetId == user.fleetId && marksCommission row.notes

/-- What the fleet owes and has paid of commissions. -/
def getDeliveryFinancialSummary : DeliverySummary :=
  let payments := commissions tables user
  let totalPending := earned (payments.filter fun row => row.status == .UNPAID)
  let totalPaid := earned (payments.filter fun row => row.status == .PAID)
  let count := payments.length
  ⟨totalPending, totalPaid, count,
    if 0 < count then toDouble (toDouble (totalPending + totalPaid) / count) else 0⟩

/-- A commission with the rider that it names. -/
def toDeliveryPayout (row : PaymentRow) : DeliveryPayout :=
  let rider := tables.findUser row.riderId
  { id := row.id
    riderId := row.riderId
    riderName := (given (fullName rider)).getD "Unnamed Rider"
    riderPhone := (rider.bind (·.phone)).getD ""
    amount := row.amount
    paidAt := row.paidAt
    status := row.status
    notes := row.notes
    reference := row.reference }

/-- The commissions, the latest first. -/
def getDeliveryPayouts : List DeliveryPayout :=
  (latestFirst (·.createdAt) (commissions tables user)).map (toDeliveryPayout tables)

/-- The commissions that are owed to a rider. -/
def unpaidCommissions (riderId : Id) : List PaymentRow :=
  tables.payments.filter fun row => isUnpaidCommission user riderId row.toRiderPayment

/-- A commission that is paid out now. -/
def payOutCommission (row : PaymentRow) : PaymentRow :=
  { row with
    status := .PAID
    method := .MOBILE_MONEY
    paidAt := moment.now }

/-- The audit row of a payout. -/
def payoutLog (riderId : Id) : AuditLog where
  fleetId := user.fleetId
  actorUserId := user.id
  target := .riderPayout riderId
  riderId := some riderId
  bikeId := none

/-- How many commissions were paid out. -/
def payOutCommissions (riderId : Id) : Except FinancialsError (Nat × FleetTables) :=
  let unpaid := unpaidCommissions tables user riderId
  if unpaid.isEmpty then throw (.payment .noCommissions)
  else
    let ids := unpaid.map (·.id)
    return (unpaid.length,
      { tables with
        payments := tables.payments.map fun row =>
          if ids.contains row.id then payOutCommission moment row else row
        auditLogs := tables.auditLogs ++ [payoutLog user riderId] })

end Commissions

section Swaps

variable (search : TextSearch) (tables : FleetTables) (moment : Moment) (user : AuthenticatedUser)

/-! ## Battery swaps -/

/-- A bike as an answered swap names it. -/
structure SwapBike where
  id : Id
  label : String
  plate : Option String
  deriving DecidableEq

/-- A bike as a listed swap names it. -/
structure ListedBike extends SwapBike where
  serial : Option String
  deriving DecidableEq

/-- The name is missing for a rider without a profile. -/
structure SwapRider where
  id : Id
  fullName : Option String
  deriving DecidableEq

/-- A rider as a listed swap names them. -/
structure ListedRider extends SwapRider where
  email : Option String
  phone : Option String
  deriving DecidableEq

/-- A swap of the list with its bike and its rider. -/
structure ListedSwap extends BatterySwap where
  bike : Option ListedBike
  rider : Option ListedRider
  deriving DecidableEq

/-- A new swap with its bike and its rider. -/
structure CreatedSwap extends BatterySwap where
  bike : Option SwapBike
  rider : Option SwapRider
  deriving DecidableEq

/-- The columns of a bike that are shown. -/
def swapBike (bike : Bike) : SwapBike := ⟨bike.id, bike.label, bike.plate⟩

/-- The columns of a rider that are shown. -/
def swapRider (rider : User) : SwapRider := ⟨rider.id, rider.riderProfile.map (·.fullName)⟩

/-- A swap with the rows that it refers to, of whatever fleet. -/
def listedSwap (swap : BatterySwap) : ListedSwap where
  toBatterySwap := swap
  bike := (swap.bikeId.bind tables.findBike).map fun bike => ⟨swapBike bike, bike.serial⟩
  rider := (swap.riderId.bind tables.findUser).map fun rider =>
    ⟨swapRider rider, rider.email, rider.phone⟩

/-- A new swap with the rows that it refers to, of whatever fleet. -/
def createdSwap (swap : BatterySwap) : CreatedSwap where
  toBatterySwap := swap
  bike := (swap.bikeId.bind tables.findBike).map swapBike
  rider := (swap.riderId.bind tables.findUser).map swapRider

/-- What a list of swaps may be narrowed to. -/
structure ListBatterySwapsDto extends PaginationQueryDto where
  startDate : Option Bound
  endDate : Option Bound
  bikeId : Option Id
  riderId : Option Id

/-- All that the query asks of a swap, the search apart. -/
def selectsSwap (query : ListBatterySwapsDto) (range : Option Int × Option Int)
    (swap : BatterySwap) : Bool :=
  swap.fleetId == user.fleetId && query.bikeId.all (fun id => swap.bikeId == some id) &&
    query.riderId.all (fun id => swap.riderId == some id) && between range.1 range.2 swap.ts

/-- The search in the columns of the swap. -/
def mentions (wanted : String) (swap : BatterySwap) : Bool :=
  search.contains swap.swapStation wanted || search.within swap.notes wanted

/-- The search in the columns of its bike. -/
def bikeMentions (wanted : String) (swap : BatterySwap) : Bool :=
  (swap.bikeId.bind tables.findBike).any fun bike =>
    search.contains bike.label wanted || search.within bike.plate wanted

/-- The `where` of the list of swaps, with the search through the swap and its bike. -/
def matchesSwap (query : ListBatterySwapsDto) (range : Option Int × Option Int)
    (swap : BatterySwap) : Bool :=
  selectsSwap user query range swap && searched query.search fun wanted =>
    mentions search wanted swap || bikeMentions search tables wanted swap

/-- The listed swaps in figures. -/
structure SwapSummary where
  totalSwaps : Nat
  totalCostRwf : Int
  totalUnits : ℚ
  avgCostPerSwap : Int
  breakdown : List (SwapType × Nat × Int)
  deriving DecidableEq

/-- A page of swaps, with figures over all of them. -/
structure SwapPage where
  data : List ListedSwap
  total : Nat
  page : Nat
  pageSize : Nat
  totalPages : Nat
  summary : SwapSummary
  deriving DecidableEq

/-- What some swaps have cost. -/
def costOf (swaps : List BatterySwap) : Int := (swaps.map (·.totalCostRwf)).sum

/-- The figures of some swaps; the units are rounded to two decimals. -/
def swapSummary (swaps : List BatterySwap) : SwapSummary where
  totalSwaps := swaps.length
  totalCostRwf := costOf swaps
  totalUnits :=
    toDouble (mathRound (toDouble (Rounding.double.sum (swaps.map (·.fraction)) * 100)) / 100)
  avgCostPerSwap :=
    if 0 < swaps.length then mathRound (toDouble (costOf swaps / swaps.length)) else 0
  breakdown := [SwapType.FULL, .HALF, .QUARTER, .CUSTOM].map fun type =>
    let ofType := swaps.filter fun swap => swap.swapType == type
    (type, ofType.length, costOf ofType)

/-- The swaps that a list is about, the latest first. -/
def selectedSwaps (query : ListBatterySwapsDto) (range : Option Int × Option Int) :
    List BatterySwap :=
  latestFirst (·.ts) (tables.swaps.filter (matchesSwap search tables user query range))

/-- Those of them that are on the page. -/
def swapsOnPage (query : ListBatterySwapsDto) (range : Option Int × Option Int) :
    List BatterySwap :=
  let pagination := getPaginationParams query.toPaginationQuery
  ((selectedSwaps search tables user query range).drop pagination.skip).take pagination.take

/-- A page of swaps. -/
def listBatterySwaps (query : ListBatterySwapsDto) : Except FinancialsError SwapPage := do
  let range ← dateRange query.startDate query.endDate
  let pagination := getPaginationParams query.toPaginationQuery
  let swaps := selectedSwaps search tables user query range
  return {
    data := (swapsOnPage search tables user query range).map (listedSwap tables)
    total := swaps.length
    page := pagination.page
    pageSize := pagination.pageSize
    totalPages := (swaps.length + pagination.pageSize - 1) / pagination.pageSize
    summary := swapSummary swaps }

/-- A validated request. The time is the instant that its text denotes, if it does. -/
structure CreateBatterySwapDto where
  bikeId : Option Id
  riderId : Option Id
  swapStation : Option String
  swapType : SwapType
  fraction : Option ℚ
  unitPriceRwf : Option ℚ
  batterySerialOut : Option String
  batterySerialIn : Option String
  soCOutPct : Option ℚ
  soCInPct : Option ℚ
  ts : Option (Option Int)
  notes : Option String
  fractionBounds : ∀ value ∈ fraction, 1 / 20 ≤ value ∧ value ≤ 2
  priceBound : ∀ value ∈ unitPriceRwf, 0 ≤ value

/-- The part of a battery that a swap counts for. -/
def swapFraction (dto : CreateBatterySwapDto) : ℚ :=
  match dto.swapType with
  | .FULL => 1
  | .HALF => 1 / 2
  | .QUARTER => 1 / 4
  | .CUSTOM => (dto.fraction.filter fun value => decide (0 < value)).getD 1

/-- An integer column of 32 bits. -/
def toInteger (value : ℚ) : Option Int :=
  if value.den = 1 ∧ -2 ^ 31 ≤ value.num ∧ value.num < 2 ^ 31 then some value.num else none

/-- The row of a new swap, if its columns can hold it. -/
def newSwap (dto : CreateBatterySwapDto) : Option BatterySwap := do
  let unitPrice := dto.unitPriceRwf.getD 2500
  let unitPriceRwf ← toInteger unitPrice
  let totalCostRwf ← toInteger (mathRound (toDouble (unitPrice * swapFraction dto)))
  let ts ← dto.ts.getD (some moment.now)
  return {
    id := moment.swapId
    fleetId := user.fleetId
    bikeId := dto.bikeId
    riderId := dto.riderId
    swapStation := (given dto.swapStation).getD "Kigali Central Hub"
    swapType := dto.swapType
    fraction := swapFraction dto
    unitPriceRwf
    totalCostRwf
    batterySerialOut := given dto.batterySerialOut
    batterySerialIn := given dto.batterySerialIn
    soCOutPct := dto.soCOutPct
    soCInPct := dto.soCInPct
    ts
    notes := given dto.notes
    createdAt := moment.now
    updatedAt := moment.now }

/-- The audit row of a new swap. -/
def swapLog (dto : CreateBatterySwapDto) : AuditLog where
  fleetId := user.fleetId
  actorUserId := user.id
  target := .batterySwap moment.swapId
  riderId := dto.riderId
  bikeId := dto.bikeId

/-- The foreign keys ask for a bike and a rider of any fleet. -/
def referencesExist (dto : CreateBatterySwapDto) : Bool :=
  dto.bikeId.all (fun id => (tables.findBike id).isSome) &&
    dto.riderId.all fun id => (tables.findUser id).isSome

/-- A swap is stored where the bike and the rider that it names exist. -/
def createBatterySwap (dto : CreateBatterySwapDto) :
    Except FinancialsError (CreatedSwap × FleetTables) :=
  match newSwap moment user dto with
  | none => throw .outOfRange
  | some swap =>
    if referencesExist tables dto then
      return (createdSwap tables swap,
        { tables with
          swaps := tables.swaps ++ [swap]
          auditLogs := tables.auditLogs ++ [swapLog moment user dto] })
    else throw .missingReference

/-- A swap of the fleet is deleted. -/
def deleteBatterySwap (id : Id) : Except FinancialsError FleetTables :=
  if tables.swaps.any fun swap => swap.id == id && swap.fleetId == user.fleetId then
    return { tables with swaps := tables.swaps.filter fun swap => swap.id != id }
  else throw .swapNotFound

end Swaps

/-! ## The operations -/

/-- The requests to the service. -/
inductive Request where
  | recordPayment (dto : RecordPaymentDto)
  | listPayments (query : ListPaymentsDto)
  | getSummary (startDate endDate : Option Bound)
  | getLeases (startDate endDate : Option Bound)
  | getDeliveryFinancialSummary
  | getDeliveryPayouts
  | recordDeliveryPayout (riderId : Id)
  | listBatterySwaps (query : ListBatterySwapsDto)
  | createBatterySwap (dto : CreateBatterySwapDto)
  | deleteBatterySwap (id : Id)

/-- The answers of the service. -/
inductive Reply where
  | payment (answer : PaymentAnswer)
  | payments (page : PaginatedResponse PaymentAnswer)
  | summary (summary : FinancialSummary)
  | leases (leases : List LeaseSummary)
  | deliverySummary (summary : DeliverySummary)
  | deliveryPayouts (payouts : List DeliveryPayout)
  | paidOut (count : Nat)
  | swaps (page : SwapPage)
  | swap (created : CreatedSwap)
  | deleted (id : Id)
  deriving DecidableEq

section Operations

variable (search : TextSearch) (moment : Moment) (user : AuthenticatedUser)

/-- An operation that only reads. -/
def reading (tables : FleetTables) {α : Type} (reply : α → Reply)
    (result : Except FinancialsError α) : Except FinancialsError (Reply × FleetTables) :=
  result.map fun value => (reply value, tables)

/-- The answer to a request and the tables after it. -/
def perform (tables : FleetTables) : Request → Except FinancialsError (Reply × FleetTables)
  | .recordPayment dto => (recordPayment tables moment user dto).map (Prod.map .payment id)
  | .listPayments query => reading tables .payments (listPayments tables user query)
  | .getSummary startDate endDate =>
    reading tables .summary (getSummary tables moment user startDate endDate)
  | .getLeases startDate endDate =>
    reading tables .leases (.ok (listLeases tables moment user startDate endDate))
  | .getDeliveryFinancialSummary =>
    reading tables .deliverySummary (.ok (getDeliveryFinancialSummary tables user))
  | .getDeliveryPayouts => reading tables .deliveryPayouts (.ok (getDeliveryPayouts tables user))
  | .recordDeliveryPayout riderId =>
    (payOutCommissions tables moment user riderId).map (Prod.map .paidOut id)
  | .listBatterySwaps query => reading tables .swaps (listBatterySwaps search tables user query)
  | .createBatterySwap dto => (createBatterySwap tables moment user dto).map (Prod.map .swap id)
  | .deleteBatterySwap id => (deleteBatterySwap tables user id).map fun next => (.deleted id, next)

/-- What the caller gets. -/
def answer (tables : FleetTables) (request : Request) : Except FinancialsError Reply :=
  (perform search moment user tables request).map Prod.fst

/-- A refused request writes nothing. -/
def tablesAfter (tables : FleetTables) (request : Request) : FleetTables :=
  match perform search moment user tables request with
  | .ok (_, next) => next
  | .error _ => tables

end Operations

end EmotoFleet.Financials.Service
