import EmotoFleet.Billing.BikeDays
import EmotoFleet.Foundations.Doubles
import EmotoFleet.Foundations.WhiteSpace
import Mathlib.Data.Rat.Floor

/-!
# Invoices and their payments

The billing service of one fleet: generation of a billing cycle, its
reconciliation with the trips of its period, the three ways of paying it, and
voiding. The rows of other fleets are not affected by any of them. A cycle, a
payment or a transaction is named by its position in its table.

The functions are given as compositions of their database accesses, each of which
can be used on its own where callers interleave. Adding days to a date is done
in the server's time zone, taken to be one without clock changes. A percentage of an
amount is computed in double precision before it is rounded.
-/

namespace EmotoFleet.Billing

open Doubles (toDouble)
open WhiteSpace (trim)

/-- What the billing of a fleet reads and writes. -/
structure BillingState where
  now : Int
  config : Option BillingConfig
  fleet : Fleet
  usage : UsageTables
  subscriptions : List FleetSubscription
  discounts : List Discount
  cycles : List BillingCycle
  payments : List BillingPayment
  riderPayments : List RiderPayment
  momoTransactions : List MomoTransaction

/-- The errors of the service, where a request is refused. -/
inductive BillingError where
  | notFound
  | cannotGenerate (cycleNumber : Nat) (periodStart : Int)
  | duplicateCycleNumber (cycleNumber : Nat)
  | alreadyFullyPaid
  | exceedsRemainingDue (amount remainingDue : Int)
  | unknownRecorder (recordedById : String)
  | cannotVoidPaid
deriving DecidableEq

/-- A number of days later. -/
def addDays (date : Int) (days : Nat) : Int := date + days * DAY_MS

/-- Rounding as Math.round does it. -/
def roundHalfUp (amount : ℚ) : Int := ⌊amount + 1 / 2⌋

/-- Whether a fleet pays for active days. -/
def isPayg (fleet : Fleet) : Bool :=
  decide (fleet.plan = .PAYG ∨ fleet.billingMode = .PAYG_TRIP_VALIDATED)

namespace BillingState

variable (state : BillingState)

/-- The invoices with one of them changed. -/
def updateCycle (cycleId : Nat) (change : BillingCycle → BillingCycle) : BillingState :=
  { state with cycles := state.cycles.modify cycleId change }

/-- The transactions with one of them changed. -/
def updateTransaction (transactionId : Nat) (change : MomoTransaction → MomoTransaction) :
    BillingState :=
  { state with momoTransactions := state.momoTransactions.modify transactionId change }

/-- One more payment. -/
def createPayment (payment : BillingPayment) : BillingState :=
  { state with payments := state.payments ++ [payment] }

/-- The fleet with another status of its subscription. -/
def setSubscriptionStatus (status : FleetSubscriptionStatus) : BillingState :=
  { state with fleet := { state.fleet with subscriptionStatus := status } }

end BillingState

/-! Generation -/

/-- The row with the greatest cycle number. -/
def lastCycle (cycles : List BillingCycle) : Option BillingCycle :=
  cycles.foldl (fun last cycle =>
    if last.any (cycle.cycleNumber ≤ ·.cycleNumber) then last else some cycle) none

/-- Where the next invoice begins, and its number. -/
def nextPeriod (state : BillingState) : Int × Nat :=
  match lastCycle state.cycles with
  | some last => (last.periodEnd, last.cycleNumber + 1)
  | none =>
    (state.fleet.billingStartedAt.getD (state.fleet.trialEndsAt.getD state.fleet.createdAt), 1)

/-- How many days an invoice is for. -/
def cycleDays (state : BillingState) : Nat :=
  (state.config.map (·.billingCycleDays)).getD 30

/-- The bikes with an active day. -/
def operatingBikesCount (audit : PaygAuditSummary) : Nat :=
  (audit.perBikeSummary.filter fun bike => decide (0 < bike.stats.activeDays)).length

/-- The share of an amount in double precision. -/
def shareOf (amount : Int) (percent : ℚ) : ℚ :=
  toDouble (amount * toDouble (toDouble percent / 100))

/-- The percentage of an amount, in doubles and rounded. -/
def percentageOf (subtotal : Int) (percent : ℚ) : Int := roundHalfUp (shareOf subtotal percent)

/-- The discount of the plan that the fleet is subscribed to. -/
def planDiscount (state : BillingState) (subtotal : Int) : Int :=
  match state.subscriptions.find? fun subscription =>
      subscription.isActive && decide (state.now ≤ subscription.endDate) with
  | some subscription =>
    if subscription.discountPercent ≠ 0 then percentageOf subtotal subscription.discountPercent
    else 0
  | none => 0

/-- The number of bikes, the rate and the subtotal of the next invoice. -/
def invoiceAmounts (state : BillingState) (periodStart periodEnd : Int) : Nat × Int × Int :=
  if isPayg state.fleet then
    let auditEnd := if state.now < periodEnd then state.now else periodEnd
    let audit := getPaygAuditForFleet state.fleet state.usage periodStart auditEnd
    (operatingBikesCount audit, paygRate state.fleet, audit.totalPaygSubtotalRwf)
  else
    let bikeCount := (state.usage.bikes.filter fun bike =>
      decide (bike.fleetId = state.fleet.id ∧ bike.status = .ACTIVE)).length
    (bikeCount, state.fleet.monthlyRatePerBike, bikeCount * state.fleet.monthlyRatePerBike)

/-- The next invoice of the fleet. -/
def nextCycle (state : BillingState) : BillingCycle :=
  let (periodStart, cycleNumber) := nextPeriod state
  let periodEnd := addDays periodStart (cycleDays state)
  let (bikeCount, ratePerBike, subtotal) := invoiceAmounts state periodStart periodEnd
  let discountAmount := planDiscount state subtotal
  let isTrial := state.fleet.trialEndsAt.any fun trialEndsAt => decide (state.now < trialEndsAt)
  { cycleNumber, periodStart, periodEnd, dueDate := periodEnd, bikeCount, ratePerBike, subtotal,
    discountAmount, totalDue := max 0 (subtotal - discountAmount), totalPaid := 0,
    status := if isTrial then .PAID else .PENDING, isTrial, discountId := none, paidAt := none }

/-- The number of a cycle is unique within its fleet. -/
def insertCycle (state : BillingState) (cycle : BillingCycle) : Except BillingError BillingState :=
  if state.cycles.any (·.cycleNumber == cycle.cycleNumber) then
    .error (.duplicateCycleNumber cycle.cycleNumber)
  else
    let billingStartedAt := state.fleet.billingStartedAt.getD cycle.periodStart
    .ok { state with
      cycles := state.cycles ++ [cycle]
      fleet := { state.fleet with billingStartedAt := some billingStartedAt } }

/-- The next invoice is written unless there is one for its number. -/
def generateCycleForFleet (state : BillingState) (isManual : Bool) :
    Except BillingError BillingState :=
  let (periodStart, cycleNumber) := nextPeriod state
  if !isManual && decide (state.now < periodStart) then
    .error (.cannotGenerate cycleNumber periodStart)
  else insertCycle state (nextCycle state)

/-- Generation where the caller ignores or only logs an error. -/
def generateQuietly (state : BillingState) (isManual : Bool) : BillingState :=
  match generateCycleForFleet state isManual with
  | .ok next => next
  | .error _ => state

/-! Reconciliation -/

/-- The discount that is stored with the cycle. -/
def storedDiscount (state : BillingState) (cycle : BillingCycle) (subtotal : Int) : Int :=
  match cycle.discountId.bind fun id => state.discounts.find? (·.id == id) with
  | some discount =>
    match discount.type with
    | .PERCENTAGE => percentageOf subtotal discount.value
    | .FIXED_AMOUNT => min subtotal (roundHalfUp (toDouble discount.value))
  | none => 0

/-- An invoice with the figures of the audit. -/
def reconciled (state : BillingState) (cycle : BillingCycle) : BillingCycle :=
  let audit := getPaygAuditForFleet state.fleet state.usage cycle.periodStart cycle.periodEnd
  let subtotal := audit.totalPaygSubtotalRwf
  let discountAmount := storedDiscount state cycle subtotal
  { cycle with
    bikeCount := operatingBikesCount audit
    subtotal := subtotal
    discountAmount := discountAmount
    totalDue := max 0 (subtotal - discountAmount)
    ratePerBike := paygRate state.fleet }

/-- An unsettled invoice of a fleet that pays for active days gets the figures of the audit. -/
def reconcilePaygCycle (state : BillingState) (cycleId : Nat) : BillingState :=
  match state.cycles[cycleId]? with
  | none => state
  | some cycle =>
    if cycle.status = .PAID ∨ cycle.status = .VOID ∨ isPayg state.fleet = false then state
    else state.updateCycle cycleId fun _ => reconciled state cycle

/-! Payment -/

/-- Whether something is still to be paid. -/
def isUnsettled (status : BillingCycleStatus) : Bool :=
  decide (status = .PENDING ∨ status = .OVERDUE ∨ status = .PARTIAL)

/-- The fleet is active again, unless an unsettled invoice is past its due date. -/
def restoreFleet (state : BillingState) : BillingState :=
  if state.cycles.any fun cycle => isUnsettled cycle.status && decide (cycle.dueDate < state.now) then
    state
  else state.setSubscriptionStatus .ACTIVE

/-- What follows a payment that settles an invoice. -/
def afterSettlement (state : BillingState) : BillingState := generateQuietly (restoreFleet state) true

/-- The status of an invoice on which so much has been paid. -/
def paymentStatus (newTotalPaid totalDue : Int) : BillingCycleStatus :=
  if totalDue ≤ newTotalPaid then .PAID else .PARTIAL

/-- The columns that a payment writes, computed from the row as it was read. -/
def writePayment (state : BillingState) (cycleId : Nat) (cycle : BillingCycle)
    (newTotalPaid paidAt : Int) : BillingState :=
  let newStatus := paymentStatus newTotalPaid cycle.totalDue
  state.updateCycle cycleId fun row =>
    { row with
      totalPaid := newTotalPaid
      status := newStatus
      paidAt := if newStatus = .PAID then some paidAt else none }

/-- What is sent to record a payment by hand. -/
structure RecordBillingPaymentDto where
  amount : Int
  atLeastOne : 1 ≤ amount
  method : PaymentMethod
  reference : Option String
  paidAt : Option Int
deriving DecidableEq

/-- The payment that is recorded by hand. -/
def manualPayment (now : Int) (cycleId : Nat) (dto : RecordBillingPaymentDto) : BillingPayment where
  billingCycleId := cycleId
  amount := dto.amount
  method := dto.method
  reference := dto.reference
  paidAt := dto.paidAt.getD now
  transaction := none

/-- The checks of a manual payment. -/
def acceptPayment (cycle : BillingCycle) (amount : Int) : Except BillingError Unit :=
  if cycle.status = .PAID then .error .alreadyFullyPaid
  else if cycle.totalDue - cycle.totalPaid < amount then
    .error (.exceedsRemainingDue amount (cycle.totalDue - cycle.totalPaid))
  else .ok ()

/-- A transaction whose invoice was settled otherwise. -/
def cancelled (transaction : MomoTransaction) : MomoTransaction :=
  { transaction with
    status := .CANCELLED
    failureReason := some "Invoice settled via direct manual payment" }

/-- A manual settlement cancels the pending transactions of the invoice. -/
def cancelPending (state : BillingState) (cycleId : Nat) : BillingState :=
  { state with
    momoTransactions := state.momoTransactions.map fun transaction =>
      if transaction.billingCycleId = some cycleId ∧ transaction.status = .PENDING then
        cancelled transaction
      else transaction }

/-- A payment recorded by hand. -/
def recordPayment (state : BillingState) (cycleId : Nat) (dto : RecordBillingPaymentDto) :
    Except BillingError BillingState :=
  match state.cycles[cycleId]? with
  | none => .error .notFound
  | some cycle =>
    match acceptPayment cycle dto.amount with
    | .error refusal => .error refusal
    | .ok () =>
      let payment := manualPayment state.now cycleId dto
      let newTotalPaid := cycle.totalPaid + payment.amount
      let paid := writePayment (state.createPayment payment) cycleId cycle newTotalPaid payment.paidAt
      if paymentStatus newTotalPaid cycle.totalDue = .PAID then
        .ok (afterSettlement (cancelPending paid cycleId))
      else .ok paid

/-- The approval by the headquarters looks neither at the status nor at the amount. -/
def approveBillingPayment (state : BillingState) (cycleId : Nat) (amount : Option Int)
    (method : PaymentMethod) (reference : Option String) : Except BillingError BillingState :=
  match state.cycles[cycleId]? with
  | none => .error .notFound
  | some cycle =>
    let payAmount := amount.getD (max 0 (cycle.totalDue - cycle.totalPaid))
    let newTotalPaid := cycle.totalPaid + payAmount
    let created := state.createPayment
      ⟨cycleId, payAmount, method, reference, state.now, none⟩
    let paid := created.updateCycle cycleId fun row =>
      { row with
        totalPaid := newTotalPaid
        status := paymentStatus newTotalPaid cycle.totalDue }
    .ok (if state.fleet.subscriptionStatus = .PAST_DUE then paid.setSubscriptionStatus .ACTIVE
      else paid)

/-- A transaction that was confirmed. -/
def succeeded (now : Int) (financialTransactionId : String) (transaction : MomoTransaction) :
    MomoTransaction :=
  { transaction with
    status := .SUCCESSFUL
    financialTransactionId := some financialTransactionId
    callbackReceivedAt := some now }

/-- The invoice's part of a confirmation, with the row of the cycle as it was read.
The total is capped, the payment is not. -/
def creditCycle (state : BillingState) (transactionId : Nat) (amount : Int) (cycleId : Nat)
    (cycle : BillingCycle) (financialTransactionId : String) : BillingState :=
  if cycle.status = .PAID then state
  else
    let newTotalPaid := min cycle.totalDue (cycle.totalPaid + amount)
    let paid := writePayment (state.createPayment
      ⟨cycleId, amount, .MOBILE_MONEY, some financialTransactionId, state.now, some transactionId⟩)
      cycleId cycle newTotalPaid state.now
    if paymentStatus newTotalPaid cycle.totalDue = .PAID then afterSettlement paid else paid

/-- What marks the reason of a partial payment. -/
def PARTIAL_PREFIX : String := "PARTIAL:"

/-- The rider's part of a confirmation. -/
def creditRider (state : BillingState) (transactionId : Nat) (transaction : MomoTransaction)
    (riderId : String) (financialTransactionId : String) : BillingState :=
  let isPartial := (transaction.payerMessage.getD "").startsWith PARTIAL_PREFIX
  let partialReason := if isPartial then
      transaction.payerMessage.map fun message =>
        trim (message.drop PARTIAL_PREFIX.length).toString
    else none
  { state with
    riderPayments := state.riderPayments ++
      [⟨riderId, transaction.amount, state.now, isPartial, partialReason,
        financialTransactionId, some transactionId⟩] }

/-- What a confirmation commits. The caller's copy of the transaction's row decides
what is credited; the row of the invoice is the one read in the database transaction. -/
def confirmed (state : BillingState) (transactionId : Nat)
    (transaction : MomoTransaction) (cycle : Option BillingCycle)
    (financialTransactionId : String) : BillingState :=
  let marked := state.updateTransaction transactionId (succeeded state.now financialTransactionId)
  let credited := match transaction.billingCycleId, cycle with
    | some cycleId, some cycle =>
      creditCycle marked transactionId transaction.amount cycleId cycle financialTransactionId
    | _, _ => marked
  match transaction.riderId with
  | some riderId => creditRider credited transactionId transaction riderId financialTransactionId
  | none => credited

/-- The database transaction of a confirmation, with the owner that it finds for the fleet.
The payment of an invoice names the owner as the user who has recorded it, and without an
owner the fleet, which is no user: then the whole transaction is rolled back. -/
def processSuccessfulPayment (state : BillingState) (transactionId : Nat)
    (transaction : MomoTransaction) (cycle : Option BillingCycle) (ownerId : Option String)
    (financialTransactionId : String) : Except BillingError BillingState :=
  let credits := transaction.billingCycleId.isSome && cycle.any fun row => row.status != .PAID
  if credits && ownerId.isNone then .error (.unknownRecorder (ownerId.getD state.fleet.id))
  else .ok (confirmed state transactionId transaction cycle financialTransactionId)

/-- An invoice is cancelled. -/
def voidCycle (state : BillingState) (cycleId : Nat) : Except BillingError BillingState :=
  match state.cycles[cycleId]? with
  | none => .error .notFound
  | some cycle =>
    if cycle.status = .PAID then .error .cannotVoidPaid
    else .ok (state.updateCycle cycleId fun row => { row with status := .VOID })

/-- A fleet before its first invoice, and a short trip of its bike. The runs written
out in the following modules use them. -/
def unbilledState : BillingState where
  now := 1772438400000
  config := some defaultConfig
  fleet := defaultFleet
  usage := ⟨[defaultBike], [], defaultBike_key, by decide⟩
  subscriptions := []
  discounts := []
  cycles := []
  payments := []
  riderPayments := []
  momoTransactions := []

/-- A trip of ten minutes. -/
def tripAt (startTs : Int) : Trip := ⟨"fleet-1", "bike-1", startTs, some (startTs + 600000)⟩

end EmotoFleet.Billing
