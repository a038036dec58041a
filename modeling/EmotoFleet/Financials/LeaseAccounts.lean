import EmotoFleet.Financials.RiderLedger
import EmotoFleet.Foundations.RoundedSums

/-!
# What a rider on a lease owes

Two reports state it: the list of leases for the fleet and the summary for the rider. Both
count what was paid over all time against a daily rate since the current assignment, and
add the fines that are pending. They read the same tables through queries of their own.

The ledger holds decimals, and both reports calculate with them as the numbers that they
are nearest to. How they round is an argument: the service calculates in double precision,
and exact amounts show what the figures are meant to be. Instants and days are whole numbers
that no double rounds. The warnings of the summary come without their texts, which only word
its figures in two languages.
-/

namespace EmotoFleet.Financials

open Access (Id User RiderProfile BikeAssignment Bike millisPerDay)
open Accounts (UserRole)
open Billing (BikeStatus)
open DeviceCommands (DeviceCommandType)
open Doubles (Rounding)

/-- The reference of an upfront deposit. -/
def UPFRONT_LEASE_DEPOSIT : Option String := some "UPFRONT-LEASE-DEPOSIT"

/-- Whether a row counts as money that was paid. -/
def isPaid (row : RiderPayment) : Bool := row.status == .PAID || row.status == .PARTIAL

/-- The whole days since an instant, none before it. -/
def daysSince (now instant : Int) : Int := max 0 ((now - instant) / millisPerDay)

section Days

/-! ## Days in double precision -/

variable (rounding : Rounding) {elapsed days : Int}

/-- Between two whole days lie numbers that are doubles: what falls short of a day does so
after rounding. -/
theorem round_days_lt (small : |days| ≤ 2 ^ 25) (short : elapsed < days * millisPerDay) :
    rounding ((elapsed : ℚ) / millisPerDay) < days := by
  obtain ⟨least, most⟩ := abs_le.mp small
  have day : (0 : ℚ) < millisPerDay := by norm_num [millisPerDay]
  have double : Doubles.IsDouble (days - 1 / 2 ^ 27) :=
    ⟨days * 2 ^ 27 - 1, -27, abs_lt.mpr ⟨by omega, by omega⟩, by norm_num, by
      push_cast
      norm_num
      ring⟩
  have below : (elapsed : ℚ) / millisPerDay ≤ days - 1 / 2 ^ 27 := by
    have shortCast : (elapsed : ℚ) + 1 ≤ days * millisPerDay := by exact_mod_cast short
    rw [div_le_iff₀ day]
    norm_num [millisPerDay] at shortCast ⊢
    linarith
  have rounded := rounding.mono below
  rw [rounding.keeps _ double] at rounded
  linarith [show (0 : ℚ) < 1 / 2 ^ 27 by norm_num]

/-- A time longer than some days is not rounded to them. -/
theorem lt_round_days (small : |days| ≤ 2 ^ 25) (beyond : days * millisPerDay < elapsed) :
    days < rounding ((elapsed : ℚ) / millisPerDay) := by
  obtain ⟨least, most⟩ := abs_le.mp small
  have day : (0 : ℚ) < millisPerDay := by norm_num [millisPerDay]
  have double : Doubles.IsDouble (days + 1 / 2 ^ 27) :=
    ⟨days * 2 ^ 27 + 1, -27, abs_lt.mpr ⟨by omega, by omega⟩, by norm_num, by
      push_cast
      norm_num
      ring⟩
  have above : (days : ℚ) + 1 / 2 ^ 27 ≤ (elapsed : ℚ) / millisPerDay := by
    have beyondCast : (days : ℚ) * millisPerDay + 1 ≤ elapsed := by exact_mod_cast beyond
    rw [le_div_iff₀ day]
    norm_num [millisPerDay] at beyondCast ⊢
    linarith
  have rounded := rounding.mono above
  rw [rounding.keeps _ double] at rounded
  linarith [show (0 : ℚ) < 1 / 2 ^ 27 by norm_num]

/-- For some forty thousand years, the whole days since an instant are the same in exact
numbers and in doubles. -/
theorem daysSince_eq {now instant : Int} (dates : |now - instant| < 2 ^ 24 * millisPerDay) :
    daysSince now instant = max 0 ⌊rounding ((now - instant : Int) / millisPerDay)⌋ := by
  have day : (0 : ℚ) < millisPerDay := by norm_num [millisPerDay]
  obtain ⟨least, most⟩ := abs_lt.mp dates
  rw [daysSince]
  congr 1
  symm
  generalize now - instant = elapsed at *
  have begun : elapsed / millisPerDay * millisPerDay ≤ elapsed := Int.ediv_mul_le _ (by decide)
  have within : elapsed < (elapsed / millisPerDay + 1) * millisPerDay :=
    Int.lt_ediv_add_one_mul_self _ (by decide)
  have small : |elapsed / millisPerDay| ≤ 2 ^ 24 := by
    simp only [millisPerDay] at *
    exact abs_le.mpr ⟨by omega, by omega⟩
  obtain ⟨first, last⟩ := abs_le.mp small
  rw [Int.floor_eq_iff, ← Int.cast_one, ← Int.cast_add]
  constructor
  case left =>
    apply rounding.le_round (rounding.whole (abs_lt.mpr ⟨by omega, by omega⟩))
    rw [le_div_iff₀ day]
    exact_mod_cast begun
  case right => exact round_days_lt rounding (abs_le.mpr ⟨by omega, by omega⟩) within

/-- So are the days that are left, of which one that has begun counts. -/
theorem ceil_days (dates : |elapsed| < 2 ^ 24 * millisPerDay) :
    ⌈rounding ((elapsed : ℚ) / millisPerDay)⌉ = ⌈(elapsed : ℚ) / millisPerDay⌉ := by
  have day : (0 : ℚ) < millisPerDay := by norm_num [millisPerDay]
  obtain ⟨least, most⟩ := abs_lt.mp dates
  generalize rounded : ⌈(elapsed : ℚ) / millisPerDay⌉ = days
  obtain ⟨beyond, within⟩ := Int.ceil_eq_iff.mp rounded
  rw [lt_div_iff₀ day] at beyond
  rw [div_le_iff₀ day] at within
  have beyond' : (days - 1) * millisPerDay < elapsed := by exact_mod_cast beyond
  have within' : elapsed ≤ days * millisPerDay := by exact_mod_cast within
  have small : |days| ≤ 2 ^ 24 := by
    simp only [millisPerDay] at *
    exact abs_le.mpr ⟨by omega, by omega⟩
  obtain ⟨first, last⟩ := abs_le.mp small
  rw [Int.ceil_eq_iff, ← Int.cast_one, ← Int.cast_sub]
  constructor
  case left => exact lt_round_days rounding (abs_le.mpr ⟨by omega, by omega⟩) beyond'
  case right =>
    rw [← rounding.whole (n := days) (abs_lt.mpr ⟨by omega, by omega⟩)]
    apply rounding.mono
    rw [div_le_iff₀ day]
    exact within

end Days

/-- The rows of a query without an order; where it starts is an argument. -/
def activeAssignments (db : Database) (riderId : Id) (scan : Nat) : List BikeAssignment :=
  (db.assignments.rotate scan).filter fun row => row.riderUserId == riderId && row.active

/-- The bike of an assignment. -/
def bikeOf (db : Database) (assignment : BikeAssignment) : Option Bike :=
  db.bikes.find? fun bike => bike.id == assignment.bikeId

section Leases

/-- The states of a lease. -/
inductive LeaseStatus where
  | ACTIVE
  | PAID_OFF
  | DELINQUENT
  deriving DecidableEq

/-- Whether the bike of a lease may be ridden. -/
inductive LockState where
  | LOCKED
  | UNLOCKED
  deriving DecidableEq

/-- A lease as the list shows it. -/
structure LeaseSummary where
  id : Id
  riderName : String
  riderPhone : String
  bikeLabel : String
  bikePlate : String
  totalPrincipal : Int
  totalPaid : ℚ
  periodPaid : ℚ
  dailyRate : Int
  arrears : ℚ
  status : LeaseStatus
  lockState : LockState
  bikeId : Option Id
  pendingFines : ℚ
  deriving DecidableEq

/-- A bound of the period, as an instant or as a day; a text without a date bounds
nothing. -/
inductive Bound where
  | instant (time : Option Int)
  | day (midnight : Option Int)
  deriving DecidableEq

/-- The instant at which a period begins. -/
def Bound.start : Bound → Option Int
  | .instant time => time
  | .day midnight => midnight

/-- The instant at which a period ends, the last of its day. -/
def Bound.finish : Bound → Option Int
  | .instant time => time
  | .day midnight => midnight.map (· + (millisPerDay - 1))

/-- Whether a payment falls into the period. -/
def inPeriod (startDate endDate : Option Bound) (row : RiderPayment) : Bool :=
  !(startDate.bind Bound.start).any (fun start => decide (row.paidAt < start)) &&
    !(endDate.bind Bound.finish).any fun finish => decide (finish < row.paidAt)

/-- The acknowledged commands of a bike, the latest first and those without a time before
all others. -/
def ackedCommands (db : Database) (bikeId : Id) : List DeviceCommand :=
  (db.commands.filter fun row => row.bikeId == bikeId && row.status == .ACKED).mergeSort
    fun left right =>
      match left.ackedAt, right.ackedAt with
      | none, _ => true
      | some _, none => false
      | some earlier, some later => decide (later ≤ earlier)

variable (rounding : Rounding) (db : Database) (now : Int) (scan : Nat)

/-- The account of one rider in the list of leases. -/
def toLeaseSummary (startDate endDate : Option Bound) (rider : User) : LeaseSummary :=
  let profile := rider.riderProfile
  let totalPrincipal := (profile.map (·.leasePrincipal)).getD 2500000
  let dailyRate := (profile.map (·.leaseDailyRate)).getD 15000
  let payments := db.ledger.rows.filter fun row => row.riderId == rider.id && isPaid row
  let totalPaid := rounding.sum (payments.map (·.amount))
  let dailyPaymentsTotal :=
    rounding.sum ((payments.filter fun row => row.reference != UPFRONT_LEASE_DEPOSIT).map (·.amount))
  let periodPaid := rounding.sum ((payments.filter (inPeriod startDate endDate)).map (·.amount))
  let activeAssignment := (activeAssignments db rider.id scan).head?
  let bike := activeAssignment.bind (bikeOf db)
  let isBikeUnderMaintenance := bike.any fun bike => bike.status == .MAINTENANCE
  let lastCommand := bike.bind fun bike => (ackedCommands db bike.id).head?
  let timeArrears : ℚ :=
    match activeAssignment with
    | some assignment =>
      let expected : ℚ :=
        if isBikeUnderMaintenance then 0
        else rounding (daysSince now assignment.assignedAt * dailyRate)
      max 0 (rounding (expected - dailyPaymentsTotal))
    | none => 0
  let totalPendingFines : ℚ :=
    rounding.sum ((db.fines.filter fun fine =>
      fine.riderId == rider.id && fine.status == "PENDING").map fun fine => (fine.amount : ℚ))
  let arrears := rounding (timeArrears + totalPendingFines)
  { id := rider.id
    riderName := (profile.map (·.fullName)).getD ("Rider " ++ String.ofList (rider.id.toList.take 8))
    riderPhone := rider.phone.getD ""
    bikeLabel := (bike.map (·.label)).getD "N/A"
    bikePlate := (Accounts.given (bike.bind (·.plate))).getD "N/A"
    totalPrincipal, totalPaid, periodPaid, dailyRate, arrears
    status :=
      if totalPaid ≥ totalPrincipal then .PAID_OFF
      else if arrears > 0 then .DELINQUENT
      else .ACTIVE
    lockState := if lastCommand.any (fun command => command.type == .LOCK) then .LOCKED else .UNLOCKED
    bikeId := activeAssignment.map (·.bikeId)
    pendingFines := totalPendingFines }

/-- The riders of a fleet who are on a lease. -/
def leaseRiders (user : AuthenticatedUser) : List User :=
  db.users.filter fun row =>
    row.fleetId == user.fleetId && row.role == .RIDER && row.riderProfile.any (·.leaseToOwn)

/-- The leases of a user's fleet. -/
def getLeases (user : AuthenticatedUser) (startDate endDate : Option Bound) : List LeaseSummary :=
  (leaseRiders db user).map (toLeaseSummary rounding db now scan startDate endDate)

end Leases

section Summaries

/-- The states of a rider's account. -/
inductive RiderStatus where
  | UP_TO_DATE
  | DELINQUENT
  | PAID_OFF
  deriving DecidableEq

/-- How urgent a warning is. -/
inductive WarningSeverity where
  | CRITICAL_SUSPENSION_RISK
  | WARNING
  | NONE
  deriving DecidableEq

/-- The account as the rider sees it. -/
structure PaymentSummary where
  isLeaseToOwn : Bool
  leasePrincipal : Int
  leaseDailyRate : Int
  assignedRate : Int
  paymentSchedule : String
  customScheduleDays : Option Int
  schedulePeriodDays : Int
  requiredPeriodAmount : ℚ
  requiredTotalAmount : ℚ
  remainingLeaseBalance : ℚ
  remainingPeriodAmount : Option ℚ
  timeArrears : ℚ
  fineArrears : ℚ
  daysInArrears : Int
  nextDueAt : Int
  daysUntilDue : Int
  isPeriodOver : Bool
  isWarningActive : Bool
  severity : WarningSeverity
  totalPaid : ℚ
  expectedPaid : ℚ
  arrears : ℚ
  status : RiderStatus
  phone : Option String
  recentPayments : List RiderPayment
  deriving DecidableEq

/-- Why there is no summary. -/
inductive SummaryError where
  /-- "Rider account not found" -/
  | accountNotFound
  /-- "Invalid time value": a date beyond the last one has no text. -/
  | invalidTime
  deriving DecidableEq

/-- The remainder of a division that rounds towards zero, which is exact also for doubles.
Nothing remains of a division by zero, which is no number. -/
def remainder (left right : ℚ) : Option ℚ :=
  if right = 0 then none
  else some (left - right * (if 0 ≤ left / right then ⌊left / right⌋ else ⌈left / right⌉ : ℤ))

/-- The milliseconds from the epoch that a date can have at most. -/
def maxTime : Int := 8640000000000000

variable (rounding : Rounding) (db : Database) (now : Int) (scan : Nat)

/-- The figures of a rider's summary. -/
def summarize (rider : User) : PaymentSummary :=
  let profile := rider.riderProfile
  let isLeaseToOwn := (profile.map (·.leaseToOwn)).getD false
  let leasePrincipal := (profile.map (·.leasePrincipal)).getD 2500000
  let leaseDailyRate := (profile.map (·.leaseDailyRate)).getD 15000
  let allPaidPayments := db.ledger.rows.filter fun row => row.riderId == rider.id && isPaid row
  let totalPaid := rounding.sum (allPaidPayments.map (·.amount))
  let dailyPaymentsTotal :=
    rounding.sum
      ((allPaidPayments.filter fun row => row.reference != UPFRONT_LEASE_DEPOSIT).map (·.amount))
  let activeAssignment := (activeAssignments db rider.id scan).head?
  let isBikeUnderMaintenance :=
    (activeAssignment.bind (bikeOf db)).any fun bike => bike.status == .MAINTENANCE
  let expectedPaid : ℚ :=
    match activeAssignment with
    | some assignment =>
      if isBikeUnderMaintenance then 0
      else rounding (daysSince now assignment.assignedAt * leaseDailyRate)
    | none => 0
  let assignedArrears : ℚ :=
    match activeAssignment with
    | some _ => max 0 (rounding (expectedPaid - dailyPaymentsTotal))
    | none => 0
  let pendingFines : ℚ :=
    rounding.sum ((db.fines.filter fun fine =>
      fine.riderId == rider.id && fine.status == "PENDING").map fun fine => (fine.amount : ℚ))
  let arrears := rounding (assignedArrears + pendingFines)
  let assignedRate := (profile.map (·.assignedRate)).getD leaseDailyRate
  let paymentSchedule := (profile.map (·.paymentSchedule)).getD "DAILY"
  let customScheduleDays := profile.bind (·.customScheduleDays)
  let schedulePeriodDays : Int :=
    if paymentSchedule = "WEEKLY" then 7
    else if paymentSchedule = "CUSTOM" then max 1 (customScheduleDays.getD 1)
    else 1
  let requiredPeriodAmount := rounding (assignedRate * schedulePeriodDays)
  let timeArrears := max 0 (rounding (expectedPaid - dailyPaymentsTotal))
  let daysInArrears : Int := if assignedRate > 0 then ⌈rounding (timeArrears / assignedRate)⌉ else 0
  let daysPaidFor : Int :=
    if assignedRate > 0 then ⌊rounding (dailyPaymentsTotal / assignedRate)⌋ else 0
  let nextDueAt :=
    match activeAssignment with
    | some assignment => assignment.assignedAt + (daysPaidFor + 1) * millisPerDay
    | none => now
  let daysUntilDue : Int := ⌈((nextDueAt - now : Int) : ℚ) / millisPerDay⌉
  let isPeriodOver :=
    match activeAssignment with
    | some _ => decide (daysUntilDue ≤ 0) || decide (arrears > 0)
    | none => decide (arrears > 0)
  { isLeaseToOwn, leasePrincipal, leaseDailyRate, assignedRate, paymentSchedule,
    customScheduleDays, schedulePeriodDays, requiredPeriodAmount
    requiredTotalAmount := rounding (requiredPeriodAmount + arrears)
    remainingLeaseBalance :=
      if isLeaseToOwn then max 0 (rounding (leasePrincipal - totalPaid)) else 0
    remainingPeriodAmount :=
      (remainder dailyPaymentsTotal requiredPeriodAmount).map fun progress =>
        max 0 (rounding (requiredPeriodAmount - progress))
    timeArrears
    fineArrears := pendingFines
    daysInArrears, nextDueAt
    daysUntilDue := if activeAssignment.isSome then daysUntilDue else 0
    isPeriodOver
    isWarningActive := decide (arrears > 0) || isPeriodOver
    severity :=
      if arrears > rounding (assignedRate * 3) then .CRITICAL_SUSPENSION_RISK
      else if arrears > 0 then .WARNING
      else .NONE
    totalPaid, expectedPaid, arrears
    status :=
      if isLeaseToOwn && decide (totalPaid ≥ leasePrincipal) then .PAID_OFF
      else if arrears > 0 then .DELINQUENT
      else .UP_TO_DATE
    phone := rider.phone
    recentPayments :=
      (Access.latestFirst (·.paidAt) (db.ledger.rows.filter fun row => row.riderId == rider.id)).take
        20 }

/-- The summary of the caller. It spells the next due date, which has to be a date. -/
def getRiderPaymentSummary (user : AuthenticatedUser) : Except SummaryError PaymentSummary :=
  match db.users.find? fun row => row.id == user.id with
  | none => .error .accountNotFound
  | some rider =>
    let summary := summarize rounding db now scan rider
    if |summary.nextDueAt| ≤ maxTime then .ok summary else .error .invalidTime

end Summaries

/-! ## The sums behind the figures -/

section Figures

variable (rounding : Rounding) (db : Database) (now : Int) (scan : Nat) (rider : User)

/-- What a row contributes to the money that was paid. -/
def paidAmount (row : RiderPayment) : ℚ := if isPaid row then row.amount else 0

/-- What it contributes to the daily payments, which the deposit is not one of. -/
def dailyAmount (row : RiderPayment) : ℚ :=
  if isPaid row && row.reference != UPFRONT_LEASE_DEPOSIT then row.amount else 0

/-- The sum over the rows of one rider. -/
def riderTotal (weight : RiderPayment → ℚ) (riderId : Id) : ℚ :=
  rounding.sum (db.ledger.rows.map fun row => if row.riderId = riderId then weight row else 0)

/-- The fines that a rider has not paid. -/
def finesPending (riderId : Id) : ℚ :=
  rounding.sum ((db.fines.filter fun fine =>
    fine.riderId == riderId && fine.status == "PENDING").map fun fine => (fine.amount : ℚ))

/-- The rate of a rider's day. -/
def dailyRate : Int := (rider.riderProfile.map (·.leaseDailyRate)).getD 15000

/-- What a rider should have paid since an assignment; nothing while the bike is under
maintenance. -/
def expectedSince (assignment : BikeAssignment) : ℚ :=
  if (bikeOf db assignment).any fun bike => bike.status == .MAINTENANCE then 0
  else rounding (daysSince now assignment.assignedAt * dailyRate rider)

/-- What is left to pay of what was expected, and nothing without a bike. -/
def timeArrears : ℚ :=
  (activeAssignments db rider.id scan).head?.elim 0 fun assignment =>
    max 0 (rounding
      (expectedSince rounding db now rider assignment - riderTotal rounding db dailyAmount rider.id))

/-- Without rounding a rider's total is the sum over the ledger. -/
theorem riderTotal_exact (weight : RiderPayment → ℚ) (riderId : Id) :
    riderTotal .exact db weight riderId =
      (db.ledger.rows.map fun row => if row.riderId = riderId then weight row else 0).sum :=
  Rounding.exact_sum _

/-! What is added up has been rounded. -/

/-- A rider's total is a number of the rounding. -/
@[simp] theorem riderTotal_again (weight : RiderPayment → ℚ) (riderId : Id) :
    rounding (riderTotal rounding db weight riderId) = riderTotal rounding db weight riderId :=
  rounding.sum_again _

/-- The pending fines are a number of the rounding. -/
@[simp] theorem finesPending_again (riderId : Id) :
    rounding (finesPending rounding db riderId) = finesPending rounding db riderId :=
  rounding.sum_again _

/-- The expected sum is a number of the rounding. -/
@[simp] theorem expectedSince_again (assignment : BikeAssignment) :
    rounding (expectedSince rounding db now rider assignment) =
      expectedSince rounding db now rider assignment := by
  rw [expectedSince]
  split
  case isTrue => exact rounding.round_zero
  case isFalse => exact rounding.again _

/-- No arrears are negative. -/
theorem timeArrears_nonneg : 0 ≤ timeArrears rounding db now scan rider := by
  rw [timeArrears]
  cases (activeAssignments db rider.id scan).head? with
  | none => exact le_refl 0
  | some assignment => exact le_max_left _ _

/-- The arrears are a number of the rounding. -/
theorem timeArrears_again :
    rounding (timeArrears rounding db now scan rider) = timeArrears rounding db now scan rider := by
  rw [timeArrears]
  cases (activeAssignments db rider.id scan).head? with
  | none => exact rounding.round_zero
  | some assignment => exact rounding.max_again _

/-- Nothing of what was expected is left exactly if as much was paid. -/
theorem left_eq_zero_iff (assignment : BikeAssignment) :
    max 0 (rounding
        (expectedSince rounding db now rider assignment - riderTotal rounding db dailyAmount rider.id)) =
        0 ↔
      expectedSince rounding db now rider assignment ≤ riderTotal rounding db dailyAmount rider.id := by
  rw [max_eq_left_iff]
  exact rounding.round_sub_nonpos_iff (expectedSince_again _ _ _ _ _) (riderTotal_again _ _ _ _)

/-- What a rider has paid is the total of the paid rows. -/
theorem paid_sum (riderId : Id) :
    rounding.sum
        ((db.ledger.rows.filter fun row => row.riderId == riderId && isPaid row).map (·.amount)) =
      riderTotal rounding db paidAmount riderId := by
  rw [rounding.sum_chosen, riderTotal]
  congr 1
  apply List.map_congr_left
  intro row _
  by_cases same : row.riderId = riderId
  case pos => simp [same, paidAmount]
  case neg => simp [same]

/-- What a rider has paid apart from the deposit is a total of the ledger. -/
theorem daily_sum (riderId : Id) :
    rounding.sum
        (((db.ledger.rows.filter fun row => row.riderId == riderId && isPaid row).filter fun row =>
          row.reference != UPFRONT_LEASE_DEPOSIT).map (·.amount)) =
      riderTotal rounding db dailyAmount riderId := by
  rw [List.filter_filter, rounding.sum_chosen, riderTotal]
  congr 1
  apply List.map_congr_left
  intro row _
  by_cases same : row.riderId = riderId
  case pos => simp [same, dailyAmount, and_comm]
  case neg => simp [same]

/-- The lease shows what its rider has paid. -/
theorem toLeaseSummary_totalPaid (startDate endDate : Option Bound) :
    (toLeaseSummary rounding db now scan startDate endDate rider).totalPaid =
      riderTotal rounding db paidAmount rider.id :=
  paid_sum rounding db rider.id

/-- The lease shows the arrears of time and the fines. -/
theorem toLeaseSummary_arrears (startDate endDate : Option Bound) :
    (toLeaseSummary rounding db now scan startDate endDate rider).arrears =
      rounding (timeArrears rounding db now scan rider + finesPending rounding db rider.id) := by
  rw [timeArrears, ← daily_sum, toLeaseSummary]
  cases assigned : (activeAssignments db rider.id scan).head? with
  | none => rfl
  | some assignment => rfl

/-- The summary shows what the rider has paid. -/
theorem summarize_totalPaid :
    (summarize rounding db now scan rider).totalPaid = riderTotal rounding db paidAmount rider.id :=
  paid_sum rounding db rider.id

/-- The summary shows what is left of the principal. -/
theorem summarize_balance :
    (summarize rounding db now scan rider).remainingLeaseBalance =
      if (rider.riderProfile.map (·.leaseToOwn)).getD false then
        max 0 (rounding ((rider.riderProfile.map (·.leasePrincipal)).getD 2500000 -
          (summarize rounding db now scan rider).totalPaid))
      else 0 :=
  rfl

/-- The summary shows the arrears of time and the fines. -/
theorem summarize_arrears :
    (summarize rounding db now scan rider).arrears =
      rounding (timeArrears rounding db now scan rider + finesPending rounding db rider.id) := by
  rw [timeArrears, ← daily_sum, summarize]
  cases assigned : (activeAssignments db rider.id scan).head? with
  | none => rfl
  | some assignment => rfl

end Figures

end EmotoFleet.Financials
