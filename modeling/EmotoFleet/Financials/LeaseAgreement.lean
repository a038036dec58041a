import EmotoFleet.Financials.LeaseAccounts

/-!
# One lease in two reports

The fleet's list of leases and the rider's own summary are two implementations of the same
figures. They agree for every rider on a lease who has at most one active assignment,
whenever the summary is given: it also spells the day on which the next payment is due,
which fails when the payments reach further into the future than a date can.
-/

namespace EmotoFleet.Financials

open Access (Id User Bike BikeAssignment millisPerDay)
open Doubles (Rounding)
open Tables

section SingleAssignments

variable (db : Database)

/-- At most one bike is assigned to the rider. -/
def SingleAssignment (riderId : Id) : Prop :=
  (db.assignments.filter fun row => row.riderUserId == riderId && row.active).length ≤ 1

instance (riderId : Id) : Decidable (SingleAssignment db riderId) :=
  inferInstanceAs (Decidable (_ ≤ _))

/-- With one assignment at most it does not matter where the query starts. -/
theorem activeAssignments_single {riderId : Id} (single : SingleAssignment db riderId)
    (scan : Nat) :
    activeAssignments db riderId scan =
      db.assignments.filter fun row => row.riderUserId == riderId && row.active := by
  have same : (activeAssignments db riderId scan).Perm
      (db.assignments.filter fun row => row.riderUserId == riderId && row.active) :=
    (List.rotate_perm db.assignments scan).filter _
  rw [SingleAssignment] at single
  cases listed : db.assignments.filter fun row => row.riderUserId == riderId && row.active with
  | nil =>
    rw [listed] at same
    exact same.eq_nil
  | cons assignment rest =>
    rw [listed, List.length_cons] at single
    have alone : rest = [] := List.eq_nil_of_length_eq_zero (by omega)
    rw [listed, alone] at same
    rw [alone]
    exact List.perm_singleton.mp same

end SingleAssignments

/-- The status of a lease that corresponds to one of a rider. -/
def corresponding : RiderStatus → LeaseStatus
  | .UP_TO_DATE => .ACTIVE
  | .DELINQUENT => .DELINQUENT
  | .PAID_OFF => .PAID_OFF

/-- The two reports state the same. -/
structure Agree (lease : LeaseSummary) (summary : PaymentSummary) : Prop where
  totalPaid : lease.totalPaid = summary.totalPaid
  pendingFines : lease.pendingFines = summary.fineArrears
  arrears : lease.arrears = summary.arrears
  status : lease.status = corresponding summary.status

variable (rounding : Rounding) (db : Database) (now : Int)

/-- The figures of a rider on a lease do not depend on which report computes them. -/
theorem figures_agree {rider : User} (onLease : rider.riderProfile.any (·.leaseToOwn) = true)
    (single : SingleAssignment db rider.id) (leaseScan summaryScan : Nat)
    (startDate endDate : Option Bound) :
    Agree (toLeaseSummary rounding db now leaseScan startDate endDate rider)
      (summarize rounding db now summaryScan rider) := by
  obtain ⟨profile, given, lease⟩ := (Option.any_eq_true _ _).mp onLease
  have same : activeAssignments db rider.id leaseScan = activeAssignments db rider.id summaryScan :=
    (activeAssignments_single db single leaseScan).trans
      (activeAssignments_single db single summaryScan).symm
  have arrears : (toLeaseSummary rounding db now leaseScan startDate endDate rider).arrears =
      (summarize rounding db now summaryScan rider).arrears := by
    rw [toLeaseSummary_arrears, summarize_arrears, timeArrears, timeArrears, same]
  constructor
  case totalPaid => rfl
  case pendingFines => rfl
  case arrears => exact arrears
  case status =>
    have leased : (rider.riderProfile.map (·.leaseToOwn)).getD false = true := by
      rw [given]
      exact lease
    have leaseStatus : (toLeaseSummary rounding db now leaseScan startDate endDate rider).status =
        if (summarize rounding db now summaryScan rider).totalPaid ≥
            (summarize rounding db now summaryScan rider).leasePrincipal then .PAID_OFF
        else if (toLeaseSummary rounding db now leaseScan startDate endDate rider).arrears > 0 then
          .DELINQUENT
        else .ACTIVE :=
      rfl
    have summaryStatus : (summarize rounding db now summaryScan rider).status =
        if (rider.riderProfile.map (·.leaseToOwn)).getD false &&
            decide ((summarize rounding db now summaryScan rider).totalPaid ≥
              (summarize rounding db now summaryScan rider).leasePrincipal) then .PAID_OFF
        else if (summarize rounding db now summaryScan rider).arrears > 0 then .DELINQUENT
        else .UP_TO_DATE :=
      rfl
    rw [leaseStatus, summaryStatus, arrears, leased, Bool.true_and]
    by_cases paidOff : (summarize rounding db now summaryScan rider).totalPaid ≥
        (summarize rounding db now summaryScan rider).leasePrincipal
    case pos => rw [if_pos paidOff, if_pos (decide_eq_true paidOff)]; rfl
    case neg =>
      have unpaid : ¬ decide ((summarize rounding db now summaryScan rider).totalPaid ≥
          (summarize rounding db now summaryScan rider).leasePrincipal) = true := by
        rwa [decide_eq_true_eq]
      rw [if_neg paidOff, if_neg unpaid]
      split
      case isTrue => rfl
      case isFalse => rfl

/-- The days that a rider has paid for at the agreed rate. -/
def daysPaidFor (rider : User) : Int :=
  let assignedRate := (rider.riderProfile.map (·.assignedRate)).getD (dailyRate rider)
  if 0 < assignedRate then ⌊rounding (riderTotal rounding db dailyAmount rider.id / assignedRate)⌋ else 0

/-- The next payment is due on a day that is a date: today without a bike, and otherwise
one day after those that are paid for. -/
def DueOnDate (rider : User) : Prop :=
  match db.assignments.find? fun row => row.riderUserId == rider.id && row.active with
  | none => |now| ≤ maxTime
  | some assignment =>
    |assignment.assignedAt + (daysPaidFor rounding db rider + 1) * millisPerDay| ≤ maxTime

theorem dueOnDate_iff {rider : User} (single : SingleAssignment db rider.id) (scan : Nat) :
    |(summarize rounding db now scan rider).nextDueAt| ≤ maxTime ↔ DueOnDate rounding db now rider := by
  rw [DueOnDate, daysPaidFor, ← daily_sum, ← List.head?_filter,
    ← activeAssignments_single db single scan, summarize]
  cases (activeAssignments db rider.id scan).head? with
  | none => exact Iff.rfl
  | some assignment => exact Iff.rfl

variable (user : AuthenticatedUser)

/-- Both reports tell of the rider, and they agree. -/
def Reported (rider : User) (leaseScan summaryScan : Nat) (startDate endDate : Option Bound) :
    Prop :=
  ∃ lease summary,
    (getLeases rounding db now leaseScan user startDate endDate).filter (fun lease =>
        decide (lease.id = rider.id)) = [lease] ∧
      getRiderPaymentSummary rounding db now summaryScan ⟨rider.id, rider.fleetId⟩ = .ok summary ∧
      Agree lease summary

/-- The list of leases has one row for a rider on a lease. -/
theorem lease_listed {rider : User} (listed : rider ∈ leaseRiders db user) (scan : Nat)
    (startDate endDate : Option Bound) :
    (getLeases rounding db now scan user startDate endDate).filter
        (fun lease => decide (lease.id = rider.id)) =
      [toLeaseSummary rounding db now scan startDate endDate rider] := by
  have unique : ((leaseRiders db user).map (·.id)).Nodup :=
    db.known.sublist (List.filter_sublist.map _)
  have alone := filter_key_eq unique listed
  rw [getLeases, List.filter_map]
  exact congrArg (List.map _) alone

/-- The fleet and a rider on a lease with at most one bike read the same figures and
corresponding statuses exactly if the next payment is due on a date. -/
theorem reports_agree_iff {rider : User} (listed : rider ∈ leaseRiders db user)
    (single : SingleAssignment db rider.id) (leaseScan summaryScan : Nat)
    (startDate endDate : Option Bound) :
    Reported rounding db now user rider leaseScan summaryScan startDate endDate ↔
      DueOnDate rounding db now rider := by
  obtain ⟨stored, chosen⟩ := List.mem_filter.mp listed
  have onLease : rider.riderProfile.any (·.leaseToOwn) = true := by
    rw [Bool.and_eq_true] at chosen
    exact chosen.2
  have found : db.users.find? (fun row => row.id == rider.id) = some rider :=
    (find?_key_iff db.known).mpr ⟨stored, rfl⟩
  have due := dueOnDate_iff rounding db now single summaryScan
  constructor
  case mp =>
    rintro ⟨lease, summary, -, answered, -⟩
    rw [getRiderPaymentSummary, found] at answered
    dsimp only at answered
    split at answered
    case isTrue inTime => exact due.mp inTime
    case isFalse => cases answered
  case mpr =>
    intro onDate
    refine ⟨_, summarize rounding db now summaryScan rider,
      lease_listed rounding db now user listed leaseScan startDate endDate, ?_,
      figures_agree rounding db now onLease single leaseScan summaryScan startDate endDate⟩
    rw [getRiderPaymentSummary, found]
    exact if_pos (due.mpr onDate)

section Samples

/-- A rider on a lease at an agreed rate. -/
def leaseRider (assignedRate : Int) : User where
  id := "rider"
  fleetId := "fleet"
  role := .RIDER
  email := none
  phone := some "0788000001"
  status := "ACTIVE"
  createdAt := 0
  riderProfile := some
    { fullName := "Rider", licenceNumber := none, identityNumber := none, passportPhoto := none,
      licencePhoto := none, identityCardPhoto := none, leaseToOwn := true,
      leasePrincipal := 2500000, leaseDownPayment := 0, leaseDailyRate := 15000,
      paymentSchedule := "DAILY", assignedRate, customScheduleDays := none }

def leasedBike : Bike where
  id := "bike"
  fleetId := "fleet"
  label := "Bike"
  plate := none
  serial := none
  model := none
  insurerName := none
  status := .ACTIVE
  imageUrl := none
  type := none
  leaseToOwn := true
  createdAt := 0
  updatedAt := 0

/-- The rider's account since a day in June, with one payment. -/
def leaseAccount (assignedRate : Int) (amount : ℚ) : Database where
  users := [leaseRider assignedRate]
  known := List.nodup_singleton _
  bikes := [leasedBike]
  commands := []
  assignments := [⟨"assignment", "fleet", "bike", "rider", 1_780_272_000_000, none, true⟩]
  fines := []
  ledger := Ledger.create ⟨[], List.nodup_nil⟩
    ⟨0, "fleet", "rider", amount, 1_780_300_800_000, .CASH, .PAID, none, none, false, none, .manual⟩

theorem reports_agree_iff_daily :
    Reported .double (leaseAccount 15000 30000) 1_780_531_200_000 ⟨"owner", "fleet"⟩
        (leaseRider 15000) 0 0 none none ↔
      DueOnDate .double (leaseAccount 15000 30000) 1_780_531_200_000 (leaseRider 15000) :=
  reports_agree_iff _ _ _ _ (List.mem_filter.mpr ⟨List.mem_singleton_self _, by decide +kernel⟩)
    (by decide +kernel) 0 0 none none

/-- At one franc a day a payment of 99,999,999 francs reaches beyond the last date. -/
theorem summary_fails_far_ahead :
    ¬ ∀ db now user rider leaseScan summaryScan startDate endDate,
      rider ∈ leaseRiders db user → SingleAssignment db rider.id →
        Reported .double db now user rider leaseScan summaryScan startDate endDate := by
  intro claim
  obtain ⟨_, summary, -, answered, -⟩ := claim (leaseAccount 1 99999999) 1_780_531_200_000
    ⟨"owner", "fleet"⟩ (leaseRider 1) 0 0 none none
    (List.mem_filter.mpr ⟨List.mem_singleton_self _, by decide +kernel⟩) (by decide +kernel)
  have failed : (getRiderPaymentSummary .double (leaseAccount 1 99999999) 1_780_531_200_000 0
      ⟨(leaseRider 1).id, (leaseRider 1).fleetId⟩).isOk = false := by
    decide +kernel
  rw [answered] at failed
  cases failed

end Samples

end EmotoFleet.Financials
