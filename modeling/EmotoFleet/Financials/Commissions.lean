import EmotoFleet.Financials.LeaseAgreement
import EmotoFleet.Financials.PaymentRecords

/-!
# Commissions in the accounts of riders

A commission for a delivery is money that the fleet owes to a rider. It is a row of the
same table as the rider's own payments, told apart by its notes only. Both reports sum the
table by status, without a look at the notes: a commission that is paid out counts as a
payment that the rider made. Which rows are counted shows in exact amounts.
-/

namespace EmotoFleet.Financials

open Access (Id User BikeAssignment)
open Doubles (Rounding)
open Runs Tables

/-- Commissions are recorded and paid out. -/
inductive CommissionStep where
  | record (call : Call) (marked : marksCommission (Accounts.given call.dto.notes) = true)
  | payout (user : AuthenticatedUser) (riderId : Id) (now : Int)

/-- A payout that is refused leaves the tables as they were. -/
def payOut (db : Database) (user : AuthenticatedUser) (riderId : Id) (now : Int) : Database :=
  match recordDeliveryPayout db user riderId now with
  | .ok paid => { db with ledger := paid.1 }
  | .error _ => db

def commissionStep (db : Database) : CommissionStep → Database
  | .record call _ => recordByHand db call
  | .payout user riderId now => payOut db user riderId now

/-- A commission after it was paid out. -/
def paidOut (now : Int) (row : RiderPayment) : RiderPayment :=
  { row with status := .PAID, method := .MOBILE_MONEY, paidAt := now }

/-- What a rider's account says in both reports at some instant. -/
structure SameFigures (now : Int) (scan : Nat) (startDate endDate : Option Bound) (rider : User)
    (db next : Database) : Prop where
  leasePaid : (toLeaseSummary .exact next now scan startDate endDate rider).totalPaid =
    (toLeaseSummary .exact db now scan startDate endDate rider).totalPaid
  leaseArrears : (toLeaseSummary .exact next now scan startDate endDate rider).arrears =
    (toLeaseSummary .exact db now scan startDate endDate rider).arrears
  leaseBalance :
    (toLeaseSummary .exact next now scan startDate endDate rider).totalPrincipal -
        (toLeaseSummary .exact next now scan startDate endDate rider).totalPaid =
      (toLeaseSummary .exact db now scan startDate endDate rider).totalPrincipal -
        (toLeaseSummary .exact db now scan startDate endDate rider).totalPaid
  paid : (summarize .exact next now scan rider).totalPaid =
    (summarize .exact db now scan rider).totalPaid
  arrears : (summarize .exact next now scan rider).arrears =
    (summarize .exact db now scan rider).arrears
  balance : (summarize .exact next now scan rider).remainingLeaseBalance =
    (summarize .exact db now scan rider).remainingLeaseBalance

section Weights

/-- What a row contributes depends neither on its identity nor on who recorded it, and an
unpaid row contributes nothing. -/
structure Counts (weight : RiderPayment → ℚ) : Prop where
  blind : ∀ row id recordedBy, weight { row with id, recordedBy } = weight row
  unpaid : ∀ row, row.status = .UNPAID → weight row = 0

theorem paidAmount_counts : Counts paidAmount where
  blind := fun _ _ _ => rfl
  unpaid := by
    intro row unpaid
    simp [paidAmount, isPaid, unpaid]

theorem dailyAmount_counts : Counts dailyAmount where
  blind := fun _ _ _ => rfl
  unpaid := by
    intro row unpaid
    simp [dailyAmount, isPaid, unpaid]

/-- What a step adds to a sum over the rows of a rider: a recorded row comes in the place
of the payment of the day, and the unpaid commissions count from now on. -/
def added (weight : RiderPayment → ℚ) (db : Database) (riderId : Id) : CommissionStep → ℚ
  | .record call _ =>
    match checkPayment db call.user call.dto with
    | .error _ => 0
    | .ok (amount, paidAt) =>
      if call.dto.riderId = riderId then
        weight (payment call.user call.dto amount paidAt) -
          (existingPayment db call.user call.dto call.scan paidAt).elim 0 weight
      else 0
  | .payout user paidRider now =>
    if paidRider = riderId then
      ((db.ledger.rows.filter (isUnpaidCommission user paidRider)).map fun row =>
        weight (paidOut now row)).sum
    else 0

variable {weight : RiderPayment → ℚ} (counts : Counts weight) (db : Database) (riderId : Id)
include counts

/-- A recorded payment contributes to the sum of its rider, whatever row it becomes. -/
theorem weight_recorded (user : AuthenticatedUser) (dto : RecordPaymentDto) (amount : ℚ)
    (paidAt : Int) (id : Nat) (recordedBy : Writer) :
    (if ({ payment user dto amount paidAt with id, recordedBy } : RiderPayment).riderId = riderId
      then weight { payment user dto amount paidAt with id, recordedBy } else 0) =
      if dto.riderId = riderId then weight (payment user dto amount paidAt) else 0 := by
  rw [counts.blind]
  rfl

theorem riderTotal_recordByHand (call : Call)
    (marked : marksCommission (Accounts.given call.dto.notes) = true) :
    riderTotal .exact (recordByHand db call) weight riderId =
      riderTotal .exact db weight riderId + added weight db riderId (.record call marked) := by
  rcases recordByHand_cases db call with ⟨refused, unchanged⟩ | ⟨amount, paidAt, accepted, written⟩
  case inl =>
    rw [unchanged, added]
    cases checked : checkPayment db call.user call.dto with
    | error _ => exact (add_zero _).symm
    | ok row => exact absurd ((checkPayment_ok_iff db _ _).mp checked) (refused row.1 row.2)
  case inr =>
    rw [added, (checkPayment_ok_iff db _ _).mpr accepted]
    dsimp only
    rcases written with ⟨existing, found, changed⟩ | ⟨missing, created⟩
    case inl =>
      have sameRider : existing.riderId = call.dto.riderId := by
        have onTheDay := List.find?_some found
        rw [onDay, Bool.and_eq_true, Bool.and_eq_true, beq_iff_eq, beq_iff_eq] at onTheDay
        exact onTheDay.1.2
      rw [changed, found, Option.elim_some, riderTotal_exact, riderTotal_exact]
      have before : (if existing.riderId = riderId then weight existing else 0) =
          if call.dto.riderId = riderId then weight existing else 0 := by
        rw [sameRider]
      refine (sum_updateKey (fun row => if row.riderId = riderId then weight row else 0)
        db.ledger.distinct (existing_stored found)).trans (congrArg _ ?_)
      refine (congrArg₂ (· - ·) (weight_recorded counts riderId call.user call.dto amount paidAt
        existing.id (existing.recordedBy.overwrittenBy _)) before).trans ?_
      split
      case isTrue => rfl
      case isFalse => exact sub_zero 0
    case inr =>
      rw [created, missing, Option.elim_none, sub_zero]
      rw [riderTotal_exact, riderTotal_exact, Ledger.create, List.map_append, List.sum_append, List.map_singleton,
        List.sum_singleton]
      exact congrArg _ (weight_recorded counts riderId call.user call.dto amount paidAt _ _)

omit counts in
/-- A payout pays the unpaid commissions of the rider and touches nothing else. -/
theorem rows_payOut (user : AuthenticatedUser) (paidRider : Id) (now : Int) :
    (payOut db user paidRider now).ledger.rows = db.ledger.rows.map fun row =>
      if isUnpaidCommission user paidRider row then paidOut now row else row := by
  rw [payOut, recordDeliveryPayout]
  cases owed : db.ledger.rows.filter (isUnpaidCommission user paidRider) with
  | nil =>
    have none_ : ∀ row ∈ db.ledger.rows,
        (if isUnpaidCommission user paidRider row then paidOut now row else row) = row := by
      intro row stored
      exact if_neg (List.filter_eq_nil_iff.mp owed row stored)
    exact ((List.map_congr_left none_).trans (List.map_id _)).symm
  | cons first rest =>
    apply List.map_congr_left
    intro row stored
    have same : ((first :: rest).map (·.id)).contains row.id =
        isUnpaidCommission user paidRider row := by
      rw [← owed, Bool.eq_iff_iff, List.contains_iff_mem, List.mem_map]
      constructor
      case mp =>
        rintro ⟨other, listed, sameId⟩
        obtain ⟨otherStored, otherOwed⟩ := List.mem_filter.mp listed
        rw [← eq_of_key_eq db.ledger.distinct otherStored stored sameId]
        exact otherOwed
      case mpr =>
        intro rowOwed
        exact ⟨row, List.mem_filter.mpr ⟨stored, rowOwed⟩, rfl⟩
    show (if ((first :: rest).map (·.id)).contains row.id then _ else _) = _
    rw [same]
    rfl

theorem riderTotal_payOut (user : AuthenticatedUser) (paidRider : Id) (now : Int) :
    riderTotal .exact (payOut db user paidRider now) weight riderId =
      riderTotal .exact db weight riderId + added weight db riderId (.payout user paidRider now) := by
  have each : ∀ row ∈ db.ledger.rows,
      (if (if isUnpaidCommission user paidRider row then paidOut now row else row).riderId = riderId
        then weight (if isUnpaidCommission user paidRider row then paidOut now row else row)
        else 0) =
      (if row.riderId = riderId then weight row else 0) +
        if isUnpaidCommission user paidRider row then
          if paidRider = riderId then weight (paidOut now row) else 0
        else 0 := by
    intro row _
    by_cases owed : isUnpaidCommission user paidRider row = true
    case neg => rw [if_neg owed, if_neg owed, add_zero]
    case pos =>
      rw [if_pos owed, if_pos owed]
      rw [isUnpaidCommission, Bool.and_eq_true, Bool.and_eq_true, Bool.and_eq_true, beq_iff_eq,
        beq_iff_eq, beq_iff_eq] at owed
      obtain ⟨⟨⟨-, sameRider⟩, unpaid⟩, -⟩ := owed
      rw [counts.unpaid row unpaid, ite_self, zero_add, ← sameRider]
      rfl
  have chosen := Rounding.exact.sum_chosen (isUnpaidCommission user paidRider)
    (fun row => if paidRider = riderId then weight (paidOut now row) else 0) db.ledger.rows
  rw [Rounding.exact_sum, Rounding.exact_sum] at chosen
  rw [riderTotal_exact, riderTotal_exact, rows_payOut, List.map_map]
  refine (congrArg List.sum (List.map_congr_left each)).trans ?_
  rw [List.sum_map_add, ← chosen, added]
  refine congrArg _ ?_
  by_cases own : paidRider = riderId
  case pos => simp only [if_pos own]
  case neg => simp [own]

theorem riderTotal_step (step : CommissionStep) :
    riderTotal .exact (commissionStep db step) weight riderId =
      riderTotal .exact db weight riderId + added weight db riderId step := by
  cases step with
  | record call marked => exact riderTotal_recordByHand counts db riderId call marked
  | payout user paidRider now => exact riderTotal_payOut counts db riderId user paidRider now

end Weights

section Figures

variable (now : Int) (scan : Nat) (startDate endDate : Option Bound) (rider : User)

/-- Recording and paying out change payments only. -/
theorem step_tables (db : Database) (step : CommissionStep) :
    ∃ ledger, commissionStep db step = { db with ledger } := by
  cases step with
  | record call marked =>
    rw [commissionStep, recordByHand]
    split
    case h_1 ledger _ => exact ⟨ledger, rfl⟩
    case h_2 => exact ⟨db.ledger, rfl⟩
  | payout user riderId now =>
    rw [commissionStep, payOut]
    split
    case h_1 paid _ => exact ⟨paid.1, rfl⟩
    case h_2 => exact ⟨db.ledger, rfl⟩

/-- Whatever is paid beyond what was expected leaves no arrears. -/
def Covered (db : Database) (extra : ℚ) : Prop :=
  ∀ assignment ∈ (activeAssignments db rider.id scan).head?,
    expectedSince .exact db now rider assignment ≤ riderTotal .exact db dailyAmount rider.id ∧
      expectedSince .exact db now rider assignment ≤
        riderTotal .exact db dailyAmount rider.id + extra

/-- A step counts nothing as paid that was not counted before, and nothing as a daily
payment that matters at the instant. -/
def Harmless (db : Database) (step : CommissionStep) : Prop :=
  added paidAmount db rider.id step = 0 ∧
    (added dailyAmount db rider.id step = 0 ∨
      Covered now scan rider db (added dailyAmount db rider.id step))

theorem max_sub_eq_iff (expected before after : ℚ) :
    max 0 (expected - after) = max 0 (expected - before) ↔
      after = before ∨ expected ≤ before ∧ expected ≤ after := by
  constructor
  case mp =>
    intro same
    by_cases coveredBefore : expected ≤ before
    case pos =>
      rw [max_eq_left (sub_nonpos.mpr coveredBefore)] at same
      exact Or.inr ⟨coveredBefore, sub_nonpos.mp (max_eq_left_iff.mp same)⟩
    case neg =>
      have owed : 0 < expected - before := sub_pos.mpr (not_le.mp coveredBefore)
      rw [max_eq_right owed.le] at same
      cases max_choice 0 (expected - after) with
      | inl zero => exact absurd (zero.symm.trans same) owed.ne
      | inr rest => exact Or.inl (sub_right_inj.mp (rest.symm.trans same))
  case mpr =>
    rintro (rfl | ⟨before, after⟩)
    case inl => rfl
    case inr => rw [max_eq_left (sub_nonpos.mpr before), max_eq_left (sub_nonpos.mpr after)]

theorem timeArrears_same_iff (db : Database) (step : CommissionStep) :
    timeArrears .exact (commissionStep db step) now scan rider =
        timeArrears .exact db now scan rider ↔
      added dailyAmount db rider.id step = 0 ∨
        Covered now scan rider db (added dailyAmount db rider.id step) := by
  have daily := riderTotal_step dailyAmount_counts db rider.id step
  obtain ⟨ledger, written⟩ := step_tables db step
  have assignments : activeAssignments (commissionStep db step) rider.id scan =
      activeAssignments db rider.id scan := by rw [written]; rfl
  have expected : expectedSince .exact (commissionStep db step) now rider =
      expectedSince .exact db now rider := by
    rw [written]
    rfl
  rw [timeArrears, timeArrears, assignments, expected, daily, Covered]
  cases (activeAssignments db rider.id scan).head? with
  | none => exact iff_of_true rfl (Or.inr fun assignment listed => by cases listed)
  | some assignment =>
    rw [Option.elim_some, Option.elim_some, Rounding.exact_apply, Rounding.exact_apply,
      max_sub_eq_iff, add_eq_left]
    refine or_congr_right ⟨fun covered other listed => ?_, fun covered => covered _ rfl⟩
    rw [← Option.some.inj listed]
    exact covered

/-- A step leaves the account of a rider as it is exactly if it is harmless. -/
theorem sameFigures_iff (db : Database) (step : CommissionStep) :
    SameFigures now scan startDate endDate rider db (commissionStep db step) ↔
      Harmless now scan rider db step := by
  have paid := riderTotal_step paidAmount_counts db rider.id step
  have arrears := timeArrears_same_iff now scan rider db step
  obtain ⟨ledger, written⟩ := step_tables db step
  have fines : finesPending .exact (commissionStep db step) rider.id = finesPending .exact db rider.id := by
    rw [written]
    rfl
  constructor
  case mp =>
    intro same
    have samePaid := same.paid
    have sameArrears := same.arrears
    rw [summarize_totalPaid, summarize_totalPaid, paid, add_eq_left] at samePaid
    rw [summarize_arrears, summarize_arrears, fines, Rounding.exact_apply, Rounding.exact_apply,
      add_left_inj] at sameArrears
    exact ⟨samePaid, arrears.mp sameArrears⟩
  case mpr =>
    rintro ⟨nothing, harmless⟩
    rw [nothing, add_zero] at paid
    have sameArrears := arrears.mpr harmless
    constructor
    case leasePaid => rw [toLeaseSummary_totalPaid, toLeaseSummary_totalPaid, paid]
    case leaseArrears =>
      rw [toLeaseSummary_arrears, toLeaseSummary_arrears, sameArrears, fines]
    case leaseBalance =>
      rw [toLeaseSummary_totalPaid, toLeaseSummary_totalPaid, paid]
      rfl
    case paid => rw [summarize_totalPaid, summarize_totalPaid, paid]
    case arrears => rw [summarize_arrears, summarize_arrears, sameArrears, fines]
    case balance =>
      rw [summarize_balance, summarize_balance, summarize_totalPaid, summarize_totalPaid, paid]

/-- Commissions that are recorded and paid out leave the account of a rider as it is in
both reports exactly if every step is harmless. -/
theorem commissions_harmless_iff (db : Database) (steps : List CommissionStep) :
    Along (fun db step => some (commissionStep db step))
        (fun db _ next => SameFigures now scan startDate endDate rider db next) db steps ↔
      Along (fun db step => some (commissionStep db step))
        (fun db step _ => Harmless now scan rider db step) db steps := by
  apply along_congr
  rintro db step _ ⟨⟩
  exact sameFigures_iff now scan startDate endDate rider db step

end Figures

section Samples

/-- Five thousand that the fleet owes for a delivery. -/
def deliveryCommission : Call where
  user := ⟨"owner", "fleet"⟩
  dto := ⟨"rider", 5000, some 1_780_473_600_000, .MOBILE_MONEY, .UNPAID, none,
    some "Delivery Commission 17", none, none, by norm_num⟩
  scan := 0

/-- A commission that is recorded and paid out counts as paid by the rider. -/
theorem commission_counted_as_payment :
    ¬ ∀ now scan startDate endDate rider db steps,
      Along (fun db step => some (commissionStep db step))
        (fun db _ next => SameFigures now scan startDate endDate rider db next) db steps := by
  intro claim
  have recorded := claim 1_780_531_200_000 0 none none (leaseRider 15000)
    (leaseAccount 15000 30000)
    [.record deliveryCommission (by decide +kernel),
      .payout ⟨"owner", "fleet"⟩ "rider" 1_780_500_000_000]
  have same := ((recorded _ rfl).2 _ rfl).1
  have harmless := (sameFigures_iff _ _ _ _ _ _ _).mp same
  have counted : added paidAmount
      (commissionStep (leaseAccount 15000 30000) (.record deliveryCommission (by decide +kernel)))
      (leaseRider 15000).id (.payout ⟨"owner", "fleet"⟩ "rider" 1_780_500_000_000) = 5000 := by
    decide +kernel
  exact absurd (counted.symm.trans harmless.1) (by norm_num)

end Samples

end EmotoFleet.Financials
