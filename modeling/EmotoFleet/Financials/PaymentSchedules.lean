import EmotoFleet.Financials.LeasePrice

/-!
# Paying what is asked

The summary asks for an amount at the end of every period of the rider's schedule, at the
agreed rate. What it expects is counted by days and at the daily rate of the lease, whatever
the schedule is.

A rider who pays each period what is asked is up to date at every instant only on a daily
schedule whose agreed rate is at least the daily rate. Even then the payments have to add up:
fractions of a franc may miss a whole amount by a little in double precision. The summary is
given whenever the day on which the next payment is due is a date.
-/

namespace EmotoFleet.Financials

open Access (Id User RiderProfile BikeAssignment millisPerDay)
open Doubles (Rounding)
open Tables

section Schedules

variable (rider : User)

/-- The rate that was agreed, or that of the lease. -/
def agreedRate : Int := (rider.riderProfile.map (·.assignedRate)).getD (dailyRate rider)

/-- The days of a period of the rider's schedule. -/
def schedulePeriodDays : Int :=
  let paymentSchedule := (rider.riderProfile.map (·.paymentSchedule)).getD "DAILY"
  if paymentSchedule = "WEEKLY" then 7
  else if paymentSchedule = "CUSTOM" then
    max 1 ((rider.riderProfile.bind (·.customScheduleDays)).getD 1)
  else 1

/-- A rider pays for a day at least. -/
theorem one_le_schedulePeriodDays : 1 ≤ schedulePeriodDays rider := by
  rw [schedulePeriodDays]
  split_ifs
  case pos => decide
  case pos => exact le_max_left _ _
  case neg => exact le_refl 1

/-- What a rider is asked for at a time. -/
def requiredPeriodAmount : Int := agreedRate rider * schedulePeriodDays rider

variable (rounding : Rounding) (db : Database) (now : Int)

/-- The summary asks for the required amount, rounded. -/
theorem summarize_requiredPeriodAmount (scan : Nat) :
    (summarize rounding db now scan rider).requiredPeriodAmount =
        rounding (requiredPeriodAmount rider) ∧
      (summarize rounding db now scan rider).schedulePeriodDays = schedulePeriodDays rider := by
  refine ⟨?_, rfl⟩
  rw [requiredPeriodAmount, Int.cast_mul]
  rfl

/-- What the rider has paid by an instant, without the deposit. -/
def paidBy (instant : Int) : ℚ :=
  riderTotal .exact db (fun row => if row.paidAt ≤ instant then dailyAmount row else 0) rider.id

/-- At the end of each period that has elapsed since the assignment, the rider has paid at
least the amount of a period for each of them. -/
def PaysAsAsked : Prop :=
  ∀ assignment, Assigned db rider assignment → ∀ periods : Nat, 0 < periods →
    assignment.assignedAt + periods * schedulePeriodDays rider * millisPerDay ≤ now →
      periods * requiredPeriodAmount rider ≤
        paidBy rider db (assignment.assignedAt + periods * schedulePeriodDays rider * millisPerDay)

/-- The rider has no fines to pay. -/
def NoPendingFines : Prop :=
  ∀ fine ∈ db.fines, fine.riderId = rider.id → fine.status ≠ "PENDING"

/-- The day that a summary spells is a date. -/
def SpellsDate (scan : Nat) : Prop :=
  match (activeAssignments db rider.id scan).head? with
  | none => |now| ≤ maxTime
  | some assignment => |dueAt rounding db rider assignment| ≤ maxTime

/-- Rounding does not leave the payments short of the days that they cover. -/
def AddsUp (scan : Nat) : Prop :=
  ∀ assignment ∈ (activeAssignments db rider.id scan).head?,
    expectedSince .exact db now rider assignment ≤ riderTotal .exact db dailyAmount rider.id →
      expectedSince rounding db now rider assignment ≤ riderTotal rounding db dailyAmount rider.id

/-- The summary is given, without arrears, and the rider is not delinquent. -/
def UpToDate (result : Except SummaryError PaymentSummary) : Prop :=
  ∃ summary, result = .ok summary ∧ summary.arrears = 0 ∧ summary.status ≠ .DELINQUENT

/-- A rider who pays as asked and has no pending fines is up to date whenever the payments
add up and the summary has a date to spell. -/
def PayingSuffices : Prop :=
  ∀ (db : Database) (now : Int) (scan : Nat) (user : AuthenticatedUser), user.id = rider.id →
    rider ∈ db.users → (∀ row ∈ db.ledger.rows, 0 ≤ row.amount) → NoPendingFines rider db →
      PaysAsAsked rider db now →
        (UpToDate (getRiderPaymentSummary rounding db now scan user) ↔
          SpellsDate rider rounding db now scan ∧ AddsUp rider rounding db now scan)

/-- Nothing is expected, or every day is asked for and at no lower rate. -/
def AskedIsEnough : Prop :=
  dailyRate rider ≤ 0 ∨ schedulePeriodDays rider = 1 ∧ dailyRate rider ≤ agreedRate rider

/-- The daily rate is stored in a column of 32 bits. -/
def StoredRate : Prop := -2 ^ 31 ≤ dailyRate rider ∧ dailyRate rider < 2 ^ 31

end Schedules

section Suffices

variable {rider : User} {rounding : Rounding} {db : Database} {now : Int}

/-- The next date can be written exactly when it is not beyond the last one. -/
theorem spellsDate_iff (scan : Nat) :
    |(summarize rounding db now scan rider).nextDueAt| ≤ maxTime ↔
      SpellsDate rider rounding db now scan := by
  rw [SpellsDate]
  cases first : (activeAssignments db rider.id scan).head? with
  | none =>
    have today : (summarize rounding db now scan rider).nextDueAt = now := by rw [summarize, first]
    rw [today]
  | some assignment => rw [summarize_nextDueAt first]

/-- Without fines nothing is pending. -/
theorem finesPending_of_none (none : NoPendingFines rider db) : finesPending rounding db rider.id = 0 := by
  have empty : (db.fines.filter fun fine => fine.riderId == rider.id && fine.status == "PENDING") =
      [] := by
    apply List.filter_eq_nil_iff.mpr
    intro fine stored pending
    rw [Bool.and_eq_true, beq_iff_eq, beq_iff_eq] at pending
    exact none fine stored pending.1 pending.2
  rw [finesPending, empty]
  rfl

/-- The payments by an instant are some of all payments. -/
theorem paidBy_le (positive : ∀ row ∈ db.ledger.rows, 0 ≤ row.amount) (instant : Int) :
    paidBy rider db instant ≤ riderTotal .exact db dailyAmount rider.id := by
  rw [paidBy, riderTotal_exact, riderTotal_exact]
  apply List.sum_le_sum
  intro row stored
  have nonneg : 0 ≤ dailyAmount row := by
    rw [dailyAmount]
    split
    case isTrue => exact positive row stored
    case isFalse => exact le_refl 0
  split
  case isFalse => exact le_refl 0
  case isTrue =>
    split
    case isTrue => exact le_refl _
    case isFalse => exact nonneg

/-- Whole days have passed since an instant that is not ahead. -/
theorem days_passed {instant : Int} (passed : 0 < daysSince now instant) :
    instant + daysSince now instant * millisPerDay ≤ now := by
  rw [daysSince] at *
  simp only [millisPerDay] at *
  omega

/-- On a schedule of days at no lower rate, what is expected was paid. -/
theorem expected_le_paid (positive : ∀ row ∈ db.ledger.rows, 0 ≤ row.amount)
    (paid : PaysAsAsked rider db now) (enough : AskedIsEnough rider)
    {assignment : BikeAssignment} (assigned : Assigned db rider assignment) :
    expectedSince .exact db now rider assignment ≤ riderTotal .exact db dailyAmount rider.id := by
  have nonneg : 0 ≤ riderTotal .exact db dailyAmount rider.id := daily_nonneg positive rider.id
  have days : 0 ≤ daysSince now assignment.assignedAt := le_max_left _ _
  rw [expectedSince]
  split
  case isTrue => exact nonneg
  case isFalse =>
    rcases enough with free | ⟨daily, covered⟩
    case inl =>
      have nothing : daysSince now assignment.assignedAt * dailyRate rider ≤ 0 :=
        mul_nonpos_of_nonneg_of_nonpos days free
      calc (daysSince now assignment.assignedAt * dailyRate rider : ℚ)
          ≤ 0 := by exact_mod_cast nothing
        _ ≤ riderTotal .exact db dailyAmount rider.id := nonneg
    case inr =>
      rcases lt_or_ge 0 (daysSince now assignment.assignedAt) with begun | ahead
      case inr =>
        have zero : daysSince now assignment.assignedAt = 0 := le_antisymm ahead days
        rw [zero, Int.cast_zero, zero_mul]
        exact nonneg
      case inl =>
        obtain ⟨periods, whole⟩ := Int.eq_ofNat_of_zero_le days
        have passed := days_passed begun
        rw [whole] at begun passed
        have asked := paid assignment assigned periods (by omega)
          (by rw [daily, mul_one]; exact passed)
        have rates : (periods : Int) * dailyRate rider ≤ periods * requiredPeriodAmount rider := by
          rw [requiredPeriodAmount, daily, mul_one]
          exact mul_le_mul_of_nonneg_left covered (Int.natCast_nonneg periods)
        rw [whole]
        calc ((periods : Int) * dailyRate rider : ℚ)
            ≤ periods * requiredPeriodAmount rider := by exact_mod_cast rates
          _ ≤ _ := asked
          _ ≤ riderTotal .exact db dailyAmount rider.id := paidBy_le positive _

/-- Without arrears no rider is delinquent. -/
theorem status_of_settled {scan : Nat} (settled : (summarize rounding db now scan rider).arrears = 0) :
    (summarize rounding db now scan rider).status ≠ .DELINQUENT := by
  have status : (summarize rounding db now scan rider).status =
      if (rider.riderProfile.map (·.leaseToOwn)).getD false &&
          decide ((summarize rounding db now scan rider).totalPaid ≥
            (summarize rounding db now scan rider).leasePrincipal) then .PAID_OFF
      else if (summarize rounding db now scan rider).arrears > 0 then .DELINQUENT
      else .UP_TO_DATE :=
    rfl
  rw [status, settled, if_neg (lt_irrefl (0 : ℚ))]
  split
  case isTrue => intro same; cases same
  case isFalse => intro same; cases same

/-- Others may not: in double precision these four fall short of sixty thousand francs. -/
example : Rounding.double.sum [15001.73, 14998.51, 15001.02, 14998.74] < 60000 := by decide +kernel

/-- Without fines nothing is due exactly if what was paid covers the days with the bike. -/
theorem settled_iff_covered (noFines : NoPendingFines rider db) (scan : Nat) :
    (summarize rounding db now scan rider).arrears = 0 ↔
      ∀ assignment ∈ (activeAssignments db rider.id scan).head?,
        expectedSince rounding db now rider assignment ≤
          riderTotal rounding db dailyAmount rider.id := by
  rw [summarize_arrears, finesPending_of_none noFines,
    rounding.round_add_eq_zero_iff (timeArrears_again _ _ _ _ _) rounding.round_zero
      (timeArrears_nonneg _ _ _ _ _) (le_refl 0), and_iff_left rfl, timeArrears]
  cases (activeAssignments db rider.id scan).head? with
  | none => simp
  | some assignment =>
    rw [Option.elim_some, left_eq_zero_iff]
    simp

/-- Where the amount that is asked for is enough, paying it leaves no arrears if the payments
add up. -/
theorem suffices_of_enough (enough : AskedIsEnough rider) : PayingSuffices rider rounding := by
  intro db now scan user own stored positive noFines paid
  have settled : (summarize rounding db now scan rider).arrears = 0 ↔
      ∀ assignment ∈ (activeAssignments db rider.id scan).head?,
        expectedSince rounding db now rider assignment ≤
          riderTotal rounding db dailyAmount rider.id := settled_iff_covered noFines scan
  rw [← spellsDate_iff]
  constructor
  case mp =>
    rintro ⟨summary, answered, nothing, _⟩
    obtain ⟨onDate, rfl⟩ := (summary_ok_iff stored own summary).mp answered
    exact ⟨onDate, fun assignment first _ => settled.mp nothing assignment first⟩
  case mpr =>
    rintro ⟨onDate, addsUp⟩
    have nothing := settled.mpr fun assignment first =>
      addsUp assignment first
        (expected_le_paid positive paid enough (assigned_iff.mpr ⟨scan, first⟩))
    exact ⟨_, (summary_ok_iff stored own _).mpr ⟨onDate, rfl⟩, nothing, status_of_settled nothing⟩

end Suffices

/-! ## The first day -/

section FirstDay

variable (rider : User)

/-- The rider has had a bike since the epoch, and has paid an amount, if any, at the end of
the first day. -/
def firstDay (amount : Int) : Database where
  users := [rider]
  known := List.nodup_singleton _
  bikes := []
  commands := []
  assignments := [⟨"assignment", rider.fleetId, "bike", rider.id, 0, none, true⟩]
  fines := []
  ledger :=
    if amount = 0 then ⟨[], List.nodup_nil⟩
    else Ledger.create ⟨[], List.nodup_nil⟩
      ⟨0, rider.fleetId, rider.id, amount, millisPerDay, .CASH, .PAID, none, none, false, none,
        .manual⟩

variable {rider} {rounding : Rounding}

/-- On the first day the total is that of one payment. -/
theorem firstDay_total (weight : RiderPayment → ℚ) (amount : Int) :
    riderTotal rounding (firstDay rider amount) weight rider.id =
      if amount = 0 then 0
      else rounding (rounding (weight ⟨1, rider.fleetId, rider.id, amount, millisPerDay, .CASH, .PAID,
        none, none, false, none, .manual⟩)) := by
  rw [riderTotal, firstDay]
  split
  case isTrue => rfl
  case isFalse =>
    simp only [Ledger.create, List.nil_append, List.map_singleton, if_true, Rounding.sum,
      List.foldl_cons, List.foldl_nil, zero_add]
    rfl

/-- On the first day the rider has paid the amount. -/
theorem firstDay_daily {amount : Int} (small : |amount| < 2 ^ 53) :
    riderTotal rounding (firstDay rider amount) dailyAmount rider.id = amount := by
  rw [firstDay_total]
  split
  case isTrue nothing => rw [nothing, Int.cast_zero]
  case isFalse => rw [rounding.again]; exact rounding.whole small

/-- On the first day the rider has paid the amount by the ledger. -/
theorem firstDay_paidBy (amount : Int) :
    paidBy rider (firstDay rider amount) millisPerDay = amount := by
  rw [paidBy, firstDay_total]
  split
  case isTrue nothing => rw [nothing, Int.cast_zero]
  case isFalse => rfl

/-- The payment of the first day is not negative. -/
theorem firstDay_positive {amount : Int} (nonneg : 0 ≤ amount) :
    ∀ row ∈ (firstDay rider amount).ledger.rows, 0 ≤ row.amount := by
  intro row stored
  rw [firstDay] at stored
  dsimp only at stored
  split at stored
  case isTrue => cases stored
  case isFalse =>
    rw [List.mem_singleton.mp stored]
    exact Int.cast_nonneg nonneg

/-- On the first day nothing was asked for yet, unless a period is a day. -/
theorem firstDay_asked {amount : Int}
    (daily : schedulePeriodDays rider = 1 → agreedRate rider ≤ amount) :
    PaysAsAsked rider (firstDay rider amount) millisPerDay := by
  rintro assignment ⟨stored, _⟩ periods begun elapsed
  obtain rfl := List.mem_singleton.mp stored
  have period := one_le_schedulePeriodDays rider
  have passed : (periods : Int) * schedulePeriodDays rider * millisPerDay ≤ 1 * millisPerDay := by
    rw [one_mul]
    exact le_of_eq_of_le (zero_add _).symm elapsed
  have within : (periods : Int) * schedulePeriodDays rider ≤ 1 :=
    le_of_mul_le_mul_right passed (by decide)
  have least : (1 : Int) * schedulePeriodDays rider ≤ periods * schedulePeriodDays rider :=
    mul_le_mul_of_nonneg_right (by omega) (by omega)
  have single : schedulePeriodDays rider = 1 := by omega
  rw [single, mul_one] at within
  obtain rfl : periods = 1 := by omega
  have asked : (agreedRate rider : ℚ) ≤ amount := Int.cast_le.mpr (daily single)
  rw [requiredPeriodAmount, single]
  simpa [firstDay_paidBy] using asked

/-- On the first day the rider has one bike. -/
theorem firstDay_assignment (amount : Int) (scan : Nat) :
    (activeAssignments (firstDay rider amount) rider.id scan).head? =
      some ⟨"assignment", rider.fleetId, "bike", rider.id, 0, none, true⟩ := by
  simp [activeAssignments, firstDay]

/-- The next day is due on the first or the second day. -/
theorem firstDay_spellsDate {amount : Int} (small : |amount| < 2 ^ 53)
    (once : amount = 0 ∨ amount = agreedRate rider) (scan : Nat) :
    SpellsDate rider rounding (firstDay rider amount) millisPerDay scan := by
  have days : daysPaidFor rounding (firstDay rider amount) rider = 0 ∨
      daysPaidFor rounding (firstDay rider amount) rider = 1 := by
    rw [daysPaidFor, firstDay_daily small]
    change (if 0 < agreedRate rider then ⌊rounding ((amount : ℚ) / agreedRate rider)⌋ else 0) = 0 ∨
      (if 0 < agreedRate rider then ⌊rounding ((amount : ℚ) / agreedRate rider)⌋ else 0) = 1
    split
    case isFalse => exact Or.inl rfl
    case isTrue agreed =>
      rcases once with rfl | rfl
      case inl => exact Or.inl (by simp)
      case inr =>
        have nonzero : (agreedRate rider : ℚ) ≠ 0 := Int.cast_ne_zero.mpr (by omega)
        have one := rounding.whole (n := 1) (by norm_num)
        rw [Int.cast_one] at one
        exact Or.inr (by rw [div_self nonzero, one, Int.floor_one])
  rw [SpellsDate, firstDay_assignment]
  dsimp only
  rw [dueAt]
  rcases days with unpaid | paid
  case inl =>
    rw [unpaid]
    exact (by decide : |(0 : Int) + (0 + 1) * millisPerDay| ≤ maxTime)
  case inr =>
    rw [paid]
    exact (by decide : |(0 : Int) + (1 + 1) * millisPerDay| ≤ maxTime)

/-- On the first day the rider owes one day. -/
theorem firstDay_expected (small : |dailyRate rider| < 2 ^ 53) :
    expectedSince rounding (firstDay rider amount) millisPerDay rider
      ⟨"assignment", rider.fleetId, "bike", rider.id, 0, none, true⟩ = dailyRate rider := by
  have day : daysSince millisPerDay 0 = 1 := by decide
  rw [expectedSince, day, Int.cast_one, one_mul, rounding.whole small]
  rfl

/-- A payment that does not reach the rate adds up, as there is nothing to reach. -/
theorem firstDay_addsUp {amount : Int} (small : |amount| < 2 ^ 53)
    (rate : |dailyRate rider| < 2 ^ 53) (less : amount < dailyRate rider) (scan : Nat) :
    AddsUp rider rounding (firstDay rider amount) millisPerDay scan := by
  intro assignment first covered
  rw [firstDay_assignment, Option.mem_some_iff] at first
  subst first
  rw [firstDay_expected rate, firstDay_daily small, Int.cast_le] at covered
  exact absurd covered (not_le.mpr less)

/-- A rate that is not covered leaves arrears after the first day. -/
theorem firstDay_arrears {amount : Int} (small : |amount| < 2 ^ 53)
    (rate : |dailyRate rider| < 2 ^ 53) (less : amount < dailyRate rider) (scan : Nat) :
    (summarize rounding (firstDay rider amount) millisPerDay scan rider).arrears ≠ 0 := by
  intro nothing
  have covered := (settled_iff_covered (fun _ absent => absurd absent List.not_mem_nil) scan).mp
    nothing _ (firstDay_assignment amount scan)
  rw [firstDay_expected rate, firstDay_daily small, Int.cast_le] at covered
  exact absurd covered (not_le.mpr less)

/-- However the summary rounds, paying what is asked keeps a rider up to date exactly on a daily
schedule that covers the rate of the lease. -/
theorem payingSuffices_iff (rounding : Rounding) {rider : User} (stored : StoredRate rider) :
    PayingSuffices rider rounding ↔ AskedIsEnough rider := by
  constructor
  case mpr => exact suffices_of_enough
  case mp =>
    intro law
    by_contra short
    rw [AskedIsEnough, not_or, not_le, not_and, not_le] at short
    obtain ⟨expected, uncovered⟩ := short
    obtain ⟨_, below⟩ := stored
    -- Only a schedule of days asks for something on the first day.
    obtain ⟨amount, nonneg, asked, once, less⟩ : ∃ amount : Int, 0 ≤ amount ∧
        (schedulePeriodDays rider = 1 → agreedRate rider ≤ amount) ∧
        (amount = 0 ∨ amount = agreedRate rider) ∧ amount < dailyRate rider := by
      by_cases paid : schedulePeriodDays rider = 1 ∧ 0 < agreedRate rider
      case pos =>
        exact ⟨agreedRate rider, le_of_lt paid.2, fun _ => le_refl _, Or.inr rfl,
          uncovered paid.1⟩
      case neg =>
        refine ⟨0, le_refl 0, ?_, Or.inl rfl, expected⟩
        intro daily
        exact not_lt.mp fun agreed => paid ⟨daily, agreed⟩
    have small : |amount| < 2 ^ 53 := abs_lt.mpr ⟨by omega, by omega⟩
    have rate : |dailyRate rider| < 2 ^ 53 := abs_lt.mpr ⟨by omega, by omega⟩
    have upToDate := (law (firstDay rider amount) millisPerDay 0 ⟨rider.id, rider.fleetId⟩ rfl
      (List.mem_singleton_self _) (firstDay_positive nonneg)
      (fun _ absent => absurd absent List.not_mem_nil) (firstDay_asked asked)).mpr
      ⟨firstDay_spellsDate small once 0, firstDay_addsUp small rate less 0⟩
    obtain ⟨summary, answered, settled, _⟩ := upToDate
    obtain ⟨_, rfl⟩ := (summary_ok_iff (List.mem_singleton_self _) rfl summary).mp answered
    exact firstDay_arrears small rate less 0 settled

/-- For a daily rate, paying what is asked suffices exactly when it is enough. -/
theorem payingSuffices_iff_daily :
    PayingSuffices (leaseRider 15000) .double ↔ AskedIsEnough (leaseRider 15000) :=
  payingSuffices_iff .double ⟨by decide, by decide⟩

/-- A rider who is to pay every week is behind after a day. -/
theorem weekly_rider_behind :
    ¬ ∀ (rider : User) (db : Database) (now : Int) (scan : Nat) (user : AuthenticatedUser),
      user.id = rider.id → rider ∈ db.users → (∀ row ∈ db.ledger.rows, 0 ≤ row.amount) →
        NoPendingFines rider db → PaysAsAsked rider db now → SpellsDate rider .double db now scan →
          UpToDate (getRiderPaymentSummary .double db now scan user) := by
  intro claim
  let weekly : User :=
    { leaseRider 15000 with
      riderProfile := some { leaseProfile with paymentSchedule := "WEEKLY" } }
  have period : schedulePeriodDays weekly ≠ 1 := by decide
  obtain ⟨summary, answered, settled, _⟩ := claim weekly (firstDay weekly 0) millisPerDay 0
    ⟨"rider", "fleet"⟩ rfl (List.mem_singleton_self _) (firstDay_positive (le_refl 0))
    (fun _ absent => absurd absent List.not_mem_nil)
    (firstDay_asked fun daily => absurd daily period)
    (firstDay_spellsDate (by norm_num) (Or.inl rfl) 0)
  obtain ⟨_, rfl⟩ := (summary_ok_iff (List.mem_singleton_self _) rfl summary).mp answered
  exact firstDay_arrears (by norm_num) (by decide) (by decide) 0 settled

end FirstDay

end EmotoFleet.Financials
