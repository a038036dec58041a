import EmotoFleet.Financials.PaymentSchedules

/-!
# The numbers of a rider's summary

The summary divides by the agreed rate, which it checks, and takes a remainder by the amount of
a period, which it does not check. Rates, the principal, the days of a custom schedule and
fines are stored as they are given, so they may be zero or negative, and the days until the
next payment are counted on below zero.
-/

namespace EmotoFleet.Financials

open Access (Id User RiderProfile BikeAssignment millisPerDay)
open Doubles (Rounding)

/-- No amount and no count of a summary is negative, and all of them are numbers. -/
structure PaymentSummary.Nonnegative (summary : PaymentSummary) : Prop where
  leasePrincipal : 0 ≤ summary.leasePrincipal
  leaseDailyRate : 0 ≤ summary.leaseDailyRate
  assignedRate : 0 ≤ summary.assignedRate
  customScheduleDays : ∀ days ∈ summary.customScheduleDays, 0 ≤ days
  schedulePeriodDays : 0 ≤ summary.schedulePeriodDays
  requiredPeriodAmount : 0 ≤ summary.requiredPeriodAmount
  requiredTotalAmount : 0 ≤ summary.requiredTotalAmount
  remainingLeaseBalance : 0 ≤ summary.remainingLeaseBalance
  remainingPeriodAmount : ∃ amount, summary.remainingPeriodAmount = some amount ∧ 0 ≤ amount
  timeArrears : 0 ≤ summary.timeArrears
  fineArrears : 0 ≤ summary.fineArrears
  daysInArrears : 0 ≤ summary.daysInArrears
  daysUntilDue : 0 ≤ summary.daysUntilDue
  totalPaid : 0 ≤ summary.totalPaid
  expectedPaid : 0 ≤ summary.expectedPaid
  arrears : 0 ≤ summary.arrears
  recentPayments : ∀ row ∈ summary.recentPayments, 0 ≤ row.amount

section Numbers

variable (rounding : Rounding) (db : Database) (now : Int) (scan : Nat)

/-- Nothing is divided by zero on the way to a summary, and a summary that is returned has
only numbers from zero on. -/
structure ArithmeticDefined (user : AuthenticatedUser) : Prop where
  divided : ∀ rider, db.users.find? (fun row => row.id == user.id) = some rider →
    (summarize rounding db now scan rider).remainingPeriodAmount ≠ none
  returned : ∀ summary, getRiderPaymentSummary rounding db now scan user = .ok summary →
    summary.Nonnegative

variable (rider : User)

def leasePrincipal : Int := (rider.riderProfile.map (·.leasePrincipal)).getD 2500000

/-- The twenty latest rows of the rider. -/
def recentRows : List RiderPayment :=
  (Access.latestFirst (·.paidAt) (db.ledger.rows.filter fun row => row.riderId == rider.id)).take 20

/-- The terms of the rider, the fines and the payments are not negative, the agreed rate is
positive, and the daily payments divided by it reach the whole days with the bike but one. -/
structure SoundAccount : Prop where
  principal : 0 ≤ leasePrincipal rider
  daily : 0 ≤ dailyRate rider
  agreed : 0 < agreedRate rider
  custom : ∀ days ∈ rider.riderProfile.bind (·.customScheduleDays), 0 ≤ days
  fines : 0 ≤ finesPending rounding db rider.id
  paid : 0 ≤ riderTotal rounding db paidAmount rider.id
  recent : ∀ row ∈ recentRows db rider, 0 ≤ row.amount
  onTime : ∀ assignment, (activeAssignments db rider.id scan).head? = some assignment →
    (((now - assignment.assignedAt) / millisPerDay - 1 : Int) : ℚ) ≤
      rounding (riderTotal rounding db dailyAmount rider.id / agreedRate rider)

/-- The agreed rate is not zero, and if the next due day is a date, the account is sound. -/
def HasNumbers : Prop :=
  agreedRate rider ≠ 0 ∧
    (SpellsDate rider rounding db now scan → SoundAccount rounding db now scan rider)

end Numbers

section Figures

variable {rounding : Rounding} {db : Database} {now : Int} {scan : Nat} {rider : User}

theorem remainder_eq_none {left right : ℚ} : remainder left right = none ↔ right = 0 := by
  rw [remainder]
  split
  case isTrue zero => simp [zero]
  case isFalse nonzero => simp [nonzero]

theorem requiredPeriodAmount_eq_zero : requiredPeriodAmount rider = 0 ↔ agreedRate rider = 0 := by
  have period := one_le_schedulePeriodDays rider
  rw [requiredPeriodAmount, mul_eq_zero, or_iff_left (by omega)]

/-- The remainder of the payments by the amount of a period. -/
theorem summarize_remainingPeriodAmount :
    (summarize rounding db now scan rider).remainingPeriodAmount =
      (remainder (riderTotal rounding db dailyAmount rider.id)
        (rounding (requiredPeriodAmount rider))).map
          fun progress => max 0 (rounding (rounding (requiredPeriodAmount rider) - progress)) := by
  rw [← daily_sum, requiredPeriodAmount, Int.cast_mul]
  rfl

theorem divided_iff :
    (summarize rounding db now scan rider).remainingPeriodAmount ≠ none ↔ agreedRate rider ≠ 0 := by
  rw [summarize_remainingPeriodAmount, ne_eq, Option.map_eq_none_iff, remainder_eq_none,
    rounding.round_eq_zero_iff, requiredPeriodAmount_eq_zero]

theorem summarize_expectedPaid :
    (summarize rounding db now scan rider).expectedPaid =
      (activeAssignments db rider.id scan).head?.elim 0 (expectedSince rounding db now rider) := by
  rw [summarize]
  cases (activeAssignments db rider.id scan).head? with
  | none => rfl
  | some assignment => rfl

theorem summarize_daysUntilDue :
    (summarize rounding db now scan rider).daysUntilDue =
      (activeAssignments db rider.id scan).head?.elim 0 fun assignment =>
        ⌈((dueAt rounding db rider assignment - now : Int) : ℚ) / millisPerDay⌉ := by
  cases first : (activeAssignments db rider.id scan).head? with
  | none =>
    have none : (summarize rounding db now scan rider).daysUntilDue = 0 := by
      rw [summarize, first]
      rfl
    exact none
  | some assignment =>
    have due : (summarize rounding db now scan rider).daysUntilDue =
        ⌈(((summarize rounding db now scan rider).nextDueAt - now : Int) : ℚ) / millisPerDay⌉ := by
      rw [summarize, first]
      rfl
    rw [due, summarize_nextDueAt first]
    rfl

/-- The next day is due for less than a whole day exactly if all days but one are paid for. -/
theorem onTime_iff (agreed : 0 < agreedRate rider) (assignment : BikeAssignment) :
    0 ≤ ⌈((dueAt rounding db rider assignment - now : Int) : ℚ) / millisPerDay⌉ ↔
      (((now - assignment.assignedAt) / millisPerDay - 1 : Int) : ℚ) ≤
        rounding (riderTotal rounding db dailyAmount rider.id / agreedRate rider) := by
  have day : (0 : ℚ) < millisPerDay := by norm_num [millisPerDay]
  have paidFor : daysPaidFor rounding db rider =
      ⌊rounding (riderTotal rounding db dailyAmount rider.id / agreedRate rider)⌋ :=
    if_pos agreed
  have late : (((0 : Int) : ℚ) - 1 < ((dueAt rounding db rider assignment - now : Int) : ℚ) / millisPerDay) ↔
      -millisPerDay < dueAt rounding db rider assignment - now := by
    rw [Int.cast_zero, zero_sub, lt_div_iff₀ day, neg_one_mul, ← Int.cast_neg, Int.cast_lt]
  have whole : -millisPerDay < dueAt rounding db rider assignment - now ↔
      (now - assignment.assignedAt) / millisPerDay - 1 ≤ daysPaidFor rounding db rider := by
    rw [dueAt]
    simp only [millisPerDay]
    omega
  rw [Int.le_ceil_iff, late, whole, paidFor, Int.le_floor]

theorem daysUntilDue_nonneg_iff (agreed : 0 < agreedRate rider) :
    0 ≤ (summarize rounding db now scan rider).daysUntilDue ↔
      ∀ assignment, (activeAssignments db rider.id scan).head? = some assignment →
        (((now - assignment.assignedAt) / millisPerDay - 1 : Int) : ℚ) ≤
          rounding (riderTotal rounding db dailyAmount rider.id / agreedRate rider) := by
  rw [summarize_daysUntilDue]
  cases (activeAssignments db rider.id scan).head? with
  | none => simp
  | some assignment =>
    rw [Option.elim_some, onTime_iff agreed]
    constructor
    · rintro onTime _ same
      rwa [← Option.some.inj same]
    · intro onTime
      exact onTime assignment rfl

end Figures

section Accounts

variable {rounding : Rounding} {db : Database} {now : Int} {scan : Nat} {rider : User}

theorem SoundAccount.expectedPaid (sound : SoundAccount rounding db now scan rider) :
    0 ≤ (summarize rounding db now scan rider).expectedPaid := by
  rw [summarize_expectedPaid]
  cases (activeAssignments db rider.id scan).head? with
  | none => exact le_refl 0
  | some assignment =>
    rw [Option.elim_some, expectedSince]
    split
    case isTrue => exact le_refl 0
    case isFalse =>
      have days : 0 ≤ daysSince now assignment.assignedAt := le_max_left _ _
      exact rounding.round_nonneg (by exact_mod_cast mul_nonneg days sound.daily)

theorem SoundAccount.arrears (sound : SoundAccount rounding db now scan rider) :
    0 ≤ (summarize rounding db now scan rider).arrears := by
  rw [summarize_arrears]
  exact rounding.round_nonneg (add_nonneg (timeArrears_nonneg rounding db now scan rider) sound.fines)

theorem SoundAccount.requiredPeriodAmount (sound : SoundAccount rounding db now scan rider) :
    0 < Financials.requiredPeriodAmount rider :=
  mul_pos sound.agreed (by have := one_le_schedulePeriodDays rider; omega)

/-- The summary of a sound account. -/
theorem SoundAccount.nonnegative (sound : SoundAccount rounding db now scan rider) :
    (summarize rounding db now scan rider).Nonnegative := by
  have required : 0 < rounding (Financials.requiredPeriodAmount rider) :=
    rounding.round_pos sound.requiredPeriodAmount
  have asked : 0 ≤ (summarize rounding db now scan rider).requiredPeriodAmount :=
    (summarize_requiredPeriodAmount rider rounding db now scan).1 ▸ required.le
  have time : 0 ≤ (summarize rounding db now scan rider).timeArrears := by
    rw [summarize_timeArrears]
    exact le_max_left _ _
  constructor
  case leasePrincipal => exact sound.principal
  case leaseDailyRate => exact sound.daily
  case assignedRate => exact sound.agreed.le
  case customScheduleDays => exact sound.custom
  case schedulePeriodDays => exact (zero_le_one).trans (one_le_schedulePeriodDays rider)
  case requiredPeriodAmount => exact asked
  case requiredTotalAmount => exact rounding.round_nonneg (add_nonneg asked sound.arrears)
  case remainingLeaseBalance =>
    rw [summarize_balance]
    split
    case isTrue => exact le_max_left _ _
    case isFalse => exact le_refl 0
  case remainingPeriodAmount =>
    have number : remainder (riderTotal rounding db dailyAmount rider.id)
        (rounding (Financials.requiredPeriodAmount rider)) ≠ none := by
      rw [ne_eq, remainder_eq_none]
      exact required.ne'
    obtain ⟨progress, found⟩ := Option.ne_none_iff_exists'.mp number
    rw [summarize_remainingPeriodAmount, found]
    exact ⟨_, rfl, le_max_left _ _⟩
  case timeArrears => exact time
  case fineArrears => exact sound.fines
  case daysInArrears =>
    have days : (summarize rounding db now scan rider).daysInArrears =
        if agreedRate rider > 0 then
          ⌈rounding ((summarize rounding db now scan rider).timeArrears / agreedRate rider)⌉
        else 0 := rfl
    rw [days, if_pos sound.agreed]
    have rate : (0 : ℚ) < agreedRate rider := Int.cast_pos.mpr sound.agreed
    exact Int.ceil_nonneg (rounding.round_nonneg (div_nonneg time rate.le))
  case daysUntilDue => exact (daysUntilDue_nonneg_iff sound.agreed).mpr sound.onTime
  case totalPaid =>
    rw [summarize_totalPaid]
    exact sound.paid
  case expectedPaid => exact sound.expectedPaid
  case arrears => exact sound.arrears
  case recentPayments => exact sound.recent

/-- An account whose summary has only numbers from zero on is sound. -/
theorem soundAccount_of_nonnegative (nonzero : agreedRate rider ≠ 0)
    (nonnegative : (summarize rounding db now scan rider).Nonnegative) : SoundAccount rounding db now scan rider := by
  have agreed : 0 < agreedRate rider := lt_of_le_of_ne nonnegative.assignedRate nonzero.symm
  constructor
  case principal => exact nonnegative.leasePrincipal
  case daily => exact nonnegative.leaseDailyRate
  case agreed => exact agreed
  case custom => exact nonnegative.customScheduleDays
  case fines => exact nonnegative.fineArrears
  case paid =>
    have paid := nonnegative.totalPaid
    rwa [summarize_totalPaid] at paid
  case recent => exact nonnegative.recentPayments
  case onTime => exact (daysUntilDue_nonneg_iff agreed).mp nonnegative.daysUntilDue

/-- However a summary rounds, its arithmetic is defined, and its numbers are not negative,
exactly for a rider whose account has them. -/
theorem arithmetic_defined_iff (rounding : Rounding) (db : Database) (now : Int) (scan : Nat)
    (user : AuthenticatedUser) :
    ArithmeticDefined rounding db now scan user ↔
      ∀ rider, db.users.find? (fun row => row.id == user.id) = some rider →
        HasNumbers rounding db now scan rider := by
  constructor
  · intro defined rider found
    have nonzero := divided_iff.mp (defined.divided rider found)
    refine ⟨nonzero, fun onDate => soundAccount_of_nonnegative nonzero ?_⟩
    apply defined.returned
    rw [getRiderPaymentSummary, found]
    exact if_pos ((spellsDate_iff scan).mpr onDate)
  · intro numbers
    constructor
    case divided => exact fun rider found => divided_iff.mpr (numbers rider found).1
    case returned =>
      intro summary answered
      rw [getRiderPaymentSummary] at answered
      split at answered
      case h_1 => cases answered
      case h_2 rider found =>
        dsimp only at answered
        split at answered
        case isFalse => cases answered
        case isTrue onDate =>
          cases answered
          exact ((numbers rider found).2 ((spellsDate_iff scan).mp onDate)).nonnegative

end Accounts

/-! ## A rider without a rate -/

/-- The agreed rate may be zero: a new rider on a lease has to have a daily rate only. -/
def freeRider : User :=
  { leaseRider 15000 with riderProfile := some { leaseProfile with assignedRate := 0 } }

theorem freeRider_no_number :
    (getRiderPaymentSummary .double (firstDay freeRider 0) millisPerDay 0 ⟨"rider", "fleet"⟩).toOption.map
        (·.remainingPeriodAmount) = some none ∧
      ¬ ArithmeticDefined .double (firstDay freeRider 0) millisPerDay 0 ⟨"rider", "fleet"⟩ := by
  have number : (summarize .double (firstDay freeRider 0) millisPerDay 0 freeRider).remainingPeriodAmount =
      none := by decide +kernel
  exact ⟨by decide +kernel, fun defined => defined.divided freeRider (by decide +kernel) number⟩

end EmotoFleet.Financials
