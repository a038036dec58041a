import EmotoFleet.Financials.Arrears

/-!
# A lease and its price

The arrears of a lease grow with every day of the current assignment, and what is left of
the price falls with every payment. Neither report compares the two. The daily payments are
held against the days, all payments with the deposit against the price, so that the days go
on being asked for after the price is paid. Payments with fractions of a franc may also miss a
whole amount by a little when they are added up in double precision.

The day on which the next payment is due comes from the agreed rate of the profile, not from
the daily rate that the arrears are counted at.
-/

namespace EmotoFleet.Financials

open Access (Id User RiderProfile BikeAssignment millisPerDay)
open Doubles (Rounding)
open Tables

section Price

variable (rounding : Rounding) (db : Database) (now : Int) (rider : User) (profile : RiderProfile)

/-- The end of the day after those that the rider has paid for. -/
def dueAt (assignment : BikeAssignment) : Int :=
  assignment.assignedAt + (daysPaidFor rounding db rider + 1) * millisPerDay

/-- The rider has the bike of the assignment. -/
def Assigned (assignment : BikeAssignment) : Prop :=
  assignment ∈ db.assignments ∧ assignment.riderUserId = rider.id ∧ assignment.active = true

/-- Whatever either report tells of the rider, the arrears before fines are at most what is
left of the price, and a lease that is paid off gives no warning without fines. -/
structure PriceKept : Prop where
  leases : ∀ scan user startDate endDate,
    ∀ lease ∈ getLeases rounding db now scan user startDate endDate, lease.id = rider.id →
      timeArrears rounding db now scan rider ≤
        max 0 (rounding (profile.leasePrincipal - lease.totalPaid))
  summary : ∀ scan user summary, user.id = rider.id →
    getRiderPaymentSummary rounding db now scan user = .ok summary →
      summary.timeArrears ≤ summary.remainingLeaseBalance ∧
        timeArrears rounding db now scan rider ≤ summary.remainingLeaseBalance
  warning : ∀ scan user summary, user.id = rider.id →
    getRiderPaymentSummary rounding db now scan user = .ok summary →
      summary.status = .PAID_OFF → summary.fineArrears = 0 → summary.isWarningActive = false

/-- The daily payments cover what was expected, or this and all payments are within the price
and the daily payments, or they exceed them by less than rounding tells apart. -/
def Covers (expected : ℚ) : Prop :=
  let daily := riderTotal rounding db dailyAmount rider.id
  let paid := riderTotal rounding db paidAmount rider.id
  expected ≤ daily ∨ expected + paid ≤ profile.leasePrincipal + daily ∨
    rounding (expected - daily) = rounding (profile.leasePrincipal - paid)

/-- The days of every assignment are covered; and once the price is paid without fines, the
next day is not due yet or is no date. -/
structure WithinPrice : Prop where
  asked : ∀ assignment, Assigned db rider assignment →
    Covers rounding db rider profile (expectedSince rounding db now rider assignment)
  due : ∀ assignment, Assigned db rider assignment →
    profile.leasePrincipal ≤ riderTotal rounding db paidAmount rider.id →
      finesPending rounding db rider.id = 0 →
        now < dueAt rounding db rider assignment ∨ maxTime < |dueAt rounding db rider assignment|

end Price

section Figures

variable {rounding : Rounding} {db : Database} {now : Int} {rider : User} {profile : RiderProfile}

/-- Every bike that the rider has is the first one of some scan. -/
theorem assigned_iff {assignment : BikeAssignment} :
    Assigned db rider assignment ↔
      ∃ scan, (activeAssignments db rider.id scan).head? = some assignment := by
  constructor
  case mp =>
    rintro ⟨stored, own, active⟩
    obtain ⟨before, after, split⟩ := List.append_of_mem stored
    refine ⟨before.length, ?_⟩
    rw [activeAssignments, split, List.rotate_append_length_eq, List.cons_append,
      List.filter_cons_of_pos (by simp [own, active]), List.head?_cons]
  case mpr =>
    rintro ⟨scan, first⟩
    exact (mem_activeAssignments scan).mp (List.mem_of_mem_head? first)

/-- What is asked beyond the daily payments is left of the price exactly if it is covered. -/
theorem arrears_le_balance_iff {expected : ℚ} (fixed : rounding expected = expected) :
    max 0 (rounding (expected - riderTotal rounding db dailyAmount rider.id)) ≤
        max 0 (rounding (profile.leasePrincipal - riderTotal rounding db paidAmount rider.id)) ↔
      Covers rounding db rider profile expected := by
  rw [max_le_iff, and_iff_right (le_max_left _ _), le_max_iff,
    rounding.round_sub_nonpos_iff fixed (riderTotal_again _ _ _ _), Covers]
  refine or_congr Iff.rfl ?_
  constructor
  case mp =>
    intro within
    rcases le_or_gt (expected + riderTotal rounding db paidAmount rider.id)
      (profile.leasePrincipal + riderTotal rounding db dailyAmount rider.id) with le | beyond
    case inl => exact .inl le
    case inr => exact .inr (le_antisymm within (rounding.mono (by linarith)))
  case mpr =>
    rintro (le | same)
    case inl => exact rounding.mono (by linarith)
    case inr => exact same.le

/-! The figures of the summary -/

theorem summarize_timeArrears (scan : Nat) :
    (summarize rounding db now scan rider).timeArrears =
      max 0 (rounding
        ((activeAssignments db rider.id scan).head?.elim 0 (expectedSince rounding db now rider) -
          riderTotal rounding db dailyAmount rider.id)) := by
  rw [← daily_sum, summarize]
  cases (activeAssignments db rider.id scan).head? with
  | none => rfl
  | some assignment => rfl

theorem summarize_nextDueAt {scan : Nat} {assignment : BikeAssignment}
    (first : (activeAssignments db rider.id scan).head? = some assignment) :
    (summarize rounding db now scan rider).nextDueAt = dueAt rounding db rider assignment := by
  rw [dueAt, daysPaidFor, ← daily_sum, summarize, first]
  rfl

/-- Without arrears the summary warns exactly of a bike whose next day is due. -/
theorem summarize_isWarningActive {scan : Nat}
    (settled : (summarize rounding db now scan rider).arrears = 0) :
    (summarize rounding db now scan rider).isWarningActive = true ↔
      ∃ assignment, (activeAssignments db rider.id scan).head? = some assignment ∧
        dueAt rounding db rider assignment ≤ now := by
  have warns : (summarize rounding db now scan rider).isWarningActive =
      (decide ((summarize rounding db now scan rider).arrears > 0) ||
        (summarize rounding db now scan rider).isPeriodOver) :=
    rfl
  have quiet : decide ((summarize rounding db now scan rider).arrears > 0) = false :=
    decide_eq_false (by rw [settled]; exact lt_irrefl 0)
  rw [warns, quiet, Bool.false_or]
  cases first : (activeAssignments db rider.id scan).head? with
  | none =>
    have period : (summarize rounding db now scan rider).isPeriodOver =
        decide ((summarize rounding db now scan rider).arrears > 0) := by
      rw [summarize, first]
    rw [period, quiet]
    simp
  | some assignment =>
    have period : (summarize rounding db now scan rider).isPeriodOver =
        (decide (⌈(((summarize rounding db now scan rider).nextDueAt - now : Int) : ℚ) / millisPerDay⌉ ≤ 0) ||
          decide ((summarize rounding db now scan rider).arrears > 0)) := by
      rw [summarize, first]
    have day : (0 : ℚ) < millisPerDay := by norm_num [millisPerDay]
    rw [period, quiet, summarize_nextDueAt first, Bool.or_false, decide_eq_true_eq, Int.ceil_le, Int.cast_zero, div_le_iff₀ day, zero_mul,
      ← Int.cast_zero, Int.cast_le]
    constructor
    case mp => exact fun passed => ⟨assignment, rfl, by omega⟩
    case mpr =>
      rintro ⟨_, same, passed⟩
      obtain rfl := Option.some.inj same
      omega

/-! What the reports tell of one rider -/

theorem lease_of_rider (stored : rider ∈ db.users) {scan : Nat} {user : AuthenticatedUser}
    {startDate endDate : Option Bound} {lease : LeaseSummary}
    (listed : lease ∈ getLeases rounding db now scan user startDate endDate) (own : lease.id = rider.id) :
    lease = toLeaseSummary rounding db now scan startDate endDate rider := by
  obtain ⟨other, member, rfl⟩ := List.mem_map.mp listed
  have same : other = rider :=
    List.inj_on_of_nodup_map db.known (List.mem_filter.mp member).1 stored own
  rw [same]

theorem summary_ok_iff (stored : rider ∈ db.users) {scan : Nat} {user : AuthenticatedUser}
    (own : user.id = rider.id) (summary : PaymentSummary) :
    getRiderPaymentSummary rounding db now scan user = .ok summary ↔
      |(summarize rounding db now scan rider).nextDueAt| ≤ maxTime ∧
        summarize rounding db now scan rider = summary := by
  have found : db.users.find? (fun row => row.id == user.id) = some rider :=
    (find?_key_iff db.known).mpr ⟨stored, own.symm⟩
  rw [getRiderPaymentSummary, found]
  dsimp only
  split
  case isTrue inTime => simp [inTime]
  case isFalse late => simp [late]

/-- The arrears of every scan are within the balance exactly if every assignment asks for
no more. -/
theorem timeArrears_within_iff :
    (∀ scan, timeArrears rounding db now scan rider ≤
        max 0 (rounding (profile.leasePrincipal - riderTotal rounding db paidAmount rider.id))) ↔
      ∀ assignment, Assigned db rider assignment →
        Covers rounding db rider profile (expectedSince rounding db now rider assignment) := by
  constructor
  case mp =>
    intro within assignment assigned
    obtain ⟨scan, first⟩ := assigned_iff.mp assigned
    have balance := within scan
    rw [timeArrears, first] at balance
    exact (arrears_le_balance_iff (expectedSince_again _ _ _ _ _)).mp balance
  case mpr =>
    intro asked scan
    rw [timeArrears]
    cases first : (activeAssignments db rider.id scan).head? with
    | none => exact le_max_left _ _
    | some assignment =>
      exact (arrears_le_balance_iff (expectedSince_again _ _ _ _ _)).mpr
        (asked assignment (assigned_iff.mpr ⟨scan, first⟩))

/-- Where no payment is negative, the summary states the arrears of the assignment. -/
theorem summarize_timeArrears_eq (positive : ∀ row ∈ db.ledger.rows, 0 ≤ row.amount) (scan : Nat) :
    (summarize rounding db now scan rider).timeArrears = timeArrears rounding db now scan rider := by
  rw [summarize_timeArrears, timeArrears]
  cases (activeAssignments db rider.id scan).head? with
  | some assignment => rfl
  | none =>
    have paid : 0 ≤ riderTotal rounding db dailyAmount rider.id := daily_nonneg positive rider.id
    exact max_eq_left (rounding.round_nonpos (by rw [Option.elim_none]; linarith))

theorem paidOff_iff (given : rider.riderProfile = some profile)
    (onLease : profile.leaseToOwn = true) (scan : Nat) :
    (summarize rounding db now scan rider).status = .PAID_OFF ↔
      (profile.leasePrincipal : ℚ) ≤ riderTotal rounding db paidAmount rider.id := by
  have status : (summarize rounding db now scan rider).status =
      if (rider.riderProfile.map (·.leaseToOwn)).getD false &&
          decide ((summarize rounding db now scan rider).totalPaid ≥
            ((rider.riderProfile.map (·.leasePrincipal)).getD 2500000 : Int)) then .PAID_OFF
      else if (summarize rounding db now scan rider).arrears > 0 then .DELINQUENT
      else .UP_TO_DATE :=
    rfl
  rw [status, given, Option.map_some, Option.getD_some, onLease, Bool.true_and, Option.map_some,
    Option.getD_some, summarize_totalPaid]
  split
  case isTrue paid => exact iff_of_true rfl (of_decide_eq_true paid)
  case isFalse unpaid =>
    refine iff_of_false ?_ fun paid => unpaid (decide_eq_true paid)
    split
    case isTrue => intro same; cases same
    case isFalse => intro same; cases same

/-- Within the balance, nothing is due of a lease that is paid off without fines. -/
theorem arrears_of_paidOff {scan : Nat}
    (balance : timeArrears rounding db now scan rider ≤
      max 0 (rounding (profile.leasePrincipal - riderTotal rounding db paidAmount rider.id)))
    (paid : (profile.leasePrincipal : ℚ) ≤ riderTotal rounding db paidAmount rider.id)
    (noFines : finesPending rounding db rider.id = 0) : (summarize rounding db now scan rider).arrears = 0 := by
  rw [max_eq_left (rounding.round_nonpos (sub_nonpos.mpr paid))] at balance
  have nothing := le_antisymm balance (timeArrears_nonneg rounding db now scan rider)
  rw [summarize_arrears, noFines, nothing, add_zero, rounding.round_zero]

/-- What the summary says is left of the price. -/
theorem balance_eq (given : rider.riderProfile = some profile)
    (onLease : profile.leaseToOwn = true) (scan : Nat) :
    (summarize rounding db now scan rider).remainingLeaseBalance =
      max 0 (rounding (profile.leasePrincipal - riderTotal rounding db paidAmount rider.id)) := by
  rw [summarize_balance, summarize_totalPaid, given, Option.map_some, Option.getD_some,
    Option.map_some, Option.getD_some, if_pos onLease]

/-- However the reports round, the time arrears of a rider on a lease stay within the price,
and a lease that is paid off is left in peace, exactly if the days that were asked for are
within the price and the next one is not due. -/
theorem price_kept_iff (rounding : Rounding) (stored : rider ∈ db.users) (role : rider.role = .RIDER)
    (given : rider.riderProfile = some profile) (onLease : profile.leaseToOwn = true)
    (positive : ∀ row ∈ db.ledger.rows, 0 ≤ row.amount) :
    PriceKept rounding db now rider profile ↔ WithinPrice rounding db now rider profile := by
  have principal : ∀ scan, (summarize rounding db now scan rider).status = .PAID_OFF ↔
      (profile.leasePrincipal : ℚ) ≤ riderTotal rounding db paidAmount rider.id :=
    fun scan => paidOff_iff given onLease scan
  have owner : rider ∈ leaseRiders db ⟨rider.id, rider.fleetId⟩ :=
    List.mem_filter.mpr ⟨stored, by simp [role, given, onLease]⟩
  constructor
  case mp =>
    intro kept
    have asked := timeArrears_within_iff.mp fun scan => by
      have row := kept.leases scan ⟨rider.id, rider.fleetId⟩ none none _
        (List.mem_map_of_mem owner) rfl
      rw [toLeaseSummary_totalPaid] at row
      exact row
    refine ⟨asked, ?_⟩
    intro assignment assigned paidOff noFines
    by_contra neither
    obtain ⟨passed, onDate⟩ := not_or.mp neither
    obtain ⟨scan, first⟩ := assigned_iff.mp assigned
    have answered : getRiderPaymentSummary rounding db now scan ⟨rider.id, rider.fleetId⟩ =
        .ok (summarize rounding db now scan rider) :=
      (summary_ok_iff stored rfl _).mpr
        ⟨by rw [summarize_nextDueAt first]; exact not_lt.mp onDate, rfl⟩
    have quiet := kept.warning scan _ _ rfl answered ((principal scan).mpr paidOff) noFines
    have settled := arrears_of_paidOff (timeArrears_within_iff.mpr asked scan) paidOff noFines
    have warned := (summarize_isWarningActive settled).mpr ⟨assignment, first, not_lt.mp passed⟩
    rw [warned] at quiet
    cases quiet
  case mpr =>
    intro within
    have balance := timeArrears_within_iff.mpr within.asked
    constructor
    case leases =>
      intro scan user startDate endDate lease listed own
      rw [lease_of_rider stored listed own, toLeaseSummary_totalPaid]
      exact balance scan
    case summary =>
      intro scan user summary own answered
      obtain ⟨_, rfl⟩ := (summary_ok_iff stored own summary).mp answered
      rw [summarize_timeArrears_eq positive, balance_eq given onLease]
      exact ⟨balance scan, balance scan⟩
    case warning =>
      intro scan user summary own answered paidOff noFines
      obtain ⟨onDate, rfl⟩ := (summary_ok_iff stored own summary).mp answered
      have paid := (principal scan).mp paidOff
      by_contra warned
      obtain ⟨assignment, first, passed⟩ :=
        (summarize_isWarningActive (arrears_of_paidOff (balance scan) paid noFines)).mp
          (Bool.of_not_eq_false warned)
      rw [summarize_nextDueAt first] at onDate
      rcases within.due assignment (assigned_iff.mpr ⟨scan, first⟩) paid noFines with ahead | noDate
      case inl => omega
      case inr => exact absurd onDate (not_le.mpr noDate)

end Figures

section Samples

def leaseProfile : RiderProfile where
  fullName := "Rider"
  licenceNumber := none
  identityNumber := none
  passportPhoto := none
  licencePhoto := none
  identityCardPhoto := none
  leaseToOwn := true
  leasePrincipal := 2500000
  leaseDownPayment := 0
  leaseDailyRate := 15000
  paymentSchedule := "DAILY"
  assignedRate := 15000
  customScheduleDays := none

theorem price_kept_iff_daily :
    PriceKept .double (leaseAccount 15000 30000) 1_780_531_200_000 (leaseRider 15000) leaseProfile ↔
      WithinPrice .double (leaseAccount 15000 30000) 1_780_531_200_000 (leaseRider 15000)
        leaseProfile :=
  price_kept_iff _ (List.mem_singleton_self _) rfl rfl rfl (by decide +kernel)

/-- After 170 days with the bike, 50,000 francs are asked for beyond a price that is paid. -/
theorem asked_beyond_price :
    ¬ ∀ db now rider profile, rider ∈ db.users → rider.role = .RIDER →
      rider.riderProfile = some profile → profile.leaseToOwn = true →
        (∀ row ∈ db.ledger.rows, 0 ≤ row.amount) → PriceKept .double db now rider profile := by
  intro claim
  have kept := claim (leaseAccount 15000 2500000) 1_794_960_000_000 (leaseRider 15000) leaseProfile
    (List.mem_singleton_self _) rfl rfl rfl (by decide +kernel)
  have listed : leaseRider 15000 ∈ leaseRiders (leaseAccount 15000 2500000) ⟨"rider", "fleet"⟩ :=
    List.mem_filter.mpr ⟨List.mem_singleton_self _, by decide +kernel⟩
  have row := kept.leases 0 ⟨"rider", "fleet"⟩ none none _ (List.mem_map_of_mem listed) rfl
  exact absurd row (by decide +kernel)

end Samples

end EmotoFleet.Financials
