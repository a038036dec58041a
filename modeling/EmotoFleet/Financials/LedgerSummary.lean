import EmotoFleet.Financials.FinancialsService
import EmotoFleet.Foundations.CivilDates

/-!
# The summary of a fleet and its ledger

The summary reads the rows that were paid, and looks for the overdue and unpaid ones among
them: it finds none and shows the arrears of the leases in their place. The month and the year
of its reference date are those in universal time but begin at midnight of the server's clock,
and they have no end; today is a day in universal time.

The breakdowns add up where no sum of amounts has to be rounded. In double precision others
depend on the order in which they are added, and a breakdown adds them in another one.
-/

namespace EmotoFleet.Financials.Service

open Access (Id User BikeAssignment millisPerDay)
open Access.Insurers (between)
open CivilDates
open Doubles (Rounding toDouble toDouble_zero toDouble_toDouble toDouble_nonneg)

section Calendar

/-! ## The clock of the server -/

/-- A time zone: the midnights of the days, counted from the epoch, and the day of an
instant. A later day never begins earlier. -/
structure ServerZone where
  midnight : Int → Int
  localDay : Int → Int
  ordered : ∀ earlier later, earlier ≤ later → midnight earlier ≤ midnight later

/-- The calendar repeats itself after four hundred years. -/
def daysPerCycle : Int := 146097

/-- The days from the first of January of the year zero to the epoch. -/
def epochDay : Int := 719528

/-- The place of a day in its cycle of 400 years. -/
def dayOfCycle (day : Int) : Nat := ((day + epochDay) % daysPerCycle).toNat

/-- The year of a day. -/
def getFullYear (day : Int) : Int :=
  400 * ((day + epochDay) / daysPerCycle) + (CivilDate.ofDayNumber (dayOfCycle day)).year

/-- Months are numbered from one. -/
def getMonth (day : Int) : Nat := (CivilDate.ofDayNumber (dayOfCycle day)).month

/-- The first day of a month. -/
def dayOfFirst (year : Int) (month : Nat) : Int :=
  daysPerCycle * (year / 400) + daysBeforeYear (year % 400).toNat +
    daysBeforeMonth (isLeapYear (year % 400).toNat) month - epochDay

/-- `new Date(year, month, 1)`, which takes the years below a hundred for those of the last
century. -/
def ServerZone.newDate (zone : ServerZone) (year : Int) (month : Nat) : Int :=
  zone.midnight (dayOfFirst (if 0 ≤ year ∧ year ≤ 99 then 1900 + year else year) month)

/-- What a request finds on a server in a time zone. -/
def ServerZone.moment (zone : ServerZone) (now : Int) (swapId : Access.Id) (paymentId : Nat) :
    Moment where
  now := now
  swapId := swapId
  paymentId := paymentId
  startOfCurrentMonth :=
    zone.newDate (getFullYear (zone.localDay now)) (getMonth (zone.localDay now))
  startOfMonth := fun reference =>
    zone.newDate (getFullYear (reference / millisPerDay)) (getMonth (reference / millisPerDay))
  startOfYear := fun reference => zone.newDate (getFullYear (reference / millisPerDay)) 1

end Calendar

section Sums

/-! ## Sums by kind -/

variable {κ : Type} [DecidableEq κ]

/-- An addition gives its kind a sum and keeps the others' places. -/
theorem addTo_keys (sums : List (κ × ℚ)) (kind : κ) (amount : ℚ) :
    (addTo sums kind amount).map (·.1) =
      if kind ∈ sums.map (·.1) then sums.map (·.1) else sums.map (·.1) ++ [kind] := by
  unfold addTo
  split
  case isTrue =>
    rw [List.map_map]
    apply List.map_congr_left
    intro sum _
    rw [Function.comp_apply]
    split
    case isTrue same => exact same.symm
    case isFalse => rfl
  case isFalse => simp

/-- Every kind keeps one sum. -/
theorem addTo_nodup {sums : List (κ × ℚ)} (distinct : (sums.map (·.1)).Nodup) (kind : κ)
    (amount : ℚ) : ((addTo sums kind amount).map (·.1)).Nodup := by
  rw [addTo_keys]
  split
  case isTrue => exact distinct
  case isFalse fresh =>
    refine List.nodup_append.mpr ⟨distinct, List.nodup_singleton _, ?_⟩
    rintro other listed _ one rfl
    exact fresh (List.mem_singleton.mp one ▸ listed)

/-- One of the sums grows by the amount. -/
theorem sum_update {sums : List (κ × ℚ)} (distinct : (sums.map (·.1)).Nodup) {kind : κ}
    (present : kind ∈ sums.map (·.1)) (amount : ℚ) :
    ((sums.map fun sum => if sum.1 = kind then (kind, sum.2 + amount) else sum).map (·.2)).sum =
      (sums.map (·.2)).sum + amount := by
  induction sums with
  | nil => cases present
  | cons first rest inductionHypothesis =>
    rw [List.map_cons, List.nodup_cons] at distinct
    by_cases here : first.1 = kind
    case pos =>
      have elsewhere : ∀ sum ∈ rest, ¬ sum.1 = kind := by
        rintro sum listed rfl
        exact distinct.1 (here ▸ List.mem_map_of_mem listed)
      have kept : (rest.map fun sum => if sum.1 = kind then (kind, sum.2 + amount) else sum) =
          rest := by
        rw [List.map_congr_left fun sum listed => if_neg (elsewhere sum listed)]
        exact List.map_id' rest
      simp only [List.map_cons, List.sum_cons, if_pos here, kept]
      ring
    case neg =>
      have later : kind ∈ rest.map (·.1) := (List.mem_cons.mp present).resolve_left (Ne.symm here)
      simp only [List.map_cons, List.sum_cons, if_neg here,
        inductionHypothesis distinct.2 later]
      ring

/-- An addition raises the total by its amount where the doubles add up without rounding. -/
theorem addTo_sum {sums : List (κ × ℚ)} (distinct : (sums.map (·.1)).Nodup) (kind : κ)
    (amount : ℚ) (fixed : ∀ sum ∈ sums, sum.1 = kind →
      toDouble (sum.2 + toDouble amount) = sum.2 + toDouble amount) :
    ((addTo sums kind amount).map (·.2)).sum = (sums.map (·.2)).sum + toDouble amount := by
  unfold addTo
  split
  case isTrue present =>
    rw [← sum_update distinct present]
    congr 2
    apply List.map_congr_left
    intro sum listed
    split
    case isTrue same => rw [fixed sum listed same]
    case isFalse => rfl
  case isFalse => simp

/-! ## Amounts that add up -/

/-- No sum of amounts of the rows has to be rounded. -/
def AddsUp (rows : List PaymentRow) : Prop := Rounding.double.AddsExactly (rows.map (·.amount))

/-- The sum of payments without rounding. -/
def exactSum (rows : List PaymentRow) : ℚ := (rows.map fun row => toDouble row.amount).sum

section Rows

variable {rows chosen : List PaymentRow}

/-- Payments among others that add up do so too. -/
theorem AddsUp.sublist (addsUp : AddsUp rows) (among : chosen.Sublist rows) : AddsUp chosen :=
  Rounding.AddsExactly.sublist addsUp (among.map _)

/-- Where payments add up, the earned sum is the exact one. -/
theorem AddsUp.earned (addsUp : AddsUp rows) : earned rows = exactSum rows := by
  rw [Service.earned, addsUp.sum_eq, List.map_map]
  rfl

/-- Where payments add up, their sum is a double. -/
theorem AddsUp.fixed (addsUp : AddsUp rows) : toDouble (exactSum rows) = exactSum rows := by
  have fixed := addsUp _ (List.Sublist.refl _)
  rw [List.map_map] at fixed
  exact fixed

/-- The exact sum of two lists is that of both together. -/
theorem exactSum_append (rows others : List PaymentRow) :
    exactSum (rows ++ others) = exactSum rows + exactSum others := by
  rw [exactSum, List.map_append, List.sum_append]
  rfl

/-- The exact sum of one payment is its amount. -/
theorem exactSum_singleton (row : PaymentRow) : exactSum [row] = toDouble row.amount :=
  List.sum_singleton

/-- Each kind has the sum of its rows, and a breakdown adds up to what was earned. -/
structure SumsOf (kindOf : PaymentRow → κ) (rows : List PaymentRow) (sums : List (κ × ℚ)) :
    Prop where
  distinct : (sums.map (·.1)).Nodup
  complete : ∀ row ∈ rows, kindOf row ∈ sums.map (·.1)
  each : ∀ sum ∈ sums, sum.2 = exactSum (rows.filter fun row => kindOf row = sum.1)
  total : (sums.map (·.2)).sum = exactSum rows

/-- A row more in the sum of its kind. -/
theorem SumsOf.addTo {kindOf : PaymentRow → κ} {sums : List (κ × ℚ)} {row : PaymentRow}
    (sumsOf : SumsOf kindOf rows sums) (addsUp : AddsUp (rows ++ [row])) :
    SumsOf kindOf (rows ++ [row]) (Service.addTo sums (kindOf row) row.amount) := by
  have grown : ∀ sum ∈ sums, sum.1 = kindOf row → sum.2 + toDouble row.amount =
      exactSum ((rows ++ [row]).filter fun other => kindOf other = kindOf row) := by
    intro sum listed same
    rw [List.filter_append, exactSum_append, sumsOf.each sum listed, same,
      List.filter_singleton, decide_eq_true rfl, cond_true, exactSum_singleton]
  have fixed : ∀ sum ∈ sums, sum.1 = kindOf row →
      toDouble (sum.2 + toDouble row.amount) = sum.2 + toDouble row.amount := by
    intro sum listed same
    rw [grown sum listed same]
    exact (addsUp.sublist List.filter_sublist).fixed
  constructor
  case distinct => exact addTo_nodup sumsOf.distinct _ _
  case complete =>
    intro other listed
    rw [addTo_keys]
    rcases List.mem_append.mp listed with earlier | last
    · have known := sumsOf.complete other earlier
      split
      case isTrue => exact known
      case isFalse => exact List.mem_append_left _ known
    · rw [List.mem_singleton.mp last]
      split
      case isTrue present => exact present
      case isFalse => exact List.mem_append_right _ (List.mem_singleton_self _)
  case each =>
    have other : ∀ sum ∈ sums, sum.1 ≠ kindOf row → sum.2 =
        exactSum ((rows ++ [row]).filter fun other => kindOf other = sum.1) := by
      intro sum listed differs
      rw [List.filter_append, exactSum_append, ← sumsOf.each sum listed, List.filter_singleton,
        decide_eq_false (Ne.symm differs), cond_false]
      exact (add_zero _).symm
    unfold Service.addTo
    split
    case isTrue present =>
      intro sum listed
      obtain ⟨before, stored, rfl⟩ := List.mem_map.mp listed
      split
      case isTrue same => exact (fixed before stored same).trans (grown before stored same)
      case isFalse differs => exact other before stored differs
    case isFalse fresh =>
      intro sum listed
      rcases List.mem_append.mp listed with stored | last
      · have differs : sum.1 ≠ kindOf row := fun same => fresh (same ▸ List.mem_map_of_mem stored)
        exact other sum stored differs
      · rw [List.mem_singleton.mp last]
        have none : (rows.filter fun other => kindOf other = kindOf row) = [] := by
          apply List.filter_eq_nil_iff.mpr
          intro other earlier same
          exact fresh (of_decide_eq_true same ▸ sumsOf.complete other earlier)
        rw [List.filter_append, none, List.filter_singleton, decide_eq_true rfl, cond_true,
          List.nil_append, exactSum_singleton]
  case total =>
    rw [addTo_sum sumsOf.distinct _ _ fixed, sumsOf.total, exactSum_append, exactSum_singleton]

end Rows

variable (p q : PaymentRow → Bool) (rows : List PaymentRow)

end Sums

section Summaries

/-! ## The summary -/

variable (tables : FleetTables) (user : AuthenticatedUser)

/-- The payments of a fleet. -/
def fleetRows : List PaymentRow := tables.payments.filter fun row => row.fleetId == user.fleetId

variable (moment : Moment)

/-! ## The riders on a lease -/

end Summaries

section Figures

variable {tables : FleetTables} {user : AuthenticatedUser} {moment : Moment}
  {startDate endDate : Option Bound} {summary : FinancialSummary}

section Leases

variable (rider : User)

variable {rider} (owed : ∀ fine ∈ tables.fines, 0 ≤ fine.amount)
include owed

end Leases

end Figures

section Samples

/-- A fleet with one row of the second of January 1970. -/
def oneRow (status : PaymentStatus) : FleetTables where
  users := []
  bikes := []
  commands := []
  assignments := []
  fines := []
  payments := [⟨⟨1, "ours", "rider", 5000, millisPerDay, .CASH, status, none, none, false, none,
    .manual⟩, millisPerDay⟩]
  swaps := []
  auditLogs := []

end Samples

end EmotoFleet.Financials.Service
