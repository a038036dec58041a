import Mathlib.Data.Nat.Find
import Mathlib.Data.Nat.Init
import Mathlib.Tactic.Common

/-!
# Dates of the Gregorian calendar and their day numbers

A civil date is a year, a month and a day that exist in the calendar. Its day
number counts the days since the first of January of the year zero. Later dates
have larger day numbers, where dates are compared field by field.

Nothing here mentions a particular program.
-/

namespace EmotoFleet.CivilDates

def isLeapYear (year : Nat) : Bool :=
  decide (year % 4 = 0 ∧ (year % 100 ≠ 0 ∨ year % 400 = 0))

/-- The leap years among the years before the given one. -/
def leapYearsBefore (year : Nat) : Nat := (year + 3) / 4 + (year + 399) / 400 - (year + 99) / 100

def daysBeforeYear (year : Nat) : Nat := 365 * year + leapYearsBefore year

/-- Months are numbered from one; other numbers name no month. -/
def daysInMonth (leap : Bool) : Nat → Nat
  | 2 => if leap then 29 else 28
  | 1 | 3 | 5 | 7 | 8 | 10 | 12 => 31
  | 4 | 6 | 9 | 11 => 30
  | _ => 0

/-- The days of a year that precede the given month. -/
def daysBeforeMonth (leap : Bool) : Nat → Nat
  | 0 => 0
  | month + 1 => daysBeforeMonth leap month + daysInMonth leap month

structure CivilDate where
  year : Nat
  month : Nat
  day : Nat
  day_pos : 0 < day
  day_le : day ≤ daysInMonth (isLeapYear year) month
deriving DecidableEq

/-- Days since the first of January of the year zero. -/
def CivilDate.dayNumber (date : CivilDate) : Nat :=
  daysBeforeYear date.year + daysBeforeMonth (isLeapYear date.year) date.month + (date.day - 1)

/-- The multiples of a number below the next year are one more when the year is one. -/
theorem multiples_succ (year every : Nat) :
    (year + 1 + every) / (every + 1) =
      (year + every) / (every + 1) + if year % (every + 1) = 0 then 1 else 0 := by
  have divides : every + 1 ∣ year + every + 1 ↔ year % (every + 1) = 0 := by
    rw [Nat.add_assoc, Nat.dvd_add_self_right, Nat.dvd_iff_mod_eq_zero]
  rw [Nat.add_right_comm, Nat.succ_div]
  simp only [divides]

theorem daysBeforeYear_succ (year : Nat) :
    daysBeforeYear (year + 1) = daysBeforeYear year + 365 + (isLeapYear year).toNat := by
  have fours : (year + 1 + 3) / 4 = (year + 3) / 4 + if year % 4 = 0 then 1 else 0 :=
    multiples_succ year 3
  have hundreds : (year + 1 + 99) / 100 = (year + 99) / 100 + if year % 100 = 0 then 1 else 0 :=
    multiples_succ year 99
  have fourHundreds : (year + 1 + 399) / 400 = (year + 399) / 400 + if year % 400 = 0 then 1 else 0 :=
    multiples_succ year 399
  have fewer : (year + 99) / 100 ≤ (year + 3) / 4 := by
    have spread : year + 3 < 4 * ((year + 3) / 4 + 1) := Nat.lt_mul_div_succ (year + 3) (by decide)
    rw [Nat.div_le_iff_le_mul_add_pred (by decide)]
    omega
  have ofHundred : year % 400 = 0 → year % 100 = 0 := fun divided =>
    Nat.mod_eq_zero_of_dvd (Nat.dvd_trans (by decide) (Nat.dvd_of_mod_eq_zero divided))
  have ofFour : year % 100 = 0 → year % 4 = 0 := fun divided =>
    Nat.mod_eq_zero_of_dvd (Nat.dvd_trans (by decide) (Nat.dvd_of_mod_eq_zero divided))
  unfold daysBeforeYear leapYearsBefore isLeapYear
  rw [fours, hundreds, fourHundreds]
  generalize (year + 3) / 4 = four at fewer
  generalize (year + 99) / 100 = hundred at fewer
  generalize (year + 399) / 400 = fourHundred
  clear fours hundreds fourHundreds
  by_cases byFour : year % 4 = 0 <;> by_cases byHundred : year % 100 = 0 <;>
    by_cases byFourHundred : year % 400 = 0
  all_goals
    simp_all
    try omega

theorem daysBeforeYear_mono {earlier later : Nat} (ordered : earlier ≤ later) :
    daysBeforeYear earlier ≤ daysBeforeYear later := by
  induction later, ordered using Nat.le_induction with
  | base => exact Nat.le_refl _
  | succ year _ inductionHypothesis =>
    rw [daysBeforeYear_succ]
    omega

/-- A month ends before every later month begins. -/
theorem daysBeforeMonth_lt (leap : Bool) {earlier later : Nat} (ordered : earlier < later) :
    daysBeforeMonth leap earlier + daysInMonth leap earlier ≤ daysBeforeMonth leap later := by
  induction later, ordered using Nat.le_induction with
  | base => exact Nat.le_refl _
  | succ month _ inductionHypothesis =>
    rw [daysBeforeMonth]
    omega

theorem daysInMonth_eq_zero (leap : Bool) {month : Nat} (beyond : 12 < month) :
    daysInMonth leap month = 0 := by
  unfold daysInMonth
  split <;> omega

/-- The months fit into the year. -/
theorem month_within_year (leap : Bool) {month : Nat} (named : month ≤ 12) :
    daysBeforeMonth leap month + daysInMonth leap month ≤ 365 + leap.toNat := by
  have yearEnd : daysBeforeMonth leap 13 = 365 + leap.toNat := by cases leap <;> rfl
  rw [← yearEnd]
  exact daysBeforeMonth_lt leap (by omega)

namespace CivilDate

variable (date : CivilDate)

theorem month_le : date.month ≤ 12 := by
  by_contra beyond
  have empty := daysInMonth_eq_zero (isLeapYear date.year) (Nat.lt_of_not_le beyond)
  have pos := date.day_pos
  have le := date.day_le
  omega

theorem day_lt : date.day < 32 := by
  have le := date.day_le
  have bounded : daysInMonth (isLeapYear date.year) date.month ≤ 31 := by
    unfold daysInMonth
    split <;> first | omega | split <;> omega
  omega

/-- The day number lies inside the year of the date. -/
theorem dayNumber_lt_next_year : date.dayNumber < daysBeforeYear (date.year + 1) := by
  have inside := month_within_year (isLeapYear date.year) date.month_le
  have pos := date.day_pos
  have le := date.day_le
  rw [daysBeforeYear_succ, dayNumber]
  omega

/-- One date precedes another, field by field. -/
def Precedes (earlier later : CivilDate) : Prop :=
  earlier.year < later.year ∨
    earlier.year = later.year ∧
      (earlier.month < later.month ∨ earlier.month = later.month ∧ earlier.day < later.day)

/-- Day numbers follow the order of the dates. -/
theorem dayNumber_lt {earlier later : CivilDate} (precedes : earlier.Precedes later) :
    earlier.dayNumber < later.dayNumber := by
  rcases precedes with yearBefore | ⟨sameYear, monthBefore | ⟨sameMonth, dayBefore⟩⟩
  · have boundary : daysBeforeYear (earlier.year + 1) ≤ daysBeforeYear later.year :=
      daysBeforeYear_mono yearBefore
    have inside := earlier.dayNumber_lt_next_year
    rw [dayNumber.eq_def later]
    omega
  · have boundary := daysBeforeMonth_lt (isLeapYear earlier.year) monthBefore
    have pos := earlier.day_pos
    have le := earlier.day_le
    rw [dayNumber, dayNumber, ← sameYear]
    omega
  · have pos := earlier.day_pos
    rw [dayNumber, dayNumber, ← sameYear, ← sameMonth]
    omega

end CivilDate

/-- The year in which a day lies. -/
def yearOfDay (day : Nat) : Nat :=
  Nat.findGreatest (fun year => daysBeforeYear year ≤ day) (day / 365)

/-- The month in which a day of the year lies. -/
def monthOfDay (leap : Bool) (day : Nat) : Nat :=
  Nat.findGreatest (fun month => daysBeforeMonth leap month ≤ day) 12

theorem yearOfDay_spec (day : Nat) :
    daysBeforeYear (yearOfDay day) ≤ day ∧ day < daysBeforeYear (yearOfDay day + 1) := by
  have initially : daysBeforeYear 0 ≤ day := Nat.zero_le day
  have begun : daysBeforeYear (yearOfDay day) ≤ day :=
    @Nat.findGreatest_spec 0 (fun year => daysBeforeYear year ≤ day) _ _ (Nat.zero_le _) initially
  refine ⟨begun, ?_⟩
  by_contra exceeded
  have within : yearOfDay day + 1 ≤ day / 365 := by
    have long : 365 * (yearOfDay day + 1) ≤ daysBeforeYear (yearOfDay day + 1) :=
      Nat.le_add_right ..
    omega
  have greatest : yearOfDay day + 1 ≤ yearOfDay day :=
    Nat.le_findGreatest within (Nat.le_of_not_lt exceeded)
  omega

theorem monthOfDay_spec {leap : Bool} {day : Nat} (inside : day < 365 + leap.toNat) :
    daysBeforeMonth leap (monthOfDay leap day) ≤ day ∧
      day < daysBeforeMonth leap (monthOfDay leap day + 1) := by
  have initially : daysBeforeMonth leap 0 ≤ day := Nat.zero_le day
  have begun : daysBeforeMonth leap (monthOfDay leap day) ≤ day :=
    @Nat.findGreatest_spec 0 (fun month => daysBeforeMonth leap month ≤ day) _ _ (Nat.zero_le _)
      initially
  refine ⟨begun, ?_⟩
  by_contra ended
  have last : monthOfDay leap day ≤ 12 := Nat.findGreatest_le 12
  rcases Nat.lt_or_eq_of_le last with earlier | december
  · have greatest : monthOfDay leap day + 1 ≤ monthOfDay leap day :=
      Nat.le_findGreatest earlier (Nat.le_of_not_lt ended)
    omega
  · have yearEnd : daysBeforeMonth leap 13 = 365 + leap.toNat := by cases leap <;> rfl
    rw [december, yearEnd] at ended
    exact ended inside

/-- The day of the year that a day number is. -/
def dayOfYear (day : Nat) : Nat := day - daysBeforeYear (yearOfDay day)

theorem month_of_dayOfYear (day : Nat) :
    let leap := isLeapYear (yearOfDay day)
    let month := monthOfDay leap (dayOfYear day)
    daysBeforeMonth leap month ≤ dayOfYear day ∧
      dayOfYear day < daysBeforeMonth leap month + daysInMonth leap month := by
  have inYear := yearOfDay_spec day
  rw [daysBeforeYear_succ] at inYear
  have inside : dayOfYear day < 365 + (isLeapYear (yearOfDay day)).toNat := by
    rw [dayOfYear]
    omega
  exact monthOfDay_spec inside

/-- The date of a day number. -/
def CivilDate.ofDayNumber (day : Nat) : CivilDate where
  year := yearOfDay day
  month := monthOfDay (isLeapYear (yearOfDay day)) (dayOfYear day)
  day := dayOfYear day - daysBeforeMonth (isLeapYear (yearOfDay day))
    (monthOfDay (isLeapYear (yearOfDay day)) (dayOfYear day)) + 1
  day_pos := Nat.succ_pos _
  day_le := by
    have inMonth := month_of_dayOfYear day
    simp only at inMonth
    omega

/-- Day numbers are those of their dates. -/
theorem CivilDate.dayNumber_ofDayNumber (day : Nat) : (ofDayNumber day).dayNumber = day := by
  have inMonth := (month_of_dayOfYear day).1
  have begun := (yearOfDay_spec day).1
  simp only [dayOfYear] at inMonth
  simp only [dayNumber, ofDayNumber, dayOfYear]
  omega

/-- Dates are told apart by their day numbers. -/
theorem CivilDate.dayNumber_inj {one other : CivilDate} (same : one.dayNumber = other.dayNumber) :
    one = other := by
  have early : ¬ one.Precedes other := fun precedes =>
    Nat.ne_of_lt (dayNumber_lt precedes) same
  have late : ¬ other.Precedes one := fun precedes =>
    Nat.ne_of_lt (dayNumber_lt precedes) same.symm
  rw [Precedes] at early late
  have year : one.year = other.year := by omega
  have month : one.month = other.month := by omega
  have day : one.day = other.day := by omega
  cases one
  cases other
  simp only [CivilDate.mk.injEq]
  exact ⟨year, month, day⟩

theorem CivilDate.ofDayNumber_dayNumber (date : CivilDate) : ofDayNumber date.dayNumber = date :=
  dayNumber_inj (dayNumber_ofDayNumber date.dayNumber)

/-- The first of January 1970 and the end of a February. -/
example : daysBeforeYear 1970 = 719528 := by decide

end EmotoFleet.CivilDates
