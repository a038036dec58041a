import Mathlib.Algebra.Order.Floor.Ring
import Mathlib.Algebra.Order.Field.Basic
import Mathlib.Algebra.Order.BigOperators.Group.List
import Mathlib.Tactic.Linarith
import Mathlib.Tactic.FieldSimp
import Mathlib.Tactic.Positivity
import Mathlib.Tactic.Ring

/-!
# Rounding to a grid

A number is rounded to the nearest multiple of one part of a unit. Rounding keeps the order,
fixes the points of the grid and errs by half a part at most; the errors of a sum add up.
Nothing here mentions a particular program.
-/

namespace EmotoFleet.Rounding

variable {K : Type*}

section Restricted

variable [LinearOrder K] {value other lo hi : K}

/-- The closest number of an interval. -/
def clamp (value lo hi : K) : K :=
  min hi (max lo value)

theorem clamp_mem (ordered : lo ≤ hi) : lo ≤ clamp value lo hi ∧ clamp value lo hi ≤ hi :=
  ⟨le_min ordered (le_max_left _ _), min_le_left _ _⟩

theorem clamp_mono (le : value ≤ other) : clamp value lo hi ≤ clamp other lo hi :=
  min_le_min_left _ (max_le_max_left _ le)

end Restricted

section Errors

variable [Field K] [LinearOrder K] [IsStrictOrderedRing K] {value other lo hi : K}

/-- Two numbers come no farther apart by being restricted. -/
theorem abs_clamp_sub_le : |clamp value lo hi - clamp other lo hi| ≤ |value - other| := by
  have kept : ∀ {left right : K}, left ≤ right →
      clamp right lo hi - clamp left lo hi ≤ right - left := by
    intro left right le
    have above : max lo right ≤ max lo left + (right - left) := by
      apply max_le
      · linarith [le_max_left lo left]
      · linarith [le_max_right lo left]
    have moved : min hi (max lo right) ≤ min hi (max lo left) + (right - left) := by
      rcases le_total hi (max lo left) with full | room
      · rw [min_eq_left full]
        linarith [min_le_left hi (max lo right)]
      · rw [min_eq_right room]
        exact (min_le_right _ _).trans above
    exact sub_le_iff_le_add'.mpr moved
  rcases le_total value other with le | le
  · rw [abs_sub_comm, abs_sub_comm value, abs_of_nonneg (sub_nonneg.mpr (clamp_mono le)),
      abs_of_nonneg (sub_nonneg.mpr le)]
    exact kept le
  · rw [abs_of_nonneg (sub_nonneg.mpr (clamp_mono le)), abs_of_nonneg (sub_nonneg.mpr le)]
    exact kept le

/-- The errors of the summands add up. -/
theorem abs_sum_map_sub_le {round : K → K} {error : K}
    (close : ∀ value, |round value - value| ≤ error) (values : List K) :
    |(values.map round).sum - values.sum| ≤ values.length * error := by
  induction values with
  | nil => simp
  | cons value rest ih =>
    have split : round value + (rest.map round).sum - (value + rest.sum) =
        (round value - value) + ((rest.map round).sum - rest.sum) := by ring
    rw [List.map_cons, List.sum_cons, List.sum_cons, split, List.length_cons, Nat.cast_succ]
    calc |(round value - value) + ((rest.map round).sum - rest.sum)|
        ≤ |round value - value| + |(rest.map round).sum - rest.sum| := abs_add_le _ _
      _ ≤ error + rest.length * error := add_le_add (close value) ih
      _ = (rest.length + 1) * error := by ring

end Errors

section Grids

variable [Field K] [LinearOrder K] [FloorRing K]

/-- The nearest whole number, halves upwards. -/
def nearest (value : K) : ℤ :=
  ⌊value + 1 / 2⌋

/-- The nearest of the points that cut a unit into parts, halves upwards. -/
def toGrid (parts value : K) : K :=
  nearest (value * parts) / parts

/-- The nearest of the points that cut a unit into parts, halves away from zero. -/
def awayFromZero (parts value : K) : K :=
  if value < 0 then -toGrid parts (-value) else toGrid parts value

variable [IsStrictOrderedRing K] {parts value other : K}

theorem nearest_mono (le : value ≤ other) : nearest value ≤ nearest other :=
  Int.floor_mono (add_le_add_left le _)

theorem nearest_intCast (whole : ℤ) : nearest (whole : K) = whole := by
  rw [nearest, Int.floor_intCast_add, Int.floor_eq_zero_iff.mpr, add_zero]
  constructor <;> norm_num

theorem abs_nearest_sub_le (value : K) : |(nearest value : K) - value| ≤ 1 / 2 := by
  have below : (nearest value : K) ≤ value + 1 / 2 := Int.floor_le _
  have above : value + 1 / 2 < nearest value + 1 := Int.lt_floor_add_one _
  rw [abs_le]
  constructor <;> linarith

theorem toGrid_mono (positive : 0 < parts) (le : value ≤ other) :
    toGrid parts value ≤ toGrid parts other := by
  have scaled : value * parts ≤ other * parts := mul_le_mul_of_nonneg_right le positive.le
  have rounded : (nearest (value * parts) : K) ≤ nearest (other * parts) :=
    Int.cast_le.mpr (nearest_mono scaled)
  exact div_le_div_of_nonneg_right rounded positive.le

/-- The points of the grid stay where they are. -/
theorem toGrid_point (positive : 0 < parts) (whole : ℤ) :
    toGrid parts (whole / parts) = whole / parts := by
  rw [toGrid, div_mul_cancel₀ _ positive.ne', nearest_intCast]

theorem abs_toGrid_sub_le (positive : 0 < parts) (value : K) :
    |toGrid parts value - value| ≤ 1 / (2 * parts) := by
  have scaled : toGrid parts value - value =
      ((nearest (value * parts) : K) - value * parts) / parts := by
    rw [toGrid, sub_div, mul_div_cancel_right₀ _ positive.ne']
  calc |toGrid parts value - value|
      = |(nearest (value * parts) : K) - value * parts| / parts := by
        rw [scaled, abs_div, abs_of_pos positive]
    _ ≤ 1 / 2 / parts := div_le_div_of_nonneg_right (abs_nearest_sub_le _) positive.le
    _ = 1 / (2 * parts) := by rw [div_div]

theorem toGrid_nonneg (positive : 0 < parts) (nonneg : 0 ≤ value) : 0 ≤ toGrid parts value := by
  have zero : toGrid parts (0 : K) = 0 := by simpa using toGrid_point positive 0
  exact zero.symm.le.trans (toGrid_mono positive nonneg)

theorem awayFromZero_mono (positive : 0 < parts) : Monotone (awayFromZero parts) := by
  intro value other le
  unfold awayFromZero
  split
  · split
    · exact neg_le_neg (toGrid_mono positive (neg_le_neg le))
    · have below : 0 ≤ toGrid parts (-value) := toGrid_nonneg positive (by linarith)
      have above : 0 ≤ toGrid parts other := toGrid_nonneg positive (by linarith)
      linarith
  · rw [if_neg (by linarith)]
    exact toGrid_mono positive le

theorem awayFromZero_point (positive : 0 < parts) (whole : ℤ) :
    awayFromZero parts (whole / parts) = whole / parts := by
  unfold awayFromZero
  split
  · have negated : -(whole / parts) = ((-whole : ℤ) : K) / parts := by
      rw [Int.cast_neg, neg_div]
    rw [negated, toGrid_point positive, ← negated, neg_neg]
  · exact toGrid_point positive whole

theorem abs_awayFromZero_sub_le (positive : 0 < parts) (value : K) :
    |awayFromZero parts value - value| ≤ 1 / (2 * parts) := by
  unfold awayFromZero
  split
  · calc |-toGrid parts (-value) - value| = |toGrid parts (-value) - -value| := by
          rw [← abs_neg]
          congr 1
          ring
      _ ≤ 1 / (2 * parts) := abs_toGrid_sub_le positive _
  · exact abs_toGrid_sub_le positive value

end Grids

end EmotoFleet.Rounding
