import Mathlib.Algebra.Order.BigOperators.Group.List
import Mathlib.Data.Int.Log
import Mathlib.Data.Rat.Floor
import Mathlib.Tactic.Linarith
import Mathlib.Tactic.Positivity
import Mathlib.Tactic.Ring

/-!
# Numbers in double precision

A double is a whole number of fewer than 54 bits times a power of two from the one with the
exponent -1074 on. Every number has a nearest double, and of two that are equally near the
one with the even number counts. The sum, the difference, the product or the quotient of two
doubles is the double nearest to the exact one.

Numbers that are too large for a double are not told apart from others: the exponent has no
upper bound. Nothing here mentions a particular program.
-/

namespace EmotoFleet.Doubles

/-- The exponent of the last bit of the doubles around a number. -/
def exponent (x : ℚ) : ℤ := max (Int.log 2 |x| - 52) (-1074)

/-- The distance between the doubles around a number. -/
def spacing (x : ℚ) : ℚ := 2 ^ exponent x

/-- The nearest whole number, and of two the even one. -/
def nearestEven (x : ℚ) : ℤ :=
  if Int.fract x < 1 / 2 then ⌊x⌋
  else if 1 / 2 < Int.fract x then ⌊x⌋ + 1
  else if ⌊x⌋ % 2 = 0 then ⌊x⌋ else ⌊x⌋ + 1

/-- The nearest double. -/
def toDouble (x : ℚ) : ℚ := nearestEven (x / spacing x) * spacing x

/-- The whole number nearest to the root of a number, and of two the even one. -/
def nearestRoot (x : ℚ) : ℤ :=
  let root : ℤ := Nat.sqrt ⌊x⌋.toNat
  if x < (root + 1 / 2) ^ 2 then root
  else if (root + 1 / 2) ^ 2 < x then root + 1
  else if root % 2 = 0 then root else root + 1

/-- The double nearest to the root of a double. The first bit of the root stands at half the
place of the first bit of the number. -/
def squareRoot (x : ℚ) : ℚ :=
  let shift := Int.log 2 x / 2 - 52
  nearestRoot (x / 4 ^ shift) * 2 ^ shift

/-- The number is a double. -/
def IsDouble (x : ℚ) : Prop :=
  ∃ mantissa shift : ℤ, |mantissa| < 2 ^ 53 ∧ -1074 ≤ shift ∧ x = mantissa * 2 ^ shift

/-! ## The nearest whole number -/

section Nearest

variable {x y : ℚ}

/-- The nearest whole number is below by at most a half, or above by at most a half. -/
theorem nearestEven_cases (x : ℚ) :
    nearestEven x = ⌊x⌋ ∧ Int.fract x ≤ 1 / 2 ∨ nearestEven x = ⌊x⌋ + 1 ∧ 1 / 2 ≤ Int.fract x := by
  rw [nearestEven]
  split
  case isTrue below => exact .inl ⟨rfl, below.le⟩
  case isFalse notBelow =>
    split
    case isTrue above => exact .inr ⟨rfl, above.le⟩
    case isFalse notAbove =>
      have middle : Int.fract x = 1 / 2 := le_antisymm (not_lt.mp notAbove) (not_lt.mp notBelow)
      split
      case isTrue => exact .inl ⟨rfl, middle.le⟩
      case isFalse => exact .inr ⟨rfl, middle.ge⟩

/-- A whole number is the nearest to itself. -/
@[simp] theorem nearestEven_intCast (n : ℤ) : nearestEven n = n := by
  rw [nearestEven, Int.fract_intCast, Int.floor_intCast, if_pos (by norm_num)]

/-- Rounding keeps the order: two numbers on the two sides of a half are rounded apart. -/
theorem nearestEven_mono (le : x ≤ y) : nearestEven x ≤ nearestEven y := by
  have floors := Int.floor_mono le
  rcases lt_or_eq_of_le floors with apart | same
  · rcases nearestEven_cases x with ⟨first, _⟩ | ⟨first, _⟩ <;>
      rcases nearestEven_cases y with ⟨second, _⟩ | ⟨second, _⟩ <;> omega
  · have fracts : Int.fract x ≤ Int.fract y := by
      rw [Int.fract, Int.fract, same]
      linarith
    rw [nearestEven, nearestEven, same]
    split
    case isTrue => split <;> (try split) <;> (try split) <;> omega
    case isFalse notBelow =>
      rw [if_neg (fun below => notBelow (fracts.trans_lt below))]
      split
      case isTrue above => rw [if_pos (above.trans_le fracts)]
      case isFalse =>
        split
        case isTrue => split <;> omega
        case isFalse =>
          split
          case isTrue => omega
          case isFalse => rfl

/-- Rounding is the same on both sides of zero. -/
theorem nearestEven_neg (x : ℚ) : nearestEven (-x) = -nearestEven x := by
  by_cases whole : Int.fract x = 0
  case pos =>
    obtain ⟨n, rfl⟩ := Int.fract_eq_zero_iff.mp whole
    rw [← Int.cast_neg, nearestEven_intCast, nearestEven_intCast]
  case neg =>
    have fract : Int.fract (-x) = 1 - Int.fract x := Int.fract_neg whole
    have floor : ⌊-x⌋ = -⌊x⌋ - 1 := by
      have split := Int.floor_add_fract x
      have splitNeg := Int.floor_add_fract (-x)
      have cast : ((⌊-x⌋ : ℤ) : ℚ) = ((-⌊x⌋ - 1 : ℤ) : ℚ) := by
        push_cast
        linarith
      exact_mod_cast cast
    rw [nearestEven, nearestEven, fract, floor]
    split
    case isTrue below =>
      rw [if_neg (by linarith), if_pos (by linarith)]
      ring
    case isFalse notBelow =>
      split
      case isTrue above =>
        rw [if_pos (by linarith)]
        ring
      case isFalse notAbove =>
        rw [if_neg (show ¬ Int.fract x < 1 / 2 by linarith),
          if_neg (show ¬ 1 / 2 < Int.fract x by linarith)]
        -- at a half, the even one of the two is the other one on the other side
        split
        case isTrue even =>
          rw [if_neg (by omega)]
          ring
        case isFalse odd =>
          rw [if_pos (by omega)]
          ring

end Nearest

/-! ## The nearest double -/

section Rounding

variable {x y : ℚ}

/-- The doubles lie apart. -/
theorem spacing_pos (x : ℚ) : 0 < spacing x :=
  zpow_pos (by norm_num) _

/-- A number and its negative have one exponent. -/
theorem exponent_neg (x : ℚ) : exponent (-x) = exponent x := by
  rw [exponent, exponent, abs_neg]

/-- The double of the negative is the negative. -/
theorem toDouble_neg (x : ℚ) : toDouble (-x) = -toDouble x := by
  rw [toDouble, toDouble, spacing, exponent_neg, ← spacing, neg_div, nearestEven_neg]
  push_cast
  ring

/-- Zero is a double. -/
@[simp] theorem toDouble_zero : toDouble 0 = 0 := by
  have rounded : nearestEven 0 = 0 := nearestEven_intCast 0
  rw [toDouble, zero_div, rounded, Int.cast_zero, zero_mul]

/-- The numbers with the last bit of the doubles around another number, or a higher one. -/
theorem eq_mul_spacing {shift : ℤ} (coarse : exponent x ≤ shift) (mantissa : ℤ) :
    ∃ n : ℤ, (mantissa * 2 ^ shift : ℚ) = n * spacing x := by
  refine ⟨mantissa * 2 ^ (shift - exponent x).toNat, ?_⟩
  have whole : ((shift - exponent x).toNat : ℤ) = shift - exponent x := Int.toNat_of_nonneg (by omega)
  have split : (2 : ℚ) ^ shift = 2 ^ (shift - exponent x).toNat * 2 ^ exponent x := by
    rw [← zpow_natCast, whole, ← zpow_add₀ (by norm_num)]
    congr 1
    ring
  rw [spacing, split]
  push_cast
  ring

/-- Rounding stays below a coarser number. -/
theorem toDouble_le_of_le {mantissa shift : ℤ} (coarse : exponent x ≤ shift)
    (le : x ≤ mantissa * 2 ^ shift) : toDouble x ≤ mantissa * 2 ^ shift := by
  obtain ⟨n, same⟩ := eq_mul_spacing coarse mantissa
  rw [same] at le ⊢
  have below : nearestEven (x / spacing x) ≤ n := by
    rw [← nearestEven_intCast n]
    exact nearestEven_mono ((div_le_iff₀ (spacing_pos x)).mpr le)
  exact mul_le_mul_of_nonneg_right (Int.cast_le.mpr below) (spacing_pos x).le

/-- Rounding stays above a coarser number. -/
theorem le_toDouble_of_le {mantissa shift : ℤ} (coarse : exponent x ≤ shift)
    (le : mantissa * 2 ^ shift ≤ x) : mantissa * 2 ^ shift ≤ toDouble x := by
  have below : toDouble (-x) ≤ (-mantissa : ℤ) * 2 ^ shift :=
    toDouble_le_of_le (by rw [exponent_neg]; exact coarse) (by push_cast; linarith)
  rw [toDouble_neg] at below
  push_cast at below
  linarith

/-- A coarser number is its own double. -/
theorem toDouble_eq_of_coarse {mantissa shift : ℤ} (coarse : exponent x ≤ shift)
    (same : x = mantissa * 2 ^ shift) : toDouble x = x := by
  have upper := toDouble_le_of_le coarse same.le
  have lower := le_toDouble_of_le coarse same.ge
  rw [← same] at upper lower
  exact le_antisymm upper lower

/-- A number below a power of two has its last bit fifty-three places below it. -/
theorem exponent_le {shift : ℤ} (nonzero : x ≠ 0) (least : -1074 ≤ shift)
    (small : |x| < 2 ^ (shift + 53)) : exponent x ≤ shift := by
  have below := (Int.lt_zpow_iff_log_lt (b := 2) (by norm_num) (abs_pos.mpr nonzero)).mp
    (by exact_mod_cast small)
  rw [exponent, max_le_iff, and_iff_left least]
  omega

/-- A double is its own double. -/
theorem toDouble_of_isDouble (double : IsDouble x) : toDouble x = x := by
  obtain ⟨mantissa, shift, small, least, rfl⟩ := double
  rcases eq_or_ne mantissa 0 with rfl | nonzero
  · simp
  · have power : (0 : ℚ) < 2 ^ shift := zpow_pos (by norm_num) _
    apply toDouble_eq_of_coarse (exponent_le ?_ least ?_) rfl
    · exact mul_ne_zero (Int.cast_ne_zero.mpr nonzero) power.ne'
    · have cast : |(mantissa : ℚ)| < 2 ^ (53 : ℤ) := by exact_mod_cast small
      rw [abs_mul, abs_of_pos power, zpow_add₀ (by norm_num), mul_comm]
      exact mul_lt_mul_of_pos_left cast power

end Rounding

/-! ## Order -/

section Order

variable {x y : ℚ}

/-- Rounding keeps a number from going below zero. -/
theorem toDouble_nonneg (nonneg : 0 ≤ x) : 0 ≤ toDouble x := by
  have least : (0 : ℤ) ≤ nearestEven (x / spacing x) := by
    rw [← nearestEven_intCast 0]
    exact nearestEven_mono (by
      rw [Int.cast_zero]
      exact div_nonneg nonneg (spacing_pos x).le)
  exact mul_nonneg (Int.cast_nonneg least) (spacing_pos x).le

/-- Between two numbers with different last bits lies a power of two, which neither of them is
rounded across. -/
theorem toDouble_mono_of_pos (positive : 0 < x) (le : x ≤ y) : toDouble x ≤ toDouble y := by
  have magnitude : |x| ≤ |y| := by
    rw [abs_of_pos positive, abs_of_pos (positive.trans_le le)]
    exact le
  have logs : Int.log 2 |x| ≤ Int.log 2 |y| := Int.log_mono_right (abs_pos.mpr positive.ne') magnitude
  rcases le_or_gt (Int.log 2 |y| - 52) (max (Int.log 2 |x| - 52) (-1074)) with same | coarser
  · have exponents : exponent x = exponent y := by
      rw [exponent, exponent]
      omega
    rw [toDouble, toDouble, spacing, spacing, exponents, ← spacing]
    apply mul_le_mul_of_nonneg_right _ (spacing_pos y).le
    exact Int.cast_le.mpr (nearestEven_mono (div_le_div_of_nonneg_right le (spacing_pos y).le))
  · have positiveY := positive.trans_le le
    have power : ((2 : ℕ) : ℚ) ^ Int.log 2 |y| ≤ |y| :=
      Int.zpow_log_le_self (by norm_num) (abs_pos.mpr positiveY.ne')
    have beyond : |x| < ((2 : ℕ) : ℚ) ^ Int.log 2 |y| :=
      (Int.lt_zpow_iff_log_lt (by norm_num) (abs_pos.mpr positive.ne')).mpr (by omega)
    rw [abs_of_pos positive] at beyond
    rw [abs_of_pos positiveY] at power
    have below : toDouble x ≤ (1 : ℤ) * 2 ^ Int.log 2 |y| :=
      toDouble_le_of_le (by rw [exponent]; omega) (by simpa using beyond.le)
    have above : (1 : ℤ) * 2 ^ Int.log 2 |y| ≤ toDouble y :=
      le_toDouble_of_le (by rw [exponent]; omega) (by simpa [abs_of_pos positiveY] using power)
    exact below.trans above

/-- Rounding keeps the order. -/
theorem toDouble_mono (le : x ≤ y) : toDouble x ≤ toDouble y := by
  rcases lt_trichotomy 0 x with positive | rfl | negative
  · exact toDouble_mono_of_pos positive le
  · rw [toDouble_zero]
    exact toDouble_nonneg le
  · rcases lt_or_ge y 0 with below | nonneg
    · have mirrored := toDouble_mono_of_pos (neg_pos.mpr below) (neg_le_neg le)
      rw [toDouble_neg, toDouble_neg] at mirrored
      exact neg_le_neg_iff.mp mirrored
    · have nonpos := toDouble_nonneg (neg_nonneg.mpr negative.le)
      rw [toDouble_neg] at nonpos
      exact (neg_nonneg.mp nonpos).trans (toDouble_nonneg nonneg)

/-- A double that is a lower bound stays one after rounding. -/
theorem le_toDouble (double : IsDouble x) (le : x ≤ y) : x ≤ toDouble y := by
  rw [← toDouble_of_isDouble double]
  exact toDouble_mono le

/-- A double that is an upper bound stays one after rounding. -/
theorem toDouble_le (double : IsDouble y) (le : x ≤ y) : toDouble x ≤ y := by
  rw [← toDouble_of_isDouble double]
  exact toDouble_mono le

/-- What is rounded is a double. -/
theorem isDouble_toDouble (x : ℚ) : IsDouble (toDouble x) := by
  have positive := spacing_pos x
  have least : -1074 ≤ exponent x := le_max_right _ _
  have scaled : |x / spacing x| ≤ 2 ^ 53 := by
    rcases eq_or_ne x 0 with rfl | nonzero
    · rw [zero_div, abs_zero]
      positivity
    · have below : |x| < 2 ^ (exponent x + 53) := by
        have log : Int.log 2 |x| < exponent x + 53 := by
          rw [exponent]
          omega
        exact_mod_cast (Int.lt_zpow_iff_log_lt (b := 2) (by norm_num) (abs_pos.mpr nonzero)).mpr log
      rw [zpow_add₀ (by norm_num), mul_comm] at below
      rw [abs_div, abs_of_pos positive, div_le_iff₀ positive]
      exact below.le
  have bound : |nearestEven (x / spacing x)| ≤ 2 ^ 53 := by
    obtain ⟨lower, upper⟩ := abs_le.mp scaled
    rw [abs_le, ← nearestEven_intCast (2 ^ 53), ← nearestEven_intCast (-(nearestEven _))]
    constructor
    · apply nearestEven_mono
      rw [nearestEven_intCast]
      exact_mod_cast lower
    · apply nearestEven_mono
      exact_mod_cast upper
  rcases lt_or_eq_of_le bound with within | last
  · exact ⟨_, _, within, least, rfl⟩
  · -- the mantissa has 54 bits, all of them zero but the first
    have power : (2 : ℚ) ^ (exponent x + 53) = 2 ^ 53 * spacing x := by
      rw [zpow_add₀ (by norm_num), mul_comm]
      rfl
    rcases (abs_eq (by norm_num)).mp last with same | same
    · refine ⟨1, exponent x + 53, by norm_num, by omega, ?_⟩
      rw [toDouble, same, power]
      norm_num
    · refine ⟨-1, exponent x + 53, by norm_num, by omega, ?_⟩
      rw [toDouble, same, power]
      norm_num

/-- A double is its own double. -/
@[simp] theorem toDouble_toDouble (x : ℚ) : toDouble (toDouble x) = toDouble x :=
  toDouble_of_isDouble (isDouble_toDouble x)

/-- Doubles lie no closer together than the smallest of them. -/
theorem IsDouble.apart (doubleX : IsDouble x) (doubleY : IsDouble y) (lt : y < x) :
    2 ^ (-1074 : ℤ) ≤ x - y := by
  have least : (0 : ℚ) < 2 ^ (-1074 : ℤ) := zpow_pos (by norm_num) _
  have multiple : ∀ z, IsDouble z → ∃ n : ℤ, z = n * 2 ^ (-1074 : ℤ) := by
    rintro _ ⟨mantissa, shift, _, above, rfl⟩
    refine ⟨mantissa * 2 ^ (shift + 1074).toNat, ?_⟩
    have whole : ((shift + 1074).toNat : ℤ) = shift + 1074 := Int.toNat_of_nonneg (by omega)
    have split : (2 : ℚ) ^ shift = 2 ^ (shift + 1074).toNat * 2 ^ (-1074 : ℤ) := by
      rw [← zpow_natCast, whole, ← zpow_add₀ (by norm_num)]
      congr 1
      ring
    rw [split, Int.cast_mul, Int.cast_pow, Int.cast_ofNat, mul_assoc]
  obtain ⟨m, rfl⟩ := multiple x doubleX
  obtain ⟨n, rfl⟩ := multiple y doubleY
  have less : n < m := by exact_mod_cast lt_of_mul_lt_mul_right lt least.le
  have step : (1 : ℚ) ≤ m - n := by exact_mod_cast (by omega : 1 ≤ m - n)
  calc (2 : ℚ) ^ (-1074 : ℤ) = 1 * 2 ^ (-1074 : ℤ) := (one_mul _).symm
    _ ≤ (m - n) * 2 ^ (-1074 : ℤ) := mul_le_mul_of_nonneg_right step least.le
    _ = m * 2 ^ (-1074 : ℤ) - n * 2 ^ (-1074 : ℤ) := sub_mul _ _ _

end Order

end EmotoFleet.Doubles
