import EmotoFleet.Foundations.Doubles
import Mathlib.Algebra.BigOperators.Ring.Finset

/-!
# Arithmetic that rounds

A calculation takes the way in which its results are rounded as an argument. One definition
then serves for exact numbers, which show what the calculation is meant to give, and for
doubles, which are what a program computes with.

What has been rounded is added from left to right. Nothing here mentions a particular
program.
-/

namespace EmotoFleet.Doubles

/-- How the results of operations are rounded. The order is kept, doubles stay as they are,
what has been rounded is not rounded again, and the difference of two such numbers is not
rounded to zero. -/
structure Rounding where
  round : ℚ → ℚ
  mono : Monotone round
  keeps : ∀ x, IsDouble x → round x = x
  again : ∀ x, round (round x) = round x
  apart : ∀ x y, round x = x → round y = y → y < x → 0 < round (x - y)

instance : CoeFun Rounding fun _ => ℚ → ℚ := ⟨Rounding.round⟩

namespace Rounding

/-- Exact arithmetic, which rounds nothing. -/
def exact : Rounding where
  round := id
  mono := monotone_id
  keeps := fun _ _ => rfl
  again := fun _ => rfl
  apart := fun _ _ _ _ lt => sub_pos.mpr lt

/-- Double precision. -/
def double : Rounding where
  round := toDouble
  mono := fun _ _ => toDouble_mono
  keeps := fun _ => toDouble_of_isDouble
  again := toDouble_toDouble
  apart := by
    intro x y fixedX fixedY lt
    have doubleX : IsDouble x := fixedX ▸ isDouble_toDouble x
    have doubleY : IsDouble y := fixedY ▸ isDouble_toDouble y
    have positive : (0 : ℚ) < 2 ^ (-1074 : ℤ) := zpow_pos (by norm_num) _
    exact positive.trans_le
      (le_toDouble ⟨1, -1074, by norm_num, le_refl _, by simp⟩ (doubleX.apart doubleY lt))

/-- The numbers of a list added one after another, starting from zero. -/
def sum (rounding : Rounding) (amounts : List ℚ) : ℚ :=
  amounts.foldl (fun sum amount => rounding (sum + rounding amount)) 0

/-- The exact rounding leaves every number. -/
@[simp] theorem exact_apply (x : ℚ) : exact x = x := rfl

variable (rounding : Rounding) {x y : ℚ}

/-- Whole numbers of ordinary size are left as they are. -/
theorem whole {n : ℤ} (small : |n| < 2 ^ 53) : rounding n = n :=
  rounding.keeps _ ⟨n, 0, small, by norm_num, by simp⟩

/-- Zero is left as it is. -/
@[simp] theorem round_zero : rounding 0 = 0 := by
  have whole := rounding.whole (n := 0) (by norm_num)
  rwa [Int.cast_zero] at whole

/-- A number that is not negative stays so. -/
theorem round_nonneg (nonneg : 0 ≤ x) : 0 ≤ rounding x := by
  rw [← rounding.round_zero]
  exact rounding.mono nonneg

/-- A number that is not positive stays so. -/
theorem round_nonpos (nonpos : x ≤ 0) : rounding x ≤ 0 := by
  rw [← rounding.round_zero]
  exact rounding.mono nonpos

/-- A positive whole number stays positive. -/
theorem round_pos {n : ℤ} (positive : 0 < n) : 0 < rounding n := by
  have one := rounding.whole (n := 1) (by norm_num)
  have least : rounding ((1 : ℤ) : ℚ) ≤ rounding n :=
    rounding.mono (Int.cast_le.mpr (Int.add_one_le_of_lt positive))
  rw [one] at least
  exact (by norm_num : (0 : ℚ) < (1 : ℤ)).trans_le least

/-- A negative whole number stays negative. -/
theorem round_neg {n : ℤ} (negative : n < 0) : rounding n < 0 := by
  have one := rounding.whole (n := -1) (by norm_num)
  have most : rounding n ≤ rounding ((-1 : ℤ) : ℚ) :=
    rounding.mono (Int.cast_le.mpr (Int.le_sub_one_of_lt negative))
  rw [one] at most
  exact most.trans_lt (by norm_num)

/-- No whole number but zero is rounded to zero. -/
theorem round_eq_zero_iff (n : ℤ) : rounding n = 0 ↔ n = 0 := by
  constructor
  case mp =>
    intro zero
    rcases lt_trichotomy n 0 with negative | rfl | positive
    · exact absurd zero (rounding.round_neg negative).ne
    · rfl
    · exact absurd zero (rounding.round_pos positive).ne'
  case mpr =>
    rintro rfl
    rw [Int.cast_zero, round_zero]

/-- The positive part of a rounded number is a number of the rounding. -/
theorem max_again (x : ℚ) : rounding (max 0 (rounding x)) = max 0 (rounding x) := by
  rcases max_choice 0 (rounding x) with same | same
  · rw [same, round_zero]
  · rw [same, rounding.again]

/-- What has been rounded bounds a number from below after rounding, too. -/
theorem le_round (fixed : rounding x = x) (le : x ≤ y) : x ≤ rounding y := by
  rw [← fixed]
  exact rounding.mono le

/-- Of two numbers that have been rounded, rounding tells which is greater. -/
theorem round_sub_nonpos_iff (fixedX : rounding x = x) (fixedY : rounding y = y) :
    rounding (x - y) ≤ 0 ↔ x ≤ y := by
  constructor
  case mp =>
    intro nonpos
    by_contra greater
    exact absurd (rounding.apart x y fixedX fixedY (not_le.mp greater)) (not_lt.mpr nonpos)
  case mpr => exact fun le => rounding.round_nonpos (sub_nonpos.mpr le)

/-- Two sums that are not negative add up to zero exactly when both are zero. -/
theorem round_add_eq_zero_iff (fixedX : rounding x = x) (fixedY : rounding y = y) (nonnegX : 0 ≤ x)
    (nonnegY : 0 ≤ y) : rounding (x + y) = 0 ↔ x = 0 ∧ y = 0 := by
  constructor
  case mp =>
    intro zero
    have first := rounding.le_round fixedX (le_add_of_nonneg_right nonnegY)
    have second := rounding.le_round fixedY (le_add_of_nonneg_left nonnegX)
    rw [zero] at first second
    exact ⟨le_antisymm first nonnegX, le_antisymm second nonnegY⟩
  case mpr =>
    rintro ⟨rfl, rfl⟩
    rw [add_zero, round_zero]

/-! ## Sums -/

section Sums

variable {ρ : Type} {start : ℚ}

/-- A running sum is a number of the rounding. -/
theorem foldl_again (fixed : rounding start = start) (amounts : List ℚ) :
    rounding (amounts.foldl (fun sum amount => rounding (sum + rounding amount)) start) =
      amounts.foldl (fun sum amount => rounding (sum + rounding amount)) start := by
  induction amounts generalizing start with
  | nil => exact fixed
  | cons amount rest inductionHypothesis => exact inductionHypothesis (rounding.again _)

/-- A sum is a number of the rounding. -/
@[simp] theorem sum_again (amounts : List ℚ) : rounding (rounding.sum amounts) = rounding.sum amounts :=
  rounding.foldl_again rounding.round_zero amounts

/-- Nothing falls while no amount is negative. -/
theorem le_foldl (fixed : rounding start = start) {amounts : List ℚ}
    (nonneg : ∀ amount ∈ amounts, 0 ≤ amount) :
    start ≤ amounts.foldl (fun sum amount => rounding (sum + rounding amount)) start := by
  induction amounts generalizing start with
  | nil => exact le_refl start
  | cons amount rest inductionHypothesis =>
    obtain ⟨first, others⟩ := List.forall_mem_cons.mp nonneg
    have grown := rounding.le_round fixed (le_add_of_nonneg_right (rounding.round_nonneg first))
    exact grown.trans (inductionHypothesis (rounding.again _) others)

/-- A sum of amounts that are not negative is not negative. -/
theorem sum_nonneg {amounts : List ℚ} (nonneg : ∀ amount ∈ amounts, 0 ≤ amount) :
    0 ≤ rounding.sum amounts :=
  rounding.le_foldl rounding.round_zero nonneg

/-- Rows that are left out add as much as rows of zero. -/
theorem foldl_chosen (fixed : rounding start = start) (chosen : ρ → Bool) (amount : ρ → ℚ)
    (rows : List ρ) :
    ((rows.filter chosen).map amount).foldl (fun sum amount => rounding (sum + rounding amount))
        start =
      (rows.map fun row => if chosen row then amount row else 0).foldl
        (fun sum amount => rounding (sum + rounding amount)) start := by
  induction rows generalizing start with
  | nil => rfl
  | cons row rest inductionHypothesis =>
    cases taken : chosen row with
    | true =>
      rw [List.filter_cons_of_pos taken, List.map_cons, List.map_cons, List.foldl_cons,
        List.foldl_cons, if_pos taken]
      exact inductionHypothesis (rounding.again _)
    | false =>
      rw [List.filter_cons_of_neg (by simp [taken]), List.map_cons, List.foldl_cons,
        if_neg (by simp [taken]), round_zero, add_zero, fixed]
      exact inductionHypothesis fixed

/-- The sum of the chosen rows is that of all rows with the others at zero. -/
theorem sum_chosen (chosen : ρ → Bool) (amount : ρ → ℚ) (rows : List ρ) :
    rounding.sum ((rows.filter chosen).map amount) =
      rounding.sum (rows.map fun row => if chosen row then amount row else 0) :=
  rounding.foldl_chosen rounding.round_zero chosen amount rows

end Sums

/-! ## Sums without rounding -/

section Exactly

variable {amounts : List ℚ}

/-- The exact sum of any of the amounts stays as it is. -/
def AddsExactly (amounts : List ℚ) : Prop :=
  ∀ chosen : List ℚ, chosen.Sublist amounts → rounding ((chosen.map rounding).sum) = (chosen.map rounding).sum

variable {rounding}

/-- Amounts among others that add exactly do so too. -/
theorem AddsExactly.sublist {fewer : List ℚ} (exactly : rounding.AddsExactly amounts)
    (sublist : fewer.Sublist amounts) : rounding.AddsExactly fewer :=
  fun chosen among => exactly chosen (among.trans sublist)

/-- A running sum is exact where every part of it is. -/
theorem foldl_exactly {start : ℚ}
    (exactly : ∀ chosen : List ℚ, chosen.Sublist amounts →
      rounding (start + (chosen.map rounding).sum) = start + (chosen.map rounding).sum) :
    amounts.foldl (fun sum amount => rounding (sum + rounding amount)) start =
      start + (amounts.map rounding).sum := by
  induction amounts generalizing start with
  | nil => exact (add_zero start).symm
  | cons amount rest inductionHypothesis =>
    have first := exactly [amount] (List.cons_sublist_cons.mpr (List.nil_sublist rest))
    rw [List.map_singleton, List.sum_singleton] at first
    rw [List.foldl_cons, first, inductionHypothesis, List.map_cons, List.sum_cons, add_assoc]
    intro chosen among
    have whole := exactly (amount :: chosen) (List.cons_sublist_cons.mpr among)
    rwa [List.map_cons, List.sum_cons, ← add_assoc] at whole

/-- Amounts that add exactly have their exact sum. -/
theorem AddsExactly.sum_eq (exactly : rounding.AddsExactly amounts) :
    rounding.sum amounts = (amounts.map rounding).sum := by
  refine (foldl_exactly ?_).trans (zero_add _)
  intro chosen among
  rw [zero_add]
  exact exactly chosen among

/-- Without rounding every amount adds exactly. -/
theorem exact_addsExactly (amounts : List ℚ) : exact.AddsExactly amounts := fun _ _ => rfl

/-- Without rounding a sum is the sum. -/
@[simp] theorem exact_sum (amounts : List ℚ) : exact.sum amounts = amounts.sum :=
  (exact_addsExactly amounts).sum_eq.trans (congrArg List.sum (List.map_id amounts))

/-! Whole numbers whose sum has fewer than 54 bits -/

section Whole

variable {wholes : List Nat} (small : wholes.sum < 2 ^ 53)
include small

end Whole
end Exactly
end Rounding

end EmotoFleet.Doubles
