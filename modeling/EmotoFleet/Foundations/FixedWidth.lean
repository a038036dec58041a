import Mathlib.Algebra.GroupWithZero.Nat
import Mathlib.Data.List.Basic

/-!
# Texts of numeric fields with fixed widths

A record of numbers is written as a text by padding each number to the width of
its field and closing the field with a separator. Characters are represented by
their rank in the order in which texts are compared, and the ranks of the ten
digits increase. Texts with one layout are then ordered as their records are,
field by field.

Nothing here mentions a particular program.
-/

namespace EmotoFleet.FixedWidth

/-- Lists with first parts of one length are compared by these parts, and by what
follows only when the parts are equal. -/
theorem append_lt_append_iff {left right leftRest rightRest : List Nat}
    (sameLength : left.length = right.length) :
    left ++ leftRest < right ++ rightRest ↔ left < right ∨ left = right ∧ leftRest < rightRest := by
  induction left generalizing right with
  | nil =>
    have empty : right = [] := List.length_eq_zero_iff.mp sameLength.symm
    subst empty
    simp
  | cons head tail inductionHypothesis =>
    cases right with
    | nil => simp at sameLength
    | cons head' tail' =>
      have sameTail : tail.length = tail'.length := by simpa using sameLength
      simp only [List.cons_append, List.cons_lt_cons_iff, inductionHypothesis sameTail,
        List.cons.injEq]
      constructor
      · rintro (smaller | ⟨same, tailSmaller | ⟨sameRest, smaller⟩⟩)
        · exact Or.inl (Or.inl smaller)
        · exact Or.inl (Or.inr ⟨same, tailSmaller⟩)
        · exact Or.inr ⟨⟨same, sameRest⟩, smaller⟩
      · rintro ((smaller | ⟨same, tailSmaller⟩) | ⟨⟨same, sameRest⟩, smaller⟩)
        · exact Or.inl smaller
        · exact Or.inr ⟨same, Or.inl tailSmaller⟩
        · exact Or.inr ⟨same, Or.inr ⟨sameRest, smaller⟩⟩

section Digits

universe u v
variable {τ : Type u} {ρ : Type v}

/-- The decimal digits of a number, most significant first, padded to a width. A
digit is written as its encoding. -/
def digits (encode : Nat → τ) : Nat → Nat → List τ
  | 0, _ => []
  | width + 1, number => digits encode width (number / 10) ++ [encode (number % 10)]

@[simp] theorem length_digits (encode : Nat → τ) (width number : Nat) :
    (digits encode width number).length = width := by
  induction width generalizing number with
  | zero => rfl
  | succ width inductionHypothesis => simp [digits, inductionHypothesis]

theorem map_digits (encode : Nat → τ) (rank : τ → ρ) (width number : Nat) :
    (digits encode width number).map rank = digits (fun digit => rank (encode digit)) width number := by
  induction width generalizing number with
  | zero => rfl
  | succ width inductionHypothesis => simp [digits, inductionHypothesis]

end Digits

variable (digitRank : Nat → Nat)

/-- A layout gives each field its width and the separator that closes it. -/
def render : List (Nat × List Nat) → List Nat → List Nat
  | (width, separator) :: layout, number :: numbers =>
    digits digitRank width number ++ (separator ++ render layout numbers)
  | _, _ => []

/-- The numbers of a record fit into the fields of a layout. -/
def Fits (layout : List (Nat × List Nat)) (numbers : List Nat) : Prop :=
  List.Forall₂ (fun field number => number < 10 ^ field.1) layout numbers

variable {digitRank} (increasing : ∀ left < 10, ∀ right < 10,
  (digitRank left < digitRank right ↔ left < right))

include increasing

theorem digits_injective {width : Nat} {left right : Nat} (leftFits : left < 10 ^ width)
    (rightFits : right < 10 ^ width)
    (same : digits digitRank width left = digits digitRank width right) : left = right := by
  induction width generalizing left right with
  | zero =>
    rw [Nat.pow_zero] at leftFits rightFits
    omega
  | succ width inductionHypothesis =>
    rw [Nat.pow_succ] at leftFits rightFits
    obtain ⟨leading, last⟩ := List.append_inj' same rfl
    have sameLeading : left / 10 = right / 10 :=
      inductionHypothesis (by omega) (by omega) leading
    have sameRank : digitRank (left % 10) = digitRank (right % 10) := List.singleton_inj.mp last
    have notSmaller := increasing (left % 10) (by omega) (right % 10) (by omega)
    have notLarger := increasing (right % 10) (by omega) (left % 10) (by omega)
    omega

/-- Padded numbers are ordered as the numbers are. -/
theorem digits_lt_iff {width : Nat} {left right : Nat} (leftFits : left < 10 ^ width)
    (rightFits : right < 10 ^ width) :
    digits digitRank width left < digits digitRank width right ↔ left < right := by
  induction width generalizing left right with
  | zero =>
    rw [Nat.pow_zero] at leftFits rightFits
    simp only [digits, List.lt_irrefl, false_iff]
    omega
  | succ width inductionHypothesis =>
    rw [Nat.pow_succ] at leftFits rightFits
    have leading : digits digitRank width (left / 10) < digits digitRank width (right / 10) ↔
        left / 10 < right / 10 := inductionHypothesis (by omega) (by omega)
    have same : digits digitRank width (left / 10) = digits digitRank width (right / 10) ↔
        left / 10 = right / 10 :=
      ⟨digits_injective increasing (by omega) (by omega), fun equal => equal ▸ rfl⟩
    have last := increasing (left % 10) (by omega) (right % 10) (by omega)
    rw [digits, digits, append_lt_append_iff (by simp), leading, same]
    simp only [List.cons_lt_cons_iff, List.lt_irrefl, and_false, or_false, last]
    omega

/-- Records written with one layout are ordered field by field. -/
theorem render_lt_iff {layout : List (Nat × List Nat)} {left right : List Nat}
    (leftFits : Fits layout left) (rightFits : Fits layout right) :
    render digitRank layout left < render digitRank layout right ↔ left < right := by
  induction leftFits generalizing right with
  | nil =>
    cases rightFits
    simp [render]
  | @cons field number layout numbers fits _ inductionHypothesis =>
    cases rightFits with
    | cons rightField rightRest =>
      rename_i number' numbers'
      have same : digits digitRank field.1 number = digits digitRank field.1 number' ↔
          number = number' :=
        ⟨digits_injective increasing fits rightField, fun equal => equal ▸ rfl⟩
      rw [render, render, append_lt_append_iff (by simp),
        digits_lt_iff increasing fits rightField, same, append_lt_append_iff rfl,
        inductionHypothesis rightRest, List.cons_lt_cons_iff]
      simp only [List.lt_irrefl, true_and, false_or]

end EmotoFleet.FixedWidth
