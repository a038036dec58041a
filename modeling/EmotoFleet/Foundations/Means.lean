import Mathlib.Algebra.Order.Field.Basic
import Mathlib.Algebra.Order.BigOperators.Group.List
import Mathlib.Algebra.BigOperators.Ring.List
import Mathlib.Tactic.Linarith

/-!
# Means

A mean of scores, weighted or not, lies between two of the scores. It stays there under a
rounding that keeps the order and leaves the scores as they are. Nothing here mentions a
particular program.
-/

namespace EmotoFleet.Means

variable {ρ K : Type*}

section Orders

variable [Preorder K] {score : ρ → K} {rows : List ρ} {value : K}

/-- Some row scores at most the value, and some row at least. -/
def Between (score : ρ → K) (rows : List ρ) (value : K) : Prop :=
  (∃ row ∈ rows, score row ≤ value) ∧ ∃ row ∈ rows, value ≤ score row

theorem Between.round {round : K → K} (mono : Monotone round)
    (fixed : ∀ row ∈ rows, round (score row) = score row) (between : Between score rows value) :
    Between score rows (round value) := by
  obtain ⟨⟨least, leastMem, above⟩, greatest, greatestMem, below⟩ := between
  refine ⟨⟨least, leastMem, ?_⟩, greatest, greatestMem, ?_⟩
  · rw [← fixed least leastMem]
    exact mono above
  · rw [← fixed greatest greatestMem]
    exact mono below

end Orders

variable [Field K] {score weight : ρ → K} {rows : List ρ}

def weightedMean (score weight : ρ → K) (rows : List ρ) : K :=
  (rows.map fun row => score row * weight row).sum / (rows.map weight).sum

def mean (score : ρ → K) (rows : List ρ) : K :=
  (rows.map score).sum / rows.length

/-- The mean is the one in which all rows weigh the same. -/
theorem mean_eq_weightedMean : mean score rows = weightedMean score (fun _ => 1) rows := by
  simp [mean, weightedMean]

variable [LinearOrder K] [IsStrictOrderedRing K]

/-- A row with a weight is what tells a strict comparison of the scores from a weak one. -/
theorem exists_weight_pos (positive : 0 < (rows.map weight).sum) :
    ∃ row ∈ rows, 0 < weight row := by
  apply List.exists_lt_of_sum_lt (fun _ => (0 : K)) weight
  simpa using positive

theorem weightedMean_between (weights : ∀ row ∈ rows, 0 ≤ weight row)
    (positive : 0 < (rows.map weight).sum) :
    Between score rows (weightedMean score weight rows) := by
  obtain ⟨heavy, heavyMem, heavyWeight⟩ := exists_weight_pos positive
  have constant : ∀ value : K,
      (rows.map fun row => value * weight row).sum = value * (rows.map weight).sum := by
    intro value
    exact List.sum_map_mul_left rows weight value
  have total : weightedMean score weight rows * (rows.map weight).sum =
      (rows.map fun row => score row * weight row).sum :=
    div_mul_cancel₀ _ positive.ne'
  constructor
  · by_contra! above
    have more : (rows.map fun row => weightedMean score weight rows * weight row).sum <
        (rows.map fun row => score row * weight row).sum := by
      apply List.sum_lt_sum
      · intro row mem
        exact mul_le_mul_of_nonneg_right (above row mem).le (weights row mem)
      · exact ⟨heavy, heavyMem, mul_lt_mul_of_pos_right (above heavy heavyMem) heavyWeight⟩
    rw [constant, total] at more
    exact lt_irrefl _ more
  · by_contra! below
    have less : (rows.map fun row => score row * weight row).sum <
        (rows.map fun row => weightedMean score weight rows * weight row).sum := by
      apply List.sum_lt_sum
      · intro row mem
        exact mul_le_mul_of_nonneg_right (below row mem).le (weights row mem)
      · exact ⟨heavy, heavyMem, mul_lt_mul_of_pos_right (below heavy heavyMem) heavyWeight⟩
    rw [constant, total] at less
    exact lt_irrefl _ less

theorem mean_between (inhabited : rows ≠ []) : Between score rows (mean score rows) := by
  rw [mean_eq_weightedMean]
  apply weightedMean_between
  · intro row _
    exact zero_le_one
  · have rowsPos : 0 < rows.length := List.length_pos_iff.mpr inhabited
    simpa using rowsPos

end EmotoFleet.Means
