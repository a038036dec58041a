import Mathlib.Algebra.BigOperators.Group.List.Lemmas
import Mathlib.Algebra.GroupWithZero.Nat
import Mathlib.Algebra.Ring.Int.Defs
import Mathlib.Data.Finset.Card
import Mathlib.Data.Finset.Union
import Mathlib.Data.List.ProdSigma

/-!
# Counting over overlapping groups

Adding up the sizes of several groups counts an element once for every group it
is in. The sum is the size of the union exactly when no element is in two
groups, which is also what it means that every element is counted at most once.

A nested loop that adds to an accumulator for every admitted pair is one loop
over the pairs, and its sum is the number of admitted pairs times the addend.
What is counted under each of several keys adds up to the whole.

Nothing here mentions a particular program.
-/

namespace EmotoFleet.DistinctCounts

universe u v w
variable {α : Type u} {β : Type v} {σ : Type w} [DecidableEq α]

/-- The elements of all groups together. -/
def union (groups : List (Finset α)) : Finset α := groups.foldr (· ∪ ·) ∅

/-- The number of groups that an element is in. -/
def timesCounted (groups : List (Finset α)) (element : α) : Nat :=
  groups.countP (element ∈ ·)

@[simp] theorem union_nil : union ([] : List (Finset α)) = ∅ := rfl

@[simp] theorem union_cons (group : Finset α) (groups : List (Finset α)) :
    union (group :: groups) = group ∪ union groups := rfl

theorem mem_union {groups : List (Finset α)} {element : α} :
    element ∈ union groups ↔ ∃ group ∈ groups, element ∈ group := by
  induction groups with
  | nil => simp
  | cons group groups inductionHypothesis => simp [inductionHypothesis]

theorem disjoint_union {group : Finset α} {groups : List (Finset α)} :
    Disjoint group (union groups) ↔ ∀ other ∈ groups, Disjoint group other := by
  induction groups with
  | nil => simp
  | cons other groups inductionHypothesis => simp [inductionHypothesis, Finset.disjoint_union_right]

theorem card_union_le_sum (groups : List (Finset α)) :
    (union groups).card ≤ (groups.map Finset.card).sum := by
  induction groups with
  | nil => simp
  | cons group groups inductionHypothesis =>
    have together := Finset.card_union_le group (union groups)
    simp only [union_cons, List.map_cons, List.sum_cons]
    omega

/-- The sum of the sizes is the size of the union exactly for disjoint groups. -/
theorem sum_card_eq_card_union_iff (groups : List (Finset α)) :
    (groups.map Finset.card).sum = (union groups).card ↔ groups.Pairwise Disjoint := by
  induction groups with
  | nil => simp
  | cons group groups inductionHypothesis =>
    have rest := card_union_le_sum groups
    have together := Finset.card_union_le group (union groups)
    rw [List.pairwise_cons, ← disjoint_union, ← Finset.card_union_eq_card_add_card,
      ← inductionHypothesis]
    simp only [union_cons, List.map_cons, List.sum_cons]
    constructor
    · intro same
      constructor
      · omega
      · omega
    · rintro ⟨first, others⟩
      omega

theorem timesCounted_pos {groups : List (Finset α)} {element : α} :
    0 < timesCounted groups element ↔ element ∈ union groups := by
  rw [timesCounted, List.countP_pos_iff, mem_union]
  simp

theorem timesCounted_le_one {groups : List (Finset α)} :
    groups.Pairwise Disjoint ↔ ∀ element, timesCounted groups element ≤ 1 := by
  induction groups with
  | nil => simp [timesCounted]
  | cons group groups inductionHypothesis =>
    have counted : ∀ element, timesCounted (group :: groups) element =
        timesCounted groups element + if element ∈ group then 1 else 0 := by
      intro element
      simp [timesCounted, List.countP_cons]
    rw [List.pairwise_cons, ← disjoint_union, inductionHypothesis]
    constructor
    · rintro ⟨separate, once⟩ element
      rw [counted]
      split
      · rename_i member
        have absent := Finset.disjoint_left.mp separate member
        have none' := mt timesCounted_pos.mp absent
        omega
      · exact once element
    · intro once
      constructor
      · apply Finset.disjoint_left.mpr
        intro element member elsewhere
        have again := timesCounted_pos.mpr elsewhere
        have most := once element
        rw [counted, if_pos member] at most
        omega
      · intro element
        have most := once element
        rw [counted] at most
        omega

omit [DecidableEq α] in
/-- A loop within a loop is a loop over the pairs. -/
theorem foldl_foldl (step : σ → α → β → σ) (outer : List α) (inner : List β) (start : σ) :
    outer.foldl (fun state first => inner.foldl (fun state second => step state first second) state)
        start =
      (outer.product inner).foldl (fun state pair => step state pair.1 pair.2) start := by
  induction outer generalizing start with
  | nil => rfl
  | cons first outer inductionHypothesis =>
    simp [List.product, List.foldl_append, List.foldl_map] at inductionHypothesis ⊢
    exact inductionHypothesis _

omit [DecidableEq α] in
/-- What a loop adds for every admitted element, it adds as often as there are
such elements. -/
theorem foldl_charged (admitted : α → Bool) (charge : Int) (elements : List α) (start : Int) :
    elements.foldl (fun total element => if admitted element then total + charge else total) start =
      start + elements.countP admitted * charge := by
  induction elements generalizing start with
  | nil => simp
  | cons element elements inductionHypothesis =>
    simp only [List.foldl_cons, inductionHypothesis, List.countP_cons]
    cases admitted element with
    | false => simp
    | true =>
      simp [Int.add_mul]
      omega

omit [DecidableEq α] in
theorem foldl_counted (admitted : α → Bool) (elements : List α) (start : Nat) :
    elements.foldl (fun total element => if admitted element then total + 1 else total) start =
      start + elements.countP admitted := by
  induction elements generalizing start with
  | nil => rfl
  | cons element elements inductionHypothesis =>
    simp only [List.foldl_cons, inductionHypothesis, List.countP_cons]
    cases admitted element with
    | false => simp
    | true =>
      simp
      omega

omit [DecidableEq α] in
/-- What a loop appends for every element. -/
theorem foldl_recorded (record : α → β) (elements : List α) (start : List β) :
    elements.foldl (fun records element => records ++ [record element]) start =
      start ++ elements.map record := by
  induction elements generalizing start with
  | nil => simp
  | cons element elements inductionHypothesis => simp [inductionHypothesis]

omit [DecidableEq α] in
/-- The charges that were listed one by one. -/
theorem sum_charged (admitted : α → Bool) (charge : Int) (elements : List α) :
    (elements.map fun element => if admitted element then charge else 0).sum =
      elements.countP admitted * charge := by
  induction elements with
  | nil => simp
  | cons element elements inductionHypothesis =>
    rw [List.map_cons, List.sum_cons, inductionHypothesis, List.countP_cons]
    cases admitted element with
    | false => simp
    | true =>
      simp [Int.add_mul]
      omega

omit [DecidableEq α] in
/-- Counting under every key counts each element once, if the keys are distinct. -/
theorem sum_countP_key [DecidableEq β] (key : α → β) (admitted : α → Bool) {keys : List β}
    (distinct : keys.Nodup) {elements : List α} (keyed : ∀ element ∈ elements, key element ∈ keys) :
    (keys.map fun own =>
        elements.countP fun element => decide (key element = own) && admitted element).sum =
      elements.countP admitted := by
  induction elements with
  | nil => simp
  | cons element elements inductionHypothesis =>
    have rest := inductionHypothesis fun other member => keyed other (List.mem_cons_of_mem _ member)
    have once : keys.count (key element) = 1 :=
      List.count_eq_one_of_mem distinct (keyed element List.mem_cons_self)
    have here : (keys.map fun own =>
        if (decide (key element = own) && admitted element) = true then 1 else 0).sum =
          if admitted element = true then 1 else 0 := by
      rw [List.sum_map_eq_nsmul_single (key element), once]
      case hf =>
        intro own other _
        simp [Ne.symm other]
      simp
    simp only [List.countP_cons, List.sum_map_add]
    rw [rest, here]

omit [DecidableEq α] in
/-- A component of the accumulator that a loop computes on its own. -/
theorem foldl_component {τ : Type*} (view : σ → τ) (step : σ → α → σ) (own : τ → α → τ)
    (follows : ∀ state element, view (step state element) = own (view state) element)
    (elements : List α) (start : σ) :
    view (elements.foldl step start) = elements.foldl own (view start) := by
  induction elements generalizing start with
  | nil => rfl
  | cons element elements inductionHypothesis =>
    rw [List.foldl_cons, List.foldl_cons, inductionHypothesis, follows]

end EmotoFleet.DistinctCounts
