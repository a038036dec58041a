import Mathlib.Data.List.Perm.Basic

/-!
# Pages of an ordered list

Rows in descending order of a key are shown page by page. A row whose key no other row has
stands where its rank says, in whatever order the rows with equal keys come; and its rank only
grows when rows are added.

Nothing here mentions a particular program.
-/

namespace EmotoFleet.Paging

variable {α : Type*} (key : α → Int)

def Descending (rows : List α) : Prop :=
  rows.Pairwise fun earlier later => key later ≤ key earlier

instance (rows : List α) : Decidable (Descending key rows) :=
  inferInstanceAs (Decidable (rows.Pairwise _))

/-- How many rows come before a row with this key. -/
def rank (rows : List α) (row : α) : Nat :=
  rows.countP fun other => decide (key row < key other)

/-- The rows of a page, counted from one. -/
def page (size number : Nat) (rows : List α) : List α :=
  (rows.drop ((number - 1) * size)).take size

variable {key} {rows more : List α} {row : α}

theorem rank_le_append : rank key rows row ≤ rank key (rows ++ more) row := by
  rw [rank, rank, List.countP_append]
  exact Nat.le_add_right _ _

theorem rank_perm (same : rows.Perm more) : rank key rows row = rank key more row :=
  same.countP_eq _

/-- A row does not come before itself. -/
theorem rank_lt_length (listed : row ∈ rows) : rank key rows row < rows.length := by
  refine Nat.lt_of_le_of_ne List.countP_le_length fun all => ?_
  have before := List.countP_eq_length.mp all row listed
  exact absurd (of_decide_eq_true before) (Int.lt_irrefl _)

/-- A row whose key is its own stands at its rank. By induction on the rows. -/
theorem getElem?_rank (ordered : Descending key rows) (listed : row ∈ rows)
    (own : ∀ other ∈ rows, key other = key row → other = row) :
    rows[rank key rows row]? = some row := by
  induction rows with
  | nil => cases listed
  | cons first rest inductionHypothesis =>
    obtain ⟨firstBefore, restOrdered⟩ := List.pairwise_cons.mp ordered
    by_cases same : first = row
    · subst same
      have nobody : rank key (first :: rest) first = 0 := by
        apply List.countP_eq_zero.mpr
        intro other member
        cases List.mem_cons.mp member with
        | inl itself => simp [itself]
        | inr later => simpa using firstBefore other later
      rw [nobody]
      rfl
    · have later : row ∈ rest := (List.mem_cons.mp listed).resolve_left (Ne.symm same)
      have before : key row < key first := by
        refine Int.lt_iff_le_and_ne.mpr ⟨firstBefore row later, fun equal => same ?_⟩
        exact own first List.mem_cons_self equal.symm
      have next : rank key (first :: rest) row = rank key rest row + 1 :=
        List.countP_cons_of_pos (decide_eq_true before)
      rw [next, List.getElem?_cons_succ]
      exact inductionHypothesis restOrdered later fun other member =>
        own other (List.mem_cons_of_mem _ member)

/-- What stands at a place is shown on the page of the place. -/
theorem mem_page_of_getElem? {size number place : Nat} (found : rows[place]? = some row)
    (after : (number - 1) * size ≤ place) (before : place < (number - 1) * size + size) :
    row ∈ page size number rows := by
  apply List.mem_of_getElem? (i := place - (number - 1) * size)
  rw [page, List.getElem?_take_of_lt (by omega), List.getElem?_drop, Nat.add_sub_of_le after]
  exact found

end EmotoFleet.Paging
