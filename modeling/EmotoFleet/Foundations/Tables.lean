import Mathlib.Algebra.BigOperators.Group.List.Basic
import Mathlib.Data.List.Nodup
import Mathlib.Tactic.Abel

/-!
# Tables with a unique key

A table is a list of rows; a column is unique when no two rows have the same value in
it. A row is then known by its key, and a search for its key finds it alone.

Nothing here mentions a particular program.
-/

namespace EmotoFleet.Tables

universe u v
variable {ρ : Type u} {κ : Type v} {key : ρ → κ} {rows : List ρ}

/-- Rows with one key are one row. -/
theorem eq_of_key_eq (unique : (rows.map key).Nodup) {left right : ρ} (leftStored : left ∈ rows)
    (rightStored : right ∈ rows) (same : key left = key right) : left = right :=
  List.inj_on_of_nodup_map unique leftStored rightStored same

/-- What is looked up is listed. -/
theorem mem_of_lookup [DecidableEq κ] {entries : List (κ × ρ)} {sought : κ} {row : ρ}
    (found : entries.lookup sought = some row) : (sought, row) ∈ entries := by
  obtain ⟨before, after, rfl, _⟩ := List.lookup_eq_some_iff.mp found
  exact List.mem_append_right _ List.mem_cons_self

/-- A search for the key of a row finds that row alone. By induction on the table. -/
theorem filter_key_eq [DecidableEq κ] (unique : (rows.map key).Nodup) {row : ρ} (stored : row ∈ rows) :
    rows.filter (fun other => decide (key other = key row)) = [row] := by
  induction rows with
  | nil => cases stored
  | cons first rest inductionHypothesis =>
    rw [List.map_cons, List.nodup_cons] at unique
    cases List.mem_cons.mp stored with
    | inl same =>
      subst same
      have others : rest.filter (fun other => decide (key other = key row)) = [] := by
        apply List.filter_eq_nil_iff.mpr
        intro other present equal
        exact unique.1 (List.mem_map.mpr ⟨other, present, of_decide_eq_true equal⟩)
      rw [List.filter_cons, others, if_pos (decide_eq_true rfl)]
    | inr later =>
      have apart : key first ≠ key row := by
        intro equal
        exact unique.1 (List.mem_map.mpr ⟨row, later, equal.symm⟩)
      rw [List.filter_cons_of_neg (by simpa using apart), inductionHypothesis unique.2 later]

/-- The search for a key finds a row exactly if the row is there and has the key. -/
theorem find?_key_iff [DecidableEq κ] (unique : (rows.map key).Nodup) {wanted : κ} {row : ρ} :
    rows.find? (fun other => decide (key other = wanted)) = some row ↔
      row ∈ rows ∧ key row = wanted := by
  constructor
  · intro found
    exact ⟨List.mem_of_find?_eq_some found, by simpa using List.find?_some found⟩
  · rintro ⟨listed, same⟩
    cases found : rows.find? (fun other => decide (key other = wanted)) with
    | none =>
      have missed := List.find?_eq_none.mp found row listed
      rw [same] at missed
      simp at missed
    | some other =>
      have there := List.mem_of_find?_eq_some found
      have equal : key other = wanted := by simpa using List.find?_some found
      rw [eq_of_key_eq unique there listed (equal.trans same.symm)]

/-- Appending a row keeps a column unique exactly if its key is new. -/
theorem unique_append_iff (row : ρ) :
    ((rows ++ [row]).map key).Nodup ↔ (rows.map key).Nodup ∧ key row ∉ rows.map key := by
  rw [List.map_append, List.nodup_append]
  constructor
  · intro ⟨unique, _, apart⟩
    exact ⟨unique, fun listed => apart _ listed _ (List.mem_singleton_self _) rfl⟩
  · rintro ⟨unique, new⟩
    refine ⟨unique, List.nodup_singleton _, ?_⟩
    intro earlier listed later single same
    rw [List.mem_singleton.mp single] at same
    exact new (same ▸ listed)

/-- Among the rows with some property, a key is counted once if its row has the property
and never otherwise. -/
theorem countP_key [DecidableEq κ] (unique : (rows.map key).Nodup) {row : ρ} (stored : row ∈ rows)
    (chosen : ρ → Bool) :
    (rows.filter chosen).countP (fun other => decide (key other = key row)) = (chosen row).toNat := by
  rw [List.countP_eq_length_filter, List.filter_filter]
  have swapped : (rows.filter fun other => decide (key other = key row) && chosen other) =
      (rows.filter fun other => decide (key other = key row)).filter chosen := by
    rw [List.filter_filter]
    congr 1
    funext other
    exact Bool.and_comm ..
  rw [swapped, filter_key_eq unique stored]
  cases holds : chosen row with
  | true => simp [holds]
  | false => simp [holds]

/-- What the rows give rise to, counted by a property that only the results of one row
have. By induction on the table. -/
theorem countP_flatMap_key {β : Type*} (results : ρ → List β) (holds : β → Bool)
    (unique : (rows.map key).Nodup) {row : ρ} (stored : row ∈ rows)
    (foreign : ∀ other ∈ rows, key other ≠ key row → (results other).countP holds = 0) :
    (rows.flatMap results).countP holds = (results row).countP holds := by
  induction rows with
  | nil => cases stored
  | cons first rest inductionHypothesis =>
    rw [List.map_cons, List.nodup_cons] at unique
    have restForeign : ∀ other ∈ rest, key other ≠ key row → (results other).countP holds = 0 :=
      fun other present => foreign other (List.mem_cons_of_mem _ present)
    rw [List.flatMap_cons, List.countP_append]
    cases List.mem_cons.mp stored with
    | inl same =>
      subst same
      have others : (rest.flatMap results).countP holds = 0 := by
        apply List.countP_eq_zero.mpr
        intro result made
        obtain ⟨other, present, ofOther⟩ := List.mem_flatMap.mp made
        have apart : key other ≠ key row := fun equal =>
          unique.1 (List.mem_map.mpr ⟨other, present, equal⟩)
        exact List.countP_eq_zero.mp (restForeign other present apart) result ofOther
      rw [others, Nat.add_zero]
    | inr later =>
      have apart : key first ≠ key row := by
        intro equal
        exact unique.1 (List.mem_map.mpr ⟨row, later, equal.symm⟩)
      rw [foreign first (List.mem_cons_self ..) apart, Nat.zero_add,
        inductionHypothesis unique.2 later restForeign]

section Updates

variable [DecidableEq κ] {wanted : κ} {change : ρ → ρ}

/-- The row with a key is changed in its place. -/
def updateKey (key : ρ → κ) (wanted : κ) (change : ρ → ρ) (rows : List ρ) : List ρ :=
  rows.map fun row => if key row = wanted then change row else row

/-- A column that the change leaves alone stays. -/
theorem map_updateKey {β : Type*} {column : ρ → β} (kept : ∀ row, column (change row) = column row) :
    (updateKey key wanted change rows).map column = rows.map column := by
  induction rows with
  | nil => rfl
  | cons row rest inductionHypothesis =>
    simp only [updateKey, List.map_cons] at inductionHypothesis ⊢
    rw [inductionHypothesis]
    split
    · rw [kept]
    · rfl

theorem mem_updateKey {row : ρ} :
    row ∈ updateKey key wanted change rows ↔
      (∃ old ∈ rows, key old = wanted ∧ change old = row) ∨ row ∈ rows ∧ key row ≠ wanted := by
  rw [updateKey, List.mem_map]
  constructor
  · rintro ⟨old, listed, same⟩
    split at same
    case isTrue equal => exact .inl ⟨old, listed, equal, same⟩
    case isFalse apart => exact .inr ⟨same ▸ listed, same ▸ apart⟩
  · rintro (⟨old, listed, equal, same⟩ | ⟨listed, apart⟩)
    · exact ⟨old, listed, by rw [if_pos equal, same]⟩
    · exact ⟨row, listed, if_neg apart⟩

/-- A change without the key of any row changes nothing. -/
theorem updateKey_absent (absent : wanted ∉ rows.map key) : updateKey key wanted change rows = rows := by
  induction rows with
  | nil => rfl
  | cons row rest inductionHypothesis =>
    rw [List.map_cons, List.mem_cons, not_or] at absent
    rw [updateKey, List.map_cons, if_neg (Ne.symm absent.1)]
    exact congrArg _ (inductionHypothesis absent.2)

/-- A column stays unique where the changed row gets a value that no other row has. -/
theorem nodup_map_updateKey {β : Type*} {column : ρ → β} (keys : (rows.map key).Nodup)
    (unique : (rows.map column).Nodup)
    (fresh : ∀ row ∈ rows, key row = wanted → ∀ other ∈ rows, key other ≠ wanted →
      column other ≠ column (change row)) :
    ((updateKey key wanted change rows).map column).Nodup := by
  induction rows with
  | nil => exact List.nodup_nil
  | cons first rest inductionHypothesis =>
    rw [List.map_cons, List.nodup_cons] at keys unique
    have onward := inductionHypothesis keys.2 unique.2
      fun row listed chosen other otherListed => fresh row (List.mem_cons_of_mem _ listed) chosen
        other (List.mem_cons_of_mem _ otherListed)
    rw [updateKey, List.map_cons, List.map_cons, List.nodup_cons]
    refine ⟨?_, onward⟩
    by_cases chosen : key first = wanted
    · have others : updateKey key wanted change rest = rest := updateKey_absent (chosen ▸ keys.1)
      rw [if_pos chosen]
      rw [updateKey] at others
      rw [others]
      intro taken
      obtain ⟨other, listed, same⟩ := List.mem_map.mp taken
      have apart : key other ≠ wanted := fun equal =>
        keys.1 (List.mem_map.mpr ⟨other, listed, equal.trans chosen.symm⟩)
      exact fresh first (List.mem_cons_self ..) chosen other (List.mem_cons_of_mem _ listed) apart same
    · rw [if_neg chosen]
      intro taken
      obtain ⟨other, listed, same⟩ := List.mem_map.mp taken
      rcases mem_updateKey.mp listed with ⟨old, oldListed, wantedKey, rfl⟩ | ⟨oldListed, _⟩
      · exact fresh old (List.mem_cons_of_mem _ oldListed) wantedKey first (List.mem_cons_self ..)
          chosen same.symm
      · exact unique.1 (List.mem_map.mpr ⟨other, oldListed, same⟩)

/-- The sum over the rows changes by what the changed row contributes. -/
theorem sum_updateKey {M : Type*} [AddCommGroup M] (weight : ρ → M) (unique : (rows.map key).Nodup)
    {row : ρ} (stored : row ∈ rows) :
    ((updateKey key (key row) change rows).map weight).sum =
      (rows.map weight).sum + (weight (change row) - weight row) := by
  induction rows with
  | nil => cases stored
  | cons first rest inductionHypothesis =>
    rw [List.map_cons, List.nodup_cons] at unique
    rw [updateKey, List.map_cons, List.map_cons, List.map_cons, List.sum_cons, List.sum_cons]
    cases List.mem_cons.mp stored with
    | inl same =>
      subst same
      have others : rest.map (fun other => if key other = key row then change other else other) =
          rest :=
        updateKey_absent unique.1
      rw [if_pos rfl, others]
      abel
    | inr later =>
      have apart : key first ≠ key row := by
        intro equal
        exact unique.1 (List.mem_map.mpr ⟨row, later, equal.symm⟩)
      have rest := inductionHypothesis unique.2 later
      rw [updateKey] at rest
      rw [if_neg apart, rest, add_assoc]

/-- A key finds the same row as before, changed if it is the one. -/
theorem find?_updateKey {sought : κ} (kept : ∀ row, key (change row) = key row) :
    (updateKey key wanted change rows).find? (fun row => decide (key row = sought)) =
      (rows.find? fun row => decide (key row = sought)).map fun row =>
        if key row = wanted then change row else row := by
  have sameKey : ∀ row, key (if key row = wanted then change row else row) = key row := by
    intro row
    split
    · exact kept row
    · rfl
  have test : (fun row => decide (key row = sought)) ∘
      (fun row => if key row = wanted then change row else row) =
      fun row => decide (key row = sought) := by
    funext row
    rw [Function.comp_apply, sameKey]
  rw [updateKey, List.find?_map, test]

/-- Rows are chosen as before where the change does not bear on the choice. -/
theorem filter_updateKey {chosen : ρ → Bool} (kept : ∀ row, chosen (change row) = chosen row) :
    (updateKey key wanted change rows).filter chosen =
      updateKey key wanted change (rows.filter chosen) := by
  induction rows with
  | nil => rfl
  | cons row rest inductionHypothesis =>
    simp only [updateKey, List.map_cons] at inductionHypothesis ⊢
    have same : chosen (if key row = wanted then change row else row) = chosen row := by
      split
      · exact kept row
      · rfl
    cases taken : chosen row with
    | false =>
      rw [List.filter_cons_of_neg (by simp [same, taken]),
        List.filter_cons_of_neg (by simp [taken]), inductionHypothesis]
    | true =>
      rw [List.filter_cons_of_pos (same.trans taken), List.filter_cons_of_pos taken,
        inductionHypothesis, List.map_cons]

end Updates

/-- Changes that leave a value one by one leave it together. -/
theorem foldl_unmoved {α β : Type*} {change : α → β → α} {value : α} {changes : List β}
    (stays : ∀ next ∈ changes, change value next = value) : changes.foldl change value = value := by
  induction changes with
  | nil => rfl
  | cons first rest inductionHypothesis =>
    rw [List.foldl_cons, stays first (List.mem_cons_self ..)]
    exact inductionHypothesis fun next listed => stays next (List.mem_cons_of_mem _ listed)

/-- A list of changes of which only one moves a value comes to that change. By induction on
the changes. -/
theorem foldl_own {α β : Type*} {change : α → β → α} {value : α} {own : β} {changes : List β}
    (listed : own ∈ changes) (again : change (change value own) own = change value own)
    (others : ∀ next ∈ changes, next = own ∨
      change value next = value ∧ change (change value own) next = change value own) :
    changes.foldl change value = change value own := by
  have settled : ∀ next ∈ changes, change (change value own) next = change value own := by
    intro next member
    rcases others next member with rfl | ⟨-, kept⟩
    case inl => exact again
    case inr => exact kept
  induction changes with
  | nil => cases listed
  | cons first rest inductionHypothesis =>
    have restSettled := fun next inRest => settled next (List.mem_cons_of_mem _ inRest)
    have restOthers := fun next inRest => others next (List.mem_cons_of_mem _ inRest)
    rw [List.foldl_cons]
    rcases others first (List.mem_cons_self ..) with rfl | ⟨kept, -⟩
    case inl => exact foldl_unmoved restSettled
    case inr =>
      rw [kept]
      rcases List.mem_cons.mp listed with rfl | later
      case inl =>
        rw [kept] at restSettled ⊢
        exact foldl_unmoved restSettled
      case inr => exact inductionHypothesis later restOthers restSettled

end EmotoFleet.Tables
