import EmotoFleet.Foundations.Tables

/-!
# Replies that reveal no more than a view

An observer is entitled to a view of a state. A reply is confined at a state if every
state with the same view gives the same reply; a reply is not confined where a twin,
another state with the same view, gives another one. Rows that are chosen among the
visible ones are determined by the view, whatever else the table holds.

Nothing here mentions a particular program.
-/

namespace EmotoFleet.Views

open Tables (find?_key_iff)

universe u v w
variable {σ : Type u} {ν : Type v} {β : Type w}

/-- The reply at a state depends on nothing but the view. -/
def Confined (view : σ → ν) (reply : σ → β) (state : σ) : Prop :=
  ∀ other, view other = view state → reply other = reply state

variable {view : σ → ν} {reply : σ → β} {state : σ}

/-- A twin with another reply. -/
theorem not_confined {twin : σ} (same : view twin = view state)
    (differs : reply twin ≠ reply state) : ¬ Confined view reply state :=
  fun confined => differs (confined twin same)

/-- A twin for which a property of the reply turns around. -/
theorem not_confined_of_property {twin : σ} (holds : β → Prop) (same : view twin = view state)
    (turned : ¬ (holds (reply twin) ↔ holds (reply state))) : ¬ Confined view reply state :=
  not_confined same fun equal => turned (equal ▸ Iff.rfl)

section Rows

variable {ρ : Type u} {rows others : List ρ} {sees seesOther chosen chosenOther : ρ → Bool}

/-- Choosing among the visible rows. -/
theorem filter_of_sees (inside : ∀ row ∈ rows, chosen row = true → sees row = true) :
    rows.filter chosen = (rows.filter sees).filter chosen := by
  rw [List.filter_filter]
  apply List.filter_congr
  intro row listed
  cases taken : chosen row with
  | false => rfl
  | true => rw [inside row listed taken]; rfl

/-- Two tables with the same visible rows, from which visible rows are chosen alike. -/
theorem filter_eq_of_sees (same : rows.filter sees = others.filter seesOther)
    (inside : ∀ row ∈ rows, chosen row = true → sees row = true)
    (insideOther : ∀ row ∈ others, chosenOther row = true → seesOther row = true)
    (alike : ∀ row ∈ rows.filter sees, chosen row = chosenOther row) :
    rows.filter chosen = others.filter chosenOther := by
  rw [filter_of_sees inside, filter_of_sees insideOther, ← same]
  exact List.filter_congr alike

/-- A choice that only visible rows pass. -/
theorem filter_eq_of_inside (same : rows.filter sees = others.filter sees)
    (inside : ∀ row, chosen row = true → sees row = true) :
    rows.filter chosen = others.filter chosen :=
  filter_eq_of_sees same (fun row _ => inside row) (fun row _ => inside row) fun _ _ => rfl

theorem any_eq_filter : rows.any chosen = decide (rows.filter chosen ≠ []) := by
  induction rows with
  | nil => rfl
  | cons row rest inductionHypothesis =>
    cases taken : chosen row with
    | false => simp only [List.any_cons, taken, Bool.false_or, inductionHypothesis,
        List.filter_cons_of_neg (by simp [taken] : ¬ chosen row = true)]
    | true => simp [taken]

theorem any_congr_of_mem (alike : ∀ row ∈ rows, chosen row = chosenOther row) :
    rows.any chosen = rows.any chosenOther := by
  rw [any_eq_filter, any_eq_filter, List.filter_congr alike]

theorem any_eq_of_sees (same : rows.filter sees = others.filter seesOther)
    (inside : ∀ row ∈ rows, chosen row = true → sees row = true)
    (insideOther : ∀ row ∈ others, chosenOther row = true → seesOther row = true)
    (alike : ∀ row ∈ rows.filter sees, chosen row = chosenOther row) :
    rows.any chosen = others.any chosenOther := by
  rw [any_eq_filter, any_eq_filter, filter_eq_of_sees same inside insideOther alike]

/-- A row that is not seen may be added, and one that is not seen may be taken away. -/
theorem filter_append_unseen {row : ρ} (unseen : sees row = false) :
    (rows ++ [row]).filter sees = rows.filter sees := by
  rw [List.filter_append, List.filter_cons_of_neg (by simp [unseen]), List.filter_nil,
    List.append_nil]

theorem filter_filter_unseen {kept : ρ → Bool}
    (unseen : ∀ row ∈ rows, kept row = false → sees row = false) :
    (rows.filter kept).filter sees = rows.filter sees := by
  rw [List.filter_filter]
  apply List.filter_congr
  intro row listed
  cases stays : kept row with
  | true => rw [Bool.and_true]
  | false => rw [unseen row listed stays]; rfl

end Rows

section Keys

variable {ρ : Type u} {κ : Type v} [DecidableEq κ] {key : ρ → κ} {rows others : List ρ}

/-- A row out of sight may change in its place, if it stays out of sight. -/
theorem filter_updateKey_unseen {sees : ρ → Bool} {wanted : κ} {change : ρ → ρ}
    (kept : ∀ row, sees (change row) = sees row)
    (unseen : ∀ row ∈ rows, key row = wanted → sees row = false) :
    (Tables.updateKey key wanted change rows).filter sees = rows.filter sees := by
  rw [Tables.filter_updateKey kept]
  apply Tables.updateKey_absent
  intro listed
  obtain ⟨row, visible, same⟩ := List.mem_map.mp listed
  obtain ⟨stored, seen⟩ := List.mem_filter.mp visible
  rw [unseen row stored same] at seen
  cases seen

/-- A visible row is found in every table with the same visible rows. -/
theorem find?_key_of_sees {sees seesOther : ρ → Bool} (unique : (rows.map key).Nodup)
    (uniqueOther : (others.map key).Nodup)
    (same : others.filter seesOther = rows.filter sees) {wanted : κ} {row : ρ}
    (found : rows.find? (fun other => decide (key other = wanted)) = some row)
    (seen : sees row = true) :
    others.find? (fun other => decide (key other = wanted)) = some row := by
  obtain ⟨listed, equal⟩ := (find?_key_iff unique).mp found
  have visible : row ∈ others.filter seesOther := same ▸ List.mem_filter.mpr ⟨listed, seen⟩
  exact (find?_key_iff uniqueOther).mpr ⟨(List.mem_filter.mp visible).1, equal⟩

/-- A row out of sight may be put in place of the one with its key, if that one is out of
sight too: the visible rows stay, and so does every row with another key. -/
theorem replaced {sees : ρ → Bool} (unique : (rows.map key).Nodup) {new : ρ}
    (unseen : sees new = false)
    (hidden : ∀ row ∈ rows, key row = key new → sees row = false) :
    (((rows.filter fun row => decide (key row ≠ key new)) ++ [new]).map key).Nodup ∧
      ((rows.filter fun row => decide (key row ≠ key new)) ++ [new]).filter sees =
        rows.filter sees ∧
      ((rows.filter fun row => decide (key row ≠ key new)) ++ [new]).find?
        (fun row => decide (key row = key new)) = some new ∧
      ∀ wanted, wanted ≠ key new →
        ((rows.filter fun row => decide (key row ≠ key new)) ++ [new]).find?
          (fun row => decide (key row = wanted)) =
          rows.find? fun row => decide (key row = wanted) := by
  have distinct : (((rows.filter fun row => decide (key row ≠ key new)) ++ [new]).map key).Nodup := by
    apply (Tables.unique_append_iff new).mpr
    refine ⟨unique.sublist (List.filter_sublist.map _), ?_⟩
    intro listed
    obtain ⟨row, kept, same⟩ := List.mem_map.mp listed
    exact of_decide_eq_true (List.mem_filter.mp kept).2 same
  refine ⟨distinct, ?_, ?_, ?_⟩
  · rw [filter_append_unseen unseen]
    apply filter_filter_unseen
    intro row listed dropped
    exact hidden row listed (by simpa using dropped)
  · exact (find?_key_iff distinct).mpr ⟨List.mem_append_right _ (List.mem_singleton_self _), rfl⟩
  · intro wanted different
    apply Option.ext
    intro row
    rw [find?_key_iff distinct, find?_key_iff unique, List.mem_append, List.mem_filter,
      List.mem_singleton]
    constructor
    · rintro ⟨kept | last, same⟩
      · exact ⟨kept.1, same⟩
      · exact absurd (last ▸ same.symm) different
    · rintro ⟨listed, same⟩
      exact ⟨.inl ⟨listed, decide_eq_true (same ▸ different)⟩, same⟩

/-- Whether there is a row with a key can turn around out of sight, if the row that has it
is hidden. -/
theorem exists_turned {sees : ρ → Bool} (unique : (rows.map key).Nodup) (spare : ρ)
    (unseen : sees spare = false)
    (hidden : ∀ row, rows.find? (fun row => decide (key row = key spare)) = some row →
      sees row = false) :
    ∃ twin : List ρ, (twin.map key).Nodup ∧ twin.filter sees = rows.filter sees ∧
      (twin.find? (fun row => decide (key row = key spare)) = none ↔
        rows.find? (fun row => decide (key row = key spare)) ≠ none) := by
  have hiddenRow : ∀ row ∈ rows, key row = key spare → sees row = false := by
    intro row listed same
    exact hidden row ((find?_key_iff unique).mpr ⟨listed, same⟩)
  obtain ⟨distinct, visible, -⟩ := replaced unique unseen hiddenRow
  cases present : rows.find? fun row => decide (key row = key spare) with
  | none => exact ⟨_, distinct, visible, by simp⟩
  | some row =>
    refine ⟨rows.filter fun row => decide (key row ≠ key spare),
      unique.sublist (List.filter_sublist.map _), ?_, ?_⟩
    · apply filter_filter_unseen
      intro other listed dropped
      exact hiddenRow other listed (by simpa using dropped)
    · simp [List.find?_eq_none]

end Keys

end EmotoFleet.Views
