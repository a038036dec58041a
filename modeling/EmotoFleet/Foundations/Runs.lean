import Mathlib.Data.List.Basic

/-!
# Runs of a partial transition function

A system is a partial function from a state and an action to the next state; an
action that is not enabled yields nothing. A run is a list of actions, each of
them enabled where it is taken. `Along` says that a property of single steps
holds at every step of a run; it is the shape of both the conditions placed on a
run and the safety properties concluded from them.

Nothing here mentions a particular program.
-/

namespace EmotoFleet.Runs

universe u v
variable {σ : Type u} {α : Type v}

/-- The state after a list of actions, provided that every one was enabled. -/
def run (step : σ → α → Option σ) : σ → List α → Option σ
  | state, [] => some state
  | state, action :: rest => (step state action).bind fun next => run step next rest

/-- Every step of the run satisfies a relation between the state before, the
action and the state after. The part after an action that is not enabled is not
a run, so it carries no obligation. -/
def Along (step : σ → α → Option σ) (holds : σ → α → σ → Prop) : σ → List α → Prop
  | _, [] => True
  | state, action :: rest =>
    ∀ next, step state action = some next → holds state action next ∧ Along step holds next rest

variable {step : σ → α → Option σ}

@[simp] theorem run_nil (state : σ) : run step state [] = some state := rfl

@[simp] theorem run_cons (state : σ) (action : α) (rest : List α) :
    run step state (action :: rest) = (step state action).bind fun next => run step next rest :=
  rfl

@[simp] theorem along_nil (holds : σ → α → σ → Prop) (state : σ) : Along step holds state [] :=
  trivial

theorem along_cons (holds : σ → α → σ → Prop) (state : σ) (action : α) (rest : List α) :
    Along step holds state (action :: rest) ↔
      ∀ next, step state action = some next →
        holds state action next ∧ Along step holds next rest :=
  Iff.rfl

/-- A step property along a concatenation splits at the state between the parts. -/
theorem along_append {holds : σ → α → σ → Prop} {state middle : σ} {before : List α}
    (reached : run step state before = some middle) (after : List α) :
    Along step holds state (before ++ after) ↔
      Along step holds state before ∧ Along step holds middle after := by
  induction before generalizing state with
  | nil =>
    have same : state = middle := Option.some.inj reached
    subst same
    simp
  | cons action rest inductionHypothesis =>
    cases moved : step state action with
    | none => simp [moved] at reached
    | some next =>
      have onward : run step next rest = some middle := by simpa [moved] using reached
      simp [along_cons, moved, inductionHypothesis onward, and_assoc]

/-- What every step of a run satisfies is also satisfied by its last step. -/
theorem along_last {holds : σ → α → σ → Prop} {state middle next : σ} {before : List α}
    {action : α} (reached : run step state before = some middle)
    (moved : step middle action = some next)
    (everywhere : Along step holds state (before ++ [action])) : holds middle action next :=
  (((along_append reached [action]).mp everywhere).2 next moved).1

/-- Without a condition, every list of actions qualifies. -/
theorem along_true (step : σ → α → Option σ) (state : σ) (actions : List α) :
    Along step (fun _ _ _ => True) state actions := by
  induction actions generalizing state with
  | nil => trivial
  | cons action rest inductionHypothesis =>
    exact fun next _ => ⟨trivial, inductionHypothesis next⟩

/-- A property of actions that all actions have holds along the run. -/
theorem along_of_forall_mem (step : σ → α → Option σ) {holds : σ → α → σ → Prop} {actions : List α}
    (everywhere : ∀ action ∈ actions, ∀ state next, holds state action next) (state : σ) :
    Along step holds state actions := by
  induction actions generalizing state with
  | nil => trivial
  | cons action rest inductionHypothesis =>
    intro next _
    exact ⟨everywhere action (List.mem_cons_self ..) state next,
      inductionHypothesis (fun later inRest => everywhere later (List.mem_cons_of_mem _ inRest)) next⟩

/-- One reachable step that breaks a property refutes it for the whole run. -/
theorem not_along_of_run {holds : σ → α → σ → Prop} {state middle next : σ} {before : List α}
    {action : α} (reached : run step state before = some middle)
    (moved : step middle action = some next) (broken : ¬ holds middle action next) :
    ¬ Along step holds state (before ++ [action]) :=
  fun everywhere => broken (along_last reached moved everywhere)

/-- The invariant rule for conditional runs. When a condition on single steps
preserves an invariant, and invariant and condition together give a property of
the step, then every run that starts in the invariant and meets the condition
throughout has the property throughout. -/
theorem along_of_invariant {condition holds : σ → α → σ → Prop} (invariant : σ → Prop)
    (preserved : ∀ state action next, invariant state → condition state action next →
      step state action = some next → invariant next)
    (concluded : ∀ state action next, invariant state → condition state action next →
      step state action = some next → holds state action next)
    {state : σ} {actions : List α} (initially : invariant state)
    (guarded : Along step condition state actions) : Along step holds state actions := by
  induction actions generalizing state with
  | nil => trivial
  | cons action rest inductionHypothesis =>
    intro next moved
    obtain ⟨met, onward⟩ := guarded next moved
    exact ⟨concluded state action next initially met moved,
      inductionHypothesis (preserved state action next initially met moved) onward⟩

/-- The invariant itself holds in the state that a conditional run reaches. -/
theorem invariant_reached {condition : σ → α → σ → Prop} (invariant : σ → Prop)
    (preserved : ∀ state action next, invariant state → condition state action next →
      step state action = some next → invariant next)
    {state reached : σ} {actions : List α} (initially : invariant state)
    (guarded : Along step condition state actions)
    (completed : run step state actions = some reached) : invariant reached := by
  induction actions generalizing state with
  | nil =>
    have same : state = reached := Option.some.inj completed
    exact same ▸ initially
  | cons action rest inductionHypothesis =>
    cases moved : step state action with
    | none => simp [moved] at completed
    | some next =>
      obtain ⟨met, onward⟩ := guarded next moved
      exact inductionHypothesis (preserved state action next initially met moved) onward
        (by simpa [moved] using completed)

/-- The exact invariant rule, for runs whose steps all meet a guard. Where invariant and
guard make a property of the step and a condition on it equivalent, and the steps
with the property keep the invariant, the runs with the property throughout are
those that meet the condition throughout. -/
theorem along_iff_of_guarded {guard condition holds : σ → α → σ → Prop} (invariant : σ → Prop)
    (agree : ∀ state action next, invariant state → guard state action next →
      step state action = some next → (holds state action next ↔ condition state action next))
    (preserved : ∀ state action next, invariant state → guard state action next →
      holds state action next → step state action = some next → invariant next)
    {state : σ} {actions : List α} (initially : invariant state)
    (guarded : Along step guard state actions) :
    Along step holds state actions ↔ Along step condition state actions := by
  induction actions generalizing state with
  | nil => exact Iff.rfl
  | cons action rest inductionHypothesis =>
    rw [along_cons, along_cons]
    apply forall₂_congr
    intro next moved
    obtain ⟨met, onward⟩ := guarded next moved
    rw [← agree state action next initially met moved]
    apply and_congr_right
    intro established
    exact inductionHypothesis (preserved state action next initially met established moved) onward

/-- The exact invariant rule without a guard. -/
theorem along_iff_of_invariant {condition holds : σ → α → σ → Prop} (invariant : σ → Prop)
    (agree : ∀ state action next, invariant state → step state action = some next →
      (holds state action next ↔ condition state action next))
    (preserved : ∀ state action next, invariant state → holds state action next →
      step state action = some next → invariant next)
    {state : σ} (actions : List α) (initially : invariant state) :
    Along step holds state actions ↔ Along step condition state actions :=
  along_iff_of_guarded invariant (fun state action next held _ => agree state action next held)
    (fun state action next held _ => preserved state action next held) initially
    (along_true step state actions)

/-- Properties of single steps that agree on every step agree along every run. -/
theorem along_congr {condition holds : σ → α → σ → Prop}
    (agree : ∀ state action next, step state action = some next →
      (holds state action next ↔ condition state action next))
    (state : σ) (actions : List α) :
    Along step holds state actions ↔ Along step condition state actions :=
  along_iff_of_invariant (fun _ => True) (fun state action next _ => agree state action next)
    (fun _ _ _ _ _ _ => trivial) actions trivial

theorem along_cons_of_moved {holds : σ → α → σ → Prop} {state next : σ} {action : α}
    (moved : step state action = some next) (rest : List α) :
    Along step holds state (action :: rest) ↔ holds state action next ∧ Along step holds next rest := by
  constructor
  · exact fun everywhere => everywhere next moved
  · intro both other movedToo
    obtain rfl := Option.some.inj (moved.symm.trans movedToo)
    exact both

/-- The rule for damage that is never repaired. If harmless steps keep a state whole, any
other step damages it, and what is damaged stays damaged, then the end of a run tells
whether all of its steps were harmless. By induction on the run. -/
theorem harmless_or_damaged {harmless : σ → α → σ → Prop} {valid whole damaged : σ → Prop}
    (keepsValid : ∀ state action next, valid state → step state action = some next → valid next)
    (keepsWhole : ∀ state action next, valid state → whole state → harmless state action next →
      step state action = some next → whole next)
    (damages : ∀ state action next, valid state → ¬ harmless state action next →
      step state action = some next → damaged next)
    (keepsDamage : ∀ state action next, valid state → damaged state →
      step state action = some next → damaged next)
    {state reached : σ} {actions : List α} (initially : valid state) (intact : whole state)
    (completed : run step state actions = some reached) :
    (Along step harmless state actions ∧ whole reached) ∨
      (¬ Along step harmless state actions ∧ damaged reached) := by
  induction actions generalizing state with
  | nil =>
    obtain rfl := Option.some.inj completed
    exact Or.inl ⟨trivial, intact⟩
  | cons action rest inductionHypothesis =>
    cases moved : step state action with
    | none => simp [moved] at completed
    | some next =>
      have onward : run step next rest = some reached := by simpa [moved] using completed
      have validNext := keepsValid state action next initially moved
      rw [along_cons_of_moved moved]
      by_cases spared : harmless state action next
      case pos =>
        rw [and_iff_right spared]
        exact inductionHypothesis validNext
          (keepsWhole state action next initially intact spared moved) onward
      case neg =>
        have broken := damages state action next initially spared moved
        have ended := invariant_reached (fun state => valid state ∧ damaged state)
          (fun state action next sound _ moved =>
            ⟨keepsValid state action next sound.1 moved,
              keepsDamage state action next sound.1 sound.2 moved⟩)
          ⟨validNext, broken⟩ (along_true step next rest) onward
        exact Or.inr ⟨fun everywhere => spared everywhere.1, ended.2⟩

/-- The rule for a state that only harmless steps leave whole, and that no step repairs. -/
theorem whole_iff_along {harmless : σ → α → σ → Prop} {valid whole : σ → Prop}
    (keepsValid : ∀ state action next, valid state → step state action = some next → valid next)
    (decided : ∀ state action next, valid state → step state action = some next →
      (whole next ↔ whole state ∧ harmless state action next))
    {state reached : σ} {actions : List α} (initially : valid state)
    (completed : run step state actions = some reached) :
    whole reached ↔ whole state ∧ Along step harmless state actions := by
  induction actions generalizing state with
  | nil =>
    obtain rfl := Option.some.inj completed
    exact (and_iff_left trivial).symm
  | cons action rest inductionHypothesis =>
    cases moved : step state action with
    | none => simp [moved] at completed
    | some next =>
      have onward : run step next rest = some reached := by simpa [moved] using completed
      have validNext := keepsValid state action next initially moved
      rw [inductionHypothesis validNext onward, decided state action next initially moved,
        along_cons_of_moved moved, and_assoc]

/-- The executable form of `Along`, for runs that are written out. -/
def alongCheck (step : σ → α → Option σ) (check : σ → α → σ → Bool) : σ → List α → Bool
  | _, [] => true
  | state, action :: rest =>
    match step state action with
    | none => true
    | some next => check state action next && alongCheck step check next rest

theorem along_of_check {holds : σ → α → σ → Prop} {check : σ → α → σ → Bool}
    (sound : ∀ state action next, check state action next = true → holds state action next)
    {state : σ} {actions : List α} (checked : alongCheck step check state actions = true) :
    Along step holds state actions := by
  induction actions generalizing state with
  | nil => trivial
  | cons action rest inductionHypothesis =>
    intro next moved
    simp only [alongCheck, moved, Bool.and_eq_true] at checked
    exact ⟨sound _ _ _ checked.1, inductionHypothesis checked.2⟩

/-- The check that decides the property itself. -/
theorem along_of_decide {holds : σ → α → σ → Prop}
    [∀ state action next, Decidable (holds state action next)] {state : σ} {actions : List α}
    (checked : alongCheck step (fun state action next => decide (holds state action next))
      state actions = true) : Along step holds state actions :=
  along_of_check (fun _ _ _ decided => of_decide_eq_true decided) checked

/-- The executable form of `not_along_of_run`. -/
theorem not_along_of_check {holds : σ → α → σ → Prop} {breaks : σ → σ → Bool} (state : σ)
    (before : List α) (action : α)
    (sound : ∀ middle next, breaks middle next = true → ¬ holds middle action next)
    (found : ((run step state before).bind fun middle =>
      (step middle action).map (breaks middle)) = some true) :
    ¬ Along step holds state (before ++ [action]) := by
  obtain ⟨middle, reached, rest⟩ := Option.bind_eq_some_iff.mp found
  obtain ⟨next, moved, broken⟩ := Option.map_eq_some_iff.mp rest
  exact not_along_of_run reached moved (sound middle next broken)

section Total

variable (next : σ → α → σ)

/-- A system in which every action is enabled. -/
def total : σ → α → Option σ := fun state action => some (next state action)

@[simp] theorem run_total (state : σ) (actions : List α) :
    run (total next) state actions = some (actions.foldl next state) := by
  induction actions generalizing state with
  | nil => rfl
  | cons action rest inductionHypothesis => simp [total, ← inductionHypothesis]

@[simp] theorem along_total_cons (holds : σ → α → σ → Prop) (state : σ) (action : α)
    (rest : List α) :
    Along (total next) holds state (action :: rest) ↔
      holds state action (next state action) ∧
        Along (total next) holds (next state action) rest := by
  simp [along_cons, total]

theorem along_total_append (holds : σ → α → σ → Prop) (state : σ) (before after : List α) :
    Along (total next) holds state (before ++ after) ↔
      Along (total next) holds state before ∧
        Along (total next) holds (before.foldl next state) after :=
  along_append (run_total next state before) after

end Total

end EmotoFleet.Runs
