import EmotoFleet.Foundations.Runs

/-!
# Closed objects and outstanding holders

Objects of a system are closed at some point of a run: a command is finished, a
transaction settled, a position in an order passed. Meanwhile something may
still hold them: a task that will act on them, a queued copy, a message on its
way. If holders of a closed object never appear anew, and an object is closed
only in states where nothing holds it, then no closed object is ever held, and
whatever needs a holder never happens to a closed object.

Nothing here mentions a particular program.
-/

namespace EmotoFleet.Holders

open Runs

universe u v w
variable {σ : Type u} {α : Type v} {ο : Type w} (closed held : σ → ο → Prop)

/-- Nothing holds a closed object. -/
def Settled (state : σ) : Prop := ∀ object, closed state object → ¬ held state object

/-- A step closes objects only when nothing holds them afterwards. -/
def ClosesUnheld (state next : σ) : Prop :=
  ∀ object, closed next object → ¬ closed state object → ¬ held next object

/-- Holders of an object come from earlier holders, unless the object is open. -/
def Acquires (state next : σ) : Prop :=
  ∀ object, held next object → held state object ∨ ¬ closed next object

variable {closed held} {step : σ → α → Option σ}

theorem settled_step {state next : σ} (acquires : Acquires closed held state next)
    (closes : ClosesUnheld closed held state next) (settled : Settled closed held state) :
    Settled closed held next := by
  intro object closedNext heldNext
  cases acquires object heldNext with
  | inl before =>
    by_cases closedBefore : closed state object
    · exact settled object closedBefore before
    · exact closes object closedNext closedBefore heldNext
  | inr opened => exact opened closedNext

/-- The rule for runs. A background invariant of the system may be used
throughout. If every step of a run that meets the condition acquires holders
only of open objects and closes only unheld ones, then a property that follows
from `Settled` holds at every step. -/
theorem along_settled (closed held : σ → ο → Prop) {condition property : σ → α → σ → Prop}
    (background : σ → Prop)
    (kept : ∀ state action next, background state → step state action = some next →
      background next)
    (acquires : ∀ state action next, background state → condition state action next →
      step state action = some next → Acquires closed held state next)
    (closes : ∀ state action next, condition state action next →
      step state action = some next → ClosesUnheld closed held state next)
    (concluded : ∀ state action next, background state → Settled closed held state →
      step state action = some next → property state action next)
    {state : σ} {actions : List α} (initially : background state)
    (settled : Settled closed held state) (guarded : Along step condition state actions) :
    Along step property state actions := by
  refine along_of_invariant (fun state => background state ∧ Settled closed held state)
    ?_ ?_ ⟨initially, settled⟩ guarded
  · intro state action next invariant met moved
    exact ⟨kept state action next invariant.1 moved,
      settled_step (acquires state action next invariant.1 met moved)
        (closes state action next met moved) invariant.2⟩
  · intro state action next invariant _ moved
    exact concluded state action next invariant.1 invariant.2 moved

end EmotoFleet.Holders
