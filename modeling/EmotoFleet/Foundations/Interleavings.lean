import EmotoFleet.Foundations.Runs
import Mathlib.Algebra.GroupWithZero.Nat

/-!
# Calls that share a store

A call is a program of accesses to a store that others use as well. A read takes the
whole store as it is at that moment and goes on with what it found; a write is one
operation that the store accepts or rejects, and a rejected write ends the call. Between
two accesses of one call any number of accesses of other calls take place, and a call
that is never advanced again is one that was abandoned.

Nothing here mentions a particular program.
-/

namespace EmotoFleet.Interleavings

open EmotoFleet.Runs

/-- What a call still does: `σ` is the store, `ω` its operations, `δ` its reasons to
reject one, `ε` the failures of calls. -/
inductive Program (σ ω δ ε α : Type) where
  | returned (value : α)
  | failed (failure : ε)
  | reading (next : σ → Program σ ω δ ε α)
  | writing (operation : ω) (rejected : δ → ε) (next : Program σ ω δ ε α)

namespace Program

variable {σ ω δ ε α β : Type}

/-- One program after the other, with what the first one returned. -/
def andThen : Program σ ω δ ε α → (α → Program σ ω δ ε β) → Program σ ω δ ε β
  | .returned value, rest => rest value
  | .failed failure, _ => .failed failure
  | .reading next, rest => .reading fun store => (next store).andThen rest
  | .writing operation rejected next, rest => .writing operation rejected (next.andThen rest)

instance : Monad (Program σ ω δ ε) where
  pure := .returned
  bind := andThen

/-- Programs in a row may be grouped as one likes. -/
theorem bind_bind {γ : Type} (program : Program σ ω δ ε α) (rest : α → Program σ ω δ ε β)
    (last : β → Program σ ω δ ε γ) :
    program >>= rest >>= last = program >>= fun value => rest value >>= last := by
  change (program.andThen rest).andThen last = program.andThen fun value => (rest value).andThen last
  induction program with
  | returned value => rfl
  | failed failure => rfl
  | reading next inductionHypothesis => exact congrArg reading (funext inductionHypothesis)
  | writing operation rejected next inductionHypothesis =>
    exact congrArg (writing operation rejected) inductionHypothesis

/-- A read that returns something about the store. -/
def read (question : σ → α) : Program σ ω δ ε α :=
  .reading fun store => .returned (question store)

/-- One write, which the store may reject. -/
def write (operation : ω) (rejected : δ → ε) : Program σ ω δ ε Unit :=
  .writing operation rejected (.returned ())

/-- Something that a call finds in the store, or fails without. -/
def loadOrThrow (question : σ → Option α) (failure : ε) : Program σ ω δ ε α :=
  .reading fun store => ((question store).map .returned).getD (.failed failure)

/-- A check that a call ends with where it does not hold. -/
def ensure (holds : Bool) (failure : ε) : Program σ ω δ ε Unit :=
  if holds then .returned () else .failed failure

/-- The operation that the next access attempts, if it is a write. -/
def nextWrite : Program σ ω δ ε α → Option ω
  | .writing operation _ _ => some operation
  | .returned _ | .failed _ | .reading _ => none

/-- A call that has returned. -/
def completed : Program σ ω δ ε α → Bool
  | .returned _ => true
  | .failed _ | .reading _ | .writing _ _ _ => false

/-- What a call comes to when everything up to its next write is read at one moment. -/
def settle (store : σ) : Program σ ω δ ε α → Program σ ω δ ε α
  | .reading next => (next store).settle store
  | .returned value => .returned value
  | .failed failure => .failed failure
  | .writing operation rejected next => .writing operation rejected next

/-- A program over a part of a larger store, with its writes as operations of that. -/
def embed {τ υ : Type} (part : τ → σ) (label : ω → υ) : Program σ ω δ ε α → Program τ υ δ ε α
  | .returned value => .returned value
  | .failed failure => .failed failure
  | .reading next => .reading fun store => (next (part store)).embed part label
  | .writing operation rejected next =>
    .writing (label operation) rejected (next.embed part label)

/-- Whatever a program reads, its writes are allowed ones. -/
def Makes (allowed : ω → Prop) : Program σ ω δ ε α → Prop
  | .returned _ | .failed _ => True
  | .reading next => ∀ store, (next store).Makes allowed
  | .writing operation _ next => allowed operation ∧ next.Makes allowed

/-- A program whose parts make allowed writes makes allowed writes. -/
theorem makes_bind {allowed : ω → Prop} {program : Program σ ω δ ε α}
    {rest : α → Program σ ω δ ε β} (first : program.Makes allowed)
    (second : ∀ value, (rest value).Makes allowed) : (program >>= rest).Makes allowed := by
  change (program.andThen rest).Makes allowed
  induction program with
  | returned value => exact second value
  | failed failure => trivial
  | reading next inductionHypothesis =>
    exact fun store => inductionHypothesis store (first store)
  | writing operation rejected next inductionHypothesis =>
    exact ⟨first.1, inductionHypothesis first.2⟩

/-- A program on a part of the store makes its writes there. -/
theorem makes_embed {τ υ : Type} {allowed : υ → Prop} (part : τ → σ) {label : ω → υ}
    {program : Program σ ω δ ε α} (made : program.Makes fun operation => allowed (label operation)) :
    (program.embed part label).Makes allowed := by
  induction program with
  | returned value => trivial
  | failed failure => trivial
  | reading next inductionHypothesis =>
    exact fun store => inductionHypothesis (part store) (made (part store))
  | writing operation rejected next inductionHypothesis =>
    exact ⟨made.1, inductionHypothesis made.2⟩

/-- A choice between programs that make allowed writes makes allowed writes. -/
theorem makes_ite {allowed : ω → Prop} {condition : Prop} [Decidable condition]
    {first second : Program σ ω δ ε α} (left : first.Makes allowed) (right : second.Makes allowed) :
    (if condition then first else second).Makes allowed := by
  split
  case isTrue => exact left
  case isFalse => exact right

/-- The branches may use what was tested. -/
theorem makes_if {allowed : ω → Prop} {condition : Prop} [Decidable condition]
    {first second : Program σ ω δ ε α} (left : condition → first.Makes allowed)
    (right : ¬ condition → second.Makes allowed) :
    (if condition then first else second).Makes allowed := by
  split
  case isTrue met => exact left met
  case isFalse unmet => exact right unmet

/-- Where every write is allowed, programs make allowed writes. -/
theorem makes_of_forall {allowed : ω → Prop} (every : ∀ operation, allowed operation)
    (program : Program σ ω δ ε α) : program.Makes allowed := by
  induction program with
  | returned value => trivial
  | failed failure => trivial
  | reading next inductionHypothesis => exact inductionHypothesis
  | writing operation rejected next inductionHypothesis =>
    exact ⟨every operation, inductionHypothesis⟩

/-- Nothing is asked of the writes of a program. -/
theorem makes_any (program : Program σ ω δ ε α) : program.Makes fun _ => True :=
  makes_of_forall (fun _ => trivial) program

/-- Whichever way a program goes on, what it returns and the writes that it has made by
then are allowed. -/
def Yields (allowed : α → List ω → Prop) : List ω → Program σ ω δ ε α → Prop
  | made, .returned value => allowed value made
  | _, .failed _ => True
  | made, .reading next => ∀ store, (next store).Yields allowed made
  | made, .writing operation _ next => next.Yields allowed (made ++ [operation])

section Yielding

variable {allowed : β → List ω → Prop} {made : List ω}

/-- What a program yields in a row is what its rest yields after it. -/
theorem yields_bind (program : Program σ ω δ ε α) (rest : α → Program σ ω δ ε β) :
    (program >>= rest).Yields allowed made ↔
      program.Yields (fun value writes => (rest value).Yields allowed writes) made := by
  change (program.andThen rest).Yields allowed made ↔ _
  induction program generalizing made with
  | returned value => exact Iff.rfl
  | failed failure => exact Iff.rfl
  | reading next inductionHypothesis =>
    simp only [andThen, Yields]
    exact forall_congr' fun store => inductionHypothesis store
  | writing operation rejected next inductionHypothesis => exact inductionHypothesis

/-- A write yields itself. -/
theorem yields_write {allowed : Unit → List ω → Prop} (operation : ω) (rejected : δ → ε) :
    (write operation rejected : Program σ ω δ ε Unit).Yields allowed made ↔
      allowed () (made ++ [operation]) :=
  Iff.rfl

/-- A choice yields what its branches yield. -/
theorem yields_ite {condition : Prop} [Decidable condition] {first second : Program σ ω δ ε β}
    (left : first.Yields allowed made) (right : second.Yields allowed made) :
    (if condition then first else second).Yields allowed made := by
  split
  case isTrue => exact left
  case isFalse => exact right

/-- A program that writes nothing returns with the writes that were made before. -/
theorem yields_of_makes_nothing {allowed : β → List ω → Prop} {program : Program σ ω δ ε β}
    (nothing : program.Makes fun _ => False) (returns : ∀ value, allowed value made) :
    program.Yields allowed made := by
  induction program with
  | returned value => exact returns value
  | failed failure => trivial
  | reading next inductionHypothesis => exact fun store => inductionHypothesis store (nothing store)
  | writing operation rejected next inductionHypothesis => exact absurd nothing.1 id

section Paying

variable (pays owed : ω → Bool)

/-- How many writes of one kind a program makes before its next read beyond those that it
still pays for with a write of another kind. -/
def owes : Program σ ω δ ε α → Nat
  | .returned _ | .failed _ | .reading _ => 0
  | .writing operation _ next =>
    (next.owes + if owed operation then 1 else 0) - if pays operation then 1 else 0

/-- After whatever a program reads it first pays for what it makes. -/
def PaysFirst : Program σ ω δ ε α → Prop
  | .returned _ | .failed _ => True
  | .reading next => ∀ store, (next store).owes pays owed = 0 ∧ (next store).PaysFirst
  | .writing _ _ next => next.PaysFirst

end Paying

/-- A call that nothing interrupts: the store that it leaves, and what it returns. -/
def alone (apply : σ → ω → Except δ σ) (store : σ) : Program σ ω δ ε α → σ × Except ε α
  | .returned value => (store, .ok value)
  | .failed failure => (store, .error failure)
  | .reading next => (next store).alone apply store
  | .writing operation rejected next =>
    match apply store operation with
    | .ok written => next.alone apply written
    | .error reason => (store, .error (rejected reason))

/-- The writes of a call that nothing interrupts, each with the store that it is made in. -/
def MeetsAlone (apply : σ → ω → Except δ σ) (condition : σ → ω → Prop) (store : σ) :
    Program σ ω δ ε α → Prop
  | .returned _ | .failed _ => True
  | .reading next => (next store).MeetsAlone apply condition store
  | .writing operation _ next =>
    condition store operation ∧
      ∀ written, apply store operation = .ok written → next.MeetsAlone apply condition written

section Alone

variable {apply : σ → ω → Except δ σ} {condition : σ → ω → Prop} {store : σ}

/-- A load meets the condition when what follows the found row does. -/
theorem meetsAlone_load {question : σ → Option α} {failure : ε} {rest : α → Program σ ω δ ε β}
    (next : ∀ value, question store = some value → (rest value).MeetsAlone apply condition store) :
    (loadOrThrow question failure >>= rest).MeetsAlone apply condition store := by
  change MeetsAlone apply condition store
    ((((question store).map Program.returned).getD (Program.failed failure)).andThen rest)
  cases found : question store with
  | none => trivial
  | some value => exact next value found

/-- A check meets the condition when what follows it does. -/
theorem meetsAlone_ensure {holds : Bool} {failure : ε} {rest : Unit → Program σ ω δ ε β}
    (next : holds = true → (rest ()).MeetsAlone apply condition store) :
    (ensure holds failure >>= rest).MeetsAlone apply condition store := by
  cases checked : holds with
  | false => trivial
  | true => exact next checked

/-- A write meets the condition that holds of it. -/
theorem meetsAlone_write {operation : ω} {rejected : δ → ε} (met : condition store operation) :
    (write operation rejected : Program σ ω δ ε Unit).MeetsAlone apply condition store :=
  ⟨met, fun _ _ => trivial⟩

/-- What is there is what a call goes on with. -/
theorem alone_load (question : σ → Option α) {failure : ε} {rest : α → Program σ ω δ ε β} {value : α}
    (found : question store = some value) :
    (loadOrThrow question failure >>= rest).alone apply store = (rest value).alone apply store := by
  change ((((question store).map Program.returned).getD
    (Program.failed failure)).andThen rest).alone apply store = _
  rw [found]
  rfl

/-- A check that is passed changes nothing. -/
theorem alone_ensure {holds : Bool} {failure : ε} {rest : Unit → Program σ ω δ ε β}
    (checked : holds = true) :
    (ensure holds failure >>= rest).alone apply store = (rest ()).alone apply store := by
  rw [checked]
  rfl

end Alone

/-- Two conditions that are met are met together. -/
theorem MeetsAlone.and {apply : σ → ω → Except δ σ} {left right : σ → ω → Prop} {store : σ}
    {program : Program σ ω δ ε α} (first : program.MeetsAlone apply left store)
    (second : program.MeetsAlone apply right store) :
    program.MeetsAlone apply (fun store operation => left store operation ∧ right store operation)
      store := by
  induction program generalizing store with
  | returned value => trivial
  | failed failure => trivial
  | reading next inductionHypothesis => exact inductionHypothesis store first second
  | writing operation rejected next inductionHypothesis =>
    exact ⟨⟨first.1, second.1⟩, fun written accepted =>
      inductionHypothesis (first.2 written accepted) (second.2 written accepted)⟩

/-- A call that nothing interrupts keeps what its writes keep. -/
theorem alone_keeps {apply : σ → ω → Except δ σ} {condition : σ → ω → Prop} {holds : σ → Prop}
    (kept : ∀ store operation written, holds store → condition store operation →
      apply store operation = .ok written → holds written)
    {store : σ} {program : Program σ ω δ ε α} (met : program.MeetsAlone apply condition store)
    (initially : holds store) : holds (program.alone apply store).1 := by
  induction program generalizing store with
  | returned value => exact initially
  | failed failure => exact initially
  | reading next inductionHypothesis => exact inductionHypothesis store met initially
  | writing operation rejected next inductionHypothesis =>
    rw [alone]
    split
    case h_1 written accepted =>
      exact inductionHypothesis (met.2 written accepted)
        (kept store operation written initially met.1 accepted)
    case h_2 => exact initially

/-- A call that returns has made its writes one after the other. -/
theorem alone_returned {apply : σ → ω → Except δ σ} {store written : σ} {value : β}
    {program : Program σ ω δ ε β} (yields : program.Yields allowed made)
    (returned : program.alone apply store = (written, .ok value)) :
    ∃ writes, allowed value (made ++ writes) ∧ writes.foldlM apply store = .ok written := by
  induction program generalizing store made with
  | returned result =>
    cases returned
    exact ⟨[], (List.append_nil made).symm ▸ yields, rfl⟩
  | failed failure => cases returned
  | reading next inductionHypothesis => exact inductionHypothesis store (yields store) returned
  | writing operation rejected next inductionHypothesis =>
    rw [alone] at returned
    split at returned
    case h_1 changed accepted =>
      obtain ⟨writes, permitted, applied⟩ := inductionHypothesis yields returned
      refine ⟨operation :: writes, ?_, ?_⟩
      · rwa [List.append_assoc, List.singleton_append] at permitted
      · rw [List.foldlM_cons, accepted]
        exact applied
    case h_2 => cases returned

end Yielding

end Program

variable {σ ω δ ε ρ : Type}

/-- The store and the calls that use it. -/
structure System (σ ω δ ε : Type) where
  store : σ
  calls : List (Program σ ω δ ε Unit)

/-- A request comes in, or a call makes its next access. -/
inductive Action (ρ : Type) where
  | submit (request : ρ)
  | advance (call : Nat)

/-- One access: the store after it and the rest of the call. -/
def access (apply : σ → ω → Except δ σ) (store : σ) :
    Program σ ω δ ε Unit → Option (σ × Program σ ω δ ε Unit)
  | .returned _ | .failed _ => none
  | .reading next => some (store, next store)
  | .writing operation rejected next =>
    match apply store operation with
    | .ok written => some (written, next)
    | .error reason => some (store, .failed (rejected reason))

/-- One step: a request comes in, or a call makes its next access. -/
def step (apply : σ → ω → Except δ σ) (handle : ρ → Program σ ω δ ε Unit)
    (system : System σ ω δ ε) : Action ρ → Option (System σ ω δ ε)
  | .submit request => some { system with calls := system.calls ++ [handle request] }
  | .advance call =>
    (system.calls[call]?).bind fun program =>
      (access apply system.store program).map fun (store, rest) =>
        { store := store, calls := system.calls.set call rest }

/-- The operation that an action attempts. -/
def attempted (system : System σ ω δ ε) : Action ρ → Option ω
  | .submit _ => none
  | .advance call => (system.calls[call]?).bind Program.nextWrite

variable {apply : σ → ω → Except δ σ} {handle : ρ → Program σ ω δ ε Unit}

/-- What a step does to the store: nothing, or the one operation that it attempts and
that the store accepts. -/
theorem step_store {system next : System σ ω δ ε} {action : Action ρ}
    (moved : step apply handle system action = some next) :
    ((∀ operation, attempted system action = some operation →
        ∃ reason, apply system.store operation = .error reason) ∧
      next.store = system.store) ∨
    ∃ operation, attempted system action = some operation ∧
      apply system.store operation = .ok next.store := by
  cases action with
  | submit request =>
    cases moved
    left
    exact ⟨fun operation found => (nomatch found), rfl⟩
  | advance call =>
    obtain ⟨program, listed, accessed⟩ := Option.bind_eq_some_iff.mp moved
    obtain ⟨⟨store, rest⟩, made, same⟩ := Option.map_eq_some_iff.mp accessed
    subst same
    have attempt : attempted system (.advance call : Action ρ) = program.nextWrite := by
      simp only [attempted, listed, Option.bind_some]
    rw [attempt]
    cases program with
    | returned value => cases made
    | failed failure => cases made
    | reading question =>
      cases made
      left
      exact ⟨fun operation found => (nomatch found), rfl⟩
    | writing operation rejected onward =>
      cases applied : apply system.store operation with
      | ok written =>
        simp only [access, applied, Option.some.injEq, Prod.mk.injEq] at made
        right
        exact ⟨operation, rfl, made.1 ▸ applied⟩
      | error reason =>
        simp only [access, applied, Option.some.injEq, Prod.mk.injEq] at made
        left
        refine ⟨?_, made.1.symm⟩
        intro other found
        cases found
        exact ⟨reason, applied⟩

/-- A step meets a condition on writes if the operation that it attempts does, or if the
store rejects it. -/
def Meets (apply : σ → ω → Except δ σ) (condition : σ → ω → Prop) (system : System σ ω δ ε)
    (action : Action ρ) : Prop :=
  ∀ operation, attempted system action = some operation →
    ∀ written, apply system.store operation = .ok written → condition system.store operation

instance {condition : σ → ω → Prop} [∀ store operation, Decidable (condition store operation)]
    (system : System σ ω δ ε) (action : Action ρ) :
    Decidable (Meets apply condition system action) :=
  match attempt : attempted system action with
  | none => isTrue fun operation found => by
      rw [attempt] at found
      cases found
  | some operation =>
    match accepted : apply system.store operation with
    | .error reason => isTrue fun other found written made => by
        rw [attempt] at found
        cases found
        rw [accepted] at made
        cases made
    | .ok written =>
      decidable_of_iff (condition system.store operation) <| by
        constructor
        · intro met other found _ _
          rw [attempt] at found
          cases found
          exact met
        · intro met
          exact met operation attempt written accepted

/-- Every call makes allowed writes only, whatever it reads. -/
def System.Makes (allowed : ω → Prop) (system : System σ ω δ ε) : Prop :=
  ∀ program ∈ system.calls, program.Makes allowed

/-- Calls that make allowed writes attempt allowed writes. -/
theorem attempted_allowed {allowed : ω → Prop} {system : System σ ω δ ε} {action : Action ρ}
    {operation : ω} (made : system.Makes allowed)
    (attempt : attempted system action = some operation) : allowed operation := by
  cases action with
  | submit request => cases attempt
  | advance call =>
    obtain ⟨program, listed, next⟩ := Option.bind_eq_some_iff.mp attempt
    have makes := made program (List.mem_of_getElem? listed)
    cases program with
    | returned value => cases next
    | failed failure => cases next
    | reading question => cases next
    | writing other rejected onward =>
      cases next
      exact makes.1

/-- A step leaves calls that make allowed writes. -/
theorem step_makes {allowed : ω → Prop} (handled : ∀ request, (handle request).Makes allowed)
    {system next : System σ ω δ ε} {action : Action ρ} (made : system.Makes allowed)
    (moved : step apply handle system action = some next) : next.Makes allowed := by
  cases action with
  | submit request =>
    cases moved
    intro program listed
    cases List.mem_append.mp listed with
    | inl before => exact made program before
    | inr new => exact List.mem_singleton.mp new ▸ handled request
  | advance call =>
    obtain ⟨program, found, accessed⟩ := Option.bind_eq_some_iff.mp moved
    obtain ⟨⟨store, rest⟩, continued, same⟩ := Option.map_eq_some_iff.mp accessed
    subst same
    have makes := made program (List.mem_of_getElem? found)
    intro other listed
    cases List.mem_or_eq_of_mem_set listed with
    | inl before => exact made other before
    | inr new =>
      subst new
      cases program with
      | returned value => cases continued
      | failed failure => cases continued
      | reading question =>
        cases continued
        exact makes system.store
      | writing operation rejected onward =>
        rw [access] at continued
        split at continued
        case h_1 =>
          cases continued
          exact makes.2
        case h_2 =>
          cases continued
          trivial

/-- The rule for interleaved calls and for what a step may do to the store. If under an
invariant a write that calls make is a permitted change exactly where it meets a condition,
and permitted changes keep the invariant, then all changes of an interleaving are permitted
exactly if every step of it meets the condition, whatever the calls have read before. -/
theorem along_made_changes_iff {invariant : σ → Prop} {permitted : σ → σ → Prop}
    {condition : σ → ω → Prop} {allowed : ω → Prop}
    (handled : ∀ request, (handle request).Makes allowed)
    (unchanged : ∀ store, invariant store → permitted store store)
    (agree : ∀ store operation written, invariant store → allowed operation →
      apply store operation = .ok written →
      (permitted store written ↔ condition store operation))
    (kept : ∀ store operation written, invariant store → allowed operation →
      permitted store written → apply store operation = .ok written → invariant written)
    {system : System σ ω δ ε} (actions : List (Action ρ)) (made : system.Makes allowed)
    (sound : invariant system.store) :
    Along (step apply handle) (fun before _ next => permitted before.store next.store) system
        actions ↔
      Along (step apply handle) (fun before action _ => Meets apply condition before action)
        system actions := by
  apply along_iff_of_invariant fun system : System σ ω δ ε =>
    invariant system.store ∧ system.Makes allowed
  · intro before action next ⟨valid, makes⟩ moved
    cases step_store moved with
    | inl left =>
      obtain ⟨refused, same⟩ := left
      rw [same]
      refine iff_of_true (unchanged before.store valid) ?_
      intro operation attempt written accepted
      obtain ⟨reason, rejected⟩ := refused operation attempt
      rw [rejected] at accepted
      cases accepted
    | inr changed =>
      obtain ⟨operation, attempt, accepted⟩ := changed
      rw [agree before.store operation next.store valid (attempted_allowed makes attempt) accepted]
      constructor
      · intro met other found written _
        rw [attempt] at found
        cases found
        exact met
      · intro met
        exact met operation attempt next.store accepted
  · intro before action next ⟨valid, makes⟩ established moved
    refine ⟨?_, step_makes handled makes moved⟩
    cases step_store moved with
    | inl left => exact left.2 ▸ valid
    | inr changed =>
      obtain ⟨operation, attempt, accepted⟩ := changed
      exact kept before.store operation next.store valid (attempted_allowed makes attempt)
        established accepted
  · exact ⟨sound, made⟩

/-- The rule for writes of any kind. -/
theorem along_changes_iff {invariant : σ → Prop} {permitted : σ → σ → Prop}
    {condition : σ → ω → Prop} (unchanged : ∀ store, invariant store → permitted store store)
    (agree : ∀ store operation written, invariant store → apply store operation = .ok written →
      (permitted store written ↔ condition store operation))
    (kept : ∀ store operation written, invariant store → permitted store written →
      apply store operation = .ok written → invariant written)
    {system : System σ ω δ ε} (actions : List (Action ρ)) (sound : invariant system.store) :
    Along (step apply handle) (fun before _ next => permitted before.store next.store) system
        actions ↔
      Along (step apply handle) (fun before action _ => Meets apply condition before action)
        system actions :=
  along_made_changes_iff (fun request => (handle request).makes_any) unchanged
    (fun store operation written valid _ => agree store operation written valid)
    (fun store operation written valid _ => kept store operation written valid) actions
    (fun program _ => program.makes_any) sound

/-- The rule for a property of the store and for the writes that the calls make. -/
theorem along_made_writes_iff {invariant holds : σ → Prop} {condition : σ → ω → Prop}
    {allowed : ω → Prop} (handled : ∀ request, (handle request).Makes allowed)
    (kept : ∀ store operation written, invariant store → allowed operation →
      apply store operation = .ok written → invariant written)
    (agree : ∀ store operation written, invariant store → holds store → allowed operation →
      apply store operation = .ok written → (holds written ↔ condition store operation))
    {system : System σ ω δ ε} (actions : List (Action ρ)) (made : system.Makes allowed)
    (sound : invariant system.store) (initially : holds system.store) :
    Along (step apply handle) (fun _ _ next => holds next.store) system actions ↔
      Along (step apply handle) (fun before action _ => Meets apply condition before action)
        system actions := by
  have both : invariant system.store ∧ holds system.store := ⟨sound, initially⟩
  refine @along_made_changes_iff σ ω δ ε ρ apply handle
    (fun store => invariant store ∧ holds store) (fun _ next => holds next) condition allowed
    handled ?_ ?_ ?_ system actions made both
  · exact fun store valid => valid.2
  · exact fun store operation written valid permitted =>
      agree store operation written valid.1 valid.2 permitted
  · exact fun store operation written valid permitted established accepted =>
      ⟨kept store operation written valid.1 permitted accepted, established⟩

/-- The rule for interleaved calls. If under an invariant of the store the operations keep
a property exactly where they meet a condition, then the property holds after every step
of an interleaving exactly if every step of it meets the condition, whatever the calls
have read before. -/
theorem along_writes_iff {invariant holds : σ → Prop} {condition : σ → ω → Prop}
    (kept : ∀ store operation written, invariant store →
      apply store operation = .ok written → invariant written)
    (agree : ∀ store operation written, invariant store → holds store →
      apply store operation = .ok written → (holds written ↔ condition store operation))
    {system : System σ ω δ ε} (actions : List (Action ρ)) (sound : invariant system.store)
    (initially : holds system.store) :
    Along (step apply handle) (fun _ _ next => holds next.store) system actions ↔
      Along (step apply handle) (fun before action _ => Meets apply condition before action)
        system actions :=
  along_made_writes_iff (fun request => (handle request).makes_any)
    (fun store operation written valid _ => kept store operation written valid)
    (fun store operation written valid established _ =>
      agree store operation written valid established) actions
    (fun program _ => program.makes_any) sound initially

section Knowledge

variable (invariant : σ → Prop) (later : σ → σ → Prop) (allowed : σ → ω → Prop)

/-- What a program has read bears on its writes: they are allowed in every store later than
the one that it has read last, if that one was sound. -/
def Program.Knows {α : Type} : σ → Program σ ω δ ε α → Prop
  | _, .returned _ | _, .failed _ => True
  | seen, .reading next =>
    ∀ store, invariant store → later seen store → (next store).Knows store
  | seen, .writing operation _ next =>
    (∀ store, later seen store → allowed store operation) ∧ next.Knows seen

/-- Every call knows enough about the store as it is now. -/
def System.Knows (system : System σ ω δ ε) : Prop :=
  ∀ program ∈ system.calls, program.Knows invariant later allowed system.store

variable {invariant : σ → Prop} {later : σ → σ → Prop} {allowed : σ → ω → Prop}

/-- Knowledge does not age. -/
theorem Program.knows_later {α : Type} {program : Program σ ω δ ε α}
    (trans : ∀ first second third, later first second → later second third → later first third)
    {seen store : σ} (onward : later seen store) (knows : program.Knows invariant later allowed seen) :
    program.Knows invariant later allowed store := by
  induction program with
  | returned value => trivial
  | failed failure => trivial
  | reading next _ => exact fun other valid further => knows other valid (trans _ _ _ onward further)
  | writing operation rejected next inductionHypothesis =>
    exact ⟨fun other further => knows.1 other (trans _ _ _ onward further), inductionHypothesis knows.2⟩

/-- A property of the write that a step attempts, if it attempts one. -/
def Attempts (property : σ → ω → Prop) (system : System σ ω δ ε) (action : Action ρ) : Prop :=
  ∀ operation, attempted system action = some operation → property system.store operation

/-- Calls that answer for their writes attempt allowed ones. -/
theorem attempted_known {system : System σ ω δ ε} {action : Action ρ} {operation : ω}
    (refl : ∀ store, later store store) (knows : system.Knows invariant later allowed)
    (attempt : attempted system action = some operation) : allowed system.store operation := by
  cases action with
  | submit request => cases attempt
  | advance call =>
    obtain ⟨program, listed, next⟩ := Option.bind_eq_some_iff.mp attempt
    have knowing := knows program (List.mem_of_getElem? listed)
    cases program with
    | returned value => cases next
    | failed failure => cases next
    | reading question => cases next
    | writing other rejected onward =>
      cases next
      exact knowing.1 system.store (refl system.store)

/-- A step leads to a later store, in which the rest of the call still knows enough. -/
theorem step_knows (refl : ∀ store, later store store)
    (trans : ∀ first second third, later first second → later second third → later first third)
    (onward : ∀ store operation written, invariant store → allowed store operation →
      apply store operation = .ok written → invariant written ∧ later store written)
    (handled : ∀ request store, (handle request).Knows invariant later allowed store)
    {system next : System σ ω δ ε} {action : Action ρ} (sound : invariant system.store)
    (knows : system.Knows invariant later allowed) (moved : step apply handle system action = some next) :
    invariant next.store ∧ next.Knows invariant later allowed := by
  cases action with
  | submit request =>
    cases moved
    refine ⟨sound, fun program listed => ?_⟩
    cases List.mem_append.mp listed with
    | inl before => exact knows program before
    | inr new => exact List.mem_singleton.mp new ▸ handled request system.store
  | advance call =>
    obtain ⟨program, found, accessed⟩ := Option.bind_eq_some_iff.mp moved
    obtain ⟨⟨store, rest⟩, continued, same⟩ := Option.map_eq_some_iff.mp accessed
    subst same
    have knowing := knows program (List.mem_of_getElem? found)
    have both : (invariant store ∧ later system.store store) ∧ rest.Knows invariant later allowed store := by
      cases program with
      | returned value => cases continued
      | failed failure => cases continued
      | reading question =>
        cases continued
        exact ⟨⟨sound, refl _⟩, knowing _ sound (refl _)⟩
      | writing operation rejected further =>
        rw [access] at continued
        split at continued
        case h_1 written accepted =>
          cases continued
          have led := onward _ _ _ sound (knowing.1 _ (refl _)) accepted
          exact ⟨led, Program.knows_later trans led.2 knowing.2⟩
        case h_2 =>
          cases continued
          exact ⟨⟨sound, refl _⟩, trivial⟩
    refine ⟨both.1.1, fun other listed => ?_⟩
    cases List.mem_or_eq_of_mem_set listed with
    | inl before => exact Program.knows_later trans both.1.2 (knows other before)
    | inr new => exact new ▸ both.2

/-- The rule for attempts. If under an invariant the writes that calls may know of are good
exactly where they meet a condition, then all attempts of an interleaving are good exactly
if they all meet the condition, whether the store accepts them or not. -/
theorem along_attempts_iff {good condition : σ → ω → Prop}
    (refl : ∀ store, later store store)
    (trans : ∀ first second third, later first second → later second third → later first third)
    (onward : ∀ store operation written, invariant store → allowed store operation →
      apply store operation = .ok written → invariant written ∧ later store written)
    (handled : ∀ request store, (handle request).Knows invariant later allowed store)
    (agree : ∀ store operation, invariant store → allowed store operation →
      (good store operation ↔ condition store operation))
    {system : System σ ω δ ε} (actions : List (Action ρ)) (sound : invariant system.store)
    (knows : system.Knows invariant later allowed) :
    Along (step apply handle) (fun before action _ => Attempts good before action) system
        actions ↔
      Along (step apply handle) (fun before action _ => Attempts condition before action)
        system actions := by
  apply along_iff_of_invariant fun system : System σ ω δ ε =>
    invariant system.store ∧ system.Knows invariant later allowed
  · intro before action next ⟨valid, knowing⟩ _
    refine forall₂_congr fun operation attempt => ?_
    exact agree before.store operation valid (attempted_known refl knowing attempt)
  · exact fun before action next both _ moved =>
      step_knows refl trans onward handled both.1 both.2 moved
  · exact ⟨sound, knows⟩

variable (invariant later allowed) in
/-- What a program knows together with what it has learned when it returns. -/
def Program.Learns {α : Type} (learned : σ → α → Prop) : σ → Program σ ω δ ε α → Prop
  | seen, .returned value => learned seen value
  | _, .failed _ => True
  | seen, .reading next =>
    ∀ store, invariant store → later seen store → (next store).Learns learned store
  | seen, .writing operation _ next =>
    (∀ store, later seen store → allowed store operation) ∧ next.Learns learned seen

/-- A program that learns answers for its writes. -/
theorem Program.knows_of_learns {α : Type} {program : Program σ ω δ ε α} {learned : σ → α → Prop}
    {seen : σ} (learns : program.Learns invariant later allowed learned seen) :
    program.Knows invariant later allowed seen := by
  induction program generalizing seen with
  | returned value => trivial
  | failed failure => trivial
  | reading next inductionHypothesis =>
    exact fun store sound onward => inductionHypothesis store (learns store sound onward)
  | writing operation rejected next inductionHypothesis =>
    exact ⟨learns.1, inductionHypothesis learns.2⟩

/-- What a program learns is known to its rest. -/
theorem Program.learns_bind {α β : Type} {program : Program σ ω δ ε α}
    {rest : α → Program σ ω δ ε β} {learned : σ → α → Prop} {concluded : σ → β → Prop} {seen : σ}
    (first : program.Learns invariant later allowed learned seen)
    (second : ∀ store value, learned store value →
      (rest value).Learns invariant later allowed concluded store) :
    (program >>= rest).Learns invariant later allowed concluded seen := by
  change (program.andThen rest).Learns invariant later allowed concluded seen
  induction program generalizing seen with
  | returned value => exact second seen value first
  | failed failure => trivial
  | reading next inductionHypothesis =>
    exact fun store sound onward => inductionHypothesis store (first store sound onward)
  | writing operation rejected next inductionHypothesis =>
    exact ⟨first.1, inductionHypothesis first.2⟩

/-- A load learns of the row that it finds. -/
theorem Program.learns_load {α β : Type} {question : σ → Option α} {failure : ε}
    {rest : α → Program σ ω δ ε β} {learned : σ → β → Prop} {seen : σ}
    (next : ∀ store value, invariant store → later seen store → question store = some value →
      (rest value).Learns invariant later allowed learned store) :
    (loadOrThrow question failure >>= rest).Learns invariant later allowed learned seen := by
  intro store sound onward
  change Program.Learns invariant later allowed learned store
    ((((question store).map Program.returned).getD (Program.failed failure)).andThen rest)
  cases found : question store with
  | none => trivial
  | some value => exact next store value sound onward found

/-- A check learns that it was passed. -/
theorem Program.learns_ensure {β : Type} {holds : Bool} {failure : ε}
    {rest : Unit → Program σ ω δ ε β} {learned : σ → β → Prop} {seen : σ}
    (next : holds = true → (rest ()).Learns invariant later allowed learned seen) :
    (ensure holds failure >>= rest).Learns invariant later allowed learned seen := by
  cases checked : holds with
  | false => trivial
  | true => exact next checked

/-- A check that ends a program concludes what it was about. -/
theorem Program.learns_ensured {holds : Bool} {failure : ε} {learned : σ → Unit → Prop} {seen : σ}
    (concluded : holds = true → learned seen ()) :
    (ensure holds failure : Program σ ω δ ε Unit).Learns invariant later allowed learned seen := by
  cases checked : holds with
  | false => trivial
  | true => exact concluded checked

/-- A write is made in a later store, where it must be allowed. -/
theorem Program.learns_write {operation : ω} {rejected : δ → ε} {seen : σ}
    (known : ∀ store, later seen store → allowed store operation) :
    (write operation rejected : Program σ ω δ ε Unit).Learns invariant later allowed
      (fun _ _ => True) seen :=
  ⟨known, trivial⟩

/-- What a call that nothing interrupts knows of its writes is so. -/
theorem Program.knows_alone {α : Type} {program : Program σ ω δ ε α}
    (refl : ∀ store, later store store)
    (trans : ∀ first second third, later first second → later second third → later first third)
    (onward : ∀ store operation written, invariant store → allowed store operation →
      apply store operation = .ok written → invariant written ∧ later store written)
    {store : σ} (sound : invariant store) (knows : program.Knows invariant later allowed store) :
    program.MeetsAlone apply (fun store operation => invariant store ∧ allowed store operation)
      store := by
  induction program generalizing store with
  | returned value => trivial
  | failed failure => trivial
  | reading next inductionHypothesis =>
    exact inductionHypothesis store sound (knows store sound (refl store))
  | writing operation rejected next inductionHypothesis =>
    have permitted := knows.1 store (refl store)
    refine ⟨⟨sound, permitted⟩, fun written accepted => ?_⟩
    have led := onward store operation written sound permitted accepted
    exact inductionHypothesis led.1 (Program.knows_later trans led.2 knows.2)

section KnownWrites

variable (refl : ∀ store, later store store)
  (trans : ∀ first second third, later first second → later second third → later first third)
  (onward : ∀ store operation written, invariant store → allowed store operation →
    apply store operation = .ok written → invariant written ∧ later store written)
  (handled : ∀ request store, (handle request).Knows invariant later allowed store)

include refl trans onward handled

/-- The rule for what the writes of calls do. Every step of an interleaving leaves the store
as it is, or makes one write that is allowed in the store which it is made in. -/
theorem along_of_known (holds : σ → ω → σ → Prop)
    (changed : ∀ store operation written, invariant store → allowed store operation →
      apply store operation = .ok written → holds store operation written)
    {system : System σ ω δ ε} (actions : List (Action ρ)) (sound : invariant system.store)
    (knows : system.Knows invariant later allowed) :
    Along (step apply handle) (fun before action next => next.store = before.store ∨
      ∃ operation, attempted before action = some operation ∧
        holds before.store operation next.store) system actions := by
  refine along_of_invariant (fun system : System σ ω δ ε =>
    invariant system.store ∧ system.Knows invariant later allowed) ?_ ?_ ⟨sound, knows⟩
    (along_true _ _ actions)
  · exact fun before action next both _ moved =>
      step_knows refl trans onward handled both.1 both.2 moved
  · intro before action next both _ moved
    cases step_store moved with
    | inl left => exact Or.inl left.2
    | inr written =>
      obtain ⟨operation, attempt, accepted⟩ := written
      exact Or.inr ⟨operation, attempt, changed before.store operation next.store both.1
        (attempted_known refl both.2 attempt) accepted⟩

/-- The rule for a property that allowed writes keep where they meet a condition. -/
theorem along_keeps_known {whole : σ → Prop} {condition : σ → ω → Prop}
    (kept : ∀ store operation written, whole store → allowed store operation →
      condition store operation → apply store operation = .ok written → whole written)
    {system : System σ ω δ ε} {actions : List (Action ρ)} (sound : invariant system.store)
    (knows : system.Knows invariant later allowed) (initially : whole system.store)
    (met : Along (step apply handle) (fun before action _ => Meets apply condition before action)
      system actions) :
    Along (step apply handle) (fun _ _ next => whole next.store) system actions := by
  have stays : ∀ before action next,
      (invariant before.store ∧ before.Knows invariant later allowed) ∧ whole before.store →
      Meets apply condition before action → step apply handle before action = some next →
      whole next.store := by
    intro before action next both fulfilled moved
    cases step_store moved with
    | inl left => exact left.2 ▸ both.2
    | inr written =>
      obtain ⟨operation, attempt, accepted⟩ := written
      exact kept before.store operation next.store both.2
        (attempted_known refl both.1.2 attempt) (fulfilled operation attempt next.store accepted)
        accepted
  refine along_of_invariant (fun system : System σ ω δ ε =>
    (invariant system.store ∧ system.Knows invariant later allowed) ∧ whole system.store) ?_ stays
    ⟨⟨sound, knows⟩, initially⟩ met
  exact fun before action next both fulfilled moved =>
    ⟨step_knows refl trans onward handled both.1.1 both.1.2 moved,
      stays before action next both fulfilled moved⟩

/-- A run leads to a later store, in which the calls still know enough. -/
theorem reached_known {system reached : System σ ω δ ε} {actions : List (Action ρ)}
    (sound : invariant system.store) (knows : system.Knows invariant later allowed)
    (completed : run (step apply handle) system actions = some reached) :
    (invariant reached.store ∧ reached.Knows invariant later allowed) ∧
      later system.store reached.store := by
  refine invariant_reached (fun between : System σ ω δ ε =>
    (invariant between.store ∧ between.Knows invariant later allowed) ∧
      later system.store between.store) ?_ ⟨⟨sound, knows⟩, refl _⟩
    (along_true (step apply handle) system actions) completed
  intro before action next both _ moved
  refine ⟨step_knows refl trans onward handled both.1.1 both.1.2 moved, ?_⟩
  cases step_store moved with
  | inl left => exact left.2 ▸ both.2
  | inr written =>
    obtain ⟨operation, attempt, accepted⟩ := written
    have permitted := attempted_known refl both.1.2 attempt
    exact trans _ _ _ both.2
      (onward before.store operation next.store both.1.1 permitted accepted).2

end KnownWrites

end Knowledge

section Payments

variable {pays owed : ω → Bool} {paid made : σ → Nat}

/-- What was made is paid for, and so is what the calls make before they read again. -/
structure PaidFor (pays owed : ω → Bool) (paid made : σ → Nat) (system : System σ ω δ ε) : Prop where
  balance : (system.calls.map (Program.owes pays owed)).sum + made system.store ≤ paid system.store
  first : ∀ program ∈ system.calls, program.PaysFirst pays owed

/-- A call that has less to do lowers the sum. -/
theorem sum_set_le {calls : List (Program σ ω δ ε Unit)} {call : Nat}
    {program rest : Program σ ω δ ε Unit} (listed : calls[call]? = some program) :
    ((calls.set call rest).map (Program.owes pays owed)).sum + program.owes pays owed =
      (calls.map (Program.owes pays owed)).sum + rest.owes pays owed := by
  induction calls generalizing call with
  | nil => cases listed
  | cons first later inductionHypothesis =>
    cases call with
    | zero =>
      cases listed
      simp only [List.set_cons_zero, List.map_cons, List.sum_cons]
      omega
    | succ place =>
      have shifted := inductionHypothesis listed
      simp only [List.set_cons_succ, List.map_cons, List.sum_cons]
      omega

/-- Every step keeps the payments, if the store counts both kinds of writes and every
request begins without a debt. -/
theorem paidFor_step
    (counted : ∀ store operation written, apply store operation = .ok written →
      paid written = paid store + (if pays operation then 1 else 0) ∧
        made written = made store + if owed operation then 1 else 0)
    (handled : ∀ request, (handle request).owes pays owed = 0 ∧
      (handle request).PaysFirst pays owed)
    {system next : System σ ω δ ε} {action : Action ρ}
    (before : PaidFor pays owed paid made system)
    (moved : step apply handle system action = some next) : PaidFor pays owed paid made next := by
  cases action with
  | submit request =>
    cases moved
    obtain ⟨nothing, payingFirst⟩ := handled request
    constructor
    · simp only [List.map_append, List.map_cons, List.map_nil, List.sum_append, List.sum_cons,
        List.sum_nil, nothing]
      exact before.balance
    · intro program listed
      cases List.mem_append.mp listed with
      | inl old => exact before.first program old
      | inr new => exact List.mem_singleton.mp new ▸ payingFirst
  | advance call =>
    obtain ⟨program, listed, accessed⟩ := Option.bind_eq_some_iff.mp moved
    obtain ⟨⟨store, rest⟩, continued, same⟩ := Option.map_eq_some_iff.mp accessed
    subst same
    have payingFirst := before.first program (List.mem_of_getElem? listed)
    have balance := before.balance
    have changed := @sum_set_le σ ω δ ε pays owed system.calls call program rest listed
    have both : rest.PaysFirst pays owed ∧
        rest.owes pays owed + made store + paid system.store ≤
          program.owes pays owed + made system.store + paid store := by
      cases program with
      | returned value => cases continued
      | failed failure => cases continued
      | reading onward =>
        cases continued
        obtain ⟨nothing, later⟩ := payingFirst system.store
        refine ⟨later, ?_⟩
        rw [nothing]
        omega
      | writing operation rejected onward =>
        rw [access] at continued
        split at continued
        case h_1 written accepted =>
          cases continued
          obtain ⟨paying, making⟩ := counted system.store operation store accepted
          refine ⟨payingFirst, ?_⟩
          rw [paying, making, Program.owes]
          omega
        case h_2 =>
          cases continued
          refine ⟨trivial, ?_⟩
          rw [Program.owes]
          omega
    constructor
    · dsimp only
      omega
    · intro other member
      cases List.mem_or_eq_of_mem_set member with
      | inl old => exact before.first other old
      | inr new => exact new ▸ both.1

end Payments

end EmotoFleet.Interleavings
