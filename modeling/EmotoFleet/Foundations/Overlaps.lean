import EmotoFleet.Foundations.Interleavings

/-!
# What other calls do between a read and a write

A call checks what it reads and writes afterwards. What its checks are worth at the write
depends on what other calls have written in between. To say so, a run is watched: beside
each call stand its request and the stores that its accesses have left, and the watched
run takes the same steps. A program vouches for what its own accesses tell about its
writes; where no other call has overtaken a write, that is what the store meets.

Nothing here mentions a particular program.
-/

namespace EmotoFleet.Overlaps

open EmotoFleet.Runs EmotoFleet.Interleavings

variable {ρ σ ω δ ε : Type}

/-- A call with its request and the stores that its accesses have left, in their order:
for a read the store that was read, for an accepted write the store that it made. -/
structure Call (ρ σ ω δ ε : Type) where
  request : ρ
  seen : List σ
  rest : Program σ ω δ ε Unit

/-- The store and the calls that use it, with what they have seen. -/
structure Watched (ρ σ ω δ ε : Type) where
  store : σ
  calls : List (Call ρ σ ω δ ε)

/-- The system without its history. -/
def Watched.forget (watched : Watched ρ σ ω δ ε) : System σ ω δ ε where
  store := watched.store
  calls := watched.calls.map (·.rest)

/-- The stores that a call has seen after one more access. A rejected write shows it
nothing. -/
def Call.sees (apply : σ → ω → Except δ σ) (store : σ) (call : Call ρ σ ω δ ε) : List σ :=
  match call.rest with
  | .returned _ | .failed _ => call.seen
  | .reading _ => call.seen ++ [store]
  | .writing operation _ _ =>
    match apply store operation with
    | .ok written => call.seen ++ [written]
    | .error _ => call.seen

/-- The steps of the system, with the history kept up. -/
def watch (apply : σ → ω → Except δ σ) (handle : ρ → Program σ ω δ ε Unit)
    (watched : Watched ρ σ ω δ ε) : Action ρ → Option (Watched ρ σ ω δ ε)
  | .submit request =>
    some { watched with calls := watched.calls ++ [⟨request, [], handle request⟩] }
  | .advance index =>
    (watched.calls[index]?).bind fun call =>
      (access apply watched.store call.rest).map fun (store, rest) =>
        { store := store
          calls := watched.calls.set index
            ⟨call.request, call.sees apply watched.store, rest⟩ }

/-- The write that an action attempts, with the call that makes it. -/
def attempting (watched : Watched ρ σ ω δ ε) : Action ρ → Option (Call ρ σ ω δ ε × ω)
  | .submit _ => none
  | .advance index =>
    (watched.calls[index]?).bind fun call => call.rest.nextWrite.map fun operation => (call, operation)

/-- A condition on the write that a step attempts, if it attempts one: on the request, on what
the call has seen, on the store and on the operation. -/
def Attempts (condition : ρ → List σ → σ → ω → Prop) (watched : Watched ρ σ ω δ ε)
    (action : Action ρ) : Prop :=
  ∀ attempt ∈ attempting watched action,
    condition attempt.1.request attempt.1.seen watched.store attempt.2

instance {condition : ρ → List σ → σ → ω → Prop}
    [∀ request seen store operation, Decidable (condition request seen store operation)]
    (watched : Watched ρ σ ω δ ε) (action : Action ρ) :
    Decidable (Attempts condition watched action) :=
  inferInstanceAs (Decidable (∀ _ ∈ _, _))

/-- The same for writes that the store accepts. -/
def Meets (apply : σ → ω → Except δ σ) (condition : ρ → List σ → σ → ω → Prop)
    (watched : Watched ρ σ ω δ ε) (action : Action ρ) : Prop :=
  Attempts (fun request seen store operation => ∀ written ∈ (apply store operation).toOption,
    condition request seen store operation) watched action

instance {apply : σ → ω → Except δ σ} {condition : ρ → List σ → σ → ω → Prop}
    [∀ request seen store operation, Decidable (condition request seen store operation)]
    (watched : Watched ρ σ ω δ ε) (action : Action ρ) :
    Decidable (Meets apply condition watched action) :=
  inferInstanceAs (Decidable (∀ _ ∈ _, ∀ _ ∈ _, _))

/-- The store before any call has come in. -/
def Watched.begun (store : σ) : Watched ρ σ ω δ ε where
  store := store
  calls := []

section Vouching

/-- Whatever a program reads, what its accesses have shown it by then bears out each of its
writes, and what it returns with. The stores that it finds are sound. -/
def Vouches (apply : σ → ω → Except δ σ) (sound : σ → Prop) (vouched : List σ → ω → Prop)
    {α : Type} (concluded : List σ → α → Prop) : List σ → Program σ ω δ ε α → Prop
  | seen, .returned value => concluded seen value
  | _, .failed _ => True
  | seen, .reading next =>
    ∀ store, sound store → Vouches apply sound vouched concluded (seen ++ [store]) (next store)
  | seen, .writing operation _ next =>
    vouched seen operation ∧ ∀ store written, sound store → apply store operation = .ok written →
      Vouches apply sound vouched concluded (seen ++ [written]) next

variable {apply : σ → ω → Except δ σ} {sound : σ → Prop} {vouched : List σ → ω → Prop}
  {α β : Type} {concluded : List σ → β → Prop} {seen : List σ}

theorem vouches_bind (program : Program σ ω δ ε α) (rest : α → Program σ ω δ ε β) :
    Vouches apply sound vouched concluded seen (program >>= rest) ↔
      Vouches apply sound vouched
        (fun shown value => Vouches apply sound vouched concluded shown (rest value)) seen program := by
  change Vouches apply sound vouched concluded seen (program.andThen rest) ↔ _
  induction program generalizing seen with
  | returned value => exact Iff.rfl
  | failed failure => exact Iff.rfl
  | reading next inductionHypothesis =>
    simp only [Program.andThen, Vouches]
    exact forall₂_congr fun store _ => inductionHypothesis store
  | writing operation rejected next inductionHypothesis =>
    simp only [Program.andThen, Vouches]
    exact and_congr_right fun _ => forall₄_congr fun _ _ _ _ => inductionHypothesis

theorem vouches_read (question : σ → β) :
    Vouches apply sound vouched concluded seen (.read question : Program σ ω δ ε β) ↔
      ∀ store, sound store → concluded (seen ++ [store]) (question store) :=
  Iff.rfl

theorem vouches_write {concluded : List σ → Unit → Prop} (operation : ω) (rejected : δ → ε) :
    Vouches apply sound vouched concluded seen
        (.write operation rejected : Program σ ω δ ε Unit) ↔
      vouched seen operation ∧ ∀ store written, sound store → apply store operation = .ok written →
        concluded (seen ++ [written]) () :=
  Iff.rfl

theorem vouches_ite {condition : Prop} [Decidable condition] {first second : Program σ ω δ ε β}
    (left : condition → Vouches apply sound vouched concluded seen first)
    (right : ¬ condition → Vouches apply sound vouched concluded seen second) :
    Vouches apply sound vouched concluded seen (if condition then first else second) := by
  split
  case isTrue met => exact left met
  case isFalse unmet => exact right unmet

/-- Once a call has seen enough, whatever it reads further, it vouches for its writes. -/
theorem vouches_of_makes {program : Program σ ω δ ε α}
    (made : program.Makes fun operation => ∀ shown, vouched (seen ++ shown) operation) :
    Vouches apply sound vouched (fun _ _ => True) seen program := by
  suffices onward : ∀ shown, Vouches apply sound vouched (fun _ _ => True) (seen ++ shown) program by
    have now := onward []
    rwa [List.append_nil] at now
  induction program with
  | returned value => exact fun _ => trivial
  | failed failure => exact fun _ => trivial
  | reading next inductionHypothesis =>
    intro shown store _
    rw [List.append_assoc]
    exact inductionHypothesis store (made store) _
  | writing operation rejected next inductionHypothesis =>
    intro shown
    refine ⟨made.1 shown, fun store written _ _ => ?_⟩
    rw [List.append_assoc]
    exact inductionHypothesis made.2 _

end Vouching

variable {apply : σ → ω → Except δ σ} {handle : ρ → Program σ ω δ ε Unit}

section Watching

/-- A watched run is a run: forgetting the history goes along with each step. -/
theorem forget_watch (watched : Watched ρ σ ω δ ε) (action : Action ρ) :
    (watch apply handle watched action).map Watched.forget =
      step apply handle watched.forget action := by
  cases action with
  | submit request => simp [watch, step, Watched.forget]
  | advance index =>
    simp only [watch, step, Watched.forget, List.getElem?_map]
    cases watched.calls[index]? with
    | none => rfl
    | some call =>
      simp only [Option.bind_some, Option.map_some, Option.map_map]
      congr 1
      funext moved
      simp [Watched.forget, List.map_set]

/-- What holds of the steps of a system holds of those of the watched one. -/
theorem along_forget (holds : System σ ω δ ε → Action ρ → System σ ω δ ε → Prop)
    (watched : Watched ρ σ ω δ ε) (actions : List (Action ρ)) :
    Along (step apply handle) holds watched.forget actions ↔
      Along (watch apply handle)
        (fun before action next => holds before.forget action next.forget) watched actions := by
  induction actions generalizing watched with
  | nil => exact Iff.rfl
  | cons action rest inductionHypothesis =>
    rw [along_cons, along_cons, ← forget_watch]
    constructor
    · intro everywhere next moved
      obtain ⟨met, onward⟩ := everywhere next.forget (by rw [moved]; rfl)
      exact ⟨met, (inductionHypothesis next).mp onward⟩
    · intro everywhere forgotten moved
      obtain ⟨next, watchedNext, rfl⟩ := Option.map_eq_some_iff.mp moved
      obtain ⟨met, onward⟩ := everywhere next watchedNext
      exact ⟨met, (inductionHypothesis next).mpr onward⟩

end Watching

section Steps

variable {sound : σ → Prop} {vouched : ρ → List σ → ω → Prop}

/-- Every call vouches for the writes that it still makes. -/
def Watched.Vouches (apply : σ → ω → Except δ σ) (sound : σ → Prop)
    (vouched : ρ → List σ → ω → Prop) (watched : Watched ρ σ ω δ ε) : Prop :=
  ∀ call ∈ watched.calls,
    Overlaps.Vouches apply sound (vouched call.request) (fun _ _ => True) call.seen call.rest

theorem vouched_of_attempting {watched : Watched ρ σ ω δ ε} {action : Action ρ}
    {attempt : Call ρ σ ω δ ε × ω} (vouch : watched.Vouches apply sound vouched)
    (found : attempting watched action = some attempt) :
    vouched attempt.1.request attempt.1.seen attempt.2 := by
  cases action with
  | submit request => cases found
  | advance index =>
    obtain ⟨call, listed, next⟩ := Option.bind_eq_some_iff.mp found
    obtain ⟨operation, attempted, rfl⟩ := Option.map_eq_some_iff.mp next
    have bearsOut := vouch call (List.mem_of_getElem? listed)
    obtain ⟨request, seen, rest⟩ := call
    cases rest with
    | returned value => cases attempted
    | failed failure => cases attempted
    | reading onward => cases attempted
    | writing other rejected onward =>
      cases attempted
      exact bearsOut.1

/-- What a step does to the store: nothing, with no write that the store accepts, or the one
write that a call attempts. -/
theorem watch_store {watched next : Watched ρ σ ω δ ε} {action : Action ρ}
    (moved : watch apply handle watched action = some next) :
    ((∀ attempt, attempting watched action = some attempt →
        ∃ reason, apply watched.store attempt.2 = .error reason) ∧
      next.store = watched.store) ∨
    ∃ attempt, attempting watched action = some attempt ∧
      apply watched.store attempt.2 = .ok next.store := by
  cases action with
  | submit request =>
    cases moved
    left
    exact ⟨fun attempt found => absurd found (Option.some_ne_none attempt).symm, rfl⟩
  | advance index =>
    obtain ⟨call, listed, accessed⟩ := Option.bind_eq_some_iff.mp moved
    obtain ⟨⟨store, rest⟩, made, same⟩ := Option.map_eq_some_iff.mp accessed
    subst same
    have attempt : attempting watched (.advance index : Action ρ) =
        call.rest.nextWrite.map fun operation => (call, operation) := by
      simp only [attempting, listed, Option.bind_some]
    rw [attempt]
    obtain ⟨request, seen, program⟩ := call
    cases program with
    | returned value => cases made
    | failed failure => cases made
    | reading onward =>
      cases made
      left
      exact ⟨fun other found => absurd found (Option.some_ne_none other).symm, rfl⟩
    | writing operation rejected onward =>
      cases applied : apply watched.store operation with
      | ok written =>
        simp only [access, applied, Option.some.injEq, Prod.mk.injEq] at made
        right
        exact ⟨(⟨request, seen, .writing operation rejected onward⟩, operation), rfl,
          made.1 ▸ applied⟩
      | error reason =>
        simp only [access, applied, Option.some.injEq, Prod.mk.injEq] at made
        left
        refine ⟨?_, made.1.symm⟩
        intro other found
        cases found
        exact ⟨reason, applied⟩

/-- The write that an action attempts is that of the call. -/
theorem attempted_forget (watched : Watched ρ σ ω δ ε) (action : Action ρ) :
    attempted watched.forget action = (attempting watched action).map (·.2) := by
  cases action with
  | submit request => rfl
  | advance index =>
    simp only [attempted, attempting, Watched.forget, List.getElem?_map]
    cases watched.calls[index]? with
    | none => rfl
    | some call =>
      simp only [Option.map_some, Option.bind_some, Option.map_map]
      exact (congrFun Option.map_id _).symm

/-- Calls go on vouching, as long as the store is sound. -/
theorem watch_vouches
    (handled : ∀ request,
      Vouches apply sound (vouched request) (fun _ _ => True) [] (handle request))
    {watched next : Watched ρ σ ω δ ε} {action : Action ρ} (valid : sound watched.store)
    (vouch : watched.Vouches apply sound vouched)
    (moved : watch apply handle watched action = some next) :
    next.Vouches apply sound vouched := by
  cases action with
  | submit request =>
    cases moved
    intro call listed
    cases List.mem_append.mp listed with
    | inl before => exact vouch call before
    | inr new => exact List.mem_singleton.mp new ▸ handled request
  | advance index =>
    obtain ⟨call, found, accessed⟩ := Option.bind_eq_some_iff.mp moved
    obtain ⟨⟨store, rest⟩, continued, same⟩ := Option.map_eq_some_iff.mp accessed
    subst same
    have bearsOut := vouch call (List.mem_of_getElem? found)
    obtain ⟨request, seen, program⟩ := call
    intro other listed
    cases List.mem_or_eq_of_mem_set listed with
    | inl before => exact vouch other before
    | inr new =>
      subst new
      cases program with
      | returned value => cases continued
      | failed failure => cases continued
      | reading onward =>
        cases continued
        exact bearsOut watched.store valid
      | writing operation rejected onward =>
        rw [access] at continued
        cases applied : apply watched.store operation with
        | ok written =>
          simp only [applied, Option.some.injEq, Prod.mk.injEq] at continued
          simp only [Call.sees, applied, ← continued.2]
          exact bearsOut.2 watched.store written valid applied
        | error reason =>
          simp only [applied, Option.some.injEq, Prod.mk.injEq] at continued
          rw [← continued.2]
          trivial

/-- What the calls have seen is not later than the store. -/
def Watched.Since (later : σ → σ → Prop) (watched : Watched ρ σ ω δ ε) : Prop :=
  ∀ call ∈ watched.calls, ∀ shown ∈ call.seen, later shown watched.store

theorem mem_sees {call : Call ρ σ ω δ ε} {store shown : σ} (listed : shown ∈ call.sees apply store) :
    shown ∈ call.seen ∨ shown = store ∨ ∃ operation, call.rest.nextWrite = some operation ∧
      apply store operation = .ok shown := by
  obtain ⟨request, seen, program⟩ := call
  cases program with
  | returned value => exact Or.inl listed
  | failed failure => exact Or.inl listed
  | reading onward =>
    cases List.mem_append.mp listed with
    | inl before => exact Or.inl before
    | inr new => exact Or.inr (Or.inl (List.mem_singleton.mp new))
  | writing operation rejected onward =>
    cases applied : apply store operation with
    | error reason =>
      simp only [Call.sees, applied] at listed
      exact Or.inl listed
    | ok written =>
      simp only [Call.sees, applied] at listed
      cases List.mem_append.mp listed with
      | inl before => exact Or.inl before
      | inr new => exact Or.inr (Or.inr ⟨operation, rfl, List.mem_singleton.mp new ▸ applied⟩)

theorem seen_since {later : σ → σ → Prop} {watched : Watched ρ σ ω δ ε} {action : Action ρ}
    {attempt : Call ρ σ ω δ ε × ω} (since : watched.Since later)
    (found : attempting watched action = some attempt) :
    ∀ shown ∈ attempt.1.seen, later shown watched.store := by
  cases action with
  | submit request => cases found
  | advance index =>
    obtain ⟨call, listed, next⟩ := Option.bind_eq_some_iff.mp found
    obtain ⟨operation, -, rfl⟩ := Option.map_eq_some_iff.mp next
    exact since call (List.mem_of_getElem? listed)

/-- Time goes on with every step. -/
theorem watch_since {later : σ → σ → Prop} (refl : ∀ store, later store store)
    (trans : ∀ first second third, later first second → later second third → later first third)
    {watched next : Watched ρ σ ω δ ε} {action : Action ρ} (since : watched.Since later)
    (onward : later watched.store next.store)
    (moved : watch apply handle watched action = some next) : next.Since later := by
  cases action with
  | submit request =>
    cases moved
    intro call listed
    cases List.mem_append.mp listed with
    | inl before => exact since call before
    | inr new =>
      rw [List.mem_singleton.mp new]
      exact fun shown none_ => absurd none_ List.not_mem_nil
  | advance index =>
    obtain ⟨call, found, accessed⟩ := Option.bind_eq_some_iff.mp moved
    obtain ⟨⟨store, rest⟩, continued, same⟩ := Option.map_eq_some_iff.mp accessed
    subst same
    have earlier : ∀ other ∈ watched.calls, ∀ shown ∈ other.seen, later shown store :=
      fun other listed shown seen => trans _ _ _ (since other listed shown seen) onward
    intro other listed
    cases List.mem_or_eq_of_mem_set listed with
    | inl before => exact earlier other before
    | inr new =>
      subst new
      intro shown seen
      rcases mem_sees seen with before | same | ⟨operation, next, applied⟩
      · exact earlier call (List.mem_of_getElem? found) shown before
      · exact same ▸ onward
      · obtain ⟨request, seenBefore, program⟩ := call
        cases program with
        | returned value => cases next
        | failed failure => cases next
        | reading question => cases next
        | writing other rejected further =>
          cases next
          simp only [access, applied, Option.some.injEq, Prod.mk.injEq] at continued
          exact continued.1 ▸ refl _

end Steps

section Rules

variable {invariant : σ → Prop} {vouched : ρ → List σ → ω → Prop}
  {guard condition : ρ → List σ → σ → ω → Prop}

/-- The rule for writes that are not overtaken. If what a call vouches for makes each write
that meets a guard a permitted change exactly where it meets a condition, and permitted
changes keep the invariant, then all changes of a run whose writes meet the guard are
permitted exactly if they all meet the condition. -/
theorem along_changes_iff {permitted : σ → σ → Prop}
    (handled : ∀ request,
      Vouches apply invariant (vouched request) (fun _ _ => True) [] (handle request))
    (unchanged : ∀ store, invariant store → permitted store store)
    (agree : ∀ request seen store operation written, invariant store →
      vouched request seen operation → guard request seen store operation →
      apply store operation = .ok written →
      (permitted store written ↔ condition request seen store operation))
    (kept : ∀ store operation written, invariant store → permitted store written →
      apply store operation = .ok written → invariant written)
    {store : σ} {actions : List (Action ρ)} (sound : invariant store)
    (guarded : Along (watch apply handle) (fun before action _ => Meets apply guard before action)
      (Watched.begun store) actions) :
    Along (step apply handle) (fun before _ next => permitted before.store next.store) ⟨store, []⟩
        actions ↔
      Along (watch apply handle) (fun before action _ => Meets apply condition before action)
        (Watched.begun store) actions := by
  change Along (step apply handle) _ (@Watched.begun ρ σ ω δ ε store).forget actions ↔ _
  rw [along_forget]
  refine along_iff_of_guarded
    (fun watched => invariant watched.store ∧ watched.Vouches apply invariant vouched)
    ?_ ?_ ⟨sound, fun call listed => absurd listed List.not_mem_nil⟩ guarded
  · intro before action next ⟨valid, vouch⟩ met moved
    change permitted before.store next.store ↔ _
    cases watch_store moved with
    | inl left =>
      obtain ⟨refused, same⟩ := left
      rw [same]
      refine iff_of_true (unchanged before.store valid) ?_
      intro attempt found written accepted
      obtain ⟨reason, rejected⟩ := refused attempt found
      rw [rejected] at accepted
      cases accepted
    | inr changed =>
      obtain ⟨attempt, found, accepted⟩ := changed
      have listed : next.store ∈ (apply before.store attempt.2).toOption := by
        rw [accepted]
        rfl
      rw [agree attempt.1.request attempt.1.seen before.store attempt.2 next.store valid
        (vouched_of_attempting vouch found) (met attempt found next.store listed) accepted]
      constructor
      · intro holds other foundToo written _
        obtain rfl := Option.some.inj (found.symm.trans foundToo)
        exact holds
      · exact fun holds => holds attempt found next.store listed
  · intro before action next ⟨valid, vouch⟩ _ established moved
    refine ⟨?_, watch_vouches handled valid vouch moved⟩
    cases watch_store moved with
    | inl left => exact left.2 ▸ valid
    | inr changed =>
      obtain ⟨attempt, _, accepted⟩ := changed
      exact kept before.store attempt.2 next.store valid established accepted

/-- The rule for what the writes of calls meet when they are not overtaken: what a call
vouches for, that it was so at an earlier time, and the guard give it, and writes that meet
it keep the invariant and lead to later stores. -/
theorem along_attempts {later : σ → σ → Prop} {met : σ → ω → Prop}
    (refl : ∀ store, later store store)
    (trans : ∀ first second third, later first second → later second third → later first third)
    (handled : ∀ request,
      Vouches apply invariant (vouched request) (fun _ _ => True) [] (handle request))
    (concluded : ∀ request seen store operation, invariant store →
      (∀ shown ∈ seen, later shown store) → vouched request seen operation →
      guard request seen store operation → met store operation)
    (onward : ∀ store operation written, invariant store → met store operation →
      apply store operation = .ok written → invariant written ∧ later store written)
    {store : σ} {actions : List (Action ρ)} (sound : invariant store)
    (guarded : Along (watch apply handle) (fun before action _ => Attempts guard before action)
      (Watched.begun store) actions) :
    Along (step apply handle) (fun before action _ => Interleavings.Attempts met before action)
      ⟨store, []⟩ actions := by
  change Along (step apply handle) _ (@Watched.begun ρ σ ω δ ε store).forget actions
  rw [along_forget]
  have meets : ∀ (before : Watched ρ σ ω δ ε) action,
      (invariant before.store ∧ before.Vouches apply invariant vouched) ∧ before.Since later →
      Attempts guard before action →
      Interleavings.Attempts met before.forget action := by
    intro before action ⟨⟨valid, vouch⟩, since⟩ timely operation attempt
    rw [attempted_forget] at attempt
    obtain ⟨made, found, rfl⟩ := Option.map_eq_some_iff.mp attempt
    exact concluded made.1.request made.1.seen before.store made.2 valid (seen_since since found)
      (vouched_of_attempting vouch found) (timely made found)
  refine along_of_invariant (fun watched =>
      (invariant watched.store ∧ watched.Vouches apply invariant vouched) ∧ watched.Since later)
    ?_ (fun before action _ both timely _ => meets before action both timely)
    ⟨⟨sound, fun call listed => absurd listed List.not_mem_nil⟩,
      fun call listed => absurd listed List.not_mem_nil⟩ guarded
  intro before action next both timely moved
  have led : invariant next.store ∧ later before.store next.store := by
    cases watch_store moved with
    | inl left =>
      rw [left.2]
      exact ⟨both.1.1, refl _⟩
    | inr changed =>
      obtain ⟨attempt, found, accepted⟩ := changed
      refine onward before.store attempt.2 next.store both.1.1 ?_ accepted
      refine meets before action both timely attempt.2 ?_
      rw [attempted_forget, found]
      rfl
  exact ⟨⟨led.1, watch_vouches handled both.1.1 both.1.2 moved⟩,
    watch_since refl trans both.2 led.2 moved⟩

/-- The rule for what accepted writes meet when they are not overtaken. -/
theorem along_meets_since {later : σ → σ → Prop} {met : σ → ω → Prop}
    (refl : ∀ store, later store store)
    (trans : ∀ first second third, later first second → later second third → later first third)
    (handled : ∀ request,
      Vouches apply invariant (vouched request) (fun _ _ => True) [] (handle request))
    (concluded : ∀ request seen store operation written, invariant store →
      (∀ shown ∈ seen, later shown store) → vouched request seen operation →
      guard request seen store operation → apply store operation = .ok written → met store operation)
    (onward : ∀ store operation written, invariant store → met store operation →
      apply store operation = .ok written → invariant written ∧ later store written)
    {store : σ} {actions : List (Action ρ)} (sound : invariant store)
    (guarded : Along (watch apply handle) (fun before action _ => Meets apply guard before action)
      (Watched.begun store) actions) :
    Along (step apply handle) (fun before action _ => Interleavings.Meets apply met before action)
      ⟨store, []⟩ actions := by
  refine @along_attempts ρ σ ω δ ε apply handle invariant vouched
    (fun request seen store operation => ∀ written ∈ (apply store operation).toOption,
      guard request seen store operation) later
    (fun store operation => ∀ written, apply store operation = .ok written → met store operation)
    refl trans handled ?_ ?_ store actions sound guarded
  · intro request seen store operation valid since vouch timely written accepted
    exact concluded request seen store operation written valid since vouch
      (timely written (congrArg Except.toOption accepted)) accepted
  · intro store operation written valid meets accepted
    exact onward store operation written valid (meets written accepted) accepted

/-- The same where the passing of time does not matter. -/
theorem along_meets {met : σ → ω → Prop}
    (handled : ∀ request,
      Vouches apply invariant (vouched request) (fun _ _ => True) [] (handle request))
    (concluded : ∀ request seen store operation written, invariant store →
      vouched request seen operation → guard request seen store operation →
      apply store operation = .ok written → met store operation)
    (kept : ∀ store operation written, invariant store → met store operation →
      apply store operation = .ok written → invariant written)
    {store : σ} {actions : List (Action ρ)} (sound : invariant store)
    (guarded : Along (watch apply handle) (fun before action _ => Meets apply guard before action)
      (Watched.begun store) actions) :
    Along (step apply handle) (fun before action _ => Interleavings.Meets apply met before action)
      ⟨store, []⟩ actions :=
  @along_meets_since ρ σ ω δ ε apply handle invariant vouched guard (fun _ _ => True) met
    (fun _ => trivial) (fun _ _ _ _ _ => trivial) handled
    (fun request seen store operation written valid _ =>
      concluded request seen store operation written valid)
    (fun store operation written valid meets accepted =>
      ⟨kept store operation written valid meets accepted, trivial⟩) store actions sound guarded

/-- The rule for a property of the store that writes keep where they are not overtaken. -/
theorem along_holds {holds : σ → Prop}
    (handled : ∀ request,
      Vouches apply invariant (vouched request) (fun _ _ => True) [] (handle request))
    (concluded : ∀ store, invariant store → holds store)
    (kept : ∀ request seen store operation written, invariant store →
      vouched request seen operation → guard request seen store operation →
      apply store operation = .ok written → invariant written)
    {store : σ} {actions : List (Action ρ)} (sound : invariant store)
    (guarded : Along (watch apply handle) (fun before action _ => Meets apply guard before action)
      (Watched.begun store) actions) :
    Along (step apply handle) (fun _ _ next => holds next.store) ⟨store, []⟩ actions := by
  have met := @along_meets ρ σ ω δ ε apply handle invariant vouched guard
    (fun store operation => ∀ written, apply store operation = .ok written → invariant written)
    handled
    (fun request seen store operation _ valid vouch timely _ written accepted =>
      kept request seen store operation written valid vouch timely accepted)
    (fun store operation written _ keeps accepted => keeps written accepted)
    store actions sound guarded
  have stays : ∀ (before : System σ ω δ ε) action next, invariant before.store →
      Interleavings.Meets apply
        (fun store operation => ∀ written, apply store operation = .ok written → invariant written)
        before action →
      step apply handle before action = some next → invariant next.store := by
    intro before action next valid keeps moved
    cases step_store moved with
    | inl left => exact left.2 ▸ valid
    | inr changed =>
      obtain ⟨operation, attempt, accepted⟩ := changed
      exact keeps operation attempt next.store accepted next.store accepted
  refine along_of_invariant (fun system : System σ ω δ ε => invariant system.store) stays ?_ sound met
  exact fun before action next valid keeps moved =>
    concluded next.store (stays before action next valid keeps moved)

end Rules

end EmotoFleet.Overlaps
