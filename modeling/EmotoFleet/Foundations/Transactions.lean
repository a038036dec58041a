import EmotoFleet.Foundations.Interleavings

/-!
# Transactions that see what is committed

A transaction reads the store as it was last committed, with its own changes on top. A
change waits for the open transactions that hold what it touches, and no other transaction
sees it before the commit, where all changes of a transaction take effect at once. A
transaction can be rolled back at any time.

Nothing here mentions a particular program.
-/

namespace EmotoFleet.Transactions

open EmotoFleet.Runs EmotoFleet.Interleavings

/-- What a database does with a change: for which changes of others it waits, whether it
accepts the change, and what becomes of the store. -/
structure Engine (σ ω δ : Type) where
  waits : σ → ω → ω → Bool
  check : σ → ω → Except δ Unit
  effect : σ → ω → σ

variable {σ ω δ ε ρ α : Type}

/-- The store with the changes of one transaction. -/
def Engine.view (engine : Engine σ ω δ) (store : σ) (pending : List ω) : σ :=
  pending.foldl engine.effect store

/-- Its changes so far and what it still does. -/
structure Transaction (σ ω δ ε : Type) where
  pending : List ω
  rest : Program σ ω δ ε Unit

structure System (σ ω δ ε : Type) where
  store : σ
  transactions : List (Transaction σ ω δ ε)

/-- A transaction begins, makes its next access or its commit, or is rolled back. -/
inductive Action (ρ ε : Type) where
  | submit (request : ρ)
  | advance (index : Nat)
  | rollBack (index : Nat) (failure : ε)

/-- A change cannot be made yet if an open transaction other than the one at the index
holds what it touches. -/
def System.blocked (engine : Engine σ ω δ) (system : System σ ω δ ε) (index : Nat) (change : ω) :
    Bool :=
  system.transactions.zipIdx.any fun (other, place) =>
    place != index && other.pending.any fun held => engine.waits system.store change held

/-- One access or the commit: the store after it and the rest of the transaction. -/
def proceed (engine : Engine σ ω δ) (system : System σ ω δ ε) (index : Nat)
    (transaction : Transaction σ ω δ ε) : Option (σ × Transaction σ ω δ ε) :=
  match transaction.rest with
  | .failed _ => none
  | .returned value =>
    some (engine.view system.store transaction.pending, ⟨[], .returned value⟩)
  | .reading next =>
    some (system.store,
      ⟨transaction.pending, next (engine.view system.store transaction.pending)⟩)
  | .writing change rejected next =>
    if system.blocked engine index change then none
    else
      match engine.check (engine.view system.store transaction.pending) change with
      | .ok _ => some (system.store, ⟨transaction.pending ++ [change], next⟩)
      | .error reason => some (system.store, ⟨[], .failed (rejected reason)⟩)

def step (engine : Engine σ ω δ) (handle : ρ → Program σ ω δ ε Unit) (system : System σ ω δ ε) :
    Action ρ ε → Option (System σ ω δ ε)
  | .submit request =>
    some { system with transactions := system.transactions ++ [⟨[], handle request⟩] }
  | .advance index =>
    (system.transactions[index]?).bind fun transaction =>
      (proceed engine system index transaction).map fun (store, rest) =>
        { store := store, transactions := system.transactions.set index rest }
  | .rollBack index failure =>
    (system.transactions[index]?).map fun _ =>
      { system with transactions := system.transactions.set index ⟨[], .failed failure⟩ }

/-- The changes that an action commits. -/
def committing (system : System σ ω δ ε) : Action ρ ε → Option (List ω)
  | .advance index =>
    (system.transactions[index]?).bind fun transaction =>
      match transaction.rest with
      | .returned _ => some transaction.pending
      | .failed _ | .reading _ | .writing _ _ _ => none
  | .submit _ | .rollBack _ _ => none

/-- What a step of a system can be, with the changes that it commits. -/
inductive Transition (engine : Engine σ ω δ) (handle : ρ → Program σ ω δ ε Unit)
    (system : System σ ω δ ε) : Option (List ω) → System σ ω δ ε → Prop where
  | opened (request : ρ) :
    Transition engine handle system none
      { system with transactions := system.transactions ++ [⟨[], handle request⟩] }
  | dropped (index : Nat) (failure : ε) :
    Transition engine handle system none
      { system with transactions := system.transactions.set index ⟨[], .failed failure⟩ }
  | asked {index : Nat} {transaction : Transaction σ ω δ ε} {next : σ → Program σ ω δ ε Unit}
    (listed : system.transactions[index]? = some transaction)
    (rest : transaction.rest = .reading next) :
    Transition engine handle system none
      { system with
        transactions := system.transactions.set index
          ⟨transaction.pending, next (engine.view system.store transaction.pending)⟩ }
  | changed {index : Nat} {transaction : Transaction σ ω δ ε} {change : ω} {rejected : δ → ε}
    {next : Program σ ω δ ε Unit} (listed : system.transactions[index]? = some transaction)
    (rest : transaction.rest = .writing change rejected next)
    (free : system.blocked engine index change = false)
    (accepted : engine.check (engine.view system.store transaction.pending) change = .ok ()) :
    Transition engine handle system none
      { system with
        transactions := system.transactions.set index ⟨transaction.pending ++ [change], next⟩ }
  | committed {index : Nat} {transaction : Transaction σ ω δ ε} {value : Unit}
    (listed : system.transactions[index]? = some transaction)
    (rest : transaction.rest = .returned value) :
    Transition engine handle system (some transaction.pending)
      { store := engine.view system.store transaction.pending
        transactions := system.transactions.set index ⟨[], .returned value⟩ }

/-- The changes of each transaction that are not committed. -/
def System.held (system : System σ ω δ ε) : List (List ω) :=
  system.transactions.map (·.pending)

/-- An invariant of the store and of the changes that are not committed yet. -/
structure Preserved (engine : Engine σ ω δ) (sound : σ → List (List ω) → Prop) : Prop where
  opened : ∀ store held, sound store held → sound store (held ++ [[]])
  dropped : ∀ store held index, sound store held → sound store (held.set index [])
  changed : ∀ store held index pending change, sound store held → held[index]? = some pending →
    (∀ place others, held[place]? = some others → place ≠ index →
      ∀ other ∈ others, engine.waits store change other = false) →
    engine.check (engine.view store pending) change = .ok () →
    sound store (held.set index (pending ++ [change]))
  committed : ∀ store held index pending, sound store held → held[index]? = some pending →
    sound (engine.view store pending) (held.set index [])

section Rules

variable {engine : Engine σ ω δ} {handle : ρ → Program σ ω δ ε Unit} {system next : System σ ω δ ε}
  {action : Action ρ ε}

theorem blocked_eq_false {index : Nat} {change : ω}
    (free : system.blocked engine index change = false) {place : Nat} {others : List ω}
    (listed : system.held[place]? = some others) (different : place ≠ index) {other : ω}
    (pending : other ∈ others) : engine.waits system.store change other = false := by
  rw [System.held, List.getElem?_map] at listed
  obtain ⟨transaction, present, same⟩ := Option.map_eq_some_iff.mp listed
  subst same
  rw [System.blocked, List.any_eq_false] at free
  have none := free (transaction, place) (List.mk_mem_zipIdx_iff_getElem?.mpr present)
  simp only [Bool.and_eq_true, bne_iff_ne, ne_eq, different, not_false_eq_true, true_and,
    Bool.not_eq_true, List.any_eq_false] at none
  exact none other pending

theorem step_transition (moved : step engine handle system action = some next) :
    Transition engine handle system (committing system action) next := by
  cases action with
  | submit request =>
    cases moved
    exact .opened request
  | rollBack index failure =>
    obtain ⟨_, _, same⟩ := Option.map_eq_some_iff.mp moved
    subst same
    exact .dropped index failure
  | advance index =>
    obtain ⟨transaction, listed, accessed⟩ := Option.bind_eq_some_iff.mp moved
    obtain ⟨⟨store, rest⟩, made, same⟩ := Option.map_eq_some_iff.mp accessed
    subst same
    simp only [committing, listed, Option.bind_some]
    rw [proceed] at made
    cases program : transaction.rest with
    | failed failure =>
      rw [program] at made
      cases made
    | returned value =>
      rw [program] at made
      cases made
      exact .committed listed program
    | reading onward =>
      rw [program] at made
      cases made
      exact .asked listed program
    | writing change rejected onward =>
      rw [program] at made
      dsimp only at made
      split at made
      case isTrue => cases made
      case isFalse free =>
        split at made
        case h_1 accepted =>
          cases made
          exact .changed listed program (eq_false_of_ne_true free) accepted
        case h_2 reason _ =>
          cases made
          exact .dropped index (rejected reason)

theorem listed_held {index : Nat} {transaction : Transaction σ ω δ ε}
    (listed : system.transactions[index]? = some transaction) :
    system.held[index]? = some transaction.pending := by
  rw [System.held, List.getElem?_map, listed, Option.map_some]

/-- A transaction that only goes on holds what it held. -/
theorem set_held_same {index : Nat} {transaction : Transaction σ ω δ ε}
    (listed : system.transactions[index]? = some transaction) (rest : Program σ ω δ ε Unit) :
    (system.transactions.set index ⟨transaction.pending, rest⟩).map (·.pending) = system.held := by
  rw [List.map_set]
  apply List.ext_getElem?
  intro place
  rw [System.held, List.getElem?_set]
  split
  case isFalse => rfl
  case isTrue here =>
    subst here
    rw [List.getElem?_map, listed, Option.map_some]
    have short : index < (system.transactions.map (·.pending)).length := by
      rw [List.length_map]
      exact (List.getElem?_eq_some_iff.mp listed).1
    rw [if_pos short]

variable {sound : σ → List (List ω) → Prop} {committed : Option (List ω)}

/-- Every step keeps an invariant of the store and of what is not committed. -/
theorem Preserved.step (preserved : Preserved engine sound)
    (transition : Transition engine handle system committed next)
    (initially : sound system.store system.held) : sound next.store next.held := by
  cases transition with
  | opened request =>
    rw [System.held, List.map_append]
    exact preserved.opened system.store system.held initially
  | dropped index failure =>
    rw [System.held, List.map_set]
    exact preserved.dropped system.store system.held index initially
  | asked listed rest =>
    rw [System.held]
    dsimp only
    rw [set_held_same listed]
    exact initially
  | @changed index transaction change rejected onward listed rest free accepted =>
    rw [System.held, List.map_set]
    exact preserved.changed system.store system.held index transaction.pending change initially
      (listed_held listed)
      (fun place others present different other member =>
        blocked_eq_false free present different member) accepted
  | @committed index transaction value listed rest =>
    rw [System.held, List.map_set]
    exact preserved.committed system.store system.held index transaction.pending initially
      (listed_held listed)

end Rules

/-! ## What a transaction has read -/

section Watching

/-- A transaction with the views that its reads have found. -/
structure Watcher (σ ω δ ε : Type) where
  seen : List σ
  transaction : Transaction σ ω δ ε

structure Watched (σ ω δ ε : Type) where
  store : σ
  watchers : List (Watcher σ ω δ ε)

/-- The system without its history. -/
def Watched.forget (watched : Watched σ ω δ ε) : System σ ω δ ε where
  store := watched.store
  transactions := watched.watchers.map (·.transaction)

def Watcher.sees (engine : Engine σ ω δ) (store : σ) (watcher : Watcher σ ω δ ε) : List σ :=
  match watcher.transaction.rest with
  | .reading _ => watcher.seen ++ [engine.view store watcher.transaction.pending]
  | .returned _ | .failed _ | .writing _ _ _ => watcher.seen

/-- The steps of the system, with the history kept up. -/
def watch (engine : Engine σ ω δ) (handle : ρ → Program σ ω δ ε Unit) (watched : Watched σ ω δ ε) :
    Action ρ ε → Option (Watched σ ω δ ε)
  | .submit request =>
    some { watched with watchers := watched.watchers ++ [⟨[], ⟨[], handle request⟩⟩] }
  | .advance index =>
    (watched.watchers[index]?).bind fun watcher =>
      (proceed engine watched.forget index watcher.transaction).map fun (store, rest) =>
        { store := store
          watchers := watched.watchers.set index ⟨watcher.sees engine watched.store, rest⟩ }
  | .rollBack index failure =>
    (watched.watchers[index]?).map fun watcher =>
      { watched with
        watchers := watched.watchers.set index ⟨watcher.seen, ⟨[], .failed failure⟩⟩ }

/-- The changes that an action commits, with what the transaction has read. -/
def concluding (watched : Watched σ ω δ ε) : Action ρ ε → Option (List σ × List ω)
  | .advance index =>
    (watched.watchers[index]?).bind fun watcher =>
      match watcher.transaction.rest with
      | .returned _ => some (watcher.seen, watcher.transaction.pending)
      | .failed _ | .reading _ | .writing _ _ _ => none
  | .submit _ | .rollBack _ _ => none

/-- A condition on the changes that a step commits, if it commits any: on what the
transaction has read, on the store and on the changes. -/
def Concludes (condition : List σ → σ → List ω → Prop) (watched : Watched σ ω δ ε)
    (action : Action ρ ε) : Prop :=
  ∀ made ∈ concluding watched action, condition made.1 watched.store made.2

instance {condition : List σ → σ → List ω → Prop}
    [∀ seen store pending, Decidable (condition seen store pending)] (watched : Watched σ ω δ ε)
    (action : Action ρ ε) : Decidable (Concludes condition watched action) :=
  inferInstanceAs (Decidable (∀ _ ∈ _, _))

/-- Whatever a program reads, what it returns and the changes that it has made by then are
allowed after what it has read. -/
def Aims (allowed : α → List σ → List ω → Prop) :
    List σ → List ω → Program σ ω δ ε α → Prop
  | seen, made, .returned value => allowed value seen made
  | _, _, .failed _ => True
  | seen, made, .reading next => ∀ store, Aims allowed (seen ++ [store]) made (next store)
  | seen, made, .writing change _ next => Aims allowed seen (made ++ [change]) next

section Aiming

variable {β : Type} {allowed : β → List σ → List ω → Prop} {seen : List σ} {made : List ω}

theorem aims_bind (program : Program σ ω δ ε α) (rest : α → Program σ ω δ ε β) :
    Aims allowed seen made (program >>= rest) ↔
      Aims (fun value shown changes => Aims allowed shown changes (rest value)) seen made program := by
  change Aims allowed seen made (program.andThen rest) ↔ _
  induction program generalizing seen made with
  | returned value => exact Iff.rfl
  | failed failure => exact Iff.rfl
  | reading next inductionHypothesis =>
    simp only [Program.andThen, Aims]
    exact forall_congr' fun store => inductionHypothesis store
  | writing change rejected next inductionHypothesis => exact inductionHypothesis

theorem aims_pure (value : β) :
    Aims allowed seen made (pure value : Program σ ω δ ε β) ↔ allowed value seen made :=
  Iff.rfl

theorem aims_failed (failure : ε) :
    Aims allowed seen made (.failed failure : Program σ ω δ ε β) :=
  trivial

theorem aims_read (question : σ → β) :
    Aims allowed seen made (.read question : Program σ ω δ ε β) ↔
      ∀ store, allowed (question store) (seen ++ [store]) made :=
  Iff.rfl

theorem aims_write {allowed : Unit → List σ → List ω → Prop} (change : ω) (rejected : δ → ε) :
    Aims allowed seen made (.write change rejected : Program σ ω δ ε Unit) ↔
      allowed () seen (made ++ [change]) :=
  Iff.rfl

end Aiming

/-- Every transaction commits changes that are allowed after what it reads. -/
def Watched.Aims (allowed : List σ → List ω → Prop) (watched : Watched σ ω δ ε) : Prop :=
  ∀ watcher ∈ watched.watchers,
    Transactions.Aims (fun _ => allowed) watcher.seen watcher.transaction.pending
      watcher.transaction.rest

variable {engine : Engine σ ω δ} {handle : ρ → Program σ ω δ ε Unit}

theorem forget_watch (watched : Watched σ ω δ ε) (action : Action ρ ε) :
    (watch engine handle watched action).map Watched.forget =
      step engine handle watched.forget action := by
  cases action with
  | submit request => simp [watch, step, Watched.forget]
  | rollBack index failure =>
    simp only [watch, step, Watched.forget, List.getElem?_map, Option.map_map]
    cases watched.watchers[index]? with
    | none => rfl
    | some watcher => simp [Watched.forget, List.map_set]
  | advance index =>
    have listed : watched.forget.transactions[index]? =
        (watched.watchers[index]?).map (·.transaction) := by
      simp only [Watched.forget, List.getElem?_map]
    simp only [watch, step, listed]
    cases watched.watchers[index]? with
    | none => rfl
    | some watcher =>
      simp only [Option.bind_some, Option.map_some, Option.map_map]
      congr 1
      funext moved
      simp [Watched.forget, List.map_set]

/-- What holds of the steps of a system holds of those of the watched one. -/
theorem along_forget (holds : System σ ω δ ε → Action ρ ε → System σ ω δ ε → Prop)
    (watched : Watched σ ω δ ε) (actions : List (Action ρ ε)) :
    Along (step engine handle) holds watched.forget actions ↔
      Along (watch engine handle)
        (fun before action next => holds before.forget action next.forget) watched actions := by
  induction actions generalizing watched with
  | nil => exact Iff.rfl
  | cons action rest inductionHypothesis =>
    rw [along_cons, along_cons, ← forget_watch]
    constructor
    · intro everywhere next moved
      obtain ⟨met, onward⟩ := everywhere next.forget (by rw [moved]; rfl)
      exact ⟨met, (inductionHypothesis next).mp onward⟩
    · intro everywhere forgotten moved
      obtain ⟨next, watchedNext, rfl⟩ := Option.map_eq_some_iff.mp moved
      obtain ⟨met, onward⟩ := everywhere next watchedNext
      exact ⟨met, (inductionHypothesis next).mpr onward⟩

/-- A transaction that goes on still aims at allowed changes. -/
theorem watch_aims {allowed : List σ → List ω → Prop} (nothing : ∀ seen, allowed seen [])
    (handled : ∀ request, Transactions.Aims (fun _ => allowed) [] [] (handle request))
    {watched next : Watched σ ω δ ε} {action : Action ρ ε} (aims : watched.Aims allowed)
    (moved : watch engine handle watched action = some next) : next.Aims allowed := by
  cases action with
  | submit request =>
    cases moved
    intro watcher listed
    cases List.mem_append.mp listed with
    | inl before => exact aims watcher before
    | inr new => exact List.mem_singleton.mp new ▸ handled request
  | rollBack index failure =>
    obtain ⟨watcher, _, same⟩ := Option.map_eq_some_iff.mp moved
    subst same
    intro other listed
    cases List.mem_or_eq_of_mem_set listed with
    | inl before => exact aims other before
    | inr new => exact new ▸ trivial
  | advance index =>
    obtain ⟨watcher, found, accessed⟩ := Option.bind_eq_some_iff.mp moved
    obtain ⟨⟨store, rest⟩, made, same⟩ := Option.map_eq_some_iff.mp accessed
    subst same
    have aim := aims watcher (List.mem_of_getElem? found)
    intro other listed
    cases List.mem_or_eq_of_mem_set listed with
    | inl before => exact aims other before
    | inr new =>
      subst new
      obtain ⟨seen, pending, program⟩ := watcher
      cases program with
      | failed failure => cases made
      | returned value =>
        cases made
        exact nothing seen
      | reading onward =>
        cases made
        exact aim _
      | writing change rejected onward =>
        simp only [proceed] at made
        split at made
        case isTrue => cases made
        case isFalse =>
          split at made
          case h_1 =>
            cases made
            exact aim
          case h_2 =>
            cases made
            trivial

/-- A step leaves the store alone or commits what a transaction has made. -/
theorem watch_store {watched next : Watched σ ω δ ε} {action : Action ρ ε}
    (moved : watch engine handle watched action = some next) :
    next.store = watched.store ∨
      ∃ index : Nat, ∃ watcher : Watcher σ ω δ ε, watched.watchers[index]? = some watcher ∧
        (∃ value, watcher.transaction.rest = .returned value) ∧
        concluding watched action = some (watcher.seen, watcher.transaction.pending) ∧
        next.store = engine.view watched.store watcher.transaction.pending := by
  cases action with
  | submit request =>
    cases moved
    exact .inl rfl
  | rollBack index failure =>
    obtain ⟨watcher, _, same⟩ := Option.map_eq_some_iff.mp moved
    subst same
    exact .inl rfl
  | advance index =>
    obtain ⟨watcher, found, accessed⟩ := Option.bind_eq_some_iff.mp moved
    obtain ⟨⟨store, rest⟩, made, same⟩ := Option.map_eq_some_iff.mp accessed
    subst same
    rw [proceed] at made
    cases program : watcher.transaction.rest with
    | failed failure =>
      rw [program] at made
      cases made
    | returned value =>
      rw [program] at made
      cases made
      refine .inr ⟨index, watcher, found, ⟨value, program⟩, ?_, rfl⟩
      simp only [concluding, found, Option.bind_some, program]
    | reading onward =>
      rw [program] at made
      cases made
      exact .inl rfl
    | writing change rejected onward =>
      rw [program] at made
      dsimp only at made
      split at made
      case isTrue => cases made
      case isFalse =>
        split at made
        case h_1 =>
          cases made
          exact .inl rfl
        case h_2 =>
          cases made
          exact .inl rfl

/-- The rule for transactions that are not overtaken. If under an invariant a commit of
changes that are allowed after what the transaction has read, and that meets a guard, keeps
a property, then the property holds after every step of a run whose commits meet the guard. -/
theorem along_commits {sound : σ → List (List ω) → Prop} (preserved : Preserved engine sound)
    {allowed : List σ → List ω → Prop} (nothing : ∀ seen, allowed seen [])
    (handled : ∀ request, Transactions.Aims (fun _ => allowed) [] [] (handle request)) {holds : σ → Prop}
    {guard : List σ → σ → List ω → Prop}
    (kept : ∀ store (held : List (List ω)) (index : Nat) seen pending, sound store held →
      holds store → held[index]? = some pending → allowed seen pending → guard seen store pending →
      holds (engine.view store pending))
    {store : σ} {actions : List (Action ρ ε)} (valid : sound store []) (initially : holds store)
    (guarded : Along (watch engine handle) (fun before action _ => Concludes guard before action)
      ⟨store, []⟩ actions) :
    Along (step engine handle) (fun _ _ next => holds next.store) ⟨store, []⟩ actions := by
  change Along (step engine handle) _ (Watched.forget ⟨store, []⟩) actions
  rw [along_forget]
  have stays : ∀ (before : Watched σ ω δ ε) action next,
      (sound before.store before.forget.held ∧ before.Aims allowed) ∧ holds before.store →
      Concludes guard before action → watch engine handle before action = some next →
      (sound next.store next.forget.held ∧ next.Aims allowed) ∧ holds next.store := by
    intro before action next ⟨⟨consistent, aims⟩, established⟩ timely moved
    have moves : step engine handle before.forget action = some next.forget := by
      rw [← forget_watch, moved]
      rfl
    refine ⟨⟨preserved.step (step_transition moves) consistent,
      watch_aims nothing handled aims moved⟩, ?_⟩
    cases watch_store moved with
    | inl unchanged => exact unchanged ▸ established
    | inr committed =>
      obtain ⟨index, watcher, listed, ⟨value, returned⟩, concluded, written⟩ := committed
      have aim := aims watcher (List.mem_of_getElem? listed)
      rw [returned] at aim
      have held : before.forget.held[index]? = some watcher.transaction.pending := by
        apply listed_held
        rw [Watched.forget, List.getElem?_map, listed, Option.map_some]
      exact written ▸ kept before.store before.forget.held index watcher.seen
        watcher.transaction.pending consistent established held aim (timely _ concluded)
  refine along_of_invariant (fun watched : Watched σ ω δ ε =>
      (sound watched.store watched.forget.held ∧ watched.Aims allowed) ∧ holds watched.store)
    stays ?_ ⟨⟨valid, fun watcher listed => absurd listed List.not_mem_nil⟩, initially⟩ guarded
  exact fun before action next both timely moved => (stays before action next both timely moved).2

end Watching

end EmotoFleet.Transactions
