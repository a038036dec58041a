import Mathlib.Data.List.Basic

/-!
# Queues of jobs with identifiers

A queue holds at most one job of an identifier. A job is added under its identifier and
awaits a worker, unless the queue holds one of that identifier, in whatever state: one that
waits, one that a worker has, or one that failed and is kept. The adding is then ignored.

What else a queue does with its jobs is left open. Nothing here mentions a particular
program.
-/

namespace EmotoFleet.JobQueues

/-- A queue: `σ` is its state, `ι` the identifiers of jobs, `δ` what a job carries. -/
structure JobQueue (σ ι δ : Type) where
  holds : σ → ι → Bool
  awaits : σ → ι → Bool
  add : σ → ι → δ → σ
  add_held : ∀ {queue id}, holds queue id = true → ∀ job, add queue id job = queue
  holds_add : ∀ queue id job other,
    holds (add queue id job) other = true ↔ other = id ∨ holds queue other = true
  awaits_add : ∀ {queue id}, holds queue id = false → ∀ job other,
    (awaits (add queue id job) other = true ↔ other = id ∨ awaits queue other = true)

variable {σ ι δ τ : Type} (service : JobQueue σ ι δ)

/-- Jobs are added one after the other. -/
def JobQueue.addAll (key : τ → ι) (job : τ → δ) (queue : σ) (items : List τ) : σ :=
  items.foldl (fun queue item => service.add queue (key item) (job item)) queue

/-- After jobs were added, those await a worker that did before, and those that were added
and not held. By induction on the jobs. -/
theorem JobQueue.awaits_addAll (key : τ → ι) (job : τ → δ) (queue : σ) (items : List τ) (id : ι) :
    service.awaits (service.addAll key job queue items) id = true ↔
      service.awaits queue id = true ∨ id ∈ items.map key ∧ service.holds queue id = false := by
  induction items generalizing queue with
  | nil => simp [addAll]
  | cons item rest inductionHypothesis =>
    have onward : service.addAll key job queue (item :: rest) =
        service.addAll key job (service.add queue (key item) (job item)) rest :=
      rfl
    rw [onward, inductionHypothesis, List.map_cons, List.mem_cons]
    cases held : service.holds queue (key item) with
    | true =>
      rw [service.add_held held]
      have other : service.holds queue id = false → id ≠ key item := by
        rintro free rfl
        rw [held] at free
        cases free
      constructor
      case mp =>
        rintro (awaiting | ⟨listed, free⟩)
        case inl => exact Or.inl awaiting
        case inr => exact Or.inr ⟨Or.inr listed, free⟩
      case mpr =>
        rintro (awaiting | ⟨listed, free⟩)
        case inl => exact Or.inl awaiting
        case inr => exact Or.inr ⟨listed.resolve_left (other free), free⟩
    | false =>
      rw [service.awaits_add held, ← Bool.not_eq_true, service.holds_add, ← Bool.not_eq_true, not_or]
      constructor
      case mp =>
        rintro ((rfl | awaiting) | ⟨listed, _, free⟩)
        case inl.inl => exact Or.inr ⟨Or.inl rfl, by rw [held]; exact Bool.false_ne_true⟩
        case inl.inr => exact Or.inl awaiting
        case inr => exact Or.inr ⟨Or.inr listed, free⟩
      case mpr =>
        rintro (awaiting | ⟨listed, free⟩)
        case inl => exact Or.inl (Or.inr awaiting)
        case inr =>
          by_cases same : id = key item
          case pos => exact Or.inl (Or.inl same)
          case neg => exact Or.inr ⟨listed.resolve_left same, same, free⟩

end EmotoFleet.JobQueues
