import Mathlib.Data.List.Perm.Basic

/-!
# Two queues in a row

Messages enter a first queue. A handler takes its head and writes messages to a second
queue; a dispatcher takes the head of that one and delivers. Something may also be
delivered past both queues. What has been delivered together with what the queues are
still going to deliver is the yield of the pipeline: handling and dispatching never
change it, in whatever order they happen.

Nothing here mentions a particular program.
-/

namespace EmotoFleet.Pipelines

universe u v w
variable {α : Type u} {β : Type v} {γ : Type w}

structure Pipeline (α : Type u) (β : Type v) (γ : Type w) where
  incoming : List α
  outgoing : List β
  delivered : List γ
deriving DecidableEq

variable (handle : α → List β) (dispatch : β → List γ)

namespace Pipeline

def empty : Pipeline α β γ := ⟨[], [], []⟩

def submit (pipeline : Pipeline α β γ) (messages : List α) : Pipeline α β γ :=
  { pipeline with incoming := pipeline.incoming ++ messages }

/-- What is delivered past the queues. -/
def deliver (pipeline : Pipeline α β γ) (parcels : List γ) : Pipeline α β γ :=
  { pipeline with delivered := pipeline.delivered ++ parcels }

/-- The handler takes a message, if there is one. -/
def handleNext (pipeline : Pipeline α β γ) : Pipeline α β γ :=
  match pipeline.incoming with
  | [] => pipeline
  | message :: rest =>
    { pipeline with incoming := rest, outgoing := pipeline.outgoing ++ handle message }

/-- The dispatcher takes a message, if there is one. -/
def dispatchNext (pipeline : Pipeline α β γ) : Pipeline α β γ :=
  match pipeline.outgoing with
  | [] => pipeline
  | message :: rest =>
    { pipeline with outgoing := rest, delivered := pipeline.delivered ++ dispatch message }

/-- What a message is going to deliver. -/
def through (message : α) : List γ := (handle message).flatMap dispatch

/-- What has been delivered and what is still going to be. -/
def yield (pipeline : Pipeline α β γ) : List γ :=
  pipeline.delivered ++ (pipeline.outgoing.flatMap dispatch ++
    pipeline.incoming.flatMap (through handle dispatch))

variable (pipeline : Pipeline α β γ)

theorem yield_submit (messages : List α) :
    yield handle dispatch (pipeline.submit messages) =
      yield handle dispatch pipeline ++ messages.flatMap (through handle dispatch) := by
  simp only [yield, submit, List.flatMap_append, List.append_assoc]

theorem yield_deliver (parcels : List γ) :
    (yield handle dispatch (pipeline.deliver parcels)).Perm
      (yield handle dispatch pipeline ++ parcels) := by
  simp only [yield, deliver]
  rw [List.append_assoc, List.append_assoc pipeline.delivered]
  exact List.perm_append_comm.append_left _

/-- Handling moves a message on and changes nothing about what is delivered in the end. -/
theorem yield_handleNext :
    yield handle dispatch (pipeline.handleNext handle) = yield handle dispatch pipeline := by
  rw [handleNext]
  split
  · rfl
  · rename_i message rest waiting
    simp only [yield, waiting, List.flatMap_append, List.flatMap_cons, through, List.append_assoc]

theorem yield_dispatchNext :
    yield handle dispatch (pipeline.dispatchNext dispatch) = yield handle dispatch pipeline := by
  rw [dispatchNext]
  split
  · rfl
  · rename_i message rest waiting
    simp only [yield, waiting, List.flatMap_cons, List.append_assoc]

/-- With empty queues everything has been delivered. -/
theorem yield_drained (noIncoming : pipeline.incoming = []) (noOutgoing : pipeline.outgoing = []) :
    yield handle dispatch pipeline = pipeline.delivered := by
  simp [yield, noIncoming, noOutgoing]

end Pipeline

end EmotoFleet.Pipelines
