import EmotoFleet.Commands.Copies

/-!
# Final statuses

`ACKED`, `FAILED` and `EXPIRED` are documented as statuses that can no longer
transition. The consumer of acknowledgements looks at the status before it
decides; every write of a status, however, is unconditional, and between a
decision and its write the row may have changed.

A final status is therefore kept only if it is reached when nothing else is about
to write to the row: no other open task, and no entry under the pending key,
whose flush ends with a write of `SENT`.
-/

namespace EmotoFleet.TerminalStatuses

open Expiring LiveState DeviceCommands Dispatch Holders Runs

/-- The stored status of the command is final. -/
def Final (world : World) (commandId : Nat) : Prop :=
  ∃ row, world.commands[commandId]? = some row ∧ isTerminalStatus row.status = true

/-- Something is still going to write to the command's row. -/
def HasWriter (world : World) (commandId : Nat) : Prop :=
  (∃ task ∈ world.tasks, commandId ∈ task.updates) ∨
    ∃ instruction, read world.pending world.now = some instruction ∧
      instruction.commandId = commandId

/-- A task that makes a status final goes on only when no other write to the row is
left. -/
def FinalizesAlone (world : World) : Action → World → Prop
  | .proceed task _, _ => ∀ commandId, Finalizes world task commandId →
      ¬ HasWriter { world with tasks := world.tasks.erase task } commandId
  | _, _ => True

/-- The step keeps every final status. -/
def KeepsFinal (world : World) (_ : Action) (next : World) : Prop :=
  ∀ (commandId : Nat) (row : DeviceCommand), world.commands[commandId]? = some row →
    isTerminalStatus row.status = true →
      ∃ after : DeviceCommand, next.commands[commandId]? = some after ∧ after.status = row.status

variable {config : Config} {world next : World} {action : Action}

theorem writer_continued {task : Task} {outcome : Outcome} {commandId : Nat}
    (present : task ∈ world.tasks)
    (writer : HasWriter (world.continued config task outcome) commandId) :
    HasWriter world commandId ∨ commandId = world.commands.length := by
  cases writer with
  | inl changed =>
    obtain ⟨other, member, updated⟩ := changed
    cases mem_continued member with
    | inl kept => exact Or.inl (Or.inl ⟨other, kept, updated⟩)
    | inr follows =>
      cases perform_updates config world task outcome other follows commandId updated with
      | inl before => exact Or.inl (Or.inl ⟨task, present, before⟩)
      | inr changed =>
        obtain ⟨_, _, _, created⟩ := changed
        exact Or.inr created
  | inr changed =>
    obtain ⟨instruction, queued, rfl⟩ := changed
    simp only [World.continued, perform_now] at queued
    rcases perform_pending config world task outcome with
      same | ⟨_, _, deleted⟩ | ⟨sent, rfl, written⟩
    · rw [same] at queued
      exact Or.inl (Or.inr ⟨instruction, queued, rfl⟩)
    · rw [deleted] at queued
      cases queued
    · rw [written] at queued
      obtain ⟨entry, stored, _, rfl⟩ := (read_eq_some_iff _ _ _).mp queued
      obtain rfl := Option.some.inj stored
      exact Or.inl (Or.inl ⟨_, present, List.mem_singleton_self _⟩)

/-- Writers come from writers, from the creation of the command, or from a decision
taken while the status was open. -/
theorem writers_acquired (moved : step config world action = some next) :
    Acquires Final HasWriter world next := by
  intro commandId writer
  have begun : commandId = world.commands.length → ¬ Final next commandId := by
    rintro rfl ⟨row, found, final⟩
    simp [(created_row moved found).1] at final
  cases step_transition moved with
  | tick elapsed =>
    cases writer with
    | inl task => exact Or.inl (Or.inl task)
    | inr changed =>
      obtain ⟨instruction, queued, same⟩ := changed
      refine Or.inl (Or.inr ⟨instruction, read_alive_earlier ?_ queued, same⟩)
      show world.now ≤ world.now + elapsed
      omega
  | socket action connected => exact Or.inl writer
  | arrival action task arrives =>
    cases writer with
    | inl changed =>
      obtain ⟨other, member, updated⟩ := changed
      cases List.mem_append.mp member with
      | inl kept => exact Or.inl (Or.inl ⟨other, kept, updated⟩)
      | inr added =>
        obtain rfl := List.mem_singleton.mp added
        cases arrival_updates arrives updated with
        | inl queued => exact Or.inl (Or.inr queued)
        | inr changed =>
          obtain ⟨row, found, opened⟩ := changed
          refine Or.inr ?_
          rintro ⟨after, same, final⟩
          have equal : row = after := Option.some.inj (found.symm.trans same)
          simp [← equal, opened] at final
    | inr queued => exact Or.inl (Or.inr queued)
  | claim node message present timely fresh =>
    cases writer with
    | inl changed =>
      obtain ⟨other, member, updated⟩ := changed
      cases List.mem_append.mp member with
      | inl kept => exact Or.inl (Or.inl ⟨other, kept, updated⟩)
      | inr added =>
        obtain rfl := List.mem_singleton.mp added
        cases updated
    | inr queued => exact Or.inl (Or.inr queued)
  | lost message => exact Or.inl writer
  | proceed task outcome present =>
    cases writer_continued present writer with
    | inl before => exact Or.inl before
    | inr created => exact Or.inr (begun created)
  | abandon task =>
    cases writer with
    | inl changed =>
      obtain ⟨other, member, updated⟩ := changed
      exact Or.inl (Or.inl ⟨other, List.mem_of_mem_erase member, updated⟩)
    | inr queued => exact Or.inl (Or.inr queued)

/-- No writer is left of a row whose status a step makes final. -/
theorem closed_unheld (alone : FinalizesAlone world action next)
    (moved : step config world action = some next) : ClosesUnheld Final HasWriter world next := by
  rintro commandId ⟨after, later, final⟩ opened writer
  have before : ∀ row, world.commands[commandId]? = some row →
      isTerminalStatus row.status = false := by
    intro row found
    by_contra already
    exact opened ⟨row, found, by simpa using already⟩
  obtain ⟨task, outcome, rfl, finalizes⟩ := finalizes_step moved later final before
  obtain rfl := proceed_step moved
  have fate : ((perform config world task outcome).2 = [] ∧
      (perform config world task outcome).1.pending = world.pending) ∨
      (perform config world task outcome).1.commands = world.commands :=
    finalizes_last finalizes outcome
  rcases fate with ⟨last, samePending⟩ | unchanged
  · apply alone commandId finalizes
    cases writer with
    | inl task =>
      obtain ⟨other, member, updated⟩ := task
      cases List.mem_append.mp member with
      | inl kept => exact Or.inl ⟨other, kept, updated⟩
      | inr follows =>
        rw [last] at follows
        exact absurd follows List.not_mem_nil
    | inr queued =>
      simp only [World.continued, perform_now, samePending] at queued
      exact Or.inr queued
  · exact absurd ⟨after, unchanged ▸ later, final⟩ opened

/-- A row without writers is left alone. -/
theorem row_kept (moved : step config world action = some next) {commandId : Nat}
    {row : DeviceCommand} (found : world.commands[commandId]? = some row)
    (unwritten : ¬ HasWriter world commandId) : next.commands[commandId]? = some row := by
  have stored := (List.getElem?_eq_some_iff.mp found).1
  rcases commands_step moved with
    same | ⟨type, appended, _⟩ | ⟨task, present, _, written, update, _, writes, modified⟩
  · rw [same, found]
  · rw [appended, List.getElem?_append_left stored, found]
  · have different : written ≠ commandId := by
      rintro rfl
      exact unwritten (Or.inl ⟨task, present, writes_updates writes⟩)
    simp [modified, different, found]

/-- In every run that makes statuses final only when no other write to the row is
left, a final status never changes. -/
theorem final_statuses_absorbing (config : Config) (start : World) (actions : List Action)
    (fresh : Fresh start) (guarded : Along (step config) FinalizesAlone start actions) :
    Along (step config) KeepsFinal start actions := by
  refine along_settled Final HasWriter (fun _ => True)
    (fun state action next _ moved => trivial)
    (fun state action next _ _ moved => writers_acquired moved)
    (fun state action next alone moved => closed_unheld alone moved) ?_ trivial ?_ guarded
  · intro state action next _ settled moved commandId row found final
    exact ⟨row, row_kept moved found (settled commandId ⟨row, found, final⟩), rfl⟩
  · rintro commandId ⟨row, found, _⟩ _
    simp [fresh.noCommands] at found

/-- A check that a step makes no status final, or that no writers at all are left. -/
def finalizesNothing (world : World) (action : Action) (_ : World) : Bool :=
  match action with
  | .proceed task _ =>
    (task.writes.all fun write => world.commands[write.1]?.all fun row =>
      !isTerminalStatus (write.2.apply world.now row).status) ||
      (world.pending.isNone && (world.tasks.erase task).all (·.updates.isEmpty))
  | _ => true

theorem finalizesNothing_sound (world : World) (action : Action) (next : World)
    (checked : finalizesNothing world action next = true) : FinalizesAlone world action next := by
  cases action with
  | proceed task outcome =>
    rintro commandId ⟨update, row, writes, found, _, final⟩ writer
    simp only [finalizesNothing, Bool.or_eq_true, Bool.and_eq_true] at checked
    cases checked with
    | inl opened => simp [writes, found, final] at opened
    | inr none' =>
      obtain ⟨queued, tasks⟩ := none'
      cases writer with
      | inl task =>
        obtain ⟨other, member, updated⟩ := task
        have nothing := List.isEmpty_iff.mp (List.all_eq_true.mp tasks other member)
        simp [nothing] at updated
      | inr entry =>
        obtain ⟨instruction, pending, _⟩ := entry
        simp [Option.isNone_iff_eq_none.mp queued] at pending
  | _ => trivial

/-- A lock that is written at once, recorded as sent, acknowledged by the tracker
and acknowledged once more. -/
theorem final_statuses_absorbing_direct :
    Along (step defaultConfig) KeepsFinal idleWorld
      (.connect 0 :: requestSteps 0 ⟨0, .LOCK⟩ ++
        [.proceed (.recording 0 .dispatched) .succeeded, .tick 3000, .tcpAckArrives,
         .proceed (.recording 0 .tcpAcknowledged) .succeeded,
         .ackArrives 0 1772438404000 none]) :=
  final_statuses_absorbing defaultConfig idleWorld _ idleWorld_fresh
    (along_of_check finalizesNothing_sound (by decide +kernel))

/-- A lock that a text message has delivered is `ACKED`, until the tracker
reconnects and the flush of the pending key records it as `SENT`. -/
theorem acked_lock_sent_again :
    ¬ ∀ (config : Config) (start : World) (actions : List Action), Fresh start →
      Along (step config) KeepsFinal start actions := by
  intro always
  have breaks : ∀ middle next : World,
      decide (middle.commands[0]?.map (·.status) = some .ACKED ∧
        next.commands[0]?.map (·.status) = some .SENT) = true →
      ¬ KeepsFinal middle (.proceed (.recording 0 .flushed) .succeeded) next := by
    intro middle next broken keeps
    obtain ⟨acked, sent⟩ := of_decide_eq_true broken
    obtain ⟨row, found, status⟩ := Option.map_eq_some_iff.mp acked
    obtain ⟨after, later, same⟩ := keeps 0 row found (by rw [status]; rfl)
    simp [later, same, status] at sent
  exact not_along_of_check idleWorld (requestSteps 0 ⟨0, .LOCK⟩ ++
    ([.proceed (.queueing ⟨0, .LOCK⟩) .succeeded, .proceed (.texting ⟨0, .LOCK⟩) .succeeded,
     .proceed (.confirmingText ⟨0, .LOCK⟩) .succeeded,
     .proceed (.settlingText ⟨0, .LOCK⟩) .succeeded,
     .tick 10000, .connect 0, .packetArrives 0, .proceed (.flushing 0 ⟨0, .LOCK⟩) .succeeded,
     .proceed (.unqueueing ⟨0, .LOCK⟩) .succeeded] : List Action))
    (.proceed (.recording 0 .flushed) .succeeded) breaks (by decide +kernel)
    (always defaultConfig idleWorld _ idleWorld_fresh)

end EmotoFleet.TerminalStatuses
