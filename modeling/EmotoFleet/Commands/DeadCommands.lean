import EmotoFleet.Commands.Copies

/-!
# Commands that are over

A command is over once its status is final or its expiry has passed. Its copies
do not know: the pending key lives for ten minutes and a published message for
five, while the command lives for less than a minute by default, and neither the
flush nor the delivery looks at the row.

So an instruction can be written for a command that is over. It happens only
when a command comes to its end while a copy of it is still waiting; as long as
that does not happen, nothing is ever written for a command that is over.
-/

namespace EmotoFleet.DeadCommands

open Expiring LiveState DeviceCommands Dispatch Holders Runs

/-- The command's status is final or its expiry has passed. -/
def Dead (world : World) (commandId : Nat) : Prop :=
  ∃ row, world.commands[commandId]? = some row ∧
    (isTerminalStatus row.status = true ∨ row.expiresAt < world.now)

/-- A copy of the command's instruction is still on its way to the tracker. -/
def HasCopy (world : World) (commandId : Nat) : Prop :=
  ∃ instruction, instruction.commandId = commandId ∧ Waiting world instruction

/-- The step ends a command only when no copy of its instruction is left. -/
def EndsWithoutCopies (world : World) (_ : Action) (next : World) : Prop :=
  ClosesUnheld Dead HasCopy world next

/-- Whatever the step writes to the tracker is for a command that is not over. -/
def WritesLive (world : World) (_ : Action) (next : World) : Prop :=
  ∀ instruction, next.wire = world.wire ++ [instruction] → ¬ Dead world instruction.commandId

variable {config : Config} {world next : World} {action : Action}

/-- Copies come from copies or belong to a command that has just begun. -/
theorem copies_acquired (sound : Sound world) (moved : step config world action = some next) :
    Acquires Dead HasCopy world next := by
  rintro commandId ⟨instruction, rfl, waiting⟩
  cases waiting_step sound.once moved waiting with
  | inl before => exact Or.inl ⟨instruction, rfl, before⟩
  | inr created =>
    refine Or.inr ?_
    rintro ⟨row, found, dead⟩
    rw [created] at found
    obtain ⟨opened, alive⟩ := created_row moved found
    cases dead with
    | inl final => simp [opened] at final
    | inr expired => omega

/-- In every run that ends commands only when no copy of their instruction is
left, no instruction is written for a command that is over. -/
theorem over_never_written (config : Config) (start : World) (actions : List Action)
    (fresh : Fresh start) (guarded : Along (step config) EndsWithoutCopies start actions) :
    Along (step config) WritesLive start actions := by
  refine along_settled Dead HasCopy Sound
    (fun state action next sound moved => sound_step sound moved)
    (fun state action next sound _ moved => copies_acquired sound moved)
    (fun state action next ends _ => ends) ?_ (sound_fresh fresh) ?_ guarded
  · intro state action next _ settled moved instruction written dead
    exact settled instruction.commandId dead ⟨instruction, rfl, written_waiting moved written⟩
  · rintro commandId ⟨row, found, _⟩ _
    simp [fresh.noCommands] at found

/-- A check that a step ends no command, or leaves no copies at all. -/
def endsNothing (_ : World) (_ : Action) (next : World) : Bool :=
  (next.commands.all fun row => !isTerminalStatus row.status && decide (next.now ≤ row.expiresAt)) ||
    (next.pending.isNone && next.broker.isEmpty && next.tasks.all (·.copy.isNone))

theorem endsNothing_sound (world : World) (action : Action) (next : World)
    (checked : endsNothing world action next = true) : EndsWithoutCopies world action next := by
  intro commandId dead _ copied
  simp only [endsNothing, Bool.or_eq_true, Bool.and_eq_true] at checked
  cases checked with
  | inl alive =>
    obtain ⟨row, found, final | expired⟩ := dead
    all_goals
      have open' := List.all_eq_true.mp alive row (List.mem_of_getElem? found)
      simp_all
    omega
  | inr changed =>
    obtain ⟨⟨queued, sent⟩, tasks⟩ := changed
    obtain ⟨instruction, _, ⟨task, member, held⟩ | pending | ⟨message, member, _⟩⟩ := copied
    · simpa [held] using List.all_eq_true.mp tasks task member
    · simp [Queued, Option.isNone_iff_eq_none.mp queued] at pending
    · simp [List.isEmpty_iff.mp sent] at member

/-- A lock that is written at once, is never acknowledged and expires. -/
theorem over_never_written_direct :
    Along (step defaultConfig) WritesLive idleWorld
      (.connect 0 :: requestSteps 0 ⟨0, .LOCK⟩ ++
        [.proceed (.recording 0 .dispatched) .succeeded, .tick 50000, .sweepStarts [0],
         .proceed (.sweeping 1772438450000 [(0, false)]) (.failed "SMS refused"),
         .proceed (.recording 0 (.sweptExpired (expiryMsg defaultConfig false))) .succeeded]) :=
  over_never_written defaultConfig idleWorld _ idleWorld_fresh
    (along_of_check endsNothing_sound (by decide +kernel))

/-- A lock requested while the tracker is offline is delivered by text message and
acknowledged; its entry under the pending key is written to the tracker when it
reconnects. -/
theorem texted_lock_written_again :
    ¬ ∀ (config : Config) (start : World) (actions : List Action), Fresh start →
      Along (step config) WritesLive start actions := by
  intro always
  have breaks : ∀ middle next : World,
      decide (next.wire = middle.wire ++ [⟨0, .LOCK⟩] ∧
        (middle.commands[0]?.any fun row => isTerminalStatus row.status) = true) = true →
      ¬ WritesLive middle (.proceed (.flushing 0 ⟨0, .LOCK⟩) .succeeded) next := by
    intro middle next broken live
    obtain ⟨written, final⟩ := of_decide_eq_true broken
    cases found : middle.commands[0]? with
    | none => simp [found] at final
    | some row => exact live _ written ⟨row, found, Or.inl (by simpa [found] using final)⟩
  exact not_along_of_check idleWorld (requestSteps 0 ⟨0, .LOCK⟩ ++
    ([.proceed (.queueing ⟨0, .LOCK⟩) .succeeded, .proceed (.texting ⟨0, .LOCK⟩) .succeeded,
     .proceed (.confirmingText ⟨0, .LOCK⟩) .succeeded,
     .proceed (.settlingText ⟨0, .LOCK⟩) .succeeded,
     .tick 10000, .connect 0, .packetArrives 0] : List Action))
    (.proceed (.flushing 0 ⟨0, .LOCK⟩) .succeeded) breaks (by decide +kernel)
    (always defaultConfig idleWorld _ idleWorld_fresh)

end EmotoFleet.DeadCommands
