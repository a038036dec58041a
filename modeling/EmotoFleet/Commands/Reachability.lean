import EmotoFleet.Commands.DeadCommands
import EmotoFleet.Commands.CommandOrder

/-!
# Every waiting copy can still be written

The conditions under which commands end properly and instructions appear in
order speak about copies that are left behind. They ask for no more than is
needed: as long as the broker is in use, every waiting copy can still reach the
tracker, in a few steps that take no time and change no row. A run that leaves
such a copy behind can therefore be continued to the defect.
-/

namespace EmotoFleet.Dispatch

open Expiring Ingestion DeviceCommands Runs

/-- Some steps that take no time, change no row and write nothing lead to a step
that writes the instruction. -/
def CanBeWritten (config : Config) (world : World) (instruction : Instruction) : Prop :=
  ∃ before last middle next, run (step config) world before = some middle ∧
    step config middle last = some next ∧ next.wire = middle.wire ++ [instruction] ∧
    middle.commands = world.commands ∧ middle.now = world.now ∧ middle.wire = world.wire

variable {config : Config} {world next : World} {instruction : Instruction}

/-- A step that takes no time, changes no row and writes nothing may come first. -/
theorem CanBeWritten.after (action : Action) (moved : step config world action = some next)
    (commands : next.commands = world.commands) (now : next.now = world.now)
    (wire : next.wire = world.wire) (later : CanBeWritten config next instruction) :
    CanBeWritten config world instruction := by
  obtain ⟨before, last, middle, final, reached, written, appended, sameRows, sameNow, sameWire⟩ :=
    later
  exact ⟨action :: before, last, middle, final, by simp [moved, reached], written, appended,
    sameRows.trans commands, sameNow.trans now, sameWire.trans wire⟩

/-- The same state with the tracker connected at a node. -/
def World.online (world : World) (node : Nat) : World :=
  { world with connected := Function.update world.connected node true }

/-- A task that is about to write does so once its node has the tracker. -/
theorem can_write_task {task : Task} {node : Nat} (present : task ∈ world.tasks)
    (writes : task = .dispatching node instruction ∨ task = .flushing node instruction ∨
      task = .delivering node instruction) : CanBeWritten config world instruction := by
  have stillPresent : task ∈ (world.online node).tasks := present
  refine ⟨[.connect node], .proceed task .succeeded, world.online node,
    (world.online node).continued config task .succeeded, rfl,
    step_proceed config .succeeded stillPresent, ?_, rfl, rfl, rfl⟩
  rcases writes with rfl | rfl | rfl <;>
    simp [World.continued, World.online, perform, World.transmit]

theorem can_write_queued (queued : Queued world instruction) :
    CanBeWritten config world instruction := by
  have found : read (world.online 0).pending (world.online 0).now = some instruction := queued
  have arrives : step config (world.online 0) (.packetArrives 0) =
      some ((world.online 0).spawn (.flushing 0 instruction)) := by
    simp only [step, found]
    simp [World.online]
  have last : Task.flushing 0 instruction ∈
      ((world.online 0).spawn (.flushing 0 instruction)).tasks := by
    simp [World.spawn]
  refine CanBeWritten.after (.connect 0) rfl ?_ ?_ ?_ (CanBeWritten.after (.packetArrives 0)
    arrives rfl rfl rfl (can_write_task last (Or.inr (Or.inl rfl))))
  all_goals rfl

theorem can_write_sent (once : OncePublished world) (sent : Sent world instruction) :
    CanBeWritten config world instruction := by
  obtain ⟨message, member, rfl, timely, free⟩ := sent
  have stamped := once.stamped message member
  have recent : |world.now - message.ts| ≤ MQTT_MAX_TIMESTAMP_DRIFT_MS := by
    rw [abs_of_nonneg (by omega)]
    exact timely
  have accepted : message ∈ (world.online 0).broker ∧ (world.online 0).connected 0 = true ∧
      |(world.online 0).now - message.ts| ≤ MQTT_MAX_TIMESTAMP_DRIFT_MS ∧
      read ((world.online 0).nonces message.instruction.commandId) (world.online 0).now = none :=
    ⟨member, by simp [World.online], recent, by simp [World.online, free]⟩
  refine CanBeWritten.after (.connect 0) rfl ?_ ?_ ?_ (CanBeWritten.after
    (.commandDelivered 0 message) (if_pos accepted) ?_ ?_ ?_
      (can_write_task (List.mem_append_right _ (List.mem_singleton_self _))
        (Or.inr (Or.inr rfl))))
  all_goals rfl

/-- A request that has not published yet can queue its instruction. -/
theorem can_write_queueing (present : Task.queueing instruction ∈ world.tasks) :
    CanBeWritten config world instruction := by
  have queued : Queued (world.continued config (.queueing instruction) .succeeded) instruction := by
    simp only [Queued, World.continued, perform]
    split <;> exact read_write_alive _ (by norm_num [PENDING_COMMAND_TTL_SECONDS])
  refine CanBeWritten.after _ (step_proceed config .succeeded present) ?_ ?_ ?_
    (can_write_queued queued)
  all_goals simp only [World.continued, perform]; split <;> rfl

/-- One that is about to publish can reach the broker. -/
theorem can_write_publishing (mqttEnabled : config.mqttDisabled = false) (sound : Sound world)
    (present : Task.publishing instruction ∈ world.tasks) :
    CanBeWritten config world instruction := by
  have moved := step_proceed config .succeeded present
  have free := (sound.once.unpublished _ present instruction rfl).1
  have sent : Sent (world.continued config (.publishing instruction) .succeeded) instruction := by
    refine ⟨⟨instruction, world.now⟩, ?_, rfl, ?_, ?_⟩
    · simp [World.continued, perform, mqttEnabled]
    · simp [World.continued, perform_now, MQTT_MAX_TIMESTAMP_DRIFT_MS]
    · simpa [World.continued, perform_nonces] using free
  refine CanBeWritten.after _ moved ?_ ?_ ?_
    (can_write_sent (sound_step sound moved).once sent)
  all_goals simp [World.continued, perform, mqttEnabled]

theorem can_write_texting (mqttEnabled : config.mqttDisabled = false) (sound : Sound world)
    (present : Task.texting instruction ∈ world.tasks) :
    CanBeWritten config world instruction := by
  have moved := step_proceed config (.failed "SMS not sent") present
  refine CanBeWritten.after _ moved rfl rfl rfl
    (can_write_publishing mqttEnabled (sound_step sound moved) ?_)
  simp [World.continued, perform]

/-- A text message that cannot be recorded does not keep its instruction back. -/
theorem can_write_confirming (mqttEnabled : config.mqttDisabled = false) (sound : Sound world)
    (present : Task.confirmingText instruction ∈ world.tasks ∨
      Task.settlingText instruction ∈ world.tasks) :
    CanBeWritten config world instruction := by
  rcases present with confirming | settling
  · have moved := step_proceed config (.failed "Row not written") confirming
    refine CanBeWritten.after _ moved rfl rfl rfl
      (can_write_publishing mqttEnabled (sound_step sound moved) ?_)
    simp [World.continued, perform]
  · have moved := step_proceed config (.failed "Row not written") settling
    refine CanBeWritten.after _ moved rfl rfl rfl
      (can_write_publishing mqttEnabled (sound_step sound moved) ?_)
    simp [World.continued, perform]

/-- Every waiting copy can still be written. -/
theorem waiting_can_be_written (config : Config) (mqttEnabled : config.mqttDisabled = false)
    (sound : Sound world) (waiting : Waiting world instruction) :
    CanBeWritten config world instruction := by
  rcases waiting with ⟨task, present, copied⟩ | queued | sent
  · cases task with
    | dispatching node held =>
      obtain rfl := Option.some.inj copied
      exact can_write_task present (Or.inl rfl)
    | queueing held =>
      obtain rfl := Option.some.inj copied
      exact can_write_queueing present
    | texting held =>
      obtain rfl := Option.some.inj copied
      exact can_write_texting mqttEnabled sound present
    | confirmingText held =>
      obtain rfl := Option.some.inj copied
      exact can_write_confirming mqttEnabled sound (Or.inl present)
    | settlingText held =>
      obtain rfl := Option.some.inj copied
      exact can_write_confirming mqttEnabled sound (Or.inr present)
    | publishing held =>
      obtain rfl := Option.some.inj copied
      exact can_write_publishing mqttEnabled sound present
    | flushing node held =>
      obtain rfl := Option.some.inj copied
      exact can_write_task present (Or.inr (Or.inl rfl))
    | delivering node held =>
      obtain rfl := Option.some.inj copied
      exact can_write_task present (Or.inr (Or.inr rfl))
    | _ => cases copied
  · exact can_write_queued queued
  · exact can_write_sent sound.once sent

end EmotoFleet.Dispatch

namespace EmotoFleet.DeadCommands

open DeviceCommands Dispatch Runs

/-- A command that is over while a copy is left can still be written. -/
theorem over_with_copy_written (config : Config) (mqttEnabled : config.mqttDisabled = false)
    {world : World} {commandId : Nat} (sound : Sound world) (dead : Dead world commandId)
    (copied : HasCopy world commandId) :
    ∃ actions, ¬ Along (step config) WritesLive world actions := by
  obtain ⟨instruction, rfl, waiting⟩ := copied
  obtain ⟨before, last, middle, next, reached, moved, written, sameRows, sameNow, _⟩ :=
    waiting_can_be_written config mqttEnabled sound waiting
  have stillOver : Dead middle instruction.commandId := by
    unfold Dead at dead ⊢
    rw [sameRows, sameNow]
    exact dead
  exact ⟨before ++ [last], not_along_of_run reached moved
    fun live => live instruction written stillOver⟩

/-- The condition on ends is necessary in this sense: a run that ends a command
while a copy is left can be continued to a run that writes a command that is
over. -/
theorem ends_with_copies_reaches_write (config : Config)
    (mqttEnabled : config.mqttDisabled = false) {start world next : World}
    {actions : List Action} {action : Action} (fresh : Fresh start)
    (reached : run (step config) start actions = some world)
    (moved : step config world action = some next)
    (broken : ¬ EndsWithoutCopies world action next) :
    ∃ more, ¬ Along (step config) WritesLive start (actions ++ action :: more) := by
  have kept : ∀ state action next, Sound state → True →
      step config state action = some next → Sound next :=
    fun state action next before _ moved => sound_step before moved
  have sound : Sound world := invariant_reached Sound kept (sound_fresh fresh)
    (along_true (step config) start actions) reached
  have left : ∃ commandId, Dead next commandId ∧ HasCopy next commandId := by
    by_contra none'
    exact broken fun commandId dead _ copied => none' ⟨commandId, dead, copied⟩
  obtain ⟨commandId, dead, copied⟩ := left
  obtain ⟨more, unsafe'⟩ :=
    over_with_copy_written config mqttEnabled (sound_step sound moved) dead copied
  refine ⟨more, fun everywhere => unsafe' ?_⟩
  exact (((along_append reached _).mp everywhere).2 next moved).2

end EmotoFleet.DeadCommands

namespace EmotoFleet.CommandOrder

open DeviceCommands Dispatch Runs

/-- A copy that stays behind when it is overtaken can still be written, after a
command that is not older. -/
theorem overtaken_behind_written (config : Config) (mqttEnabled : config.mqttDisabled = false)
    {world : World} {commandId : Nat} (sound : Sound world) (overtaken : Overtaken world commandId)
    (behind : StaysBehind world commandId) :
    ∃ actions, ¬ Along (step config) WritesNewest world actions := by
  obtain ⟨instruction, rfl, copy⟩ := behind
  have waiting : Waiting world instruction := by
    rcases copy with held | ⟨_, queued⟩ | sent
    · exact Or.inl held
    · exact Or.inr (Or.inl queued)
    · exact Or.inr (Or.inr sent)
  obtain ⟨before, last, middle, next, reached, moved, appended, _, _, sameWire⟩ :=
    waiting_can_be_written config mqttEnabled sound waiting
  obtain ⟨written, member, notOlder⟩ := overtaken
  refine ⟨before ++ [last], not_along_of_run reached moved fun newest => ?_⟩
  have older := newest instruction appended written (by rw [sameWire]; exact member)
  omega

end EmotoFleet.CommandOrder
