import EmotoFleet.Commands.Transitions
import EmotoFleet.Foundations.Holders

/-!
# Copies of an instruction that are still on their way

An instruction may be waiting in several places at once: with the request that
created it, under the pending key, in the broker, with a flush that has read the
pending key, or with a delivery that has claimed its nonce. All writes to the
tracker come from such copies, and apart from newly created commands, copies only
come from copies.

The broker needs an argument: a message whose nonce has been claimed never
becomes deliverable again, because the claim outlives the drift window.
-/

namespace EmotoFleet.Dispatch

open Expiring LiveState TheftRules Ingestion DeviceCommands

/-- The published command can still be accepted by a node. -/
def Deliverable (world : World) (message : Downlink) : Prop :=
  world.now - message.ts ≤ MQTT_MAX_TIMESTAMP_DRIFT_MS ∧
    world.nonces message.instruction.commandId = none

/-- An open task may still write the instruction. -/
def Held (world : World) (instruction : Instruction) : Prop :=
  ∃ task ∈ world.tasks, task.copy = some instruction

/-- The instruction can be read from the pending key. -/
def Queued (world : World) (instruction : Instruction) : Prop :=
  read world.pending world.now = some instruction

/-- The instruction can still be accepted from the broker. -/
def Sent (world : World) (instruction : Instruction) : Prop :=
  ∃ message ∈ world.broker, message.instruction = instruction ∧ Deliverable world message

/-- A copy of the instruction is still on its way to the tracker. -/
def Waiting (world : World) (instruction : Instruction) : Prop :=
  Held world instruction ∨ Queued world instruction ∨ Sent world instruction

/-- Everything in the system is about commands that exist. -/
structure Numbered (world : World) : Prop where
  copies : ∀ task ∈ world.tasks, ∀ instruction, task.copy = some instruction →
    instruction.commandId < world.commands.length
  updates : ∀ task ∈ world.tasks, ∀ commandId ∈ task.updates, commandId < world.commands.length
  pending : ∀ entry ∈ world.pending, entry.value.commandId < world.commands.length
  broker : ∀ message ∈ world.broker, message.instruction.commandId < world.commands.length
  wire : ∀ instruction ∈ world.wire, instruction.commandId < world.commands.length

variable {config : Config} {world next : World} {action : Action}

/-- What is under way after a step was so before or was started by it. -/
theorem mem_continued {task : Task} {outcome : Outcome} {other : Task}
    (member : other ∈ (world.continued config task outcome).tasks) :
    other ∈ world.tasks ∨ other ∈ (perform config world task outcome).2 := by
  cases List.mem_append.mp member with
  | inl kept => exact Or.inl (List.mem_of_mem_erase kept)
  | inr follows => exact Or.inr follows

/-- Rows are never removed. -/
theorem perform_length (config : Config) (world : World) (task : Task) (outcome : Outcome) :
    world.commands.length ≤ (perform config world task outcome).1.commands.length := by
  rcases perform_commands config world task outcome with
    same | ⟨_, _, _, appended⟩ | ⟨_, _, _, modified⟩
  · rw [same]
  · rw [appended]; simp
  · rw [modified]; simp

/-- A creating task makes room for the number that it hands on. -/
theorem creating_length (config : Config) (world : World) (node : Nat)
    (type : DeviceCommandType) (outcome : Outcome) :
    (perform config world (.creating node type) outcome).1.commands.length =
      world.commands.length + 1 := by
  simp [perform]

/-- The copy that an arriving task holds was pending. -/
theorem arrival_copy {task : Task} {instruction : Instruction}
    (arrives : Arrival config world action task) (held : task.copy = some instruction) :
    read world.pending world.now = some instruction := by
  cases arrives with
  | packet node queued found =>
    obtain rfl := Option.some.inj held
    exact found
  | _ => cases held

/-- The row that an arriving task writes is that of a pending copy or one that is not final. -/
theorem arrival_updates {task : Task} {commandId : Nat}
    (arrives : Arrival config world action task) (updated : commandId ∈ task.updates) :
    (∃ instruction, read world.pending world.now = some instruction ∧
        instruction.commandId = commandId) ∨
      ∃ row, world.commands[commandId]? = some row ∧ isTerminalStatus row.status = false := by
  cases arrives with
  | packet node queued found =>
    exact Or.inl ⟨queued, found, (List.mem_singleton.mp updated).symm⟩
  | ack acked ts failure row found opened =>
    obtain rfl := List.mem_singleton.mp updated
    exact Or.inr ⟨row, found, opened⟩
  | tcpAck latest found =>
    obtain rfl := List.mem_singleton.mp updated
    have chosen := List.find?_some found
    cases present : world.commands[commandId]? with
    | none => simp [present] at chosen
    | some row => exact Or.inr ⟨row, rfl, by simp [present] at chosen; exact chosen.1⟩
  | sweep rows expired =>
    have member : commandId ∈ rows := by simpa [Task.updates] using updated
    have chosen := expired commandId member
    unfold stale at chosen
    cases present : world.commands[commandId]? with
    | none => simp [present] at chosen
    | some row => exact Or.inr ⟨row, rfl, by simp [present] at chosen; exact chosen.1⟩
  | request | telemetry | heartbeat => simp [Task.updates] at updated

/-- A readable pending entry is a stored one. -/
theorem pending_of_read {instruction : Instruction}
    (found : read world.pending world.now = some instruction) :
    ∃ entry ∈ world.pending, entry.value = instruction := by
  obtain ⟨entry, held, _, same⟩ := (read_eq_some_iff _ _ _).mp found
  exact ⟨entry, held, same⟩

/-- One more task keeps the copies numbered. -/
theorem numbered_spawn {task : Task} (numbered : Numbered world)
    (copies : ∀ instruction, task.copy = some instruction →
      instruction.commandId < world.commands.length)
    (updates : ∀ commandId ∈ task.updates, commandId < world.commands.length) :
    Numbered (world.spawn task) where
  copies := by
    intro other member instruction held
    cases List.mem_append.mp member with
    | inl kept => exact numbered.copies other kept instruction held
    | inr added =>
      obtain rfl := List.mem_singleton.mp added
      exact copies instruction held
  updates := by
    intro other member commandId updated
    cases List.mem_append.mp member with
    | inl kept => exact numbered.updates other kept commandId updated
    | inr added =>
      obtain rfl := List.mem_singleton.mp added
      exact updates commandId updated
  pending := numbered.pending
  broker := numbered.broker
  wire := numbered.wire

/-- A task that goes on keeps the copies numbered. -/
theorem numbered_continued {task : Task} {outcome : Outcome} (numbered : Numbered world)
    (present : task ∈ world.tasks) : Numbered (world.continued config task outcome) := by
  have longer := perform_length config world task outcome
  have copied : ∀ instruction, task.copy = some instruction →
      instruction.commandId < (world.continued config task outcome).commands.length :=
    fun instruction held => lt_of_lt_of_le (numbered.copies task present instruction held) longer
  refine ⟨?_, ?_, ?_, ?_, ?_⟩
  · intro other member instruction held
    cases mem_continued member with
    | inl kept => exact lt_of_lt_of_le (numbered.copies other kept instruction held) longer
    | inr follows =>
      cases perform_copy config world task outcome other follows instruction held with
      | inl before => exact copied instruction before
      | inr changed =>
        obtain ⟨node, rfl, new⟩ := changed
        have room := creating_length config world node instruction.type outcome
        simp only [World.continued, room, new]
        omega
  · intro other member commandId updated
    cases mem_continued member with
    | inl kept => exact lt_of_lt_of_le (numbered.updates other kept commandId updated) longer
    | inr follows =>
      cases perform_updates config world task outcome other follows commandId updated with
      | inl before => exact lt_of_lt_of_le (numbered.updates task present commandId before) longer
      | inr changed =>
        obtain ⟨node, type, rfl, new⟩ := changed
        have room := creating_length config world node type outcome
        simp only [World.continued, room, new]
        omega
  · intro entry stored
    simp only [World.continued] at stored ⊢
    rcases perform_pending config world task outcome with
      same | ⟨_, _, deleted⟩ | ⟨instruction, rfl, written⟩
    · rw [same] at stored
      exact lt_of_lt_of_le (numbered.pending entry stored) longer
    · rw [deleted] at stored
      cases stored
    · rw [written] at stored
      obtain rfl := Option.some.inj stored
      exact copied instruction rfl
  · intro message sent
    simp only [World.continued] at sent ⊢
    cases perform_broker config world task outcome with
    | inl same =>
      rw [same] at sent
      exact lt_of_lt_of_le (numbered.broker message sent) longer
    | inr changed =>
      obtain ⟨instruction, rfl, published⟩ := changed
      rw [published] at sent
      cases List.mem_append.mp sent with
      | inl kept => exact lt_of_lt_of_le (numbered.broker message kept) longer
      | inr added =>
        obtain rfl := List.mem_singleton.mp added
        exact copied instruction rfl
  · intro written member
    simp only [World.continued] at member ⊢
    cases perform_wire config world task outcome with
    | inl same =>
      rw [same] at member
      exact lt_of_lt_of_le (numbered.wire written member) longer
    | inr changed =>
      obtain ⟨instruction, transmits, appended⟩ := changed
      have held := transmits_copy transmits
      rw [appended] at member
      cases List.mem_append.mp member with
      | inl kept => exact lt_of_lt_of_le (numbered.wire written kept) longer
      | inr added =>
        obtain rfl := List.mem_singleton.mp added
        exact copied written held

/-- Numbering is an invariant. -/
theorem numbered_step (numbered : Numbered world) (moved : step config world action = some next) :
    Numbered next := by
  cases step_transition moved with
  | tick elapsed =>
    exact ⟨numbered.copies, numbered.updates, numbered.pending, numbered.broker, numbered.wire⟩
  | socket action connected =>
    exact ⟨numbered.copies, numbered.updates, numbered.pending, numbered.broker, numbered.wire⟩
  | arrival action task arrives =>
    refine numbered_spawn numbered ?_ ?_
    · intro instruction held
      obtain ⟨entry, stored, rfl⟩ := pending_of_read (arrival_copy arrives held)
      exact numbered.pending entry stored
    · intro commandId updated
      cases arrival_updates arrives updated with
      | inl changed =>
        obtain ⟨instruction, found, rfl⟩ := changed
        obtain ⟨entry, stored, rfl⟩ := pending_of_read found
        exact numbered.pending entry stored
      | inr changed =>
        obtain ⟨row, found, _⟩ := changed
        exact (List.getElem?_eq_some_iff.mp found).1
  | claim node message present timely fresh =>
    refine numbered_spawn
      ⟨numbered.copies, numbered.updates, numbered.pending, numbered.broker, numbered.wire⟩ ?_ ?_
    · intro instruction held
      obtain rfl := Option.some.inj held
      exact numbered.broker message present
    · intro commandId updated
      cases updated
  | lost message =>
    exact ⟨numbered.copies, numbered.updates, numbered.pending,
      fun other member => numbered.broker other (List.mem_of_mem_erase member), numbered.wire⟩
  | proceed task outcome present => exact numbered_continued numbered present
  | abandon task =>
    exact ⟨fun other member => numbered.copies other (List.mem_of_mem_erase member),
      fun other member => numbered.updates other (List.mem_of_mem_erase member),
      numbered.pending, numbered.broker, numbered.wire⟩

/-- Two tasks are not unpublished requests for the same command. -/
def Apart (left right : Task) : Prop :=
  ∀ mine yours, left.request = some mine → right.request = some yours →
    mine.commandId ≠ yours.commandId

/-- Every command is published at most once and its claim outlives the message. -/
structure OncePublished (world : World) : Prop where
  stamped : ∀ message ∈ world.broker, message.ts ≤ world.now
  outlived : ∀ message ∈ world.broker, ∀ claim ∈ world.nonces message.instruction.commandId,
    message.ts + MQTT_MAX_TIMESTAMP_DRIFT_MS < claim.expiresAt
  unclaimed : ∀ commandId, world.commands.length ≤ commandId → world.nonces commandId = none
  unpublished : ∀ task ∈ world.tasks, ∀ instruction, task.request = some instruction →
    world.nonces instruction.commandId = none ∧
      ∀ message ∈ world.broker, message.instruction.commandId ≠ instruction.commandId
  distinct : world.tasks.Pairwise Apart

/-- Tasks are apart from each other. -/
theorem apart_symm {left right : Task} (apart : Apart left right) : Apart right left := by
  intro mine yours asked other same
  exact apart yours mine other asked same.symm

/-- A task is apart from all the others that are open. -/
theorem apart_others (once : OncePublished world) {task other : Task}
    (present : task ∈ world.tasks) (member : other ∈ world.tasks.erase task) : Apart task other :=
  List.rel_of_pairwise_cons
    (((List.perm_cons_erase present).pairwise_iff apart_symm).mp once.distinct) member

/-- A request holds a copy of what it asks for. -/
theorem request_copy {task : Task} {instruction : Instruction}
    (asked : task.request = some instruction) : task.copy = some instruction := by
  cases task <;> simp_all [Task.request, Task.copy]

/-- One more task that requests nothing keeps requests published once. -/
theorem once_spawn {task : Task} (once : OncePublished world) (quiet : task.request = none) :
    OncePublished (world.spawn task) where
  stamped := once.stamped
  outlived := once.outlived
  unclaimed := once.unclaimed
  unpublished := by
    intro other member instruction asked
    cases List.mem_append.mp member with
    | inl kept => exact once.unpublished other kept instruction asked
    | inr added =>
      obtain rfl := List.mem_singleton.mp added
      rw [quiet] at asked
      cases asked
  distinct := by
    refine List.pairwise_append.mpr ⟨once.distinct, List.pairwise_singleton _ _, ?_⟩
    intro left _ right added mine yours _ asked
    obtain rfl := List.mem_singleton.mp added
    rw [quiet] at asked
    cases asked

/-- An arriving task requests nothing. -/
theorem arrival_request {task : Task} (arrives : Arrival config world action task) :
    task.request = none := by
  cases arrives <;> rfl

/-- A task that goes on keeps requests published once. -/
theorem once_continued {task : Task} {outcome : Outcome} (numbered : Numbered world)
    (once : OncePublished world) (present : task ∈ world.tasks) :
    OncePublished (world.continued config task outcome) := by
  have sameNonces := perform_nonces config world task outcome
  have sameNow := perform_now config world task outcome
  have others : ∀ other ∈ world.tasks.erase task, ∀ instruction, other.request = some instruction →
      world.nonces instruction.commandId = none ∧
        ∀ message ∈ (perform config world task outcome).1.broker,
          message.instruction.commandId ≠ instruction.commandId := by
    intro other kept instruction asked
    obtain ⟨free, silent⟩ := once.unpublished other (List.mem_of_mem_erase kept) instruction asked
    refine ⟨free, ?_⟩
    cases perform_broker config world task outcome with
    | inl same => rw [same]; exact silent
    | inr changed =>
      obtain ⟨sent, rfl, published⟩ := changed
      rw [published]
      intro message member
      cases List.mem_append.mp member with
      | inl before => exact silent message before
      | inr added =>
        obtain rfl := List.mem_singleton.mp added
        exact apart_others once present kept sent instruction rfl asked
  refine ⟨?_, ?_, ?_, ?_, ?_⟩
  · intro message member
    simp only [World.continued, sameNow] at member ⊢
    cases perform_broker config world task outcome with
    | inl same =>
      rw [same] at member
      exact once.stamped message member
    | inr changed =>
      obtain ⟨sent, rfl, published⟩ := changed
      rw [published] at member
      cases List.mem_append.mp member with
      | inl before => exact once.stamped message before
      | inr added =>
        obtain rfl := List.mem_singleton.mp added
        exact le_refl _
  · intro message member claim claimed
    simp only [World.continued, sameNonces] at member claimed
    cases perform_broker config world task outcome with
    | inl same =>
      rw [same] at member
      exact once.outlived message member claim claimed
    | inr changed =>
      obtain ⟨sent, rfl, published⟩ := changed
      rw [published] at member
      cases List.mem_append.mp member with
      | inl before => exact once.outlived message before claim claimed
      | inr added =>
        obtain rfl := List.mem_singleton.mp added
        rw [(once.unpublished _ present sent rfl).1] at claimed
        cases claimed
  · intro commandId new
    simp only [World.continued, sameNonces] at new ⊢
    exact once.unclaimed commandId (le_trans (perform_length config world task outcome) new)
  · intro other member instruction asked
    simp only [World.continued, sameNonces] at member ⊢
    cases List.mem_append.mp member with
    | inl kept => exact others other kept instruction asked
    | inr follows =>
      cases perform_request config world task outcome other follows instruction asked with
      | inl changed =>
        obtain ⟨before, sameBroker⟩ := changed
        rw [sameBroker]
        exact once.unpublished task present instruction before
      | inr changed =>
        obtain ⟨node, rfl, new⟩ := changed
        refine ⟨once.unclaimed _ (le_of_eq new.symm), ?_⟩
        rintro message sent same
        have old : message.instruction.commandId < world.commands.length :=
          numbered.broker message (by simpa [perform] using sent)
        omega
  · refine List.pairwise_append.mpr ⟨once.distinct.sublist List.erase_sublist, ?_, ?_⟩
    · refine (perform_requests config world task outcome).imp ?_
      rintro left right (quiet | quiet) mine yours asked answered
      · rw [quiet] at asked; cases asked
      · rw [quiet] at answered; cases answered
    · intro other kept following follows mine yours asked answered
      cases perform_request config world task outcome following follows yours answered with
      | inl changed =>
        obtain ⟨before, _⟩ := changed
        exact (apart_others once present kept yours mine before asked).symm
      | inr changed =>
        obtain ⟨node, rfl, new⟩ := changed
        have old := numbered.copies other (List.mem_of_mem_erase kept) mine (request_copy asked)
        omega

/-- Publishing at most once is an invariant. -/
theorem once_step (numbered : Numbered world) (once : OncePublished world)
    (moved : step config world action = some next) : OncePublished next := by
  cases step_transition moved with
  | tick elapsed =>
    refine ⟨?_, once.outlived, once.unclaimed, once.unpublished, once.distinct⟩
    intro message member
    have stamped := once.stamped message member
    show message.ts ≤ world.now + elapsed
    omega
  | socket action connected =>
    exact ⟨once.stamped, once.outlived, once.unclaimed, once.unpublished, once.distinct⟩
  | arrival action task arrives => exact once_spawn once (arrival_request arrives)
  | claim node message present timely fresh =>
    refine once_spawn ⟨once.stamped, ?_, ?_, ?_, once.distinct⟩ rfl
    · intro other member claim claimed
      by_cases same : other.instruction.commandId = message.instruction.commandId
      · have stamped := once.stamped other member
        simp only [same, Function.update_self] at claimed
        obtain rfl := Option.some.inj claimed
        simp only [MQTT_MAX_TIMESTAMP_DRIFT_MS, MQTT_NONCE_TTL_SECONDS]
        omega
      · simp only [Function.update_of_ne same] at claimed
        exact once.outlived other member claim claimed
    · intro commandId new
      have old := numbered.broker message present
      have different : commandId ≠ message.instruction.commandId := by
        simp only at new
        omega
      simp only [Function.update_of_ne different]
      exact once.unclaimed commandId new
    · intro task member instruction asked
      obtain ⟨free, silent⟩ := once.unpublished task member instruction asked
      refine ⟨?_, silent⟩
      simp only [Function.update_of_ne (silent message present).symm]
      exact free
  | lost message =>
    refine ⟨fun other member => once.stamped other (List.mem_of_mem_erase member),
      fun other member => once.outlived other (List.mem_of_mem_erase member), once.unclaimed, ?_,
      once.distinct⟩
    intro task member instruction asked
    obtain ⟨free, silent⟩ := once.unpublished task member instruction asked
    exact ⟨free, fun other kept => silent other (List.mem_of_mem_erase kept)⟩
  | proceed task outcome present => exact once_continued numbered once present
  | abandon task =>
    exact ⟨once.stamped, once.outlived, once.unclaimed,
      fun other member => once.unpublished other (List.mem_of_mem_erase member),
      once.distinct.sublist List.erase_sublist⟩

section Tick

variable {instruction : Instruction} {elapsed : Nat}

/-- What is queued later was queued. -/
theorem queued_tick (queued : Queued { world with now := world.now + elapsed } instruction) :
    Queued world instruction := by
  refine read_alive_earlier ?_ queued
  show world.now ≤ world.now + elapsed
  omega

/-- What is sent later was sent. -/
theorem sent_tick (sent : Sent { world with now := world.now + elapsed } instruction) :
    Sent world instruction := by
  obtain ⟨message, member, same, timely, free⟩ := sent
  refine ⟨message, member, same, ?_, free⟩
  have later : world.now + elapsed - message.ts ≤ MQTT_MAX_TIMESTAMP_DRIFT_MS := timely
  omega

end Tick

/-- A node accepts only messages that were still deliverable. -/
theorem deliverable_of_accepted (once : OncePublished world) {message : Downlink}
    (present : message ∈ world.broker)
    (timely : |world.now - message.ts| ≤ MQTT_MAX_TIMESTAMP_DRIFT_MS)
    (fresh : read (world.nonces message.instruction.commandId) world.now = none) :
    Deliverable world message := by
  have recent := (abs_le.mp timely).2
  refine ⟨recent, ?_⟩
  cases claimed : world.nonces message.instruction.commandId with
  | none => rfl
  | some claim =>
    have outlived := once.outlived message present claim claimed
    have alive : world.now < claim.expiresAt := by omega
    rw [claimed] at fresh
    simp [Expiring.read, alive] at fresh

section Continued

variable {task : Task} {outcome : Outcome} {instruction : Instruction}

/-- A copy held after a step was held before or is taken by it. -/
theorem held_continued (present : task ∈ world.tasks)
    (held : Held (world.continued config task outcome) instruction) :
    Held world instruction ∨
      ∃ node, task = .creating node instruction.type ∧
        instruction.commandId = world.commands.length := by
  obtain ⟨other, member, copied⟩ := held
  cases mem_continued member with
  | inl kept => exact Or.inl ⟨other, kept, copied⟩
  | inr follows =>
    cases perform_copy config world task outcome other follows instruction copied with
    | inl before => exact Or.inl ⟨task, present, before⟩
    | inr created => exact Or.inr created

/-- What can be read from the pending key was there before, and the task has not
deleted it, or the task has put it there. -/
theorem queued_continued (queued : Queued (world.continued config task outcome) instruction) :
    (Queued world instruction ∧ ∀ flushed, task ≠ .unqueueing flushed) ∨
      task = .queueing instruction := by
  simp only [Queued, World.continued, perform_now] at queued
  rcases perform_pending config world task outcome with
    same | ⟨_, _, deleted⟩ | ⟨written, rfl, stored⟩
  · rw [same] at queued
    refine Or.inl ⟨queued, ?_⟩
    rintro flushed rfl
    have emptied : world.pending = none := same.symm
    simp [emptied] at queued
  · rw [deleted] at queued
    cases queued
  · rw [stored] at queued
    obtain ⟨entry, present, _, rfl⟩ := (read_eq_some_iff _ _ _).mp queued
    obtain rfl := Option.some.inj present
    exact Or.inr rfl

/-- A copy sent after a step was sent before or by it. -/
theorem sent_continued (sent : Sent (world.continued config task outcome) instruction) :
    Sent world instruction ∨ task = .publishing instruction := by
  obtain ⟨message, member, same, timely, free⟩ := sent
  simp only [World.continued, perform_now, perform_nonces] at member timely free
  cases perform_broker config world task outcome with
  | inl unchanged =>
    rw [unchanged] at member
    exact Or.inl ⟨message, member, same, timely, free⟩
  | inr changed =>
    obtain ⟨published, rfl, appended⟩ := changed
    rw [appended] at member
    cases List.mem_append.mp member with
    | inl before => exact Or.inl ⟨message, before, same, timely, free⟩
    | inr added =>
      obtain rfl := List.mem_singleton.mp added
      exact Or.inr (congrArg Task.publishing same)

end Continued

/-- A claimed copy was in the broker, and its claim takes no other copy away. -/
theorem sent_claim {message : Downlink} {claim : Cell Unit} {instruction : Instruction}
    (claimed : claim ≠ none)
    (sent : Sent
      { world with
        nonces := Function.update world.nonces message.instruction.commandId claim } instruction) :
    Sent world instruction := by
  obtain ⟨other, member, same, recent, free⟩ := sent
  have different : other.instruction.commandId ≠ message.instruction.commandId := by
    intro equal
    simp [equal, claimed] at free
  refine ⟨other, member, same, recent, ?_⟩
  simpa [Function.update_of_ne different] using free

/-- Copies only come from copies, apart from the creation of a command. -/
theorem waiting_step (once : OncePublished world) (moved : step config world action = some next)
    {instruction : Instruction} (waiting : Waiting next instruction) :
    Waiting world instruction ∨ instruction.commandId = world.commands.length := by
  cases step_transition moved with
  | tick elapsed =>
    rcases waiting with held | queued | sent
    · exact Or.inl (Or.inl held)
    · exact Or.inl (Or.inr (Or.inl (queued_tick queued)))
    · exact Or.inl (Or.inr (Or.inr (sent_tick sent)))
  | socket action connected => exact Or.inl waiting
  | arrival action task arrives =>
    cases waiting with
    | inl changed =>
      obtain ⟨other, member, held⟩ := changed
      cases List.mem_append.mp member with
      | inl kept => exact Or.inl (Or.inl ⟨other, kept, held⟩)
      | inr added =>
        obtain rfl := List.mem_singleton.mp added
        exact Or.inl (Or.inr (Or.inl (arrival_copy arrives held)))
    | inr elsewhere => exact Or.inl (Or.inr elsewhere)
  | claim node message present timely fresh =>
    rcases waiting with ⟨other, member, held⟩ | queued | sent
    · cases List.mem_append.mp member with
      | inl kept => exact Or.inl (Or.inl ⟨other, kept, held⟩)
      | inr added =>
        obtain rfl := List.mem_singleton.mp added
        obtain rfl := Option.some.inj held
        exact Or.inl (Or.inr (Or.inr
          ⟨message, present, rfl, deliverable_of_accepted once present timely fresh⟩))
    · exact Or.inl (Or.inr (Or.inl queued))
    · exact Or.inl (Or.inr (Or.inr (sent_claim (Option.some_ne_none _) sent)))
  | lost message =>
    rcases waiting with held | queued | ⟨other, member, rest⟩
    · exact Or.inl (Or.inl held)
    · exact Or.inl (Or.inr (Or.inl queued))
    · exact Or.inl (Or.inr (Or.inr ⟨other, List.mem_of_mem_erase member, rest⟩))
  | proceed task outcome present =>
    rcases waiting with held | queued | sent
    · cases held_continued present held with
      | inl before => exact Or.inl (Or.inl before)
      | inr changed =>
        obtain ⟨_, _, created⟩ := changed
        exact Or.inr created
    · cases queued_continued queued with
      | inl changed =>
        obtain ⟨before, _⟩ := changed
        exact Or.inl (Or.inr (Or.inl before))
      | inr same =>
        obtain rfl := same
        exact Or.inl (Or.inl ⟨_, present, rfl⟩)
    · cases sent_continued sent with
      | inl before => exact Or.inl (Or.inr (Or.inr before))
      | inr same =>
        obtain rfl := same
        exact Or.inl (Or.inl ⟨_, present, rfl⟩)
  | abandon task =>
    cases waiting with
    | inl changed =>
      obtain ⟨other, member, held⟩ := changed
      exact Or.inl (Or.inl ⟨other, List.mem_of_mem_erase member, held⟩)
    | inr elsewhere => exact Or.inl (Or.inr elsewhere)

/-- Everything written to the tracker comes from a task that holds a copy. -/
theorem wire_step (moved : step config world action = some next) :
    next.wire = world.wire ∨
      ∃ task ∈ world.tasks, ∃ outcome instruction, action = .proceed task outcome ∧
        task.transmits world = some instruction ∧ next.wire = world.wire ++ [instruction] := by
  cases step_transition moved with
  | proceed task outcome present =>
    cases perform_wire config world task outcome with
    | inl same => exact Or.inl same
    | inr changed =>
      obtain ⟨written, transmits, appended⟩ := changed
      exact Or.inr ⟨task, present, outcome, written, rfl, transmits, appended⟩
  | _ => exact Or.inl rfl

/-- Rows change only by creation and by the updates that tasks make. -/
theorem commands_step (moved : step config world action = some next) :
    next.commands = world.commands ∨
      (∃ type, next.commands = world.commands ++ [newCommand config world.now type] ∧
        next.now = world.now) ∨
      ∃ task ∈ world.tasks, ∃ (outcome : Outcome) (commandId : Nat) (update : RowUpdate),
        action = .proceed task outcome ∧ task.writes = some (commandId, update) ∧
          next.commands = world.commands.modify commandId (update.apply world.now) := by
  cases step_transition moved with
  | proceed task outcome present =>
    rcases perform_commands config world task outcome with
      same | ⟨node, type, _, appended⟩ | ⟨commandId, update, writes, modified⟩
    · exact Or.inl same
    · exact Or.inr (Or.inl ⟨type, appended, perform_now config world task outcome⟩)
    · exact Or.inr (Or.inr ⟨task, present, outcome, commandId, update, rfl, writes, modified⟩)
  | _ => exact Or.inl rfl

/-- A command created by the step has just begun. -/
theorem created_row (moved : step config world action = some next) {row : DeviceCommand}
    (created : next.commands[world.commands.length]? = some row) :
    isTerminalStatus row.status = false ∧ next.now ≤ row.expiresAt := by
  rcases commands_step moved with
    same | ⟨type, appended, sameNow⟩ | ⟨_, _, _, _, _, _, _, modified⟩
  · simp [same] at created
  · have begun : newCommand config world.now type = row := by simpa [appended] using created
    subst begun
    have positive := config.ttlInRange.1
    refine ⟨rfl, ?_⟩
    simp only [newCommand, sameNow]
    omega
  · simp [modified] at created

/-- Where a row of the next state comes from. -/
inductive RowOrigin (world : World) (action : Action) (next : World) (commandId : Nat)
    (after : DeviceCommand) : Prop
  | kept (found : world.commands[commandId]? = some after)
  | created (opened : isTerminalStatus after.status = false) (alive : next.now ≤ after.expiresAt)
  | updated (task : Task) (outcome : Outcome) (update : RowUpdate) (row : DeviceCommand)
    (taken : action = .proceed task outcome) (writes : task.writes = some (commandId, update))
    (found : world.commands[commandId]? = some row) (result : update.apply world.now row = after)

/-- Where a command's row comes from after a step. -/
theorem row_step (moved : step config world action = some next) {commandId : Nat}
    {after : DeviceCommand} (later : next.commands[commandId]? = some after) :
    RowOrigin world action next commandId after := by
  rcases commands_step moved with
    same | ⟨type, appended, _⟩ | ⟨task, _, outcome, written, update, taken, writes, modified⟩
  · exact .kept (by rw [← same]; exact later)
  · by_cases stored : commandId < world.commands.length
    · rw [appended, List.getElem?_append_left stored] at later
      exact .kept later
    · have last : commandId = world.commands.length := by
        have most := (List.getElem?_eq_some_iff.mp later).1
        simp only [appended, List.length_append, List.length_singleton] at most
        omega
      subst last
      obtain ⟨opened, alive⟩ := created_row moved later
      exact .created opened alive
  · rw [modified, List.getElem?_modify] at later
    obtain ⟨row, found, changed⟩ := Option.map_eq_some_iff.mp later
    by_cases same : written = commandId
    · subst same
      rw [if_pos rfl] at changed
      exact .updated task outcome update row taken writes found changed
    · rw [if_neg same] at changed
      exact .kept (by rw [found]; exact congrArg some changed)

/-- The task's next step gives the command a final status that it does not have yet. -/
def Finalizes (world : World) (task : Task) (commandId : Nat) : Prop :=
  ∃ update row, task.writes = some (commandId, update) ∧
    world.commands[commandId]? = some row ∧ isTerminalStatus row.status = false ∧
    isTerminalStatus (update.apply world.now row).status = true

/-- Only the last step of a task makes a status final, unless the write fails. -/
theorem finalizes_last {task : Task} {commandId : Nat} (finalizes : Finalizes world task commandId)
    (outcome : Outcome) :
    ((perform config world task outcome).2 = [] ∧
        (perform config world task outcome).1.pending = world.pending) ∨
      (perform config world task outcome).1.commands = world.commands := by
  obtain ⟨update, row, writes, _, opened, final⟩ := finalizes
  cases task with
  | recording recorded change =>
    cases outcome with
    | failed reason => exact Or.inr rfl
    | succeeded | unconfirmed => exact Or.inl ⟨rfl, rfl⟩
  | settlingText instruction =>
    cases outcome with
    | failed reason => exact Or.inr rfl
    | succeeded | unconfirmed => exact Or.inl ⟨rfl, rfl⟩
  | confirmingText instruction =>
    obtain ⟨rfl, rfl⟩ := Prod.mk.inj (Option.some.inj writes)
    have same : (RowUpdate.smsRecorded.apply world.now row).status = row.status := rfl
    rw [same, opened] at final
    cases final
  | _ => cases writes

/-- A status that is final only after the step is made final by a task. -/
theorem finalizes_step (moved : step config world action = some next) {commandId : Nat}
    {after : DeviceCommand} (later : next.commands[commandId]? = some after)
    (final : isTerminalStatus after.status = true)
    (opened : ∀ row, world.commands[commandId]? = some row → isTerminalStatus row.status = false) :
    ∃ task outcome, action = .proceed task outcome ∧ Finalizes world task commandId := by
  cases row_step moved later with
  | kept found => simp [opened after found] at final
  | created begun alive => simp [begun] at final
  | updated task outcome update row taken writes found result =>
    exact ⟨task, outcome, taken, update, row, writes, found, opened row found, result ▸ final⟩

/-- The state of the system before the first command of the device. -/
structure Fresh (world : World) : Prop where
  noCommands : world.commands = []
  noTasks : world.tasks = []
  noPending : world.pending = none
  noBroker : world.broker = []
  noNonces : ∀ commandId, world.nonces commandId = none
  noWire : world.wire = []

/-- The world of the example is fresh. -/
theorem idleWorld_fresh : Fresh idleWorld := by
  constructor <;> simp [idleWorld]

/-- The two invariants that every run keeps. -/
structure Sound (world : World) : Prop where
  numbered : Numbered world
  once : OncePublished world

/-- A fresh world is sound. -/
theorem sound_fresh (fresh : Fresh world) : Sound world where
  numbered := by
    constructor <;> simp [fresh.noTasks, fresh.noPending, fresh.noBroker, fresh.noWire]
  once := by
    constructor <;> simp [fresh.noTasks, fresh.noBroker, fresh.noNonces, fresh.noCommands]

/-- Every step keeps the world sound. -/
theorem sound_step (sound : Sound world) (moved : step config world action = some next) :
    Sound next :=
  ⟨numbered_step sound.numbered moved, once_step sound.numbered sound.once moved⟩

/-- A step that writes to the tracker writes an instruction that was waiting. -/
theorem written_waiting (moved : step config world action = some next) {instruction : Instruction}
    (written : next.wire = world.wire ++ [instruction]) : Waiting world instruction := by
  cases wire_step moved with
  | inl same =>
    rw [written] at same
    simp at same
  | inr changed =>
    obtain ⟨task, present, _, sent, _, transmits, appended⟩ := changed
    obtain rfl : sent = instruction := by simpa using appended.symm.trans written
    exact Or.inl ⟨task, present, transmits_copy transmits⟩

end EmotoFleet.Dispatch
