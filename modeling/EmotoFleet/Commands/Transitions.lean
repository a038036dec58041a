import EmotoFleet.Commands.Dispatch

/-!
# What a step can do

Every property of runs is derived from the classification of steps given here.
A step either changes the environment, creates one task for something that
arrived, claims a delivered command, or lets a task go on. For tasks, one lemma
for each part of the shared state says how the task's step affects it.
-/

namespace EmotoFleet.Dispatch

open Expiring LiveState TheftRules Ingestion DeviceCommands

section Perform

variable (config : Config) (world : World) (task : Task) (outcome : Outcome)

/-- Transmitting takes no time. -/
@[simp] theorem transmit_now (node : Nat) (instruction : Instruction) :
    (world.transmit node instruction).now = world.now := by
  unfold World.transmit; split <;> rfl

/-- Transmitting draws no nonce. -/
@[simp] theorem transmit_nonces (node : Nat) (instruction : Instruction) :
    (world.transmit node instruction).nonces = world.nonces := by
  unfold World.transmit; split <;> rfl

/-- Transmitting leaves the pending copies. -/
@[simp] theorem transmit_pending (node : Nat) (instruction : Instruction) :
    (world.transmit node instruction).pending = world.pending := by
  unfold World.transmit; split <;> rfl

/-- Transmitting leaves the broker. -/
@[simp] theorem transmit_broker (node : Nat) (instruction : Instruction) :
    (world.transmit node instruction).broker = world.broker := by
  unfold World.transmit; split <;> rfl

/-- Transmitting leaves the rows. -/
@[simp] theorem transmit_commands (node : Nat) (instruction : Instruction) :
    (world.transmit node instruction).commands = world.commands := by
  unfold World.transmit; split <;> rfl

/-- Transmitting leaves the live states. -/
@[simp] theorem transmit_liveState (node : Nat) (instruction : Instruction) :
    (world.transmit node instruction).liveState = world.liveState := by
  unfold World.transmit; split <;> rfl

/-- Transmitting leaves the telemetry. -/
@[simp] theorem transmit_telemetry (node : Nat) (instruction : Instruction) :
    (world.transmit node instruction).telemetry = world.telemetry := by
  unfold World.transmit; split <;> rfl

/-- Unfolds the step of a task and splits on what it depends on. -/
theorem perform_now : (perform config world task outcome).1.now = world.now := by
  unfold perform
  split <;> (repeat' split) <;> simp [World.update]

end Perform

/-- The instruction that a task may still write to the tracker, itself or through
the tasks that follow it. -/
def Task.copy : Task → Option Instruction
  | .dispatching _ instruction | .queueing instruction | .texting instruction
  | .confirmingText instruction | .settlingText instruction | .publishing instruction
  | .flushing _ instruction | .delivering _ instruction =>
    some instruction
  | _ => none

/-- The instruction that a task's next step writes to the tracker. -/
def Task.transmits (world : World) : Task → Option Instruction
  | .dispatching node instruction | .flushing node instruction | .delivering node instruction =>
    if world.connected node then some instruction else none
  | _ => none

/-- What a task transmits is its copy. -/
theorem transmits_copy {world : World} {task : Task} {instruction : Instruction}
    (transmits : task.transmits world = some instruction) : task.copy = some instruction := by
  cases task with
  | dispatching node held | flushing node held | delivering node held =>
    simp only [Task.transmits] at transmits
    split at transmits
    · exact transmits
    · cases transmits
  | _ => cases transmits

/-- The commands whose rows a task may still update, itself or through the tasks
that follow it. -/
def Task.updates : Task → List Nat
  | .dispatching _ instruction | .queueing instruction | .texting instruction
  | .confirmingText instruction | .settlingText instruction | .publishing instruction
  | .flushing _ instruction | .unqueueing instruction => [instruction.commandId]
  | .recording commandId _ => [commandId]
  | .sweeping _ rows => rows.map Prod.fst
  | _ => []

/-- The update that a task's next step makes to a row. -/
def Task.writes : Task → Option (Nat × RowUpdate)
  | .confirmingText instruction => some (instruction.commandId, .smsRecorded)
  | .settlingText instruction => some (instruction.commandId, .texted)
  | .recording commandId update => some (commandId, update)
  | _ => none

/-- A row that a task writes is one that it may write. -/
theorem writes_updates {task : Task} {commandId : Nat} {update : RowUpdate}
    (writes : task.writes = some (commandId, update)) : commandId ∈ task.updates := by
  cases task with
  | confirmingText instruction | settlingText instruction =>
    obtain ⟨rfl, rfl⟩ := Prod.mk.inj (Option.some.inj writes)
    exact List.mem_singleton_self _
  | recording recorded change =>
    obtain ⟨rfl, rfl⟩ := Prod.mk.inj (Option.some.inj writes)
    exact List.mem_singleton_self _
  | _ => cases writes

/-- The instruction of a request that has not been published yet. -/
def Task.request : Task → Option Instruction
  | .dispatching _ instruction | .queueing instruction | .texting instruction
  | .confirmingText instruction | .settlingText instruction | .publishing instruction =>
    some instruction
  | _ => none

variable (config : Config)

/-- The tasks that arrivals create, with what is known at that moment. -/
inductive Arrival (world : World) : Action → Task → Prop
  | request (node : Nat) (type : DeviceCommandType) :
    Arrival world (.requestArrives node type)
      (.checking node type (loadLatestState world.liveState world.now))
  | telemetry (payload : TelemetryPayload) :
    Arrival world (.telemetryArrives payload) (.storing (filtered config world payload))
  | heartbeat (ts : Timestamp) (cached : LiveBikeState)
    (found : read world.liveState world.now = some cached) :
    Arrival world (.heartbeatArrives ts) (.caching { cached with ts := ts })
  | packet (node : Nat) (instruction : Instruction)
    (queued : read world.pending world.now = some instruction) :
    Arrival world (.packetArrives node) (.flushing node instruction)
  | ack (commandId : Nat) (ts : Int) (failure : Option (Option String)) (row : DeviceCommand)
    (found : world.commands[commandId]? = some row)
    (opened : isTerminalStatus row.status = false) :
    Arrival world (.ackArrives commandId ts failure)
      (.recording commandId (ackUpdate row ts failure))
  | tcpAck (commandId : Nat)
    (latest : latestOpenCommand world.commands world.now = some commandId) :
    Arrival world .tcpAckArrives (.recording commandId .tcpAcknowledged)
  | sweep (rows : List Nat) (expired : ∀ commandId ∈ rows, stale world commandId = true) :
    Arrival world (.sweepStarts rows)
      (.sweeping world.now (rows.map fun commandId =>
        (commandId, world.commands[commandId]?.any (·.smsFallbackDispatched))))

/-- The state after a task's step, with the tasks that follow in its place. -/
def World.continued (world : World) (task : Task) (outcome : Outcome) : World :=
  { (perform config world task outcome).1 with
    tasks := world.tasks.erase task ++ (perform config world task outcome).2 }

/-- The steps of the system. -/
inductive Transition (world : World) : Action → World → Prop
  | tick (elapsed : Nat) :
    Transition world (.tick elapsed) { world with now := world.now + elapsed }
  | socket (action : Action) (connected : Nat → Bool) :
    Transition world action { world with connected := connected }
  | arrival (action : Action) (task : Task) (arrives : Arrival config world action task) :
    Transition world action (world.spawn task)
  | claim (node : Nat) (message : Downlink) (present : message ∈ world.broker)
    (timely : |world.now - message.ts| ≤ MQTT_MAX_TIMESTAMP_DRIFT_MS)
    (fresh : read (world.nonces message.instruction.commandId) world.now = none) :
    Transition world (.commandDelivered node message)
      (World.spawn
        { world with
          nonces := Function.update world.nonces message.instruction.commandId
            (write () world.now (MQTT_NONCE_TTL_SECONDS * 1000)) }
        (.delivering node message.instruction))
  | lost (message : Downlink) :
    Transition world (.messageLost message)
      { world with broker := world.broker.erase message }
  | proceed (task : Task) (outcome : Outcome) (present : task ∈ world.tasks) :
    Transition world (.proceed task outcome) (world.continued config task outcome)
  | abandon (task : Task) :
    Transition world (.abandon task) { world with tasks := world.tasks.erase task }

variable {config} {world next : World} {action : Action}

/-- A step that changes nothing counts as one that leaves the sockets alone. -/
theorem transition_idle (action : Action) : Transition config world action world :=
  .socket action world.connected

/-- An open task can always go on. -/
theorem step_proceed (config : Config) {task : Task} (outcome : Outcome)
    (present : task ∈ world.tasks) :
    step config world (.proceed task outcome) = some (world.continued config task outcome) :=
  if_pos present

/-- A task goes on with its outcome. -/
theorem proceed_step {task : Task} {outcome : Outcome}
    (moved : step config world (.proceed task outcome) = some next) :
    next = world.continued config task outcome := by
  simp only [step] at moved
  split at moved
  · exact (Option.some.inj moved).symm
  · cases moved

/-- Every step is a transition. -/
theorem step_transition (moved : step config world action = some next) :
    Transition config world action next := by
  cases action with
  | tick elapsed =>
    obtain rfl := Option.some.inj moved
    exact .tick elapsed
  | connect node =>
    obtain rfl := Option.some.inj moved
    exact .socket _ _
  | disconnect node =>
    obtain rfl := Option.some.inj moved
    exact .socket _ _
  | requestArrives node type =>
    obtain rfl := Option.some.inj moved
    exact .arrival _ _ (.request node type)
  | telemetryArrives payload =>
    obtain rfl := Option.some.inj moved
    exact .arrival _ _ (.telemetry payload)
  | heartbeatArrives ts =>
    simp only [step] at moved
    split at moved
    · obtain rfl := Option.some.inj moved
      exact transition_idle _
    · rename_i cached found
      obtain rfl := Option.some.inj moved
      exact .arrival _ _ (.heartbeat ts cached found)
  | packetArrives node =>
    simp only [step] at moved
    split at moved
    · split at moved
      · obtain rfl := Option.some.inj moved
        exact transition_idle _
      · rename_i instruction queued
        obtain rfl := Option.some.inj moved
        exact .arrival _ _ (.packet node instruction queued)
    · cases moved
  | commandDelivered node message =>
    simp only [step] at moved
    split at moved
    · rename_i accepted
      obtain rfl := Option.some.inj moved
      exact .claim node message accepted.1 accepted.2.2.1 accepted.2.2.2
    · cases moved
  | messageLost message =>
    simp only [step] at moved
    split at moved
    · obtain rfl := Option.some.inj moved
      exact .lost message
    · cases moved
  | ackArrives commandId ts failure =>
    simp only [step] at moved
    split at moved
    · obtain rfl := Option.some.inj moved
      exact transition_idle _
    · rename_i row found
      split at moved
      · obtain rfl := Option.some.inj moved
        exact transition_idle _
      · rename_i opened
        obtain rfl := Option.some.inj moved
        exact .arrival _ _ (.ack commandId ts failure row found (by simpa using opened))
  | tcpAckArrives =>
    simp only [step] at moved
    split at moved
    · obtain rfl := Option.some.inj moved
      exact transition_idle _
    · rename_i commandId latest
      obtain rfl := Option.some.inj moved
      exact .arrival _ _ (.tcpAck commandId latest)
  | sweepStarts rows =>
    simp only [step] at moved
    split at moved
    · rename_i found
      obtain rfl := Option.some.inj moved
      exact .arrival _ _ (.sweep rows (by simpa using found.2.2))
    · cases moved
  | proceed task outcome =>
    simp only [step] at moved
    split at moved
    · rename_i present
      obtain rfl := Option.some.inj moved
      exact .proceed task outcome present
    · cases moved
  | abandon task =>
    simp only [step] at moved
    split at moved
    · obtain rfl := Option.some.inj moved
      exact .abandon task
    · cases moved

section Perform

variable (config) (world) (task : Task) (outcome : Outcome)

/-- Transmitting writes to the wire where the device is connected. -/
theorem transmit_wire (node : Nat) (instruction : Instruction) :
    (world.transmit node instruction).wire = world.wire ∨
      ∃ written, (if world.connected node then some instruction else none) = some written ∧
        (world.transmit node instruction).wire = world.wire ++ [written] := by
  unfold World.transmit
  split
  · exact Or.inr ⟨instruction, rfl, rfl⟩
  · exact Or.inl rfl

/-- A task draws no nonce. -/
theorem perform_nonces : (perform config world task outcome).1.nonces = world.nonces := by
  unfold perform
  split <;> (repeat' split) <;> simp [World.update]

/-- The pending key is written by a request that could not reach a socket and
deleted after a flush. -/
theorem perform_pending :
    (perform config world task outcome).1.pending = world.pending ∨
      (∃ instruction, task = .unqueueing instruction ∧
        (perform config world task outcome).1.pending = none) ∨
      ∃ instruction, task = .queueing instruction ∧
        (perform config world task outcome).1.pending =
          write instruction world.now (PENDING_COMMAND_TTL_SECONDS * 1000) := by
  unfold perform
  split <;> (repeat' split) <;> simp_all [World.update]

/-- Only publishing adds to the broker. -/
theorem perform_broker :
    (perform config world task outcome).1.broker = world.broker ∨
      ∃ instruction, task = .publishing instruction ∧
        (perform config world task outcome).1.broker = world.broker ++ [⟨instruction, world.now⟩] := by
  unfold perform
  split <;> (repeat' split) <;> simp_all [World.update]

/-- Only transmitting adds to the wire. -/
theorem perform_wire :
    (perform config world task outcome).1.wire = world.wire ∨
      ∃ instruction, task.transmits world = some instruction ∧
        (perform config world task outcome).1.wire = world.wire ++ [instruction] := by
  unfold perform
  split <;> (repeat' split) <;>
    first
    | exact Or.inl rfl
    | exact transmit_wire ..

/-- Rows are appended by requests and otherwise only updated. -/
theorem perform_commands :
    (perform config world task outcome).1.commands = world.commands ∨
      (∃ node type, task = .creating node type ∧
        (perform config world task outcome).1.commands =
          world.commands ++ [newCommand config world.now type]) ∨
      ∃ (commandId : Nat) (update : RowUpdate), task.writes = some (commandId, update) ∧
        (perform config world task outcome).1.commands =
          world.commands.modify commandId (update.apply world.now) := by
  unfold perform
  split <;> (repeat' split) <;>
    first
    | exact Or.inl rfl
    | exact Or.inl (transmit_commands ..)
    | exact Or.inr (Or.inl ⟨_, _, rfl, rfl⟩)
    | exact Or.inr (Or.inr ⟨_, _, rfl, rfl⟩)

/-- The live state changes only when a packet's state is cached. -/
theorem perform_liveState :
    (perform config world task outcome).1.liveState = world.liveState ∨
      ∃ state, task = .caching state := by
  unfold perform
  split <;> (repeat' split) <;> simp_all [World.update]

/-- The stored points change only when a packet is stored. -/
theorem perform_telemetry :
    (perform config world task outcome).1.telemetry = world.telemetry ∨
      ∃ payload, task = .storing payload := by
  unfold perform
  split <;> (repeat' split) <;> simp_all [World.update]

variable {config} in
/-- After a failed update its row is written once more. -/
theorem afterFailure_recording {commandId : Nat} {reason : String} {update : RowUpdate}
    {following : Task} (listed : following ∈ afterFailure config commandId reason update) :
    ∃ other, following = .recording commandId other := by
  unfold afterFailure at listed
  split at listed
  case h_1 => exact ⟨_, List.mem_singleton.mp listed⟩
  case h_2 => exact ⟨_, List.mem_singleton.mp listed⟩
  case h_3 => cases listed

/-- A copy held by a task that follows was held before, or is of the command just
created. -/
theorem perform_copy :
    ∀ following ∈ (perform config world task outcome).2, ∀ instruction,
      following.copy = some instruction →
        task.copy = some instruction ∨
          ∃ node, task = .creating node instruction.type ∧
            instruction.commandId = world.commands.length := by
  unfold perform
  split <;> (repeat' split) <;> (try simp [Task.copy])
  all_goals
    intro following listed
    obtain ⟨_, rfl⟩ := afterFailure_recording listed
    exact fun _ held => by cases held

/-- A row that a following task may update could be updated before, or was just
created. -/
theorem perform_updates :
    ∀ following ∈ (perform config world task outcome).2, ∀ commandId ∈ following.updates,
      commandId ∈ task.updates ∨
        ∃ node type, task = .creating node type ∧ commandId = world.commands.length := by
  unfold perform
  split <;> (repeat' split) <;> simp [Task.updates]
  all_goals first
    | exact fun _ remaining => Or.inr remaining
    | intro following listed
      obtain ⟨_, rfl⟩ := afterFailure_recording listed
      simp

/-- An unpublished request goes on as at most one task. Publishing ends it. -/
theorem perform_request :
    ∀ following ∈ (perform config world task outcome).2, ∀ instruction,
      following.request = some instruction →
        (task.request = some instruction ∧
            (perform config world task outcome).1.broker = world.broker) ∨
          ∃ node, task = .creating node instruction.type ∧
            instruction.commandId = world.commands.length := by
  unfold perform
  split <;> (repeat' split) <;> (try simp [Task.request, World.update])
  all_goals
    intro following listed
    obtain ⟨_, rfl⟩ := afterFailure_recording listed
    exact fun _ held => by cases held

/-- A step starts one request at most. -/
theorem perform_requests :
    (perform config world task outcome).2.Pairwise fun left right =>
      left.request = none ∨ right.request = none := by
  unfold perform
  split <;> (repeat' split) <;> (try simp [Task.request])
  all_goals
    apply List.pairwise_of_forall_mem_list
    intro left listed _ _
    obtain ⟨_, rfl⟩ := afterFailure_recording listed
    exact Or.inl rfl

end Perform

end EmotoFleet.Dispatch
