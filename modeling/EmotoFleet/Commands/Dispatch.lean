import EmotoFleet.Commands.DeviceCommands
import EmotoFleet.Foundations.Runs
import EmotoFleet.Foundations.WhiteSpace

/-!
# Sending commands to a tracker

Several processes work on the commands of one device: the API nodes that accept
requests, the node on whose socket the tracker is connected, the consumers of
acknowledgements and the expiry sweeper. They share the database, the cache and
the message broker, and each of their accesses is one step here. What a process
still has to do is a task; any task may go next.

A request reads the live state, checks the guard and the debounce window,
creates the row and tries the local socket. Failing that, it queues the command
under the device's pending key, tries a text message, and otherwise publishes to
the broker. Every packet that arrives on a socket looks at the pending key. A
published command is delivered to the nodes any number of times, and its nonce
is accepted once; nodes without the tracker ignore it, and it may be lost.

Packets of one socket are handled in sequence by the source; here they overlap
freely, as those of an old and a new socket do. The sweeper's rows likewise.

A write to the database takes effect and is confirmed, or it fails. Where the
source catches the error the task goes on another way: a text message that was
sent but could not be recorded does not keep the command from being published,
and where the status could not be written after a publication or after a text of
the sweeper, that of a failure is. Any other failed access abandons the task, and
so does a stopped process. Signatures are taken to be valid.
-/

namespace EmotoFleet.Dispatch

open Expiring LiveState TheftRules Ingestion DeviceCommands
open WhiteSpace (trim)

def PENDING_COMMAND_TTL_SECONDS : Int := 600
def MQTT_NONCE_TTL_SECONDS : Int := 10 * 60

/-- The settings of the service and the device that the run is about. -/
structure Config where
  commandTtlSeconds : Int
  ttlInRange : 10 ≤ commandTtlSeconds ∧ commandTtlSeconds ≤ 600
  device : DeviceForIngestion
  bikeId : String
  simPhoneNumber : Option String
  mqttDisabled : Bool
  calculateHaversineDistanceMeters : ℚ → ℚ → ℚ → ℚ → ℚ

/-- A published command: the broker keeps the instruction and the time of its
publication. The nonce is the command's own. -/
structure Downlink where
  instruction : Instruction
  ts : Int
deriving DecidableEq

/-- What one of the processes still has to do. -/
inductive Task where
  | checking (node : Nat) (type : DeviceCommandType) (state : Option LiveStateSnapshot)
  | debouncing (node : Nat) (type : DeviceCommandType)
  | creating (node : Nat) (type : DeviceCommandType)
  | dispatching (node : Nat) (instruction : Instruction)
  | queueing (instruction : Instruction)
  | texting (instruction : Instruction)
  | confirmingText (instruction : Instruction)
  | settlingText (instruction : Instruction)
  | publishing (instruction : Instruction)
  | flushing (node : Nat) (instruction : Instruction)
  | unqueueing (instruction : Instruction)
  | delivering (node : Nat) (instruction : Instruction)
  | recording (commandId : Nat) (update : RowUpdate)
  | sweeping (startedAt : Int) (rows : List (Nat × Bool))
  | storing (payload : TelemetryPayload)
  | caching (state : LiveBikeState)
deriving DecidableEq

/-- How an external call of a task ends. A publication may also reach the broker
although its confirmation does not arrive. -/
inductive Outcome where
  | succeeded
  | failed (reason : String)
  | unconfirmed (reason : String)
deriving DecidableEq

/-- The shared state: clock, cached live state, stored points, the nodes on which
the tracker is connected, the command rows, the pending key, the broker, the
nonce keys by command, the instructions written to the tracker so far in order,
and the open tasks. -/
structure World where
  now : Int
  liveState : Cell LiveBikeState
  telemetry : List TelemetryPoint
  connected : Nat → Bool
  commands : List DeviceCommand
  pending : Cell Instruction
  broker : List Downlink
  nonces : Nat → Cell Unit
  wire : List Instruction
  tasks : List Task

/-- An instruction reaches the tracker only through a socket that is still open. -/
def World.transmit (world : World) (node : Nat) (instruction : Instruction) : World :=
  if world.connected node then { world with wire := world.wire ++ [instruction] } else world

def World.update (world : World) (commandId : Nat) (update : RowUpdate) : World :=
  { world with commands := world.commands.modify commandId (update.apply world.now) }

/-- The debounce window: an open command of the same type created within ten
seconds. -/
def recentDuplicate (world : World) (type : DeviceCommandType) : Bool :=
  world.commands.any fun row =>
    row.type == type && !isTerminalStatus row.status && decide (world.now - 10000 ≤ row.createdAt)

def newCommand (config : Config) (now : Int) (type : DeviceCommandType) : DeviceCommand where
  type := type
  status := .PENDING
  createdAt := now
  expiresAt := now + config.commandTtlSeconds * 1000
  sentAt := none
  ackedAt := none
  errorMessage := none
  smsFallbackDispatched := false

/-- The newest open command that has not expired, which a raw acknowledgement of
the tracker is taken to be about. -/
def latestOpenCommand (commands : List DeviceCommand) (now : Int) : Option Nat :=
  (List.range commands.length).reverse.find? fun commandId =>
    commands[commandId]?.any fun row => !isTerminalStatus row.status && decide (now ≤ row.expiresAt)

/-- A row that the sweeper finds: open and expired. -/
def stale (world : World) (commandId : Nat) : Bool :=
  world.commands[commandId]?.any fun row =>
    !isTerminalStatus row.status && decide (row.expiresAt < world.now)

def expiryMsg (config : Config) (hasAttemptedSms : Bool) : String :=
  if hasAttemptedSms then
    s!"Command expired after {config.commandTtlSeconds * 2}s (Both TCP and SMS fallback unacknowledged)"
  else
    s!"Command expired after {config.commandTtlSeconds}s with no device acknowledgement (no SIM phone configured for SMS fallback)"

/-- What is still done about a row whose update failed, where the source catches it. -/
def afterFailure (config : Config) (commandId : Nat) (reason : String) : RowUpdate → List Task
  | .published none => [.recording commandId (.published (some reason))]
  | .sweptTexted _ => [.recording commandId (.sweptExpired (expiryMsg config false))]
  | _ => []

def liveStateOf (config : Config) (payload : TelemetryPayload) : LiveBikeState :=
  buildLiveBikeState config.device config.bikeId payload

def pointOf (payload : TelemetryPayload) : TelemetryPoint :=
  { ts := payload.ts.epochMs, lat := payload.lat, lng := payload.lng,
    speedKph := payload.speedKph, heading := payload.heading, batteryV := payload.batteryV,
    batteryPct := payload.batteryPct, ignition := payload.ignition }

variable (config : Config)

/-- One step of a task: what it does to the shared state, and the tasks that take
its place. -/
def perform (world : World) : Task → Outcome → World × List Task
  | .checking node type state, _ =>
    match type, assertSafeToLock world.telemetry world.now state with
    | .LOCK, .error _ => (world, [])
    | _, _ => (world, [.debouncing node type])
  | .debouncing node type, _ =>
    if recentDuplicate world type then (world, []) else (world, [.creating node type])
  | .creating node type, _ =>
    ({ world with commands := world.commands ++ [newCommand config world.now type] },
      [.dispatching node ⟨world.commands.length, type⟩])
  | .dispatching node instruction, _ =>
    if world.connected node then
      (world.transmit node instruction, [.recording instruction.commandId .dispatched])
    else (world, [.queueing instruction])
  | .queueing instruction, outcome =>
    let queued := match outcome with
      | .succeeded =>
        { world with
          pending := write instruction world.now (PENDING_COMMAND_TTL_SECONDS * 1000) }
      | _ => world
    if config.simPhoneNumber.any (· != "") then (queued, [.texting instruction])
    else (queued, [.publishing instruction])
  | .texting instruction, .succeeded => (world, [.confirmingText instruction])
  | .texting instruction, _ => (world, [.publishing instruction])
  | .confirmingText instruction, .failed _ => (world, [.publishing instruction])
  | .confirmingText instruction, _ =>
    (world.update instruction.commandId .smsRecorded, [.settlingText instruction])
  | .settlingText instruction, .failed _ => (world, [.publishing instruction])
  | .settlingText instruction, _ => (world.update instruction.commandId .texted, [])
  | .publishing instruction, outcome =>
    let published := { world with broker := world.broker ++ [⟨instruction, world.now⟩] }
    match config.mqttDisabled, outcome with
    | true, _ => (world, [.recording instruction.commandId (.published none)])
    | false, .succeeded => (published, [.recording instruction.commandId (.published none)])
    | false, .unconfirmed reason =>
      (published, [.recording instruction.commandId (.published (some reason))])
    | false, .failed reason =>
      (world, [.recording instruction.commandId (.published (some reason))])
  | .flushing node instruction, _ => (world.transmit node instruction, [.unqueueing instruction])
  | .unqueueing instruction, _ =>
    ({ world with pending := none }, [.recording instruction.commandId .flushed])
  | .delivering node instruction, _ => (world.transmit node instruction, [])
  | .recording commandId update, .failed reason =>
    (world, afterFailure config commandId reason update)
  | .recording commandId update, _ => (world.update commandId update, [])
  | .sweeping _ [], _ => (world, [])
  | .sweeping startedAt ((commandId, hasAttemptedSms) :: rest), outcome =>
    if !hasAttemptedSms && config.simPhoneNumber.any (trim · != "") && outcome == .succeeded then
      (world, [.recording commandId (.sweptTexted startedAt), .sweeping startedAt rest])
    else
      (world, [.recording commandId (.sweptExpired (expiryMsg config hasAttemptedSms)),
        .sweeping startedAt rest])
  | .storing payload, _ =>
    ({ world with telemetry := upsertTelemetryPoint world.telemetry (pointOf payload) },
      [.caching (liveStateOf config payload)])
  | .caching state, _ =>
    ({ world with liveState := setLatestBikeState world.liveState world.now state }, [])

/-- What happens next: time passes, a socket opens or closes, something arrives
from outside, the sweeper looks for stale rows, or a task goes on. -/
inductive Action where
  | tick (elapsed : Nat)
  | connect (node : Nat)
  | disconnect (node : Nat)
  | requestArrives (node : Nat) (type : DeviceCommandType)
  | telemetryArrives (payload : TelemetryPayload)
  | heartbeatArrives (ts : Timestamp)
  | packetArrives (node : Nat)
  | commandDelivered (node : Nat) (message : Downlink)
  | messageLost (message : Downlink)
  | ackArrives (commandId : Nat) (ts : Int) (failure : Option (Option String))
  | tcpAckArrives
  | sweepStarts (rows : List Nat)
  | proceed (task : Task) (outcome : Outcome)
  | abandon (task : Task)
deriving DecidableEq

def World.spawn (world : World) (task : Task) : World :=
  { world with tasks := world.tasks ++ [task] }

/-- The row update that an acknowledgement from the broker leads to. -/
def ackUpdate (row : DeviceCommand) (ts : Int) (failure : Option (Option String)) : RowUpdate :=
  if row.expiresAt < ts then
    .acknowledged .EXPIRED ts (some "Acknowledgement received after expiry")
  else
    match failure with
    | none => .acknowledged .ACKED ts none
    | some message => .acknowledged .FAILED ts (some (message.getD "Device reported failure"))

/-- The filter's reading of an arriving packet. -/
def filtered (world : World) (payload : TelemetryPayload) : TelemetryPayload :=
  let position := filterStationaryDrift config.calculateHaversineDistanceMeters world.liveState
    world.now (some config.bikeId) ⟨payload.lat, payload.lng, payload.speedKph, payload.ignition⟩
  { payload with lat := position.lat, lng := position.lng, speedKph := position.speedKph }

/-- One step of the whole system, where it is enabled. -/
def step (world : World) : Action → Option World
  | .tick elapsed => some { world with now := world.now + elapsed }
  | .connect node => some { world with connected := Function.update world.connected node true }
  | .disconnect node => some { world with connected := Function.update world.connected node false }
  | .requestArrives node type =>
    some (world.spawn (.checking node type (loadLatestState world.liveState world.now)))
  | .telemetryArrives payload => some (world.spawn (.storing (filtered config world payload)))
  | .heartbeatArrives ts =>
    match read world.liveState world.now with
    | none => some world
    | some cached => some (world.spawn (.caching { cached with ts := ts }))
  | .packetArrives node =>
    if world.connected node then
      match read world.pending world.now with
      | none => some world
      | some instruction => some (world.spawn (.flushing node instruction))
    else none
  | .commandDelivered node message =>
    if message ∈ world.broker ∧ world.connected node = true ∧
        |world.now - message.ts| ≤ MQTT_MAX_TIMESTAMP_DRIFT_MS ∧
        read (world.nonces message.instruction.commandId) world.now = none then
      let claimed := write () world.now (MQTT_NONCE_TTL_SECONDS * 1000)
      some (World.spawn
        { world with nonces := Function.update world.nonces message.instruction.commandId claimed }
        (.delivering node message.instruction))
    else none
  | .messageLost message =>
    if message ∈ world.broker then some { world with broker := world.broker.erase message } else none
  | .ackArrives commandId ts failure =>
    match world.commands[commandId]? with
    | none => some world
    | some row =>
      if isTerminalStatus row.status then some world
      else some (world.spawn (.recording commandId (ackUpdate row ts failure)))
  | .tcpAckArrives =>
    match latestOpenCommand world.commands world.now with
    | none => some world
    | some commandId => some (world.spawn (.recording commandId .tcpAcknowledged))
  | .sweepStarts rows =>
    if rows.length ≤ 100 ∧ rows.Nodup ∧ rows.all (stale world) = true then
      some (world.spawn (.sweeping world.now (rows.map fun commandId =>
        (commandId, world.commands[commandId]?.any (·.smsFallbackDispatched)))))
    else none
  | .proceed task outcome =>
    if task ∈ world.tasks then
      let (next, following) := perform config world task outcome
      some { next with tasks := world.tasks.erase task ++ following }
    else none
  | .abandon task =>
    if task ∈ world.tasks then some { world with tasks := world.tasks.erase task } else none

/-- A device with a SIM under the default settings, and a world in which nothing
has happened to it yet. The runs written out in the following modules use them. -/
def defaultConfig : Config where
  commandTtlSeconds := 45
  ttlInRange := by decide
  device := ⟨"device-1", "fleet-1", some "bike-1", "8600000001"⟩
  bikeId := "bike-1"
  simPhoneNumber := some "250788000000"
  mqttDisabled := false
  calculateHaversineDistanceMeters := fun _ _ _ _ => 0

def idleWorld : World :=
  ⟨1772438400000, none, [], fun _ => false, [], none, [], fun _ => none, [], []⟩

/-- A request for a bike without a live state, from its arrival at a node to the
attempt at the node's own socket. -/
def requestSteps (node : Nat) (instruction : Instruction) : List Action :=
  [.requestArrives node instruction.type,
   .proceed (.checking node instruction.type none) .succeeded,
   .proceed (.debouncing node instruction.type) .succeeded,
   .proceed (.creating node instruction.type) .succeeded,
   .proceed (.dispatching node instruction) .succeeded]

end EmotoFleet.Dispatch
