import EmotoFleet.Telemetry.Ingestion

/-!
# Device commands

A command asks the tracker of a bike to cut (`LOCK`) or restore (`UNLOCK`) its
engine. Its row records a status, which starts as `PENDING`, and an expiry.
`ACKED`, `FAILED` and `EXPIRED` are meant to be final. A lock may be requested
only while the bike is safe: ignition not on, speed at most half a kilometre an
hour, and no movement stored within fifteen seconds.

Commands are numbered in the order of their creation; the number stands for the
row's identifier. The other columns of the row name the fleet, bike, device and
requester, which are the same throughout, and are left out.
-/

namespace EmotoFleet.DeviceCommands

open Expiring LiveState Ingestion

def LOCK_MIN_STATIONARY_MS : Int := 15000

inductive DeviceCommandType where
  | LOCK
  | UNLOCK
deriving DecidableEq

inductive DeviceCommandStatus where
  | PENDING
  | SENT
  | ACKED
  | FAILED
  | EXPIRED
deriving DecidableEq

def isTerminalStatus : DeviceCommandStatus → Bool
  | .ACKED | .FAILED | .EXPIRED => true
  | .PENDING | .SENT => false

/-- The row of a command. -/
structure DeviceCommand where
  type : DeviceCommandType
  status : DeviceCommandStatus
  createdAt : Int
  expiresAt : Int
  sentAt : Option Int
  ackedAt : Option Int
  errorMessage : Option String
  smsFallbackDispatched : Bool
deriving DecidableEq

/-- What travels to the tracker: `940` or `941` on behalf of a command. -/
structure Instruction where
  commandId : Nat
  type : DeviceCommandType
deriving DecidableEq

/-- The part of the cached live state that the lock guard reads. -/
structure LiveStateSnapshot where
  speedKph : ℚ
  ignition : Option Bool
deriving DecidableEq

/-- A bike whose last known state has the ignition off and no speed to speak of. -/
def LiveStateSnapshot.parked (state : LiveStateSnapshot) : Bool :=
  state.ignition != some true && decide (|state.speedKph| ≤ 1 / 2)

def loadLatestState (cell : Cell LiveBikeState) (now : Int) : Option LiveStateSnapshot :=
  (read cell now).map fun state => ⟨state.speedKph, state.ignition⟩

/-- The latest stored point at which the bike was moving. -/
def lastMovingPoint (telemetry : List TelemetryPoint) : Option Int :=
  ((telemetry.filter fun point => decide (point.speedKph > 1 / 100)).map (·.ts)).max?

/-- How long the bike has stood still; a bike that was never moving has no such
duration and counts as standing still forever. -/
def stationaryMs (telemetry : List TelemetryPoint) (now : Int) : Option Int :=
  (lastMovingPoint telemetry).map fun ts => now - ts

/-- The lock guard. Without a live state it passes at once; otherwise it refuses
a bike that is on, moving, or has moved within fifteen seconds. -/
def assertSafeToLock (telemetry : List TelemetryPoint) (now : Int)
    (state : Option LiveStateSnapshot) : Except String Unit :=
  match state with
  | none => .ok ()
  | some state =>
    if state.ignition = some true then .error "Cannot lock while ignition is ON"
    else if |state.speedKph| > 1 / 2 then .error "Cannot lock while bike is moving"
    else
      match stationaryMs telemetry now with
      | none => .ok ()
      | some stopped =>
        if stopped < LOCK_MIN_STATIONARY_MS then
          .error s!"Bike must be speed 0 for at least 15 seconds before lock (currently stopped for {(stopped + 500) / 1000}s)"
        else .ok ()

/-- The writes to a row, one for each place of the source that updates it. -/
inductive RowUpdate where
  | dispatched
  | smsRecorded
  | texted
  | published (failure : Option String)
  | flushed
  | acknowledged (status : DeviceCommandStatus) (ackedAt : Int) (errorMessage : Option String)
  | tcpAcknowledged
  | sweptTexted (startedAt : Int)
  | sweptExpired (errorMessage : String)
deriving DecidableEq

/-- The row after an update. None of them looks at the status that it replaces. -/
def RowUpdate.apply (update : RowUpdate) (now : Int) (row : DeviceCommand) : DeviceCommand :=
  match update with
  | .dispatched =>
    { row with status := .SENT, sentAt := some now, ackedAt := none, errorMessage := none }
  | .smsRecorded => { row with smsFallbackDispatched := true }
  | .texted =>
    { row with status := .ACKED, sentAt := some now, ackedAt := some now, errorMessage := none }
  | .published none =>
    { row with status := .SENT, sentAt := some now, ackedAt := none, errorMessage := none }
  | .published (some message) =>
    { row with
      status := .SENT, sentAt := some now, ackedAt := none,
      errorMessage := some s!"MQTT unavailable: {message}" }
  | .flushed => { row with status := .SENT, sentAt := some now, errorMessage := none }
  | .acknowledged status ackedAt errorMessage =>
    { row with status := status, ackedAt := some ackedAt, errorMessage := errorMessage }
  | .tcpAcknowledged => { row with status := .ACKED, ackedAt := some now }
  | .sweptTexted startedAt =>
    { row with
      status := .ACKED, ackedAt := some startedAt, errorMessage := none,
      smsFallbackDispatched := true }
  | .sweptExpired errorMessage =>
    { row with status := .EXPIRED, errorMessage := some errorMessage }

@[simp] theorem apply_expiresAt (update : RowUpdate) (now : Int) (row : DeviceCommand) :
    (update.apply now row).expiresAt = row.expiresAt := by
  rcases update with _ | _ | _ | (_ | _) | _ | _ | _ | _ | _ <;> rfl

/-- Fifteen seconds without stored movement. -/
def StandsStill (telemetry : List TelemetryPoint) (now : Int) : Prop :=
  ∀ stopped ∈ stationaryMs telemetry now, LOCK_MIN_STATIONARY_MS ≤ stopped

/-- The guard passes exactly for a missing live state, or a parked one of a bike
that stands still. -/
theorem assertSafeToLock_ok_iff (telemetry : List TelemetryPoint) (now : Int)
    (state : Option LiveStateSnapshot) :
    assertSafeToLock telemetry now state = .ok () ↔
      ∀ known ∈ state, known.parked = true ∧ StandsStill telemetry now := by
  cases state with
  | none => simp [assertSafeToLock]
  | some known =>
    simp only [assertSafeToLock, LiveStateSnapshot.parked, StandsStill, Option.mem_def,
      Option.some.injEq, forall_eq', Bool.and_eq_true, bne_iff_ne, decide_eq_true_eq]
    by_cases on : known.ignition = some true
    · simp only [on, if_true, reduceCtorEq, ne_eq, not_true_eq_false, false_and]
    · rw [if_neg on]
      by_cases moving : |known.speedKph| > 1 / 2
      · rw [if_pos moving]
        simp only [reduceCtorEq, not_le.mpr moving, and_false, false_and]
      · rw [if_neg moving]
        have slow := not_lt.mp moving
        cases stationaryMs telemetry now with
        | none => simpa [on] using slow
        | some stopped =>
          by_cases recent : stopped < LOCK_MIN_STATIONARY_MS
          · simp [recent]
          · simp only [recent, if_false, ne_eq, on, not_false_eq_true, slow, true_and,
              Option.some.injEq, forall_eq', true_iff]
            exact not_lt.mp recent

/-- Standing still only gets longer while no new movement is stored. -/
theorem standsStill_later {telemetry : List TelemetryPoint} {now later : Int}
    (ordered : now ≤ later) (still : StandsStill telemetry now) : StandsStill telemetry later := by
  intro stopped known
  obtain ⟨ts, latest, rfl⟩ := Option.mem_map.mp known
  have earlier : LOCK_MIN_STATIONARY_MS ≤ now - ts := still _ (Option.mem_map_of_mem _ latest)
  omega

end EmotoFleet.DeviceCommands
