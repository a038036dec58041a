import EmotoFleet.Telemetry.LiveState

/-!
# The theft rules of the rules engine

Three rules can raise a theft suspicion about a packet: movement with the
ignition off, movement at night outside every park zone, and a cut of the main
power supply. Each keeps its own keys in the cache. The movement rule remembers
when the movement began and raises one event once the movement has lasted
twenty seconds; any packet without such movement clears its keys.

The remaining rules of the engine concern speeding, driving style and zones.
They use other keys and other event types and are left out. Whether a position
lies inside a park zone is a parameter.
-/

namespace EmotoFleet.TheftRules

open Expiring LiveState

def THEFT_EVENT_COOLDOWN_SECONDS : Int := 300
def THEFT_MOVEMENT_SECONDS : Int := 20
def MOVEMENT_SPEED_THRESHOLD_KPH : ℚ := 3
def NIGHT_START_HOUR_UTC : Int := 22
def NIGHT_END_HOUR_UTC : Int := 5

/-- The device as the rules see it. -/
structure RuleDeviceContext where
  id : String
  fleetId : String
  bikeId : Option String
deriving DecidableEq

/-- The fields of a telemetry payload that the pipeline and the theft rules read. -/
structure TelemetryPayload where
  ts : Timestamp
  lat : ℚ
  lng : ℚ
  speedKph : ℚ
  heading : Option ℚ
  batteryV : Option ℚ
  batteryPct : Option ℚ
  ignition : Option Bool
  mainPowerCut : Option Bool
deriving DecidableEq

inductive EventSeverity where
  | HIGH
  | CRITICAL
deriving DecidableEq

/-- The metadata of a theft suspicion, one constructor for each rule. -/
inductive TheftMeta where
  | movementWhileIgnitionOff (speedKph : ℚ) (durationMs : Int)
  | outsideParkZoneAtNight (speedKph : ℚ)
  | mainPowerCutTheft (batteryV batteryPct : Option ℚ) (speedKph : ℚ) (ignition : Bool)
deriving DecidableEq

/-- The `reason` recorded with each kind of suspicion. -/
def TheftMeta.reason : TheftMeta → String
  | .movementWhileIgnitionOff _ _ => "movement_while_ignition_off"
  | .outsideParkZoneAtNight _ => "outside_park_zone_at_night"
  | .mainPowerCutTheft .. => "MAIN_POWER_CUT_THEFT"

/-- A `THEFT_SUSPECTED` event; every event of these rules has that type. -/
structure TheftSuspected where
  fleetId : String
  bikeId : Option String
  deviceId : String
  ts : Timestamp
  severity : EventSeverity
  metaJson : TheftMeta
deriving DecidableEq

/-- The cache keys of the three rules for one device. Keys whose value carries no
information hold a unit. -/
structure TheftKeys where
  movementStart : Cell Timestamp
  movementActive : Cell Unit
  nightCooldown : Cell Unit
  powerCutCooldown : Cell Unit

def isNightUtc (ts : Timestamp) : Bool :=
  let hour := ts.epochMs / 3600000 % 24
  decide (hour ≥ NIGHT_START_HOUR_UTC) || decide (hour < NIGHT_END_HOUR_UTC)

/-- Movement with the ignition off, the packet condition of the first rule. -/
def movementDetected (payload : TelemetryPayload) : Bool :=
  payload.ignition == some false && decide (payload.speedKph > MOVEMENT_SPEED_THRESHOLD_KPH)

/-- The movement rule. The key for the beginning of the movement is written once
and not renewed, so it lapses three hundred seconds after the packet that wrote
it even while the movement goes on. -/
def evaluateIgnitionOffMovementTheft (device : RuleDeviceContext) (now : Int)
    (payload : TelemetryPayload) (keys : TheftKeys) : TheftKeys × List TheftSuspected :=
  if movementDetected payload then
    match read keys.movementStart now with
    | none =>
      let movementStart := write payload.ts now (THEFT_EVENT_COOLDOWN_SECONDS * 1000)
      ({ keys with movementStart := movementStart }, [])
    | some movementStartTs =>
      let elapsedMs := payload.ts.epochMs - movementStartTs.epochMs
      if elapsedMs < THEFT_MOVEMENT_SECONDS * 1000 then (keys, [])
      else
        match writeIfAbsent keys.movementActive () now (THEFT_EVENT_COOLDOWN_SECONDS * 1000) with
        | (_, false) => (keys, [])
        | (movementActive, true) =>
          ({ keys with movementActive := movementActive },
            [{ fleetId := device.fleetId, bikeId := device.bikeId, deviceId := device.id,
               ts := payload.ts, severity := .HIGH,
               metaJson := .movementWhileIgnitionOff payload.speedKph elapsedMs }])
  else ({ keys with movementStart := none, movementActive := none }, [])

/-- An event raised at most once within a cooldown. -/
def emitWithCooldown (cooldown : Cell Unit) (now : Int) (event : TheftSuspected) :
    Cell Unit × List TheftSuspected :=
  match writeIfAbsent cooldown () now (THEFT_EVENT_COOLDOWN_SECONDS * 1000) with
  | (kept, false) => (kept, [])
  | (started, true) => (started, [event])

/-- Both movement rules, in the order of the source. -/
def evaluateTheft (device : RuleDeviceContext) (now : Int) (payload : TelemetryPayload)
    (insideParkZone : Bool) (keys : TheftKeys) : TheftKeys × List TheftSuspected :=
  let (keys, movementEvents) := evaluateIgnitionOffMovementTheft device now payload keys
  let moving := decide (payload.speedKph > MOVEMENT_SPEED_THRESHOLD_KPH)
  if !moving || !isNightUtc payload.ts || insideParkZone then (keys, movementEvents)
  else
    let (nightCooldown, nightEvents) := emitWithCooldown keys.nightCooldown now
      { fleetId := device.fleetId, bikeId := device.bikeId, deviceId := device.id,
        ts := payload.ts, severity := .HIGH,
        metaJson := .outsideParkZoneAtNight payload.speedKph }
    ({ keys with nightCooldown := nightCooldown }, movementEvents ++ nightEvents)

/-- The power cut rule. A cut while the bike stands still with the ignition off is
a battery swap and raises nothing. -/
def evaluatePowerCut (device : RuleDeviceContext) (now : Int) (payload : TelemetryPayload)
    (keys : TheftKeys) : TheftKeys × List TheftSuspected :=
  if payload.mainPowerCut ≠ some true then (keys, [])
  else
    let isMoving := decide (payload.speedKph > MOVEMENT_SPEED_THRESHOLD_KPH)
    let isIgnitionOn := payload.ignition == some true
    let isRoutineSwap := !isMoving && !isIgnitionOn
    if isRoutineSwap then (keys, [])
    else
      let (powerCutCooldown, events) := emitWithCooldown keys.powerCutCooldown now
        { fleetId := device.fleetId, bikeId := device.bikeId, deviceId := device.id,
          ts := payload.ts, severity := .CRITICAL,
          metaJson := .mainPowerCutTheft payload.batteryV payload.batteryPct payload.speedKph
            (payload.ignition.getD false) }
      ({ keys with powerCutCooldown := powerCutCooldown }, events)

/-- The theft rules of one packet: `theft` comes before `powerCut`. -/
def evaluateTelemetry (insideParkZone : ℚ → ℚ → Bool) (device : RuleDeviceContext) (now : Int)
    (payload : TelemetryPayload) (keys : TheftKeys) : TheftKeys × List TheftSuspected :=
  let (keys, theftEvents) :=
    evaluateTheft device now payload (insideParkZone payload.lat payload.lng) keys
  let (keys, powerCutEvents) := evaluatePowerCut device now payload keys
  (keys, theftEvents ++ powerCutEvents)

/-- The events that only the movement rule raises. -/
def fromMovement (event : TheftSuspected) : Bool :=
  event.metaJson.reason == "movement_while_ignition_off"

/-- Two evaluations that the movement rule cannot tell apart: they leave its keys
in the same state and raise an event of its own in the same cases. -/
structure SameMovement (left right : TheftKeys × List TheftSuspected) : Prop where
  start : left.1.movementStart = right.1.movementStart
  active : left.1.movementActive = right.1.movementActive
  events : left.2.any fromMovement = right.2.any fromMovement

/-- A cooldown never raises an event of the movement rule for another rule. -/
theorem emitWithCooldown_other (cooldown : Cell Unit) (now : Int) (event : TheftSuspected)
    (other : fromMovement event = false) :
    (emitWithCooldown cooldown now event).2.any fromMovement = false := by
  unfold emitWithCooldown
  rcases writeIfAbsent cooldown () now _ with ⟨kept, _ | _⟩ <;> simp [other]

theorem evaluateTheft_movement (device : RuleDeviceContext) (now : Int)
    (payload : TelemetryPayload) (insideParkZone : Bool) (keys : TheftKeys) :
    SameMovement (evaluateTheft device now payload insideParkZone keys)
      (evaluateIgnitionOffMovementTheft device now payload keys) := by
  simp only [evaluateTheft]
  split
  · exact ⟨rfl, rfl, rfl⟩
  · refine ⟨rfl, rfl, ?_⟩
    rw [List.any_append, emitWithCooldown_other _ _ _ rfl, Bool.or_false]

theorem evaluatePowerCut_movement (device : RuleDeviceContext) (now : Int)
    (payload : TelemetryPayload) (keys : TheftKeys) :
    SameMovement (evaluatePowerCut device now payload keys) (keys, []) := by
  simp only [evaluatePowerCut]
  split
  · exact ⟨rfl, rfl, rfl⟩
  · split
    · exact ⟨rfl, rfl, rfl⟩
    · exact ⟨rfl, rfl, emitWithCooldown_other _ _ _ rfl⟩

/-- The other rules do not interfere: to the movement rule, the evaluation of a
packet is the evaluation of that rule alone. -/
theorem evaluateTelemetry_movement (insideParkZone : ℚ → ℚ → Bool) (device : RuleDeviceContext)
    (now : Int) (payload : TelemetryPayload) (keys : TheftKeys) :
    SameMovement (evaluateTelemetry insideParkZone device now payload keys)
      (evaluateIgnitionOffMovementTheft device now payload keys) := by
  have theft := evaluateTheft_movement device now payload
    (insideParkZone payload.lat payload.lng) keys
  have power := evaluatePowerCut_movement device now payload
    (evaluateTheft device now payload (insideParkZone payload.lat payload.lng) keys).1
  refine ⟨power.start.trans theft.start, power.active.trans theft.active, ?_⟩
  simp only [evaluateTelemetry, List.any_append]
  rw [theft.events, power.events, List.any_nil, Bool.or_false]

section MovementRule

variable (device : RuleDeviceContext) (now : Int) (payload : TelemetryPayload) (keys : TheftKeys)

/-- A packet without ignition-off movement forgets the movement before it. -/
theorem movement_absent (still : movementDetected payload = false) :
    evaluateIgnitionOffMovementTheft device now payload keys =
      ({ keys with movementStart := none, movementActive := none }, []) := by
  simp [evaluateIgnitionOffMovementTheft, still]

/-- The first packet of a movement opens its window. -/
theorem movement_opens (detected : movementDetected payload = true)
    (unopened : read keys.movementStart now = none) :
    evaluateIgnitionOffMovementTheft device now payload keys =
      ({ keys with
          movementStart := write payload.ts now (THEFT_EVENT_COOLDOWN_SECONDS * 1000) }, []) := by
  simp [evaluateIgnitionOffMovementTheft, detected, unopened]

/-- Inside an open window the beginning of the movement is kept. An event is
raised unless the movement is too short or one was raised before. -/
theorem movement_continues (detected : movementDetected payload = true) (opened : Timestamp)
    (inside : read keys.movementStart now = some opened) :
    let outcome := evaluateIgnitionOffMovementTheft device now payload keys
    outcome.1.movementStart = keys.movementStart ∧
      ((payload.ts.epochMs - opened.epochMs < THEFT_MOVEMENT_SECONDS * 1000 ∧
          outcome.1.movementActive = keys.movementActive ∧ outcome.2 = []) ∨
        (THEFT_MOVEMENT_SECONDS * 1000 ≤ payload.ts.epochMs - opened.epochMs ∧
          read keys.movementActive now ≠ none ∧
          outcome.1.movementActive = keys.movementActive ∧ outcome.2 = []) ∨
        (THEFT_MOVEMENT_SECONDS * 1000 ≤ payload.ts.epochMs - opened.epochMs ∧
          outcome.2.any fromMovement = true)) := by
  simp only [evaluateIgnitionOffMovementTheft, detected, inside, if_true]
  by_cases short : payload.ts.epochMs - opened.epochMs < THEFT_MOVEMENT_SECONDS * 1000
  · simp [short]
  · have long := Int.not_lt.mp short
    simp only [short, if_false, writeIfAbsent]
    cases active : read keys.movementActive now with
    | none => simp [long, fromMovement, TheftMeta.reason]
    | some _ => simp [long]

end MovementRule

end EmotoFleet.TheftRules
