import EmotoFleet.Foundations.Doubles
import EmotoFleet.Telemetry.TheftRules
import Mathlib.Algebra.Order.AbsoluteValue.Basic

/-!
# The rules engine and the events that it stores

Eight rules look at a telemetry packet one after another. Each may call for alerts;
an alert claims the key of its cooldown and is then stored as an event. The event
table admits one event of a type for a device and an instant, and storing can fail
for other reasons as well. A failure ends the rule in which it happens, and the
next rule goes on.

The alerts that the rules call for are computed first, since no rule changes what
another one reads; `evaluateTelemetry` then runs through them in the order of the
source. The rule for station visits raises nothing and uses keys of its own, and
the metadata of the events and their publication are read by nothing here, so they
are left out. The text of a key is the device's prefix and the name in the
constructor. Positions, zones and road features come with the packet as the
database returns them.

The numbers of a packet are the decimals that the device sends. The program reads each as
the nearest double, and what it computes from them it computes in double precision.
-/

namespace EmotoFleet.RulesEngine

open Doubles (toDouble squareRoot)
open Expiring LiveState TheftRules

/-- The types of events. -/
inductive EventType where
  | OVERSPEED
  | SPEED_LIMIT_VIOLATION
  | SCHOOL_ZONE_SPEED
  | HOSPITAL_ZONE_SPEED
  | MARKET_ZONE_SPEED
  | HARSH_BRAKE
  | HARSH_ACCEL
  | HARSH_CORNER
  | CRASH
  | THEFT_SUSPECTED
  | SOS
  | TRACKER_OFFLINE
  | GEOFENCE_EXIT
deriving DecidableEq

/-- How grave an event is. -/
inductive Severity where
  | LOW
  | MEDIUM
  | HIGH
  | CRITICAL
deriving DecidableEq

/-- The cooldown keys of one device. -/
inductive CooldownKey where
  | OVERSPEED_ZONE (zoneId : String)
  | OVERSPEED_GLOBAL
  | HARSH_BRAKE
  | HARSH_ACCEL
  | HARSH_CORNER
  | CRASH
  | theftMovementActive
  | THEFT_NIGHT_OUTSIDE_PARK
  | THEFT_POWER_CUT
  | SPEED_LIMIT (featureId : String)
  | sensitiveZone (type : EventType) (featureId : String)
  | geofenceExit
deriving DecidableEq

/-- An event that a rule calls for, with the key and the length of its cooldown. The
event has the packet's instant. -/
structure Alert where
  key : CooldownKey
  cooldownSeconds : Int
  type : EventType
  severity : Severity
deriving DecidableEq

/-- A stored event of the device. -/
structure EventRow where
  ts : Int
  type : EventType
  severity : Severity
  createdAt : Int
deriving DecidableEq

/-- How a call that stores an event ends, apart from the uniqueness of events: it
fails, it stores and returns, or it stores and fails afterwards. -/
inductive Outcome where
  | fails
  | commits
  | commitsThenThrows
deriving DecidableEq

/-- The acceleration along three axes. -/
structure Accel where
  x : ℚ
  y : ℚ
  z : ℚ
deriving DecidableEq

/-- A packet as the rules get it. -/
structure RulePayload extends TelemetryPayload where
  accel : Option Accel
deriving DecidableEq

/-- The types of zones that the rules know. -/
inductive ZoneType where
  | SLOW
  | PARK
  | WORK_BOUNDARY
deriving DecidableEq

/-- A zone that the rules evaluate. -/
structure GeofenceZone where
  id : String
  type : ZoneType
  speedLimitKph : Option ℚ
deriving DecidableEq

/-- The kinds of features along roads. -/
inductive RoadFeatureType where
  | SCHOOL
  | HOSPITAL
  | MARKET
  | TRAFFIC_SIGN
  | SPEED_LIMIT
deriving DecidableEq

/-- A feature near the road. -/
structure RoadFeature where
  id : String
  type : RoadFeatureType
  speedLimitKph : Option ℚ
  lat : ℚ
  lng : ℚ
deriving DecidableEq

/-- The configuration of the engine. -/
structure Settings where
  roadSpeedLimitRadiusMeters : ℚ
  roadSafetyRadiusMeters : ℚ
  roadSpeedToleranceKph : ℚ
  schoolZoneSpeedKph : ℚ
  hospitalZoneSpeedKph : ℚ
  marketZoneSpeedKph : ℚ
  globalOverspeedLimitKph : ℚ

/-- The configuration without environment variables. -/
def Settings.default : Settings := ⟨80, 200, 5, 30, 30, 25, 60⟩

/-- A packet as the engine meets it: the clock, the payload, what the database says
about its position, and how the calls that store events end. Without zones or
features the query for them has failed. -/
structure Packet where
  now : Int
  payload : RulePayload
  activeZones : List GeofenceZone
  insideZoneIds : List String
  nearbyFeatures : Option (List RoadFeature)
  outcome : Alert → Outcome

/-- The speed of the last packet, with its stamp. -/
structure SpeedSample where
  speedKph : ℚ
  ts : Timestamp
deriving DecidableEq

/-- An alert together with the instant at which its event was stored. -/
structure StoredAlert where
  alert : Alert
  storedAt : Int
deriving DecidableEq

/-- The keys of the device, its events, and a note of the alerts that were stored. -/
structure EngineState where
  keys : CooldownKey → Cell Unit
  movementStart : Cell Timestamp
  lastSpeed : Cell SpeedSample
  events : List EventRow
  stored : List StoredAlert

/-- The thresholds and durations of the service. -/
def HARSH_EVENT_COOLDOWN_SECONDS : Int := 8
def CRASH_EVENT_COOLDOWN_SECONDS : Int := 180
def HARSH_BRAKE_THRESHOLD : ℚ := -4
def HARSH_ACCEL_THRESHOLD : ℚ := 4
def HARSH_CORNER_THRESHOLD : ℚ := 7 / 2
def CRASH_G_FORCE_THRESHOLD : ℚ := 14 / 5
def CRASH_SPEED_DROP_THRESHOLD_KPH : ℚ := 20
def CRASH_TILT_Z_THRESHOLD : ℚ := 9 / 2
def LAST_SPEED_STATE_TTL_SECONDS : Int := 600
def ROAD_EVENT_COOLDOWN_SECONDS : Int := 60

section Rules

variable (settings : Settings) (distance : ℚ → ℚ → ℚ → ℚ → ℚ) (packet : Packet)

/-- A slow zone that contains the packet and whose limit, unless it is zero, is
exceeded. -/
def exceededZone (zone : GeofenceZone) : Bool :=
  zone.type == .SLOW && packet.insideZoneIds.contains zone.id &&
    zone.speedLimitKph.any fun limit => limit != 0 && decide (packet.payload.speedKph > limit)

/-- Twenty above the limit is grave. -/
def overspeedSeverity (limit : ℚ) : Severity :=
  if packet.payload.speedKph ≥ limit + 20 then .HIGH else .MEDIUM

/-- Alerts of each exceeded zone, and of the limit that holds everywhere. -/
def evaluateOverspeed : List Alert :=
  let zones := packet.activeZones.filter (exceededZone packet)
  let limit := settings.globalOverspeedLimitKph
  (zones.map fun zone =>
      ⟨.OVERSPEED_ZONE zone.id, 60, .OVERSPEED,
        overspeedSeverity packet (zone.speedLimitKph.getD 0)⟩) ++
    if zones.isEmpty && decide (packet.payload.speedKph > limit) then
      [⟨.OVERSPEED_GLOBAL, 60, .OVERSPEED, overspeedSeverity packet limit⟩]
    else []

/-- An alert of harsh riding. -/
def harshAlert (key : CooldownKey) (type : EventType) : Alert :=
  ⟨key, HARSH_EVENT_COOLDOWN_SECONDS, type, .MEDIUM⟩

/-- The change of speed since the previous sample in units of g, where the time
between the samples counts up to a bound. Samples in the wrong order or more than
thirty seconds apart give none. -/
def softwareGForce (previous : Option SpeedSample) (longestSeconds : ℚ) : Option ℚ :=
  previous.bind fun sample =>
    let timeDeltaMs := packet.payload.ts.epochMs - sample.ts.epochMs
    if timeDeltaMs ≤ 0 ∨ timeDeltaMs > 30000 then none
    else
      let speedDeltaKph := toDouble (toDouble packet.payload.speedKph - toDouble sample.speedKph)
      let speedDeltaMs := toDouble (speedDeltaKph / toDouble (18 / 5))
      let effectiveTimeDelta := min (toDouble (timeDeltaMs / 1000)) longestSeconds
      let acceleration := toDouble (speedDeltaMs / effectiveTimeDelta)
      some (toDouble (acceleration / toDouble (981 / 100)))

/-- Alerts of braking, accelerating and cornering, by the sensor or by two speeds. -/
def evaluateHarshDynamics (previous : Option SpeedSample) : List Alert :=
  match packet.payload.accel with
  | none =>
    match softwareGForce packet previous (5 / 2) with
    | none => []
    | some gForce =>
      (if gForce ≤ toDouble (-35 / 100) then [harshAlert .HARSH_BRAKE .HARSH_BRAKE] else []) ++
        if gForce ≥ 1 / 4 then [harshAlert .HARSH_ACCEL .HARSH_ACCEL] else []
  | some accel =>
    (if accel.x ≤ HARSH_BRAKE_THRESHOLD then [harshAlert .HARSH_BRAKE .HARSH_BRAKE] else []) ++
      (if accel.x ≥ HARSH_ACCEL_THRESHOLD then [harshAlert .HARSH_ACCEL .HARSH_ACCEL] else []) ++
      if |accel.y| ≥ HARSH_CORNER_THRESHOLD then [harshAlert .HARSH_CORNER .HARSH_CORNER] else []

/-- The measured acceleration in units of g. -/
def gForce (accel : Accel) : ℚ :=
  let square (component : ℚ) := toDouble (toDouble component ^ 2)
  let totalAccel := squareRoot
    (toDouble (toDouble (square accel.x + square accel.y) + square accel.z))
  toDouble (totalAccel / toDouble (981 / 100))

/-- How much slower the packet is than the sample. -/
def speedDrop (sample : SpeedSample) : ℚ :=
  toDouble (toDouble sample.speedKph - toDouble packet.payload.speedKph)

/-- The crash decision. -/
def crashDetected (previous : Option SpeedSample) : Bool :=
  match packet.payload.accel with
  | none =>
    previous.any fun sample =>
      ((softwareGForce packet (some sample) (3 / 2)).any fun gForce =>
          decide (-gForce ≥ toDouble (11 / 5))) &&
        decide (speedDrop packet sample ≥ CRASH_SPEED_DROP_THRESHOLD_KPH)
  | some accel =>
    previous.any fun sample =>
      let tiltDetected := decide (|toDouble accel.z| ≤ CRASH_TILT_Z_THRESHOLD)
      let hardImpact := decide (gForce accel ≥ toDouble CRASH_G_FORCE_THRESHOLD)
      hardImpact && (decide (speedDrop packet sample ≥ CRASH_SPEED_DROP_THRESHOLD_KPH) ||
        tiltDetected)

/-- The alert of a crash. -/
def evaluateCrash (previous : Option SpeedSample) : List Alert :=
  if crashDetected packet previous then [⟨.CRASH, CRASH_EVENT_COOLDOWN_SECONDS, .CRASH, .CRITICAL⟩]
  else []

/-- The alert of a bike that is moved while nobody rides it. -/
def movementAlert : Alert :=
  ⟨.theftMovementActive, THEFT_EVENT_COOLDOWN_SECONDS, .THEFT_SUSPECTED, .HIGH⟩

/-- The alert of a ride at night outside of the parks. -/
def nightAlert : Alert :=
  ⟨.THEFT_NIGHT_OUTSIDE_PARK, THEFT_EVENT_COOLDOWN_SECONDS, .THEFT_SUSPECTED, .HIGH⟩

/-- The alert of a cut of power during a ride. -/
def powerCutAlert : Alert :=
  ⟨.THEFT_POWER_CUT, THEFT_EVENT_COOLDOWN_SECONDS, .THEFT_SUSPECTED, .CRITICAL⟩

/-- The movement rule raises its alert once the movement has lasted long enough. -/
def movementAlerts (movementStart : Option Timestamp) : List Alert :=
  if movementDetected packet.payload.toTelemetryPayload then
    match movementStart with
    | none => []
    | some start =>
      if packet.payload.ts.epochMs - start.epochMs < THEFT_MOVEMENT_SECONDS * 1000 then []
      else [movementAlert]
  else []

/-- Whether the packet lies in a park. -/
def insideParkZone : Bool :=
  packet.activeZones.any fun zone => zone.type == .PARK && packet.insideZoneIds.contains zone.id

/-- Whether the packet is that of a moving bike. -/
def isMoving : Bool := decide (packet.payload.speedKph > MOVEMENT_SPEED_THRESHOLD_KPH)

/-- The rule for rides at night. -/
def nightAlerts : List Alert :=
  if isMoving packet && isNightUtc packet.payload.ts && !insideParkZone packet then [nightAlert]
  else []

/-- The rules for theft. -/
def evaluateTheft (movementStart : Option Timestamp) : List Alert :=
  movementAlerts packet movementStart ++ nightAlerts packet

/-- The rule for cuts of power. -/
def evaluatePowerCut : List Alert :=
  if packet.payload.mainPowerCut == some true &&
      (isMoving packet || packet.payload.ignition == some true) then [powerCutAlert]
  else []

/-- The nearest feature within the radius; of several at one distance the first. -/
def findNearestFeature (features : List RoadFeature) (radiusMeters : ℚ) : Option RoadFeature :=
  let away (feature : RoadFeature) : ℚ :=
    distance packet.payload.lat packet.payload.lng feature.lat feature.lng
  features.foldl (fun nearest feature =>
    if away feature > radiusMeters then nearest
    else match nearest with
      | none => some feature
      | some found => if away feature < away found then some feature else nearest) none

/-- The rule for limits of the nearest sign. -/
def evaluateSpeedLimitViolation (features : List RoadFeature) : List Alert :=
  let nearest := findNearestFeature distance packet
    (features.filter fun feature => feature.type == .SPEED_LIMIT && feature.speedLimitKph.isSome)
    settings.roadSpeedLimitRadiusMeters
  let speedLimit := (nearest.bind RoadFeature.speedLimitKph).getD 60
  let featureId := (nearest.map RoadFeature.id).getD "default_national_limit"
  if packet.payload.speedKph ≤ speedLimit + settings.roadSpeedToleranceKph then []
  else [⟨.SPEED_LIMIT featureId, ROAD_EVENT_COOLDOWN_SECONDS, .SPEED_LIMIT_VIOLATION, .MEDIUM⟩]

/-- A sensitive zone and the events for it. -/
def sensitiveZones : List (RoadFeatureType × EventType × Severity × ℚ) :=
  [(.SCHOOL, .SCHOOL_ZONE_SPEED, .HIGH, settings.schoolZoneSpeedKph),
   (.HOSPITAL, .HOSPITAL_ZONE_SPEED, .MEDIUM, settings.hospitalZoneSpeedKph),
   (.MARKET, .MARKET_ZONE_SPEED, .MEDIUM, settings.marketZoneSpeedKph)]

/-- The rules for schools, hospitals and markets. -/
def evaluateSensitiveZoneViolations (features : List RoadFeature) : List Alert :=
  (sensitiveZones settings).flatMap fun (type, eventType, severity, speedLimitKph) =>
    if packet.payload.speedKph ≤ speedLimitKph + settings.roadSpeedToleranceKph then []
    else
      match findNearestFeature distance packet (features.filter fun feature => feature.type == type)
        settings.roadSafetyRadiusMeters with
      | none => []
      | some nearest =>
        [⟨.sensitiveZone eventType nearest.id, ROAD_EVENT_COOLDOWN_SECONDS, eventType, severity⟩]

/-- The rules that need the features around. -/
def evaluateRoadSafety : List Alert :=
  match packet.nearbyFeatures with
  | none => []
  | some features =>
    evaluateSpeedLimitViolation settings distance packet features ++
      evaluateSensitiveZoneViolations settings distance packet features

/-- The rule for leaving all zones of work. -/
def evaluateWorkBoundary : List Alert :=
  let workZones := packet.activeZones.filter fun zone => zone.type == .WORK_BOUNDARY
  if workZones.isEmpty || workZones.any fun zone => packet.insideZoneIds.contains zone.id then []
  else [⟨.geofenceExit, 300, .GEOFENCE_EXIT, .CRITICAL⟩]

end Rules

section Storing

variable (packet : Packet)

/-- Whether the table has an event of that type for the packet's instant. -/
def occupied (events : List EventRow) (type : EventType) : Bool :=
  events.any fun row => row.ts == packet.payload.ts.epochMs && row.type == type

/-- Stores the event of an alert. The flag says whether the call returned. -/
def createFleetEvent (state : EngineState) (alert : Alert) : EngineState × Bool :=
  if packet.outcome alert = .fails ∨ occupied packet state.events alert.type = true then (state, false)
  else
    ({ state with
        events := state.events ++ [⟨packet.payload.ts.epochMs, alert.type, alert.severity, packet.now⟩]
        stored := state.stored ++ [⟨alert, packet.now⟩] },
      packet.outcome alert != .commitsThenThrows)

/-- Claims the cooldown and stores the event; an alert whose key is held is dropped. -/
def emitWithCooldown (state : EngineState) (alert : Alert) : EngineState × Bool :=
  match writeIfAbsent (state.keys alert.key) () packet.now (alert.cooldownSeconds * 1000) with
  | (_, false) => (state, true)
  | (claimed, true) =>
    createFleetEvent packet { state with keys := Function.update state.keys alert.key claimed } alert

/-- The alerts of one rule, up to the first that throws. -/
def emitAll : EngineState → List Alert → EngineState
  | state, [] => state
  | state, alert :: rest =>
    match emitWithCooldown packet state alert with
    | (next, true) => emitAll next rest
    | (next, false) => next

/-- The rules one after another; what one of them throws is caught. -/
def runRules (state : EngineState) (rules : List (List Alert)) : EngineState :=
  rules.foldl (emitAll packet) state

/-- What the movement rule notes before it raises anything: a packet without
ignition-off movement forgets the movement, the first one with it remembers when it
began. -/
def trackMovement (state : EngineState) : EngineState :=
  if movementDetected packet.payload.toTelemetryPayload then
    match read state.movementStart packet.now with
    | none =>
      { state with
        movementStart := write packet.payload.ts packet.now (THEFT_EVENT_COOLDOWN_SECONDS * 1000) }
    | some _ => state
  else
    { state with
      movementStart := none
      keys := Function.update state.keys .theftMovementActive none }

/-- The speed of the packet is kept for the next one. -/
def storeLastSpeedState (state : EngineState) : EngineState :=
  { state with
    lastSpeed := write ⟨packet.payload.speedKph, packet.payload.ts⟩ packet.now
      (LAST_SPEED_STATE_TTL_SECONDS * 1000) }

variable (settings : Settings) (distance : ℚ → ℚ → ℚ → ℚ → ℚ)

/-- The rules before the theft rules. -/
def earlyRules (state : EngineState) : List (List Alert) :=
  let previous := read state.lastSpeed packet.now
  [evaluateOverspeed settings packet, evaluateHarshDynamics packet previous,
    evaluateCrash packet previous]

/-- The theft rules and those after them. -/
def lateRules (state : EngineState) : List (List Alert) :=
  [evaluateTheft packet (read state.movementStart packet.now), evaluatePowerCut packet,
    evaluateRoadSafety settings distance packet, evaluateWorkBoundary packet]

/-- All rules in their order, over the state of a device. -/
def evaluateTelemetry (state : EngineState) : EngineState :=
  let early := runRules packet state (earlyRules packet settings state)
  let late := runRules packet (trackMovement packet early) (lateRules packet settings distance early)
  storeLastSpeedState packet late

/-- All alerts that the rules call for, rule by rule. -/
def called (state : EngineState) : List (List Alert) :=
  earlyRules packet settings state ++ lateRules packet settings distance state

end Storing

section Keys

/-- The type of the events whose cooldown a key is. -/
def CooldownKey.eventType : CooldownKey → EventType
  | .OVERSPEED_ZONE _ => .OVERSPEED
  | .OVERSPEED_GLOBAL => .OVERSPEED
  | .HARSH_BRAKE => .HARSH_BRAKE
  | .HARSH_ACCEL => .HARSH_ACCEL
  | .HARSH_CORNER => .HARSH_CORNER
  | .CRASH => .CRASH
  | .theftMovementActive => .THEFT_SUSPECTED
  | .THEFT_NIGHT_OUTSIDE_PARK => .THEFT_SUSPECTED
  | .THEFT_POWER_CUT => .THEFT_SUSPECTED
  | .SPEED_LIMIT _ => .SPEED_LIMIT_VIOLATION
  | .sensitiveZone type _ => type
  | .geofenceExit => .GEOFENCE_EXIT

/-- The key belongs to the type of the alert, and the cooldown is not empty. -/
structure Keyed (alert : Alert) : Prop where
  typed : alert.type = alert.key.eventType
  lasting : 0 < alert.cooldownSeconds

/-- An alert of a rule that does not concern theft. -/
structure Ordinary (alert : Alert) : Prop extends Keyed alert where
  ordinary : alert.type ≠ .THEFT_SUSPECTED

variable {settings : Settings} {distance : ℚ → ℚ → ℚ → ℚ → ℚ} {packet : Packet} {alert : Alert}

/-- An alert whose type is that of its key is an ordinary one. -/
theorem ordinary_mk {key : CooldownKey} {seconds : Int} {type : EventType} {severity : Severity}
    (typed : type = key.eventType) (lasting : 0 < seconds) (ordinary : type ≠ .THEFT_SUSPECTED) :
    Ordinary ⟨key, seconds, type, severity⟩ :=
  ⟨⟨typed, lasting⟩, ordinary⟩

/-- An alert under a condition is ordinary if the alert is. -/
theorem ordinary_of_mem_ite {condition : Prop} [Decidable condition] {raised : Alert}
    (ordinary : Ordinary raised) (member : alert ∈ if condition then [raised] else []) :
    Ordinary alert := by
  split at member
  · rw [List.mem_singleton.mp member]
    exact ordinary
  · exact absurd member List.not_mem_nil

/-- The rule for speeding raises ordinary alerts. -/
theorem evaluateOverspeed_ordinary (member : alert ∈ evaluateOverspeed settings packet) :
    Ordinary alert := by
  rcases List.mem_append.mp member with zoned | global
  · obtain ⟨zone, _, made⟩ := List.mem_map.mp zoned
    rw [← made]
    exact ordinary_mk rfl (by decide) (by decide)
  · exact ordinary_of_mem_ite (ordinary_mk rfl (by decide) (by decide)) global

/-- The rules for harsh riding raise ordinary alerts. -/
theorem evaluateHarshDynamics_ordinary {previous : Option SpeedSample}
    (member : alert ∈ evaluateHarshDynamics packet previous) : Ordinary alert := by
  have brake : Ordinary (harshAlert .HARSH_BRAKE .HARSH_BRAKE) := ordinary_mk rfl (by decide) (by decide)
  have accel : Ordinary (harshAlert .HARSH_ACCEL .HARSH_ACCEL) := ordinary_mk rfl (by decide) (by decide)
  have corner : Ordinary (harshAlert .HARSH_CORNER .HARSH_CORNER) := ordinary_mk rfl (by decide) (by decide)
  rw [evaluateHarshDynamics] at member
  split at member
  · split at member
    · exact absurd member List.not_mem_nil
    · rcases List.mem_append.mp member with braked | accelerated
      · exact ordinary_of_mem_ite brake braked
      · exact ordinary_of_mem_ite accel accelerated
  · rcases List.mem_append.mp member with straight | cornered
    · rcases List.mem_append.mp straight with braked | accelerated
      · exact ordinary_of_mem_ite brake braked
      · exact ordinary_of_mem_ite accel accelerated
    · exact ordinary_of_mem_ite corner cornered

/-- The rule for crashes raises an ordinary alert. -/
theorem evaluateCrash_ordinary {previous : Option SpeedSample}
    (member : alert ∈ evaluateCrash packet previous) : Ordinary alert :=
  ordinary_of_mem_ite (ordinary_mk rfl (by decide) (by decide)) member

/-- The rule for signs raises ordinary alerts. -/
theorem evaluateSpeedLimitViolation_ordinary {features : List RoadFeature}
    (member : alert ∈ evaluateSpeedLimitViolation settings distance packet features) :
    Ordinary alert := by
  simp only [evaluateSpeedLimitViolation] at member
  split at member
  · exact absurd member List.not_mem_nil
  · rw [List.mem_singleton.mp member]
    exact ordinary_mk rfl (by decide) (by decide)

/-- No sensitive zone is about theft. -/
theorem sensitiveZones_ordinary {zone : RoadFeatureType × EventType × Severity × ℚ}
    (member : zone ∈ sensitiveZones settings) : zone.2.1 ≠ .THEFT_SUSPECTED := by
  simp only [sensitiveZones, List.mem_cons, List.not_mem_nil, or_false] at member
  rcases member with rfl | rfl | rfl <;> simp

/-- The rules for sensitive zones raise ordinary alerts. -/
theorem evaluateSensitiveZoneViolations_ordinary {features : List RoadFeature}
    (member : alert ∈ evaluateSensitiveZoneViolations settings distance packet features) :
    Ordinary alert := by
  obtain ⟨zone, listed, found⟩ := List.mem_flatMap.mp member
  have ordinary := sensitiveZones_ordinary listed
  simp only at found
  split at found
  · exact absurd found List.not_mem_nil
  · split at found
    · exact absurd found List.not_mem_nil
    · rw [List.mem_singleton.mp found]
      exact ordinary_mk rfl (by decide) ordinary

/-- The rules along roads raise ordinary alerts. -/
theorem evaluateRoadSafety_ordinary
    (member : alert ∈ evaluateRoadSafety settings distance packet) : Ordinary alert := by
  rw [evaluateRoadSafety] at member
  split at member
  · exact absurd member List.not_mem_nil
  · rcases List.mem_append.mp member with limit | zone
    · exact evaluateSpeedLimitViolation_ordinary limit
    · exact evaluateSensitiveZoneViolations_ordinary zone

/-- The rule for zones of work raises an ordinary alert. -/
theorem evaluateWorkBoundary_ordinary (member : alert ∈ evaluateWorkBoundary packet) :
    Ordinary alert := by
  simp only [evaluateWorkBoundary] at member
  split at member
  · exact absurd member List.not_mem_nil
  · rw [List.mem_singleton.mp member]
    exact ordinary_mk rfl (by decide) (by decide)

/-- The alerts of the theft rules, by their keys. -/
theorem movementAlerts_eq {start : Option Timestamp} (member : alert ∈ movementAlerts packet start) :
    movementDetected packet.payload.toTelemetryPayload = true ∧ alert = movementAlert := by
  unfold movementAlerts at member
  split at member
  · rename_i detected
    split at member
    · exact absurd member List.not_mem_nil
    · split at member
      · exact absurd member List.not_mem_nil
      · exact ⟨detected, List.mem_singleton.mp member⟩
  · exact absurd member List.not_mem_nil

/-- At night only one alert can be raised. -/
theorem nightAlerts_eq (member : alert ∈ nightAlerts packet) : alert = nightAlert := by
  rw [nightAlerts] at member
  split at member
  · exact List.mem_singleton.mp member
  · exact absurd member List.not_mem_nil

/-- A cut of power can raise only one alert. -/
theorem evaluatePowerCut_eq (member : alert ∈ evaluatePowerCut packet) : alert = powerCutAlert := by
  rw [evaluatePowerCut] at member
  split at member
  · exact List.mem_singleton.mp member
  · exact absurd member List.not_mem_nil

/-- What comes before the rules for theft is ordinary. -/
theorem earlyRules_ordinary {state : EngineState} {rule : List Alert}
    (listed : rule ∈ earlyRules packet settings state) (member : alert ∈ rule) : Ordinary alert := by
  simp only [earlyRules, List.mem_cons, List.not_mem_nil, or_false] at listed
  rcases listed with rfl | rfl | rfl
  · exact evaluateOverspeed_ordinary member
  · exact evaluateHarshDynamics_ordinary member
  · exact evaluateCrash_ordinary member

/-- The rules after the movement rule has noted its movement: what uses the key that a
packet without movement deletes is raised by a movement. -/
theorem lateRules_keyed {state : EngineState} {rule : List Alert}
    (listed : rule ∈ lateRules packet settings distance state) (member : alert ∈ rule) :
    Keyed alert ∧ (alert.key = .theftMovementActive →
      movementDetected packet.payload.toTelemetryPayload = true) := by
  have unlike (ordinary : Ordinary alert) : Keyed alert ∧ (alert.key = .theftMovementActive →
      movementDetected packet.payload.toTelemetryPayload = true) :=
    ⟨ordinary.toKeyed, fun same =>
      absurd (by rw [ordinary.typed, same, CooldownKey.eventType]) ordinary.ordinary⟩
  simp only [lateRules, List.mem_cons, List.not_mem_nil, or_false] at listed
  rcases listed with rfl | rfl | rfl | rfl
  · rcases List.mem_append.mp member with moving | night
    · obtain ⟨detected, same⟩ := movementAlerts_eq moving
      rw [same]
      exact ⟨⟨rfl, by decide⟩, fun _ => detected⟩
    · rw [nightAlerts_eq night]
      exact ⟨⟨rfl, by decide⟩, fun impossible => by cases impossible⟩
  · rw [evaluatePowerCut_eq member]
    exact ⟨⟨rfl, by decide⟩, fun impossible => by cases impossible⟩
  · exact unlike (evaluateRoadSafety_ordinary member)
  · exact unlike (evaluateWorkBoundary_ordinary member)

/-- Every alert that a rule calls for has a key of its type and a cooldown. -/
theorem called_keyed {state : EngineState} {rule : List Alert}
    (listed : rule ∈ called packet settings distance state) (member : alert ∈ rule) :
    Keyed alert := by
  rcases List.mem_append.mp listed with early | late
  · exact (earlyRules_ordinary early member).toKeyed
  · exact (lateRules_keyed late member).1

end Keys

section Emission

/-- The key of an alert is not held. -/
def Free (packet : Packet) (state : EngineState) (alert : Alert) : Prop :=
  read (state.keys alert.key) packet.now = none

instance (packet : Packet) (state : EngineState) (alert : Alert) : Decidable (Free packet state alert) :=
  inferInstanceAs (Decidable (read _ _ = none))

/-- The state after an alert has claimed its key. -/
def claimKey (packet : Packet) (state : EngineState) (alert : Alert) : EngineState :=
  { state with
    keys := Function.update state.keys alert.key
      (write () packet.now (alert.cooldownSeconds * 1000)) }

/-- The state after an alert has claimed its key and its event has been stored. -/
def storeAlert (packet : Packet) (state : EngineState) (alert : Alert) : EngineState :=
  { claimKey packet state alert with
    events := state.events ++ [⟨packet.payload.ts.epochMs, alert.type, alert.severity, packet.now⟩]
    stored := state.stored ++ [⟨alert, packet.now⟩] }

/-- An alert is dropped, claims its key in vain, or is stored. -/
theorem emit_cases (packet : Packet) (state : EngineState) (alert : Alert) :
    (¬ Free packet state alert ∧ emitWithCooldown packet state alert = (state, true)) ∨
      (Free packet state alert ∧
        (packet.outcome alert = .fails ∨ occupied packet state.events alert.type = true) ∧
        emitWithCooldown packet state alert = (claimKey packet state alert, false)) ∨
      (Free packet state alert ∧ packet.outcome alert ≠ .fails ∧
        occupied packet state.events alert.type = false ∧
        emitWithCooldown packet state alert =
          (storeAlert packet state alert, packet.outcome alert != .commitsThenThrows)) := by
  cases held : read (state.keys alert.key) packet.now with
  | some mark =>
    refine Or.inl ⟨by simp [Free, held], ?_⟩
    simp [emitWithCooldown, writeIfAbsent, held]
  | none =>
    refine Or.inr ?_
    by_cases refused : packet.outcome alert = .fails ∨ occupied packet state.events alert.type = true
    · refine Or.inl ⟨held, refused, ?_⟩
      simp [emitWithCooldown, writeIfAbsent, held, createFleetEvent, refused, claimKey]
    · refine Or.inr ⟨held, fun fails => refused (Or.inl fails), ?_, ?_⟩
      · exact Bool.eq_false_of_not_eq_true fun taken => refused (Or.inr taken)
      · simp [emitWithCooldown, writeIfAbsent, held, createFleetEvent, refused, claimKey, storeAlert]

variable {packet : Packet}

/-- One rule after the other. -/
theorem runRules_cons (state : EngineState) (rule : List Alert) (rules : List (List Alert)) :
    runRules packet state (rule :: rules) = runRules packet (emitAll packet state rule) rules := rfl

/-- An invariant of single alerts is an invariant of a rule. -/
theorem emitAll_induction (invariant : EngineState → Prop) {alerts : List Alert}
    (kept : ∀ alert ∈ alerts, ∀ state, invariant state →
      invariant (emitWithCooldown packet state alert).1)
    {state : EngineState} (initially : invariant state) :
    invariant (emitAll packet state alerts) := by
  induction alerts generalizing state with
  | nil => exact initially
  | cons alert rest inductionHypothesis =>
    have next := kept alert (List.mem_cons_self ..) state initially
    rw [emitAll]
    cases emitted : emitWithCooldown packet state alert with
    | mk after returned =>
      rw [emitted] at next
      cases returned with
      | true =>
        exact inductionHypothesis (fun other member => kept other (List.mem_cons_of_mem _ member)) next
      | false => exact next

/-- What each alert keeps is kept by a run of rules. -/
theorem runRules_induction (invariant : EngineState → Prop) {rules : List (List Alert)}
    (kept : ∀ rule ∈ rules, ∀ alert ∈ rule, ∀ state, invariant state →
      invariant (emitWithCooldown packet state alert).1)
    {state : EngineState} (initially : invariant state) :
    invariant (runRules packet state rules) := by
  induction rules generalizing state with
  | nil => exact initially
  | cons rule rest inductionHypothesis =>
    rw [runRules_cons]
    have first := emitAll_induction invariant (kept rule (List.mem_cons_self ..)) initially
    exact inductionHypothesis (fun other listed => kept other (List.mem_cons_of_mem _ listed)) first

/-- Storing alerts changes neither the beginning of a movement nor the last speed. -/
theorem runRules_samples (state : EngineState) (rules : List (List Alert)) :
    (runRules packet state rules).movementStart = state.movementStart ∧
      (runRules packet state rules).lastSpeed = state.lastSpeed := by
  refine runRules_induction
    (fun after => after.movementStart = state.movementStart ∧ after.lastSpeed = state.lastSpeed)
    ?_ ⟨rfl, rfl⟩
  intro rule _ alert _ after unchanged
  rcases emit_cases packet after alert with ⟨_, same⟩ | ⟨_, _, same⟩ | ⟨_, _, _, same⟩ <;>
    rw [same] <;> exact unchanged

/-- Tracking the movement creates no event. -/
theorem trackMovement_events (state : EngineState) :
    (trackMovement packet state).events = state.events ∧
      (trackMovement packet state).stored = state.stored := by
  unfold trackMovement
  split
  · split <;> exact ⟨rfl, rfl⟩
  · exact ⟨rfl, rfl⟩

end Emission

end EmotoFleet.RulesEngine
