import EmotoFleet.Telemetry.TheftRules
import Mathlib.Algebra.Order.Group.Unbundled.Abs

/-!
# Processing a telemetry packet

A packet that has passed the schema, signature and nonce checks is tested for
timestamp drift, filtered, stored, cached and evaluated by the rules, in that
order. Everything after the drift filter sees the filtered position and speed
and the packet's own ignition flag.

The world is what one device's packets read and write: its bike's cache entry,
its rule keys, its stored points and the theft events raised so far. The server
reads its clock once for a packet. The stream publication and the trip builder
come after the rules or beside them and are left out.
-/

namespace EmotoFleet.Ingestion

open Expiring LiveState TheftRules

def MQTT_MAX_TIMESTAMP_DRIFT_MS : Int := 5 * 60 * 1000

structure DeviceForIngestion where
  id : String
  fleetId : String
  bikeId : Option String
  deviceUid : String
deriving DecidableEq

def DeviceForIngestion.ruleContext (device : DeviceForIngestion) : RuleDeviceContext :=
  ⟨device.id, device.fleetId, device.bikeId⟩

/-- A payload together with the server's clock when it is processed. -/
structure Packet where
  receivedAt : Int
  payload : TelemetryPayload
deriving DecidableEq

/-- A stored telemetry point of the device, unique in its instant. -/
structure TelemetryPoint where
  ts : Int
  lat : ℚ
  lng : ℚ
  speedKph : ℚ
  heading : Option ℚ
  batteryV : Option ℚ
  batteryPct : Option ℚ
  ignition : Option Bool
deriving DecidableEq

structure World where
  liveState : Cell LiveBikeState
  theftKeys : TheftKeys
  telemetry : List TelemetryPoint
  lastSeenAt : Option Int
  raised : List TheftSuspected

/-- Stored points are keyed by device and instant; a repeated instant replaces the
values of its point. -/
def upsertTelemetryPoint (points : List TelemetryPoint) (point : TelemetryPoint) :
    List TelemetryPoint :=
  if points.any fun stored => stored.ts == point.ts then
    points.map fun stored => if stored.ts = point.ts then point else stored
  else points ++ [point]

def buildLiveBikeState (device : DeviceForIngestion) (bikeId : String)
    (payload : TelemetryPayload) : LiveBikeState where
  fleetId := device.fleetId
  bikeId := bikeId
  deviceId := device.id
  deviceUid := device.deviceUid
  ts := payload.ts
  lat := payload.lat
  lng := payload.lng
  speedKph := payload.speedKph
  heading := payload.heading
  batteryV := payload.batteryV
  batteryPct := payload.batteryPct
  ignition := payload.ignition

def assertTimestampDrift (ts : Timestamp) (nowMs : Int) : Except String Unit :=
  if |nowMs - ts.epochMs| > MQTT_MAX_TIMESTAMP_DRIFT_MS then
    throw "Timestamp drift exceeds 5 minute window"
  else pure ()

/-- What the handlers need from outside: the distance between two positions and
whether a position lies in a park zone of the fleet. -/
structure Geography where
  calculateHaversineDistanceMeters : ℚ → ℚ → ℚ → ℚ → ℚ
  insideParkZone : ℚ → ℚ → Bool

variable (geography : Geography) (device : DeviceForIngestion)

/-- The payload with the filtered position and speed. -/
def filteredPayload (world : World) (packet : Packet) : TelemetryPayload :=
  let payload := packet.payload
  let filtered := filterStationaryDrift geography.calculateHaversineDistanceMeters
    world.liveState packet.receivedAt device.bikeId
    ⟨payload.lat, payload.lng, payload.speedKph, payload.ignition⟩
  { payload with lat := filtered.lat, lng := filtered.lng, speedKph := filtered.speedKph }

/-- The handler after the authenticity checks. -/
def processTelemetryPayload (world : World) (packet : Packet) : Except String World := do
  assertTimestampDrift packet.payload.ts packet.receivedAt
  let payload := filteredPayload geography device world packet
  let telemetry := upsertTelemetryPoint world.telemetry
    { ts := payload.ts.epochMs, lat := payload.lat, lng := payload.lng,
      speedKph := payload.speedKph, heading := payload.heading, batteryV := payload.batteryV,
      batteryPct := payload.batteryPct, ignition := payload.ignition }
  let liveState := match device.bikeId with
    | some bikeId => setLatestBikeState world.liveState packet.receivedAt
        (buildLiveBikeState device bikeId payload)
    | none => world.liveState
  let (theftKeys, events) := evaluateTelemetry geography.insideParkZone device.ruleContext
    packet.receivedAt payload world.theftKeys
  pure { liveState, theftKeys, telemetry, lastSeenAt := some payload.ts.epochMs,
         raised := world.raised ++ events }

/-- A packet that is refused leaves the world as it was. -/
def receive (world : World) (packet : Packet) : World :=
  match processTelemetryPayload geography device world packet with
  | .ok next => next
  | .error _ => world

/-- The world after packets processed one after another. -/
def receiveAll (world : World) (packets : List Packet) : World :=
  packets.foldl (receive geography device) world

/-- A packet stamped within five minutes of its arrival. -/
def Timely (packet : Packet) : Prop :=
  |packet.receivedAt - packet.payload.ts.epochMs| ≤ MQTT_MAX_TIMESTAMP_DRIFT_MS

instance (packet : Packet) : Decidable (Timely packet) := inferInstanceAs (Decidable (_ ≤ _))

/-- The rules' verdict on a packet in a given world. -/
def verdict (world : World) (packet : Packet) : TheftKeys × List TheftSuspected :=
  evaluateTelemetry geography.insideParkZone device.ruleContext packet.receivedAt
    (filteredPayload geography device world packet) world.theftKeys

/-- Without a cached position the payload is only rounded and clamped. -/
theorem filteredPayload_unfixed (world : World) (packet : Packet)
    (unfixed : cachedFix world.liveState packet.receivedAt = none) :
    filteredPayload geography device world packet =
      { packet.payload with
        lat := roundCoordinate packet.payload.lat, lng := roundCoordinate packet.payload.lng,
        speedKph := clampNoise packet.payload.speedKph } := by
  simp only [filteredPayload, filter_without_fix _ _ _ _ _ unfixed]

/-- With a cached position, an ignition-off payload takes that position and stands
still. -/
theorem filteredPayload_parked (world : World) (packet : Packet) (bikeId : String)
    (cached : LiveBikeState) (assigned : device.bikeId = some bikeId)
    (fixed : cachedFix world.liveState packet.receivedAt = some cached)
    (off : packet.payload.ignition = some false) :
    filteredPayload geography device world packet =
      { packet.payload with lat := cached.lat, lng := cached.lng, speedKph := 0 } := by
  have parked := filter_parked geography.calculateHaversineDistanceMeters world.liveState
    packet.receivedAt bikeId
    ⟨packet.payload.lat, packet.payload.lng, packet.payload.speedKph, packet.payload.ignition⟩
    cached fixed off
  simp only [filteredPayload, assigned, parked]

/-- What a timely packet of an assigned bike does to each part of the world. -/
theorem receive_timely (world : World) (packet : Packet) (bikeId : String)
    (assigned : device.bikeId = some bikeId) (timely : Timely packet) :
    let next := receive geography device world packet
    next.liveState = setLatestBikeState world.liveState packet.receivedAt
        (buildLiveBikeState device bikeId (filteredPayload geography device world packet)) ∧
      next.theftKeys = (verdict geography device world packet).1 ∧
      next.raised = world.raised ++ (verdict geography device world packet).2 := by
  have inside : ¬ |packet.receivedAt - packet.payload.ts.epochMs| > MQTT_MAX_TIMESTAMP_DRIFT_MS :=
    not_lt.mpr timely
  simp [receive, processTelemetryPayload, assertTimestampDrift, inside, assigned, verdict,
    bind, Except.bind, pure, Except.pure]

@[simp] theorem receiveAll_nil (world : World) : receiveAll geography device world [] = world :=
  rfl

theorem receiveAll_append (world : World) (before after : List Packet) :
    receiveAll geography device world (before ++ after) =
      receiveAll geography device (receiveAll geography device world before) after :=
  List.foldl_append

end EmotoFleet.Ingestion
