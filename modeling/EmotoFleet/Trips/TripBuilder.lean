import EmotoFleet.Billing.PaygBilling
import EmotoFleet.Foundations.Spans
import EmotoFleet.Telemetry.Ingestion
import Mathlib.Data.List.Sort

/-!
# The trip builder

Every telemetry packet of a device is turned into a change of a small runtime state,
which is kept for a day: whether a trip is active, since when there has been movement
or idling, which packet was processed last and when the last trip ended. A packet that
ends a trip writes it to the trips of the bike, in place of those that it overlaps.

Timestamps are instants in milliseconds. The great-circle distance is a parameter, and
distances are exact. Scores, riders and battery levels of a trip, and the stream of trip
summaries, are left out.
-/

namespace EmotoFleet.TripBuilder

open Expiring
open EmotoFleet.Spans
open EmotoFleet.Billing (Trip overlaps)
open EmotoFleet.TheftRules (RuleDeviceContext TelemetryPayload)
open EmotoFleet.Ingestion (TelemetryPoint)

/-- What the builder remembers between packets. -/
structure TripRuntimeState where
  activeStartTs : Option Int
  candidateStartTs : Option Int
  idleSinceTs : Option Int
  lastProcessedTs : Option Int
  lastTripEndTs : Option Int
deriving DecidableEq

/-- What is loaded where nothing is stored. -/
def emptyState : TripRuntimeState := ⟨none, none, none, none, none⟩

/-- The thresholds of the builder. -/
structure TripSettings where
  startSpeedKph : ℚ
  endSpeedKph : ℚ
  startMovementSeconds : Int
  endIdleSeconds : Int
  maxTripDurationSeconds : Int
  minTripDistanceKm : ℚ
  minTripDurationSec : Int
  tripCooldownSec : Int

/-- The thresholds without environment settings. -/
def defaultSettings : TripSettings := ⟨5, 5, 30, 300, 43200, 1 / 5, 60, 60⟩

/-- The state is kept for a day. -/
def STATE_TTL_MS : Int := 60 * 60 * 24 * 1000
/-- The mark of a finalisation is kept for two minutes. -/
def FINALIZING_TTL_MS : Int := 120 * 1000

/-! What a packet makes of the runtime state -/

/-- The state that is saved while the device is idle. -/
def handleIdleState (settings : TripSettings) (state : TripRuntimeState) (nowMs : Int)
    (movingForStart ignitionOn : Bool) : TripRuntimeState :=
  let inCooldown := state.lastTripEndTs.any fun lastTripEndTs =>
    decide (nowMs - lastTripEndTs < settings.tripCooldownSec * 1000)
  if ignitionOn && !inCooldown then
    { state with activeStartTs := some nowMs, candidateStartTs := none, idleSinceTs := none }
  else if !movingForStart then { state with candidateStartTs := none }
  else
    match state.candidateStartTs with
    | none => { state with candidateStartTs := some nowMs }
    | some candidateStartTs =>
      if settings.startMovementSeconds * 1000 ≤ nowMs - candidateStartTs then
        { state with
          activeStartTs := some candidateStartTs
          candidateStartTs := none
          idleSinceTs := none }
      else state

/-- What is to be done about a packet. A packet that is older than the last one is
discarded. -/
inductive Decision where
  | discard
  | idle (state : TripRuntimeState)
  | tooLong (activeStartTs : Int)
  | ongoing (state : TripRuntimeState)
  | ended (activeStartTs tripEndTs : Int) (state : TripRuntimeState)

/-- What a packet does to the loaded state. -/
def decision (settings : TripSettings) (loaded : TripRuntimeState) (payload : TelemetryPayload) :
    Decision :=
  let nowMs := payload.ts.epochMs
  if loaded.lastProcessedTs.any fun lastProcessedTs => decide (nowMs < lastProcessedTs) then .discard
  else
    let state := { loaded with lastProcessedTs := some nowMs }
    let movingForStart := decide (settings.startSpeedKph ≤ payload.speedKph)
    let noMovement := !decide (settings.endSpeedKph ≤ payload.speedKph)
    match state.activeStartTs with
    | none =>
      .idle (handleIdleState settings state nowMs movingForStart
        (decide (payload.ignition = some true)))
    | some activeStartTs =>
      -- trips that last too long come from faulty ignition wires or drifting positions
      if settings.maxTripDurationSeconds * 1000 ≤ nowMs - activeStartTs then .tooLong activeStartTs
      else
        let idleSinceTs := if noMovement then some (state.idleSinceTs.getD nowMs) else none
        let shouldEndByIgnition := decide (payload.ignition = some false) && noMovement
        let shouldEndByIdle := noMovement && idleSinceTs.any fun since =>
          decide (settings.endIdleSeconds * 1000 ≤ nowMs - since)
        if !shouldEndByIgnition && !shouldEndByIdle then
          .ongoing { state with idleSinceTs := idleSinceTs }
        else
          let tripEndTs := if shouldEndByIdle then idleSinceTs.getD nowMs else nowMs
          .ended activeStartTs tripEndTs
            { state with
              activeStartTs := none
              candidateStartTs := none
              idleSinceTs := none
              lastTripEndTs := some tripEndTs }

/-! What the handlers read and write -/

/-- What the packets of one device read and write. The rides that were written are a
note of the model. -/
structure TripStore where
  now : Int
  state : Cell TripRuntimeState
  finalizing : Cell Int
  telemetry : List TelemetryPoint
  trips : List Trip
  created : List (Span Int)

/-- The device's tracker, its bike and the settings of the service, and the distance
between two positions in kilometres. -/
structure Builder where
  device : RuleDeviceContext
  bikeId : String
  settings : TripSettings
  haversineDistanceKm : ℚ → ℚ → ℚ → ℚ → ℚ

variable (builder : Builder)

/-- The distance along points. -/
def computeDistanceKm : List TelemetryPoint → ℚ
  | first :: second :: rest =>
    builder.haversineDistanceKm first.lat first.lng second.lat second.lng +
      computeDistanceKm (second :: rest)
  | _ => 0

/-- Rounding as the source does it. -/
def roundToDecimals (value : ℚ) (decimals : Nat) : ℚ :=
  (⌊value * 10 ^ decimals + 1 / 2⌋ : ℚ) / 10 ^ decimals

/-- The points of a ride. -/
def tripPoints (telemetry : List TelemetryPoint) (ride : Span Int) : List TelemetryPoint :=
  (telemetry.filter fun point => decide (ride.start ≤ point.ts ∧ point.ts ≤ ride.stop)).insertionSort
    fun first second => first.ts ≤ second.ts

/-- Rides that are too short in distance or duration are noise. -/
def isNoise (telemetry : List TelemetryPoint) (ride : Span Int) : Bool :=
  let distanceKm := roundToDecimals (computeDistanceKm builder (tripPoints telemetry ride)) 3
  let durationSec := max 0 ((ride.stop - ride.start) / 1000)
  decide (distanceKm < builder.settings.minTripDistanceKm) ||
    decide (durationSec < builder.settings.minTripDurationSec)

/-- The trip of a ride. -/
def tripOf (ride : Span Int) : Trip :=
  ⟨builder.device.fleetId, builder.bikeId, ride.start, some ride.stop⟩

/-- The trips that do not overlap a finished one. -/
def deleteOverlaps (trips : List Trip) (finished : Trip) : List Trip :=
  trips.filter (!overlaps · finished)

/-- The start of a trip is unique for its bike. -/
def isTaken (trips : List Trip) (finished : Trip) : Bool :=
  trips.any fun trip => trip.bikeId == finished.bikeId && trip.startTs == finished.startTs

namespace TripStore

variable (store : TripStore)

/-- The state, or the empty one where none is kept. -/
def loadState : TripRuntimeState := (read store.state store.now).getD emptyState

/-- The state is kept for a day from now. -/
def saveState (state : TripRuntimeState) : TripStore :=
  { store with state := write state store.now STATE_TTL_MS }

/-- No state is kept. -/
def clearState : TripStore := { store with state := none }

/-- A finalisation is marked. -/
def setFinalizing (tripEndTs : Int) : TripStore :=
  { store with finalizing := write tripEndTs store.now FINALIZING_TTL_MS }

/-- The mark is taken away. -/
def clearFinalizing : TripStore := { store with finalizing := none }

/-- Whether a finalisation is marked. -/
def isFinalizing : Bool := (read store.finalizing store.now).isSome

/-- A trip is created unless its key is taken; a duplicate is dropped. -/
def createTrip (ride : Span Int) : TripStore :=
  if isTaken store.trips (tripOf builder ride) then store
  else
    { store with
      trips := store.trips ++ [tripOf builder ride]
      created := store.created ++ [ride] }

/-- The trips that a ride overlaps are deleted. -/
def deleteTrips (ride : Span Int) : TripStore :=
  { store with trips := deleteOverlaps store.trips (tripOf builder ride) }

/-- An empty ride and noise are dropped. -/
def finalizeTrip (ride : Span Int) : TripStore :=
  if ride.stop ≤ ride.start then store
  else if isNoise builder store.telemetry ride then store
  else (store.deleteTrips builder ride).createTrip builder ride

/-- The handler of a packet, without anything in between. -/
def processTelemetryForTrips (payload : TelemetryPayload) : TripStore :=
  match decision builder.settings store.loadState payload with
  | .discard => store
  | .idle state => if store.isFinalizing then store else store.saveState state
  | .tooLong activeStartTs =>
    store.clearState.finalizeTrip builder ⟨activeStartTs, payload.ts.epochMs⟩
  | .ongoing state => store.saveState state
  | .ended activeStartTs tripEndTs state =>
    (((store.setFinalizing tripEndTs).saveState state).finalizeTrip builder
      ⟨activeStartTs, tripEndTs⟩).clearFinalizing

end TripStore

/-- A bike that is ridden along a meridian, with the default settings, and packets and
points of its tracker. The runs written out in the following modules use them. -/
def defaultBuilder : Builder where
  device := ⟨"device-1", "fleet-1", some "bike-1"⟩
  bikeId := "bike-1"
  settings := defaultSettings
  haversineDistanceKm := fun lat1 _ lat2 _ => |lat2 - lat1| * (11119 / 100)

/-- The store before the first packet. -/
def newStore : TripStore := ⟨0, none, none, [], [], []⟩

/-- A point at an instant. -/
def pointAt (ts : Int) (lat : ℚ) : TelemetryPoint := ⟨ts, lat, 30, 20, none, none, none, some true⟩

/-- A packet of a bike that rides. -/
def ridingAt (ts : Int) : TelemetryPayload :=
  ⟨⟨"", ts⟩, -2, 30, 20, none, none, none, some true, none⟩

/-- A packet of a bike that is parked. -/
def parkedAt (ts : Int) : TelemetryPayload :=
  ⟨⟨"", ts⟩, -2, 30, 0, none, none, none, some false, none⟩

end EmotoFleet.TripBuilder
