import EmotoFleet.Access.InsurerReads

/-!
# The weekly report and the live messages

The report is made of the trips and events of a range of days. The live messages of a
session are those that the server sends to the rooms of the fleets that the session joined.

Scores are exact up to the decimals that are kept. Days are those of universal time, which
is also the time of the server.
-/

namespace EmotoFleet.Access.Insurers

open Accounts (given)
open WhiteSpace (trim)
open CanonicalJson (Json)
open CivilDates (CivilDate daysBeforeYear)
open LiveState (LiveBikeState)
open RulesEngine (EventType Severity)

/-! ## The weekly report -/

section Reports

/-- A bound of a report, as an instant or as a day; a text that names none is invalid. -/
inductive ReportBound where
  | instant (time : Option Int)
  | day (midnight : Option Int)

/-- The instant at which a report begins. -/
def ReportBound.start : ReportBound → Option Int
  | .instant time => time
  | .day midnight => midnight

/-- The instant at which a report ends, the last of its day. -/
def ReportBound.finish : ReportBound → Option Int
  | .instant time => time
  | .day midnight => midnight.map (· + (millisPerDay - 1))

/-- The range that a report is asked for. -/
structure ReportQueryDto where
  from_ : Option ReportBound
  to_ : Option ReportBound

/-- The range of a report, by default the seven days before its end. -/
def reportRange (now : Int) (query : ReportQueryDto) : Option (Int × Int) := do
  let finish ← query.to_.elim (some now) ReportBound.finish
  let start ← query.from_.elim (some (finish - 7 * millisPerDay)) ReportBound.start
  return (start, finish)

/-- A risky bike as the report shows it. -/
structure WeeklyRiskBike where
  bikeId : Id
  label : String
  tripCount : Nat
  avgScore : ℚ
  eventCount : Nat
  deriving DecidableEq

/-- A risky rider as the report shows them. -/
structure WeeklyRiskRider where
  riderId : Id
  fullName : String
  tripCount : Nat
  avgScore : ℚ
  deriving DecidableEq

/-- The report of a week. -/
structure WeeklyReport where
  range : Int × Int
  tripCount : Nat
  avgScore : ℚ
  eventCounts : TripEventCounts
  topRiskyBikes : List WeeklyRiskBike
  topRiskyRiders : List WeeklyRiskRider
  dailyScores : List (String × ℚ)
  deriving DecidableEq

/-- The scores of trips, each as often as its distance. -/
def weightedScoreSum (trips : List Trip) : ℚ := (trips.map fun trip => trip.score * trip.distanceKm).sum

/-- The distance of trips. -/
def totalDistance (trips : List Trip) : ℚ := (trips.map Trip.distanceKm).sum

/-- The score of a bike or a rider, which is full without a distance. -/
def averageOf (trips : List Trip) : ℚ :=
  if 0 < totalDistance trips then weightedScoreSum trips / totalDistance trips else 100

/-- A text that tells something, or else the beginning of an identity. -/
def labelOr (kind : String) (id : Id) (fetched : Option String) : String :=
  (fetched.filter fun text => decide (trim text ≠ "" ∧ text ≠ "Unknown")).getD
    (kind ++ " (" ++ String.ofList (id.toList.take 8) ++ ")")

/-- The bikes with the lowest scores. -/
def buildTopRiskyBikes (trips : List Trip) (events : List Event) (bikeLabels : List (Id × String)) :
    List WeeklyRiskBike :=
  let bikeIds := (trips.map Trip.bikeId ++ events.filterMap Event.bikeId).eraseDups
  let bikes := bikeIds.map fun bikeId =>
    let ofBike := trips.filter fun trip => decide (trip.bikeId = bikeId)
    let eventCount := events.countP fun event => decide (event.bikeId = some bikeId)
    let riskIndex : ℚ := 100 - averageOf ofBike + eventCount / max ofBike.length 1 * 2
    (riskIndex, WeeklyRiskBike.mk bikeId (labelOr "Bike" bikeId (bikeLabels.lookup bikeId))
      ofBike.length (toFixed 2 (averageOf ofBike)) eventCount)
  ((bikes.mergeSort fun left right => decide (right.1 ≤ left.1)).take 5).map (·.2)

/-- The riders with the lowest scores. -/
def buildTopRiskyRiders (trips : List Trip) (riderNames : List (Id × String)) :
    List WeeklyRiskRider :=
  let riders := (trips.filterMap Trip.riderId).eraseDups.map fun riderId =>
    let ofRider := trips.filter fun trip => decide (trip.riderId = some riderId)
    WeeklyRiskRider.mk riderId (labelOr "Rider" riderId (riderNames.lookup riderId)) ofRider.length
      (toFixed 2 (averageOf ofRider))
  (riders.mergeSort fun left right => decide (left.avgScore ≤ right.avgScore)).take 5

/-- The month and the day of a date, as two digits each. -/
def monthAndDay (day : Int) : String :=
  let date := CivilDate.ofDayNumber (day + daysBeforeYear 1970).toNat
  let padded (number : Nat) := (if number < 10 then "0" else "") ++ toString number
  padded date.month ++ "-" ++ padded date.day

/-- The score of each day of the range, which is full without trips. -/
def dailyScores (range : Int × Int) (trips : List Trip) : List (String × ℚ) :=
  let days := if range.2 < range.1 then 0 else ((range.2 - range.1) / millisPerDay).toNat + 1
  (List.range days).map fun offset =>
    let day := (range.1 + offset * millisPerDay) / millisPerDay
    let ofDay := trips.filter fun trip => decide (trip.startTs / millisPerDay = day)
    (monthAndDay day, if ofDay = [] then 100 else toFixed 2 (weightedScore ofDay))

variable (db : Database) (user : AuthenticatedUser)

/-- The bikes of a report: those of a named insurer, for other insurers all of them, and
otherwise those of the fleet. -/
def reportsOn (fleetId : Id) (bikeId : Option Id) : Bool :=
  if user.role = .INSURER then
    (given user.insurerName).all fun name => bikeInsured db (some name) bikeId
  else decide (fleetId = user.fleetId)

/-- The trips that a report is about. -/
def reportTrips (range : Int × Int) : List Trip :=
  db.trips.filter fun trip =>
    within range trip.startTs && reportsOn db user trip.fleetId (some trip.bikeId)

/-- The events that a report is about. -/
def reportEvents (range : Int × Int) : List Event :=
  db.events.filter fun event =>
    within range event.ts && reportsOn db user event.fleetId event.bikeId

/-- The labels of bikes. -/
def loadBikeLabels (bikeIds : List Id) : List (Id × String) :=
  (db.bikes.filter fun bike => decide (bike.id ∈ bikeIds)).map fun bike => (bike.id, bike.label)

/-- The names of riders. -/
def loadRiderNames (riderIds : List Id) : List (Id × String) :=
  (db.users.filter fun user => decide (user.id ∈ riderIds)).map fun user =>
    (user.id, ((given ((user.riderProfile).map RiderProfile.fullName)) <|> given user.email <|>
      given user.phone).getD ("Rider (" ++ String.ofList (user.id.toList.take 8) ++ ")"))

/-- A range with a bound that names no instant has no report. -/
def getWeeklyReport (now : Int) (query : ReportQueryDto) : Option WeeklyReport :=
  (reportRange now query).map fun range =>
    let trips := reportTrips db user range
    let events := reportEvents db user range
    let bikeLabels :=
      loadBikeLabels db (trips.map Trip.bikeId ++ events.filterMap Event.bikeId)
    let riderNames := loadRiderNames db (trips.filterMap Trip.riderId)
    { range
      tripCount := trips.length
      avgScore := toFixed 2 (if trips = [] then 100 else weightedScore trips)
      eventCounts := normalizeTripEventCounts events
      topRiskyBikes := buildTopRiskyBikes trips events bikeLabels
      topRiskyRiders := buildTopRiskyRiders trips riderNames
      dailyScores := dailyScores range trips }

end Reports

/-! ## Live messages -/

section Gateway

/-- An event as it is published. -/
structure FleetEvent where
  id : String
  fleetId : Id
  bikeId : Option Id
  deviceId : Id
  ts : Int
  type : EventType
  severity : Severity
  metaJson : Json ℚ
  createdAt : Int

/-- The status of a command as it is published. -/
structure CommandStatusPayload where
  commandId : Id
  status : String
  ts : Int
  bikeId : Option Id
  deviceId : Option Id
  action : Option String
  message : Option String

/-- An incident as it is published. -/
structure IncidentBroadcastPayload where
  id : Id
  bikeId : Option Id
  deviceId : Id
  eventId : String
  status : IncidentStatus
  createdAt : Int

/-- A change of the fleet as it is published. -/
structure FleetUpdatedPayload where
  plan : Option String
  type : Option String
  subscriptionStatus : Option String

/-- What other parts of the service hand to the gateway, the state of a bike with the time. -/
inductive Publication where
  | bikeState (now : Int) (state : LiveBikeState)
  | newEvent (fleetId : Id) (event : FleetEvent)
  | commandStatus (fleetId : Id) (payload : CommandStatusPayload)
  | newIncident (fleetId : Id) (payload : IncidentBroadcastPayload)
  | fleetUpdated (fleetId : Id) (payload : FleetUpdatedPayload)

/-- The state of a bike as a client gets it. -/
structure BikeStatePayload where
  fleetId : Id
  bikeId : Id
  deviceId : Id
  ts : String
  lat : ℚ
  lng : ℚ
  speedKph : ℚ
  heading : Option ℚ
  batteryV : Option ℚ
  batteryPct : Option ℚ
  ignition : Option Bool

/-- An event as a client gets it. -/
structure EventPayload where
  id : String
  bikeId : Option Id
  deviceId : Id
  ts : Int
  type : EventType
  severity : Severity
  metaJson : Json ℚ
  createdAt : Int

/-- The messages that a client gets. -/
inductive Message where
  | bike_state (payload : BikeStatePayload)
  | new_event (payload : EventPayload)
  | command_status (payload : CommandStatusPayload)
  | new_incident (payload : IncidentBroadcastPayload)
  | fleet_updated (payload : FleetUpdatedPayload)

/-- A bike's state goes out once a second. -/
def BIKE_STATE_EMIT_THROTTLE_MS : Int := 1000

/-- What a client gets of a bike's state. -/
def toBikeStatePayload (state : LiveBikeState) : BikeStatePayload where
  fleetId := state.fleetId
  bikeId := state.bikeId
  deviceId := state.deviceId
  ts := state.ts.text
  lat := state.lat
  lng := state.lng
  speedKph := state.speedKph
  heading := state.heading
  batteryV := state.batteryV
  batteryPct := state.batteryPct
  ignition := state.ignition

/-- What a client gets of an event. -/
def toEventPayload (event : FleetEvent) : EventPayload where
  id := event.id
  bikeId := event.bikeId
  deviceId := event.deviceId
  ts := event.ts
  type := event.type
  severity := event.severity
  metaJson := event.metaJson
  createdAt := event.createdAt

/-- The messages that are sent, each with the fleet of its room. The state of a bike is
sent at most once a second. -/
def emissions (lastBikeStateEmitAt : String → Int) : List Publication → List (Id × Message)
  | [] => []
  | .bikeState now state :: rest =>
    let emitKey := state.fleetId ++ ":" ++ state.bikeId
    if now - lastBikeStateEmitAt emitKey < BIKE_STATE_EMIT_THROTTLE_MS then
      emissions lastBikeStateEmitAt rest
    else
      (state.fleetId, .bike_state (toBikeStatePayload state)) ::
        emissions (Function.update lastBikeStateEmitAt emitKey now) rest
  | .newEvent fleetId event :: rest =>
    (fleetId, .new_event (toEventPayload event)) :: emissions lastBikeStateEmitAt rest
  | .commandStatus fleetId payload :: rest =>
    (fleetId, .command_status payload) :: emissions lastBikeStateEmitAt rest
  | .newIncident fleetId payload :: rest =>
    (fleetId, .new_incident payload) :: emissions lastBikeStateEmitAt rest
  | .fleetUpdated fleetId payload :: rest =>
    (fleetId, .fleet_updated payload) :: emissions lastBikeStateEmitAt rest

/-- The fleets of the rooms that a session joins. -/
def uniqueFleetIds (db : Database) (user : AuthenticatedUser) : List Id :=
  if user.role = .INSURER then
    ((db.bikes.filter fun bike => decide (bike.insurerName = user.insurerName)).map
      Bike.fleetId).eraseDups
  else [user.fleetId]

/-- The answer to a subscription, and the messages that follow. -/
structure LiveSession where
  fleetIds : List Id
  messages : List Message

/-- A session that is there from the start of the server. -/
def liveSession (db : Database) (published : List Publication) (user : AuthenticatedUser) :
    LiveSession where
  fleetIds := uniqueFleetIds db user
  messages := (emissions (fun _ => 0) published).filterMap fun (fleetId, message) =>
    if fleetId ∈ uniqueFleetIds db user then some message else none

end Gateway

/-! ## All that a user gets -/

/-- The tables, and what is handed to the gateway during a session. -/
structure FleetState where
  db : Database
  published : List Publication

/-- The requests of an insurer. -/
inductive InsurerRequest where
  | bikes (query : PaginationQueryDto)
  | trips (query : ListTripsDto)
  | incidents (query : ListIncidentsDto)
  | riders (now : Int) (query : ListRidersDto)
  | weeklyReport (now : Int) (query : ReportQueryDto)
  | live

/-- The answers to an insurer. -/
inductive InsurerReply where
  | bikes (page : PaginatedResponse LoadedBike)
  | trips (page : PaginatedResponse FleetTrip)
  | incidents (page : PaginatedResponse FleetIncident)
  | riders (page : PaginatedResponse RiderSummary)
  | weeklyReport (report : Option WeeklyReport)
  | live (session : LiveSession)

/-- The answers to the requests. -/
def answer (search : TextSearch) (state : FleetState) (user : AuthenticatedUser) :
    InsurerRequest → InsurerReply
  | .bikes query => .bikes (listBikesForUser search state.db user query)
  | .trips query => .trips (listAllTripsForUser search state.db user query)
  | .incidents query => .incidents (listIncidentsForUser search state.db user query)
  | .riders now query => .riders (listRidersForUser search state.db user now query)
  | .weeklyReport now query => .weeklyReport (getWeeklyReport state.db user now query)
  | .live => .live (liveSession state.db state.published user)

end EmotoFleet.Access.Insurers
