import EmotoFleet.Access.FleetTables

/-!
# What partners read

A partner authenticates with a client of its own; the account with the partner's identity,
if there is one, says through the plan of its fleet whether the partner is an insurer and
under which name it insures. Every read takes one state of the database. The log of
accesses is left out, and of an evidence pack what the reply holds is kept, not the files
that it points at.
-/

namespace EmotoFleet.Access

open Accounts (UserRole given)
open Billing (FleetPlan BikeStatus)
open CanonicalJson (Json)
open RulesEngine (EventType Severity)

/-- The partner that a key stands for. -/
structure AuthenticatedPartner where
  partnerId : Id
  scopes : List String

/-- The two refusals of the service. -/
inductive Failure where
  | forbidden (message : String)
  | notFound (message : String)
  deriving DecidableEq

/-- The plan and the name in the fleet of the account with the partner's identity. -/
def partnerFleet (db : Database) (partnerId : Id) : Option Fleet :=
  (db.findUser partnerId).bind fun user => db.fleets user.fleetId

/-- The name under which the partner insures. -/
def partnerInsurerName (db : Database) (partnerId : Id) : Option String :=
  (partnerFleet db partnerId).bind (·.insurerName)

/-- Whether the partner is an insurer. -/
def isInsurerPartner (db : Database) (partnerId : Id) : Bool :=
  (partnerFleet db partnerId).any fun fleet => decide (fleet.plan = .INSURANCE)

/-- Whether the partner has been given the fleet, and not lost it. -/
def hasActiveAccess (db : Database) (partnerId fleetId : Id) : Bool :=
  (db.accesses.find? fun access =>
    decide (access.partnerId = partnerId ∧ access.fleetId = fleetId)).any (·.active)

/-- A request needs its scope. -/
def assertScope (partner : AuthenticatedPartner) (requiredScope : String) : Except Failure Unit :=
  if requiredScope ∈ partner.scopes then .ok ()
  else .error (.forbidden "Partner scope not granted")

/-- A request about a fleet needs access to it. -/
def assertFleetAccess (db : Database) (partnerId fleetId : Id) : Except Failure Unit :=
  match isInsurerPartner db partnerId, given (partnerInsurerName db partnerId) with
  | true, some insurerName =>
    if db.bikes.any fun bike =>
        decide (bike.fleetId = fleetId ∧ bike.insurerName = some insurerName) then .ok ()
    else .error (.forbidden "Partner fleet access denied (no insured bikes in this fleet)")
  | _, _ =>
    if hasActiveAccess db partnerId fleetId then .ok ()
    else .error (.forbidden "Partner fleet access denied")

/-- For a bike, or what is on one: the partner insures it by name, if it is an insurer. -/
def assertInsured (db : Database) (partnerId : Id) (insurerName : Option String) (message : String) :
    Except Failure Unit :=
  if isInsurerPartner db partnerId then
    if (given (partnerInsurerName db partnerId)).isSome ∧
        insurerName = partnerInsurerName db partnerId then .ok ()
    else .error (.forbidden message)
  else .ok ()

/-- A condition on the bike of a row; without one there is no condition. -/
def matchesBike (db : Database) (bikeFilter : Option String) (bikeId : Option Id) : Bool :=
  match bikeFilter with
  | none => true
  | some insurerName =>
    (bikeId.bind db.findBike).any fun bike => decide (bike.insurerName = some insurerName)

/-- The range that a partner may ask for. -/
structure PartnerDateRangeDto where
  from_ : Option Int
  to_ : Option Int

/-- The range that is asked for, by default the seven days before its end. -/
def resolveTimeRange (now : Int) (query : PartnerDateRangeDto) : Int × Int :=
  let until_ := query.to_.getD now
  (query.from_.getD (until_ - 7 * millisPerDay), until_)

/-! ## The replies -/

/-- The figures of a fleet's week. -/
structure PartnerWeeklySummary where
  fleetId : Id
  range : Int × Int
  tripCount : Nat
  eventCount : Nat
  incidentCount : Nat
  crashCount : Nat
  avgScore : ℚ
  deriving DecidableEq

/-- A trip as a partner sees it. -/
structure PartnerTripSummary where
  id : Id
  bikeId : Id
  startTs : Int
  endTs : Option Int
  durationSec : Int
  distanceKm : ℚ
  score : ℚ
  deriving DecidableEq

/-- A bike as a partner sees it. -/
structure PartnerBike where
  id : Id
  fleetId : Id
  fleetName : String
  label : String
  plate : Option String
  serial : Option String
  model : Option String
  status : BikeStatus
  insurerName : Option String
  createdAt : Int
  deriving DecidableEq

/-- An event of an incident's timeline. -/
structure PartnerIncidentTimelineEvent where
  id : Int
  ts : Int
  type : EventType
  severity : Severity
  metaJson : Json ℚ

/-- An incident as a partner sees it. -/
structure PartnerIncidentDetails where
  incidentId : Id
  fleetId : Id
  bikeId : Option Id
  deviceId : Id
  eventId : Int
  status : IncidentStatus
  createdAt : Int
  acknowledgedAt : Option Int
  resolvedAt : Option Int
  timeline : List PartnerIncidentTimelineEvent

/-- An evidence pack as a partner sees it. -/
structure IncidentEvidencePackResponse where
  evidencePackId : Id
  incidentId : Id
  fleetId : Id
  createdAt : Int
  s3KeyJson : String
  s3KeyCsv : String
  deriving DecidableEq

/-- The score of a rider. -/
structure RiderSafetyScore where
  riderId : Id
  riderName : Option String
  avgScore : Int
  tripCount : Nat
  periodStart : Int
  periodEnd : Int
  deriving DecidableEq

/-- The distance of a bike's week. -/
structure BikeWeeklyMileage where
  bikeId : Id
  bikeLabel : String
  weeklyMileageKm : ℚ
  tripCount : Nat
  periodStart : Int
  periodEnd : Int
  deriving DecidableEq

/-- The answers of the service. -/
inductive PartnerReply where
  | weeklySummary (summary : PartnerWeeklySummary)
  | bikeTrips (page : PaginatedResponse PartnerTripSummary)
  | bikes (page : PaginatedResponse PartnerBike)
  | incident (details : PartnerIncidentDetails)
  | evidencePack (pack : IncidentEvidencePackResponse)
  | riderSafetyScore (score : RiderSafetyScore)
  | bikeWeeklyMileage (mileage : BikeWeeklyMileage)

/-! ## The reads -/

/-- The clock, and the identity that a new evidence pack would get. -/
structure Moment where
  now : Int
  newPackId : Id

section Reads

variable (moment : Moment) (db : Database) (partner : AuthenticatedPartner)

/-- The condition that an insurer with a name puts on the bikes of a summary. -/
def summaryBikeFilter : Option String :=
  if isInsurerPartner db partner.partnerId then given (partnerInsurerName db partner.partnerId)
  else none

/-- The average score of trips, full without any. -/
def averageScore (trips : List Trip) : ℚ :=
  if trips = [] then 100 else (trips.map (·.score)).sum / trips.length

/-- The week of a fleet that the partner has access to. -/
def getWeeklySummaryForPartner (fleetId : Id) (query : PartnerDateRangeDto) :
    Except Failure PartnerReply := do
  assertScope partner "insurer:read"
  assertFleetAccess db partner.partnerId fleetId
  let bikeFilter := summaryBikeFilter db partner
  let range := resolveTimeRange moment.now query
  let trips := db.trips.filter fun trip => decide (trip.fleetId = fleetId) &&
    within range trip.startTs && matchesBike db bikeFilter (some trip.bikeId)
  let events := db.events.filter fun event => decide (event.fleetId = fleetId) &&
    within range event.ts && matchesBike db bikeFilter event.bikeId
  let incidents := db.incidents.filter fun incident => decide (incident.fleetId = fleetId) &&
    within range incident.createdAt && matchesBike db bikeFilter incident.bikeId
  .ok (.weeklySummary
    { fleetId := fleetId
      range := range
      tripCount := trips.length
      eventCount := events.length
      incidentCount := incidents.length
      crashCount := (events.filter fun event => decide (event.type = .CRASH)).length
      avgScore := averageScore trips })

/-- What a partner sees of a trip. -/
def toPartnerTripSummary (trip : Trip) : PartnerTripSummary :=
  ⟨trip.id, trip.bikeId, trip.startTs, trip.endTs, trip.durationSec, trip.distanceKm, trip.score⟩

/-- The range and the page of a request for trips. -/
structure PartnerListTripsDto extends PartnerDateRangeDto where
  page : Option Nat
  pageSize : Option Nat

/-- The trips of a bike of a fleet that the partner has access to. -/
def listBikeTripsForPartner (bikeId : Id) (query : PartnerListTripsDto) :
    Except Failure PartnerReply := do
  assertScope partner "insurer:read"
  match db.findBike bikeId with
  | none => .error (.notFound "Bike not found")
  | some bike =>
    assertFleetAccess db partner.partnerId bike.fleetId
    assertInsured db partner.partnerId bike.insurerName "Access to this bike is denied"
    let range := resolveTimeRange moment.now query.toPartnerDateRangeDto
    let trips := db.trips.filter fun trip => decide (trip.fleetId = bike.fleetId) &&
      decide (trip.bikeId = bike.id) && within range trip.startTs
    .ok (.bikeTrips (createPaginatedResponse (latestFirst Trip.startTs trips)
      (getPaginationParams ⟨query.page, query.pageSize, none⟩) toPartnerTripSummary))

/-- The bikes that a partner lists. An insurer without a name lists those of a name that
no insurer is meant to have. -/
def listsBike (bike : Bike) : Bool :=
  if isInsurerPartner db partner.partnerId then
    decide (bike.insurerName = some ((given (partnerInsurerName db partner.partnerId)).getD
      "____non_existent_insurer____"))
  else
    (db.accesses.filter fun access =>
      decide (access.partnerId = partner.partnerId) && access.active).any
        fun access => decide (access.fleetId = bike.fleetId)

/-- What a partner sees of a bike. -/
def toPartnerBike (bike : Bike) : PartnerBike where
  id := bike.id
  fleetId := bike.fleetId
  fleetName := ((db.fleets bike.fleetId).map (·.name)).getD "No Fleet"
  label := bike.label
  plate := bike.plate
  serial := bike.serial
  model := bike.model
  status := bike.status
  insurerName := bike.insurerName
  createdAt := bike.createdAt

/-- The bikes that the partner has access to. -/
def listBikesForPartner (query : PaginationQuery) : Except Failure PartnerReply := do
  assertScope partner "insurer:read"
  let bikes := db.bikes.filter (listsBike db partner)
  .ok (.bikes (createPaginatedResponse (latestFirst Bike.createdAt bikes)
    (getPaginationParams query) (toPartnerBike db)))

/-- Whether a key names a coordinate. -/
def isLocationKey (key : String) : Bool :=
  let lowered := key.toList.map Char.toLower
  let holds (word : String) := (List.range lowered.length).any fun start =>
    word.toList.isPrefixOf (lowered.drop start)
  decide (lowered = "lat".toList) || decide (lowered = "lng".toList) || holds "latitude" ||
    holds "longitude"

mutual

/-- Locations lose their precision, wherever they are nested. -/
def roundLocationPrecision : Json ℚ → Json ℚ
  | .array items => .array (roundItems items)
  | .object fields => .object (roundFields fields)
  | .null => .null
  | .bool value => .bool value
  | .number value => .number value
  | .string value => .string value

/-- The items of an array, each with its locations rounded. -/
def roundItems : List (Json ℚ) → List (Json ℚ)
  | [] => []
  | item :: rest => roundLocationPrecision item :: roundItems rest

/-- The fields of an object, with the locations rounded. -/
def roundFields : CanonicalJson.Fields ℚ → CanonicalJson.Fields ℚ
  | [] => []
  | (key, .number value) :: rest =>
    (key, .number (if isLocationKey key then toFixed 3 value else value)) :: roundFields rest
  | (key, value) :: rest => (key, roundLocationPrecision value) :: roundFields rest

end

/-- Half an hour to each side of an incident. -/
def incidentTimelineWindowMs : Int := 30 * 60 * 1000

/-- The events of the bike around an incident. -/
def loadIncidentTimeline (incident : Incident) : List PartnerIncidentTimelineEvent :=
  let range :=
    (incident.eventTs - incidentTimelineWindowMs, incident.eventTs + incidentTimelineWindowMs)
  let events := db.events.filter fun event => decide (event.fleetId = incident.fleetId) &&
    within range event.ts &&
      (if incident.bikeId.isSome then decide (event.bikeId = incident.bikeId)
      else decide (event.deviceId = incident.deviceId))
  (events.mergeSort fun left right => decide (left.ts ≤ right.ts)).map fun event =>
    ⟨event.id, event.ts, event.type, event.severity, roundLocationPrecision event.metaJson⟩

/-- The insurer of the bike of an incident. -/
def incidentInsurerName (incident : Incident) : Option String :=
  (incident.bikeId.bind db.findBike).bind (·.insurerName)

/-- An incident of a fleet that the partner has access to. -/
def getIncidentForPartner (incidentId : Id) : Except Failure PartnerReply := do
  assertScope partner "insurer:read"
  match db.findIncident incidentId with
  | none => .error (.notFound "Incident not found")
  | some incident =>
    assertFleetAccess db partner.partnerId incident.fleetId
    assertInsured db partner.partnerId (incidentInsurerName db incident)
      "Access to this incident is denied"
    .ok (.incident
      { incidentId := incident.id
        fleetId := incident.fleetId
        bikeId := incident.bikeId
        deviceId := incident.deviceId
        eventId := incident.eventId
        status := incident.status
        createdAt := incident.createdAt
        acknowledgedAt := incident.acknowledgedAt
        resolvedAt := incident.resolvedAt
        timeline := loadIncidentTimeline db incident })

/-- The stored pack of an incident, or the one that is made now. -/
def getOrCreateEvidencePack (incident : Incident) : IncidentEvidencePackResponse :=
  let evidenceBaseKey := s!"evidence/{incident.fleetId}/{incident.id}"
  let pack := (db.evidencePacks incident.id).getD
    ⟨moment.newPackId, evidenceBaseKey ++ "/summary.json",
      evidenceBaseKey ++ "/telemetry-window.csv", moment.now⟩
  ⟨pack.id, incident.id, incident.fleetId, pack.createdAt, pack.s3KeyJson, pack.s3KeyCsv⟩

/-- The evidence pack of such an incident. -/
def getIncidentEvidencePackForPartner (incidentId : Id) : Except Failure PartnerReply := do
  assertScope partner "insurer:read"
  match db.findIncident incidentId with
  | none => .error (.notFound "Incident not found")
  | some incident =>
    assertInsured db partner.partnerId (incidentInsurerName db incident)
      "Access to this evidence pack is denied"
    if incident.eventType ≠ .CRASH then
      .error (.forbidden "Evidence packs are available only for crash incidents")
    else if hasActiveAccess db partner.partnerId incident.fleetId then
      .ok (.evidencePack (getOrCreateEvidencePack moment db incident))
    else .error (.forbidden "Partner fleet access denied")

/-- The rider of an identity. -/
def findRider (riderId : Id) : Option User :=
  db.users.find? fun user => decide (user.id = riderId ∧ user.role = .RIDER)

/-- For an insurer: some bike under its name, or without a name if it has none, is
assigned to the rider. -/
def assertInsuresRider (riderId : Id) : Except Failure Unit :=
  if isInsurerPartner db partner.partnerId then
    if db.bikes.any fun bike =>
        decide (bike.insurerName = partnerInsurerName db partner.partnerId) &&
          db.assignments.any fun assignment =>
            decide (assignment.bikeId = bike.id ∧ assignment.riderUserId = riderId) &&
              assignment.active then .ok ()
    else .error (.forbidden "Access to this rider score is denied")
  else .ok ()

/-- The score of a rider of a fleet that the partner has access to. -/
def getRiderSafetyScore (riderId : Id) : Except Failure PartnerReply := do
  assertScope partner "insurer:read"
  match findRider db riderId with
  | none => .error (.notFound "Rider not found")
  | some rider =>
    assertInsuresRider db partner rider.id
    let thirtyDaysAgo := moment.now - 30 * millisPerDay
    let trips := db.trips.filter fun trip =>
      decide (trip.riderId = some rider.id ∧ thirtyDaysAgo ≤ trip.startTs)
    .ok (.riderSafetyScore
      { riderId := rider.id
        riderName := (rider.riderProfile.map (·.fullName)) <|> rider.email
        avgScore := mathRound (averageScore trips)
        tripCount := trips.length
        periodStart := thirtyDaysAgo
        periodEnd := moment.now })

/-- For an insurer: the bike is under its name, or without one if the insurer has none. -/
def assertInsuresBike (bike : Bike) : Except Failure Unit :=
  if isInsurerPartner db partner.partnerId ∧
      bike.insurerName ≠ partnerInsurerName db partner.partnerId then
    .error (.forbidden "Access to this bike mileage is denied")
  else .ok ()

/-- The distance of a bike of such a fleet. -/
def getBikeWeeklyMileage (bikeId : Id) : Except Failure PartnerReply := do
  assertScope partner "insurer:read"
  match db.findBike bikeId with
  | none => .error (.notFound "Bike not found")
  | some bike =>
    assertInsuresBike db partner bike
    let sevenDaysAgo := moment.now - 7 * millisPerDay
    let trips := db.trips.filter fun trip =>
      decide (trip.bikeId = bike.id ∧ sevenDaysAgo ≤ trip.startTs)
    .ok (.bikeWeeklyMileage
      { bikeId := bike.id
        bikeLabel := bike.label
        weeklyMileageKm := mathRound ((trips.map (·.distanceKm)).sum * 100) / 100
        tripCount := trips.length
        periodStart := sevenDaysAgo
        periodEnd := moment.now })

/-- The requests of a partner. -/
inductive PartnerRequest where
  | weeklySummary (fleetId : Id) (query : PartnerDateRangeDto)
  | bikeTrips (bikeId : Id) (query : PartnerListTripsDto)
  | bikes (query : PaginationQuery)
  | incident (incidentId : Id)
  | evidencePack (incidentId : Id)
  | riderSafetyScore (riderId : Id)
  | bikeWeeklyMileage (bikeId : Id)

/-- The answers to the requests. -/
def answer : PartnerRequest → Except Failure PartnerReply
  | .weeklySummary fleetId query => getWeeklySummaryForPartner moment db partner fleetId query
  | .bikeTrips bikeId query => listBikeTripsForPartner moment db partner bikeId query
  | .bikes query => listBikesForPartner db partner query
  | .incident incidentId => getIncidentForPartner db partner incidentId
  | .evidencePack incidentId => getIncidentEvidencePackForPartner moment db partner incidentId
  | .riderSafetyScore riderId => getRiderSafetyScore moment db partner riderId
  | .bikeWeeklyMileage bikeId => getBikeWeeklyMileage moment db partner bikeId

end Reads

end EmotoFleet.Access
