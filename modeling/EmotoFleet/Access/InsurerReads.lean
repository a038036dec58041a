import EmotoFleet.Access.FleetTables
import EmotoFleet.Foundations.CivilDates
import EmotoFleet.Telemetry.LiveState

/-!
# What users list, and what reaches their sockets

The lists of bikes, trips, incidents and riders, the weekly report and the live messages
that a user gets. A user of an insurer is limited to the bikes under the name of the
insurer; each of these functions does so on its own, some by the role of the user, some by
the plan of its fleet. How the database searches texts is a parameter. Date texts are given
by the instants that they denote, and local days are those of the server, in UTC.
-/

namespace EmotoFleet.Access.Insurers

open Accounts (UserRole given)
open WhiteSpace (trim)
open Billing (FleetPlan BikeStatus)
open CanonicalJson (Json)
open CivilDates (CivilDate daysBeforeYear)
open LiveState (LiveBikeState)
open RulesEngine (EventType Severity)

/-- The user that a request is made by. -/
structure AuthenticatedUser where
  id : Id
  fleetId : Id
  fleetPlan : FleetPlan
  role : UserRole
  insurerName : Option String

/-! ## Conditions that the lists share -/

/-- How the database compares texts, without regard to case. There is a text for every
search. -/
structure TextSearch where
  contains : String → String → Bool
  found : ∀ wanted, ∃ text, contains text wanted = true

namespace TextSearch

variable (search : TextSearch)

/-- A missing text contains nothing. -/
def within (text : Option String) (wanted : String) : Bool :=
  text.any fun content => search.contains content wanted

end TextSearch

/-- The clauses of a search, if there is one. -/
def searched (wanted : Option String) (clauses : String → Bool) : Bool :=
  (given wanted).all clauses

/-- A value between two bounds, each of which may be missing. -/
def between {α : Type} [LE α] [DecidableLE α] (lower upper : Option α) (value : α) : Bool :=
  lower.all (fun bound => decide (bound ≤ value)) &&
    upper.all fun bound => decide (value ≤ bound)

/-- The bike of a row is there and has the given insurer, or none where none is given. -/
def bikeInsured (db : Database) (insurerName : Option String) (bikeId : Option Id) : Bool :=
  (bikeId.bind db.findBike).any fun bike => decide (bike.insurerName = insurerName)

/-- The page and the words of a search. -/
structure PaginationQueryDto extends PaginationQuery where
  search : Option String

section Lists

variable (search : TextSearch) (db : Database) (user : AuthenticatedUser)

/-! ## Bikes -/

/-- A command as a list of bikes shows it. -/
structure BikeCommand where
  id : Id
  type : String
  status : String
  updatedAt : Int
  errorMessage : Option String
  deriving DecidableEq

/-- A bike with its latest commands. -/
structure LoadedBike extends Bike where
  commands : List BikeCommand
  deriving DecidableEq

/-- The bikes that a user's list shows. -/
def selectsBike (query : PaginationQueryDto) (bike : Bike) : Bool :=
  (if user.fleetPlan = .INSURANCE then decide (bike.insurerName = user.insurerName)
    else decide (bike.fleetId = user.fleetId)) &&
  searched query.search fun wanted =>
    search.contains bike.label wanted || search.within bike.serial wanted ||
      search.within bike.plate wanted

/-- A bike comes with the latest command to lock or unlock it. -/
def loadBike (bike : Bike) : LoadedBike where
  toBike := bike
  commands := ((latestFirst DeviceCommand.createdAt (db.commands.filter fun command =>
    decide (command.bikeId = bike.id) && decide (command.type ∈ ["LOCK", "UNLOCK"]))).take 1).map
      fun command => ⟨command.id, command.type, command.status, command.updatedAt,
        command.errorMessage⟩

/-- The list of bikes. -/
def listBikesForUser (query : PaginationQueryDto) : PaginatedResponse LoadedBike :=
  createPaginatedResponse (latestFirst Bike.createdAt (db.bikes.filter (selectsBike search user query)))
    (getPaginationParams query.toPaginationQuery) (loadBike db)

/-! ## Trips -/

/-- How often each kind of event happened on a trip. -/
abbrev TripEventCounts := List (EventType × Nat)

/-- The kinds of events that are counted. -/
def tripEventTypes : List EventType :=
  [.OVERSPEED, .SPEED_LIMIT_VIOLATION, .SCHOOL_ZONE_SPEED, .HOSPITAL_ZONE_SPEED,
    .MARKET_ZONE_SPEED, .HARSH_BRAKE, .HARSH_ACCEL, .HARSH_CORNER, .CRASH, .THEFT_SUSPECTED]

/-- The counts of all kinds, zero where there is none. -/
def normalizeTripEventCounts (events : List Event) : TripEventCounts :=
  tripEventTypes.map fun type => (type, events.countP fun event => decide (event.type = type))

/-- A trip as the list shows it. -/
structure FleetTrip where
  id : Id
  fleetId : Id
  bikeId : Id
  bikeLabel : Option String
  bikePlate : Option String
  riderId : Option Id
  riderName : Option String
  startTs : Int
  endTs : Option Int
  distanceKm : ℚ
  durationSec : Int
  score : ℚ
  startBatteryPct : Option ℚ
  endBatteryPct : Option ℚ
  powerUsedPct : Option ℚ
  eventCounts : TripEventCounts
  deriving DecidableEq

/-- What a list of trips may be asked for. -/
structure ListTripsDto extends PaginationQueryDto where
  from_ : Option Int
  to_ : Option Int
  minScore : Option ℚ
  maxScore : Option ℚ
  minDistanceKm : Option ℚ
  maxDistanceKm : Option ℚ

/-- Whether a letter is a hexadecimal digit. -/
def isHexDigit (letter : Char) : Bool :=
  letter.isDigit || decide ('a' ≤ letter.toLower ∧ letter.toLower ≤ 'f')

/-- What each letter of a UUID may be. -/
def uuidRegex : List (Char → Bool) :=
  let hexDigits count := List.replicate count isHexDigit
  let dash letter := decide (letter = '-')
  let version letter := decide ('0' ≤ letter ∧ letter ≤ '5')
  hexDigits 8 ++ [dash] ++ hexDigits 4 ++ [dash] ++ version :: hexDigits 3 ++ [dash] ++
    hexDigits 4 ++ [dash] ++ hexDigits 12

/-- Whether a text is a UUID. -/
def isUuid (text : String) : Bool :=
  decide (text.length = uuidRegex.length) &&
    (uuidRegex.zip text.toList).all fun (accepts, letter) => accepts letter

/-- A trip is searched by its bike and the name of its rider, and by its identity where the
search is spelled like one. -/
def tripSearched (trip : Trip) (wanted : String) : Bool :=
  let bike := db.findBike trip.bikeId
  let rider := trip.riderId.bind db.findUser
  let cleanSearch := trim wanted
  search.within (bike.map Bike.label) wanted || search.within (bike.bind Bike.plate) wanted ||
    search.within (bike.bind Bike.serial) wanted ||
    search.within ((rider.bind User.riderProfile).map RiderProfile.fullName) wanted ||
    isUuid cleanSearch &&
      decide (trip.id = String.ofList (cleanSearch.toList.map Char.toLower))

/-- The trips that the limits of a query admit. -/
def ListTripsDto.admits (query : ListTripsDto) (trip : Trip) : Bool :=
  between query.from_ query.to_ trip.startTs && between query.minScore query.maxScore trip.score &&
    between query.minDistanceKm query.maxDistanceKm trip.distanceKm

/-- The trips that a user's list shows. -/
def selectsTrip (query : ListTripsDto) (trip : Trip) : Bool :=
  searched query.search (tripSearched search db trip) &&
    (if user.role = .INSURER then bikeInsured db user.insurerName (some trip.bikeId)
      else decide (trip.fleetId = user.fleetId)) &&
    query.admits trip

/-- The events of a finished trip's bike while it lasted. -/
def getTripEventCounts (trip : Trip) : TripEventCounts :=
  match trip.endTs with
  | none => normalizeTripEventCounts []
  | some endTs => normalizeTripEventCounts (db.events.filter fun event =>
      decide (event.bikeId = some trip.bikeId) &&
        (decide (event.fleetId = trip.fleetId) && within (trip.startTs, endTs) event.ts))

/-- What the list shows of a trip. -/
def toFleetTrip (trip : Trip) : FleetTrip :=
  let bike := db.findBike trip.bikeId
  let rider := trip.riderId.bind db.findUser
  { id := trip.id
    fleetId := trip.fleetId
    bikeId := trip.bikeId
    bikeLabel := bike.map Bike.label
    bikePlate := bike.bind Bike.plate
    riderId := trip.riderId
    riderName := (rider.bind User.riderProfile).map RiderProfile.fullName <|>
      rider.bind User.email <|> rider.bind User.phone
    startTs := trip.startTs
    endTs := trip.endTs
    distanceKm := trip.distanceKm
    durationSec := trip.durationSec
    score := trip.score
    startBatteryPct := trip.startBatteryPct
    endBatteryPct := trip.endBatteryPct
    powerUsedPct := trip.startBatteryPct.bind fun atStart =>
      trip.endBatteryPct.map fun atEnd => toFixed 2 (atStart - atEnd)
    eventCounts := getTripEventCounts db trip }

/-- The list of trips. -/
def listAllTripsForUser (query : ListTripsDto) : PaginatedResponse FleetTrip :=
  createPaginatedResponse
    (latestFirst Trip.startTs (db.trips.filter (selectsTrip search db user query)))
    (getPaginationParams query.toPaginationQuery) (toFleetTrip db)

/-! ## Incidents -/

/-- An incident as the list shows it. -/
structure FleetIncident where
  id : Id
  fleetId : Id
  bikeId : Option Id
  deviceId : Id
  eventId : Int
  status : IncidentStatus
  createdAt : Int
  updatedAt : Int
  acknowledgedByUserId : Option Id
  acknowledgedAt : Option Int
  resolvedByUserId : Option Id
  resolvedAt : Option Int
  notes : Option String
  eventType : EventType
  bikeLabel : Option String
  bikePlate : Option String
  deviceUid : String
  deriving DecidableEq

/-- The query names a status too, which the list does not look at. -/
structure ListIncidentsDto extends PaginationQueryDto where
  from_ : Option Int
  to_ : Option Int
  status : Option IncidentStatus

/-- Whether an incident has the words of a search. -/
def incidentSearched (incident : Incident) (wanted : String) : Bool :=
  let bike := incident.bikeId.bind db.findBike
  search.within (bike.map Bike.label) wanted || search.within (bike.bind Bike.plate) wanted ||
    search.contains incident.deviceUid wanted

/-- The incidents that a user's list shows. -/
def selectsIncident (query : ListIncidentsDto) (incident : Incident) : Bool :=
  (if user.fleetPlan = .INSURANCE then bikeInsured db user.insurerName incident.bikeId
    else decide (incident.fleetId = user.fleetId)) &&
  searched query.search (incidentSearched search db incident) &&
  between query.from_ query.to_ incident.createdAt

/-- What the list shows of an incident. -/
def toFleetIncident (incident : Incident) : FleetIncident :=
  let bike := incident.bikeId.bind db.findBike
  { id := incident.id
    fleetId := incident.fleetId
    bikeId := incident.bikeId
    deviceId := incident.deviceId
    eventId := incident.eventId
    status := incident.status
    createdAt := incident.createdAt
    updatedAt := incident.updatedAt
    acknowledgedByUserId := incident.acknowledgedByUserId
    acknowledgedAt := incident.acknowledgedAt
    resolvedByUserId := incident.resolvedByUserId
    resolvedAt := incident.resolvedAt
    notes := incident.notes
    eventType := incident.eventType
    bikeLabel := bike.map Bike.label
    bikePlate := bike.bind Bike.plate
    deviceUid := incident.deviceUid }

/-- The list of incidents. -/
def listIncidentsForUser (query : ListIncidentsDto) : PaginatedResponse FleetIncident :=
  createPaginatedResponse
    (latestFirst Incident.createdAt (db.incidents.filter (selectsIncident search db user query)))
    (getPaginationParams query.toPaginationQuery) (toFleetIncident db)

/-! ## Riders -/

/-- The list does not load the rider of an assignment, so that its name is missing. -/
structure AssignmentSummary where
  id : Id
  fleetId : Id
  bikeId : Id
  bikeLabel : Option String
  bikeStatus : Option BikeStatus
  riderUserId : Id
  riderFullName : Option String
  assignedAt : Int
  unassignedAt : Option Int
  active : Bool
  deriving DecidableEq

/-- A rider as the list shows them. -/
structure RiderSummary where
  id : Id
  fleetId : Id
  phone : Option String
  email : Option String
  status : String
  fullName : Option String
  activeAssignments : List AssignmentSummary
  licenceNumber : Option String
  identityNumber : Option String
  passportPhoto : Option String
  licencePhoto : Option String
  identityCardPhoto : Option String
  leaseToOwn : Bool
  leasePrincipal : Int
  leaseDownPayment : Int
  leaseDailyRate : Int
  paymentSchedule : String
  assignedRate : Int
  customScheduleDays : Option Int
  safetyScore : Int
  deriving DecidableEq

/-- What a list of riders may be asked for. -/
structure ListRidersDto extends PaginationQueryDto where
  bikeId : Option Id
  leaseToOwn : Option Bool

/-- Some active assignment of a rider passes a test. -/
def assigned (rider : User) (test : BikeAssignment → Bool) : Bool :=
  db.assignments.any fun assignment =>
    decide (assignment.riderUserId = rider.id) && assignment.active && test assignment

/-- A bike that is asked for takes the place of the condition on the insurer. -/
def selectsAssignments (query : ListRidersDto) (rider : User) : Bool :=
  match given query.bikeId with
  | some bikeId => assigned db rider fun assignment => decide (assignment.bikeId = bikeId)
  | none =>
    if user.fleetPlan = .INSURANCE then
      assigned db rider fun assignment => bikeInsured db user.insurerName (some assignment.bikeId)
    else true

/-- The riders that a user's list shows. -/
def selectsRider (query : ListRidersDto) (rider : User) : Bool :=
  decide (rider.role = .RIDER) &&
    (decide (user.fleetPlan = .INSURANCE) || decide (rider.fleetId = user.fleetId)) &&
    selectsAssignments db user query rider &&
    query.leaseToOwn.all (fun wanted =>
      rider.riderProfile.any fun profile => decide (profile.leaseToOwn = wanted)) &&
    searched query.search fun wanted =>
      search.within rider.email wanted || search.within rider.phone wanted ||
        search.within (rider.riderProfile.map RiderProfile.fullName) wanted

/-- What the list shows of an assignment. -/
def toAssignmentSummary (assignment : BikeAssignment) : AssignmentSummary :=
  let bike := db.findBike assignment.bikeId
  { id := assignment.id
    fleetId := assignment.fleetId
    bikeId := assignment.bikeId
    bikeLabel := bike.map Bike.label
    bikeStatus := bike.map Bike.status
    riderUserId := assignment.riderUserId
    riderFullName := none
    assignedAt := assignment.assignedAt
    unassignedAt := assignment.unassignedAt
    active := assignment.active }

/-- The scores of trips, weighted by their distances if there are any. -/
def weightedScore (trips : List Trip) : ℚ :=
  let totalDistance := (trips.map Trip.distanceKm).sum
  if 0 < totalDistance then
    (trips.map fun trip => trip.score * trip.distanceKm).sum / totalDistance
  else (trips.map Trip.score).sum / trips.length

/-- The score of a rider from all its trips of the last thirty days. -/
def safetyScore (now : Int) (riderId : Id) : Int :=
  let trips := db.trips.filter fun trip =>
    decide (trip.riderId = some riderId ∧ now - 30 * millisPerDay ≤ trip.startTs)
  if trips = [] then 100 else mathRound (weightedScore trips)

/-- What the list shows of a rider. -/
def toRiderSummary (now : Int) (rider : User) : RiderSummary :=
  let profile := rider.riderProfile
  { id := rider.id
    fleetId := rider.fleetId
    phone := rider.phone
    email := rider.email
    status := rider.status
    fullName := profile.map RiderProfile.fullName
    activeAssignments := (latestFirst BikeAssignment.assignedAt (db.assignments.filter
      fun assignment => decide (assignment.riderUserId = rider.id) && assignment.active)).map
        (toAssignmentSummary db)
    licenceNumber := profile.bind RiderProfile.licenceNumber
    identityNumber := profile.bind RiderProfile.identityNumber
    passportPhoto := profile.bind RiderProfile.passportPhoto
    licencePhoto := profile.bind RiderProfile.licencePhoto
    identityCardPhoto := profile.bind RiderProfile.identityCardPhoto
    leaseToOwn := (profile.map RiderProfile.leaseToOwn).getD false
    leasePrincipal := (profile.map RiderProfile.leasePrincipal).getD 2500000
    leaseDownPayment := (profile.map RiderProfile.leaseDownPayment).getD 0
    leaseDailyRate := (profile.map RiderProfile.leaseDailyRate).getD 15000
    paymentSchedule := (profile.map RiderProfile.paymentSchedule).getD "DAILY"
    assignedRate := (profile.map RiderProfile.assignedRate).getD 15000
    customScheduleDays := profile.bind RiderProfile.customScheduleDays
    safetyScore := safetyScore db now rider.id }

/-- The list of riders. -/
def listRidersForUser (now : Int) (query : ListRidersDto) : PaginatedResponse RiderSummary :=
  createPaginatedResponse
    (latestFirst User.createdAt (db.users.filter (selectsRider search db user query)))
    (getPaginationParams query.toPaginationQuery) (toRiderSummary db now)

end Lists

end EmotoFleet.Access.Insurers
