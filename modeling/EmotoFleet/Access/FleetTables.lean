import EmotoFleet.Accounts.UserIdentities
import EmotoFleet.Billing.BillingTables
import EmotoFleet.Foundations.CanonicalJson
import EmotoFleet.Telemetry.RulesEngine

/-!
# The tables that insurers and partners read

Identities are texts, times are milliseconds since the epoch, decimals are rationals.
An incident comes with what its reads always include: the time and the type of its event
and the name of its device. Columns that no read returns or tests are left out.
-/

namespace EmotoFleet.Access

open Accounts (UserRole given)
open Billing (FleetPlan BikeStatus)
open CanonicalJson (Json)
open RulesEngine (EventType Severity)

/-- The identities are texts. -/
abbrev Id := String

/-- A text that is none of the given ones. -/
theorem exists_fresh (ids : List Id) : ∃ id : Id, id ∉ ids := by
  have bounded : ∀ id ∈ ids, id.toList.length ≤ (ids.flatMap String.toList).length := by
    intro id listed
    induction ids with
    | nil => cases listed
    | cons first rest inductionHypothesis =>
      rw [List.flatMap_cons, List.length_append]
      cases List.mem_cons.mp listed with
      | inl same => rw [same]; omega
      | inr later =>
        have := inductionHypothesis later
        omega
  refine ⟨String.ofList ('x' :: ids.flatMap String.toList), ?_⟩
  intro listed
  have short := bounded _ listed
  rw [String.toList_ofList, List.length_cons] at short
  omega

/-- A fleet. -/
structure Fleet where
  name : String
  plan : FleetPlan
  insurerName : Option String
  deriving DecidableEq

/-- What is known of a rider. -/
structure RiderProfile where
  fullName : String
  licenceNumber : Option String
  identityNumber : Option String
  passportPhoto : Option String
  licencePhoto : Option String
  identityCardPhoto : Option String
  leaseToOwn : Bool
  leasePrincipal : Int
  leaseDownPayment : Int
  leaseDailyRate : Int
  paymentSchedule : String
  assignedRate : Int
  customScheduleDays : Option Int
  deriving DecidableEq

/-- An account. -/
structure User where
  id : Id
  fleetId : Id
  role : UserRole
  email : Option String
  phone : Option String
  status : String
  createdAt : Int
  riderProfile : Option RiderProfile
  deriving DecidableEq

/-- A bike. -/
structure Bike where
  id : Id
  fleetId : Id
  label : String
  plate : Option String
  serial : Option String
  model : Option String
  insurerName : Option String
  status : BikeStatus
  imageUrl : Option String
  type : Option String
  leaseToOwn : Bool
  createdAt : Int
  updatedAt : Int
  deriving DecidableEq

/-- A bike given to a rider. -/
structure BikeAssignment where
  id : Id
  fleetId : Id
  bikeId : Id
  riderUserId : Id
  assignedAt : Int
  unassignedAt : Option Int
  active : Bool
  deriving DecidableEq

/-- A trip. -/
structure Trip where
  id : Id
  fleetId : Id
  bikeId : Id
  riderId : Option Id
  startTs : Int
  endTs : Option Int
  distanceKm : ℚ
  durationSec : Int
  score : ℚ
  startBatteryPct : Option ℚ
  endBatteryPct : Option ℚ
  deriving DecidableEq

/-- An event. -/
structure Event where
  id : Int
  fleetId : Id
  bikeId : Option Id
  deviceId : Id
  ts : Int
  type : EventType
  severity : Severity
  metaJson : Json ℚ

/-- The states of an incident. -/
inductive IncidentStatus where
  | OPEN
  | ACKNOWLEDGED
  | RESOLVED
  | FALSE_ALARM
  deriving DecidableEq

/-- An incident, with its event and its device. -/
structure Incident where
  id : Id
  fleetId : Id
  bikeId : Option Id
  deviceId : Id
  deviceUid : String
  eventId : Int
  eventTs : Int
  eventType : EventType
  status : IncidentStatus
  createdAt : Int
  updatedAt : Int
  acknowledgedByUserId : Option Id
  acknowledgedAt : Option Int
  resolvedByUserId : Option Id
  resolvedAt : Option Int
  notes : Option String
  deriving DecidableEq

/-- The evidence pack of an incident. -/
structure EvidencePack where
  id : Id
  s3KeyJson : String
  s3KeyCsv : String
  createdAt : Int
  deriving DecidableEq

/-- A command to a device. -/
structure DeviceCommand where
  id : Id
  bikeId : Id
  type : String
  status : String
  createdAt : Int
  updatedAt : Int
  errorMessage : Option String
  deriving DecidableEq

/-- A fleet opened to a partner. -/
structure PartnerFleetAccess where
  partnerId : Id
  fleetId : Id
  active : Bool
  deriving DecidableEq

/-- The database, with the keys that lookups rely on. -/
structure Database where
  users : List User
  fleets : Id → Option Fleet
  bikes : List Bike
  assignments : List BikeAssignment
  trips : List Trip
  events : List Event
  incidents : List Incident
  commands : List DeviceCommand
  accesses : List PartnerFleetAccess
  evidencePacks : Id → Option EvidencePack
  userKeys : (users.map User.id).Nodup
  bikeKeys : (bikes.map Bike.id).Nodup
  incidentKeys : (incidents.map Incident.id).Nodup
  accessKeys : (accesses.map fun access => (access.partnerId, access.fleetId)).Nodup

namespace Database

/-- Without accesses their key is unique. -/
theorem noAccess_key :
    (([] : List PartnerFleetAccess).map fun access => (access.partnerId, access.fleetId)).Nodup :=
  List.nodup_nil

variable (db : Database)

/-- The account of an identity. -/
def findUser (id : Id) : Option User :=
  db.users.find? fun user => decide (user.id = id)

/-- The bike of an identity. -/
def findBike (id : Id) : Option Bike :=
  db.bikes.find? fun bike => decide (bike.id = id)

/-- The incident of an identity. -/
def findIncident (id : Id) : Option Incident :=
  db.incidents.find? fun incident => decide (incident.id = id)

end Database

/-! ## Pages -/

/-- The page that is asked for. -/
structure PaginationQuery where
  page : Option Nat
  pageSize : Option Nat
  limit : Option Nat

/-- The page that is read. -/
structure PaginationParams where
  page : Nat
  pageSize : Nat
  skip : Nat
  take : Nat

/-- The page to read for a query. -/
def getPaginationParams (query : PaginationQuery) : PaginationParams :=
  let parsedPage := query.page.getD 1
  let parsedPageSize := (query.pageSize <|> query.limit).getD 20
  let page := if 0 < parsedPage then parsedPage else 1
  let pageSize := if 0 < parsedPageSize then parsedPageSize else 20
  ⟨page, pageSize, (page - 1) * pageSize, pageSize⟩

/-- A page of an answer. -/
structure PaginatedResponse (α : Type) where
  data : List α
  page : Nat
  pageSize : Nat
  total : Nat
  totalPages : Nat
  deriving DecidableEq

/-- One page of the rows that a search found, and how many it found. -/
def createPaginatedResponse {ρ α : Type} (rows : List ρ) (pagination : PaginationParams)
    (present : ρ → α) : PaginatedResponse α where
  data := ((rows.drop pagination.skip).take pagination.take).map present
  page := pagination.page
  pageSize := pagination.pageSize
  total := rows.length
  totalPages := max 1 ((rows.length + pagination.pageSize - 1) / pagination.pageSize)

/-- A page shows nothing but its own rows. -/
theorem page_congr_of_page {ρ α : Type} {rows : List ρ} {pagination : PaginationParams}
    {present presentOther : ρ → α}
    (alike : ∀ row ∈ (rows.drop pagination.skip).take pagination.take,
      present row = presentOther row) :
    createPaginatedResponse rows pagination present =
      createPaginatedResponse rows pagination presentOther := by
  rw [createPaginatedResponse, createPaginatedResponse]
  congr 1
  exact List.map_congr_left alike

/-- A page is made of rows that the search found. -/
theorem page_congr {ρ α : Type} {rows : List ρ} {pagination : PaginationParams}
    {present presentOther : ρ → α} (alike : ∀ row ∈ rows, present row = presentOther row) :
    createPaginatedResponse rows pagination present =
      createPaginatedResponse rows pagination presentOther := by
  apply page_congr_of_page
  intro row onPage
  exact alike row (List.mem_of_mem_drop (List.mem_of_mem_take onPage))

/-- The latest rows first. -/
def latestFirst {ρ : Type} (time : ρ → Int) (rows : List ρ) : List ρ :=
  rows.mergeSort fun left right => decide (time right ≤ time left)

/-! ## Times and numbers -/

/-- The milliseconds of a day. -/
def millisPerDay : Int := 24 * 60 * 60 * 1000

/-- Whether an instant lies in a range. -/
def within (range : Int × Int) (time : Int) : Bool :=
  decide (range.1 ≤ time ∧ time ≤ range.2)

/-- Rounding to the nearest whole number, halves upwards. -/
def mathRound (value : ℚ) : Int :=
  ⌊value + 1 / 2⌋

/-- The decimals that are kept, halves away from zero. -/
def toFixed (digits : Nat) (value : ℚ) : ℚ :=
  if value < 0 then -(mathRound (-value * 10 ^ digits) / 10 ^ digits)
  else mathRound (value * 10 ^ digits) / 10 ^ digits

end EmotoFleet.Access
