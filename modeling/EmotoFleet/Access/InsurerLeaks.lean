import EmotoFleet.Access.InsurerIsolation

/-!
# Where the replies to an insurer reach beyond its bikes

Rows of which the insurer sees nothing are added to a state, one table at a time. Where a
request does not keep to the view, such rows show in the reply: most lists count one row
more, and a room carries one message more.
-/

namespace EmotoFleet.Access.Insurers

open Accounts (given)
open Billing (FleetPlan BikeStatus)
open Tables (find?_key_iff unique_append_iff)
open Views

/-! ## Rows out of sight -/

section Growth

variable (state : FleetState) {user : AuthenticatedUser}

/-- One more bike. -/
def addBike (bike : Bike) (new : bike.id ∉ state.db.bikes.map Bike.id) : FleetState :=
  { state with
    db := { state.db with
      bikes := state.db.bikes ++ [bike]
      bikeKeys := (unique_append_iff bike).mpr ⟨state.db.bikeKeys, new⟩ } }

/-- One more trip. -/
def addTrip (trip : Trip) : FleetState :=
  { state with db := { state.db with trips := state.db.trips ++ [trip] } }

/-- One more incident. -/
def addIncident (incident : Incident) (new : incident.id ∉ state.db.incidents.map Incident.id) :
    FleetState :=
  { state with
    db := { state.db with
      incidents := state.db.incidents ++ [incident]
      incidentKeys := (unique_append_iff incident).mpr ⟨state.db.incidentKeys, new⟩ } }

/-- One more account. -/
def addUser (row : User) (new : row.id ∉ state.db.users.map User.id) : FleetState :=
  { state with
    db := { state.db with
      users := state.db.users ++ [row]
      userKeys := (unique_append_iff row).mpr ⟨state.db.userKeys, new⟩ } }

/-- One more assignment. -/
def addAssignment (row : BikeAssignment) : FleetState :=
  { state with db := { state.db with assignments := state.db.assignments ++ [row] } }

/-- One more publication. -/
def publish (publication : Publication) : FleetState :=
  { state with published := state.published ++ [publication] }

variable {state}

/-- A bike of another insurer changes no view. -/
theorem view_addBike {bike : Bike} (new : bike.id ∉ state.db.bikes.map Bike.id)
    (unseen : isInsured user bike = false) :
    insurerView user (addBike state bike new) = insurerView user state := by
  have bikes : insuredBikes (addBike state bike new) user = insuredBikes state user :=
    filter_append_unseen unseen
  have sight : onInsured (addBike state bike new) user = onInsured state user := by
    funext bikeId
    rw [onInsured, onInsured, bikes]
  have riding : rides (addBike state bike new) user = rides state user := by
    funext riderId
    rw [rides, rides, sight]
    rfl
  rw [insurerView, insurerView, bikes, sight, riding]
  rfl

/-- A trip on no insured bike changes no view. -/
theorem view_addTrip {trip : Trip} (unseen : onInsured state user (some trip.bikeId) = false) :
    insurerView user (addTrip state trip) = insurerView user state := by
  have trips : ((addTrip state trip).db.trips.filter fun row =>
      onInsured state user (some row.bikeId)) =
      state.db.trips.filter fun row => onInsured state user (some row.bikeId) :=
    filter_append_unseen unseen
  have riding : rides (addTrip state trip) user = rides state user := by
    funext riderId
    rw [rides, rides]
    congr 1
    rw [← List.any_filter, ← List.any_filter]
    exact congrArg (List.any · _) trips
  have sight : onInsured (addTrip state trip) user = onInsured state user := rfl
  rw [insurerView, insurerView, riding, sight, trips]
  rfl

/-- An incident on no insured bike changes no view. -/
theorem view_addIncident {incident : Incident}
    (new : incident.id ∉ state.db.incidents.map Incident.id)
    (unseen : onInsured state user incident.bikeId = false) :
    insurerView user (addIncident state incident new) = insurerView user state := by
  have incidents : ((addIncident state incident new).db.incidents.filter fun row =>
      onInsured state user row.bikeId) =
      state.db.incidents.filter fun row => onInsured state user row.bikeId :=
    filter_append_unseen unseen
  exact congrArg (fun rows => { insurerView user state with incidents := rows }) incidents

/-- An account that rides no insured bike changes no view. -/
theorem view_addUser {row : User} (new : row.id ∉ state.db.users.map User.id)
    (unseen : rides state user row.id = false) :
    insurerView user (addUser state row new) = insurerView user state := by
  have riders : ((addUser state row new).db.users.filter fun rider => rides state user rider.id) =
      state.db.users.filter fun rider => rides state user rider.id :=
    filter_append_unseen unseen
  exact congrArg (fun rows => { insurerView user state with riders := rows }) riders

/-- An assignment of no insured bike changes no view. -/
theorem view_addAssignment {row : BikeAssignment}
    (unseen : onInsured state user (some row.bikeId) = false) :
    insurerView user (addAssignment state row) = insurerView user state := by
  have assignments : ((addAssignment state row).db.assignments.filter fun other =>
      onInsured state user (some other.bikeId)) =
      state.db.assignments.filter fun other => onInsured state user (some other.bikeId) :=
    filter_append_unseen unseen
  have riding : rides (addAssignment state row) user = rides state user := by
    funext riderId
    rw [rides, rides]
    congr 1
    rw [← List.any_filter, ← List.any_filter]
    exact congrArg (List.any · _) assignments
  have sight : onInsured (addAssignment state row) user = onInsured state user := rfl
  rw [insurerView, insurerView, riding, sight, assignments]
  rfl

/-- A publication about no insured bike changes no view. -/
theorem view_publish {publication : Publication}
    (unseen : onInsured state user publication.bikeId = false) :
    insurerView user (publish state publication) = insurerView user state := by
  have published : ((publish state publication).published.filter fun row =>
      onInsured state user row.bikeId) =
      state.published.filter fun row => onInsured state user row.bikeId :=
    filter_append_unseen unseen
  exact congrArg (fun rows => { insurerView user state with published := rows }) published

end Growth

/-- An id that no row bears or refers to. -/
structure Fresh (state : FleetState) (id : Id) : Prop where
  bikes : id ∉ state.db.bikes.map Bike.id
  users : id ∉ state.db.users.map User.id
  incidents : id ∉ state.db.incidents.map Incident.id
  tripBikes : id ∉ state.db.trips.map Trip.bikeId
  tripRiders : id ∉ state.db.trips.filterMap Trip.riderId
  incidentBikes : id ∉ state.db.incidents.filterMap Incident.bikeId
  assignedBikes : id ∉ state.db.assignments.map BikeAssignment.bikeId
  assignedRiders : id ∉ state.db.assignments.map BikeAssignment.riderUserId
  fleets : id ∉ state.db.bikes.map Bike.fleetId

/-- There is always an identity that nothing has. -/
theorem exists_fresh_id (state : FleetState) : ∃ id, Fresh state id := by
  let taken := [state.db.bikes.map Bike.id, state.db.users.map User.id,
    state.db.incidents.map Incident.id, state.db.trips.map Trip.bikeId,
    state.db.trips.filterMap Trip.riderId, state.db.incidents.filterMap Incident.bikeId,
    state.db.assignments.map BikeAssignment.bikeId,
    state.db.assignments.map BikeAssignment.riderUserId, state.db.bikes.map Bike.fleetId]
  obtain ⟨id, fresh⟩ := exists_fresh taken.flatten
  have outside : ∀ ids ∈ taken, id ∉ ids :=
    fun ids listed present => fresh (List.mem_flatten.mpr ⟨ids, listed, present⟩)
  simp only [taken, List.forall_mem_cons] at outside
  obtain ⟨bikes, users, incidents, tripBikes, tripRiders, incidentBikes, assignedBikes,
    assignedRiders, fleets, -⟩ := outside
  exact ⟨id, bikes, users, incidents, tripBikes, tripRiders, incidentBikes, assignedBikes,
    assignedRiders, fleets⟩

/-! ## Lists that count one row more -/

section Leaks

variable {search : TextSearch} {state : FleetState} {user : AuthenticatedUser}

/-- A state with the same view gets another reply. -/
def Leaks (search : TextSearch) (state : FleetState) (user : AuthenticatedUser)
    (request : InsurerRequest) : Prop :=
  ∃ twin, insurerView user twin = insurerView user state ∧
    answer search twin user request ≠ answer search state user request

/-- One more row that is chosen adds one to the count. -/
theorem length_filter_append {ρ : Type} {rows : List ρ} {new : ρ} {chosen chosenThen : ρ → Bool}
    (kept : ∀ row ∈ rows, chosenThen row = chosen row) (taken : chosenThen new = true) :
    ((rows ++ [new]).filter chosenThen).length = (rows.filter chosen).length + 1 := by
  rw [List.filter_append, List.filter_cons_of_pos taken, List.filter_nil, List.length_append,
    List.filter_congr kept]
  rfl

/-- Who finds what is searched for finds it when nothing is. -/
theorem searched_of {wanted : Option String} {clauses : String → Bool}
    (found : clauses ((given wanted).getD "") = true) : searched wanted clauses = true := by
  rw [searched]
  cases sought : given wanted with
  | none => rfl
  | some text =>
    rw [sought] at found
    exact found

/-- An insurer without a name insures no bike. -/
theorem isInsured_unnamed (unnamed : ¬ Named user) (bike : Bike) : isInsured user bike = false := by
  rw [isInsured, not_not.mp unnamed]
  rfl

/-- Nothing lies on a bike of an insurer without a name. -/
theorem onInsured_unnamed (unnamed : ¬ Named user) (state : FleetState) (bikeId : Option Id) :
    onInsured state user bikeId = false := by
  have none_ : insuredBikes state user = [] :=
    List.filter_eq_nil_iff.mpr fun bike _ insured => by
      rw [isInsured_unnamed unnamed bike] at insured
      cases insured
  rw [onInsured, none_]
  cases bikeId <;> rfl

/-- A bike without an insurer is insured by nobody. -/
theorem isInsured_anonymous {bike : Bike} (anonymous : bike.insurerName = none) :
    isInsured user bike = false := by
  rw [isInsured, anonymous]
  cases given user.insurerName <;> rfl

/-- A fresh identity is that of no insured bike. -/
theorem onInsured_fresh {id : Id} (fresh : Fresh state id) :
    onInsured state user (some id) = false := by
  rw [onInsured, Option.any_some, List.any_eq_false]
  intro bike listed same
  exact fresh.bikes (List.mem_map.mpr ⟨bike, (List.mem_filter.mp listed).1, of_decide_eq_true same⟩)

/-- A bike that nobody else refers to. -/
def strangeBike (id fleetId : Id) (label : String) (insurerName : Option String) : Bike where
  id := id
  fleetId := fleetId
  label := label
  plate := none
  serial := none
  model := none
  insurerName := insurerName
  status := .ACTIVE
  imageUrl := none
  type := none
  leaseToOwn := false
  createdAt := 0
  updatedAt := 0

/-- The added bike is found. -/
theorem findBike_addBike {bike : Bike} (new : bike.id ∉ state.db.bikes.map Bike.id) :
    (addBike state bike new).db.findBike bike.id = some bike :=
  (find?_key_iff (addBike state bike new).db.bikeKeys).mpr
    ⟨List.mem_append_right _ (List.mem_singleton_self _), rfl⟩

/-- The other bikes are found as before. -/
theorem findBike_addBike_of_ne {bike : Bike} (new : bike.id ∉ state.db.bikes.map Bike.id) {id : Id}
    (apart : id ≠ bike.id) : (addBike state bike new).db.findBike id = state.db.findBike id := by
  rw [Database.findBike, Database.findBike, addBike, List.find?_append]
  have missed : [bike].find? (fun row => decide (row.id = id)) = none :=
    List.find?_eq_none.mpr fun row listed same => by
      rw [List.mem_singleton.mp listed] at same
      exact apart (of_decide_eq_true same).symm
  rw [missed, Option.or_none]

/-- The list of bikes counts those that it selects. -/
theorem bikes_total (db : Database) (query : PaginationQueryDto) :
    (listBikesForUser search db user query).total =
      (db.bikes.filter (selectsBike search user query)).length :=
  List.length_mergeSort _

/-- By the plan of the fleet the list goes either by the fleet or by the missing name. -/
theorem leaks_bikes {query : PaginationQueryDto}
    (breaks : ¬ KeepsToView search state user (.bikes query)) :
    Leaks search state user (.bikes query) := by
  obtain ⟨id, fresh⟩ := exists_fresh_id state
  obtain ⟨label, found⟩ := search.found ((given query.search).getD "")
  let bike := strangeBike id user.fleetId label
    (if user.fleetPlan = .INSURANCE then user.insurerName else none)
  have unseen : isInsured user bike = false := by
    by_cases plan : user.fleetPlan = .INSURANCE
    case pos => exact isInsured_unnamed (fun named => breaks ⟨plan, named⟩) bike
    case neg => exact isInsured_anonymous (if_neg plan)
  have chosen : selectsBike search user query bike = true := by
    rw [selectsBike, Bool.and_eq_true]
    constructor
    · by_cases plan : user.fleetPlan = .INSURANCE
      case pos =>
        rw [if_pos plan]
        exact decide_eq_true (if_pos plan)
      case neg =>
        rw [if_neg plan]
        exact decide_eq_true rfl
    · apply searched_of
      rw [Bool.or_eq_true, Bool.or_eq_true]
      exact .inl (.inl found)
  refine ⟨addBike state bike fresh.bikes, view_addBike fresh.bikes unseen, fun equal => ?_⟩
  have totals := congrArg PaginatedResponse.total (InsurerReply.bikes.inj equal)
  rw [bikes_total, bikes_total] at totals
  have more := @length_filter_append _ state.db.bikes bike _ _ (fun _ _ => rfl) chosen
  exact absurd (more.symm.trans totals) (Nat.succ_ne_self _)

/-- The added bike has its insurer. -/
theorem bikeInsured_added {bike : Bike} (new : bike.id ∉ state.db.bikes.map Bike.id) :
    bikeInsured (addBike state bike new).db bike.insurerName (some bike.id) = true := by
  rw [bikeInsured, Option.bind_some, findBike_addBike, Option.any_some]
  exact decide_eq_true rfl

/-- The other bikes have their insurers. -/
theorem bikeInsured_of_ne {bike : Bike} (new : bike.id ∉ state.db.bikes.map Bike.id)
    {bikeId : Option Id} (apart : bikeId ≠ some bike.id) (name : Option String) :
    bikeInsured (addBike state bike new).db name bikeId = bikeInsured state.db name bikeId := by
  cases bikeId with
  | none => rfl
  | some id =>
    have other : id ≠ bike.id := fun same => apart (congrArg some same)
    rw [bikeInsured, bikeInsured, Option.bind_some, Option.bind_some, findBike_addBike_of_ne new other]

/-- The list of trips counts those that it selects. -/
theorem trips_total (db : Database) (query : ListTripsDto) :
    (listAllTripsForUser search db user query).total =
      (db.trips.filter (selectsTrip search db user query)).length :=
  List.length_mergeSort _

/-- Without a name the list shows the trips on bikes that nobody insures. -/
theorem leaks_trips (insurer : user.role = .INSURER) {query : ListTripsDto}
    (breaks : ¬ KeepsToView search state user (.trips query)) :
    Leaks search state user (.trips query) := by
  rw [KeepsToView, not_or, not_forall] at breaks
  obtain ⟨unnamed, admitted, admits⟩ := breaks
  rw [Bool.not_eq_false] at admits
  obtain ⟨id, fresh⟩ := exists_fresh_id state
  obtain ⟨label, found⟩ := search.found ((given query.search).getD "")
  let bike := strangeBike id "" label user.insurerName
  let trip : Trip :=
    { admitted with
      bikeId := id
      riderId := none }
  let grown := addBike state bike fresh.bikes
  have kept : ∀ row ∈ state.db.trips, selectsTrip search (addTrip grown trip).db user query row =
      selectsTrip search state.db user query row := by
    intro row listed
    have apart : row.bikeId ≠ id := fun same => fresh.tripBikes (List.mem_map.mpr ⟨row, listed, same⟩)
    have sameBike : grown.db.findBike row.bikeId = state.db.findBike row.bikeId :=
      findBike_addBike_of_ne fresh.bikes apart
    have insured := bikeInsured_of_ne fresh.bikes
      (fun same => apart (Option.some.inj same) : some row.bikeId ≠ some bike.id) user.insurerName
    have words : tripSearched search (addTrip grown trip).db row =
        tripSearched search state.db row := by
      funext wanted
      have onBike : (addTrip grown trip).db.findBike row.bikeId = state.db.findBike row.bikeId :=
        sameBike
      rw [tripSearched, tripSearched, onBike]
      rfl
    have ofBike : bikeInsured (addTrip grown trip).db user.insurerName (some row.bikeId) =
        bikeInsured state.db user.insurerName (some row.bikeId) := insured
    rw [selectsTrip, selectsTrip, words, ofBike]
  have chosen : selectsTrip search (addTrip grown trip).db user query trip = true := by
    have onBike : (addTrip grown trip).db.findBike trip.bikeId = some bike :=
      @findBike_addBike state bike fresh.bikes
    have insured : bikeInsured (addTrip grown trip).db user.insurerName (some trip.bikeId) = true :=
      @bikeInsured_added state bike fresh.bikes
    rw [selectsTrip, if_pos insurer, insured, Bool.and_true, Bool.and_eq_true]
    refine ⟨searched_of ?_, admits⟩
    rw [tripSearched, onBike]
    simp only [Option.map_some, TextSearch.within, Option.any_some, Bool.or_eq_true]
    exact .inl (.inl (.inl (.inl found)))
  refine ⟨addTrip grown trip, ?_, fun equal => ?_⟩
  · exact (view_addTrip (onInsured_unnamed unnamed _ _)).trans
      (view_addBike fresh.bikes (isInsured_unnamed unnamed bike))
  · have totals := congrArg PaginatedResponse.total (InsurerReply.trips.inj equal)
    rw [trips_total, trips_total] at totals
    exact absurd ((length_filter_append kept chosen).symm.trans totals) (Nat.succ_ne_self _)

/-- The list of incidents counts those that it selects. -/
theorem incidents_total (db : Database) (query : ListIncidentsDto) :
    (listIncidentsForUser search db user query).total =
      (db.incidents.filter (selectsIncident search db user query)).length :=
  List.length_mergeSort _

/-- An incident that the insurer has nothing to do with. -/
def strangeIncident (id fleetId : Id) (bikeId : Option Id) (deviceUid : String) (createdAt : Int) :
    Incident where
  id := id
  fleetId := fleetId
  bikeId := bikeId
  deviceId := ""
  deviceUid := deviceUid
  eventId := 0
  eventTs := createdAt
  eventType := .CRASH
  status := .OPEN
  createdAt := createdAt
  updatedAt := createdAt
  acknowledgedByUserId := none
  acknowledgedAt := none
  resolvedByUserId := none
  resolvedAt := none
  notes := none

/-- In the fleet of another plan the list shows its own incidents, with a bike or without. -/
theorem leaks_fleetIncidents {query : ListIncidentsDto} (plan : user.fleetPlan ≠ .INSURANCE)
    {time : Int} (inTime : between query.from_ query.to_ time = true) :
    Leaks search state user (.incidents query) := by
  obtain ⟨id, fresh⟩ := exists_fresh_id state
  obtain ⟨deviceUid, found⟩ := search.found ((given query.search).getD "")
  let incident := strangeIncident id user.fleetId none deviceUid time
  have kept : ∀ row ∈ state.db.incidents,
      selectsIncident search (addIncident state incident fresh.incidents).db user query row =
        selectsIncident search state.db user query row := fun _ _ => rfl
  have chosen : selectsIncident search (addIncident state incident fresh.incidents).db user query
      incident = true := by
    rw [selectsIncident, if_neg plan, Bool.and_eq_true, Bool.and_eq_true]
    refine ⟨⟨decide_eq_true rfl, searched_of ?_⟩, inTime⟩
    rw [incidentSearched, Bool.or_eq_true]
    exact .inr found
  refine ⟨addIncident state incident fresh.incidents, view_addIncident fresh.incidents rfl,
    fun equal => ?_⟩
  have totals := congrArg PaginatedResponse.total (InsurerReply.incidents.inj equal)
  rw [incidents_total, incidents_total] at totals
  exact absurd ((length_filter_append kept chosen).symm.trans totals) (Nat.succ_ne_self _)

/-- Without a name it shows those of bikes that nobody insures. -/
theorem leaks_unnamedIncidents {query : ListIncidentsDto} (plan : user.fleetPlan = .INSURANCE)
    (unnamed : ¬ Named user) {time : Int} (inTime : between query.from_ query.to_ time = true) :
    Leaks search state user (.incidents query) := by
  obtain ⟨id, fresh⟩ := exists_fresh_id state
  obtain ⟨deviceUid, found⟩ := search.found ((given query.search).getD "")
  let bike := strangeBike id "" "" user.insurerName
  let incident := strangeIncident id "" (some id) deviceUid time
  let grown := addBike state bike fresh.bikes
  let twin := addIncident grown incident fresh.incidents
  have kept : ∀ row ∈ state.db.incidents, selectsIncident search twin.db user query row =
      selectsIncident search state.db user query row := by
    intro row listed
    have apart : row.bikeId ≠ some bike.id := fun same =>
      fresh.incidentBikes (List.mem_filterMap.mpr ⟨row, listed, same⟩)
    have sameBike : row.bikeId.bind twin.db.findBike = row.bikeId.bind state.db.findBike := by
      cases ofBike : row.bikeId with
      | none => rfl
      | some other =>
        have different : other ≠ bike.id := fun same => apart (ofBike.trans (congrArg some same))
        exact findBike_addBike_of_ne fresh.bikes different
    have words : incidentSearched search twin.db row = incidentSearched search state.db row := by
      funext wanted
      rw [incidentSearched, incidentSearched, sameBike]
    have insured : bikeInsured twin.db user.insurerName row.bikeId =
        bikeInsured state.db user.insurerName row.bikeId :=
      bikeInsured_of_ne fresh.bikes apart user.insurerName
    rw [selectsIncident, selectsIncident, words, insured]
  have chosen : selectsIncident search twin.db user query incident = true := by
    have insured : bikeInsured twin.db user.insurerName incident.bikeId = true :=
      @bikeInsured_added state bike fresh.bikes
    rw [selectsIncident, if_pos plan, insured, Bool.true_and, Bool.and_eq_true]
    refine ⟨searched_of ?_, inTime⟩
    rw [incidentSearched, Bool.or_eq_true]
    exact .inr found
  refine ⟨twin, ?_, fun equal => ?_⟩
  · exact (view_addIncident _ (onInsured_unnamed unnamed _ _)).trans
      (view_addBike fresh.bikes (isInsured_unnamed unnamed bike))
  · have totals := congrArg PaginatedResponse.total (InsurerReply.incidents.inj equal)
    rw [incidents_total, incidents_total] at totals
    exact absurd ((length_filter_append kept chosen).symm.trans totals) (Nat.succ_ne_self _)

/-- A list of incidents that does not keep to the view is a leak. -/
theorem leaks_incidents {query : ListIncidentsDto}
    (breaks : ¬ KeepsToView search state user (.incidents query)) :
    Leaks search state user (.incidents query) := by
  rw [KeepsToView, not_or, not_forall] at breaks
  obtain ⟨stray, time, inTime⟩ := breaks
  rw [Bool.not_eq_false] at inTime
  by_cases plan : user.fleetPlan = .INSURANCE
  case pos => exact leaks_unnamedIncidents plan (fun named => stray ⟨plan, named⟩) inTime
  case neg => exact leaks_fleetIncidents plan inTime

/-! ## Riders -/

/-- The list of riders counts those that it selects. -/
theorem riders_total (db : Database) (now : Int) (query : ListRidersDto) :
    (listRidersForUser search db user now query).total =
      (db.users.filter (selectsRider search db user query)).length :=
  List.length_mergeSort _

/-- A rider whom the query admits, apart from its assignments. -/
def strangeRider (id fleetId : Id) (email : String) (leaseToOwn : Bool) : User where
  id := id
  fleetId := fleetId
  role := .RIDER
  email := some email
  phone := none
  status := "ACTIVE"
  createdAt := 0
  riderProfile := some
    { fullName := ""
      licenceNumber := none
      identityNumber := none
      passportPhoto := none
      licencePhoto := none
      identityCardPhoto := none
      leaseToOwn := leaseToOwn
      leasePrincipal := 2500000
      leaseDownPayment := 0
      leaseDailyRate := 15000
      paymentSchedule := "DAILY"
      assignedRate := 15000
      customScheduleDays := none }

/-- An active assignment of a rider to a bike. -/
def activeAssignment (bikeId riderUserId : Id) : BikeAssignment where
  id := ""
  fleetId := ""
  bikeId := bikeId
  riderUserId := riderUserId
  assignedAt := 0
  unassignedAt := none
  active := true

/-- An assignment of somebody else is not the rider's. -/
theorem assigned_addAssignment {row : BikeAssignment} {rider : User}
    (apart : row.riderUserId ≠ rider.id) (state : FleetState) (test : BikeAssignment → Bool) :
    assigned (addAssignment state row).db rider test = assigned state.db rider test := by
  rw [assigned, assigned, addAssignment, List.any_append]
  simp only [List.any_cons, List.any_nil, decide_eq_false apart, Bool.false_and, Bool.or_false]

/-- The added assignment is the rider's. -/
theorem assigned_added {bikeId : Id} {rider : User} (state : FleetState) {test : BikeAssignment → Bool}
    (passes : test (activeAssignment bikeId rider.id) = true) :
    assigned (addAssignment state (activeAssignment bikeId rider.id)).db rider test = true := by
  refine List.any_eq_true.mpr ⟨_, List.mem_append_right _ (List.mem_singleton_self _), ?_⟩
  rw [passes, Bool.and_true, Bool.and_eq_true]
  exact ⟨decide_eq_true rfl, rfl⟩

/-- A fresh identity rides no insured bike. -/
theorem rides_fresh {id : Id} (fresh : Fresh state id) : rides state user id = false := by
  rw [rides, Bool.or_eq_false_iff, List.any_eq_false, List.any_eq_false]
  constructor
  · intro row listed found
    rw [Bool.and_eq_true, decide_eq_true_eq] at found
    exact fresh.assignedRiders (List.mem_map.mpr ⟨row, listed, found.2⟩)
  · intro trip listed found
    rw [Bool.and_eq_true, decide_eq_true_eq] at found
    exact fresh.tripRiders (List.mem_filterMap.mpr ⟨trip, listed, found.2⟩)

/-- One rider more is selected, if its assignments are as the query asks. -/
theorem leaks_newRider {now : Int} {query : ListRidersDto} {grown : FleetState} {rider : User}
    {email : String} (found : search.contains email ((given query.search).getD "") = true)
    (built : rider = strangeRider rider.id user.fleetId email (query.leaseToOwn.getD false))
    (same : insurerView user grown = insurerView user state)
    (users : grown.db.users = state.db.users ++ [rider])
    (kept : ∀ row ∈ state.db.users, selectsAssignments grown.db user query row =
      selectsAssignments state.db user query row)
    (asked : selectsAssignments grown.db user query rider = true) :
    Leaks search state user (.riders now query) := by
  have chosen : selectsRider search grown.db user query rider = true := by
    simp only [selectsRider, Bool.and_eq_true]
    refine ⟨⟨⟨⟨?_, ?_⟩, asked⟩, ?_⟩, searched_of ?_⟩
    · rw [built]
      exact decide_eq_true rfl
    · rw [built, Bool.or_eq_true]
      exact .inr (decide_eq_true rfl)
    · rw [built]
      cases query.leaseToOwn with
      | none => rfl
      | some wanted => exact decide_eq_true rfl
    · rw [built, Bool.or_eq_true, Bool.or_eq_true]
      exact .inl (.inl found)
  refine ⟨grown, same, fun equal => ?_⟩
  have totals := congrArg PaginatedResponse.total (InsurerReply.riders.inj equal)
  rw [riders_total, riders_total, users] at totals
  refine absurd ((length_filter_append (fun row listed => ?_) chosen).symm.trans totals)
    (Nat.succ_ne_self _)
  rw [selectsRider, selectsRider, kept row listed]

/-- The riders of any bike that is asked for are listed. -/
theorem leaks_ridersOfBike {now : Int} {query : ListRidersDto} {bikeId : Id}
    (wanted : given query.bikeId = some bikeId) (unseen : onInsured state user (some bikeId) = false) :
    Leaks search state user (.riders now query) := by
  obtain ⟨id, fresh⟩ := exists_fresh_id state
  obtain ⟨email, found⟩ := search.found ((given query.search).getD "")
  let rider := strangeRider id user.fleetId email (query.leaseToOwn.getD false)
  let grown := addUser state rider fresh.users
  have viewed : insurerView user grown = insurerView user state :=
    view_addUser fresh.users (rides_fresh fresh)
  have rode : insurerView user (addAssignment grown (activeAssignment bikeId rider.id)) =
      insurerView user grown :=
    view_addAssignment ((onInsured_same viewed (some bikeId)).trans unseen)
  refine leaks_newRider found rfl (rode.trans viewed) rfl ?_ ?_
  · intro row listed
    have apart : (activeAssignment bikeId rider.id).riderUserId ≠ row.id := fun same =>
      fresh.users (List.mem_map.mpr ⟨row, listed, same.symm⟩)
    rw [selectsAssignments, selectsAssignments, wanted]
    exact assigned_addAssignment apart grown _
  · rw [selectsAssignments, wanted]
    exact assigned_added grown (decide_eq_true rfl)

/-- In the fleet of another plan all of its riders are listed. -/
theorem leaks_ridersOfFleet {now : Int} {query : ListRidersDto} (free : given query.bikeId = none)
    (plan : user.fleetPlan ≠ .INSURANCE) : Leaks search state user (.riders now query) := by
  obtain ⟨id, fresh⟩ := exists_fresh_id state
  obtain ⟨email, found⟩ := search.found ((given query.search).getD "")
  have all : ∀ (db : Database) (row : User), selectsAssignments db user query row = true := by
    intro db row
    rw [selectsAssignments, free]
    exact if_neg plan
  let rider := strangeRider id user.fleetId email (query.leaseToOwn.getD false)
  have same : insurerView user (addUser state rider fresh.users) = insurerView user state :=
    view_addUser fresh.users (rides_fresh fresh)
  refine leaks_newRider found rfl same rfl ?_ ?_
  · exact fun row _ => (all _ row).trans (all _ row).symm
  · exact all _ _

/-- Without a name the riders of bikes that nobody insures are listed. -/
theorem leaks_unnamedRiders {now : Int} {query : ListRidersDto} (free : given query.bikeId = none)
    (plan : user.fleetPlan = .INSURANCE) (unnamed : ¬ Named user) :
    Leaks search state user (.riders now query) := by
  obtain ⟨id, fresh⟩ := exists_fresh_id state
  obtain ⟨email, found⟩ := search.found ((given query.search).getD "")
  let bike := strangeBike id "" "" user.insurerName
  let rider := strangeRider id user.fleetId email (query.leaseToOwn.getD false)
  let housed := addBike state bike fresh.bikes
  let peopled := addUser housed rider fresh.users
  let grown := addAssignment peopled (activeAssignment id rider.id)
  have insuredRiders : ∀ (db : Database) (row : User), selectsAssignments db user query row =
      assigned db row fun assignment => bikeInsured db user.insurerName (some assignment.bikeId) := by
    intro db row
    rw [selectsAssignments, free]
    exact if_pos plan
  have housing : insurerView user housed = insurerView user state :=
    view_addBike fresh.bikes (isInsured_unnamed unnamed bike)
  have peopling : insurerView user peopled = insurerView user housed := by
    apply view_addUser
    exact (rides_same housing id).trans (rides_fresh fresh)
  have riding : insurerView user grown = insurerView user peopled :=
    view_addAssignment (onInsured_unnamed unnamed _ _)
  refine @leaks_newRider _ _ _ now query grown rider email found rfl
    (riding.trans (peopling.trans housing)) rfl ?_ ?_
  · intro row listed
    have apart : (activeAssignment id rider.id).riderUserId ≠ row.id := fun same =>
      fresh.users (List.mem_map.mpr ⟨row, listed, same.symm⟩)
    rw [insuredRiders, insuredRiders, assigned_addAssignment apart peopled]
    -- the old assignments are of other bikes than the new one
    apply any_congr_of_mem
    intro assignment stored
    have elsewhere : some assignment.bikeId ≠ some bike.id := fun same =>
      fresh.assignedBikes (List.mem_map.mpr ⟨assignment, stored, Option.some.inj same⟩)
    exact congrArg (_ && ·) (bikeInsured_of_ne fresh.bikes elsewhere user.insurerName)
  · rw [insuredRiders]
    exact assigned_added peopled (@bikeInsured_added state bike fresh.bikes)

/-- A page has room for a row. -/
theorem getPaginationParams_take_pos (query : PaginationQuery) :
    0 < (getPaginationParams query).take := by
  rw [getPaginationParams]
  dsimp only
  split
  · assumption
  · exact Nat.succ_pos _

/-- A rider comes with its assignments to bikes of other insurers. -/
theorem leaks_otherAssignments {now : Int} {query : ListRidersDto}
    (asked : (given query.bikeId).elim (user.fleetPlan = .INSURANCE ∧ Named user) fun bikeId =>
      onInsured state user (some bikeId) = true)
    (shown : (getPaginationParams query.toPaginationQuery).skip <
      (state.db.users.filter (selectsRider search state.db user query)).length) :
    Leaks search state user (.riders now query) := by
  let pagination := getPaginationParams query.toPaginationQuery
  let listed := latestFirst User.createdAt
    (state.db.users.filter (selectsRider search state.db user query))
  have onPage : ∃ rider, rider ∈ (listed.drop pagination.skip).take pagination.take := by
    apply List.exists_mem_of_length_pos
    have enough : pagination.skip < listed.length :=
      shown.trans_eq (List.length_mergeSort _).symm
    have some_ : 0 < pagination.take := getPaginationParams_take_pos _
    rw [List.length_take, List.length_drop]
    omega
  obtain ⟨rider, present⟩ := onPage
  obtain ⟨id, fresh⟩ := exists_fresh_id state
  let twin := addAssignment state (activeAssignment id rider.id)
  have same : insurerView user twin = insurerView user state :=
    view_addAssignment (onInsured_fresh fresh)
  refine ⟨twin, same, fun equal => ?_⟩
  have pages := congrArg PaginatedResponse.data (InsurerReply.riders.inj equal)
  rw [listRidersForUser, listRidersForUser, selectedRiders_same same asked] at pages
  have summaries := List.map_inj_left.mp pages rider present
  have counts := congrArg (fun summary => summary.activeAssignments.length) summaries
  rw [toRiderSummary, toRiderSummary] at counts
  dsimp only at counts
  rw [List.length_map, List.length_map, latestFirst, latestFirst, List.length_mergeSort,
    List.length_mergeSort] at counts
  have own : (decide ((activeAssignment id rider.id).riderUserId = rider.id) &&
      (activeAssignment id rider.id).active) = true := by
    rw [Bool.and_eq_true]
    exact ⟨decide_eq_true rfl, rfl⟩
  have more := @length_filter_append _ state.db.assignments (activeAssignment id rider.id)
    (fun row => decide (row.riderUserId = rider.id) && row.active)
    (fun row => decide (row.riderUserId = rider.id) && row.active) (fun _ _ => rfl) own
  exact absurd (more.symm.trans counts) (Nat.succ_ne_self _)

/-- A list of riders that does not keep to the view is a leak. -/
theorem leaks_riders {now : Int} {query : ListRidersDto}
    (breaks : ¬ KeepsToView search state user (.riders now query)) :
    Leaks search state user (.riders now query) := by
  rw [KeepsToView, not_and, not_le] at breaks
  by_cases asked : (given query.bikeId).elim (user.fleetPlan = .INSURANCE ∧ Named user)
      fun bikeId => onInsured state user (some bikeId) = true
  case pos => exact leaks_otherAssignments asked (breaks asked)
  case neg =>
    cases wanted : given query.bikeId with
    | some bikeId =>
      rw [wanted, Option.elim_some, Bool.not_eq_true] at asked
      exact leaks_ridersOfBike wanted asked
    | none =>
      rw [wanted, Option.elim_none, not_and_or] at asked
      by_cases plan : user.fleetPlan = .INSURANCE
      case pos => exact leaks_unnamedRiders wanted plan (asked.resolve_left (not_not.mpr plan))
      case neg => exact leaks_ridersOfFleet wanted plan

/-! ## The report and the live messages -/

/-- Without a name the report is about the trips of all fleets. -/
theorem leaks_report (insurer : user.role = .INSURER) {now : Int} {query : ReportQueryDto}
    (breaks : ¬ KeepsToView search state user (.weeklyReport now query)) :
    Leaks search state user (.weeklyReport now query) := by
  rw [KeepsToView, not_or] at breaks
  obtain ⟨unnamed, spans⟩ := breaks
  push Not at spans
  obtain ⟨range, found, nonempty⟩ := spans
  let trip : Trip :=
    { id := ""
      fleetId := ""
      bikeId := ""
      riderId := none
      startTs := range.1
      endTs := none
      distanceKm := 0
      durationSec := 0
      score := 0
      startBatteryPct := none
      endBatteryPct := none }
  have all : ∀ (db : Database) (fleetId : Id) (bikeId : Option Id),
      reportsOn db user fleetId bikeId = true := by
    intro db fleetId bikeId
    rw [reportsOn, if_pos insurer, not_not.mp unnamed]
    rfl
  refine ⟨addTrip state trip, view_addTrip (onInsured_unnamed unnamed _ _), fun equal => ?_⟩
  have reports : (getWeeklyReport (addTrip state trip).db user now query) =
      getWeeklyReport state.db user now query := InsurerReply.weeklyReport.inj equal
  rw [getWeeklyReport, getWeeklyReport, found, Option.map_some, Option.map_some] at reports
  have counts := congrArg WeeklyReport.tripCount (Option.some.inj reports)
  dsimp only at counts
  have kept : ∀ row ∈ state.db.trips, (within range row.startTs &&
      reportsOn (addTrip state trip).db user row.fleetId (some row.bikeId)) =
        (within range row.startTs && reportsOn state.db user row.fleetId (some row.bikeId)) :=
    fun _ _ => congrArg _ ((all _ _ _).trans (all _ _ _).symm)
  have inRange : (within range trip.startTs &&
      reportsOn (addTrip state trip).db user trip.fleetId (some trip.bikeId)) = true := by
    rw [all, Bool.and_true]
    exact decide_eq_true ⟨le_refl _, nonempty⟩
  exact absurd ((length_filter_append kept inRange).symm.trans counts) (Nat.succ_ne_self _)

/-- What is published last is sent last. -/
theorem emissions_append_fleetUpdated (fleetId : Id) (payload : FleetUpdatedPayload)
    (published : List Publication) (lastBikeStateEmitAt : String → Int) :
    emissions lastBikeStateEmitAt (published ++ [.fleetUpdated fleetId payload]) =
      emissions lastBikeStateEmitAt published ++ [(fleetId, .fleet_updated payload)] := by
  induction published generalizing lastBikeStateEmitAt with
  | nil => rfl
  | cons publication rest inductionHypothesis =>
    cases publication with
    | bikeState now bike =>
      rw [List.cons_append, emissions, emissions]
      split
      case isTrue => exact inductionHypothesis _
      case isFalse => rw [inductionHypothesis, List.cons_append]
    | newEvent _ _ | commandStatus _ _ | newIncident _ _ | fleetUpdated _ _ =>
      rw [List.cons_append, emissions, emissions, inductionHypothesis, List.cons_append]

/-- An update of a fleet reaches those who have joined it. -/
theorem messages_publish_fleetUpdated {fleetId : Id} {payload : FleetUpdatedPayload}
    (joined : fleetId ∈ uniqueFleetIds state.db user) :
    (liveSession state.db (publish state (.fleetUpdated fleetId payload)).published user).messages =
      (liveSession state.db state.published user).messages ++ [.fleet_updated payload] := by
  rw [liveSession, liveSession, publish]
  dsimp only
  rw [emissions_append_fleetUpdated, List.filterMap_append]
  congr 1
  exact List.filterMap_cons_some (if_pos joined)

/-- A named insurer gets what is published about the fleets of its bikes. -/
theorem leaks_fleetMessages (insurer : user.role = .INSURER) (named : Named user)
    (some_ : insuredBikes state user ≠ []) : Leaks search state user .live := by
  obtain ⟨bike, listed⟩ := List.exists_mem_of_ne_nil _ some_
  obtain ⟨name, given⟩ := exists_name named
  obtain ⟨stored, insured⟩ := List.mem_filter.mp listed
  have joined : bike.fleetId ∈ uniqueFleetIds state.db user := by
    rw [uniqueFleetIds, if_pos insurer, List.mem_eraseDups]
    refine List.mem_map.mpr ⟨bike, List.mem_filter.mpr ⟨stored, ?_⟩, rfl⟩
    exact (isInsured_of_named given bike).symm.trans insured
  let payload : FleetUpdatedPayload := ⟨none, none, none⟩
  refine ⟨publish state (.fleetUpdated bike.fleetId payload), view_publish rfl, fun equal => ?_⟩
  have counts := congrArg (fun session => session.messages.length) (InsurerReply.live.inj equal)
  have more := congrArg List.length (@messages_publish_fleetUpdated _ _ _ payload joined)
  rw [List.length_append] at more
  exact absurd (more.symm.trans counts) (Nat.succ_ne_self _)

/-- Without a name the rooms are those of the bikes that nobody insures. -/
theorem leaks_rooms (insurer : user.role = .INSURER) (unnamed : ¬ Named user) :
    Leaks search state user .live := by
  obtain ⟨id, fresh⟩ := exists_fresh_id state
  let bike := strangeBike id id "" user.insurerName
  refine ⟨addBike state bike fresh.bikes, view_addBike fresh.bikes (isInsured_unnamed unnamed bike),
    fun equal => ?_⟩
  have rooms : uniqueFleetIds (addBike state bike fresh.bikes).db user =
      uniqueFleetIds state.db user :=
    congrArg LiveSession.fleetIds (InsurerReply.live.inj equal)
  have joined : id ∈ uniqueFleetIds (addBike state bike fresh.bikes).db user := by
    rw [uniqueFleetIds, if_pos insurer, List.mem_eraseDups]
    refine List.mem_map.mpr ⟨bike, List.mem_filter.mpr ⟨?_, decide_eq_true rfl⟩, rfl⟩
    exact List.mem_append_right _ (List.mem_singleton_self _)
  rw [rooms, uniqueFleetIds, if_pos insurer, List.mem_eraseDups] at joined
  obtain ⟨row, listed, same⟩ := List.mem_map.mp joined
  exact fresh.fleets (List.mem_map.mpr ⟨row, (List.mem_filter.mp listed).1, same⟩)

/-- A live session that does not keep to the view is a leak. -/
theorem leaks_live (insurer : user.role = .INSURER)
    (breaks : ¬ KeepsToView search state user .live) : Leaks search state user .live := by
  rw [KeepsToView, not_and] at breaks
  by_cases named : Named user
  case pos => exact leaks_fleetMessages insurer named (breaks named)
  case neg => exact leaks_rooms insurer named

/-- Where a request does not keep to the view, another state with the same view gives
another reply. -/
theorem answer_leaks (insurer : user.role = .INSURER) {request : InsurerRequest}
    (breaks : ¬ KeepsToView search state user request) : Leaks search state user request := by
  cases request with
  | bikes query => exact leaks_bikes breaks
  | trips query => exact leaks_trips insurer breaks
  | incidents query => exact leaks_incidents breaks
  | riders now query => exact leaks_riders breaks
  | weeklyReport now query => exact leaks_report insurer breaks
  | live => exact leaks_live insurer breaks

end Leaks

/-- A reply to an insurer depends on nothing beyond what the insurer may see exactly where
the request keeps to it. -/
theorem insurer_reply_confined_iff (search : TextSearch) (state : FleetState) (user : InsurerUser)
    (request : InsurerRequest) :
    Confined (insurerView user.toAuthenticatedUser)
        (fun state => answer search state user.toAuthenticatedUser request) state ↔
      KeepsToView search state user.toAuthenticatedUser request := by
  constructor
  case mp =>
    intro confined
    by_contra breaks
    obtain ⟨twin, same, differs⟩ := answer_leaks user.isInsurer breaks
    exact not_confined same differs confined
  case mpr =>
    intro keeps other same
    exact answer_same same user.isInsurer keeps

/-! ## A crash on a bike of somebody else -/

section Room

/-- A user of the insurer Acme. -/
def acmeUser : InsurerUser where
  id := "u1"
  fleetId := "insurance"
  fleetPlan := .INSURANCE
  role := .INSURER
  insurerName := some "Acme"
  isInsurer := rfl

/-- One fleet with a bike of the insurer and another bike. -/
def mixedFleet : FleetState where
  db :=
    { users := []
      fleets := fun _ => none
      bikes := [strangeBike "b1" "f1" "" (some "Acme"), strangeBike "b2" "f1" "" none]
      assignments := []
      trips := []
      events := []
      incidents := []
      commands := []
      accesses := []
      evidencePacks := fun _ => none
      userKeys := List.nodup_nil
      bikeKeys := by decide
      incidentKeys := List.nodup_nil
      accessKeys := Database.noAccess_key }
  published := []

/-- A crash of a bike that Acme does not insure. -/
def crashElsewhere : Publication :=
  .newIncident "f1" ⟨"i1", some "b2", "d2", "e2", .OPEN, 0⟩

end Room

/-- The message about the incident of the other bike is sent to the insurer. -/
theorem incident_elsewhere_sent :
    insurerView acmeUser.toAuthenticatedUser (publish mixedFleet crashElsewhere) =
        insurerView acmeUser.toAuthenticatedUser mixedFleet ∧
      ∀ search, answer search (publish mixedFleet crashElsewhere) acmeUser.toAuthenticatedUser .live ≠
        answer search mixedFleet acmeUser.toAuthenticatedUser .live := by
  have elsewhere : onInsured mixedFleet acmeUser.toAuthenticatedUser crashElsewhere.bikeId = false := by
    decide +kernel
  refine ⟨view_publish elsewhere, fun search equal => ?_⟩
  have counts := congrArg (fun session => session.messages.length) (InsurerReply.live.inj equal)
  revert counts
  decide +kernel

end EmotoFleet.Access.Insurers
