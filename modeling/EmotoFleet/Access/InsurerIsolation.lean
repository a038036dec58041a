import EmotoFleet.Access.InsurerFeeds
import EmotoFleet.Foundations.Views

/-!
# What the replies to an insurer depend on

A user of an insurer with a name may see the bikes under that name, what happened on them,
who rides them and what is published about them; without a name it may see nothing. Which
requests keep to this is stated as a condition on the request and the state, and proved
both ways: where it holds, states with the same view give the same reply; where it fails,
another state with the same view gives another one.
-/

namespace EmotoFleet.Access.Insurers

open Accounts (given)
open Tables (find?_key_iff)
open Views

/-- A user of an insurer. -/
structure InsurerUser extends AuthenticatedUser where
  isInsurer : role = .INSURER

section Sight

variable (state : FleetState) (user : AuthenticatedUser)

/-- The bike is under the name of the insurer, which is not empty. -/
def isInsured (bike : Bike) : Bool :=
  (given user.insurerName).any fun name => decide (bike.insurerName = some name)

/-- The bikes that an insurer insures. -/
def insuredBikes : List Bike := state.db.bikes.filter (isInsured user)

/-- On a bike that the insurer sees. -/
def onInsured (bikeId : Option Id) : Bool :=
  bikeId.any fun id => (insuredBikes state user).any fun bike => decide (bike.id = id)

/-- The bike that a publication is about. -/
def Publication.bikeId : Publication → Option Id
  | .bikeState _ state => some state.bikeId
  | .newEvent _ event => event.bikeId
  | .commandStatus _ payload => payload.bikeId
  | .newIncident _ payload => payload.bikeId
  | .fleetUpdated _ _ => none

/-- Somebody who rides such a bike, or did on a trip. -/
def rides (riderId : Id) : Bool :=
  (state.db.assignments.any fun assignment =>
    onInsured state user (some assignment.bikeId) && decide (assignment.riderUserId = riderId)) ||
  state.db.trips.any fun trip =>
    onInsured state user (some trip.bikeId) && decide (trip.riderId = some riderId)

end Sight

/-- What an insurer may see. -/
structure InsurerView where
  bikes : List Bike
  trips : List Trip
  events : List Event
  incidents : List Incident
  commands : List DeviceCommand
  assignments : List BikeAssignment
  riders : List User
  published : List Publication

/-- What an insurer may see of the system. -/
def insurerView (user : AuthenticatedUser) (state : FleetState) : InsurerView where
  bikes := insuredBikes state user
  trips := state.db.trips.filter fun trip => onInsured state user (some trip.bikeId)
  events := state.db.events.filter fun event => onInsured state user event.bikeId
  incidents := state.db.incidents.filter fun incident => onInsured state user incident.bikeId
  commands := state.db.commands.filter fun command => onInsured state user (some command.bikeId)
  assignments := state.db.assignments.filter fun assignment =>
    onInsured state user (some assignment.bikeId)
  riders := state.db.users.filter fun rider => rides state user rider.id
  published := state.published.filter fun publication => onInsured state user publication.bikeId

section Condition

variable (search : TextSearch) (state : FleetState) (user : AuthenticatedUser)

/-- The insurer has a name. -/
def Named (user : AuthenticatedUser) : Prop := given user.insurerName ≠ none

/-- A request keeps to what the insurer may see. The lists of bikes, incidents and riders
go by the plan of the fleet, the others by the role of the user. -/
def KeepsToView : InsurerRequest → Prop
  | .bikes _ => user.fleetPlan = .INSURANCE ∧ Named user
  | .trips query => Named user ∨ ∀ trip, query.admits trip = false
  | .incidents query =>
    user.fleetPlan = .INSURANCE ∧ Named user ∨
      ∀ time : Int, between query.from_ query.to_ time = false
  | .riders _ query =>
    ((given query.bikeId).elim (user.fleetPlan = .INSURANCE ∧ Named user) fun bikeId =>
        onInsured state user (some bikeId) = true) ∧
      (state.db.users.filter (selectsRider search state.db user query)).length ≤
        (getPaginationParams query.toPaginationQuery).skip
  | .weeklyReport now query =>
    Named user ∨ ∀ range ∈ reportRange now query, range.2 < range.1
  | .live => Named user ∧ insuredBikes state user = []

end Condition

/-! ## Replies within the view -/

section Same

variable {state other : FleetState} {user : AuthenticatedUser} {search : TextSearch}
  (same : insurerView user other = insurerView user state)

include same

/-- Systems with the same view have the same insured bikes. -/
theorem insuredBikes_same : insuredBikes other user = insuredBikes state user :=
  congrArg InsurerView.bikes same

/-- They agree on what lies on an insured bike. -/
theorem onInsured_same (bikeId : Option Id) :
    onInsured other user bikeId = onInsured state user bikeId := by
  rw [onInsured, onInsured, insuredBikes_same same]

/-- The same bike is found in both states where there is one to see. -/
theorem findBike_same {bikeId : Id} (seen : onInsured state user (some bikeId) = true) :
    other.db.findBike bikeId = state.db.findBike bikeId := by
  rw [onInsured, Option.any_some, List.any_eq_true] at seen
  obtain ⟨bike, listed, equal⟩ := seen
  obtain ⟨stored, insured⟩ := List.mem_filter.mp listed
  have found : state.db.findBike bikeId = some bike :=
    (find?_key_iff state.db.bikeKeys).mpr ⟨stored, of_decide_eq_true equal⟩
  rw [found]
  exact find?_key_of_sees state.db.bikeKeys other.db.bikeKeys (insuredBikes_same same) found insured

/-- They have the same trips of insured bikes. -/
theorem trips_same : (other.db.trips.filter fun trip => onInsured other user (some trip.bikeId)) =
    state.db.trips.filter fun trip => onInsured state user (some trip.bikeId) :=
  congrArg InsurerView.trips same

/-- They have the same assignments of insured bikes. -/
theorem assignments_same :
    (other.db.assignments.filter fun row => onInsured other user (some row.bikeId)) =
      state.db.assignments.filter fun row => onInsured state user (some row.bikeId) :=
  congrArg InsurerView.assignments same

/-- They agree on who rides an insured bike. -/
theorem rides_same (riderId : Id) : rides other user riderId = rides state user riderId := by
  rw [rides, rides, ← List.any_filter, ← List.any_filter, ← List.any_filter, ← List.any_filter,
    assignments_same same, trips_same same]

/-- So is the same rider. -/
theorem findUser_same {riderId : Id} (linked : rides state user riderId = true) :
    other.db.findUser riderId = state.db.findUser riderId := by
  have visible : (other.db.users.filter fun rider => rides other user rider.id) =
      state.db.users.filter fun rider => rides state user rider.id :=
    congrArg InsurerView.riders same
  have seenAs : ∀ rider : User, rider.id = riderId → rides state user rider.id = true :=
    fun rider own => own ▸ linked
  apply Option.ext
  intro rider
  constructor
  case mp =>
    intro found
    have own := ((find?_key_iff other.db.userKeys).mp found).2
    exact find?_key_of_sees other.db.userKeys state.db.userKeys visible.symm found
      ((rides_same same rider.id).trans (seenAs rider own))
  case mpr =>
    intro found
    have own := ((find?_key_iff state.db.userKeys).mp found).2
    exact find?_key_of_sees state.db.userKeys other.db.userKeys visible found (seenAs rider own)

/-! ### The lists -/

omit same in
/-- A bike is insured when it has the insurer's name. -/
theorem isInsured_of_named {name : String} (named : given user.insurerName = some name) (bike : Bike) :
    isInsured user bike = decide (bike.insurerName = user.insurerName) := by
  rw [isInsured, named, Option.any_some, (Accounts.given_eq_some named).1]

omit same in
/-- The condition of a named insurer on the bike of a row is that the bike is visible. -/
theorem bikeInsured_eq {name : String} (named : given user.insurerName = some name)
    (bikeId : Option Id) :
    bikeInsured state.db (some name) bikeId = onInsured state user bikeId := by
  cases bikeId with
  | none => rfl
  | some id =>
    rw [bikeInsured, onInsured, Option.bind_some, Option.any_some, Bool.eq_iff_iff,
      Option.any_eq_true, List.any_eq_true]
    constructor
    case mp =>
      rintro ⟨bike, found, insured⟩
      obtain ⟨stored, equal⟩ := (find?_key_iff state.db.bikeKeys).mp found
      refine ⟨bike, List.mem_filter.mpr ⟨stored, ?_⟩, decide_eq_true equal⟩
      rw [isInsured, named, Option.any_some]
      exact insured
    case mpr =>
      rintro ⟨bike, listed, equal⟩
      obtain ⟨stored, insured⟩ := List.mem_filter.mp listed
      rw [isInsured, named, Option.any_some] at insured
      exact ⟨bike, (find?_key_iff state.db.bikeKeys).mpr ⟨stored, of_decide_eq_true equal⟩, insured⟩

omit same in
/-- An insurer with a name has one. -/
theorem exists_name (named : Named user) : ∃ name, given user.insurerName = some name :=
  Option.ne_none_iff_exists'.mp named

/-- The list of bikes is the same. -/
theorem bikes_same (plan : user.fleetPlan = .INSURANCE) (named : Named user)
    (query : PaginationQueryDto) :
    listBikesForUser search other.db user query = listBikesForUser search state.db user query := by
  obtain ⟨name, given⟩ := exists_name named
  have selected : ∀ bike, selectsBike search user query bike = true → isInsured user bike = true := by
    intro bike chosen
    rw [selectsBike, if_pos plan, Bool.and_eq_true] at chosen
    exact (isInsured_of_named given bike).trans chosen.1
  have rows : other.db.bikes.filter (selectsBike search user query) =
      state.db.bikes.filter (selectsBike search user query) :=
    filter_eq_of_sees (insuredBikes_same same) (fun bike _ => selected bike)
      (fun bike _ => selected bike) fun _ _ => rfl
  rw [listBikesForUser, listBikesForUser, rows]
  apply page_congr
  intro bike listed
  obtain ⟨stored, chosen⟩ := List.mem_filter.mp (List.mem_mergeSort.mp listed)
  have seen : ∀ command : DeviceCommand, (decide (command.bikeId = bike.id) &&
      decide (command.type ∈ ["LOCK", "UNLOCK"])) = true →
      onInsured state user (some command.bikeId) = true := by
    intro command ofBike
    rw [Bool.and_eq_true, decide_eq_true_eq] at ofBike
    rw [ofBike.1, onInsured, Option.any_some, List.any_eq_true]
    exact ⟨bike, List.mem_filter.mpr ⟨stored, selected bike chosen⟩, decide_eq_true rfl⟩
  have commands := filter_eq_of_sees (congrArg InsurerView.commands same)
    (fun command _ ofBike => (onInsured_same same _).trans (seen command ofBike))
    (fun command _ ofBike => seen command ofBike) fun _ _ => rfl
  rw [loadBike, loadBike, commands]

omit same in
/-- What the lists ask of the bike of a row, for a named insurer. -/
theorem bikeInsured_named (named : Named user) (state : FleetState) (bikeId : Option Id) :
    bikeInsured state.db user.insurerName bikeId = onInsured state user bikeId := by
  obtain ⟨name, given⟩ := exists_name named
  rw [(Accounts.given_eq_some given).1]
  exact bikeInsured_eq given bikeId

/-- The riders of visible trips are visible. -/
theorem tripRider_same {trip : Trip} (stored : trip ∈ state.db.trips)
    (seen : onInsured state user (some trip.bikeId) = true) :
    trip.riderId.bind other.db.findUser = trip.riderId.bind state.db.findUser := by
  cases ridden : trip.riderId with
  | none => rfl
  | some riderId =>
    apply findUser_same same
    rw [rides, Bool.or_eq_true]
    right
    refine List.any_eq_true.mpr ⟨trip, stored, ?_⟩
    rw [seen, ridden]
    exact decide_eq_true rfl

/-- The events of a trip on an insured bike are the same. -/
theorem tripEventCounts_same {trip : Trip} (seen : onInsured state user (some trip.bikeId) = true) :
    getTripEventCounts other.db trip = getTripEventCounts state.db trip := by
  rw [getTripEventCounts, getTripEventCounts]
  cases trip.endTs with
  | none => rfl
  | some endTs =>
    dsimp only
    have ofTrip : ∀ event : Event, (decide (event.bikeId = some trip.bikeId) &&
        (decide (event.fleetId = trip.fleetId) && within (trip.startTs, endTs) event.ts)) = true →
        onInsured state user event.bikeId = true := by
      intro event taken
      rw [Bool.and_eq_true, decide_eq_true_eq] at taken
      rw [taken.1]
      exact seen
    have events := filter_eq_of_sees (congrArg InsurerView.events same)
      (fun event _ taken => (onInsured_same same _).trans (ofTrip event taken))
      (fun event _ taken => ofTrip event taken) fun _ _ => rfl
    rw [events]

/-- The list of trips is the same. -/
theorem listTrips_same (insurer : user.role = .INSURER) (named : Named user)
    (query : ListTripsDto) :
    listAllTripsForUser search other.db user query =
      listAllTripsForUser search state.db user query := by
  have ofBike : ∀ (state : FleetState) (trip : Trip), selectsTrip search state.db user query trip =
      (searched query.search (tripSearched search state.db trip) &&
        onInsured state user (some trip.bikeId) && query.admits trip) := by
    intro state trip
    rw [selectsTrip, if_pos insurer, bikeInsured_named named]
  have inside : ∀ (state : FleetState) (trip : Trip),
      selectsTrip search state.db user query trip = true →
        onInsured state user (some trip.bikeId) = true := by
    intro state trip chosen
    rw [ofBike, Bool.and_eq_true, Bool.and_eq_true] at chosen
    exact chosen.1.2
  have rows : other.db.trips.filter (selectsTrip search other.db user query) =
      state.db.trips.filter (selectsTrip search state.db user query) := by
    apply filter_eq_of_sees (trips_same same)
    · exact fun trip _ => inside other trip
    · exact fun trip _ => inside state trip
    · intro trip listed
      rw [trips_same same] at listed
      obtain ⟨stored, seen⟩ := List.mem_filter.mp listed
      have words : tripSearched search other.db trip = tripSearched search state.db trip := by
        funext wanted
        rw [tripSearched, tripSearched, findBike_same same seen, tripRider_same same stored seen]
      rw [ofBike, ofBike, words, onInsured_same same]
  rw [listAllTripsForUser, listAllTripsForUser, rows]
  apply page_congr
  intro trip listed
  obtain ⟨stored, chosen⟩ := List.mem_filter.mp (List.mem_mergeSort.mp listed)
  have seen := inside state trip chosen
  rw [toFleetTrip, toFleetTrip, findBike_same same seen, tripRider_same same stored seen,
    tripEventCounts_same same seen]

/-- The bike of a visible incident. -/
theorem incidentBike_same {bikeId : Option Id} (seen : onInsured state user bikeId = true) :
    bikeId.bind other.db.findBike = bikeId.bind state.db.findBike := by
  cases bikeId with
  | none => rfl
  | some id => exact findBike_same same seen

/-- The list of incidents is the same. -/
theorem listIncidents_same (plan : user.fleetPlan = .INSURANCE) (named : Named user)
    (query : ListIncidentsDto) :
    listIncidentsForUser search other.db user query =
      listIncidentsForUser search state.db user query := by
  have ofBike : ∀ (state : FleetState) (incident : Incident),
      selectsIncident search state.db user query incident =
        (onInsured state user incident.bikeId &&
          searched query.search (incidentSearched search state.db incident) &&
          between query.from_ query.to_ incident.createdAt) := by
    intro state incident
    rw [selectsIncident, if_pos plan, bikeInsured_named named]
  have inside : ∀ (state : FleetState) (incident : Incident),
      selectsIncident search state.db user query incident = true →
        onInsured state user incident.bikeId = true := by
    intro state incident chosen
    rw [ofBike, Bool.and_eq_true, Bool.and_eq_true] at chosen
    exact chosen.1.1
  have rows : other.db.incidents.filter (selectsIncident search other.db user query) =
      state.db.incidents.filter (selectsIncident search state.db user query) := by
    apply filter_eq_of_sees (congrArg InsurerView.incidents same)
    · exact fun incident _ => inside other incident
    · exact fun incident _ => inside state incident
    · intro incident listed
      have seen := (List.mem_filter.mp listed).2
      rw [onInsured_same same] at seen
      have words : incidentSearched search other.db incident =
          incidentSearched search state.db incident := by
        funext wanted
        rw [incidentSearched, incidentSearched, incidentBike_same same seen]
      rw [ofBike, ofBike, words, onInsured_same same]
  rw [listIncidentsForUser, listIncidentsForUser, rows]
  apply page_congr
  intro incident listed
  have chosen := (List.mem_filter.mp (List.mem_mergeSort.mp listed)).2
  rw [toFleetIncident, toFleetIncident, incidentBike_same same (inside state incident chosen)]

omit same in
/-- How the list asks for an assignment, where it keeps to the view: of a visible bike. -/
theorem selectsAssignments_eq {query : ListRidersDto} (rider : User)
    (asked : (given query.bikeId).elim (user.fleetPlan = .INSURANCE ∧ Named user) fun bikeId =>
      onInsured state user (some bikeId) = true) :
    selectsAssignments state.db user query rider =
      assigned state.db rider fun row => onInsured state user (some row.bikeId) &&
        (given query.bikeId).all fun bikeId => decide (row.bikeId = bikeId) := by
  rw [selectsAssignments]
  cases wanted : given query.bikeId with
  | none =>
    rw [wanted, Option.elim_none] at asked
    dsimp only
    rw [if_pos asked.1]
    congr 1
    funext row
    rw [bikeInsured_named asked.2, Option.all_none, Bool.and_true]
  | some bikeId =>
    rw [wanted, Option.elim_some] at asked
    dsimp only
    congr 1
    funext row
    rw [Option.all_some]
    by_cases own : row.bikeId = bikeId
    case pos => rw [own, asked, Bool.true_and]
    case neg => rw [decide_eq_false own, Bool.and_false]

omit same in
/-- A rider of a visible bike is visible. -/
theorem rides_of_assigned {rider : User} {test : BikeAssignment → Bool}
    (found : assigned state.db rider (fun row => onInsured state user (some row.bikeId) && test row)
      = true) : rides state user rider.id = true := by
  obtain ⟨row, stored, chosen⟩ := List.any_eq_true.mp found
  rw [Bool.and_eq_true, Bool.and_eq_true, Bool.and_eq_true] at chosen
  rw [rides, Bool.or_eq_true]
  left
  refine List.any_eq_true.mpr ⟨row, stored, ?_⟩
  rw [Bool.and_eq_true]
  exact ⟨chosen.2.1, chosen.1.1⟩

/-- The assignments of a rider to insured bikes are the same. -/
theorem assigned_same (rider : User) (test : BikeAssignment → Bool) :
    (assigned other.db rider fun row => onInsured other user (some row.bikeId) && test row) =
      assigned state.db rider fun row => onInsured state user (some row.bikeId) && test row := by
  have inside : ∀ (state : FleetState) (row : BikeAssignment),
      (decide (row.riderUserId = rider.id) && row.active &&
        (onInsured state user (some row.bikeId) && test row)) = true →
        onInsured state user (some row.bikeId) = true := by
    intro state row chosen
    rw [Bool.and_eq_true, Bool.and_eq_true, Bool.and_eq_true] at chosen
    exact chosen.2.1
  rw [assigned, assigned]
  apply any_eq_of_sees (assignments_same same)
  · exact fun row _ => inside other row
  · exact fun row _ => inside state row
  · intro row _
    rw [onInsured_same same]

/-- What is asked of the bike is asked in both states. -/
theorem asked_same {query : ListRidersDto}
    (asked : (given query.bikeId).elim (user.fleetPlan = .INSURANCE ∧ Named user) fun bikeId =>
      onInsured state user (some bikeId) = true) :
    (given query.bikeId).elim (user.fleetPlan = .INSURANCE ∧ Named user) fun bikeId =>
      onInsured other user (some bikeId) = true := by
  cases wanted : given query.bikeId with
  | none =>
    rw [wanted] at asked
    exact asked
  | some bikeId =>
    rw [wanted] at asked
    exact (onInsured_same same _).trans asked

/-- The riders that a list selects are the same. -/
theorem selectedRiders_same {query : ListRidersDto}
    (asked : (given query.bikeId).elim (user.fleetPlan = .INSURANCE ∧ Named user) fun bikeId =>
      onInsured state user (some bikeId) = true) :
    other.db.users.filter (selectsRider search other.db user query) =
      state.db.users.filter (selectsRider search state.db user query) := by
  have inside : ∀ (state : FleetState), ((given query.bikeId).elim
      (user.fleetPlan = .INSURANCE ∧ Named user) fun bikeId =>
        onInsured state user (some bikeId) = true) → ∀ rider : User,
      selectsRider search state.db user query rider = true → rides state user rider.id = true := by
    intro state asked rider chosen
    simp only [selectsRider, Bool.and_eq_true] at chosen
    have riding := chosen.1.1.2
    rw [selectsAssignments_eq rider asked] at riding
    exact rides_of_assigned riding
  apply filter_eq_of_sees (congrArg InsurerView.riders same)
  · exact fun rider _ => inside other (asked_same same asked) rider
  · exact fun rider _ => inside state asked rider
  · intro rider _
    rw [selectsRider, selectsRider, selectsAssignments_eq rider asked,
      selectsAssignments_eq rider (asked_same same asked), assigned_same same]

/-- The list of riders is the same where it keeps to the view. -/
theorem listRiders_same {now : Int} {query : ListRidersDto}
    (keeps : KeepsToView search state user (.riders now query)) :
    listRidersForUser search other.db user now query =
      listRidersForUser search state.db user now query := by
  obtain ⟨asked, empty⟩ := keeps
  rw [listRidersForUser, listRidersForUser, selectedRiders_same same asked]
  apply page_congr_of_page
  intro rider onPage
  rw [List.drop_of_length_le] at onPage
  · cases List.mem_of_mem_take onPage
  · rw [latestFirst, List.length_mergeSort]
    exact empty

/-! ### The report and the live messages -/

omit same in
/-- The report of an insurer is about its bikes. -/
theorem reportsOn_named (insurer : user.role = .INSURER) (named : Named user) (state : FleetState)
    (fleetId : Id) (bikeId : Option Id) :
    reportsOn state.db user fleetId bikeId = onInsured state user bikeId := by
  obtain ⟨name, given⟩ := exists_name named
  rw [reportsOn, if_pos insurer, given, Option.all_some]
  exact bikeInsured_eq given bikeId

/-- The trips of a report are the same. -/
theorem reportTrips_same (insurer : user.role = .INSURER) (named : Named user) (range : Int × Int) :
    reportTrips other.db user range = reportTrips state.db user range := by
  have chosen : ∀ (state : FleetState) (trip : Trip), (within range trip.startTs &&
      reportsOn state.db user trip.fleetId (some trip.bikeId)) = true →
        onInsured state user (some trip.bikeId) = true := by
    intro state trip taken
    rw [Bool.and_eq_true, reportsOn_named insurer named] at taken
    exact taken.2
  apply filter_eq_of_sees (trips_same same)
  · exact fun trip _ => chosen other trip
  · exact fun trip _ => chosen state trip
  · intro trip _
    rw [reportsOn_named insurer named, reportsOn_named insurer named, onInsured_same same]

/-- The events of a report are the same. -/
theorem reportEvents_same (insurer : user.role = .INSURER) (named : Named user)
    (range : Int × Int) : reportEvents other.db user range = reportEvents state.db user range := by
  have chosen : ∀ (state : FleetState) (event : Event), (within range event.ts &&
      reportsOn state.db user event.fleetId event.bikeId) = true →
        onInsured state user event.bikeId = true := by
    intro state event taken
    rw [Bool.and_eq_true, reportsOn_named insurer named] at taken
    exact taken.2
  apply filter_eq_of_sees (congrArg InsurerView.events same)
  · exact fun event _ => chosen other event
  · exact fun event _ => chosen state event
  · intro event _
    rw [reportsOn_named insurer named, reportsOn_named insurer named, onInsured_same same]

omit same in
/-- A bike on which something insured lies is insured. -/
theorem isInsured_of_onInsured {bike : Bike} (stored : bike ∈ state.db.bikes)
    (seen : onInsured state user (some bike.id) = true) : isInsured user bike = true := by
  rw [onInsured, Option.any_some, List.any_eq_true] at seen
  obtain ⟨row, listed, equal⟩ := seen
  obtain ⟨rowStored, insured⟩ := List.mem_filter.mp listed
  rw [Tables.eq_of_key_eq state.db.bikeKeys stored rowStored (of_decide_eq_true equal).symm]
  exact insured

/-- The labels of insured bikes are the same. -/
theorem loadBikeLabels_same {bikeIds : List Id}
    (seen : ∀ id ∈ bikeIds, onInsured state user (some id) = true) :
    loadBikeLabels other.db bikeIds = loadBikeLabels state.db bikeIds := by
  have rows : (other.db.bikes.filter fun bike => decide (bike.id ∈ bikeIds)) =
      state.db.bikes.filter fun bike => decide (bike.id ∈ bikeIds) := by
    apply filter_eq_of_sees (insuredBikes_same same)
    · intro bike stored wanted
      exact isInsured_of_onInsured stored
        ((onInsured_same same _).trans (seen bike.id (of_decide_eq_true wanted)))
    · intro bike stored wanted
      exact isInsured_of_onInsured stored (seen bike.id (of_decide_eq_true wanted))
    · exact fun _ _ => rfl
  rw [loadBikeLabels, loadBikeLabels, rows]

/-- The names of riders of insured bikes are the same. -/
theorem loadRiderNames_same {riderIds : List Id}
    (seen : ∀ id ∈ riderIds, rides state user id = true) :
    loadRiderNames other.db riderIds = loadRiderNames state.db riderIds := by
  have rows : (other.db.users.filter fun rider => decide (rider.id ∈ riderIds)) =
      state.db.users.filter fun rider => decide (rider.id ∈ riderIds) := by
    apply filter_eq_of_sees (congrArg InsurerView.riders same)
    · intro rider _ wanted
      exact (rides_same same _).trans (seen rider.id (of_decide_eq_true wanted))
    · intro rider _ wanted
      exact seen rider.id (of_decide_eq_true wanted)
    · exact fun _ _ => rfl
  rw [loadRiderNames, loadRiderNames, rows]

/-- The report of a named insurer is about visible bikes and riders. -/
theorem report_same_of_named (insurer : user.role = .INSURER) (named : Named user) (now : Int)
    (query : ReportQueryDto) :
    getWeeklyReport other.db user now query = getWeeklyReport state.db user now query := by
  rw [getWeeklyReport, getWeeklyReport]
  congr 1
  funext range
  have seenTrips : ∀ trip ∈ reportTrips state.db user range, trip ∈ state.db.trips ∧
      onInsured state user (some trip.bikeId) = true := by
    intro trip listed
    obtain ⟨stored, taken⟩ := List.mem_filter.mp listed
    rw [Bool.and_eq_true, reportsOn_named insurer named] at taken
    exact ⟨stored, taken.2⟩
  have bikes : ∀ id ∈ (reportTrips state.db user range).map Trip.bikeId ++
      (reportEvents state.db user range).filterMap Event.bikeId,
      onInsured state user (some id) = true := by
    intro id listed
    rcases List.mem_append.mp listed with ofTrip | ofEvent
    · obtain ⟨trip, onTrip, rfl⟩ := List.mem_map.mp ofTrip
      exact (seenTrips trip onTrip).2
    · obtain ⟨event, onEvent, ofBike⟩ := List.mem_filterMap.mp ofEvent
      have taken := (List.mem_filter.mp onEvent).2
      rw [Bool.and_eq_true, reportsOn_named insurer named, ofBike] at taken
      exact taken.2
  have riders : ∀ id ∈ (reportTrips state.db user range).filterMap Trip.riderId,
      rides state user id = true := by
    intro id listed
    obtain ⟨trip, onTrip, ridden⟩ := List.mem_filterMap.mp listed
    obtain ⟨stored, seen⟩ := seenTrips trip onTrip
    rw [rides, Bool.or_eq_true]
    right
    refine List.any_eq_true.mpr ⟨trip, stored, ?_⟩
    rw [seen, ridden]
    exact decide_eq_true rfl
  simp only [reportTrips_same same insurer named, reportEvents_same same insurer named,
    loadBikeLabels_same same bikes, loadRiderNames_same same riders]

omit same in
/-- There is nothing in an empty range. -/
theorem reportRows_empty (db : Database) {range : Int × Int} (empty : range.2 < range.1) :
    reportTrips db user range = [] ∧ reportEvents db user range = [] := by
  have outside (time : Int) : within range time = false :=
    decide_eq_false fun inside => absurd (le_trans inside.1 inside.2) (not_le.mpr empty)
  constructor
  · exact List.filter_eq_nil_iff.mpr fun trip _ taken => by
      rw [outside, Bool.false_and] at taken
      cases taken
  · exact List.filter_eq_nil_iff.mpr fun event _ taken => by
      rw [outside, Bool.false_and] at taken
      cases taken

omit same in
/-- The report of an empty range is the same for everyone. -/
theorem report_same_of_empty {now : Int} {query : ReportQueryDto}
    (empty : ∀ range ∈ reportRange now query, range.2 < range.1) (db otherDb : Database) :
    getWeeklyReport otherDb user now query = getWeeklyReport db user now query := by
  rw [getWeeklyReport, getWeeklyReport]
  cases found : reportRange now query with
  | none => rfl
  | some range =>
    have nothing := empty range found
    have noLabels (db : Database) : loadBikeLabels db [] = [] :=
      congrArg (List.map _) (List.filter_eq_nil_iff.mpr fun _ _ taken => by simp at taken)
    have noNames (db : Database) : loadRiderNames db [] = [] :=
      congrArg (List.map _) (List.filter_eq_nil_iff.mpr fun _ _ taken => by simp at taken)
    rw [Option.map_some, Option.map_some]
    simp only [(reportRows_empty db nothing).1, (reportRows_empty db nothing).2,
      (reportRows_empty otherDb nothing).1, (reportRows_empty otherDb nothing).2, List.map_nil,
      List.filterMap_nil, List.append_nil, noLabels, noNames]

/-- Without a visible bike there is no room to join. -/
theorem live_same (insurer : user.role = .INSURER) (named : Named user)
    (none_ : insuredBikes state user = []) :
    liveSession other.db other.published user = liveSession state.db state.published user := by
  obtain ⟨name, given⟩ := exists_name named
  have rooms : ∀ state : FleetState, insuredBikes state user = [] →
      uniqueFleetIds state.db user = [] := by
    intro state nothing
    have bikes : (state.db.bikes.filter fun bike => decide (bike.insurerName = user.insurerName)) =
        [] := by
      rw [← nothing, insuredBikes]
      congr 1
      funext bike
      exact (isInsured_of_named given bike).symm
    rw [uniqueFleetIds, if_pos insurer, bikes]
    rfl
  have silent : ∀ state : FleetState, insuredBikes state user = [] →
      liveSession state.db state.published user = ⟨[], []⟩ := by
    intro state nothing
    rw [liveSession, rooms state nothing]
    congr 1
    apply List.filterMap_eq_nil_iff.mpr
    intro emission _
    exact if_neg List.not_mem_nil
  rw [silent state none_, silent other ((insuredBikes_same same).trans none_)]

/-- Where a request keeps to the view, both states give the same reply. -/
theorem answer_same (insurer : user.role = .INSURER) {request : InsurerRequest}
    (keeps : KeepsToView search state user request) :
    answer search other user request = answer search state user request := by
  cases request with
  | bikes query => exact congrArg _ (bikes_same same keeps.1 keeps.2 query)
  | trips query =>
    rcases keeps with named | nothing
    · exact congrArg _ (listTrips_same same insurer named query)
    · have noTrips (db : Database) : db.trips.filter (selectsTrip search db user query) = [] := by
        apply List.filter_eq_nil_iff.mpr
        intro trip _ taken
        rw [selectsTrip, nothing, Bool.and_false] at taken
        cases taken
      rw [answer, answer, listAllTripsForUser, listAllTripsForUser, noTrips, noTrips]
      refine congrArg InsurerReply.trips (page_congr fun trip listed => ?_)
      cases List.mem_mergeSort.mp listed
  | incidents query =>
    rcases keeps with ⟨plan, named⟩ | nothing
    · exact congrArg _ (listIncidents_same same plan named query)
    · have noIncidents (db : Database) :
          db.incidents.filter (selectsIncident search db user query) = [] := by
        apply List.filter_eq_nil_iff.mpr
        intro incident _ taken
        rw [selectsIncident, nothing, Bool.and_false] at taken
        cases taken
      rw [answer, answer, listIncidentsForUser, listIncidentsForUser, noIncidents, noIncidents]
      refine congrArg InsurerReply.incidents (page_congr fun incident listed => ?_)
      cases List.mem_mergeSort.mp listed
  | riders now query => exact congrArg _ (listRiders_same same keeps)
  | weeklyReport now query =>
    rcases keeps with named | empty
    · exact congrArg _ (report_same_of_named same insurer named now query)
    · exact congrArg _ (report_same_of_empty empty _ _)
  | live => exact congrArg _ (live_same same insurer keeps.1 keeps.2)

end Same

end EmotoFleet.Access.Insurers
