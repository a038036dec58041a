import EmotoFleet.Access.PartnerReads
import EmotoFleet.Foundations.Views

/-!
# What the replies to a partner depend on

A partner may see its grants and whether and under which name it insures. An insurer with
a name may further see the bikes under that name and what happened on them, and the names
of their fleets; an insurer without a name nothing else. A partner that is no insurer may
see the fleets that it has active access to, with their bikes, their riders and what
happened in them.

The reads keep to this in some requests only. Which ones is stated as a condition on the
request and the state, and proved both ways: where it holds, states with the same view
give the same reply; where it fails, another state with the same view gives another one.
-/

namespace EmotoFleet.Access

open Accounts (UserRole given)
open Tables (find?_key_iff)
open Views

section Sight

variable (db : Database) (partnerId : Id)

/-- The name that counts: that of an insurer, if it has one. -/
def insuredName : Option String :=
  if isInsurerPartner db partnerId then given (partnerInsurerName db partnerId) else none

/-- Whether a partner that is no insurer has access to a fleet. -/
def seesFleet (fleetId : Id) : Bool :=
  !isInsurerPartner db partnerId && hasActiveAccess db partnerId fleetId

/-- Whether a bike is insured by the partner or of a fleet that it has access to. -/
def seesBike (bike : Bike) : Bool :=
  if isInsurerPartner db partnerId then
    (given (partnerInsurerName db partnerId)).any fun name =>
      decide (bike.insurerName = some name)
  else hasActiveAccess db partnerId bike.fleetId

/-- The bikes that a partner may know. -/
def visibleBikes : List Bike :=
  db.bikes.filter (seesBike db partnerId)

/-- A row of a fleet that the partner sees, or on a bike that it sees. -/
def seesRow (fleetId : Id) (bikeId : Option Id) : Bool :=
  seesFleet db partnerId fleetId || bikeId.any fun id =>
    (visibleBikes db partnerId).any fun bike => decide (bike.id = id)

/-- Whether a partner may know a trip. -/
def seesTrip (trip : Trip) : Bool := seesRow db partnerId trip.fleetId (some trip.bikeId)

/-- Whether a partner may know an event. -/
def seesEvent (event : Event) : Bool := seesRow db partnerId event.fleetId event.bikeId

/-- Whether a partner may know an incident. -/
def seesIncident (incident : Incident) : Bool :=
  seesRow db partnerId incident.fleetId incident.bikeId

/-- The riders of the fleets that a partner sees. Its own account is none of them. -/
def seesRider (user : User) : Bool :=
  decide (user.role = .RIDER) && seesFleet db partnerId user.fleetId &&
    decide (user.id ≠ partnerId)

end Sight

/-- What a partner may see. -/
structure PartnerView where
  isInsurer : Bool
  insurerName : Option String
  accesses : List PartnerFleetAccess
  fleets : Id → Option Fleet
  bikes : List Bike
  trips : List Trip
  events : List Event
  incidents : List Incident
  riders : List User
  evidencePacks : Id → Option EvidencePack

/-- All that a partner may know. -/
def partnerView (db : Database) (partnerId : Id) : PartnerView where
  isInsurer := isInsurerPartner db partnerId
  insurerName := insuredName db partnerId
  accesses := db.accesses.filter fun access => decide (access.partnerId = partnerId)
  fleets id :=
    if seesFleet db partnerId id ∨ ∃ bike ∈ visibleBikes db partnerId, bike.fleetId = id then
      db.fleets id
    else none
  bikes := visibleBikes db partnerId
  trips := db.trips.filter (seesTrip db partnerId)
  events := db.events.filter (seesEvent db partnerId)
  incidents := db.incidents.filter (seesIncident db partnerId)
  riders := db.users.filter (seesRider db partnerId)
  evidencePacks id :=
    if ∃ incident ∈ db.incidents, seesIncident db partnerId incident = true ∧ incident.id = id then
      db.evidencePacks id
    else none

/-! ## Replies within the view -/

section Same

variable {db other : Database} {partnerId : Id}
  (same : partnerView other partnerId = partnerView db partnerId)

include same

/-- Databases with one view agree on whether the partner is an insurer. -/
theorem isInsurer_same : isInsurerPartner other partnerId = isInsurerPartner db partnerId :=
  congrArg PartnerView.isInsurer same

/-- They agree on the name that the partner insures under. -/
theorem insuredName_same : insuredName other partnerId = insuredName db partnerId :=
  congrArg PartnerView.insurerName same

/-- They have the same bikes for the partner. -/
theorem visibleBikes_same : visibleBikes other partnerId = visibleBikes db partnerId :=
  congrArg PartnerView.bikes same

/-- They give the partner access to the same fleets. -/
theorem hasActiveAccess_same (fleetId : Id) :
    hasActiveAccess other partnerId fleetId = hasActiveAccess db partnerId fleetId := by
  have own : ∀ state : Database, (state.accesses.find? fun access =>
      decide (access.partnerId = partnerId ∧ access.fleetId = fleetId)) =
      (state.accesses.filter fun access => decide (access.partnerId = partnerId)).find?
        fun access => decide (access.fleetId = fleetId) := by
    intro state
    rw [List.find?_filter]
    congr 1
    funext access
    simp only [Bool.decide_and, Bool.decide_eq_true]
  have accesses : (other.accesses.filter fun access => decide (access.partnerId = partnerId)) =
      db.accesses.filter fun access => decide (access.partnerId = partnerId) :=
    congrArg PartnerView.accesses same
  rw [hasActiveAccess, hasActiveAccess, own, own, accesses]

/-- They show the partner the same fleets. -/
theorem seesFleet_same (fleetId : Id) :
    seesFleet other partnerId fleetId = seesFleet db partnerId fleetId := by
  rw [seesFleet, seesFleet, isInsurer_same same, hasActiveAccess_same same]

/-- They show the partner the same rows. -/
theorem seesRow_same (fleetId : Id) (bikeId : Option Id) :
    seesRow other partnerId fleetId bikeId = seesRow db partnerId fleetId bikeId := by
  rw [seesRow, seesRow, seesFleet_same same, visibleBikes_same same]

/-- A bike that is seen is found in both states. -/
theorem findBike_same {bikeId : Id} {bike : Bike} (found : db.findBike bikeId = some bike)
    (seen : seesBike db partnerId bike = true) : other.findBike bikeId = some bike :=
  find?_key_of_sees db.bikeKeys other.bikeKeys (visibleBikes_same same) found seen

/-- An incident that is visible in one is found in the other. -/
theorem findIncident_same {incidentId : Id} {incident : Incident}
    (found : db.findIncident incidentId = some incident)
    (seen : seesIncident db partnerId incident = true) :
    other.findIncident incidentId = some incident :=
  find?_key_of_sees db.incidentKeys other.incidentKeys (congrArg PartnerView.incidents same) found
    seen

end Same

section Kinds

variable {db : Database} {partnerId : Id} {name : String}

/-- Only an insurer has a name to insure under. -/
theorem isInsurer_of_insured (insured : insuredName db partnerId = some name) :
    isInsurerPartner db partnerId = true ∧ given (partnerInsurerName db partnerId) = some name := by
  rw [insuredName] at insured
  split at insured
  case isTrue insurer => exact ⟨insurer, insured⟩
  case isFalse => cases insured

/-- What an insurer with a name sees of the bikes. -/
theorem seesBike_insured (insured : insuredName db partnerId = some name) (bike : Bike) :
    seesBike db partnerId bike = decide (bike.insurerName = some name) := by
  obtain ⟨insurer, named⟩ := isInsurer_of_insured insured
  rw [seesBike, if_pos insurer, named, Option.any_some]

/-- Of rows it sees those that its condition on the bike selects. -/
theorem seesRow_insured (insured : insuredName db partnerId = some name) (fleetId : Id)
    (bikeId : Option Id) :
    seesRow db partnerId fleetId bikeId = matchesBike db (some name) bikeId := by
  obtain ⟨insurer, -⟩ := isInsurer_of_insured insured
  rw [seesRow, seesFleet, insurer, Bool.not_true, Bool.false_and, Bool.false_or, matchesBike]
  cases bikeId with
  | none => rfl
  | some id =>
    rw [Option.any_some, Option.bind_some, Bool.eq_iff_iff, List.any_eq_true, Option.any_eq_true]
    constructor
    · rintro ⟨bike, visible, same⟩
      obtain ⟨listed, seen⟩ := List.mem_filter.mp visible
      rw [seesBike_insured insured] at seen
      exact ⟨bike, (find?_key_iff db.bikeKeys).mpr ⟨listed, of_decide_eq_true same⟩, seen⟩
    · rintro ⟨bike, found, selected⟩
      obtain ⟨listed, same⟩ := (find?_key_iff db.bikeKeys).mp found
      rw [← seesBike_insured insured] at selected
      exact ⟨bike, List.mem_filter.mpr ⟨listed, selected⟩, decide_eq_true same⟩

/-- An insurer with a name is let in by its bikes, every other partner by its grants. -/
theorem assertFleetAccess_eq (db : Database) (partnerId fleetId : Id) :
    assertFleetAccess db partnerId fleetId =
      match insuredName db partnerId with
      | some _ =>
        if (visibleBikes db partnerId).any fun bike => decide (bike.fleetId = fleetId) then .ok ()
        else .error (.forbidden "Partner fleet access denied (no insured bikes in this fleet)")
      | none =>
        if hasActiveAccess db partnerId fleetId then .ok ()
        else .error (.forbidden "Partner fleet access denied") := by
  cases insured : insuredName db partnerId with
  | none =>
    rw [insuredName] at insured
    rw [assertFleetAccess]
    split
    case h_1 _ insurer named =>
      rw [if_pos insurer, named] at insured
      cases insured
    case h_2 => rfl
  | some name =>
    obtain ⟨insurer, named⟩ := isInsurer_of_insured insured
    have bikes : (db.bikes.any fun bike =>
        decide (bike.fleetId = fleetId ∧ bike.insurerName = some name)) =
        (visibleBikes db partnerId).any fun bike => decide (bike.fleetId = fleetId) := by
      rw [visibleBikes, List.any_filter]
      congr 1
      funext bike
      rw [seesBike_insured insured, ← Bool.decide_and]
      exact decide_eq_decide.mpr and_comm
    simp only [assertFleetAccess, insurer, named, bikes]

end Kinds

/-- The grant that is looked up is the one that is listed. -/
theorem hasActiveAccess_eq (db : Database) (partnerId fleetId : Id) :
    hasActiveAccess db partnerId fleetId =
      (db.accesses.filter fun access => decide (access.partnerId = partnerId) && access.active).any
        fun access => decide (access.fleetId = fleetId) := by
  have keyed : (fun access : PartnerFleetAccess =>
      decide (access.partnerId = partnerId ∧ access.fleetId = fleetId)) =
      fun access => decide ((access.partnerId, access.fleetId) = (partnerId, fleetId)) := by
    funext access
    simp only [Prod.mk.injEq]
  rw [hasActiveAccess, keyed, Bool.eq_iff_iff, Option.any_eq_true, List.any_eq_true]
  constructor
  · rintro ⟨access, found, active⟩
    obtain ⟨listed, key⟩ := (find?_key_iff db.accessKeys).mp found
    obtain ⟨ofPartner, ofFleet⟩ := Prod.mk.inj key
    refine ⟨access, List.mem_filter.mpr ⟨listed, ?_⟩, decide_eq_true ofFleet⟩
    rw [decide_eq_true ofPartner, active]
    rfl
  · rintro ⟨access, granted, ofFleet⟩
    obtain ⟨listed, facts⟩ := List.mem_filter.mp granted
    obtain ⟨ofPartner, active⟩ := Bool.and_eq_true_iff.mp facts
    refine ⟨access, (find?_key_iff db.accessKeys).mpr ⟨listed, ?_⟩, active⟩
    rw [of_decide_eq_true ofPartner, of_decide_eq_true ofFleet]

/-- The bikes that are listed are those that are seen, unless an insurer has no name. -/
theorem listsBike_eq {db : Database} {partner : AuthenticatedPartner}
    (named : isInsurerPartner db partner.partnerId = true →
      insuredName db partner.partnerId ≠ none) (bike : Bike) :
    listsBike db partner bike = seesBike db partner.partnerId bike := by
  rw [listsBike, seesBike]
  split
  case isTrue insurer =>
    obtain ⟨name, insured⟩ := Option.ne_none_iff_exists'.mp (named insurer)
    rw [(isInsurer_of_insured insured).2, Option.getD_some, Option.any_some]
  case isFalse => rw [hasActiveAccess_eq]

/-- An insurer is stopped at a bike of another one; other partners pass. -/
theorem assertInsured_eq (db : Database) (partnerId : Id) (insurerName : Option String)
    (message : String) :
    assertInsured db partnerId insurerName message =
      if isInsurerPartner db partnerId = true ∧
          ¬ (insurerName ≠ none ∧ insurerName = insuredName db partnerId) then
        .error (.forbidden message)
      else .ok () := by
  rw [assertInsured, insuredName]
  cases isInsurerPartner db partnerId with
  | false => rfl
  | true =>
    cases named : given (partnerInsurerName db partnerId) with
    | none => cases insurerName <;> rfl
    | some name =>
      have whole := (Accounts.given_eq_some named).1
      rw [whole]
      cases insurerName with
      | none => rfl
      | some other => by_cases equal : other = name <;> simp [equal]

/-- What is on a visible bike is visible. -/
theorem seesRow_of_bike {db : Database} {partnerId fleetId : Id} {bike : Bike}
    (visible : bike ∈ visibleBikes db partnerId) :
    seesRow db partnerId fleetId (some bike.id) = true := by
  rw [seesRow, Option.any_some, Bool.or_eq_true]
  exact .inr (List.any_eq_true.mpr ⟨bike, visible, decide_eq_true rfl⟩)

/-- A bike that is found and seen is among the visible ones. -/
theorem visible_of_found {db : Database} {partnerId bikeId : Id} {bike : Bike}
    (found : db.findBike bikeId = some bike) (seen : seesBike db partnerId bike = true) :
    bike ∈ visibleBikes db partnerId :=
  List.mem_filter.mpr ⟨List.mem_of_find?_eq_some found, seen⟩

/-- A row of a fleet that is not seen is visible through its bike. -/
theorem bike_of_seesRow {db : Database} {partnerId fleetId : Id} {bikeId : Option Id}
    (seen : seesRow db partnerId fleetId bikeId = true)
    (hidden : seesFleet db partnerId fleetId = false) :
    ∃ bike ∈ visibleBikes db partnerId, bikeId = some bike.id := by
  rw [seesRow, hidden, Bool.false_or, Option.any_eq_true] at seen
  obtain ⟨id, present, listed⟩ := seen
  obtain ⟨bike, visible, same⟩ := List.any_eq_true.mp listed
  exact ⟨bike, visible, by rw [present, of_decide_eq_true same]⟩

/-- The bike that an insurer sees is one under its own name. -/
theorem assertInsuresBike_visible {db : Database} {partner : AuthenticatedPartner} {bike : Bike}
    (seen : seesBike db partner.partnerId bike = true) :
    assertInsuresBike db partner bike = .ok () := by
  rw [assertInsuresBike, if_neg]
  rintro ⟨insurer, apart⟩
  rw [seesBike, if_pos insurer, Option.any_eq_true] at seen
  obtain ⟨name, named, own⟩ := seen
  rw [(Accounts.given_eq_some named).1] at apart
  exact apart (of_decide_eq_true own)

/-- The summary is narrowed to the bikes of an insurer. -/
theorem summaryBikeFilter_eq (db : Database) (partner : AuthenticatedPartner) :
    summaryBikeFilter db partner = insuredName db partner.partnerId := rfl

/-- What a state must provide for a request to be answered from the view. -/
def KeepsToView (moment : Moment) (db : Database) (partner : AuthenticatedPartner) :
    PartnerRequest → Prop
  | .weeklySummary fleetId query =>
    ¬ (isInsurerPartner db partner.partnerId = true ∧ insuredName db partner.partnerId = none ∧
      hasActiveAccess db partner.partnerId fleetId = true ∧
      (resolveTimeRange moment.now query).1 ≤ (resolveTimeRange moment.now query).2)
  | .bikes _ =>
    isInsurerPartner db partner.partnerId = true → insuredName db partner.partnerId ≠ none
  | .bikeTrips bikeId _ | .bikeWeeklyMileage bikeId =>
    ∃ bike, db.findBike bikeId = some bike ∧ seesBike db partner.partnerId bike = true
  | .incident incidentId | .evidencePack incidentId =>
    ∃ incident, db.findIncident incidentId = some incident ∧
      seesIncident db partner.partnerId incident = true
  | .riderSafetyScore _ => False

section Confined

variable {moment : Moment} {db other : Database} {partner : AuthenticatedPartner}
  (same : partnerView other partner.partnerId = partnerView db partner.partnerId)

include same

/-- Databases with one view let the partner into the same fleets. -/
theorem assertFleetAccess_same (fleetId : Id) :
    assertFleetAccess other partner.partnerId fleetId =
      assertFleetAccess db partner.partnerId fleetId := by
  rw [assertFleetAccess_eq, assertFleetAccess_eq, insuredName_same same, visibleBikes_same same,
    hasActiveAccess_same same]

/-- How the rows of a summary are sighted: by the condition on the bike, or because the
partner sees the fleet, or there are none in an empty range. -/
def Sighted (db : Database) (partnerId fleetId : Id) (range : Int × Int) : Prop :=
  insuredName db partnerId ≠ none ∨ seesFleet db partnerId fleetId = true ∨ range.2 < range.1

omit same in
/-- What a query of a fleet selects is visible where the fleet is. -/
theorem sees_of_selected {fleetId rowFleetId : Id} {bikeId : Option Id} {range : Int × Int}
    {time : Int} (sighted : Sighted db partner.partnerId fleetId range)
    (selected : (decide (rowFleetId = fleetId) && within range time &&
      matchesBike db (insuredName db partner.partnerId) bikeId) = true) :
    seesRow db partner.partnerId rowFleetId bikeId = true := by
  simp only [Bool.and_eq_true, decide_eq_true_eq, within] at selected
  obtain ⟨⟨ofFleet, inRange⟩, matched⟩ := selected
  rcases sighted with named | fleet | empty
  · obtain ⟨name, insured⟩ := Option.ne_none_iff_exists'.mp named
    rw [seesRow_insured insured, ← insured]
    exact matched
  · rw [seesRow, ofFleet, fleet, Bool.true_or]
  · omega

/-- They count the same bikes as insured by the partner. -/
theorem matchesBike_same (bikeId : Option Id) :
    matchesBike other (insuredName other partner.partnerId) bikeId =
      matchesBike db (insuredName db partner.partnerId) bikeId := by
  have names := insuredName_same same
  cases insured : insuredName db partner.partnerId with
  | none => rw [names, insured]; rfl
  | some name =>
    rw [names, insured, ← seesRow_insured insured "", ← seesRow_insured (names.trans insured) "",
      seesRow_same same]

/-- Whether a fleet is sighted in a range is the same in both. -/
theorem sighted_same {fleetId : Id} {range : Int × Int} :
    Sighted other partner.partnerId fleetId range ↔ Sighted db partner.partnerId fleetId range := by
  rw [Sighted, Sighted, insuredName_same same, seesFleet_same same]

/-- The rows that a summary counts are the same in both states. -/
theorem selected_same {ρ : Type} (rows : Database → List ρ) (fleetOf : ρ → Id)
    (bikeOf : ρ → Option Id) (timeOf : ρ → Int) {fleetId : Id} {range : Int × Int}
    (seen : ((rows other).filter fun row =>
        seesRow other partner.partnerId (fleetOf row) (bikeOf row)) =
      (rows db).filter fun row => seesRow db partner.partnerId (fleetOf row) (bikeOf row))
    (sighted : Sighted db partner.partnerId fleetId range) :
    ((rows other).filter fun row => decide (fleetOf row = fleetId) && within range (timeOf row) &&
        matchesBike other (insuredName other partner.partnerId) (bikeOf row)) =
      (rows db).filter fun row => decide (fleetOf row = fleetId) && within range (timeOf row) &&
        matchesBike db (insuredName db partner.partnerId) (bikeOf row) := by
  apply filter_eq_of_sees seen
  · intro row _ selected
    exact sees_of_selected ((sighted_same same).mpr sighted) selected
  · intro row _ selected
    exact sees_of_selected sighted selected
  · intro row _
    rw [matchesBike_same same]

omit same in
/-- After a check only what follows a passed one matters. -/
theorem bind_congr_ok {α β ε : Type} {check : Except ε α} {first second : α → Except ε β}
    (alike : ∀ value, check = .ok value → first value = second value) :
    check >>= first = check >>= second := by
  cases check with
  | error failure => rfl
  | ok value => exact alike value rfl

omit same in
/-- A partner that is let in sees the fleet, insures by name, or is an insurer without one. -/
theorem access_cases {fleetId : Id}
    (admitted : assertFleetAccess db partner.partnerId fleetId = .ok ()) :
    insuredName db partner.partnerId ≠ none ∨ seesFleet db partner.partnerId fleetId = true ∨
      isInsurerPartner db partner.partnerId = true ∧ insuredName db partner.partnerId = none ∧
        hasActiveAccess db partner.partnerId fleetId = true := by
  cases insured : insuredName db partner.partnerId with
  | some name => exact .inl (Option.some_ne_none _)
  | none =>
    rw [assertFleetAccess_eq, insured] at admitted
    have granted : hasActiveAccess db partner.partnerId fleetId = true := by
      by_contra missing
      simp [missing] at admitted
    right
    cases insurer : isInsurerPartner db partner.partnerId with
    | false =>
      left
      rw [seesFleet, insurer, granted]
      rfl
    | true => exact .inr ⟨rfl, rfl, granted⟩

/-- A summary that keeps to the view is the same in both. -/
theorem weeklySummary_same {fleetId : Id} {query : PartnerDateRangeDto}
    (keeps : KeepsToView moment db partner (.weeklySummary fleetId query)) :
    getWeeklySummaryForPartner moment other partner fleetId query =
      getWeeklySummaryForPartner moment db partner fleetId query := by
  rw [getWeeklySummaryForPartner, getWeeklySummaryForPartner, assertFleetAccess_same same]
  apply bind_congr_ok
  intro _ _
  apply bind_congr_ok
  intro _ admitted
  have sighted : Sighted db partner.partnerId fleetId (resolveTimeRange moment.now query) := by
    rcases access_cases admitted with named | fleet | ⟨insurer, unnamed, granted⟩
    · exact .inl named
    · exact .inr (.inl fleet)
    · right
      right
      by_contra nonempty
      exact keeps ⟨insurer, unnamed, granted, not_lt.mp nonempty⟩
  have trips := selected_same same Database.trips Trip.fleetId (fun trip => some trip.bikeId)
    Trip.startTs (congrArg PartnerView.trips same) sighted
  have events := selected_same same Database.events Event.fleetId Event.bikeId Event.ts
    (congrArg PartnerView.events same) sighted
  have incidents := selected_same same Database.incidents Incident.fleetId Incident.bikeId
    Incident.createdAt (congrArg PartnerView.incidents same) sighted
  simp only [summaryBikeFilter_eq, trips, events, incidents]

/-- A list of bikes that keeps to the view is the same in both. -/
theorem bikes_same {query : PaginationQuery} (keeps : KeepsToView moment db partner (.bikes query)) :
    listBikesForPartner other partner query = listBikesForPartner db partner query := by
  have keepsOther : KeepsToView moment other partner (.bikes query) := by
    rw [KeepsToView, isInsurer_same same, insuredName_same same]
    exact keeps
  have bikes : other.bikes.filter (listsBike other partner) =
      db.bikes.filter (listsBike db partner) := by
    rw [funext (listsBike_eq keeps), funext (listsBike_eq keepsOther)]
    exact visibleBikes_same same
  rw [listBikesForPartner, listBikesForPartner]
  apply bind_congr_ok
  intro _ _
  simp only [bikes]
  congr 2
  apply page_congr
  intro bike listed
  have visible : bike ∈ visibleBikes db partner.partnerId := by
    rw [visibleBikes, ← funext (listsBike_eq keeps)]
    exact List.mem_mergeSort.mp listed
  have fleets := congrFun (congrArg PartnerView.fleets same) bike.fleetId
  simp only [partnerView, visibleBikes_same same] at fleets
  rw [if_pos (.inr ⟨bike, visible, rfl⟩), if_pos (.inr ⟨bike, visible, rfl⟩)] at fleets
  rw [toPartnerBike, toPartnerBike, fleets]

/-- They show the partner the same bikes. -/
theorem seesBike_same (bike : Bike) :
    seesBike other partner.partnerId bike = seesBike db partner.partnerId bike := by
  have names := insuredName_same same
  have insurers := isInsurer_same same
  rw [seesBike, seesBike, insurers, hasActiveAccess_same same]
  split
  case isTrue insurer =>
    rw [insuredName, insuredName, if_pos (insurers.trans insurer), if_pos insurer] at names
    rw [names]
  case isFalse => rfl

/-- They stop the partner at the same bikes. -/
theorem assertInsured_same (insurerName : Option String) (message : String) :
    assertInsured other partner.partnerId insurerName message =
      assertInsured db partner.partnerId insurerName message := by
  rw [assertInsured_eq, assertInsured_eq, isInsurer_same same, insuredName_same same]

/-- The trips of a visible bike that pass a test are the same in both states. -/
theorem tripsOfBike_same {bike : Bike} {chosen : Trip → Bool}
    (visible : bike ∈ visibleBikes db partner.partnerId)
    (ofBike : ∀ trip, chosen trip = true → trip.bikeId = bike.id) :
    other.trips.filter chosen = db.trips.filter chosen := by
  apply filter_eq_of_sees (congrArg PartnerView.trips same)
  · intro trip _ taken
    rw [seesTrip, ofBike trip taken]
    exact seesRow_of_bike (visibleBikes_same same ▸ visible)
  · intro trip _ taken
    rw [seesTrip, ofBike trip taken]
    exact seesRow_of_bike visible
  · intro trip _
    rfl

/-- Trips of a bike that keep to the view are the same in both. -/
theorem bikeTrips_same {bikeId : Id} {query : PartnerListTripsDto}
    (keeps : KeepsToView moment db partner (.bikeTrips bikeId query)) :
    listBikeTripsForPartner moment other partner bikeId query =
      listBikeTripsForPartner moment db partner bikeId query := by
  obtain ⟨bike, found, seen⟩ := keeps
  rw [listBikeTripsForPartner, listBikeTripsForPartner, findBike_same same found seen, found]
  apply bind_congr_ok
  intro _ _
  simp only [assertFleetAccess_same same, assertInsured_same same]
  rw [tripsOfBike_same same (visible_of_found found seen)]
  intro trip taken
  simp only [Bool.and_eq_true, decide_eq_true_eq] at taken
  exact taken.1.2

/-- A mileage that keeps to the view is the same in both. -/
theorem bikeWeeklyMileage_same {bikeId : Id}
    (keeps : KeepsToView moment db partner (.bikeWeeklyMileage bikeId)) :
    getBikeWeeklyMileage moment other partner bikeId =
      getBikeWeeklyMileage moment db partner bikeId := by
  obtain ⟨bike, found, seen⟩ := keeps
  rw [getBikeWeeklyMileage, getBikeWeeklyMileage, findBike_same same found seen, found]
  apply bind_congr_ok
  intro _ _
  simp only [assertInsuresBike_visible seen,
    assertInsuresBike_visible ((seesBike_same same bike).trans seen)]
  rw [tripsOfBike_same same (visible_of_found found seen)]
  intro trip taken
  exact (of_decide_eq_true taken).1

/-- Whether the bike of a visible incident is insured is the same in both states. -/
theorem incidentInsured_same {incident : Incident} (message : String)
    (seen : seesIncident db partner.partnerId incident = true) :
    assertInsured other partner.partnerId (incidentInsurerName other incident) message =
      assertInsured db partner.partnerId (incidentInsurerName db incident) message := by
  rw [assertInsured_same same]
  cases insurer : isInsurerPartner db partner.partnerId with
  | false =>
    rw [assertInsured, assertInsured, insurer]
    rfl
  | true =>
    have hidden : seesFleet db partner.partnerId incident.fleetId = false := by
      rw [seesFleet, insurer]
      rfl
    obtain ⟨bike, visible, onBike⟩ := bike_of_seesRow seen hidden
    obtain ⟨listed, bikeSeen⟩ := List.mem_filter.mp visible
    have found : db.findBike bike.id = some bike := (find?_key_iff db.bikeKeys).mpr ⟨listed, rfl⟩
    rw [incidentInsurerName, incidentInsurerName, onBike, Option.bind_some, Option.bind_some, found,
      findBike_same same found bikeSeen]

/-- The timeline of a visible incident is the same in both. -/
theorem timeline_same {incident : Incident}
    (seen : seesIncident db partner.partnerId incident = true) :
    loadIncidentTimeline other incident = loadIncidentTimeline db incident := by
  have inside : ∀ state : Database, seesIncident state partner.partnerId incident = true →
      ∀ event : Event, (decide (event.fleetId = incident.fleetId) &&
        within (incident.eventTs - incidentTimelineWindowMs,
          incident.eventTs + incidentTimelineWindowMs) event.ts &&
        (if incident.bikeId.isSome then decide (event.bikeId = incident.bikeId)
        else decide (event.deviceId = incident.deviceId))) = true →
      seesEvent state partner.partnerId event = true := by
    intro state visible event taken
    simp only [Bool.and_eq_true, decide_eq_true_eq] at taken
    cases fleet : seesFleet state partner.partnerId incident.fleetId with
    | true => rw [seesEvent, seesRow, taken.1.1, fleet, Bool.true_or]
    | false =>
      obtain ⟨bike, _, onBike⟩ := bike_of_seesRow visible fleet
      have ofBike : event.bikeId = incident.bikeId := by
        have second := taken.2
        rw [if_pos (by rw [onBike]; rfl)] at second
        exact of_decide_eq_true second
      rw [seesEvent, ofBike, taken.1.1]
      exact visible
  have events := filter_eq_of_sees (congrArg PartnerView.events same)
    (fun event _ => inside other ((seesRow_same same _ _).trans seen) event)
    (fun event _ => inside db seen event) (fun _ _ => rfl)
  simp only [loadIncidentTimeline, events]

/-- An incident that keeps to the view is answered alike. -/
theorem incident_same {incidentId : Id}
    (keeps : KeepsToView moment db partner (.incident incidentId)) :
    getIncidentForPartner other partner incidentId =
      getIncidentForPartner db partner incidentId := by
  obtain ⟨incident, found, seen⟩ := keeps
  rw [getIncidentForPartner, getIncidentForPartner, findIncident_same same found seen, found]
  simp only [assertFleetAccess_same same, incidentInsured_same same _ seen, timeline_same same seen]

/-- An evidence pack that keeps to the view is answered alike. -/
theorem evidencePack_same {incidentId : Id}
    (keeps : KeepsToView moment db partner (.evidencePack incidentId)) :
    getIncidentEvidencePackForPartner moment other partner incidentId =
      getIncidentEvidencePackForPartner moment db partner incidentId := by
  obtain ⟨incident, found, seen⟩ := keeps
  have foundOther := findIncident_same same found seen
  have packs := congrFun (congrArg PartnerView.evidencePacks same) incident.id
  have there : ∃ row ∈ db.incidents, seesIncident db partner.partnerId row = true ∧
      row.id = incident.id := ⟨incident, List.mem_of_find?_eq_some found, seen, rfl⟩
  have thereOther : ∃ row ∈ other.incidents, seesIncident other partner.partnerId row = true ∧
      row.id = incident.id :=
    ⟨incident, List.mem_of_find?_eq_some foundOther, (seesRow_same same _ _).trans seen, rfl⟩
  simp only [partnerView, if_pos there, if_pos thereOther] at packs
  rw [getIncidentEvidencePackForPartner, getIncidentEvidencePackForPartner, foundOther, found]
  simp only [incidentInsured_same same _ seen, hasActiveAccess_same same, getOrCreateEvidencePack,
    packs]

/-- Where a request keeps to the view, both states give the same reply. -/
theorem answer_same {request : PartnerRequest} (keeps : KeepsToView moment db partner request) :
    answer moment other partner request = answer moment db partner request := by
  cases request with
  | weeklySummary fleetId query => exact weeklySummary_same same keeps
  | bikeTrips bikeId query => exact bikeTrips_same same keeps
  | bikes query => exact bikes_same same keeps
  | incident incidentId => exact incident_same same keeps
  | evidencePack incidentId => exact evidencePack_same same keeps
  | riderSafetyScore riderId => exact keeps.elim
  | bikeWeeklyMileage bikeId => exact bikeWeeklyMileage_same same keeps

end Confined

/-! ## Twins with the same view -/

section Twins

variable {db twin : Database} {partnerId : Id}

/-- Tables that differ in rows out of sight only. -/
theorem view_of_unseen (insurer : isInsurerPartner twin partnerId = isInsurerPartner db partnerId)
    (name : insuredName twin partnerId = insuredName db partnerId)
    (fleets : ∀ id, (seesFleet db partnerId id = true ∨
      ∃ bike ∈ visibleBikes db partnerId, bike.fleetId = id) → twin.fleets id = db.fleets id)
    (accesses : twin.accesses = db.accesses) (packs : twin.evidencePacks = db.evidencePacks)
    (users : twin.users.filter (seesRider db partnerId) = db.users.filter (seesRider db partnerId))
    (bikes : twin.bikes.filter (seesBike db partnerId) = visibleBikes db partnerId)
    (trips : twin.trips.filter (seesTrip db partnerId) = db.trips.filter (seesTrip db partnerId))
    (events : twin.events = db.events)
    (incidents : twin.incidents.filter (seesIncident db partnerId) =
      db.incidents.filter (seesIncident db partnerId)) :
    partnerView twin partnerId = partnerView db partnerId := by
  have granted : hasActiveAccess twin partnerId = hasActiveAccess db partnerId := by
    funext fleetId
    rw [hasActiveAccess, hasActiveAccess, accesses]
  have bikeSight : seesBike twin partnerId = seesBike db partnerId := by
    funext bike
    rw [seesBike, seesBike, insurer, granted]
    split
    case isTrue holds =>
      rw [insuredName, insuredName, if_pos (insurer.trans holds), if_pos holds] at name
      rw [name]
    case isFalse => rfl
  have fleetSight : seesFleet twin partnerId = seesFleet db partnerId := by
    funext fleetId
    rw [seesFleet, seesFleet, insurer, granted]
  have visible : visibleBikes twin partnerId = visibleBikes db partnerId := by
    rw [visibleBikes, bikeSight, bikes]
  have rowSight : seesRow twin partnerId = seesRow db partnerId := by
    funext fleetId bikeId
    rw [seesRow, seesRow, fleetSight, visible]
  have tripSight : seesTrip twin partnerId = seesTrip db partnerId := by
    funext trip
    rw [seesTrip, seesTrip, rowSight]
  have eventSight : seesEvent twin partnerId = seesEvent db partnerId := by
    funext event
    rw [seesEvent, seesEvent, rowSight]
  have incidentSight : seesIncident twin partnerId = seesIncident db partnerId := by
    funext incident
    rw [seesIncident, seesIncident, rowSight]
  have riderSight : seesRider twin partnerId = seesRider db partnerId := by
    funext user
    rw [seesRider, seesRider, fleetSight]
  have packSight : ∀ id, (∃ incident ∈ twin.incidents, seesIncident db partnerId incident = true ∧
      incident.id = id) ↔ ∃ incident ∈ db.incidents, seesIncident db partnerId incident = true ∧
      incident.id = id := by
    intro id
    have listed := congrArg (fun rows => ∃ incident ∈ rows, incident.id = id) incidents
    simpa only [List.mem_filter, and_assoc] using iff_of_eq listed
  have fleetRows : ∀ id, (if seesFleet db partnerId id = true ∨
      ∃ bike ∈ visibleBikes db partnerId, bike.fleetId = id then twin.fleets id else none) =
      if seesFleet db partnerId id = true ∨
        ∃ bike ∈ visibleBikes db partnerId, bike.fleetId = id then db.fleets id else none := by
    intro id
    split
    case isTrue sighted => exact fleets id sighted
    case isFalse => rfl
  simp only [partnerView, insurer, name, accesses, packs, events, users, visible, fleetSight,
    tripSight, eventSight, incidentSight, riderSight, trips, incidents, packSight, fleetRows]

/-- Whether a reply is that a row is missing. -/
def IsNotFound {α : Type} (reply : Except Failure α) : Prop :=
  ∃ message, reply = .error (.notFound message)

/-- What follows a check is not found only where the check or the rest is not. -/
theorem isNotFound_bind {α β : Type} {check : Except Failure α} {rest : α → Except Failure β}
    (passes : ¬ IsNotFound check) (answers : ∀ value, ¬ IsNotFound (rest value)) :
    ¬ IsNotFound (check >>= rest) := by
  cases check with
  | error failure =>
    rintro ⟨message, same⟩
    exact passes ⟨message, congrArg Except.error (Except.error.inj same)⟩
  | ok value => exact answers value

/-- A result is found. -/
theorem isNotFound_ok {α : Type} (value : α) : ¬ IsNotFound (.ok value : Except Failure α) := by
  rintro ⟨message, same⟩
  cases same

/-- A refusal of access says that the row is there. -/
theorem isNotFound_forbidden {α : Type} (text : String) :
    ¬ IsNotFound (.error (.forbidden text) : Except Failure α) := by
  rintro ⟨message, same⟩
  cases same

/-- Neither branch has to say that something is missing. -/
theorem isNotFound_ite {α : Type} {condition : Prop} [Decidable condition]
    {yes no : Except Failure α} (whenTrue : ¬ IsNotFound yes) (whenFalse : ¬ IsNotFound no) :
    ¬ IsNotFound (if condition then yes else no) := by
  split
  · exact whenTrue
  · exact whenFalse

/-- The check of the fleet never says that something is missing. -/
theorem assertFleetAccess_found (db : Database) (partnerId fleetId : Id) :
    ¬ IsNotFound (assertFleetAccess db partnerId fleetId) := by
  rw [assertFleetAccess]
  split
  · exact isNotFound_ite (isNotFound_ok _) (isNotFound_forbidden _)
  · exact isNotFound_ite (isNotFound_ok _) (isNotFound_forbidden _)

/-- The check of the insurer never says that something is missing. -/
theorem assertInsured_found (db : Database) (partnerId : Id) (insurerName : Option String)
    (message : String) : ¬ IsNotFound (assertInsured db partnerId insurerName message) := by
  rw [assertInsured_eq]
  exact isNotFound_ite (isNotFound_forbidden _) (isNotFound_ok _)

section Missing

variable {moment : Moment} {partner : AuthenticatedPartner}
  (permitted : "insurer:read" ∈ partner.scopes)

include permitted

/-- A partner with the scope passes. -/
theorem assertScope_ok : assertScope partner "insurer:read" = .ok () := if_pos permitted

/-- By the kind of the reply a partner learns whether there is such a bike. -/
theorem bikeTrips_notFound_iff (bikeId : Id) (query : PartnerListTripsDto) :
    IsNotFound (listBikeTripsForPartner moment db partner bikeId query) ↔
      db.findBike bikeId = none := by
  rw [listBikeTripsForPartner, assertScope_ok permitted]
  cases found : db.findBike bikeId with
  | none => exact iff_of_true ⟨_, rfl⟩ rfl
  | some bike =>
    refine iff_of_false ?_ (Option.some_ne_none _)
    apply isNotFound_bind (isNotFound_ok _)
    intro _
    apply isNotFound_bind (assertFleetAccess_found _ _ _)
    intro _
    apply isNotFound_bind (assertInsured_found _ _ _ _)
    intro _
    exact isNotFound_ok _

/-- The mileage of a bike is missing exactly if the bike is. -/
theorem bikeWeeklyMileage_notFound_iff (bikeId : Id) :
    IsNotFound (getBikeWeeklyMileage moment db partner bikeId) ↔ db.findBike bikeId = none := by
  rw [getBikeWeeklyMileage, assertScope_ok permitted]
  cases found : db.findBike bikeId with
  | none => exact iff_of_true ⟨_, rfl⟩ rfl
  | some bike =>
    refine iff_of_false ?_ (Option.some_ne_none _)
    apply isNotFound_bind (isNotFound_ok _)
    intro _
    apply isNotFound_bind (isNotFound_ite (isNotFound_forbidden _) (isNotFound_ok _))
    intro _
    exact isNotFound_ok _

/-- An incident is answered as missing exactly if it is. -/
theorem incident_notFound_iff (incidentId : Id) :
    IsNotFound (getIncidentForPartner db partner incidentId) ↔
      db.findIncident incidentId = none := by
  rw [getIncidentForPartner, assertScope_ok permitted]
  cases found : db.findIncident incidentId with
  | none => exact iff_of_true ⟨_, rfl⟩ rfl
  | some incident =>
    refine iff_of_false ?_ (Option.some_ne_none _)
    apply isNotFound_bind (isNotFound_ok _)
    intro _
    apply isNotFound_bind (assertFleetAccess_found _ _ _)
    intro _
    apply isNotFound_bind (assertInsured_found _ _ _ _)
    intro _
    exact isNotFound_ok _

/-- An evidence pack is missing exactly if its incident is. -/
theorem evidencePack_notFound_iff (incidentId : Id) :
    IsNotFound (getIncidentEvidencePackForPartner moment db partner incidentId) ↔
      db.findIncident incidentId = none := by
  rw [getIncidentEvidencePackForPartner, assertScope_ok permitted]
  cases found : db.findIncident incidentId with
  | none => exact iff_of_true ⟨_, rfl⟩ rfl
  | some incident =>
    refine iff_of_false ?_ (Option.some_ne_none _)
    apply isNotFound_bind (isNotFound_ok _)
    intro _
    apply isNotFound_bind (assertInsured_found _ _ _ _)
    intro _
    apply isNotFound_ite (isNotFound_forbidden _)
    exact isNotFound_ite (isNotFound_ok _) (isNotFound_forbidden _)

/-- A safety score is missing exactly if the rider is. -/
theorem riderSafetyScore_notFound_iff (riderId : Id) :
    IsNotFound (getRiderSafetyScore moment db partner riderId) ↔ findRider db riderId = none := by
  rw [getRiderSafetyScore, assertScope_ok permitted]
  cases found : findRider db riderId with
  | none => exact iff_of_true ⟨_, rfl⟩ rfl
  | some rider =>
    refine iff_of_false ?_ (Option.some_ne_none _)
    apply isNotFound_bind (isNotFound_ok _)
    intro _
    apply isNotFound_bind
    · rw [assertInsuresRider]
      apply isNotFound_ite
      · exact isNotFound_ite (isNotFound_ok _) (isNotFound_forbidden _)
      · exact isNotFound_ok _
    intro _
    exact isNotFound_ok _

end Missing

/-- There is a fleet without a grant that has no bikes and no accounts. -/
theorem exists_foreign (db : Database) (partnerId : Id) :
    ∃ fleetId, hasActiveAccess db partnerId fleetId = false ∧
      (∀ bike ∈ db.bikes, bike.fleetId ≠ fleetId) ∧ ∀ user ∈ db.users, user.fleetId ≠ fleetId := by
  obtain ⟨fleetId, fresh⟩ := exists_fresh (db.accesses.map PartnerFleetAccess.fleetId ++
    (db.bikes.map Bike.fleetId ++ db.users.map User.fleetId))
  simp only [List.mem_append, List.mem_map, not_or, not_exists, not_and] at fresh
  obtain ⟨ungranted, noBike, noUser⟩ := fresh
  refine ⟨fleetId, ?_, noBike, noUser⟩
  rw [hasActiveAccess_eq]
  apply List.any_eq_false.mpr
  intro access granted
  simpa using ungranted access (List.mem_filter.mp granted).1

/-- A bike of a foreign fleet that nobody insures. -/
def foreignBike (id fleetId : Id) : Bike where
  id := id
  fleetId := fleetId
  label := ""
  plate := none
  serial := none
  model := none
  insurerName := none
  status := .ACTIVE
  imageUrl := none
  type := none
  leaseToOwn := false
  createdAt := 0
  updatedAt := 0

/-- A bike of a fleet without access is not seen. -/
theorem foreignBike_unseen {fleetId : Id} (ungranted : hasActiveAccess db partnerId fleetId = false)
    (id : Id) : seesBike db partnerId (foreignBike id fleetId) = false := by
  rw [seesBike]
  split
  · cases given (partnerInsurerName db partnerId) <;> rfl
  · exact ungranted

/-- Out of sight, whether a bike exists can turn around. -/
theorem exists_bike_turned (bikeId : Id)
    (hidden : ¬ ∃ bike, db.findBike bikeId = some bike ∧ seesBike db partnerId bike = true) :
    ∃ twin : Database, partnerView twin partnerId = partnerView db partnerId ∧
      (twin.findBike bikeId = none ↔ db.findBike bikeId ≠ none) := by
  obtain ⟨fleetId, ungranted, -⟩ := exists_foreign db partnerId
  obtain ⟨bikes, distinct, visible, turned⟩ := exists_turned db.bikeKeys (foreignBike bikeId fleetId)
    (foreignBike_unseen ungranted bikeId) (by
      intro bike found
      by_contra seen
      exact hidden ⟨bike, found, by simpa using seen⟩)
  refine ⟨{ db with bikes := bikes, bikeKeys := distinct }, ?_, turned⟩
  exact view_of_unseen rfl rfl (fun _ _ => rfl) rfl rfl rfl visible rfl rfl rfl

/-- An incident in a foreign fleet, on no bike. -/
def foreignIncident (id fleetId : Id) : Incident where
  id := id
  fleetId := fleetId
  bikeId := none
  deviceId := ""
  deviceUid := ""
  eventId := 0
  eventTs := 0
  eventType := .CRASH
  status := .OPEN
  createdAt := 0
  updatedAt := 0
  acknowledgedByUserId := none
  acknowledgedAt := none
  resolvedByUserId := none
  resolvedAt := none
  notes := none

/-- A fleet without access is not seen. -/
theorem seesFleet_foreign {fleetId : Id} (ungranted : hasActiveAccess db partnerId fleetId = false) :
    seesFleet db partnerId fleetId = false := by
  rw [seesFleet, ungranted, Bool.and_false]

/-- Whether a hidden incident exists can be turned around without changing the view. -/
theorem exists_incident_turned (incidentId : Id)
    (hidden : ¬ ∃ incident, db.findIncident incidentId = some incident ∧
      seesIncident db partnerId incident = true) :
    ∃ twin : Database, partnerView twin partnerId = partnerView db partnerId ∧
      (twin.findIncident incidentId = none ↔ db.findIncident incidentId ≠ none) := by
  obtain ⟨fleetId, ungranted, -⟩ := exists_foreign db partnerId
  have unseen : seesIncident db partnerId (foreignIncident incidentId fleetId) = false := by
    rw [seesIncident, seesRow]
    exact Bool.or_eq_false_iff.mpr ⟨seesFleet_foreign ungranted, rfl⟩
  obtain ⟨incidents, distinct, visible, turned⟩ := exists_turned db.incidentKeys
    (foreignIncident incidentId fleetId) unseen (by
      intro incident found
      by_contra seen
      exact hidden ⟨incident, found, by simpa using seen⟩)
  refine ⟨{ db with incidents := incidents, incidentKeys := distinct }, ?_, turned⟩
  exact view_of_unseen rfl rfl (fun _ _ => rfl) rfl rfl rfl rfl rfl rfl visible

/-- A trip that starts at a given time, and the bike that it was made on. -/
def foreignTrip (bikeId fleetId : Id) (riderId : Option Id) (startTs : Int) : Trip where
  id := ""
  fleetId := fleetId
  bikeId := bikeId
  riderId := riderId
  startTs := startTs
  endTs := none
  distanceKm := 0
  durationSec := 0
  score := 0
  startBatteryPct := none
  endBatteryPct := none

/-- A hidden trip can be added without changing the view. -/
theorem exists_trip_added (trip : Trip) (bike : Bike) (fresh : bike.id ∉ db.bikes.map Bike.id)
    (bikeUnseen : seesBike db partnerId bike = false)
    (tripUnseen : seesTrip db partnerId trip = false) :
    ∃ twin : Database, partnerView twin partnerId = partnerView db partnerId ∧
      twin.users = db.users ∧ twin.bikes = db.bikes ++ [bike] ∧ twin.trips = db.trips ++ [trip] := by
  refine ⟨{ db with
    bikes := db.bikes ++ [bike]
    trips := db.trips ++ [trip]
    bikeKeys := (Tables.unique_append_iff bike).mpr ⟨db.bikeKeys, fresh⟩ }, ?_, rfl, rfl, rfl⟩
  exact view_of_unseen rfl rfl (fun _ _ => rfl) rfl rfl rfl (filter_append_unseen bikeUnseen)
    (filter_append_unseen tripUnseen) rfl rfl

/-- How many rows a reply says there are. -/
def countOf : Except Failure PartnerReply → Nat
  | .ok (.weeklySummary summary) => summary.tripCount
  | .ok (.bikes page) => page.total
  | .ok (.riderSafetyScore score) => score.tripCount
  | _ => 0

/-- A count that changes under one view is a leak. -/
theorem not_confined_of_count {moment : Moment} {partner : AuthenticatedPartner}
    {request : PartnerRequest}
    (same : partnerView twin partner.partnerId = partnerView db partner.partnerId)
    (more : countOf (answer moment twin partner request) ≠
      countOf (answer moment db partner request)) :
    ¬ Confined (fun state => partnerView state partner.partnerId)
      (fun state => answer moment state partner request) db :=
  not_confined same fun equal => more (congrArg countOf equal)

section Unnamed

variable (insurer : isInsurerPartner db partnerId = true)
  (unnamed : insuredName db partnerId = none)

include insurer unnamed

/-- An insurer without a name sees no bike and nothing on one. -/
theorem seesBike_unnamed (bike : Bike) : seesBike db partnerId bike = false := by
  rw [insuredName, if_pos insurer] at unnamed
  rw [seesBike, if_pos insurer, unnamed]
  rfl

/-- An insurer without a name sees no row. -/
theorem seesRow_unnamed (fleetId : Id) (bikeId : Option Id) :
    seesRow db partnerId fleetId bikeId = false := by
  have none_ : visibleBikes db partnerId = [] := by
    apply List.filter_eq_nil_iff.mpr
    intro bike _
    rw [seesBike_unnamed insurer unnamed]
    exact Bool.false_ne_true
  rw [seesRow, seesFleet, insurer, none_]
  cases bikeId <;> rfl

end Unnamed

section Leaks

variable {moment : Moment} {partner : AuthenticatedPartner}
  (permitted : "insurer:read" ∈ partner.scopes)

include permitted

/-- A summary without a name counts all trips of the fleet. -/
theorem weeklySummary_count {fleetId : Id} {query : PartnerDateRangeDto}
    (unnamed : insuredName db partner.partnerId = none)
    (granted : hasActiveAccess db partner.partnerId fleetId = true) :
    countOf (getWeeklySummaryForPartner moment db partner fleetId query) =
      (db.trips.filter fun trip => decide (trip.fleetId = fleetId) &&
        within (resolveTimeRange moment.now query) trip.startTs).length := by
  have admitted : assertFleetAccess db partner.partnerId fleetId = .ok () := by
    rw [assertFleetAccess_eq, unnamed]
    exact if_pos granted
  rw [getWeeklySummaryForPartner, assertScope_ok permitted, admitted, summaryBikeFilter_eq, unnamed]
  simp only [matchesBike, Bool.and_true]
  rfl

/-- To an insurer without a name the summary of a fleet shows the fleet. -/
theorem weeklySummary_leaks {fleetId : Id} {query : PartnerDateRangeDto}
    (insurer : isInsurerPartner db partner.partnerId = true)
    (unnamed : insuredName db partner.partnerId = none)
    (granted : hasActiveAccess db partner.partnerId fleetId = true)
    (nonempty : (resolveTimeRange moment.now query).1 ≤ (resolveTimeRange moment.now query).2) :
    ¬ Confined (fun state => partnerView state partner.partnerId)
      (fun state => answer moment state partner (.weeklySummary fleetId query)) db := by
  obtain ⟨bikeId, fresh⟩ := exists_fresh (db.bikes.map Bike.id)
  obtain ⟨twin, same, -, -, trips⟩ := exists_trip_added
    (foreignTrip bikeId fleetId none (resolveTimeRange moment.now query).1)
    (foreignBike bikeId fleetId) fresh (seesBike_unnamed insurer unnamed _)
    (seesRow_unnamed insurer unnamed _ _)
  apply not_confined_of_count same
  rw [answer, answer, weeklySummary_count permitted unnamed granted,
    weeklySummary_count permitted ((insuredName_same same).trans unnamed)
      ((hasActiveAccess_same same fleetId).trans granted), trips, List.filter_append,
    List.length_append]
  have counted : ([foreignTrip bikeId fleetId none (resolveTimeRange moment.now query).1].filter
      fun trip => decide (trip.fleetId = fleetId) &&
        within (resolveTimeRange moment.now query) trip.startTs).length = 1 := by
    simp [foreignTrip, within, nonempty]
  omega

/-- The list counts the bikes that it selects. -/
theorem bikes_count (query : PaginationQuery) :
    countOf (listBikesForPartner db partner query) =
      (db.bikes.filter (listsBike db partner)).length := by
  rw [listBikesForPartner, assertScope_ok permitted]
  exact List.length_mergeSort _

/-- An insurer without a name lists the bikes of the name that stands for none. -/
theorem bikes_leak {query : PaginationQuery}
    (insurer : isInsurerPartner db partner.partnerId = true)
    (unnamed : insuredName db partner.partnerId = none) :
    ¬ Confined (fun state => partnerView state partner.partnerId)
      (fun state => answer moment state partner (.bikes query)) db := by
  obtain ⟨bikeId, fresh⟩ := exists_fresh (db.bikes.map Bike.id)
  let bike : Bike :=
    { foreignBike bikeId "" with insurerName := some "____non_existent_insurer____" }
  obtain ⟨twin, same, -, bikes, -⟩ := exists_trip_added (foreignTrip bikeId "" none 0)
    bike fresh (seesBike_unnamed insurer unnamed _) (seesRow_unnamed insurer unnamed _ _)
  have lists : ∀ state : Database, isInsurerPartner state partner.partnerId = true →
      insuredName state partner.partnerId = none → listsBike state partner =
        fun bike => decide (bike.insurerName = some "____non_existent_insurer____") := by
    intro state holds noName
    funext row
    rw [insuredName, if_pos holds] at noName
    rw [listsBike, if_pos holds, noName]
    rfl
  apply not_confined_of_count same
  rw [answer, answer, bikes_count permitted, bikes_count permitted,
    lists twin ((isInsurer_same same).trans insurer) ((insuredName_same same).trans unnamed),
    lists db insurer unnamed, bikes, List.filter_append, List.length_append]
  have counted : ([bike].filter fun row =>
      decide (row.insurerName = some "____non_existent_insurer____")).length = 1 := rfl
  omega

/-- To a partner that is no insurer the score of a rider counts trips of all fleets. -/
theorem riderSafetyScore_count {riderId : Id} {rider : User}
    (outsider : isInsurerPartner db partner.partnerId = false)
    (found : findRider db riderId = some rider) :
    countOf (getRiderSafetyScore moment db partner riderId) =
      (db.trips.filter fun trip => decide (trip.riderId = some rider.id ∧
        moment.now - 30 * millisPerDay ≤ trip.startTs)).length := by
  rw [getRiderSafetyScore, assertScope_ok permitted, found]
  simp only [assertInsuresRider, outsider]
  rfl

/-- To a partner that is no insurer the score of every rider is shown, with the trips in
all fleets. -/
theorem riderSafetyScore_leaks_trips {riderId : Id} {rider : User}
    (outsider : isInsurerPartner db partner.partnerId = false)
    (found : findRider db riderId = some rider) :
    ¬ Confined (fun state => partnerView state partner.partnerId)
      (fun state => answer moment state partner (.riderSafetyScore riderId)) db := by
  obtain ⟨fleetId, ungranted, -⟩ := exists_foreign db partner.partnerId
  obtain ⟨bikeId, fresh⟩ := exists_fresh (db.bikes.map Bike.id)
  have unseen : seesTrip db partner.partnerId
      (foreignTrip bikeId fleetId (some rider.id) moment.now) = false := by
    cases seen : seesTrip db partner.partnerId
      (foreignTrip bikeId fleetId (some rider.id) moment.now) with
    | false => rfl
    | true =>
      obtain ⟨bike, visible, same⟩ := bike_of_seesRow seen (seesFleet_foreign ungranted)
      exact absurd (List.mem_map.mpr ⟨bike, (List.mem_filter.mp visible).1,
        (Option.some.inj same).symm⟩) fresh
  obtain ⟨twin, same, users, -, trips⟩ := exists_trip_added
    (foreignTrip bikeId fleetId (some rider.id) moment.now) (foreignBike bikeId fleetId) fresh
    (foreignBike_unseen ungranted bikeId) unseen
  have foundTwin : findRider twin riderId = some rider := by
    rw [findRider, users]
    exact found
  apply not_confined_of_count same
  rw [answer, answer, riderSafetyScore_count permitted outsider found,
    riderSafetyScore_count permitted ((isInsurer_same same).trans outsider) foundTwin, trips,
    List.filter_append, List.length_append]
  have counted : ([foreignTrip bikeId fleetId (some rider.id) moment.now].filter fun trip =>
      decide (trip.riderId = some rider.id ∧
        moment.now - 30 * millisPerDay ≤ trip.startTs)).length = 1 := by
    have recent : moment.now ≤ moment.now + 30 * millisPerDay := by
      rw [millisPerDay]
      omega
    simp [foreignTrip, recent]
  omega

end Leaks

/-! ### Riders out of sight -/

/-- A rider is missing if no account with that role has the identity. -/
theorem findRider_eq_none_iff {riderId : Id} :
    findRider db riderId = none ↔ ∀ user, db.findUser riderId = some user → user.role ≠ .RIDER := by
  rw [findRider, List.find?_eq_none]
  constructor
  · intro missed user found rider
    obtain ⟨listed, same⟩ := (find?_key_iff db.userKeys).mp found
    exact missed user listed (decide_eq_true ⟨same, rider⟩)
  · intro others user listed matched
    obtain ⟨same, rider⟩ := of_decide_eq_true matched
    exact others user ((find?_key_iff db.userKeys).mpr ⟨listed, same⟩) rider

/-- A rider that is found is an account. -/
theorem findUser_of_findRider {riderId : Id} {rider : User}
    (found : findRider db riderId = some rider) : db.findUser riderId = some rider := by
  rw [findRider] at found
  have facts : rider.id = riderId ∧ rider.role = .RIDER := by simpa using List.find?_some found
  exact (find?_key_iff db.userKeys).mpr ⟨List.mem_of_find?_eq_some found, facts.1⟩

/-- An account may be replaced out of sight. Where it is the partner's own, it stays with
its fleet; a fleet without bikes and accounts is free to be missing. -/
theorem exists_user_replaced (new : User) {spare : Id}
    (ungranted : hasActiveAccess db partnerId spare = false)
    (noBike : ∀ bike ∈ db.bikes, bike.fleetId ≠ spare)
    (noUser : ∀ user ∈ db.users, user.fleetId ≠ spare)
    (unseen : seesRider db partnerId new = false)
    (hidden : ∀ user, db.findUser new.id = some user → seesRider db partnerId user = false)
    (own : new.id = partnerId → partnerFleet db partnerId =
      if new.fleetId = spare then none else db.fleets new.fleetId) :
    ∃ twin : Database, partnerView twin partnerId = partnerView db partnerId ∧
      twin.findUser new.id = some new := by
  have hiddenRow : ∀ user ∈ db.users, user.id = new.id → seesRider db partnerId user = false :=
    fun user listed same => hidden user ((find?_key_iff db.userKeys).mpr ⟨listed, same⟩)
  obtain ⟨distinct, visible, found, others⟩ := replaced db.userKeys unseen hiddenRow
  let twin : Database := { db with
    users := (db.users.filter fun user => decide (user.id ≠ new.id)) ++ [new]
    fleets := fun id => if id = spare then none else db.fleets id
    userKeys := distinct }
  have fleet : partnerFleet twin partnerId = partnerFleet db partnerId := by
    by_cases same : new.id = partnerId
    · have stored : twin.findUser partnerId = some new := same ▸ found
      rw [own same, partnerFleet, stored]
      rfl
    · have stored : twin.findUser partnerId = db.findUser partnerId :=
        others partnerId (Ne.symm same)
      rw [partnerFleet, partnerFleet, stored]
      cases account : db.findUser partnerId with
      | none => rfl
      | some user => exact if_neg (noUser user (List.mem_of_find?_eq_some account))
  have insurer : isInsurerPartner twin partnerId = isInsurerPartner db partnerId := by
    rw [isInsurerPartner, isInsurerPartner, fleet]
  refine ⟨twin, view_of_unseen insurer ?_ ?_ rfl rfl visible rfl rfl rfl rfl, found⟩
  · rw [insuredName, insuredName, insurer, partnerInsurerName, partnerInsurerName, fleet]
  · intro id sighted
    apply if_neg
    rintro rfl
    rcases sighted with byFleet | ⟨bike, listed, there⟩
    · rw [seesFleet_foreign ungranted] at byFleet
      cases byFleet
    · exact noBike bike (List.mem_filter.mp listed).1 there

/-- The fleet of a partner is that of its account. -/
theorem partnerFleet_of_account {user : User} (account : db.findUser partnerId = some user) :
    partnerFleet db partnerId = db.fleets user.fleetId := by
  rw [partnerFleet, account]
  rfl

/-- A rider may stop being one before an insurer, which sees no riders. -/
theorem exists_rider_missing (insurer : isInsurerPartner db partnerId = true) {riderId : Id}
    {rider : User} (account : db.findUser riderId = some rider) :
    ∃ twin : Database, partnerView twin partnerId = partnerView db partnerId ∧
      findRider twin riderId = none := by
  obtain ⟨spare, ungranted, noBike, noUser⟩ := exists_foreign db partnerId
  obtain ⟨listed, same⟩ := (find?_key_iff db.userKeys).mp account
  have blind : ∀ user, seesRider db partnerId user = false := by
    intro user
    rw [seesRider, seesFleet, insurer]
    simp
  obtain ⟨twin, view, stored⟩ := exists_user_replaced { rider with role := .ADMIN }
    ungranted noBike noUser (blind _) (fun user _ => blind user) (by
      intro own
      have self : riderId = partnerId := same.symm.trans own
      have ownAccount : db.findUser partnerId = some rider := self ▸ account
      rw [if_neg (noUser rider listed), partnerFleet_of_account ownAccount])
  refine ⟨twin, view, findRider_eq_none_iff.mpr ?_⟩
  intro user found
  rw [← same] at found
  rw [stored] at found
  cases found
  exact fun rider => nomatch rider

/-- Where no rider is found, there may be one out of sight. -/
theorem exists_rider_present {riderId : Id} (missing : findRider db riderId = none) :
    ∃ twin : Database, partnerView twin partnerId = partnerView db partnerId ∧
      findRider twin riderId ≠ none := by
  obtain ⟨spare, ungranted, noBike, noUser⟩ := exists_foreign db partnerId
  have others := findRider_eq_none_iff.mp missing
  have noRider : ∀ user, db.findUser riderId = some user →
      seesRider db partnerId user = false := by
    intro user found
    rw [seesRider, decide_eq_false (others user found)]
    rfl
  have turned : ∀ new : User, new.id = riderId → new.role = .RIDER →
      (new.id = partnerId ∨ new.fleetId = spare) →
      (new.id = partnerId → partnerFleet db partnerId =
        if new.fleetId = spare then none else db.fleets new.fleetId) →
      ∃ twin : Database, partnerView twin partnerId = partnerView db partnerId ∧
        findRider twin riderId ≠ none := by
    intro new same rider place own
    have unseen : seesRider db partnerId new = false := by
      rcases place with self | foreign
      · rw [seesRider, decide_eq_false (not_not.mpr self), Bool.and_false]
      · rw [seesRider, foreign, seesFleet_foreign ungranted, Bool.and_false, Bool.false_and]
    obtain ⟨twin, view, stored⟩ := exists_user_replaced new ungranted noBike noUser unseen
      (same ▸ noRider) own
    refine ⟨twin, view, ?_⟩
    intro none_
    exact findRider_eq_none_iff.mp none_ new (same ▸ stored) rider
  cases account : db.findUser riderId with
  | none =>
    refine turned ⟨riderId, spare, .RIDER, none, none, "", 0, none⟩ rfl rfl (.inr rfl) ?_
    intro own
    have absent : partnerFleet db partnerId = none := by
      rw [partnerFleet, ← own, account]
      rfl
    rw [absent, if_pos rfl]
  | some user =>
    obtain ⟨listed, same⟩ := (find?_key_iff db.userKeys).mp account
    by_cases self : riderId = partnerId
    · refine turned { user with role := .RIDER } same rfl (.inl (same.trans self)) ?_
      intro _
      have ownAccount : db.findUser partnerId = some user := self ▸ account
      rw [if_neg (noUser user listed), partnerFleet_of_account ownAccount]
    · refine turned { user with role := .RIDER, fleetId := spare } same rfl (.inr rfl) ?_
      intro own
      exact absurd (same.symm.trans own) self

/-! ## Exactly when a reply keeps to the view -/

/-- An answer that turns with what is hidden is a leak. -/
theorem leaks_of_turned {moment : Moment} {partner : AuthenticatedPartner} {request : PartnerRequest}
    (same : partnerView twin partner.partnerId = partnerView db partner.partnerId)
    (turned : ¬ (IsNotFound (answer moment twin partner request) ↔
      IsNotFound (answer moment db partner request))) :
    ¬ Confined (fun state => partnerView state partner.partnerId)
      (fun state => answer moment state partner request) db :=
  not_confined_of_property IsNotFound same turned

/-- Where a request does not keep to the view, a twin gets another reply. -/
theorem answer_leaks {moment : Moment} {partner : AuthenticatedPartner} {request : PartnerRequest}
    (permitted : "insurer:read" ∈ partner.scopes)
    (strays : ¬ KeepsToView moment db partner request) :
    ¬ Confined (fun state => partnerView state partner.partnerId)
      (fun state => answer moment state partner request) db := by
  cases request with
  | weeklySummary fleetId query =>
    obtain ⟨insurer, unnamed, granted, nonempty⟩ := not_not.mp strays
    exact weeklySummary_leaks permitted insurer unnamed granted nonempty
  | bikeTrips bikeId query =>
    obtain ⟨twin, same, turned⟩ := exists_bike_turned bikeId strays
    apply leaks_of_turned same
    rw [answer, answer, bikeTrips_notFound_iff permitted, bikeTrips_notFound_iff permitted, turned]
    exact not_iff_self
  | bikes query =>
    rw [KeepsToView, Classical.not_imp, not_not] at strays
    exact bikes_leak permitted strays.1 strays.2
  | incident incidentId =>
    obtain ⟨twin, same, turned⟩ := exists_incident_turned incidentId strays
    apply leaks_of_turned same
    rw [answer, answer, incident_notFound_iff permitted, incident_notFound_iff permitted, turned]
    exact not_iff_self
  | evidencePack incidentId =>
    obtain ⟨twin, same, turned⟩ := exists_incident_turned incidentId strays
    apply leaks_of_turned same
    rw [answer, answer, evidencePack_notFound_iff permitted, evidencePack_notFound_iff permitted,
      turned]
    exact not_iff_self
  | riderSafetyScore riderId =>
    cases found : findRider db riderId with
    | none =>
      obtain ⟨twin, same, present⟩ : ∃ twin : Database,
        partnerView twin partner.partnerId = partnerView db partner.partnerId ∧
          findRider twin riderId ≠ none := exists_rider_present found
      apply leaks_of_turned same
      rw [answer, answer, riderSafetyScore_notFound_iff permitted,
        riderSafetyScore_notFound_iff permitted]
      exact fun turned => present (turned.mpr found)
    | some rider =>
      cases insurer : isInsurerPartner db partner.partnerId with
      | false => exact riderSafetyScore_leaks_trips permitted insurer found
      | true =>
        obtain ⟨twin, view, missing⟩ := exists_rider_missing insurer (findUser_of_findRider found)
        apply leaks_of_turned view
        rw [answer, answer, riderSafetyScore_notFound_iff permitted,
          riderSafetyScore_notFound_iff permitted, found]
        exact fun turned => Option.some_ne_none _ (turned.mp missing)
  | bikeWeeklyMileage bikeId =>
    obtain ⟨twin, same, turned⟩ := exists_bike_turned bikeId strays
    apply leaks_of_turned same
    rw [answer, answer, bikeWeeklyMileage_notFound_iff permitted,
      bikeWeeklyMileage_notFound_iff permitted, turned]
    exact not_iff_self

/-- Without the scope there is nothing but the refusal. -/
theorem answer_refused {moment : Moment} {partner : AuthenticatedPartner}
    (forbidden : "insurer:read" ∉ partner.scopes) (db : Database) (request : PartnerRequest) :
    answer moment db partner request = .error (.forbidden "Partner scope not granted") := by
  have refused : assertScope partner "insurer:read" =
      .error (.forbidden "Partner scope not granted") := if_neg forbidden
  cases request with
  | weeklySummary fleetId query => rw [answer, getWeeklySummaryForPartner, refused]; rfl
  | bikeTrips bikeId query => rw [answer, listBikeTripsForPartner, refused]; rfl
  | bikes query => rw [answer, listBikesForPartner, refused]; rfl
  | incident incidentId => rw [answer, getIncidentForPartner, refused]; rfl
  | evidencePack incidentId => rw [answer, getIncidentEvidencePackForPartner, refused]; rfl
  | riderSafetyScore riderId => rw [answer, getRiderSafetyScore, refused]; rfl
  | bikeWeeklyMileage bikeId => rw [answer, getBikeWeeklyMileage, refused]; rfl

end Twins

/-- The reply to a partner is the same in all states in which it may see the same, if and
only if the partner lacks the scope or the request keeps to what it sees. -/
theorem answer_confined_iff (moment : Moment) (db : Database) (partner : AuthenticatedPartner)
    (request : PartnerRequest) :
    (∀ other : Database,
      partnerView other partner.partnerId = partnerView db partner.partnerId →
      answer moment other partner request = answer moment db partner request) ↔
      "insurer:read" ∉ partner.scopes ∨ KeepsToView moment db partner request := by
  constructor
  · intro confined
    by_contra strays
    rw [not_or, not_not] at strays
    exact answer_leaks strays.1 strays.2 confined
  · rintro (forbidden | keeps) other same
    · rw [answer_refused forbidden, answer_refused forbidden]
    · exact answer_same same keeps

/-- A rider of another fleet. -/
def sampleRider : User where
  id := "rider"
  fleetId := "foreign"
  role := .RIDER
  email := some "rider@example.rw"
  phone := none
  status := "ACTIVE"
  createdAt := 0
  riderProfile := none

/-- One rider, in a fleet to which nobody has access, and the trips in it. -/
def sampleDatabase (trips : List Trip) : Database where
  users := [sampleRider]
  fleets := fun _ => none
  bikes := []
  assignments := []
  trips := trips
  events := []
  incidents := []
  commands := []
  accesses := []
  evidencePacks := fun _ => none
  userKeys := List.nodup_singleton _
  bikeKeys := List.nodup_nil
  incidentKeys := List.nodup_nil
  accessKeys := Database.noAccess_key

/-- A partner without access to any fleet reads the safety score of a rider, before and
after a trip of the rider. -/
theorem foreign_score_shown :
    ¬ ∀ moment (db other : Database) partner request,
      partnerView other partner.partnerId = partnerView db partner.partnerId →
      answer moment other partner request = answer moment db partner request := by
  intro claim
  have same : partnerView (sampleDatabase [foreignTrip "bike" "foreign" (some "rider") 0]) "partner" =
      partnerView (sampleDatabase []) "partner" :=
    view_of_unseen rfl rfl (fun _ _ => rfl) rfl rfl rfl rfl (by decide) rfl rfl
  have equal := congrArg countOf (claim ⟨0, ""⟩ _ _ ⟨"partner", ["insurer:read"]⟩
    (.riderSafetyScore "rider") same)
  revert equal
  decide

end EmotoFleet.Access
