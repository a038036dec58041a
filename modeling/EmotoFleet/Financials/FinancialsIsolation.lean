import EmotoFleet.Financials.FinancialsService
import EmotoFleet.Foundations.Views

/-!
# What the financials of a fleet depend on

A fleet may see its own rows. In every state that the service can get into, the ids of rows
are unique, references point at rows, and a payment, a fine, an assignment and a command are
of the fleet of their rider or their bike: whoever writes one of these has looked the rider
or the bike up in that fleet, and neither moves to another. Of a battery swap only the
references are certain.

With that, all operations but two keep to the rows of the fleet. The creation of a swap
takes the ids of a bike and a rider as they come, and the list of swaps shows what they
refer to.
-/

namespace EmotoFleet.Financials.Service

open Access (Id User RiderProfile Bike BikeAssignment createPaginatedResponse page_congr
  getPaginationParams latestFirst exists_fresh)
open Access.Insurers (TextSearch searched)
open Accounts (given)
open Tables Views

section Ownership

variable (tables : FleetTables) (fleetId : Id)

/-- The riders of a fleet are users of it, whatever their role has become since. -/
def HasRider (id : Id) : Prop := ∃ user ∈ tables.users, user.id = id ∧ user.fleetId = fleetId

/-- A bike of the fleet has this identity. -/
def HasBike (id : Id) : Prop := ∃ bike ∈ tables.bikes, bike.id = id ∧ bike.fleetId = fleetId

/-- The bike and the rider that a row refers to, if any, are of the fleet. -/
def RefersWithin (bikeId riderId : Option Id) : Prop :=
  (∀ id ∈ bikeId, HasBike tables fleetId id) ∧ ∀ id ∈ riderId, HasRider tables fleetId id

/-- The rows of a fleet. -/
def FleetTables.ofFleet : FleetTables where
  users := tables.users.filter fun row => decide (row.fleetId = fleetId)
  bikes := tables.bikes.filter fun row => decide (row.fleetId = fleetId)
  commands := tables.commands.filter fun row => decide (row.fleetId = fleetId)
  assignments := tables.assignments.filter fun row => decide (row.fleetId = fleetId)
  fines := tables.fines.filter fun row => decide (row.fleetId = fleetId)
  payments := tables.payments.filter fun row => decide (row.fleetId = fleetId)
  swaps := tables.swaps.filter fun row => decide (row.fleetId = fleetId)
  auditLogs := tables.auditLogs.filter fun row => decide (row.fleetId = fleetId)

end Ownership

/-- What every writer of the tables keeps. -/
structure Linked (tables : FleetTables) : Prop where
  userKeys : (tables.users.map (·.id)).Nodup
  bikeKeys : (tables.bikes.map (·.id)).Nodup
  paymentKeys : (tables.payments.map (·.id)).Nodup
  swapKeys : (tables.swaps.map (·.id)).Nodup
  payments : ∀ row ∈ tables.payments, HasRider tables row.fleetId row.riderId
  fines : ∀ row ∈ tables.fines, HasRider tables row.fleetId row.riderId
  riders : ∀ row ∈ tables.assignments, HasRider tables row.fleetId row.riderUserId
  bikes : ∀ row ∈ tables.assignments, HasBike tables row.fleetId row.bikeId
  commands : ∀ row ∈ tables.commands, HasBike tables row.fleetId row.bikeId
  swapBikes : ∀ row ∈ tables.swaps, ∀ id ∈ row.bikeId, ∃ fleetId, HasBike tables fleetId id
  swapRiders : ∀ row ∈ tables.swaps, ∀ id ∈ row.riderId, ∃ fleetId, HasRider tables fleetId id

/-- Tables of which every row refers to rows that are there. -/
structure State where
  tables : FleetTables
  linked : Linked tables

/-- New rows are of the fleet and refer only to its bikes and riders, and rows that are
changed or deleted were of the fleet. -/
structure WritesOwn (fleetId : Id) (before after : FleetTables) : Prop where
  payments : ∀ row ∈ after.payments, row ∉ before.payments →
    row.fleetId = fleetId ∧ HasRider before fleetId row.riderId
  overwritten : ∀ row ∈ before.payments, row ∉ after.payments → row.fleetId = fleetId
  swaps : ∀ row ∈ after.swaps, row ∉ before.swaps →
    row.fleetId = fleetId ∧ RefersWithin before fleetId row.bikeId row.riderId
  deleted : ∀ row ∈ before.swaps, row ∉ after.swaps → row.fleetId = fleetId
  auditLogs : ∃ written, after.auditLogs = before.auditLogs ++ written ∧
    ∀ row ∈ written, row.fleetId = fleetId ∧ RefersWithin before fleetId row.bikeId row.riderId

/-- What must hold of a request and the tables for a request to keep to the fleet. A swap is
created with references to bikes and riders of the fleet, or cannot be stored at all; those
on a page of the list have such references, and the rows among which a text is searched too,
where the bike is what decides. -/
def KeepsToFleet (search : TextSearch) (moment : Moment) (user : AuthenticatedUser)
    (tables : FleetTables) : Request → Prop
  | .createBatterySwap dto =>
    newSwap moment user dto = none ∨ RefersWithin tables user.fleetId dto.bikeId dto.riderId
  | .listBatterySwaps query =>
    ∀ range, dateRange query.startDate query.endDate = .ok range →
      (∀ swap ∈ swapsOnPage search tables user query range,
        RefersWithin tables user.fleetId swap.bikeId swap.riderId) ∧
      ∀ wanted, given query.search = some wanted →
        (∃ text, search.contains text wanted = false) →
        ∀ swap ∈ tables.swaps, selectsSwap user query range swap = true →
          mentions search wanted swap = false →
          ∀ id ∈ swap.bikeId, HasBike tables user.fleetId id
  | _ => True

/-! ## Lookups -/

section Lookups

variable {tables : FleetTables} {fleetId otherId id : Id}

/-- A bike of the fleet is found by its identity. -/
theorem findBike_of_hasBike (linked : Linked tables) (has : HasBike tables fleetId id) :
    ∃ bike, tables.findBike id = some bike ∧ bike.fleetId = fleetId := by
  obtain ⟨bike, listed, same, ofFleet⟩ := has
  exact ⟨bike, (find?_key_iff linked.bikeKeys).mpr ⟨listed, same⟩, ofFleet⟩

/-- A rider of the fleet is found by the identity of the account. -/
theorem findUser_of_hasRider (linked : Linked tables) (has : HasRider tables fleetId id) :
    ∃ rider, tables.findUser id = some rider ∧ rider.fleetId = fleetId := by
  obtain ⟨rider, listed, same, ofFleet⟩ := has
  exact ⟨rider, (find?_key_iff linked.userKeys).mpr ⟨listed, same⟩, ofFleet⟩

/-- A rider is of one fleet. -/
theorem fleet_of_rider (linked : Linked tables) (has : HasRider tables fleetId id)
    (hasOther : HasRider tables otherId id) : fleetId = otherId := by
  obtain ⟨rider, found, ofFleet⟩ := findUser_of_hasRider linked has
  obtain ⟨other, foundOther, ofOther⟩ := findUser_of_hasRider linked hasOther
  obtain rfl := Option.some.inj (found.symm.trans foundOther)
  exact ofFleet.symm.trans ofOther

/-- No bike belongs to two fleets. -/
theorem fleet_of_bike (linked : Linked tables) (has : HasBike tables fleetId id)
    (hasOther : HasBike tables otherId id) : fleetId = otherId := by
  obtain ⟨bike, found, ofFleet⟩ := findBike_of_hasBike linked has
  obtain ⟨other, foundOther, ofOther⟩ := findBike_of_hasBike linked hasOther
  obtain rfl := Option.some.inj (found.symm.trans foundOther)
  exact ofFleet.symm.trans ofOther

end Lookups

/-- A new swap is the caller's fleet's, with the references that the request gives. -/
theorem newSwap_spec {moment : Moment} {user : AuthenticatedUser} {dto : CreateBatterySwapDto}
    {swap : BatterySwap} (made : newSwap moment user dto = some swap) :
    swap.id = moment.swapId ∧ swap.fleetId = user.fleetId ∧ swap.bikeId = dto.bikeId ∧
      swap.riderId = dto.riderId := by
  rw [newSwap] at made
  obtain ⟨_, -, made⟩ := Option.bind_eq_some_iff.mp made
  obtain ⟨_, -, made⟩ := Option.bind_eq_some_iff.mp made
  obtain ⟨_, -, made⟩ := Option.bind_eq_some_iff.mp made
  obtain rfl := Option.some.inj made
  exact ⟨rfl, rfl, rfl, rfl⟩

/-- The database asks of a swap's references only that they exist, in whatever fleet. -/
theorem referencesExist_iff {tables : FleetTables} {dto : CreateBatterySwapDto} :
    referencesExist tables dto = true ↔
      (∀ id ∈ dto.bikeId, ∃ fleetId, HasBike tables fleetId id) ∧
        ∀ id ∈ dto.riderId, ∃ fleetId, HasRider tables fleetId id := by
  have bikes (id : Id) : (tables.findBike id).isSome = true ↔ ∃ fleetId, HasBike tables fleetId id := by
    rw [FleetTables.findBike, List.find?_isSome]
    constructor
    · rintro ⟨bike, listed, test⟩
      exact ⟨bike.fleetId, bike, listed, of_decide_eq_true test, rfl⟩
    · rintro ⟨_, bike, listed, own, -⟩
      exact ⟨bike, listed, decide_eq_true own⟩
  have users (id : Id) : (tables.findUser id).isSome = true ↔
      ∃ fleetId, HasRider tables fleetId id := by
    rw [FleetTables.findUser, List.find?_isSome]
    constructor
    · rintro ⟨user, listed, test⟩
      exact ⟨user.fleetId, user, listed, of_decide_eq_true test, rfl⟩
    · rintro ⟨_, user, listed, own, -⟩
      exact ⟨user, listed, decide_eq_true own⟩
  simp only [referencesExist, Bool.and_eq_true, Option.all_eq_true, bikes, users, Option.mem_def]

/-- References to rows of the caller's fleet exist. -/
theorem referencesExist_of_within {tables : FleetTables} {fleetId : Id} {dto : CreateBatterySwapDto}
    (within : RefersWithin tables fleetId dto.bikeId dto.riderId) :
    referencesExist tables dto = true :=
  referencesExist_iff.mpr ⟨fun id given => ⟨fleetId, within.1 id given⟩,
    fun id given => ⟨fleetId, within.2 id given⟩⟩

/-! ## Replies within the fleet -/

section Same

variable {db other : FleetTables} {fleetId : Id} (linked : Linked db) (linkedOther : Linked other)
  (same : other.ofFleet fleetId = db.ofFleet fleetId)

include same in
/-- Tables that agree on the fleet have the same bikes of it. -/
theorem hasBike_same {id : Id} : HasBike other fleetId id ↔ HasBike db fleetId id := by
  have bikes := congrArg FleetTables.bikes same
  have within (tables : FleetTables) : HasBike tables fleetId id ↔
      ∃ bike ∈ (tables.ofFleet fleetId).bikes, bike.id = id := by
    simp only [HasBike, FleetTables.ofFleet, List.mem_filter, decide_eq_true_eq]
    constructor
    · rintro ⟨bike, listed, own, ofFleet⟩
      exact ⟨bike, ⟨listed, ofFleet⟩, own⟩
    · rintro ⟨bike, ⟨listed, ofFleet⟩, own⟩
      exact ⟨bike, listed, own, ofFleet⟩
  rw [within, within, bikes]

include same in
/-- Tables that agree on the fleet have the same riders of it. -/
theorem hasRider_same {id : Id} : HasRider other fleetId id ↔ HasRider db fleetId id := by
  have users := congrArg FleetTables.users same
  have within (tables : FleetTables) : HasRider tables fleetId id ↔
      ∃ user ∈ (tables.ofFleet fleetId).users, user.id = id := by
    simp only [HasRider, FleetTables.ofFleet, List.mem_filter, decide_eq_true_eq]
    constructor
    · rintro ⟨user, listed, own, ofFleet⟩
      exact ⟨user, ⟨listed, ofFleet⟩, own⟩
    · rintro ⟨user, ⟨listed, ofFleet⟩, own⟩
      exact ⟨user, listed, own, ofFleet⟩
  rw [within, within, users]

include linked linkedOther same

/-- A bike of the fleet is found as the same row in both. -/
theorem findBike_same {id : Id} (own : HasBike db fleetId id) : other.findBike id = db.findBike id := by
  obtain ⟨bike, found, ofFleet⟩ := findBike_of_hasBike linked own
  rw [found]
  exact find?_key_of_sees linked.bikeKeys linkedOther.bikeKeys (congrArg FleetTables.bikes same)
    found (decide_eq_true ofFleet)

/-- A rider of the fleet is found as the same row in both. -/
theorem findUser_same {id : Id} (own : HasRider db fleetId id) :
    other.findUser id = db.findUser id := by
  obtain ⟨rider, found, ofFleet⟩ := findUser_of_hasRider linked own
  rw [found]
  exact find?_key_of_sees linked.userKeys linkedOther.userKeys (congrArg FleetTables.users same)
    found (decide_eq_true ofFleet)

/-- A payment of a rider of the fleet is shown alike. -/
theorem toPaymentSummary_same {row : PaymentRow} (own : HasRider db fleetId row.riderId) :
    toPaymentSummary other row = toPaymentSummary db row := by
  rw [toPaymentSummary, toPaymentSummary, findUser_same linked linkedOther same own]

/-- A commission of a rider of the fleet is shown alike. -/
theorem toDeliveryPayout_same {row : PaymentRow} (own : HasRider db fleetId row.riderId) :
    toDeliveryPayout other row = toDeliveryPayout db row := by
  rw [toDeliveryPayout, toDeliveryPayout, findUser_same linked linkedOther same own]

/-- The rows that belong to a rider of the fleet are rows of the fleet, so that a choice among
them is the same in both states. -/
theorem ofRider_same {ρ : Type} (rows : FleetTables → List ρ) (fleetOf riderOf : ρ → Id)
    (seen : (rows other).filter (fun row => decide (fleetOf row = fleetId)) =
      (rows db).filter fun row => decide (fleetOf row = fleetId))
    (owned : ∀ tables, Linked tables → ∀ row ∈ rows tables, HasRider tables (fleetOf row) (riderOf row))
    {id : Id} (own : HasRider db fleetId id) {chosen : ρ → Bool}
    (ofRider : ∀ row, chosen row = true → riderOf row = id) :
    (rows other).filter chosen = (rows db).filter chosen := by
  have ownOther := (hasRider_same same).mpr own
  apply filter_eq_of_sees seen
  · intro row listed taken
    have has := owned other linkedOther row listed
    rw [ofRider row taken] at has
    exact decide_eq_true (fleet_of_rider linkedOther has ownOther)
  · intro row listed taken
    have has := owned db linked row listed
    rw [ofRider row taken] at has
    exact decide_eq_true (fleet_of_rider linked has own)
  · exact fun _ _ => rfl

/-- The last command of a bike of the fleet is the same. -/
theorem lastCommandOf_same {id : Id} (own : HasBike db fleetId id) :
    lastCommandOf other id = lastCommandOf db id := by
  have ownOther := (hasBike_same same).mpr own
  have ofBike : ∀ row : CommandRow, (row.bikeId == id && row.status == .ACKED) = true →
      row.bikeId = id := by
    intro row taken
    rw [Bool.and_eq_true] at taken
    exact beq_iff_eq.mp taken.1
  rw [lastCommandOf, lastCommandOf]
  congr 2
  apply filter_eq_of_sees (congrArg FleetTables.commands same)
  · intro row listed taken
    have has := linkedOther.commands row listed
    rw [ofBike row taken] at has
    exact decide_eq_true (fleet_of_bike linkedOther has ownOther)
  · intro row listed taken
    have has := linked.commands row listed
    rw [ofBike row taken] at has
    exact decide_eq_true (fleet_of_bike linked has own)
  · exact fun _ _ => rfl

/-- A lease is computed from rows of the rider's fleet alone. -/
theorem leaseOf_same (moment : Moment) (startDate endDate : Option Bound) {rider : User}
    (own : HasRider db fleetId rider.id) :
    leaseOf other moment startDate endDate rider = leaseOf db moment startDate endDate rider := by
  have payments : paymentsOf other rider.id = paymentsOf db rider.id := by
    refine ofRider_same linked linkedOther same FleetTables.payments (·.fleetId) (·.riderId)
      (congrArg FleetTables.payments same) (fun _ linked => linked.payments) own ?_
    intro row taken
    rw [Bool.and_eq_true] at taken
    exact beq_iff_eq.mp taken.1
  have fines : finesOf other rider.id = finesOf db rider.id :=
    ofRider_same linked linkedOther same FleetTables.fines (·.fleetId) (·.riderId)
      (congrArg FleetTables.fines same) (fun _ linked => linked.fines) own
      fun row taken => beq_iff_eq.mp taken
  have assignment : activeAssignmentOf other rider.id = activeAssignmentOf db rider.id := by
    rw [activeAssignmentOf, activeAssignmentOf, ← List.head?_filter, ← List.head?_filter]
    refine congrArg List.head? (ofRider_same linked linkedOther same FleetTables.assignments
      (·.fleetId) (·.riderUserId) (congrArg FleetTables.assignments same)
      (fun _ linked => linked.riders) own ?_)
    intro row taken
    rw [Bool.and_eq_true] at taken
    exact beq_iff_eq.mp taken.1
  rw [leaseOf, leaseOf, payments, fines, assignment]
  cases active : activeAssignmentOf db rider.id with
  | none => rfl
  | some assigned =>
    -- the assignment is the fleet's because its rider is, and its bike is the fleet's then
    have listed : assigned ∈ db.assignments := List.mem_of_find?_eq_some active
    have ofRider : assigned.riderUserId = rider.id := by
      have test := List.find?_some active
      rw [Bool.and_eq_true] at test
      exact beq_iff_eq.mp test.1
    have ofFleet : assigned.fleetId = fleetId :=
      fleet_of_rider linked (ofRider ▸ linked.riders assigned listed) own
    have bike : HasBike db fleetId assigned.bikeId := ofFleet ▸ linked.bikes assigned listed
    obtain ⟨found, atBike, -⟩ := findBike_of_hasBike linked bike
    have test := List.find?_some atBike
    have sameId : found.id = assigned.bikeId := of_decide_eq_true test
    have ownBike : HasBike db fleetId found.id := sameId ▸ bike
    simp only [Option.bind_some, findBike_same linked linkedOther same bike, atBike,
      lastCommandOf_same linked linkedOther same ownBike]

section Choices

variable {user : AuthenticatedUser} (caller : user.fleetId = fleetId)

include caller

omit linked linkedOther in
/-- Users that are chosen by the caller's fleet among other things. -/
theorem users_same {chosen : User → Bool} :
    (other.users.filter fun row => row.fleetId == user.fleetId && chosen row) =
      db.users.filter fun row => row.fleetId == user.fleetId && chosen row := by
  apply filter_eq_of_inside (congrArg FleetTables.users same)
  intro row taken
  rw [Bool.and_eq_true, beq_iff_eq] at taken
  exact decide_eq_true (taken.1.trans caller)

omit linked linkedOther in
/-- A query of payments that names the fleet finds the same rows. -/
theorem payments_same {chosen : PaymentRow → Bool} :
    (other.payments.filter fun row => row.fleetId == user.fleetId && chosen row) =
      db.payments.filter fun row => row.fleetId == user.fleetId && chosen row := by
  apply filter_eq_of_inside (congrArg FleetTables.payments same)
  intro row taken
  rw [Bool.and_eq_true, beq_iff_eq] at taken
  exact decide_eq_true (taken.1.trans caller)

omit linked linkedOther same in
/-- The riders of chosen payments are the fleet's. -/
theorem payments_own (linked : Linked db) {chosen : PaymentRow → Bool} :
    ∀ row ∈ db.payments.filter (fun row => row.fleetId == user.fleetId && chosen row),
      HasRider db fleetId row.riderId := by
  intro row listed
  obtain ⟨stored, taken⟩ := List.mem_filter.mp listed
  rw [Bool.and_eq_true, beq_iff_eq] at taken
  rw [← caller, ← taken.1]
  exact linked.payments row stored

/-- The list of leases does not depend on other fleets. -/
theorem listLeases_same (moment : Moment) (startDate endDate : Option Bound) :
    listLeases other moment user startDate endDate =
      listLeases db moment user startDate endDate := by
  have riders : ridersOnLease other user = ridersOnLease db user := by
    have chosen := @users_same _ _ _ same user caller fun row =>
      row.role == .RIDER && row.riderProfile.any (·.leaseToOwn)
    simpa only [ridersOnLease, Bool.and_assoc] using chosen
  rw [listLeases, listLeases, riders]
  apply List.map_congr_left
  intro rider listed
  obtain ⟨stored, taken⟩ := List.mem_filter.mp listed
  rw [Bool.and_eq_true, Bool.and_eq_true, beq_iff_eq] at taken
  exact leaseOf_same linked linkedOther same moment startDate endDate
    ⟨rider, stored, rfl, taken.1.1.trans caller⟩

/-- The summary does not depend on other fleets. -/
theorem getSummary_same (moment : Moment) (startDate endDate : Option Bound) :
    getSummary other moment user startDate endDate =
      getSummary db moment user startDate endDate := by
  have paid : other.payments.filter (paidInFleet user) = db.payments.filter (paidInFleet user) :=
    payments_same same caller
  have riders : activeRiders other user = activeRiders db user := by
    have chosen := @users_same _ _ _ same user caller fun row =>
      row.role == .RIDER && row.status == "ACTIVE"
    simpa only [activeRiders, Bool.and_assoc] using chosen
  rw [getSummary, getSummary, paid, riders, listLeases_same linked linkedOther same caller]

/-- The list of payments does not depend on other fleets. -/
theorem listPayments_same (query : ListPaymentsDto) :
    listPayments other user query = listPayments db user query := by
  rw [listPayments, listPayments]
  cases dateRange query.startDate query.endDate with
  | error _ => rfl
  | ok range =>
    have split : selectsPayment user query range = fun row => row.fleetId == user.fleetId &&
        (query.riderId.all (row.riderId == ·) && (query.method.all (row.method == ·) &&
          (query.status.all (row.status == ·) &&
            Access.Insurers.between range.1 range.2 row.paidAt))) := by
      funext row
      simp only [selectsPayment, Bool.and_assoc]
    have rows : other.payments.filter (selectsPayment user query range) =
        db.payments.filter (selectsPayment user query range) := by
      rw [split]
      exact payments_same same caller
    have pages := @page_congr _ _
      (latestFirst (·.paidAt) (db.payments.filter (selectsPayment user query range)))
      (getPaginationParams query.toPaginationQuery) (toPaymentSummary other) (toPaymentSummary db)
    refine congrArg Except.ok ((congrArg (fun rows => createPaginatedResponse
      (latestFirst (·.paidAt) rows) _ _) rows).trans (pages ?_))
    intro row listed
    have stored := List.mem_mergeSort.mp listed
    rw [split] at stored
    exact toPaymentSummary_same linked linkedOther same (payments_own caller linked row stored)

omit linked linkedOther in
theorem commissions_same : commissions other user = commissions db user :=
  payments_same same caller

/-- The list of commissions does not depend on other fleets. -/
theorem getDeliveryPayouts_same : getDeliveryPayouts other user = getDeliveryPayouts db user := by
  rw [getDeliveryPayouts, getDeliveryPayouts, commissions_same same caller]
  apply List.map_congr_left
  intro row listed
  exact toDeliveryPayout_same linked linkedOther same
    (payments_own caller linked row (List.mem_mergeSort.mp listed))

omit linked linkedOther in
/-- The commissions that are owed to a rider are those of the caller's fleet. -/
theorem unpaidCommissions_same (riderId : Id) :
    unpaidCommissions other user riderId = unpaidCommissions db user riderId := by
  have chosen := @payments_same _ _ _ same user caller fun row =>
    row.riderId == riderId && (row.status == .UNPAID && marksCommission row.notes)
  simpa only [unpaidCommissions, isUnpaidCommission, Bool.and_assoc] using chosen

omit linked linkedOther in
/-- A rider is looked up among those of the caller's fleet. -/
theorem riderInFleet_same (riderId : Id) :
    riderInFleet other user riderId = riderInFleet db user riderId := by
  have chosen := @users_same _ _ _ same user caller fun row =>
    row.id == riderId && row.role == .RIDER
  have split : (fun row : User => row.id == riderId && row.fleetId == user.fleetId &&
      row.role == .RIDER) =
      fun row => row.fleetId == user.fleetId && (row.id == riderId && row.role == .RIDER) := by
    funext row
    rw [Bool.and_comm (row.id == riderId), Bool.and_assoc]
  rw [riderInFleet, riderInFleet, split, ← List.head?_filter, ← List.head?_filter, chosen]

omit linked linkedOther same in
/-- Who is found in the fleet is one of its riders. -/
theorem own_of_riderInFleet {riderId : Id} {rider : User}
    (found : riderInFleet db user riderId = some rider) : HasRider db fleetId riderId := by
  have test := List.find?_some found
  rw [Bool.and_eq_true, Bool.and_eq_true, beq_iff_eq, beq_iff_eq] at test
  exact ⟨rider, List.mem_of_find?_eq_some found, test.1.1, test.1.2.trans caller⟩

omit caller in
/-- Whether a rider of the fleet has a bike is the same in both. -/
theorem hasActiveAssignment_same {riderId : Id} (own : HasRider db fleetId riderId) :
    hasActiveAssignment other riderId = hasActiveAssignment db riderId := by
  rw [hasActiveAssignment, hasActiveAssignment, any_eq_filter, any_eq_filter]
  rw [ofRider_same linked linkedOther same FleetTables.assignments (·.fleetId) (·.riderUserId)
    (congrArg FleetTables.assignments same) (fun _ linked => linked.riders) own]
  intro row taken
  rw [Bool.and_eq_true] at taken
  exact beq_iff_eq.mp taken.1

/-- The checks of a payment read the caller's fleet alone. -/
theorem acceptPayment_same (dto : RecordPaymentDto) :
    acceptPayment other user dto = acceptPayment db user dto := by
  rw [acceptPayment, acceptPayment, riderInFleet_same same caller]
  cases found : riderInFleet db user dto.riderId with
  | none => rfl
  | some rider =>
    have own := own_of_riderInFleet caller found
    simp only [hasActiveAssignment_same linked linkedOther same own]

omit linked linkedOther same in
/-- A payment is accepted for a rider of the caller's fleet. -/
theorem own_of_accepted {dto : RecordPaymentDto} {accepted : ℚ × Int}
    (passed : acceptPayment db user dto = .ok accepted) : HasRider db fleetId dto.riderId := by
  rw [acceptPayment] at passed
  cases found : riderInFleet db user dto.riderId with
  | some rider => exact own_of_riderInFleet caller found
  | none =>
    rw [found] at passed
    cases passed

omit linked linkedOther in
/-- The payment of the day is looked up in the caller's fleet. -/
theorem paymentOfDay_same (dto : RecordPaymentDto) (paidAt : Int) :
    paymentOfDay other user dto paidAt = paymentOfDay db user dto paidAt := by
  have chosen := @payments_same _ _ _ same user caller fun row => row.riderId == dto.riderId &&
    decide (dayStart paidAt ≤ row.paidAt ∧ row.paidAt ≤ dayEnd paidAt)
  have split : (fun row : PaymentRow => onDay user dto paidAt row.toRiderPayment) =
      fun row => row.fleetId == user.fleetId && (row.riderId == dto.riderId &&
        decide (dayStart paidAt ≤ row.paidAt ∧ row.paidAt ≤ dayEnd paidAt)) := by
    funext row
    rw [onDay, Bool.and_assoc]
  rw [paymentOfDay, paymentOfDay, split, ← List.head?_filter, ← List.head?_filter, chosen]

omit linked linkedOther same caller in
/-- The payment of the day is one of the caller's fleet for the same rider. -/
theorem paymentOfDay_spec {dto : RecordPaymentDto} {paidAt : Int} {existing : PaymentRow}
    (found : paymentOfDay db user dto paidAt = some existing) :
    existing ∈ db.payments ∧ existing.fleetId = user.fleetId ∧ existing.riderId = dto.riderId := by
  have test := List.find?_some found
  rw [onDay, Bool.and_eq_true, Bool.and_eq_true, beq_iff_eq, beq_iff_eq] at test
  exact ⟨List.mem_of_find?_eq_some found, test.1.1, test.1.2⟩

/-- What is answered to a recorded payment does not depend on other fleets. -/
theorem recordPayment_same (moment : Moment) (dto : RecordPaymentDto) :
    (recordPayment other moment user dto).map Prod.fst =
      (recordPayment db moment user dto).map Prod.fst := by
  rw [recordPayment, recordPayment, acceptPayment_same linked linkedOther same caller]
  cases passed : acceptPayment db user dto with
  | error _ => rfl
  | ok accepted =>
    have own := own_of_accepted caller passed
    simp only [bind, Except.bind, paymentOfDay_same same caller]
    cases found : paymentOfDay db user dto accepted.2 with
    | none =>
      exact congrArg Except.ok (toPaymentSummary_same linked linkedOther same
        own)
    | some existing =>
      obtain ⟨-, -, ofRider⟩ := paymentOfDay_spec found
      rw [← ofRider] at own
      exact congrArg Except.ok (toPaymentSummary_same linked linkedOther same
        own)

omit linked linkedOther in
/-- What is answered to a payout does not depend on other fleets. -/
theorem payOutCommissions_same (moment : Moment) (riderId : Id) :
    (payOutCommissions other moment user riderId).map Prod.fst =
      (payOutCommissions db moment user riderId).map Prod.fst := by
  simp only [payOutCommissions, unpaidCommissions_same same caller]
  split
  case isTrue => rfl
  case isFalse => rfl

omit linked linkedOther in
/-- Whether a swap can be deleted is decided by rows of the caller's fleet. -/
theorem deleteBatterySwap_same (id : Id) :
    (deleteBatterySwap other user id).map (fun _ => id) =
      (deleteBatterySwap db user id).map fun _ => id := by
  have swaps : (other.swaps.any fun swap => swap.id == id && swap.fleetId == user.fleetId) =
      db.swaps.any fun swap => swap.id == id && swap.fleetId == user.fleetId := by
    rw [any_eq_filter, any_eq_filter, filter_eq_of_inside (congrArg FleetTables.swaps same)]
    intro swap taken
    rw [Bool.and_eq_true, beq_iff_eq, beq_iff_eq] at taken
    exact decide_eq_true (taken.2.trans caller)
  rw [deleteBatterySwap, deleteBatterySwap, swaps]
  split
  case isTrue => rfl
  case isFalse => rfl

/-! ## Swaps within the fleet -/

omit caller in
/-- The bike that a row names is the same in both, if it is of the fleet. -/
theorem bikeOf_same {bikeId : Option Id} (own : ∀ id ∈ bikeId, HasBike db fleetId id) :
    bikeId.bind other.findBike = bikeId.bind db.findBike := by
  cases bikeId with
  | none => rfl
  | some id => exact findBike_same linked linkedOther same (own id rfl)

omit caller in
/-- The rider that a row names is the same in both, if they are of the fleet. -/
theorem riderOf_same {riderId : Option Id} (own : ∀ id ∈ riderId, HasRider db fleetId id) :
    riderId.bind other.findUser = riderId.bind db.findUser := by
  cases riderId with
  | none => rfl
  | some id => exact findUser_same linked linkedOther same (own id rfl)

omit linkedOther same caller in
/-- Where all texts contain the wanted one, every bike does. -/
theorem bikeMentions_of_all {search : TextSearch} {wanted : String} {swap : BatterySwap} {id : Id}
    (stored : swap ∈ db.swaps) (refers : swap.bikeId = some id)
    (all : ∀ text, search.contains text wanted = true) : bikeMentions search db wanted swap = true := by
  obtain ⟨_, has⟩ := linked.swapBikes swap stored id refers
  obtain ⟨bike, found, -⟩ := findBike_of_hasBike linked has
  rw [bikeMentions, refers, Option.bind_some, found, Option.any_some, all, Bool.true_or]

section Listing

variable {search : TextSearch} {query : ListBatterySwapsDto} {range : Option Int × Option Int}
  (decided : ∀ wanted, given query.search = some wanted →
    (∃ text, search.contains text wanted = false) →
    ∀ swap ∈ db.swaps, selectsSwap user query range swap = true →
      mentions search wanted swap = false → ∀ id ∈ swap.bikeId, HasBike db user.fleetId id)

include decided

/-- Where swaps keep to the fleet, the search decides alike on each of them. -/
theorem matchesSwap_same {swap : BatterySwap} (stored : swap ∈ db.swaps)
    (storedOther : swap ∈ other.swaps) :
    matchesSwap search other user query range swap =
      matchesSwap search db user query range swap := by
  rw [matchesSwap, matchesSwap, searched, searched]
  cases selected : selectsSwap user query range swap with
  | false => rfl
  | true =>
    cases sought : given query.search with
    | none => rfl
    | some wanted =>
      rw [Option.all_some, Option.all_some]
      cases mentioned : mentions search wanted swap with
      | true => rfl
      | false =>
        by_cases telling : ∃ text, search.contains text wanted = false
        case pos =>
          have own := decided wanted sought telling swap stored selected mentioned
          rw [caller] at own
          rw [bikeMentions, bikeMentions, bikeOf_same linked linkedOther same own]
        case neg =>
          have all : ∀ text, search.contains text wanted = true := by
            intro text
            by_contra missing
            exact telling ⟨text, Bool.eq_false_iff.mpr missing⟩
          cases refers : swap.bikeId with
          | none =>
            rw [bikeMentions, bikeMentions, refers]
            rfl
          | some id =>
            rw [bikeMentions_of_all linked stored refers all,
              bikeMentions_of_all linkedOther storedOther refers all]

/-- Where swaps keep to the fleet, the same ones are selected. -/
theorem selectedSwaps_same :
    selectedSwaps search other user query range = selectedSwaps search db user query range := by
  have seen : (other.swaps.filter fun row => decide (row.fleetId = fleetId)) =
      db.swaps.filter fun row => decide (row.fleetId = fleetId) :=
    congrArg FleetTables.swaps same
  have within : ∀ (tables : FleetTables) (swap : BatterySwap),
      matchesSwap search tables user query range swap = true →
        decide (swap.fleetId = fleetId) = true := by
    intro tables swap taken
    rw [matchesSwap, Bool.and_eq_true, selectsSwap, Bool.and_eq_true, Bool.and_eq_true,
      Bool.and_eq_true, beq_iff_eq] at taken
    exact decide_eq_true (taken.1.1.1.1.trans caller)
  rw [selectedSwaps, selectedSwaps]
  congr 1
  apply filter_eq_of_sees seen
  · exact fun swap _ => within other swap
  · exact fun swap _ => within db swap
  · intro swap listed
    have storedOther := (List.mem_filter.mp listed).1
    rw [seen] at listed
    exact matchesSwap_same linked linkedOther same caller decided (List.mem_filter.mp listed).1
      storedOther

end Listing

/-- Where swaps keep to the fleet, the page does not depend on other fleets. -/
theorem listBatterySwaps_same {search : TextSearch} {moment : Moment} {query : ListBatterySwapsDto}
    (keeps : KeepsToFleet search moment user db (.listBatterySwaps query)) :
    listBatterySwaps search other user query = listBatterySwaps search db user query := by
  rw [listBatterySwaps, listBatterySwaps]
  cases dated : dateRange query.startDate query.endDate with
  | error _ => rfl
  | ok range =>
    obtain ⟨onPage, decided⟩ := keeps range dated
    have rows := selectedSwaps_same linked linkedOther same caller decided
    have page : swapsOnPage search other user query range =
        swapsOnPage search db user query range := by
      rw [swapsOnPage, swapsOnPage, rows]
    have data : (swapsOnPage search db user query range).map (listedSwap other) =
        (swapsOnPage search db user query range).map (listedSwap db) := by
      apply List.map_congr_left
      intro swap listed
      obtain ⟨ownBike, ownRider⟩ := onPage swap listed
      rw [caller] at ownBike ownRider
      rw [listedSwap, listedSwap, bikeOf_same linked linkedOther same ownBike,
        riderOf_same linked linkedOther same ownRider]
    simp only [bind, Except.bind, rows, page, data]

/-- A swap that refers to rows of the fleet is answered alike. -/
theorem createBatterySwap_same {search : TextSearch} {moment : Moment} {dto : CreateBatterySwapDto}
    (keeps : KeepsToFleet search moment user db (.createBatterySwap dto)) :
    (createBatterySwap other moment user dto).map Prod.fst =
      (createBatterySwap db moment user dto).map Prod.fst := by
  rw [createBatterySwap, createBatterySwap]
  cases made : newSwap moment user dto with
  | none => rfl
  | some swap =>
    have within := keeps.resolve_left (made ▸ Option.some_ne_none swap)
    obtain ⟨ownBike, ownRider⟩ := within
    rw [caller] at ownBike ownRider
    have withinOther : RefersWithin other fleetId dto.bikeId dto.riderId :=
      ⟨fun id given => (hasBike_same same).mpr (ownBike id given),
        fun id given => (hasRider_same same).mpr (ownRider id given)⟩
    obtain ⟨-, -, sameBike, sameRider⟩ := newSwap_spec made
    have created : createdSwap other swap = createdSwap db swap := by
      rw [createdSwap, createdSwap, sameBike, sameRider, bikeOf_same linked linkedOther same ownBike,
        riderOf_same linked linkedOther same ownRider]
    simp only [referencesExist_of_within withinOther,
      referencesExist_of_within ⟨ownBike, ownRider⟩, if_true]
    exact congrArg Except.ok created

end Choices

end Same

/-- The reply of a reading request is that of its result. -/
theorem map_fst_reading {α : Type} (tables : FleetTables) (reply : α → Reply)
    (result : Except FinancialsError α) :
    (reading tables reply result).map Prod.fst = result.map reply := by
  cases result <;> rfl

/-- The reply of a writing request is that of its result. -/
theorem map_fst_prodMap {α : Type} (reply : α → Reply)
    (result : Except FinancialsError (α × FleetTables)) :
    (result.map (Prod.map reply id)).map Prod.fst = (result.map Prod.fst).map reply := by
  cases result <;> rfl

/-- Where a request keeps to the fleet, both states give the same reply. -/
theorem answer_same {search : TextSearch} {moment : Moment} {user : AuthenticatedUser}
    {request : Request} {db other : FleetTables} (linked : Linked db) (linkedOther : Linked other)
    (same : other.ofFleet user.fleetId = db.ofFleet user.fleetId)
    (keeps : KeepsToFleet search moment user db request) :
    answer search moment user other request = answer search moment user db request := by
  rw [answer, answer]
  cases request with
  | recordPayment dto =>
    rw [perform, perform, map_fst_prodMap, map_fst_prodMap,
      recordPayment_same linked linkedOther same rfl]
  | listPayments query =>
    rw [perform, perform, map_fst_reading, map_fst_reading,
      listPayments_same linked linkedOther same rfl]
  | getSummary startDate endDate =>
    rw [perform, perform, map_fst_reading, map_fst_reading,
      getSummary_same linked linkedOther same rfl]
  | getLeases startDate endDate =>
    rw [perform, perform, map_fst_reading, map_fst_reading,
      listLeases_same linked linkedOther same rfl]
  | getDeliveryFinancialSummary =>
    rw [perform, perform, map_fst_reading, map_fst_reading, getDeliveryFinancialSummary,
      getDeliveryFinancialSummary, commissions_same same rfl]
  | getDeliveryPayouts =>
    rw [perform, perform, map_fst_reading, map_fst_reading,
      getDeliveryPayouts_same linked linkedOther same rfl]
  | recordDeliveryPayout riderId =>
    rw [perform, perform, map_fst_prodMap, map_fst_prodMap, payOutCommissions_same same rfl]
  | listBatterySwaps query =>
    rw [perform, perform, map_fst_reading, map_fst_reading,
      listBatterySwaps_same linked linkedOther same rfl keeps]
  | createBatterySwap dto =>
    rw [perform, perform, map_fst_prodMap, map_fst_prodMap,
      createBatterySwap_same linked linkedOther same rfl keeps]
  | deleteBatterySwap id =>
    have replies (tables : FleetTables) : (perform search moment user tables
        (.deleteBatterySwap id)).map Prod.fst =
        ((deleteBatterySwap tables user id).map fun _ => id).map .deleted := by
      rw [perform]
      cases deleteBatterySwap tables user id <;> rfl
    rw [replies, replies, deleteBatterySwap_same same rfl]

/-! ## Writes within the fleet -/

section Writes

variable {db : FleetTables} {fleetId : Id} {user : AuthenticatedUser}

/-- Writing nothing is writing to no other fleet. -/
theorem writesOwn_refl (fleetId : Id) (db : FleetTables) : WritesOwn fleetId db db where
  payments := fun _ listed absent => absurd listed absent
  overwritten := fun _ listed absent => absurd listed absent
  swaps := fun _ listed absent => absurd listed absent
  deleted := fun _ listed absent => absurd listed absent
  auditLogs := ⟨[], (List.append_nil _).symm, fun _ listed => nomatch listed⟩

/-- A row that was not there before is the one that was appended. -/
theorem mem_append_new {ρ : Type} {rows : List ρ} {new row : ρ} (listed : row ∈ rows ++ [new])
    (absent : row ∉ rows) : row = new :=
  List.mem_singleton.mp ((List.mem_append.mp listed).resolve_left absent)

/-- What a recorded payment does to the tables. -/
theorem recordPayment_cases {moment : Moment} {dto : RecordPaymentDto}
    {outcome : PaymentAnswer × FleetTables} (recorded : recordPayment db moment user dto = .ok outcome) :
    ∃ amount paidAt, acceptPayment db user dto = .ok (amount, paidAt) ∧
      ((∃ existing, paymentOfDay db user dto paidAt = some existing ∧ outcome.2 =
          { db with
            payments := updateKey (·.id) existing.id (overwritePayment user dto amount paidAt)
              db.payments
            auditLogs := db.auditLogs ++ [paymentLog user dto existing.id] }) ∨
        outcome.2 =
          { db with
            payments := db.payments ++ [newPayment moment user dto amount paidAt]
            auditLogs := db.auditLogs ++ [paymentLog user dto moment.paymentId] }) := by
  rw [recordPayment] at recorded
  cases passed : acceptPayment db user dto with
  | error _ =>
    rw [passed] at recorded
    cases recorded
  | ok accepted =>
    rw [passed] at recorded
    refine ⟨accepted.1, accepted.2, rfl, ?_⟩
    cases found : paymentOfDay db user dto accepted.2 with
    | none =>
      simp only [bind, Except.bind, found] at recorded
      obtain rfl := Except.ok.inj recorded
      exact .inr rfl
    | some existing =>
      simp only [bind, Except.bind, found] at recorded
      obtain rfl := Except.ok.inj recorded
      exact .inl ⟨existing, rfl, rfl⟩

/-- A recorded payment writes to rows of the caller's fleet alone. -/
theorem writesOwn_recordPayment (linked : Linked db) {moment : Moment} {dto : RecordPaymentDto}
    {outcome : PaymentAnswer × FleetTables} (recorded : recordPayment db moment user dto = .ok outcome) :
    WritesOwn user.fleetId db outcome.2 := by
  obtain ⟨amount, paidAt, accepted, ⟨existing, found, next⟩ | next⟩ := recordPayment_cases recorded
  all_goals
    have own : HasRider db user.fleetId dto.riderId := own_of_accepted rfl accepted
    rw [next]
  case inl =>
    obtain ⟨stored, ofFleet, -⟩ := paymentOfDay_spec found
    -- the key leads to the payment of the day alone
    have only : ∀ row ∈ db.payments, row.id = existing.id → row = existing :=
      fun row listed => eq_of_key_eq linked.paymentKeys listed stored
    constructor
    case payments =>
      intro row listed absent
      obtain ⟨old, oldStored, sameId, rfl⟩ := (mem_updateKey.mp listed).resolve_right
        fun unchanged => absent unchanged.1
      obtain rfl := only old oldStored sameId
      exact ⟨ofFleet, ofFleet ▸ linked.payments old oldStored⟩
    case overwritten =>
      intro row listed absent
      by_cases sameId : row.id = existing.id
      case pos => exact only row listed sameId ▸ ofFleet
      case neg => exact absurd (mem_updateKey.mpr (.inr ⟨listed, sameId⟩)) absent
    case swaps => exact fun row listed absent => absurd listed absent
    case deleted => exact fun row listed absent => absurd listed absent
    case auditLogs =>
      refine ⟨_, rfl, fun row listed => ?_⟩
      obtain rfl := List.mem_singleton.mp listed
      exact ⟨rfl, fun id none => (nomatch none), fun id same => Option.some.inj same ▸ own⟩
  case inr =>
    constructor
    case payments =>
      intro row listed absent
      obtain rfl := mem_append_new listed absent
      exact ⟨rfl, own⟩
    case overwritten =>
      exact fun row listed absent => absurd (List.mem_append_left _ listed) absent
    case swaps => exact fun row listed absent => absurd listed absent
    case deleted => exact fun row listed absent => absurd listed absent
    case auditLogs =>
      refine ⟨_, rfl, fun row listed => ?_⟩
      obtain rfl := List.mem_singleton.mp listed
      exact ⟨rfl, fun id none => (nomatch none), fun id same => Option.some.inj same ▸ own⟩

/-- What is paid out is of the caller's fleet and of the rider. -/
theorem unpaidCommissions_spec {riderId : Id} {row : PaymentRow}
    (listed : row ∈ unpaidCommissions db user riderId) :
    row ∈ db.payments ∧ row.fleetId = user.fleetId ∧ row.riderId = riderId := by
  obtain ⟨stored, taken⟩ := List.mem_filter.mp listed
  rw [isUnpaidCommission, Bool.and_eq_true, Bool.and_eq_true, Bool.and_eq_true, beq_iff_eq,
    beq_iff_eq] at taken
  exact ⟨stored, taken.1.1.1, taken.1.1.2⟩

/-- A payout writes to rows of the caller's fleet alone. -/
theorem writesOwn_payOut (linked : Linked db) {moment : Moment} {riderId : Id}
    {outcome : Nat × FleetTables} (paid : payOutCommissions db moment user riderId = .ok outcome) :
    WritesOwn user.fleetId db outcome.2 := by
  rw [payOutCommissions] at paid
  split at paid
  case isTrue => cases paid
  case isFalse owed =>
    obtain rfl := Except.ok.inj paid
    -- an id that is paid out is that of one of the unpaid commissions
    have ofUnpaid : ∀ row ∈ db.payments,
        ((unpaidCommissions db user riderId).map (·.id)).contains row.id = true →
          row.fleetId = user.fleetId := by
      intro row stored paidOut
      obtain ⟨unpaid, listed, sameId⟩ := List.mem_map.mp (List.contains_iff_mem.mp paidOut)
      obtain ⟨unpaidStored, ofFleet, -⟩ := unpaidCommissions_spec listed
      rw [eq_of_key_eq linked.paymentKeys stored unpaidStored sameId.symm]
      exact ofFleet
    constructor
    case payments =>
      intro row listed absent
      obtain ⟨old, stored, rfl⟩ := List.mem_map.mp listed
      split at absent
      case isTrue paidOut =>
        rw [if_pos paidOut]
        have ofFleet := ofUnpaid old stored paidOut
        exact ⟨ofFleet, ofFleet ▸ linked.payments old stored⟩
      case isFalse => exact absurd stored absent
    case overwritten =>
      intro row stored absent
      by_contra foreign
      apply absent
      refine List.mem_map.mpr ⟨row, stored, if_neg fun paidOut => ?_⟩
      exact foreign (ofUnpaid row stored paidOut)
    case swaps => exact fun row listed absent => absurd listed absent
    case deleted => exact fun row listed absent => absurd listed absent
    case auditLogs =>
      obtain ⟨unpaid, listed⟩ := List.exists_mem_of_ne_nil _ fun empty =>
        owed (List.isEmpty_iff.mpr empty)
      obtain ⟨stored, ofFleet, ofRider⟩ := unpaidCommissions_spec listed
      have own := linked.payments unpaid stored
      rw [ofFleet, ofRider] at own
      refine ⟨_, rfl, fun row listed => ?_⟩
      obtain rfl := List.mem_singleton.mp listed
      exact ⟨rfl, fun id none => (nomatch none), fun id same => Option.some.inj same ▸ own⟩

/-- A new swap is of the caller's fleet and refers to its rows. -/
theorem writesOwn_create {moment : Moment} {dto : CreateBatterySwapDto}
    (within : newSwap moment user dto = none ∨
      RefersWithin db user.fleetId dto.bikeId dto.riderId)
    {outcome : CreatedSwap × FleetTables} (created : createBatterySwap db moment user dto = .ok outcome) :
    WritesOwn user.fleetId db outcome.2 := by
  rw [createBatterySwap] at created
  cases made : newSwap moment user dto with
  | none =>
    rw [made] at created
    cases created
  | some swap =>
    rw [made] at created within
    have refers := within.resolve_left (Option.some_ne_none swap)
    simp only [referencesExist_of_within refers, if_true] at created
    obtain rfl := Except.ok.inj created
    obtain ⟨-, ofFleet, sameBike, sameRider⟩ := newSwap_spec made
    constructor
    case payments => exact fun row listed absent => absurd listed absent
    case overwritten => exact fun row listed absent => absurd listed absent
    case swaps =>
      intro row listed absent
      obtain rfl := mem_append_new listed absent
      rw [sameBike, sameRider]
      exact ⟨ofFleet, refers⟩
    case deleted =>
      exact fun row listed absent => absurd (List.mem_append_left _ listed) absent
    case auditLogs =>
      refine ⟨_, rfl, fun row listed => ?_⟩
      obtain rfl := List.mem_singleton.mp listed
      exact ⟨rfl, refers⟩

/-- The swap that is deleted is of the caller's fleet. -/
theorem writesOwn_delete (linked : Linked db) {id : Id} {next : FleetTables}
    (deleted : deleteBatterySwap db user id = .ok next) : WritesOwn user.fleetId db next := by
  rw [deleteBatterySwap] at deleted
  split at deleted
  case isFalse => cases deleted
  case isTrue present =>
    obtain rfl := Except.ok.inj deleted
    obtain ⟨swap, stored, test⟩ := List.any_eq_true.mp present
    rw [Bool.and_eq_true, beq_iff_eq, beq_iff_eq] at test
    constructor
    case payments => exact fun row listed absent => absurd listed absent
    case overwritten => exact fun row listed absent => absurd listed absent
    case swaps => exact fun row listed absent => absurd (List.mem_filter.mp listed).1 absent
    case deleted =>
      intro row listed absent
      by_cases sameId : row.id = id
      case pos =>
        rw [eq_of_key_eq linked.swapKeys listed stored (sameId.trans test.1.symm)]
        exact test.2
      case neg =>
        have kept : row ∈ db.swaps.filter fun swap => swap.id != id :=
          List.mem_filter.mpr ⟨listed, bne_iff_ne.mpr sameId⟩
        exact absurd kept absent
    case auditLogs => exact ⟨[], (List.append_nil _).symm, fun _ listed => nomatch listed⟩

/-- What a request can do to the tables. -/
theorem tablesAfter_cases (search : TextSearch) (moment : Moment) (user : AuthenticatedUser)
    (db : FleetTables) (request : Request) :
    tablesAfter search moment user db request = db ∨
      (∃ dto answer, request = .recordPayment dto ∧ recordPayment db moment user dto =
        .ok (answer, tablesAfter search moment user db request)) ∨
      (∃ riderId count, request = .recordDeliveryPayout riderId ∧
        payOutCommissions db moment user riderId =
          .ok (count, tablesAfter search moment user db request)) ∨
      (∃ dto created, request = .createBatterySwap dto ∧ createBatterySwap db moment user dto =
        .ok (created, tablesAfter search moment user db request)) ∨
      ∃ id, request = .deleteBatterySwap id ∧
        deleteBatterySwap db user id = .ok (tablesAfter search moment user db request) := by
  have reads {α : Type} (reply : α → Reply) (result : Except FinancialsError α)
      (performed : perform search moment user db request = reading db reply result) :
      tablesAfter search moment user db request = db := by
    rw [tablesAfter, performed]
    cases result <;> rfl
  cases request with
  | listPayments query => exact .inl (reads _ _ rfl)
  | getSummary startDate endDate => exact .inl (reads _ _ rfl)
  | getLeases startDate endDate => exact .inl (reads _ _ rfl)
  | getDeliveryFinancialSummary => exact .inl (reads _ _ rfl)
  | getDeliveryPayouts => exact .inl (reads _ _ rfl)
  | listBatterySwaps query => exact .inl (reads _ _ rfl)
  | recordPayment dto =>
    rw [tablesAfter, perform]
    cases recorded : recordPayment db moment user dto with
    | error _ => exact .inl rfl
    | ok outcome => exact .inr (.inl ⟨dto, outcome.1, rfl, recorded⟩)
  | recordDeliveryPayout riderId =>
    rw [tablesAfter, perform]
    cases paid : payOutCommissions db moment user riderId with
    | error _ => exact .inl rfl
    | ok outcome => exact .inr (.inr (.inl ⟨riderId, outcome.1, rfl, paid⟩))
  | createBatterySwap dto =>
    rw [tablesAfter, perform]
    cases created : createBatterySwap db moment user dto with
    | error _ => exact .inl rfl
    | ok outcome => exact .inr (.inr (.inr (.inl ⟨dto, outcome.1, rfl, created⟩)))
  | deleteBatterySwap id =>
    rw [tablesAfter, perform]
    cases deleted : deleteBatterySwap db user id with
    | error _ => exact .inl rfl
    | ok next => exact .inr (.inr (.inr (.inr ⟨id, rfl, deleted⟩)))

/-- Where a request keeps to the fleet, so do the rows that it writes. -/
theorem writesOwn_tablesAfter (linked : Linked db) {search : TextSearch} {moment : Moment}
    {request : Request} (keeps : KeepsToFleet search moment user db request) :
    WritesOwn user.fleetId db (tablesAfter search moment user db request) := by
  obtain unchanged | ⟨dto, _, -, recorded⟩ | ⟨riderId, _, -, paid⟩ | ⟨dto, _, rfl, created⟩ |
    ⟨id, -, deleted⟩ := tablesAfter_cases search moment user db request
  · rw [unchanged]
    exact writesOwn_refl user.fleetId db
  · exact writesOwn_recordPayment linked recorded
  · exact writesOwn_payOut linked paid
  · exact writesOwn_create keeps created
  · exact writesOwn_delete linked deleted

end Writes

/-! ## The operations keep the tables linked -/

section Keeping

variable {db : FleetTables} {user : AuthenticatedUser} {search : TextSearch} {moment : Moment}

/-- New payments keep the tables linked if each belongs to a rider of its fleet. -/
theorem linked_of_payments (linked : Linked db) {payments : List PaymentRow}
    (keys : (payments.map (·.id)).Nodup)
    (owned : ∀ row ∈ payments, HasRider db row.fleetId row.riderId) (auditLogs : List AuditLog) :
    Linked { db with
      payments := payments
      auditLogs := auditLogs } :=
  ⟨linked.userKeys, linked.bikeKeys, keys, linked.swapKeys, owned, linked.fines, linked.riders,
    linked.bikes, linked.commands, linked.swapBikes, linked.swapRiders⟩

/-- New swaps keep the tables linked if their bikes and riders exist. -/
theorem linked_of_swaps (linked : Linked db) {swaps : List BatterySwap}
    (keys : (swaps.map (·.id)).Nodup)
    (bikes : ∀ row ∈ swaps, ∀ id ∈ row.bikeId, ∃ fleetId, HasBike db fleetId id)
    (riders : ∀ row ∈ swaps, ∀ id ∈ row.riderId, ∃ fleetId, HasRider db fleetId id)
    (auditLogs : List AuditLog) :
    Linked { db with
      swaps := swaps
      auditLogs := auditLogs } :=
  ⟨linked.userKeys, linked.bikeKeys, linked.paymentKeys, keys, linked.payments, linked.fines,
    linked.riders, linked.bikes, linked.commands, bikes, riders⟩

/-- A recorded payment leaves linked tables. -/
theorem linked_recordPayment (linked : Linked db) {dto : RecordPaymentDto}
    (fresh : moment.paymentId ∉ db.payments.map (·.id)) {outcome : PaymentAnswer × FleetTables}
    (recorded : recordPayment db moment user dto = .ok outcome) : Linked outcome.2 := by
  obtain ⟨amount, paidAt, accepted, ⟨existing, -, next⟩ | next⟩ := recordPayment_cases recorded
  all_goals rw [next]
  case inl =>
    apply linked_of_payments linked
    · have keepsId : ∀ row, (overwritePayment user dto amount paidAt row).id = row.id :=
        fun _ => rfl
      rw [map_updateKey keepsId]
      exact linked.paymentKeys
    · intro row listed
      rcases mem_updateKey.mp listed with ⟨old, stored, -, rfl⟩ | ⟨stored, -⟩
      · exact linked.payments old stored
      · exact linked.payments row stored
  case inr =>
    apply linked_of_payments linked
    · exact (unique_append_iff _).mpr ⟨linked.paymentKeys, fresh⟩
    · intro row listed
      rcases List.mem_append.mp listed with stored | new
      · exact linked.payments row stored
      · rw [List.mem_singleton.mp new]
        exact own_of_accepted rfl accepted

/-- A payout leaves linked tables. -/
theorem linked_payOut (linked : Linked db) {riderId : Id} {outcome : Nat × FleetTables}
    (paid : payOutCommissions db moment user riderId = .ok outcome) : Linked outcome.2 := by
  rw [payOutCommissions] at paid
  split at paid
  case isTrue => cases paid
  case isFalse =>
    obtain rfl := Except.ok.inj paid
    apply linked_of_payments linked
    · have keepsIds : (fun row : PaymentRow => row.id) ∘ (fun row =>
          if ((unpaidCommissions db user riderId).map (·.id)).contains row.id then
            payOutCommission moment row
          else row) = fun row => row.id := by
        funext row
        rw [Function.comp_apply]
        split
        case isTrue => rfl
        case isFalse => rfl
      rw [List.map_map, keepsIds]
      exact linked.paymentKeys
    · intro row listed
      obtain ⟨old, stored, rfl⟩ := List.mem_map.mp listed
      split
      · exact linked.payments old stored
      · exact linked.payments old stored

/-- A new swap leaves linked tables. -/
theorem linked_create (linked : Linked db) {dto : CreateBatterySwapDto}
    (fresh : moment.swapId ∉ db.swaps.map (·.id)) {outcome : CreatedSwap × FleetTables}
    (created : createBatterySwap db moment user dto = .ok outcome) : Linked outcome.2 := by
  rw [createBatterySwap] at created
  cases made : newSwap moment user dto with
  | none =>
    rw [made] at created
    cases created
  | some swap =>
    obtain ⟨sameId, -, sameBike, sameRider⟩ := newSwap_spec made
    rw [made] at created
    dsimp only at created
    split at created
    case isFalse => cases created
    case isTrue exist =>
      obtain rfl := Except.ok.inj created
      obtain ⟨bikes, riders⟩ := referencesExist_iff.mp exist
      rw [← sameBike] at bikes
      rw [← sameRider] at riders
      rw [← sameId] at fresh
      apply linked_of_swaps linked ((unique_append_iff _).mpr ⟨linked.swapKeys, fresh⟩)
      · intro row listed
        rcases List.mem_append.mp listed with stored | new
        · exact linked.swapBikes row stored
        · exact List.mem_singleton.mp new ▸ bikes
      · intro row listed
        rcases List.mem_append.mp listed with stored | new
        · exact linked.swapRiders row stored
        · exact List.mem_singleton.mp new ▸ riders

/-- A deleted swap leaves linked tables. -/
theorem linked_delete (linked : Linked db) {id : Id} {next : FleetTables}
    (deleted : deleteBatterySwap db user id = .ok next) : Linked next := by
  rw [deleteBatterySwap] at deleted
  split at deleted
  case isFalse => cases deleted
  case isTrue =>
    obtain rfl := Except.ok.inj deleted
    exact linked_of_swaps linked (linked.swapKeys.sublist (List.filter_sublist.map _))
      (fun row listed => linked.swapBikes row (List.mem_filter.mp listed).1)
      (fun row listed => linked.swapRiders row (List.mem_filter.mp listed).1) db.auditLogs

/-- Every request leads from a possible state to a possible one, if the ids that are drawn
for new rows are new. -/
theorem linked_tablesAfter (linked : Linked db) {request : Request}
    (freshPayment : moment.paymentId ∉ db.payments.map (·.id))
    (freshSwap : moment.swapId ∉ db.swaps.map (·.id)) :
    Linked (tablesAfter search moment user db request) := by
  obtain unchanged | ⟨dto, _, -, recorded⟩ | ⟨riderId, _, -, paid⟩ | ⟨dto, _, -, created⟩ |
    ⟨id, -, deleted⟩ := tablesAfter_cases search moment user db request
  · rw [unchanged]
    exact linked
  · exact linked_recordPayment linked freshPayment recorded
  · exact linked_payOut linked paid
  · exact linked_create linked freshSwap created
  · exact linked_delete linked deleted

end Keeping

/-! ## Twins with the same rows of the fleet -/

section Twins

variable {db : FleetTables} {fleetId : Id}

/-- Users and bikes may come to the tables, and change in all but their ids and fleets. -/
theorem linked_of_more (linked : Linked db) {users : List User} {bikes : List Bike}
    (userKeys : (users.map (·.id)).Nodup) (bikeKeys : (bikes.map (·.id)).Nodup)
    (riders : ∀ fleetId id, HasRider db fleetId id → ∃ user ∈ users, user.id = id ∧ user.fleetId = fleetId)
    (kept : ∀ fleetId id, HasBike db fleetId id → ∃ bike ∈ bikes, bike.id = id ∧ bike.fleetId = fleetId) :
    Linked { db with
      users := users
      bikes := bikes } where
  userKeys := userKeys
  bikeKeys := bikeKeys
  paymentKeys := linked.paymentKeys
  swapKeys := linked.swapKeys
  payments := fun row listed => riders _ _ (linked.payments row listed)
  fines := fun row listed => riders _ _ (linked.fines row listed)
  riders := fun row listed => riders _ _ (linked.riders row listed)
  bikes := fun row listed => kept _ _ (linked.bikes row listed)
  commands := fun row listed => kept _ _ (linked.commands row listed)
  swapBikes := fun row listed id refers => by
    obtain ⟨fleetId, has⟩ := linked.swapBikes row listed id refers
    exact ⟨fleetId, kept fleetId id has⟩
  swapRiders := fun row listed id refers => by
    obtain ⟨fleetId, has⟩ := linked.swapRiders row listed id refers
    exact ⟨fleetId, riders fleetId id has⟩

/-- A bike is changed in its place. -/
def changeBike (db : FleetTables) (id : Id) (change : Bike → Bike) : FleetTables :=
  { db with bikes := updateKey (·.id) id change db.bikes }

/-- One account is changed. -/
def changeRider (db : FleetTables) (id : Id) (change : User → User) : FleetTables :=
  { db with users := updateKey (·.id) id change db.users }

section Changes

variable {ρ : Type} {rows : List ρ} {idOf fleetOf : ρ → Id} {id : Id} {change : ρ → ρ}

/-- A change of a row that leaves it where it is. -/
structure Stays (idOf fleetOf : ρ → Id) (change : ρ → ρ) : Prop where
  id : ∀ row, idOf (change row) = idOf row
  fleetId : ∀ row, fleetOf (change row) = fleetOf row

/-- Rows that stay in their fleet are still there after the change. -/
theorem exists_changed (stays : Stays idOf fleetOf change) {fleetId own : Id}
    (has : ∃ row ∈ rows, idOf row = own ∧ fleetOf row = fleetId) :
    ∃ row ∈ updateKey idOf id change rows, idOf row = own ∧ fleetOf row = fleetId := by
  obtain ⟨row, listed, sameId, ofFleet⟩ := has
  refine ⟨if idOf row = id then change row else row, List.mem_map_of_mem listed, ?_⟩
  split
  · exact ⟨(stays.id row).trans sameId, (stays.fleetId row).trans ofFleet⟩
  · exact ⟨sameId, ofFleet⟩

/-- A change of a foreign row leaves the rows of a fleet as they are. -/
theorem filter_changed (stays : Stays idOf fleetOf change)
    (foreign : ¬ ∃ row ∈ rows, idOf row = id ∧ fleetOf row = fleetId) :
    (updateKey idOf id change rows).filter (fun row => decide (fleetOf row = fleetId)) =
      rows.filter fun row => decide (fleetOf row = fleetId) := by
  apply filter_updateKey_unseen
  · intro row
    rw [stays.fleetId]
  · intro row listed sameId
    exact decide_eq_false fun ofFleet => foreign ⟨row, listed, sameId, ofFleet⟩

variable {changeB : Bike → Bike} {changeU : User → User}

/-- A bike that keeps its identity and fleet may change in linked tables. -/
theorem linked_changeBike (linked : Linked db) (stays : Stays (·.id) (·.fleetId) changeB) :
    Linked (changeBike db id changeB) := by
  refine linked_of_more linked linked.userKeys ?_ (fun _ _ has => has) fun _ _ has =>
    exists_changed stays has
  rw [map_updateKey stays.id]
  exact linked.bikeKeys

/-- A rider who keeps identity and fleet may change in linked tables. -/
theorem linked_changeRider (linked : Linked db) (stays : Stays (·.id) (·.fleetId) changeU) :
    Linked (changeRider db id changeU) := by
  refine linked_of_more linked ?_ linked.bikeKeys (fun _ _ has => exists_changed stays has)
    fun _ _ has => has
  rw [map_updateKey stays.id]
  exact linked.userKeys

/-- A change out of the fleet's sight. -/
theorem ofFleet_changeBike (stays : Stays (·.id) (·.fleetId) changeB)
    (foreign : ¬ HasBike db fleetId id) :
    (changeBike db id changeB).ofFleet fleetId = db.ofFleet fleetId := by
  rw [FleetTables.ofFleet, FleetTables.ofFleet, changeBike, filter_changed stays foreign]

/-- What a fleet can see does not change with a foreign rider. -/
theorem ofFleet_changeRider (stays : Stays (·.id) (·.fleetId) changeU)
    (foreign : ¬ HasRider db fleetId id) :
    (changeRider db id changeU).ofFleet fleetId = db.ofFleet fleetId := by
  rw [FleetTables.ofFleet, FleetTables.ofFleet, changeRider, filter_changed stays foreign]

/-- Looking up a bike after the change. -/
theorem findBike_changeBike (stays : Stays (·.id) (·.fleetId) changeB) (sought : Id) :
    (changeBike db id changeB).findBike sought =
      (db.findBike sought).map fun bike => if bike.id = id then changeB bike else bike :=
  find?_updateKey stays.id

/-- Looking up an account after the change. -/
theorem findUser_changeRider (stays : Stays (·.id) (·.fleetId) changeU) (sought : Id) :
    (changeRider db id changeU).findUser sought =
      (db.findUser sought).map fun rider => if rider.id = id then changeU rider else rider :=
  find?_updateKey stays.id

/-- The bike that was changed is found changed. -/
theorem findBike_changed (stays : Stays (·.id) (·.fleetId) changeB) {bike : Bike}
    (found : db.findBike id = some bike) :
    (changeBike db id changeB).findBike id = some (changeB bike) := by
  have test := List.find?_some found
  rw [findBike_changeBike stays, found, Option.map_some, if_pos (of_decide_eq_true test)]

/-- The account that was changed is found changed. -/
theorem findUser_changed (stays : Stays (·.id) (·.fleetId) changeU) {rider : User}
    (found : db.findUser id = some rider) :
    (changeRider db id changeU).findUser id = some (changeU rider) := by
  have test := List.find?_some found
  rw [findUser_changeRider stays, found, Option.map_some, if_pos (of_decide_eq_true test)]

end Changes

/-! ## Requests that reach beyond the fleet -/

/-- A possible state with the same rows of the fleet gets another reply. -/
def Leaks (search : TextSearch) (moment : Moment) (user : AuthenticatedUser) (db : FleetTables)
    (request : Request) : Prop :=
  ∃ twin, Linked twin ∧ twin.ofFleet user.fleetId = db.ofFleet user.fleetId ∧
    answer search moment user twin request ≠ answer search moment user db request

/-- Another value of an optional column. -/
def otherOption {α : Type} (spare : α) : Option α → Option α
  | none => some spare
  | some _ => none

/-- There is always another value to tell two tables apart. -/
theorem otherOption_ne {α : Type} (spare : α) (value : Option α) : otherOption spare value ≠ value := by
  cases value with
  | none => exact Option.some_ne_none _
  | some _ => exact (Option.some_ne_none _).symm

/-- The profile of a rider who has given nothing. -/
def blankProfile : RiderProfile where
  fullName := ""
  licenceNumber := none
  identityNumber := none
  passportPhoto := none
  licencePhoto := none
  identityCardPhoto := none
  leaseToOwn := false
  leasePrincipal := 2500000
  leaseDownPayment := 0
  leaseDailyRate := 15000
  paymentSchedule := "DAILY"
  assignedRate := 15000
  customScheduleDays := none

section Creation

variable {search : TextSearch} {moment : Moment} {user : AuthenticatedUser}
  {dto : CreateBatterySwapDto} {swap : BatterySwap} (made : newSwap moment user dto = some swap)

include made

/-- A swap that is not refused is answered with what it refers to. -/
theorem answer_create (db : FleetTables) :
    answer search moment user db (.createBatterySwap dto) =
      if referencesExist db dto then .ok (.swap (createdSwap db swap))
      else .error .missingReference := by
  rw [answer, perform, map_fst_prodMap, createBatterySwap, made]
  dsimp only
  split
  case isTrue => rfl
  case isFalse => rfl

/-- The names of another fleet's bike come with the reply. -/
theorem leaks_foreignBike (linked : Linked db) (exist : referencesExist db dto = true) {id : Id}
    (refers : dto.bikeId = some id) (foreign : ¬ HasBike db user.fleetId id) :
    Leaks search moment user db (.createBatterySwap dto) := by
  let change : Bike → Bike := fun bike => { bike with plate := otherOption "" bike.plate }
  have stays : Stays (·.id) (·.fleetId) change := ⟨fun _ => rfl, fun _ => rfl⟩
  obtain ⟨bikes, riders⟩ := referencesExist_iff.mp exist
  obtain ⟨owner, has⟩ := bikes id refers
  obtain ⟨bike, found, -⟩ := findBike_of_hasBike linked has
  have existTwin : referencesExist (changeBike db id change) dto = true := by
    refine referencesExist_iff.mpr ⟨fun other given => ?_, riders⟩
    obtain ⟨owner, has⟩ := bikes other given
    exact ⟨owner, exists_changed stays has⟩
  refine ⟨changeBike db id change, linked_changeBike linked stays,
    ofFleet_changeBike stays foreign, fun same => ?_⟩
  rw [answer_create made, answer_create made, if_pos exist, if_pos existTwin] at same
  have shown := congrArg CreatedSwap.bike (Reply.swap.inj (Except.ok.inj same))
  rw [createdSwap, createdSwap, (newSwap_spec made).2.2.1, refers, Option.bind_some,
    Option.bind_some, found, findBike_changed stays found] at shown
  exact otherOption_ne "" bike.plate (congrArg SwapBike.plate (Option.some.inj shown))

/-- A swap that refers to a foreign rider shows that rider's row. -/
theorem leaks_foreignRider (linked : Linked db) (exist : referencesExist db dto = true) {id : Id}
    (refers : dto.riderId = some id) (foreign : ¬ HasRider db user.fleetId id) :
    Leaks search moment user db (.createBatterySwap dto) := by
  let change : User → User := fun rider =>
    { rider with riderProfile := otherOption blankProfile rider.riderProfile }
  have stays : Stays (·.id) (·.fleetId) change := ⟨fun _ => rfl, fun _ => rfl⟩
  obtain ⟨bikes, riders⟩ := referencesExist_iff.mp exist
  obtain ⟨owner, has⟩ := riders id refers
  obtain ⟨rider, found, -⟩ := findUser_of_hasRider linked has
  have existTwin : referencesExist (changeRider db id change) dto = true := by
    refine referencesExist_iff.mpr ⟨bikes, fun other given => ?_⟩
    obtain ⟨owner, has⟩ := riders other given
    exact ⟨owner, exists_changed stays has⟩
  refine ⟨changeRider db id change, linked_changeRider linked stays,
    ofFleet_changeRider stays foreign, fun same => ?_⟩
  rw [answer_create made, answer_create made, if_pos exist, if_pos existTwin] at same
  have shown := congrArg CreatedSwap.rider (Reply.swap.inj (Except.ok.inj same))
  rw [createdSwap, createdSwap, (newSwap_spec made).2.2.2, refers, Option.bind_some,
    Option.bind_some, found, findUser_changed stays found] at shown
  have names := congrArg SwapRider.fullName (Option.some.inj shown)
  cases profile : rider.riderProfile with
  | none => simp [swapRider, change, profile, otherOption] at names
  | some _ => simp [swapRider, change, profile, otherOption] at names

/-- Rows came to a table out of the fleet's sight, and a given id is taken now. -/
structure Grown {ρ : Type} (idOf fleetOf : ρ → Id) (fleetId : Id) (wanted : Option Id)
    (rows grown : List ρ) : Prop where
  keys : (grown.map idOf).Nodup
  kept : ∀ row ∈ rows, row ∈ grown
  unseen : grown.filter (fun row => decide (fleetOf row = fleetId)) =
    rows.filter fun row => decide (fleetOf row = fleetId)
  taken : ∀ id ∈ wanted, ∃ row ∈ grown, idOf row = id

omit made in
/-- A row of another fleet can be added under any identity that is free. -/
theorem exists_grown {ρ : Type} {idOf fleetOf : ρ → Id} {fleetId : Id} {rows : List ρ}
    (keys : (rows.map idOf).Nodup) (spare : Id → ρ) (own : ∀ id, idOf (spare id) = id)
    (stranger : ∀ id, fleetOf (spare id) ≠ fleetId) (wanted : Option Id) :
    ∃ grown, Grown idOf fleetOf fleetId wanted rows grown := by
  cases wanted with
  | none => exact ⟨rows, keys, fun _ listed => listed, rfl, fun _ none => nomatch none⟩
  | some id =>
    by_cases taken : id ∈ rows.map idOf
    case pos =>
      obtain ⟨row, listed, sameId⟩ := List.mem_map.mp taken
      exact ⟨rows, keys, fun _ listed => listed, rfl, fun other same =>
        ⟨row, listed, sameId.trans (Option.some.inj same)⟩⟩
    case neg =>
      refine ⟨rows ++ [spare id], ?_, fun _ => List.mem_append_left _, ?_, fun other same => ?_⟩
      · refine (unique_append_iff _).mpr ⟨keys, ?_⟩
        rw [own]
        exact taken
      · exact filter_append_unseen (decide_eq_false (stranger id))
      · exact ⟨spare id, List.mem_append_right _ (List.mem_singleton_self _),
          (own id).trans (Option.some.inj same)⟩

/-- Whether a bike or a rider exists anywhere is told by the error of the database. -/
theorem leaks_missing (linked : Linked db) (missing : referencesExist db dto = false) :
    Leaks search moment user db (.createBatterySwap dto) := by
  obtain ⟨stranger, fresh⟩ := exists_fresh [user.fleetId]
  have apart : stranger ≠ user.fleetId := fun same => fresh (same ▸ List.mem_singleton_self _)
  obtain ⟨bikes, moreBikes⟩ := @exists_grown Bike (·.id) (·.fleetId) user.fleetId db.bikes
    linked.bikeKeys
    (fun id => ⟨id, stranger, "", none, none, none, none, .ACTIVE, none, none, false, 0, 0⟩)
    (fun _ => rfl) (fun _ => apart) dto.bikeId
  obtain ⟨users, moreUsers⟩ := @exists_grown User (·.id) (·.fleetId) user.fleetId db.users
    linked.userKeys (fun id => ⟨id, stranger, .RIDER, none, none, "ACTIVE", 0, none⟩)
    (fun _ => rfl) (fun _ => apart) dto.riderId
  let twin : FleetTables :=
    { db with
      users := users
      bikes := bikes }
  have linkedTwin : Linked twin := by
    refine linked_of_more linked moreUsers.keys moreBikes.keys ?_ ?_
    · rintro _ _ ⟨rider, listed, facts⟩
      exact ⟨rider, moreUsers.kept rider listed, facts⟩
    · rintro _ _ ⟨bike, listed, facts⟩
      exact ⟨bike, moreBikes.kept bike listed, facts⟩
  have same : twin.ofFleet user.fleetId = db.ofFleet user.fleetId := by
    rw [FleetTables.ofFleet, FleetTables.ofFleet, moreUsers.unseen, moreBikes.unseen]
  have exist : referencesExist twin dto = true := by
    refine referencesExist_iff.mpr ⟨fun id given => ?_, fun id given => ?_⟩
    · obtain ⟨bike, listed, own⟩ := moreBikes.taken id given
      exact ⟨bike.fleetId, bike, listed, own, rfl⟩
    · obtain ⟨rider, listed, own⟩ := moreUsers.taken id given
      exact ⟨rider.fleetId, rider, listed, own, rfl⟩
  refine ⟨twin, linkedTwin, same, fun equal => ?_⟩
  rw [answer_create made, answer_create made, if_pos exist, missing] at equal
  cases equal

omit made in
/-- A swap that could be stored is created for a bike or a rider beyond the fleet. -/
theorem leaks_create (linked : Linked db)
    (breaks : ¬ KeepsToFleet search moment user db (.createBatterySwap dto)) :
    Leaks search moment user db (.createBatterySwap dto) := by
  rw [KeepsToFleet, not_or] at breaks
  obtain ⟨swap, made⟩ := Option.ne_none_iff_exists'.mp breaks.1
  cases exist : referencesExist db dto with
  | false => exact leaks_missing made linked exist
  | true =>
    by_cases ownBike : ∀ id ∈ dto.bikeId, HasBike db user.fleetId id
    case pos =>
      have strayRider : ¬ ∀ id ∈ dto.riderId, HasRider db user.fleetId id :=
        fun ownRider => breaks.2 ⟨ownBike, ownRider⟩
      push Not at strayRider
      obtain ⟨id, refers, foreign⟩ := strayRider
      exact leaks_foreignRider made linked exist refers foreign
    case neg =>
      push Not at ownBike
      obtain ⟨id, refers, foreign⟩ := ownBike
      exact leaks_foreignBike made linked exist refers foreign

end Creation

section Listing

variable {search : TextSearch} {moment : Moment} {user : AuthenticatedUser}
  {query : ListBatterySwapsDto} {range : Option Int × Option Int}

/-- Equal replies show the same page, and as many swaps in all. -/
theorem shown_of_answer {twin : FleetTables} (dated : dateRange query.startDate query.endDate = .ok range)
    (equal : answer search moment user twin (.listBatterySwaps query) =
      answer search moment user db (.listBatterySwaps query)) :
    (swapsOnPage search twin user query range).map (listedSwap twin) =
        (swapsOnPage search db user query range).map (listedSwap db) ∧
      (selectedSwaps search twin user query range).length =
        (selectedSwaps search db user query range).length := by
  rw [answer, answer, perform, perform, map_fst_reading, map_fst_reading, listBatterySwaps,
    listBatterySwaps, dated] at equal
  have pages := Reply.swaps.inj (Except.ok.inj equal)
  exact ⟨congrArg SwapPage.data pages, congrArg SwapPage.total pages⟩

/-- A bike beyond the fleet that a swap on the page refers to shows its serial number. -/
theorem leaks_listedBike (linked : Linked db)
    (dated : dateRange query.startDate query.endDate = .ok range) {swap : BatterySwap}
    (onPage : swap ∈ swapsOnPage search db user query range) {id : Id}
    (refers : swap.bikeId = some id) {bike : Bike} (found : db.findBike id = some bike)
    (foreign : ¬ HasBike db user.fleetId id) :
    Leaks search moment user db (.listBatterySwaps query) := by
  let change : Bike → Bike := fun bike => { bike with serial := otherOption "" bike.serial }
  have stays : Stays (·.id) (·.fleetId) change := ⟨fun _ => rfl, fun _ => rfl⟩
  have mentioned (wanted : String) (swap : BatterySwap) :
      bikeMentions search (changeBike db id change) wanted swap =
        bikeMentions search db wanted swap := by
    rw [bikeMentions, bikeMentions]
    cases swap.bikeId with
    | none => rfl
    | some other =>
      rw [Option.bind_some, Option.bind_some, findBike_changeBike stays, Option.any_map]
      congr 1
      funext bike
      split
      case isTrue => rfl
      case isFalse => rfl
  have selected : selectedSwaps search (changeBike db id change) user query range =
      selectedSwaps search db user query range := by
    rw [selectedSwaps, selectedSwaps]
    congr 2
    funext swap
    simp only [matchesSwap, mentioned]
  refine ⟨changeBike db id change, linked_changeBike linked stays,
    ofFleet_changeBike stays foreign, fun same => ?_⟩
  have data := (shown_of_answer dated same).1
  rw [swapsOnPage, swapsOnPage, selected, ← swapsOnPage] at data
  have shown := congrArg ListedSwap.bike (List.map_inj_left.mp data swap onPage)
  rw [listedSwap, listedSwap, refers, Option.bind_some, Option.bind_some, found,
    findBike_changed stays found] at shown
  exact otherOption_ne "" bike.serial (congrArg ListedBike.serial (Option.some.inj shown))

/-- A listed swap with a foreign rider shows that rider's row. -/
theorem leaks_listedRider (linked : Linked db)
    (dated : dateRange query.startDate query.endDate = .ok range) {swap : BatterySwap}
    (onPage : swap ∈ swapsOnPage search db user query range) {id : Id}
    (refers : swap.riderId = some id) {rider : User} (found : db.findUser id = some rider)
    (foreign : ¬ HasRider db user.fleetId id) :
    Leaks search moment user db (.listBatterySwaps query) := by
  let change : User → User := fun rider => { rider with email := otherOption "" rider.email }
  have stays : Stays (·.id) (·.fleetId) change := ⟨fun _ => rfl, fun _ => rfl⟩
  refine ⟨changeRider db id change, linked_changeRider linked stays,
    ofFleet_changeRider stays foreign, fun same => ?_⟩
  have data := (shown_of_answer dated same).1
  have shown := congrArg ListedSwap.rider (List.map_inj_left.mp data swap onPage)
  rw [listedSwap, listedSwap, refers, Option.bind_some, Option.bind_some, found,
    findUser_changed stays found] at shown
  exact otherOption_ne "" rider.email (congrArg ListedRider.email (Option.some.inj shown))

/-- A bike that comes to be mentioned brings its swaps into the list. -/
theorem more_selected {tables more : FleetTables} {wanted : String} {swap : BatterySwap}
    (sought : given query.search = some wanted) (sameSwaps : more.swaps = tables.swaps)
    (kept : ∀ swap, bikeMentions search tables wanted swap = true →
      bikeMentions search more wanted swap = true)
    (stored : swap ∈ tables.swaps) (selected : selectsSwap user query range swap = true)
    (unmentioned : mentions search wanted swap = false)
    (before : bikeMentions search tables wanted swap = false)
    (after : bikeMentions search more wanted swap = true) :
    (selectedSwaps search tables user query range).length ≠
      (selectedSwaps search more user query range).length := by
  have matches_eq (tables : FleetTables) (swap : BatterySwap) :
      matchesSwap search tables user query range swap =
        (selectsSwap user query range swap &&
          (mentions search wanted swap || bikeMentions search tables wanted swap)) := by
    rw [matchesSwap, searched, sought, Option.all_some]
  have grows : (tables.swaps.filter (matchesSwap search tables user query range)).Sublist
      (more.swaps.filter (matchesSwap search more user query range)) := by
    rw [sameSwaps]
    apply List.monotone_filter_right
    intro other taken
    rw [matches_eq, Bool.and_eq_true, Bool.or_eq_true] at taken
    rw [matches_eq, Bool.and_eq_true, Bool.or_eq_true]
    exact ⟨taken.1, taken.2.imp_right (kept other)⟩
  intro sameLength
  rw [selectedSwaps, selectedSwaps, latestFirst, latestFirst, List.length_mergeSort,
    List.length_mergeSort] at sameLength
  have present : swap ∈ more.swaps.filter (matchesSwap search more user query range) := by
    refine List.mem_filter.mpr ⟨sameSwaps ▸ stored, ?_⟩
    rw [matches_eq, selected, after, Bool.or_true]
    rfl
  rw [← grows.eq_of_length sameLength] at present
  have taken := (List.mem_filter.mp present).2
  rw [matches_eq, selected, unmentioned, before] at taken
  cases taken

/-- A search tells what a bike beyond the fleet is called. -/
theorem leaks_search (linked : Linked db)
    (dated : dateRange query.startDate query.endDate = .ok range) {wanted text : String}
    (sought : given query.search = some wanted) (telling : search.contains text wanted = false)
    {swap : BatterySwap} (stored : swap ∈ db.swaps)
    (selected : selectsSwap user query range swap = true)
    (unmentioned : mentions search wanted swap = false) {id : Id} (refers : swap.bikeId = some id)
    (foreign : ¬ HasBike db user.fleetId id) :
    Leaks search moment user db (.listBatterySwaps query) := by
  obtain ⟨_, has⟩ := linked.swapBikes swap stored id refers
  obtain ⟨bike, found, -⟩ := findBike_of_hasBike linked has
  obtain ⟨match_, contained⟩ := search.found wanted
  let rename (label : String) : Bike → Bike := fun bike =>
    { bike with
      label := label
      plate := none }
  have stays (label : String) : Stays (·.id) (·.fleetId) (rename label) :=
    ⟨fun _ => rfl, fun _ => rfl⟩
  -- what is mentioned after the bike is renamed
  have mentioned (label : String) (other : BatterySwap) :
      bikeMentions search (changeBike db id (rename label)) wanted other =
        if other.bikeId = some id then search.contains label wanted
        else bikeMentions search db wanted other := by
    rw [bikeMentions, bikeMentions]
    cases otherBike : other.bikeId with
    | none => rfl
    | some sought =>
      by_cases same : sought = id
      case pos =>
        rw [same, Option.bind_some, if_pos rfl, findBike_changed (stays label) found,
          Option.any_some]
        exact Bool.or_false _
      case neg =>
        have apart : some sought ≠ some id := fun equal => same (Option.some.inj equal)
        rw [if_neg apart, Option.bind_some, Option.bind_some, findBike_changeBike (stays label)]
        cases foundOther : db.findBike sought with
        | none => rfl
        | some row =>
          have test := List.find?_some foundOther
          have keepsName : row.id ≠ id := fun equal =>
            same ((of_decide_eq_true test).symm.trans equal)
          rw [Option.map_some, if_neg keepsName]
  have leaks (label : String) (differs : (selectedSwaps search (changeBike db id (rename label)) user
      query range).length ≠ (selectedSwaps search db user query range).length) :
      Leaks search moment user db (.listBatterySwaps query) :=
    ⟨changeBike db id (rename label), linked_changeBike linked (stays label),
      ofFleet_changeBike (stays label) foreign, fun same => differs (shown_of_answer dated same).2⟩
  cases before : bikeMentions search db wanted swap with
  | false =>
    apply leaks match_
    apply Ne.symm
    refine more_selected sought rfl (fun other already => ?_) stored selected unmentioned before ?_
    · rw [mentioned]
      split
      case isTrue => exact contained
      case isFalse => exact already
    · rw [mentioned, if_pos refers]
      exact contained
  | true =>
    apply leaks text
    refine more_selected sought rfl (fun other already => ?_) stored selected unmentioned ?_ before
    · rw [mentioned] at already
      split at already
      case isTrue =>
        rw [telling] at already
        cases already
      case isFalse => exact already
    · rw [mentioned, if_pos refers]
      exact telling

/-- What is on a page is stored. -/
theorem mem_swaps_of_onPage {swap : BatterySwap}
    (onPage : swap ∈ swapsOnPage search db user query range) : swap ∈ db.swaps := by
  rw [swapsOnPage] at onPage
  have selected := List.mem_mergeSort.mp (List.mem_of_mem_drop (List.mem_of_mem_take onPage))
  exact (List.mem_filter.mp selected).1

/-- Where the swaps of a list do not keep to the fleet, the list shows foreign rows. -/
theorem leaks_list (linked : Linked db)
    (breaks : ¬ KeepsToFleet search moment user db (.listBatterySwaps query)) :
    Leaks search moment user db (.listBatterySwaps query) := by
  rw [KeepsToFleet] at breaks
  push Not at breaks
  obtain ⟨range, dated, breaks⟩ := breaks
  by_cases onPage : ∀ swap ∈ swapsOnPage search db user query range,
      RefersWithin db user.fleetId swap.bikeId swap.riderId
  case pos =>
    obtain ⟨wanted, sought, ⟨text, telling⟩, swap, stored, selected, unmentioned, id, refers,
      foreign⟩ := breaks onPage
    exact leaks_search linked dated sought telling stored selected unmentioned refers foreign
  case neg =>
    push Not at onPage
    obtain ⟨swap, listed, stray⟩ := onPage
    have stored := mem_swaps_of_onPage listed
    by_cases ownBike : ∀ id ∈ swap.bikeId, HasBike db user.fleetId id
    case pos =>
      have strayRider : ¬ ∀ id ∈ swap.riderId, HasRider db user.fleetId id :=
        fun ownRider => stray ⟨ownBike, ownRider⟩
      push Not at strayRider
      obtain ⟨id, refers, foreign⟩ := strayRider
      obtain ⟨_, has⟩ := linked.swapRiders swap stored id refers
      obtain ⟨rider, found, -⟩ := findUser_of_hasRider linked has
      exact leaks_listedRider linked dated listed refers found foreign
    case neg =>
      push Not at ownBike
      obtain ⟨id, refers, foreign⟩ := ownBike
      obtain ⟨_, has⟩ := linked.swapBikes swap stored id refers
      obtain ⟨bike, found, -⟩ := findBike_of_hasBike linked has
      exact leaks_listedBike linked dated listed refers found foreign

end Listing

end Twins

/-- The reply to a request depends on nothing but the rows of the fleet, and what it writes
is the fleet's and refers to nothing else, exactly where the request keeps to the fleet. -/
theorem fleet_financials_isolated_iff (search : TextSearch) (moment : Moment)
    (user : AuthenticatedUser) (request : Request) (state : State) :
    Confined (fun state : State => state.tables.ofFleet user.fleetId)
        (fun state => answer search moment user state.tables request) state ∧
      WritesOwn user.fleetId state.tables (tablesAfter search moment user state.tables request) ↔
      KeepsToFleet search moment user state.tables request := by
  constructor
  · rintro ⟨confined, -⟩
    by_contra breaks
    have leaks : Leaks search moment user state.tables request := by
      cases request with
      | createBatterySwap dto => exact leaks_create state.linked breaks
      | listBatterySwaps query => exact leaks_list state.linked breaks
      | _ => exact absurd trivial breaks
    obtain ⟨twin, linked, same, differs⟩ := leaks
    exact differs (confined ⟨twin, linked⟩ same)
  · intro keeps
    exact ⟨fun other same => answer_same state.linked other.linked same keeps,
      writesOwn_tablesAfter state.linked keeps⟩

section Samples

/-- A bike of one fleet, under some number plate. -/
def strangeBike (plate : String) : Bike :=
  ⟨"bike", "theirs", "Bike", some plate, none, none, none, .ACTIVE, none, none, false, 0, 0⟩

/-- Tables with nothing but a bike of another fleet. -/
def bikeOnly (plate : String) : FleetTables where
  users := []
  bikes := [strangeBike plate]
  commands := []
  assignments := []
  fines := []
  payments := []
  swaps := []
  auditLogs := []

theorem linked_bikeOnly (plate : String) : Linked (bikeOnly plate) where
  userKeys := List.nodup_nil
  bikeKeys := List.nodup_singleton _
  paymentKeys := List.nodup_nil
  swapKeys := List.nodup_nil
  payments := fun _ listed => nomatch listed
  fines := fun _ listed => nomatch listed
  riders := fun _ listed => nomatch listed
  bikes := fun _ listed => nomatch listed
  commands := fun _ listed => nomatch listed
  swapBikes := fun _ listed => nomatch listed
  swapRiders := fun _ listed => nomatch listed

/-- A request of a swap for the bike of another fleet. -/
def swapOfStrangeBike : CreateBatterySwapDto where
  bikeId := some "bike"
  riderId := none
  swapStation := none
  swapType := .FULL
  fraction := none
  unitPriceRwf := none
  batterySerialOut := none
  batterySerialIn := none
  soCOutPct := none
  soCInPct := none
  ts := none
  notes := none
  fractionBounds := fun _ none => nomatch none
  priceBound := fun _ none => nomatch none

def anySearch : TextSearch := ⟨fun _ _ => true, fun _ => ⟨"", rfl⟩⟩

/-- A fleet reads the number plate of another fleet's bike off its own battery swap. -/
theorem strange_plate_shown :
    ¬ ∀ search moment user request state,
      Confined (fun state : State => state.tables.ofFleet user.fleetId)
          (fun state => answer search moment user state.tables request) state ∧
        WritesOwn user.fleetId state.tables
          (tablesAfter search moment user state.tables request) := by
  intro claim
  have confined := (claim anySearch ⟨0, "swap", 0, 0, id, id⟩ ⟨"user", "ours"⟩
    (.createBatterySwap swapOfStrangeBike) ⟨bikeOnly "RAA 1", linked_bikeOnly "RAA 1"⟩).1
  have same : (bikeOnly "RAA 2").ofFleet "ours" = (bikeOnly "RAA 1").ofFleet "ours" := by
    decide +kernel
  have equal := confined ⟨bikeOnly "RAA 2", linked_bikeOnly "RAA 2"⟩ same
  exact absurd equal (by decide +kernel)

end Samples

end EmotoFleet.Financials.Service
