import EmotoFleet.Billing.BillingCycles
import EmotoFleet.Foundations.Runs

/-!
# What a fleet's own users can do to its bill

The invoice of a pay-as-you-go fleet is computed from the stored trips, the
stored bikes and the fleet's day rate. The users of the fleet manage its bikes
and its settings. None of their operations touches the day rate, and only the
deletion of a bike touches trips: it deletes the trips of the bike with it.

A request that is refused changes nothing.
-/

namespace EmotoFleet.Billing

open Runs
open WhiteSpace (trim)

/-- Why a tenant's request is refused. -/
inductive TenantError where
  | notFound
  | forbidden
  | conflict
  | badRequest (message : String)
deriving DecidableEq

/-- What a tenant sends for a new bike. -/
structure CreateBikeDto where
  label : String
  plate : Option String
  serial : Option String
  model : Option String
  status : Option BikeStatus
  imageUrl : Option String
  type : Option String
  insurerName : Option String
  leaseToOwn : Option Bool

/-- A field that is not given is left alone; a nullable one may be set to null. -/
structure UpdateBikeDto where
  label : Option String
  plate : Option (Option String)
  serial : Option (Option String)
  model : Option (Option String)
  status : Option BikeStatus
  imageUrl : Option (Option String)
  type : Option (Option String)
  insurerName : Option (Option String)
  leaseToOwn : Option Bool

/-- What a tenant sends for the settings of the fleet. -/
structure FleetSettingsDto where
  momoPhoneNumber : Option String
  bankName : Option String
  bankAccountNumber : Option String
  bankAccountName : Option String

/-- The bike that a request adds. -/
def newBike (fleetId id : String) (dto : CreateBikeDto) : Bike where
  id := id
  fleetId := fleetId
  label := dto.label
  plate := dto.plate
  serial := dto.serial
  model := dto.model
  insurerName := dto.insurerName
  status := dto.status.getD .ACTIVE
  imageUrl := dto.imageUrl
  type := dto.type
  leaseToOwn := dto.leaseToOwn.getD false

/-- The bike that a request leaves behind. -/
def updatedBike (dto : UpdateBikeDto) (bike : Bike) : Bike :=
  { bike with
    label := dto.label.getD bike.label
    plate := dto.plate.getD bike.plate
    serial := dto.serial.getD bike.serial
    model := dto.model.getD bike.model
    status := dto.status.getD bike.status
    imageUrl := dto.imageUrl.getD bike.imageUrl
    type := dto.type.getD bike.type
    insurerName := dto.insurerName.getD bike.insurerName
    leaseToOwn := dto.leaseToOwn.getD bike.leaseToOwn }

/-- Labels and plates are unique within a fleet, serial numbers everywhere. -/
def clashes (bike other : Bike) : Bool :=
  decide (bike.id ≠ other.id ∧
    ((bike.fleetId = other.fleetId ∧
        (bike.label = other.label ∨ (bike.plate.isSome = true ∧ bike.plate = other.plate))) ∨
      (bike.serial.isSome = true ∧ bike.serial = other.serial)))

namespace UsageTables

variable (tables : UsageTables)

/-- One more bike, unless its plate or serial is taken. -/
def insertBike (bike : Bike) : Except TenantError UsageTables :=
  if unused : bike.id ∉ tables.bikes.map (·.id) ∧ tables.bikes.any (clashes bike) = false then
    .ok
      { bikes := tables.bikes ++ [bike]
        trips := tables.trips
        bikeKey := by
          rw [List.map_append]
          exact List.nodup_append.mpr ⟨tables.bikeKey, List.nodup_singleton _, by
            intro id member other added same
            obtain rfl := List.mem_singleton.mp added
            have equal : id = bike.id := same
            exact unused.1 (equal ▸ member)⟩
        tripBike := by
          intro trip member
          rw [List.map_append]
          exact List.mem_append_left _ (tables.tripBike trip member) }
  else .error .conflict

/-- The bikes with one of them changed. -/
def modifyBike (id : String) (dto : UpdateBikeDto) : List Bike :=
  tables.bikes.map fun bike => if bike.id = id then updatedBike dto bike else bike

/-- A change leaves the bikes' identities. -/
theorem modifyBike_ids (id : String) (dto : UpdateBikeDto) :
    (tables.modifyBike id dto).map (·.id) = tables.bikes.map (·.id) := by
  rw [modifyBike, List.map_map]
  apply List.map_congr_left
  intro bike _
  simp only [Function.comp_apply]
  split
  · rfl
  · rfl

/-- A changed bike, unless its plate or serial is taken. -/
def updateBike (id : String) (dto : UpdateBikeDto) : Except TenantError UsageTables :=
  if (tables.modifyBike id dto).any fun bike =>
      bike.id == id && (tables.modifyBike id dto).any (clashes bike) then .error .conflict
  else
    .ok
      { bikes := tables.modifyBike id dto
        trips := tables.trips
        bikeKey := by
          rw [modifyBike_ids]
          exact tables.bikeKey
        tripBike := by
          rw [modifyBike_ids]
          exact tables.tripBike }

/-- The trips of a deleted bike are deleted with it. -/
def deleteBike (id : String) : UsageTables where
  bikes := tables.bikes.filter (·.id ≠ id)
  trips := tables.trips.filter (·.bikeId ≠ id)
  bikeKey := tables.bikeKey.sublist (List.filter_sublist.map _)
  tripBike := by
    intro trip member
    obtain ⟨stored, other⟩ := List.mem_filter.mp member
    obtain ⟨bike, present, same⟩ := List.mem_map.mp (tables.tripBike trip stored)
    apply List.mem_map.mpr
    refine ⟨bike, List.mem_filter.mpr ⟨present, ?_⟩, same⟩
    simpa [same] using other

end UsageTables

/-- A tenant adds a bike. -/
def createBikeForUser (state : BillingState) (id : String) (dto : CreateBikeDto) :
    Except TenantError BillingState :=
  (state.usage.insertBike (newBike state.fleet.id id dto)).map fun usage =>
    { state with usage := usage }

/-- The stored bike, if the user's fleet owns it. -/
def loadOwnBike (state : BillingState) (id : String) : Except TenantError Bike :=
  match state.usage.bikes.find? (·.id == id) with
  | none => .error .notFound
  | some bike => if bike.fleetId = state.fleet.id then .ok bike else .error .forbidden

/-- A tenant changes a bike of theirs. -/
def updateBikeForUser (state : BillingState) (id : String) (dto : UpdateBikeDto) :
    Except TenantError BillingState :=
  (loadOwnBike state id).bind fun _ =>
    (state.usage.updateBike id dto).map fun usage => { state with usage := usage }

/-- A tenant deletes a bike of theirs. -/
def deleteBikeForUser (state : BillingState) (id : String) : Except TenantError BillingState :=
  (loadOwnBike state id).map fun _ => { state with usage := state.usage.deleteBike id }

/-- A tenant changes the rate of the fleet. -/
def updateBillingRate (state : BillingState) (monthlyRatePerBike : ℚ) :
    Except TenantError BillingState :=
  if monthlyRatePerBike < 0 then .error (.badRequest "Invalid monthly rate per bike")
  else
    .ok
      { state with
        fleet := { state.fleet with monthlyRatePerBike := roundHalfUp monthlyRatePerBike } }

/-- A tenant changes the settings of the fleet. -/
def updateFleetSettings (state : BillingState) (dto : FleetSettingsDto) : BillingState :=
  { state with
    fleet :=
      { state.fleet with
        momoPhoneNumber := (dto.momoPhoneNumber.map trim).or state.fleet.momoPhoneNumber
        bankName := (dto.bankName.map trim).or state.fleet.bankName
        bankAccountNumber := (dto.bankAccountNumber.map trim).or state.fleet.bankAccountNumber
        bankAccountName := (dto.bankAccountName.map trim).or state.fleet.bankAccountName } }

/-- Asking for another plan only records the wish for it. -/
def updateCurrentFleetPlan (state : BillingState) (plan : FleetPlan)
    (momoPhoneNumber : Option String) : Except TenantError BillingState :=
  if plan = .ENTERPRISE ∨ plan = .INSURANCE then
    let given := (momoPhoneNumber.map trim).filter (· != "")
    .ok
      { state with
        fleet :=
          { state.fleet with
            upgradeRequested := true
            upgradeRequestedAt := some state.now
            momoPhoneNumber := given.or state.fleet.momoPhoneNumber } }
  else
    .error (.badRequest "Only Enterprise and Insurance tier requests are supported right now")

/-- What a tenant may do. -/
inductive TenantOperation where
  | createBike (id : String) (dto : CreateBikeDto)
  | updateBike (id : String) (dto : UpdateBikeDto)
  | deleteBike (id : String)
  | updateBillingRate (monthlyRatePerBike : ℚ)
  | updateFleetSettings (dto : FleetSettingsDto)
  | updateCurrentFleetPlan (plan : FleetPlan) (momoPhoneNumber : Option String)

/-- The effect of each operation, or its refusal. -/
def requestTenant (state : BillingState) : TenantOperation → Except TenantError BillingState
  | .createBike id dto => createBikeForUser state id dto
  | .updateBike id dto => updateBikeForUser state id dto
  | .deleteBike id => deleteBikeForUser state id
  | .updateBillingRate monthlyRatePerBike => updateBillingRate state monthlyRatePerBike
  | .updateFleetSettings dto => .ok (updateFleetSettings state dto)
  | .updateCurrentFleetPlan plan momoPhoneNumber =>
    updateCurrentFleetPlan state plan momoPhoneNumber

/-- An operation that is refused changes nothing. -/
def operateTenant (state : BillingState) (operation : TenantOperation) : BillingState :=
  match requestTenant state operation with
  | .ok next => next
  | .error _ => state

/-! What is kept by all operations. -/

/-- What an invoice depends on besides bikes and trips. -/
structure KeepsRates (before after : BillingState) : Prop where
  fleetId : after.fleet.id = before.fleet.id
  rate : paygRate after.fleet = paygRate before.fleet
  payg : isPayg after.fleet = isPayg before.fleet
  cycles : after.cycles = before.cycles

variable {state next : BillingState}

/-- Where fleet and invoices stay, the rates stay. -/
theorem keepsRates_of_fleet (fleet : next.fleet = state.fleet) (cycles : next.cycles = state.cycles) :
    KeepsRates state next := by
  constructor
  · rw [fleet]
  · rw [fleet]
  · rw [fleet]
  · exact cycles

/-- Every accepted operation keeps the rates of invoices. -/
theorem keepsRates_request {operation : TenantOperation}
    (accepted : requestTenant state operation = .ok next) : KeepsRates state next := by
  cases operation with
  | createBike id dto =>
    simp only [requestTenant, createBikeForUser, Except.map] at accepted
    split at accepted
    · cases accepted
    · obtain rfl := Except.ok.inj accepted
      exact keepsRates_of_fleet rfl rfl
  | updateBike id dto =>
    simp only [requestTenant, updateBikeForUser, Except.bind, Except.map] at accepted
    split at accepted
    · cases accepted
    · split at accepted
      · cases accepted
      · obtain rfl := Except.ok.inj accepted
        exact keepsRates_of_fleet rfl rfl
  | deleteBike id =>
    simp only [requestTenant, deleteBikeForUser, Except.map] at accepted
    split at accepted
    · cases accepted
    · obtain rfl := Except.ok.inj accepted
      exact keepsRates_of_fleet rfl rfl
  | updateBillingRate monthlyRatePerBike =>
    simp only [requestTenant, updateBillingRate] at accepted
    split at accepted
    · cases accepted
    · obtain rfl := Except.ok.inj accepted
      exact ⟨rfl, rfl, rfl, rfl⟩
  | updateFleetSettings dto =>
    obtain rfl := Except.ok.inj accepted
    exact ⟨rfl, rfl, rfl, rfl⟩
  | updateCurrentFleetPlan plan momoPhoneNumber =>
    simp only [requestTenant, updateCurrentFleetPlan] at accepted
    split at accepted
    · obtain rfl := Except.ok.inj accepted
      exact ⟨rfl, rfl, rfl, rfl⟩
    · cases accepted

/-- Every operation keeps the rates of invoices. -/
theorem keepsRates_operate (state : BillingState) (operation : TenantOperation) :
    KeepsRates state (operateTenant state operation) := by
  unfold operateTenant
  split
  · rename_i next accepted
    exact keepsRates_request accepted
  · exact ⟨rfl, rfl, rfl, rfl⟩

/-- Any number of operations keeps the rates of invoices. -/
theorem keepsRates_run (state : BillingState) (operations : List TenantOperation) :
    KeepsRates state (operations.foldl operateTenant state) := by
  induction operations generalizing state with
  | nil => exact ⟨rfl, rfl, rfl, rfl⟩
  | cons operation rest inductionHypothesis =>
    have first := keepsRates_operate state operation
    have others := inductionHypothesis (operateTenant state operation)
    exact ⟨others.fleetId.trans first.fleetId, others.rate.trans first.rate,
      others.payg.trans first.payg, others.cycles.trans first.cycles⟩

/-- The rate of the next invoice of a pay-as-you-go fleet is its day rate. -/
theorem nextCycle_ratePerBike (payg : isPayg state.fleet = true) :
    (nextCycle state).ratePerBike = paygRate state.fleet := by
  simp [nextCycle, invoiceAmounts, payg]

/-! The trips that an audit looks at. -/

/-- The charge depends only on the trips that are audited. -/
theorem chargedBy_congr {fleet other : Fleet} {tables changed : UsageTables} {cycle : BillingCycle}
    (same : ∀ trip, Audited other changed cycle trip ↔ Audited fleet tables cycle trip) :
    chargedBy other changed cycle = chargedBy fleet tables cycle := by
  ext bikeDay
  simp only [mem_chargedBy, same]

/-- A new bike has no trips yet. -/
theorem audited_insertBike {fleet : Fleet} {tables changed : UsageTables} {bike : Bike}
    {cycle : BillingCycle} (inserted : tables.insertBike bike = .ok changed) (trip : Trip) :
    Audited fleet changed cycle trip ↔ Audited fleet tables cycle trip := by
  unfold UsageTables.insertBike at inserted
  split at inserted
  · rename_i unused
    obtain rfl := Except.ok.inj inserted
    unfold Audited
    apply and_congr_right
    intro stored
    apply and_congr_right
    intro _
    have known := tables.tripBike trip stored
    have different : bike.id ≠ trip.bikeId := by
      intro same
      exact unused.1 (same ▸ known)
    simp [mem_bikeIds, or_and_right, exists_or, different]
  · cases inserted

/-- An update keeps the identifier and the fleet of every bike. -/
theorem audited_updateBike {fleet : Fleet} {tables changed : UsageTables} {id : String}
    {dto : UpdateBikeDto} {cycle : BillingCycle} (updated : tables.updateBike id dto = .ok changed)
    (trip : Trip) : Audited fleet changed cycle trip ↔ Audited fleet tables cycle trip := by
  unfold UsageTables.updateBike at updated
  split at updated
  · cases updated
  · obtain rfl := Except.ok.inj updated
    have owned : bikeIds fleet.id (tables.modifyBike id dto) = bikeIds fleet.id tables.bikes := by
      unfold bikeIds UsageTables.modifyBike
      induction tables.bikes with
      | nil => rfl
      | cons bike bikes inductionHypothesis =>
        rw [List.map_cons, List.filter_cons, List.filter_cons]
        have fleetKept : (if bike.id = id then updatedBike dto bike else bike).fleetId =
            bike.fleetId := by
          split
          · rfl
          · rfl
        have idKept : (if bike.id = id then updatedBike dto bike else bike).id = bike.id := by
          split
          · rfl
          · rfl
        rw [fleetKept]
        split
        · rw [List.map_cons, List.map_cons, inductionHypothesis, idKept]
        · exact inductionHypothesis
    simp [Audited, owned]

/-- A bike without trips in the period can be deleted. -/
theorem audited_deleteBike {fleet : Fleet} {tables : UsageTables} {id : String}
    {cycle : BillingCycle}
    (unused : ∀ trip ∈ tripsInWindow fleet.id tables.trips cycle.periodStart cycle.periodEnd,
      trip.bikeId ≠ id) (trip : Trip) :
    Audited fleet (tables.deleteBike id) cycle trip ↔ Audited fleet tables cycle trip := by
  unfold Audited
  constructor
  · rintro ⟨kept, within, owned, bounded⟩
    obtain ⟨bike, present, ours, same⟩ := mem_bikeIds.mp owned
    exact ⟨List.mem_of_mem_filter kept, within,
      mem_bikeIds.mpr ⟨bike, List.mem_of_mem_filter present, ours, same⟩, bounded⟩
  · rintro ⟨stored, within, owned, bounded⟩
    have other := unused trip (mem_tripsInWindow.mpr ⟨stored, within⟩)
    obtain ⟨bike, present, ours, same⟩ := mem_bikeIds.mp owned
    refine ⟨List.mem_filter.mpr ⟨stored, by simpa using other⟩, within, ?_, bounded⟩
    exact mem_bikeIds.mpr ⟨bike, List.mem_filter.mpr ⟨present, by simpa [same] using other⟩, ours, same⟩

/-- The operation deletes no bike that has a trip in the cycle's period. -/
def KeepsTripsOf (cycle : BillingCycle) (state : BillingState) (operation : TenantOperation)
    (_ : BillingState) : Prop :=
  ∀ id, operation = .deleteBike id →
    ∀ trip ∈ tripsInWindow state.fleet.id state.usage.trips cycle.periodStart cycle.periodEnd,
      trip.bikeId ≠ id

/-- An operation that keeps the cycle's trips keeps what is audited. -/
theorem audited_request {operation : TenantOperation} {cycle : BillingCycle}
    (accepted : requestTenant state operation = .ok next)
    (kept : KeepsTripsOf cycle state operation next) (trip : Trip) :
    Audited next.fleet next.usage cycle trip ↔ Audited state.fleet state.usage cycle trip := by
  cases operation with
  | createBike id dto =>
    simp only [requestTenant, createBikeForUser, Except.map] at accepted
    split at accepted
    · cases accepted
    · rename_i usage inserted
      obtain rfl := Except.ok.inj accepted
      exact audited_insertBike inserted trip
  | updateBike id dto =>
    simp only [requestTenant, updateBikeForUser, Except.bind, Except.map] at accepted
    split at accepted
    · cases accepted
    · split at accepted
      · cases accepted
      · rename_i usage updated
        obtain rfl := Except.ok.inj accepted
        exact audited_updateBike updated trip
  | deleteBike id =>
    simp only [requestTenant, deleteBikeForUser, Except.map] at accepted
    split at accepted
    · cases accepted
    · obtain rfl := Except.ok.inj accepted
      exact audited_deleteBike (kept id rfl) trip
  | updateBillingRate monthlyRatePerBike =>
    simp only [requestTenant, updateBillingRate] at accepted
    split at accepted
    · cases accepted
    · obtain rfl := Except.ok.inj accepted
      exact Iff.rfl
  | updateFleetSettings dto =>
    obtain rfl := Except.ok.inj accepted
    exact Iff.rfl
  | updateCurrentFleetPlan plan momoPhoneNumber =>
    simp only [requestTenant, updateCurrentFleetPlan] at accepted
    split at accepted
    · obtain rfl := Except.ok.inj accepted
      exact Iff.rfl
    · cases accepted

/-- An operation that keeps the cycle's trips keeps its charge. -/
theorem chargedBy_operate {operation : TenantOperation} {cycle : BillingCycle}
    (kept : KeepsTripsOf cycle state operation (operateTenant state operation)) :
    chargedBy (operateTenant state operation).fleet (operateTenant state operation).usage cycle =
      chargedBy state.fleet state.usage cycle := by
  unfold operateTenant at kept ⊢
  split
  · rename_i next accepted
    rw [accepted] at kept
    exact chargedBy_congr (audited_request accepted kept)
  · rfl

/-- Operations that keep the cycle's trips keep its charge. -/
theorem chargedBy_run {cycle : BillingCycle} {operations : List TenantOperation}
    (kept : Along (total operateTenant) (KeepsTripsOf cycle) state operations) :
    chargedBy (operations.foldl operateTenant state).fleet
        (operations.foldl operateTenant state).usage cycle =
      chargedBy state.fleet state.usage cycle := by
  induction operations generalizing state with
  | nil => rfl
  | cons operation rest inductionHypothesis =>
    obtain ⟨first, others⟩ := (along_total_cons operateTenant _ state operation rest).mp kept
    rw [List.foldl_cons, inductionHypothesis others, chargedBy_operate first]

/-- The subtotal of a cycle after its reconciliation. -/
def reconciledSubtotal (state : BillingState) (cycleId : Nat) : Option Int :=
  (reconcilePaygCycle state cycleId).cycles[cycleId]?.map (·.subtotal)

/-- A reconciled subtotal is the rate times the charged bike-days, or was fixed
before. -/
theorem reconciledSubtotal_eq {cycleId : Nat} {cycle : BillingCycle}
    (payg : isPayg state.fleet = true) (found : state.cycles[cycleId]? = some cycle) :
    reconciledSubtotal state cycleId =
      some (if cycle.status = .PAID ∨ cycle.status = .VOID then cycle.subtotal
        else (chargedBy state.fleet state.usage cycle).card * paygRate state.fleet) := by
  unfold reconciledSubtotal reconcilePaygCycle
  rw [found]
  by_cases closed : cycle.status = .PAID ∨ cycle.status = .VOID
  · simp [closed, ← or_assoc, found]
  · have subtotal : (reconciled state cycle).subtotal =
        (chargedBy state.fleet state.usage cycle).card * paygRate state.fleet :=
      totalPaygSubtotalRwf_card cycle
    simp [closed, payg, found, BillingState.updateCycle, subtotal]

/-- For a pay-as-you-go fleet, no operation of its users changes the rate of its
next invoice, and none of a sequence that deletes no bike with a trip in a cycle's
period lowers what the reconciliation of the cycle yields. -/
theorem past_bill_kept (state : BillingState) (operations : List TenantOperation)
    (payg : isPayg state.fleet = true) :
    (nextCycle (operations.foldl operateTenant state)).ratePerBike = (nextCycle state).ratePerBike ∧
    ∀ (cycleId : Nat) (cycle : BillingCycle), state.cycles[cycleId]? = some cycle →
      Along (total operateTenant) (KeepsTripsOf cycle) state operations →
      ∃ before after, reconciledSubtotal state cycleId = some before ∧
        reconciledSubtotal (operations.foldl operateTenant state) cycleId = some after ∧
        before ≤ after := by
  have rates := keepsRates_run state operations
  have paygLater := rates.payg.trans payg
  constructor
  · rw [nextCycle_ratePerBike paygLater, nextCycle_ratePerBike payg, rates.rate]
  · intro cycleId cycle found kept
    have later : (operations.foldl operateTenant state).cycles[cycleId]? = some cycle := by
      rw [rates.cycles, found]
    have after := reconciledSubtotal_eq paygLater later
    rw [chargedBy_run kept, rates.rate] at after
    exact ⟨_, _, reconciledSubtotal_eq payg found, after, le_refl _⟩

/-- Whether an operation keeps the trips of a cycle, as a check. -/
def keepsTripsCheck (cycle : BillingCycle) (state : BillingState) (operation : TenantOperation)
    (_ : BillingState) : Bool :=
  match operation with
  | .deleteBike id =>
    (tripsInWindow state.fleet.id state.usage.trips cycle.periodStart cycle.periodEnd).all
      fun trip => decide (trip.bikeId ≠ id)
  | _ => true

/-- The check is enough. -/
theorem keepsTripsCheck_sound (cycle : BillingCycle) (state : BillingState)
    (operation : TenantOperation) (next : BillingState)
    (checked : keepsTripsCheck cycle state operation next = true) :
    KeepsTripsOf cycle state operation next := by
  rintro id rfl trip member
  have all := List.all_eq_true.mp checked trip member
  exact of_decide_eq_true all

/-- A fleet with a finished week in which its bike made one trip. -/
def finishedState : BillingState :=
  { unbilledState with
    now := 1773100000000
    usage := { unbilledState.usage with trips := [tripAt 1772442000000], tripBike := by decide }
    cycles := [defaultCycle] }

/-- The bike is retired, the monthly rate set to nothing, and a bike that made no
trip is added and deleted. -/
theorem past_bill_kept_retired :
    ∃ before after, reconciledSubtotal finishedState 0 = some before ∧
      reconciledSubtotal
        ([.updateBike "bike-1" ⟨none, none, none, none, some .RETIRED, none, none, none, none⟩,
          .updateBillingRate 0,
          .createBike "bike-2" ⟨"Bike 2", none, none, none, none, none, none, none, none⟩,
          .deleteBike "bike-2"].foldl operateTenant finishedState) 0 = some after ∧
      before ≤ after :=
  (past_bill_kept finishedState
    [.updateBike "bike-1" ⟨none, none, none, none, some .RETIRED, none, none, none, none⟩,
      .updateBillingRate 0,
      .createBike "bike-2" ⟨"Bike 2", none, none, none, none, none, none, none, none⟩,
      .deleteBike "bike-2"] (by decide)).2 0 defaultCycle rfl
    (along_of_check (keepsTripsCheck_sound defaultCycle) (by decide +kernel))

/-- The bike is deleted, and the week it was ridden in costs nothing. -/
theorem deleted_bike_lowers_bill :
    ¬ ∀ (state : BillingState) (operations : List TenantOperation) (cycleId : Nat)
        (cycle : BillingCycle) (before after : Int), isPayg state.fleet = true →
      state.cycles[cycleId]? = some cycle → cycle.periodEnd ≤ state.now →
      reconciledSubtotal state cycleId = some before →
      reconciledSubtotal (operations.foldl operateTenant state) cycleId = some after →
      before ≤ after := by
  intro always
  have kept := always finishedState [.deleteBike "bike-1"] 0 defaultCycle 350 0 (by decide) rfl
    (by decide) (by decide +kernel) (by decide +kernel)
  exact absurd kept (by decide)

end EmotoFleet.Billing
