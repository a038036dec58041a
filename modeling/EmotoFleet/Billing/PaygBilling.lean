import EmotoFleet.Billing.BillingCron
import EmotoFleet.Foundations.Runs

/-!
# When usage is billed in full

A cycle is created before its usage is known, and the daily job brings it up to
date for as long as the cycle is pending or partly paid and the fleet is active.
A cycle that is paid, overdue or void at that time, or whose fleet is suspended,
keeps the subtotal that it has.

The run goes through the operations of the billing service and the trips that the
fleet finishes, with the rates of the fleet left alone. After a daily job that
looks at a cycle, the subtotal is the rate times the bike-days of the period, and
stays so while no trip of the period is added or removed.
-/

namespace EmotoFleet.Billing

open Runs

/-- The trip is replaced by a later one that overlaps it. -/
def overlaps (trip finished : Trip) : Bool :=
  decide (trip.bikeId = finished.bikeId) &&
    finished.endTs.any (fun endTs => decide (trip.startTs < endTs)) &&
    trip.endTs.any (fun endTs => decide (finished.startTs < endTs))

/-- A finished trip deletes those it overlaps and is then inserted, unless its key
is taken. Its bike is one that is stored. -/
def finalizeTrip (tables : UsageTables) (finished : Trip) : UsageTables :=
  let kept := tables.trips.filter (!overlaps · finished)
  have keptBike : ∀ trip ∈ kept, trip.bikeId ∈ tables.bikes.map (·.id) :=
    fun trip member => tables.tripBike trip (List.mem_of_mem_filter member)
  if known : finished.bikeId ∈ tables.bikes.map (·.id) ∧
      kept.all (fun trip => !(trip.bikeId == finished.bikeId && trip.startTs == finished.startTs))
        = true then
    { bikes := tables.bikes
      trips := kept ++ [finished]
      bikeKey := tables.bikeKey
      tripBike := by
        intro trip member
        cases List.mem_append.mp member with
        | inl before => exact keptBike trip before
        | inr added =>
          obtain rfl := List.mem_singleton.mp added
          exact known.1 }
  else { bikes := tables.bikes, trips := kept, bikeKey := tables.bikeKey, tripBike := keptBike }

/-- A confirmation of a transaction that commits, without anything in between. One that is
rolled back leaves the state as it is. -/
def confirmPayment (state : BillingState) (transactionId : Nat) (financialTransactionId : String) :
    BillingState :=
  match state.momoTransactions[transactionId]? with
  | none => state
  | some transaction =>
    confirmed state transactionId transaction
      (transaction.billingCycleId.bind fun cycleId => state.cycles[cycleId]?) financialTransactionId

/-- A refused request leaves the state as it is. -/
def unlessRefused (state : BillingState) (result : Except BillingError BillingState) :
    BillingState :=
  match result with
  | .ok next => next
  | .error _ => state

/-- The operations on a fleet's billing. -/
inductive Operation where
  | tick (elapsed : Nat)
  | finalizeTrip (finished : Trip)
  | generateCycle (isManual : Bool)
  | generateBillingCycles
  | expireTrials
  | autoMarkOverdue
  | auditDailyPaygUsage
  | recordPayment (cycleId : Nat) (dto : RecordBillingPaymentDto)
  | approveBillingPayment (cycleId : Nat) (amount : Option Int) (method : PaymentMethod)
    (reference : Option String)
  | confirmPayment (transactionId : Nat) (financialTransactionId : String)
  | voidCycle (cycleId : Nat)

/-- The state after an operation. -/
def operate (state : BillingState) : Operation → BillingState
  | .tick elapsed => { state with now := state.now + elapsed }
  | .finalizeTrip finished => { state with usage := finalizeTrip state.usage finished }
  | .generateCycle isManual => generateQuietly state isManual
  | .generateBillingCycles => generateBillingCycles state
  | .expireTrials => expireTrials state
  | .autoMarkOverdue => autoMarkOverdue state
  | .auditDailyPaygUsage => auditDailyPaygUsage state
  | .recordPayment cycleId dto => unlessRefused state (recordPayment state cycleId dto)
  | .approveBillingPayment cycleId amount method reference =>
    unlessRefused state (approveBillingPayment state cycleId amount method reference)
  | .confirmPayment transactionId financialTransactionId =>
    confirmPayment state transactionId financialTransactionId
  | .voidCycle cycleId => unlessRefused state (voidCycle state cycleId)

/-- The state after some operations. -/
def operateAll (start : BillingState) (operations : List Operation) : BillingState :=
  operations.foldl operate start

/-- The distinct bike-days of a cycle's period. -/
def activeBikeDays (fleet : Fleet) (tables : UsageTables) (cycle : BillingCycle) : Finset BikeDay :=
  ((tripsInWindow fleet.id tables.trips cycle.periodStart cycle.periodEnd).map bikeDayOf).toFinset

/-- Every trip of the period is on a bike of the fleet and on one of the first 367
days. -/
def WithinAudit (fleet : Fleet) (tables : UsageTables) (cycle : BillingCycle) : Prop :=
  ∀ trip ∈ tripsInWindow fleet.id tables.trips cycle.periodStart cycle.periodEnd,
    trip.bikeId ∈ bikeIds fleet.id tables.bikes ∧
      toKigaliDate trip.startTs < toKigaliDate cycle.periodStart + 367

/-- Within a year an invoice charges for the days with trips. -/
theorem chargedBy_of_within {fleet : Fleet} {tables : UsageTables} {cycle : BillingCycle}
    (within : WithinAudit fleet tables cycle) :
    chargedBy fleet tables cycle = activeBikeDays fleet tables cycle := by
  ext bikeDay
  rw [mem_chargedBy, activeBikeDays, List.mem_toFinset, List.mem_map]
  constructor
  · rintro ⟨trip, ⟨stored, inside, _⟩, same⟩
    exact ⟨trip, mem_tripsInWindow.mpr ⟨stored, inside⟩, same⟩
  · rintro ⟨trip, member, same⟩
    obtain ⟨stored, inside⟩ := mem_tripsInWindow.mp member
    exact ⟨trip, ⟨stored, inside, within trip member⟩, same⟩

/-! What an operation leaves alone. -/

/-- The columns of a cycle that only its reconciliation changes. -/
def billOf (cycle : BillingCycle) : Int × Int × Int :=
  (cycle.periodStart, cycle.periodEnd, cycle.subtotal)

/-- The fleet's rate, the usage, and the bills of the existing cycles are kept. -/
structure KeepsBills (before after : BillingState) : Prop where
  fleetId : after.fleet.id = before.fleet.id
  rate : paygRate after.fleet = paygRate before.fleet
  payg : isPayg after.fleet = isPayg before.fleet
  usage : after.usage = before.usage
  bills : ∀ (cycleId : Nat) (cycle : BillingCycle), before.cycles[cycleId]? = some cycle →
    ∃ row : BillingCycle, after.cycles[cycleId]? = some row ∧ billOf row = billOf cycle

variable {state middle before after : BillingState}

/-- Nothing keeps all bills. -/
theorem KeepsBills.refl (state : BillingState) : KeepsBills state state :=
  ⟨rfl, rfl, rfl, rfl, fun _ cycle found => ⟨cycle, found, rfl⟩⟩

/-- What keeps bills twice keeps them. -/
theorem KeepsBills.trans (first : KeepsBills before middle) (second : KeepsBills middle after) :
    KeepsBills before after := by
  refine ⟨second.fleetId.trans first.fleetId, second.rate.trans first.rate,
    second.payg.trans first.payg, second.usage.trans first.usage, ?_⟩
  intro cycleId cycle found
  obtain ⟨row, later, same⟩ := first.bills cycleId cycle found
  obtain ⟨last, latest, equal⟩ := second.bills cycleId row later
  exact ⟨last, latest, equal.trans same⟩

/-- Changes of the clock and of tables other than the cycles. -/
theorem KeepsBills.of_same (fleet : after.fleet = before.fleet) (usage : after.usage = before.usage)
    (cycles : after.cycles = before.cycles) : KeepsBills before after := by
  refine ⟨by rw [fleet], by rw [fleet], by rw [fleet], usage, ?_⟩
  intro cycleId cycle found
  exact ⟨cycle, by rw [cycles, found], rfl⟩

/-- A change that leaves the bill of its invoice keeps bills. -/
theorem keepsBills_updateCycle (cycleId : Nat) {change : BillingCycle → BillingCycle}
    (kept : ∀ row, billOf (change row) = billOf row) :
    KeepsBills state (state.updateCycle cycleId change) := by
  refine ⟨rfl, rfl, rfl, rfl, ?_⟩
  intro other cycle found
  by_cases same : cycleId = other
  · subst same
    exact ⟨change cycle, by simp [BillingState.updateCycle, found], kept cycle⟩
  · exact ⟨cycle, by simp [BillingState.updateCycle, same, found], rfl⟩

/-- A change of all invoices that leaves their bills keeps bills. -/
theorem keepsBills_map {change : BillingCycle → BillingCycle}
    (kept : ∀ row, billOf (change row) = billOf row) :
    KeepsBills state { state with cycles := state.cycles.map change } := by
  refine ⟨rfl, rfl, rfl, rfl, ?_⟩
  intro cycleId cycle found
  exact ⟨change cycle, by simp [found], kept cycle⟩

/-- The status of the fleet keeps bills. -/
theorem keepsBills_setSubscriptionStatus (status : FleetSubscriptionStatus) :
    KeepsBills state (state.setSubscriptionStatus status) :=
  ⟨rfl, rfl, rfl, rfl, fun _ cycle found => ⟨cycle, found, rfl⟩⟩

/-- A payment keeps bills. -/
theorem keepsBills_createPayment (payment : BillingPayment) :
    KeepsBills state (state.createPayment payment) := .of_same rfl rfl rfl

/-- Cancelled transfers keep bills. -/
theorem keepsBills_cancelPending (cycleId : Nat) :
    KeepsBills state (cancelPending state cycleId) := .of_same rfl rfl rfl

/-- A new invoice keeps those that are there. -/
theorem keepsBills_insertCycle {cycle : BillingCycle} (inserted : insertCycle state cycle = .ok after) :
    KeepsBills state after := by
  unfold insertCycle at inserted
  split at inserted
  · cases inserted
  · obtain rfl := Except.ok.inj inserted
    refine ⟨rfl, rfl, rfl, rfl, ?_⟩
    intro cycleId row found
    have stored := (List.getElem?_eq_some_iff.mp found).1
    exact ⟨row, by rw [List.getElem?_append_left stored, found], rfl⟩

/-- Generating an invoice keeps those that are there. -/
theorem keepsBills_generateQuietly (isManual : Bool) :
    KeepsBills state (generateQuietly state isManual) := by
  unfold generateQuietly
  split
  · rename_i next generated
    unfold generateCycleForFleet at generated
    simp only at generated
    split at generated
    · cases generated
    · exact keepsBills_insertCycle generated
  · exact .refl state

/-- Restoring a fleet keeps bills. -/
theorem keepsBills_restoreFleet : KeepsBills state (restoreFleet state) := by
  unfold restoreFleet
  split
  · exact .refl state
  · exact keepsBills_setSubscriptionStatus .ACTIVE

/-- A settlement keeps bills. -/
theorem keepsBills_afterSettlement : KeepsBills state (afterSettlement state) :=
  keepsBills_restoreFleet.trans (keepsBills_generateQuietly true)

/-- A payment that is written keeps bills. -/
theorem keepsBills_writePayment (cycleId : Nat) (cycle : BillingCycle) (newTotalPaid paidAt : Int) :
    KeepsBills state (writePayment state cycleId cycle newTotalPaid paidAt) :=
  keepsBills_updateCycle cycleId fun _ => rfl

/-- What is refused keeps bills. -/
theorem keepsBills_unlessRefused {result : Except BillingError BillingState}
    (kept : ∀ next, result = .ok next → KeepsBills state next) :
    KeepsBills state (unlessRefused state result) := by
  cases result with
  | ok next => exact kept next rfl
  | error refusal => exact .refl state

/-- A recorded payment keeps bills. -/
theorem keepsBills_recordPayment {cycleId : Nat} {dto : RecordBillingPaymentDto}
    (recorded : recordPayment state cycleId dto = .ok after) : KeepsBills state after := by
  unfold recordPayment at recorded
  split at recorded
  · cases recorded
  · rename_i cycle found
    split at recorded
    · cases recorded
    · have paid : KeepsBills state (writePayment
          (state.createPayment (manualPayment state.now cycleId dto)) cycleId cycle
          (cycle.totalPaid + dto.amount) (dto.paidAt.getD state.now)) :=
        (keepsBills_createPayment _).trans (keepsBills_writePayment _ _ _ _)
      simp only at recorded
      split at recorded
      · obtain rfl := Except.ok.inj recorded
        exact (paid.trans (keepsBills_cancelPending cycleId)).trans keepsBills_afterSettlement
      · obtain rfl := Except.ok.inj recorded
        exact paid

/-- An approval keeps bills. -/
theorem keepsBills_approve {cycleId : Nat} {amount : Option Int} {method : PaymentMethod}
    {reference : Option String}
    (approved : approveBillingPayment state cycleId amount method reference = .ok after) :
    KeepsBills state after := by
  unfold approveBillingPayment at approved
  split at approved
  · cases approved
  · rename_i cycle found
    obtain rfl := Except.ok.inj approved
    have paid : KeepsBills state ((state.createPayment
        ⟨cycleId, amount.getD (max 0 (cycle.totalDue - cycle.totalPaid)), method, reference,
          state.now, none⟩).updateCycle cycleId fun row =>
        { row with
          totalPaid := cycle.totalPaid + amount.getD (max 0 (cycle.totalDue - cycle.totalPaid))
          status := paymentStatus
            (cycle.totalPaid + amount.getD (max 0 (cycle.totalDue - cycle.totalPaid)))
            cycle.totalDue }) := by
      apply (keepsBills_createPayment _).trans
      apply keepsBills_updateCycle
      intro row
      rfl
    split
    · exact paid.trans (keepsBills_setSubscriptionStatus .ACTIVE)
    · exact paid

/-- A credited transfer keeps bills. -/
theorem keepsBills_creditCycle (transactionId : Nat) (amount : Int) (cycleId : Nat)
    (cycle : BillingCycle) (financialTransactionId : String) :
    KeepsBills state
      (creditCycle state transactionId amount cycleId cycle financialTransactionId) := by
  unfold creditCycle
  split
  · exact .refl state
  · have paid : KeepsBills state (writePayment (state.createPayment
        ⟨cycleId, amount, .MOBILE_MONEY, some financialTransactionId, state.now,
          some transactionId⟩) cycleId cycle (min cycle.totalDue (cycle.totalPaid + amount))
          state.now) :=
      (keepsBills_createPayment _).trans (keepsBills_writePayment _ _ _ _)
    simp only
    split
    · exact paid.trans keepsBills_afterSettlement
    · exact paid

/-- A confirmed transfer keeps bills. -/
theorem keepsBills_confirmed (transactionId : Nat) (transaction : MomoTransaction)
    (cycle : Option BillingCycle) (financialTransactionId : String) :
    KeepsBills state
      (confirmed state transactionId transaction cycle financialTransactionId) := by
  have marked : KeepsBills state
      (state.updateTransaction transactionId (succeeded state.now financialTransactionId)) :=
    .of_same rfl rfl rfl
  unfold confirmed
  simp only
  split
  · split
    · exact (marked.trans (keepsBills_creditCycle _ _ _ _ _)).trans (.of_same rfl rfl rfl)
    · exact marked.trans (.of_same rfl rfl rfl)
  · split
    · exact marked.trans (keepsBills_creditCycle _ _ _ _ _)
    · exact marked

/-- Voiding an invoice keeps bills. -/
theorem keepsBills_voidCycle {cycleId : Nat} (voided : voidCycle state cycleId = .ok after) :
    KeepsBills state after := by
  unfold voidCycle at voided
  split at voided
  · cases voided
  · split at voided
    · cases voided
    · obtain rfl := Except.ok.inj voided
      exact keepsBills_updateCycle cycleId fun _ => rfl

/-- The job for new invoices keeps bills. -/
theorem keepsBills_generateBillingCycles : KeepsBills state (generateBillingCycles state) := by
  unfold generateBillingCycles
  split
  · split
    · exact keepsBills_generateQuietly false
    · split
      · exact keepsBills_generateQuietly false
      · exact .refl state
  · exact .refl state

/-- The job for trials keeps bills. -/
theorem keepsBills_expireTrials : KeepsBills state (expireTrials state) := by
  unfold expireTrials
  split
  · have ended : KeepsBills state
        { state with fleet := { state.fleet with trialEndsAt := none } } :=
      ⟨rfl, rfl, rfl, rfl, fun _ cycle found => ⟨cycle, found, rfl⟩⟩
    exact ended.trans (keepsBills_generateQuietly false)
  · exact .refl state

/-- Healing a fleet keeps bills. -/
theorem keepsBills_healFleet (gracePeriodDays : Nat) :
    KeepsBills state (healFleet state gracePeriodDays) := by
  have healed : KeepsBills state
      { state with cycles := state.cycles.map (healStatus state.now gracePeriodDays) } := by
    apply keepsBills_map
    intro row
    unfold healStatus
    split
    · rfl
    · rfl
  unfold healFleet
  split
  · simp only
    split
    · exact healed
    · exact healed.trans (keepsBills_setSubscriptionStatus .ACTIVE)
  · exact .refl state

/-- The job for overdue invoices keeps bills. -/
theorem keepsBills_autoMarkOverdue : KeepsBills state (autoMarkOverdue state) := by
  have due : KeepsBills state
      { state with config := some (getConfig state), cycles := state.cycles.map healDueDate } := by
    refine KeepsBills.trans (keepsBills_map ?_) (.of_same rfl rfl rfl)
    intro row
    unfold healDueDate
    split
    · rfl
    · rfl
  have healed := due.trans (keepsBills_healFleet (getConfig state).gracePeriodDays)
  have unchanged : ∀ row,
      billOf (markOverdue state.now (getConfig state).gracePeriodDays row) = billOf row := by
    intro row
    unfold markOverdue
    split
    · rfl
    · rfl
  have marked := healed.trans (keepsBills_map unchanged)
  unfold autoMarkOverdue
  simp only
  split
  · exact marked.trans (keepsBills_setSubscriptionStatus .PAST_DUE)
  · exact marked

/-! What a reconciliation does. -/

/-- The cycle is stored, and its subtotal is the rate times its bike-days. -/
def Billed (state : BillingState) (cycleId : Nat) : Prop :=
  ∃ row, state.cycles[cycleId]? = some row ∧ WithinAudit state.fleet state.usage row ∧
    row.subtotal = (activeBikeDays state.fleet state.usage row).card * paygRate state.fleet

/-- The cycle is one that the daily job brings up to date. -/
def Reconcilable (state : BillingState) (cycleId : Nat) : Prop :=
  isPayg state.fleet = true ∧ ∃ row, state.cycles[cycleId]? = some row ∧ isOpen row = true ∧
    WithinAudit state.fleet state.usage row

/-- A reconciliation leaves the fleet. -/
theorem reconcile_fleet (cycleId : Nat) : (reconcilePaygCycle state cycleId).fleet = state.fleet := by
  unfold reconcilePaygCycle
  split
  · rfl
  · split
    · rfl
    · rfl

/-- A reconciliation leaves the trips. -/
theorem reconcile_usage (cycleId : Nat) : (reconcilePaygCycle state cycleId).usage = state.usage := by
  unfold reconcilePaygCycle
  split
  · rfl
  · split
    · rfl
    · rfl

/-- A row after a reconciliation is the row before, or the reconciled one. -/
theorem reconcile_row (reconciledId : Nat) {cycleId : Nat} {cycle : BillingCycle}
    (found : state.cycles[cycleId]? = some cycle) :
    (reconcilePaygCycle state reconciledId).cycles[cycleId]? = some cycle ∨
      (reconcilePaygCycle state reconciledId).cycles[cycleId]? = some (reconciled state cycle) := by
  unfold reconcilePaygCycle
  split
  · exact Or.inl found
  · rename_i other stored
    split
    · exact Or.inl found
    · by_cases same : reconciledId = cycleId
      · subst same
        obtain rfl := Option.some.inj (stored.symm.trans found)
        exact Or.inr (by simp [BillingState.updateCycle, found])
      · exact Or.inl (by simp [BillingState.updateCycle, same, found])

/-- A reconciled invoice charges for the days with trips. -/
theorem reconciled_subtotal {cycle : BillingCycle}
    (within : WithinAudit state.fleet state.usage cycle) :
    (reconciled state cycle).subtotal =
      (activeBikeDays state.fleet state.usage cycle).card * paygRate state.fleet := by
  rw [← chargedBy_of_within within]
  exact totalPaygSubtotalRwf_card cycle

/-- Whatever is reconciled, a billed cycle stays billed. -/
theorem billed_reconcile (reconciledId : Nat) {cycleId : Nat} (billed : Billed state cycleId) :
    Billed (reconcilePaygCycle state reconciledId) cycleId := by
  obtain ⟨cycle, found, within, subtotal⟩ := billed
  rw [Billed, reconcile_fleet, reconcile_usage]
  cases reconcile_row reconciledId found with
  | inl same => exact ⟨cycle, same, within, subtotal⟩
  | inr changed => exact ⟨_, changed, within, reconciled_subtotal within⟩

/-- A reconciliation leaves the others possible. -/
theorem reconcilable_reconcile (reconciledId : Nat) {cycleId : Nat}
    (ready : Reconcilable state cycleId) :
    Reconcilable (reconcilePaygCycle state reconciledId) cycleId := by
  obtain ⟨payg, cycle, found, opened, within⟩ := ready
  rw [Reconcilable, reconcile_fleet, reconcile_usage]
  cases reconcile_row reconciledId found with
  | inl same => exact ⟨payg, cycle, same, opened, within⟩
  | inr changed => exact ⟨payg, _, changed, opened, within⟩

/-- A reconciled invoice bills its days. -/
theorem billed_reconciled {cycleId : Nat} (ready : Reconcilable state cycleId) :
    Billed (reconcilePaygCycle state cycleId) cycleId := by
  obtain ⟨payg, cycle, found, opened, within⟩ := ready
  have updates : ¬ (cycle.status = .PAID ∨ cycle.status = .VOID ∨ isPayg state.fleet = false) := by
    intro skipped
    cases of_decide_eq_true opened with
    | inl pending => simp [pending, payg] at skipped
    | inr partly => simp [partly, payg] at skipped
  rw [Billed, reconcile_fleet, reconcile_usage]
  refine ⟨reconciled state cycle, ?_, within, reconciled_subtotal within⟩
  simp [reconcilePaygCycle, found, updates, BillingState.updateCycle]

/-- Reconciliations keep what is billed. -/
theorem billed_foldl_kept (cycleIds : List Nat) {cycleId : Nat} (billed : Billed state cycleId) :
    Billed (cycleIds.foldl reconcilePaygCycle state) cycleId := by
  induction cycleIds generalizing state with
  | nil => exact billed
  | cons other cycleIds inductionHypothesis =>
    exact inductionHypothesis (billed_reconcile other billed)

/-- By induction on the cycles that the job visits: once it has come to the cycle,
the cycle is billed, and before that the cycle stays reconcilable. -/
theorem billed_foldl {cycleIds : List Nat} {cycleId : Nat} (visited : cycleId ∈ cycleIds)
    (ready : Reconcilable state cycleId) :
    Billed (cycleIds.foldl reconcilePaygCycle state) cycleId := by
  induction cycleIds generalizing state with
  | nil => cases visited
  | cons other cycleIds inductionHypothesis =>
    cases visited with
    | head => exact billed_foldl_kept cycleIds (billed_reconciled ready)
    | tail _ later => exact inductionHypothesis later (reconcilable_reconcile other ready)

/-- An open invoice is visited by the audit. -/
theorem mem_openCycles {cycles : List BillingCycle} {cycleId : Nat} {cycle : BillingCycle}
    (found : cycles[cycleId]? = some cycle) (opened : isOpen cycle = true) :
    cycleId ∈ openCycles cycles := by
  have stored := (List.getElem?_eq_some_iff.mp found).1
  rw [openCycles, List.mem_filter, List.mem_range, found]
  exact ⟨stored, opened⟩

/-- After the audit an open invoice bills its days. -/
theorem billed_audit {cycleId : Nat} {cycle : BillingCycle}
    (found : state.cycles[cycleId]? = some cycle) (opened : isOpen cycle = true)
    (active : isReconciled state.fleet = true)
    (within : WithinAudit state.fleet state.usage cycle) :
    Billed (auditDailyPaygUsage state) cycleId := by
  have payg : isPayg state.fleet = true := by
    have mode := (of_decide_eq_true active).1
    simp [isPayg, mode]
  rw [auditDailyPaygUsage, if_pos active]
  exact billed_foldl (mem_openCycles found opened) ⟨payg, cycle, found, opened, within⟩

/-! Runs. -/

/-- The step adds no trip of the cycle's period and removes none. -/
def TripsKept (cycleId : Nat) (state : BillingState) (_ : Operation) (next : BillingState) : Prop :=
  ∀ row, state.cycles[cycleId]? = some row →
    tripsInWindow next.fleet.id next.usage.trips row.periodStart row.periodEnd =
      tripsInWindow state.fleet.id state.usage.trips row.periodStart row.periodEnd

/-- What keeps bills and trips keeps what is billed. -/
theorem billed_kept {cycleId : Nat} (kept : KeepsBills before after)
    (billed : Billed before cycleId) : Billed after cycleId := by
  obtain ⟨cycle, found, within, subtotal⟩ := billed
  obtain ⟨row, later, same⟩ := kept.bills cycleId cycle found
  obtain ⟨start, rest⟩ := Prod.mk.inj same
  obtain ⟨finish, amount⟩ := Prod.mk.inj rest
  refine ⟨row, later, ?_, ?_⟩
  · rw [WithinAudit, kept.fleetId, kept.usage, start, finish]
    exact within
  · rw [activeBikeDays, kept.fleetId, kept.usage, kept.rate, start, finish, amount]
    exact subtotal

/-- A trip changes no bike. -/
theorem finalizeTrip_bikes (tables : UsageTables) (finished : Trip) :
    (finalizeTrip tables finished).bikes = tables.bikes := by
  unfold finalizeTrip
  simp only
  split
  · rfl
  · rfl

/-- What is billed stays so while its trips are kept. -/
theorem billed_operate (operation : Operation) {cycleId : Nat}
    (kept : TripsKept cycleId state operation (operate state operation))
    (billed : Billed state cycleId) : Billed (operate state operation) cycleId := by
  cases operation with
  | tick elapsed => exact billed_kept (.of_same rfl rfl rfl) billed
  | finalizeTrip finished =>
    obtain ⟨cycle, found, within, subtotal⟩ := billed
    have same := kept cycle found
    refine ⟨cycle, found, ?_, ?_⟩
    · intro trip member
      rw [same] at member
      have inside := within trip member
      rw [← finalizeTrip_bikes state.usage finished] at inside
      exact inside
    · rw [activeBikeDays, same]
      exact subtotal
  | generateCycle isManual => exact billed_kept (keepsBills_generateQuietly isManual) billed
  | generateBillingCycles => exact billed_kept keepsBills_generateBillingCycles billed
  | expireTrials => exact billed_kept keepsBills_expireTrials billed
  | autoMarkOverdue => exact billed_kept keepsBills_autoMarkOverdue billed
  | auditDailyPaygUsage =>
    rw [operate, auditDailyPaygUsage]
    split
    · exact billed_foldl_kept _ billed
    · exact billed
  | recordPayment other dto =>
    apply billed_kept ?_ billed
    apply keepsBills_unlessRefused
    intro next recorded
    exact keepsBills_recordPayment recorded
  | approveBillingPayment other amount method reference =>
    apply billed_kept ?_ billed
    apply keepsBills_unlessRefused
    intro next approved
    exact keepsBills_approve approved
  | confirmPayment transactionId financialTransactionId =>
    apply billed_kept ?_ billed
    rw [operate, confirmPayment]
    split
    · exact .refl state
    · exact keepsBills_confirmed _ _ _ _
  | voidCycle other =>
    apply billed_kept ?_ billed
    apply keepsBills_unlessRefused
    intro next voided
    exact keepsBills_voidCycle voided

/-- Once the daily job has looked at a cycle, the cycle's subtotal is the rate times
the distinct bike-days of its period, in every later state up to which no trip of
the period is added or removed. -/
theorem reconciled_cycle_fully_billed (start : BillingState) (before after : List Operation)
    (cycleId : Nat) (cycle : BillingCycle)
    (found : (operateAll start before).cycles[cycleId]? = some cycle)
    (opened : isOpen cycle = true)
    (active : isReconciled (operateAll start before).fleet = true)
    (within : WithinAudit (operateAll start before).fleet (operateAll start before).usage cycle)
    (kept : Along (total operate) (TripsKept cycleId)
      (auditDailyPaygUsage (operateAll start before)) after) :
    Billed (operateAll start (before ++ .auditDailyPaygUsage :: after)) cycleId := by
  rw [operateAll, List.foldl_append, List.foldl_cons]
  have preserved : ∀ state operation next, Billed state cycleId →
      TripsKept cycleId state operation next → total operate state operation = some next →
      Billed next cycleId := by
    intro state operation next billed same moved
    obtain rfl := Option.some.inj moved
    exact billed_operate operation same billed
  exact invariant_reached (Billed · cycleId) preserved (billed_audit found opened active within) kept
    (run_total operate _ after)

/-- A check that a step leaves all trips alone. -/
def tripsUnchanged (state : BillingState) (_ : Operation) (next : BillingState) : Bool :=
  decide (next.fleet.id = state.fleet.id ∧ next.usage.trips = state.usage.trips)

/-- The check tells that the trips of an invoice were kept. -/
theorem tripsUnchanged_sound (cycleId : Nat) (state : BillingState) (operation : Operation)
    (next : BillingState) (checked : tripsUnchanged state operation next = true) :
    TripsKept cycleId state operation next := by
  intro row _
  obtain ⟨fleet, trips⟩ := of_decide_eq_true checked
  rw [fleet, trips]

/-- A payment in cash of one day, and of two. -/
def oneDay : RecordBillingPaymentDto := ⟨350, by decide, .CASH, none, none⟩

/-- A payment of two days. -/
def twoDays : RecordBillingPaymentDto := ⟨700, by decide, .CASH, none, none⟩

/-- An invoice that is paid after its period, with two days of trips. -/
theorem reconciled_cycle_fully_billed_paid_late :
    Billed (operateAll unbilledState
      ([.generateCycle true, .finalizeTrip (tripAt 1772442000000),
        .finalizeTrip (tripAt 1772528400000), .tick 691200000] ++ .auditDailyPaygUsage ::
        [.recordPayment 0 twoDays, .autoMarkOverdue])) 0 :=
  reconciled_cycle_fully_billed unbilledState
    [.generateCycle true, .finalizeTrip (tripAt 1772442000000),
      .finalizeTrip (tripAt 1772528400000), .tick 691200000]
    [.recordPayment 0 twoDays, .autoMarkOverdue] 0 defaultCycle (by decide +kernel)
    (by decide) (by decide +kernel) (by unfold WithinAudit; decide +kernel)
    (along_of_check (tripsUnchanged_sound 0) (by decide +kernel))

/-- An invoice that is paid on its first day is not brought up to date any more. -/
theorem paid_early_billed_in_part :
    ¬ ∀ (start reached : BillingState) (operations : List Operation), start.cycles = [] →
      isPayg start.fleet = true →
      operateAll start (operations ++ [.auditDailyPaygUsage]) = reached →
      ∀ row ∈ reached.cycles, row.periodEnd ≤ reached.now → row.status ≠ .VOID →
        row.subtotal =
          (activeBikeDays reached.fleet reached.usage row).card * paygRate reached.fleet := by
  intro always
  have claimed := always unbilledState _
    [.finalizeTrip (tripAt 1772438400000), .generateCycle true, .recordPayment 0 oneDay,
      .finalizeTrip (tripAt 1772524800000), .tick 691200000] rfl (by decide) rfl
  revert claimed
  decide +kernel

end EmotoFleet.Billing
