import EmotoFleet.Billing.Generation
import EmotoFleet.Billing.PaygBilling

/-!
# What each operation does to the invoices

The effect of an operation on the tables is said once, row by row: what becomes of
a stored invoice, which invoices are added, and which payments are created. What
holds of all invoices over whole runs is derived from these three.

The daily job reconciles the open invoices; a reconciliation of a single one is an
operation here as well.
-/

namespace EmotoFleet.Billing

variable {state next : BillingState} {row : BillingCycle}

/-- The operations of the service, and the reconciliation of one invoice. -/
inductive CycleOperation where
  | service (operation : Operation)
  | reconcilePaygCycle (cycleId : Nat)

/-- One operation on the invoices. -/
def operateCycle (state : BillingState) : CycleOperation → BillingState
  | .service operation => operate state operation
  | .reconcilePaygCycle cycleId => reconcilePaygCycle state cycleId

/-! The row after each of them -/

/-- The row after a payment by the fleet. -/
def paidRow (row : BillingCycle) (newTotalPaid paidAt : Int) : BillingCycle :=
  { row with
    totalPaid := newTotalPaid
    status := paymentStatus newTotalPaid row.totalDue
    paidAt := if paymentStatus newTotalPaid row.totalDue = .PAID then some paidAt else none }

/-- The amount that the headquarters approve where they name none. -/
def approvedAmount (row : BillingCycle) (amount : Option Int) : Int :=
  amount.getD (max 0 (row.totalDue - row.totalPaid))

/-- The row after an approval by the headquarters. -/
def approvedRow (row : BillingCycle) (payAmount : Int) : BillingCycle :=
  { row with
    totalPaid := row.totalPaid + payAmount
    status := paymentStatus (row.totalPaid + payAmount) row.totalDue }

/-- An invoice after a reconciliation. -/
def reconciledRow (state : BillingState) (row : BillingCycle) : BillingCycle :=
  if row.status = .PAID ∨ row.status = .VOID ∨ isPayg state.fleet = false then row
  else reconciled state row

/-- The row after the job that marks overdue invoices. -/
def overdueRow (state : BillingState) (row : BillingCycle) : BillingCycle :=
  let gracePeriodDays := (getConfig state).gracePeriodDays
  let due := healDueDate row
  markOverdue state.now gracePeriodDays
    (if state.fleet.subscriptionStatus = .PAST_DUE then healStatus state.now gracePeriodDays due
    else due)

/-- The transaction pays for an invoice that can still be paid for. -/
def Credits (transaction : MomoTransaction) (cycleId : Nat) (row : BillingCycle) : Prop :=
  transaction.billingCycleId = some cycleId ∧ row.status ≠ .PAID

instance (transaction : MomoTransaction) (cycleId : Nat) (row : BillingCycle) :
    Decidable (Credits transaction cycleId row) := by
  unfold Credits
  infer_instance

/-- A manual payment of the invoice is accepted. -/
def Accepts (row : BillingCycle) (amount : Int) : Prop :=
  row.status ≠ .PAID ∧ amount ≤ row.totalDue - row.totalPaid

instance (row : BillingCycle) (amount : Int) : Decidable (Accepts row amount) := by
  unfold Accepts
  infer_instance

/-- A payment passes the checks exactly if the invoice accepts it. -/
theorem acceptPayment_ok {row : BillingCycle} {amount : Int} :
    acceptPayment row amount = .ok () ↔ Accepts row amount := by
  unfold acceptPayment Accepts
  by_cases paid : row.status = .PAID
  · simp [paid]
  · by_cases exceeds : row.totalDue - row.totalPaid < amount
    · simp [paid, exceeds]
    · simp [paid, exceeds, not_lt.mp exceeds]

/-- What becomes of a stored row. -/
def revise (state : BillingState) : CycleOperation → Nat → BillingCycle → BillingCycle
  | .service (.recordPayment paidId dto), cycleId, row =>
    if paidId = cycleId ∧ Accepts row dto.amount then
      paidRow row (row.totalPaid + dto.amount) (dto.paidAt.getD state.now)
    else row
  | .service (.approveBillingPayment paidId amount _ _), cycleId, row =>
    if paidId = cycleId then approvedRow row (approvedAmount row amount) else row
  | .service (.confirmPayment transactionId _), cycleId, row =>
    match state.momoTransactions[transactionId]? with
    | some transaction =>
      if Credits transaction cycleId row then
        paidRow row (min row.totalDue (row.totalPaid + transaction.amount)) state.now
      else row
    | none => row
  | .service (.voidCycle voidedId), cycleId, row =>
    if voidedId = cycleId ∧ row.status ≠ .PAID then { row with status := .VOID } else row
  | .service .autoMarkOverdue, _, row => overdueRow state row
  | .service .auditDailyPaygUsage, _, row =>
    if isReconciled state.fleet = true ∧ isOpen row = true then reconciledRow state row else row
  | .reconcilePaygCycle reconciledId, cycleId, row =>
    if reconciledId = cycleId then reconciledRow state row else row
  | .service _, _, row => row

/-! Which invoices are added -/

/-- The payment settles its invoice. -/
def Settles (state : BillingState) : CycleOperation → Prop
  | .service (.recordPayment cycleId dto) =>
    ∃ row, state.cycles[cycleId]? = some row ∧ Accepts row dto.amount ∧
      row.totalDue ≤ row.totalPaid + dto.amount
  | .service (.confirmPayment transactionId _) =>
    ∃ transaction cycleId row, state.momoTransactions[transactionId]? = some transaction ∧
      state.cycles[cycleId]? = some row ∧ Credits transaction cycleId row ∧
      row.totalDue ≤ row.totalPaid + transaction.amount
  | _ => False

/-- Generation that looks at the clock. -/
def IsAutomatic (operation : CycleOperation) : Prop :=
  operation = .service (.generateCycle false) ∨ operation = .service .generateBillingCycles ∨
    operation = .service .expireTrials

/-- The invoices that an operation adds: one after the last period when a payment
settles an invoice or somebody asks for it, and otherwise one whose period has
begun, or none. -/
inductive Added (state : BillingState) (operation : CycleOperation) : List BillingCycle → Prop where
  | none (unsettled : ¬ Settles state operation)
      (unasked : operation ≠ .service (.generateCycle true)) : Added state operation []
  | begun (middle : BillingState) (automatic : IsAutomatic operation)
      (cycles : middle.cycles = state.cycles) (period : (nextPeriod middle).1 ≤ state.now) :
      Added state operation [nextCycle middle]
  | asked (same : operation = .service (.generateCycle true)) :
      Added state operation [nextCycle state]
  | settled (middle : BillingState) (settles : Settles state operation)
      (period : nextPeriod middle = nextPeriod state) : Added state operation [nextCycle middle]

/-! One lemma for each operation -/

/-- What an operation leaves: the rows revised, and the added ones after them. -/
def Changes (state next : BillingState) (operation : CycleOperation) : Prop :=
  ∃ added, next.cycles = state.cycles.mapIdx (revise state operation) ++ added ∧
    Added state operation added

/-- Two changes that agree on the rows change the list alike. -/
theorem mapIdx_rows {cycles : List BillingCycle} {change other : Nat → BillingCycle → BillingCycle}
    (rows : ∀ cycleId row, cycles[cycleId]? = some row → change cycleId row = other cycleId row) :
    cycles.mapIdx change = cycles.mapIdx other := by
  apply List.ext_getElem?
  intro cycleId
  rw [List.getElem?_mapIdx, List.getElem?_mapIdx]
  cases found : cycles[cycleId]? with
  | none => rfl
  | some row => rw [Option.map_some, Option.map_some, rows cycleId row found]

/-- A change that keeps all rows keeps the list. -/
theorem mapIdx_kept {cycles : List BillingCycle} {change : Nat → BillingCycle → BillingCycle}
    (rows : ∀ cycleId row, cycles[cycleId]? = some row → change cycleId row = row) :
    cycles.mapIdx change = cycles := by
  rw [mapIdx_rows rows]
  apply List.ext_getElem?
  simp

/-- Changing one row as a change of all of them. -/
theorem modify_mapIdx (cycles : List BillingCycle) (changedId : Nat)
    (change : BillingCycle → BillingCycle) :
    cycles.modify changedId change =
      cycles.mapIdx fun cycleId row => if changedId = cycleId then change row else row := by
  apply List.ext_getElem?
  intro cycleId
  rw [List.getElem?_modify, List.getElem?_mapIdx]
  rfl

/-- Changing all rows alike as a change by position. -/
theorem map_mapIdx (cycles : List BillingCycle) (change : BillingCycle → BillingCycle) :
    cycles.map change = cycles.mapIdx fun _ row => change row := by
  apply List.ext_getElem?
  simp

/-- An operation that leaves the stored rows alone and adds an invoice at most. -/
theorem changes_kept {operation : CycleOperation}
    (kept : ∀ cycleId row, state.cycles[cycleId]? = some row →
      revise state operation cycleId row = row)
    {added : List BillingCycle} (cycles : next.cycles = state.cycles ++ added)
    (source : Added state operation added) : Changes state next operation := by
  refine ⟨added, ?_, source⟩
  rw [cycles, mapIdx_kept kept]

/-- An operation that leaves the stored rows alone and adds none. -/
theorem changes_none {operation : CycleOperation} (cycles : next.cycles = state.cycles)
    (kept : ∀ cycleId row, state.cycles[cycleId]? = some row →
      revise state operation cycleId row = row) (unsettled : ¬ Settles state operation)
    (unasked : operation ≠ .service (.generateCycle true)) : Changes state next operation :=
  changes_kept kept (by rw [cycles, List.append_nil]) (.none unsettled unasked)

/-- An operation that revises rows and adds none. -/
theorem changes_revised {operation : CycleOperation} {change : Nat → BillingCycle → BillingCycle}
    (cycles : next.cycles = state.cycles.mapIdx change)
    (rows : ∀ cycleId row, state.cycles[cycleId]? = some row →
      change cycleId row = revise state operation cycleId row)
    (unsettled : ¬ Settles state operation)
    (unasked : operation ≠ .service (.generateCycle true)) : Changes state next operation := by
  refine ⟨[], ?_, .none unsettled unasked⟩
  rw [cycles, mapIdx_rows rows, List.append_nil]

/-- Generation that looks at the clock revises no invoice and settles none. -/
theorem automatic_kept (state : BillingState) {operation : CycleOperation}
    (automatic : IsAutomatic operation) :
    (∀ cycleId row, revise state operation cycleId row = row) ∧ ¬ Settles state operation ∧
      operation ≠ .service (.generateCycle true) := by
  obtain rfl | rfl | rfl := automatic
  · exact ⟨fun _ _ => rfl, fun settles => settles, by simp⟩
  · exact ⟨fun _ _ => rfl, fun settles => settles, by simp⟩
  · exact ⟨fun _ _ => rfl, fun settles => settles, by simp⟩

/-- Generation that looks at the clock changes the state as it says. -/
theorem changes_automatic {middle : BillingState} {operation : CycleOperation}
    (automatic : IsAutomatic operation) (now : middle.now = state.now)
    (cycles : middle.cycles = state.cycles) :
    Changes state (generateQuietly middle false) operation := by
  obtain ⟨kept, unsettled, unasked⟩ := automatic_kept state automatic
  cases generateQuietly_automatic middle with
  | inl refused =>
    rw [refused.1]
    exact changes_none cycles (fun cycleId row _ => kept cycleId row) unsettled unasked
  | inr generated =>
    rw [generated.1]
    refine changes_kept (fun cycleId row _ => kept cycleId row) ?_
      (.begun middle automatic cycles (now ▸ generated.2))
    rw [withNextCycle, cycles]

/-- An invoice is paid when all that is due was paid. -/
theorem paymentStatus_paid {newTotalPaid totalDue : Int} :
    paymentStatus newTotalPaid totalDue = .PAID ↔ totalDue ≤ newTotalPaid := by
  unfold paymentStatus
  by_cases full : totalDue ≤ newTotalPaid
  · simp [full]
  · simp [full]

/-- A fleet is restored by one status or not at all. -/
theorem restoreFleet_cases (state : BillingState) :
    restoreFleet state = state ∨ restoreFleet state = state.setSubscriptionStatus .ACTIVE := by
  rw [restoreFleet]
  split
  · exact Or.inl rfl
  · exact Or.inr rfl

/-- Restoring a fleet leaves its invoices. -/
theorem restoreFleet_cycles (state : BillingState) : (restoreFleet state).cycles = state.cycles := by
  cases restoreFleet_cases state with
  | inl unpaid => rw [unpaid]
  | inr active =>
    rw [active]
    rfl

/-- Restoring a fleet leaves its next period. -/
theorem restoreFleet_period (state : BillingState) :
    nextPeriod (restoreFleet state) = nextPeriod state := by
  cases restoreFleet_cases state with
  | inl unpaid => rw [unpaid]
  | inr active =>
    rw [active]
    rfl

/-- A settlement appends the invoice of the next period. -/
theorem afterSettlement_cycles (state : BillingState) :
    (afterSettlement state).cycles = state.cycles ++ [nextCycle (restoreFleet state)] := by
  rw [afterSettlement, generateQuietly_manual, withNextCycle, restoreFleet_cycles]

/-- A payment changes the row of its invoice. -/
theorem writePayment_cycles (cycleId : Nat) (cycle : BillingCycle) (newTotalPaid paidAt : Int) :
    (writePayment state cycleId cycle newTotalPaid paidAt).cycles =
      state.cycles.mapIdx fun other row =>
        if cycleId = other then
          { row with
            totalPaid := newTotalPaid
            status := paymentStatus newTotalPaid cycle.totalDue
            paidAt := if paymentStatus newTotalPaid cycle.totalDue = .PAID then some paidAt
              else none }
        else row :=
  modify_mapIdx _ _ _

/-- A payment does not move the next period. -/
theorem writePayment_period (cycleId : Nat) (cycle : BillingCycle) (newTotalPaid paidAt : Int) :
    nextPeriod (writePayment state cycleId cycle newTotalPaid paidAt) = nextPeriod state := by
  refine nextPeriod_eq ?_ rfl rfl rfl
  rw [writePayment_cycles]
  apply List.ext_getElem?
  intro other
  rw [List.getElem?_map, List.getElem?_mapIdx, List.getElem?_map]
  cases state.cycles[other]? with
  | none => rfl
  | some row =>
    by_cases same : cycleId = other
    · simp [same, placeOf]
    · simp [same]

/-- The tables after an accepted manual payment, before what follows a settlement. -/
def recorded (state : BillingState) (cycleId : Nat) (row : BillingCycle)
    (dto : RecordBillingPaymentDto) : BillingState :=
  writePayment (state.createPayment (manualPayment state.now cycleId dto)) cycleId row
    (row.totalPaid + dto.amount) (dto.paidAt.getD state.now)

/-- A payment that is accepted is written to its invoice. -/
theorem recordPayment_accepted {cycleId : Nat} {dto : RecordBillingPaymentDto}
    (found : state.cycles[cycleId]? = some row) (accepted : Accepts row dto.amount) :
    recordPayment state cycleId dto =
      .ok (if row.totalDue ≤ row.totalPaid + dto.amount then
        afterSettlement (cancelPending (recorded state cycleId row dto) cycleId)
      else recorded state cycleId row dto) := by
  have checked := acceptPayment_ok.mpr accepted
  by_cases full : row.totalDue ≤ row.totalPaid + dto.amount
  · simp [recordPayment, found, checked, manualPayment, paymentStatus_paid, full, recorded]
  · simp [recordPayment, found, checked, manualPayment, paymentStatus_paid, full, recorded]

/-- A manual payment is accepted, or it leaves the tables as they are. -/
theorem recordPayment_cases (state : BillingState) (cycleId : Nat) (dto : RecordBillingPaymentDto) :
    (∃ row, state.cycles[cycleId]? = some row ∧ Accepts row dto.amount ∧
      unlessRefused state (recordPayment state cycleId dto) =
        if row.totalDue ≤ row.totalPaid + dto.amount then
          afterSettlement (cancelPending (recorded state cycleId row dto) cycleId)
        else recorded state cycleId row dto) ∨
      (∀ row, state.cycles[cycleId]? = some row → ¬ Accepts row dto.amount) ∧
        unlessRefused state (recordPayment state cycleId dto) = state := by
  cases found : state.cycles[cycleId]? with
  | none =>
    refine Or.inr ⟨fun row present => absurd present (by simp), ?_⟩
    simp [recordPayment, found, unlessRefused]
  | some row =>
    by_cases accepted : Accepts row dto.amount
    · refine Or.inl ⟨row, rfl, accepted, ?_⟩
      rw [recordPayment_accepted found accepted, unlessRefused]
    · have checked := mt acceptPayment_ok.mp accepted
      refine Or.inr ⟨?_, ?_⟩
      · intro other same
        obtain rfl := Option.some.inj same
        exact accepted
      · cases refusal : acceptPayment row dto.amount with
        | ok done => exact absurd refusal checked
        | error refused => simp [recordPayment, found, refusal, unlessRefused]

/-- An invoice that is missing is not one that is there. -/
theorem apart_of_absent {cycles : List BillingCycle} {cycleId other : Nat}
    (absent : cycles[cycleId]? = none) (present : cycles[other]? = some row) : cycleId ≠ other := by
  rintro rfl
  rw [absent] at present
  cases present

/-- A recorded payment changes the state as it says. -/
theorem changes_recordPayment (cycleId : Nat) (dto : RecordBillingPaymentDto) :
    Changes state (unlessRefused state (recordPayment state cycleId dto))
      (.service (.recordPayment cycleId dto)) := by
  obtain ⟨row, found, accepted, taken⟩ | ⟨refused, same⟩ := recordPayment_cases state cycleId dto
  · have paid : (recorded state cycleId row dto).cycles =
        state.cycles.mapIdx (revise state (.service (.recordPayment cycleId dto))) := by
      rw [recorded, writePayment_cycles]
      apply mapIdx_rows
      intro other stored present
      by_cases same : cycleId = other
      · subst same
        obtain rfl := Option.some.inj (found.symm.trans present)
        simp [revise, accepted, paidRow]
      · simp [revise, same]
    rw [taken]
    by_cases full : row.totalDue ≤ row.totalPaid + dto.amount
    · rw [if_pos full]
      refine ⟨_, ?_, .settled (restoreFleet (cancelPending (recorded state cycleId row dto) cycleId))
        ⟨row, found, accepted, full⟩ ?_⟩
      · rw [afterSettlement_cycles]
        exact congrArg (· ++ _) paid
      · rw [restoreFleet_period]
        exact writePayment_period _ _ _ _
    · rw [if_neg full]
      refine changes_revised paid (fun _ _ _ => rfl) ?_ (by simp)
      rintro ⟨other, present, _, enough⟩
      obtain rfl := Option.some.inj (found.symm.trans present)
      exact full enough
  · rw [same]
    refine changes_none rfl ?_ ?_ (by simp)
    · intro other row found
      by_cases same : cycleId = other
      · subst same
        simp [revise, refused row found]
      · simp [revise, same]
    · rintro ⟨row, found, accepted, _⟩
      exact refused row found accepted

/-- The tables after the approval of a stored invoice. -/
theorem approveBillingPayment_cases (state : BillingState) (cycleId : Nat) (amount : Option Int)
    (method : PaymentMethod) (reference : Option String) :
    (state.cycles[cycleId]? = none ∧
      unlessRefused state (approveBillingPayment state cycleId amount method reference) = state) ∨
      ∃ row status, state.cycles[cycleId]? = some row ∧
        unlessRefused state (approveBillingPayment state cycleId amount method reference) =
          ((state.createPayment ⟨cycleId, approvedAmount row amount, method, reference, state.now,
            none⟩).updateCycle cycleId fun stored =>
              { stored with
                totalPaid := row.totalPaid + approvedAmount row amount
                status := paymentStatus (row.totalPaid + approvedAmount row amount)
                  row.totalDue }).setSubscriptionStatus status := by
  cases found : state.cycles[cycleId]? with
  | none =>
    refine Or.inl ⟨rfl, ?_⟩
    simp [approveBillingPayment, found, unlessRefused]
  | some row =>
    right
    by_cases suspended : state.fleet.subscriptionStatus = .PAST_DUE
    · refine ⟨row, .ACTIVE, rfl, ?_⟩
      simp only [approveBillingPayment, found, suspended, if_true, unlessRefused]
      rfl
    · refine ⟨row, state.fleet.subscriptionStatus, rfl, ?_⟩
      simp only [approveBillingPayment, found, suspended, if_false, unlessRefused]
      rfl

/-- An approval changes the state as it says. -/
theorem changes_approve (cycleId : Nat) (amount : Option Int) (method : PaymentMethod)
    (reference : Option String) :
    Changes state (unlessRefused state (approveBillingPayment state cycleId amount method reference))
      (.service (.approveBillingPayment cycleId amount method reference)) := by
  obtain ⟨absent, same⟩ | ⟨row, status, found, approved⟩ :=
    approveBillingPayment_cases state cycleId amount method reference
  · rw [same]
    refine changes_none rfl ?_ (fun settles => settles) (by simp)
    intro other row present
    simp [revise, apart_of_absent absent present]
  · rw [approved]
    refine changes_revised (modify_mapIdx _ _ _) ?_ (fun settles => settles) (by simp)
    intro other stored present
    by_cases same : cycleId = other
    · subst same
      obtain rfl := Option.some.inj (found.symm.trans present)
      simp [revise, approvedRow]
    · simp [revise, same]

/-- The tables after the invoice's part of a confirmation, before what follows a
settlement. -/
def credited (state : BillingState) (transactionId : Nat) (amount : Int) (cycleId : Nat)
    (row : BillingCycle) (financialTransactionId : String) : BillingState :=
  writePayment (state.createPayment
    ⟨cycleId, amount, .MOBILE_MONEY, some financialTransactionId, state.now, some transactionId⟩)
    cycleId row (min row.totalDue (row.totalPaid + amount)) state.now

/-- A transfer is credited to an invoice that is not paid. -/
theorem creditCycle_unpaid (transactionId : Nat) (amount : Int) (cycleId : Nat)
    (financialTransactionId : String) (unpaid : row.status ≠ .PAID) :
    creditCycle state transactionId amount cycleId row financialTransactionId =
      if row.totalDue ≤ row.totalPaid + amount then
        afterSettlement (credited state transactionId amount cycleId row financialTransactionId)
      else credited state transactionId amount cycleId row financialTransactionId := by
  have capped : row.totalDue ≤ min row.totalDue (row.totalPaid + amount) ↔
      row.totalDue ≤ row.totalPaid + amount := by omega
  rw [creditCycle, if_neg unpaid]
  simp only [paymentStatus_paid, capped]
  rfl

/-- The transaction's row after a confirmation, and the rest as before. -/
def marked (state : BillingState) (transactionId : Nat) (financialTransactionId : String) :
    BillingState :=
  state.updateTransaction transactionId (succeeded state.now financialTransactionId)

/-- The invoice's part of a confirmation. -/
def invoicePart (state : BillingState) (transactionId : Nat) (transaction : MomoTransaction)
    (cycle : Option BillingCycle) (financialTransactionId : String) : BillingState :=
  match transaction.billingCycleId, cycle with
  | some cycleId, some cycle =>
    creditCycle (marked state transactionId financialTransactionId) transactionId transaction.amount
      cycleId cycle financialTransactionId
  | _, _ => marked state transactionId financialTransactionId

/-- The rider's part adds payments of riders only. -/
theorem confirmed_rider (transactionId : Nat) (transaction : MomoTransaction)
    (cycle : Option BillingCycle) (financialTransactionId : String) :
    ∃ riderPayments : List RiderPayment,
      confirmed state transactionId transaction cycle financialTransactionId =
        { invoicePart state transactionId transaction cycle financialTransactionId with
          riderPayments := riderPayments } := by
  unfold confirmed
  cases transaction.riderId with
  | none => exact ⟨_, rfl⟩
  | some riderId => exact ⟨_, rfl⟩

/-- A confirmed transfer is its part on the invoice, beside the payments of riders. -/
theorem confirmPayment_rider {transactionId : Nat} {transaction : MomoTransaction}
    (financialTransactionId : String)
    (found : state.momoTransactions[transactionId]? = some transaction) :
    ∃ riderPayments : List RiderPayment,
      confirmPayment state transactionId financialTransactionId =
        { invoicePart state transactionId transaction
            (transaction.billingCycleId.bind fun cycleId => state.cycles[cycleId]?)
            financialTransactionId with
          riderPayments := riderPayments } := by
  rw [confirmPayment, found]
  exact confirmed_rider _ _ _ _

/-- A confirmation that credits an invoice. -/
theorem invoicePart_credits {transactionId cycleId : Nat} {transaction : MomoTransaction}
    (financialTransactionId : String) (present : state.cycles[cycleId]? = some row)
    (credits : Credits transaction cycleId row) :
    invoicePart state transactionId transaction
        (transaction.billingCycleId.bind fun cycleId => state.cycles[cycleId]?)
        financialTransactionId =
      if row.totalDue ≤ row.totalPaid + transaction.amount then
        afterSettlement (credited (marked state transactionId financialTransactionId) transactionId
          transaction.amount cycleId row financialTransactionId)
      else credited (marked state transactionId financialTransactionId) transactionId
        transaction.amount cycleId row financialTransactionId := by
  rw [← creditCycle_unpaid _ _ _ _ credits.2]
  simp [invoicePart, credits.1, present]

/-- A confirmation that credits none. -/
theorem invoicePart_uncredited {transactionId : Nat} {transaction : MomoTransaction}
    (financialTransactionId : String)
    (unpaid : ∀ cycleId row, state.cycles[cycleId]? = some row →
      ¬ Credits transaction cycleId row) :
    invoicePart state transactionId transaction
        (transaction.billingCycleId.bind fun cycleId => state.cycles[cycleId]?)
        financialTransactionId = marked state transactionId financialTransactionId := by
  unfold invoicePart
  cases pays : transaction.billingCycleId with
  | none => rfl
  | some cycleId =>
    cases present : state.cycles[cycleId]? with
    | none => simp [present]
    | some row =>
      have paid : row.status = .PAID := by
        by_contra unsettled
        exact unpaid cycleId row present ⟨pays, unsettled⟩
      simp [present, creditCycle, paid]

/-- A confirmation credits the invoice of its transaction, or it writes no invoice and no
payment of one. -/
theorem confirmPayment_cases (state : BillingState) (transactionId : Nat)
    (financialTransactionId : String) :
    (∃ transaction cycleId row, ∃ riderPayments : List RiderPayment,
      state.momoTransactions[transactionId]? = some transaction ∧
      state.cycles[cycleId]? = some row ∧ Credits transaction cycleId row ∧
      confirmPayment state transactionId financialTransactionId =
        { (if row.totalDue ≤ row.totalPaid + transaction.amount then
            afterSettlement (credited (marked state transactionId financialTransactionId)
              transactionId transaction.amount cycleId row financialTransactionId)
          else credited (marked state transactionId financialTransactionId) transactionId
            transaction.amount cycleId row financialTransactionId) with
          riderPayments := riderPayments }) ∨
      (∀ transaction, state.momoTransactions[transactionId]? = some transaction →
        ∀ cycleId row, state.cycles[cycleId]? = some row → ¬ Credits transaction cycleId row) ∧
      ∃ (transactions : List MomoTransaction) (riderPayments : List RiderPayment),
        confirmPayment state transactionId financialTransactionId =
          { state with momoTransactions := transactions, riderPayments := riderPayments } := by
  cases found : state.momoTransactions[transactionId]? with
  | none =>
    refine Or.inr ⟨fun transaction same => absurd same (by simp), state.momoTransactions,
      state.riderPayments, ?_⟩
    rw [confirmPayment, found]
  | some transaction =>
    obtain ⟨riderPayments, same⟩ := confirmPayment_rider financialTransactionId found
    by_cases credited : ∃ cycleId row, state.cycles[cycleId]? = some row ∧
        Credits transaction cycleId row
    · obtain ⟨cycleId, row, present, credits⟩ := credited
      refine Or.inl ⟨transaction, cycleId, row, riderPayments, rfl, present, credits, ?_⟩
      rw [same, invoicePart_credits financialTransactionId present credits]
    · have uncredited : ∀ cycleId row, state.cycles[cycleId]? = some row →
          ¬ Credits transaction cycleId row :=
        fun cycleId row present credits => credited ⟨cycleId, row, present, credits⟩
      refine Or.inr ⟨?_, (marked state transactionId financialTransactionId).momoTransactions,
        riderPayments, ?_⟩
      · intro other known
        obtain rfl := Option.some.inj known
        exact uncredited
      · rw [same, invoicePart_uncredited financialTransactionId uncredited]
        rfl

/-- A confirmed transfer changes the state as it says. -/
theorem changes_confirmPayment (transactionId : Nat) (financialTransactionId : String) :
    Changes state (confirmPayment state transactionId financialTransactionId)
      (.service (.confirmPayment transactionId financialTransactionId)) := by
  obtain ⟨transaction, cycleId, row, riderPayments, found, present, credits, same⟩ |
    ⟨uncredited, transactions, riderPayments, same⟩ :=
      confirmPayment_cases state transactionId financialTransactionId
  · have paid : (credited (marked state transactionId financialTransactionId) transactionId
        transaction.amount cycleId row financialTransactionId).cycles = state.cycles.mapIdx
          (revise state (.service (.confirmPayment transactionId financialTransactionId))) := by
      rw [credited, writePayment_cycles]
      apply mapIdx_rows
      intro other stored kept
      by_cases one : cycleId = other
      · subst one
        obtain rfl := Option.some.inj (present.symm.trans kept)
        simp [revise, found, credits, paidRow, marked, BillingState.updateTransaction]
      · have apart : ¬ Credits transaction other stored := by
          rintro ⟨pays, _⟩
          exact one (Option.some.inj (credits.1.symm.trans pays))
        simp [revise, found, apart, one]
    rw [same]
    by_cases full : row.totalDue ≤ row.totalPaid + transaction.amount
    · rw [if_pos full]
      refine ⟨_, ?_, .settled (restoreFleet (credited
        (marked state transactionId financialTransactionId) transactionId transaction.amount
          cycleId row financialTransactionId))
        ⟨transaction, cycleId, row, found, present, credits, full⟩ ?_⟩
      · exact (afterSettlement_cycles _).trans (congrArg (· ++ _) paid)
      · rw [restoreFleet_period]
        exact writePayment_period _ _ _ _
    · rw [if_neg full]
      refine changes_revised paid (fun _ _ _ => rfl) ?_ (by simp)
      rintro ⟨other, paidId, stored, same, kept, credited, enough⟩
      obtain rfl := Option.some.inj (found.symm.trans same)
      obtain rfl := Option.some.inj (credits.1.symm.trans credited.1)
      obtain rfl := Option.some.inj (present.symm.trans kept)
      exact full enough
  · rw [same]
    refine changes_none rfl ?_ ?_ (by simp)
    · intro cycleId row present
      cases found : state.momoTransactions[transactionId]? with
      | none => simp [revise, found]
      | some transaction => simp [revise, found, uncredited transaction found cycleId row present]
    · rintro ⟨transaction, cycleId, row, found, present, credits, _⟩
      exact uncredited transaction found cycleId row present credits

/-- An invoice that is not paid is voided, and else nothing changes. -/
theorem voidCycle_cases (state : BillingState) (cycleId : Nat) :
    (∃ row, state.cycles[cycleId]? = some row ∧ row.status ≠ .PAID ∧
      unlessRefused state (voidCycle state cycleId) =
        state.updateCycle cycleId fun stored => { stored with status := .VOID }) ∨
      (∀ row, state.cycles[cycleId]? = some row → row.status = .PAID) ∧
        unlessRefused state (voidCycle state cycleId) = state := by
  cases found : state.cycles[cycleId]? with
  | none =>
    refine Or.inr ⟨fun row present => absurd present (by simp), ?_⟩
    simp [voidCycle, found, unlessRefused]
  | some row =>
    by_cases paid : row.status = .PAID
    · refine Or.inr ⟨?_, ?_⟩
      · intro other same
        obtain rfl := Option.some.inj same
        exact paid
      · simp [voidCycle, found, paid, unlessRefused]
    · refine Or.inl ⟨row, rfl, paid, ?_⟩
      simp [voidCycle, found, paid, unlessRefused]

/-- Voiding an invoice changes the state as it says. -/
theorem changes_voidCycle (cycleId : Nat) :
    Changes state (unlessRefused state (voidCycle state cycleId)) (.service (.voidCycle cycleId)) := by
  obtain ⟨row, found, unpaid, voided⟩ | ⟨paid, same⟩ := voidCycle_cases state cycleId
  · rw [voided]
    refine changes_revised (modify_mapIdx _ _ _) ?_ (fun settles => settles) (by simp)
    intro other stored present
    by_cases same : cycleId = other
    · subst same
      obtain rfl := Option.some.inj (found.symm.trans present)
      simp [revise, unpaid]
    · simp [revise, same]
  · rw [same]
    refine changes_none rfl ?_ (fun settles => settles) (by simp)
    intro other stored present
    by_cases same : cycleId = other
    · subst same
      simp [revise, paid stored present]
    · simp [revise, same]

/-- The status of the fleet is none of its invoices. -/
@[simp] theorem setSubscriptionStatus_cycles (status : FleetSubscriptionStatus) :
    (state.setSubscriptionStatus status).cycles = state.cycles := rfl

/-- The job for overdue invoices revises each row by itself. -/
theorem autoMarkOverdue_cycles (state : BillingState) :
    (autoMarkOverdue state).cycles = state.cycles.map (overdueRow state) := by
  unfold autoMarkOverdue healFleet overdueRow
  by_cases suspended : state.fleet.subscriptionStatus = .PAST_DUE
  · simp only [suspended, if_true]
    split
    · split
      · simp
      · simp
    · split
      · simp
      · simp
  · simp only [suspended, if_false]
    split
    · simp
    · simp

/-- The job stores the settings in force, and creates no payment. -/
theorem autoMarkOverdue_tables (state : BillingState) :
    (autoMarkOverdue state).now = state.now ∧
      (autoMarkOverdue state).config = some (getConfig state) ∧
      (autoMarkOverdue state).payments = state.payments := by
  unfold autoMarkOverdue healFleet
  simp only
  repeat' split
  all_goals exact ⟨rfl, rfl, rfl⟩

/-- The job for overdue invoices changes the state as it says. -/
theorem changes_autoMarkOverdue : Changes state (autoMarkOverdue state) (.service .autoMarkOverdue) := by
  have marked := (autoMarkOverdue_cycles state).trans (map_mapIdx state.cycles _)
  exact changes_revised marked (fun _ _ _ => rfl) (fun settles => settles) (by simp)

/-! Reconciliations -/

/-- A reconciliation changes the row of its invoice. -/
theorem reconcile_cycles (cycleId : Nat) :
    (reconcilePaygCycle state cycleId).cycles = state.cycles.mapIdx fun other row =>
      if cycleId = other then reconciledRow state row else row := by
  unfold reconcilePaygCycle
  cases found : state.cycles[cycleId]? with
  | none =>
    refine (mapIdx_kept ?_).symm
    intro other row present
    rw [if_neg (apart_of_absent found present)]
  | some row =>
    by_cases skipped : row.status = .PAID ∨ row.status = .VOID ∨ isPayg state.fleet = false
    · simp only [skipped, if_true]
      refine (mapIdx_kept ?_).symm
      intro other stored present
      by_cases same : cycleId = other
      · subst same
        obtain rfl := Option.some.inj (found.symm.trans present)
        simp [reconciledRow, skipped]
      · simp [same]
    · simp only [skipped, if_false, BillingState.updateCycle]
      rw [modify_mapIdx]
      apply mapIdx_rows
      intro other stored present
      by_cases same : cycleId = other
      · subst same
        obtain rfl := Option.some.inj (found.symm.trans present)
        simp [reconciledRow, skipped]
      · simp [same]

/-- The invoices change, and no other table. -/
structure OnlyCycles (before after : BillingState) : Prop where
  now : after.now = before.now
  config : after.config = before.config
  fleet : after.fleet = before.fleet
  usage : after.usage = before.usage
  discounts : after.discounts = before.discounts
  payments : after.payments = before.payments

/-- A reconciliation changes nothing but invoices. -/
theorem onlyCycles_reconcile (state : BillingState) (cycleId : Nat) :
    OnlyCycles state (reconcilePaygCycle state cycleId) := by
  unfold reconcilePaygCycle
  split
  · exact ⟨rfl, rfl, rfl, rfl, rfl, rfl⟩
  · split
    · exact ⟨rfl, rfl, rfl, rfl, rfl, rfl⟩
    · exact ⟨rfl, rfl, rfl, rfl, rfl, rfl⟩

/-- Reconciliations change nothing but invoices. -/
theorem onlyCycles_foldl (state : BillingState) (cycleIds : List Nat) :
    OnlyCycles state (cycleIds.foldl reconcilePaygCycle state) := by
  induction cycleIds generalizing state with
  | nil => exact ⟨rfl, rfl, rfl, rfl, rfl, rfl⟩
  | cons cycleId cycleIds inductionHypothesis =>
    have first := onlyCycles_reconcile state cycleId
    have rest := inductionHypothesis (reconcilePaygCycle state cycleId)
    exact ⟨rest.now.trans first.now, rest.config.trans first.config, rest.fleet.trans first.fleet,
      rest.usage.trans first.usage, rest.discounts.trans first.discounts,
      rest.payments.trans first.payments⟩

/-- The daily audit changes nothing but invoices. -/
theorem onlyCycles_audit (state : BillingState) : OnlyCycles state (auditDailyPaygUsage state) := by
  rw [auditDailyPaygUsage]
  split
  · exact onlyCycles_foldl state _
  · exact ⟨rfl, rfl, rfl, rfl, rfl, rfl⟩

/-- What a reconciliation writes depends on no other invoice. -/
theorem reconciledRow_congr {before after : BillingState} (only : OnlyCycles before after) :
    reconciledRow after = reconciledRow before := by
  funext row
  simp only [reconciledRow, reconciled, storedDiscount, only.fleet, only.usage, only.discounts]

/-- A second reconciliation writes the same. -/
theorem reconciledRow_twice (state : BillingState) (row : BillingCycle) :
    reconciledRow state (reconciledRow state row) = reconciledRow state row := by
  by_cases skipped : row.status = .PAID ∨ row.status = .VOID ∨ isPayg state.fleet = false
  · simp only [reconciledRow, skipped, if_true]
  · have again : ¬ ((reconciled state row).status = .PAID ∨ (reconciled state row).status = .VOID ∨
        isPayg state.fleet = false) := skipped
    rw [reconciledRow, reconciledRow, if_neg skipped, if_neg again]
    rfl

/-- By induction on the invoices that are visited, each of which may be visited more
than once. -/
theorem foldl_reconcile_cycles (cycleIds : List Nat) :
    (cycleIds.foldl reconcilePaygCycle state).cycles = state.cycles.mapIdx fun other row =>
      if other ∈ cycleIds then reconciledRow state row else row := by
  induction cycleIds generalizing state with
  | nil =>
    refine (mapIdx_kept ?_).symm
    intro other row _
    simp
  | cons cycleId cycleIds inductionHypothesis =>
    have congr := reconciledRow_congr (onlyCycles_reconcile state cycleId)
    rw [List.foldl_cons, inductionHypothesis, congr, reconcile_cycles, List.mapIdx_mapIdx]
    apply mapIdx_rows
    intro other row _
    by_cases first : cycleId = other
    · subst first
      by_cases visited : cycleId ∈ cycleIds
      · simp [visited, reconciledRow_twice]
      · simp [visited]
    · by_cases visited : other ∈ cycleIds
      · simp [first, visited]
      · simp [first, visited, Ne.symm first]

/-- The audit visits the open invoices. -/
theorem mem_openCycles_iff {cycles : List BillingCycle} {cycleId : Nat}
    (found : cycles[cycleId]? = some row) : cycleId ∈ openCycles cycles ↔ isOpen row = true := by
  have stored := (List.getElem?_eq_some_iff.mp found).1
  rw [openCycles, List.mem_filter, List.mem_range, found]
  simp [stored]

/-- The daily audit changes the state as it says. -/
theorem changes_auditDailyPaygUsage :
    Changes state (auditDailyPaygUsage state) (.service .auditDailyPaygUsage) := by
  have audited : (auditDailyPaygUsage state).cycles =
      state.cycles.mapIdx (revise state (.service .auditDailyPaygUsage)) := by
    rw [auditDailyPaygUsage]
    by_cases visited : isReconciled state.fleet = true
    · rw [if_pos visited, foldl_reconcile_cycles]
      apply mapIdx_rows
      intro other row found
      simp [revise, visited, mem_openCycles_iff found]
    · rw [if_neg visited]
      refine (mapIdx_kept ?_).symm
      intro other row _
      simp [revise, visited]
  exact changes_revised audited (fun _ _ _ => rfl) (fun settles => settles) (by simp)

/-- A reconciliation changes the state as it says. -/
theorem changes_reconcile (cycleId : Nat) :
    Changes state (reconcilePaygCycle state cycleId) (.reconcilePaygCycle cycleId) :=
  changes_revised (reconcile_cycles cycleId) (fun _ _ _ => rfl) (fun settles => settles) (by simp)

/-! Generation -/

/-- The job for new invoices generates one or does nothing. -/
theorem generateBillingCycles_cases (state : BillingState) :
    generateBillingCycles state = generateQuietly state false ∨
      generateBillingCycles state = state := by
  rw [generateBillingCycles]
  split
  · split
    · exact Or.inl rfl
    · split
      · exact Or.inl rfl
      · exact Or.inr rfl
  · exact Or.inr rfl

/-- The job for trials ends one with its first invoice, or does nothing. -/
theorem expireTrials_cases (state : BillingState) :
    expireTrials state =
        generateQuietly { state with fleet := { state.fleet with trialEndsAt := none } } false ∨
      expireTrials state = state := by
  rw [expireTrials]
  split
  · exact Or.inl rfl
  · exact Or.inr rfl

/-- The job for new invoices changes the state as it says. -/
theorem changes_generateBillingCycles :
    Changes state (generateBillingCycles state) (.service .generateBillingCycles) := by
  cases generateBillingCycles_cases state with
  | inl generated =>
    rw [generated]
    exact changes_automatic (Or.inr (Or.inl rfl)) rfl rfl
  | inr same =>
    rw [same]
    exact changes_none rfl (fun _ _ _ => rfl) (fun settles => settles) (by simp)

/-- The job for trials changes the state as it says. -/
theorem changes_expireTrials : Changes state (expireTrials state) (.service .expireTrials) := by
  cases expireTrials_cases state with
  | inl expired =>
    rw [expired]
    exact changes_automatic (Or.inr (Or.inr rfl)) rfl rfl
  | inr same =>
    rw [same]
    exact changes_none rfl (fun _ _ _ => rfl) (fun settles => settles) (by simp)

/-- Every operation revises the stored rows and adds one invoice at most. -/
theorem changes (state : BillingState) (operation : CycleOperation) :
    Changes state (operateCycle state operation) operation := by
  cases operation with
  | reconcilePaygCycle cycleId => exact changes_reconcile cycleId
  | service operation =>
    cases operation with
    | tick elapsed =>
      exact changes_none rfl (fun _ _ _ => rfl) (fun settles => settles) (by simp)
    | finalizeTrip finished =>
      exact changes_none rfl (fun _ _ _ => rfl) (fun settles => settles) (by simp)
    | generateCycle isManual =>
      cases isManual with
      | true =>
        refine changes_kept (fun _ _ _ => rfl) ?_ (.asked rfl)
        exact congrArg BillingState.cycles (generateQuietly_manual state)
      | false => exact changes_automatic (Or.inl rfl) rfl rfl
    | generateBillingCycles => exact changes_generateBillingCycles
    | expireTrials => exact changes_expireTrials
    | autoMarkOverdue => exact changes_autoMarkOverdue
    | auditDailyPaygUsage => exact changes_auditDailyPaygUsage
    | recordPayment cycleId dto => exact changes_recordPayment cycleId dto
    | approveBillingPayment cycleId amount method reference =>
      exact changes_approve cycleId amount method reference
    | confirmPayment transactionId financialTransactionId =>
      exact changes_confirmPayment transactionId financialTransactionId
    | voidCycle cycleId => exact changes_voidCycle cycleId

/-- Every invoice that was there is still there, revised. -/
theorem revised_row (operation : CycleOperation) {cycleId : Nat}
    (found : state.cycles[cycleId]? = some row) :
    (operateCycle state operation).cycles[cycleId]? =
      some (revise state operation cycleId row) := by
  obtain ⟨added, cycles, _⟩ := changes state operation
  have stored := (List.getElem?_eq_some_iff.mp found).1
  rw [cycles, List.getElem?_append_left (by simpa using stored), List.getElem?_mapIdx, found]
  rfl

/-- Every invoice was there before, or has just been generated. -/
theorem row_origin (operation : CycleOperation)
    (member : row ∈ (operateCycle state operation).cycles) :
    (∃ cycleId before, state.cycles[cycleId]? = some before ∧
      row = revise state operation cycleId before) ∨ ∃ middle, row = nextCycle middle := by
  obtain ⟨added, cycles, source⟩ := changes state operation
  rw [cycles] at member
  cases List.mem_append.mp member with
  | inl kept =>
    obtain ⟨cycleId, bound, same⟩ := List.mem_mapIdx.mp kept
    exact Or.inl ⟨cycleId, _, List.getElem?_eq_getElem bound, same.symm⟩
  | inr new =>
    cases source with
    | none unsettled unasked => exact absurd new List.not_mem_nil
    | begun middle automatic cycles period => exact Or.inr ⟨middle, List.mem_singleton.mp new⟩
    | asked same => exact Or.inr ⟨state, List.mem_singleton.mp new⟩
    | settled middle settles period => exact Or.inr ⟨middle, List.mem_singleton.mp new⟩

/-! The kinds of change of a row -/

/-- The operation computes the amounts of the invoice anew. -/
def Reconciles (state : BillingState) (operation : CycleOperation) (cycleId : Nat)
    (row : BillingCycle) : Prop :=
  (operation = .reconcilePaygCycle cycleId ∨
    operation = .service .auditDailyPaygUsage ∧ isReconciled state.fleet = true ∧ isOpen row = true) ∧
  row.status ≠ .PAID ∧ row.status ≠ .VOID ∧ isPayg state.fleet = true

/-- What an operation can do to a row. A manual payment and a confirmation never take the
total beyond the amount due. -/
inductive Revision (state : BillingState) (operation : CycleOperation) (cycleId : Nat)
    (row : BillingCycle) : BillingCycle → Prop where
  | kept : Revision state operation cycleId row row
  | paid (newTotalPaid paidAt : Int) (within : newTotalPaid ≤ row.totalDue) :
      Revision state operation cycleId row (paidRow row newTotalPaid paidAt)
  | approved (amount : Option Int) (method : PaymentMethod) (reference : Option String)
      (asked : operation = .service (.approveBillingPayment cycleId amount method reference)) :
      Revision state operation cycleId row (approvedRow row (approvedAmount row amount))
  | voided : Revision state operation cycleId row { row with status := .VOID }
  | reconciled (visits : Reconciles state operation cycleId row) :
      Revision state operation cycleId row (reconciled state row)
  | marked : Revision state operation cycleId row (overdueRow state row)

/-- A reconciliation is a revision of the invoices that it visits. -/
theorem reconciledRow_revision {operation : CycleOperation} {cycleId : Nat}
    (visits : operation = .reconcilePaygCycle cycleId ∨
      operation = .service .auditDailyPaygUsage ∧ isReconciled state.fleet = true ∧
        isOpen row = true) :
    Revision state operation cycleId row (reconciledRow state row) := by
  by_cases skipped : row.status = .PAID ∨ row.status = .VOID ∨ isPayg state.fleet = false
  · rw [reconciledRow, if_pos skipped]
    exact .kept
  · rw [reconciledRow, if_neg skipped]
    simp only [not_or, Bool.not_eq_false] at skipped
    exact .reconciled ⟨visits, skipped⟩

/-- What an operation makes of an invoice is one of its revisions. -/
theorem revision (state : BillingState) (operation : CycleOperation) (cycleId : Nat)
    (row : BillingCycle) :
    Revision state operation cycleId row (revise state operation cycleId row) := by
  cases operation with
  | reconcilePaygCycle reconciledId =>
    by_cases same : reconciledId = cycleId
    · subst same
      simpa [revise] using reconciledRow_revision (Or.inl rfl)
    · simpa [revise, same] using Revision.kept
  | service operation =>
    cases operation with
    | recordPayment paidId dto =>
      by_cases accepted : paidId = cycleId ∧ Accepts row dto.amount
      · rw [revise, if_pos accepted]
        refine .paid _ _ ?_
        have within := accepted.2.2
        omega
      · rw [revise, if_neg accepted]
        exact .kept
    | approveBillingPayment paidId amount method reference =>
      by_cases same : paidId = cycleId
      · subst same
        rw [revise, if_pos rfl]
        exact .approved amount method reference rfl
      · rw [revise, if_neg same]
        exact .kept
    | confirmPayment transactionId financialTransactionId =>
      cases found : state.momoTransactions[transactionId]? with
      | none => simpa [revise, found] using Revision.kept
      | some transaction =>
        by_cases credits : Credits transaction cycleId row
        · simpa [revise, found, credits] using Revision.paid _ _ (min_le_left _ _)
        · simpa [revise, found, credits] using Revision.kept
    | voidCycle voidedId =>
      by_cases voids : voidedId = cycleId ∧ row.status ≠ .PAID
      · rw [revise, if_pos voids]
        exact .voided
      · rw [revise, if_neg voids]
        exact .kept
    | autoMarkOverdue => exact .marked
    | auditDailyPaygUsage =>
      by_cases visits : isReconciled state.fleet = true ∧ isOpen row = true
      · rw [revise, if_pos visits]
        exact reconciledRow_revision (Or.inr ⟨rfl, visits⟩)
      · rw [revise, if_neg visits]
        exact .kept
    | _ => exact .kept

/-- A property of rows holds after the operation when every revision of a row leads to it and
a new invoice has it. -/
theorem rows_operate (operation : CycleOperation) {holds : BillingCycle → Prop}
    (revised : ∀ cycleId row later, state.cycles[cycleId]? = some row →
      Revision state operation cycleId row later → holds later)
    (generated : ∀ middle, holds (nextCycle middle)) :
    ∀ row ∈ (operateCycle state operation).cycles, holds row := by
  intro row member
  cases row_origin operation member with
  | inl stored =>
    obtain ⟨cycleId, before, found, rfl⟩ := stored
    exact revised cycleId before _ found (revision state operation cycleId before)
  | inr new =>
    obtain ⟨middle, rfl⟩ := new
    exact generated middle

end EmotoFleet.Billing
