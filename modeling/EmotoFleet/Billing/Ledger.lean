import EmotoFleet.Billing.PaygBilling

/-!
# Transactions and the payments created for them

A confirmation marks its transaction and creates the payment rows for it. The
other operations of the billing service change neither the transactions, apart
from a manual settlement, nor the number of rows created for any of them.
-/

namespace EmotoFleet.Billing

/-- The number of payment rows created for a transaction. -/
def credits (state : BillingState) (transactionId : Nat) : Nat :=
  state.payments.countP (·.transaction == some transactionId) +
    state.riderPayments.countP (·.transaction == some transactionId)

/-- Transactions and credits are kept, and time does not go back. -/
structure SameLedger (before after : BillingState) : Prop where
  later : before.now ≤ after.now
  transactions : after.momoTransactions = before.momoTransactions
  credited : ∀ transactionId, credits after transactionId = credits before transactionId

variable {state before middle after : BillingState}

/-- A state has its own ledger. -/
theorem SameLedger.refl (state : BillingState) : SameLedger state state :=
  ⟨le_refl _, rfl, fun _ => rfl⟩

/-- The same ledger as the same ledger is the same. -/
theorem SameLedger.trans (first : SameLedger before middle) (second : SameLedger middle after) :
    SameLedger before after :=
  ⟨le_trans first.later second.later, second.transactions.trans first.transactions,
    fun transactionId => (second.credited transactionId).trans (first.credited transactionId)⟩

/-- Changes of the tables that have nothing to do with payments. -/
theorem SameLedger.of_same (later : before.now ≤ after.now)
    (transactions : after.momoTransactions = before.momoTransactions)
    (payments : after.payments = before.payments)
    (riderPayments : after.riderPayments = before.riderPayments) : SameLedger before after := by
  refine ⟨later, transactions, ?_⟩
  intro transactionId
  rw [credits, credits, payments, riderPayments]

/-- A payment that no confirmation creates. -/
theorem sameLedger_createPayment {payment : BillingPayment} (manual : payment.transaction = none) :
    SameLedger state (state.createPayment payment) := by
  refine ⟨le_refl _, rfl, ?_⟩
  intro transactionId
  simp [credits, BillingState.createPayment, List.countP_append, manual]

/-- A generation leaves the ledger. -/
theorem sameLedger_generateQuietly (isManual : Bool) :
    SameLedger state (generateQuietly state isManual) := by
  unfold generateQuietly
  split
  · rename_i next generated
    unfold generateCycleForFleet insertCycle at generated
    simp only at generated
    split at generated
    · cases generated
    · split at generated
      · cases generated
      · obtain rfl := Except.ok.inj generated
        exact .of_same (le_refl _) rfl rfl rfl
  · exact .refl state

/-- A reactivation leaves the ledger. -/
theorem sameLedger_restoreFleet : SameLedger state (restoreFleet state) := by
  unfold restoreFleet
  split
  · exact .refl state
  · exact .of_same (le_refl _) rfl rfl rfl

/-- What follows a settlement leaves the ledger. -/
theorem sameLedger_afterSettlement : SameLedger state (afterSettlement state) :=
  sameLedger_restoreFleet.trans (sameLedger_generateQuietly true)

/-- A payment by hand leaves the ledger of transactions. -/
theorem sameLedger_writePayment (cycleId : Nat) (cycle : BillingCycle) (newTotalPaid paidAt : Int) :
    SameLedger state (writePayment state cycleId cycle newTotalPaid paidAt) :=
  .of_same (le_refl _) rfl rfl rfl

/-- A reconciliation leaves the ledger. -/
theorem sameLedger_reconcile (cycleId : Nat) :
    SameLedger state (reconcilePaygCycle state cycleId) := by
  unfold reconcilePaygCycle
  split
  · exact .refl state
  · split
    · exact .refl state
    · exact .of_same (le_refl _) rfl rfl rfl

/-- Reconciliations leave the ledger. -/
theorem sameLedger_foldl_reconcile (cycleIds : List Nat) :
    SameLedger state (cycleIds.foldl reconcilePaygCycle state) := by
  induction cycleIds generalizing state with
  | nil => exact .refl state
  | cons cycleId cycleIds inductionHypothesis =>
    exact (sameLedger_reconcile cycleId).trans inductionHypothesis

/-- The daily audit leaves the ledger. -/
theorem sameLedger_auditDailyPaygUsage : SameLedger state (auditDailyPaygUsage state) := by
  unfold auditDailyPaygUsage
  split
  · exact sameLedger_foldl_reconcile _
  · exact .refl state

/-- The reminders leave the ledger. -/
theorem sameLedger_autoMarkOverdue : SameLedger state (autoMarkOverdue state) := by
  unfold autoMarkOverdue healFleet
  simp only
  repeat' split
  all_goals exact .of_same (le_refl _) rfl rfl rfl

/-- The generation of all invoices leaves the ledger. -/
theorem sameLedger_generateBillingCycles : SameLedger state (generateBillingCycles state) := by
  unfold generateBillingCycles
  repeat' split
  all_goals first | exact sameLedger_generateQuietly false | exact .refl state

/-- The end of trials leaves the ledger. -/
theorem sameLedger_expireTrials : SameLedger state (expireTrials state) := by
  unfold expireTrials
  split
  · have ended : SameLedger state
        { state with fleet := { state.fleet with trialEndsAt := none } } := .of_same (le_refl _) rfl rfl rfl
    exact ended.trans (sameLedger_generateQuietly false)
  · exact .refl state

/-- An approval leaves the ledger of transactions. -/
theorem sameLedger_approve {cycleId : Nat} {amount : Option Int} {method : PaymentMethod}
    {reference : Option String}
    (approved : approveBillingPayment state cycleId amount method reference = .ok after) :
    SameLedger state after := by
  unfold approveBillingPayment at approved
  split at approved
  · cases approved
  · rename_i cycle found
    obtain rfl := Except.ok.inj approved
    have created : SameLedger state (state.createPayment
        ⟨cycleId, amount.getD (max 0 (cycle.totalDue - cycle.totalPaid)), method, reference,
          state.now, none⟩) := sameLedger_createPayment rfl
    split
    · exact created.trans (.of_same (le_refl _) rfl rfl rfl)
    · exact created.trans (.of_same (le_refl _) rfl rfl rfl)

/-- A cancelled invoice leaves the ledger. -/
theorem sameLedger_voidCycle {cycleId : Nat} (voided : voidCycle state cycleId = .ok after) :
    SameLedger state after := by
  unfold voidCycle at voided
  split at voided
  · cases voided
  · split at voided
    · cases voided
    · obtain rfl := Except.ok.inj voided
      exact .of_same (le_refl _) rfl rfl rfl

/-! Confirmations -/

/-- A transaction pays for an invoice or for a rider, not for both. -/
def Exclusive (transaction : MomoTransaction) : Prop :=
  transaction.billingCycleId = none ∨ transaction.riderId = none

/-- A credited invoice marks its transaction. -/
theorem creditCycle_transactions (transactionId : Nat) (amount : Int) (cycleId : Nat)
    (cycle : BillingCycle) (financialTransactionId : String) :
    (creditCycle state transactionId amount cycleId cycle financialTransactionId).momoTransactions =
      state.momoTransactions := by
  unfold creditCycle
  split
  · rfl
  · simp only
    split
    · exact sameLedger_afterSettlement.transactions
    · rfl

/-- A credited invoice adds one credit to its transaction. -/
theorem creditCycle_credits (transactionId : Nat) (amount : Int) (cycleId : Nat)
    (cycle : BillingCycle) (financialTransactionId : String) (other : Nat) :
    credits (creditCycle state transactionId amount cycleId cycle financialTransactionId) other ≤
      credits state other + if other = transactionId then 1 else 0 := by
  unfold creditCycle
  split
  · omega
  · have created : credits (state.createPayment
        ⟨cycleId, amount, .MOBILE_MONEY, some financialTransactionId, state.now,
          some transactionId⟩) other =
        credits state other + if other = transactionId then 1 else 0 := by
      simp only [credits, BillingState.createPayment, List.countP_append, List.countP_singleton]
      by_cases same : other = transactionId
      · subst same
        simp
        omega
      · simp [same, Ne.symm same]
    simp only
    split
    · apply le_of_eq
      rw [sameLedger_afterSettlement.credited, (sameLedger_writePayment _ _ _ _).credited, created]
    · apply le_of_eq
      rw [(sameLedger_writePayment _ _ _ _).credited, created]

/-- A credited rider adds one credit to their transaction. -/
theorem creditRider_credits (transactionId : Nat) (transaction : MomoTransaction)
    (riderId financialTransactionId : String) (other : Nat) :
    credits (creditRider state transactionId transaction riderId financialTransactionId) other =
      credits state other + if other = transactionId then 1 else 0 := by
  simp only [credits, creditRider, List.countP_append, List.countP_singleton]
  by_cases same : other = transactionId
  · subst same
    simp
    omega
  · simp [same, Ne.symm same]

/-- A confirmation marks its transaction. -/
theorem confirmed_transactions (transactionId : Nat) (transaction : MomoTransaction)
    (cycle : Option BillingCycle) (financialTransactionId : String) :
    (confirmed state transactionId transaction cycle
        financialTransactionId).momoTransactions =
      state.momoTransactions.modify transactionId (succeeded state.now financialTransactionId) := by
  unfold confirmed
  simp only
  split
  · split
    · exact creditCycle_transactions _ _ _ _ _
    · rfl
  · split
    · exact creditCycle_transactions _ _ _ _ _
    · rfl

/-- No time runs backwards in a credit. -/
theorem creditCycle_later (transactionId : Nat) (amount : Int) (cycleId : Nat)
    (cycle : BillingCycle) (financialTransactionId : String) :
    state.now ≤ (creditCycle state transactionId amount cycleId cycle financialTransactionId).now := by
  unfold creditCycle
  split
  · exact le_refl _
  · simp only
    split
    · exact sameLedger_afterSettlement.later
    · exact le_refl _

/-- No time runs backwards in a confirmation. -/
theorem confirmed_later (transactionId : Nat) (transaction : MomoTransaction)
    (cycle : Option BillingCycle) (financialTransactionId : String) :
    state.now ≤ (confirmed state transactionId transaction cycle
      financialTransactionId).now := by
  have marked : state.now ≤
      (state.updateTransaction transactionId (succeeded state.now financialTransactionId)).now :=
    le_refl _
  unfold confirmed
  simp only
  split
  · split
    · exact le_trans marked (creditCycle_later _ _ _ _ _)
    · exact marked
  · split
    · exact le_trans marked (creditCycle_later _ _ _ _ _)
    · exact marked

/-- How many things a transaction pays for. -/
def paidFor (transaction : MomoTransaction) : Nat :=
  transaction.billingCycleId.toList.length + transaction.riderId.toList.length

/-- A transaction pays for an invoice or a rider, not both. -/
theorem paidFor_exclusive {transaction : MomoTransaction} (exclusive : Exclusive transaction) :
    paidFor transaction ≤ 1 := by
  unfold paidFor
  cases exclusive with
  | inl noInvoice => cases transaction.riderId <;> simp [noInvoice]
  | inr noRider => cases transaction.billingCycleId <;> simp [noRider]

/-- A confirmation creates one row at most for each thing that its transaction pays
for, and none for another transaction. -/
theorem confirmed_credits (transactionId : Nat) (transaction : MomoTransaction)
    (cycle : Option BillingCycle) (financialTransactionId : String) (other : Nat) :
    credits (confirmed state transactionId transaction cycle
        financialTransactionId) other ≤
      credits state other + if other = transactionId then paidFor transaction else 0 := by
  have marked : credits
      (state.updateTransaction transactionId (succeeded state.now financialTransactionId)) other =
      credits state other := rfl
  have invoiced : ∀ (amount : Int) (cycleId : Nat) (row : BillingCycle),
      credits (creditCycle (state.updateTransaction transactionId
        (succeeded state.now financialTransactionId)) transactionId amount cycleId row
          financialTransactionId) other ≤
        credits state other + if other = transactionId then 1 else 0 := by
    intro amount cycleId row
    rw [← marked]
    exact creditCycle_credits _ _ _ _ _ _
  unfold confirmed paidFor
  cases transaction.billingCycleId with
  | none =>
    cases transaction.riderId with
    | none => simp [marked]
    | some riderId =>
      simp only [creditRider_credits, marked]
      simp
  | some cycleId =>
    cases cycle with
    | none =>
      cases transaction.riderId with
      | none => simp [marked]
      | some riderId =>
        simp only [creditRider_credits, marked]
        split <;> simp
    | some row =>
      have most := invoiced transaction.amount cycleId row
      cases transaction.riderId with
      | none => simpa using most
      | some riderId =>
        simp only [creditRider_credits, Option.toList_some, List.length_singleton]
        split_ifs at most ⊢ <;> omega

end EmotoFleet.Billing
