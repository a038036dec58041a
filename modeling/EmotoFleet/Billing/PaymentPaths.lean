import EmotoFleet.Billing.CycleChanges

/-!
# The three ways of paying an invoice

A manual payment, the confirmation of a mobile money transaction and an approval by
the headquarters all credit an amount to an invoice. They set the total and the
status alike. The approval differs in what follows: it keeps the date of payment, it
makes a suspended fleet active whatever else is unpaid, and it generates no next
invoice. The confirmation alone needs an owner of the fleet.
-/

namespace EmotoFleet.Billing

variable {state : BillingState} {row : BillingCycle} {cycleId : Nat}

/-- What a payment of an invoice comes to. -/
structure PaymentOutcome where
  totalPaid : Int
  status : BillingCycleStatus
  paidAt : Option Int
  subscriptionStatus : FleetSubscriptionStatus
  generated : List BillingCycle

def outcome (state next : BillingState) (cycleId : Nat) : Option PaymentOutcome :=
  next.cycles[cycleId]?.map fun row =>
    { totalPaid := row.totalPaid
      status := row.status
      paidAt := row.paidAt
      subscriptionStatus := next.fleet.subscriptionStatus
      generated := next.cycles.drop state.cycles.length }

/-- A suspended fleet is made active only if none of its invoices remains unpaid past
its due date. -/
def RestoredJustly (state next : BillingState) : Prop :=
  state.fleet.subscriptionStatus = .PAST_DUE → next.fleet.subscriptionStatus = .ACTIVE →
    ∀ cycle ∈ next.cycles.take state.cycles.length,
      isUnsettled cycle.status = true → state.now ≤ cycle.dueDate

/-- Two payments come to the same, and neither restores a fleet that it should not. -/
def PaysAlike (state one other : BillingState) (cycleId : Nat) : Prop :=
  outcome state one cycleId = outcome state other cycleId ∧ RestoredJustly state one ∧
    RestoredJustly state other

/-- The outcome of an operation, from what it does to the row and what it adds. -/
theorem outcome_operate (operation : CycleOperation) (found : state.cycles[cycleId]? = some row) :
    ∃ added, Added state operation added ∧
      outcome state (operateCycle state operation) cycleId =
        some ⟨(revise state operation cycleId row).totalPaid,
          (revise state operation cycleId row).status, (revise state operation cycleId row).paidAt,
          (operateCycle state operation).fleet.subscriptionStatus, added⟩ := by
  obtain ⟨added, cycles, source⟩ := changes state operation
  have new : (operateCycle state operation).cycles.drop state.cycles.length = added := by
    rw [cycles]
    exact List.drop_left' (by simp)
  refine ⟨added, source, ?_⟩
  rw [outcome, revised_row operation found, new]
  rfl

theorem added_settled {operation : CycleOperation} {added : List BillingCycle}
    (settles : Settles state operation) (source : Added state operation added) : added ≠ [] := by
  cases source with
  | none unsettled unasked => exact absurd settles unsettled
  | _ => simp

theorem added_unsettled {operation : CycleOperation} {added : List BillingCycle}
    (unsettled : ¬ Settles state operation) (automatic : ¬ IsAutomatic operation)
    (unasked : operation ≠ .service (.generateCycle true)) (source : Added state operation added) :
    added = [] := by
  cases source with
  | none _ _ => rfl
  | begun middle schedules cycles period => exact absurd schedules automatic
  | asked same => exact absurd same unasked
  | settled middle settles period => exact absurd settles unsettled

/-! The approval -/

theorem approval_outcome (found : state.cycles[cycleId]? = some row) (amount : Int)
    (method : PaymentMethod) (reference : Option String) :
    outcome state (operateCycle state
        (.service (.approveBillingPayment cycleId (some amount) method reference))) cycleId =
      some ⟨row.totalPaid + amount, paymentStatus (row.totalPaid + amount) row.totalDue, row.paidAt,
        if state.fleet.subscriptionStatus = .PAST_DUE then .ACTIVE
        else state.fleet.subscriptionStatus, []⟩ := by
  obtain ⟨added, source, result⟩ := outcome_operate
    (.service (.approveBillingPayment cycleId (some amount) method reference)) found
  have unsettled : ¬ Settles state
      (.service (.approveBillingPayment cycleId (some amount) method reference)) :=
    fun settles => settles
  have empty : added = [] := added_unsettled unsettled (by simp [IsAutomatic]) (by simp) source
  have restored : (operateCycle state (.service (.approveBillingPayment cycleId (some amount) method
      reference))).fleet.subscriptionStatus =
        if state.fleet.subscriptionStatus = .PAST_DUE then .ACTIVE
        else state.fleet.subscriptionStatus := by
    rw [operateCycle, operate, approveBillingPayment, found]
    by_cases suspended : state.fleet.subscriptionStatus = .PAST_DUE
    · simp [unlessRefused, suspended, BillingState.setSubscriptionStatus]
    · simp [unlessRefused, suspended, BillingState.updateCycle, BillingState.createPayment]
  rw [result, empty, restored]
  simp [revise, approvedRow, approvedAmount]

/-! The manual payment -/

variable {dto : RecordBillingPaymentDto}

theorem record_partial_outcome (found : state.cycles[cycleId]? = some row)
    (accepted : Accepts row dto.amount) (short : row.totalPaid + dto.amount < row.totalDue) :
    outcome state (operateCycle state (.service (.recordPayment cycleId dto))) cycleId =
      some ⟨row.totalPaid + dto.amount, .PARTIAL, none, state.fleet.subscriptionStatus, []⟩ := by
  obtain ⟨added, source, result⟩ := outcome_operate (.service (.recordPayment cycleId dto)) found
  have unsettled : ¬ Settles state (.service (.recordPayment cycleId dto)) := by
    rintro ⟨other, same, _, full⟩
    obtain rfl := Option.some.inj (found.symm.trans same)
    exact absurd full (not_le.mpr short)
  have empty : added = [] := added_unsettled unsettled (by simp [IsAutomatic]) (by simp) source
  have kept : (operateCycle state (.service (.recordPayment cycleId dto))).fleet = state.fleet := by
    rw [operateCycle, operate, recordPayment_accepted found accepted, if_neg (not_le.mpr short)]
    rfl
  rw [result, empty, kept]
  simp [revise, accepted, paidRow, paymentStatus, not_le.mpr short]

theorem record_full_generates (found : state.cycles[cycleId]? = some row)
    (accepted : Accepts row dto.amount) (full : row.totalDue ≤ row.totalPaid + dto.amount) :
    ∃ result, outcome state (operateCycle state (.service (.recordPayment cycleId dto))) cycleId =
      some result ∧ result.generated ≠ [] := by
  obtain ⟨added, source, result⟩ := outcome_operate (.service (.recordPayment cycleId dto)) found
  have settles : Settles state (.service (.recordPayment cycleId dto)) :=
    ⟨row, found, accepted, full⟩
  exact ⟨_, result, added_settled settles source⟩

/-! The confirmation -/

theorem confirm_partial_outcome {transactionId : Nat} {transaction : MomoTransaction}
    (financialTransactionId : String) (found : state.cycles[cycleId]? = some row)
    (known : state.momoTransactions[transactionId]? = some transaction)
    (credits : Credits transaction cycleId row)
    (short : row.totalPaid + transaction.amount < row.totalDue) :
    outcome state (operateCycle state
        (.service (.confirmPayment transactionId financialTransactionId))) cycleId =
      some ⟨row.totalPaid + transaction.amount, .PARTIAL, none, state.fleet.subscriptionStatus, []⟩ := by
  obtain ⟨added, source, result⟩ :=
    outcome_operate (.service (.confirmPayment transactionId financialTransactionId)) found
  have unsettled : ¬ Settles state
      (.service (.confirmPayment transactionId financialTransactionId)) := by
    rintro ⟨other, paidId, stored, same, present, pays, full⟩
    obtain rfl := Option.some.inj (known.symm.trans same)
    obtain rfl := Option.some.inj (credits.1.symm.trans pays.1)
    obtain rfl := Option.some.inj (found.symm.trans present)
    exact absurd full (not_le.mpr short)
  have empty : added = [] := added_unsettled unsettled (by simp [IsAutomatic]) (by simp) source
  have kept : (operateCycle state
      (.service (.confirmPayment transactionId financialTransactionId))).fleet = state.fleet := by
    obtain ⟨riderPayments, same⟩ := confirmPayment_rider financialTransactionId known
    rw [operateCycle, operate, same, invoicePart_credits financialTransactionId found credits,
      if_neg (not_le.mpr short)]
    rfl
  have capped : min row.totalDue (row.totalPaid + transaction.amount) =
      row.totalPaid + transaction.amount := min_eq_right (le_of_lt short)
  rw [result, empty, kept]
  simp [revise, known, credits, paidRow, paymentStatus, capped, not_le.mpr short]

/-- Without an owner of the fleet, the confirmation of a payment is rolled back. -/
theorem confirmation_cases {transactionId : Nat} {transaction : MomoTransaction}
    (ownerId : Option String) (financialTransactionId : String)
    (found : state.cycles[cycleId]? = some row)
    (known : state.momoTransactions[transactionId]? = some transaction)
    (credits : Credits transaction cycleId row) :
    unlessRefused state (processSuccessfulPayment state transactionId transaction (some row) ownerId
        financialTransactionId) =
      if ownerId.isSome = true then
        operateCycle state (.service (.confirmPayment transactionId financialTransactionId))
      else state := by
  have unpaid : (row.status != .PAID) = true := bne_iff_ne.mpr credits.2
  cases ownerId with
  | none => simp [processSuccessfulPayment, credits.1, unpaid, unlessRefused]
  | some owner =>
    simp [processSuccessfulPayment, unlessRefused, operateCycle, operate, confirmPayment, known,
      credits.1, found]

/-! The three together -/

/-- A payment that all three accept comes to the same, and restores the fleet justly,
exactly when it leaves something to pay, the fleet is not suspended and has an owner, and
the invoice has no date of payment from before. -/
theorem payment_paths_agree_iff (state : BillingState) (cycleId transactionId : Nat)
    (row : BillingCycle) (dto : RecordBillingPaymentDto) (transaction : MomoTransaction)
    (method : PaymentMethod) (reference ownerId : Option String) (financialTransactionId : String)
    (found : state.cycles[cycleId]? = some row) (accepted : Accepts row dto.amount)
    (known : state.momoTransactions[transactionId]? = some transaction)
    (pays : transaction.billingCycleId = some cycleId) (same : transaction.amount = dto.amount) :
    (PaysAlike state (unlessRefused state (recordPayment state cycleId dto))
        (unlessRefused state
          (approveBillingPayment state cycleId (some dto.amount) method reference)) cycleId ∧
      PaysAlike state (unlessRefused state (recordPayment state cycleId dto))
        (unlessRefused state (processSuccessfulPayment state transactionId transaction (some row)
          ownerId financialTransactionId)) cycleId) ↔
    row.totalPaid + dto.amount < row.totalDue ∧ state.fleet.subscriptionStatus ≠ .PAST_DUE ∧
      row.paidAt = none ∧ ownerId.isSome = true := by
  have credits : Credits transaction cycleId row := ⟨pays, accepted.1⟩
  have approval := approval_outcome found dto.amount method reference
  rw [confirmation_cases ownerId financialTransactionId found known credits]
  by_cases short : row.totalPaid + dto.amount < row.totalDue
  · have manual := record_partial_outcome found accepted short
    have momo := confirm_partial_outcome financialTransactionId found known credits
      (by rw [same]; exact short)
    rw [same] at momo
    have status : paymentStatus (row.totalPaid + dto.amount) row.totalDue = .PARTIAL :=
      if_neg (not_le.mpr short)
    rw [status] at approval
    constructor
    · rintro ⟨⟨alike, _, _⟩, ⟨confirmedAlike, _, _⟩⟩
      have equal := manual.symm.trans (alike.trans approval)
      simp only [Option.some.injEq, PaymentOutcome.mk.injEq, true_and, and_true] at equal
      refine ⟨short, ?_, equal.1.symm, ?_⟩
      · intro suspended
        rw [suspended, if_pos rfl] at equal
        exact absurd equal.2 (by decide)
      · by_contra missing
        -- the confirmation is rolled back, but the manual payment is not
        rw [if_neg missing] at confirmedAlike
        have unpaid : outcome state state cycleId =
            some ⟨row.totalPaid, row.status, row.paidAt, state.fleet.subscriptionStatus, []⟩ := by
          rw [outcome, found, List.drop_length]
          rfl
        have unchanged := manual.symm.trans (confirmedAlike.trans unpaid)
        simp only [Option.some.injEq, PaymentOutcome.mk.injEq] at unchanged
        have positive := dto.atLeastOne
        omega
    · rintro ⟨_, active, undated, owned⟩
      have unrestored : ∀ next : BillingState, RestoredJustly state next :=
        fun _ suspended => absurd suspended active
      rw [if_neg active, undated] at approval
      rw [if_pos owned]
      exact ⟨⟨manual.trans approval.symm, unrestored _, unrestored _⟩,
        ⟨manual.trans momo.symm, unrestored _, unrestored _⟩⟩
  · obtain ⟨result, manual, generates⟩ := record_full_generates found accepted (not_lt.mp short)
    refine iff_of_false ?_ (fun condition => short condition.1)
    rintro ⟨⟨alike, _, _⟩, _⟩
    have equal := Option.some.inj (manual.symm.trans (alike.trans approval))
    rw [equal] at generates
    exact generates rfl

/-- An invoice for two days. -/
def twoDaysInvoice : BillingCycle :=
  { defaultCycle with bikeCount := 1, subtotal := 700, totalDue := 700 }

/-- A pending transaction for one of them. -/
def oneDayRequest : MomoTransaction where
  billingCycleId := some 0
  riderId := none
  referenceId := 0
  idempotencyKey := .invoice (some 0) 0
  amount := 350
  payerPhone := "250788000002"
  payerMessage := none
  status := .PENDING
  financialTransactionId := none
  failureReason := none
  retryCount := 0
  nextRetryAt := none
  callbackReceivedAt := none

def twoDaysDue : BillingState :=
  { unbilledState with cycles := [twoDaysInvoice], momoTransactions := [oneDayRequest] }

/-- The same invoice, overdue for a fleet that is suspended. -/
def twoDaysOverdue : BillingState :=
  { twoDaysDue with
    now := 1773388800000
    fleet := { defaultFleet with subscriptionStatus := .PAST_DUE }
    cycles := [{ twoDaysInvoice with status := .OVERDUE }] }

/-- Half of an invoice is paid alike. -/
theorem payment_paths_agree_iff_half :
    PaysAlike twoDaysDue (unlessRefused twoDaysDue (recordPayment twoDaysDue 0 oneDay))
        (unlessRefused twoDaysDue
          (approveBillingPayment twoDaysDue 0 (some oneDay.amount) .CASH none)) 0 ∧
      PaysAlike twoDaysDue (unlessRefused twoDaysDue (recordPayment twoDaysDue 0 oneDay))
        (unlessRefused twoDaysDue (processSuccessfulPayment twoDaysDue 0 oneDayRequest
          (some twoDaysInvoice) (some "owner-1") "MOMO-1")) 0 :=
  (payment_paths_agree_iff twoDaysDue 0 0 twoDaysInvoice oneDay oneDayRequest .CASH none
    (some "owner-1") "MOMO-1" rfl (by decide) rfl rfl rfl).mpr ⟨by decide, by decide, rfl, rfl⟩

/-- With half of an overdue invoice paid, the approval alone makes the suspended fleet
active, although the other half is past its due date. -/
theorem approval_restores_overdue :
    ¬ ∀ (state : BillingState) (cycleId transactionId : Nat) (row : BillingCycle)
        (dto : RecordBillingPaymentDto) (transaction : MomoTransaction) (method : PaymentMethod)
        (reference ownerId : Option String) (financialTransactionId : String),
      state.cycles[cycleId]? = some row → Accepts row dto.amount →
      state.momoTransactions[transactionId]? = some transaction →
      transaction.billingCycleId = some cycleId → transaction.amount = dto.amount →
      ownerId.isSome = true →
      PaysAlike state (unlessRefused state (recordPayment state cycleId dto))
          (unlessRefused state
            (approveBillingPayment state cycleId (some dto.amount) method reference)) cycleId ∧
        PaysAlike state (unlessRefused state (recordPayment state cycleId dto))
          (unlessRefused state (processSuccessfulPayment state transactionId transaction (some row)
            ownerId financialTransactionId)) cycleId := by
  intro always
  obtain ⟨⟨_, _, restored⟩, _⟩ := always twoDaysOverdue 0 0 _ oneDay _ .CASH none (some "owner-1")
    "MOMO-1" rfl (by decide) rfl rfl rfl rfl
  revert restored
  unfold RestoredJustly
  decide +kernel

end EmotoFleet.Billing
