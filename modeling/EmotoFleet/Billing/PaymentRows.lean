import EmotoFleet.Billing.CycleChanges

/-!
# Which payments an operation creates

Only the three ways of paying create payment rows, each one row for the invoice that
it accepts a payment of.
-/

namespace EmotoFleet.Billing

variable {state next : BillingState} {row : BillingCycle}

/-- The payments of an invoice. -/
def paymentsOf (state : BillingState) (cycleId : Nat) : List BillingPayment :=
  state.payments.filter (·.billingCycleId = cycleId)

/-- The operation is an accepted payment of the invoice. -/
def Pays (state : BillingState) : CycleOperation → Nat → BillingCycle → Prop
  | .service (.recordPayment paidId dto), cycleId, row => paidId = cycleId ∧ Accepts row dto.amount
  | .service (.approveBillingPayment paidId _ _ _), cycleId, _ => paidId = cycleId
  | .service (.confirmPayment transactionId _), cycleId, row =>
    ∃ transaction, state.momoTransactions[transactionId]? = some transaction ∧
      Credits transaction cycleId row
  | _, _, _ => False

/-- Payment rows are only added, and to an invoice only by a payment of it. -/
def Creates (state next : BillingState) (operation : CycleOperation) : Prop :=
  ∃ created, next.payments = state.payments ++ created ∧
    ∀ cycleId row, state.cycles[cycleId]? = some row →
      (created.filter (·.billingCycleId = cycleId) ≠ [] ↔ Pays state operation cycleId row)

theorem creates_none {operation : CycleOperation} (payments : next.payments = state.payments)
    (unpaid : ∀ cycleId row, state.cycles[cycleId]? = some row →
      ¬ Pays state operation cycleId row) : Creates state next operation := by
  refine ⟨[], by rw [payments, List.append_nil], ?_⟩
  intro cycleId row found
  simp [unpaid cycleId row found]

theorem creates_one {operation : CycleOperation} (payment : BillingPayment)
    (payments : next.payments = state.payments ++ [payment])
    (paid : ∀ cycleId row, state.cycles[cycleId]? = some row →
      (payment.billingCycleId = cycleId ↔ Pays state operation cycleId row)) :
    Creates state next operation := by
  refine ⟨[payment], payments, ?_⟩
  intro cycleId row found
  rw [← paid cycleId row found]
  simp

theorem restoreFleet_payments (state : BillingState) :
    (restoreFleet state).payments = state.payments := by
  cases restoreFleet_cases state with
  | inl unpaid => rw [unpaid]
  | inr active =>
    rw [active]
    rfl

theorem afterSettlement_payments (state : BillingState) :
    (afterSettlement state).payments = state.payments := by
  rw [afterSettlement, generateQuietly_manual]
  exact restoreFleet_payments state

theorem generateQuietly_payments (isManual : Bool) :
    (generateQuietly state isManual).payments = state.payments := by
  cases isManual with
  | true =>
    rw [generateQuietly_manual]
    rfl
  | false =>
    cases generateQuietly_automatic state with
    | inl refused => rw [refused.1]
    | inr generated =>
      rw [generated.1]
      rfl

theorem creates_recordPayment (cycleId : Nat) (dto : RecordBillingPaymentDto) :
    Creates state (unlessRefused state (recordPayment state cycleId dto))
      (.service (.recordPayment cycleId dto)) := by
  obtain ⟨row, found, accepted, taken⟩ | ⟨refused, same⟩ := recordPayment_cases state cycleId dto
  · refine creates_one (manualPayment state.now cycleId dto) ?_ ?_
    · rw [taken]
      split
      · exact afterSettlement_payments _
      · rfl
    · intro other stored present
      constructor
      · rintro rfl
        obtain rfl := Option.some.inj (found.symm.trans present)
        exact ⟨rfl, accepted⟩
      · exact fun pays => pays.1
  · rw [same]
    refine creates_none rfl ?_
    rintro other row found ⟨rfl, accepted⟩
    exact refused row found accepted

theorem creates_approve (cycleId : Nat) (amount : Option Int) (method : PaymentMethod)
    (reference : Option String) :
    Creates state (unlessRefused state (approveBillingPayment state cycleId amount method reference))
      (.service (.approveBillingPayment cycleId amount method reference)) := by
  obtain ⟨absent, same⟩ | ⟨row, status, found, approved⟩ :=
    approveBillingPayment_cases state cycleId amount method reference
  · rw [same]
    exact creates_none rfl fun other row present => apart_of_absent absent present
  · rw [approved]
    exact creates_one ⟨cycleId, approvedAmount row amount, method, reference, state.now, none⟩ rfl
      (fun other stored present => Iff.rfl)

theorem creates_confirmPayment (transactionId : Nat) (financialTransactionId : String) :
    Creates state (confirmPayment state transactionId financialTransactionId)
      (.service (.confirmPayment transactionId financialTransactionId)) := by
  obtain ⟨transaction, cycleId, row, riderPayments, found, present, credits, same⟩ |
    ⟨uncredited, transactions, riderPayments, same⟩ :=
      confirmPayment_cases state transactionId financialTransactionId
  · rw [same]
    refine creates_one ⟨cycleId, transaction.amount, .MOBILE_MONEY, some financialTransactionId,
      state.now, some transactionId⟩ ?_ ?_
    · by_cases full : row.totalDue ≤ row.totalPaid + transaction.amount
      · rw [if_pos full]
        exact afterSettlement_payments _
      · rw [if_neg full]
        rfl
    · intro other stored kept
      constructor
      · rintro rfl
        obtain rfl := Option.some.inj (present.symm.trans kept)
        exact ⟨transaction, found, credits⟩
      · rintro ⟨paidFor, known, pays, _⟩
        obtain rfl := Option.some.inj (found.symm.trans known)
        exact Option.some.inj (credits.1.symm.trans pays)
  · rw [same]
    refine creates_none rfl ?_
    rintro cycleId row present ⟨transaction, found, credits⟩
    exact uncredited transaction found cycleId row present credits

/-- The jobs and the generation of invoices create no payments. -/
theorem scheduled_payments (state : BillingState) :
    (generateBillingCycles state).payments = state.payments ∧
      (expireTrials state).payments = state.payments ∧
      (autoMarkOverdue state).payments = state.payments ∧
      (auditDailyPaygUsage state).payments = state.payments := by
  refine ⟨?_, ?_, (autoMarkOverdue_tables state).2.2, (onlyCycles_audit state).payments⟩
  · cases generateBillingCycles_cases state with
    | inl generated =>
      rw [generated]
      exact generateQuietly_payments false
    | inr same => rw [same]
  · cases expireTrials_cases state with
    | inl expired =>
      rw [expired]
      exact generateQuietly_payments false
    | inr same => rw [same]

theorem voidCycle_payments (cycleId : Nat) :
    (unlessRefused state (voidCycle state cycleId)).payments = state.payments := by
  obtain ⟨row, found, unpaid, voided⟩ | ⟨paid, same⟩ := voidCycle_cases state cycleId
  · rw [voided]
    rfl
  · rw [same]

theorem creates (state : BillingState) (operation : CycleOperation) :
    Creates state (operateCycle state operation) operation := by
  have kept : ∀ {next : BillingState} {operation : CycleOperation},
      next.payments = state.payments → (∀ cycleId row, ¬ Pays state operation cycleId row) →
      Creates state next operation :=
    fun payments unpaid => creates_none payments fun cycleId row _ => unpaid cycleId row
  obtain ⟨generated, expired, overdue, audited⟩ := scheduled_payments state
  cases operation with
  | reconcilePaygCycle cycleId =>
    exact kept (onlyCycles_reconcile state cycleId).payments (fun _ _ pays => pays)
  | service operation =>
    cases operation with
    | tick elapsed => exact kept rfl (fun _ _ pays => pays)
    | finalizeTrip finished => exact kept rfl (fun _ _ pays => pays)
    | generateCycle isManual => exact kept (generateQuietly_payments isManual) (fun _ _ pays => pays)
    | generateBillingCycles => exact kept generated (fun _ _ pays => pays)
    | expireTrials => exact kept expired (fun _ _ pays => pays)
    | autoMarkOverdue => exact kept overdue (fun _ _ pays => pays)
    | auditDailyPaygUsage => exact kept audited (fun _ _ pays => pays)
    | recordPayment cycleId dto => exact creates_recordPayment cycleId dto
    | approveBillingPayment cycleId amount method reference =>
      exact creates_approve cycleId amount method reference
    | confirmPayment transactionId financialTransactionId =>
      exact creates_confirmPayment transactionId financialTransactionId
    | voidCycle cycleId => exact kept (voidCycle_payments cycleId) (fun _ _ pays => pays)

theorem paymentsOf_kept_iff (operation : CycleOperation) {cycleId : Nat}
    (found : state.cycles[cycleId]? = some row) :
    paymentsOf (operateCycle state operation) cycleId = paymentsOf state cycleId ↔
      ¬ Pays state operation cycleId row := by
  obtain ⟨created, payments, paid⟩ := creates state operation
  rw [paymentsOf, payments, List.filter_append, ← paid cycleId row found, paymentsOf]
  simp

end EmotoFleet.Billing
