import EmotoFleet.Billing.PaymentRows

/-!
# Paid and void invoices

A paid invoice should stay paid and a void one void, and neither should take
further payments. Each way of paying checks its own subset of this: a manual
payment and a confirmation refuse a paid invoice but not a void one, an approval by
the headquarters refuses neither. The other operations leave such invoices alone.
-/

namespace EmotoFleet.Billing

open Runs

variable {state : BillingState} {row : BillingCycle}

def IsFinal (status : BillingCycleStatus) : Prop := status = .PAID ∨ status = .VOID

instance (status : BillingCycleStatus) : Decidable (IsFinal status) := by
  unfold IsFinal
  infer_instance

/-- Paid and void invoices keep their status and their total, and no payment is
created for them. -/
def KeepsFinal (state : BillingState) (_ : CycleOperation) (next : BillingState) : Prop :=
  ∀ cycleId row, state.cycles[cycleId]? = some row → IsFinal row.status →
    (∃ later, next.cycles[cycleId]? = some later ∧ later.status = row.status ∧
      later.totalPaid = row.totalPaid) ∧
    paymentsOf next cycleId = paymentsOf state cycleId

/-- Nobody approves a payment of a paid or void invoice, no manual payment of a void
one is within what is left to pay, and no confirmation is for a void one. -/
def SparesFinal (state : BillingState) (operation : CycleOperation) (_ : BillingState) : Prop :=
  match operation with
  | .service (.approveBillingPayment cycleId _ _ _) =>
    ∀ row, state.cycles[cycleId]? = some row → ¬ IsFinal row.status
  | .service (.recordPayment cycleId dto) =>
    ∀ row, state.cycles[cycleId]? = some row → row.status = .VOID →
      row.totalDue - row.totalPaid < dto.amount
  | .service (.confirmPayment transactionId _) =>
    ∀ transaction cycleId row, state.momoTransactions[transactionId]? = some transaction →
      transaction.billingCycleId = some cycleId → state.cycles[cycleId]? = some row →
      row.status ≠ .VOID
  | _ => True

/-- The condition says that no operation pays for a final invoice. -/
theorem sparesFinal_iff (operation : CycleOperation) (next : BillingState) :
    SparesFinal state operation next ↔
      ∀ cycleId row, state.cycles[cycleId]? = some row → IsFinal row.status →
        ¬ Pays state operation cycleId row := by
  cases operation with
  | reconcilePaygCycle cycleId => simp [SparesFinal, Pays]
  | service operation =>
    cases operation with
    | approveBillingPayment cycleId amount method reference =>
      constructor
      · rintro spares other row found final rfl
        exact spares row found final
      · intro spares row found final
        exact spares cycleId row found final rfl
    | recordPayment cycleId dto =>
      constructor
      · rintro spares other row found final ⟨rfl, unpaid, within⟩
        cases final with
        | inl paid => exact unpaid paid
        | inr void => exact absurd (spares row found void) (not_lt.mpr within)
      · intro spares row found void
        by_contra within
        have unpaid : row.status ≠ .PAID := by
          rw [void]
          decide
        exact spares cycleId row found (Or.inr void) ⟨rfl, unpaid, not_lt.mp within⟩
    | confirmPayment transactionId financialTransactionId =>
      constructor
      · rintro spares cycleId row found final ⟨transaction, same, pays, unpaid⟩
        cases final with
        | inl paid => exact unpaid paid
        | inr void => exact spares transaction cycleId row same pays found void
      · intro spares transaction cycleId row same pays found void
        have unpaid : row.status ≠ .PAID := by
          rw [void]
          decide
        exact spares cycleId row found (Or.inr void) ⟨transaction, same, pays, unpaid⟩
    | _ => simp [SparesFinal, Pays]

theorem overdueRow_final (final : IsFinal row.status) : overdueRow state row = row := by
  have settled : isUnsettled row.status = false := by
    cases final with
    | inl paid => simp [isUnsettled, paid]
    | inr void => simp [isUnsettled, void]
  have healed : healDueDate row = row := by simp [healDueDate, settled]
  have unmarked : isOverdue state.now (getConfig state).gracePeriodDays row = false := by
    cases final with
    | inl paid => simp [isOverdue, paid]
    | inr void => simp [isOverdue, void]
  have kept : healStatus state.now (getConfig state).gracePeriodDays row = row := by
    cases final with
    | inl paid => simp [healStatus, paid]
    | inr void => simp [healStatus, void]
  simp [overdueRow, healed, kept, markOverdue, unmarked]

theorem reconciledRow_final (final : IsFinal row.status) : reconciledRow state row = row := by
  have skipped : row.status = .PAID ∨ row.status = .VOID ∨ isPayg state.fleet = false :=
    final.imp_right Or.inl
  exact if_pos skipped

/-- Without a payment, a final row is kept. -/
theorem revise_final {operation : CycleOperation} {cycleId : Nat} (final : IsFinal row.status)
    (unpaid : ¬ Pays state operation cycleId row) : revise state operation cycleId row = row := by
  cases operation with
  | reconcilePaygCycle reconciledId => simp [revise, reconciledRow_final final]
  | service operation =>
    cases operation with
    | recordPayment paidId dto => exact if_neg unpaid
    | approveBillingPayment paidId amount method reference => exact if_neg unpaid
    | confirmPayment transactionId financialTransactionId =>
      cases found : state.momoTransactions[transactionId]? with
      | none => simp [revise, found]
      | some transaction =>
        have uncredited : ¬ Credits transaction cycleId row :=
          fun credits => unpaid ⟨transaction, found, credits⟩
        simp [revise, found, uncredited]
    | voidCycle voidedId =>
      cases final with
      | inl paid => simp [revise, paid]
      | inr void =>
        have same : { row with status := .VOID } = row := by rw [← void]
        simp [revise, same]
    | autoMarkOverdue => exact overdueRow_final final
    | auditDailyPaygUsage => simp [revise, reconciledRow_final final]
    | _ => rfl

theorem keepsFinal_iff (operation : CycleOperation) :
    KeepsFinal state operation (operateCycle state operation) ↔
      SparesFinal state operation (operateCycle state operation) := by
  rw [sparesFinal_iff]
  constructor
  · intro kept cycleId row found final
    exact (paymentsOf_kept_iff operation found).mp (kept cycleId row found final).2
  · intro spares cycleId row found final
    have unpaid := spares cycleId row found final
    refine ⟨⟨_, revised_row operation found, ?_⟩, (paymentsOf_kept_iff operation found).mpr unpaid⟩
    rw [revise_final final unpaid]
    exact ⟨rfl, rfl⟩

/-- Paid and void invoices are final throughout exactly the runs in which no step is
a payment of one of them. -/
theorem final_kept_iff (start : BillingState) (operations : List CycleOperation) :
    Along (total operateCycle) KeepsFinal start operations ↔
      Along (total operateCycle) SparesFinal start operations := by
  apply along_congr
  intro state operation next moved
  obtain rfl := Option.some.inj moved
  exact keepsFinal_iff operation

/-- The first invoice is void before the step and not after it. -/
def revives (state next : BillingState) : Bool :=
  state.cycles[0]?.any (fun row => decide (row.status = .VOID)) &&
    next.cycles[0]?.all fun row => decide (row.status ≠ .VOID)

theorem revives_sound {operation : CycleOperation} (middle next : BillingState)
    (broken : revives middle next = true) : ¬ KeepsFinal middle operation next := by
  intro kept
  obtain ⟨before, after⟩ := Bool.and_eq_true_iff.mp broken
  cases found : middle.cycles[0]? with
  | none => simp [found] at before
  | some row =>
    have void : row.status = .VOID := by simpa [found] using before
    obtain ⟨⟨later, present, same, _⟩, _⟩ := kept 0 row found (Or.inr void)
    have revived : later.status ≠ .VOID := by simpa [present] using after
    exact revived (same.trans void)

/-- An invoice for one day that is voided and then paid for. -/
theorem void_invoice_revived :
    ¬ ∀ (start : BillingState) (operations : List CycleOperation), start.cycles = [] →
      Along (total operateCycle) KeepsFinal start operations := by
  intro always
  exact not_along_of_check unbilledState [.service (.finalizeTrip (tripAt 1772438400000)),
      .service (.generateCycle true), .service (.voidCycle 0)]
    (.service (.recordPayment 0 oneDay)) revives_sound (by decide +kernel) (always unbilledState _ rfl)

end EmotoFleet.Billing
