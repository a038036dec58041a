import EmotoFleet.Billing.CycleChanges

/-!
# The clock and the settings during a run

No operation sets the clock back, and none changes the settings in force: the job
that marks overdue invoices stores the default settings where there are none, and
these are the ones in force before.
-/

namespace EmotoFleet.Billing

variable {state : BillingState}

/-- Time does not go back, and the settings in force stay the same. -/
def KeepsSettings (before after : BillingState) : Prop :=
  before.now ≤ after.now ∧ getConfig after = getConfig before

theorem keepsSettings_same {before after : BillingState} (now : after.now = before.now)
    (config : after.config = before.config) : KeepsSettings before after := by
  rw [KeepsSettings, now, getConfig, getConfig, config]
  exact ⟨le_refl _, rfl⟩

theorem restoreFleet_settings (state : BillingState) :
    (restoreFleet state).now = state.now ∧ (restoreFleet state).config = state.config := by
  cases restoreFleet_cases state with
  | inl unpaid =>
    rw [unpaid]
    exact ⟨rfl, rfl⟩
  | inr active =>
    rw [active]
    exact ⟨rfl, rfl⟩

theorem generateQuietly_settings (state : BillingState) (isManual : Bool) :
    (generateQuietly state isManual).now = state.now ∧
      (generateQuietly state isManual).config = state.config := by
  cases isManual with
  | true =>
    rw [generateQuietly_manual]
    exact ⟨rfl, rfl⟩
  | false =>
    cases generateQuietly_automatic state with
    | inl refused =>
      rw [refused.1]
      exact ⟨rfl, rfl⟩
    | inr generated =>
      rw [generated.1]
      exact ⟨rfl, rfl⟩

theorem afterSettlement_settings (state : BillingState) :
    (afterSettlement state).now = state.now ∧ (afterSettlement state).config = state.config := by
  obtain ⟨now, config⟩ := generateQuietly_settings (restoreFleet state) true
  obtain ⟨sameNow, sameConfig⟩ := restoreFleet_settings state
  exact ⟨now.trans sameNow, config.trans sameConfig⟩

theorem keepsSettings_generateQuietly (state : BillingState) (isManual : Bool) :
    KeepsSettings state (generateQuietly state isManual) :=
  keepsSettings_same (generateQuietly_settings state isManual).1
    (generateQuietly_settings state isManual).2

theorem keepsSettings_autoMarkOverdue (state : BillingState) :
    KeepsSettings state (autoMarkOverdue state) := by
  obtain ⟨now, config, _⟩ := autoMarkOverdue_tables state
  rw [KeepsSettings, now, getConfig, config]
  exact ⟨le_refl _, rfl⟩

theorem keepsSettings_onlyCycles {before after : BillingState} (only : OnlyCycles before after) :
    KeepsSettings before after :=
  keepsSettings_same only.now only.config

theorem keepsSettings_recordPayment (cycleId : Nat) (dto : RecordBillingPaymentDto) :
    KeepsSettings state (unlessRefused state (recordPayment state cycleId dto)) := by
  obtain ⟨row, found, accepted, taken⟩ | ⟨refused, same⟩ := recordPayment_cases state cycleId dto
  · rw [taken]
    split
    · exact keepsSettings_same (afterSettlement_settings _).1 (afterSettlement_settings _).2
    · exact keepsSettings_same rfl rfl
  · rw [same]
    exact keepsSettings_same rfl rfl

theorem keepsSettings_confirmPayment (transactionId : Nat) (financialTransactionId : String) :
    KeepsSettings state (confirmPayment state transactionId financialTransactionId) := by
  obtain ⟨transaction, cycleId, row, riderPayments, found, present, credits, same⟩ |
    ⟨uncredited, transactions, riderPayments, same⟩ :=
      confirmPayment_cases state transactionId financialTransactionId
  · rw [same]
    split
    · exact keepsSettings_same (afterSettlement_settings _).1 (afterSettlement_settings _).2
    · exact keepsSettings_same rfl rfl
  · rw [same]
    exact keepsSettings_same rfl rfl

theorem settings (state : BillingState) (operation : CycleOperation) :
    KeepsSettings state (operateCycle state operation) := by
  cases operation with
  | reconcilePaygCycle cycleId => exact keepsSettings_onlyCycles (onlyCycles_reconcile state cycleId)
  | service operation =>
    cases operation with
    | tick elapsed => exact ⟨by simp [operateCycle, operate], rfl⟩
    | finalizeTrip finished => exact keepsSettings_same rfl rfl
    | generateCycle isManual => exact keepsSettings_generateQuietly state isManual
    | generateBillingCycles =>
      cases generateBillingCycles_cases state with
      | inl generated =>
        rw [operateCycle, operate, generated]
        exact keepsSettings_generateQuietly state false
      | inr same =>
        rw [operateCycle, operate, same]
        exact keepsSettings_same rfl rfl
    | expireTrials =>
      cases expireTrials_cases state with
      | inl expired =>
        rw [operateCycle, operate, expired]
        exact keepsSettings_generateQuietly _ false
      | inr same =>
        rw [operateCycle, operate, same]
        exact keepsSettings_same rfl rfl
    | autoMarkOverdue => exact keepsSettings_autoMarkOverdue state
    | auditDailyPaygUsage => exact keepsSettings_onlyCycles (onlyCycles_audit state)
    | recordPayment cycleId dto => exact keepsSettings_recordPayment cycleId dto
    | approveBillingPayment cycleId amount method reference =>
      obtain ⟨absent, same⟩ | ⟨row, status, found, approved⟩ :=
        approveBillingPayment_cases state cycleId amount method reference
      · rw [operateCycle, operate, same]
        exact keepsSettings_same rfl rfl
      · rw [operateCycle, operate, approved]
        exact keepsSettings_same rfl rfl
    | confirmPayment transactionId financialTransactionId =>
      exact keepsSettings_confirmPayment transactionId financialTransactionId
    | voidCycle cycleId =>
      obtain ⟨row, found, unpaid, voided⟩ | ⟨paid, same⟩ := voidCycle_cases state cycleId
      · rw [operateCycle, operate, voided]
        exact keepsSettings_same rfl rfl
      · rw [operateCycle, operate, same]
        exact keepsSettings_same rfl rfl

end EmotoFleet.Billing
