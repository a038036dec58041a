import EmotoFleet.Billing.CycleChanges

/-!
# Invoices for periods to come

The scheduled jobs generate an invoice only once its period has begun. A payment
that settles an invoice generates the next one as well, by the manual path, which
does not look at the clock: settling the newest invoice before its period is over
bills a period that lies ahead, and settling that one the period after.
-/

namespace EmotoFleet.Billing

open Runs

variable {state : BillingState}

/-- An invoice that nobody has asked for is generated once its period has begun. -/
def GeneratesBegun (state : BillingState) (operation : CycleOperation) (next : BillingState) : Prop :=
  operation ≠ .service (.generateCycle true) →
    ∀ cycle ∈ next.cycles.drop state.cycles.length, cycle.periodStart ≤ state.now

/-- A payment settles an invoice only when the period of the newest one is over. -/
def SettlesInTime (state : BillingState) (operation : CycleOperation) (_ : BillingState) : Prop :=
  Settles state operation → ∀ last, lastCycle state.cycles = some last → last.periodEnd ≤ state.now

/-- A payment is for an invoice, so there is a newest one. -/
theorem settles_last {operation : CycleOperation} (settles : Settles state operation) :
    ∃ last, lastCycle state.cycles = some last := by
  have stored : ∃ (cycleId : Nat) (row : BillingCycle), state.cycles[cycleId]? = some row := by
    cases operation with
    | reconcilePaygCycle cycleId => exact settles.elim
    | service operation =>
      cases operation with
      | recordPayment cycleId dto =>
        obtain ⟨row, found, _⟩ := settles
        exact ⟨cycleId, row, found⟩
      | confirmPayment transactionId financialTransactionId =>
        obtain ⟨_, cycleId, row, _, found, _⟩ := settles
        exact ⟨cycleId, row, found⟩
      | _ => exact settles.elim
  obtain ⟨cycleId, row, found⟩ := stored
  cases newest : lastCycle state.cycles with
  | some last => exact ⟨last, rfl⟩
  | none =>
    rw [lastCycle_eq_none.mp newest] at found
    cases found

theorem nextPeriod_start {last : BillingCycle} (newest : lastCycle state.cycles = some last) :
    (nextPeriod state).1 = last.periodEnd := by
  simp [nextPeriod, newest]

theorem generatesBegun_iff (operation : CycleOperation) :
    GeneratesBegun state operation (operateCycle state operation) ↔
      SettlesInTime state operation (operateCycle state operation) := by
  obtain ⟨added, cycles, source⟩ := changes state operation
  have new : (operateCycle state operation).cycles.drop state.cycles.length = added := by
    rw [cycles]
    exact List.drop_left' (by simp)
  rw [GeneratesBegun, new]
  cases source with
  | none unsettled unasked =>
    refine iff_of_true ?_ (fun settles => absurd settles unsettled)
    intro _ cycle member
    cases member
  | begun middle automatic cycles period =>
    refine iff_of_true ?_ (fun settles => absurd settles (automatic_kept state automatic).2.1)
    intro _ cycle member
    obtain rfl := List.mem_singleton.mp member
    exact period
  | asked same =>
    subst same
    exact iff_of_true (fun unasked => absurd rfl unasked) (fun settles => settles.elim)
  | settled middle settles period =>
    obtain ⟨last, newest⟩ := settles_last settles
    have start : (nextCycle middle).periodStart = last.periodEnd := by
      rw [nextCycle_start, period, nextPeriod_start newest]
    constructor
    · intro begun _ other same
      obtain rfl := Option.some.inj (newest.symm.trans same)
      rw [← start]
      refine begun ?_ _ List.mem_cons_self
      rintro rfl
      exact settles.elim
    · intro inTime _ cycle member
      obtain rfl := List.mem_singleton.mp member
      rw [start]
      exact inTime settles last newest

/-- No invoice is generated before its period begins in exactly those runs in which
no payment settles an invoice before the period of the newest one is over. -/
theorem begun_periods_iff (start : BillingState) (operations : List CycleOperation) :
    Along (total operateCycle) GeneratesBegun start operations ↔
      Along (total operateCycle) SettlesInTime start operations := by
  apply along_congr
  intro state operation next moved
  obtain rfl := Option.some.inj moved
  exact generatesBegun_iff operation

/-- The newest invoice is for a period to come. -/
def billsAhead (state next : BillingState) : Bool :=
  (next.cycles.drop state.cycles.length).any fun cycle => decide (state.now < cycle.periodStart)

theorem billsAhead_sound {operation : CycleOperation}
    (unasked : operation ≠ .service (.generateCycle true)) (middle next : BillingState)
    (ahead : billsAhead middle next = true) : ¬ GeneratesBegun middle operation next := by
  intro begun
  obtain ⟨cycle, member, later⟩ := List.any_eq_true.mp ahead
  exact absurd (begun unasked cycle member) (not_le.mpr (of_decide_eq_true later))

/-- The first invoice is paid on its first day, and the second week is billed. -/
theorem second_week_billed_ahead :
    ¬ ∀ (start : BillingState) (operations : List CycleOperation), start.cycles = [] →
      Along (total operateCycle) GeneratesBegun start operations := by
  intro always
  exact not_along_of_check unbilledState [.service (.finalizeTrip (tripAt 1772438400000)),
      .service .generateBillingCycles]
    (.service (.recordPayment 0 oneDay)) (billsAhead_sound (by simp)) (by decide +kernel)
    (always unbilledState _ rfl)

end EmotoFleet.Billing
