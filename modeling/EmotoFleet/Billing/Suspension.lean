import EmotoFleet.Billing.InvoiceStatus

/-!
# When a fleet is suspended

The daily job marks every open invoice overdue that is past its due date and the
period of grace, and suspends the fleet. It does not look at the amounts. An invoice
on which nothing is due stays open, since no payment of at least one franc is
accepted for it: the invoice of a registration, of a period without trips, or one
with a full discount. So does one that a reconciliation has brought down to what has
been paid. The job suspends the fleet for these as well.
-/

namespace EmotoFleet.Billing

open Runs

variable {state : BillingState} {row : BillingCycle}

/-- The job marks an invoice overdue, and suspends the fleet, only for an invoice with
something left to pay. -/
def SuspendsJustly (state : BillingState) (operation : CycleOperation) (next : BillingState) : Prop :=
  operation = .service .autoMarkOverdue →
    (∀ (cycleId : Nat) (row later : BillingCycle), state.cycles[cycleId]? = some row →
      next.cycles[cycleId]? = some later → row.status ≠ .OVERDUE → later.status = .OVERDUE →
      row.totalPaid < row.totalDue) ∧
    (state.fleet.subscriptionStatus ≠ .PAST_DUE → next.fleet.subscriptionStatus = .PAST_DUE →
      ∃ row ∈ state.cycles, isOpen row = true ∧ row.totalPaid < row.totalDue)

/-- When the job runs, something is left to pay on every open invoice past its grace. -/
def OwesPastGrace (state : BillingState) (operation : CycleOperation) (_ : BillingState) : Prop :=
  operation = .service .autoMarkOverdue →
    ∀ row ∈ state.cycles, isOpen row = true → PastGrace state row → row.totalPaid < row.totalDue

/-- When the job runs, no open invoice past its grace has nothing due and nothing paid. -/
def BilledPastGrace (state : BillingState) (operation : CycleOperation) (_ : BillingState) : Prop :=
  operation = .service .autoMarkOverdue →
    ∀ row ∈ state.cycles, isOpen row = true → PastGrace state row →
      ¬ (row.totalDue = 0 ∧ row.totalPaid = 0)

/-- No reconciliation brings the amount due of an invoice with a payment down to what
has been paid. -/
def KeepsOwing (state : BillingState) (operation : CycleOperation) (_ : BillingState) : Prop :=
  ∀ cycleId row, state.cycles[cycleId]? = some row → Reconciles state operation cycleId row →
    0 < row.totalPaid → row.totalPaid < (reconciled state row).totalDue

/-! What the job does -/

theorem job_row {cycleId : Nat} (found : state.cycles[cycleId]? = some row) :
    (autoMarkOverdue state).cycles[cycleId]? = some (overdueRow state row) := by
  rw [autoMarkOverdue_cycles, List.getElem?_map, found]
  rfl

/-- The job suspends an active fleet only where it marks an invoice. -/
theorem job_suspends (active : state.fleet.subscriptionStatus ≠ .PAST_DUE)
    (suspended : (autoMarkOverdue state).fleet.subscriptionStatus = .PAST_DUE) :
    ∃ row ∈ state.cycles, isOpen row = true ∧ PastGrace state row := by
  rw [autoMarkOverdue] at suspended
  simp only [healFleet, active, if_false] at suspended
  split at suspended
  · rename_i overdue
    obtain ⟨due, member, marks⟩ := List.any_eq_true.mp overdue
    obtain ⟨row, present, rfl⟩ := List.mem_map.mp member
    obtain ⟨dueDate, columns⟩ := healDueDate_columns row
    obtain ⟨opened, past⟩ := of_decide_eq_true marks
    have shown : isOpen row = true := by
      rw [columns] at opened
      exact decide_eq_true opened
    rw [healDueDate_open shown] at past
    exact ⟨row, present, shown, past⟩
  · exact absurd suspended active

theorem suspendsJustly_iff {operation : CycleOperation}
    (founded : ∀ row ∈ state.cycles, Founded state row) :
    SuspendsJustly state operation (operateCycle state operation) ↔
      OwesPastGrace state operation (operateCycle state operation) := by
  constructor
  · rintro justly rfl row member opened past
    obtain ⟨cycleId, bound, same⟩ := List.mem_iff_getElem.mp member
    have found : state.cycles[cycleId]? = some row := by
      rw [List.getElem?_eq_getElem bound, same]
    obtain ⟨dueDate, columns⟩ := overdueRow_columns (founded row member).late
    have fresh := fresh_of_open opened
    have marked : (overdueRow state row).status = .OVERDUE := by
      rw [columns, if_pos ⟨opened, past⟩]
    exact (justly rfl).1 cycleId row _ found (job_row found) fresh marked
  · rintro owes rfl
    refine ⟨?_, ?_⟩
    · intro cycleId row later found after fresh marked
      have member := List.mem_of_getElem? found
      obtain rfl := Option.some.inj ((job_row found).symm.trans after)
      obtain ⟨dueDate, columns⟩ := overdueRow_columns (founded row member).late
      by_cases marks : isOpen row = true ∧ PastGrace state row
      · exact owes rfl row member marks.1 marks.2
      · rw [columns, if_neg marks] at marked
        exact absurd marked fresh
    · intro active suspended
      obtain ⟨row, member, opened, past⟩ := job_suspends active suspended
      exact ⟨row, member, opened, owes rfl row member opened past⟩

/-! Invoices on which nothing is left to pay -/

/-- Something is left to pay on an unsettled invoice, or nothing is due and nothing has
been paid. -/
def Owing (row : BillingCycle) : Prop :=
  isUnsettled row.status = true → row.totalPaid < row.totalDue ∨ row.totalDue = 0 ∧ row.totalPaid = 0

theorem owing_paid (status : row.status = paymentStatus row.totalPaid row.totalDue) : Owing row := by
  intro unsettled
  cases paymentStatus_cases row.totalPaid row.totalDue with
  | inl paid =>
    rw [status, paid.1] at unsettled
    cases unsettled
  | inr partly => exact Or.inl partly.2

theorem owing_revision {operation : CycleOperation} {cycleId : Nat} {later : BillingCycle}
    {next : BillingState} (found : state.cycles[cycleId]? = some row) (late : Late state row)
    (keeps : KeepsOwing state operation next) (owing : Owing row)
    (changed : Revision state operation cycleId row later) : Owing later := by
  cases changed with
  | kept => exact owing
  | paid newTotalPaid paidAt within => exact owing_paid rfl
  | approved amount method reference asked => exact owing_paid rfl
  | voided => exact fun unsettled => absurd unsettled (by simp [isUnsettled])
  | reconciled visits =>
    intro unsettled
    have due : 0 ≤ (reconciled state row).totalDue := le_max_left _ _
    have same : (reconciled state row).totalPaid = row.totalPaid := rfl
    by_cases paid : 0 < row.totalPaid
    · exact Or.inl (keeps cycleId row found visits paid)
    · omega
  | marked =>
    obtain ⟨dueDate, columns⟩ := overdueRow_columns late
    rw [columns]
    by_cases marks : isOpen row = true ∧ PastGrace state row
    · exact fun _ => owing (unsettled_of_open marks.1)
    · simp only [if_neg marks]
      exact owing

theorem owing_next (middle : BillingState) : Owing (nextCycle middle) := by
  obtain ⟨unpaid, due⟩ := nextCycle_unpaid middle
  intro _
  omega

theorem owing_operate {operation : CycleOperation} {next : BillingState}
    (founded : ∀ row ∈ state.cycles, Founded state row) (owing : ∀ row ∈ state.cycles, Owing row)
    (keeps : KeepsOwing state operation next) :
    ∀ row ∈ (operateCycle state operation).cycles, Owing row := by
  apply rows_operate operation ?_ owing_next
  intro cycleId row later found changed
  have present := List.mem_of_getElem? found
  exact owing_revision found (founded row present).late keeps (owing row present) changed

theorem owing_begins (begins : Begins state) : ∀ row ∈ state.cycles, Owing row := by
  intro row member
  obtain ⟨rate, rfl⟩ := begins_rows begins member
  exact fun _ => Or.inr ⟨rfl, rfl⟩

/-- An open invoice of the kind above is one with nothing due and nothing paid, or
something is left to pay on it. -/
theorem owesPastGrace_iff {operation : CycleOperation} {next : BillingState}
    (owing : ∀ row ∈ state.cycles, Owing row) :
    OwesPastGrace state operation next ↔ BilledPastGrace state operation next := by
  constructor
  · intro owes job row member opened past
    have short := owes job row member opened past
    omega
  · intro billed job row member opened past
    have unsettled := unsettled_of_open opened
    exact (owing row member unsettled).resolve_right (billed job row member opened past)

/-! Runs -/

/-- From registration on, fleets are only suspended for invoices with something left to
pay in exactly the runs in which, whenever the job runs, something is left to pay on
every open invoice past its grace. Where no reconciliation brings an invoice down to
what has been paid, these are the runs in which no open invoice past its grace has
nothing due and nothing paid. -/
theorem suspensions_just_iff (start : BillingState) (operations : List CycleOperation)
    (begins : Begins start) :
    (Along (total operateCycle) SuspendsJustly start operations ↔
      Along (total operateCycle) OwesPastGrace start operations) ∧
    (Along (total operateCycle) KeepsOwing start operations →
      (Along (total operateCycle) SuspendsJustly start operations ↔
        Along (total operateCycle) BilledPastGrace start operations)) := by
  constructor
  · refine along_iff_of_invariant (fun state => ∀ row ∈ state.cycles, Founded state row) ?_ ?_
      operations (founded_begins begins)
    · intro state operation next founded moved
      obtain rfl := Option.some.inj moved
      exact suspendsJustly_iff founded
    · intro state operation next founded _ moved
      obtain rfl := Option.some.inj moved
      exact founded_operate operation founded
  · refine along_iff_of_guarded (fun state => (∀ row ∈ state.cycles, Founded state row) ∧
      ∀ row ∈ state.cycles, Owing row) ?_ ?_ ⟨founded_begins begins, owing_begins begins⟩
    · rintro state operation next ⟨founded, owing⟩ _ moved
      obtain rfl := Option.some.inj moved
      exact (suspendsJustly_iff founded).trans (owesPastGrace_iff owing)
    · rintro state operation next ⟨founded, owing⟩ keeps _ moved
      obtain rfl := Option.some.inj moved
      exact ⟨founded_operate operation founded, owing_operate founded owing keeps⟩

/-- Something is left to pay on every open invoice past its grace. -/
def owesAll (state : BillingState) (_ : CycleOperation) (_ : BillingState) : Bool :=
  state.cycles.all fun row =>
    decide (isOpen row = true → PastGrace state row → row.totalPaid < row.totalDue)

theorem owesAll_sound (state : BillingState) (operation : CycleOperation) (next : BillingState)
    (checked : owesAll state operation next = true) : OwesPastGrace state operation next := by
  intro _ row member
  exact of_decide_eq_true (List.all_eq_true.mp checked row member)

/-- A fleet that rides on its first day and has not paid for it twelve days later. -/
theorem suspensions_just_iff_unpaid :
    Along (total operateCycle) SuspendsJustly registeredState
      [.service (.finalizeTrip (tripAt 1772438400000)), .service .auditDailyPaygUsage,
        .service (.tick 1036800000), .service .autoMarkOverdue] :=
  (suspensions_just_iff registeredState _ (.registerFleet _ _ _ _ _ _)).1.mpr
    (along_of_check owesAll_sound (by decide +kernel))

/-- The first invoice becomes overdue with nothing left to pay on it. -/
def marksPaid (state next : BillingState) : Bool :=
  (state.cycles[0]?.any fun row =>
    decide (row.status ≠ .OVERDUE ∧ row.totalDue ≤ row.totalPaid)) &&
  next.cycles[0]?.any fun row => decide (row.status = .OVERDUE)

theorem marksPaid_sound (state next : BillingState) (marks : marksPaid state next = true) :
    ¬ SuspendsJustly state (.service .autoMarkOverdue) next := by
  intro justly
  obtain ⟨before, after⟩ := Bool.and_eq_true_iff.mp marks
  cases found : state.cycles[0]? with
  | none => simp [found] at before
  | some row =>
    cases present : next.cycles[0]? with
    | none => simp [present] at after
    | some later =>
      rw [found] at before
      rw [present] at after
      obtain ⟨fresh, full⟩ := of_decide_eq_true before
      have short := (justly rfl).1 0 row later found present fresh (of_decide_eq_true after)
      omega

/-- A fleet that registers and never rides is suspended for its first invoice. -/
theorem unused_fleet_suspended :
    ¬ ∀ (start : BillingState) (operations : List CycleOperation), Begins start →
      Along (total operateCycle) SuspendsJustly start operations := by
  intro always
  exact not_along_of_check registeredState [.service .auditDailyPaygUsage, .service (.tick 1036800000)]
    (.service .autoMarkOverdue) marksPaid_sound (by decide +kernel)
    (always registeredState _ (.registerFleet _ _ _ _ _ _))

end EmotoFleet.Billing
