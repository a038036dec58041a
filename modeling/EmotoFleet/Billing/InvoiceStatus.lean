import EmotoFleet.Billing.Registration
import EmotoFleet.Billing.Settings

/-!
# What the status of an invoice says

A payment sets the status from the total and the amount due, and so does a
generation. Reconciliation changes the amount due and leaves the status as it is, and
the job that marks overdue invoices changes the status alone. Over a whole run, the
status of an invoice that is neither void nor for a trial still says whether it is
paid: unless more is approved than is left to pay, or a reconciliation brings the
amount due down to what has been paid, it is paid exactly when the total reaches the
amount due, except that an invoice on which nothing is due may be open.
-/

namespace EmotoFleet.Billing

open Runs

variable {state : BillingState} {row : BillingCycle}

/-- A paid invoice is paid in full, and one that is paid in part says so. -/
def Honest (row : BillingCycle) : Prop :=
  (row.status = .PAID → row.totalDue ≤ row.totalPaid) ∧
    (0 < row.totalPaid → row.totalPaid < row.totalDue →
      row.status = .PARTIAL ∨ row.status = .OVERDUE)

/-! The job that marks overdue invoices -/

/-- The due date, which is the end of the period at least, is more than the period of
grace ago. -/
def PastGrace (state : BillingState) (row : BillingCycle) : Prop :=
  max row.dueDate row.periodEnd < state.now - (getConfig state).gracePeriodDays * DAY_MS

instance (state : BillingState) (row : BillingCycle) : Decidable (PastGrace state row) := by
  unfold PastGrace
  infer_instance

/-- An overdue invoice is past its period and the days of grace. -/
def Late (state : BillingState) (row : BillingCycle) : Prop :=
  row.status = .OVERDUE → graceEnded state.now (getConfig state).gracePeriodDays row = true

/-- An open invoice is unsettled. -/
theorem unsettled_of_open (opened : isOpen row = true) : isUnsettled row.status = true := by
  cases of_decide_eq_true opened with
  | inl pending => simp [isUnsettled, pending]
  | inr partly => simp [isUnsettled, partly]

/-- An open invoice is not overdue yet. -/
theorem fresh_of_open (opened : isOpen row = true) : row.status ≠ .OVERDUE := by
  cases of_decide_eq_true opened with
  | inl pending => simp [pending]
  | inr partly => simp [partly]

/-- An open invoice is due at the end of its period at the earliest. -/
theorem healDueDate_open (opened : isOpen row = true) :
    healDueDate row = { row with dueDate := max row.dueDate row.periodEnd } := by
  have unsettled := unsettled_of_open opened
  by_cases early : row.dueDate < row.periodEnd
  · have later : max row.dueDate row.periodEnd = row.periodEnd := by omega
    simp [healDueDate, unsettled, early, later]
  · have same : max row.dueDate row.periodEnd = row.dueDate := by omega
    simp [healDueDate, early, same]

/-- The repair of the due date changes no other column. -/
theorem healDueDate_columns (row : BillingCycle) :
    ∃ dueDate, healDueDate row = { row with dueDate := dueDate } := by
  unfold healDueDate
  split
  · exact ⟨_, rfl⟩
  · exact ⟨row.dueDate, rfl⟩

/-- The job marks the open invoices that are past their grace, and leaves every other
status as it is. -/
theorem overdueRow_columns (late : Late state row) :
    ∃ dueDate, overdueRow state row =
      { row with
        dueDate := dueDate
        status := if isOpen row = true ∧ PastGrace state row then .OVERDUE else row.status } := by
  by_cases opened : isOpen row = true
  · have fresh := fresh_of_open opened
    have marks : isOverdue state.now (getConfig state).gracePeriodDays
        { row with dueDate := max row.dueDate row.periodEnd } = true ↔ PastGrace state row := by
      simp [isOverdue, PastGrace, of_decide_eq_true opened]
    refine ⟨max row.dueDate row.periodEnd, ?_⟩
    have unhealed : overdueRow state row = markOverdue state.now (getConfig state).gracePeriodDays
        { row with dueDate := max row.dueDate row.periodEnd } := by
      simp [overdueRow, healDueDate_open opened, healStatus, fresh]
    rw [unhealed, markOverdue]
    by_cases past : PastGrace state row
    · rw [if_pos (marks.mpr past), if_pos ⟨opened, past⟩]
    · rw [if_neg (mt marks.mp past), if_neg (fun both => past both.2)]
  · obtain ⟨dueDate, healed⟩ := healDueDate_columns row
    refine ⟨dueDate, ?_⟩
    have kept : healStatus state.now (getConfig state).gracePeriodDays
        { row with dueDate := dueDate } = { row with dueDate := dueDate } := by
      by_cases overdue : row.status = .OVERDUE
      · have ended := late overdue
        simp only [graceEnded] at ended
        simp [healStatus, graceEnded, of_decide_eq_true ended]
      · simp [healStatus, overdue]
    have unmarked : isOverdue state.now (getConfig state).gracePeriodDays
        { row with dueDate := dueDate } = false := by
      have closed : ¬ (row.status = .PENDING ∨ row.status = .PARTIAL) :=
        fun either => opened (decide_eq_true either)
      simp [isOverdue, closed]
    simp [overdueRow, healed, kept, markOverdue, unmarked, opened]

/-- An invoice past its grace is found to be so. -/
theorem graceEnded_of_past (past : PastGrace state row) :
    graceEnded state.now (getConfig state).gracePeriodDays row = true := by
  have bound : row.periodEnd + (getConfig state).gracePeriodDays * DAY_MS ≤ state.now := by
    unfold PastGrace at past
    omega
  exact decide_eq_true bound

/-! What holds without conditions -/

/-- An overdue invoice is late, and outside of trials the status knows of the payments:
a paid invoice is paid in full, and one with a payment is not pending. -/
structure Founded (state : BillingState) (row : BillingCycle) : Prop where
  late : Late state row
  full : row.isTrial = false → row.status = .PAID → row.totalDue ≤ row.totalPaid
  begun : row.isTrial = false → 0 < row.totalPaid →
    row.status = .PARTIAL ∨ row.status = .OVERDUE ∨ row.status = .PAID ∨ row.status = .VOID

/-- A founded invoice that charges says what it is. -/
theorem Founded.honest (founded : Founded state row) (charged : row.isTrial = false)
    (valid : row.status ≠ .VOID) : Honest row := by
  refine ⟨founded.full charged, ?_⟩
  intro some' short
  obtain partly | overdue | paid | void := founded.begun charged some'
  · exact Or.inl partly
  · exact Or.inr overdue
  · exact absurd (founded.full charged paid) (not_le.mpr short)
  · exact absurd void valid

/-- An invoice that is late stays late. -/
theorem late_later {next : BillingState} (settings : KeepsSettings state next)
    (late : Late state row) : Late next row := by
  intro overdue
  have ended := late overdue
  simp only [graceEnded, decide_eq_true_iff] at ended ⊢
  rw [settings.2]
  exact le_trans ended settings.1

/-- An invoice is paid or paid in part. -/
theorem paymentStatus_cases (newTotalPaid totalDue : Int) :
    paymentStatus newTotalPaid totalDue = .PAID ∧ totalDue ≤ newTotalPaid ∨
      paymentStatus newTotalPaid totalDue = .PARTIAL ∧ newTotalPaid < totalDue := by
  by_cases full : totalDue ≤ newTotalPaid
  · exact Or.inl ⟨if_pos full, full⟩
  · exact Or.inr ⟨if_neg full, not_le.mp full⟩

/-- A row that takes its status from what is paid and due. -/
theorem founded_paid (status : row.status = paymentStatus row.totalPaid row.totalDue) :
    Founded state row := by
  cases paymentStatus_cases row.totalPaid row.totalDue with
  | inl paid =>
    rw [paid.1] at status
    exact ⟨by simp [Late, status], fun _ _ => paid.2, fun _ _ => by simp [status]⟩
  | inr partly =>
    rw [partly.1] at status
    exact ⟨by simp [Late, status], by simp [status], fun _ _ => by simp [status]⟩

/-- Every revision keeps an invoice founded. -/
theorem founded_revision {operation : CycleOperation} {cycleId : Nat} {later : BillingCycle}
    (founded : Founded state row) (changed : Revision state operation cycleId row later) :
    Founded state later := by
  cases changed with
  | kept => exact founded
  | paid newTotalPaid paidAt within => exact founded_paid rfl
  | approved amount method reference asked => exact founded_paid rfl
  | voided => exact ⟨by simp [Late], by simp, by simp⟩
  | reconciled visits =>
    exact ⟨founded.late, fun _ paid => absurd paid visits.2.1, founded.begun⟩
  | marked =>
    obtain ⟨dueDate, columns⟩ := overdueRow_columns founded.late
    rw [columns]
    by_cases marks : isOpen row = true ∧ PastGrace state row
    · simp only [if_pos marks]
      have ended := graceEnded_of_past marks.2
      exact ⟨fun _ => ended, by simp, by simp⟩
    · simp only [if_neg marks]
      exact ⟨founded.late, founded.full, founded.begun⟩

/-- The next invoice is founded. -/
theorem founded_next (middle : BillingState) : Founded state (nextCycle middle) := by
  have unpaid := (nextCycle_unpaid middle).1
  cases nextCycle_status middle with
  | inl paid =>
    obtain ⟨status, trial, _⟩ := paid
    exact ⟨by simp [Late, status], by simp [trial], by simp [trial]⟩
  | inr pending =>
    obtain ⟨status, _, _⟩ := pending
    exact ⟨by simp [Late, status], by simp [status], by simp [unpaid]⟩

/-- Every operation keeps the invoices founded. -/
theorem founded_operate (operation : CycleOperation)
    (founded : ∀ row ∈ state.cycles, Founded state row) :
    ∀ row ∈ (operateCycle state operation).cycles, Founded (operateCycle state operation) row := by
  have kept : ∀ row ∈ (operateCycle state operation).cycles, Founded state row := by
    apply rows_operate operation ?_ founded_next
    intro cycleId row later found changed
    exact founded_revision (founded row (List.mem_of_getElem? found)) changed
  intro row member
  obtain ⟨late, full, begun⟩ := kept row member
  exact ⟨late_later (settings state operation) late, full, begun⟩

/-- The first invoices are founded. -/
theorem founded_begins (begins : Begins state) : ∀ row ∈ state.cycles, Founded state row := by
  intro row member
  obtain ⟨rate, rfl⟩ := begins_rows begins member
  exact ⟨by simp [Late, firstCycle], by simp [firstCycle], by simp [firstCycle]⟩

/-! What holds where payments and reconciliations stay within what is due -/

/-- No approval is for more than is left to pay, and no reconciliation brings the
amount due of an invoice with a payment down to what has been paid. -/
def WithinDue (state : BillingState) (operation : CycleOperation) (_ : BillingState) : Prop :=
  ∀ cycleId row, state.cycles[cycleId]? = some row →
    (∀ amount method reference,
      operation = .service (.approveBillingPayment cycleId (some amount) method reference) →
      row.totalPaid + amount ≤ row.totalDue) ∧
    (Reconciles state operation cycleId row → 0 < row.totalPaid →
      row.totalPaid < (reconciled state row).totalDue)

/-- No more is paid than is due, and an invoice with an amount due that has been paid
is not open. -/
def Balanced (row : BillingCycle) : Prop :=
  row.totalPaid ≤ row.totalDue ∧
    (0 < row.totalDue → row.totalDue ≤ row.totalPaid → row.status = .PAID ∨ row.status = .VOID)

/-- An invoice with the status of its payments is in balance. -/
theorem balanced_paid (status : row.status = paymentStatus row.totalPaid row.totalDue)
    (within : row.totalPaid ≤ row.totalDue) : Balanced row := by
  refine ⟨within, ?_⟩
  intro _ full
  rw [status]
  exact Or.inl (paymentStatus_paid.mpr full)

/-- Every revision within the due sum keeps an invoice in balance. -/
theorem balanced_revision {operation : CycleOperation} {cycleId : Nat} {later : BillingCycle}
    {next : BillingState} (found : state.cycles[cycleId]? = some row) (late : Late state row)
    (within : WithinDue state operation next) (balanced : Balanced row)
    (changed : Revision state operation cycleId row later) : Balanced later := by
  obtain ⟨approvals, reconciliations⟩ := within cycleId row found
  have paidWithin := balanced.1
  cases changed with
  | kept => exact balanced
  | paid newTotalPaid paidAt short => exact balanced_paid rfl short
  | approved amount method reference asked =>
    refine balanced_paid rfl ?_
    cases amount with
    | none =>
      have rest : row.totalPaid + max 0 (row.totalDue - row.totalPaid) ≤ row.totalDue := by omega
      exact rest
    | some amount => exact approvals amount method reference asked
  | voided => exact ⟨paidWithin, fun _ _ => Or.inr rfl⟩
  | reconciled visits =>
    have due : 0 ≤ (reconciled state row).totalDue := le_max_left _ _
    have same : (reconciled state row).totalPaid = row.totalPaid := rfl
    by_cases paid : 0 < row.totalPaid
    · have more := reconciliations visits paid
      exact ⟨by omega, fun _ full => by omega⟩
    · exact ⟨by omega, fun _ full => by omega⟩
  | marked =>
    obtain ⟨dueDate, columns⟩ := overdueRow_columns late
    rw [columns]
    refine ⟨paidWithin, ?_⟩
    intro something full
    have closed := balanced.2 something full
    have shut : ¬ isOpen row = true := by
      cases closed with
      | inl paid => simp [isOpen, paid]
      | inr void => simp [isOpen, void]
    simpa [shut] using closed

/-- The next invoice is in balance. -/
theorem balanced_next (middle : BillingState) : Balanced (nextCycle middle) := by
  obtain ⟨unpaid, due⟩ := nextCycle_unpaid middle
  exact ⟨by omega, fun _ full => by omega⟩

/-- Every operation within the due sums keeps the invoices in balance. -/
theorem balanced_operate {operation : CycleOperation} {next : BillingState}
    (founded : ∀ row ∈ state.cycles, Founded state row)
    (balanced : ∀ row ∈ state.cycles, Balanced row) (within : WithinDue state operation next) :
    ∀ row ∈ (operateCycle state operation).cycles, Balanced row := by
  apply rows_operate operation ?_ balanced_next
  intro cycleId row later found changed
  have present := List.mem_of_getElem? found
  exact balanced_revision found (founded row present).late within (balanced row present) changed

/-- The first invoices are in balance. -/
theorem balanced_begins (begins : Begins state) : ∀ row ∈ state.cycles, Balanced row := by
  intro row member
  obtain ⟨rate, rfl⟩ := begins_rows begins member
  exact ⟨le_refl _, fun something => absurd something (by simp [firstCycle])⟩

/-! Runs -/

/-- In every run the invoices are founded. -/
theorem founded_reached {start : BillingState} (begins : Begins start)
    (operations : List CycleOperation) :
    ∀ row ∈ (operations.foldl operateCycle start).cycles,
      Founded (operations.foldl operateCycle start) row := by
  have preserved : ∀ state operation next, (∀ row ∈ state.cycles, Founded state row) → True →
      total operateCycle state operation = some next → ∀ row ∈ next.cycles, Founded next row := by
    intro state operation next founded _ moved
    obtain rfl := Option.some.inj moved
    exact founded_operate operation founded
  exact invariant_reached (fun state => ∀ row ∈ state.cycles, Founded state row) preserved
    (founded_begins begins) (along_true _ _ _) (run_total operateCycle start operations)

/-- In every run within the due sums the invoices are in balance. -/
theorem balanced_reached {start : BillingState} (begins : Begins start)
    (operations : List CycleOperation)
    (within : Along (total operateCycle) WithinDue start operations) :
    ∀ row ∈ (operations.foldl operateCycle start).cycles, Balanced row := by
  have preserved : ∀ state operation next,
      ((∀ row ∈ state.cycles, Founded state row) ∧ ∀ row ∈ state.cycles, Balanced row) →
      WithinDue state operation next → total operateCycle state operation = some next →
      (∀ row ∈ next.cycles, Founded next row) ∧ ∀ row ∈ next.cycles, Balanced row := by
    rintro state operation next ⟨founded, balanced⟩ guarded moved
    obtain rfl := Option.some.inj moved
    exact ⟨founded_operate operation founded, balanced_operate founded balanced guarded⟩
  exact (invariant_reached (fun state => (∀ row ∈ state.cycles, Founded state row) ∧
    ∀ row ∈ state.cycles, Balanced row) preserved ⟨founded_begins begins, balanced_begins begins⟩
    within (run_total operateCycle start operations)).2

/-- After any run, the status of an invoice that is neither void nor for a trial says
whether it is paid: a paid one is paid in full, one that is paid in part is partly
paid or overdue, and, where approvals and reconciliations stay within what is due, no
more is paid than is due, and an invoice with an amount due is paid exactly when all of
it has been paid. -/
theorem statuses_truthful (start : BillingState) (operations : List CycleOperation)
    (begins : Begins start) (row : BillingCycle)
    (member : row ∈ (operations.foldl operateCycle start).cycles)
    (charged : row.isTrial = false) (valid : row.status ≠ .VOID) :
    Honest row ∧ (Along (total operateCycle) WithinDue start operations →
      row.totalPaid ≤ row.totalDue ∧
        (0 < row.totalDue → (row.status = .PAID ↔ row.totalDue ≤ row.totalPaid))) := by
  have founded := founded_reached begins operations row member
  refine ⟨founded.honest charged valid, ?_⟩
  intro within
  have balanced := balanced_reached begins operations within row member
  refine ⟨balanced.1, ?_⟩
  intro something
  constructor
  · exact founded.full charged
  · intro full
    exact (balanced.2 something full).resolve_right valid

/-- A check of the condition for runs without approvals, in which only unpaid invoices
are reconciled. -/
def reconcilesUnpaid (state : BillingState) (operation : CycleOperation) (_ : BillingState) : Bool :=
  match operation with
  | .service (.approveBillingPayment _ _ _ _) => false
  | .service .auditDailyPaygUsage | .reconcilePaygCycle _ =>
    state.cycles.all fun row => decide (row.totalPaid ≤ 0)
  | _ => true

/-- The check is enough. -/
theorem reconcilesUnpaid_sound (state : BillingState) (operation : CycleOperation)
    (next : BillingState) (checked : reconcilesUnpaid state operation next = true) :
    WithinDue state operation next := by
  intro cycleId row found
  have member := List.mem_of_getElem? found
  constructor
  · rintro amount method reference rfl
    cases checked
  · intro visits paid
    have unpaid : row.totalPaid ≤ 0 := by
      obtain rfl | ⟨rfl, _⟩ := visits.1
      · exact of_decide_eq_true (List.all_eq_true.mp checked row member)
      · exact of_decide_eq_true (List.all_eq_true.mp checked row member)
    exact absurd paid (not_lt.mpr unpaid)

/-- A cooperative that has just registered. -/
def registeredState : BillingState :=
  registerFleet 1772438400000 (some defaultConfig) unbilledState.usage [] "fleet-1" ⟨none, none⟩

/-- The first invoice of a fleet with one day of trips, once it is paid. -/
def paidFirstCycle : BillingCycle :=
  { firstCycle 1772438400000 (some defaultConfig) 350 with
    bikeCount := 1
    subtotal := 350
    totalDue := 350
    totalPaid := 350
    status := .PAID
    paidAt := some 1772438400000 }

/-- A fleet that registers, rides for a day and pays for it. -/
theorem statuses_truthful_first_day :
    Honest paidFirstCycle ∧ paidFirstCycle.totalPaid ≤ paidFirstCycle.totalDue ∧
      (0 < paidFirstCycle.totalDue →
        (paidFirstCycle.status = .PAID ↔ paidFirstCycle.totalDue ≤ paidFirstCycle.totalPaid)) := by
  have truthful := statuses_truthful registeredState
    [.service (.finalizeTrip (tripAt 1772438400000)), .service .auditDailyPaygUsage,
      .service (.recordPayment 0 oneDay)] (.registerFleet _ _ _ _ _ _) paidFirstCycle
    (List.mem_of_getElem? (i := 0) (by decide +kernel)) rfl (by decide)
  exact ⟨truthful.1,
    truthful.2 (along_of_check reconcilesUnpaid_sound (by decide +kernel))⟩

/-- The first invoice of a fleet is pending with nothing due on it. -/
theorem first_invoice_open :
    ¬ ∀ (start : BillingState) (operations : List CycleOperation), Begins start →
      ∀ row ∈ (operations.foldl operateCycle start).cycles, row.isTrial = false →
        row.status ≠ .VOID →
        row.totalPaid ≤ row.totalDue ∧ (row.status = .PAID ↔ row.totalDue ≤ row.totalPaid) ∧
          (0 < row.totalPaid → row.totalPaid < row.totalDue →
            row.status = .PARTIAL ∨ row.status = .OVERDUE) := by
  intro always
  obtain ⟨_, paid, _⟩ := always registeredState [] (.registerFleet _ _ _ _ _ _)
    (firstCycle 1772438400000 (some defaultConfig) 10500) List.mem_cons_self rfl (by decide)
  exact absurd (paid.mpr (le_refl _)) (by decide)

end EmotoFleet.Billing
