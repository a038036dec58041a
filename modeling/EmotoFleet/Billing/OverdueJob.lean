import EmotoFleet.Billing.InvoiceStatus
import EmotoFleet.Foundations.Tables

/-!
# The job for overdue invoices over all fleets

The job reads the invoices and the fleets three times, and each time it updates some of
the rows that it has read. It corrects due dates, it restores the fleets that have been
suspended too early, and it marks the invoices that are overdue and suspends their fleets.
Each fleet fares as the one that the earlier modules look at.

The job looks at the clock twice; both times are taken as one. Reminders, the log and the
audit rows are left out.
-/

namespace EmotoFleet.Billing

open Tables

/-- An invoice with its identity and its fleet. -/
structure CycleRow where
  id : String
  fleetId : String
  columns : BillingCycle
deriving DecidableEq

/-- The settings, the fleets and their invoices. -/
@[ext] structure BillingDatabase where
  config : Option BillingConfig
  fleets : List Fleet
  cycles : List CycleRow
  fleetKey : (fleets.map Fleet.id).Nodup
  cycleKey : (cycles.map CycleRow.id).Nodup
  cycleFleet : ∀ row ∈ cycles, row.fleetId ∈ fleets.map Fleet.id

/-- The updates of single rows that the job makes. -/
inductive JobWrite where
  | setDueDate (id : String) (dueDate : Int)
  | setStatus (id : String) (status : BillingCycleStatus)
  | setSubscriptionStatus (id : String) (status : FleetSubscriptionStatus)

namespace JobWrite

/-- What a write of the job does to an invoice. -/
def onCycle (row : CycleRow) : JobWrite → CycleRow
  | .setDueDate id dueDate =>
    if row.id = id then { row with columns := { row.columns with dueDate := dueDate } } else row
  | .setStatus id status =>
    if row.id = id then { row with columns := { row.columns with status := status } } else row
  | .setSubscriptionStatus _ _ => row

/-- What a write of the job does to a fleet. -/
def onFleet (fleet : Fleet) : JobWrite → Fleet
  | .setSubscriptionStatus id status =>
    if fleet.id = id then { fleet with subscriptionStatus := status } else fleet
  | .setDueDate _ _ | .setStatus _ _ => fleet

/-- The invoice that an update is about. -/
def cycle? : JobWrite → Option String
  | .setDueDate id _ | .setStatus id _ => some id
  | .setSubscriptionStatus _ _ => none

/-- The fleet that an update is about. -/
def fleet? : JobWrite → Option String
  | .setSubscriptionStatus id _ => some id
  | .setDueDate _ _ | .setStatus _ _ => none

/-- A write to another invoice leaves this one alone. -/
theorem onCycle_elsewhere {write : JobWrite} {row : CycleRow} (apart : write.cycle? ≠ some row.id) :
    onCycle row write = row := by
  cases write with
  | setDueDate id dueDate => exact if_neg fun same => apart (congrArg some same.symm)
  | setStatus id status => exact if_neg fun same => apart (congrArg some same.symm)
  | setSubscriptionStatus id status => rfl

/-- A write to another fleet leaves this one alone. -/
theorem onFleet_elsewhere {write : JobWrite} {fleet : Fleet} (apart : write.fleet? ≠ some fleet.id) :
    onFleet fleet write = fleet := by
  cases write with
  | setDueDate id dueDate => rfl
  | setStatus id status => rfl
  | setSubscriptionStatus id status => exact if_neg fun same => apart (congrArg some same.symm)

/-- No write changes the identity of an invoice. -/
theorem onCycle_id (write : JobWrite) (row : CycleRow) : (onCycle row write).id = row.id := by
  cases write with
  | setDueDate id dueDate => rw [onCycle]; split <;> rfl
  | setStatus id status => rw [onCycle]; split <;> rfl
  | setSubscriptionStatus id status => rfl

/-- No write moves an invoice to another fleet. -/
theorem onCycle_fleetId (write : JobWrite) (row : CycleRow) :
    (onCycle row write).fleetId = row.fleetId := by
  cases write with
  | setDueDate id dueDate => rw [onCycle]; split <;> rfl
  | setStatus id status => rw [onCycle]; split <;> rfl
  | setSubscriptionStatus id status => rfl

/-- No write changes the identity of a fleet. -/
theorem onFleet_id (write : JobWrite) (fleet : Fleet) : (onFleet fleet write).id = fleet.id := by
  cases write with
  | setDueDate id dueDate => rfl
  | setStatus id status => rfl
  | setSubscriptionStatus id status => rw [onFleet]; split <;> rfl

/-- The identities of the invoices stay what they are. -/
theorem ids_onCycle (write : JobWrite) (rows : List CycleRow) :
    (rows.map fun row => onCycle row write).map CycleRow.id = rows.map CycleRow.id := by
  rw [List.map_map]
  exact List.map_congr_left fun row _ => onCycle_id write row

/-- The identities of the fleets stay what they are. -/
theorem ids_onFleet (write : JobWrite) (fleets : List Fleet) :
    (fleets.map fun fleet => onFleet fleet write).map Fleet.id = fleets.map Fleet.id := by
  rw [List.map_map]
  exact List.map_congr_left fun fleet _ => onFleet_id write fleet

/-- To an invoice the same write twice is as good as once. -/
theorem onCycle_twice (write : JobWrite) (row : CycleRow) :
    onCycle (onCycle row write) write = onCycle row write := by
  cases write with
  | setDueDate id dueDate => simp only [onCycle]; split <;> simp_all
  | setStatus id status => simp only [onCycle]; split <;> simp_all
  | setSubscriptionStatus id status => rfl

/-- To a fleet the same write twice is as good as once. -/
theorem onFleet_twice (write : JobWrite) (fleet : Fleet) :
    onFleet (onFleet fleet write) write = onFleet fleet write := by
  cases write with
  | setDueDate id dueDate => rfl
  | setStatus id status => rfl
  | setSubscriptionStatus id status => simp only [onFleet]; split <;> simp_all

section Lists

variable {writes : List JobWrite} {row : CycleRow} {fleet : Fleet} {own : JobWrite}

/-- Writes to other invoices leave this one alone. -/
theorem cycle_unmoved (elsewhere : ∀ write ∈ writes, write.cycle? ≠ some row.id) :
    writes.foldl onCycle row = row :=
  foldl_unmoved fun write made => onCycle_elsewhere (elsewhere write made)

/-- Writes to other fleets leave this one alone. -/
theorem fleet_unmoved (elsewhere : ∀ write ∈ writes, write.fleet? ≠ some fleet.id) :
    writes.foldl onFleet fleet = fleet :=
  foldl_unmoved fun write made => onFleet_elsewhere (elsewhere write made)

/-- An invoice gets its own write, once or several times. -/
theorem cycle_moved (made : own ∈ writes)
    (only : ∀ write ∈ writes, write.cycle? = some row.id → write = own) :
    writes.foldl onCycle row = onCycle row own := by
  apply foldl_own made (onCycle_twice own row)
  intro write listed
  by_cases about : write.cycle? = some row.id
  case pos => exact Or.inl (only write listed about)
  case neg =>
    refine Or.inr ⟨onCycle_elsewhere about, onCycle_elsewhere ?_⟩
    rwa [onCycle_id]

/-- A fleet gets its own write, once or several times. -/
theorem fleet_moved (made : own ∈ writes)
    (only : ∀ write ∈ writes, write.fleet? = some fleet.id → write = own) :
    writes.foldl onFleet fleet = onFleet fleet own := by
  apply foldl_own made (onFleet_twice own fleet)
  intro write listed
  by_cases about : write.fleet? = some fleet.id
  case pos => exact Or.inl (only write listed about)
  case neg =>
    refine Or.inr ⟨onFleet_elsewhere about, onFleet_elsewhere ?_⟩
    rwa [onFleet_id]

end Lists

end JobWrite

namespace BillingDatabase

variable (database : BillingDatabase)

/-- The tables after one write. -/
def apply (write : JobWrite) : BillingDatabase where
  config := database.config
  fleets := database.fleets.map fun fleet => JobWrite.onFleet fleet write
  cycles := database.cycles.map fun row => JobWrite.onCycle row write
  fleetKey := by
    rw [JobWrite.ids_onFleet]
    exact database.fleetKey
  cycleKey := by
    rw [JobWrite.ids_onCycle]
    exact database.cycleKey
  cycleFleet := by
    intro row listed
    obtain ⟨old, stored, rfl⟩ := List.mem_map.mp listed
    rw [JobWrite.ids_onFleet, JobWrite.onCycle_fleetId]
    exact database.cycleFleet old stored

/-- The tables after all writes of a pass. -/
def applyAll (writes : List JobWrite) : BillingDatabase := writes.foldl apply database

/-! The job -/

/-- Unsettled invoices that are due before the end of their period are due at its end. -/
def cyclesToHeal : List JobWrite :=
  (database.cycles.filter fun row => isUnsettled row.columns.status).flatMap fun row =>
    if row.columns.dueDate < row.columns.periodEnd then
      [.setDueDate row.id row.columns.periodEnd]
    else []

/-- The invoices of a fleet that are not settled. -/
def unsettledCycles (fleet : Fleet) : List CycleRow :=
  database.cycles.filter fun row => decide (row.fleetId = fleet.id) && isUnsettled row.columns.status

/-- The visit of a suspended fleet. -/
def healPastDue (now : Int) (gracePeriodDays : Nat) (fleet : Fleet) : List JobWrite :=
  let billingCycles := database.unsettledCycles fleet
  let genuinelyOverdueCount := billingCycles.countP fun row =>
    graceEnded now gracePeriodDays row.columns
  (billingCycles.flatMap fun row =>
      if graceEnded now gracePeriodDays row.columns then []
      else if row.columns.status = .OVERDUE then [.setStatus row.id .PENDING]
      else []) ++
    if genuinelyOverdueCount = 0 then [.setSubscriptionStatus fleet.id .ACTIVE] else []

/-- The writes of the second pass, over the suspended fleets. -/
def pastDueFleets (now : Int) (gracePeriodDays : Nat) : List JobWrite :=
  (database.fleets.filter fun fleet => decide (fleet.subscriptionStatus = .PAST_DUE)).flatMap
    (database.healPastDue now gracePeriodDays)

/-- The writes of the third pass, over the invoices whose grace has ended. -/
def pendingCycles (now : Int) (gracePeriodDays : Nat) : List JobWrite :=
  (database.cycles.filter fun row => isOverdue now gracePeriodDays row.columns).flatMap fun row =>
    [.setStatus row.id .OVERDUE, .setSubscriptionStatus row.fleetId .PAST_DUE]

/-- The settings in force, which are seeded where there are none. -/
def settings : BillingConfig := database.config.getD defaultConfig

def autoMarkOverdue (now : Int) : BillingDatabase :=
  let gracePeriodDays := database.settings.gracePeriodDays
  let seeded := { database with config := some database.settings }
  let due := seeded.applyAll seeded.cyclesToHeal
  let healed := due.applyAll (due.pastDueFleets now gracePeriodDays)
  healed.applyAll (healed.pendingCycles now gracePeriodDays)

/-! What a list of updates does to one row -/

section Rows

variable {database}

/-- The passes leave the configuration alone. -/
theorem applyAll_config (writes : List JobWrite) :
    (database.applyAll writes).config = database.config := by
  induction writes generalizing database with
  | nil => rfl
  | cons first rest inductionHypothesis => exact inductionHypothesis

/-- Each invoice goes through the writes by itself. -/
theorem applyAll_cycles (writes : List JobWrite) :
    (database.applyAll writes).cycles =
      database.cycles.map fun row => writes.foldl JobWrite.onCycle row := by
  induction writes generalizing database with
  | nil => exact (List.map_id _).symm
  | cons first rest inductionHypothesis =>
    have later := @inductionHypothesis (database.apply first)
    rw [apply, List.map_map] at later
    exact later

/-- Each fleet goes through the writes by itself. -/
theorem applyAll_fleets (writes : List JobWrite) :
    (database.applyAll writes).fleets =
      database.fleets.map fun fleet => writes.foldl JobWrite.onFleet fleet := by
  induction writes generalizing database with
  | nil => exact (List.map_id _).symm
  | cons first rest inductionHypothesis =>
    have later := @inductionHypothesis (database.apply first)
    rw [apply, List.map_map] at later
    exact later

/-- Invoices of one identity are one invoice. -/
theorem cycle_eq {left right : CycleRow} (leftStored : left ∈ database.cycles)
    (rightStored : right ∈ database.cycles) (same : left.id = right.id) : left = right :=
  eq_of_key_eq database.cycleKey leftStored rightStored same

/-- Fleets of one identity are one fleet. -/
theorem fleet_eq {left right : Fleet} (leftStored : left ∈ database.fleets)
    (rightStored : right ∈ database.fleets) (same : left.id = right.id) : left = right :=
  eq_of_key_eq database.fleetKey leftStored rightStored same

/-! The due dates -/

/-- The first pass writes to the unsettled invoices that are due before their period ends. -/
theorem mem_cyclesToHeal {write : JobWrite} :
    write ∈ database.cyclesToHeal ↔ ∃ row ∈ database.cycles, isUnsettled row.columns.status = true ∧
      row.columns.dueDate < row.columns.periodEnd ∧
      write = .setDueDate row.id row.columns.periodEnd := by
  rw [cyclesToHeal, List.mem_flatMap]
  constructor
  · rintro ⟨row, chosen, made⟩
    obtain ⟨stored, unsettled⟩ := List.mem_filter.mp chosen
    split at made
    case isTrue early => exact ⟨row, stored, unsettled, early, List.mem_singleton.mp made⟩
    case isFalse => cases made
  · rintro ⟨row, stored, unsettled, early, rfl⟩
    refine ⟨row, List.mem_filter.mpr ⟨stored, unsettled⟩, ?_⟩
    rw [if_pos early]
    exact List.mem_singleton_self _

/-- The first pass moves each of these due dates to the end of the period. -/
theorem healed_dueDates :
    (database.applyAll database.cyclesToHeal).cycles =
      database.cycles.map fun row => { row with columns := healDueDate row.columns } := by
  rw [applyAll_cycles]
  apply List.map_congr_left
  intro row stored
  have own : ∀ write ∈ database.cyclesToHeal, write.cycle? = some row.id →
      (isUnsettled row.columns.status = true ∧ row.columns.dueDate < row.columns.periodEnd) ∧
        write = .setDueDate row.id row.columns.periodEnd := by
    intro write made about
    obtain ⟨other, otherStored, unsettled, early, rfl⟩ := mem_cyclesToHeal.mp made
    obtain rfl := cycle_eq otherStored stored (Option.some.inj about)
    exact ⟨⟨unsettled, early⟩, rfl⟩
  rw [healDueDate]
  split
  case isTrue chosen =>
    have made := mem_cyclesToHeal.mpr ⟨row, stored, chosen.1, chosen.2, rfl⟩
    rw [JobWrite.cycle_moved made fun write listed about => (own write listed about).2]
    exact if_pos rfl
  case isFalse left =>
    exact JobWrite.cycle_unmoved fun write made about => left (own write made about).1

/-- It leaves the fleets alone. -/
theorem healed_dueDates_fleets :
    (database.applyAll database.cyclesToHeal).fleets = database.fleets := by
  rw [applyAll_fleets]
  refine (List.map_congr_left fun fleet _ => foldl_unmoved fun write made => ?_).trans
    (List.map_id _)
  obtain ⟨row, -, -, -, rfl⟩ := mem_cyclesToHeal.mp made
  rfl

/-! The suspended fleets -/

variable {now : Int} {gracePeriodDays : Nat}

/-- The fleet of an invoice is suspended. -/
def Suspended (database : BillingDatabase) (fleetId : String) : Prop :=
  ∃ fleet ∈ database.fleets, fleet.subscriptionStatus = .PAST_DUE ∧ fleet.id = fleetId

instance (fleetId : String) : Decidable (database.Suspended fleetId) :=
  inferInstanceAs (Decidable (∃ fleet ∈ _, _))

/-- The fleet has an unsettled invoice whose period of grace has ended. -/
def HasEnded (database : BillingDatabase) (now : Int) (gracePeriodDays : Nat) (fleet : Fleet) : Prop :=
  ∃ row ∈ database.cycles, row.fleetId = fleet.id ∧ isUnsettled row.columns.status = true ∧
    graceEnded now gracePeriodDays row.columns = true

instance (fleet : Fleet) : Decidable (database.HasEnded now gracePeriodDays fleet) :=
  inferInstanceAs (Decidable (∃ row ∈ _, _))

/-- What the second pass reads of a fleet. -/
theorem mem_unsettledCycles {fleet : Fleet} {row : CycleRow} :
    row ∈ database.unsettledCycles fleet ↔
      row ∈ database.cycles ∧ row.fleetId = fleet.id ∧ isUnsettled row.columns.status = true := by
  rw [unsettledCycles, List.mem_filter, Bool.and_eq_true, decide_eq_true_iff]

/-- The count is zero exactly if no unsettled invoice of the fleet has ended its grace. -/
theorem genuinelyOverdue_eq_zero_iff {fleet : Fleet} :
    ((database.unsettledCycles fleet).countP fun row => graceEnded now gracePeriodDays row.columns) = 0 ↔
      ¬ database.HasEnded now gracePeriodDays fleet := by
  rw [List.countP_eq_zero]
  constructor
  · rintro none ⟨row, stored, same, unsettled, ended⟩
    exact none row (mem_unsettledCycles.mpr ⟨stored, same, unsettled⟩) ended
  · intro none row listed ended
    obtain ⟨stored, same, unsettled⟩ := mem_unsettledCycles.mp listed
    exact none ⟨row, stored, same, unsettled, ended⟩

/-- What the visits of the suspended fleets write. -/
theorem mem_pastDueFleets {write : JobWrite} :
    write ∈ database.pastDueFleets now gracePeriodDays ↔
      (∃ row ∈ database.cycles, database.Suspended row.fleetId ∧ row.columns.status = .OVERDUE ∧
        graceEnded now gracePeriodDays row.columns = false ∧ write = .setStatus row.id .PENDING) ∨
      ∃ fleet ∈ database.fleets, fleet.subscriptionStatus = .PAST_DUE ∧
        ¬ database.HasEnded now gracePeriodDays fleet ∧
        write = .setSubscriptionStatus fleet.id .ACTIVE := by
  rw [pastDueFleets, List.mem_flatMap]
  constructor
  · rintro ⟨fleet, chosen, made⟩
    obtain ⟨stored, pastDue⟩ := List.mem_filter.mp chosen
    have suspended := of_decide_eq_true pastDue
    rcases List.mem_append.mp made with reverts | restores
    case inl =>
      obtain ⟨row, listed, reverted⟩ := List.mem_flatMap.mp reverts
      obtain ⟨rowStored, same, -⟩ := mem_unsettledCycles.mp listed
      split at reverted
      case isTrue => cases reverted
      case isFalse running =>
        split at reverted
        case isFalse => cases reverted
        case isTrue overdue =>
          exact Or.inl ⟨row, rowStored, ⟨fleet, stored, suspended, same.symm⟩, overdue,
            Bool.eq_false_iff.mpr running, List.mem_singleton.mp reverted⟩
    case inr =>
      split at restores
      case isFalse => cases restores
      case isTrue none =>
        exact Or.inr ⟨fleet, stored, suspended, genuinelyOverdue_eq_zero_iff.mp none,
          List.mem_singleton.mp restores⟩
  · rintro (⟨row, stored, ⟨fleet, fleetStored, suspended, same⟩, overdue, running, rfl⟩ |
      ⟨fleet, stored, suspended, none, rfl⟩)
    case inl =>
      refine ⟨fleet, List.mem_filter.mpr ⟨fleetStored, decide_eq_true suspended⟩,
        List.mem_append_left _ (List.mem_flatMap.mpr ⟨row, ?_, ?_⟩)⟩
      · exact mem_unsettledCycles.mpr ⟨stored, same.symm, by rw [overdue]; rfl⟩
      · rw [if_neg (Bool.eq_false_iff.mp running), if_pos overdue]
        exact List.mem_singleton_self _
    case inr =>
      refine ⟨fleet, List.mem_filter.mpr ⟨stored, decide_eq_true suspended⟩,
        List.mem_append_right _ ?_⟩
      rw [if_pos (genuinelyOverdue_eq_zero_iff.mpr none)]
      exact List.mem_singleton_self _

/-- The second pass heals the statuses of the invoices of suspended fleets. -/
theorem healed_statuses :
    (database.applyAll (database.pastDueFleets now gracePeriodDays)).cycles =
      database.cycles.map fun row =>
        if database.Suspended row.fleetId then
          { row with columns := healStatus now gracePeriodDays row.columns }
        else row := by
  rw [applyAll_cycles]
  apply List.map_congr_left
  intro row stored
  have own : ∀ write ∈ database.pastDueFleets now gracePeriodDays, write.cycle? = some row.id →
      (database.Suspended row.fleetId ∧ row.columns.status = .OVERDUE ∧
        graceEnded now gracePeriodDays row.columns = false) ∧
        write = .setStatus row.id .PENDING := by
    intro write made about
    rcases mem_pastDueFleets.mp made with
      ⟨other, otherStored, suspended, overdue, running, rfl⟩ | ⟨fleet, -, -, -, rfl⟩
    case inl =>
      obtain rfl := cycle_eq otherStored stored (Option.some.inj about)
      exact ⟨⟨suspended, overdue, running⟩, rfl⟩
    case inr => cases about
  split
  case isFalse active =>
    exact JobWrite.cycle_unmoved fun write made about => active (own write made about).1.1
  case isTrue suspended =>
    rw [healStatus]
    split
    case isTrue chosen =>
      have made := mem_pastDueFleets.mpr
        (Or.inl ⟨row, stored, suspended, chosen.1, chosen.2, rfl⟩)
      rw [JobWrite.cycle_moved made fun write listed about => (own write listed about).2]
      exact if_pos rfl
    case isFalse left =>
      exact JobWrite.cycle_unmoved fun write made about => left (own write made about).1.2

/-- It lifts the suspension of a fleet that owes nothing beyond its grace. -/
theorem healed_fleets :
    (database.applyAll (database.pastDueFleets now gracePeriodDays)).fleets =
      database.fleets.map fun fleet =>
        if fleet.subscriptionStatus = .PAST_DUE ∧ ¬ database.HasEnded now gracePeriodDays fleet then
          { fleet with subscriptionStatus := .ACTIVE }
        else fleet := by
  rw [applyAll_fleets]
  apply List.map_congr_left
  intro fleet stored
  have own : ∀ write ∈ database.pastDueFleets now gracePeriodDays, write.fleet? = some fleet.id →
      (fleet.subscriptionStatus = .PAST_DUE ∧ ¬ database.HasEnded now gracePeriodDays fleet) ∧
        write = .setSubscriptionStatus fleet.id .ACTIVE := by
    intro write made about
    rcases mem_pastDueFleets.mp made with
      ⟨row, -, -, -, -, rfl⟩ | ⟨other, otherStored, suspended, none, rfl⟩
    case inl => cases about
    case inr =>
      obtain rfl := fleet_eq otherStored stored (Option.some.inj about)
      exact ⟨⟨suspended, none⟩, rfl⟩
  split
  case isTrue chosen =>
    have made := mem_pastDueFleets.mpr (Or.inr ⟨fleet, stored, chosen.1, chosen.2, rfl⟩)
    rw [JobWrite.fleet_moved made fun write listed about => (own write listed about).2]
    exact if_pos rfl
  case isFalse left =>
    exact JobWrite.fleet_unmoved fun write made about => left (own write made about).1

/-! The overdue invoices -/

/-- The third pass writes twice for each overdue invoice. -/
theorem mem_pendingCycles {write : JobWrite} :
    write ∈ database.pendingCycles now gracePeriodDays ↔
      ∃ row ∈ database.cycles, isOverdue now gracePeriodDays row.columns = true ∧
        (write = .setStatus row.id .OVERDUE ∨
          write = .setSubscriptionStatus row.fleetId .PAST_DUE) := by
  rw [pendingCycles, List.mem_flatMap]
  constructor
  · rintro ⟨row, chosen, made⟩
    obtain ⟨stored, overdue⟩ := List.mem_filter.mp chosen
    exact ⟨row, stored, overdue, List.mem_pair.mp made⟩
  · rintro ⟨row, stored, overdue, made⟩
    exact ⟨row, List.mem_filter.mpr ⟨stored, overdue⟩, List.mem_pair.mpr made⟩

/-- The third pass marks the invoices whose grace has ended. -/
theorem marked_cycles :
    (database.applyAll (database.pendingCycles now gracePeriodDays)).cycles =
      database.cycles.map fun row =>
        { row with columns := markOverdue now gracePeriodDays row.columns } := by
  rw [applyAll_cycles]
  apply List.map_congr_left
  intro row stored
  have own : ∀ write ∈ database.pendingCycles now gracePeriodDays, write.cycle? = some row.id →
      isOverdue now gracePeriodDays row.columns = true ∧ write = .setStatus row.id .OVERDUE := by
    intro write made about
    obtain ⟨other, otherStored, overdue, rfl | rfl⟩ := mem_pendingCycles.mp made
    case inl =>
      obtain rfl := cycle_eq otherStored stored (Option.some.inj about)
      exact ⟨overdue, rfl⟩
    case inr => cases about
  rw [markOverdue]
  split
  case isTrue overdue =>
    have made := mem_pendingCycles.mpr ⟨row, stored, overdue, Or.inl rfl⟩
    rw [JobWrite.cycle_moved made fun write listed about => (own write listed about).2]
    exact if_pos rfl
  case isFalse left =>
    exact JobWrite.cycle_unmoved fun write made about => left (own write made about).1

/-- An invoice of the fleet is to be marked. -/
def HasOverdue (database : BillingDatabase) (now : Int) (gracePeriodDays : Nat) (fleet : Fleet) :
    Prop :=
  ∃ row ∈ database.cycles, row.fleetId = fleet.id ∧
    isOverdue now gracePeriodDays row.columns = true

instance (fleet : Fleet) : Decidable (database.HasOverdue now gracePeriodDays fleet) :=
  inferInstanceAs (Decidable (∃ row ∈ _, _))

/-- It suspends the fleets that have such an invoice. -/
theorem marked_fleets :
    (database.applyAll (database.pendingCycles now gracePeriodDays)).fleets =
      database.fleets.map fun fleet =>
        if database.HasOverdue now gracePeriodDays fleet then
          { fleet with subscriptionStatus := .PAST_DUE }
        else fleet := by
  rw [applyAll_fleets]
  apply List.map_congr_left
  intro fleet stored
  have own : ∀ write ∈ database.pendingCycles now gracePeriodDays, write.fleet? = some fleet.id →
      database.HasOverdue now gracePeriodDays fleet ∧
        write = .setSubscriptionStatus fleet.id .PAST_DUE := by
    intro write made about
    obtain ⟨row, rowStored, overdue, rfl | rfl⟩ := mem_pendingCycles.mp made
    case inl => cases about
    case inr =>
      have same : row.fleetId = fleet.id := Option.some.inj about
      exact ⟨⟨row, rowStored, same, overdue⟩, by rw [same]⟩
  split
  case isTrue has =>
    obtain ⟨row, rowStored, same, overdue⟩ := has
    have made := mem_pendingCycles.mpr ⟨row, rowStored, overdue, Or.inr rfl⟩
    rw [same] at made
    rw [JobWrite.fleet_moved made fun write listed about => (own write listed about).2]
    exact if_pos rfl
  case isFalse left =>
    exact JobWrite.fleet_unmoved fun write made about => left (own write made about).1

end Rows

end BillingDatabase

/-! ## One run of the job -/

/-- An open invoice of which the due date, or the end of the period if that is later, is more
than the period of grace ago. -/
def Lapsed (now : Int) (gracePeriodDays : Nat) (cycle : BillingCycle) : Prop :=
  isOpen cycle = true ∧ max cycle.dueDate cycle.periodEnd < now - gracePeriodDays * DAY_MS

instance (now : Int) (gracePeriodDays : Nat) (cycle : BillingCycle) :
    Decidable (Lapsed now gracePeriodDays cycle) :=
  inferInstanceAs (Decidable (_ ∧ _))

/-- An invoice marked overdue while its period of grace runs. -/
def Premature (now : Int) (gracePeriodDays : Nat) (cycle : BillingCycle) : Prop :=
  cycle.status = .OVERDUE ∧ graceEnded now gracePeriodDays cycle = false

instance (now : Int) (gracePeriodDays : Nat) (cycle : BillingCycle) :
    Decidable (Premature now gracePeriodDays cycle) :=
  inferInstanceAs (Decidable (_ ∧ _))

/-- An invoice before the job marks the overdue ones. -/
def healCycle (now : Int) (gracePeriodDays : Nat) (suspended : Prop) [Decidable suspended]
    (cycle : BillingCycle) : BillingCycle :=
  if suspended then healStatus now gracePeriodDays (healDueDate cycle) else healDueDate cycle

/-- An invoice after the job. -/
def jobCycle (now : Int) (gracePeriodDays : Nat) (suspended : Prop) [Decidable suspended]
    (cycle : BillingCycle) : BillingCycle :=
  markOverdue now gracePeriodDays (healCycle now gracePeriodDays suspended cycle)

section Cycle

variable {now : Int} {gracePeriodDays : Nat} {suspended : Prop} [Decidable suspended]
  {cycle : BillingCycle}

/-- An overdue invoice is not settled. -/
theorem unsettled_of_overdue (overdue : cycle.status = .OVERDUE) :
    isUnsettled cycle.status = true := by
  rw [overdue]
  rfl

/-- Healing a due date takes the later one of it and the end of the period. -/
theorem healDueDate_dueDate (unsettled : isUnsettled cycle.status = true) :
    (healDueDate cycle).dueDate = max cycle.dueDate cycle.periodEnd := by
  rw [healDueDate]
  split
  case isTrue early => exact (max_eq_right (Int.le_of_lt early.2)).symm
  case isFalse late => exact (max_eq_left (Int.not_lt.mp fun early => late ⟨unsettled, early⟩)).symm

/-- Healing a due date leaves the status. -/
theorem healDueDate_status (cycle : BillingCycle) : (healDueDate cycle).status = cycle.status := by
  obtain ⟨dueDate, healed⟩ := healDueDate_columns cycle
  rw [healed]

/-- Whether the grace has ended does not depend on a due date that is too early. -/
theorem graceEnded_healDueDate (cycle : BillingCycle) :
    graceEnded now gracePeriodDays (healDueDate cycle) = graceEnded now gracePeriodDays cycle := by
  obtain ⟨dueDate, healed⟩ := healDueDate_columns cycle
  rw [healed]
  rfl

/-- After the first pass an invoice is overdue exactly if it has lapsed. -/
theorem isOverdue_healDueDate_iff :
    isOverdue now gracePeriodDays (healDueDate cycle) = true ↔ Lapsed now gracePeriodDays cycle := by
  rw [isOverdue, decide_eq_true_iff, healDueDate_status, Lapsed, isOpen, decide_eq_true_iff]
  apply and_congr_right
  intro opened
  rw [@healDueDate_dueDate cycle (unsettled_of_open (decide_eq_true opened))]

/-- An invoice that was marked too early is pending again, and then it is not marked. -/
theorem healCycle_reverted (reverted : suspended ∧ Premature now gracePeriodDays cycle) :
    healCycle now gracePeriodDays suspended cycle =
        { healDueDate cycle with status := .PENDING } ∧
      isOverdue now gracePeriodDays (healCycle now gracePeriodDays suspended cycle) = false ∧
      ¬ Lapsed now gracePeriodDays cycle := by
  obtain ⟨isSuspended, overdue, running⟩ := reverted
  have healed : healCycle now gracePeriodDays suspended cycle =
      { healDueDate cycle with status := .PENDING } := by
    rw [healCycle, if_pos isSuspended, healStatus, healDueDate_status, graceEnded_healDueDate]
    exact if_pos ⟨overdue, running⟩
  refine ⟨healed, ?_, fun lapsed => fresh_of_open lapsed.1 overdue⟩
  rw [healed]
  apply decide_eq_false
  rintro ⟨-, early⟩
  have later : now < cycle.periodEnd + gracePeriodDays * DAY_MS :=
    Int.not_le.mp (of_decide_eq_false running)
  rw [healDueDate_dueDate (unsettled_of_overdue overdue)] at early
  omega

/-- Only a premature status of a suspended fleet is healed. -/
theorem healCycle_kept (kept : ¬ (suspended ∧ Premature now gracePeriodDays cycle)) :
    healCycle now gracePeriodDays suspended cycle = healDueDate cycle := by
  rw [healCycle]
  split
  case isFalse => rfl
  case isTrue isSuspended =>
    rw [healStatus, healDueDate_status, graceEnded_healDueDate]
    exact if_neg fun premature => kept ⟨isSuspended, premature⟩

/-- After the second pass an invoice is overdue exactly if it has lapsed. -/
theorem isOverdue_healCycle_iff :
    isOverdue now gracePeriodDays (healCycle now gracePeriodDays suspended cycle) = true ↔
      Lapsed now gracePeriodDays cycle := by
  by_cases reverted : suspended ∧ Premature now gracePeriodDays cycle
  case pos =>
    obtain ⟨-, unmarked, running⟩ := healCycle_reverted reverted
    exact iff_of_false (Bool.eq_false_iff.mp unmarked) running
  case neg =>
    rw [healCycle_kept reverted]
    exact isOverdue_healDueDate_iff

/-- The job changes the due date and the status alone. -/
theorem jobCycle_eq :
    jobCycle now gracePeriodDays suspended cycle =
      { cycle with
        dueDate := (healDueDate cycle).dueDate
        status :=
          if Lapsed now gracePeriodDays cycle then .OVERDUE
          else if suspended ∧ Premature now gracePeriodDays cycle then .PENDING
          else cycle.status } := by
  obtain ⟨dueDate, healed⟩ := healDueDate_columns cycle
  rw [jobCycle, markOverdue]
  by_cases reverted : suspended ∧ Premature now gracePeriodDays cycle
  case pos =>
    obtain ⟨pending, unmarked, running⟩ := healCycle_reverted reverted
    rw [unmarked, if_neg Bool.false_ne_true, pending, if_neg running, if_pos reverted, healed]
  case neg =>
    rw [if_neg reverted, healCycle_kept reverted]
    by_cases lapsed : Lapsed now gracePeriodDays cycle
    case pos => rw [if_pos (isOverdue_healDueDate_iff.mpr lapsed), if_pos lapsed, healed]
    case neg => rw [if_neg (mt isOverdue_healDueDate_iff.mp lapsed), if_neg lapsed, healed]

/-- The job leaves the period of an invoice. -/
theorem jobCycle_periodEnd :
    (jobCycle now gracePeriodDays suspended cycle).periodEnd = cycle.periodEnd := by
  rw [jobCycle_eq]

/-- The job does not change whether the grace of an invoice has ended. -/
theorem graceEnded_jobCycle :
    graceEnded now gracePeriodDays (jobCycle now gracePeriodDays suspended cycle) =
      graceEnded now gracePeriodDays cycle := by
  rw [graceEnded, graceEnded, jobCycle_periodEnd]

/-- The job settles no invoice and opens none. -/
theorem isUnsettled_jobCycle :
    isUnsettled (jobCycle now gracePeriodDays suspended cycle).status = isUnsettled cycle.status := by
  rw [jobCycle_eq]
  dsimp only
  split
  case isTrue lapsed => exact (unsettled_of_open lapsed.1).symm
  case isFalse =>
    split
    case isTrue reverted => exact (unsettled_of_overdue reverted.2.1).symm
    case isFalse => rfl

/-- After the job no due date is left to heal. -/
theorem healDueDate_jobCycle :
    healDueDate (jobCycle now gracePeriodDays suspended cycle) =
      jobCycle now gracePeriodDays suspended cycle := by
  apply if_neg
  rintro ⟨unsettled, early⟩
  rw [isUnsettled_jobCycle] at unsettled
  have due : (jobCycle now gracePeriodDays suspended cycle).dueDate =
      max cycle.dueDate cycle.periodEnd := by
    rw [jobCycle_eq]
    exact healDueDate_dueDate unsettled
  rw [due, jobCycle_periodEnd] at early
  omega

/-- What has lapsed has ended its grace. -/
theorem lapsed_ended (lapsed : Lapsed now gracePeriodDays cycle) :
    graceEnded now gracePeriodDays cycle = true := by
  have past := lapsed.2
  apply decide_eq_true
  rw [addDays]
  omega

/-- After the job no invoice is left to be marked. -/
theorem not_lapsed_jobCycle :
    ¬ Lapsed now gracePeriodDays (jobCycle now gracePeriodDays suspended cycle) := by
  rintro ⟨opened, past⟩
  have unsettled := unsettled_of_open opened
  rw [isUnsettled_jobCycle] at unsettled
  rw [jobCycle_eq] at opened past
  dsimp only at past
  rw [healDueDate_dueDate unsettled] at past
  have late : max cycle.dueDate cycle.periodEnd < now - gracePeriodDays * DAY_MS := by omega
  have status := of_decide_eq_true opened
  dsimp only at status
  split at status
  case isTrue => simp at status
  case isFalse running =>
    split at status
    case isTrue reverted =>
      have future : now < cycle.periodEnd + gracePeriodDays * DAY_MS :=
        Int.not_le.mp (of_decide_eq_false reverted.2.2)
      omega
    case isFalse => exact running ⟨decide_eq_true status, late⟩

/-- A premature status is left exactly where the fleet was not suspended. -/
theorem premature_jobCycle_iff :
    Premature now gracePeriodDays (jobCycle now gracePeriodDays suspended cycle) ↔
      Premature now gracePeriodDays cycle ∧ ¬ suspended := by
  rw [Premature, graceEnded_jobCycle, jobCycle_eq]
  dsimp only
  split
  case isTrue lapsed =>
    have ended := lapsed_ended lapsed
    have fresh := fresh_of_open lapsed.1
    simp only [Premature, ended, fresh, Bool.true_eq_false, and_false, false_and]
  case isFalse =>
    split
    case isTrue reverted =>
      constructor
      · rintro ⟨pending, -⟩
        cases pending
      · rintro ⟨-, active⟩
        exact absurd reverted.1 active
    case isFalse kept =>
      constructor
      · intro premature
        exact ⟨premature, fun isSuspended => kept ⟨isSuspended, premature⟩⟩
      · exact And.left

/-- A second run reverts what the first one has found marked too early for a fleet that was
not suspended yet. -/
theorem jobCycle_twice_iff {later : Prop} [Decidable later] :
    jobCycle now gracePeriodDays later (jobCycle now gracePeriodDays suspended cycle) =
        jobCycle now gracePeriodDays suspended cycle ↔
      ¬ (later ∧ Premature now gracePeriodDays cycle ∧ ¬ suspended) := by
  rw [← premature_jobCycle_iff]
  constructor
  case mp =>
    rintro same reverted
    have status := congrArg BillingCycle.status same
    rw [jobCycle_eq, if_neg not_lapsed_jobCycle, if_pos reverted, reverted.2.1] at status
    cases status
  case mpr =>
    intro kept
    rw [jobCycle_eq, if_neg not_lapsed_jobCycle, if_neg kept, healDueDate_jobCycle]

end Cycle

namespace BillingDatabase

variable {database : BillingDatabase} {now : Int}

/-- The grace that the stored settings give. -/
def gracePeriodDays (database : BillingDatabase) : Nat := database.settings.gracePeriodDays

/-- The fleet has an unsettled invoice, and its period and the days of grace are over. -/
def InArrears (database : BillingDatabase) (now : Int) (fleet : Fleet) : Prop :=
  database.HasEnded now database.gracePeriodDays fleet

instance (fleet : Fleet) : Decidable (database.InArrears now fleet) :=
  inferInstanceAs (Decidable (database.HasEnded now database.gracePeriodDays fleet))

/-- The fleet has an invoice that the job marks. -/
def HasLapsed (database : BillingDatabase) (now : Int) (fleet : Fleet) : Prop :=
  ∃ row ∈ database.cycles, row.fleetId = fleet.id ∧
    Lapsed now database.gracePeriodDays row.columns

instance (fleet : Fleet) : Decidable (database.HasLapsed now fleet) :=
  inferInstanceAs (Decidable (∃ row ∈ _, _))

/-- A row of an invoice after the job. -/
def jobRow (database : BillingDatabase) (now : Int) (row : CycleRow) : CycleRow :=
  { row with
    columns := jobCycle now database.gracePeriodDays (database.Suspended row.fleetId) row.columns }

/-- A fleet after the job. -/
def jobFleet (database : BillingDatabase) (now : Int) (fleet : Fleet) : Fleet :=
  { fleet with
    subscriptionStatus :=
      if database.HasLapsed now fleet then .PAST_DUE
      else if fleet.subscriptionStatus = .PAST_DUE ∧ ¬ database.InArrears now fleet then .ACTIVE
      else fleet.subscriptionStatus }

/-- The tables after the due dates. -/
def healedDates (database : BillingDatabase) : BillingDatabase :=
  let seeded := { database with config := some database.settings }
  seeded.applyAll seeded.cyclesToHeal

/-- The invoices after the first pass. -/
theorem healedDates_cycles : database.healedDates.cycles =
    database.cycles.map fun row => { row with columns := healDueDate row.columns } :=
  healed_dueDates

/-- The fleets after the first pass. -/
theorem healedDates_fleets : database.healedDates.fleets = database.fleets :=
  healed_dueDates_fleets

/-- The first pass changes no suspension. -/
theorem suspended_healedDates (fleetId : String) :
    database.healedDates.Suspended fleetId ↔ database.Suspended fleetId := by
  rw [Suspended, healedDates_fleets, Suspended]

/-- What a fleet owes after the first pass is what it owes in arrears. -/
theorem hasEnded_healedDates {fleet : Fleet} :
    database.healedDates.HasEnded now database.gracePeriodDays fleet ↔ database.InArrears now fleet := by
  rw [HasEnded, healedDates_cycles]
  constructor
  · rintro ⟨_, listed, same, unsettled, graceOver⟩
    obtain ⟨row, stored, rfl⟩ := List.mem_map.mp listed
    rw [healDueDate_status] at unsettled
    rw [graceEnded_healDueDate] at graceOver
    exact ⟨row, stored, same, unsettled, graceOver⟩
  · rintro ⟨row, stored, same, unsettled, graceOver⟩
    refine ⟨_, List.mem_map_of_mem stored, same, ?_, ?_⟩
    · rwa [healDueDate_status]
    · rwa [graceEnded_healDueDate]

/-- The tables after the visits of the suspended fleets. -/
def healed (database : BillingDatabase) (now : Int) : BillingDatabase :=
  database.healedDates.applyAll (database.healedDates.pastDueFleets now database.gracePeriodDays)

/-- The invoices after the second pass. -/
theorem healed_cycles : (database.healed now).cycles = database.cycles.map fun row =>
    { row with
      columns := healCycle now database.gracePeriodDays (database.Suspended row.fleetId)
        row.columns } := by
  rw [healed, healed_statuses, healedDates_cycles, List.map_map]
  apply List.map_congr_left
  intro row _
  rw [Function.comp_apply, healCycle]
  simp only [suspended_healedDates]
  split <;> rfl

/-- After the second pass a fleet has an overdue invoice exactly if one has lapsed. -/
theorem hasOverdue_healed {fleet other : Fleet} (same : other.id = fleet.id) :
    (database.healed now).HasOverdue now database.gracePeriodDays other ↔
      database.HasLapsed now fleet := by
  rw [HasOverdue, healed_cycles, same]
  constructor
  · rintro ⟨_, listed, belongs, overdue⟩
    obtain ⟨row, stored, rfl⟩ := List.mem_map.mp listed
    exact ⟨row, stored, belongs, isOverdue_healCycle_iff.mp overdue⟩
  · rintro ⟨row, stored, belongs, lapsed⟩
    exact ⟨_, List.mem_map_of_mem stored, belongs, isOverdue_healCycle_iff.mpr lapsed⟩

/-- The job marks a fleet, whatever status it has by then, if it has an invoice to mark. -/
theorem marked_fleet {fleet other : Fleet} (same : other.id = fleet.id) :
    (if (database.healed now).HasOverdue now database.gracePeriodDays other then
        { other with subscriptionStatus := .PAST_DUE }
      else other) =
      { other with
        subscriptionStatus :=
          if database.HasLapsed now fleet then .PAST_DUE else other.subscriptionStatus } := by
  by_cases lapsed : database.HasLapsed now fleet
  case pos => rw [if_pos ((hasOverdue_healed same).mpr lapsed), if_pos lapsed]
  case neg => rw [if_neg (mt (hasOverdue_healed same).mp lapsed), if_neg lapsed]

/-- The job is its three passes, one after the other. -/
theorem autoMarkOverdue_eq : database.autoMarkOverdue now = (database.healed now).applyAll
    ((database.healed now).pendingCycles now database.gracePeriodDays) :=
  rfl

/-- The job leaves the settings stored that it has worked with. -/
theorem autoMarkOverdue_config : (database.autoMarkOverdue now).config = some database.settings := by
  rw [autoMarkOverdue, applyAll_config, applyAll_config, applyAll_config]

/-- The job takes each invoice to its own new row. -/
theorem autoMarkOverdue_cycles :
    (database.autoMarkOverdue now).cycles = database.cycles.map (database.jobRow now) := by
  rw [autoMarkOverdue_eq, marked_cycles, healed_cycles, List.map_map]
  rfl

/-- The job takes each fleet to its own new row. -/
theorem autoMarkOverdue_fleets :
    (database.autoMarkOverdue now).fleets = database.fleets.map (database.jobFleet now) := by
  rw [autoMarkOverdue_eq, marked_fleets, healed, healed_fleets, healedDates_fleets, List.map_map]
  apply List.map_congr_left
  intro fleet _
  have same : fleet.subscriptionStatus = .PAST_DUE ∧
      ¬ database.healedDates.HasEnded now database.gracePeriodDays fleet ↔
      fleet.subscriptionStatus = .PAST_DUE ∧ ¬ database.InArrears now fleet :=
    and_congr_right' (not_congr hasEnded_healedDates)
  rw [Function.comp_apply, ← healed, jobFleet]
  by_cases restored : fleet.subscriptionStatus = .PAST_DUE ∧ ¬ database.InArrears now fleet
  case pos =>
    rw [if_pos (same.mpr restored), if_pos restored]
    exact @marked_fleet database now fleet { fleet with subscriptionStatus := .ACTIVE } rfl
  case neg =>
    rw [if_neg (mt same.mp restored), if_neg restored]
    exact @marked_fleet database now fleet fleet rfl

/-- A suspended fleet is one that the table of fleets has as such. -/
theorem suspended_iff {fleet : Fleet} (stored : fleet ∈ database.fleets) :
    database.Suspended fleet.id ↔ fleet.subscriptionStatus = .PAST_DUE := by
  constructor
  · rintro ⟨other, otherStored, suspended, same⟩
    rwa [fleet_eq stored otherStored same.symm]
  · exact fun suspended => ⟨fleet, stored, suspended, rfl⟩

/-- The job leaves the identity of a fleet. -/
theorem jobFleet_id (fleet : Fleet) : (database.jobFleet now fleet).id = fleet.id := rfl

/-- A second run works with the same grace. -/
theorem gracePeriodDays_after : (database.autoMarkOverdue now).gracePeriodDays =
    database.gracePeriodDays := by
  rw [gracePeriodDays, settings, autoMarkOverdue_config]
  rfl

/-- The job leaves the arrears as they are. -/
theorem inArrears_after {fleet other : Fleet} (same : other.id = fleet.id) :
    (database.autoMarkOverdue now).InArrears now other ↔ database.InArrears now fleet := by
  rw [InArrears, gracePeriodDays_after, HasEnded, autoMarkOverdue_cycles, same]
  constructor
  · rintro ⟨_, listed, belongs, unsettled, graceOver⟩
    obtain ⟨row, stored, rfl⟩ := List.mem_map.mp listed
    rw [jobRow, isUnsettled_jobCycle] at unsettled
    rw [jobRow, graceEnded_jobCycle] at graceOver
    exact ⟨row, stored, belongs, unsettled, graceOver⟩
  · rintro ⟨row, stored, belongs, unsettled, graceOver⟩
    refine ⟨_, List.mem_map_of_mem stored, belongs, ?_, ?_⟩
    · rwa [jobRow, isUnsettled_jobCycle]
    · rwa [jobRow, graceEnded_jobCycle]

/-- A second run finds nothing that has lapsed. -/
theorem not_hasLapsed_after (fleet : Fleet) :
    ¬ (database.autoMarkOverdue now).HasLapsed now fleet := by
  rw [HasLapsed, gracePeriodDays_after, autoMarkOverdue_cycles]
  rintro ⟨_, listed, -, lapsed⟩
  obtain ⟨row, -, rfl⟩ := List.mem_map.mp listed
  exact not_lapsed_jobCycle lapsed

/-- A fleet with a lapsed invoice is in arrears. -/
theorem inArrears_of_lapsed {fleet : Fleet} (lapsed : database.HasLapsed now fleet) :
    database.InArrears now fleet := by
  obtain ⟨row, stored, belongs, past⟩ := lapsed
  exact ⟨row, stored, belongs, unsettled_of_open past.1, lapsed_ended past⟩

/-- A fleet that is suspended after the job is in arrears. -/
theorem inArrears_of_pastDue {fleet : Fleet}
    (suspended : (database.jobFleet now fleet).subscriptionStatus = .PAST_DUE) :
    database.InArrears now fleet := by
  rw [jobFleet] at suspended
  dsimp only at suspended
  split at suspended
  case isTrue lapsed => exact inArrears_of_lapsed lapsed
  case isFalse =>
    split at suspended
    case isTrue => cases suspended
    case isFalse kept => exact Classical.not_not.mp fun settled => kept ⟨suspended, settled⟩

/-- Such a fleet is suspended by the job. -/
theorem jobFleet_of_lapsed {fleet : Fleet} (lapsed : database.HasLapsed now fleet) :
    (database.jobFleet now fleet).subscriptionStatus = .PAST_DUE :=
  if_pos lapsed

/-- A fleet that is not suspended is suspended only for an invoice that the job marks. -/
theorem jobFleet_of_not_lapsed {fleet : Fleet} (kept : fleet.subscriptionStatus ≠ .PAST_DUE)
    (running : ¬ database.HasLapsed now fleet) : database.jobFleet now fleet = fleet := by
  rw [jobFleet, if_neg running, if_neg fun restored => kept restored.1]

/-- Each fleet has its new row after the job. -/
theorem mem_after {fleet : Fleet} (stored : fleet ∈ database.fleets) :
    database.jobFleet now fleet ∈ (database.autoMarkOverdue now).fleets := by
  rw [autoMarkOverdue_fleets]
  exact List.mem_map_of_mem stored

/-! The meaning of the job -/

/-- The job suspends exactly the fleets in arrears, apart from canceled ones, which it leaves
alone, and a second run changes nothing. -/
structure JobMeans (database : BillingDatabase) (now : Int) : Prop where
  pastDue : ∀ fleet ∈ (database.autoMarkOverdue now).fleets, fleet.subscriptionStatus ≠ .CANCELED →
    (fleet.subscriptionStatus = .PAST_DUE ↔ (database.autoMarkOverdue now).InArrears now fleet)
  canceled : ∀ fleet ∈ database.fleets, fleet.subscriptionStatus = .CANCELED →
    fleet ∈ (database.autoMarkOverdue now).fleets
  twice : (database.autoMarkOverdue now).autoMarkOverdue now = database.autoMarkOverdue now

/-- An active fleet in arrears has an invoice that the job marks, a canceled fleet has none,
and an active one that has such an invoice has none that was marked too early. -/
structure JobFits (database : BillingDatabase) (now : Int) : Prop where
  marked : ∀ fleet ∈ database.fleets, fleet.subscriptionStatus = .ACTIVE →
    database.InArrears now fleet → database.HasLapsed now fleet
  canceled : ∀ fleet ∈ database.fleets, fleet.subscriptionStatus = .CANCELED →
    ¬ database.HasLapsed now fleet
  premature : ∀ fleet ∈ database.fleets, fleet.subscriptionStatus = .ACTIVE →
    database.HasLapsed now fleet → ∀ row ∈ database.cycles, row.fleetId = fleet.id →
      ¬ Premature now database.gracePeriodDays row.columns

/-- A second run leaves all fleets as they are. -/
theorem fleets_twice : ((database.autoMarkOverdue now).autoMarkOverdue now).fleets =
    (database.autoMarkOverdue now).fleets := by
  rw [autoMarkOverdue_fleets]
  refine (List.map_congr_left fun fleet listed => ?_).trans (List.map_id _)
  rw [jobFleet, if_neg (not_hasLapsed_after fleet)]
  have kept : ¬ (fleet.subscriptionStatus = .PAST_DUE ∧
      ¬ (database.autoMarkOverdue now).InArrears now fleet) := by
    rintro ⟨suspended, settled⟩
    rw [autoMarkOverdue_fleets] at listed
    obtain ⟨old, -, rfl⟩ := List.mem_map.mp listed
    exact settled ((inArrears_after (jobFleet_id old)).mpr (inArrears_of_pastDue suspended))
  rw [if_neg kept]
  rfl

/-- A later run with the same days of grace leaves an invoice as it is, unless its fleet is
suspended by then and the invoice was marked too early before. -/
theorem jobRow_twice_iff {later : BillingDatabase}
    (sameGrace : later.gracePeriodDays = database.gracePeriodDays) (row : CycleRow) :
    later.jobRow now (database.jobRow now row) = database.jobRow now row ↔
      ¬ (later.Suspended row.fleetId ∧ Premature now database.gracePeriodDays row.columns ∧
        ¬ database.Suspended row.fleetId) := by
  rw [← jobCycle_twice_iff]
  constructor
  case mp =>
    intro same
    have columns := congrArg CycleRow.columns same
    simp only [jobRow, sameGrace] at columns
    exact columns
  case mpr =>
    intro same
    simp only [jobRow, sameGrace]
    rw [same]

/-- A second run changes nothing, unless the first has suspended a fleet with a premature invoice.
-/
theorem twice_iff :
    (database.autoMarkOverdue now).autoMarkOverdue now = database.autoMarkOverdue now ↔
      ∀ row ∈ database.cycles, ¬ ((database.autoMarkOverdue now).Suspended row.fleetId ∧
        Premature now database.gracePeriodDays row.columns ∧ ¬ database.Suspended row.fleetId) := by
  have cycles : ((database.autoMarkOverdue now).autoMarkOverdue now).cycles =
      (database.autoMarkOverdue now).cycles ↔ ∀ row ∈ database.cycles,
        (database.autoMarkOverdue now).jobRow now (database.jobRow now row) =
          database.jobRow now row := by
    rw [autoMarkOverdue_cycles, autoMarkOverdue_cycles, List.map_map, List.map_inj_left]
    exact Iff.rfl
  have rows : ((database.autoMarkOverdue now).autoMarkOverdue now).cycles =
      (database.autoMarkOverdue now).cycles ↔ ∀ row ∈ database.cycles,
        ¬ ((database.autoMarkOverdue now).Suspended row.fleetId ∧
          Premature now database.gracePeriodDays row.columns ∧ ¬ database.Suspended row.fleetId) := by
    rw [cycles]
    exact forall₂_congr fun row _ => jobRow_twice_iff gracePeriodDays_after row
  rw [← rows]
  constructor
  · exact congrArg BillingDatabase.cycles
  · intro same
    apply BillingDatabase.ext
    · rw [autoMarkOverdue_config, settings, autoMarkOverdue_config]
      rfl
    · exact fleets_twice
    · exact same

/-- Canceled fleets stay so exactly if they have no lapsed invoice. -/
theorem canceled_iff : (∀ fleet ∈ database.fleets, fleet.subscriptionStatus = .CANCELED →
      fleet ∈ (database.autoMarkOverdue now).fleets) ↔
    ∀ fleet ∈ database.fleets, fleet.subscriptionStatus = .CANCELED →
      ¬ database.HasLapsed now fleet := by
  refine forall₂_congr fun fleet stored => imp_congr_right fun canceled => ?_
  have kept : fleet.subscriptionStatus ≠ .PAST_DUE := by
    rw [canceled]
    decide
  constructor
  case mp =>
    intro listed lapsed
    have same := fleet_eq listed (mem_after stored) rfl
    have suspended := jobFleet_of_lapsed lapsed
    rw [← same] at suspended
    exact kept suspended
  case mpr =>
    intro running
    have there := @mem_after database now fleet stored
    rwa [jobFleet_of_not_lapsed kept running] at there

/-- The job has its meaning exactly if the state fits. -/
theorem jobMeans_iff (database : BillingDatabase) (now : Int) :
    database.JobMeans now ↔ database.JobFits now := by
  constructor
  case mp =>
    intro means
    have canceled := canceled_iff.mp means.canceled
    refine ⟨?_, canceled, ?_⟩
    · intro fleet stored active arrears
      have kept : fleet.subscriptionStatus ≠ .PAST_DUE := by
        rw [active]
        decide
      by_contra running
      have there := @mem_after database now fleet stored
      rw [jobFleet_of_not_lapsed kept running] at there
      have open' : fleet.subscriptionStatus ≠ .CANCELED := by
        rw [active]
        decide
      exact kept ((means.pastDue fleet there open').mpr ((inArrears_after rfl).mpr arrears))
    · intro fleet stored active lapsed row rowStored belongs premature
      have now' := twice_iff.mp means.twice row rowStored
      apply now'
      rw [belongs]
      refine ⟨⟨_, mem_after stored, jobFleet_of_lapsed lapsed, rfl⟩, premature, ?_⟩
      rw [suspended_iff stored, active]
      decide
  case mpr =>
    intro fits
    refine ⟨?_, canceled_iff.mpr fits.canceled, twice_iff.mpr ?_⟩
    · intro fleet listed open'
      rw [autoMarkOverdue_fleets] at listed
      obtain ⟨old, stored, rfl⟩ := List.mem_map.mp listed
      rw [inArrears_after (jobFleet_id old)]
      constructor
      · exact inArrears_of_pastDue
      · intro arrears
        by_cases lapsed : database.HasLapsed now old
        case pos => exact jobFleet_of_lapsed lapsed
        case neg =>
          cases status : old.subscriptionStatus with
          | ACTIVE => exact absurd (fits.marked old stored status arrears) lapsed
          | PAST_DUE =>
            rw [jobFleet, if_neg lapsed, if_neg fun restored => restored.2 arrears]
            exact status
          | CANCELED =>
            rw [jobFleet_of_not_lapsed (by rw [status]; decide) lapsed] at open'
            exact absurd status open'
    · rintro row stored ⟨⟨fleet, listed, suspended, same⟩, premature, active⟩
      rw [autoMarkOverdue_fleets] at listed
      obtain ⟨old, oldStored, rfl⟩ := List.mem_map.mp listed
      rw [← same, jobFleet_id, suspended_iff oldStored] at active
      have lapsed : database.HasLapsed now old := by
        by_contra running
        rw [jobFleet_of_not_lapsed active running] at suspended
        exact active suspended
      cases status : old.subscriptionStatus with
      | ACTIVE => exact fits.premature old oldStored status lapsed row stored same.symm premature
      | PAST_DUE => exact active status
      | CANCELED => exact fits.canceled old oldStored status lapsed

/-! One fleet among the others -/

/-- What the tables hold about one fleet, as the earlier modules have it. -/
def fleetState (database : BillingDatabase) (now : Int) (rest : BillingState) (fleet : Fleet) :
    BillingState :=
  { rest with
    now := now
    config := database.config
    fleet := fleet
    cycles := (database.cycles.filter fun row => decide (row.fleetId = fleet.id)).map
      CycleRow.columns }

/-- What one fleet has in all tables it has in its own. -/
theorem any_fleetState {rest : BillingState} {fleet : Fleet} (chosen : BillingCycle → Bool) :
    (database.fleetState now rest fleet).cycles.any chosen = true ↔
      ∃ row ∈ database.cycles, row.fleetId = fleet.id ∧ chosen row.columns = true := by
  rw [fleetState, List.any_map, List.any_eq_true]
  constructor
  · rintro ⟨row, listed, holds⟩
    obtain ⟨stored, belongs⟩ := List.mem_filter.mp listed
    exact ⟨row, stored, of_decide_eq_true belongs, holds⟩
  · rintro ⟨row, stored, belongs, holds⟩
    exact ⟨row, List.mem_filter.mpr ⟨stored, decide_eq_true belongs⟩, holds⟩

/-- The job depends on the suspension by its truth alone. -/
theorem jobCycle_congr {now : Int} {gracePeriodDays : Nat} {first second : Prop} [Decidable first]
    [Decidable second] (same : first ↔ second) (cycle : BillingCycle) :
    jobCycle now gracePeriodDays first cycle = jobCycle now gracePeriodDays second cycle := by
  rw [jobCycle, jobCycle, healCycle, healCycle]
  simp only [same]

/-- Among all fleets, the job does to the invoices of one what it does to them alone. -/
theorem fleetState_cycles {rest : BillingState} {fleet : Fleet} (stored : fleet ∈ database.fleets) :
    ((database.autoMarkOverdue now).fleetState now rest (database.jobFleet now fleet)).cycles =
      (Billing.autoMarkOverdue (database.fleetState now rest fleet)).cycles := by
  rw [Billing.autoMarkOverdue_cycles, fleetState, fleetState, autoMarkOverdue_cycles]
  have chosen : (fun row : CycleRow => decide (row.fleetId = (database.jobFleet now fleet).id)) ∘
      database.jobRow now = fun row => decide (row.fleetId = fleet.id) := rfl
  dsimp only
  rw [List.filter_map, chosen, List.map_map, List.map_map]
  apply List.map_congr_left
  intro row listed
  have belongs : row.fleetId = fleet.id := of_decide_eq_true (List.mem_filter.mp listed).2
  have suspended : database.Suspended row.fleetId ↔ fleet.subscriptionStatus = .PAST_DUE := by
    rw [belongs]
    exact suspended_iff stored
  exact jobCycle_congr suspended row.columns

/-- The invoices of one fleet after its healing. -/
theorem healFleet_cycles (state : BillingState) (gracePeriodDays : Nat) :
    (healFleet state gracePeriodDays).cycles = state.cycles.map fun cycle =>
      if state.fleet.subscriptionStatus = .PAST_DUE then
        healStatus state.now gracePeriodDays cycle
      else cycle := by
  rw [healFleet]
  split
  case isTrue => split <;> rfl
  case isFalse => exact (List.map_id _).symm

/-- The fleet after its healing. -/
theorem healFleet_fleet (state : BillingState) (gracePeriodDays : Nat) :
    (healFleet state gracePeriodDays).fleet =
      if state.fleet.subscriptionStatus = .PAST_DUE ∧ ¬ (state.cycles.any fun cycle =>
          isUnsettled cycle.status && graceEnded state.now gracePeriodDays cycle) = true then
        { state.fleet with subscriptionStatus := .ACTIVE }
      else state.fleet := by
  rw [healFleet]
  by_cases suspended : state.fleet.subscriptionStatus = .PAST_DUE
  case neg => rw [if_neg suspended, if_neg fun restored => suspended restored.1]
  case pos =>
    rw [if_pos suspended]
    split
    case isTrue arrears => exact (if_neg fun restored => restored.2 arrears).symm
    case isFalse settled => exact (if_pos ⟨suspended, settled⟩).symm

/-- One fleet and its invoices once the due dates and the early suspensions are corrected. -/
def healedAlone (state : BillingState) : BillingState :=
  healFleet
    { state with
      config := some (getConfig state)
      cycles := state.cycles.map healDueDate }
    (getConfig state).gracePeriodDays

/-- The fleet after the job, taken by itself. -/
theorem autoMarkOverdue_fleet (state : BillingState) :
    (Billing.autoMarkOverdue state).fleet =
      if (healedAlone state).cycles.any (isOverdue state.now (getConfig state).gracePeriodDays) then
        { (healedAlone state).fleet with subscriptionStatus := .PAST_DUE }
      else (healedAlone state).fleet := by
  by_cases overdue :
    (healedAlone state).cycles.any (isOverdue state.now (getConfig state).gracePeriodDays) = true
  case pos => exact (congrArg BillingState.fleet (if_pos overdue)).trans (if_pos overdue).symm
  case neg => exact (congrArg BillingState.fleet (if_neg overdue)).trans (if_neg overdue).symm

/-- Among all fleets, the job does to the status of one what it does to it alone. -/
theorem fleetState_fleet {rest : BillingState} {fleet : Fleet} :
    (Billing.autoMarkOverdue (database.fleetState now rest fleet)).fleet =
      database.jobFleet now fleet := by
  have arrears : ((database.fleetState now rest fleet).cycles.map healDueDate).any (fun cycle =>
      isUnsettled cycle.status && graceEnded now database.gracePeriodDays cycle) = true ↔
        database.InArrears now fleet := by
    rw [List.any_map, any_fleetState]
    simp only [Function.comp_apply, healDueDate_status, graceEnded_healDueDate, Bool.and_eq_true]
    exact Iff.rfl
  have cycles : (healedAlone (database.fleetState now rest fleet)).cycles =
      (database.fleetState now rest fleet).cycles.map
        (healCycle now database.gracePeriodDays (fleet.subscriptionStatus = .PAST_DUE)) := by
    rw [healedAlone, healFleet_cycles, List.map_map]
    rfl
  have lapsed : (healedAlone (database.fleetState now rest fleet)).cycles.any
      (isOverdue now database.gracePeriodDays) = true ↔ database.HasLapsed now fleet := by
    rw [cycles, List.any_map, any_fleetState]
    simp only [Function.comp_apply, isOverdue_healCycle_iff]
    exact Iff.rfl
  have restored : (healedAlone (database.fleetState now rest fleet)).fleet =
      if fleet.subscriptionStatus = .PAST_DUE ∧ ¬ database.InArrears now fleet then
        { fleet with subscriptionStatus := .ACTIVE }
      else fleet := by
    rw [healedAlone, healFleet_fleet]
    simp only [← arrears]
    rfl
  rw [autoMarkOverdue_fleet, jobFleet]
  by_cases past : database.HasLapsed now fleet
  case pos =>
    refine (if_pos (lapsed.mpr past)).trans ?_
    rw [restored, if_pos past]
    split <;> rfl
  case neg =>
    refine (if_neg (mt lapsed.mp past)).trans ?_
    rw [restored, if_neg past]
    split <;> rfl

/-! A canceled fleet -/

section Samples

/-- A canceled fleet with a pending invoice. -/
def canceledFleet : BillingDatabase where
  config := some defaultConfig
  fleets := [{ defaultFleet with subscriptionStatus := .CANCELED }]
  cycles := [⟨"cycle-1", "fleet-1", defaultCycle⟩]
  fleetKey := by decide
  cycleKey := by decide
  cycleFleet := by decide

/-- Eleven days after its period the job suspends the canceled fleet, which counts as one that
can be active again from then on. -/
theorem canceled_fleet_suspended : ¬ ∀ (database : BillingDatabase) now, database.JobMeans now := by
  intro claim
  have running := canceled_iff.mp (claim canceledFleet 1773993600000).canceled
  refine running _ (List.mem_singleton_self _) rfl ?_
  decide +kernel

end Samples

end BillingDatabase

end EmotoFleet.Billing
