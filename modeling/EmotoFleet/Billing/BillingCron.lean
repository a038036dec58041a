import EmotoFleet.Billing.BillingCycles

/-!
# The scheduled jobs of the billing service

The jobs visit every fleet or every cycle; here they visit the one fleet that the
state describes and its cycles. Reminders, mail and audit entries are left out. A
job that meets an error logs it and goes on.
-/

namespace EmotoFleet.Billing

def getConfig (state : BillingState) : BillingConfig :=
  state.config.getD defaultConfig

def generateBillingCycles (state : BillingState) : BillingState :=
  if state.fleet.subscriptionStatus = .ACTIVE then
    match lastCycle state.cycles with
    | none => generateQuietly state false
    | some last =>
      if last.periodEnd ≤ state.now then generateQuietly state false else state
  else state

def expireTrials (state : BillingState) : BillingState :=
  if state.fleet.subscriptionStatus = .ACTIVE ∧
      state.fleet.trialEndsAt.any (fun trialEndsAt => decide (trialEndsAt < state.now)) = true then
    generateQuietly { state with fleet := { state.fleet with trialEndsAt := none } } false
  else state

/-- An invoice was once due at the start of its period. -/
def healDueDate (cycle : BillingCycle) : BillingCycle :=
  if isUnsettled cycle.status = true ∧ cycle.dueDate < cycle.periodEnd then
    { cycle with dueDate := cycle.periodEnd }
  else cycle

def graceEnded (now : Int) (gracePeriodDays : Nat) (cycle : BillingCycle) : Bool :=
  decide (addDays cycle.periodEnd gracePeriodDays ≤ now)

/-- An overdue invoice whose period of grace is not over is pending again. -/
def healStatus (now : Int) (gracePeriodDays : Nat) (cycle : BillingCycle) : BillingCycle :=
  if cycle.status = .OVERDUE ∧ graceEnded now gracePeriodDays cycle = false then
    { cycle with status := .PENDING }
  else cycle

def healFleet (state : BillingState) (gracePeriodDays : Nat) : BillingState :=
  if state.fleet.subscriptionStatus = .PAST_DUE then
    let healed :=
      { state with cycles := state.cycles.map (healStatus state.now gracePeriodDays) }
    if state.cycles.any fun cycle =>
        isUnsettled cycle.status && graceEnded state.now gracePeriodDays cycle then healed
    else healed.setSubscriptionStatus .ACTIVE
  else state

def isOverdue (now : Int) (gracePeriodDays : Nat) (cycle : BillingCycle) : Bool :=
  decide ((cycle.status = .PENDING ∨ cycle.status = .PARTIAL) ∧
    cycle.dueDate < now - gracePeriodDays * DAY_MS)

def markOverdue (now : Int) (gracePeriodDays : Nat) (cycle : BillingCycle) : BillingCycle :=
  if isOverdue now gracePeriodDays cycle then { cycle with status := .OVERDUE } else cycle

def autoMarkOverdue (state : BillingState) : BillingState :=
  let config := getConfig state
  let due := { state with config := some config, cycles := state.cycles.map healDueDate }
  let healed := healFleet due config.gracePeriodDays
  let marked :=
    { healed with cycles := healed.cycles.map (markOverdue state.now config.gracePeriodDays) }
  if healed.cycles.any (isOverdue state.now config.gracePeriodDays) then
    marked.setSubscriptionStatus .PAST_DUE
  else marked

/-- The cycles that the daily reconciliation looks at. -/
def isOpen (cycle : BillingCycle) : Bool :=
  decide (cycle.status = .PENDING ∨ cycle.status = .PARTIAL)

def openCycles (cycles : List BillingCycle) : List Nat :=
  (List.range cycles.length).filter fun cycleId => cycles[cycleId]?.any isOpen

/-- The daily job looks at active fleets that are billed by validated trips. -/
def isReconciled (fleet : Fleet) : Bool :=
  decide (fleet.billingMode = .PAYG_TRIP_VALIDATED ∧ fleet.subscriptionStatus = .ACTIVE)

def auditDailyPaygUsage (state : BillingState) : BillingState :=
  if isReconciled state.fleet then (openCycles state.cycles).foldl reconcilePaygCycle state
  else state

end EmotoFleet.Billing
