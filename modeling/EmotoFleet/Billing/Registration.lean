import EmotoFleet.Billing.CycleChanges

/-!
# The first invoice of a fleet

A registration stores a fleet together with its first invoice, for a period that
begins at once. Nothing is due on it yet; the daily job fills it in from the trips.
Its due date is set to the beginning of the period.

Users, passwords, promotion codes and insurers are left out, and so are the checks of
the request.
-/

namespace EmotoFleet.Billing

structure RegisterFleetDto where
  fleetType : Option FleetType
  plan : Option FleetPlan

structure RegisterSelfDto where
  plan : Option FleetPlan

/-- The columns that a registration leaves at their defaults. -/
def newFleet (id : String) (now : Int) (type : FleetType) (plan : FleetPlan)
    (monthlyRatePerBike emotoPaygRatePerActiveDay : Int) : Fleet where
  id := id
  type := type
  plan := plan
  subscriptionStatus := .ACTIVE
  upgradeRequested := false
  upgradeRequestedAt := none
  monthlyRatePerBike := monthlyRatePerBike
  createdAt := now
  trialEndsAt := none
  billingStartedAt := some now
  momoPhoneNumber := none
  bankName := none
  bankAccountNumber := none
  bankAccountName := none
  autoPayEnabled := false
  emotoPaygRatePerActiveDay := emotoPaygRatePerActiveDay
  billingMode := .PAYG_TRIP_VALIDATED

def firstCycle (now : Int) (config : Option BillingConfig) (ratePerBike : Int) : BillingCycle where
  cycleNumber := 1
  periodStart := now
  periodEnd := addDays now ((config.map (·.billingCycleDays)).getD 7)
  dueDate := now
  bikeCount := 0
  ratePerBike := ratePerBike
  subtotal := 0
  discountAmount := 0
  totalDue := 0
  totalPaid := 0
  status := .PENDING
  isTrial := false
  discountId := none
  paidAt := none

/-- The tables of one fleet once it is stored with its first invoice. -/
def registered (now : Int) (config : Option BillingConfig) (usage : UsageTables)
    (discounts : List Discount) (fleet : Fleet) : BillingState where
  now := now
  config := config
  fleet := fleet
  usage := usage
  subscriptions := []
  discounts := discounts
  cycles := [firstCycle now config fleet.monthlyRatePerBike]
  payments := []
  riderPayments := []
  momoTransactions := []

def registerFleet (now : Int) (config : Option BillingConfig) (usage : UsageTables)
    (discounts : List Discount) (id : String) (dto : RegisterFleetDto) : BillingState :=
  let syncedPlan := dto.plan.getD .PAYG
  let syncedType := dto.fleetType.getD .COOP
  let dailyRate := if syncedType = .DELIVERY then 500 else 350
  registered now config usage discounts
    (newFleet id now syncedType syncedPlan (dailyRate * 30) dailyRate)

def registerSelfDriver (now : Int) (config : Option BillingConfig) (usage : UsageTables)
    (discounts : List Discount) (id : String) (dto : RegisterSelfDto) : BillingState :=
  registered now config usage discounts
    (newFleet id now .PERSONAL (dto.plan.getD .PAYG) 10000 350)

/-- How the tables of a fleet begin: with the first invoice, or before any. -/
inductive Begins : BillingState → Prop where
  | unbilled (state : BillingState) (empty : state.cycles = []) : Begins state
  | registerFleet (now : Int) (config : Option BillingConfig) (usage : UsageTables)
      (discounts : List Discount) (id : String) (dto : RegisterFleetDto) :
      Begins (registerFleet now config usage discounts id dto)
  | registerSelfDriver (now : Int) (config : Option BillingConfig) (usage : UsageTables)
      (discounts : List Discount) (id : String) (dto : RegisterSelfDto) :
      Begins (registerSelfDriver now config usage discounts id dto)

/-- A fleet begins with at most the one invoice that nothing is due on. -/
theorem begins_rows {state : BillingState} (begins : Begins state) {row : BillingCycle}
    (member : row ∈ state.cycles) : ∃ rate, row = firstCycle state.now state.config rate := by
  cases begins with
  | unbilled _ empty =>
    rw [empty] at member
    cases member
  | registerFleet now config usage discounts id dto =>
    exact ⟨_, List.mem_singleton.mp member⟩
  | registerSelfDriver now config usage discounts id dto =>
    exact ⟨_, List.mem_singleton.mp member⟩

end EmotoFleet.Billing
