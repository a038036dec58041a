import Mathlib.Data.Rat.Defs

/-!
# The tables of the billing service

Rows are kept as the schema declares them, with times in milliseconds since the
epoch. Columns that no modelled function reads or writes are left out.
-/

namespace EmotoFleet.Billing

/-- The kinds of fleets. -/
inductive FleetType where
  | COOP | DELIVERY | PERSONAL
deriving DecidableEq

/-- The plans of fleets. -/
inductive FleetPlan where
  | PAYG | INSURANCE | ENTERPRISE
deriving DecidableEq

/-- How a fleet is billed. -/
inductive FleetBillingMode where
  | FIXED_MONTHLY | PAYG_TRIP_VALIDATED
deriving DecidableEq

/-- The states of a fleet's subscription. -/
inductive FleetSubscriptionStatus where
  | ACTIVE | PAST_DUE | CANCELED
deriving DecidableEq

/-- The states of a bike. -/
inductive BikeStatus where
  | ACTIVE | MAINTENANCE | RETIRED
deriving DecidableEq

/-- The states of an invoice. -/
inductive BillingCycleStatus where
  | DRAFT | PENDING | PAID | PARTIAL | OVERDUE | CANCELED | VOID
deriving DecidableEq

/-- The kinds of discounts. -/
inductive DiscountType where
  | PERCENTAGE | FIXED_AMOUNT
deriving DecidableEq

/-- The means of payment. -/
inductive PaymentMethod where
  | CASH | MOBILE_MONEY | BANK_TRANSFER | OTHER
deriving DecidableEq

/-- The states of a transaction. -/
inductive MomoTransactionStatus where
  | PENDING | SUCCESSFUL | FAILED | EXPIRED | CANCELLED
deriving DecidableEq

/-- A fleet as the billing reads it. -/
structure Fleet where
  id : String
  type : FleetType
  plan : FleetPlan
  subscriptionStatus : FleetSubscriptionStatus
  upgradeRequested : Bool
  upgradeRequestedAt : Option Int
  monthlyRatePerBike : Int
  createdAt : Int
  trialEndsAt : Option Int
  billingStartedAt : Option Int
  momoPhoneNumber : Option String
  bankName : Option String
  bankAccountNumber : Option String
  bankAccountName : Option String
  autoPayEnabled : Bool
  emotoPaygRatePerActiveDay : Int
  billingMode : FleetBillingMode
deriving DecidableEq

/-- A bike. -/
structure Bike where
  id : String
  fleetId : String
  label : String
  plate : Option String
  serial : Option String
  model : Option String
  insurerName : Option String
  status : BikeStatus
  imageUrl : Option String
  type : Option String
  leaseToOwn : Bool
deriving DecidableEq

/-- A trip. -/
structure Trip where
  fleetId : String
  bikeId : String
  startTs : Int
  endTs : Option Int
deriving DecidableEq

/-- The bikes and trips of all fleets. The identifier of a bike is its primary key,
and every trip belongs to a stored bike. -/
structure UsageTables where
  bikes : List Bike
  trips : List Trip
  bikeKey : (bikes.map (·.id)).Nodup
  tripBike : ∀ trip ∈ trips, trip.bikeId ∈ bikes.map (·.id)

/-- A discount. -/
structure Discount where
  id : String
  type : DiscountType
  value : ℚ
deriving DecidableEq

/-- A subscription of the fleet, with the discount of its plan. -/
structure FleetSubscription where
  isActive : Bool
  endDate : Int
  discountPercent : Int
deriving DecidableEq

/-- An invoice. -/
structure BillingCycle where
  cycleNumber : Nat
  periodStart : Int
  periodEnd : Int
  dueDate : Int
  bikeCount : Nat
  ratePerBike : Int
  subtotal : Int
  discountAmount : Int
  totalDue : Int
  totalPaid : Int
  status : BillingCycleStatus
  isTrial : Bool
  discountId : Option String
  paidAt : Option Int
deriving DecidableEq

/-- A payment of an invoice. The transaction that a confirmation created the row
for is a note of the model; the table does not store it. -/
structure BillingPayment where
  billingCycleId : Nat
  amount : Int
  method : PaymentMethod
  reference : Option String
  paidAt : Int
  transaction : Option Nat
deriving DecidableEq

/-- A payment of a rider to the fleet, with the same note. -/
structure RiderPayment where
  riderId : String
  amount : Int
  paidAt : Int
  isPartial : Bool
  partialReason : Option String
  reference : String
  transaction : Option Nat
deriving DecidableEq

/-- The unique keys that the service forms for its transactions. -/
inductive IdempotencyKey where
  | invoice (billingCycleId : Option Nat) (retryCount : Nat)
  | riderCollection (riderId : String) (timestamp : Int)
deriving DecidableEq

/-- A transaction with the provider. -/
structure MomoTransaction where
  billingCycleId : Option Nat
  riderId : Option String
  referenceId : Nat
  idempotencyKey : IdempotencyKey
  amount : Int
  payerPhone : String
  payerMessage : Option String
  status : MomoTransactionStatus
  financialTransactionId : Option String
  failureReason : Option String
  retryCount : Nat
  nextRetryAt : Option Int
  callbackReceivedAt : Option Int
deriving DecidableEq

/-- The settings of the billing service. A billing cycle is at least a day long. -/
structure BillingConfig where
  billingCycleDays : Nat
  gracePeriodDays : Nat
  atLeastOneDay : 1 ≤ billingCycleDays

/-- The settings that are seeded where there are none yet. -/
def defaultConfig : BillingConfig := ⟨7, 3, by decide⟩

/-- A cooperative on pay-as-you-go, one of its bikes, and its first invoice for a
week. The runs written out in the following modules use them. -/
def defaultFleet : Fleet where
  id := "fleet-1"
  type := .COOP
  plan := .PAYG
  subscriptionStatus := .ACTIVE
  upgradeRequested := false
  upgradeRequestedAt := none
  monthlyRatePerBike := 10000
  createdAt := 1772438400000
  trialEndsAt := none
  billingStartedAt := some 1772438400000
  momoPhoneNumber := some "250788000001"
  bankName := none
  bankAccountNumber := none
  bankAccountName := none
  autoPayEnabled := false
  emotoPaygRatePerActiveDay := 350
  billingMode := .PAYG_TRIP_VALIDATED

/-- A bike. -/
def defaultBike : Bike :=
  ⟨"bike-1", "fleet-1", "Bike 1", some "RAB123C", none, none, none, .ACTIVE, none, none, false⟩

/-- One bike has a key of its own. -/
theorem defaultBike_key : ([defaultBike].map (·.id)).Nodup := by decide

/-- The first invoice of a fleet. -/
def defaultCycle : BillingCycle where
  cycleNumber := 1
  periodStart := 1772438400000
  periodEnd := 1773043200000
  dueDate := 1773043200000
  bikeCount := 0
  ratePerBike := 350
  subtotal := 0
  discountAmount := 0
  totalDue := 0
  totalPaid := 0
  status := .PENDING
  isTrial := false
  discountId := none
  paidAt := none

/-- The milliseconds of a day. -/
def DAY_MS : Int := 24 * 60 * 60 * 1000

end EmotoFleet.Billing
