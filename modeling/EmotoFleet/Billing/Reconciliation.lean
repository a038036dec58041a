import EmotoFleet.Billing.Generation
import EmotoFleet.Billing.PaygBilling
import Mathlib.Tactic.Linarith
import Mathlib.Tactic.FieldSimp

/-!
# Generation and reconciliation of the same invoice

An invoice for a period that is over is computed from the trips of the period when
it is generated, and again by the next reconciliation. The bike-days and the rate
are the same; the discounts are not. Generation takes off the discount of the
plan that the fleet is subscribed to, reconciliation only a discount that is
stored with the invoice, and generation stores none.
-/

namespace EmotoFleet.Billing

open Doubles

variable {state next : BillingState}

/-- The columns that say what is owed and for what. -/
def amountsOf (cycle : BillingCycle) : Nat × Int × Int × Int :=
  (cycle.bikeCount, cycle.subtotal, cycle.discountAmount, cycle.totalDue)

def activeSubscription (state : BillingState) : Option FleetSubscription :=
  state.subscriptions.find? fun subscription =>
    subscription.isActive && decide (state.now ≤ subscription.endDate)

/-- What the trips of the next period cost, by the day. -/
def usageCharge (state : BillingState) : Int :=
  (chargedBy state.fleet state.usage (nextCycle state)).card * paygRate state.fleet

/-- The fleet has no subscription with a discount, or one of less than half a franc. -/
def NoDiscount (state : BillingState) : Prop :=
  ∀ subscription, activeSubscription state = some subscription →
    -50 ≤ usageCharge state * subscription.discountPercent ∧
      usageCharge state * subscription.discountPercent < 50

/-- A larger part of a larger amount is no less. -/
theorem shareOf_mono {amount other : Int} {percent rate : ℚ} (owed : 0 ≤ amount)
    (more : amount ≤ other) (nonneg : 0 ≤ percent) (higher : percent ≤ rate) :
    shareOf amount percent ≤ shareOf other rate := by
  have part : toDouble (toDouble percent / 100) ≤ toDouble (toDouble rate / 100) :=
    toDouble_mono (div_le_div_of_nonneg_right (toDouble_mono higher) (by norm_num))
  have positive : 0 ≤ toDouble (toDouble percent / 100) :=
    toDouble_nonneg (div_nonneg (toDouble_nonneg nonneg) (by norm_num))
  exact toDouble_mono (mul_le_mul (Int.cast_le.mpr more) part positive
    (Int.cast_nonneg (owed.trans more)))

theorem shareOf_neg_amount (amount : Int) (percent : ℚ) :
    shareOf (-amount) percent = -shareOf amount percent := by
  rw [shareOf, shareOf, Int.cast_neg, neg_mul, toDouble_neg]

theorem shareOf_neg_percent (amount : Int) (percent : ℚ) :
    shareOf amount (-percent) = -shareOf amount percent := by
  rw [shareOf, shareOf, toDouble_neg, neg_div, toDouble_neg, mul_neg, toDouble_neg]

/-- Around half a franc, amounts of up to fifty-one francs at whole percentages. -/
theorem shareOf_small : ∀ amount < 52, 0 < amount →
    shareOf (amount : Nat) (49 / amount : Nat) < 1 / 2 ∧
      (amount * (50 / amount) = 50 → shareOf (amount : Nat) (50 / amount : Nat) = 1 / 2) ∧
      1 / 2 < shareOf (amount : Nat) (50 / amount + 1 : Nat) := by
  decide +kernel

/-- In double precision too, a whole percentage of a whole amount is half a franc, less or
more. -/
theorem shareOf_cases {amount percent : Nat} (owed : 0 < amount) :
    (amount * percent < 50 → shareOf amount percent < 1 / 2) ∧
      (amount * percent = 50 → shareOf amount percent = 1 / 2) ∧
      (50 < amount * percent → 1 / 2 < shareOf amount percent) := by
  rcases Nat.lt_or_ge amount 52 with small | large
  · obtain ⟨less, half, more⟩ := shareOf_small amount small owed
    refine ⟨fun short => ?_, fun exact => ?_, fun above => ?_⟩
    · have percents : percent ≤ 49 / amount :=
        (Nat.le_div_iff_mul_le owed).mpr (by rw [Nat.mul_comm]; omega)
      exact (shareOf_mono (Int.natCast_nonneg _) le_rfl (Nat.cast_nonneg _)
        (Nat.cast_le.mpr percents)).trans_lt less
    · have percents : 50 / amount = percent := Nat.div_eq_of_eq_mul_right owed exact.symm
      rw [percents] at half
      exact half exact
    · have percents : 50 / amount + 1 ≤ percent :=
        Nat.succ_le_of_lt ((Nat.div_lt_iff_lt_mul owed).mpr (by rw [Nat.mul_comm]; omega))
      exact more.trans_le (shareOf_mono (Int.natCast_nonneg _) le_rfl (Nat.cast_nonneg _)
        (Nat.cast_le.mpr percents))
  · have one := (shareOf_small 51 (by decide) (by decide)).2.2
    rcases Nat.eq_zero_or_pos percent with rfl | positive
    · refine ⟨fun _ => ?_, fun exact => ?_, fun above => ?_⟩
      · simp [shareOf]
      · omega
      · omega
    · have least : 52 * 1 ≤ amount * percent := Nat.mul_le_mul large positive
      refine ⟨fun short => by omega, fun exact => by omega, fun _ => ?_⟩
      refine one.trans_le (shareOf_mono (by decide) ?_ (by norm_num) ?_)
      · exact_mod_cast (by omega : 51 ≤ amount)
      · exact_mod_cast positive

theorem shareOf_natCast_nonneg (amount percent : Nat) : 0 ≤ shareOf amount percent :=
  toDouble_nonneg (mul_nonneg (Int.cast_nonneg (Int.natCast_nonneg _)) (toDouble_nonneg
    (div_nonneg (toDouble_nonneg (Nat.cast_nonneg _)) (by norm_num))))

/-- In double precision too, the parts of less than half a franc are those of less than fifty
francs and percents, and half a franc is no less. -/
theorem shareOf_natCast (amount percent : Nat) :
    (shareOf amount percent < 1 / 2 ↔ amount * percent < 50) ∧
      (shareOf amount percent ≤ 1 / 2 ↔ amount * percent ≤ 50) := by
  rcases Nat.eq_zero_or_pos amount with rfl | owed
  · have none : shareOf (0 : Nat) percent = 0 := by simp [shareOf]
    rw [none]
    norm_num
  · obtain ⟨less, half, more⟩ := @shareOf_cases amount percent owed
    rcases Nat.lt_trichotomy (amount * percent) 50 with short | exact | above
    · exact ⟨iff_of_true (less short) short, iff_of_true (less short).le short.le⟩
    · rw [half exact, exact]
      norm_num
    · exact ⟨iff_of_false (more above).not_gt (by omega),
        iff_of_false (more above).not_ge (by omega)⟩

/-- Rounding a percentage gives zero for amounts of less than half a franc. -/
theorem percentageOf_eq_zero (subtotal percent : Int) :
    percentageOf subtotal percent = 0 ↔ -50 ≤ subtotal * percent ∧ subtotal * percent < 50 := by
  have rounds : percentageOf subtotal percent = 0 ↔
      -(1 / 2) ≤ shareOf subtotal percent ∧ shareOf subtotal percent < 1 / 2 := by
    rw [percentageOf, roundHalfUp, Int.floor_eq_zero_iff, Set.mem_Ico]
    constructor
    · rintro ⟨least, most⟩
      exact ⟨by linarith, by linarith⟩
    · rintro ⟨least, most⟩
      exact ⟨by linarith, by linarith⟩
  rw [rounds]
  -- a change of sign on either side changes the sign of the part and of the product
  have signs (amount part : Nat) :
      (-(1 / 2) ≤ shareOf amount part ∧ shareOf amount part < 1 / 2 ↔
        -50 ≤ (amount * part : Int) ∧ (amount * part : Int) < 50) ∧
      (-(1 / 2) ≤ -shareOf amount part ∧ -shareOf amount part < 1 / 2 ↔
        -50 ≤ -(amount * part : Int) ∧ -(amount * part : Int) < 50) := by
    have nonneg := shareOf_natCast_nonneg amount part
    obtain ⟨below, most⟩ := shareOf_natCast amount part
    have cast : ((amount * part : Nat) : Int) = amount * part := Int.natCast_mul _ _
    rw [← cast]
    constructor
    · rw [and_iff_right (by linarith), and_iff_right (by omega), below]
      omega
    · rw [neg_le_neg_iff, neg_le_neg_iff, and_iff_left (by linarith), and_iff_left (by omega), most]
      omega
  obtain ⟨amount, rfl | rfl⟩ := Int.eq_nat_or_neg subtotal <;>
    obtain ⟨part, rfl | rfl⟩ := Int.eq_nat_or_neg percent
  · rw [Int.cast_natCast]
    exact (signs amount part).1
  · rw [Int.cast_neg, Int.cast_natCast, shareOf_neg_percent, Int.mul_neg]
    exact (signs amount part).2
  · rw [Int.cast_natCast, shareOf_neg_amount, Int.neg_mul]
    exact (signs amount part).2
  · rw [Int.cast_neg, Int.cast_natCast, shareOf_neg_amount, shareOf_neg_percent, neg_neg,
      Int.neg_mul_neg]
    exact (signs amount part).1

theorem planDiscount_eq_zero (subtotal : Int) :
    planDiscount state subtotal = 0 ↔
      ∀ subscription, activeSubscription state = some subscription →
        -50 ≤ subtotal * subscription.discountPercent ∧
          subtotal * subscription.discountPercent < 50 := by
  unfold planDiscount
  cases found : activeSubscription state with
  | none =>
    rw [activeSubscription] at found
    simp [found]
  | some subscription =>
    rw [activeSubscription] at found
    by_cases free : subscription.discountPercent = 0
    · simp [found, free]
    · simp [found, free, percentageOf_eq_zero]

/-! The generated invoice -/

/-- The amounts of a generated invoice whose period is over. -/
theorem nextCycle_amounts (payg : isPayg state.fleet = true)
    (finished : (nextCycle state).periodEnd ≤ state.now) :
    (nextCycle state).bikeCount =
        operatingBikesCount (cycleAudit state.fleet state.usage (nextCycle state)) ∧
      (nextCycle state).subtotal = usageCharge state ∧
      (nextCycle state).discountAmount = planDiscount state (usageCharge state) ∧
      (nextCycle state).totalDue =
        max 0 (usageCharge state - planDiscount state (usageCharge state)) := by
  have charged : usageCharge state =
      (cycleAudit state.fleet state.usage (nextCycle state)).totalPaygSubtotalRwf :=
    (totalPaygSubtotalRwf_card _).symm
  have amounts : invoiceAmounts state (nextCycle state).periodStart (nextCycle state).periodEnd =
      (operatingBikesCount (cycleAudit state.fleet state.usage (nextCycle state)),
        paygRate state.fleet, usageCharge state) := by
    rw [charged, invoiceAmounts, if_pos payg, if_neg (not_lt.mpr finished)]
    rfl
  have columns : (nextCycle state).bikeCount =
        (invoiceAmounts state (nextCycle state).periodStart (nextCycle state).periodEnd).1 ∧
      (nextCycle state).subtotal =
        (invoiceAmounts state (nextCycle state).periodStart (nextCycle state).periodEnd).2.2 ∧
      (nextCycle state).discountAmount = planDiscount state (nextCycle state).subtotal ∧
      (nextCycle state).totalDue =
        max 0 ((nextCycle state).subtotal - (nextCycle state).discountAmount) :=
    ⟨rfl, rfl, rfl, rfl⟩
  obtain ⟨bikes, subtotal, discount, due⟩ := columns
  rw [amounts] at bikes subtotal
  rw [subtotal] at discount due
  rw [discount] at due
  exact ⟨bikes, subtotal, discount, due⟩

/-! Its reconciliation -/

theorem withNextCycle_last (state : BillingState) :
    (withNextCycle state).cycles[state.cycles.length]? = some (nextCycle state) := by
  simp [withNextCycle]

/-- The amounts that the reconciliation of the generated invoice writes. -/
theorem reconciled_amounts (state : BillingState) :
    amountsOf (reconciled (withNextCycle state) (nextCycle state)) =
      (operatingBikesCount (cycleAudit state.fleet state.usage (nextCycle state)),
        usageCharge state, 0, max 0 (usageCharge state)) := by
  have charged : usageCharge state =
      (cycleAudit state.fleet state.usage (nextCycle state)).totalPaygSubtotalRwf :=
    (totalPaygSubtotalRwf_card _).symm
  have undiscounted : storedDiscount (withNextCycle state) (nextCycle state)
      (usageCharge state) = 0 := rfl
  have due : (usageCharge state) =
      usageCharge state - storedDiscount (withNextCycle state) (nextCycle state)
        (usageCharge state) := by
    rw [undiscounted]
    omega
  rw [charged] at due ⊢
  refine Prod.ext rfl (Prod.ext rfl (Prod.ext rfl ?_))
  exact congrArg (max 0) due.symm

/-- Reconciling a finished invoice right after its generation leaves its amounts as
they are exactly when the fleet is on trial, so that nothing is reconciled, or has
no discount. -/
theorem reconciliation_agrees_iff (state next : BillingState) (isManual : Bool)
    (payg : isPayg state.fleet = true)
    (generated : generateCycleForFleet state isManual = .ok next)
    (finished : (nextCycle state).periodEnd ≤ state.now) :
    (∃ before after, next.cycles[state.cycles.length]? = some before ∧
      (reconcilePaygCycle next state.cycles.length).cycles[state.cycles.length]? = some after ∧
      amountsOf after = amountsOf before) ↔
    onTrial state.fleet state.now ∨ NoDiscount state := by
  obtain rfl := generated_eq generated
  have stored := withNextCycle_last state
  obtain ⟨bikes, subtotal, discount, due⟩ := nextCycle_amounts payg finished
  cases nextCycle_status state with
  | inl paid =>
    obtain ⟨settled, _, trial⟩ := paid
    have skipped : reconcilePaygCycle (withNextCycle state) state.cycles.length =
        withNextCycle state := by
      simp [reconcilePaygCycle, stored, settled]
    rw [skipped]
    exact iff_of_true ⟨_, _, stored, stored, rfl⟩ (Or.inl trial)
  | inr pending =>
    obtain ⟨unsettled, _, charged⟩ := pending
    have paygNext : isPayg (withNextCycle state).fleet = true := payg
    have rewritten : (reconcilePaygCycle (withNextCycle state)
        state.cycles.length).cycles[state.cycles.length]? =
          some (reconciled (withNextCycle state) (nextCycle state)) := by
      simp [reconcilePaygCycle, stored, unsettled, paygNext, BillingState.updateCycle]
    have agrees : amountsOf (reconciled (withNextCycle state) (nextCycle state)) =
        amountsOf (nextCycle state) ↔ planDiscount state (usageCharge state) = 0 := by
      rw [reconciled_amounts, amountsOf, bikes, subtotal, discount, due]
      simp only [Prod.mk.injEq, true_and]
      constructor
      · rintro ⟨same, _⟩
        exact same.symm
      · intro free
        rw [free]
        exact ⟨rfl, by rw [Int.sub_zero]⟩
    rw [or_iff_right charged, NoDiscount, ← planDiscount_eq_zero, ← agrees]
    constructor
    · rintro ⟨before, after, found, later, same⟩
      obtain rfl := Option.some.inj (stored.symm.trans found)
      obtain rfl := Option.some.inj (rewritten.symm.trans later)
      exact same
    · intro same
      exact ⟨_, _, stored, rewritten, same⟩

/-- A fleet whose first week is over, with one day of trips. -/
def finishedWeek : BillingState :=
  { unbilledState with
    now := 1773129600000
    usage := ⟨[defaultBike], [tripAt 1772442000000], unbilledState.usage.bikeKey, by decide⟩ }

/-- A subscription with a discount of one tenth. -/
def tenPercent : FleetSubscription := ⟨true, 1775030400000, 10⟩

/-- Without a subscription, the reconciliation changes nothing. -/
theorem reconciliation_agrees_iff_unsubscribed :
    ∃ before after, (withNextCycle finishedWeek).cycles[0]? = some before ∧
      (reconcilePaygCycle (withNextCycle finishedWeek) 0).cycles[0]? = some after ∧
      amountsOf after = amountsOf before :=
  (reconciliation_agrees_iff finishedWeek (withNextCycle finishedWeek) true (by decide)
    (generateCycleForFleet_manual finishedWeek) (by decide)).mpr (Or.inr (fun _ => by
      simp [activeSubscription, finishedWeek, unbilledState]))

/-- A day of 350 francs, 35 of them taken off by the plan: the reconciliation bills
the day in full. -/
theorem plan_discount_dropped :
    ¬ ∀ (state next : BillingState) (isManual : Bool), isPayg state.fleet = true →
      generateCycleForFleet state isManual = .ok next →
      (nextCycle state).periodEnd ≤ state.now →
      ∃ before after, next.cycles[state.cycles.length]? = some before ∧
        (reconcilePaygCycle next state.cycles.length).cycles[state.cycles.length]? = some after ∧
        amountsOf after = amountsOf before := by
  intro always
  obtain ⟨before, after, found, later, same⟩ :=
    always { finishedWeek with subscriptions := [tenPercent] } _ true (by decide)
      (generateCycleForFleet_manual _) (by decide)
  have billed : ((withNextCycle
      { finishedWeek with subscriptions := [tenPercent] }).cycles[0]?.map amountsOf) =
        some (1, 350, 35, 315) := by decide +kernel
  have rebilled : ((reconcilePaygCycle (withNextCycle
      { finishedWeek with subscriptions := [tenPercent] }) 0).cycles[0]?.map amountsOf) =
        some (1, 350, 0, 350) := by decide +kernel
  have first : amountsOf before = (1, 350, 35, 315) := by
    have mapped := congrArg (Option.map amountsOf) found
    exact Option.some.inj (mapped.symm.trans billed)
  have second : amountsOf after = (1, 350, 0, 350) := by
    have mapped := congrArg (Option.map amountsOf) later
    exact Option.some.inj (mapped.symm.trans rebilled)
  rw [first, second] at same
  exact absurd same (by decide)

end EmotoFleet.Billing
