import EmotoFleet.Billing.CycleChanges

/-!
# Calls that interleave

Several callers use the service at once. A call is kept as the database access it makes
next, with what it has read so far; between two accesses of one call any number of
accesses of other calls take place. Nothing is locked but the row of a transaction
that is being confirmed.

The accesses of a confirmation are one database transaction. Others see what it writes
when it commits, so it writes everything in one step here, and the generation that it
asks for, which reads none of these columns, follows.
-/

namespace EmotoFleet.Calls

open EmotoFleet.Billing

/-- What a generation has decided about the next invoice. -/
structure Draft where
  fleet : Fleet
  cycleDays : Nat
  periodStart : Int
  cycleNumber : Nat

/-- The next access of a generation: the fleet with its bikes, the settings, the last
invoice, the trips of a fleet on pay-as-you-go, the discount, the new row, and the date
when the fleet was first billed. -/
inductive Generation where
  | requested (isManual : Bool)
  | configuring (isManual : Bool) (fleet : Fleet) (usage : UsageTables)
  | locating (isManual : Bool) (fleet : Fleet) (usage : UsageTables) (cycleDays : Nat)
  | auditing (draft : Draft) (usage : UsageTables) (now : Int)
  | discounting (draft : Draft) (amounts : Nat × Int × Int)
  | inserting (draft : Draft) (amounts : Nat × Int × Int) (discountAmount : Int)
  | starting (periodStart : Int)

/-- The number of bikes, the rate and the subtotal. The trips are read anew, the bikes of
a fleet at a fixed rate are those that were read with the fleet. -/
def draftAmounts (state : BillingState) (draft : Draft) (usage : UsageTables) (now : Int) :
    Nat × Int × Int :=
  let periodEnd := addDays draft.periodStart draft.cycleDays
  if isPayg draft.fleet then
    let auditEnd := if now < periodEnd then now else periodEnd
    let audit := getPaygAuditForFleet state.fleet state.usage draft.periodStart auditEnd
    (operatingBikesCount audit, paygRate draft.fleet, audit.totalPaygSubtotalRwf)
  else
    let bikeCount := (usage.bikes.filter fun bike =>
      decide (bike.fleetId = draft.fleet.id ∧ bike.status = .ACTIVE)).length
    (bikeCount, draft.fleet.monthlyRatePerBike, bikeCount * draft.fleet.monthlyRatePerBike)

/-- The invoice that a draft becomes. -/
def draftCycle (now : Int) (draft : Draft) (amounts : Nat × Int × Int) (discountAmount : Int) :
    BillingCycle :=
  let periodEnd := addDays draft.periodStart draft.cycleDays
  let isTrial := draft.fleet.trialEndsAt.any fun trialEndsAt => decide (now < trialEndsAt)
  { cycleNumber := draft.cycleNumber
    periodStart := draft.periodStart
    periodEnd := periodEnd
    dueDate := periodEnd
    bikeCount := amounts.1
    ratePerBike := amounts.2.1
    subtotal := amounts.2.2
    discountAmount := discountAmount
    totalDue := max 0 (amounts.2.2 - discountAmount)
    totalPaid := 0
    status := if isTrial then .PAID else .PENDING
    isTrial := isTrial
    discountId := none
    paidAt := none }

/-- The next access of a call, with what it has read. -/
inductive Call where
  /-- A manual payment that was accepted. -/
  | recording (cycleId : Nat) (cycle : BillingCycle) (dto : RecordBillingPaymentDto)
  /-- A manual payment whose row is stored and whose total is not. -/
  | totalling (cycleId : Nat) (cycle : BillingCycle) (amount paidAt : Int)
  | cancelling (cycleId : Nat)
  | counting
  | activating
  | approving (cycleId : Nat) (cycle : BillingCycle) (isPastDue : Bool) (amount : Int)
    (method : PaymentMethod) (reference : Option String)
  /-- An approval whose payment is stored and whose total is not. -/
  | approved (cycleId : Nat) (cycle : BillingCycle) (isPastDue : Bool) (amount : Int)
  | restoring
  | crediting (transactionId : Nat) (transaction : MomoTransaction) (cycle : Option BillingCycle)
    (financialTransactionId : String)
  | generating (generation : Generation)

/-- The next access of a generation. -/
def advanceGeneration (state : BillingState) : Generation → BillingState × List Call
  | .requested isManual => (state, [.generating (.configuring isManual state.fleet state.usage)])
  | .configuring isManual fleet usage =>
    (state, [.generating (.locating isManual fleet usage (cycleDays state))])
  | .locating isManual fleet usage cycleDays =>
    let place := nextPeriod { state with fleet := fleet }
    if !isManual && decide (state.now < place.1) then (state, [])
    else (state, [.generating (.auditing ⟨fleet, cycleDays, place.1, place.2⟩ usage state.now)])
  | .auditing draft usage now =>
    (state, [.generating (.discounting draft (draftAmounts state draft usage now))])
  | .discounting draft amounts =>
    (state, [.generating (.inserting draft amounts (planDiscount state amounts.2.2))])
  | .inserting draft amounts discountAmount =>
    if state.cycles.any (·.cycleNumber == draft.cycleNumber) then (state, [])
    else
      ({ state with cycles := state.cycles ++ [draftCycle state.now draft amounts discountAmount] },
        if draft.fleet.billingStartedAt = none then [.generating (.starting draft.periodStart)]
        else [])
  | .starting periodStart =>
    ({ state with fleet := { state.fleet with billingStartedAt := some periodStart } }, [])

/-- The invoice's part of a confirmation, and whether it settles the invoice. -/
def commitInvoice (state : BillingState) (transactionId : Nat) (transaction : MomoTransaction)
    (cycle : Option BillingCycle) (financialTransactionId : String) : BillingState × Bool :=
  match transaction.billingCycleId, cycle with
  | some cycleId, some cycle =>
    if cycle.status = .PAID then (state, false)
    else
      let paid := credited state transactionId transaction.amount cycleId cycle financialTransactionId
      if cycle.totalDue ≤ cycle.totalPaid + transaction.amount then (restoreFleet paid, true)
      else (paid, false)
  | _, _ => (state, false)

/-- The rider's part of a confirmation. -/
def commitRider (state : BillingState) (transactionId : Nat) (transaction : MomoTransaction)
    (financialTransactionId : String) : BillingState :=
  match transaction.riderId with
  | some riderId => creditRider state transactionId transaction riderId financialTransactionId
  | none => state

/-- One access of a call: the tables after it, and the call that remains. -/
def advance (state : BillingState) : Call → BillingState × List Call
  | .recording cycleId cycle dto =>
    let payment := manualPayment state.now cycleId dto
    (state.createPayment payment, [.totalling cycleId cycle dto.amount payment.paidAt])
  | .totalling cycleId cycle amount paidAt =>
    let newTotalPaid := cycle.totalPaid + amount
    (writePayment state cycleId cycle newTotalPaid paidAt,
      if paymentStatus newTotalPaid cycle.totalDue = .PAID then [.cancelling cycleId] else [])
  | .cancelling cycleId => (cancelPending state cycleId, [.counting])
  | .counting =>
    if state.cycles.any fun cycle => isUnsettled cycle.status && decide (cycle.dueDate < state.now) then
      (state, [.generating (.requested true)])
    else (state, [.activating])
  | .activating => (state.setSubscriptionStatus .ACTIVE, [.generating (.requested true)])
  | .approving cycleId cycle isPastDue amount method reference =>
    (state.createPayment ⟨cycleId, amount, method, reference, state.now, none⟩,
      [.approved cycleId cycle isPastDue amount])
  | .approved cycleId cycle isPastDue amount =>
    (state.updateCycle cycleId fun row =>
      { row with
        totalPaid := cycle.totalPaid + amount
        status := paymentStatus (cycle.totalPaid + amount) cycle.totalDue },
      if isPastDue then [.restoring] else [])
  | .restoring => (state.setSubscriptionStatus .ACTIVE, [])
  | .crediting transactionId transaction cycle financialTransactionId =>
    let committed := commitInvoice (marked state transactionId financialTransactionId)
      transactionId transaction cycle financialTransactionId
    (commitRider committed.1 transactionId transaction financialTransactionId,
      if committed.2 then [.generating (.requested true)] else [])
  | .generating generation => advanceGeneration state generation

/-- A confirmation that has not committed locks the row of its transaction. -/
def Call.locks : Call → Nat → Bool
  | .crediting lockedId _ _ _, transactionId => lockedId == transactionId
  | _, _ => false

/-- The tables and the calls under way. -/
structure World where
  billing : BillingState
  calls : List Call

/-- A call begins by reading the invoice, or it makes its next access. -/
inductive Action where
  | tick (elapsed : Nat)
  | recordPayment (cycleId : Nat) (dto : RecordBillingPaymentDto)
  | approveBillingPayment (cycleId : Nat) (amount : Option Int) (method : PaymentMethod)
    (reference : Option String)
  | confirmPayment (transactionId : Nat) (financialTransactionId : String)
  | generateCycleForFleet (isManual : Bool)
  | proceed (position : Nat)

/-- What remains of a manual payment once the invoice is read and the checks are made. -/
def beginRecord (state : BillingState) (cycleId : Nat) (dto : RecordBillingPaymentDto) : List Call :=
  match state.cycles[cycleId]? with
  | none => []
  | some cycle =>
    match acceptPayment cycle dto.amount with
    | .error _ => []
    | .ok () => [.recording cycleId cycle dto]

/-- The call that an approval starts. -/
def beginApproval (state : BillingState) (cycleId : Nat) (amount : Option Int)
    (method : PaymentMethod) (reference : Option String) : List Call :=
  match state.cycles[cycleId]? with
  | none => []
  | some cycle =>
    [.approving cycleId cycle (decide (state.fleet.subscriptionStatus = .PAST_DUE))
      (approvedAmount cycle amount) method reference]

/-- The call that a confirmation starts. -/
def beginConfirmation (state : BillingState) (transactionId : Nat)
    (financialTransactionId : String) : List Call :=
  match state.momoTransactions[transactionId]? with
  | none => []
  | some transaction =>
    [.crediting transactionId transaction
      (transaction.billingCycleId.bind fun cycleId => state.cycles[cycleId]?) financialTransactionId]

/-- One step: time passes, a call begins, goes on or is lost. -/
def step (world : World) : Action → Option World
  | .tick elapsed =>
    some { world with billing := { world.billing with now := world.billing.now + elapsed } }
  | .recordPayment cycleId dto =>
    some { world with calls := world.calls ++ beginRecord world.billing cycleId dto }
  | .approveBillingPayment cycleId amount method reference =>
    some { world with
      calls := world.calls ++ beginApproval world.billing cycleId amount method reference }
  | .confirmPayment transactionId financialTransactionId =>
    if world.calls.any (·.locks transactionId) then none
    else some { world with
      calls := world.calls ++ beginConfirmation world.billing transactionId financialTransactionId }
  | .generateCycleForFleet isManual =>
    some { world with calls := world.calls ++ [.generating (.requested isManual)] }
  | .proceed position =>
    world.calls[position]?.map fun call =>
      ⟨(advance world.billing call).1,
        world.calls.eraseIdx position ++ (advance world.billing call).2⟩

/-- What holds of a call holds of the calls that remain, where it may be missing. -/
theorem forall_optional {holds : Call → Prop} {condition : Prop} [Decidable condition] {call : Call}
    (one : holds call) : ∀ later ∈ (if condition then [call] else []), holds later := by
  intro later member
  split at member
  · rw [List.mem_singleton.mp member]
    exact one
  · cases member

/-! What a call begins with -/

variable {state : BillingState}

/-- A payment by hand starts no call or one. -/
theorem beginRecord_cases (state : BillingState) (cycleId : Nat) (dto : RecordBillingPaymentDto) :
    beginRecord state cycleId dto = [] ∨
      ∃ cycle, state.cycles[cycleId]? = some cycle ∧
        beginRecord state cycleId dto = [.recording cycleId cycle dto] := by
  unfold beginRecord
  cases state.cycles[cycleId]? with
  | none => exact Or.inl rfl
  | some cycle =>
    simp only []
    cases acceptPayment cycle dto.amount with
    | error refusal => exact Or.inl rfl
    | ok done => exact Or.inr ⟨cycle, rfl, rfl⟩

/-- An approval starts no call or one. -/
theorem beginApproval_cases (state : BillingState) (cycleId : Nat) (amount : Option Int)
    (method : PaymentMethod) (reference : Option String) :
    beginApproval state cycleId amount method reference = [] ∨
      ∃ cycle isPastDue, state.cycles[cycleId]? = some cycle ∧
        beginApproval state cycleId amount method reference =
          [.approving cycleId cycle isPastDue (approvedAmount cycle amount) method reference] := by
  unfold beginApproval
  cases state.cycles[cycleId]? with
  | none => exact Or.inl rfl
  | some cycle => exact Or.inr ⟨cycle, _, rfl, rfl⟩

/-- A confirmation starts no call or one. -/
theorem beginConfirmation_cases (state : BillingState) (transactionId : Nat)
    (financialTransactionId : String) :
    beginConfirmation state transactionId financialTransactionId = [] ∨
      ∃ transaction, state.momoTransactions[transactionId]? = some transaction ∧
        beginConfirmation state transactionId financialTransactionId =
          [.crediting transactionId transaction
            (transaction.billingCycleId.bind fun cycleId => state.cycles[cycleId]?)
            financialTransactionId] := by
  unfold beginConfirmation
  cases state.momoTransactions[transactionId]? with
  | none => exact Or.inl rfl
  | some transaction => exact Or.inr ⟨transaction, rfl, rfl⟩

/-! A call that no other interrupts -/

/-- The tables after the calls, one after another, as far as the fuel goes. -/
def finish : Nat → BillingState → List Call → BillingState
  | 0, state, _ => state
  | _ + 1, state, [] => state
  | fuel + 1, state, call :: rest =>
    finish fuel (advance state call).1 ((advance state call).2 ++ rest)

/-- Without calls nothing is left to do. -/
theorem finish_nil (fuel : Nat) (state : BillingState) : finish fuel state [] = state := by
  cases fuel with
  | zero => rfl
  | succ fuel => rfl

/-- A call alone makes its next access. -/
theorem finish_call (fuel : Nat) (state : BillingState) (call : Call) :
    finish (fuel + 1) state [call] = finish fuel (advance state call).1 (advance state call).2 := by
  rw [finish, List.append_nil]

/-- The draft of a generation that reads everything at once. -/
def draftOf (state : BillingState) : Draft :=
  ⟨state.fleet, cycleDays state, (nextPeriod state).1, (nextPeriod state).2⟩

/-- The amounts of a draft are those of the invoice. -/
theorem draftAmounts_of (state : BillingState) :
    draftAmounts state (draftOf state) state.usage state.now =
      invoiceAmounts state (nextPeriod state).1 (addDays (nextPeriod state).1 (cycleDays state)) :=
  rfl

/-- The invoice of a draft is the next one. -/
theorem draftCycle_of (state : BillingState) :
    draftCycle state.now (draftOf state) (draftAmounts state (draftOf state) state.usage state.now)
      (planDiscount state (draftAmounts state (draftOf state) state.usage state.now).2.2) =
        nextCycle state := by
  rw [draftAmounts_of]
  rfl

/-- The next invoice of a fleet whose billing has started. -/
theorem withNextCycle_started {date : Int} (started : state.fleet.billingStartedAt = some date) :
    withNextCycle state = { state with cycles := state.cycles ++ [nextCycle state] } := by
  have kept : { state.fleet with billingStartedAt := some date } = state.fleet := by rw [← started]
  rw [withNextCycle, started, Option.getD_some, kept]

/-- The accesses of a generation once it has placed the next invoice. -/
theorem draft_alone (fuel : Nat) (state : BillingState) :
    finish (fuel + 4) state [.generating (.auditing (draftOf state) state.usage state.now)] =
      withNextCycle state := by
  have free : state.cycles.any (·.cycleNumber == (draftOf state).cycleNumber) = false := by
    rw [List.any_eq_false]
    intro cycle member taken
    exact absurd (beq_iff_eq.mp taken) (Nat.ne_of_lt (lt_nextNumber member))
  rw [finish_call, advance, advanceGeneration, finish_call, advance, advanceGeneration, finish_call,
    advance, advanceGeneration, if_neg (by simp [free]), draftCycle_of]
  cases started : state.fleet.billingStartedAt with
  | none =>
    simp [draftOf, started, finish_call, advance, advanceGeneration, finish_nil, withNextCycle,
      nextCycle_start]
  | some date =>
    rw [withNextCycle_started started]
    simp [draftOf, started, finish_nil]

/-- A generation alone writes what the function writes. -/
theorem generation_alone (fuel : Nat) (state : BillingState) (isManual : Bool) :
    finish (fuel + 7) state [.generating (.requested isManual)] = generateQuietly state isManual := by
  rw [finish_call, advance, advanceGeneration, finish_call, advance, advanceGeneration, finish_call,
    advance, advanceGeneration]
  cases isManual with
  | true =>
    rw [generateQuietly_manual]
    exact draft_alone fuel state
  | false =>
    rw [generateQuietly, generateCycleForFleet_automatic]
    by_cases early : state.now < (nextPeriod state).1
    · simp [early, finish_nil]
    · simp only [early, decide_false, Bool.and_false, Bool.false_eq_true, if_false]
      exact draft_alone fuel state

/-- What follows a settlement. -/
theorem settlement_alone (fuel : Nat) (state : BillingState) :
    finish (fuel + 9) state [.counting] = afterSettlement state := by
  rw [afterSettlement, restoreFleet, finish_call, advance]
  split
  · exact generation_alone (fuel + 1) state true
  · rw [finish_call, advance]
    exact generation_alone fuel _ true

/-- A payment by hand alone writes what the function writes. -/
theorem recordPayment_alone (fuel : Nat) (state : BillingState) (cycleId : Nat)
    (dto : RecordBillingPaymentDto) :
    finish (fuel + 12) state (beginRecord state cycleId dto) =
      unlessRefused state (recordPayment state cycleId dto) := by
  unfold beginRecord recordPayment
  cases found : state.cycles[cycleId]? with
  | none => exact finish_nil _ _
  | some cycle =>
    simp only []
    cases accepted : acceptPayment cycle dto.amount with
    | error refusal => exact finish_nil _ _
    | ok done =>
      have amount : (manualPayment state.now cycleId dto).amount = dto.amount := rfl
      simp only [amount]
      rw [finish_call, advance, finish_call, advance]
      by_cases settles : paymentStatus (cycle.totalPaid + dto.amount) cycle.totalDue = .PAID
      · simp only [settles, if_true]
        rw [finish_call, advance]
        exact settlement_alone fuel _
      · simp only [settles, if_false]
        exact finish_nil _ _

/-- An approval alone writes what the function writes. -/
theorem approveBillingPayment_alone (fuel : Nat) (state : BillingState) (cycleId : Nat)
    (amount : Option Int) (method : PaymentMethod) (reference : Option String) :
    finish (fuel + 3) state (beginApproval state cycleId amount method reference) =
      unlessRefused state (approveBillingPayment state cycleId amount method reference) := by
  unfold beginApproval approveBillingPayment
  cases found : state.cycles[cycleId]? with
  | none => exact finish_nil _ _
  | some cycle =>
    rw [finish_call, advance, finish_call, advance]
    by_cases suspended : state.fleet.subscriptionStatus = .PAST_DUE
    · simp [suspended, finish_call, advance, finish_nil, unlessRefused, approvedAmount]
    · simp [suspended, finish_nil, unlessRefused, approvedAmount]

/-- The invoice's part of a confirmation. -/
theorem invoicePart_commit (state : BillingState) (transactionId : Nat)
    (transaction : MomoTransaction) (cycle : Option BillingCycle) (financialTransactionId : String) :
    let committed := commitInvoice (marked state transactionId financialTransactionId) transactionId
      transaction cycle financialTransactionId
    invoicePart state transactionId transaction cycle financialTransactionId =
      if committed.2 = true then generateQuietly committed.1 true else committed.1 := by
  unfold invoicePart commitInvoice
  cases transaction.billingCycleId with
  | none => simp
  | some cycleId =>
    cases cycle with
    | none => simp
    | some cycle =>
      by_cases paid : cycle.status = .PAID
      · simp [creditCycle, paid]
      · simp only [creditCycle_unpaid _ _ _ _ paid, if_neg paid]
        by_cases full : cycle.totalDue ≤ cycle.totalPaid + transaction.amount
        · simp [full, afterSettlement]
        · simp [full]

/-- The generation that a confirmation asks for may follow the rider's part. -/
theorem generateQuietly_commitRider (state : BillingState) (transactionId : Nat)
    (transaction : MomoTransaction) (financialTransactionId : String) :
    generateQuietly (commitRider state transactionId transaction financialTransactionId) true =
      commitRider (generateQuietly state true) transactionId transaction financialTransactionId := by
  rw [generateQuietly_manual, generateQuietly_manual]
  unfold commitRider
  cases transaction.riderId with
  | none => rfl
  | some riderId => rfl

/-- A confirmation alone writes what the function writes. -/
theorem confirmPayment_alone (fuel : Nat) (state : BillingState) (transactionId : Nat)
    (financialTransactionId : String) :
    finish (fuel + 8) state (beginConfirmation state transactionId financialTransactionId) =
      confirmPayment state transactionId financialTransactionId := by
  unfold beginConfirmation confirmPayment
  cases found : state.momoTransactions[transactionId]? with
  | none => exact finish_nil _ _
  | some transaction =>
    simp only []
    have parts : confirmed state transactionId transaction
        (transaction.billingCycleId.bind fun cycleId => state.cycles[cycleId]?)
        financialTransactionId =
      commitRider (invoicePart state transactionId transaction
        (transaction.billingCycleId.bind fun cycleId => state.cycles[cycleId]?)
        financialTransactionId) transactionId transaction financialTransactionId := rfl
    rw [finish_call, advance, parts, invoicePart_commit]
    cases (commitInvoice (marked state transactionId financialTransactionId) transactionId
      transaction (transaction.billingCycleId.bind fun cycleId => state.cycles[cycleId]?)
      financialTransactionId).2 with
    | true =>
      simp only [if_true]
      rw [← generateQuietly_commitRider]
      exact generation_alone fuel _ true
    | false =>
      simp only [Bool.false_eq_true, if_false]
      exact finish_nil _ _

end EmotoFleet.Calls
