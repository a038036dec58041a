import EmotoFleet.Billing.MomoGateway
import EmotoFleet.Foundations.Interleavings
import EmotoFleet.Foundations.Tables

/-!
# The keys of payment attempts

The transactions of all fleets share one column of unique keys. The key of a request is that
of its invoice with the count zero, or is made of the rider and the time; the key of a retry
is made of the invoice and the next count of the transaction itself, and a collection of a
rider has no invoice. So the kind and the count of a transaction determine its key, and an
attempt is refused where another transaction has the same kind and count.

What the gateway answers, what the status checks and the settlements write, and the removal
of users and fleets are changes that may come at any time. References are never used twice.
-/

namespace EmotoFleet.RetryKeys

open Billing
open MomoGateway (newTransaction retried maxRetries given failed processFailedPayment)
open Interleavings Runs

/-! ## The table -/

/-- What a transaction was created for. -/
inductive PaymentRequest where
  | invoice (billingCycleId : Nat)
  | riderCollection (riderId : String) (timestamp : Int)
  deriving DecidableEq

namespace PaymentRequest

/-- The invoice that a request is about. -/
def billingCycleId : PaymentRequest → Option Nat
  | .invoice billingCycleId => some billingCycleId
  | .riderCollection _ _ => none

/-- The key that a request is made under. -/
def idempotencyKey : PaymentRequest → IdempotencyKey
  | .invoice billingCycleId => .invoice (some billingCycleId) 0
  | .riderCollection riderId timestamp => .riderCollection riderId timestamp

end PaymentRequest

/-- A transaction with its fleet and the request that made it. -/
structure FleetTransaction where
  id : Nat
  fleetId : String
  request : PaymentRequest
  transaction : MomoTransaction
  deriving DecidableEq

/-- What the gateway needs to know of a fleet. -/
structure FleetContact where
  name : String
  momoPhoneNumber : Option String

/-- The transactions of all fleets. -/
structure Gateway where
  now : Int
  nextId : Nat
  nextReference : Nat
  contacts : String → Option FleetContact
  rows : List FleetTransaction

/-- The columns that tell how an attempt ended. -/
structure Outcome where
  status : MomoTransactionStatus
  financialTransactionId : Option String
  failureReason : Option String
  nextRetryAt : Option Int
  callbackReceivedAt : Option Int

/-- A transaction after its outcome. -/
def concluded (outcome : Outcome) (row : MomoTransaction) : MomoTransaction :=
  { row with
    status := outcome.status
    financialTransactionId := outcome.financialTransactionId
    failureReason := outcome.failureReason
    nextRetryAt := outcome.nextRetryAt
    callbackReceivedAt := outcome.callbackReceivedAt }

/-- The failures that the service writes are outcomes. -/
theorem failures_are_outcomes (now : Int) (transaction row : MomoTransaction) (reason : String) :
    (∃ outcome, failed reason row = concluded outcome row) ∧
      ∃ outcome, processFailedPayment now transaction reason row = concluded outcome row :=
  ⟨⟨⟨.FAILED, row.financialTransactionId, some reason, row.nextRetryAt, row.callbackReceivedAt⟩,
    rfl⟩, ⟨.FAILED, row.financialTransactionId, some reason, _, row.callbackReceivedAt⟩, rfl⟩

/-- The writes to the table of transactions. -/
inductive Write where
  | clock (now : Int)
  | setContact (fleetId : String) (contact : Option FleetContact)
  | create (fleetId : String) (request : PaymentRequest) (transaction : MomoTransaction)
  | retry (transactionId : Nat) (transaction : MomoTransaction)
  | conclude (transactionId : Nat) (outcome : Outcome)
  | deleteUser (riderId : String)
  | deleteFleet (fleetId : String)

/-- What the database objects to: a key that is taken and a row that is missing. -/
inductive Rejection where
  | keyTaken
  | rowMissing
  deriving DecidableEq

namespace Gateway

variable (gateway : Gateway)

/-- A transaction by its identity. -/
def find (transactionId : Nat) : Option FleetTransaction :=
  gateway.rows.find? fun row => decide (row.id = transactionId)

/-- Another row has the key. -/
def keyTaken (transactionId : Nat) (key : IdempotencyKey) : Bool :=
  gateway.rows.any fun row =>
    decide (row.id ≠ transactionId ∧ row.transaction.idempotencyKey = key)

/-- A transaction is changed. -/
def update (transactionId : Nat) (change : MomoTransaction → MomoTransaction) : Gateway :=
  { gateway with
    rows := Tables.updateKey FleetTransaction.id transactionId
      (fun row => { row with transaction := change row.transaction }) gateway.rows }

/-- The table with a new transaction. -/
def insert (fleetId : String) (request : PaymentRequest) (transaction : MomoTransaction) :
    Gateway :=
  { gateway with
    rows := gateway.rows ++ [⟨gateway.nextId, fleetId, request,
      { transaction with referenceId := gateway.nextReference }⟩]
    nextId := gateway.nextId + 1
    nextReference := gateway.nextReference + 1 }

end Gateway

/-- A transaction whose rider was deleted. -/
def withoutRider (riderId : String) (row : FleetTransaction) : FleetTransaction :=
  if row.transaction.riderId = some riderId then
    { row with transaction := { row.transaction with riderId := none } }
  else row

/-- What the database does with a write. -/
def apply (gateway : Gateway) : Write → Except Rejection Gateway
  | .clock now => .ok { gateway with now := now }
  | .setContact fleetId contact =>
    .ok { gateway with contacts := Function.update gateway.contacts fleetId contact }
  | .create fleetId request transaction =>
    if gateway.keyTaken gateway.nextId transaction.idempotencyKey then .error .keyTaken
    else .ok (gateway.insert fleetId request transaction)
  | .retry transactionId transaction =>
    if (gateway.find transactionId).isNone then .error .rowMissing
    else if gateway.keyTaken transactionId
        (.invoice transaction.billingCycleId (transaction.retryCount + 1)) then .error .keyTaken
    else
      .ok { gateway.update transactionId (retried gateway.nextReference transaction) with
        nextReference := gateway.nextReference + 1 }
  | .conclude transactionId outcome => .ok (gateway.update transactionId (concluded outcome))
  | .deleteUser riderId => .ok { gateway with rows := gateway.rows.map (withoutRider riderId) }
  | .deleteFleet fleetId =>
    .ok { gateway with rows := gateway.rows.filter fun row => decide (row.fleetId ≠ fleetId) }

/-! ## Requests -/

/-- What a call may fail with. -/
inductive Failure where
  | exception (status : Nat) (message : String)
  | database (rejection : Rejection)

/-- A call of the service. -/
abbrev Call := Program Gateway Write Rejection Failure

/-- An invoice is to be paid. -/
def requestToPay (fleetId : String) (billingCycleId : Nat) (amount : Int) (payerPhone : String) :
    Call Unit :=
  .write (.create fleetId (.invoice billingCycleId)
    { newTransaction (.invoice (some billingCycleId) 0) 0 amount payerPhone with
      billingCycleId := some billingCycleId }) .database

/-- The message to a rider whose fleet has no number. -/
def fleetUnreachable (fleet : Option FleetContact) : String :=
  "Fleet Admin for \"" ++ ((fleet.bind fun fleet => given (some fleet.name)).getD "this fleet") ++
    "\" has not configured a MoMo receiving phone number in Fleet Settings. Payments must " ++
    "transfer directly to the Fleet Admin's MoMo wallet. Please configure your MoMo number " ++
    "in Settings."

/-- The text that the payer is shown. -/
def payerMessage (isPartial : Bool) (partialReason : Option String) : String :=
  match isPartial, given partialReason with
  | true, some reason => "PARTIAL:" ++ reason
  | _, _ => "Rider collection payment"

/-- The transaction of a rider's payment. -/
def riderTransaction (riderId : String) (timestamp amount : Int) (payerPhone message : String) :
    MomoTransaction :=
  { newTransaction (.riderCollection riderId timestamp) 0 amount payerPhone with
    riderId := some riderId
    payerMessage := some message }

/-- A rider pays the fleet. -/
def requestRiderCollectionToPay (fleetId riderId : String) (amount : Int) (payerPhone : String)
    (isPartial : Bool) (partialReason : Option String) : Call Unit := do
  let timestamp ← .read Gateway.now
  let fleet ← .read fun gateway => gateway.contacts fleetId
  match given (fleet.bind FleetContact.momoPhoneNumber) with
  | none => .failed (.exception 400 (fleetUnreachable fleet))
  | some _ =>
    .write (.create fleetId (.riderCollection riderId timestamp)
      (riderTransaction riderId timestamp amount payerPhone (payerMessage isPartial partialReason)))
      .database

/-- A failed payment is tried again under a key of its own. -/
def retryFailedPayment (transactionId : Nat) : Call Unit := do
  let found ← .read fun gateway => gateway.find transactionId
  match found with
  | none => .failed (.exception 404 "Transaction not found")
  | some row =>
    if row.transaction.status ≠ .FAILED then
      .failed (.exception 400 "Transaction is not in FAILED state")
    else if maxRetries ≤ row.transaction.retryCount then
      .failed (.exception 400 "Max retries reached")
    else .write (.retry transactionId row.transaction) .database

/-- What arrives at the gateway. -/
inductive Request where
  | requestToPay (fleetId : String) (billingCycleId : Nat) (amount : Int) (payerPhone : String)
  | requestRiderCollectionToPay (fleetId riderId : String) (amount : Int) (payerPhone : String)
    (isPartial : Bool) (partialReason : Option String)
  | retryFailedPayment (transactionId : Nat)
  | clock (now : Int)
  | setContact (fleetId : String) (contact : Option FleetContact)
  | conclude (transactionId : Nat) (outcome : Outcome)
  | deleteUser (riderId : String)
  | deleteFleet (fleetId : String)

/-- The call that answers a request. -/
def handle : Request → Call Unit
  | .requestToPay fleetId billingCycleId amount payerPhone =>
    requestToPay fleetId billingCycleId amount payerPhone
  | .requestRiderCollectionToPay fleetId riderId amount payerPhone isPartial partialReason =>
    requestRiderCollectionToPay fleetId riderId amount payerPhone isPartial partialReason
  | .retryFailedPayment transactionId => retryFailedPayment transactionId
  | .clock now => .write (.clock now) .database
  | .setContact fleetId contact => .write (.setContact fleetId contact) .database
  | .conclude transactionId outcome => .write (.conclude transactionId outcome) .database
  | .deleteUser riderId => .write (.deleteUser riderId) .database
  | .deleteFleet fleetId => .write (.deleteFleet fleetId) .database

/-- The service before the first payment. -/
def opened (now : Int) (contacts : String → Option FleetContact) :
    System Gateway Write Rejection Failure :=
  ⟨⟨now, 0, 0, contacts, []⟩, []⟩

/-! ## What determines a key -/

/-- The key of a transaction from its kind and its count. -/
def FleetTransaction.key (row : FleetTransaction) : IdempotencyKey :=
  if row.transaction.retryCount = 0 then row.request.idempotencyKey
  else .invoice row.transaction.billingCycleId row.transaction.retryCount

/-- A transaction has the key of its request and of its retries. -/
structure FleetTransaction.Keyed (row : FleetTransaction) : Prop where
  key : row.transaction.idempotencyKey = row.key
  invoice : row.transaction.billingCycleId = row.request.billingCycleId

section Keys

variable {row : FleetTransaction} (keyed : row.Keyed)

include keyed

/-- Only the first attempt at an invoice has the key without a retry. -/
theorem FleetTransaction.Keyed.invoice_key_iff (billingCycleId : Nat) :
    row.transaction.idempotencyKey = .invoice (some billingCycleId) 0 ↔
      row.transaction.billingCycleId = some billingCycleId ∧ row.transaction.retryCount = 0 := by
  rw [keyed.key, keyed.invoice, FleetTransaction.key]
  split
  case isTrue fresh =>
    cases request : row.request with
    | invoice other => simp [PaymentRequest.idempotencyKey, PaymentRequest.billingCycleId, fresh]
    | riderCollection riderId timestamp =>
      simp [PaymentRequest.idempotencyKey, PaymentRequest.billingCycleId]
  case isFalse retriedBefore => simp [retriedBefore]

/-- Only a rider's own request has the key of that rider and instant. -/
theorem FleetTransaction.Keyed.rider_key_iff (riderId : String) (timestamp : Int) :
    row.transaction.idempotencyKey = .riderCollection riderId timestamp ↔
      row.request = .riderCollection riderId timestamp ∧ row.transaction.retryCount = 0 := by
  rw [keyed.key, FleetTransaction.key]
  split
  case isTrue fresh =>
    cases request : row.request with
    | invoice other => simp [PaymentRequest.idempotencyKey]
    | riderCollection other moment => simp [PaymentRequest.idempotencyKey, fresh]
  case isFalse retriedBefore => simp [retriedBefore]

/-- Only the same retry of an attempt at the invoice has its key. -/
theorem FleetTransaction.Keyed.retry_key_iff (billingCycleId : Option Nat) (retryCount : Nat) :
    row.transaction.idempotencyKey = .invoice billingCycleId (retryCount + 1) ↔
      row.transaction.billingCycleId = billingCycleId ∧
        row.transaction.retryCount = retryCount + 1 := by
  rw [keyed.key, FleetTransaction.key]
  split
  case isTrue fresh =>
    cases request : row.request <;> simp [PaymentRequest.idempotencyKey, fresh]
  case isFalse retriedBefore => simp

end Keys

/-! ## The table keeps its keys -/

/-- Identities and keys are unique, and each key is that of a kind and a count. -/
structure Sound (gateway : Gateway) : Prop where
  ids : (gateway.rows.map FleetTransaction.id).Nodup
  numbered : ∀ row ∈ gateway.rows, row.id < gateway.nextId
  uniqueKeys : (gateway.rows.map fun row => row.transaction.idempotencyKey).Nodup
  keyed : ∀ row ∈ gateway.rows, row.Keyed

/-- Time passes: the old transactions that remain keep their invoices. -/
structure Later (before after : Gateway) : Prop where
  counted : before.nextId ≤ after.nextId
  invoices : ∀ row ∈ after.rows, row.id < before.nextId → ∃ old ∈ before.rows,
    old.id = row.id ∧ old.transaction.billingCycleId = row.transaction.billingCycleId

/-- A table is no later than itself. -/
theorem later_refl (gateway : Gateway) : Later gateway gateway :=
  ⟨le_rfl, fun row listed _ => ⟨row, listed, rfl, rfl⟩⟩

/-- What is later than a later table is later. -/
theorem later_trans (first second third : Gateway) (before : Later first second)
    (after : Later second third) : Later first third := by
  refine ⟨before.counted.trans after.counted, fun row listed old => ?_⟩
  obtain ⟨middle, middleListed, sameId, sameInvoice⟩ :=
    after.invoices row listed (old.trans_le before.counted)
  obtain ⟨origin, originListed, originId, originInvoice⟩ :=
    before.invoices middle middleListed (sameId ▸ old)
  exact ⟨origin, originListed, originId.trans sameId, originInvoice.trans sameInvoice⟩

/-- What a call has made of what it was asked for, or has read. -/
def Informed (gateway : Gateway) : Write → Prop
  | .create _ request transaction =>
    transaction.idempotencyKey = request.idempotencyKey ∧
      transaction.billingCycleId = request.billingCycleId ∧ transaction.retryCount = 0
  | .retry transactionId transaction => ∀ row ∈ gateway.rows, row.id = transactionId →
    row.transaction.billingCycleId = transaction.billingCycleId
  | .clock _ | .setContact _ _ | .conclude _ _ | .deleteUser _ | .deleteFleet _ => True

/-- A transaction is found exactly if it is stored. -/
theorem find_iff {gateway : Gateway} (sound : Sound gateway) {transactionId : Nat}
    {row : FleetTransaction} :
    gateway.find transactionId = some row ↔ row ∈ gateway.rows ∧ row.id = transactionId :=
  Tables.find?_key_iff sound.ids

/-- A key is taken exactly if another transaction has it. -/
theorem keyTaken_iff {gateway : Gateway} {transactionId : Nat} {key : IdempotencyKey} :
    gateway.keyTaken transactionId key = true ↔
      ∃ row ∈ gateway.rows, row.id ≠ transactionId ∧ row.transaction.idempotencyKey = key := by
  simp [Gateway.keyTaken]

/-- A change of rows one by one. -/
theorem sound_map {gateway : Gateway} (sound : Sound gateway)
    {change : FleetTransaction → FleetTransaction} (sameId : ∀ row, (change row).id = row.id)
    (unique : ((gateway.rows.map change).map fun row => row.transaction.idempotencyKey).Nodup)
    (keptKeyed : ∀ row ∈ gateway.rows, row.Keyed → (change row).Keyed) :
    Sound { gateway with rows := gateway.rows.map change } where
  ids := by
    have ids : (FleetTransaction.id ∘ change) = FleetTransaction.id := funext sameId
    rw [List.map_map, ids]
    exact sound.ids
  numbered := by
    intro row listed
    obtain ⟨old, oldListed, rfl⟩ := List.mem_map.mp listed
    rw [sameId]
    exact sound.numbered old oldListed
  uniqueKeys := unique
  keyed := by
    intro row listed
    obtain ⟨old, oldListed, rfl⟩ := List.mem_map.mp listed
    exact keptKeyed old oldListed (sound.keyed old oldListed)

/-- A change that leaves the columns alone on which keys depend. -/
theorem sound_map_of_same {gateway : Gateway} (sound : Sound gateway)
    {change : FleetTransaction → FleetTransaction} (sameId : ∀ row, (change row).id = row.id)
    (sameKey : ∀ row, (change row).transaction.idempotencyKey = row.transaction.idempotencyKey)
    (keptKeyed : ∀ row, row.Keyed → (change row).Keyed) :
    Sound { gateway with rows := gateway.rows.map change } := by
  refine sound_map sound sameId ?_ fun row _ => keptKeyed row
  have keys : ((fun row : FleetTransaction => row.transaction.idempotencyKey) ∘ change) =
      fun row => row.transaction.idempotencyKey := funext sameKey
  rw [List.map_map, keys]
  exact sound.uniqueKeys

/-- Changes that keep the keys lead to a later table. -/
theorem later_map {gateway : Gateway} {change : FleetTransaction → FleetTransaction}
    (sameId : ∀ row, (change row).id = row.id)
    (sameInvoice : ∀ row,
      (change row).transaction.billingCycleId = row.transaction.billingCycleId) :
    Later gateway { gateway with rows := gateway.rows.map change } := by
  refine ⟨le_rfl, fun row listed _ => ?_⟩
  obtain ⟨old, oldListed, rfl⟩ := List.mem_map.mp listed
  exact ⟨old, oldListed, (sameId old).symm, (sameInvoice old).symm⟩

/-- A change of one row as a change of all. -/
theorem update_eq_map (gateway : Gateway) (transactionId : Nat)
    (change : MomoTransaction → MomoTransaction) :
    gateway.update transactionId change =
      { gateway with rows := gateway.rows.map fun row =>
        if row.id = transactionId then { row with transaction := change row.transaction }
        else row } :=
  rfl

section Writes

variable {gateway written : Gateway} (sound : Sound gateway)

include sound

/-- An outcome keeps the table sound. -/
theorem sound_conclude (transactionId : Nat) (outcome : Outcome) :
    Sound (gateway.update transactionId (concluded outcome)) := by
  rw [update_eq_map]
  apply sound_map_of_same sound
  · intro row
    split <;> rfl
  · intro row
    split <;> rfl
  · intro row keyed
    split
    · exact ⟨keyed.key, keyed.invoice⟩
    · exact keyed

/-- The deletion of a rider keeps the table sound. -/
theorem sound_deleteUser (riderId : String) :
    Sound { gateway with rows := gateway.rows.map (withoutRider riderId) } := by
  apply sound_map_of_same sound
  · intro row
    unfold withoutRider
    split <;> rfl
  · intro row
    unfold withoutRider
    split <;> rfl
  · intro row keyed
    unfold withoutRider
    split
    · exact ⟨keyed.key, keyed.invoice⟩
    · exact keyed

/-- The deletion of a fleet keeps the table sound. -/
theorem sound_deleteFleet (fleetId : String) :
    Sound { gateway with
      rows := gateway.rows.filter fun row => decide (row.fleetId ≠ fleetId) } where
  ids := sound.ids.sublist (List.filter_sublist.map _)
  numbered := fun row listed => sound.numbered row (List.mem_of_mem_filter listed)
  uniqueKeys := sound.uniqueKeys.sublist (List.filter_sublist.map _)
  keyed := fun row listed => sound.keyed row (List.mem_of_mem_filter listed)

/-- A new transaction under a free key keeps the table sound. -/
theorem sound_create {fleetId : String} {request : PaymentRequest} {transaction : MomoTransaction}
    (informed : Informed gateway (.create fleetId request transaction))
    (free : gateway.keyTaken gateway.nextId transaction.idempotencyKey = false) :
    Sound (gateway.insert fleetId request transaction) := by
  obtain ⟨key, invoice, count⟩ := informed
  have unused : ∀ row ∈ gateway.rows,
      row.transaction.idempotencyKey ≠ transaction.idempotencyKey := by
    intro row listed same
    have taken := keyTaken_iff.mpr ⟨row, listed, (sound.numbered row listed).ne, same⟩
    rw [free] at taken
    cases taken
  constructor
  · rw [Gateway.insert, Tables.unique_append_iff]
    refine ⟨sound.ids, fun taken => ?_⟩
    obtain ⟨row, listed, same⟩ := List.mem_map.mp taken
    exact (sound.numbered row listed).ne same
  · intro row listed
    rcases List.mem_append.mp listed with old | new
    · exact (sound.numbered row old).trans (Nat.lt_succ_self _)
    · rw [List.mem_singleton.mp new]
      exact Nat.lt_succ_self _
  · rw [Gateway.insert, Tables.unique_append_iff]
    refine ⟨sound.uniqueKeys, fun taken => ?_⟩
    obtain ⟨row, listed, same⟩ := List.mem_map.mp taken
    exact unused row listed same
  · intro row listed
    rcases List.mem_append.mp listed with old | new
    · exact sound.keyed row old
    · rw [List.mem_singleton.mp new]
      refine ⟨?_, invoice⟩
      rw [FleetTransaction.key, if_pos count]
      exact key

/-- A retry under a free key keeps the table sound. -/
theorem sound_retry {transactionId : Nat} {transaction : MomoTransaction}
    (informed : Informed gateway (.retry transactionId transaction))
    (free : gateway.keyTaken transactionId
      (.invoice transaction.billingCycleId (transaction.retryCount + 1)) = false) :
    Sound { gateway.update transactionId (retried gateway.nextReference transaction) with
      nextReference := gateway.nextReference + 1 } := by
  have unused : ∀ row ∈ gateway.rows, row.id ≠ transactionId → row.transaction.idempotencyKey ≠
      .invoice transaction.billingCycleId (transaction.retryCount + 1) := by
    intro row listed apart same
    have taken := keyTaken_iff.mpr ⟨row, listed, apart, same⟩
    rw [free] at taken
    cases taken
  have updated : Sound (gateway.update transactionId (retried gateway.nextReference transaction)) := by
    rw [update_eq_map]
    apply sound_map sound
    · intro row
      split <;> rfl
    · exact Tables.nodup_map_updateKey sound.ids sound.uniqueKeys
        fun _ _ _ other listed apart => unused other listed apart
    · intro row listed keyed
      split
      case isTrue chosen =>
        have invoice := informed row listed chosen
        have counted : (retried gateway.nextReference transaction row.transaction).retryCount ≠ 0 :=
          Nat.succ_ne_zero _
        refine ⟨?_, keyed.invoice⟩
        rw [FleetTransaction.key, if_neg counted]
        exact congrArg (fun cycle => IdempotencyKey.invoice cycle _) invoice.symm
      case isFalse => exact keyed
  exact ⟨updated.ids, updated.numbered, updated.uniqueKeys, updated.keyed⟩

/-- Every write that the table accepts keeps it sound, and its transactions their invoices. -/
theorem apply_sound {operation : Write} (informed : Informed gateway operation)
    (accepted : apply gateway operation = .ok written) : Sound written ∧ Later gateway written := by
  cases operation with
  | clock now =>
    cases accepted
    exact ⟨⟨sound.ids, sound.numbered, sound.uniqueKeys, sound.keyed⟩,
      le_rfl, fun row listed _ => ⟨row, listed, rfl, rfl⟩⟩
  | setContact fleetId contact =>
    cases accepted
    exact ⟨⟨sound.ids, sound.numbered, sound.uniqueKeys, sound.keyed⟩,
      le_rfl, fun row listed _ => ⟨row, listed, rfl, rfl⟩⟩
  | create fleetId request transaction =>
    rw [apply] at accepted
    split at accepted
    case isTrue => cases accepted
    case isFalse free =>
      cases accepted
      refine ⟨sound_create sound informed (Bool.eq_false_iff.mpr free), Nat.le_succ _, ?_⟩
      intro row listed old
      rcases List.mem_append.mp listed with before | new
      · exact ⟨row, before, rfl, rfl⟩
      · rw [List.mem_singleton.mp new] at old
        exact absurd old (lt_irrefl _)
  | retry transactionId transaction =>
    rw [apply] at accepted
    split at accepted
    case isTrue => cases accepted
    case isFalse =>
      split at accepted
      case isTrue => cases accepted
      case isFalse free =>
        cases accepted
        refine ⟨sound_retry sound informed (Bool.eq_false_iff.mpr free), le_rfl, ?_⟩
        rintro row listed -
        rcases Tables.mem_updateKey.mp listed with ⟨old, before, _, rfl⟩ | ⟨before, _⟩
        · exact ⟨old, before, rfl, rfl⟩
        · exact ⟨row, before, rfl, rfl⟩
  | conclude transactionId outcome =>
    cases accepted
    refine ⟨sound_conclude sound transactionId outcome, ?_⟩
    rw [update_eq_map]
    apply later_map
    · intro row
      split <;> rfl
    · intro row
      split <;> rfl
  | deleteUser riderId =>
    cases accepted
    refine ⟨sound_deleteUser sound riderId, later_map ?_ ?_⟩
    · intro row
      unfold withoutRider
      split <;> rfl
    · intro row
      unfold withoutRider
      split <;> rfl
  | deleteFleet fleetId =>
    cases accepted
    exact ⟨sound_deleteFleet sound fleetId, le_rfl,
      fun row listed _ => ⟨row, List.mem_of_mem_filter listed, rfl, rfl⟩⟩

end Writes

/-! ## Refusals -/

/-- No other transaction has the kind and the count of the attempt. -/
def FreshAttempt (gateway : Gateway) : Write → Prop
  | .create _ (.invoice billingCycleId) _ => ∀ row ∈ gateway.rows,
    row.transaction.billingCycleId = some billingCycleId → row.transaction.retryCount ≠ 0
  | .create _ (.riderCollection riderId timestamp) _ => ∀ row ∈ gateway.rows,
    row.request = .riderCollection riderId timestamp → row.transaction.retryCount ≠ 0
  | .retry transactionId transaction =>
    (∃ row ∈ gateway.rows, row.id = transactionId) → ∀ other ∈ gateway.rows,
      other.id ≠ transactionId → other.transaction.billingCycleId = transaction.billingCycleId →
      other.transaction.retryCount ≠ transaction.retryCount + 1
  | .clock _ | .setContact _ _ | .conclude _ _ | .deleteUser _ | .deleteFleet _ => True

/-- The attempt does not fail on the uniqueness of the key. -/
def KeyAccepted (gateway : Gateway) (operation : Write) : Prop :=
  apply gateway operation ≠ .error .keyTaken

/-- A request is accepted exactly if it is a fresh attempt. -/
theorem create_accepted_iff {gateway : Gateway} (sound : Sound gateway) {fleetId : String}
    {request : PaymentRequest} {transaction : MomoTransaction} :
    KeyAccepted gateway (.create fleetId request transaction) ↔ ∀ row ∈ gateway.rows,
      row.transaction.idempotencyKey ≠ transaction.idempotencyKey := by
  have taken : KeyAccepted gateway (.create fleetId request transaction) ↔
      ¬ gateway.keyTaken gateway.nextId transaction.idempotencyKey = true := by
    rw [KeyAccepted, apply]
    split <;> simp_all
  rw [taken, keyTaken_iff]
  push Not
  refine forall₂_congr fun row listed => ?_
  rw [imp_iff_right (sound.numbered row listed).ne]

/-- A write is accepted exactly if it is a fresh attempt. -/
theorem keyAccepted_iff {gateway : Gateway} (sound : Sound gateway) {operation : Write}
    (informed : Informed gateway operation) :
    KeyAccepted gateway operation ↔ FreshAttempt gateway operation := by
  cases operation with
  | create fleetId request transaction =>
    rw [create_accepted_iff sound, informed.1]
    cases request with
    | invoice billingCycleId =>
      refine forall₂_congr fun row listed => ?_
      rw [PaymentRequest.idempotencyKey, Ne, (sound.keyed row listed).invoice_key_iff, not_and]
    | riderCollection riderId timestamp =>
      refine forall₂_congr fun row listed => ?_
      rw [PaymentRequest.idempotencyKey, Ne, (sound.keyed row listed).rider_key_iff, not_and]
  | retry transactionId transaction =>
    rw [KeyAccepted, apply, FreshAttempt]
    cases found : gateway.find transactionId with
    | none =>
      refine iff_of_true (by simp) ?_
      rintro ⟨row, listed, chosen⟩
      rw [(find_iff sound).mpr ⟨listed, chosen⟩] at found
      cases found
    | some row =>
      have present : ∃ row ∈ gateway.rows, row.id = transactionId :=
        ⟨row, (find_iff sound).mp found⟩
      have taken := @keyTaken_iff gateway transactionId
        (.invoice transaction.billingCycleId (transaction.retryCount + 1))
      rw [imp_iff_right present]
      constructor
      · intro accepted other listed apart invoice count
        have key := ((sound.keyed other listed).retry_key_iff _ _).mpr ⟨invoice, count⟩
        simp [taken.mpr ⟨other, listed, apart, key⟩] at accepted
      · intro fresh
        have free : ¬ gateway.keyTaken transactionId
            (.invoice transaction.billingCycleId (transaction.retryCount + 1)) = true := by
          rw [taken]
          rintro ⟨other, listed, apart, key⟩
          obtain ⟨invoice, count⟩ := ((sound.keyed other listed).retry_key_iff _ _).mp key
          exact fresh other listed apart invoice count
        simp [free]
  | clock now | setContact fleetId contact | conclude transactionId outcome | deleteUser riderId
  | deleteFleet fleetId => exact iff_of_true (fun refused => nomatch refused) trivial

/-! ## Runs of the service -/

/-- Two pending attempts of one invoice with one key are one attempt. -/
def LiveAttemptsApart (gateway : Gateway) : Prop :=
  ∀ left ∈ gateway.rows, ∀ right ∈ gateway.rows,
    left.transaction.status = .PENDING → right.transaction.status = .PENDING →
      left.transaction.billingCycleId = right.transaction.billingCycleId →
        left.transaction.idempotencyKey = right.transaction.idempotencyKey → left = right

/-- In a sound table no two live attempts share a key. -/
theorem Sound.liveAttemptsApart {gateway : Gateway} (sound : Sound gateway) :
    LiveAttemptsApart gateway :=
  fun _ leftListed _ rightListed _ _ _ same =>
    Tables.eq_of_key_eq sound.uniqueKeys leftListed rightListed same

/-- A transaction that was read keeps its invoice. -/
theorem informed_of_read {seen store : Gateway} (sound : Sound seen) (later : Later seen store)
    {transactionId : Nat} {row : FleetTransaction} (found : seen.find transactionId = some row) :
    Informed store (.retry transactionId row.transaction) := by
  obtain ⟨listed, chosen⟩ := (find_iff sound).mp found
  intro other otherListed same
  have old : other.id < seen.nextId := by
    rw [same, ← chosen]
    exact sound.numbered row listed
  obtain ⟨origin, originListed, originId, invoice⟩ := later.invoices other otherListed old
  have one : origin = row := by
    apply Tables.eq_of_key_eq sound.ids originListed listed
    rw [originId, same, chosen]
  rw [← invoice, one]

/-- Every call has read what its writes depend on. -/
theorem handle_knows (request : Request) (seen : Gateway) :
    (handle request).Knows Sound Later Informed seen := by
  cases request with
  | requestToPay fleetId billingCycleId amount payerPhone =>
    exact ⟨fun store _ => ⟨rfl, rfl, rfl⟩, trivial⟩
  | requestRiderCollectionToPay fleetId riderId amount payerPhone isPartial partialReason =>
    intro clock _ _ store _ _
    change Program.Knows Sound Later Informed store (match given
      ((store.contacts fleetId).bind FleetContact.momoPhoneNumber) with | none => _ | some _ => _)
    split
    · trivial
    · exact ⟨fun later _ => ⟨rfl, rfl, rfl⟩, trivial⟩
  | retryFailedPayment transactionId =>
    intro store sound _
    change Program.Knows Sound Later Informed store
      (match store.find transactionId with | none => _ | some row => _)
    cases found : store.find transactionId with
    | none => trivial
    | some row =>
      dsimp only
      split
      · trivial
      · split
        · trivial
        · exact ⟨fun other later => informed_of_read sound later found, trivial⟩
  | clock now | setContact fleetId contact | conclude transactionId outcome | deleteUser riderId
  | deleteFleet fleetId => exact ⟨fun _ _ => trivial, trivial⟩

/-- A table without transactions is sound. -/
theorem opened_sound (now : Int) (contacts : String → Option FleetContact) :
    Sound (opened now contacts).store where
  ids := List.nodup_nil
  numbered := fun _ listed => nomatch listed
  uniqueKeys := List.nodup_nil
  keyed := fun _ listed => nomatch listed

/-- A step of the service keeps the table sound, and the calls informed. -/
theorem step_sound {before next : System Gateway Write Rejection Failure}
    {action : Action Request}
    (valid : Sound before.store ∧ before.Knows Sound Later Informed)
    (moved : step apply handle before action = some next) :
    Sound next.store ∧ next.Knows Sound Later Informed :=
  step_knows later_refl later_trans
    (fun _ _ _ sound informed accepted => apply_sound sound informed accepted) handle_knows
    valid.1 valid.2 moved

/-- Whatever happens in whatever order, no attempt is refused for its key just where every
attempt is the only one of its kind with its count; and live attempts never share a key. -/
theorem attempts_accepted_iff (now : Int) (contacts : String → Option FleetContact)
    (actions : List (Action Request)) :
    (Along (step apply handle) (fun before action _ => Attempts KeyAccepted before action)
        (opened now contacts) actions ↔
      Along (step apply handle) (fun before action _ => Attempts FreshAttempt before action)
        (opened now contacts) actions) ∧
      Along (step apply handle) (fun _ _ next => LiveAttemptsApart next.store)
        (opened now contacts) actions := by
  have nobody : (opened now contacts).Knows Sound Later Informed :=
    fun _ listed => nomatch listed
  constructor
  · exact along_attempts_iff later_refl later_trans
      (fun _ _ _ sound informed accepted => apply_sound sound informed accepted) handle_knows
      (fun _ _ sound informed => keyAccepted_iff sound informed) actions (opened_sound now contacts)
      nobody
  · refine along_of_invariant (fun system : System Gateway Write Rejection Failure =>
      Sound system.store ∧ system.Knows Sound Later Informed) ?_ ?_
      ⟨opened_sound now contacts, nobody⟩ (along_true _ _ actions)
    · exact fun before action next valid _ moved => step_sound valid moved
    · exact fun before action next valid _ moved => (step_sound valid moved).1.liveAttemptsApart

/-! ## Two riders whose payments have failed -/

/-- A fleet with a number. -/
def reachable (_ : String) : Option FleetContact := some ⟨"Fleet", some "0788000001"⟩

/-- A rider's payment of a thousand francs. -/
def collection (fleetId riderId : String) : Request :=
  .requestRiderCollectionToPay fleetId riderId 1000 "0788000002" false none

/-- The outcome of a payment that nobody has approved. -/
def expired : Outcome := ⟨.FAILED, none, some "EXPIRED", none, none⟩

/-- Both payments fail, and both are retried, up to the last access of the second retry. -/
def bothRetried : List (Action Request) :=
  [.submit (collection "f1" "r1"), .advance 0, .advance 0, .advance 0,
    .submit (collection "f2" "r2"), .advance 1, .advance 1, .advance 1,
    .submit (.conclude 0 expired), .advance 2, .submit (.conclude 1 expired), .advance 3,
    .submit (.retryFailedPayment 0), .advance 4, .advance 4,
    .submit (.retryFailedPayment 1), .advance 5]

/-- The next access of a call attempts a write that is refused for its key. -/
def refusedNext (call : Nat) (before : System Gateway Write Rejection Failure) : Bool :=
  (attempted before (.advance call : Action Request)).any fun operation =>
    match apply before.store operation with
    | .error .keyTaken => true
    | .error .rowMissing | .ok _ => false

/-- A call whose next write is refused has its key taken. -/
theorem not_accepted_of_refused {call : Nat} {before : System Gateway Write Rejection Failure}
    (refused : refusedNext call before = true) :
    ¬ Attempts KeyAccepted before (.advance call : Action Request) := by
  intro accepted
  obtain ⟨operation, attempt, taken⟩ := (Option.any_eq_true _ _).mp refused
  have kept := accepted operation attempt
  split at taken
  case h_1 same => exact kept same
  case h_2 => cases taken
  case h_3 => cases taken

/-- The second retry is refused, for its key is that of the first. -/
theorem second_retry_refused : ¬ ∀ actions : List (Action Request),
    Along (step apply handle) (fun before action _ => Attempts KeyAccepted before action)
      (opened 0 reachable) actions := by
  intro always
  have found : ((run (step apply handle) (opened 0 reachable) bothRetried).bind fun middle =>
      (step apply handle middle (.advance 5)).map fun _ => refusedNext 5 middle) = some true := by
    decide +kernel
  exact not_along_of_check (opened 0 reachable) bothRetried (.advance 5)
    (fun _ _ => not_accepted_of_refused) found (always _)

end EmotoFleet.RetryKeys
