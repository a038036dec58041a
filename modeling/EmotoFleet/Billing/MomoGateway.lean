import EmotoFleet.Billing.PaygBilling

/-!
# The mobile money gateway

A rider pays a collection by mobile money: the service stores a pending
transaction, fetches an access token, asks the gateway to charge the payer, and
later confirms or fails the transaction when somebody polls its status. Without
credentials, on request, and for an hour after the token endpoint has failed, a
simulated gateway takes over, which confirms every transaction by a timer.

The headquarters can retry a failed transaction and settle an invoice by hand.
Callbacks of the gateway and the automatic jobs are disabled in the source, and
so is the button that pays an invoice; the service's own function for it is kept.

All of these run concurrently. What a request still has to do is a task; between
two of its accesses to the database or the gateway any other task may go on. A
confirmation is a database transaction: it locks the transaction's row, reads the
invoice, and takes effect as a whole when it commits. Every other access is one
step. A task may be abandoned, which stands for a failed access, a confirmation that is
rolled back or a stopped process.

The payloads sent to the gateway are left out, and so is the choice between its
two providers.
-/

namespace EmotoFleet.MomoGateway

open Billing
open WhiteSpace (trim)

/-- The token of the simulation. -/
def SANDBOX_MOCK_TOKEN : String := "sandbox_mock_token"
/-- The token of the simulation lasts an hour. -/
def MOCK_TOKEN_TTL_MS : Int := 3600 * 1000
/-- The simulation confirms after a second and a half. -/
def MOCK_CONFIRMATION_DELAY_MS : Int := 1500
/-- A transaction is tried again three times. -/
def maxRetries : Nat := 3

/-- Whether the credentials are set, and whether the simulation was asked for. -/
structure Config where
  credentialsSet : Bool
  momoMock : Bool

/-- A token that the gateway issues is not the text reserved for the simulation. -/
abbrev IssuedToken := { value : String // value ≠ SANDBOX_MOCK_TOKEN }

/-- The status of a transaction in an answer of the status endpoint. -/
inductive GatewayStatus where
  | SUCCESSFUL | FAILED | other
deriving DecidableEq

/-- How an external call of a task ends: with an answer, with an answer that refuses
the request, or without an answer. -/
inductive Answer where
  | accepted
  | token (value : IssuedToken) (expiresIn : Int)
  | status (status : GatewayStatus) (financialTransactionId reason : Option String)
  | rejected (message : String)
  | lost (message : String)
deriving DecidableEq

/-- What the gateway has said about a transaction, or what came in its place. A status check
without an answer may have found the row of its reference or not. -/
inductive Event where
  | reportedSuccessful (transactionId : Nat)
  | reportedFailed (transactionId : Nat)
  | requestRejected (transactionId : Nat)
  | requestLost (transactionId : Nat)
  | auditFailed (transactionId : Nat)
  | checkFailed (transactionId : Nat) (found : Bool)
  | tokenFailed (now : Int)
  | simulated (transactionId : Nat) (now : Int)
deriving DecidableEq

/-- What an access token is fetched for. A status check carries the poller's copy of
the transaction and the row that the check itself has found. -/
inductive Purpose where
  | request (transactionId : Nat) (transaction : MomoTransaction)
  | check (transactionId : Nat) (transaction : MomoTransaction) (stored : Option MomoTransaction)
  | retry (transactionId : Nat)
deriving DecidableEq

/-- What one of the requests still has to do. -/
inductive Task where
  | authorizing (purpose : Purpose)
  | awaitingToken (purpose : Purpose)
  | posting (transactionId : Nat)
  | auditing (transactionId : Nat)
  | failing (transactionId : Nat) (failureReason : String)
  | timer (transactionId : Nat) (transaction : MomoTransaction) (due : Int)
  | polling (transactionId : Nat) (transaction : MomoTransaction)
  | getting (transactionId : Nat) (transaction : MomoTransaction) (stored : Option MomoTransaction)
  | confirming (transactionId : Nat) (transaction : MomoTransaction) (financialTransactionId : String)
  | crediting (transactionId : Nat) (transaction : MomoTransaction) (cycle : Option BillingCycle)
    (financialTransactionId : String)
  | rejecting (transactionId : Nat) (transaction : MomoTransaction) (reason : String)
  | retrying (transactionId : Nat) (transaction : MomoTransaction)
  | recording (cycleId : Nat) (cycle : BillingCycle) (dto : RecordBillingPaymentDto)
  | totalling (cycleId : Nat) (cycle : BillingCycle) (dto : RecordBillingPaymentDto)
  | cancelling (cycleId : Nat)
  | restoring
deriving DecidableEq

/-- The shared state: the tables, the cached token, the next unused reference, the
open tasks, and a record of what the gateway has said. -/
structure World where
  billing : BillingState
  accessToken : Option String
  tokenExpiry : Int
  nextReference : Nat
  tasks : List Task
  log : List Event

namespace World

variable (world : World)

/-- The present instant. -/
def now : Int := world.billing.now

/-- The transactions so far. -/
def transactions : List MomoTransaction := world.billing.momoTransactions

/-- One more task. -/
def spawn (task : Task) : World := { world with tasks := world.tasks ++ [task] }

/-- One more event in the log. -/
def note (event : Event) : World := { world with log := world.log ++ [event] }

/-- The transactions with one of them changed. -/
def update (transactionId : Nat) (change : MomoTransaction → MomoTransaction) : World :=
  { world with billing := world.billing.updateTransaction transactionId change }

/-- A token kept until it expires. -/
def cacheToken (value : String) (expiry : Int) : World :=
  { world with accessToken := some value, tokenExpiry := expiry }

/-- The simulated gateway takes over for an hour. -/
def simulate : World := world.cacheToken SANDBOX_MOCK_TOKEN (world.now + MOCK_TOKEN_TTL_MS)

end World

/-! Requests of riders -/

/-- A rider as the collection reads them. -/
structure Rider where
  id : String
  phone : Option String
  assignedRate : Option Nat
  leaseDailyRate : Option Nat
  paymentSchedule : Option String
  customScheduleDays : Option Nat

/-- What a rider sends to pay. -/
structure RiderPayCollectionDto where
  amount : Option Nat
  momoPhoneNumber : Option String
  isPartial : Bool
  partialReason : Option String

/-- How many days a rider pays for at a time. -/
def schedulePeriodDays (rider : Rider) : Nat :=
  if rider.paymentSchedule = some "WEEKLY" then 7
  else if rider.paymentSchedule = some "CUSTOM" then max 1 (rider.customScheduleDays.getD 1)
  else 1

/-- What a rider has to pay at a time. -/
def requiredPeriodAmount (rider : Rider) : Nat :=
  (rider.assignedRate.or rider.leaseDailyRate).getD 15000 * schedulePeriodDays rider

/-- A number with commas between groups of three digits. -/
def toLocaleString (amount : Nat) : String :=
  if amount < 1000 then toString amount
  else
    toLocaleString (amount / 1000) ++ "," ++
      String.ofList ((toString (1000 + amount % 1000)).toList.drop 1)

/-- The number as the provider wants it. -/
def normalizePhone (phone : String) : String :=
  let normalized := phone.toList.filter Char.isDigit
  if "250".toList.isPrefixOf normalized then String.ofList normalized
  else if "0".toList.isPrefixOf normalized then
    String.ofList ("250".toList ++ normalized.drop 1)
  else if ["78", "79", "72", "73"].any fun code => code.toList.isPrefixOf normalized then
    String.ofList ("250".toList ++ normalized)
  else String.ofList normalized

/-- An empty text counts as not given. -/
def given (text : Option String) : Option String := text.filter (· != "")

/-- A transaction that was just started. -/
def newTransaction (idempotencyKey : IdempotencyKey) (referenceId : Nat) (amount : Int)
    (payerPhone : String) : MomoTransaction where
  billingCycleId := none
  riderId := none
  referenceId := referenceId
  idempotencyKey := idempotencyKey
  amount := amount
  payerPhone := normalizePhone payerPhone
  payerMessage := none
  status := .PENDING
  financialTransactionId := none
  failureReason := none
  retryCount := 0
  nextRetryAt := none
  callbackReceivedAt := none

/-- The transaction that a rider's request stores, unless it is refused: somebody
must have a phone, and the fleet a number to receive the payment. -/
def payRiderCollection (world : World) (rider : Rider) (dto : RiderPayCollectionDto) :
    Option MomoTransaction :=
  let required := requiredPeriodAmount rider
  let amount := (dto.amount.filter (· != 0)).getD required
  let isPartial := dto.isPartial || decide (amount < required)
  let partialReason := (given (dto.partialReason.map trim)).or
    (if isPartial then
      some s!"Partial contribution ({toLocaleString amount} / {toLocaleString required} RWF)"
    else none)
  match (given dto.momoPhoneNumber).or (given rider.phone),
      given world.billing.fleet.momoPhoneNumber with
  | some phone, some _ =>
    some
      { newTransaction (.riderCollection rider.id world.now) world.nextReference amount phone with
        riderId := some rider.id
        payerMessage := some (match isPartial, partialReason with
          | true, some reason => "PARTIAL:" ++ reason
          | _, _ => "Rider collection payment") }
  | _, _ => none

/-- The transaction that a payment of an invoice stores. -/
def requestToPay (world : World) (cycleId : Nat) (amount : Int) (payerPhone : String) :
    MomoTransaction :=
  { newTransaction (.invoice (some cycleId) 0) world.nextReference amount payerPhone with
    billingCycleId := some cycleId }

/-- A key is unique: no row but the given one has it. -/
def keyTaken (world : World) (transactionId : Nat) (key : IdempotencyKey) : Bool :=
  (List.range world.transactions.length).any fun other =>
    other != transactionId && world.transactions[other]?.any (·.idempotencyKey == key)

/-- One more transaction, unless its key is taken. -/
def createTransaction (world : World) (transaction : MomoTransaction) : World :=
  if keyTaken world world.transactions.length transaction.idempotencyKey then world
  else
    World.spawn
      { world with
        billing :=
          { world.billing with momoTransactions := world.transactions ++ [transaction] }
        nextReference := world.nextReference + 1 }
      (.authorizing (.request world.transactions.length transaction))

/-! Status checks -/

/-- What a status check comes to. -/
inductive Verdict where
  | successful (financialTransactionId : Option String)
  | failed (reason : Option String)
  | undecided
deriving DecidableEq

/-- The verdict that repeats the stored status. -/
def storedVerdict (transaction : MomoTransaction) : Verdict :=
  match transaction.status with
  | .SUCCESSFUL => .successful transaction.financialTransactionId
  | .FAILED => .failed none
  | _ => .undecided

/-- What the poller does about a verdict. -/
def follow (now : Int) (transactionId : Nat) (transaction : MomoTransaction) : Verdict → List Task
  | .successful financialTransactionId =>
    [.confirming transactionId transaction ((given financialTransactionId).getD s!"MOMO-{now}")]
  | .failed reason => [.rejecting transactionId transaction ((given reason).getD "FAILED")]
  | .undecided => []

/-- The row that still has the reference of the poller's copy. References are never
reused, and a retry replaces that of its transaction. -/
def findByReference (world : World) (transactionId : Nat) (transaction : MomoTransaction) :
    Option MomoTransaction :=
  world.transactions[transactionId]?.filter (·.referenceId == transaction.referenceId)

/-! Failures -/

/-- A transaction that failed for a reason. -/
def failed (failureReason : String) (row : MomoTransaction) : MomoTransaction :=
  { row with status := .FAILED, failureReason := some failureReason }

/-- How long to wait before each retry. -/
def retryDelayHours (retryCount : Nat) : Nat := ([1, 4, 12][retryCount]?).getD 24

/-- The columns that a reported failure writes; the delay is that of the caller's copy. -/
def processFailedPayment (now : Int) (transaction : MomoTransaction) (reason : String)
    (row : MomoTransaction) : MomoTransaction :=
  let isRetryable := reason != "PAYER_NOT_FOUND"
  let nextRetryAt := if isRetryable && decide (transaction.retryCount < maxRetries) then
      some (now + retryDelayHours transaction.retryCount * (60 * 60 * 1000))
    else none
  { row with status := .FAILED, failureReason := some reason, nextRetryAt := nextRetryAt }

/-- The columns that a retry writes, computed from the row as it was read. -/
def retried (referenceId : Nat) (transaction row : MomoTransaction) : MomoTransaction :=
  { row with
    referenceId := referenceId
    idempotencyKey := .invoice transaction.billingCycleId (transaction.retryCount + 1)
    retryCount := transaction.retryCount + 1
    status := .PENDING
    failureReason := none
    nextRetryAt := none }

variable (config : Config)

/-- What follows once there is a token. A retry uses any token. -/
def authorized (world : World) (token : String) : Purpose → World × List Task
  | .request transactionId transaction =>
    if token = SANDBOX_MOCK_TOKEN then
      (world.note (.simulated transactionId world.now),
        [.timer transactionId transaction (world.now + MOCK_CONFIRMATION_DELAY_MS)])
    else (world, [.posting transactionId])
  | .check transactionId transaction stored =>
    if token = SANDBOX_MOCK_TOKEN then
      (world, follow world.now transactionId transaction
        ((stored.map storedVerdict).getD .undecided))
    else (world, [.getting transactionId transaction stored])
  | .retry transactionId => (world, [.posting transactionId])

/-- One step of a task: what it does to the shared state, and the tasks that take
its place. -/
def perform (world : World) : Task → Answer → World × List Task
  | .authorizing purpose, _ =>
    match world.accessToken.filter fun _ => decide (world.now < world.tokenExpiry) with
    | some token => authorized world token purpose
    | none =>
      if !config.credentialsSet || config.momoMock then
        authorized world.simulate SANDBOX_MOCK_TOKEN purpose
      else (world, [.awaitingToken purpose])
  | .awaitingToken purpose, .token value expiresIn =>
    if value.val = "" then
      authorized (world.note (.tokenFailed world.now)).simulate SANDBOX_MOCK_TOKEN purpose
    else
      authorized (world.cacheToken value.val (world.now + (expiresIn - 300) * 1000)) value.val purpose
  | .awaitingToken purpose, _ =>
    authorized (world.note (.tokenFailed world.now)).simulate SANDBOX_MOCK_TOKEN purpose
  | .posting transactionId, .rejected message =>
    (world.note (.requestRejected transactionId), [.failing transactionId message])
  | .posting transactionId, .lost message =>
    (world.note (.requestLost transactionId), [.failing transactionId message])
  | .posting transactionId, _ => (world, [.auditing transactionId])
  | .auditing transactionId, .lost message =>
    (world.note (.auditFailed transactionId), [.failing transactionId message])
  | .auditing _, _ => (world, [])
  | .failing transactionId failureReason, _ =>
    (world.update transactionId (failed failureReason), [])
  | .timer transactionId transaction _, _ =>
    (world, [.confirming transactionId transaction s!"MOMO-SIM-{world.now}"])
  | .polling transactionId transaction, _ =>
    let stored := findByReference world transactionId transaction
    match (stored.map storedVerdict).getD .undecided with
    | .undecided => (world, [.authorizing (.check transactionId transaction stored)])
    | verdict => (world, follow world.now transactionId transaction verdict)
  | .getting transactionId transaction _, .status .SUCCESSFUL financialTransactionId _ =>
    (world.note (.reportedSuccessful transactionId),
      follow world.now transactionId transaction (.successful financialTransactionId))
  | .getting transactionId transaction _, .status .FAILED _ reason =>
    (world.note (.reportedFailed transactionId),
      follow world.now transactionId transaction (.failed reason))
  | .getting transactionId transaction stored, .rejected _
  | .getting transactionId transaction stored, .lost _ =>
    (world.note (.checkFailed transactionId stored.isSome),
      follow world.now transactionId transaction ((stored.map storedVerdict).getD (.failed none)))
  | .getting _ _ _, _ => (world, [])
  | .confirming transactionId transaction financialTransactionId, _ =>
    let cycle := transaction.billingCycleId.bind fun cycleId => world.billing.cycles[cycleId]?
    (world, [.crediting transactionId transaction cycle financialTransactionId])
  | .crediting transactionId transaction cycle financialTransactionId, _ =>
    ({ world with
        billing := confirmed world.billing transactionId transaction cycle
          financialTransactionId }, [])
  | .rejecting transactionId transaction reason, _ =>
    (world.update transactionId (processFailedPayment world.now transaction reason), [])
  | .retrying transactionId transaction, _ =>
    if keyTaken world transactionId
        (.invoice transaction.billingCycleId (transaction.retryCount + 1)) then (world, [])
    else
      ({ world.update transactionId (retried world.nextReference transaction) with
          nextReference := world.nextReference + 1 },
        [.authorizing (.retry transactionId)])
  | .recording cycleId cycle dto, _ =>
    ({ world with
        billing := world.billing.createPayment (manualPayment world.now cycleId dto) },
      [.totalling cycleId cycle dto])
  | .totalling cycleId cycle dto, _ =>
    let newTotalPaid := cycle.totalPaid + dto.amount
    ({ world with
        billing := writePayment world.billing cycleId cycle newTotalPaid
          (dto.paidAt.getD world.now) },
      if paymentStatus newTotalPaid cycle.totalDue = .PAID then [.cancelling cycleId] else [])
  | .cancelling cycleId, _ =>
    ({ world with billing := cancelPending world.billing cycleId }, [.restoring])
  | .restoring, _ => ({ world with billing := afterSettlement world.billing }, [])

/-! Steps -/

/-- The transaction whose row a task's database transaction has locked. -/
def Task.locks : Task → Option Nat
  | .crediting transactionId _ _ _ => some transactionId
  | _ => none

/-- The transactions whose rows a task's next step writes or locks. -/
def Task.touches (world : World) : Task → List Nat
  | .failing transactionId _ | .confirming transactionId _ _ | .rejecting transactionId _ _
  | .retrying transactionId _ => [transactionId]
  | .cancelling cycleId =>
    (List.range world.transactions.length).filter fun transactionId =>
      world.transactions[transactionId]?.any fun row =>
        decide (row.billingCycleId = some cycleId ∧ row.status = .PENDING)
  | _ => []

/-- A task can go on when no other task has locked a row that it touches, and a timer
once it is due. -/
def enabled (world : World) (task : Task) : Bool :=
  (task.touches world).all (fun transactionId =>
    world.tasks.all fun other => other.locks != some transactionId) &&
  match task with
  | .timer _ _ due => decide (due ≤ world.now)
  | _ => true

/-- The operations of the billing service that do not concern transactions. -/
def isBackground : Operation → Bool
  | .recordPayment _ _ | .confirmPayment _ _ => false
  | _ => true

/-- What may happen next. -/
inductive Action where
  | payRiderCollection (rider : Rider) (dto : RiderPayCollectionDto)
  | requestToPay (cycleId : Nat) (amount : Int) (payerPhone : String)
  | getRiderPaymentStatus (riderId : String) (transactionId : Nat)
  | retryFailedPayment (transactionId : Nat)
  | recordPayment (cycleId : Nat) (dto : RecordBillingPaymentDto)
  | operate (operation : Operation)
  | proceed (task : Task) (answer : Answer)
  | abandon (task : Task)

/-- One step of the whole system, where it is enabled. -/
def step (world : World) : Action → Option World
  | .payRiderCollection rider dto =>
    match payRiderCollection world rider dto with
    | none => some world
    | some transaction => some (createTransaction world transaction)
  | .requestToPay cycleId amount payerPhone =>
    if cycleId < world.billing.cycles.length then
      some (createTransaction world (requestToPay world cycleId amount payerPhone))
    else some world
  | .getRiderPaymentStatus riderId transactionId =>
    match world.transactions[transactionId]? with
    | none => some world
    | some row =>
      if row.riderId = some riderId ∧ row.status = .PENDING then
        some (world.spawn (.polling transactionId row))
      else some world
  | .retryFailedPayment transactionId =>
    match world.transactions[transactionId]? with
    | none => some world
    | some row =>
      if row.status = .FAILED ∧ row.retryCount < maxRetries then
        some (world.spawn (.retrying transactionId row))
      else some world
  | .recordPayment cycleId dto =>
    match world.billing.cycles[cycleId]? with
    | none => some world
    | some cycle =>
      match acceptPayment cycle dto.amount with
      | .error _ => some world
      | .ok () => some (world.spawn (.recording cycleId cycle dto))
  | .operate operation =>
    if isBackground operation then
      some { world with billing := Billing.operate world.billing operation }
    else none
  | .proceed task answer =>
    if task ∈ world.tasks ∧ enabled world task = true then
      let (next, following) := perform config world task answer
      some { next with tasks := world.tasks.erase task ++ following }
    else none
  | .abandon task =>
    if task ∈ world.tasks then some { world with tasks := world.tasks.erase task } else none

/-! A service that nobody has used yet, and a rider without agreed rates -/

/-- A server with credentials. -/
def liveConfig : Config := ⟨true, false⟩

/-- A world in which nothing was asked for. -/
def idleWorld : World := ⟨unbilledState, none, 0, 0, [], []⟩

/-- A rider with the usual terms. -/
def defaultRider : Rider := ⟨"rider-1", some "0788000002", none, none, none, none⟩

/-- A token of the provider. -/
def issuedToken : IssuedToken := ⟨"token-1", by decide⟩

end EmotoFleet.MomoGateway
