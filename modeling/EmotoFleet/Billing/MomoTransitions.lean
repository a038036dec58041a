import EmotoFleet.Billing.Ledger
import EmotoFleet.Billing.MomoGateway

/-!
# What a step of the gateway's service can do

A step leaves the world as it is, stores a transaction, opens one task for
something that arrives, runs an operation that does not concern transactions, or
lets a task go on. Of the tasks' steps, eight write to the tables; they are listed
by `Written`. All tasks that follow a task are about the same transaction.
-/

namespace EmotoFleet.MomoGateway

open Billing

/-- The transaction that a token is asked for. -/
def Purpose.transaction : Purpose → Nat
  | .request transactionId _ | .check transactionId _ _ | .retry transactionId => transactionId

/-- The copy of the transaction that is at hand. -/
def Purpose.copy : Purpose → Option MomoTransaction
  | .request _ transaction | .check _ transaction _ => some transaction
  | .retry _ => none

/-- The transaction whose row a task may still write, itself or through the tasks
that follow it. -/
def Task.transaction : Task → Option Nat
  | .authorizing purpose | .awaitingToken purpose => some purpose.transaction
  | .posting transactionId | .auditing transactionId | .failing transactionId _
  | .timer transactionId _ _ | .polling transactionId _ | .getting transactionId _ _
  | .confirming transactionId _ _ | .crediting transactionId _ _ _
  | .rejecting transactionId _ _ | .retrying transactionId _ => some transactionId
  | _ => none

/-- The copy of a transaction that a task carries. -/
def Task.copy : Task → Option MomoTransaction
  | .authorizing purpose | .awaitingToken purpose => purpose.copy
  | .timer _ transaction _ | .polling _ transaction | .getting _ transaction _
  | .confirming _ transaction _ | .crediting _ transaction _ _ | .rejecting _ transaction _
  | .retrying _ transaction => some transaction
  | _ => none

/-- The tasks that arrivals open, with what is known at that moment. -/
inductive Arrival (world : World) : Task → Prop
  | poll (transactionId : Nat) (row : MomoTransaction)
    (found : world.transactions[transactionId]? = some row) (pending : row.status = .PENDING) :
    Arrival world (.polling transactionId row)
  | retry (transactionId : Nat) (row : MomoTransaction)
    (found : world.transactions[transactionId]? = some row) (failed : row.status = .FAILED) :
    Arrival world (.retrying transactionId row)
  | record (cycleId : Nat) (cycle : BillingCycle) (dto : RecordBillingPaymentDto) :
    Arrival world (.recording cycleId cycle dto)

variable (config : Config)

/-- The state after a task's step, with the tasks that follow in its place. -/
def World.continued (world : World) (task : Task) (answer : Answer) : World :=
  { (perform config world task answer).1 with
    tasks := world.tasks.erase task ++ (perform config world task answer).2 }

/-- The state after a transaction has been stored. -/
def World.stored (world : World) (transaction : MomoTransaction) : World :=
  World.spawn
    { world with
      billing := { world.billing with momoTransactions := world.transactions ++ [transaction] }
      nextReference := world.nextReference + 1 }
    (.authorizing (.request world.transactions.length transaction))

/-- The steps of the system. -/
inductive Transition (world : World) : Action → World → Prop
  | idle (action : Action) : Transition world action world
  | stored (action : Action) (transaction : MomoTransaction)
    (pending : transaction.status = .PENDING) (exclusive : Exclusive transaction) :
    Transition world action (world.stored transaction)
  | arrival (action : Action) (task : Task) (arrives : Arrival world task) :
    Transition world action (world.spawn task)
  | background (operation : Operation) (unrelated : isBackground operation = true) :
    Transition world (.operate operation)
      { world with billing := operate world.billing operation }
  | proceed (task : Task) (answer : Answer) (present : task ∈ world.tasks)
    (ready : enabled world task = true) :
    Transition world (.proceed task answer) (world.continued config task answer)
  | abandon (task : Task) :
    Transition world (.abandon task) { world with tasks := world.tasks.erase task }

variable {config} {world next : World} {action : Action}

/-- A new transaction is a transition. -/
theorem transition_createTransaction (action : Action) {transaction : MomoTransaction}
    (pending : transaction.status = .PENDING) (exclusive : Exclusive transaction) :
    Transition config world action (createTransaction world transaction) := by
  unfold createTransaction
  split
  · exact .idle action
  · exact .stored action transaction pending exclusive

/-- A collection that is accepted is pending and the rider's own. -/
theorem payRiderCollection_some {rider : Rider} {dto : RiderPayCollectionDto}
    {transaction : MomoTransaction}
    (accepted : payRiderCollection world rider dto = some transaction) :
    transaction.status = .PENDING ∧ Exclusive transaction := by
  unfold payRiderCollection at accepted
  simp only at accepted
  split at accepted
  · obtain rfl := Option.some.inj accepted
    exact ⟨rfl, Or.inl rfl⟩
  · cases accepted

/-- Every step is a transition. -/
theorem step_transition (moved : step config world action = some next) :
    Transition config world action next := by
  cases action with
  | payRiderCollection rider dto =>
    simp only [step] at moved
    split at moved
    · obtain rfl := Option.some.inj moved
      exact .idle _
    · rename_i transaction accepted
      obtain rfl := Option.some.inj moved
      obtain ⟨pending, exclusive⟩ := payRiderCollection_some accepted
      exact transition_createTransaction _ pending exclusive
  | requestToPay cycleId amount payerPhone =>
    simp only [step] at moved
    split at moved
    · obtain rfl := Option.some.inj moved
      exact transition_createTransaction _ rfl (Or.inr rfl)
    · obtain rfl := Option.some.inj moved
      exact .idle _
  | getRiderPaymentStatus riderId transactionId =>
    simp only [step] at moved
    split at moved
    · obtain rfl := Option.some.inj moved
      exact .idle _
    · rename_i row found
      split at moved
      · rename_i own
        obtain rfl := Option.some.inj moved
        exact .arrival _ _ (.poll transactionId row found own.2)
      · obtain rfl := Option.some.inj moved
        exact .idle _
  | retryFailedPayment transactionId =>
    simp only [step] at moved
    split at moved
    · obtain rfl := Option.some.inj moved
      exact .idle _
    · rename_i row found
      split at moved
      · rename_i retryable
        obtain rfl := Option.some.inj moved
        exact .arrival _ _ (.retry transactionId row found retryable.1)
      · obtain rfl := Option.some.inj moved
        exact .idle _
  | recordPayment cycleId dto =>
    simp only [step] at moved
    split at moved
    · obtain rfl := Option.some.inj moved
      exact .idle _
    · rename_i cycle found
      split at moved
      · obtain rfl := Option.some.inj moved
        exact .idle _
      · obtain rfl := Option.some.inj moved
        exact .arrival _ _ (.record cycleId cycle dto)
  | operate operation =>
    simp only [step] at moved
    split at moved
    · rename_i unrelated
      obtain rfl := Option.some.inj moved
      exact .background operation unrelated
    · cases moved
  | proceed task answer =>
    simp only [step] at moved
    split at moved
    · rename_i present
      obtain rfl := Option.some.inj moved
      exact .proceed task answer present.1 present.2
    · cases moved
  | abandon task =>
    simp only [step] at moved
    split at moved
    · obtain rfl := Option.some.inj moved
      exact .abandon task
    · cases moved

/-- A task that is ready may go on. -/
theorem step_proceed (config : Config) {task : Task} (answer : Answer) (present : task ∈ world.tasks)
    (ready : enabled world task = true) :
    step config world (.proceed task answer) = some (world.continued config task answer) :=
  if_pos ⟨present, ready⟩

/-- A task goes on with what was answered. -/
theorem proceed_step {task : Task} {answer : Answer}
    (moved : step config world (.proceed task answer) = some next) :
    next = world.continued config task answer := by
  simp only [step] at moved
  split at moved
  · exact (Option.some.inj moved).symm
  · cases moved

/-- What is under way after a step was so before or follows from it. -/
theorem mem_continued {task other : Task} {answer : Answer}
    (member : other ∈ (world.continued config task answer).tasks) :
    other ∈ world.tasks ∨ other ∈ (perform config world task answer).2 := by
  cases List.mem_append.mp member with
  | inl kept => exact Or.inl (List.mem_of_mem_erase kept)
  | inr follows => exact Or.inr follows

/-- Operations that do not concern transactions. -/
theorem sameLedger_operate {state : BillingState} {operation : Operation}
    (unrelated : isBackground operation = true) : SameLedger state (operate state operation) := by
  cases operation with
  | tick elapsed =>
    have later : state.now ≤ state.now + elapsed := by omega
    exact .of_same later rfl rfl rfl
  | finalizeTrip finished => exact .of_same (le_refl _) rfl rfl rfl
  | generateCycle isManual => exact sameLedger_generateQuietly isManual
  | generateBillingCycles => exact sameLedger_generateBillingCycles
  | expireTrials => exact sameLedger_expireTrials
  | autoMarkOverdue => exact sameLedger_autoMarkOverdue
  | auditDailyPaygUsage => exact sameLedger_auditDailyPaygUsage
  | recordPayment cycleId dto => cases unrelated
  | confirmPayment transactionId financialTransactionId => cases unrelated
  | approveBillingPayment cycleId amount method reference =>
    rw [operate]
    cases approved : approveBillingPayment state cycleId amount method reference with
    | ok next => exact sameLedger_approve approved
    | error refusal => exact .refl state
  | voidCycle cycleId =>
    rw [operate]
    cases voided : voidCycle state cycleId with
    | ok next => exact sameLedger_voidCycle voided
    | error refusal => exact .refl state

/-! What a task's step writes to the tables. -/

/-- What a task may write. -/
inductive Written (world : World) : Task → BillingState → Prop
  | nothing (task : Task) : Written world task world.billing
  | failed (transactionId : Nat) (failureReason : String) :
    Written world (.failing transactionId failureReason)
      (world.billing.updateTransaction transactionId (failed failureReason))
  | rejected (transactionId : Nat) (transaction : MomoTransaction) (reason : String) :
    Written world (.rejecting transactionId transaction reason)
      (world.billing.updateTransaction transactionId
        (processFailedPayment world.now transaction reason))
  | retried (transactionId : Nat) (transaction : MomoTransaction) :
    Written world (.retrying transactionId transaction)
      (world.billing.updateTransaction transactionId (retried world.nextReference transaction))
  | credited (transactionId : Nat) (transaction : MomoTransaction) (cycle : Option BillingCycle)
    (financialTransactionId : String) :
    Written world (.crediting transactionId transaction cycle financialTransactionId)
      (confirmed world.billing transactionId transaction cycle
        financialTransactionId)
  | recorded (cycleId : Nat) (cycle : BillingCycle) (dto : RecordBillingPaymentDto) :
    Written world (.recording cycleId cycle dto)
      (world.billing.createPayment (manualPayment world.now cycleId dto))
  | totalled (cycleId : Nat) (cycle : BillingCycle) (dto : RecordBillingPaymentDto) :
    Written world (.totalling cycleId cycle dto)
      (writePayment world.billing cycleId cycle (cycle.totalPaid + dto.amount)
        (dto.paidAt.getD world.now))
  | cancelled (cycleId : Nat) :
    Written world (.cancelling cycleId) (cancelPending world.billing cycleId)
  | restored : Written world .restoring (afterSettlement world.billing)

/-- A token writes nothing. -/
theorem authorized_billing (world : World) (token : String) (purpose : Purpose) :
    (authorized world token purpose).1.billing = world.billing := by
  unfold authorized
  repeat' split
  all_goals rfl

/-- A task writes what it may. -/
theorem perform_written (config : Config) (world : World) (task : Task) (answer : Answer) :
    Written world task (perform config world task answer).1.billing := by
  unfold perform
  split
  · split
    · rw [authorized_billing]
      exact .nothing _
    · split
      · rw [authorized_billing]
        exact .nothing _
      · exact .nothing _
  · split
    · rw [authorized_billing]
      exact .nothing _
    · rw [authorized_billing]
      exact .nothing _
  · rw [authorized_billing]
    exact .nothing _
  all_goals try exact .nothing _
  all_goals simp only
  all_goals try split
  all_goals first
    | exact .nothing _
    | exact .failed _ _
    | exact .rejected _ _ _
    | exact .retried _ _
    | exact .credited _ _ _ _
    | exact .recorded _ _ _
    | exact .totalled _ _ _
    | exact .cancelled _
    | exact .restored

/-- What a task's step makes of one row. A manual settlement changes rows that its
task is not about, but pending ones only. -/
inductive RowChange (world : World) (transactionId : Nat) (row : MomoTransaction) :
    Task → MomoTransaction → Prop
  | same (task : Task) : RowChange world transactionId row task row
  | failed (failureReason : String) :
    RowChange world transactionId row (.failing transactionId failureReason)
      (failed failureReason row)
  | rejected (transaction : MomoTransaction) (reason : String) :
    RowChange world transactionId row (.rejecting transactionId transaction reason)
      (processFailedPayment world.now transaction reason row)
  | retried (transaction : MomoTransaction) :
    RowChange world transactionId row (.retrying transactionId transaction)
      (retried world.nextReference transaction row)
  | credited (transaction : MomoTransaction) (cycle : Option BillingCycle)
    (financialTransactionId : String) :
    RowChange world transactionId row
      (.crediting transactionId transaction cycle financialTransactionId)
      (succeeded world.now financialTransactionId row)
  | cancelled (cycleId : Nat)
    (pending : row.billingCycleId = some cycleId ∧ row.status = .PENDING) :
    RowChange world transactionId row (.cancelling cycleId) (Billing.cancelled row)

/-- A row modified at one position. -/
theorem rowChange_modify {task : Task} {transactionId written : Nat} {row : MomoTransaction}
    {change : MomoTransaction → MomoTransaction} {rows : List MomoTransaction}
    (found : rows[transactionId]? = some row)
    (changed : written = transactionId → RowChange world transactionId row task (change row)) :
    ∃ after, (rows.modify written change)[transactionId]? = some after ∧
      RowChange world transactionId row task after := by
  by_cases same : written = transactionId
  · exact ⟨change row, by simp [same, found], changed same⟩
  · exact ⟨row, by simp [same, found], .same task⟩

/-- A row stays itself, or is written by the task. -/
theorem written_row {task : Task} {billing : BillingState} (written : Written world task billing)
    {transactionId : Nat} {row : MomoTransaction}
    (found : world.transactions[transactionId]? = some row) :
    ∃ after, billing.momoTransactions[transactionId]? = some after ∧
      RowChange world transactionId row task after := by
  cases written with
  | nothing => exact ⟨row, found, .same task⟩
  | failed failedId failureReason =>
    apply rowChange_modify found
    rintro rfl
    exact .failed failureReason
  | rejected rejectedId transaction reason =>
    apply rowChange_modify found
    rintro rfl
    exact .rejected transaction reason
  | retried retriedId transaction =>
    apply rowChange_modify found
    rintro rfl
    exact .retried transaction
  | credited creditedId transaction cycle financialTransactionId =>
    rw [confirmed_transactions]
    apply rowChange_modify found
    rintro rfl
    exact .credited transaction cycle financialTransactionId
  | recorded cycleId cycle dto => exact ⟨row, found, .same _⟩
  | totalled cycleId cycle dto => exact ⟨row, found, .same _⟩
  | cancelled cycleId =>
    have mapped : (cancelPending world.billing cycleId).momoTransactions[transactionId]? =
        some (if row.billingCycleId = some cycleId ∧ row.status = .PENDING then
          Billing.cancelled row else row) := by
      have stored : world.billing.momoTransactions[transactionId]? = some row := found
      simp [cancelPending, stored]
    refine ⟨_, mapped, ?_⟩
    split
    · rename_i pending
      exact .cancelled cycleId pending
    · exact .same _
  | restored => exact ⟨row, by rw [sameLedger_afterSettlement.transactions]; exact found, .same _⟩

/-- No task adds a transaction. -/
theorem written_length {task : Task} {billing : BillingState} (written : Written world task billing) :
    billing.momoTransactions.length = world.transactions.length := by
  cases written with
  | credited transactionId transaction cycle financialTransactionId =>
    rw [confirmed_transactions, List.length_modify]
    rfl
  | restored =>
    rw [sameLedger_afterSettlement.transactions]
    rfl
  | _ => simp [World.transactions, BillingState.updateTransaction, BillingState.createPayment,
      writePayment, BillingState.updateCycle, cancelPending]

/-- Rows are never removed. -/
theorem length_step (moved : step config world action = some next) :
    world.transactions.length ≤ next.transactions.length := by
  cases step_transition moved with
  | idle => exact le_refl _
  | stored action transaction pending exclusive =>
    simp [World.stored, World.spawn, World.transactions]
  | arrival action task arrives => exact le_refl _
  | background operation unrelated =>
    exact (congrArg List.length (sameLedger_operate unrelated).transactions).ge
  | proceed task answer present ready =>
    exact (written_length (perform_written config world task answer)).ge
  | abandon task => exact le_refl _

/-- Where a row of the next state comes from. -/
inductive RowOrigin (world : World) (action : Action) (transactionId : Nat)
    (after : MomoTransaction) : Prop
  | kept (found : world.transactions[transactionId]? = some after)
  | created (last : transactionId = world.transactions.length) (pending : after.status = .PENDING)
    (exclusive : Exclusive after)
  | changed (task : Task) (answer : Answer) (row : MomoTransaction)
    (taken : action = .proceed task answer) (present : task ∈ world.tasks)
    (found : world.transactions[transactionId]? = some row)
    (change : RowChange world transactionId row task after)

/-- Where a transaction's row comes from after a step. -/
theorem row_step (moved : step config world action = some next) {transactionId : Nat}
    {after : MomoTransaction} (later : next.transactions[transactionId]? = some after) :
    RowOrigin world action transactionId after := by
  cases step_transition moved with
  | idle => exact .kept later
  | stored action transaction pending exclusive =>
    have appended : (world.transactions ++ [transaction])[transactionId]? = some after := later
    by_cases bounded : transactionId < world.transactions.length
    · rw [List.getElem?_append_left bounded] at appended
      exact .kept appended
    · have last : transactionId = world.transactions.length := by
        have most := (List.getElem?_eq_some_iff.mp appended).1
        simp only [List.length_append, List.length_singleton] at most
        omega
      subst last
      obtain rfl : transaction = after := by simpa using appended
      exact .created rfl pending exclusive
  | arrival action task arrives => exact .kept later
  | background operation unrelated =>
    have same : (operate world.billing operation).momoTransactions =
        world.billing.momoTransactions := (sameLedger_operate unrelated).transactions
    exact .kept ((congrArg (fun rows => rows[transactionId]?) same).symm.trans later)
  | proceed task answer present ready =>
    have written := perform_written config world task answer
    have bounded : transactionId < world.transactions.length := by
      rw [← written_length written]
      exact (List.getElem?_eq_some_iff.mp later).1
    have found : world.transactions[transactionId]? = some world.transactions[transactionId] :=
      List.getElem?_eq_getElem bounded
    obtain ⟨changed, same, change⟩ := written_row written found
    obtain rfl := Option.some.inj (same.symm.trans later)
    exact .changed task answer _ rfl present found change
  | abandon task => exact .kept later

/-- Only a confirmation creates rows for a transaction. -/
theorem written_credits {task : Task} {billing : BillingState} (written : Written world task billing)
    (transactionId : Nat) :
    credits billing transactionId ≤ credits world.billing transactionId ∨
      ∃ transaction cycle financialTransactionId,
        task = .crediting transactionId transaction cycle financialTransactionId ∧
          credits billing transactionId ≤
            credits world.billing transactionId + paidFor transaction := by
  cases written with
  | credited creditedId transaction cycle financialTransactionId =>
    have most : credits (confirmed world.billing creditedId transaction cycle
          financialTransactionId) transactionId ≤
        credits world.billing transactionId +
          if transactionId = creditedId then paidFor transaction else 0 :=
      confirmed_credits creditedId transaction cycle financialTransactionId
        transactionId
    by_cases same : transactionId = creditedId
    · subst same
      rw [if_pos rfl] at most
      exact Or.inr ⟨transaction, cycle, financialTransactionId, rfl, most⟩
    · rw [if_neg same] at most
      exact Or.inl most
  | recorded cycleId cycle dto =>
    exact Or.inl ((sameLedger_createPayment rfl).credited transactionId).le
  | totalled cycleId cycle dto =>
    exact Or.inl ((sameLedger_writePayment _ _ _ _).credited transactionId).le
  | restored => exact Or.inl (sameLedger_afterSettlement.credited transactionId).le
  | _ => exact Or.inl (le_refl _)

/-- A step adds a credit only by a confirmation. -/
theorem credits_step (moved : step config world action = some next) (transactionId : Nat) :
    credits next.billing transactionId ≤ credits world.billing transactionId ∨
      ∃ transaction cycle financialTransactionId answer,
        Task.crediting transactionId transaction cycle financialTransactionId ∈ world.tasks ∧
          action =
            .proceed (.crediting transactionId transaction cycle financialTransactionId) answer ∧
          credits next.billing transactionId ≤
            credits world.billing transactionId + paidFor transaction := by
  cases step_transition moved with
  | idle => exact Or.inl (le_refl _)
  | stored action transaction pending exclusive => exact Or.inl (le_refl _)
  | arrival action task arrives => exact Or.inl (le_refl _)
  | background operation unrelated =>
    exact Or.inl ((sameLedger_operate unrelated).credited transactionId).le
  | proceed task answer present ready =>
    cases written_credits (perform_written config world task answer) transactionId with
    | inl less => exact Or.inl less
    | inr credited =>
      obtain ⟨transaction, cycle, financialTransactionId, rfl, most⟩ := credited
      exact Or.inr ⟨transaction, cycle, financialTransactionId, answer, present, rfl, most⟩
  | abandon task => exact Or.inl (le_refl _)

/-- Time does not go back. -/
theorem written_later {task : Task} {billing : BillingState} (written : Written world task billing) :
    world.now ≤ billing.now := by
  cases written with
  | credited transactionId transaction cycle financialTransactionId =>
    exact confirmed_later _ _ _ _
  | restored => exact sameLedger_afterSettlement.later
  | _ => exact le_refl _

/-! The tasks that follow. -/

/-- What follows a verdict is about its transaction. -/
theorem follow_about {now : Int} {transactionId : Nat} {transaction : MomoTransaction}
    {verdict : Verdict} {other : Task} (follows : other ∈ follow now transactionId transaction verdict) :
    other.transaction = some transactionId ∧ other.copy = some transaction := by
  cases verdict with
  | successful financialTransactionId =>
    obtain rfl := List.mem_singleton.mp follows
    exact ⟨rfl, rfl⟩
  | failed reason =>
    obtain rfl := List.mem_singleton.mp follows
    exact ⟨rfl, rfl⟩
  | undecided => cases follows

/-- What follows a token is about its transaction. -/
theorem authorized_about {token : String} {purpose : Purpose} {other : Task}
    (follows : other ∈ (authorized world token purpose).2) :
    other.transaction = some purpose.transaction ∧ (other.copy = none ∨ other.copy = purpose.copy) := by
  unfold authorized at follows
  split at follows
  · split at follows
    · obtain rfl := List.mem_singleton.mp follows
      exact ⟨rfl, Or.inr rfl⟩
    · obtain rfl := List.mem_singleton.mp follows
      exact ⟨rfl, Or.inl rfl⟩
  · split at follows
    · obtain ⟨same, copied⟩ := follow_about follows
      exact ⟨same, Or.inr copied⟩
    · obtain rfl := List.mem_singleton.mp follows
      exact ⟨rfl, Or.inr rfl⟩
  · obtain rfl := List.mem_singleton.mp follows
    exact ⟨rfl, Or.inl rfl⟩

/-- A task that follows is about the task's transaction and carries its copy, if it
is about one at all. -/
theorem perform_about (config : Config) (world : World) (task : Task) (answer : Answer) (other : Task)
    (follows : other ∈ (perform config world task answer).2) :
    (other.transaction = none ∨ other.transaction = task.transaction) ∧
      (other.copy = none ∨ other.copy = task.copy) := by
  unfold perform at follows
  split at follows
  all_goals try simp only at follows
  all_goals repeat' split at follows
  all_goals first
    | exact absurd follows List.not_mem_nil
    | (obtain rfl := List.mem_singleton.mp follows
       exact ⟨Or.inr rfl, Or.inr rfl⟩)
    | (obtain rfl := List.mem_singleton.mp follows
       exact ⟨Or.inr rfl, Or.inl rfl⟩)
    | (obtain ⟨same, copied⟩ := follow_about follows
       exact ⟨Or.inr same, Or.inr copied⟩)
    | (obtain ⟨same, copied⟩ := authorized_about follows
       exact ⟨Or.inr same, copied⟩)

end EmotoFleet.MomoGateway
