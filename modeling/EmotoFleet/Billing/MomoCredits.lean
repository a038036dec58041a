import EmotoFleet.Billing.MomoTransitions
import EmotoFleet.Foundations.Holders

/-!
# One payment for a transaction

A confirmation does not look at the transaction's stored status, and neither do a
reported failure, a failed request and a retry when they write. The poller looks
at it before it asks the gateway; the headquarters' settlement of an invoice
cancels pending transactions so that nothing is deducted twice. Between such a look
and the write the status may have changed, so a transaction that several tasks
are about can be credited several times, and one that has been settled can change
again.

It does not happen as long as a transaction becomes successful or cancelled only
when no other task is about it.
-/

namespace EmotoFleet.MomoCredits

open Billing MomoGateway Holders Runs

def isSettled (status : MomoTransactionStatus) : Bool :=
  decide (status = .SUCCESSFUL ∨ status = .CANCELLED)

/-- The transaction's stored status is one that must not change. -/
def Closed (world : World) (transactionId : Nat) : Prop :=
  ∃ row, world.transactions[transactionId]? = some row ∧ isSettled row.status = true

/-- A task is about the transaction. -/
def HasTask (world : World) (transactionId : Nat) : Prop :=
  ∃ task ∈ world.tasks, task.transaction = some transactionId

/-- The transactions that a task's next step makes successful or cancelled. -/
def settles (world : World) : Task → List Nat
  | .crediting transactionId _ _ _ => [transactionId]
  | .cancelling cycleId => (Task.cancelling cycleId).touches world
  | _ => []

/-- A task that makes a transaction successful or cancelled goes on only when no
other task about it is left. -/
def SettlesAlone (world : World) : Action → World → Prop
  | .proceed task _, _ => ∀ transactionId ∈ settles world task,
      ∀ other ∈ world.tasks.erase task, other.transaction ≠ some transactionId
  | _, _ => True

instance (world : World) (action : Action) (next : World) :
    Decidable (SettlesAlone world action next) :=
  match action with
  | .proceed task _ => inferInstanceAs (Decidable (∀ transactionId ∈ settles world task,
      ∀ other ∈ world.tasks.erase task, other.transaction ≠ some transactionId))
  | .payRiderCollection _ _ | .requestToPay _ _ _ | .getRiderPaymentStatus _ _
  | .retryFailedPayment _ | .recordPayment _ _ | .operate _ | .abandon _ =>
    inferInstanceAs (Decidable True)

/-- There is one payment row at most for any transaction, and the step changes no
successful or cancelled one. -/
def SettlesOnce (world : World) (_ : Action) (next : World) : Prop :=
  (∀ transactionId, credits next.billing transactionId ≤ 1) ∧
    ∀ (transactionId : Nat) (row : MomoTransaction), world.transactions[transactionId]? = some row →
      isSettled row.status = true →
      ∃ after, next.transactions[transactionId]? = some after ∧ after.status = row.status

/-- Nothing has been requested yet. -/
structure Fresh (world : World) : Prop where
  noTransactions : world.transactions = []
  noTasks : world.tasks = []
  noCredits : ∀ transactionId, credits world.billing transactionId = 0

/-- The copies that tasks carry pay for one thing, tasks are about stored
transactions, and only settled transactions are credited. -/
structure Sound (world : World) : Prop where
  exclusive : ∀ task ∈ world.tasks, ∀ transaction, task.copy = some transaction →
    Exclusive transaction
  rows : ∀ (transactionId : Nat) (row : MomoTransaction),
    world.transactions[transactionId]? = some row → Exclusive row
  stored : ∀ task ∈ world.tasks, ∀ transactionId, task.transaction = some transactionId →
    transactionId < world.transactions.length
  credited : ∀ transactionId, credits world.billing transactionId = 0 ∨
    (credits world.billing transactionId ≤ 1 ∧ Closed world transactionId)

variable {config : Config} {world next : World} {action : Action}

/-- Tasks come from tasks, or are opened while the transaction is not settled. -/
theorem tasks_acquired (moved : step config world action = some next) :
    Acquires Closed HasTask world next := by
  rintro transactionId ⟨other, member, about⟩
  cases step_transition moved with
  | idle => exact Or.inl ⟨other, member, about⟩
  | stored action transaction pending exclusive =>
    cases List.mem_append.mp member with
    | inl kept => exact Or.inl ⟨other, kept, about⟩
    | inr opened =>
      obtain rfl := List.mem_singleton.mp opened
      obtain rfl := Option.some.inj about
      apply Or.inr
      rintro ⟨row, found, settled⟩
      have same : row = transaction := by
        simpa [World.stored, World.spawn, World.transactions, Purpose.transaction] using found.symm
      simp [same, pending, isSettled] at settled
  | arrival action task arrives =>
    cases List.mem_append.mp member with
    | inl kept => exact Or.inl ⟨other, kept, about⟩
    | inr opened =>
      obtain rfl := List.mem_singleton.mp opened
      apply Or.inr
      rintro ⟨after, later, settled⟩
      cases arrives with
      | poll polledId row found pending =>
        obtain rfl := Option.some.inj about
        obtain rfl := Option.some.inj (found.symm.trans later)
        simp [pending, isSettled] at settled
      | retry retriedId row found failed =>
        obtain rfl := Option.some.inj about
        obtain rfl := Option.some.inj (found.symm.trans later)
        simp [failed, isSettled] at settled
      | record cycleId cycle dto => cases about
  | background operation unrelated => exact Or.inl ⟨other, member, about⟩
  | proceed task answer present ready =>
    cases mem_continued member with
    | inl kept => exact Or.inl ⟨other, kept, about⟩
    | inr follows =>
      cases (perform_about config world task answer other follows).1 with
      | inl none' =>
        rw [none'] at about
        cases about
      | inr same => exact Or.inl ⟨task, present, same ▸ about⟩
  | abandon task => exact Or.inl ⟨other, List.mem_of_mem_erase member, about⟩

/-- What a task's step settles is among the transactions it is known to settle. -/
theorem rowChange_settles {transactionId : Nat} {row after : MomoTransaction} {task : Task}
    (found : world.transactions[transactionId]? = some row)
    (changed : RowChange world transactionId row task after) (open' : isSettled row.status = false)
    (settled : isSettled after.status = true) : transactionId ∈ settles world task := by
  cases changed with
  | same => simp [open'] at settled
  | failed failureReason => cases settled
  | rejected transaction reason => cases settled
  | retried transaction => cases settled
  | credited transaction cycle financialTransactionId => exact List.mem_singleton_self _
  | cancelled cycleId pending =>
    have bounded := (List.getElem?_eq_some_iff.mp found).1
    simp only [settles, Task.touches, List.mem_filter, List.mem_range, found, Option.any_some,
      decide_eq_true_eq]
    exact ⟨bounded, pending⟩

/-- A task that settles transactions is followed by none about them. -/
theorem settles_last {task other : Task} {answer : Answer} {transactionId : Nat}
    (mine : transactionId ∈ settles world task)
    (follows : other ∈ (perform config world task answer).2) : other.transaction = none := by
  cases task with
  | crediting creditedId transaction cycle financialTransactionId =>
    exact absurd follows List.not_mem_nil
  | cancelling cycleId =>
    obtain rfl := List.mem_singleton.mp follows
    rfl
  | _ => cases mine

/-- No task is left about a transaction that a step settles. -/
theorem closed_unheld (alone : SettlesAlone world action next)
    (moved : step config world action = some next) : ClosesUnheld Closed HasTask world next := by
  rintro transactionId ⟨after, later, settled⟩ opened ⟨other, member, about⟩
  cases row_step moved later with
  | kept found => exact opened ⟨after, found, settled⟩
  | created last pending exclusive => simp [pending, isSettled] at settled
  | changed task answer row taken present found change =>
    subst taken
    have unsettled : isSettled row.status = false := by
      by_contra already
      exact opened ⟨row, found, by simpa using already⟩
    have mine : transactionId ∈ settles world task :=
      rowChange_settles found change unsettled settled
    obtain rfl := proceed_step moved
    cases List.mem_append.mp member with
    | inl kept => exact alone transactionId mine other kept about
    | inr follows =>
      rw [settles_last mine follows] at about
      cases about

/-- A row whose transaction no task is about is left alone once it is settled. -/
theorem row_kept (moved : step config world action = some next) {transactionId : Nat}
    {row : MomoTransaction} (found : world.transactions[transactionId]? = some row)
    (settled : isSettled row.status = true) (alone : ¬ HasTask world transactionId) :
    next.transactions[transactionId]? = some row := by
  have bounded := (List.getElem?_eq_some_iff.mp found).1
  have longer := length_step moved
  obtain ⟨after, later⟩ : ∃ after, next.transactions[transactionId]? = some after :=
    ⟨_, List.getElem?_eq_getElem (lt_of_lt_of_le bounded longer)⟩
  rw [later]
  cases row_step moved later with
  | kept same => exact same.symm.trans found
  | created last pending exclusive => exact absurd bounded (by omega)
  | changed task answer before taken present same change =>
    obtain rfl := Option.some.inj (same.symm.trans found)
    cases change with
    | same => rfl
    | cancelled cycleId pending => simp [pending.2, isSettled] at settled
    | failed failureReason => exact absurd ⟨_, present, rfl⟩ alone
    | rejected transaction reason => exact absurd ⟨_, present, rfl⟩ alone
    | retried transaction => exact absurd ⟨_, present, rfl⟩ alone
    | credited transaction cycle financialTransactionId => exact absurd ⟨_, present, rfl⟩ alone

theorem exclusive_change {transactionId : Nat} {row after : MomoTransaction} {task : Task}
    (changed : RowChange world transactionId row task after) (exclusive : Exclusive row) :
    Exclusive after := by
  cases changed with
  | same => exact exclusive
  | failed failureReason => exact exclusive
  | rejected transaction reason => exact exclusive
  | retried transaction => exact exclusive
  | credited transaction cycle financialTransactionId => exact exclusive
  | cancelled cycleId pending => exact exclusive

/-- Rows come from rows or are newly stored, and pay for the same thing as before. -/
theorem rows_step (sound : Sound world) (moved : step config world action = some next)
    (transactionId : Nat) (after : MomoTransaction)
    (later : next.transactions[transactionId]? = some after) : Exclusive after := by
  cases row_step moved later with
  | kept found => exact sound.rows transactionId after found
  | created last pending exclusive => exact exclusive
  | changed task answer row taken present found change =>
    exact exclusive_change change (sound.rows transactionId row found)

theorem arrival_about {task : Task} (sound : Sound world) (arrives : Arrival world task) :
    (∀ transaction, task.copy = some transaction → Exclusive transaction) ∧
      ∀ transactionId, task.transaction = some transactionId →
        transactionId < world.transactions.length := by
  cases arrives with
  | poll polledId row found pending =>
    constructor
    · intro copy copied
      obtain rfl := Option.some.inj copied
      exact sound.rows polledId row found
    · intro transactionId about
      obtain rfl := Option.some.inj about
      exact (List.getElem?_eq_some_iff.mp found).1
  | retry retriedId row found failed =>
    constructor
    · intro copy copied
      obtain rfl := Option.some.inj copied
      exact sound.rows retriedId row found
    · intro transactionId about
      obtain rfl := Option.some.inj about
      exact (List.getElem?_eq_some_iff.mp found).1
  | record cycleId cycle dto =>
    constructor
    · intro copy copied
      cases copied
    · intro transactionId about
      cases about

/-- A task of the next state is an earlier one, is opened for a stored row, or
follows one. -/
theorem tasks_step (sound : Sound world) (moved : step config world action = some next)
    {task : Task} (member : task ∈ next.tasks) :
    (∀ transaction, task.copy = some transaction → Exclusive transaction) ∧
      ∀ transactionId, task.transaction = some transactionId →
        transactionId < next.transactions.length := by
  have longer := length_step moved
  have earlier : ∀ other ∈ world.tasks,
      (∀ transaction, other.copy = some transaction → Exclusive transaction) ∧
        ∀ transactionId, other.transaction = some transactionId →
          transactionId < next.transactions.length := by
    intro other present
    refine ⟨sound.exclusive other present, ?_⟩
    intro transactionId about
    exact lt_of_lt_of_le (sound.stored other present transactionId about) longer
  cases step_transition moved with
  | idle => exact earlier task member
  | stored action transaction pending exclusive =>
    cases List.mem_append.mp member with
    | inl kept => exact earlier task kept
    | inr opened =>
      obtain rfl := List.mem_singleton.mp opened
      constructor
      · intro copy copied
        obtain rfl := Option.some.inj copied
        exact exclusive
      · intro transactionId about
        obtain rfl := Option.some.inj about
        simp [World.stored, World.spawn, World.transactions, Purpose.transaction]
  | arrival action opened arrives =>
    cases List.mem_append.mp member with
    | inl kept => exact earlier task kept
    | inr added =>
      obtain rfl := List.mem_singleton.mp added
      obtain ⟨exclusive, stored⟩ := arrival_about sound arrives
      exact ⟨exclusive, stored⟩
  | background operation unrelated => exact earlier task member
  | proceed performed answer present ready =>
    cases mem_continued member with
    | inl kept => exact earlier task kept
    | inr follows =>
      obtain ⟨about, copied⟩ := perform_about config world performed answer task follows
      obtain ⟨exclusive, stored⟩ := earlier performed present
      constructor
      · intro transaction copy
        cases copied with
        | inl none' =>
          rw [none'] at copy
          cases copy
        | inr same => exact exclusive transaction (same ▸ copy)
      · intro transactionId mentioned
        cases about with
        | inl none' =>
          rw [none'] at mentioned
          cases mentioned
        | inr same => exact stored transactionId (same ▸ mentioned)
  | abandon other => exact earlier task (List.mem_of_mem_erase member)

/-- Credits after a step: those before, or one for an unsettled transaction that
becomes successful. -/
theorem credited_step (sound : Sound world) (settled : Settled Closed HasTask world)
    (moved : step config world action = some next) (transactionId : Nat) :
    credits next.billing transactionId = 0 ∨
      (credits next.billing transactionId ≤ 1 ∧ Closed next transactionId) := by
  cases credits_step moved transactionId with
  | inl less =>
    cases sound.credited transactionId with
    | inl none' => exact Or.inl (by omega)
    | inr once =>
      obtain ⟨most, row, found, final⟩ := once
      have same := row_kept moved found final (settled transactionId ⟨row, found, final⟩)
      exact Or.inr ⟨by omega, row, same, final⟩
  | inr credited =>
    obtain ⟨transaction, cycle, financialTransactionId, answer, present, rfl, most⟩ := credited
    obtain rfl := proceed_step moved
    have unsettled : ¬ Closed world transactionId :=
      fun closed => settled transactionId closed ⟨_, present, rfl⟩
    have none' : credits world.billing transactionId = 0 := by
      cases sound.credited transactionId with
      | inl none' => exact none'
      | inr once => exact absurd once.2 unsettled
    have single := paidFor_exclusive (sound.exclusive _ present transaction rfl)
    have bounded := sound.stored _ present transactionId rfl
    have rows : (world.continued config (.crediting transactionId transaction cycle
        financialTransactionId) answer).transactions = world.transactions.modify transactionId
          (succeeded world.now financialTransactionId) :=
      confirmed_transactions _ _ _ _
    refine Or.inr ⟨by omega, ?_⟩
    refine ⟨succeeded world.now financialTransactionId world.transactions[transactionId], ?_, rfl⟩
    rw [rows]
    simp [bounded]

theorem sound_step (sound : Sound world) (settled : Settled Closed HasTask world)
    (moved : step config world action = some next) : Sound next where
  exclusive := fun _ member => (tasks_step sound moved member).1
  rows := rows_step sound moved
  stored := fun _ member => (tasks_step sound moved member).2
  credited := credited_step sound settled moved

theorem sound_fresh (fresh : Fresh world) : Sound world where
  exclusive := by simp [fresh.noTasks]
  rows := by simp [fresh.noTransactions]
  stored := by simp [fresh.noTasks]
  credited := fun transactionId => Or.inl (fresh.noCredits transactionId)

/-- In every run in which transactions become successful or cancelled only when no
task about them is left, there is one payment row at most for any transaction, and
no successful or cancelled transaction changes again. -/
theorem transactions_settle_once (config : Config) (start : World) (actions : List Action)
    (fresh : Fresh start) (guarded : Along (step config) SettlesAlone start actions) :
    Along (step config) SettlesOnce start actions := by
  have preserved : ∀ state action next, Sound state ∧ Settled Closed HasTask state →
      SettlesAlone state action next → step config state action = some next →
      Sound next ∧ Settled Closed HasTask next := by
    intro state action next invariant alone moved
    exact ⟨sound_step invariant.1 invariant.2 moved,
      settled_step (tasks_acquired moved) (closed_unheld alone moved) invariant.2⟩
  have concluded : ∀ state action next, Sound state ∧ Settled Closed HasTask state →
      SettlesAlone state action next → step config state action = some next →
      SettlesOnce state action next := by
    intro state action next invariant alone moved
    constructor
    · intro transactionId
      cases (sound_step invariant.1 invariant.2 moved).credited transactionId with
      | inl none' => omega
      | inr once => exact once.1
    · intro transactionId row found final
      exact ⟨row, row_kept moved found final (invariant.2 transactionId ⟨row, found, final⟩), rfl⟩
  refine along_of_invariant (fun state => Sound state ∧ Settled Closed HasTask state)
    preserved concluded ⟨sound_fresh fresh, ?_⟩ guarded
  rintro transactionId ⟨row, found, _⟩ _
  simp [fresh.noTransactions] at found

/-! The condition cannot be dropped: whatever the stored status is, a confirmation
that is still open adds a payment row, and a failure that is still open overwrites
the status. -/

theorem late_confirmation_credits {transactionId : Nat} {transaction : MomoTransaction}
    {riderId financialTransactionId : String}
    (present : .confirming transactionId transaction financialTransactionId ∈ world.tasks)
    (ready : enabled world (.confirming transactionId transaction financialTransactionId) = true)
    (rider : transaction.riderId = some riderId) (noInvoice : transaction.billingCycleId = none) :
    ∃ last, run (step config) world
        [.proceed (.confirming transactionId transaction financialTransactionId) .accepted,
         .proceed (.crediting transactionId transaction none financialTransactionId) .accepted] =
          some last ∧
      credits last.billing transactionId = credits world.billing transactionId + 1 := by
  have locked := step_proceed config .accepted present ready
  have opened : .crediting transactionId transaction none financialTransactionId ∈
      (world.continued config (.confirming transactionId transaction financialTransactionId)
        .accepted).tasks := by
    apply List.mem_append_right
    simp [perform, noInvoice]
  have committed := step_proceed config .accepted opened (by simp [enabled, Task.touches])
  refine ⟨_, by rw [run_cons, locked, Option.bind_some, run_cons, committed]; rfl, ?_⟩
  have credited : credits (confirmed world.billing transactionId transaction none
      financialTransactionId) transactionId = credits world.billing transactionId + 1 := by
    simp only [confirmed, noInvoice, rider, creditRider_credits, if_pos]
    rfl
  exact credited

theorem late_failure_overwrites {transactionId : Nat} {row : MomoTransaction} {failureReason : String}
    (present : .failing transactionId failureReason ∈ world.tasks)
    (ready : enabled world (.failing transactionId failureReason) = true)
    (found : world.transactions[transactionId]? = some row) :
    ∃ next, step config world (.proceed (.failing transactionId failureReason) .accepted) = some next ∧
      next.transactions[transactionId]? = some (failed failureReason row) := by
  refine ⟨_, step_proceed config .accepted present ready, ?_⟩
  have modified : (world.transactions.modify transactionId (failed failureReason))[transactionId]? =
      some (failed failureReason row) := by
    rw [List.getElem?_modify_eq, found]
    rfl
  exact modified

/-! The default rider pays, the gateway accepts the request, and polls find out that
the payment has been made. -/

/-- The row that the rider's request stores. -/
def collection : MomoTransaction where
  billingCycleId := none
  riderId := some "rider-1"
  referenceId := 0
  idempotencyKey := .riderCollection "rider-1" 1772438400000
  amount := 15000
  payerPhone := "250788000002"
  payerMessage := some "Rider collection payment"
  status := .PENDING
  financialTransactionId := none
  failureReason := none
  retryCount := 0
  nextRetryAt := none
  callbackReceivedAt := none

def requestSteps : List Action :=
  [.payRiderCollection defaultRider ⟨none, none, false, none⟩,
   .proceed (.authorizing (.request 0 collection)) .accepted,
   .proceed (.awaitingToken (.request 0 collection)) (.token issuedToken 3600),
   .proceed (.posting 0) .accepted, .proceed (.auditing 0) .accepted]

def confirmSteps : List Action :=
  [.proceed (.polling 0 collection) .accepted,
   .proceed (.authorizing (.check 0 collection (some collection))) .accepted,
   .proceed (.getting 0 collection (some collection)) (.status .SUCCESSFUL (some "MTN-1") none),
   .proceed (.confirming 0 collection "MTN-1") .accepted,
   .proceed (.crediting 0 collection none "MTN-1") .accepted]

theorem idleWorld_fresh : Fresh idleWorld := ⟨rfl, rfl, fun _ => rfl⟩

/-- A single poll. -/
theorem transactions_settle_once_polled :
    Along (step liveConfig) SettlesOnce idleWorld
      (requestSteps ++ .getRiderPaymentStatus "rider-1" 0 :: confirmSteps) :=
  transactions_settle_once liveConfig idleWorld _ idleWorld_fresh
    (along_of_decide (by decide +kernel))

/-- Of two polls that have both found the transaction pending, the second finds the
status that the first has stored, and confirms the payment again. -/
theorem polled_twice_credited_twice :
    ¬ ∀ (config : Config) (start : World) (actions : List Action), Fresh start →
      Along (step config) SettlesOnce start actions := by
  intro always
  have breaks : ∀ middle next : World, decide (1 < credits next.billing 0) = true →
      ¬ SettlesOnce middle (.proceed (.crediting 0 collection none "MTN-1") .accepted) next := by
    intro middle next twice once
    have more : 1 < credits next.billing 0 := of_decide_eq_true twice
    exact absurd (once.1 0) (by omega)
  exact not_along_of_check idleWorld
    (requestSteps ++
      ([.getRiderPaymentStatus "rider-1" 0, .getRiderPaymentStatus "rider-1" 0] : List Action) ++
      confirmSteps ++
      ([.proceed (.polling 0 collection) .accepted,
        .proceed (.confirming 0 collection "MTN-1") .accepted] : List Action))
    (.proceed (.crediting 0 collection none "MTN-1") .accepted) breaks (by decide +kernel)
    (always liveConfig idleWorld _ idleWorld_fresh)

end EmotoFleet.MomoCredits
