import EmotoFleet.Billing.MomoCredits

/-!
# What confirms and what fails a transaction

With credentials and without the simulation, a confirmation can still come from
the simulated gateway: when the token endpoint has failed, the service simulates
every request for an hour, and a simulated request is confirmed by a timer.
Failures do not all come from the gateway either: a request whose answer is lost,
or that cannot be entered in the audit log after the gateway has accepted it, fails
the transaction like a rejected one, and so does a lost answer about a reference
that a retry has replaced meanwhile.

The log of what the gateway has said accounts for the other outcomes: a confirmation
is backed by a report of success or by a simulated request, a failure by a rejection
or by a report of failure. Tasks that carry an outcome are backed by the log in the
same way as the rows.
-/

namespace EmotoFleet.MomoConfirmation

open Billing MomoGateway MomoCredits Runs

/-- The gateway has reported the transaction as successful, or the transaction's
request was simulated within an hour after a token request had failed. -/
def Confirmed (log : List Event) (transactionId : Nat) : Prop :=
  .reportedSuccessful transactionId ∈ log ∨
    ∃ failedAt now, .tokenFailed failedAt ∈ log ∧ .simulated transactionId now ∈ log ∧
      failedAt ≤ now ∧ now < failedAt + MOCK_TOKEN_TTL_MS

/-- The gateway has rejected a request for the transaction or reported it as failed. -/
def Refused (log : List Event) (transactionId : Nat) : Prop :=
  .requestRejected transactionId ∈ log ∨ .reportedFailed transactionId ∈ log

/-- An exchange about the transaction has ended without the word of the gateway: a request
was not answered or not entered in the audit log, or a check was not answered whose
reference a retry had replaced. -/
def Unheard (log : List Event) (transactionId : Nat) : Prop :=
  .requestLost transactionId ∈ log ∨ .auditFailed transactionId ∈ log ∨
    .checkFailed transactionId false ∈ log

/-- With the word of the gateway on every exchange, only its refusal explains a failure. -/
def Explained (log : List Event) (transactionId : Nat) : Prop :=
  ¬ Unheard log transactionId → Refused log transactionId

/-- Every outcome in the tables has its reason in the log. -/
structure Accounted (world : World) : Prop where
  successful : ∀ (transactionId : Nat) (row : MomoTransaction),
    world.transactions[transactionId]? = some row → row.status = .SUCCESSFUL →
    Confirmed world.log transactionId
  credited : ∀ transactionId, 0 < credits world.billing transactionId →
    Confirmed world.log transactionId
  failed : ∀ (transactionId : Nat) (row : MomoTransaction),
    world.transactions[transactionId]? = some row → row.status = .FAILED →
    Explained world.log transactionId

/-- The status that a check has found stored decides nothing. -/
def Undecided (stored : Option MomoTransaction) : Prop :=
  (stored.map storedVerdict).getD .undecided = .undecided

/-- Nothing has been answered yet about what a token is asked for. -/
def Unanswered : Purpose → Prop
  | .check _ _ stored => Undecided stored
  | .request _ _ | .retry _ => True

/-- The outcome that a task carries has its reason in the log. -/
def Backed (log : List Event) : Task → Prop
  | .timer transactionId _ _ | .confirming transactionId _ _ | .crediting transactionId _ _ _ =>
    Confirmed log transactionId
  | .failing transactionId _ | .rejecting transactionId _ _ => Explained log transactionId
  | .authorizing purpose | .awaitingToken purpose => Unanswered purpose
  | .getting _ _ stored => Undecided stored
  | _ => True

/-- A token request has failed less than an hour ago. -/
def Simulating (world : World) : Prop :=
  ∃ failedAt, .tokenFailed failedAt ∈ world.log ∧ failedAt ≤ world.now ∧
    world.now < failedAt + MOCK_TOKEN_TTL_MS

/-- The token of the simulation is cached for an hour after a failure. -/
def Fallback (world : World) : Prop :=
  world.accessToken = some SANDBOX_MOCK_TOKEN →
    ∃ failedAt, .tokenFailed failedAt ∈ world.log ∧ failedAt ≤ world.now ∧
      world.tokenExpiry = failedAt + MOCK_TOKEN_TTL_MS

/-- Together with the tables, the cached token and the open tasks are accounted for. -/
structure Sound (world : World) : Prop where
  accounted : Accounted world
  fallback : Fallback world
  tasks : ∀ task ∈ world.tasks, Backed world.log task

variable {config : Config} {world next : World} {action : Action} {log longer : List Event}

/-! The log only grows. -/

/-- What was confirmed stays confirmed. -/
theorem Confirmed.mono {transactionId : Nat} (grows : log ⊆ longer)
    (confirmed : Confirmed log transactionId) : Confirmed longer transactionId := by
  cases confirmed with
  | inl reported => exact Or.inl (grows reported)
  | inr simulated =>
    obtain ⟨failedAt, now, failed, served, timely⟩ := simulated
    exact Or.inr ⟨failedAt, now, grows failed, grows served, timely⟩

/-- What was explained stays explained. -/
theorem Explained.mono {transactionId : Nat} (grows : log ⊆ longer)
    (explained : Explained log transactionId) : Explained longer transactionId := by
  intro heard
  have before : ¬ Unheard log transactionId := fun unheard =>
    heard (unheard.imp (fun lost => grows lost)
      fun others => others.imp (fun lost => grows lost) fun lost => grows lost)
  exact (explained before).imp (fun rejected => grows rejected) fun reported => grows reported

/-- A refusal explains a failure. -/
theorem explained_of_refused {transactionId : Nat} (refused : Refused log transactionId) :
    Explained log transactionId :=
  fun _ => refused

/-- A request that was never heard explains a failure. -/
theorem explained_of_unheard {transactionId : Nat} (unheard : Unheard log transactionId) :
    Explained log transactionId :=
  fun heard => absurd unheard heard

/-- A task that was backed stays backed. -/
theorem Backed.mono {task : Task} (grows : log ⊆ longer) (backed : Backed log task) :
    Backed longer task := by
  cases task with
  | timer transactionId transaction due => exact Confirmed.mono grows backed
  | confirming transactionId transaction financialTransactionId => exact Confirmed.mono grows backed
  | crediting transactionId transaction cycle financialTransactionId =>
    exact Confirmed.mono grows backed
  | failing transactionId failureReason => exact Explained.mono grows backed
  | rejecting transactionId transaction reason => exact Explained.mono grows backed
  | _ => exact backed

/-- A note adds to the log. -/
theorem note_log (event : Event) : world.log ⊆ (world.note event).log :=
  List.subset_append_left _ _

/-- What is noted is in the log. -/
theorem noted (event : Event) : event ∈ (world.note event).log :=
  List.mem_append_right _ (List.mem_singleton_self _)

/-- The fallback token stays accounted for. -/
theorem Fallback.mono (fallback : Fallback world) (token : next.accessToken = world.accessToken)
    (expiry : next.tokenExpiry = world.tokenExpiry) (grows : world.log ⊆ next.log)
    (later : world.now ≤ next.now) : Fallback next := by
  intro simulated
  rw [token] at simulated
  obtain ⟨failedAt, failed, earlier, lapses⟩ := fallback simulated
  exact ⟨failedAt, grows failed, le_trans earlier later, expiry.trans lapses⟩

/-! Steps of tasks -/

/-- What a task's step leaves is accounted for, if the state before it was. -/
structure Continues (world next : World) (following : List Task) : Prop where
  grows : world.log ⊆ next.log
  fallback : Fallback next
  backed : ∀ other ∈ following, Backed next.log other

/-- A step that says nothing and keeps the cached token. -/
theorem continues_silent {following : List Task} (fallback : Fallback world)
    (token : next.accessToken = world.accessToken) (expiry : next.tokenExpiry = world.tokenExpiry)
    (silent : next.log = world.log) (later : world.now ≤ next.now)
    (backed : ∀ other ∈ following, Backed world.log other) : Continues world next following where
  grows := by rw [silent]; exact List.Subset.refl _
  fallback := fallback.mono token expiry (by rw [silent]; exact List.Subset.refl _) later
  backed := by rw [silent]; exact backed

/-- A step that writes nothing continues. -/
theorem continues_idle {following : List Task} (fallback : Fallback world)
    (backed : ∀ other ∈ following, Backed world.log other) : Continues world world following :=
  continues_silent fallback rfl rfl rfl (le_refl _) backed

/-- A step that hears from the gateway and keeps the cached token. -/
theorem continues_noted (event : Event) {following : List Task} (fallback : Fallback world)
    (backed : ∀ other ∈ following, Backed (world.note event).log other) :
    Continues world (world.note event) following where
  grows := note_log event
  fallback := fallback.mono rfl rfl (note_log event) (le_refl _)
  backed := backed

/-- What follows a verdict is backed by it. -/
theorem follow_backed {now : Int} {transactionId : Nat} {transaction : MomoTransaction}
    {verdict : Verdict} (successful : ∀ given, verdict = .successful given → Confirmed log transactionId)
    (failed : ∀ reason, verdict = .failed reason → Explained log transactionId) :
    ∀ other ∈ follow now transactionId transaction verdict, Backed log other := by
  intro other follows
  cases verdict with
  | successful financialTransactionId =>
    obtain rfl := List.mem_singleton.mp follows
    exact successful _ rfl
  | failed reason =>
    obtain rfl := List.mem_singleton.mp follows
    exact failed _ rfl
  | undecided => cases follows

/-- What follows an open verdict is open. -/
theorem follow_undecided {now : Int} {transactionId : Nat} {transaction : MomoTransaction}
    {stored : Option MomoTransaction} (undecided : Undecided stored) :
    ∀ other ∈ follow now transactionId transaction ((stored.map storedVerdict).getD .undecided),
      Backed log other := by
  intro other follows
  rw [undecided] at follows
  cases follows

/-- With the token of the simulation, a request is simulated. -/
theorem continues_authorized (token : String) {purpose : Purpose} (fallback : Fallback world)
    (simulating : token = SANDBOX_MOCK_TOKEN → Simulating world) (unanswered : Unanswered purpose) :
    Continues world (authorized world token purpose).1 (authorized world token purpose).2 := by
  cases purpose with
  | request transactionId transaction =>
    simp only [authorized]
    split
    · rename_i simulated
      obtain ⟨failedAt, failed, timely⟩ := simulating simulated
      apply continues_noted _ fallback
      intro other follows
      obtain rfl := List.mem_singleton.mp follows
      exact Or.inr ⟨failedAt, world.now, note_log _ failed, noted _, timely⟩
    · exact continues_idle fallback (by simp [Backed])
  | check transactionId transaction stored =>
    simp only [authorized]
    split
    · exact continues_idle fallback (follow_undecided unanswered)
    · exact continues_idle fallback (by simpa [Backed, Unanswered] using unanswered)
  | retry transactionId => exact continues_idle fallback (by simp [authorized, Backed])

/-- The step after a failed token request. -/
theorem continues_fallback {purpose : Purpose} (unanswered : Unanswered purpose) :
    Continues world
      (authorized (world.note (.tokenFailed world.now)).simulate SANDBOX_MOCK_TOKEN purpose).1
      (authorized (world.note (.tokenFailed world.now)).simulate SANDBOX_MOCK_TOKEN purpose).2 := by
  have failed : Event.tokenFailed world.now ∈
      (world.note (.tokenFailed world.now)).simulate.log := noted _
  have fallback : Fallback (world.note (.tokenFailed world.now)).simulate :=
    fun _ => ⟨world.now, failed, le_refl _, rfl⟩
  have simulating : Simulating (world.note (.tokenFailed world.now)).simulate := by
    refine ⟨world.now, failed, le_refl _, ?_⟩
    show world.now < world.now + MOCK_TOKEN_TTL_MS
    simp [MOCK_TOKEN_TTL_MS]
  have onward := continues_authorized SANDBOX_MOCK_TOKEN fallback (fun _ => simulating) unanswered
  have first : world.log ⊆ (world.note (.tokenFailed world.now)).simulate.log := note_log _
  exact ⟨fun _ member => onward.grows (first member), onward.fallback, onward.backed⟩

/-- Asking for a token continues. -/
theorem continues_authorizing (live : config.credentialsSet = true) (real : config.momoMock = false)
    {purpose : Purpose} (fallback : Fallback world) (unanswered : Unanswered purpose)
    (answer : Answer) :
    Continues world (perform config world (.authorizing purpose) answer).1
      (perform config world (.authorizing purpose) answer).2 := by
  simp only [perform]
  split
  · rename_i token cached
    obtain ⟨stored, alive⟩ := Option.filter_eq_some_iff.mp cached
    apply continues_authorized token fallback ?_ unanswered
    rintro rfl
    obtain ⟨failedAt, failed, earlier, lapses⟩ := fallback stored
    have before : world.now < world.tokenExpiry := of_decide_eq_true alive
    exact ⟨failedAt, failed, earlier, by omega⟩
  · rw [if_neg (by simp [live, real])]
    exact continues_idle fallback (by simpa [Backed] using unanswered)

/-- Waiting for another's token continues. -/
theorem continues_awaitingToken {purpose : Purpose}
    (unanswered : Unanswered purpose) (answer : Answer) :
    Continues world (perform config world (.awaitingToken purpose) answer).1
      (perform config world (.awaitingToken purpose) answer).2 := by
  cases answer with
  | token value expiresIn =>
    simp only [perform]
    split
    · exact continues_fallback unanswered
    · have genuine : Fallback (world.cacheToken value.val (world.now + (expiresIn - 300) * 1000)) :=
        fun reserved => absurd (Option.some.inj reserved) value.property
      have onward := continues_authorized value.val genuine
        (fun reserved => absurd reserved value.property) unanswered
      exact ⟨onward.grows, onward.fallback, onward.backed⟩
  | _ => exact continues_fallback unanswered

/-- The answer to a posted request continues. -/
theorem continues_posting (transactionId : Nat) (fallback : Fallback world) (answer : Answer) :
    Continues world (perform config world (.posting transactionId) answer).1
      (perform config world (.posting transactionId) answer).2 := by
  cases answer with
  | rejected message =>
    apply continues_noted _ fallback
    intro other follows
    obtain rfl := List.mem_singleton.mp follows
    exact explained_of_refused (.inl (noted _))
  | lost message =>
    apply continues_noted _ fallback
    intro other follows
    obtain rfl := List.mem_singleton.mp follows
    exact explained_of_unheard (.inl (noted _))
  | _ => exact continues_idle fallback (by simp [perform, Backed])

/-- The entry in the audit trail continues. -/
theorem continues_auditing (transactionId : Nat) (fallback : Fallback world) (answer : Answer) :
    Continues world (perform config world (.auditing transactionId) answer).1
      (perform config world (.auditing transactionId) answer).2 := by
  cases answer with
  | lost message =>
    apply continues_noted _ fallback
    intro other follows
    obtain rfl := List.mem_singleton.mp follows
    exact explained_of_unheard (.inr (.inl (noted _)))
  | _ => exact continues_idle fallback (by simp [perform])

/-- Only without a row for the poller's reference does a lost answer fail the
transaction. -/
theorem follow_lost {now : Int} {transactionId : Nat} {transaction : MomoTransaction}
    {stored : Option MomoTransaction} (undecided : Undecided stored)
    (lost : .checkFailed transactionId stored.isSome ∈ log) :
    ∀ other ∈ follow now transactionId transaction ((stored.map storedVerdict).getD (.failed none)),
      Backed log other := by
  cases stored with
  | none =>
    apply follow_backed
    · intro given same
      cases same
    · intro reason same
      exact explained_of_unheard (.inr (.inr lost))
  | some row => exact follow_undecided undecided

/-- The answer to a status check continues. -/
theorem continues_getting {transactionId : Nat} {transaction : MomoTransaction}
    {stored : Option MomoTransaction} (fallback : Fallback world) (undecided : Undecided stored)
    (answer : Answer) :
    Continues world (perform config world (.getting transactionId transaction stored) answer).1
      (perform config world (.getting transactionId transaction stored) answer).2 := by
  cases answer with
  | status status financialTransactionId reason =>
    cases status with
    | SUCCESSFUL =>
      have following : ∀ other ∈ follow world.now transactionId transaction
          (.successful financialTransactionId),
          Backed (world.note (.reportedSuccessful transactionId)).log other := by
        refine follow_backed ?_ ?_
        · intro given same
          exact Or.inl (noted _)
        · intro reason same
          cases same
      exact continues_noted _ fallback following
    | FAILED =>
      have following : ∀ other ∈ follow world.now transactionId transaction (.failed reason),
          Backed (world.note (.reportedFailed transactionId)).log other := by
        refine follow_backed ?_ ?_
        · intro given same
          cases same
        · intro reason same
          exact explained_of_refused (.inr (noted _))
      exact continues_noted _ fallback following
    | other => exact continues_idle fallback (by simp [perform])
  | rejected message => exact continues_noted _ fallback (follow_lost undecided (noted _))
  | lost message => exact continues_noted _ fallback (follow_lost undecided (noted _))
  | accepted => exact continues_idle fallback (by simp [perform])
  | token value expiresIn => exact continues_idle fallback (by simp [perform])

/-- Only a successful row says success. -/
theorem storedVerdict_successful {row : MomoTransaction} {financialTransactionId : Option String}
    (verdict : storedVerdict row = .successful financialTransactionId) : row.status = .SUCCESSFUL := by
  unfold storedVerdict at verdict
  split at verdict
  · assumption
  · cases verdict
  · cases verdict

/-- Only a failed row says failure. -/
theorem storedVerdict_failed {row : MomoTransaction} {reason : Option String}
    (verdict : storedVerdict row = .failed reason) : row.status = .FAILED := by
  unfold storedVerdict at verdict
  split at verdict
  · cases verdict
  · assumption
  · cases verdict

/-- A poll repeats what the tables already account for, or asks the gateway. -/
theorem continues_polling (sound : Sound world) (transactionId : Nat)
    (transaction : MomoTransaction) (answer : Answer) :
    Continues world (perform config world (.polling transactionId transaction) answer).1
      (perform config world (.polling transactionId transaction) answer).2 := by
  have stored : ∀ verdict, ((findByReference world transactionId transaction).map
      storedVerdict).getD .undecided = verdict → verdict ≠ .undecided →
      ∃ row, world.transactions[transactionId]? = some row ∧ storedVerdict row = verdict := by
    intro verdict found decided
    cases reference : findByReference world transactionId transaction with
    | none =>
      rw [reference] at found
      exact absurd found.symm decided
    | some row =>
      rw [reference] at found
      exact ⟨row, (Option.filter_eq_some_iff.mp reference).1, found⟩
  simp only [perform]
  split
  · rename_i undecided
    apply continues_idle sound.fallback
    intro other follows
    obtain rfl := List.mem_singleton.mp follows
    exact undecided
  · apply continues_idle sound.fallback
    refine follow_backed ?_ ?_
    · intro given same
      obtain ⟨row, found, verdict⟩ := stored _ same (by simp)
      exact sound.accounted.successful transactionId row found (storedVerdict_successful verdict)
    · intro reason same
      obtain ⟨row, found, verdict⟩ := stored _ same (by simp)
      exact sound.accounted.failed transactionId row found (storedVerdict_failed verdict)

/-- Every task of a sound world continues it. -/
theorem perform_continues (live : config.credentialsSet = true) (real : config.momoMock = false)
    (sound : Sound world) {task : Task} (present : task ∈ world.tasks) (answer : Answer) :
    Continues world (perform config world task answer).1 (perform config world task answer).2 := by
  have backed := sound.tasks task present
  have later := written_later (perform_written config world task answer)
  cases task with
  | authorizing purpose => exact continues_authorizing live real sound.fallback backed answer
  | awaitingToken purpose => exact continues_awaitingToken backed answer
  | posting transactionId => exact continues_posting transactionId sound.fallback answer
  | auditing transactionId => exact continues_auditing transactionId sound.fallback answer
  | polling transactionId transaction => exact continues_polling sound transactionId transaction answer
  | getting transactionId transaction stored => exact continues_getting sound.fallback backed answer
  | timer transactionId transaction due =>
    exact continues_idle sound.fallback (by simpa [perform, Backed] using backed)
  | confirming transactionId transaction financialTransactionId =>
    exact continues_idle sound.fallback (by simpa [perform, Backed] using backed)
  | retrying transactionId transaction =>
    simp only [perform]
    split
    · exact continues_idle sound.fallback (by simp)
    · exact continues_silent sound.fallback rfl rfl rfl (le_refl _) (by simp [Backed, Unanswered])
  | totalling cycleId cycle dto =>
    refine continues_silent sound.fallback rfl rfl rfl later ?_
    simp only [perform]
    split
    · simp [Backed]
    · simp
  | _ => exact continues_silent sound.fallback rfl rfl rfl later (by simp [perform, Backed])

/-! Steps of the system -/

/-- Tasks that are opened carry no outcome. -/
theorem arrival_backed {task : Task} (arrives : Arrival world task) : Backed log task := by
  cases arrives with
  | poll transactionId row found pending => trivial
  | retry transactionId row found failed => trivial
  | record cycleId cycle dto => trivial

/-- Every step of a sound world continues it. -/
theorem step_continues (live : config.credentialsSet = true) (real : config.momoMock = false)
    (sound : Sound world) (moved : step config world action = some next) :
    Continues world next next.tasks := by
  have opened : ∀ task : Task, (∀ log, Backed log task) →
      ∀ other ∈ world.tasks ++ [task], Backed world.log other := by
    intro task backed other member
    cases List.mem_append.mp member with
    | inl kept => exact sound.tasks other kept
    | inr added =>
      obtain rfl := List.mem_singleton.mp added
      exact backed _
  cases step_transition moved with
  | idle => exact continues_idle sound.fallback sound.tasks
  | stored action transaction pending exclusive =>
    exact continues_silent sound.fallback rfl rfl rfl (le_refl _) (opened _ fun _ => trivial)
  | arrival action task arrives =>
    exact continues_silent sound.fallback rfl rfl rfl (le_refl _)
      (opened task fun _ => arrival_backed arrives)
  | background operation unrelated =>
    exact continues_silent sound.fallback rfl rfl rfl (sameLedger_operate unrelated).later sound.tasks
  | proceed task answer present ready =>
    obtain ⟨grows, fallback, backed⟩ := perform_continues live real sound present answer
    refine ⟨grows, fallback, ?_⟩
    intro other member
    cases mem_continued member with
    | inl kept => exact (sound.tasks other kept).mono grows
    | inr follows => exact backed other follows
  | abandon task =>
    refine continues_silent sound.fallback rfl rfl rfl (le_refl _) ?_
    exact fun other member => sound.tasks other (List.mem_of_mem_erase member)

/-- An outcome of the next state is an earlier one, or is what a task has carried. -/
theorem accounted_step (sound : Sound world) (grows : world.log ⊆ next.log)
    (moved : step config world action = some next) : Accounted next where
  successful := by
    intro transactionId after later successful
    cases row_step moved later with
    | kept found => exact (sound.accounted.successful transactionId after found successful).mono grows
    | created last pending exclusive => simp [pending] at successful
    | changed task answer row taken present found change =>
      cases change with
      | same => exact (sound.accounted.successful transactionId _ found successful).mono grows
      | failed failureReason => cases successful
      | rejected transaction reason => cases successful
      | retried transaction => cases successful
      | credited transaction cycle financialTransactionId =>
        have confirmed : Confirmed world.log transactionId := sound.tasks _ present
        exact confirmed.mono grows
      | cancelled cycleId pending => cases successful
  credited := by
    intro transactionId positive
    cases credits_step moved transactionId with
    | inl less =>
      have before : 0 < credits world.billing transactionId := lt_of_lt_of_le positive less
      exact (sound.accounted.credited transactionId before).mono grows
    | inr credited =>
      obtain ⟨transaction, cycle, financialTransactionId, answer, present, _, _⟩ := credited
      have confirmed : Confirmed world.log transactionId := sound.tasks _ present
      exact confirmed.mono grows
  failed := by
    intro transactionId after later failed
    cases row_step moved later with
    | kept found => exact (sound.accounted.failed transactionId after found failed).mono grows
    | created last pending exclusive => simp [pending] at failed
    | changed task answer row taken present found change =>
      cases change with
      | same => exact (sound.accounted.failed transactionId _ found failed).mono grows
      | failed failureReason =>
        have explained : Explained world.log transactionId := sound.tasks _ present
        exact explained.mono grows
      | rejected transaction reason =>
        have explained : Explained world.log transactionId := sound.tasks _ present
        exact explained.mono grows
      | retried transaction => cases failed
      | credited transaction cycle financialTransactionId => cases failed
      | cancelled cycleId pending => cases failed

/-- Every step keeps the world sound. -/
theorem sound_step (live : config.credentialsSet = true) (real : config.momoMock = false)
    (sound : Sound world) (moved : step config world action = some next) : Sound next := by
  obtain ⟨grows, fallback, backed⟩ := step_continues live real sound moved
  exact ⟨accounted_step sound grows moved, fallback, backed⟩

/-- A fresh world without a token is sound. -/
theorem sound_fresh (fresh : Fresh world) (noToken : world.accessToken = none) : Sound world where
  accounted :=
    { successful := by simp [fresh.noTransactions]
      credited := by simp [fresh.noCredits]
      failed := by simp [fresh.noTransactions] }
  fallback := by simp [Fallback, noToken]
  tasks := by simp [fresh.noTasks]

end EmotoFleet.MomoConfirmation
