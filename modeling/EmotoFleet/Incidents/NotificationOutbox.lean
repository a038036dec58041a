import EmotoFleet.Access.FleetTables
import EmotoFleet.Foundations.CanonicalJson
import EmotoFleet.Foundations.JobQueues
import EmotoFleet.Foundations.Runs
import EmotoFleet.Foundations.Tables
import Mathlib.Data.List.Perm.Subperm
import Mathlib.Data.List.Sort

/-!
# The outbox of notifications

A notification is a row of a table, and a job of a queue is to dispatch it. A worker reads
the row, counts the attempt, sends, and marks the row as sent; only a row that is pending
when it is read is sent at all. A failed job marks a pending row as failed. At a restart the
pending rows are added to the queue again.

The last update of a worker does not look at the row again. Two attempts at one notification
that overlap therefore send it twice, and one that overlaps a failure undoes it. The restart
adds at most 500 rows, and none whose job the queue still holds.

The queue is a service of its own, of which only the identifiers of its jobs are described.
Which jobs it hands to workers, how often and in which order, is left open, and so is when
it tells of failed ones. In the inline mode there is no queue: whoever adds a notification
dispatches it, and at a restart one after the other.
-/

namespace EmotoFleet.NotificationOutbox

open CanonicalJson JobQueues Runs Tables
open EmotoFleet.Access (Id)

/-- How often a job is tried, how long it waits, how many rows a restart reads, and the names of
jobs. -/
def NOTIFICATION_ATTEMPTS : Nat := 3

def NOTIFICATION_BACKOFF_DELAY_MS : Nat := 2000

def PENDING_NOTIFICATION_BOOTSTRAP_LIMIT : Nat := 500

def NOTIFICATION_JOB_PREFIX : String := "notification-"

/-- The types of notifications. -/
inductive NotificationType where
  | CRASH_ALERT
  | THEFT_ALERT
  | SOS_ALERT
  | DELIVERY_UPDATE
  deriving DecidableEq

/-- The channels that a notification may take. -/
inductive NotificationChannel where
  | SMS
  | EMAIL
  | WEBHOOK
  deriving DecidableEq

/-- The statuses of a notification. -/
inductive NotificationStatus where
  | PENDING
  | SENT
  | FAILED
  deriving DecidableEq

/-- A row of the outbox. -/
structure Notification where
  id : Id
  fleetId : Id
  type : NotificationType
  channel : NotificationChannel
  recipient : String
  payloadJson : Json ℚ
  status : NotificationStatus
  attemptCount : Nat
  partnerWebhookId : Option Id
  errorMessage : Option String
  createdAt : Int
  sentAt : Option Int

/-- What the provider is given. -/
structure NotificationDispatchInput where
  id : Id
  fleetId : Id
  type : NotificationType
  channel : NotificationChannel
  recipient : String
  payloadJson : Json ℚ
  partnerWebhookId : Option Id
  attemptCount : Nat

/-- What the dispatcher gets of a row. -/
def dispatchInput (notification : Notification) : NotificationDispatchInput where
  id := notification.id
  fleetId := notification.fleetId
  type := notification.type
  channel := notification.channel
  recipient := notification.recipient
  payloadJson := notification.payloadJson
  partnerWebhookId := notification.partnerWebhookId
  attemptCount := notification.attemptCount + 1

/-! The table -/

/-- The rows of the table, each with an identity of its own. -/
structure Outbox where
  rows : List Notification
  distinct : (rows.map (·.id)).Nodup

namespace Outbox

variable (outbox : Outbox)

/-- A row of another service. One with an identity that is taken is refused. -/
def create (row : Notification) : Outbox :=
  if taken : row.id ∈ outbox.rows.map (·.id) then outbox
  else
    { rows := outbox.rows ++ [{ row with status := .PENDING, attemptCount := 0,
                                         errorMessage := none, sentAt := none }]
      distinct := (unique_append_iff _).mpr ⟨outbox.distinct, taken⟩ }

/-- The outbox after a change of one row. -/
def update (id : Id) (change : Notification → Notification) : Outbox where
  rows := updateKey (·.id) id (fun row => { change row with id := row.id }) outbox.rows
  distinct := by
    have kept : ∀ row, ({ change row with id := row.id } : Notification).id = row.id := fun _ => rfl
    rw [map_updateKey kept]
    exact outbox.distinct

/-- An update of the row if it is pending. -/
def updatePending (id : Id) (change : Notification → Notification) : Outbox :=
  outbox.update id fun row => if row.status = .PENDING then change row else row

/-- A row by its identity. -/
def findUnique (id : Id) : Option Notification :=
  outbox.rows.find? fun row => row.id == id

end Outbox

/-- The identities of the oldest pending rows. Rows of one instant come in any order, which
an argument tells. -/
def oldestPending (outbox : Outbox) (tie : Id → Nat) : List Id :=
  (((outbox.rows.filter fun row => row.status == .PENDING).mergeSort fun left right =>
      decide (left.createdAt < right.createdAt) ||
        (decide (left.createdAt = right.createdAt) && decide (tie left.id ≤ tie right.id))).take
    PENDING_NOTIFICATION_BOOTSTRAP_LIMIT).map (·.id)

/-! The queue -/

/-- A job of the queue, with its options. -/
structure Job where
  name : String
  notificationId : Id
  attempts : Nat
  delay : Nat
  removeOnComplete : Bool
  removeOnFail : Nat

/-- The name of the job of a notification. -/
def jobIdForNotification (notificationId : Id) : String := NOTIFICATION_JOB_PREFIX ++ notificationId

/-- The job that dispatches a notification. -/
def dispatchJob (notificationId : Id) : Job where
  name := "dispatch-notification"
  notificationId := notificationId
  attempts := NOTIFICATION_ATTEMPTS
  delay := NOTIFICATION_BACKOFF_DELAY_MS
  removeOnComplete := true
  removeOnFail := 1000

/-- The notification of a job; other jobs and an empty identity have none. -/
def parseNotificationIdFromJob (jobId : String) : Option Id :=
  if NOTIFICATION_JOB_PREFIX.toList.isPrefixOf jobId.toList then
    Accounts.given (some (String.ofList (jobId.toList.drop NOTIFICATION_JOB_PREFIX.length)))
  else none

/-! The processing of a notification -/

/-- Where it stands: before the search, the update that counts the attempt, the dispatch,
the update that marks it, the audit row, or the update after a failure inline. -/
inductive Stage where
  | searching
  | counting (notification : Notification)
  | sending (notification : Notification)
  | marking (notification : Notification)
  | auditing
  | failing (reason : String)

/-- The processing of one notification, and what the caller processes after it. -/
structure Call where
  notificationId : Id
  stage : Stage
  inline : Bool
  remaining : List Id

/-- The table, the queue and what is under way, here or in another process. What the
provider was given is a note of the model. -/
structure World (σ : Type) where
  outbox : Outbox
  queue : σ
  calls : List Call
  dispatched : List NotificationDispatchInput

/-- What happens to the outbox, the queue and the calls. -/
inductive Action (σ : Type) where
  | createNotification (row : Notification)
  | enqueueNotification (notificationId : Id)
  | enqueuePendingNotifications (tie : Id → Nat)
  | queue (state : σ)
  | deliver (notificationId : Id)
  | proceed (position : Nat) (now : Int)
  | fail (position : Nat) (reason : String)
  | handleFailedJob (jobId : Option String) (reason : String) (attemptsMade : Int)

/-- What the caller processes next, if anything. -/
def Call.next (call : Call) : Option Call :=
  match call.remaining with
  | [] => none
  | notificationId :: remaining => some ⟨notificationId, .searching, call.inline, remaining⟩

/-- A row whose dispatch has failed for good. -/
def failedRow (message : String) (row : Notification) : Notification :=
  { row with status := .FAILED, errorMessage := some (String.ofList (message.toList.take 1000)) }

section Steps

variable (outbox : Outbox)

/-- One access of `processNotificationJob`, or of the update after a failure, that succeeds:
the table, what is sent, and where the call stands then. -/
def Call.proceed (call : Call) (now : Int) :
    Outbox × List NotificationDispatchInput × Option Call :=
  match call.stage with
  | .searching =>
    match outbox.findUnique call.notificationId with
    | none => (outbox, [], call.next)
    | some notification =>
      if notification.status ≠ .PENDING then (outbox, [], call.next)
      else (outbox, [], some { call with stage := .counting notification })
  | .counting notification =>
    (outbox.update notification.id fun row =>
        { row with attemptCount := row.attemptCount + 1, errorMessage := none },
      [], some { call with stage := .sending notification })
  | .sending notification =>
    (outbox, [dispatchInput notification], some { call with stage := .marking notification })
  | .marking notification =>
    (outbox.update notification.id fun row =>
        { row with status := .SENT, sentAt := some now, errorMessage := none },
      [], if notification.channel = .WEBHOOK then some { call with stage := .auditing } else call.next)
  | .auditing => (outbox, [], call.next)
  | .failing reason =>
    (outbox.updatePending call.notificationId (failedRow reason), [], call.next)

/-- Where a call stands after an error: inline the failure is recorded, and otherwise the job
fails. -/
def Call.caught (call : Call) (reason : String) : Option Call :=
  if call.inline then some { call with stage := .failing reason } else none

/-- An access that fails. A dispatch that fails may have been sent, and a failure that cannot
be recorded ends the call. -/
def Call.fail (call : Call) (reason : String) : List NotificationDispatchInput × Option Call :=
  match call.stage with
  | .sending notification => ([dispatchInput notification], call.caught reason)
  | .failing _ => ([], none)
  | _ => ([], call.caught reason)

/-- A failed job marks its notification as failed after the last attempt. -/
def handleFailedJob (jobId : Option String) (reason : String) (attemptsMade : Int) : Outbox :=
  match (Accounts.given jobId).bind parseNotificationIdFromJob with
  | none => outbox
  | some notificationId =>
    if attemptsMade < NOTIFICATION_ATTEMPTS then
      outbox.updatePending notificationId fun row =>
        { row with
          errorMessage := some ("Retry " ++ toString attemptsMade ++ "/" ++
            toString NOTIFICATION_ATTEMPTS ++ ": " ++ String.ofList (reason.toList.take 900)) }
    else outbox.updatePending notificationId (failedRow reason)

variable {σ : Type} (inlineMode : Bool) (service : JobQueue σ String Job)

/-- Notifications are handed to the queue, or to one caller in the inline mode. -/
def enqueueAll (world : World σ) (notificationIds : List Id) : World σ :=
  if inlineMode then
    { world with
      calls := (Call.next ⟨"", .searching, true, notificationIds⟩).toList ++ world.calls }
  else
    { world with
      queue := service.addAll jobIdForNotification dispatchJob world.queue notificationIds }

/-- The world after an action. -/
def occur : World σ → Action σ → World σ
  | world, .createNotification row => { world with outbox := world.outbox.create row }
  | world, .enqueueNotification notificationId =>
    enqueueAll inlineMode service world [notificationId]
  | world, .enqueuePendingNotifications tie =>
    enqueueAll inlineMode service world (oldestPending world.outbox tie)
  | world, .queue state => { world with queue := state }
  | world, .deliver notificationId =>
    { world with calls := ⟨notificationId, .searching, false, []⟩ :: world.calls }
  | world, .proceed position now =>
    match world.calls[position]? with
    | none => world
    | some call =>
      let (outbox, sent, after) := call.proceed world.outbox now
      { world with
        outbox
        calls := after.toList ++ world.calls.eraseIdx position
        dispatched := world.dispatched ++ sent }
  | world, .fail position reason =>
    match world.calls[position]? with
    | none => world
    | some call =>
      let (sent, after) := call.fail reason
      { world with
        calls := after.toList ++ world.calls.eraseIdx position
        dispatched := world.dispatched ++ sent }
  | world, .handleFailedJob jobId reason attemptsMade =>
    { world with outbox := handleFailedJob world.outbox jobId reason attemptsMade }

end Steps

/-! What is to hold -/

section Specification

variable {σ : Type} (inlineMode : Bool) (service : JobQueue σ String Job)

/-- The job of a notification awaits a worker; inline a caller is at it or comes to it. -/
def World.Enqueued (world : World σ) (id : Id) : Prop :=
  if inlineMode then ∃ call ∈ world.calls, id ∈ call.notificationId :: call.remaining
  else service.awaits world.queue (jobIdForNotification id) = true

/-- Every pending notification is enqueued at a restart, and one that was sent or failed
keeps its status and is not dispatched. -/
structure Specified (world : World σ) (action : Action σ) (next : World σ) : Prop where
  recovered : ∀ tie, action = .enqueuePendingNotifications tie →
    ∀ row ∈ world.outbox.rows, row.status = .PENDING → next.Enqueued inlineMode service row.id
  kept : ∀ row ∈ world.outbox.rows, row.status ≠ .PENDING →
    ∃ later ∈ next.outbox.rows, later.id = row.id ∧ later.status = row.status
  unsent : ∀ row ∈ world.outbox.rows, row.status ≠ .PENDING →
    (next.dispatched.countP fun input => input.id == row.id) =
      world.dispatched.countP fun input => input.id == row.id

/-- A call at a stage goes on without harm while its notification has the status: up to the
dispatch it has to be pending, up to the last update it must not have failed. -/
def Stage.allows : Stage → NotificationStatus → Prop
  | .counting _, status => status = .PENDING
  | .sending _, status => status = .PENDING
  | .marking _, status => status ≠ .FAILED
  | .searching, _ => True
  | .auditing, _ => True
  | .failing _, _ => True

/-- The notification that a call is about to give its last status, and that status. -/
def Call.finalises (call : Call) : Option (Id × NotificationStatus) :=
  match call.stage with
  | .marking notification => some (notification.id, .SENT)
  | .failing _ => some (call.notificationId, .FAILED)
  | _ => none

/-- The row that an action gives its last status, with that status. -/
def World.finalises (world : World σ) : Action σ → Option (Id × NotificationStatus)
  | .proceed position _ => (world.calls[position]?).bind Call.finalises
  | .handleFailedJob jobId _ attemptsMade =>
    if attemptsMade < NOTIFICATION_ATTEMPTS then none
    else ((Accounts.given jobId).bind parseNotificationIdFromJob).map fun id => (id, .FAILED)
  | _ => none

/-- The calls that an action does not advance. -/
def World.others (world : World σ) : Action σ → List Call
  | .proceed position _ => world.calls.eraseIdx position
  | _ => world.calls

/-- A restart finds every pending notification enqueued, or among the oldest ones and
without a job that the queue keeps. When a pending notification is given its last status, no
other attempt at it is before a step that the status rules out. -/
structure Undisturbed (world : World σ) (action : Action σ) (_next : World σ) : Prop where
  recoverable : ∀ tie, action = .enqueuePendingNotifications tie →
    ∀ row ∈ world.outbox.rows, row.status = .PENDING →
      world.Enqueued inlineMode service row.id ∨
        row.id ∈ oldestPending world.outbox tie ∧
          (inlineMode = true ∨ service.holds world.queue (jobIdForNotification row.id) = false)
  alone : ∀ id status, world.finalises action = some (id, status) →
    (∃ row ∈ world.outbox.rows, row.id = id ∧ row.status = .PENDING) →
      ∀ call ∈ world.others action, call.notificationId = id → call.stage.allows status

end Specification

/-! The restart -/

section Restart

variable {σ : Type} {inlineMode : Bool} {service : JobQueue σ String Job}

/-- Two notifications have two jobs. -/
theorem jobIdForNotification_injective : Function.Injective jobIdForNotification :=
  fun _ _ same => by simpa [jobIdForNotification] using same

/-- What is enqueued after notifications were handed over. -/
theorem enqueued_enqueueAll_iff (world : World σ) (ids : List Id) (id : Id) :
    (enqueueAll inlineMode service world ids).Enqueued inlineMode service id ↔
      world.Enqueued inlineMode service id ∨
        id ∈ ids ∧
          (inlineMode = true ∨ service.holds world.queue (jobIdForNotification id) = false) := by
  cases inlineMode with
  | true =>
    rw [enqueueAll, if_pos rfl, World.Enqueued, World.Enqueued, if_pos rfl, if_pos rfl]
    cases ids with
    | nil => simp [Call.next]
    | cons first rest => simp [Call.next, or_comm]
  | false =>
    have listed : jobIdForNotification id ∈ ids.map jobIdForNotification ↔ id ∈ ids :=
      List.mem_map_of_injective jobIdForNotification_injective
    rw [enqueueAll, World.Enqueued, World.Enqueued]
    simp only [Bool.false_eq_true, if_false, false_or]
    rw [service.awaits_addAll, listed]

/-- Up to the limit all pending rows are read. -/
theorem mem_oldestPending_of_few {outbox : Outbox} (tie : Id → Nat)
    (few : outbox.rows.countP (fun row => row.status == .PENDING) ≤
      PENDING_NOTIFICATION_BOOTSTRAP_LIMIT) {row : Notification} (stored : row ∈ outbox.rows)
    (pending : row.status = .PENDING) : row.id ∈ oldestPending outbox tie := by
  rw [List.countP_eq_length_filter] at few
  rw [oldestPending, List.take_of_length_le (by rw [List.length_mergeSort]; exact few)]
  exact List.mem_map_of_mem ((List.mergeSort_perm _ _).mem_iff.mpr
    (List.mem_filter.mpr ⟨stored, beq_iff_eq.mpr pending⟩))

/-- A restart that finds nothing enqueued recovers no more than the limit. -/
theorem recovered_le {world : World σ} {tie : Id → Nat}
    (idle : ∀ id, ¬ world.Enqueued inlineMode service id)
    (recovered : ∀ row ∈ world.outbox.rows, row.status = .PENDING →
      (occur inlineMode service world (.enqueuePendingNotifications tie)).Enqueued inlineMode
        service row.id) :
    world.outbox.rows.countP (fun row => row.status == .PENDING) ≤
      PENDING_NOTIFICATION_BOOTSTRAP_LIMIT := by
  have distinct : ((world.outbox.rows.filter fun row => row.status == .PENDING).map (·.id)).Nodup :=
    world.outbox.distinct.sublist (List.filter_sublist.map _)
  have read : ((world.outbox.rows.filter fun row => row.status == .PENDING).map (·.id)) ⊆
      oldestPending world.outbox tie := by
    intro id listed
    obtain ⟨row, chosen, rfl⟩ := List.mem_map.mp listed
    obtain ⟨stored, pending⟩ := List.mem_filter.mp chosen
    have onItsWay := (enqueued_enqueueAll_iff world _ row.id).mp
      (recovered row stored (beq_iff_eq.mp pending))
    exact (onItsWay.resolve_left (idle row.id)).1
  have fewer := (List.subperm_of_subset distinct read).length_le
  rw [List.length_map, ← List.countP_eq_length_filter, oldestPending, List.length_map,
    List.length_take] at fewer
  exact fewer.trans (min_le_left _ _)

end Restart

/-! The processing -/

section Processing

variable {outbox before after : Outbox} {call : Call} {final : Option (Id × NotificationStatus)}

/-- The row that a call has found. -/
def Stage.notification? : Stage → Option Notification
  | .counting notification => some notification
  | .sending notification => some notification
  | .marking notification => some notification
  | .searching => none
  | .auditing => none
  | .failing _ => none

/-- A call is about its own notification and goes on without harm. -/
structure CallSound (outbox : Outbox) (call : Call) : Prop where
  named : ∀ notification, call.stage.notification? = some notification →
    notification.id = call.notificationId
  allowed : ∀ row ∈ outbox.rows, row.id = call.notificationId → call.stage.allows row.status

/-- Rows keep their statuses, but a pending one may get the last status that is told of; new
rows are pending. -/
structure Moves (before after : Outbox) (final : Option (Id × NotificationStatus)) : Prop where
  onward : ∀ row ∈ before.rows, ∃ later ∈ after.rows, later.id = row.id ∧
    (later.status = row.status ∨ row.status = .PENDING)
  origin : ∀ later ∈ after.rows, later.status = .PENDING ∨
    ∃ row ∈ before.rows, row.id = later.id ∧
      (later.status = row.status ∨ row.status = .PENDING ∧ final = some (row.id, later.status))

/-- An outbox that does not change moves as it should. -/
theorem Moves.refl (outbox : Outbox) (final : Option (Id × NotificationStatus)) :
    Moves outbox outbox final where
  onward row stored := ⟨row, stored, rfl, .inl rfl⟩
  origin later stored := .inr ⟨later, stored, rfl, .inl rfl⟩

/-- A new row moves none of the others. -/
theorem moves_create (outbox : Outbox) (row : Notification) :
    Moves outbox (outbox.create row) none := by
  rw [Outbox.create]
  split
  case isTrue => exact Moves.refl outbox none
  case isFalse =>
    constructor
    case onward => exact fun old stored => ⟨old, List.mem_append_left _ stored, rfl, .inl rfl⟩
    case origin =>
      intro later stored
      cases List.mem_append.mp stored with
      | inl old => exact .inr ⟨later, old, rfl, .inl rfl⟩
      | inr new =>
        rw [List.mem_singleton.mp new]
        exact .inl rfl

/-- What an update of one row comes to. -/
theorem moves_update {id : Id} {change : Notification → Notification}
    (changed : ∀ row ∈ outbox.rows, row.id = id →
      (change row).status = row.status ∨
        row.status = .PENDING ∧ final = some (id, (change row).status)) :
    Moves outbox (outbox.update id change) final := by
  constructor
  case onward =>
    intro row stored
    by_cases own : row.id = id
    case neg => exact ⟨row, mem_updateKey.mpr (.inr ⟨stored, own⟩), rfl, .inl rfl⟩
    case pos =>
      refine ⟨{ change row with id := row.id }, mem_updateKey.mpr (.inl ⟨row, stored, own, rfl⟩),
        rfl, ?_⟩
      exact (changed row stored own).imp_right (·.1)
  case origin =>
    intro later stored
    rcases mem_updateKey.mp stored with ⟨row, old, own, rfl⟩ | ⟨old, _⟩
    case inl =>
      refine .inr ⟨row, old, rfl, ?_⟩
      rw [own]
      exact changed row old own
    case inr => exact .inr ⟨later, old, rfl, .inl rfl⟩

/-- An update of pending rows moves them to the status that is told. -/
theorem moves_updatePending {id : Id} {change : Notification → Notification}
    (changed : ∀ row : Notification, row.status = .PENDING →
      (change row).status = .PENDING ∨ final = some (id, (change row).status)) :
    Moves outbox (outbox.updatePending id change) final := by
  apply moves_update
  intro row _ _
  by_cases pending : row.status = .PENDING
  case neg => rw [if_neg pending]; exact .inl rfl
  case pos =>
    rw [if_pos pending, pending]
    exact (changed row pending).imp_right fun same => ⟨rfl, same⟩

/-- A pending notification is allowed at every stage. -/
theorem allows_pending (stage : Stage) : stage.allows .PENDING := by
  cases stage with
  | counting notification => rfl
  | sending notification => rfl
  | marking notification => intro same; cases same
  | searching => trivial
  | auditing => trivial
  | failing reason => trivial

/-- A call stays sound where a last status does not rule out how it goes on. -/
theorem CallSound.moves (sound : CallSound before call) (moved : Moves before after final)
    (alone : ∀ status, final = some (call.notificationId, status) →
      (∃ row ∈ before.rows, row.id = call.notificationId ∧ row.status = .PENDING) →
        call.stage.allows status) : CallSound after call := by
  refine ⟨sound.named, ?_⟩
  intro later stored own
  rcases moved.origin later stored with pending | ⟨row, old, same, kept | ⟨pending, told⟩⟩
  case inl => rw [pending]; exact allows_pending call.stage
  case inr.inl => rw [kept]; exact sound.allowed row old (same.trans own)
  case inr.inr =>
    rw [same.trans own] at told
    exact alone later.status told ⟨row, old, same.trans own, pending⟩

/-- A call that has not read its notification is sound. -/
theorem callSound_of_unread (outbox : Outbox) {call : Call}
    (unread : call.stage.notification? = none) : CallSound outbox call := by
  refine ⟨fun notification read => ?_, fun row _ _ => ?_⟩
  case refine_1 => rw [unread] at read; cases read
  case refine_2 =>
    cases staged : call.stage with
    | counting notification => rw [staged] at unread; cases unread
    | sending notification => rw [staged] at unread; cases unread
    | marking notification => rw [staged] at unread; cases unread
    | searching => trivial
    | auditing => trivial
    | failing reason => trivial

/-- A call that goes on stays sound. -/
theorem callSound_next (outbox : Outbox) (call : Call) :
    ∀ after ∈ call.next, CallSound outbox after := by
  intro after following
  rw [Call.next] at following
  split at following
  case h_1 => cases following
  case h_2 =>
    obtain rfl := Option.some.inj following
    exact callSound_of_unread outbox rfl

/-- What one access comes to: how the rows move, that only pending ones are sent, and that
the call stays sound. -/
structure Proceeds (outbox : Outbox) (final : Option (Id × NotificationStatus))
    (result : Outbox × List NotificationDispatchInput × Option Call) : Prop where
  moved : Moves outbox result.1 final
  sent : ∀ input ∈ result.2.1, ∀ row ∈ outbox.rows, row.id = input.id → row.status = .PENDING
  sound : ∀ after ∈ result.2.2, CallSound result.1 after

/-- The call is left, with the table as it is. -/
theorem proceeds_leaving (outbox : Outbox) (call : Call) :
    Proceeds outbox none (outbox, [], call.next) where
  moved := Moves.refl outbox none
  sent _ absent := (by cases absent)
  sound := callSound_next outbox call

/-- The search of a call changes no row. -/
theorem proceeds_searching (outbox : Outbox) {call : Call} (now : Int)
    (staged : call.stage = .searching) : Proceeds outbox none (call.proceed outbox now) := by
  rw [Call.proceed, staged]
  dsimp only
  cases found : outbox.findUnique call.notificationId with
  | none => exact proceeds_leaving outbox call
  | some notification =>
    dsimp only
    split
    case isTrue => exact proceeds_leaving outbox call
    case isFalse pending =>
      obtain ⟨stored, own⟩ := (find?_key_iff outbox.distinct).mp found
      refine ⟨Moves.refl outbox none, fun _ absent => (by cases absent), ?_⟩
      intro after following
      obtain rfl := Option.some.inj following
      constructor
      case named =>
        intro read same
        rw [← Option.some.inj same]
        exact own
      case allowed =>
        intro row listed same
        rw [eq_of_key_eq outbox.distinct listed stored (same.trans own.symm)]
        exact not_not.mp pending

/-- Counting an attempt changes no status. -/
theorem proceeds_counting {notification : Notification} (sound : CallSound outbox call) (now : Int)
    (staged : call.stage = .counting notification) :
    Proceeds outbox none (call.proceed outbox now) := by
  rw [Call.proceed, staged]
  have moved : Moves outbox (outbox.update notification.id fun row =>
      { row with attemptCount := row.attemptCount + 1, errorMessage := none }) none :=
    moves_update fun row _ _ => .inl rfl
  refine ⟨moved, fun _ absent => (by cases absent), ?_⟩
  intro after following
  obtain rfl := Option.some.inj following
  have counted := sound.moves moved fun _ told => (by cases told)
  refine ⟨fun read same => counted.named read (by rw [staged]; exact same), ?_⟩
  intro row stored own
  have allowed := counted.allowed row stored own
  rw [staged] at allowed
  exact allowed

/-- Sending changes no row. -/
theorem proceeds_sending {notification : Notification} (sound : CallSound outbox call) (now : Int)
    (staged : call.stage = .sending notification) :
    Proceeds outbox none (call.proceed outbox now) := by
  have own : notification.id = call.notificationId := sound.named notification (by rw [staged]; rfl)
  have pending : ∀ row ∈ outbox.rows, row.id = call.notificationId → row.status = .PENDING := by
    intro row stored same
    have allowed := sound.allowed row stored same
    rw [staged] at allowed
    exact allowed
  rw [Call.proceed, staged]
  refine ⟨Moves.refl outbox none, ?_, ?_⟩
  case refine_1 =>
    intro input given row stored same
    rw [List.mem_singleton.mp given] at same
    exact pending row stored (same.trans own)
  case refine_2 =>
    intro after following
    obtain rfl := Option.some.inj following
    refine ⟨fun read same => sound.named read (by rw [staged]; exact same), ?_⟩
    intro row stored same failed
    rw [pending row stored same] at failed
    cases failed

/-- A row that was sent is marked as sent. -/
theorem proceeds_marking {notification : Notification} (sound : CallSound outbox call) (now : Int)
    (staged : call.stage = .marking notification) :
    Proceeds outbox (some (notification.id, .SENT)) (call.proceed outbox now) := by
  have own : notification.id = call.notificationId := sound.named notification (by rw [staged]; rfl)
  rw [Call.proceed, staged]
  refine ⟨moves_update ?_, fun _ absent => (by cases absent), ?_⟩
  case refine_1 =>
    intro row stored same
    have allowed := sound.allowed row stored (same.trans own)
    rw [staged] at allowed
    cases status : row.status with
    | PENDING => exact .inr ⟨rfl, rfl⟩
    | SENT => exact .inl rfl
    | FAILED => exact absurd status allowed
  case refine_2 =>
    intro after following
    dsimp only at following
    split at following
    case isTrue =>
      obtain rfl := Option.some.inj following
      exact callSound_of_unread _ rfl
    case isFalse => exact callSound_next _ call after following

/-- A row that failed is marked as failed. -/
theorem proceeds_failing (outbox : Outbox) {call : Call} {reason : String} (now : Int)
    (staged : call.stage = .failing reason) :
    Proceeds outbox (some (call.notificationId, .FAILED)) (call.proceed outbox now) := by
  rw [Call.proceed, staged]
  exact ⟨moves_updatePending fun row _ => .inr rfl, fun _ absent => (by cases absent),
    callSound_next _ call⟩

/-- An access of a sound call, at whatever stage it is. -/
theorem proceeds (sound : CallSound outbox call) (now : Int) :
    Proceeds outbox call.finalises (call.proceed outbox now) := by
  cases staged : call.stage with
  | searching =>
    rw [Call.finalises, staged]
    exact proceeds_searching outbox now staged
  | counting notification =>
    rw [Call.finalises, staged]
    exact proceeds_counting sound now staged
  | sending notification =>
    rw [Call.finalises, staged]
    exact proceeds_sending sound now staged
  | marking notification =>
    rw [Call.finalises, staged]
    exact proceeds_marking sound now staged
  | auditing =>
    rw [Call.finalises, Call.proceed, staged]
    exact proceeds_leaving outbox call
  | failing reason =>
    rw [Call.finalises, staged]
    exact proceeds_failing outbox now staged

/-- A call that has caught an error stays sound. -/
theorem callSound_caught (outbox : Outbox) (call : Call) (reason : String) :
    ∀ after ∈ call.caught reason, CallSound outbox after := by
  intro after following
  rw [Call.caught] at following
  split at following
  case isTrue =>
    obtain rfl := Option.some.inj following
    exact callSound_of_unread outbox rfl
  case isFalse => cases following

/-- An access that fails sends nothing but what was about to be sent. -/
theorem fails (sound : CallSound outbox call) (reason : String) :
    Proceeds outbox none (outbox, call.fail reason) := by
  have caught := callSound_caught outbox call reason
  refine ⟨Moves.refl outbox none, ?_, ?_⟩
  case refine_1 =>
    cases staged : call.stage with
    | sending notification =>
      have sent := (proceeds_sending sound 0 staged).sent
      rw [Call.proceed, staged] at sent
      rw [Call.fail, staged]
      exact sent
    | searching => rw [Call.fail, staged]; exact fun _ absent => (by cases absent)
    | counting notification => rw [Call.fail, staged]; exact fun _ absent => (by cases absent)
    | marking notification => rw [Call.fail, staged]; exact fun _ absent => (by cases absent)
    | auditing => rw [Call.fail, staged]; exact fun _ absent => (by cases absent)
    | failing earlier => rw [Call.fail, staged]; exact fun _ absent => (by cases absent)
  case refine_2 =>
    cases staged : call.stage with
    | failing earlier => rw [Call.fail, staged]; exact fun _ absent => (by cases absent)
    | sending notification => rw [Call.fail, staged]; exact caught
    | searching => rw [Call.fail, staged]; exact caught
    | counting notification => rw [Call.fail, staged]; exact caught
    | marking notification => rw [Call.fail, staged]; exact caught
    | auditing => rw [Call.fail, staged]; exact caught

/-- A failed job gives its row the last status when its attempts are over. -/
theorem moves_handleFailedJob (jobId : Option String) (reason : String) (attemptsMade : Int) :
    Moves outbox (handleFailedJob outbox jobId reason attemptsMade)
      (if attemptsMade < NOTIFICATION_ATTEMPTS then none
       else ((Accounts.given jobId).bind parseNotificationIdFromJob).map fun id => (id, .FAILED)) := by
  rw [handleFailedJob]
  cases (Accounts.given jobId).bind parseNotificationIdFromJob with
  | none => exact Moves.refl outbox _
  | some notificationId =>
    change Moves outbox (if attemptsMade < NOTIFICATION_ATTEMPTS then _ else _) _
    split
    case isTrue => exact moves_updatePending fun row pending => .inl pending
    case isFalse => exact moves_updatePending fun row _ => .inr rfl

end Processing

/-! One step -/

section Steps

variable {σ : Type} {inlineMode : Bool} {service : JobQueue σ String Job} {world : World σ}

/-- Every call has found a row of the outbox. -/
def Sound (world : World σ) : Prop := ∀ call ∈ world.calls, CallSound world.outbox call

/-- Every action moves rows as it should. -/
theorem moves_occur (sound : Sound world) (action : Action σ) :
    Moves world.outbox (occur inlineMode service world action).outbox (world.finalises action) := by
  cases action with
  | createNotification row => exact moves_create world.outbox row
  | enqueueNotification notificationId =>
    cases inlineMode with
    | true => exact Moves.refl world.outbox none
    | false => exact Moves.refl world.outbox none
  | enqueuePendingNotifications tie =>
    cases inlineMode with
    | true => exact Moves.refl world.outbox none
    | false => exact Moves.refl world.outbox none
  | queue state => exact Moves.refl world.outbox none
  | deliver notificationId => exact Moves.refl world.outbox none
  | proceed position now =>
    rw [occur, World.finalises]
    cases found : world.calls[position]? with
    | none => exact Moves.refl world.outbox none
    | some call => exact (proceeds (sound call (List.mem_of_getElem? found)) now).moved
  | fail position reason =>
    rw [occur]
    cases world.calls[position]? with
    | none => exact Moves.refl world.outbox none
    | some call => exact Moves.refl world.outbox none
  | handleFailedJob jobId reason attemptsMade =>
    exact moves_handleFailedJob jobId reason attemptsMade

/-- What a step sends was pending. -/
theorem sent_occur (sound : Sound world) (action : Action σ) :
    ∃ sent, (occur inlineMode service world action).dispatched = world.dispatched ++ sent ∧
      ∀ input ∈ sent, ∀ row ∈ world.outbox.rows, row.id = input.id → row.status = .PENDING := by
  have nothing : ∀ input ∈ ([] : List NotificationDispatchInput), ∀ row ∈ world.outbox.rows,
      row.id = input.id → row.status = .PENDING :=
    fun _ absent => (by cases absent)
  cases action with
  | createNotification row => exact ⟨[], (List.append_nil _).symm, nothing⟩
  | enqueueNotification notificationId =>
    cases inlineMode with
    | true => exact ⟨[], (List.append_nil _).symm, nothing⟩
    | false => exact ⟨[], (List.append_nil _).symm, nothing⟩
  | enqueuePendingNotifications tie =>
    cases inlineMode with
    | true => exact ⟨[], (List.append_nil _).symm, nothing⟩
    | false => exact ⟨[], (List.append_nil _).symm, nothing⟩
  | queue state => exact ⟨[], (List.append_nil _).symm, nothing⟩
  | deliver notificationId => exact ⟨[], (List.append_nil _).symm, nothing⟩
  | proceed position now =>
    rw [occur]
    cases found : world.calls[position]? with
    | none => exact ⟨[], (List.append_nil _).symm, nothing⟩
    | some call => exact ⟨_, rfl, (proceeds (sound call (List.mem_of_getElem? found)) now).sent⟩
  | fail position reason =>
    rw [occur]
    cases found : world.calls[position]? with
    | none => exact ⟨[], (List.append_nil _).symm, nothing⟩
    | some call => exact ⟨_, rfl, (fails (sound call (List.mem_of_getElem? found)) reason).sent⟩
  | handleFailedJob jobId reason attemptsMade => exact ⟨[], (List.append_nil _).symm, nothing⟩

/-- The calls after a step are others as before, or sound on their own account. -/
theorem calls_occur (sound : Sound world) (action : Action σ) :
    ∀ call ∈ (occur inlineMode service world action).calls,
      call ∈ world.others action ∨ CallSound (occur inlineMode service world action).outbox call := by
  cases action with
  | createNotification row => exact fun call listed => .inl listed
  | enqueueNotification notificationId =>
    cases inlineMode with
    | false => exact fun call listed => .inl listed
    | true =>
      intro call listed
      exact (List.mem_append.mp listed).symm.imp_right fun new =>
        callSound_next world.outbox _ call (Option.mem_toList.mp new)
  | enqueuePendingNotifications tie =>
    cases inlineMode with
    | false => exact fun call listed => .inl listed
    | true =>
      intro call listed
      exact (List.mem_append.mp listed).symm.imp_right fun new =>
        callSound_next world.outbox _ call (Option.mem_toList.mp new)
  | queue state => exact fun call listed => .inl listed
  | deliver notificationId =>
    intro call listed
    cases List.mem_cons.mp listed with
    | inl new =>
      rw [new]
      exact .inr (callSound_of_unread _ rfl)
    | inr old => exact .inl old
  | proceed position now =>
    rw [occur, World.others]
    cases found : world.calls[position]? with
    | none => exact fun call listed => .inr (sound call listed)
    | some advanced =>
      intro call listed
      exact (List.mem_append.mp listed).symm.imp_right fun after =>
        (proceeds (sound advanced (List.mem_of_getElem? found)) now).sound call
          (Option.mem_toList.mp after)
  | fail position reason =>
    rw [occur]
    cases found : world.calls[position]? with
    | none => exact fun call listed => .inl listed
    | some advanced =>
      intro call listed
      cases List.mem_append.mp listed with
      | inl after =>
        exact .inr ((fails (sound advanced (List.mem_of_getElem? found)) reason).sound call
          (Option.mem_toList.mp after))
      | inr other => exact .inl (List.mem_of_mem_eraseIdx other)
  | handleFailedJob jobId reason attemptsMade => exact fun call listed => .inl listed

/-- The calls that an action does not touch are among the calls. -/
theorem mem_others {action : Action σ} {call : Call} (other : call ∈ world.others action) :
    call ∈ world.calls := by
  cases action with
  | proceed position now => exact List.mem_of_mem_eraseIdx other
  | createNotification row => exact other
  | enqueueNotification notificationId => exact other
  | enqueuePendingNotifications tie => exact other
  | queue state => exact other
  | deliver notificationId => exact other
  | fail position reason => exact other
  | handleFailedJob jobId reason attemptsMade => exact other

/-- An undisturbed action keeps the world sound. -/
theorem sound_occur (sound : Sound world) {action : Action σ}
    (undisturbed : Undisturbed inlineMode service world action
      (occur inlineMode service world action)) : Sound (occur inlineMode service world action) := by
  intro call listed
  cases calls_occur sound action call listed with
  | inr fresh => exact fresh
  | inl other =>
    refine (sound call (mem_others other)).moves (moves_occur sound action) ?_
    intro status told pending
    exact undisturbed.alone _ status told pending call other rfl

/-- An undisturbed action does what is specified. -/
theorem specified_occur (sound : Sound world) {action : Action σ}
    (undisturbed : Undisturbed inlineMode service world action
      (occur inlineMode service world action)) :
    Specified inlineMode service world action (occur inlineMode service world action) := by
  constructor
  case recovered =>
    rintro tie rfl row stored pending
    exact (enqueued_enqueueAll_iff world _ row.id).mpr
      (undisturbed.recoverable tie rfl row stored pending)
  case kept =>
    intro row stored finished
    obtain ⟨later, present, same, kept⟩ := (moves_occur sound action).onward row stored
    exact ⟨later, present, same, kept.resolve_right finished⟩
  case unsent =>
    intro row stored finished
    obtain ⟨sent, appended, pending⟩ := @sent_occur σ inlineMode service world sound action
    have none : (sent.countP fun input => input.id == row.id) = 0 := by
      apply List.countP_eq_zero.mpr
      intro input given same
      exact finished (pending input given row stored (beq_iff_eq.mp same).symm)
    rw [appended, List.countP_append, none, Nat.add_zero]

/-- In every run whose steps are undisturbed, a restart recovers every pending notification,
and one that was sent or failed keeps its status and is not dispatched again. -/
theorem outbox_specified (inlineMode : Bool) (service : JobQueue σ String Job) (outbox : Outbox)
    (queue : σ) (actions : List (Action σ))
    (undisturbed : Along (total (occur inlineMode service)) (Undisturbed inlineMode service)
      ⟨outbox, queue, [], []⟩ actions) :
    Along (total (occur inlineMode service)) (Specified inlineMode service)
      ⟨outbox, queue, [], []⟩ actions := by
  refine along_of_invariant Sound ?_ ?_ (fun _ absent => (by cases absent)) undisturbed
  case refine_1 =>
    rintro world action next sound calm moved
    obtain rfl := Option.some.inj moved
    exact sound_occur sound calm
  case refine_2 =>
    rintro world action next sound calm moved
    obtain rfl := Option.some.inj moved
    exact specified_occur sound calm

end Steps

section Samples

/-- A queue that keeps its jobs in order, and whether they await a worker. -/
def jobList : JobQueue (List (String × Bool)) String Job where
  holds queue id := queue.any fun job => job.1 == id
  awaits queue id := queue.any fun job => job.1 == id && job.2
  add queue id _ := if queue.any (fun job => job.1 == id) then queue else queue ++ [(id, true)]
  add_held held _ := if_pos held
  holds_add queue id _ other := by
    split
    case isTrue held =>
      refine ⟨.inr, ?_⟩
      rintro (rfl | kept)
      case inl => exact held
      case inr => exact kept
    case isFalse =>
      rw [List.any_append, Bool.or_eq_true, or_comm]
      exact or_congr_left (by simp [List.any_cons, @eq_comm _ other])
  awaits_add free _ other := by
    rw [if_neg (Bool.not_eq_true _ ▸ free), List.any_append, Bool.or_eq_true, or_comm]
    exact or_congr_left (by simp [List.any_cons, @eq_comm _ other])

/-- A row that is to be sent. -/
def pendingRow (id : Id) : Notification where
  id := id
  fleetId := "fleet"
  type := .SOS_ALERT
  channel := .SMS
  recipient := "+250788000001"
  payloadJson := .object []
  status := .PENDING
  attemptCount := 0
  partnerWebhookId := none
  errorMessage := none
  createdAt := 0
  sentAt := none

/-- An outbox with one row. -/
def oneRow : Outbox := ⟨[pendingRow "row"], List.nodup_singleton _⟩

/-- A restart, and a worker that takes the notification and has its mail server answer. -/
def calmRun : List (Action (List (String × Bool))) :=
  [.enqueuePendingNotifications fun _ => 0, .deliver "row", .proceed 0 0, .proceed 0 0,
    .proceed 0 0, .proceed 0 0]

/-- Two workers take the notification before one of them sends it. -/
def overlappingRun : List (Action (List (String × Bool))) :=
  [.deliver "row", .deliver "row", .proceed 0 0, .proceed 1 0, .proceed 0 0, .proceed 0 0,
    .proceed 0 0, .proceed 0 0]

/-- 501 pending rows. -/
def backlog : Outbox where
  rows := (List.range 501).map fun count => pendingRow (String.ofList (List.replicate count 'n'))
  distinct := by
    rw [List.map_map]
    apply List.nodup_range.map
    intro count other same
    have lengths := congrArg String.length same
    simpa [pendingRow] using lengths

/-- With one call at most there are no others. -/
theorem undisturbed_of_alone {world next : World (List (String × Bool))}
    {action : Action (List (String × Bool))}
    (running : ∀ tie, action ≠ .enqueuePendingNotifications tie)
    (alone : (world.others action).isEmpty = true) :
    Undisturbed false jobList world action next where
  recoverable tie same := absurd same (running tie)
  alone _ _ _ _ call other := by
    rw [List.isEmpty_iff.mp alone] at other
    cases other

/-- A run in which the row is sent. -/
theorem oneRow_specified :
    Along (total (occur false jobList)) (Specified false jobList) ⟨oneRow, [], [], []⟩ calmRun := by
  apply outbox_specified false jobList oneRow [] calmRun
  have none : ∀ {action : Action (List (String × Bool))}, (∃ position now,
      action = .proceed position now) → ∀ tie, action ≠ .enqueuePendingNotifications tie := by
    rintro _ ⟨position, now, rfl⟩ tie same
    cases same
  rw [calmRun, along_total_cons, along_total_cons, along_total_cons, along_total_cons,
    along_total_cons, along_total_cons]
  refine ⟨⟨?_, fun _ _ absent => (by cases absent)⟩,
    undisturbed_of_alone (fun _ same => (by cases same)) rfl,
    undisturbed_of_alone (none ⟨_, _, rfl⟩) (by decide +kernel),
    undisturbed_of_alone (none ⟨_, _, rfl⟩) (by decide +kernel),
    undisturbed_of_alone (none ⟨_, _, rfl⟩) (by decide +kernel),
    undisturbed_of_alone (none ⟨_, _, rfl⟩) (by decide +kernel), trivial⟩
  intro tie same row stored _
  obtain rfl := Action.enqueuePendingNotifications.inj same
  rw [List.mem_singleton.mp stored]
  exact .inr (by decide +kernel)

/-- Of 501 pending notifications a restart leaves one behind, and a notification that two
workers have is sent by both. -/
theorem backlog_and_overlap :
    (¬ ∀ (outbox : Outbox) (tie : Id → Nat), Along (total (occur false jobList))
      (Specified false jobList) ⟨outbox, [], [], []⟩ [.enqueuePendingNotifications tie]) ∧
    ¬ Along (total (occur false jobList)) (Specified false jobList) ⟨oneRow, [], [], []⟩
      (overlappingRun ++ [.proceed 0 0]) := by
  constructor
  case left =>
    intro claim
    have specified := (claim backlog (fun _ => 0) _ rfl).1
    have idle : ∀ id, ¬ (⟨backlog, [], [], []⟩ : World (List (String × Bool))).Enqueued false
        jobList id := by
      intro id enqueued
      cases enqueued
    have few := recovered_le idle (specified.recovered _ rfl)
    have all : backlog.rows.countP (fun row => row.status == .PENDING) = 501 := by
      rw [backlog, List.countP_map]
      exact (List.countP_eq_length.mpr fun _ _ => rfl).trans List.length_range
    rw [all, PENDING_NOTIFICATION_BOOTSTRAP_LIMIT] at few
    omega
  case right =>
    let resends (middle next : World (List (String × Bool))) : Bool :=
      middle.outbox.rows.any fun row =>
        row.status != .PENDING &&
          ((next.dispatched.countP fun input => input.id == row.id) !=
            middle.dispatched.countP fun input => input.id == row.id)
    have sound : ∀ middle next, resends middle next = true →
        ¬ Specified false jobList middle (.proceed 0 0) next := by
      intro middle next found specified
      obtain ⟨row, stored, resent⟩ := List.any_eq_true.mp found
      rw [Bool.and_eq_true, bne_iff_ne, bne_iff_ne] at resent
      exact resent.2 (specified.unsent row stored resent.1)
    exact not_along_of_check _ overlappingRun (.proceed 0 0) sound (by decide +kernel)

end Samples

end EmotoFleet.NotificationOutbox
