import EmotoFleet.Accounts.UserIdentities
import EmotoFleet.Events.PartnerWebhooks
import EmotoFleet.Foundations.CanonicalJson
import EmotoFleet.Foundations.ConsumerGroups

/-!
# The webhook dispatcher

The dispatcher reads entries of the outbox of webhooks as a member of a consumer group, up
to fifty at a time, and notifies the webhooks of each before it acknowledges the entry. Each
of its waits for the database or the cache may fail, with or without having taken effect; it
then goes on with the next entry, and the process may stop at any point.

It only ever asks for entries that are new. One that it leaves without an acknowledgement
stays pending and is never read again, so nothing is done twice and not everything is done.

The webhooks are given. The queue of notifications and the audit log are points of failure
only. The group is there from the beginning of the log.
-/

namespace EmotoFleet.WebhookDispatcher

open CanonicalJson (Json)
open ConsumerGroups Runs Tables
open PartnerWebhooks (Registry PartnerWebhook subscribed isSubscribed)

/-- The kinds of notifications. -/
inductive NotificationType where
  | CRASH_ALERT
  | SOS_ALERT
  | THEFT_ALERT
  | DELIVERY_UPDATE
  deriving DecidableEq

/-- The envelope with an entry's data. The entry is known by its place in the log. -/
structure Payload where
  event : String
  sourceEntryId : Nat
  fleetId : String
  bikeId : Option String
  deviceId : Option String
  ts : String
  type : String
  severity : Option String
  metaJson : Json ℚ

/-- A notification for one webhook. -/
structure Notification where
  fleetId : String
  type : NotificationType
  recipient : String
  partnerWebhookId : Nat
  payloadJson : Payload

/-- The fields of an entry come as one list of names and values. -/
def toFieldMap : List String → List (String × Option String)
  | [] => []
  | [field] => [(field, none)]
  | field :: value :: rest => (field, some value) :: toFieldMap rest

/-- A field by its name; of several with one name the last. -/
def fieldOf (fields : List String) (name : String) : Option String :=
  ((toFieldMap fields).reverse.lookup name).join

/-- The notification for a kind of event. -/
def resolveNotificationType (eventType : String) : Option NotificationType :=
  if eventType = "CRASH" then some .CRASH_ALERT
  else if eventType = "SOS" then some .SOS_ALERT
  else if eventType = "THEFT_SUSPECTED" then some .THEFT_ALERT
  else if "delivery.".toList.isPrefixOf eventType.toList then some .DELIVERY_UPDATE
  else none

/-- The fleet and the kind of what an entry notifies of, if it does. -/
def alertOf (fields : List String) : Option (String × NotificationType) :=
  match Accounts.given (fieldOf fields "fleetId") with
  | none => none
  | some fleetId =>
    (resolveNotificationType ((fieldOf fields "type").getD "")).map fun type => (fleetId, type)

/-- The parser of the language. -/
structure Settings where
  parseJson : String → Option (Json ℚ)

/-- How many entries are read at once. -/
def readCount : Nat := 50

/-- What an entry is notified with. -/
structure Message where
  type : NotificationType
  payload : Payload

/-- Where the work on an entry stands: at its beginning, or before the notification, the
queue or the audit row of a webhook; with the webhooks that remain. -/
inductive Stage where
  | started
  | notifying (message : Message) (webhooks : List PartnerWebhook)
  | enqueueing (message : Message) (webhooks : List PartnerWebhook)
  | auditing (message : Message) (webhooks : List PartnerWebhook)

/-- What the dispatcher waits for. -/
inductive Await where
  | acknowledge
  | findWebhooks (fleetId : String) (type : NotificationType)
  | createNotification (message : Message) (webhook : PartnerWebhook) (rest : List PartnerWebhook)
  | enqueueNotification (message : Message) (rest : List PartnerWebhook)
  | createAuditLog (message : Message) (rest : List PartnerWebhook)

/-- The entries that were read are worked off from the first on; the stage is that of the
first. -/
structure World where
  group : ConsumerGroup (List String)
  batch : List (List String × Nat)
  stage : Stage
  notifications : List Notification

/-- What may happen next. -/
inductive Action where
  | append (fields : List String)
  | read
  | readFails (handedOut : Bool)
  | proceed (now : String)
  | fail (done : Bool)
  | restart
  deriving DecidableEq

section Dispatching

variable (settings : Settings) (registry : Registry)

/-- The JSON of a field, an empty object where there is none. -/
def safeJsonParse (value : Option String) : Json ℚ :=
  match Accounts.given value with
  | none => .object []
  | some text =>
    match settings.parseJson text with
    | none => .object [("raw", .string text)]
    | some (.object fields) => .object fields
    | some (.array items) => .array items
    | some parsed => .object [("data", parsed)]

/-- What the webhook is sent. -/
def payloadEnvelope (fields : List String) (entryId : Nat) (fleetId now : String) : Payload where
  event := "fleet.alert"
  sourceEntryId := entryId
  fleetId := fleetId
  bikeId := fieldOf fields "bikeId"
  deviceId := fieldOf fields "deviceId"
  ts := (fieldOf fields "ts").getD now
  type := (fieldOf fields "type").getD ""
  severity := fieldOf fields "severity"
  metaJson := safeJsonParse settings (fieldOf fields "metaJson")

/-- The notification that a message becomes for a webhook. -/
def notification (message : Message) (webhook : PartnerWebhook) : Notification where
  fleetId := message.payload.fleetId
  type := message.type
  recipient := webhook.url
  partnerWebhookId := webhook.id
  payloadJson := message.payload

/-- What the loop waits for next. -/
def nextAwait (fields : List String) : Stage → Await
  | .started =>
    match alertOf fields with
    | none => .acknowledge
    | some (fleetId, type) => .findWebhooks fleetId type
  | .notifying _ [] => .acknowledge
  | .notifying message (webhook :: rest) => .createNotification message webhook rest
  | .enqueueing message rest => .enqueueNotification message rest
  | .auditing message rest => .createAuditLog message rest

/-- What it takes effect on. -/
def perform (world : World) (entryId : Nat) : Await → World
  | .acknowledge => { world with group := world.group.acknowledge entryId }
  | .createNotification message webhook _ =>
    { world with notifications := world.notifications ++ [notification message webhook] }
  | .findWebhooks _ _ | .enqueueNotification _ _ | .createAuditLog _ _ => world

/-- Where the work goes on; nowhere when the entry is done. -/
def resume (fields : List String) (entryId : Nat) (now : String) : Await → Option Stage
  | .acknowledge => none
  | .findWebhooks fleetId type =>
    some (.notifying ⟨type, payloadEnvelope settings fields entryId fleetId now⟩
      (subscribed registry fleetId))
  | .createNotification message _ rest => some (.enqueueing message rest)
  | .enqueueNotification message rest => some (.auditing message rest)
  | .createAuditLog message rest => some (.notifying message rest)

/-- The work on an entry ends, and that on the next one begins. -/
def leave (world : World) (rest : List (List String × Nat)) : World :=
  { world with batch := rest, stage := .started }

/-- New entries are read when the batch is done. A wait that fails leaves its entry without
an acknowledgement. -/
def step (world : World) : Action → Option World
  | .append fields => some { world with group := world.group.append fields }
  | .read =>
    match world.batch with
    | [] =>
      some (leave { world with group := world.group.read readCount } (world.group.fresh readCount))
    | _ :: _ => none
  | .readFails handedOut =>
    match world.batch with
    | [] => some (if handedOut then { world with group := world.group.read readCount } else world)
    | _ :: _ => none
  | .proceed now =>
    match world.batch with
    | [] => none
    | (fields, entryId) :: rest =>
      let await := nextAwait fields world.stage
      match resume settings registry fields entryId now await with
      | some stage => some { perform world entryId await with stage }
      | none => some (leave (perform world entryId await) rest)
  | .fail done =>
    match world.batch with
    | [] => none
    | (fields, entryId) :: rest =>
      let await := nextAwait fields world.stage
      some (leave (if done then perform world entryId await else world) rest)
  | .restart => some (leave world [])

/-- The dispatcher before anything was read. -/
def start : World := ⟨.empty, [], .started, []⟩

end Dispatching

section Property

variable (registry : Registry)

/-- There is nothing new to read, and nothing is being worked on. -/
structure Quiet (world : World) : Prop where
  idle : world.batch = []
  drained : world.group.cursor = world.group.log.length

/-- An entry is to be notified to a webhook. -/
def isDue (fields : List String) (webhook : PartnerWebhook) : Bool :=
  (alertOf fields).any fun alert => isSubscribed registry alert.1 webhook

/-- Whether a notification is that of an entry and a webhook. -/
def concerns (entryId : Nat) (webhook : PartnerWebhook) (notification : Notification) : Bool :=
  notification.payloadJson.sourceEntryId == entryId && notification.partnerWebhookId == webhook.id

/-- Every entry that was read is acknowledged, and was notified once to each webhook that it
is due to and to no other. -/
structure ExactlyOnce (world : World) : Prop where
  acknowledged : ∀ entry ∈ world.group.delivered, entry.2 ∈ world.group.acked
  notified : ∀ entry ∈ world.group.delivered, ∀ webhook ∈ registry.webhooks,
    world.notifications.countP (concerns entry.2 webhook) = (isDue registry entry.1 webhook).toNat

/-- Whether the loop waits for an acknowledgement. -/
def Await.isAcknowledge : Await → Bool
  | .acknowledge => true
  | .findWebhooks _ _ | .createNotification _ _ _ | .enqueueNotification _ _
  | .createAuditLog _ _ => false

/-- No failure hits an entry that was read and not acknowledged: a read whose answer is lost
handed nothing out, a wait fails only after an acknowledgement took effect, and the process
stops only between batches. -/
def Undisturbed (world : World) : Action → Prop
  | .readFails handedOut => handedOut = true → world.group.fresh readCount = []
  | .fail done =>
    done = true ∧ world.batch.head?.any (fun entry =>
      (nextAwait entry.1 world.stage).isAcknowledge) = true
  | .restart => world.batch = []
  | .append _ | .read | .proceed _ => True

end Property

section Accounts

variable {settings : Settings} {registry : Registry}

/-- The entry and the webhook of a notification. -/
def keyOf (notification : Notification) : Nat × Nat :=
  (notification.payloadJson.sourceEntryId, notification.partnerWebhookId)

/-- The notifications that an entry is due. -/
def keysFor (entryId : Nat) (webhooks : List PartnerWebhook) : List (Nat × Nat) :=
  webhooks.map fun webhook => (entryId, webhook.id)

/-- What an entry is going to be notified to. -/
def due (registry : Registry) (entry : List String × Nat) : List (Nat × Nat) :=
  (alertOf entry.1).elim [] fun alert => keysFor entry.2 (subscribed registry alert.1)

/-- What remains to be notified for an entry at some stage. -/
def remaining (registry : Registry) (entry : List String × Nat) : Stage → List (Nat × Nat)
  | .started => due registry entry
  | .notifying _ webhooks | .enqueueing _ webhooks | .auditing _ webhooks =>
    keysFor entry.2 webhooks

/-- What the batch at hand still has to write. -/
def outstanding (registry : Registry) (world : World) : List (Nat × Nat) :=
  match world.batch with
  | [] => []
  | entry :: rest => remaining registry entry world.stage ++ rest.flatMap (due registry)

/-- The message of the stage is about the entry. -/
def Stage.About (entryId : Nat) : Stage → Prop
  | .started => True
  | .notifying message _ | .enqueueing message _ | .auditing message _ =>
    message.payload.sourceEntryId = entryId

/-- Nothing is lost, and what was notified together with what the batch is going to be
notified to is what all entries that were read are due to. -/
structure Whole (registry : Registry) (world : World) : Prop where
  complete : Complete world.group world.batch
  balance : world.notifications.map keyOf ++ outstanding registry world =
    world.group.delivered.flatMap (due registry)
  about : ∀ entry ∈ world.batch.head?, world.stage.About entry.2

/-- Nothing is owed at the start. -/
theorem whole_start : Whole registry start :=
  ⟨complete_empty, rfl, fun _ listed => (nomatch listed)⟩

/-- At the beginning of an entry the whole batch is outstanding. -/
theorem outstanding_leave (world : World) (rest : List (List String × Nat)) :
    outstanding registry (leave world rest) = rest.flatMap (due registry) := by
  cases rest with
  | nil => rfl
  | cons entry rest =>
    rw [List.flatMap_cons]
    rfl

/-- The loop goes on with the next entry of its batch. -/
theorem about_leave (world : World) (rest : List (List String × Nat)) :
    ∀ entry ∈ (leave world rest).batch.head?, (leave world rest).stage.About entry.2 :=
  fun _ _ => trivial

/-- An entry is acknowledged when nothing remains to be notified. -/
theorem remaining_acknowledge {entry : List String × Nat} {stage : Stage}
    (last : nextAwait entry.1 stage = .acknowledge) : remaining registry entry stage = [] := by
  cases stage with
  | started =>
    rw [remaining, due]
    rw [nextAwait] at last
    cases alert : alertOf entry.1 with
    | none => rfl
    | some found =>
      rw [alert] at last
      cases last
  | notifying message webhooks =>
    cases webhooks with
    | nil => rfl
    | cons webhook rest => cases last
  | enqueueing message webhooks => cases last
  | auditing message webhooks => cases last

/-- An acknowledged entry has all its notifications. -/
theorem whole_acknowledge {world : World} {entry : List String × Nat}
    {rest : List (List String × Nat)} (whole : Whole registry world)
    (working : world.batch = entry :: rest)
    (last : nextAwait entry.1 world.stage = .acknowledge) :
    Whole registry (leave (perform world entry.2 .acknowledge) rest) := by
  have complete := whole.complete
  have balance := whole.balance
  rw [working] at complete
  rw [outstanding, working] at balance
  dsimp only at balance
  rw [remaining_acknowledge last, List.nil_append] at balance
  constructor
  case complete => exact complete_acknowledge complete
  case balance =>
    rw [outstanding_leave]
    exact balance
  case about => exact about_leave _ _

/-- The work on an entry moves what remains to what was notified. -/
theorem whole_resume {world : World} {entry : List String × Nat} {rest : List (List String × Nat)}
    {now : String} {stage : Stage} (whole : Whole registry world)
    (working : world.batch = entry :: rest)
    (resumed : resume settings registry entry.1 entry.2 now (nextAwait entry.1 world.stage) =
      some stage) :
    Whole registry { perform world entry.2 (nextAwait entry.1 world.stage) with stage } := by
  obtain ⟨group, batch, before, notifications⟩ := world
  obtain ⟨complete, balance, about⟩ := whole
  dsimp only at working resumed complete balance about ⊢
  subst working
  have aboutEntry : before.About entry.2 := about entry rfl
  cases before with
  | started =>
    rw [nextAwait] at resumed ⊢
    cases alert : alertOf entry.1 with
    | none =>
      rw [alert] at resumed
      cases resumed
    | some found =>
      simp only [alert, resume, Option.some.injEq] at resumed
      subst resumed
      refine ⟨complete, ?_, fun _ listed => Option.some.inj listed ▸ rfl⟩
      have atStart : due registry entry = keysFor entry.2 (subscribed registry found.1) := by
        rw [due, alert, Option.elim_some]
      simp only [outstanding, remaining, atStart] at balance
      exact balance
  | notifying message webhooks =>
    cases webhooks with
    | nil => cases resumed
    | cons webhook others =>
      cases resumed
      refine ⟨complete, ?_, fun _ listed => Option.some.inj listed ▸ aboutEntry⟩
      have told : keyOf (notification message webhook) = (entry.2, webhook.id) :=
        congrArg (·, webhook.id) aboutEntry
      simp only [outstanding, remaining, keysFor, List.map_cons, List.cons_append] at balance
      simp only [perform, outstanding, remaining, keysFor, nextAwait, List.map_append, List.map_cons,
        List.map_nil, List.append_assoc, List.cons_append, List.nil_append, told]
      exact balance
  | enqueueing message webhooks =>
    cases resumed
    exact ⟨complete, balance, fun _ listed => Option.some.inj listed ▸ aboutEntry⟩
  | auditing message webhooks =>
    cases resumed
    exact ⟨complete, balance, fun _ listed => Option.some.inj listed ▸ aboutEntry⟩

end Accounts

/-! ## What each step can do -/

section Steps

variable {settings : Settings} {registry : Registry} {world next : World}

/-- A read takes a batch where there is none. -/
theorem step_read (moved : step settings registry world .read = some next) :
    world.batch = [] ∧
      next = leave { world with group := world.group.read readCount }
        (world.group.fresh readCount) := by
  rw [step] at moved
  split at moved
  case h_1 idle => exact ⟨idle, (Option.some.inj moved).symm⟩
  case h_2 => cases moved

/-- A read that fails may have handed a batch out. -/
theorem step_readFails {handedOut : Bool}
    (moved : step settings registry world (.readFails handedOut) = some next) :
    world.batch = [] ∧
      next = if handedOut then { world with group := world.group.read readCount } else world := by
  rw [step] at moved
  split at moved
  case h_1 idle => exact ⟨idle, (Option.some.inj moved).symm⟩
  case h_2 => cases moved

/-- A wait succeeds in the middle of an entry or at its acknowledgement. -/
theorem step_proceed {now : String} (moved : step settings registry world (.proceed now) = some next) :
    ∃ entry rest, world.batch = entry :: rest ∧
      ((∃ stage, resume settings registry entry.1 entry.2 now (nextAwait entry.1 world.stage) =
            some stage ∧
          next = { perform world entry.2 (nextAwait entry.1 world.stage) with stage }) ∨
        (nextAwait entry.1 world.stage = .acknowledge ∧
          next = leave (perform world entry.2 .acknowledge) rest)) := by
  rw [step] at moved
  split at moved
  case h_1 => cases moved
  case h_2 fields entryId rest working =>
    refine ⟨(fields, entryId), rest, working, ?_⟩
    dsimp only at moved ⊢
    cases awaited : nextAwait fields world.stage with
    | acknowledge =>
      rw [awaited] at moved
      exact Or.inr ⟨rfl, (Option.some.inj moved).symm⟩
    | findWebhooks fleetId type =>
      rw [awaited] at moved
      exact Or.inl ⟨_, rfl, (Option.some.inj moved).symm⟩
    | createNotification message webhook others =>
      rw [awaited] at moved
      exact Or.inl ⟨_, rfl, (Option.some.inj moved).symm⟩
    | enqueueNotification message others =>
      rw [awaited] at moved
      exact Or.inl ⟨_, rfl, (Option.some.inj moved).symm⟩
    | createAuditLog message others =>
      rw [awaited] at moved
      exact Or.inl ⟨_, rfl, (Option.some.inj moved).symm⟩

/-- A failure leaves the entry behind. -/
theorem step_fail {done : Bool} (moved : step settings registry world (.fail done) = some next) :
    ∃ entry rest, world.batch = entry :: rest ∧
      next = leave (if done then perform world entry.2 (nextAwait entry.1 world.stage) else world)
        rest := by
  rw [step] at moved
  split at moved
  case h_1 => cases moved
  case h_2 fields entryId rest working =>
    exact ⟨(fields, entryId), rest, working, (Option.some.inj moved).symm⟩

/-- Only an acknowledgement changes the group. -/
theorem perform_group {await : Await} (notLast : await.isAcknowledge = false) (entryId : Nat) :
    (perform world entryId await).group = world.group := by
  cases await with
  | acknowledge => cases notLast
  | findWebhooks fleetId type => rfl
  | createNotification message webhook others => rfl
  | enqueueNotification message others => rfl
  | createAuditLog message others => rfl

/-- No step within an entry changes the batch. -/
theorem perform_batch (entryId : Nat) (await : Await) :
    (perform world entryId await).batch = world.batch := by
  cases await with
  | acknowledge => rfl
  | findWebhooks fleetId type => rfl
  | createNotification message webhook others => rfl
  | enqueueNotification message others => rfl
  | createAuditLog message others => rfl

/-- The last step of an entry is its acknowledgement. -/
theorem isAcknowledge_iff {await : Await} : await.isAcknowledge = true ↔ await = .acknowledge := by
  cases await with
  | acknowledge => exact iff_of_true rfl rfl
  | findWebhooks fleetId type => exact iff_of_false (fun last => (nomatch last)) (fun last => (nomatch last))
  | createNotification message webhook others =>
    exact iff_of_false (fun last => (nomatch last)) (fun last => (nomatch last))
  | enqueueNotification message others =>
    exact iff_of_false (fun last => (nomatch last)) (fun last => (nomatch last))
  | createAuditLog message others =>
    exact iff_of_false (fun last => (nomatch last)) (fun last => (nomatch last))

/-- A wait after which the entry goes on is not the acknowledgement. -/
theorem isAcknowledge_of_resume {await : Await} {fields : List String} {entryId : Nat}
    {now : String} {stage : Stage}
    (resumed : resume settings registry fields entryId now await = some stage) :
    await.isAcknowledge = false := by
  cases await with
  | acknowledge => cases resumed
  | findWebhooks fleetId type => rfl
  | createNotification message webhook others => rfl
  | enqueueNotification message others => rfl
  | createAuditLog message others => rfl

/-- A failed wait other than for the acknowledgement leaves the group as it was. -/
theorem fail_group (world : World) {done : Bool} {await : Await} (entryId : Nat)
    (notLast : ¬ (done = true ∧ await.isAcknowledge = true)) :
    (if done then perform world entryId await else world).group = world.group := by
  cases done with
  | false => rfl
  | true => exact perform_group (Bool.eq_false_iff.mpr fun last => notLast ⟨rfl, last⟩) entryId

/-- The dispatcher is a consumer of the group. -/
theorem step_handled {action : Action} (moved : step settings registry world action = some next) :
    Handled world.group world.batch next.group next.batch := by
  cases action with
  | append fields =>
    cases moved
    exact Handled.append _ fields
  | read =>
    obtain ⟨idle, rfl⟩ := step_read moved
    rw [idle]
    exact Handled.read readCount _ (List.Sublist.refl _)
  | readFails handedOut =>
    obtain ⟨idle, rfl⟩ := step_readFails moved
    cases handedOut with
    | true =>
      rw [if_pos rfl, idle]
      exact Handled.read readCount _ (List.nil_sublist _)
    | false => exact Handled.forget _ _ (List.Sublist.refl _)
  | proceed now =>
    obtain ⟨entry, rest, working, ⟨stage, resumed, rfl⟩ | ⟨-, rfl⟩⟩ := step_proceed moved
    case inl =>
      rw [perform_group (isAcknowledge_of_resume resumed), perform_batch]
      exact Handled.forget _ _ (List.Sublist.refl _)
    case inr =>
      rw [working]
      exact Handled.acknowledge entry rest
  | fail done =>
    obtain ⟨entry, rest, working, rfl⟩ := step_fail moved
    rw [working]
    by_cases last : done = true ∧ (nextAwait entry.1 world.stage).isAcknowledge = true
    case pos =>
      rw [if_pos last.1, isAcknowledge_iff.mp last.2]
      exact Handled.acknowledge entry rest
    case neg =>
      have same := fail_group world entry.2 last
      exact same.symm ▸ Handled.forget _ _ (List.sublist_cons_self _ _)
  | restart =>
    cases moved
    exact Handled.forget _ _ (List.nil_sublist _)

/-- A step that no failure disturbs keeps the account whole. -/
theorem whole_step (valid : Valid world.group world.batch) (whole : Whole registry world)
    {action : Action} (undisturbed : Undisturbed world action)
    (moved : step settings registry world action = some next) : Whole registry next := by
  cases action with
  | append fields =>
    cases moved
    refine ⟨complete_append valid.bounded whole.complete fields, ?_, whole.about⟩
    exact whole.balance.trans (congrArg _ (delivered_append valid.bounded fields).symm)
  | read =>
    obtain ⟨idle, rfl⟩ := step_read moved
    have complete := whole.complete
    have balance := whole.balance
    rw [idle] at complete
    rw [outstanding, idle, List.append_nil] at balance
    refine ⟨complete_read valid.bounded complete readCount, ?_, about_leave _ _⟩
    rw [outstanding_leave]
    exact (congrArg (· ++ _) balance).trans
      (List.flatMap_append.symm.trans (congrArg _ (delivered_read valid.bounded).symm))
  | readFails handedOut =>
    obtain ⟨idle, rfl⟩ := step_readFails moved
    cases handedOut with
    | false => exact whole
    | true =>
      have nothing : world.group.fresh readCount = [] := undisturbed rfl
      have complete := whole.complete
      rw [idle] at complete
      have afterwards := complete_read valid.bounded complete readCount
      rw [nothing, ← idle] at afterwards
      have same : (world.group.read readCount).delivered = world.group.delivered := by
        rw [delivered_read valid.bounded, nothing, List.append_nil]
      rw [if_pos rfl]
      exact ⟨afterwards, whole.balance.trans (congrArg _ same.symm), whole.about⟩
  | proceed now =>
    obtain ⟨entry, rest, working, ⟨stage, resumed, rfl⟩ | ⟨last, rfl⟩⟩ := step_proceed moved
    case inl => exact whole_resume whole working resumed
    case inr => exact whole_acknowledge whole working last
  | fail done =>
    obtain ⟨entry, rest, working, rfl⟩ := step_fail moved
    obtain ⟨isDone, last⟩ := undisturbed
    rw [working, List.head?_cons, Option.any_some] at last
    rw [if_pos isDone, isAcknowledge_iff.mp last]
    exact whole_acknowledge whole working (isAcknowledge_iff.mp last)
  | restart =>
    cases moved
    have idle : world.batch = [] := undisturbed
    have complete := whole.complete
    have balance := whole.balance
    rw [idle] at complete
    rw [outstanding, idle] at balance
    exact ⟨complete, balance, about_leave _ _⟩

/-- Any other step loses an entry. -/
theorem lost_of_disturbed (valid : Valid world.group world.batch) {action : Action}
    (disturbed : ¬ Undisturbed world action)
    (moved : step settings registry world action = some next) : Lost next.group next.batch := by
  cases action with
  | append fields => exact absurd trivial disturbed
  | read => exact absurd trivial disturbed
  | proceed now => exact absurd trivial disturbed
  | readFails handedOut =>
    obtain ⟨idle, rfl⟩ := step_readFails moved
    rw [Undisturbed, Classical.not_imp] at disturbed
    obtain ⟨isHandedOut, unread⟩ := disturbed
    rw [idle] at valid
    obtain ⟨entry, rest, found⟩ := List.exists_cons_of_ne_nil unread
    rw [if_pos isHandedOut]
    exact idle ▸ lost_of_unread valid found
  | fail done =>
    obtain ⟨entry, rest, working, rfl⟩ := step_fail moved
    rw [Undisturbed, working, List.head?_cons, Option.any_some] at disturbed
    rw [working] at valid
    have same := fail_group world entry.2 disturbed
    exact same.symm ▸ lost_of_forgotten valid (List.Sublist.refl rest)
  | restart =>
    cases moved
    obtain ⟨entry, rest, working⟩ := List.exists_cons_of_ne_nil disturbed
    rw [working] at valid
    exact lost_of_forgotten valid (List.nil_sublist _)

end Steps

section Delivery

variable {settings : Settings} {registry : Registry} {world : World}

/-- Every webhook is due one notification. -/
theorem countP_due {fields : List String} {entryId : Nat} {webhook : PartnerWebhook}
    (listed : webhook ∈ registry.webhooks) :
    (due registry (fields, entryId)).countP (fun key => key == (entryId, webhook.id)) =
      (isDue registry fields webhook).toNat := by
  rw [due, isDue]
  cases alertOf fields with
  | none => rfl
  | some alert =>
    have sameKey : ((fun key => key == (entryId, webhook.id)) ∘
        fun other : PartnerWebhook => (entryId, other.id)) =
        fun other => decide (other.id = webhook.id) := by
      funext other
      rw [Function.comp_apply, Bool.eq_iff_iff, beq_iff_eq, decide_eq_true_iff, Prod.mk.injEq]
      exact and_iff_right rfl
    rw [Option.elim_some, Option.any_some, keysFor, List.countP_map, sameKey, subscribed]
    exact countP_key registry.webhookId_unique listed _

/-- A dispatcher at rest with a whole account has acknowledged and notified everything. -/
theorem exactlyOnce_of_whole (valid : Valid world.group world.batch) (whole : Whole registry world)
    (idle : world.batch = []) : ExactlyOnce registry world := by
  have complete := whole.complete
  have balance := whole.balance
  rw [idle, Complete, places, List.map_nil, List.append_nil] at complete
  rw [outstanding, idle, List.append_nil] at balance
  constructor
  case acknowledged =>
    intro entry listed
    rw [complete]
    exact List.mem_map_of_mem listed
  case notified =>
    rintro ⟨fields, entryId⟩ listed webhook stored
    have unique : (places world.group.delivered).Nodup := by
      rw [places_delivered valid.bounded]
      exact List.nodup_range
    have sameKey : concerns entryId webhook =
        (fun key => key == (entryId, webhook.id)) ∘ keyOf := rfl
    rw [← countP_due stored, sameKey, ← List.countP_map, balance]
    refine countP_flatMap_key (due registry) _ unique listed ?_
    intro other _ apart
    rw [List.countP_eq_zero]
    intro key made same
    rw [due] at made
    cases alert : alertOf other.1 with
    | none =>
      rw [alert] at made
      cases made
    | some found =>
      rw [alert, Option.elim_some] at made
      obtain ⟨_, _, rfl⟩ := List.mem_map.mp made
      exact apart (congrArg Prod.fst (beq_iff_eq.mp same))

/-- A lost entry is not notified. -/
theorem not_exactlyOnce_of_lost (valid : Valid world.group world.batch)
    (lost : Lost world.group world.batch) : ¬ ExactlyOnce registry world := by
  intro exactly
  obtain ⟨place, below, unacked, -⟩ := lost
  have listed : place ∈ places world.group.delivered := by
    rw [places_delivered valid.bounded]
    exact List.mem_range.mpr below
  obtain ⟨entry, delivered, rfl⟩ := List.mem_map.mp listed
  exact unacked (exactly.acknowledged entry delivered)

/-- Whenever there is nothing new to read, everything that was read is acknowledged and
notified exactly once if and only if no failure or restart has ever hit an entry between
its being read and its being acknowledged. -/
theorem exactly_once_iff {actions : List Action}
    (reached : run (step settings registry) start actions = some world) (quiet : Quiet world) :
    ExactlyOnce registry world ↔
      Along (step settings registry) (fun before action _ => Undisturbed before action) start
        actions := by
  have valid : Valid world.group world.batch :=
    invariant_reached (fun world => Valid world.group world.batch)
      (fun _ _ _ valid _ moved => valid_handled (step_handled moved) valid) valid_empty
      (along_true _ _ actions) reached
  have outcome := @harmless_or_damaged _ _ (step settings registry)
    (fun before action _ => Undisturbed before action)
    (fun world => Valid world.group world.batch) (Whole registry)
    (fun world => Lost world.group world.batch)
    (fun _ _ _ valid moved => valid_handled (step_handled moved) valid)
    (fun _ _ _ valid whole undisturbed moved => whole_step valid whole undisturbed moved)
    (fun _ _ _ valid disturbed moved => lost_of_disturbed valid disturbed moved)
    (fun _ _ _ _ lost moved => lost_handled (step_handled moved) lost)
    start world actions valid_empty whole_start reached
  rcases outcome with ⟨undisturbed, whole⟩ | ⟨disturbed, lost⟩
  case inl => exact iff_of_true (exactlyOnce_of_whole valid whole quiet.idle) undisturbed
  case inr => exact iff_of_false (not_exactlyOnce_of_lost valid lost) disturbed

end Delivery

section Samples

/-- Settings under which no field parses. -/
def sampleSettings : Settings := ⟨fun _ => none⟩

/-- One partner with access to one fleet and one webhook. -/
def sampleRegistry : Registry where
  partners := [⟨"partner", true⟩]
  accesses := [⟨"partner", "fleet", true⟩]
  webhooks := [⟨1, "partner", "https://partner.example/hook", true⟩]
  users := []
  bikes := []
  webhookId_unique := List.nodup_singleton _
  userId_unique := List.nodup_nil

/-- An entry that reports an emergency. -/
def sampleEntry : List String := ["fleetId", "fleet", "deviceId", "device", "type", "SOS"]

/-- A call for help is read and notified. -/
def notifiedOnce : List Action :=
  [.append sampleEntry, .read] ++
    List.replicate 5 (.proceed "2026-06-04T00:00:00.000Z")

/-- The first wait for the database fails, and there is nothing else to read. -/
def failedOnce : List Action := [.append sampleEntry, .read, .fail false, .read]

/-- The world after some actions. -/
def worldAfter (actions : List Action) : World :=
  (run (step sampleSettings sampleRegistry) start actions).getD start

/-- The world is what the run ends in. -/
theorem run_worldAfter {actions : List Action}
    (enabled : (run (step sampleSettings sampleRegistry) start actions).isSome = true) :
    run (step sampleSettings sampleRegistry) start actions = some (worldAfter actions) := by
  obtain ⟨world, reached⟩ := Option.isSome_iff_exists.mp enabled
  rw [worldAfter, reached, Option.getD_some]

/-- In the run of the example the notification is written once. -/
theorem exactly_once_iff_notifiedOnce :
    ExactlyOnce sampleRegistry (worldAfter notifiedOnce) ↔
      Along (step sampleSettings sampleRegistry) (fun before action _ => Undisturbed before action)
        start notifiedOnce :=
  exactly_once_iff (run_worldAfter (by decide +kernel)) ⟨by decide +kernel, by decide +kernel⟩

/-- An entry whose processing failed once is never acknowledged. -/
theorem failed_entry_never_retried :
    ¬ ∀ settings registry actions world, run (step settings registry) start actions = some world →
      Quiet world → ExactlyOnce registry world := by
  intro claim
  have exactly := claim sampleSettings sampleRegistry failedOnce (worldAfter failedOnce)
    (run_worldAfter (by decide +kernel)) ⟨by decide +kernel, by decide +kernel⟩
  have acked := exactly.acknowledged (sampleEntry, 0) (by decide +kernel)
  exact absurd acked (by decide +kernel)

end Samples

end EmotoFleet.WebhookDispatcher
