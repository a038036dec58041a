import EmotoFleet.Events.CrashIncidents
import EmotoFleet.Foundations.Pipelines

/-!
# Webhooks of partners

An event reaches the webhooks of partners on two ways. The call that stores a severe
crash notifies them itself, as soon as the incident is open. An event that a device has
sent is also published to the telemetry stream; the stream processor passes alerts on to
the outbox of webhooks, and the dispatcher notifies from there. Events of the rules go to
a stream of their own that nothing reads, and calls for help from the rider's app to none.

The main result says for which events, origins and partners the two ways together notify
each entitled webhook exactly once and no other.

Nothing fails here. The partners, their webhooks and the bikes are given; the queue that
sends the notifications, the audit log and the free text of the payloads are left out.
-/

namespace EmotoFleet.PartnerWebhooks

open CrashIncidents (CreateFleetEventInput FleetEvent isSevereCrash sameSlot)
open RulesEngine (EventType Severity)
open Pipelines Runs Tables

/-- A partner. -/
structure Partner where
  id : String
  isActive : Bool
deriving DecidableEq

/-- A fleet opened to a partner. -/
structure PartnerFleetAccess where
  partnerId : String
  fleetId : String
  active : Bool
deriving DecidableEq

/-- A webhook of a partner. -/
structure PartnerWebhook where
  id : Nat
  partnerId : String
  url : String
  active : Bool
deriving DecidableEq

/-- A user with the plan and the insurer name of its fleet. Insurers are partners under
the number of their user. -/
structure PartnerUser where
  id : String
  hasInsurancePlan : Bool
  insurerName : Option String
deriving DecidableEq

/-- A bike and its insurer. -/
structure Bike where
  id : String
  fleetId : String
  insurerName : Option String
deriving DecidableEq

/-- The tables that say who is notified. -/
structure Registry where
  partners : List Partner
  accesses : List PartnerFleetAccess
  webhooks : List PartnerWebhook
  users : List PartnerUser
  bikes : List Bike
  webhookId_unique : (webhooks.map PartnerWebhook.id).Nodup
  userId_unique : (users.map PartnerUser.id).Nodup
deriving DecidableEq

/-- What a webhook is told. An event is known by its device, its instant and its type. -/
structure WebhookPayload where
  deviceId : String
  ts : Int
  type : EventType
  severity : Severity
deriving DecidableEq

/-- The events that webhooks are sent. -/
inductive WebhookEvent where
  | incidentCrashCreated
  | fleetAlert
deriving DecidableEq

/-- A notification for a webhook. -/
structure Notification where
  fleetId : String
  recipient : String
  partnerWebhookId : Nat
  event : WebhookEvent
  payloadJson : WebhookPayload
deriving DecidableEq

/-- The kinds of stream entries. -/
inductive EntryKind where
  | telemetry
  | event
  | command_ack
deriving DecidableEq

/-- An entry of the telemetry stream. -/
structure StreamEntry where
  kind : EntryKind
  fleetId : String
  payload : WebhookPayload
deriving DecidableEq

/-- An entry of the outbox of webhooks. -/
structure OutboxEntry where
  fleetId : String
  payload : WebhookPayload
deriving DecidableEq

/-- Where an event comes from. -/
inductive Origin where
  | device
  | rule
  | rider
deriving DecidableEq

/-- What the services read of the environment. -/
structure Settings where
  incidentCrashMinSeverity : Severity
  streamEnabled : Bool
deriving DecidableEq

section Lookups

variable (registry : Registry)

/-- Whether a partner is active. -/
def isActivePartner (partnerId : String) : Bool :=
  registry.partners.any fun partner => partner.id == partnerId && partner.isActive

/-- A grant of access to the fleet that is active. -/
def hasAccess (partnerId fleetId : String) : Bool :=
  registry.accesses.any fun access =>
    access.partnerId == partnerId && access.fleetId == fleetId && access.active

/-- The webhook is active, and its partner is active and has access to the fleet. -/
def isSubscribed (fleetId : String) (webhook : PartnerWebhook) : Bool :=
  webhook.active && isActivePartner registry webhook.partnerId &&
    hasAccess registry webhook.partnerId fleetId

/-- The webhooks that are subscribed to a fleet. -/
def subscribed (fleetId : String) : List PartnerWebhook :=
  registry.webhooks.filter (isSubscribed registry fleetId)

/-- Whether a partner insures. -/
def isInsurer (partnerId : String) : Bool :=
  registry.users.any fun user => user.id == partnerId && user.hasInsurancePlan

/-- The insurer of the bike, if there is a bike. -/
def bikeInsurer (bikeId : Option String) : Option String :=
  bikeId.bind fun bikeId =>
    (registry.bikes.find? fun bike => bike.id == bikeId).bind Bike.insurerName

/-- The partner's insurer name is set, not empty, and the one of the bike. -/
def insuresBike (partnerId : String) (bikeId : Option String) : Bool :=
  match (registry.users.find? fun user => user.id == partnerId).bind PartnerUser.insurerName with
  | none => false
  | some name => name != "" && bikeInsurer registry bikeId == some name

end Lookups

section Paths

variable (settings : Settings) (registry : Registry)

/-- What a webhook is told of an event. -/
def payloadOf (event : FleetEvent) : WebhookPayload :=
  ⟨event.deviceId, event.ts, event.type, event.severity⟩

/-- The first way: an incident has been opened for a crash. -/
def enqueueCrashIncidentWebhooks (event : FleetEvent) : List Notification :=
  if event.type ≠ .CRASH then []
  else
    ((subscribed registry event.fleetId).filter fun webhook =>
        !isInsurer registry webhook.partnerId ||
          insuresBike registry webhook.partnerId event.bikeId).map fun webhook =>
      ⟨event.fleetId, webhook.url, webhook.id, .incidentCrashCreated, payloadOf event⟩

/-- Whether an event is an alert. -/
def isAlert (type : EventType) : Bool :=
  type == .CRASH || type == .SOS || type == .THEFT_SUSPECTED

/-- The stream processor passes alerts on; other entries have no webhooks. -/
def handleEntry (entry : StreamEntry) : List OutboxEntry :=
  if entry.kind == .event && isAlert entry.payload.type then [⟨entry.fleetId, entry.payload⟩] else []

/-- The dispatcher notifies every subscribed webhook. -/
def processEntry (entry : OutboxEntry) : List Notification :=
  if entry.fleetId == "" || !isAlert entry.payload.type then []
  else
    (subscribed registry entry.fleetId).map fun webhook =>
      ⟨entry.fleetId, webhook.url, webhook.id, .fleetAlert, entry.payload⟩

/-- The second way: what is published about an event. -/
def publish (origin : Origin) (event : FleetEvent) : List StreamEntry :=
  if origin == .device && settings.streamEnabled then [⟨.event, event.fleetId, payloadOf event⟩]
  else []

/-- What the call that stores an event notifies itself. -/
def notifyDirectly (event : FleetEvent) : List Notification :=
  if isSevereCrash settings.incidentCrashMinSeverity event then
    enqueueCrashIncidentWebhooks registry event
  else []

/-- A stored event, with a note of its origin. -/
structure StoredEvent where
  event : FleetEvent
  origin : Origin
deriving DecidableEq

/-- The events and the pipeline behind them. -/
structure World where
  events : List StoredEvent
  pipeline : Pipeline StreamEntry OutboxEntry Notification

/-- What happens: an event is raised, another entry is published, or the processor or the
dispatcher takes the next entry. -/
inductive Action where
  | raise (origin : Origin) (input : CreateFleetEventInput)
  | publishOther (kind : EntryKind) (fleetId : String) (payload : WebhookPayload)
  | handleNext
  | dispatchNext

/-- An event that the table refuses ends its call. -/
def raise (world : World) (origin : Origin) (input : CreateFleetEventInput) : World :=
  if world.events.any fun stored => sameSlot input stored.event then world
  else
    let event : FleetEvent := { input with id := world.events.length }
    { events := world.events ++ [⟨event, origin⟩]
      pipeline := (world.pipeline.deliver (notifyDirectly settings registry event)).submit
        (publish settings origin event) }

/-- One step of the services. -/
def step (world : World) : Action → World
  | .raise origin input => raise settings registry world origin input
  | .publishOther kind fleetId payload =>
    let entries := if kind == .event then [] else [⟨kind, fleetId, payload⟩]
    { world with pipeline := world.pipeline.submit entries }
  | .handleNext => { world with pipeline := world.pipeline.handleNext handleEntry }
  | .dispatchNext =>
    { world with pipeline := world.pipeline.dispatchNext (processEntry registry) }

/-- Nothing has happened yet. -/
def start : World := ⟨[], .empty⟩

/-- The queues are empty. -/
def Drained (world : World) : Prop :=
  world.pipeline.incoming = [] ∧ world.pipeline.outgoing = []

/-- A notification about an event for a webhook. -/
def concerns (event : FleetEvent) (webhook : PartnerWebhook) (notification : Notification) : Bool :=
  notification.partnerWebhookId == webhook.id &&
    notification.payloadJson.deviceId == event.deviceId &&
    notification.payloadJson.ts == event.ts && notification.payloadJson.type == event.type

/-- An insurer is entitled to the bikes insured under its name, any other partner to the
fleets with active access. -/
def entitled (webhook : PartnerWebhook) (event : FleetEvent) : Bool :=
  webhook.active && isActivePartner registry webhook.partnerId &&
    if isInsurer registry webhook.partnerId then
      insuresBike registry webhook.partnerId event.bikeId
    else hasAccess registry webhook.partnerId event.fleetId

/-- Each entitled webhook has one notification about each alert, and no other has any. -/
def ExactlyOnce (world : World) : Prop :=
  ∀ stored ∈ world.events, isAlert stored.event.type = true → ∀ webhook ∈ registry.webhooks,
    world.pipeline.delivered.countP (concerns stored.event webhook) =
      (entitled registry webhook stored.event).toNat

/-- An alert goes through the stream. -/
def isPublished (stored : StoredEvent) : Bool :=
  stored.origin == .device && settings.streamEnabled && stored.event.fleetId != ""

/-- The two ways of an alert together reach the entitled webhooks only, each of them on
exactly one way. -/
def Covered (world : World) : Prop :=
  ∀ stored ∈ world.events, isAlert stored.event.type = true → ∀ webhook ∈ registry.webhooks,
    (entitled registry webhook stored.event = true →
      hasAccess registry webhook.partnerId stored.event.fleetId = true ∧
        isSevereCrash settings.incidentCrashMinSeverity stored.event = !isPublished settings stored) ∧
    (entitled registry webhook stored.event = false →
      isSubscribed registry stored.event.fleetId webhook = true → isPublished settings stored = false)

end Paths

section Accounts

variable {settings : Settings} {registry : Registry}

/-- What an event gives rise to on both ways. -/
def produced (settings : Settings) (registry : Registry) (stored : StoredEvent) : List Notification :=
  notifyDirectly settings registry stored.event ++
    (publish settings stored.origin stored.event).flatMap
      (Pipeline.through handleEntry (processEntry registry))

/-- An event is known by its device, its instant and its type. -/
def slot (stored : StoredEvent) : String × Int × EventType :=
  (stored.event.deviceId, stored.event.ts, stored.event.type)

/-- Every notification that is made, now or later, comes from an event, and no two events
have one slot. -/
structure Conserved (settings : Settings) (registry : Registry) (world : World) : Prop where
  distinct : (world.events.map slot).Nodup
  balance : (Pipeline.yield handleEntry (processEntry registry) world.pipeline).Perm
    (world.events.flatMap (produced settings registry))

/-- Nothing is missing at the start. -/
theorem conserved_start : Conserved settings registry start :=
  ⟨List.nodup_nil, List.Perm.refl _⟩

/-- A raised event is accounted for. -/
theorem conserved_raise {world : World} (conserved : Conserved settings registry world)
    (origin : Origin) (input : CreateFleetEventInput) :
    Conserved settings registry (raise settings registry world origin input) := by
  unfold raise
  split
  · exact conserved
  · rename_i vacant
    refine ⟨(unique_append_iff _).mpr ⟨conserved.distinct, ?_⟩, ?_⟩
    · intro listed
      obtain ⟨earlier, stored, same⟩ := List.mem_map.mp listed
      simp only [slot, Prod.mk.injEq] at same
      exact vacant (List.any_eq_true.mpr ⟨earlier, stored, by simp [sameSlot, same]⟩)
    · rw [Pipeline.yield_submit, List.flatMap_append, List.flatMap_singleton, produced,
        ← List.append_assoc]
      refine List.Perm.append_right _ ?_
      exact (Pipeline.yield_deliver ..).trans (conserved.balance.append_right _)

/-- Every step keeps the events accounted for. -/
theorem conserved_step {world : World} (conserved : Conserved settings registry world)
    (action : Action) : Conserved settings registry (step settings registry world action) := by
  cases action with
  | raise origin input => exact conserved_raise conserved origin input
  | publishOther kind fleetId payload =>
    refine ⟨conserved.distinct, ?_⟩
    have silent : (if kind == .event then [] else [StreamEntry.mk kind fleetId payload]).flatMap
        (Pipeline.through handleEntry (processEntry registry)) = [] := by
      by_cases isEvent : kind = .event
      · simp [isEvent]
      · simp [isEvent, Pipeline.through, handleEntry]
    rw [step, Pipeline.yield_submit, silent, List.append_nil]
    exact conserved.balance
  | handleNext =>
    refine ⟨conserved.distinct, ?_⟩
    rw [step, Pipeline.yield_handleNext]
    exact conserved.balance
  | dispatchNext =>
    refine ⟨conserved.distinct, ?_⟩
    rw [step, Pipeline.yield_dispatchNext]
    exact conserved.balance

/-- Every run keeps the events accounted for. -/
theorem conserved_run (actions : List Action) :
    Conserved settings registry (actions.foldl (step settings registry) start) :=
  invariant_reached (Conserved settings registry)
    (fun _ action _ conserved _ moved => Option.some.inj moved ▸ conserved_step conserved action)
    conserved_start (along_true _ _ actions) (run_total _ _ actions)

/-- Notifications of webhooks chosen from the table: a webhook has one if it was chosen. -/
theorem countP_notifications {webhook : PartnerWebhook} (listed : webhook ∈ registry.webhooks)
    (event : FleetEvent) (chosen : PartnerWebhook → Bool) (kind : WebhookEvent) :
    ((registry.webhooks.filter chosen).map fun webhook => (⟨event.fleetId, webhook.url, webhook.id,
        kind, payloadOf event⟩ : Notification)).countP (concerns event webhook) =
      (chosen webhook).toNat := by
  rw [List.countP_map, ← countP_key registry.webhookId_unique listed chosen]
  congr 1
  funext other
  simp [concerns, payloadOf, beq_eq_decide]

/-- The notification is about the event's device, instant and type. -/
theorem concerns_slot {event : FleetEvent} {webhook : PartnerWebhook} {notification : Notification}
    (concerned : concerns event webhook notification = true) :
    notification.payloadJson.deviceId = event.deviceId ∧ notification.payloadJson.ts = event.ts ∧
      notification.payloadJson.type = event.type := by
  simp only [concerns, Bool.and_eq_true, beq_iff_eq] at concerned
  exact ⟨concerned.1.1.2, concerned.1.2, concerned.2⟩

/-- What an event gives rise to is about that event. -/
theorem payload_of_produced {stored : StoredEvent} {notification : Notification}
    (made : notification ∈ produced settings registry stored) :
    notification.payloadJson = payloadOf stored.event := by
  rcases List.mem_append.mp made with direct | published
  · rw [notifyDirectly, enqueueCrashIncidentWebhooks] at direct
    split at direct
    · split at direct
      · cases direct
      · obtain ⟨_, _, same⟩ := List.mem_map.mp direct
        rw [← same]
    · cases direct
  · obtain ⟨entry, listed, through_⟩ := List.mem_flatMap.mp published
    rw [publish] at listed
    split at listed
    · obtain ⟨outbox, handled, dispatched⟩ := List.mem_flatMap.mp through_
      rw [List.mem_singleton.mp listed, handleEntry] at handled
      split at handled
      · rw [List.mem_singleton.mp handled, processEntry] at dispatched
        split at dispatched
        · cases dispatched
        · obtain ⟨_, _, same⟩ := List.mem_map.mp dispatched
          rw [← same]
      · cases handled
    · cases listed

/-- The first way notifies, for a severe crash, the subscribed webhooks whose partner is
no insurer or insures the bike. -/
theorem count_direct {webhook : PartnerWebhook} (listed : webhook ∈ registry.webhooks)
    (event : FleetEvent) :
    (notifyDirectly settings registry event).countP (concerns event webhook) =
      (isSevereCrash settings.incidentCrashMinSeverity event &&
        (isSubscribed registry event.fleetId webhook && (!isInsurer registry webhook.partnerId ||
          insuresBike registry webhook.partnerId event.bikeId))).toNat := by
  rw [notifyDirectly]
  cases severe : isSevereCrash settings.incidentCrashMinSeverity event with
  | false => simp
  | true =>
    have crash : event.type = .CRASH := by
      simp only [isSevereCrash, Bool.and_eq_true, beq_iff_eq] at severe
      exact severe.1
    rw [if_pos rfl, enqueueCrashIncidentWebhooks, if_neg (not_not.mpr crash), subscribed,
      List.filter_filter, countP_notifications listed event _ .incidentCrashCreated, Bool.true_and,
      Bool.and_comm]

/-- The second way notifies, for an alert that goes through the stream, the subscribed
webhooks. -/
theorem count_published {webhook : PartnerWebhook} (listed : webhook ∈ registry.webhooks)
    {stored : StoredEvent} (alert : isAlert stored.event.type = true) :
    ((publish settings stored.origin stored.event).flatMap
        (Pipeline.through handleEntry (processEntry registry))).countP
          (concerns stored.event webhook) =
      (isPublished settings stored &&
        isSubscribed registry stored.event.fleetId webhook).toNat := by
  rw [publish, isPublished]
  cases sent : stored.origin == .device && settings.streamEnabled with
  | false => simp
  | true =>
    rw [if_pos rfl, List.flatMap_singleton, Pipeline.through, handleEntry]
    have passes : ((EntryKind.event == EntryKind.event) && isAlert (payloadOf stored.event).type) =
        true := by simpa [payloadOf] using alert
    rw [if_pos passes, List.flatMap_singleton, processEntry]
    by_cases nameless : stored.event.fleetId = ""
    · simp [nameless]
    · have dispatched : ¬ (stored.event.fleetId == "" || !isAlert (payloadOf stored.event).type) =
          true := by simp [nameless, payloadOf, alert]
      have named : (stored.event.fleetId != "") = true := by simpa using nameless
      rw [if_neg dispatched, subscribed, countP_notifications listed stored.event _ .fleetAlert,
        named, Bool.true_and, Bool.true_and]

/-- Once the queues are empty, a webhook has the notifications of both ways. -/
theorem count_delivered {world : World} (conserved : Conserved settings registry world)
    (drained : Drained world) {webhook : PartnerWebhook} (listed : webhook ∈ registry.webhooks)
    {stored : StoredEvent} (member : stored ∈ world.events)
    (alert : isAlert stored.event.type = true) :
    world.pipeline.delivered.countP (concerns stored.event webhook) =
      (isSevereCrash settings.incidentCrashMinSeverity stored.event &&
        (isSubscribed registry stored.event.fleetId webhook &&
          (!isInsurer registry webhook.partnerId ||
            insuresBike registry webhook.partnerId stored.event.bikeId))).toNat +
      (isPublished settings stored &&
        isSubscribed registry stored.event.fleetId webhook).toNat := by
  have balance := conserved.balance
  rw [Pipeline.yield_drained _ _ _ drained.1 drained.2] at balance
  rw [balance.countP_eq, countP_flatMap_key _ _ conserved.distinct member, produced,
    List.countP_append, count_direct listed, count_published listed alert]
  -- Other events have other slots, and what they give rise to is about them.
  intro other _ apart
  apply List.countP_eq_zero.mpr
  intro notification made concerned
  obtain ⟨device, instant, type⟩ := concerns_slot concerned
  rw [payload_of_produced made] at device instant type
  exact apart (by rw [slot, slot, ← device, ← instant, ← type]; rfl)

end Accounts

/-- When the queues are empty, every alert has notified each entitled webhook exactly once
and no other, if and only if the two ways together cover them. -/
theorem exactlyOnce_iff (settings : Settings) (registry : Registry) (actions : List Action)
    (drained : Drained (actions.foldl (step settings registry) start)) :
    ExactlyOnce registry (actions.foldl (step settings registry) start) ↔
      Covered settings registry (actions.foldl (step settings registry) start) := by
  have conserved : Conserved settings registry (actions.foldl (step settings registry) start) :=
    conserved_run actions
  apply forall₂_congr
  intro stored member
  apply forall_congr'
  intro alert
  apply forall₂_congr
  intro webhook listed
  rw [count_delivered conserved drained listed member alert, isSubscribed, entitled]
  -- What remains is a statement about seven yes-or-no questions.
  generalize webhook.active = active
  generalize isActivePartner registry webhook.partnerId = partner
  generalize hasAccess registry webhook.partnerId stored.event.fleetId = access
  generalize isInsurer registry webhook.partnerId = insurer
  generalize insuresBike registry webhook.partnerId stored.event.bikeId = insures
  generalize isSevereCrash settings.incidentCrashMinSeverity stored.event = severe
  generalize isPublished settings stored = published
  revert active partner access insurer insures severe published
  decide

/-- One partner with access to one fleet, and its webhook. -/
def sampleRegistry : Registry where
  partners := [⟨"partner", true⟩]
  accesses := [⟨"partner", "fleet", true⟩]
  webhooks := [⟨1, "partner", "https://partner.example/hook", true⟩]
  users := []
  bikes := [⟨"bike", "fleet", none⟩]
  webhookId_unique := by decide
  userId_unique := by decide

/-- Settings with the stream enabled. -/
def sampleSettings : Settings := ⟨.HIGH, true⟩

/-- A severe crash. -/
def sampleCrash : CreateFleetEventInput := ⟨"fleet", some "bike", "device", 0, .CRASH, .CRITICAL⟩

/-- A crash that a rule has detected. -/
theorem exactlyOnce_ruleCrash :
    ExactlyOnce sampleRegistry
      ([.raise .rule sampleCrash].foldl (step sampleSettings sampleRegistry) start) := by
  refine (exactlyOnce_iff sampleSettings sampleRegistry [.raise .rule sampleCrash] ⟨rfl, rfl⟩).mpr ?_
  rw [Covered]
  decide

/-- A crash that the device has sent is notified twice. -/
theorem crash_notified_twice :
    ¬ ∀ settings registry (actions : List Action), Drained (actions.foldl (step settings registry) start) →
      ExactlyOnce registry (actions.foldl (step settings registry) start) := by
  intro claim
  have once := claim sampleSettings sampleRegistry
    [.raise .device sampleCrash, .handleNext, .dispatchNext] ⟨rfl, rfl⟩
    ⟨{ sampleCrash with id := 0 }, .device⟩ (List.mem_singleton_self _) rfl
    ⟨1, "partner", "https://partner.example/hook", true⟩ (List.mem_singleton_self _)
  revert once
  decide

end EmotoFleet.PartnerWebhooks
