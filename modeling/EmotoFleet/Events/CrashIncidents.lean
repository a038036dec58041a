import EmotoFleet.Foundations.Runs
import EmotoFleet.Foundations.Tables
import EmotoFleet.Telemetry.RulesEngine

/-!
# Incidents of crash events

An event is stored first; then a transaction of its own opens an incident for it,
together with a notification for each emergency contact and each channel of each
operator. The table of events admits one event of a device, an instant and a type, the
table of incidents one incident of an event. Calls interleave, and each of them can fail
wherever it stands: an exception, a timeout, the end of the process.

No call takes up an event that another one has stored. A failure between the event and
the transaction therefore leaves the event without an incident for good, and the main
result says that nothing else does.

The broadcasts, the evidence pack, the queue that sends the notifications and the
webhooks of partners come after the transaction or change no table that is modelled.
-/

namespace EmotoFleet.CrashIncidents

open RulesEngine (EventType Severity)
open Runs Tables

/-- The rank of each severity. -/
def SEVERITY_ORDER : Severity → Nat
  | .LOW => 1
  | .MEDIUM => 2
  | .HIGH => 3
  | .CRITICAL => 4

/-- What an event is created from. -/
structure CreateFleetEventInput where
  fleetId : String
  bikeId : Option String
  deviceId : String
  ts : Int
  type : EventType
  severity : Severity
deriving DecidableEq

/-- A stored event. -/
structure FleetEvent extends CreateFleetEventInput where
  id : Nat
deriving DecidableEq

/-- The kinds of alerts. -/
inductive NotificationType where
  | CRASH_ALERT
  | SOS_ALERT
deriving DecidableEq

/-- The ways by which an alert goes out. -/
inductive NotificationChannel where
  | SMS
  | EMAIL
deriving DecidableEq

/-- A contact of a fleet. -/
structure EmergencyContact where
  fleetId : String
  phone : String
  active : Bool
deriving DecidableEq

/-- A user of a fleet, with what they want to hear of. -/
structure User where
  fleetId : String
  isActive : Bool
  notifCrashEvents : Bool
  notifSosAlerts : Bool
  email : Option String
  phone : Option String
deriving DecidableEq

/-- Who is configured, and which fleets are personal. -/
structure Directory where
  contacts : List EmergencyContact
  users : List User
  personalFleets : List String
deriving DecidableEq

/-- What an alert tells. -/
structure NotificationPayload where
  incidentId : Nat
  eventId : Nat
  bikeId : Option String
  deviceId : String
  severity : Severity
  eventTs : Int
  eventType : EventType
deriving DecidableEq

/-- An alert for one recipient. -/
structure Notification where
  fleetId : String
  type : NotificationType
  channel : NotificationChannel
  recipient : String
  payloadJson : NotificationPayload
deriving DecidableEq

/-- An incident. The kind of its notifications and the directory at its opening are notes
of the model. -/
structure Incident where
  id : Nat
  eventId : Nat
  fleetId : String
  bikeId : Option String
  deviceId : String
  kind : NotificationType
  directory : Directory
deriving DecidableEq

/-- A text that is set and not empty. -/
def present (text : Option String) : List String := (text.filter fun text => text != "").toList

/-- The setting of an operator that a kind of notification asks for. -/
def NotificationType.wantedBy : NotificationType → User → Bool
  | .CRASH_ALERT => User.notifCrashEvents
  | .SOS_ALERT => User.notifSosAlerts

/-- Every active contact by message; every active operator who wants it by mail and by
message, as far as there is an address. -/
def recipients (kind : NotificationType) (directory : Directory) (fleetId : String) :
    List (NotificationChannel × String) :=
  ((directory.contacts.filter fun contact => contact.fleetId == fleetId && contact.active).map
      fun contact => (.SMS, contact.phone)) ++
    (directory.users.filter fun user =>
        user.fleetId == fleetId && user.isActive && kind.wantedBy user).flatMap fun user =>
      (present user.email).map (fun email => (.EMAIL, email)) ++
        (present user.phone).map fun phone => (.SMS, phone)

/-- The alerts for an incident, one for each recipient and channel. -/
def notificationsFor (kind : NotificationType) (directory : Directory) (event : FleetEvent)
    (incidentId : Nat) : List Notification :=
  (recipients kind directory event.fleetId).map fun (channel, recipient) =>
    { fleetId := event.fleetId, type := kind, channel, recipient
      payloadJson := { incidentId, eventId := event.id, bikeId := event.bikeId,
                       deviceId := event.deviceId, severity := event.severity,
                       eventTs := event.ts, eventType := event.type } }

/-- A call of `createFleetEvent`, by the access that it makes next: the event, the search
for an incident that exists, the transaction that opens one. -/
inductive Call where
  | creating (input : CreateFleetEventInput)
  | stored (event : FleetEvent)
  | opening (kind : NotificationType) (event : FleetEvent)
deriving DecidableEq

/-- The event that a call has stored. -/
def Call.event? : Call → Option FleetEvent
  | .creating _ => none
  | .stored event => some event
  | .opening _ event => some event

/-- The rows that the service writes and the calls under way. -/
structure World where
  directory : Directory
  events : List FleetEvent
  incidents : List Incident
  notifications : List Notification
  calls : List Call
deriving DecidableEq

/-- What may happen next. -/
inductive Action where
  | configure (directory : Directory)
  | deliver (input : CreateFleetEventInput)
  | proceed (position : Nat)
  | fail (position : Nat)

section Steps

variable (incidentCrashMinSeverity : Severity)

/-- A crash at or above the threshold. -/
def isSevereCrash (event : FleetEvent) : Bool :=
  event.type == .CRASH &&
    decide (SEVERITY_ORDER incidentCrashMinSeverity ≤ SEVERITY_ORDER event.severity)

/-- The incident that an event calls for: severe crashes, and calls for help in fleets of
one person. -/
def incidentKind (directory : Directory) (event : FleetEvent) : Option NotificationType :=
  if isSevereCrash incidentCrashMinSeverity event then some .CRASH_ALERT
  else if event.type == .SOS && directory.personalFleets.contains event.fleetId then
    some .SOS_ALERT
  else none

/-- Whether an event is that of the same device, instant and kind. -/
def sameSlot (input : CreateFleetEventInput) (event : FleetEvent) : Bool :=
  event.deviceId == input.deviceId && event.ts == input.ts && event.type == input.type

/-- Whether an incident was opened for an event. -/
def hasIncident (world : World) (event : FleetEvent) : Bool :=
  world.incidents.any fun incident => incident.eventId == event.id

/-- An incident and its alerts, written together. -/
def openIncident (world : World) (kind : NotificationType) (event : FleetEvent) : World :=
  { world with
    incidents := world.incidents ++
      [{ id := world.incidents.length, eventId := event.id, fleetId := event.fleetId,
         bikeId := event.bikeId, deviceId := event.deviceId, kind, directory := world.directory }]
    notifications := world.notifications ++
      notificationsFor kind world.directory event world.incidents.length }

/-- One access of a call: the world after it, and the call that remains. Where a unique
column refuses a row, the call ends. -/
def advance (world : World) : Call → World × List Call
  | .creating input =>
    if world.events.any (sameSlot input) then (world, [])
    else
      let event := { input with id := world.events.length }
      ({ world with events := world.events ++ [event] }, [.stored event])
  | .stored event =>
    match incidentKind incidentCrashMinSeverity world.directory event with
    | none => (world, [])
    | some kind => (world, if hasIncident world event then [] else [.opening kind event])
  | .opening kind event =>
    if hasIncident world event then (world, []) else (openIncident world kind event, [])

/-- One step of the service. -/
def step (world : World) : Action → Option World
  | .configure directory => some { world with directory }
  | .deliver input => some { world with calls := world.calls ++ [.creating input] }
  | .proceed position =>
    world.calls[position]?.map fun call =>
      { (advance incidentCrashMinSeverity world call).1 with
        calls := world.calls.eraseIdx position ++ (advance incidentCrashMinSeverity world call).2 }
  | .fail position =>
    world.calls[position]?.map fun _ => { world with calls := world.calls.eraseIdx position }

/-- A world in which nothing has happened yet. -/
def start (directory : Directory) : World := ⟨directory, [], [], [], []⟩

/-- The event has exactly one incident, and every contact and channel configured at its
opening exactly one notification. -/
def Complete (world : World) (event : FleetEvent) : Prop :=
  ∃ incident, world.incidents.filter (fun incident => decide (incident.eventId = event.id)) = [incident] ∧
    world.notifications.filter (fun notification => decide (notification.payloadJson.eventId = event.id)) =
      notificationsFor .CRASH_ALERT incident.directory event incident.id

/-- A call that has stored the event has not ended yet. -/
def UnderWay (world : World) (event : FleetEvent) : Prop :=
  ∃ call ∈ world.calls, call.event? = some event

/-- Every severe crash has its incident and its notifications, once its call has ended. -/
def EveryCrashOpens (world : World) : Prop :=
  ∀ event ∈ world.events, isSevereCrash incidentCrashMinSeverity event = true →
    UnderWay world event ∨ Complete world event

/-- The action is no failure of a call that has stored a severe crash. -/
def Survives (world : World) (action : Action) : Prop :=
  match action with
  | .fail position => ∀ call, world.calls[position]? = some call → ∀ event,
      call.event? = some event → isSevereCrash incidentCrashMinSeverity event = false
  | _ => True

end Steps

section Accounts

/-- The event that a call has to see to. -/
def heldIds (call : Call) : List Nat := (call.event?.map FleetEvent.id).toList

/-- The events that a call has to see to, and those with an incident. -/
def accounted (world : World) : List Nat :=
  world.calls.flatMap heldIds ++ world.incidents.map Incident.eventId

/-- What holds of every world, whatever fails: no event is seen to twice, and every
incident has the notifications of its event. -/
structure Orderly (world : World) : Prop where
  numbered : world.events.map FleetEvent.id = List.range world.events.length
  once : (accounted world).Nodup
  held : ∀ call ∈ world.calls, ∀ event, call.event? = some event → event ∈ world.events ∧
    ∀ kind, call = .opening kind event → event.type = .CRASH → kind = .CRASH_ALERT
  opened : ∀ incident ∈ world.incidents, ∃ event ∈ world.events, event.id = incident.eventId ∧
    (event.type = .CRASH → incident.kind = .CRASH_ALERT) ∧
    world.notifications.filter (fun notification => decide (notification.payloadJson.eventId = event.id)) =
      notificationsFor incident.kind incident.directory event incident.id
  announced : ∀ notification ∈ world.notifications,
    notification.payloadJson.eventId ∈ world.incidents.map Incident.eventId

variable {world : World}

/-- An event is known by its number. -/
theorem eq_of_id_eq (orderly : Orderly world) {left right : FleetEvent} (leftStored : left ∈ world.events)
    (rightStored : right ∈ world.events) (same : left.id = right.id) : left = right :=
  eq_of_key_eq (orderly.numbered ▸ List.nodup_range) leftStored rightStored same

/-- An event's number is below the number of events. -/
theorem id_lt (orderly : Orderly world) {event : FleetEvent} (stored : event ∈ world.events) :
    event.id < world.events.length := by
  have numbered : event.id ∈ world.events.map FleetEvent.id := List.mem_map_of_mem stored
  rw [orderly.numbered] at numbered
  exact List.mem_range.mp numbered

/-- The numbers that a call holds are those of its event. -/
theorem mem_heldIds {call : Call} {id : Nat} :
    id ∈ heldIds call ↔ ∃ event, call.event? = some event ∧ event.id = id := by
  simp [heldIds]

/-- Every number that is accounted for is that of an event. -/
theorem event_of_accounted (orderly : Orderly world) {id : Nat} (listed : id ∈ accounted world) :
    ∃ event ∈ world.events, event.id = id := by
  rcases List.mem_append.mp listed with called | opened
  · obtain ⟨call, open_, holds⟩ := List.mem_flatMap.mp called
    obtain ⟨event, holdsEvent, same⟩ := mem_heldIds.mp holds
    exact ⟨event, (orderly.held call open_ event holdsEvent).1, same⟩
  · obtain ⟨incident, member, same⟩ := List.mem_map.mp opened
    obtain ⟨event, stored, ofEvent, _⟩ := orderly.opened incident member
    exact ⟨event, stored, ofEvent.trans same⟩

/-- A severe crash is under way or has its incident exactly if it is accounted for. -/
theorem accounted_iff {minSeverity : Severity} (orderly : Orderly world) {event : FleetEvent}
    (stored : event ∈ world.events) (severe : isSevereCrash minSeverity event = true) :
    event.id ∈ accounted world ↔ UnderWay world event ∨ Complete world event := by
  have crash : event.type = .CRASH := by
    simp only [isSevereCrash, Bool.and_eq_true, beq_iff_eq] at severe
    exact severe.1
  rw [accounted, List.mem_append, List.mem_flatMap, List.mem_map]
  apply or_congr
  · constructor
    · rintro ⟨call, open_, holds⟩
      obtain ⟨other, holdsOther, same⟩ := mem_heldIds.mp holds
      have equal := eq_of_id_eq orderly (orderly.held call open_ other holdsOther).1 stored same
      exact ⟨call, open_, equal ▸ holdsOther⟩
    · rintro ⟨call, open_, holds⟩
      exact ⟨call, open_, mem_heldIds.mpr ⟨event, holds, rfl⟩⟩
  · constructor
    · rintro ⟨incident, member, same⟩
      obtain ⟨other, otherStored, ofOther, kind, sent⟩ := orderly.opened incident member
      have equal : other = event := eq_of_id_eq orderly otherStored stored (ofOther.trans same)
      subst equal
      have single := filter_key_eq (List.nodup_append.mp orderly.once).2.1 member
      rw [← ofOther] at single
      exact ⟨incident, single, by rw [sent, kind crash]⟩
    · rintro ⟨incident, single, _⟩
      have member : incident ∈ world.incidents.filter fun other => decide (other.eventId = event.id) :=
        single ▸ List.mem_singleton_self incident
      exact ⟨incident, List.mem_of_mem_filter member, of_decide_eq_true (List.mem_filter.mp member).2⟩

end Accounts

section Preservation

variable {world : World}

/-- What is accounted for, with the events of one call in front. -/
theorem accounted_split {position : Nat} {call : Call} (found : world.calls[position]? = some call) :
    (accounted world).Perm (heldIds call ++
      ((world.calls.eraseIdx position).flatMap heldIds ++ world.incidents.map Incident.eventId)) := by
  obtain ⟨bound, rfl⟩ := List.getElem?_eq_some_iff.mp found
  have moved := (List.getElem_cons_eraseIdx_perm bound).flatMap_right heldIds
  rw [accounted, ← List.append_assoc]
  exact (moved.symm.trans (List.Perm.refl _)).append_right _

/-- What is accounted for after a call has been replaced. -/
theorem accounted_replace (incidents : List Incident) (position : Nat) (rest : List Call) :
    ((world.calls.eraseIdx position ++ rest).flatMap heldIds ++ incidents.map Incident.eventId).Perm
      (rest.flatMap heldIds ++ ((world.calls.eraseIdx position).flatMap heldIds ++
        incidents.map Incident.eventId)) := by
  rw [List.flatMap_append, ← List.append_assoc]
  exact List.perm_append_comm.append_right _

/-- A call that ends or goes on with its event leaves the world in order. -/
theorem orderly_replace (orderly : Orderly world) {position : Nat} {call : Call}
    (found : world.calls[position]? = some call) {rest : List Call}
    (shrinks : (rest.flatMap heldIds).Sublist (heldIds call))
    (valid : ∀ other ∈ rest, ∀ event, other.event? = some event → event ∈ world.events ∧
      ∀ kind, other = .opening kind event → event.type = .CRASH → kind = .CRASH_ALERT) :
    Orderly { world with calls := world.calls.eraseIdx position ++ rest } where
  numbered := orderly.numbered
  once := by
    have before := (accounted_split found).nodup_iff.mp orderly.once
    exact (accounted_replace world.incidents position rest).nodup_iff.mpr
      (before.sublist (shrinks.append_right _))
  held := by
    intro other member
    rcases List.mem_append.mp member with old | new
    · exact orderly.held other (List.mem_of_mem_eraseIdx old)
    · exact valid other new
  opened := orderly.opened
  announced := orderly.announced

/-- A new event is seen to by the call that has stored it. -/
theorem orderly_store (orderly : Orderly world) {position : Nat} {input : CreateFleetEventInput}
    (found : world.calls[position]? = some (.creating input)) :
    Orderly { world with
      events := world.events ++ [{ input with id := world.events.length }]
      calls := world.calls.eraseIdx position ++
        [.stored { input with id := world.events.length }] } := by
  have kept : ∀ event ∈ world.events,
      event ∈ world.events ++ [{ input with id := world.events.length }] :=
    fun event stored => List.mem_append_left _ stored
  refine ⟨?_, ?_, ?_, ?_, orderly.announced⟩
  · rw [List.map_append, orderly.numbered, List.length_append, List.length_singleton,
      List.range_succ]
    rfl
  · have before := (accounted_split found).nodup_iff.mp orderly.once
    refine (accounted_replace world.incidents position _).nodup_iff.mpr
      (List.nodup_cons.mpr ⟨?_, before⟩)
    intro listed
    have inAccounted := (accounted_split found).mem_iff.mpr listed
    obtain ⟨event, stored, same⟩ := event_of_accounted orderly inAccounted
    have bounded := id_lt orderly stored
    simp only at same
    omega
  · intro other member event holds
    rcases List.mem_append.mp member with old | new
    · obtain ⟨stored, kinds⟩ := orderly.held other (List.mem_of_mem_eraseIdx old) event holds
      exact ⟨kept event stored, kinds⟩
    · rw [List.mem_singleton.mp new] at holds ⊢
      obtain rfl := Option.some.inj holds
      exact ⟨List.mem_append_right _ (List.mem_singleton_self _), fun _ impossible => by cases impossible⟩
  · intro incident member
    obtain ⟨event, stored, facts⟩ := orderly.opened incident member
    exact ⟨event, kept event stored, facts⟩

/-- The alerts of an incident name its event. -/
theorem notificationsFor_eventId {kind : NotificationType} {directory : Directory} {event : FleetEvent}
    {incidentId : Nat} {notification : Notification}
    (member : notification ∈ notificationsFor kind directory event incidentId) :
    notification.payloadJson.eventId = event.id := by
  obtain ⟨_, _, made⟩ := List.mem_map.mp member
  rw [← made]

/-- A transaction that opens an incident takes the event over from its call. -/
theorem orderly_open (orderly : Orderly world) {position : Nat} {kind : NotificationType}
    {event : FleetEvent} (found : world.calls[position]? = some (.opening kind event)) :
    Orderly { openIncident world kind event with calls := world.calls.eraseIdx position } := by
  have open_ : Call.opening kind event ∈ world.calls := List.mem_of_getElem? found
  obtain ⟨stored, kinds⟩ := orderly.held _ open_ event rfl
  have before := (accounted_split found).nodup_iff.mp orderly.once
  -- The event has had no incident, since its call was the one that accounted for it.
  have unopened : event.id ∉ world.incidents.map Incident.eventId := by
    have apart : event.id ∉ (world.calls.eraseIdx position).flatMap heldIds ++
        world.incidents.map Incident.eventId := (List.nodup_cons.mp before).1
    exact fun listed => apart (List.mem_append_right _ listed)
  have unsent : world.notifications.filter
      (fun notification => decide (notification.payloadJson.eventId = event.id)) = [] := by
    apply List.filter_eq_nil_iff.mpr
    intro notification member same
    exact unopened (of_decide_eq_true same ▸ orderly.announced notification member)
  refine ⟨orderly.numbered, ?_, ?_, ?_, ?_⟩
  · have moved : (heldIds (.opening kind event) ++ ((world.calls.eraseIdx position).flatMap heldIds ++
        world.incidents.map Incident.eventId)).Perm
        ((world.calls.eraseIdx position).flatMap heldIds ++
          (world.incidents.map Incident.eventId ++ [event.id])) := by
      rw [← List.append_assoc _ _ [event.id]]
      exact List.perm_append_comm
    have after := moved.nodup_iff.mp before
    simpa [accounted, openIncident] using after
  · intro other member
    exact orderly.held other (List.mem_of_mem_eraseIdx member)
  · intro incident member
    rcases List.mem_append.mp member with old | new
    · obtain ⟨other, otherStored, ofOther, otherKind, sent⟩ := orderly.opened incident old
      have different : event.id ≠ other.id := fun same =>
        unopened (List.mem_map.mpr ⟨incident, old, ofOther.symm.trans same.symm⟩)
      refine ⟨other, otherStored, ofOther, otherKind, ?_⟩
      simp only [openIncident]
      rw [List.filter_append, sent, List.filter_eq_nil_iff.mpr, List.append_nil]
      intro notification made
      rw [notificationsFor_eventId made]
      simpa using different
    · rw [List.mem_singleton.mp new]
      refine ⟨event, stored, rfl, kinds kind rfl, ?_⟩
      simp only [openIncident]
      rw [List.filter_append, unsent, List.nil_append, List.filter_eq_self]
      intro notification made
      exact decide_eq_true (notificationsFor_eventId made)
  · intro notification member
    rw [openIncident, List.map_append]
    rcases List.mem_append.mp member with old | new
    · exact List.mem_append_left _ (orderly.announced notification old)
    · rw [notificationsFor_eventId new]
      exact List.mem_append_right _ (List.mem_singleton_self _)

end Preservation

section Runs

variable {minSeverity : Severity} {world next : World}

/-- No incident is open for an event that a call is about to open one for. -/
theorem hasIncident_of_opening (orderly : Orderly world) {position : Nat} {call : Call}
    {event : FleetEvent} (found : world.calls[position]? = some call)
    (holds : call.event? = some event) : hasIncident world event = false := by
  have before := (accounted_split found).nodup_iff.mp orderly.once
  have held : heldIds call = [event.id] := by simp [heldIds, holds]
  rw [held] at before
  have apart : event.id ∉ (world.calls.eraseIdx position).flatMap heldIds ++
      world.incidents.map Incident.eventId := (List.nodup_cons.mp before).1
  apply Bool.eq_false_of_not_eq_true
  intro opened
  obtain ⟨incident, member, same⟩ := List.any_eq_true.mp opened
  exact apart (List.mem_append_right _ (List.mem_map.mpr ⟨incident, member, eq_of_beq same⟩))

/-- What a step can do: nothing that concerns events, storing an event, going on towards
the incident, opening it, or ending the call of an event that needs no incident or fails. -/
inductive Moved (minSeverity : Severity) (world : World) : Action → World → Prop where
  | configure (directory : Directory) :
      Moved minSeverity world (.configure directory) { world with directory }
  | deliver (input : CreateFleetEventInput) :
    Moved minSeverity world (.deliver input) { world with calls := world.calls ++ [.creating input] }
  | refuse (position : Nat) (input : CreateFleetEventInput)
      (found : world.calls[position]? = some (.creating input)) :
    Moved minSeverity world (.proceed position) { world with calls := world.calls.eraseIdx position ++ [] }
  | store (position : Nat) (input : CreateFleetEventInput)
      (found : world.calls[position]? = some (.creating input)) :
    Moved minSeverity world (.proceed position)
      { world with
        events := world.events ++ [{ input with id := world.events.length }]
        calls := world.calls.eraseIdx position ++
          [.stored { input with id := world.events.length }] }
  | ignore (position : Nat) (event : FleetEvent)
      (found : world.calls[position]? = some (.stored event))
      (harmless : isSevereCrash minSeverity event = false) :
    Moved minSeverity world (.proceed position) { world with calls := world.calls.eraseIdx position ++ [] }
  | search (position : Nat) (event : FleetEvent) (kind : NotificationType)
      (found : world.calls[position]? = some (.stored event))
      (crashKind : event.type = .CRASH → kind = .CRASH_ALERT) :
    Moved minSeverity world (.proceed position)
      { world with calls := world.calls.eraseIdx position ++ [.opening kind event] }
  | openUp (position : Nat) (event : FleetEvent) (kind : NotificationType)
      (found : world.calls[position]? = some (.opening kind event)) :
    Moved minSeverity world (.proceed position)
      { openIncident world kind event with calls := world.calls.eraseIdx position }
  | fail (position : Nat) (call : Call) (found : world.calls[position]? = some call) :
    Moved minSeverity world (.fail position) { world with calls := world.calls.eraseIdx position ++ [] }

/-- A crash calls for a crash alert. -/
theorem incidentKind_crash {directory : Directory} {event : FleetEvent} {kind : NotificationType}
    (called : incidentKind minSeverity directory event = some kind) (crash : event.type = .CRASH) :
    kind = .CRASH_ALERT := by
  simp only [incidentKind] at called
  split at called
  · exact (Option.some.inj called).symm
  · simp [crash] at called

/-- An event that calls for no incident is no severe crash. -/
theorem incidentKind_none {directory : Directory} {event : FleetEvent}
    (silent : incidentKind minSeverity directory event = none) :
    isSevereCrash minSeverity event = false := by
  simp only [incidentKind] at silent
  split at silent
  · cases silent
  · rename_i harmless
    exact Bool.eq_false_of_not_eq_true harmless

/-- The steps, each with what it does. -/
theorem step_cases (orderly : Orderly world) {action : Action}
    (moved : step minSeverity world action = some next) : Moved minSeverity world action next := by
  cases action with
  | configure directory =>
    obtain rfl := Option.some.inj moved
    exact .configure directory
  | deliver input =>
    obtain rfl := Option.some.inj moved
    exact .deliver input
  | fail position =>
    obtain ⟨call, found, rfl⟩ := Option.map_eq_some_iff.mp moved
    rw [← List.append_nil (world.calls.eraseIdx position)]
    exact .fail position call found
  | proceed position =>
    obtain ⟨call, found, rfl⟩ := Option.map_eq_some_iff.mp moved
    cases call with
    | creating input =>
      rw [advance]
      split
      · exact .refuse position input found
      · exact .store position input found
    | stored event =>
      have unopened := hasIncident_of_opening orderly found rfl
      rw [advance]
      split
      · rename_i silent
        exact .ignore position event found (incidentKind_none silent)
      · rename_i kind called
        rw [unopened, if_neg Bool.false_ne_true]
        exact .search position event kind found (incidentKind_crash called)
    | opening kind event =>
      have unopened := hasIncident_of_opening orderly found rfl
      rw [advance, unopened, if_neg Bool.false_ne_true, List.append_nil]
      exact .openUp position event kind found

/-- Every step leaves the world in order, also one that fails. -/
theorem orderly_step (orderly : Orderly world) {action : Action}
    (moved : step minSeverity world action = some next) : Orderly next := by
  cases step_cases orderly moved with
  | configure directory =>
    exact ⟨orderly.numbered, orderly.once, orderly.held, orderly.opened, orderly.announced⟩
  | deliver input =>
    refine ⟨orderly.numbered, ?_, ?_, orderly.opened, orderly.announced⟩
    · have same : (world.calls ++ [Call.creating input]).flatMap heldIds =
          world.calls.flatMap heldIds := by simp [heldIds, Call.event?]
      rw [accounted, same]
      exact orderly.once
    · intro other member event holds
      rcases List.mem_append.mp member with old | new
      · exact orderly.held other old event holds
      · rw [List.mem_singleton.mp new] at holds
        cases holds
  | refuse position input found =>
    exact orderly_replace orderly found (List.nil_sublist _) fun _ none => absurd none List.not_mem_nil
  | store position input found => exact orderly_store orderly found
  | ignore position event found harmless =>
    exact orderly_replace orderly found (List.nil_sublist _) fun _ none => absurd none List.not_mem_nil
  | search position event kind found crashKind =>
    refine orderly_replace orderly found (List.Sublist.refl _) ?_
    intro other member event' holds
    rw [List.mem_singleton.mp member] at holds ⊢
    obtain rfl := Option.some.inj holds
    refine ⟨(orderly.held _ (List.mem_of_getElem? found) event rfl).1, ?_⟩
    intro kind' same crash
    cases same
    exact crashKind crash
  | openUp position event kind found => exact orderly_open orderly found
  | fail position call found =>
    exact orderly_replace orderly found (List.nil_sublist _) fun _ none => absurd none List.not_mem_nil

/-- What is accounted for besides the events of one call. -/
def others (world : World) (position : Nat) : List Nat :=
  (world.calls.eraseIdx position).flatMap heldIds ++ world.incidents.map Incident.eventId

/-- An event is accounted for by a call or by the others. -/
theorem mem_accounted {position : Nat} {call : Call} (found : world.calls[position]? = some call)
    (id : Nat) : id ∈ accounted world ↔ id ∈ heldIds call ∨ id ∈ others world position := by
  rw [(accounted_split found).mem_iff, List.mem_append, others]

/-- Replacing a call replaces what it accounted for. -/
theorem mem_accounted_replace (position : Nat) (rest : List Call) (id : Nat) :
    id ∈ accounted { world with calls := world.calls.eraseIdx position ++ rest } ↔
      id ∈ rest.flatMap heldIds ∨ id ∈ others world position := by
  rw [accounted, (accounted_replace world.incidents position rest).mem_iff, List.mem_append, others]

/-- Every severe crash is accounted for. -/
def AllAccounted (minSeverity : Severity) (world : World) : Prop :=
  ∀ event ∈ world.events, isSevereCrash minSeverity event = true → event.id ∈ accounted world

/-- The end of a call loses its event, if that is a severe crash, and no other. -/
theorem allAccounted_end (orderly : Orderly world) (all : AllAccounted minSeverity world)
    {position : Nat} {call : Call} (found : world.calls[position]? = some call) :
    AllAccounted minSeverity { world with calls := world.calls.eraseIdx position ++ [] } ↔
      ∀ event, call.event? = some event → isSevereCrash minSeverity event = false := by
  have before := (accounted_split found).nodup_iff.mp orderly.once
  have open_ := List.mem_of_getElem? found
  constructor
  · intro after event holds
    apply Bool.eq_false_of_not_eq_true
    intro severe
    have listed := after event (orderly.held call open_ event holds).1 severe
    rcases (mem_accounted_replace position [] event.id).mp listed with none | elsewhere
    · exact absurd none List.not_mem_nil
    · have apart := (List.nodup_append.mp before).2.2
      exact apart event.id (mem_heldIds.mpr ⟨event, holds, rfl⟩) event.id elsewhere rfl
  · intro harmless event stored severe
    rcases (mem_accounted found event.id).mp (all event stored severe) with held | elsewhere
    · obtain ⟨other, holds, same⟩ := mem_heldIds.mp held
      have equal := eq_of_id_eq orderly (orderly.held call open_ other holds).1 stored same
      rw [← equal, harmless other holds] at severe
      cases severe
    · exact (mem_accounted_replace position [] event.id).mpr (Or.inr elsewhere)

/-- A step keeps every severe crash accounted for exactly if no call that has stored one
fails. -/
theorem allAccounted_step (orderly : Orderly world) (all : AllAccounted minSeverity world)
    {action : Action} (moved : step minSeverity world action = some next) :
    AllAccounted minSeverity next ↔ Survives minSeverity world action := by
  cases step_cases orderly moved with
  | configure directory => exact iff_of_true all trivial
  | deliver input =>
    refine iff_of_true ?_ trivial
    intro event stored severe
    have listed := all event stored severe
    rw [accounted, List.flatMap_append]
    rcases List.mem_append.mp listed with called | opened
    · exact List.mem_append_left _ (List.mem_append_left _ called)
    · exact List.mem_append_right _ opened
  | refuse position input found =>
    exact iff_of_true ((allAccounted_end orderly all found).mpr fun _ none => by cases none) trivial
  | store position input found =>
    refine iff_of_true ?_ trivial
    intro event stored severe
    apply (mem_accounted_replace position _ event.id).mpr
    rcases List.mem_append.mp stored with old | new
    · refine Or.inr (((mem_accounted found event.id).mp (all event old severe)).resolve_left ?_)
      exact List.not_mem_nil
    · rw [List.mem_singleton.mp new]
      exact Or.inl (List.mem_singleton_self _)
  | ignore position event found harmless =>
    refine iff_of_true ((allAccounted_end orderly all found).mpr ?_) trivial
    intro other holds
    obtain rfl := Option.some.inj holds
    exact harmless
  | search position event kind found crashKind =>
    refine iff_of_true ?_ trivial
    intro other stored severe
    exact (mem_accounted_replace position _ other.id).mpr
      ((mem_accounted found other.id).mp (all other stored severe))
  | openUp position event kind found =>
    refine iff_of_true ?_ trivial
    intro other stored severe
    rw [accounted, openIncident, List.map_append]
    rcases (mem_accounted found other.id).mp (all other stored severe) with held | elsewhere
    · exact List.mem_append_right _ (List.mem_append_right _ held)
    · rcases List.mem_append.mp elsewhere with called | opened
      · exact List.mem_append_left _ called
      · exact List.mem_append_right _ (List.mem_append_left _ opened)
  | fail position call found =>
    rw [allAccounted_end orderly all found]
    constructor
    · intro harmless call' found'
      obtain rfl := Option.some.inj (found.symm.trans found')
      exact harmless
    · intro survives
      exact survives call found

/-- Every severe crash opens an incident exactly when every crash is accounted for. -/
theorem everyCrashOpens_iff (orderly : Orderly world) :
    EveryCrashOpens minSeverity world ↔ AllAccounted minSeverity world := by
  apply forall₂_congr
  intro event stored
  apply forall_congr'
  intro severe
  exact (accounted_iff orderly stored severe).symm

/-- The service starts in order. -/
theorem orderly_start (directory : Directory) : Orderly (start directory) :=
  ⟨rfl, List.nodup_nil, fun _ none => absurd none List.not_mem_nil,
    fun _ none => absurd none List.not_mem_nil, fun _ none => absurd none List.not_mem_nil⟩

/-- Whatever fails, no event ever has two incidents. -/
theorem incidents_unique {directory : Directory} {actions : List Action}
    (reached : run (step minSeverity) (start directory) actions = some world) :
    (world.incidents.map Incident.eventId).Nodup := by
  have orderly : Orderly world :=
    invariant_reached Orderly (fun _ _ _ held _ moved => orderly_step held moved)
      (orderly_start directory) (along_true _ _ _) reached
  exact (List.nodup_append.mp orderly.once).2.1

/-- Along a run every severe crash has exactly one incident and its notifications, or a
call that is going to open it, if and only if no call fails that has stored one. -/
theorem every_crash_opens_iff (minSeverity : Severity) (directory : Directory)
    (actions : List Action) :
    Along (step minSeverity) (fun _ _ next => EveryCrashOpens minSeverity next) (start directory)
        actions ↔
      Along (step minSeverity) (fun world action _ => Survives minSeverity world action)
        (start directory) actions := by
  refine along_iff_of_invariant
    (fun world => Orderly world ∧ AllAccounted minSeverity world) ?_ ?_ actions
    ⟨orderly_start directory, fun _ none => absurd none List.not_mem_nil⟩
  · intro world action next held moved
    rw [everyCrashOpens_iff (orderly_step held.1 moved)]
    exact allAccounted_step held.1 held.2 moved
  · intro world action next held opens moved
    have orderly := orderly_step held.1 moved
    exact ⟨orderly, (everyCrashOpens_iff orderly).mp opens⟩

end Runs

/-- A severe crash. -/
def sampleCrash : CreateFleetEventInput := ⟨"fleet", some "bike", "device", 0, .CRASH, .CRITICAL⟩

/-- The connection to the database is lost after the event, and the event is delivered
again: it is refused, and there is no incident. -/
theorem crash_without_incident :
    ¬ ∀ minSeverity directory actions world,
      run (step minSeverity) (start directory) actions = some world → world.calls = [] →
      ∀ event ∈ world.events, isSevereCrash minSeverity event = true → Complete world event := by
  intro claim
  have reached : run (step .HIGH) (start ⟨[], [], []⟩)
      [.deliver sampleCrash, .proceed 0, .fail 0, .deliver sampleCrash, .proceed 0] =
      some ⟨⟨[], [], []⟩, [{ sampleCrash with id := 0 }], [], [], []⟩ := by decide
  obtain ⟨incident, single, _⟩ := claim .HIGH _ _ _ reached rfl { sampleCrash with id := 0 }
    (List.mem_singleton_self _) (by decide)
  cases single

end EmotoFleet.CrashIncidents
