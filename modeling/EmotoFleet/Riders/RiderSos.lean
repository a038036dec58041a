import EmotoFleet.Access.FleetTables
import EmotoFleet.Events.CrashIncidents

/-!
# Calls for help of riders

A rider's call for help stores an event and notifies the emergency contacts of the fleet.
In a fleet of one person the event also opens an incident, whose transaction notifies the
same contacts. Neither knows of the other, and the answer counts the contacts once.

The notifications are kept in two parts, by what they carry. The queue that sends them, the
audit row and the broadcasts are left out.
-/

namespace EmotoFleet.RiderSos

open Accounts (UserRole)
open EmotoFleet.Access (Id BikeAssignment latestFirst)
open EmotoFleet.CrashIncidents (Call CreateFleetEventInput Directory EmergencyContact FleetEvent
  NotificationChannel NotificationType Orderly advance hasIncident incidentKind notificationsFor
  openIncident recipients)
open RulesEngine (EventType Severity)

structure Device where
  id : Id
  fleetId : Id
  bikeId : Option Id
  status : String
  updatedAt : Int

structure RiderSosDto where
  message : Option String

/-- The fields of the caller that the queries use. -/
structure AuthenticatedUser where
  id : Id
  fleetId : Id

structure SosPayload where
  eventId : Nat
  eventType : EventType
  bikeId : Option String
  deviceId : String
  ts : Int
  message : Option String

/-- A notification that is not about an incident. -/
structure SosNotification where
  fleetId : Id
  type : NotificationType
  channel : NotificationChannel
  recipient : String
  payloadJson : SosPayload

structure World where
  users : List Access.User
  assignments : List BikeAssignment
  devices : List Device
  events : CrashIncidents.World
  notifications : List SosNotification

inductive SosError where
  /-- "Rider not found" -/
  | riderNotFound
  /-- "Rider has no active bike assignment" -/
  | noActiveAssignment
  /-- "Assigned bike has no active telemetry device" -/
  | noActiveDevice
  /-- The database has an event of this device, instant and type. -/
  | eventExists
  deriving DecidableEq

structure RiderSosResponse where
  event : FleetEvent
  notifiedContacts : Nat
  type : EventType

section Trigger

variable (incidentCrashMinSeverity : Severity) (world : World) (now : Int) (user : AuthenticatedUser)

/-- An event with all that follows from it: the search for an incident and the transaction
that opens one. The table may refuse the event. -/
def createFleetEvent (events : CrashIncidents.World) (input : CreateFleetEventInput) :
    Except SosError (CrashIncidents.World × FleetEvent) :=
  match advance incidentCrashMinSeverity events (.creating input) with
  | (stored, [.stored event]) =>
    match advance incidentCrashMinSeverity stored (.stored event) with
    | (searched, [call]) => .ok ((advance incidentCrashMinSeverity searched call).1, event)
    | (searched, _) => .ok (searched, event)
  | _ => .error .eventExists

/-- The active contacts of a fleet. -/
def emergencyContacts (fleetId : Id) : List EmergencyContact :=
  world.events.directory.contacts.filter fun contact =>
    contact.fleetId == fleetId && contact.active

def sosNotification (event : FleetEvent) (dto : RiderSosDto) (contact : EmergencyContact) :
    SosNotification where
  fleetId := user.fleetId
  type := .SOS_ALERT
  channel := .SMS
  recipient := contact.phone
  payloadJson :=
    { eventId := event.id, eventType := event.type, bikeId := event.bikeId
      deviceId := event.deviceId, ts := event.ts, message := dto.message }

def triggerRiderSos (dto : RiderSosDto) : Except SosError (World × RiderSosResponse) := do
  match world.users.find? fun row =>
      row.id == user.id && row.fleetId == user.fleetId && row.role == .RIDER with
  | none => throw .riderNotFound
  | some rider =>
    match (latestFirst (·.assignedAt) (world.assignments.filter fun row =>
        row.riderUserId == rider.id && row.active)).head? with
    | none => throw .noActiveAssignment
    | some activeAssignment =>
      match (latestFirst (·.updatedAt) (world.devices.filter fun row =>
          row.fleetId == user.fleetId && row.bikeId == some activeAssignment.bikeId &&
            row.status == "ACTIVE")).head? with
      | none => throw .noActiveDevice
      | some activeDevice =>
        let (events, sosEvent) ← createFleetEvent incidentCrashMinSeverity world.events
          { fleetId := user.fleetId, bikeId := some activeAssignment.bikeId
            deviceId := activeDevice.id, ts := now, type := .SOS, severity := .HIGH }
        let contacts := emergencyContacts world user.fleetId
        return ({ world with
                  events
                  notifications :=
                    world.notifications ++ contacts.map (sosNotification user sosEvent dto) },
          { event := sosEvent, notifiedContacts := contacts.length, type := .SOS })

end Trigger

/-- The messages that have been written to a number. -/
def messagesTo (world : World) (phone : String) : Nat :=
  (world.events.notifications.countP fun row => row.channel == .SMS && row.recipient == phone) +
    world.notifications.countP fun row => row.channel == .SMS && row.recipient == phone

/-- Every active contact has been written to exactly once: as many messages as there are
contacts with the number. -/
def EachOnce (before after : World) (fleetId : Id) : Prop :=
  ∀ contact ∈ emergencyContacts before fleetId,
    messagesTo after contact.phone = messagesTo before contact.phone +
      (emergencyContacts before fleetId).countP fun other => other.phone == contact.phone

section Events

variable {incidentCrashMinSeverity : Severity} {events after : CrashIncidents.World}
  {input : CreateFleetEventInput} {event : FleetEvent}

/-- A new event has no incident. -/
theorem no_incident (orderly : Orderly events) {stored : CrashIncidents.World}
    (same : stored.incidents = events.incidents) (fresh : event.id = events.events.length) :
    hasIncident stored event = false := by
  rw [hasIncident, same, List.any_eq_false]
  intro incident member found
  obtain ⟨opened, listed, ofIncident, _⟩ := orderly.opened incident member
  have older := CrashIncidents.id_lt orderly listed
  rw [ofIncident, beq_iff_eq.mp found, fresh] at older
  exact lt_irrefl _ older

/-- Only a fleet of one person has an incident of a call for help. -/
theorem incidentKind_sos (directory : Directory) (help : event.type = .SOS) :
    incidentKind incidentCrashMinSeverity directory event =
      if directory.personalFleets.contains event.fleetId then some .SOS_ALERT else none := by
  simp [incidentKind, CrashIncidents.isSevereCrash, help]

/-- The notifications that come with the event of a call for help. -/
theorem createFleetEvent_notifications (orderly : Orderly events) (help : input.type = .SOS)
    (created : createFleetEvent incidentCrashMinSeverity events input = .ok (after, event)) :
    event.fleetId = input.fleetId ∧
      after.notifications = events.notifications ++
        if events.directory.personalFleets.contains input.fleetId then
          notificationsFor .SOS_ALERT events.directory event events.incidents.length
        else [] := by
  rw [createFleetEvent, advance] at created
  split at created
  case h_2 => cases created
  case h_1 stored storedEvent advanced =>
    split at advanced
    case isTrue => cases (Prod.mk.inj advanced).2
    case isFalse =>
      obtain ⟨rfl, listed⟩ := Prod.mk.inj advanced
      obtain rfl := Call.stored.inj (List.singleton_inj.mp listed)
      have unopened : hasIncident
          { events with events := events.events ++ [{ input with id := events.events.length }] }
          { input with id := events.events.length } = false :=
        no_incident orderly rfl rfl
      cases personal : events.directory.personalFleets.contains input.fleetId with
      | false =>
        have none : incidentKind incidentCrashMinSeverity events.directory
            { input with id := events.events.length } = none := by
          rw [incidentKind_sos _ help, if_neg (by rw [personal]; exact Bool.false_ne_true)]
        simp only [advance, none] at created
        obtain ⟨rfl, rfl⟩ := Prod.mk.inj (Except.ok.inj created)
        exact ⟨rfl, (List.append_nil _).symm⟩
      | true =>
        have kind : incidentKind incidentCrashMinSeverity events.directory
            { input with id := events.events.length } = some .SOS_ALERT := by
          rw [incidentKind_sos _ help, if_pos personal]
        simp only [advance, kind, unopened, Bool.false_eq_true, if_false] at created
        obtain ⟨rfl, rfl⟩ := Prod.mk.inj (Except.ok.inj created)
        exact ⟨rfl, rfl⟩

end Events

section Contacts

variable {incidentCrashMinSeverity : Severity} {world after : World} {now : Int}
  {user : AuthenticatedUser} {dto : RiderSosDto} {response : RiderSosResponse}

/-- What a call for help that is answered has done. -/
theorem triggerRiderSos_ok
    (answered : triggerRiderSos incidentCrashMinSeverity world now user dto = .ok (after, response)) :
    ∃ input events event,
      createFleetEvent incidentCrashMinSeverity world.events input = .ok (events, event) ∧
        input.type = .SOS ∧ input.fleetId = user.fleetId ∧
        after = { world with
                  events
                  notifications := world.notifications ++
                    (emergencyContacts world user.fleetId).map (sosNotification user event dto) } ∧
        response.notifiedContacts = (emergencyContacts world user.fleetId).length := by
  rw [triggerRiderSos] at answered
  split at answered
  case h_1 => cases answered
  case h_2 rider _ =>
    split at answered
    case h_1 => cases answered
    case h_2 activeAssignment _ =>
      split at answered
      case h_1 => cases answered
      case h_2 activeDevice _ =>
        cases created : createFleetEvent incidentCrashMinSeverity world.events
            { fleetId := user.fleetId, bikeId := some activeAssignment.bikeId
              deviceId := activeDevice.id, ts := now, type := .SOS, severity := .HIGH } with
        | error refused =>
          rw [created] at answered
          cases answered
        | ok result =>
          obtain ⟨events, event⟩ := result
          rw [created] at answered
          obtain ⟨rfl, rfl⟩ := Prod.mk.inj (Except.ok.inj answered)
          exact ⟨_, events, event, created, rfl, rfl, rfl, rfl⟩

/-- One message of a call for help goes to each contact with a number. -/
theorem countP_sosNotification (event : FleetEvent) (contacts : List EmergencyContact)
    (phone : String) :
    ((contacts.map (sosNotification user event dto)).countP fun row =>
        row.channel == .SMS && row.recipient == phone) =
      contacts.countP fun contact => contact.phone == phone := by
  rw [List.countP_map]
  exact List.countP_congr fun contact _ => by simp [sosNotification]

/-- So does one of the incident. -/
theorem countP_le_notificationsFor (directory : Directory) (event : FleetEvent) (incidentId : Nat)
    (phone : String) :
    ((directory.contacts.filter fun contact =>
        contact.fleetId == event.fleetId && contact.active).countP fun contact =>
          contact.phone == phone) ≤
      (notificationsFor .SOS_ALERT directory event incidentId).countP fun row =>
        row.channel == .SMS && row.recipient == phone := by
  rw [notificationsFor, recipients, List.map_append, List.countP_append, List.map_map,
    List.countP_map]
  refine le_trans (le_of_eq ?_) (Nat.le_add_right _ _)
  exact List.countP_congr fun contact _ => by simp

/-- Every active contact is written to exactly once, exactly if the fleet is not one of one
person or has no active contact. -/
theorem each_contact_once_iff (orderly : Orderly world.events)
    (answered : triggerRiderSos incidentCrashMinSeverity world now user dto = .ok (after, response)) :
    EachOnce world after user.fleetId ↔
      world.events.directory.personalFleets.contains user.fleetId = false ∨
        emergencyContacts world user.fleetId = [] := by
  obtain ⟨input, events, event, created, help, own, rfl, _⟩ := triggerRiderSos_ok answered
  obtain ⟨fleet, written⟩ := createFleetEvent_notifications orderly help created
  rw [own] at fleet written
  have messages : ∀ phone, messagesTo { world with
      events
      notifications := world.notifications ++
        (emergencyContacts world user.fleetId).map (sosNotification user event dto) } phone =
      messagesTo world phone +
        ((if world.events.directory.personalFleets.contains user.fleetId then
            notificationsFor .SOS_ALERT world.events.directory event world.events.incidents.length
          else []).countP fun row => row.channel == .SMS && row.recipient == phone) +
        (emergencyContacts world user.fleetId).countP fun contact => contact.phone == phone := by
    intro phone
    rw [messagesTo, messagesTo, List.countP_append, countP_sosNotification, written,
      List.countP_append]
    omega
  cases personal : world.events.directory.personalFleets.contains user.fleetId with
  | false =>
    refine iff_of_true ?_ (.inl rfl)
    intro contact _
    rw [messages, personal, if_neg Bool.false_ne_true, List.countP_nil, Nat.add_zero]
  | true =>
    constructor
    case mpr =>
      rintro (other | none)
      case inl => cases other
      case inr =>
        intro contact listed
        rw [none] at listed
        cases listed
    case mp =>
      intro once
      refine .inr (List.eq_nil_iff_forall_not_mem.mpr ?_)
      intro contact listed
      have count := once contact listed
      rw [messages, personal, if_pos rfl] at count
      have twice := countP_le_notificationsFor world.events.directory event
        world.events.incidents.length contact.phone
      rw [fleet] at twice
      have some : 0 < (emergencyContacts world user.fleetId).countP fun other =>
          other.phone == contact.phone :=
        List.countP_pos_iff.mpr ⟨contact, listed, beq_self_eq_true _⟩
      rw [emergencyContacts] at *
      omega

end Contacts

section Samples

/-- A rider with a bike and one active contact; the fleet is one of one person or is not. -/
def oneRider (personalFleets : List String) : World where
  users :=
    [{ id := "rider", fleetId := "fleet", role := .RIDER, email := none, phone := none,
       status := "ACTIVE", createdAt := 0, riderProfile := none }]
  assignments := [⟨"assignment", "fleet", "bike", "rider", 0, none, true⟩]
  devices := [⟨"device", "fleet", some "bike", "ACTIVE", 0⟩]
  events := CrashIncidents.start
    { contacts := [⟨"fleet", "+250788000001", true⟩], users := [], personalFleets }
  notifications := []

/-- Its rider calls for help. -/
def callForHelp (personalFleets : List String) : Except SosError (World × RiderSosResponse) :=
  triggerRiderSos .HIGH (oneRider personalFleets) 0 ⟨"rider", "fleet"⟩ ⟨none⟩

theorem callForHelp_answered {personalFleets : List String}
    (answered : (callForHelp personalFleets).isOk = true) :
    ∃ after response, callForHelp personalFleets = .ok (after, response) := by
  cases called : callForHelp personalFleets with
  | error refused =>
    rw [called] at answered
    cases answered
  | ok result => exact ⟨result.1, result.2, rfl⟩

theorem each_contact_once_iff_coop :
    ∃ after response, callForHelp [] = .ok (after, response) ∧
      (EachOnce (oneRider []) after "fleet" ↔
        (oneRider []).events.directory.personalFleets.contains "fleet" = false ∨
          emergencyContacts (oneRider []) "fleet" = []) := by
  obtain ⟨after, response, answered⟩ := @callForHelp_answered [] (by decide +kernel)
  exact ⟨after, response, answered,
    each_contact_once_iff (CrashIncidents.orderly_start _) answered⟩

/-- The contact of a rider in a fleet of one person is written to twice. -/
theorem contact_written_twice :
    ¬ ∀ (world after : World) (now : Int) (user : AuthenticatedUser) (dto : RiderSosDto)
        (response : RiderSosResponse), Orderly world.events →
      triggerRiderSos .HIGH world now user dto = .ok (after, response) →
        EachOnce world after user.fleetId := by
  intro claim
  obtain ⟨after, response, answered⟩ :=
    @callForHelp_answered ["fleet"] (by decide +kernel)
  have once := claim _ _ _ _ _ _ (CrashIncidents.orderly_start _) answered
    ⟨"fleet", "+250788000001", true⟩ (by decide +kernel)
  have written : (callForHelp ["fleet"]).toOption.map (fun result =>
      messagesTo result.1 "+250788000001") = some 2 := by
    decide +kernel
  rw [answered] at written
  have twice : messagesTo after "+250788000001" = 2 := Option.some.inj written
  rw [twice] at once
  exact absurd once (by decide +kernel)

end Samples

end EmotoFleet.RiderSos
