import EmotoFleet.Fleets.DeviceTables
import EmotoFleet.Foundations.Overlaps
import EmotoFleet.Incidents.IncidentActions

/-!
# Incidents of silent trackers

A job looks every five minutes for active trackers on bikes that have been silent for five
minutes. It opens an incident for each of them unless one is open: it checks first and
writes afterwards, and counts neither acknowledged nor closed incidents. Its runs overlap
with one another, with the reports of the devices and with what operators do.

A spell of a device lies between two of its reports. The monitor counts the reports and
keeps which incidents were opened in which spell; the service has no such record. A job
whose access fails goes on with the next device.
-/

namespace EmotoFleet.OfflineMonitor

open Access (Id Incident IncidentStatus)
open Fleets (DeviceStatus)
open Incidents (IncidentStore RecordMissing Failure)
open Runs Interleavings Tables

/-! ## The tables -/

/-- A device as the job reads it. -/
structure Device where
  id : Id
  fleetId : Id
  deviceUid : String
  bikeId : Option Id
  lastSeenAt : Option Int
  status : DeviceStatus
  deriving DecidableEq

/-- An incident that the job has opened, and the spell of its device. -/
structure Opening where
  incidentId : Id
  deviceId : Id
  spell : Nat
  deriving DecidableEq

/-- The rows that the job and the operators write. -/
structure Monitor where
  now : Int
  devices : List Device
  removed : List Id
  incidents : IncidentStore
  offlineEvents : List (Id × Int)
  nextEvent : Int
  reports : Id → Nat
  openings : List Opening

/-- The job alone opens incidents of its type. -/
abbrev OtherIncident := { incident : Incident // incident.eventType ≠ .TRACKER_OFFLINE }

/-- What other parts of the service do to the tables. -/
inductive Change where
  | clock (now : Int)
  | provision (device : Device)
  | changeDevice (deviceId fleetId : Id) (bikeId : Option Id) (status : DeviceStatus)
  | report (deviceId : Id) (timestamp : Int)
  | removeDevice (deviceId : Id)
  | storeEvent (deviceId : Id) (ts : Int)
  | openOther (incident : OtherIncident)

/-- One write to these rows. -/
inductive Write where
  | change (change : Change)
  | openOffline (device : Device) (ts : Int) (incidentId : Id)
  | act (operation : Incidents.Write)

/-- A row with an identity that is in use is refused. -/
def insertIncident (store : IncidentStore) (incident : Incident) : IncidentStore :=
  if taken : incident.id ∈ store.incidents.map Incident.id then store
  else ⟨store.incidents ++ [incident], (unique_append_iff incident).mpr ⟨store.distinct, taken⟩⟩

/-- A deleted device takes its incidents along. -/
def removeIncidents (store : IncidentStore) (deviceId : Id) : IncidentStore where
  incidents := store.incidents.filter fun row => decide (row.deviceId ≠ deviceId)
  distinct := store.distinct.sublist (List.filter_sublist.map _)

namespace Monitor

variable (monitor : Monitor)

/-- The devices that are there. -/
def deviceIds : List Id := monitor.devices.map Device.id

/-- One device changed. -/
def updateDevice (deviceId : Id) (change : Device → Device) : Monitor :=
  { monitor with devices := updateKey Device.id deviceId change monitor.devices }

/-- Identities of removed devices are not used again. -/
def after : Change → Monitor
  | .clock now => { monitor with now := now }
  | .provision device =>
    if device.id ∈ monitor.deviceIds ∨ device.id ∈ monitor.removed then monitor
    else { monitor with devices := monitor.devices ++ [device] }
  | .changeDevice deviceId fleetId bikeId status => monitor.updateDevice deviceId fun device =>
    { device with fleetId := fleetId, bikeId := bikeId, status := status }
  | .report deviceId timestamp =>
    if deviceId ∈ monitor.deviceIds then
      { monitor.updateDevice deviceId fun device => { device with lastSeenAt := some timestamp } with
        reports := Function.update monitor.reports deviceId (monitor.reports deviceId + 1) }
    else monitor
  | .removeDevice deviceId =>
    { monitor with
      devices := monitor.devices.filter fun device => decide (device.id ≠ deviceId)
      removed := deviceId :: monitor.removed
      incidents := removeIncidents monitor.incidents deviceId }
  | .storeEvent deviceId ts =>
    { monitor with offlineEvents := (deviceId, ts) :: monitor.offlineEvents }
  | .openOther incident =>
    { monitor with incidents := insertIncident monitor.incidents incident.val }

/-- The device is still there, and the keys of the event and of the incident are free. -/
def admits (device : Device) (ts : Int) (incidentId : Id) : Bool :=
  decide (device.id ∈ monitor.deviceIds ∧ (device.id, ts) ∉ monitor.offlineEvents ∧
    incidentId ∉ monitor.incidents.incidents.map Incident.id)

/-- The incident that the job opens for a device. -/
def offlineIncident (device : Device) (ts : Int) (incidentId : Id) : Incident where
  id := incidentId
  fleetId := device.fleetId
  bikeId := device.bikeId
  deviceId := device.id
  deviceUid := device.deviceUid
  eventId := monitor.nextEvent
  eventTs := ts
  eventType := .TRACKER_OFFLINE
  status := .OPEN
  createdAt := monitor.now
  updatedAt := monitor.now
  acknowledgedByUserId := none
  acknowledgedAt := none
  resolvedByUserId := none
  resolvedAt := none
  notes := none

/-- The transaction of the job: an event and its incident. -/
def openOffline (device : Device) (ts : Int) (incidentId : Id) : Monitor :=
  { monitor with
    incidents := insertIncident monitor.incidents (monitor.offlineIncident device ts incidentId)
    offlineEvents := (device.id, ts) :: monitor.offlineEvents
    nextEvent := monitor.nextEvent + 1
    openings := monitor.openings ++ [⟨incidentId, device.id, monitor.reports device.id⟩] }

end Monitor

/-- A transaction of the job that is refused changes nothing, and the job goes on. -/
def apply (monitor : Monitor) : Write → Except RecordMissing Monitor
  | .change change => .ok (monitor.after change)
  | .openOffline device ts incidentId =>
    if monitor.admits device ts incidentId then .ok (monitor.openOffline device ts incidentId)
    else .ok monitor
  | .act operation =>
    match Incidents.commit monitor.incidents operation with
    | .ok incidents => .ok { monitor with incidents := incidents }
    | .error missing => .error missing

/-! ## The job -/

/-- A call of the job or of an operator, access by access. -/
abbrev Call := Program Monitor Write RecordMissing Failure

/-- The devices that the job looks for: active, on a bike and not seen for five minutes. -/
def silentSince (fiveMinutesAgo : Int) (device : Device) : Bool :=
  decide (device.status = .ACTIVE) && device.bikeId.isSome &&
    device.lastSeenAt.any fun lastSeenAt => decide (lastSeenAt < fiveMinutesAgo)

/-- The open offline incident of a device. -/
def existingOpenIncident (deviceId : Id) (monitor : Monitor) : Option Incident :=
  monitor.incidents.incidents.find? fun incident => decide (incident.deviceId = deviceId ∧
    incident.status = .OPEN ∧ incident.eventType = .TRACKER_OFFLINE)

/-- One device: an incident is opened unless one is open. -/
def processDevice (incidentId : Id) (device : Device) : Call Unit := do
  let existing ← .read (existingOpenIncident device.id)
  match existing with
  | some _ => pure ()
  | none =>
    let ts ← .read Monitor.now
    .write (.openOffline device ts incidentId) fun _ => .recordMissing

/-- The devices one after another. -/
def processDevices (incidentIds : Id → Id) : List Device → Call Unit
  | [] => pure ()
  | device :: rest => do
    processDevice (incidentIds device.id) device
    processDevices incidentIds rest

/-- The run of the job draws an identity for each incident, and loses the devices for which
an access fails. -/
def monitorOfflineDevices (incidentIds : Id → Id) (lost : Id → Bool) : Call Unit := do
  let fiveMinutesAgo ← .read fun monitor => monitor.now - 5 * 60 * 1000
  let silentDevices ← .read fun monitor => monitor.devices.filter (silentSince fiveMinutesAgo)
  processDevices incidentIds (silentDevices.filter fun device => !lost device.id)

/-- What may be asked of the system. -/
inductive Request where
  | monitorOfflineDevices (incidentIds : Id → Id) (lost : Id → Bool)
  | operator (request : Incidents.Request)
  | change (change : Change)

/-- The calls that serve the requests. -/
def handle : Request → Call Unit
  | .monitorOfflineDevices incidentIds lost => monitorOfflineDevices incidentIds lost
  | .operator request => (Incidents.handle request).embed Monitor.incidents .act
  | .change change => .write (.change change) fun _ => .recordMissing

/-- The service before its first device. -/
def started : System Monitor Write RecordMissing Failure where
  store := ⟨0, [], [], ⟨[], List.nodup_nil⟩, [], 0, fun _ => 0, []⟩
  calls := []

/-! ## The law -/

/-- At most one incident is opened in a spell of a device. -/
def OnePerSpell (monitor : Monitor) : Prop :=
  (monitor.openings.map fun opening => (opening.deviceId, opening.spell)).Nodup

instance (monitor : Monitor) : Decidable (OnePerSpell monitor) :=
  inferInstanceAs (Decidable (List.Nodup _))

namespace Monitor

variable (monitor : Monitor)

/-- The device has not reported since. -/
def current (opening : Opening) : Bool :=
  decide (monitor.reports opening.deviceId = opening.spell)

/-- Whether the incident of an opening is still open. -/
def stillOpen (opening : Opening) : Bool :=
  monitor.incidents.incidents.any fun row =>
    decide (row.id = opening.incidentId ∧ row.status = .OPEN)

end Monitor

/-- Operators leave the incidents of the current spells alone. -/
def OperatorsWait (monitor : Monitor) : Write → Prop
  | .act (.update id _ _) => ∀ opening ∈ monitor.openings, monitor.current opening = true →
    opening.incidentId ≠ id
  | .change _ | .openOffline _ _ _ => True

/-- When the job commits an incident, none of the current spell of the device is open. -/
def CheckHolds (monitor : Monitor) : Write → Prop
  | .openOffline device ts incidentId => monitor.admits device ts incidentId = true →
    ∀ opening ∈ monitor.openings, monitor.current opening = true →
      opening.deviceId = device.id → monitor.stillOpen opening = false
  | .change _ | .act _ => True

instance (monitor : Monitor) (operation : Write) : Decidable (OperatorsWait monitor operation) :=
  match operation with
  | .act (.update _ _ _) => inferInstanceAs (Decidable (∀ _ ∈ _, _))
  | .change _ | .openOffline _ _ _ => isTrue trivial

instance (monitor : Monitor) (operation : Write) : Decidable (CheckHolds monitor operation) :=
  match operation with
  | .openOffline _ _ _ => inferInstanceAs (Decidable (_ → _))
  | .change _ | .act _ => isTrue trivial

/-- The incidents of the current spells are open as long as their devices are there. -/
structure Sound (monitor : Monitor) : Prop where
  live : ∀ opening ∈ monitor.openings, monitor.current opening = true →
    opening.deviceId ∈ monitor.deviceIds → ∃ row ∈ monitor.incidents.incidents,
      row.id = opening.incidentId ∧ row.deviceId = opening.deviceId ∧ row.status = .OPEN ∧
        row.eventType = .TRACKER_OFFLINE
  known : ∀ opening ∈ monitor.openings,
    opening.deviceId ∈ monitor.deviceIds ∨ opening.deviceId ∈ monitor.removed
  past : ∀ opening ∈ monitor.openings, opening.spell ≤ monitor.reports opening.deviceId
  gone : ∀ deviceId ∈ monitor.removed, deviceId ∉ monitor.deviceIds

/-! ## What the writes keep -/

/-- An incident that was there is there after the insertion. -/
theorem mem_insertIncident {store : IncidentStore} {incident row : Incident}
    (listed : row ∈ store.incidents) : row ∈ (insertIncident store incident).incidents := by
  unfold insertIncident
  split
  · exact listed
  · exact List.mem_append_left _ listed

/-- A new incident is there once it is inserted. -/
theorem insertIncident_self {store : IncidentStore} {incident : Incident}
    (new : incident.id ∉ store.incidents.map Incident.id) :
    incident ∈ (insertIncident store incident).incidents := by
  rw [insertIncident, dif_neg new]
  exact List.mem_append_right _ (List.mem_singleton_self _)

section Writes

variable {monitor written : Monitor}

/-- A changed device stays the same device. -/
theorem deviceIds_updateDevice (deviceId : Id) {change : Device → Device}
    (kept : ∀ device, (change device).id = device.id) :
    (monitor.updateDevice deviceId change).deviceIds = monitor.deviceIds :=
  map_updateKey kept

/-- An opening is admitted for a device that is there, with an event and an incident that are new.
-/
theorem admits_iff {device : Device} {ts : Int} {incidentId : Id} :
    monitor.admits device ts incidentId = true ↔ device.id ∈ monitor.deviceIds ∧
      (device.id, ts) ∉ monitor.offlineEvents ∧
      incidentId ∉ monitor.incidents.incidents.map Incident.id :=
  decide_eq_true_iff

variable (sound : Sound monitor)

include sound

/-- Changes that leave the devices, the counts and the openings alone, and keep the rows. -/
theorem sound_of_rows {incidents : IncidentStore} {offlineEvents : List (Id × Int)} {now : Int}
    (rows : ∀ row ∈ monitor.incidents.incidents, row ∈ incidents.incidents) :
    Sound { monitor with now := now, incidents := incidents, offlineEvents := offlineEvents } where
  live := by
    intro opening listed current present
    obtain ⟨row, stored, same⟩ := sound.live opening listed current present
    exact ⟨row, rows row stored, same⟩
  known := sound.known
  past := sound.past
  gone := sound.gone

/-- A new device keeps the rows sound. -/
theorem sound_provision {device : Device}
    (new : ¬(device.id ∈ monitor.deviceIds ∨ device.id ∈ monitor.removed)) :
    Sound { monitor with devices := monitor.devices ++ [device] } := by
  have deviceIds : ∀ deviceId, deviceId ∈ (monitor.devices ++ [device]).map Device.id ↔
      deviceId ∈ monitor.deviceIds ∨ deviceId = device.id := by
    intro deviceId
    rw [List.map_append, List.mem_append, List.map_singleton, List.mem_singleton]
    rfl
  constructor
  · intro opening listed current present
    rcases (deviceIds _).mp present with old | same
    · exact sound.live opening listed current old
    · exact absurd (same ▸ sound.known opening listed) new
  · intro opening listed
    rcases sound.known opening listed with present | removed
    · exact .inl ((deviceIds _).mpr (.inl present))
    · exact .inr removed
  · exact sound.past
  · intro deviceId removed present
    rcases (deviceIds _).mp present with old | same
    · exact sound.gone deviceId removed old
    · exact new (.inr (same ▸ removed))

/-- A changed device keeps the rows sound. -/
theorem sound_updateDevice (deviceId : Id) {change : Device → Device}
    (kept : ∀ device, (change device).id = device.id) :
    Sound (monitor.updateDevice deviceId change) := by
  have same := @deviceIds_updateDevice monitor deviceId change kept
  constructor
  · intro opening listed current present
    rw [same] at present
    exact sound.live opening listed current present
  · intro opening listed
    rw [same]
    exact sound.known opening listed
  · exact sound.past
  · intro gone removed
    rw [same]
    exact sound.gone gone removed

/-- A report ends the spell, so that its openings are no longer current. -/
theorem sound_report (deviceId : Id) : Sound { monitor with
    reports := Function.update monitor.reports deviceId (monitor.reports deviceId + 1) } := by
  constructor
  · intro opening listed current present
    refine sound.live opening listed ?_ present
    simp only [Monitor.current, decide_eq_true_eq] at current ⊢
    by_cases reported : opening.deviceId = deviceId
    · have past := sound.past opening listed
      rw [reported, Function.update_self] at current
      rw [reported] at past
      omega
    · rwa [Function.update_of_ne reported] at current
  · exact sound.known
  · intro opening listed
    have past := sound.past opening listed
    dsimp only
    by_cases reported : opening.deviceId = deviceId
    · rw [reported] at past ⊢
      rw [Function.update_self]
      omega
    · rwa [Function.update_of_ne reported]
  · exact sound.gone

/-- A removed device keeps the rows sound. -/
theorem sound_removeDevice (deviceId : Id) : Sound (monitor.after (.removeDevice deviceId)) := by
  have remains : ∀ other, other ∈ (monitor.after (.removeDevice deviceId)).deviceIds ↔
      other ∈ monitor.deviceIds ∧ other ≠ deviceId := by
    intro other
    simp only [Monitor.after, Monitor.deviceIds, List.mem_map, List.mem_filter, decide_eq_true_eq]
    constructor
    · rintro ⟨device, ⟨listed, apart⟩, rfl⟩
      exact ⟨⟨device, listed, rfl⟩, apart⟩
    · rintro ⟨⟨device, listed, rfl⟩, apart⟩
      exact ⟨device, ⟨listed, apart⟩, rfl⟩
  constructor
  · intro opening listed current present
    obtain ⟨old, apart⟩ := (remains _).mp present
    obtain ⟨row, stored, same, ofDevice, isOpen⟩ := sound.live opening listed current old
    refine ⟨row, List.mem_filter.mpr ⟨stored, ?_⟩, same, ofDevice, isOpen⟩
    rw [ofDevice]
    exact decide_eq_true apart
  · intro opening listed
    by_cases lost : opening.deviceId = deviceId
    · exact .inr (lost ▸ List.mem_cons_self ..)
    · rcases sound.known opening listed with present | removed
      · exact .inl ((remains _).mpr ⟨present, lost⟩)
      · exact .inr (List.mem_cons_of_mem _ removed)
  · exact sound.past
  · intro gone removed present
    obtain ⟨old, apart⟩ := (remains _).mp present
    rcases List.mem_cons.mp removed with same | before
    · exact apart same
    · exact sound.gone gone before old

/-- Every change of devices keeps the rows sound. -/
theorem sound_after (change : Change) : Sound (monitor.after change) := by
  cases change with
  | clock now => exact sound_of_rows sound fun _ stored => stored
  | provision device =>
    rw [Monitor.after]
    split
    case isTrue => exact sound
    case isFalse new => exact sound_provision sound new
  | changeDevice deviceId fleetId bikeId status =>
    exact sound_updateDevice sound deviceId fun _ => rfl
  | report deviceId timestamp =>
    rw [Monitor.after]
    split
    case isTrue =>
      have seen : Sound (monitor.updateDevice deviceId fun device =>
          { device with lastSeenAt := some timestamp }) :=
        sound_updateDevice sound deviceId fun _ => rfl
      exact sound_report seen deviceId
    case isFalse => exact sound
  | removeDevice deviceId => exact sound_removeDevice sound deviceId
  | storeEvent deviceId ts => exact sound_of_rows sound fun _ stored => stored
  | openOther incident => exact sound_of_rows sound fun _ stored => mem_insertIncident stored

/-- An action on an incident of an earlier spell leaves those of the current spells alone. -/
theorem sound_act {operation : Incidents.Write} {incidents : IncidentStore}
    (waits : OperatorsWait monitor (.act operation))
    (accepted : Incidents.commit monitor.incidents operation = .ok incidents) :
    Sound { monitor with incidents := incidents } := by
  obtain ⟨id, data, now⟩ := operation
  rw [Incidents.commit] at accepted
  split at accepted
  case h_1 => cases accepted
  case h_2 =>
    cases accepted
    refine ⟨?_, sound.known, sound.past, sound.gone⟩
    intro opening listed current present
    obtain ⟨row, stored, same, rest⟩ := sound.live opening listed current present
    refine ⟨row, mem_updateKey.mpr (.inr ⟨stored, ?_⟩), same, rest⟩
    rw [same]
    exact waits opening listed current

/-- An admitted opening keeps the rows sound. -/
theorem sound_openOffline {device : Device} {ts : Int} {incidentId : Id}
    (admitted : monitor.admits device ts incidentId = true) :
    Sound (monitor.openOffline device ts incidentId) := by
  obtain ⟨present, _, new⟩ := admits_iff.mp admitted
  constructor
  · intro opening listed current stays
    rcases List.mem_append.mp listed with old | opened
    · obtain ⟨row, stored, same⟩ := sound.live opening old current stays
      exact ⟨row, mem_insertIncident stored, same⟩
    · rw [List.mem_singleton.mp opened]
      exact ⟨monitor.offlineIncident device ts incidentId, insertIncident_self new, rfl, rfl, rfl, rfl⟩
  · intro opening listed
    rcases List.mem_append.mp listed with old | opened
    · exact sound.known opening old
    · rw [List.mem_singleton.mp opened]
      exact .inl present
  · intro opening listed
    rcases List.mem_append.mp listed with old | opened
    · exact sound.past opening old
    · rw [List.mem_singleton.mp opened]
      exact le_rfl
  · exact sound.gone

/-- Every accepted write keeps the rows sound. -/
theorem sound_apply {operation : Write} (waits : OperatorsWait monitor operation)
    (accepted : apply monitor operation = .ok written) : Sound written := by
  cases operation with
  | change change =>
    cases accepted
    exact sound_after sound change
  | openOffline device ts incidentId =>
    rw [apply] at accepted
    split at accepted
    case isTrue admitted =>
      cases accepted
      exact sound_openOffline sound admitted
    case isFalse =>
      cases accepted
      exact sound
  | act operation =>
    rw [apply] at accepted
    split at accepted
    case h_1 incidents committed =>
      cases accepted
      exact sound_act sound waits committed
    case h_2 => cases accepted

/-- The incidents of the current spell of a device that is there are open, so that an open
one is missing just where there is none. -/
theorem unopened_iff {device : Device} (present : device.id ∈ monitor.deviceIds) :
    (device.id, monitor.reports device.id) ∉
        monitor.openings.map (fun opening => (opening.deviceId, opening.spell)) ↔
      ∀ opening ∈ monitor.openings, monitor.current opening = true →
        opening.deviceId = device.id → monitor.stillOpen opening = false := by
  constructor
  · intro unopened opening listed current same
    have spell : monitor.reports opening.deviceId = opening.spell := of_decide_eq_true current
    refine absurd (List.mem_map.mpr ⟨opening, listed, ?_⟩) unopened
    rw [← spell, same]
  · intro closed opened
    obtain ⟨opening, listed, same⟩ := List.mem_map.mp opened
    obtain ⟨ofDevice, spell⟩ := Prod.mk.inj same
    have current : monitor.current opening = true :=
      decide_eq_true ((congrArg monitor.reports ofDevice).trans spell.symm)
    obtain ⟨row, stored, sameRow, _, isOpen, _⟩ :=
      sound.live opening listed current (ofDevice ▸ present)
    have stillOpen : monitor.stillOpen opening = true :=
      List.any_eq_true.mpr ⟨row, stored, decide_eq_true ⟨sameRow, isOpen⟩⟩
    rw [closed opening listed current ofDevice] at stillOpen
    cases stillOpen

/-- A write keeps one incident for each spell exactly when what the check found still holds at it.
-/
theorem onePerSpell_apply_iff (one : OnePerSpell monitor) {operation : Write}
    (accepted : apply monitor operation = .ok written) :
    OnePerSpell written ↔ CheckHolds monitor operation := by
  cases operation with
  | change change =>
    cases accepted
    have openings : (monitor.after change).openings = monitor.openings := by
      cases change <;> simp only [Monitor.after, Monitor.updateDevice] <;> split <;> rfl
    rw [OnePerSpell, openings]
    exact iff_of_true one trivial
  | openOffline device ts incidentId =>
    rw [apply] at accepted
    split at accepted
    case isTrue admitted =>
      cases accepted
      rw [CheckHolds, imp_iff_right admitted, ← unopened_iff sound (admits_iff.mp admitted).1,
        OnePerSpell, Monitor.openOffline, unique_append_iff]
      exact and_iff_right one
    case isFalse refused =>
      cases accepted
      exact iff_of_true one fun admitted => absurd admitted refused
  | act operation =>
    rw [apply] at accepted
    split at accepted
    case h_1 =>
      cases accepted
      exact iff_of_true one trivial
    case h_2 => cases accepted

end Writes

/-! ## Runs of the service -/

/-- The empty rows are sound. -/
theorem started_sound : Sound started.store where
  live := fun _ listed => nomatch listed
  known := fun _ listed => nomatch listed
  past := fun _ listed => nomatch listed
  gone := fun _ removed => nomatch removed

/-- However runs of the job overlap, as long as operators leave the incidents of current
spells alone, a spell gets one incident at most if the check of the job still holds whenever
it commits. -/
theorem onePerSpell_of_checkHolds {actions : List (Action Request)}
    (checked : Along (step apply handle) (fun before action _ => Meets apply
      (fun monitor operation => OperatorsWait monitor operation ∧ CheckHolds monitor operation)
      before action) started actions) :
    Along (step apply handle) (fun _ _ next => OnePerSpell next.store) started actions := by
  have stays : ∀ before action next, Sound before.store ∧ OnePerSpell before.store →
      Meets apply
        (fun monitor operation => OperatorsWait monitor operation ∧ CheckHolds monitor operation)
        before action →
      step apply handle before action = some next → Sound next.store ∧ OnePerSpell next.store := by
    intro before action next ⟨sound, one⟩ met moved
    rcases step_store moved with ⟨_, same⟩ | ⟨operation, attempt, accepted⟩
    · exact same ▸ ⟨sound, one⟩
    · obtain ⟨waits, holds⟩ := met operation attempt next.store accepted
      exact ⟨sound_apply sound waits accepted, (onePerSpell_apply_iff sound one accepted).mpr holds⟩
  refine along_of_invariant (fun system : System Monitor Write RecordMissing Failure =>
    Sound system.store ∧ OnePerSpell system.store) stays ?_ ⟨started_sound, List.nodup_nil⟩ checked
  exact fun before action next both met moved => (stays before action next both met moved).2

/-! ## Checks that are not overtaken -/

/-- The tables in which the job has checked a device, which is its last access but one when
it opens an incident. -/
def checkedIn (seen : List Monitor) : Option Monitor := seen.dropLast.getLast?

/-- Operators leave the incidents of the current spells alone, and between the check of a
device and the commit of its incident no other run of the job opens one for the device. -/
def NotOvertaken (_ : Request) (seen : List Monitor) (monitor : Monitor) (operation : Write) : Prop :=
  OperatorsWait monitor operation ∧
    match operation with
    | .openOffline device ts incidentId => monitor.admits device ts incidentId = true →
      ∀ opening ∈ monitor.openings, monitor.current opening = true →
        opening.deviceId = device.id → ∃ checked ∈ checkedIn seen, opening ∈ checked.openings
    | .change _ | .act _ => True

instance (request : Request) (seen : List Monitor) (monitor : Monitor) (operation : Write) :
    Decidable (NotOvertaken request seen monitor operation) :=
  match operation with
  | .openOffline _ _ _ => inferInstanceAs
      (Decidable (_ ∧ (_ → ∀ _ ∈ _, _ → _ → ∃ checked, checked ∈ checkedIn seen ∧ _)))
  | .change _ | .act _ => inferInstanceAs (Decidable (_ ∧ True))

/-- The job has found no open incident of the device. -/
def FoundNone (seen : List Monitor) (operation : Write) : Prop :=
  ∀ device ts incidentId, operation = .openOffline device ts incidentId →
    ∃ checked ∈ checkedIn seen, Sound checked ∧ existingOpenIncident device.id checked = none

/-- The job's check answers for each of its openings. -/
theorem processDevices_vouches (incidentIds : Id → Id) (devices : List Device) (seen : List Monitor) :
    Overlaps.Vouches apply Sound FoundNone (fun _ _ => True) seen (processDevices incidentIds devices) := by
  induction devices generalizing seen with
  | nil => trivial
  | cons device rest inductionHypothesis =>
    rw [processDevices, processDevice, Overlaps.vouches_bind, Overlaps.vouches_bind,
      Overlaps.vouches_read]
    intro checked sound
    cases found : existingOpenIncident device.id checked with
    | some incident => exact inductionHypothesis _
    | none =>
      intro second _
      refine ⟨fun silent ts incidentId same => ?_, fun _ _ _ _ => inductionHypothesis _⟩
      cases same
      refine ⟨checked, ?_, sound, found⟩
      rw [checkedIn, List.dropLast_concat, List.getLast?_concat]
      rfl

/-- The checks of every call answer for its writes. -/
theorem handle_vouches (request : Request) :
    Overlaps.Vouches apply Sound FoundNone (fun _ _ => True) [] (handle request) := by
  cases request with
  | monitorOfflineDevices incidentIds lost =>
    exact fun _ _ _ _ => processDevices_vouches incidentIds _ _
  | operator request =>
    apply Overlaps.vouches_of_makes
    apply Program.makes_embed
    exact Program.makes_of_forall (fun _ _ _ _ _ same => by cases same) _
  | change change =>
    refine ⟨fun _ _ _ same => ?_, fun _ _ _ _ => trivial⟩
    cases same

/-- Devices stay removed, and reports are counted upwards. -/
structure Later (before after : Monitor) : Prop where
  removed : before.removed ⊆ after.removed
  reports : ∀ deviceId, before.reports deviceId ≤ after.reports deviceId

/-- No time passes in no step. -/
theorem later_refl (monitor : Monitor) : Later monitor monitor :=
  ⟨List.Subset.refl _, fun _ => Nat.le_refl _⟩

/-- Later than later is later. -/
theorem later_trans (first second third : Monitor) (left : Later first second)
    (right : Later second third) : Later first third :=
  ⟨List.Subset.trans left.removed right.removed,
    fun deviceId => Nat.le_trans (left.reports deviceId) (right.reports deviceId)⟩

/-- Every accepted write leads to a later state. -/
theorem later_apply {monitor written : Monitor} {operation : Write}
    (accepted : apply monitor operation = .ok written) : Later monitor written := by
  cases operation with
  | change change =>
    cases accepted
    cases change with
    | report deviceId timestamp =>
      rw [Monitor.after]
      split
      case isFalse => exact later_refl monitor
      case isTrue =>
        refine ⟨List.Subset.refl _, fun other => ?_⟩
        dsimp only [Monitor.updateDevice]
        by_cases same : other = deviceId
        case pos =>
          rw [same, Function.update_self]
          exact Nat.le_succ _
        case neg => rw [Function.update_of_ne same]
    | removeDevice deviceId => exact ⟨List.subset_cons_self _ _, fun _ => Nat.le_refl _⟩
    | provision device =>
      rw [Monitor.after]
      split
      case isTrue => exact later_refl monitor
      case isFalse => exact ⟨List.Subset.refl _, fun _ => Nat.le_refl _⟩
    | clock now => exact ⟨List.Subset.refl _, fun _ => Nat.le_refl _⟩
    | changeDevice deviceId fleetId bikeId status =>
      exact ⟨List.Subset.refl _, fun _ => Nat.le_refl _⟩
    | storeEvent deviceId ts => exact ⟨List.Subset.refl _, fun _ => Nat.le_refl _⟩
    | openOther incident => exact ⟨List.Subset.refl _, fun _ => Nat.le_refl _⟩
  | openOffline device ts incidentId =>
    rw [apply] at accepted
    split at accepted
    case isTrue =>
      cases accepted
      exact ⟨List.Subset.refl _, fun _ => Nat.le_refl _⟩
    case isFalse =>
      cases accepted
      exact later_refl monitor
  | act operation =>
    rw [apply] at accepted
    split at accepted
    case h_1 =>
      cases accepted
      exact ⟨List.Subset.refl _, fun _ => Nat.le_refl _⟩
    case h_2 => cases accepted

/-- The check of a run that is not overtaken still holds when it commits: an incident of the
current spell would have been there when it checked, and open. -/
theorem checkHolds_of_timely {request : Request} {seen : List Monitor} {monitor : Monitor}
    {operation : Write} (sound : Sound monitor) (since : ∀ shown ∈ seen, Later shown monitor)
    (found : FoundNone seen operation) (timely : NotOvertaken request seen monitor operation) :
    CheckHolds monitor operation := by
  cases operation with
  | change change => trivial
  | act operation => trivial
  | openOffline device ts incidentId =>
    intro admitted opening listed current ours
    exfalso
    obtain ⟨checked, read, soundThen, none_⟩ := found device ts incidentId rfl
    obtain ⟨shown, readToo, before⟩ := timely.2 admitted opening listed current ours
    obtain rfl := Option.some.inj (read.symm.trans readToo)
    have later : Later checked monitor :=
      since checked (List.dropLast_subset _ (List.mem_of_getLast? read))
    have spell : monitor.reports opening.deviceId = opening.spell := of_decide_eq_true current
    have currentThen : checked.current opening = true :=
      decide_eq_true (Nat.le_antisymm (spell ▸ later.reports opening.deviceId)
        (soundThen.past opening before))
    have present : opening.deviceId ∈ monitor.deviceIds := ours ▸ (admits_iff.mp admitted).1
    have presentThen : opening.deviceId ∈ checked.deviceIds := by
      rcases soundThen.known opening before with there | removed
      · exact there
      · exact absurd present (sound.gone _ (later.removed removed))
    obtain ⟨row, stored, -, ofDevice, isOpen, offline⟩ :=
      soundThen.live opening before currentThen presentThen
    exact List.find?_eq_none.mp none_ row stored
      (decide_eq_true ⟨ofDevice.trans ours, isOpen, offline⟩)

/-- However runs of the job overlap with one another and with what operators do: as long as
operators leave the incidents of current spells alone, and no run of the job is overtaken
between the check of a device and its commit, a spell gets one incident at most. -/
theorem one_incident_per_spell (actions : List (Action Request))
    (timely : Along (Overlaps.watch apply handle)
      (fun before action _ => Overlaps.Meets apply NotOvertaken before action)
      (Overlaps.Watched.begun started.store) actions) :
    Along (step apply handle) (fun _ _ next => OnePerSpell next.store) started actions := by
  apply onePerSpell_of_checkHolds
  exact @Overlaps.along_meets_since _ _ _ _ _ apply handle Sound (fun _ => FoundNone) NotOvertaken
    Later _ later_refl later_trans handle_vouches
    (fun _ _ _ _ _ sound since found timely _ =>
      ⟨timely.1, checkHolds_of_timely sound since found timely⟩)
    (fun _ _ _ sound met accepted => ⟨sound_apply sound met.1 accepted, later_apply accepted⟩)
    _ _ started_sound timely

/-! ## One silent tracker -/

/-- A device on a bike, not seen since the epoch. -/
def tracker : Device := ⟨"d1", "fleet", "tracker-1", some "b1", some 0, .ACTIVE⟩

/-- One run of the job. -/
def job (incidentId : Id) : Request := .monitorOfflineDevices (fun _ => incidentId) fun _ => false

/-- An operator who acknowledges an incident. -/
def acknowledge (incidentId : Id) (now : Int) : Request :=
  .operator (.acknowledge Incidents.dispatcher incidentId ⟨none⟩ now)

/-- A request, and as many accesses of its call. -/
def served (request : Request) (call accesses : Nat) : List (Action Request) :=
  Action.submit request :: List.replicate accesses (Action.advance call)

/-- Ten minutes without a report, and the run of the job that opens an incident. -/
def firstAlert : List (Action Request) :=
  served (.change (.provision tracker)) 0 1 ++ served (.change (.clock 600000)) 1 1 ++
    served (job "i1") 2 5

/-- The incident is acknowledged before the next run, up to the last access of that. -/
def acknowledgedBetween : List (Action Request) :=
  firstAlert ++ served (acknowledge "i1" 610000) 3 2 ++ served (.change (.clock 900000)) 4 1 ++
    served (job "i2") 5 4

/-- An incident that was acknowledged does not keep the next run from opening another. -/
theorem acknowledged_spell_alerts_again : ¬ ∀ actions : List (Action Request),
    Along (step apply handle) (fun _ _ next => OnePerSpell next.store) started actions := by
  intro always
  refine not_along_of_check started acknowledgedBetween (.advance 5)
    (fun middle next (broken : decide (¬ OnePerSpell next.store) = true) =>
      of_decide_eq_true broken) ?_ (always _)
  decide +kernel

/-- The next run finds the incident open; the device reports before the incident is
acknowledged, and is silent again. -/
def reportedBetween : List (Action Request) :=
  firstAlert ++ served (job "i2") 3 3 ++ served (.change (.report "d1" 700000)) 4 1 ++
    served (acknowledge "i1" 710000) 5 2 ++ served (.change (.clock 1200000)) 6 1 ++
    served (job "i3") 7 5

/-- The same run with a device that reports in between keeps one incident for each spell. -/
theorem reported_spells_alert_once :
    Along (step apply handle) (fun _ _ next => OnePerSpell next.store) started reportedBetween :=
  one_incident_per_spell reportedBetween (along_of_decide (by decide +kernel))

end EmotoFleet.OfflineMonitor
