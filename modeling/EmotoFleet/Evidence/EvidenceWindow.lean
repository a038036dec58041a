import EmotoFleet.Access.FleetTables
import EmotoFleet.Foundations.Overlaps
import EmotoFleet.Foundations.Tables

/-!
# What evidence packs contain

A pack is generated when it is first asked for. The trip, the events and the telemetry of the
window around the crash are read one after another, the two files are uploaded, and the row of
the pack is inserted; a request that finds the row changes nothing. The incident of a crash
asks for its pack by itself, as soon as it is open, and does not care how that ends.

A pack has everything that is stored in its window exactly as long as its files are up to date
when its row is inserted, and whatever is stored or uploaded after that adds nothing.

The storage keeps what is uploaded. Who may have a pack is left out here, and so are the
columns of the bike and the device in the summary.
-/

namespace EmotoFleet.EvidenceWindow

open Access (Id Trip Incident EvidencePack)
open RulesEngine (EventType Severity)
open Runs Interleavings

/-- Two minutes before and after the event. -/
def EVIDENCE_WINDOW_SECONDS : Int := 120

/-- The columns that the file of telemetry has. -/
structure TelemetryPoint where
  deviceId : Id
  ts : Int
  lat : ℚ
  lng : ℚ
  speedKph : ℚ
  heading : Option ℚ
  accelX : Option ℚ
  accelY : Option ℚ
  accelZ : Option ℚ
  batteryV : Option ℚ
  ignition : Option Bool
  deriving DecidableEq

/-- An event, with the text of its data. -/
structure Event where
  id : Int
  fleetId : Id
  bikeId : Option Id
  deviceId : Id
  ts : Int
  type : EventType
  severity : Severity
  metaJson : String
  deriving DecidableEq

/-- What the summary of a pack says. -/
structure IncidentEvidenceSummary where
  incident : Incident
  trip : Option Trip
  events : List Event
  windowStartTs : Int
  windowEndTs : Int
  rowCount : Nat

/-- The row of a pack, with the incident that it is for. -/
structure PackRow extends EvidencePack where
  incidentId : Id
  deriving DecidableEq

/-- The tables, and the files that were last uploaded for an incident. -/
structure EvidenceStore where
  now : Int
  incidents : List Incident
  trips : List Trip
  events : List Event
  points : List TelemetryPoint
  summary : Id → Option IncidentEvidenceSummary
  telemetryCsv : Id → Option (List TelemetryPoint)
  packs : List PackRow
  packKeys : (packs.map PackRow.incidentId).Nodup

/-- One operation. Whether a pack is created for nobody in particular is a note of the model. -/
inductive Write where
  | pass (elapsed : Nat)
  | upsertPoint (point : TelemetryPoint)
  | createEvent (event : Event)
  | openIncident (incident : Incident)
  | uploadJson (incidentId : Id) (summary : IncidentEvidenceSummary)
  | uploadText (incidentId : Id) (rows : List TelemetryPoint)
  | createPack (pack : PackRow) (automatic : Bool)

/-- What the database objects to: a second pack of an incident. -/
inductive DatabaseError where
  | P2002
  deriving DecidableEq

/-- What a call may fail with; one that opens an incident passes over its pack's failure. -/
inductive Failure where
  | notFound (message : String)
  | forbidden (message : String)
  | ignored
  | database (error : DatabaseError)
  deriving DecidableEq

/-- A call of the service. -/
abbrev Call := Program EvidenceStore Write DatabaseError Failure

/-! ## The window -/

section Window

variable (incident : Incident)

/-- Where the window of an incident begins. -/
def windowStart : Int := incident.eventTs - EVIDENCE_WINDOW_SECONDS * 1000

/-- Where the window of an incident ends. -/
def windowEnd : Int := incident.eventTs + EVIDENCE_WINDOW_SECONDS * 1000

/-- Whether an instant lies in the window. -/
def inWindow (ts : Int) : Bool := decide (windowStart incident ≤ ts ∧ ts ≤ windowEnd incident)

/-- Events of the bike, or of the device where the incident has no bike. -/
def isRelated (event : Event) : Bool :=
  decide (event.fleetId = incident.fleetId) && inWindow incident event.ts &&
    match incident.bikeId with
    | some bikeId => decide (event.bikeId = some bikeId)
    | none => decide (event.deviceId = incident.deviceId)

/-- Whether a point is from the device of the incident and its window. -/
def isRecorded (point : TelemetryPoint) : Bool :=
  decide (point.deviceId = incident.deviceId) && inWindow incident point.ts

/-- The trip that was under way, the latest one first. -/
def isUnderWay (trip : Trip) : Bool :=
  decide (trip.fleetId = incident.fleetId) && decide (some trip.bikeId = incident.bikeId) &&
    decide (trip.startTs ≤ incident.eventTs) &&
    trip.endTs.all fun endTs => decide (windowStart incident ≤ endTs)

end Window

/-! ## The calls -/

/-- Rows by their instants, the earliest first. -/
def byTime {ρ : Type} (ts : ρ → Int) (rows : List ρ) : List ρ :=
  rows.mergeSort fun left right => decide (ts left ≤ ts right)

namespace EvidenceStore

variable (store : EvidenceStore) (incident : Incident)

/-- The trip that was under way, the latest if there are several. -/
def tripOf : Option Trip :=
  (Access.latestFirst (·.startTs) (store.trips.filter (isUnderWay incident))).head?

/-- The events that belong to an incident. -/
def eventsOf : List Event := byTime Event.ts (store.events.filter (isRelated incident))

/-- The telemetry that belongs to an incident. -/
def pointsOf : List TelemetryPoint :=
  byTime TelemetryPoint.ts (store.points.filter (isRecorded incident))

end EvidenceStore

/-- A new pack, with the identity and the time that the database gives it. -/
def newPack (incident : Incident) (packId : Id) (createdAt : Int) : PackRow where
  id := packId
  s3KeyJson := s!"evidence/{incident.fleetId}/{incident.id}/summary.json"
  s3KeyCsv := s!"evidence/{incident.fleetId}/{incident.id}/telemetry-window.csv"
  createdAt := createdAt
  incidentId := incident.id

/-- The summary that is made of what was read. -/
def summaryPayload (incident : Incident) (trip : Option Trip) (relatedEvents : List Event)
    (telemetryRows : List TelemetryPoint) : IncidentEvidenceSummary where
  incident := incident
  trip := trip
  events := relatedEvents
  windowStartTs := windowStart incident
  windowEndTs := windowEnd incident
  rowCount := telemetryRows.length

/-- A pack is made of what is stored at the time, and its files come before its row. -/
def generateAndPersistEvidencePack (incident : Incident) (packId : Id) (createdAt : Int)
    (automatic : Bool) : Call Unit := do
  let trip ← Program.read fun store => store.tripOf incident
  let relatedEvents ← Program.read fun store => store.eventsOf incident
  let telemetryRows ← Program.read fun store => store.pointsOf incident
  let failure := if automatic then fun _ => Failure.ignored else Failure.database
  Program.write
    (.uploadJson incident.id (summaryPayload incident trip relatedEvents telemetryRows)) failure
  Program.write (.uploadText incident.id telemetryRows) failure
  Program.write (.createPack (newPack incident packId createdAt) automatic) failure

/-- The pack of an incident, made if there is none yet. -/
def getOrCreateEvidencePack (incident : Incident) (packId : Id) (createdAt : Int)
    (automatic : Bool) : Call Unit := do
  let existingPack ← Program.read fun store =>
    store.packs.find? fun pack => decide (pack.incidentId = incident.id)
  match existingPack with
  | some _ => pure ()
  | none => generateAndPersistEvidencePack incident packId createdAt automatic

/-- The incident that a call is about. -/
def loadIncidentBundleOrThrow (incidentId : Id) : Call Incident := do
  let incident ← Program.read fun store =>
    store.incidents.find? fun row => decide (row.id = incidentId)
  match incident with
  | none => .failed (.notFound "Incident not found")
  | some incident =>
    if incident.eventType ≠ .CRASH then
      .failed (.forbidden "Evidence packs are available only for crash incidents")
    else pure incident

/-- A user asks for the pack of an incident. -/
def getEvidencePack (incidentId packId : Id) (createdAt : Int) : Call Unit := do
  let incident ← loadIncidentBundleOrThrow incidentId
  getOrCreateEvidencePack incident packId createdAt false

/-- The incident of an event; that of a crash asks for its pack. -/
def createIncidentFromCrashEvent (incident : Incident) (packId : Id) (createdAt : Int) :
    Call Unit := do
  Program.write (.openIncident incident) .database
  if incident.eventType = .CRASH then getOrCreateEvidencePack incident packId createdAt true
  else pure ()

/-- What arrives: time, telemetry, events, incidents and users who ask for packs. -/
inductive Request where
  | wait (elapsed : Nat)
  | storePoint (point : TelemetryPoint)
  | storeEvent (event : Event)
  | openIncident (incident : Incident) (packId : Id) (createdAt : Int)
  | getEvidencePack (incidentId packId : Id) (createdAt : Int)

/-- The call that a request leads to. -/
def handle : Request → Call Unit
  | .wait elapsed => Program.write (.pass elapsed) .database
  | .storePoint point => Program.write (.upsertPoint point) .database
  | .storeEvent event => Program.write (.createEvent event) .database
  | .openIncident incident packId createdAt => createIncidentFromCrashEvent incident packId createdAt
  | .getEvidencePack incidentId packId createdAt => getEvidencePack incidentId packId createdAt

/-! ## The tables -/

namespace EvidenceStore

variable (store : EvidenceStore)

/-- Whether an incident has a pack. -/
def hasPack (incidentId : Id) : Bool := decide (incidentId ∈ store.packs.map PackRow.incidentId)

/-- The rows in the file of telemetry. -/
def fileRows (incidentId : Id) : List TelemetryPoint := (store.telemetryCsv incidentId).getD []

/-- The events in the summary file of an incident. -/
def fileEvents (incidentId : Id) : List Event :=
  ((store.summary incidentId).map (·.events)).getD []

/-- An upload replaces the events of its own incident. -/
theorem fileEvents_upload (incidentId other : Id) (summary : IncidentEvidenceSummary) :
    ({ store with summary := Function.update store.summary incidentId (some summary) } :
        EvidenceStore).fileEvents other =
      if other = incidentId then summary.events else store.fileEvents other := by
  simp only [fileEvents, Function.update_apply]
  split
  case isTrue => rfl
  case isFalse => rfl

/-- An upload replaces the telemetry of its own incident. -/
theorem fileRows_upload (incidentId other : Id) (rows : List TelemetryPoint) :
    ({ store with telemetryCsv := Function.update store.telemetryCsv incidentId (some rows) } :
        EvidenceStore).fileRows other =
      if other = incidentId then rows else store.fileRows other := by
  simp only [fileRows, Function.update_apply]
  split
  case isTrue => rfl
  case isFalse => rfl

/-- The store with a pack of an incident that had none. -/
def insertPack (pack : PackRow) (absent : ¬ store.hasPack pack.incidentId = true) : EvidenceStore :=
  { store with
    packs := store.packs ++ [pack]
    packKeys := by
      rw [hasPack, decide_eq_true_eq] at absent
      exact (Tables.unique_append_iff pack).mpr ⟨store.packKeys, absent⟩ }

/-- A new pack is that of its incident and of no other. -/
theorem hasPack_insertPack (pack : PackRow) (absent : ¬ store.hasPack pack.incidentId = true)
    (incidentId : Id) : (store.insertPack pack absent).hasPack incidentId = true ↔
      store.hasPack incidentId = true ∨ incidentId = pack.incidentId := by
  rw [hasPack, hasPack, decide_eq_true_eq, decide_eq_true_eq, insertPack]
  dsimp only
  rw [List.map_append, List.mem_append, List.map_singleton, List.mem_singleton]

/-- The files have everything that is stored in the window of an incident. -/
def Contains (incident : Incident) : Prop :=
  (∀ point ∈ store.points, isRecorded incident point = true →
    point ∈ store.fileRows incident.id) ∧
  ∀ event ∈ store.events, isRelated incident event = true → event ∈ store.fileEvents incident.id

instance (incident : Incident) : Decidable (store.Contains incident) :=
  inferInstanceAs (Decidable (_ ∧ _))

end EvidenceStore

/-- Whether two points have one key. -/
def samePoint (left right : TelemetryPoint) : Bool :=
  decide (left.deviceId = right.deviceId ∧ left.ts = right.ts)

/-- Whether two events have one key. -/
def sameSlot (left right : Event) : Bool :=
  decide (left.deviceId = right.deviceId ∧ left.ts = right.ts ∧ left.type = right.type)

/-- What the stores do with a write. -/
def commit (store : EvidenceStore) : Write → Except DatabaseError EvidenceStore
  | .pass elapsed => .ok { store with now := store.now + elapsed }
  | .upsertPoint point =>
    .ok { store with points := (store.points.filter fun row => !samePoint row point) ++ [point] }
  | .createEvent event =>
    if store.events.any (sameSlot event) then .error .P2002
    else .ok { store with events := store.events ++ [event] }
  | .openIncident incident =>
    -- one incident for an event, under an identity that nothing has
    if store.incidents.any (fun row => row.eventId == incident.eventId || row.id == incident.id) ||
        store.hasPack incident.id then .error .P2002
    else .ok { store with incidents := store.incidents ++ [incident] }
  | .uploadJson incidentId summary =>
    .ok { store with summary := Function.update store.summary incidentId (some summary) }
  | .uploadText incidentId rows =>
    .ok { store with telemetryCsv := Function.update store.telemetryCsv incidentId (some rows) }
  | .createPack pack _ =>
    if present : store.hasPack pack.incidentId then .error .P2002
    else .ok (store.insertPack pack present)

/-! ## Complete packs -/

/-- What is to hold of a step: in the state after it the pack of every incident whose window
has passed has everything that is stored in the window, no incident has two packs, and the
step is not that of a request whose pack is refused. -/
structure Evident (before : System EvidenceStore Write DatabaseError Failure)
    (action : Action Request) (next : System EvidenceStore Write DatabaseError Failure) : Prop where
  complete : ∀ incident ∈ next.store.incidents, next.store.hasPack incident.id = true →
    windowEnd incident < next.store.now → next.store.Contains incident
  once : ∀ incidentId,
    (next.store.packs.filter fun pack => decide (pack.incidentId = incidentId)).length ≤ 1
  served : ∀ pack, attempted before action = some (.createPack pack false) →
    ∃ written, commit before.store (.createPack pack false) = .ok written

/-- A file that is uploaded beside a pack, and those of a new pack, have all that is stored
at that moment; what is stored beside a pack is in its files; a request creates a pack only
where there is none. -/
def KeepsEvidence (store : EvidenceStore) : Write → Prop
  | .pass _ | .openIncident _ => True
  | .upsertPoint point => ∀ incident ∈ store.incidents, store.hasPack incident.id = true →
      isRecorded incident point = true → point ∈ store.fileRows incident.id
  | .createEvent event => store.events.any (sameSlot event) = false →
      ∀ incident ∈ store.incidents, store.hasPack incident.id = true →
        isRelated incident event = true → event ∈ store.fileEvents incident.id
  | .uploadJson incidentId summary => store.hasPack incidentId = true →
      ∀ incident ∈ store.incidents, incident.id = incidentId →
        ∀ event ∈ store.events, isRelated incident event = true → event ∈ summary.events
  | .uploadText incidentId rows => store.hasPack incidentId = true →
      ∀ incident ∈ store.incidents, incident.id = incidentId →
        ∀ point ∈ store.points, isRecorded incident point = true → point ∈ rows
  | .createPack pack automatic =>
    if store.hasPack pack.incidentId = true then automatic = true
    else ∀ incident ∈ store.incidents, incident.id = pack.incidentId → store.Contains incident

/-- Every pack has all that is stored in its window, whether or not that has passed. -/
def Complete (store : EvidenceStore) : Prop :=
  ∀ incident ∈ store.incidents, store.hasPack incident.id = true → store.Contains incident

section Operations

variable {store written : EvidenceStore}

/-- A point keeps the packs complete exactly if it lies in no window of a made pack. -/
theorem complete_upsertPoint_iff {point : TelemetryPoint} (complete : Complete store)
    (accepted : commit store (.upsertPoint point) = .ok written) :
    Complete written ↔ KeepsEvidence store (.upsertPoint point) := by
  cases accepted
  constructor
  · intro kept incident listed packed recorded
    exact (kept incident listed packed).1 point (by simp) recorded
  · intro known incident listed packed
    refine ⟨fun row stored recorded => ?_, (complete incident listed packed).2⟩
    rcases List.mem_append.mp stored with old | new
    · exact (complete incident listed packed).1 row (List.mem_of_mem_filter old) recorded
    · obtain rfl := List.mem_singleton.mp new
      exact known incident listed packed recorded

/-- An event keeps the packs complete exactly if it belongs to no made pack. -/
theorem complete_createEvent_iff {event : Event} (complete : Complete store)
    (accepted : commit store (.createEvent event) = .ok written) :
    Complete written ↔ KeepsEvidence store (.createEvent event) := by
  rw [commit] at accepted
  split at accepted
  case isTrue => cases accepted
  case isFalse free =>
    cases accepted
    rw [Bool.not_eq_true] at free
    constructor
    · intro kept _ incident listed packed related
      exact (kept incident listed packed).2 event (by simp) related
    · intro known incident listed packed
      refine ⟨(complete incident listed packed).1, fun row stored related => ?_⟩
      rcases List.mem_append.mp stored with old | new
      · exact (complete incident listed packed).2 row old related
      · obtain rfl := List.mem_singleton.mp new
        exact known free incident listed packed related

/-- A new incident has no pack yet. -/
theorem complete_openIncident {incident : Incident} (complete : Complete store)
    (accepted : commit store (.openIncident incident) = .ok written) : Complete written := by
  rw [commit] at accepted
  split at accepted
  case isTrue => cases accepted
  case isFalse free =>
    cases accepted
    simp only [Bool.or_eq_true, not_or, Bool.not_eq_true] at free
    intro other listed packed
    rcases List.mem_append.mp listed with old | new
    · exact complete other old packed
    · obtain rfl := List.mem_singleton.mp new
      exact absurd packed (by rw [Bool.not_eq_true]; exact free.2)

/-- An upload of a summary keeps the packs complete exactly if it has all events. -/
theorem complete_uploadJson_iff {incidentId : Id} {summary : IncidentEvidenceSummary}
    (complete : Complete store)
    (accepted : commit store (.uploadJson incidentId summary) = .ok written) :
    Complete written ↔ KeepsEvidence store (.uploadJson incidentId summary) := by
  cases accepted
  constructor
  · rintro kept packed incident listed rfl event stored related
    have uploaded := (kept incident listed packed).2 event stored related
    rwa [EvidenceStore.fileEvents_upload, if_pos rfl] at uploaded
  · intro known incident listed packed
    refine ⟨(complete incident listed packed).1, fun event stored related => ?_⟩
    by_cases same : incident.id = incidentId
    case pos =>
      subst same
      rw [EvidenceStore.fileEvents_upload, if_pos rfl]
      exact known packed incident listed rfl event stored related
    case neg =>
      rw [EvidenceStore.fileEvents_upload, if_neg same]
      exact (complete incident listed packed).2 event stored related

/-- An upload of telemetry keeps the packs complete exactly if it has all points. -/
theorem complete_uploadText_iff {incidentId : Id} {rows : List TelemetryPoint}
    (complete : Complete store)
    (accepted : commit store (.uploadText incidentId rows) = .ok written) :
    Complete written ↔ KeepsEvidence store (.uploadText incidentId rows) := by
  cases accepted
  constructor
  · rintro kept packed incident listed rfl point stored recorded
    have uploaded := (kept incident listed packed).1 point stored recorded
    rwa [EvidenceStore.fileRows_upload, if_pos rfl] at uploaded
  · intro known incident listed packed
    refine ⟨fun point stored recorded => ?_, (complete incident listed packed).2⟩
    by_cases same : incident.id = incidentId
    case pos =>
      subst same
      rw [EvidenceStore.fileRows_upload, if_pos rfl]
      exact known packed incident listed rfl point stored recorded
    case neg =>
      rw [EvidenceStore.fileRows_upload, if_neg same]
      exact (complete incident listed packed).1 point stored recorded

/-- A pack is complete exactly if its files are when its row is made. -/
theorem complete_createPack_iff {pack : PackRow} {automatic : Bool} (complete : Complete store)
    (accepted : commit store (.createPack pack automatic) = .ok written) :
    Complete written ↔ KeepsEvidence store (.createPack pack automatic) := by
  rw [commit] at accepted
  split at accepted
  case isTrue => cases accepted
  case isFalse absent =>
    cases accepted
    rw [KeepsEvidence, if_neg absent]
    constructor
    · rintro kept incident listed same
      exact kept incident listed ((store.hasPack_insertPack pack absent _).mpr (Or.inr same))
    · intro known incident listed packed
      rcases (store.hasPack_insertPack pack absent _).mp packed with old | new
      · exact complete incident listed old
      · exact known incident listed new

/-- What the tables and the storage accept leaves all packs complete exactly where it keeps
the evidence. -/
theorem complete_commit_iff {operation : Write} (complete : Complete store)
    (accepted : commit store operation = .ok written) :
    Complete written ↔ KeepsEvidence store operation := by
  cases operation with
  | pass elapsed =>
    cases accepted
    exact iff_of_true complete trivial
  | upsertPoint point => exact complete_upsertPoint_iff complete accepted
  | createEvent event => exact complete_createEvent_iff complete accepted
  | openIncident incident => exact iff_of_true (complete_openIncident complete accepted) trivial
  | uploadJson incidentId summary => exact complete_uploadJson_iff complete accepted
  | uploadText incidentId rows => exact complete_uploadText_iff complete accepted
  | createPack pack automatic => exact complete_createPack_iff complete accepted

end Operations

/-- No two packs are of one incident. -/
theorem once_of_keys (store : EvidenceStore) (incidentId : Id) :
    (store.packs.filter fun pack => decide (pack.incidentId = incidentId)).length ≤ 1 := by
  by_cases present : incidentId ∈ store.packs.map PackRow.incidentId
  case pos =>
    obtain ⟨pack, stored, rfl⟩ := List.mem_map.mp present
    rw [Tables.filter_key_eq store.packKeys stored]
    exact Nat.le_refl 1
  case neg =>
    rw [List.filter_eq_nil_iff.mpr]
    · exact Nat.zero_le 1
    · intro pack stored same
      exact present (of_decide_eq_true same ▸ List.mem_map_of_mem stored)

/-- A step that meets the condition keeps all packs complete. -/
theorem complete_step {before next : System EvidenceStore Write DatabaseError Failure}
    {action : Action Request} (complete : Complete before.store)
    (keeps : Attempts KeepsEvidence before action) (moved : step commit handle before action = some next) :
    Complete next.store := by
  rcases step_store moved with ⟨-, same⟩ | ⟨operation, attempt, accepted⟩
  · rwa [same]
  · exact (complete_commit_iff complete accepted).mpr (keeps operation attempt)

/-- A step that keeps the evidence leads to what the claim of a step says. -/
theorem evident_step {before next : System EvidenceStore Write DatabaseError Failure}
    {action : Action Request} (complete : Complete before.store)
    (keeps : Attempts KeepsEvidence before action) (moved : step commit handle before action = some next) :
    Evident before action next where
  complete := fun incident listed packed _ => complete_step complete keeps moved incident listed packed
  once := once_of_keys next.store
  served := by
    intro pack attempt
    have kept := keeps _ attempt
    rw [KeepsEvidence] at kept
    split at kept
    case isTrue => cases kept
    case isFalse absent =>
      rw [commit, dif_neg absent]
      exact ⟨_, rfl⟩

/-! ## What a generation has seen -/

/-- The tables when a call looked for the pack, which is its second access. The first one
opens or loads the incident. -/
def lookedUp (seen : List EvidenceStore) : Option EvidenceStore := seen[1]?

/-- The tables when it read the events and the telemetry, and the files after its uploads. -/
def eventsRead (seen : List EvidenceStore) : Option EvidenceStore := seen[3]?

/-- The store as a call has found it when it read the telemetry. -/
def pointsRead (seen : List EvidenceStore) : Option EvidenceStore := seen[4]?

/-- The store after a call has uploaded its summary. -/
def jsonUploaded (seen : List EvidenceStore) : Option EvidenceStore := seen[5]?

/-- The store after a call has uploaded its telemetry. -/
def textUploaded (seen : List EvidenceStore) : Option EvidenceStore := seen[6]?

/-- No other call has inserted the pack of an incident since this one looked for it. -/
def NoPackSince (seen : List EvidenceStore) (store : EvidenceStore) (incidentId : Id) : Prop :=
  ∀ looked ∈ lookedUp seen, looked.hasPack incidentId = false → store.hasPack incidentId = false

/-- Since a call has read what goes into a pack, nothing of the window was stored, and no
other call has uploaded other files. -/
structure FilesUpToDate (seen : List EvidenceStore) (store : EvidenceStore) (incident : Incident) :
    Prop where
  events : ∀ event ∈ store.events, isRelated incident event = true →
    ∃ read ∈ eventsRead seen, event ∈ read.events
  points : ∀ point ∈ store.points, isRecorded incident point = true →
    ∃ read ∈ pointsRead seen, point ∈ read.points
  json : ∃ filed ∈ jsonUploaded seen, filed.fileEvents incident.id = store.fileEvents incident.id
  text : ∃ filed ∈ textUploaded seen, filed.fileRows incident.id = store.fileRows incident.id

/-- Nothing new of a window comes in once its pack is there, and no generation is overtaken:
no other call inserts the pack after it has looked for it, and what it has read and uploaded
is up to date when it inserts the pack. -/
def Timely (_ : Request) (seen : List EvidenceStore) (store : EvidenceStore) : Write → Prop
  | .pass _ | .openIncident _ => True
  | .upsertPoint point => point ∈ store.points ∨
      ∀ incident ∈ store.incidents, store.hasPack incident.id = true → isRecorded incident point = false
  | .createEvent event => store.events.any (sameSlot event) = true ∨
      ∀ incident ∈ store.incidents, store.hasPack incident.id = true → isRelated incident event = false
  | .uploadJson incidentId _ | .uploadText incidentId _ => NoPackSince seen store incidentId
  | .createPack pack automatic =>
    (automatic = false → NoPackSince seen store pack.incidentId) ∧
      (store.hasPack pack.incidentId = false → ∀ incident ∈ store.incidents,
        incident.id = pack.incidentId → FilesUpToDate seen store incident)

instance (seen : List EvidenceStore) (store : EvidenceStore) (incidentId : Id) :
    Decidable (NoPackSince seen store incidentId) :=
  inferInstanceAs (Decidable (∀ _ ∈ _, _ → _))

instance (seen : List EvidenceStore) (store : EvidenceStore) (incident : Incident) :
    Decidable (FilesUpToDate seen store incident) :=
  decidable_of_iff
    ((∀ event ∈ store.events, isRelated incident event = true →
        ∃ read, read ∈ eventsRead seen ∧ event ∈ read.events) ∧
      (∀ point ∈ store.points, isRecorded incident point = true →
        ∃ read, read ∈ pointsRead seen ∧ point ∈ read.points) ∧
      (∃ filed, filed ∈ jsonUploaded seen ∧
        filed.fileEvents incident.id = store.fileEvents incident.id) ∧
      ∃ filed, filed ∈ textUploaded seen ∧ filed.fileRows incident.id = store.fileRows incident.id)
    ⟨fun ⟨events, points, json, text⟩ => ⟨events, points, json, text⟩,
      fun upToDate => ⟨upToDate.events, upToDate.points, upToDate.json, upToDate.text⟩⟩

instance (request : Request) (seen : List EvidenceStore) (store : EvidenceStore) :
    (operation : Write) → Decidable (Timely request seen store operation)
  | .pass _ | .openIncident _ => isTrue trivial
  | .upsertPoint _ => inferInstanceAs (Decidable (_ ∨ ∀ _ ∈ _, _ → _))
  | .createEvent _ => inferInstanceAs (Decidable (_ ∨ ∀ _ ∈ _, _ → _))
  | .uploadJson _ _ | .uploadText _ _ => inferInstanceAs (Decidable (NoPackSince _ _ _))
  | .createPack _ _ => inferInstanceAs (Decidable ((_ → _) ∧ (_ → ∀ _ ∈ _, _ → _)))

/-- What a call knows when it writes: there was no pack when it looked, and its files have
all of the window that it has read, of an incident that it has seen. -/
def Knows (seen : List EvidenceStore) : Write → Prop
  | .pass _ | .openIncident _ | .upsertPoint _ | .createEvent _ => True
  | .uploadJson incidentId _ | .uploadText incidentId _ =>
    ∃ looked ∈ lookedUp seen, looked.hasPack incidentId = false
  | .createPack pack _ => ∃ incident, incident.id = pack.incidentId ∧
      (∃ first ∈ seen.head?, incident ∈ first.incidents) ∧
      (∃ looked ∈ lookedUp seen, looked.hasPack pack.incidentId = false) ∧
      (∃ read ∈ eventsRead seen, ∃ filed ∈ jsonUploaded seen,
        filed.fileEvents incident.id = read.eventsOf incident) ∧
      ∃ read ∈ pointsRead seen, ∃ filed ∈ textUploaded seen,
        filed.fileRows incident.id = read.pointsOf incident

section Calls

variable {sound : EvidenceStore → Prop} {incident : Incident} {first looked : EvidenceStore}

/-- The files of a generation have all of the window that it has read. -/
theorem generate_vouches (packId : Id) (createdAt : Int) (automatic : Bool)
    (listed : incident ∈ first.incidents) (absent : looked.hasPack incident.id = false) :
    Overlaps.Vouches commit sound Knows (fun _ _ => True) [first, looked]
      (generateAndPersistEvidencePack incident packId createdAt automatic) := by
  intro tripRead _ eventRead _ pointRead _
  refine ⟨⟨looked, rfl, absent⟩, fun store written _ accepted => ?_⟩
  cases accepted
  refine ⟨⟨looked, rfl, absent⟩, fun later rewritten _ acceptedToo => ?_⟩
  cases acceptedToo
  refine ⟨⟨incident, rfl, ⟨first, rfl, listed⟩, ⟨looked, rfl, absent⟩, ⟨eventRead, rfl, _, rfl, ?_⟩,
    pointRead, rfl, _, rfl, ?_⟩, fun _ _ _ _ => trivial⟩
  · rw [EvidenceStore.fileEvents_upload, if_pos rfl]
    rfl
  · rw [EvidenceStore.fileRows_upload, if_pos rfl]

/-- A call that makes a pack files what it has read. -/
theorem getOrCreate_vouches (packId : Id) (createdAt : Int) (automatic : Bool)
    (listed : incident ∈ first.incidents) :
    Overlaps.Vouches commit sound Knows (fun _ _ => True) [first]
      (getOrCreateEvidencePack incident packId createdAt automatic) := by
  rw [getOrCreateEvidencePack, Overlaps.vouches_bind, Overlaps.vouches_read]
  intro looked _
  cases found : looked.packs.find? fun pack => decide (pack.incidentId = incident.id) with
  | some pack => trivial
  | none =>
    refine generate_vouches packId createdAt automatic listed (decide_eq_false fun present => ?_)
    obtain ⟨pack, stored, same⟩ := List.mem_map.mp present
    exact List.find?_eq_none.mp found pack stored (decide_eq_true same)

/-- Every call knows what it has filed. -/
theorem handle_vouches (request : Request) :
    Overlaps.Vouches commit sound Knows (fun _ _ => True) [] (handle request) := by
  cases request with
  | wait elapsed => exact ⟨trivial, fun _ _ _ _ => trivial⟩
  | storePoint point => exact ⟨trivial, fun _ _ _ _ => trivial⟩
  | storeEvent event => exact ⟨trivial, fun _ _ _ _ => trivial⟩
  | openIncident incident packId createdAt =>
    refine ⟨trivial, fun store written _ accepted => ?_⟩
    apply Overlaps.vouches_ite
    case left =>
      intro _
      refine getOrCreate_vouches packId createdAt true ?_
      rw [commit] at accepted
      split at accepted
      case isTrue => cases accepted
      case isFalse =>
        cases accepted
        exact List.mem_append_right _ (List.mem_singleton_self _)
    case right => exact fun _ => trivial
  | getEvidencePack incidentId packId createdAt =>
    rw [handle, getEvidencePack, loadIncidentBundleOrThrow, Overlaps.vouches_bind,
      Overlaps.vouches_bind, Overlaps.vouches_read]
    intro first _
    cases found : first.incidents.find? fun row => decide (row.id = incidentId) with
    | none => trivial
    | some incident =>
      refine Overlaps.vouches_ite (fun _ => trivial) fun _ => ?_
      exact getOrCreate_vouches packId createdAt false (List.mem_of_find?_eq_some found)

end Calls

/-- The packs are complete, and no two incidents have one identity. -/
structure Whole (store : EvidenceStore) : Prop where
  complete : Complete store
  keyed : (store.incidents.map Incident.id).Nodup

/-- Incidents stay. -/
def Later (before after : EvidenceStore) : Prop := before.incidents ⊆ after.incidents

section Concluded

variable {store : EvidenceStore} {seen : List EvidenceStore} {operation : Write}

/-- Files that are up to date have all that is stored in the window. -/
theorem filesUpToDate_contains {incident : Incident} (upToDate : FilesUpToDate seen store incident)
    (events : ∃ read ∈ eventsRead seen, ∃ filed ∈ jsonUploaded seen,
      filed.fileEvents incident.id = read.eventsOf incident)
    (points : ∃ read ∈ pointsRead seen, ∃ filed ∈ textUploaded seen,
      filed.fileRows incident.id = read.pointsOf incident) : store.Contains incident := by
  constructor
  · intro point stored recorded
    obtain ⟨read, shown, filed, uploaded, rows⟩ := points
    obtain ⟨other, shownToo, present⟩ := upToDate.points point stored recorded
    obtain ⟨file, uploadedToo, same⟩ := upToDate.text
    obtain rfl := Option.some.inj (shown.symm.trans shownToo)
    obtain rfl := Option.some.inj (uploaded.symm.trans uploadedToo)
    rw [← same, rows, EvidenceStore.pointsOf, byTime, List.mem_mergeSort]
    exact List.mem_filter.mpr ⟨present, recorded⟩
  · intro event stored related
    obtain ⟨read, shown, filed, uploaded, rows⟩ := events
    obtain ⟨other, shownToo, present⟩ := upToDate.events event stored related
    obtain ⟨file, uploadedToo, same⟩ := upToDate.json
    obtain rfl := Option.some.inj (shown.symm.trans shownToo)
    obtain rfl := Option.some.inj (uploaded.symm.trans uploadedToo)
    rw [← same, rows, EvidenceStore.eventsOf, byTime, List.mem_mergeSort]
    exact List.mem_filter.mpr ⟨present, related⟩

/-- A write that is not overtaken keeps the evidence. -/
theorem keepsEvidence_of_timely {request : Request} (whole : Whole store)
    (since : ∀ shown ∈ seen, Later shown store) (knows : Knows seen operation)
    (timely : Timely request seen store operation) : KeepsEvidence store operation := by
  cases operation with
  | pass elapsed => trivial
  | openIncident incident => trivial
  | upsertPoint point =>
    intro incident listed packed recorded
    rcases timely with stored | unrecorded
    · exact (whole.complete incident listed packed).1 point stored recorded
    · rw [unrecorded incident listed packed] at recorded
      cases recorded
  | createEvent event =>
    intro free incident listed packed related
    rcases timely with taken | unrelated
    · rw [taken] at free
      cases free
    · rw [unrelated incident listed packed] at related
      cases related
  | uploadJson incidentId summary =>
    obtain ⟨looked, shown, absent⟩ := knows
    intro packed
    rw [timely looked shown absent] at packed
    cases packed
  | uploadText incidentId rows =>
    obtain ⟨looked, shown, absent⟩ := knows
    intro packed
    rw [timely looked shown absent] at packed
    cases packed
  | createPack pack automatic =>
    obtain ⟨incident, same, ⟨first, opened, listed⟩, ⟨looked, shown, absent⟩, events, points⟩ := knows
    rw [KeepsEvidence]
    split
    case isTrue packed =>
      by_contra requested
      rw [timely.1 (Bool.eq_false_iff.mpr requested) looked shown absent] at packed
      cases packed
    case isFalse free =>
      intro current stored sameId
      have there : incident ∈ store.incidents := since first (List.mem_of_mem_head? opened) listed
      obtain rfl := Tables.eq_of_key_eq whole.keyed stored there (sameId.trans same.symm)
      exact filesUpToDate_contains (timely.2 (Bool.eq_false_iff.mpr free) current stored sameId)
        events points

/-- A write that keeps the evidence keeps the store whole. -/
theorem whole_commit {written : EvidenceStore} (whole : Whole store)
    (keeps : KeepsEvidence store operation) (accepted : commit store operation = .ok written) :
    Whole written ∧ Later store written := by
  have complete := (complete_commit_iff whole.complete accepted).mpr keeps
  have rows : written.incidents = store.incidents ∨ ∃ incident,
      incident.id ∉ store.incidents.map Incident.id ∧
        written.incidents = store.incidents ++ [incident] := by
    cases operation with
    | openIncident incident =>
      rw [commit] at accepted
      split at accepted
      case isTrue => cases accepted
      case isFalse free =>
        cases accepted
        refine Or.inr ⟨incident, fun taken => free ?_, rfl⟩
        obtain ⟨row, listed, same⟩ := List.mem_map.mp taken
        rw [Bool.or_eq_true]
        exact Or.inl (List.any_eq_true.mpr ⟨row, listed, by simp [same]⟩)
    | createEvent event =>
      rw [commit] at accepted
      split at accepted
      case isTrue => cases accepted
      case isFalse =>
        cases accepted
        exact Or.inl rfl
    | createPack pack automatic =>
      rw [commit] at accepted
      split at accepted
      case isTrue => cases accepted
      case isFalse =>
        cases accepted
        exact Or.inl rfl
    | pass elapsed =>
      cases accepted
      exact Or.inl rfl
    | upsertPoint point =>
      cases accepted
      exact Or.inl rfl
    | uploadJson incidentId summary =>
      cases accepted
      exact Or.inl rfl
    | uploadText incidentId rows =>
      cases accepted
      exact Or.inl rfl
  rcases rows with same | ⟨incident, new, appended⟩
  case inl =>
    refine ⟨⟨complete, same ▸ whole.keyed⟩, ?_⟩
    rw [Later, same]
    exact List.Subset.refl _
  case inr =>
    refine ⟨⟨complete, ?_⟩, ?_⟩
    · rw [appended]
      exact (Tables.unique_append_iff incident).mpr ⟨whole.keyed, new⟩
    · rw [Later, appended]
      exact List.subset_append_left _ _

end Concluded

/-- Whatever is stored and requested and however the accesses interleave: as long as nothing
new of a window comes in once its pack is there and no generation is overtaken, the packs
are complete, there is one for an incident, and no request is refused one. -/
theorem evidence_kept (store : EvidenceStore) (unpacked : store.packs = [])
    (keyed : (store.incidents.map Incident.id).Nodup) (actions : List (Action Request))
    (timely : Along (Overlaps.watch commit handle)
      (fun before action _ => Overlaps.Attempts Timely before action)
      (Overlaps.Watched.begun store) actions) :
    Along (step commit handle) Evident ⟨store, []⟩ actions := by
  have complete : Complete store := by
    intro incident _ packed
    rw [EvidenceStore.hasPack, decide_eq_true_eq, unpacked] at packed
    cases packed
  have keeps := @Overlaps.along_attempts _ _ _ _ _ commit handle Whole (fun _ => Knows) Timely Later
    KeepsEvidence (fun _ => List.Subset.refl _) (fun _ _ _ => List.Subset.trans) handle_vouches
    (fun _ _ _ _ whole since knows timely => keepsEvidence_of_timely whole since knows timely)
    (fun _ _ _ => whole_commit) store actions ⟨complete, keyed⟩ timely
  refine along_of_invariant (fun system => Complete system.store) ?_ ?_ complete keeps
  · exact fun before action next complete met moved => complete_step complete met moved
  · exact fun before action next complete met moved => evident_step complete met moved

section Samples

/-- A store before anything has happened. -/
def nothingStored : EvidenceStore where
  now := 0
  incidents := []
  trips := []
  events := []
  points := []
  summary := fun _ => none
  telemetryCsv := fun _ => none
  packs := []
  packKeys := List.nodup_nil

/-- A crash at the first instant. -/
def crash : Incident where
  id := "incident"
  fleetId := "fleet"
  bikeId := some "bike"
  deviceId := "device"
  deviceUid := "EM-1"
  eventId := 1
  eventTs := 0
  eventType := .CRASH
  status := .OPEN
  createdAt := 1000
  updatedAt := 1000
  acknowledgedByUserId := none
  acknowledgedAt := none
  resolvedByUserId := none
  resolvedAt := none
  notes := none

/-- A point of the device of the crash. -/
def pointAt (ts : Int) : TelemetryPoint where
  deviceId := "device"
  ts := ts
  lat := -2
  lng := 30
  speedKph := 0
  heading := none
  accelX := none
  accelY := none
  accelZ := none
  batteryV := none
  ignition := some true

/-- The crash is opened as an incident. -/
def opened : List (Action Request) :=
  [.submit (.openIncident crash "pack" 1000), .advance 0]

/-- A point of the window arrives, and the window passes. -/
def minuteLater : List (Action Request) :=
  [.submit (.storePoint (pointAt 60000)), .advance 1, .submit (.wait 121000), .advance 2]

/-- A pack that is first asked for when the window has passed. -/
def askedLater : List (Action Request) :=
  opened ++ minuteLater ++ .submit (.getEvidencePack "incident" "later" 121000) ::
    List.replicate 8 (Action.advance 3)

/-- A pack that is asked for after the window is complete. -/
theorem evidence_kept_askedLater :
    Along (step commit handle) Evident ⟨nothingStored, []⟩ askedLater :=
  evidence_kept nothingStored rfl List.nodup_nil askedLater (along_of_decide (by decide +kernel))

/-- The incident has its pack at once, when half of its window is still to come, and whoever
asks later gets the same. -/
def packedAtOnce : List (Action Request) :=
  opened ++ List.replicate 7 (Action.advance 0) ++
    [.submit (.storePoint (pointAt 60000)), .advance 1, .submit (.wait 121000)]

/-- Two requests that find no pack. -/
def askedTwice : List (Action Request) :=
  opened ++ [.submit (.getEvidencePack "incident" "first" 1000),
    .submit (.getEvidencePack "incident" "second" 1000)] ++
    List.replicate 7 (Action.advance 1) ++ List.replicate 7 (Action.advance 2) ++ [.advance 1]

/-- The third call attempts a pack for an incident that has one. -/
def packsAgain (before _next : System EvidenceStore Write DatabaseError Failure) : Bool :=
  match attempted before (.advance 2 : Action Request) with
  | some (.createPack pack false) => before.store.hasPack pack.incidentId
  | _ => false

/-- An automatic pack lacks later telemetry, and of two requests one is refused. -/
theorem packs_incomplete_and_refused :
    (¬ ∀ (store : EvidenceStore) actions, store.packs = [] →
      (store.incidents.map Incident.id).Nodup → Along (step commit handle) Evident ⟨store, []⟩ actions) ∧
    ¬ Along (step commit handle) Evident ⟨nothingStored, []⟩ (askedTwice ++ [.advance 2]) := by
  constructor
  · intro claim
    refine not_along_of_check (⟨nothingStored, []⟩ : System EvidenceStore Write DatabaseError Failure)
      packedAtOnce (.advance 2)
      (fun _ next (broken : decide (¬ ∀ incident ∈ next.store.incidents,
        next.store.hasPack incident.id = true → windowEnd incident < next.store.now →
          next.store.Contains incident) = true) evident =>
        of_decide_eq_true broken evident.complete) ?_ (claim nothingStored _ rfl List.nodup_nil)
    decide +kernel
  · refine @not_along_of_check _ _ _ _ packsAgain ⟨nothingStored, []⟩ askedTwice (.advance 2) ?_
      (by decide +kernel)
    intro middle next broken evident
    rw [packsAgain] at broken
    split at broken
    case h_1 pack attempt =>
      obtain ⟨written, accepted⟩ := evident.served pack attempt
      rw [commit, dif_pos broken] at accepted
      cases accepted
    case h_2 => cases broken

end Samples

end EmotoFleet.EvidenceWindow
