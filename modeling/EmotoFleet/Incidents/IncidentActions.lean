import EmotoFleet.Access.InsurerReads
import EmotoFleet.Foundations.Overlaps
import EmotoFleet.Foundations.Tables

/-!
# What operators do with incidents

An operator acknowledges an incident, resolves it or marks it as a false alarm. Each of
these calls loads the incident for its fleet and its notes and updates it afterwards; none
of them looks at the status. The answers to the calls are left out.
-/

namespace EmotoFleet.Incidents

open Access (Id Incident IncidentStatus)
open Access.Insurers (AuthenticatedUser)
open Runs Interleavings Tables

/-- The incidents, one for each identity. -/
structure IncidentStore where
  incidents : List Incident
  distinct : (incidents.map Incident.id).Nodup

/-- The notes of an action. -/
structure IncidentStatusActionDto where
  notes : Option String

/-- Who set a status, and when. -/
structure Mark where
  userId : Id
  time : Int
  deriving DecidableEq

/-- The columns that an action sets. Those of a mark that is missing stay as they are. -/
structure IncidentData where
  status : IncidentStatus
  acknowledged : Option Mark
  resolved : Option Mark
  notes : Option String

/-- One write, at a time of the database. -/
inductive Write where
  | update (id : Id) (data : IncidentData) (now : Int)

/-- How an action may end without an answer. -/
inductive Failure where
  | forbidden (message : String)
  | notFound (message : String)
  | recordMissing
  deriving DecidableEq

/-- The row to update is gone. -/
inductive RecordMissing where
  | P2025

/-! ## The calls -/

/-- The incident of an identity. -/
def loadIncidentOrThrow (id : Id) : Program IncidentStore Write RecordMissing Failure Incident := do
  let incident ← Program.read fun store => store.incidents.find? fun row => decide (row.id = id)
  match incident with
  | none => .failed (.notFound "Incident not found")
  | some incident => pure incident

/-- The body that the three actions share, with the columns that each of them sets. -/
def actOnIncident (data : Option String → IncidentData) (user : AuthenticatedUser) (id : Id)
    (dto : IncidentStatusActionDto) (now : Int) :
    Program IncidentStore Write RecordMissing Failure Unit := do
  if user.fleetPlan = .INSURANCE then
    .failed (.forbidden "Insurers have read-only access to incidents")
  else
    let incident ← loadIncidentOrThrow id
    if incident.fleetId ≠ user.fleetId then .failed (.forbidden "Fleet access violation")
    else Program.write (.update id (data (dto.notes <|> incident.notes)) now) fun _ => .recordMissing

/-- A user acknowledges an incident. -/
def acknowledgeIncidentForUser (user : AuthenticatedUser) (id : Id) (dto : IncidentStatusActionDto)
    (now : Int) : Program IncidentStore Write RecordMissing Failure Unit :=
  actOnIncident (fun notes => ⟨.ACKNOWLEDGED, some ⟨user.id, now⟩, none, notes⟩) user id dto now

/-- A user resolves an incident. -/
def resolveIncidentForUser (user : AuthenticatedUser) (id : Id) (dto : IncidentStatusActionDto)
    (now : Int) : Program IncidentStore Write RecordMissing Failure Unit :=
  actOnIncident (fun notes => ⟨.RESOLVED, none, some ⟨user.id, now⟩, notes⟩) user id dto now

/-- A user marks an incident as a false alarm. -/
def markIncidentFalseAlarmForUser (user : AuthenticatedUser) (id : Id)
    (dto : IncidentStatusActionDto) (now : Int) :
    Program IncidentStore Write RecordMissing Failure Unit :=
  actOnIncident (fun notes => ⟨.FALSE_ALARM, none, some ⟨user.id, now⟩, notes⟩) user id dto now

/-- A request of an operator, with the time that the call takes. -/
inductive Request where
  | acknowledge (user : AuthenticatedUser) (id : Id) (dto : IncidentStatusActionDto) (now : Int)
  | resolve (user : AuthenticatedUser) (id : Id) (dto : IncidentStatusActionDto) (now : Int)
  | falseAlarm (user : AuthenticatedUser) (id : Id) (dto : IncidentStatusActionDto) (now : Int)

/-- The actions that serve the requests. -/
def handle : Request → Program IncidentStore Write RecordMissing Failure Unit
  | .acknowledge user id dto now => acknowledgeIncidentForUser user id dto now
  | .resolve user id dto now => resolveIncidentForUser user id dto now
  | .falseAlarm user id dto now => markIncidentFalseAlarmForUser user id dto now

/-! ## The table -/

/-- An incident with the data of an action. -/
def IncidentData.apply (data : IncidentData) (now : Int) (row : Incident) : Incident :=
  { row with
    status := data.status
    acknowledgedByUserId := data.acknowledged.elim row.acknowledgedByUserId (some ·.userId)
    acknowledgedAt := data.acknowledged.elim row.acknowledgedAt (some ·.time)
    resolvedByUserId := data.resolved.elim row.resolvedByUserId (some ·.userId)
    resolvedAt := data.resolved.elim row.resolvedAt (some ·.time)
    notes := data.notes
    updatedAt := now }

/-- An action leaves the incident's identity. -/
@[simp] theorem apply_id (data : IncidentData) (now : Int) (row : Incident) :
    (data.apply now row).id = row.id := rfl

namespace IncidentStore

variable (store : IncidentStore)

/-- The incident of an identity. -/
def find (id : Id) : Option Incident := store.incidents.find? fun row => decide (row.id = id)

/-- The incidents with one of them changed. -/
def update (id : Id) (data : IncidentData) (now : Int) : IncidentStore where
  incidents := updateKey Incident.id id (data.apply now) store.incidents
  distinct := by
    rw [map_updateKey (apply_id data now)]
    exact store.distinct

end IncidentStore

/-- The effect of each write. -/
def commit (store : IncidentStore) : Write → Except RecordMissing IncidentStore
  | .update id data now =>
    match store.find id with
    | none => .error .P2025
    | some _ => .ok (store.update id data now)

/-! ## Closed incidents -/

/-- Whether an incident is closed. -/
def isClosed (status : IncidentStatus) : Bool := status = .RESOLVED || status = .FALSE_ALARM

/-- The status and the resolution data of an incident. -/
def closing (row : Incident) : IncidentStatus × Option Id × Option Int :=
  (row.status, row.resolvedByUserId, row.resolvedAt)

/-- Closed incidents keep their status and their resolution data. -/
def KeepsClosed (before after : IncidentStore) : Prop :=
  ∀ old ∈ before.incidents, isClosed old.status = true →
    ∃ new ∈ after.incidents, new.id = old.id ∧ closing new = closing old

instance (before after : IncidentStore) : Decidable (KeepsClosed before after) :=
  inferInstanceAs (Decidable (∀ _ ∈ _, _))

/-- An update of a closed incident repeats how it was closed: by the same user at the same
time with the same status. -/
def Spares (store : IncidentStore) : Write → Prop
  | .update id data _ => ∀ row ∈ store.find id, isClosed row.status = true →
      data.status = row.status ∧ ∀ mark ∈ data.resolved,
        row.resolvedByUserId = some mark.userId ∧ row.resolvedAt = some mark.time

/-- An action keeps the closing exactly when it sets the same status and the same marks. -/
theorem closing_apply_iff (data : IncidentData) (now : Int) (row : Incident) :
    closing (data.apply now row) = closing row ↔ data.status = row.status ∧
      ∀ mark ∈ data.resolved,
        row.resolvedByUserId = some mark.userId ∧ row.resolvedAt = some mark.time := by
  rw [closing, closing, Prod.mk.injEq, Prod.mk.injEq, IncidentData.apply]
  dsimp only
  apply and_congr_right
  intro _
  cases data.resolved with
  | none => simp
  | some mark =>
    have named : (some mark.userId = row.resolvedByUserId ∧ some mark.time = row.resolvedAt) ↔
        (row.resolvedByUserId = some mark.userId ∧ row.resolvedAt = some mark.time) :=
      and_congr eq_comm eq_comm
    simpa using named

/-- What the table accepts keeps the closed incidents exactly where it spares the one that
it is about. -/
theorem keepsClosed_commit_iff {store written : IncidentStore} {operation : Write}
    (accepted : commit store operation = .ok written) :
    KeepsClosed store written ↔ Spares store operation := by
  obtain ⟨id, data, now⟩ := operation
  rw [commit] at accepted
  cases found : store.find id with
  | none =>
    rw [found] at accepted
    cases accepted
  | some row =>
    rw [found] at accepted
    cases accepted
    obtain ⟨stored, isWanted⟩ := (find?_key_iff store.distinct).mp found
    have changed : data.apply now row ∈ (store.update id data now).incidents :=
      mem_updateKey.mpr (Or.inl ⟨row, stored, isWanted, rfl⟩)
    have spares : Spares store (.update id data now) ↔
        (isClosed row.status = true → closing (data.apply now row) = closing row) := by
      rw [Spares, found, closing_apply_iff]
      simp only [Option.mem_def, Option.some.injEq, forall_eq']
    rw [spares]
    constructor
    case mp =>
      intro keeps closed
      obtain ⟨new, listed, same, kept⟩ := keeps row stored closed
      rwa [eq_of_key_eq (store.update id data now).distinct listed changed same] at kept
    case mpr =>
      intro spared old listed closed
      by_cases wanted : old.id = id
      case pos =>
        obtain rfl := eq_of_key_eq store.distinct listed stored (wanted.trans isWanted.symm)
        exact ⟨data.apply now old, changed, rfl, spared closed⟩
      case neg => exact ⟨old, mem_updateKey.mpr (Or.inr ⟨listed, wanted⟩), rfl, rfl⟩

/-! ## What the actions ask for -/

/-- A request that reaches its update finds the incident open, or closed in just the way in
which it would close it: with the same status, by the same user, at the same time. -/
def LeavesClosed : Request → List IncidentStore → IncidentStore → Write → Prop
  | .acknowledge _ id _ _, _, store, _ => ∀ row ∈ store.find id, isClosed row.status = false
  | .resolve user id _ now, _, store, _ =>
    ∀ row ∈ store.find id, isClosed row.status = true →
      closing row = (.RESOLVED, some user.id, some now)
  | .falseAlarm user id _ now, _, store, _ =>
    ∀ row ∈ store.find id, isClosed row.status = true →
      closing row = (.FALSE_ALARM, some user.id, some now)

/-- The update that a request makes, whatever notes it finds. -/
def Updates : Request → List IncidentStore → Write → Prop
  | .acknowledge user id _ now, _, operation =>
    ∃ notes, operation = .update id ⟨.ACKNOWLEDGED, some ⟨user.id, now⟩, none, notes⟩ now
  | .resolve user id _ now, _, operation =>
    ∃ notes, operation = .update id ⟨.RESOLVED, none, some ⟨user.id, now⟩, notes⟩ now
  | .falseAlarm user id _ now, _, operation =>
    ∃ notes, operation = .update id ⟨.FALSE_ALARM, none, some ⟨user.id, now⟩, notes⟩ now

/-- An action updates an incident that it has read. -/
theorem actOnIncident_vouches {sound : IncidentStore → Prop}
    {vouched : List IncidentStore → Write → Prop} {data : Option String → IncidentData} {id : Id}
    {now : Int} (updates : ∀ seen notes, vouched seen (.update id (data notes) now))
    (user : AuthenticatedUser) (dto : IncidentStatusActionDto) :
    Overlaps.Vouches commit sound vouched (fun _ _ => True) []
      (actOnIncident data user id dto now) := by
  refine Overlaps.vouches_ite (fun _ => trivial) fun _ => ?_
  rw [loadIncidentOrThrow, Overlaps.vouches_bind, Overlaps.vouches_bind, Overlaps.vouches_read]
  intro first _
  cases first.incidents.find? fun row => decide (row.id = id) with
  | none => trivial
  | some incident =>
    exact Overlaps.vouches_ite (fun _ => trivial) fun _ => ⟨updates _ _, fun _ _ _ _ => trivial⟩

/-- Every request updates an incident that it has read. -/
theorem handle_vouches {sound : IncidentStore → Prop} (request : Request) :
    Overlaps.Vouches commit sound (Updates request) (fun _ _ => True) [] (handle request) := by
  cases request with
  | acknowledge user id dto now => exact actOnIncident_vouches (fun _ notes => ⟨notes, rfl⟩) user dto
  | resolve user id dto now => exact actOnIncident_vouches (fun _ notes => ⟨notes, rfl⟩) user dto
  | falseAlarm user id dto now => exact actOnIncident_vouches (fun _ notes => ⟨notes, rfl⟩) user dto

/-- A write spares closed incidents exactly when the one that it changes is open or closed alike. -/
theorem spares_iff {request : Request} {seen : List IncidentStore} {store : IncidentStore}
    {operation : Write} (updates : Updates request seen operation) :
    Spares store operation ↔ LeavesClosed request seen store operation := by
  -- a resolution is given in full, so it repeats how the incident was closed or does not
  have repeats : ∀ (row : Incident) (status : IncidentStatus) (mark : Mark),
      (status = row.status ∧ ∀ other ∈ some mark,
          row.resolvedByUserId = some other.userId ∧ row.resolvedAt = some other.time) ↔
        closing row = (status, some mark.userId, some mark.time) := by
    intro row status mark
    simp only [closing, Option.mem_def, Option.some.injEq, forall_eq', Prod.mk.injEq]
    exact and_congr_left' eq_comm
  cases request with
  | acknowledge user id dto now =>
    obtain ⟨notes, rfl⟩ := updates
    refine forall₂_congr fun row _ => ?_
    rw [← Bool.not_eq_true]
    constructor
    · intro spared closed
      rw [← (spared closed).1] at closed
      cases closed
    · exact fun stillOpen closed => absurd closed stillOpen
  | resolve user id dto now =>
    obtain ⟨notes, rfl⟩ := updates
    exact forall₃_congr fun row _ _ => repeats row _ ⟨user.id, now⟩
  | falseAlarm user id dto now =>
    obtain ⟨notes, rfl⟩ := updates
    exact forall₃_congr fun row _ _ => repeats row _ ⟨user.id, now⟩

/-- In every interleaving of actions closed incidents stay as they were closed exactly if
every acknowledgement that reaches its update finds the incident open, and every resolution
and false alarm finds it open or closed in just that way. -/
theorem closed_incidents_stay_iff (store : IncidentStore) (actions : List (Action Request)) :
    Along (step commit handle) (fun before _ next => KeepsClosed before.store next.store) ⟨store, []⟩
        actions ↔
      Along (Overlaps.watch commit handle)
        (fun before action _ => Overlaps.Meets commit LeavesClosed before action)
        (Overlaps.Watched.begun store) actions :=
  @Overlaps.along_changes_iff _ _ _ _ _ commit handle (fun _ => True) Updates
    (fun _ _ _ _ => True) LeavesClosed KeepsClosed handle_vouches
    (fun _ _ old listed _ => ⟨old, listed, rfl, rfl⟩)
    (fun _ _ _ _ _ _ updates _ accepted =>
      (keepsClosed_commit_iff accepted).trans (spares_iff updates))
    (fun _ _ _ _ _ _ => trivial) store actions trivial
    (along_of_forall_mem _ (fun _ _ _ _ _ _ _ _ => trivial) _)

section Samples

/-- A dispatcher of the fleet. -/
def dispatcher : AuthenticatedUser where
  id := "dispatcher"
  fleetId := "fleet"
  fleetPlan := .ENTERPRISE
  role := .DISPATCHER
  insurerName := none

/-- An open incident of the fleet. -/
def openIncident : Incident where
  id := "incident"
  fleetId := "fleet"
  bikeId := none
  deviceId := "device"
  deviceUid := "uid"
  eventId := 1
  eventTs := 0
  eventType := .CRASH
  status := .OPEN
  createdAt := 0
  updatedAt := 0
  acknowledgedByUserId := none
  acknowledgedAt := none
  resolvedByUserId := none
  resolvedAt := none
  notes := none

/-- The store with that incident. -/
def oneIncident : System IncidentStore Write RecordMissing Failure where
  store := ⟨[openIncident], by decide⟩
  calls := []

/-- An incident is resolved while somebody acknowledges it. -/
theorem resolved_incident_reopened :
    ¬ ∀ (system : System IncidentStore Write RecordMissing Failure) actions,
      Along (step commit handle) (fun before _ next => KeepsClosed before.store next.store) system
        actions := by
  intro claim
  refine not_along_of_check oneIncident
    [.submit (.acknowledge dispatcher "incident" ⟨none⟩ 1000), .advance 0,
      .submit (.resolve dispatcher "incident" ⟨none⟩ 2000), .advance 1, .advance 1] (.advance 0)
    (fun middle next (broken : decide (¬ KeepsClosed middle.store next.store) = true) =>
      of_decide_eq_true broken) ?_ (claim oneIncident _)
  decide +kernel

end Samples

end EmotoFleet.Incidents
