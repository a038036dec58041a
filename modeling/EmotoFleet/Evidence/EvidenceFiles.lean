import EmotoFleet.Access.InsurerReads
import EmotoFleet.Foundations.FilePaths

/-!
# Downloads of evidence files

Evidence is kept below a directory for uploads, under a path that names the fleet and the
incident. A download names a file by such a path, as a key that the caller sends.
-/

namespace EmotoFleet.Evidence

open Access (Id Database Incident)
open Access.Insurers (AuthenticatedUser bikeInsured)
open FilePaths (Name Node FileSystem Plain)

/-- The content of a file. -/
abbrev Bytes := List UInt8

/-- The disk, and the directory where the program was started. -/
structure LocalStorage where
  cwd : List Name
  files : FileSystem Bytes
  running : files.node cwd = some .directory
  uploadsNoFile : ∀ content, files.node (cwd ++ ["uploads".toList]) ≠ some (.file content)

namespace LocalStorage

variable (storage : LocalStorage)

/-- The directory of the uploads. -/
def uploads : List Name := storage.cwd ++ ["uploads".toList]

/-- The path of that directory. -/
def localStorageDir : List Char := '/' :: FilePaths.written storage.uploads

end LocalStorage

/-- The failures of a download: an answer, or an exception that nothing catches. -/
inductive Failure where
  | forbidden (message : String)
  | notFound (message : String)
  | thrown (code : String)
  deriving DecidableEq, Repr

/-- A file with its type. -/
structure EvidenceFile where
  content : Bytes
  mimeType : String
  deriving DecidableEq

/-- The response with a file. -/
structure EvidenceResponse where
  contentType : String
  contentDisposition : String
  content : Bytes
  deriving DecidableEq

/-- The values that a header may have. -/
def headerValue (value : String) : Bool :=
  value.toList.all fun char => char == '\t' || (32 ≤ char.toNat && char.toNat ≤ 126) ||
    (128 ≤ char.toNat && char.toNat ≤ 255)

/-- The header that names the download. -/
def contentDisposition (filename : String) : String :=
  "attachment; filename=\"" ++ filename ++ "\""

section Download

variable (storage : LocalStorage) (key : String)

/-- The path of a key, with its steps up stripped. -/
def safePath : List Char := FilePaths.stripParents (FilePaths.normalize key.toList)

/-- The path under which a key's file is kept. -/
def localFilePath : List Char := FilePaths.join [storage.localStorageDir, safePath key]

/-- The type of a key's file. -/
def mimeType : String :=
  if ".csv".toList.isSuffixOf (safePath key) then "text/csv; charset=utf-8"
  else "application/json; charset=utf-8"

/-- Reading a directory fails. -/
def readLocalFile : Except Failure (Option EvidenceFile) :=
  match storage.files.find (localFilePath storage key) with
  | none => .ok none
  | some .directory => .error (.thrown "EISDIR")
  | some (.file content) => .ok (some ⟨content, mimeType key⟩)

/-- A file is offered under the last part of the key. -/
def filename : String :=
  ((key.toList.splitOn '/').getLast?.map String.ofList).getD "evidence-file"

/-- The file of a key, or why there is none. -/
def downloadEvidenceFile : Except Failure EvidenceResponse := do
  match ← readLocalFile storage key with
  | none => .error (.notFound "Evidence file not found")
  | some file =>
    if headerValue (contentDisposition (filename key)) then
      .ok ⟨file.mimeType, contentDisposition (filename key), file.content⟩
    else .error (.thrown "ERR_INVALID_CHAR")

end Download

section Access

variable (db : Database) (user : AuthenticatedUser)

/-- The incident is one that the user may see. -/
def assertIncidentAccess (incident : Incident) : Except Failure Unit :=
  if user.fleetPlan = .INSURANCE then
    if bikeInsured db user.insurerName incident.bikeId then .ok ()
    else .error (.forbidden "Access to this incident is denied")
  else if incident.fleetId = user.fleetId then .ok ()
  else .error (.forbidden "Fleet access violation")

/-- The incident of an identity that the user may see. -/
def getIncidentForUser (id : Id) : Except Failure Incident :=
  match db.findIncident id with
  | none => .error (.notFound "Incident not found")
  | some incident => (assertIncidentAccess db user incident).map fun _ => incident

end Access

/-- The names of the directory of an incident's files. -/
def evidenceBase (incident : Incident) : List Name :=
  ["evidence".toList, incident.fleetId.toList, incident.id.toList]

/-- The two files of an incident. -/
def evidencePaths (incident : Incident) : List (List Name) :=
  [evidenceBase incident ++ ["summary.json".toList],
    evidenceBase incident ++ ["telemetry-window.csv".toList]]

/-- A path below the uploads that belongs to an incident which the user may read. -/
def MayRead (db : Database) (user : AuthenticatedUser) (path : List Name) : Prop :=
  ∃ id incident, getIncidentForUser db user id = .ok incident ∧ path ∈ evidencePaths incident

/-- What is downloaded is the content of a file below the uploads, and the file belongs to an
incident which the user may read. -/
def ConfinedAndPrivate (storage : LocalStorage) (db : Database) (user : AuthenticatedUser)
    (key : String) : Prop :=
  ∀ response, downloadEvidenceFile storage key = .ok response →
    ∃ path, path ≠ [] ∧
      FilePaths.resolved false (localFilePath storage key) = storage.uploads ++ path ∧
      storage.files.node (storage.uploads ++ path) = some (.file response.content) ∧
      MayRead db user path

/-! ## Confinement -/

section Confinement

variable {storage : LocalStorage} {key : String}

/-- The directory of the uploads has plain names. -/
theorem uploads_plain (storage : LocalStorage) : ∀ name ∈ storage.uploads, Plain name := by
  intro name listed
  cases List.mem_append.mp listed with
  | inl above => exact storage.files.plain storage.cwd (by rw [storage.running]; rfl) name above
  | inr last =>
    rw [List.mem_singleton.mp last]
    exact ⟨by decide, by decide, by decide, by decide⟩

/-- A file that is there is sent unless its header is not valid. -/
theorem download_found {content : Bytes}
    (found : storage.files.find (localFilePath storage key) = some (.file content)) :
    downloadEvidenceFile storage key =
      if headerValue (contentDisposition (filename key)) then
        .ok ⟨mimeType key, contentDisposition (filename key), content⟩
      else .error (.thrown "ERR_INVALID_CHAR") := by
  rw [downloadEvidenceFile, readLocalFile, found]
  rfl

/-- What is sent is the file of the key. -/
theorem download_reads {response : EvidenceResponse}
    (downloaded : downloadEvidenceFile storage key = .ok response) :
    storage.files.find (localFilePath storage key) = some (.file response.content) := by
  cases found : storage.files.find (localFilePath storage key) with
  | none =>
    rw [downloadEvidenceFile, readLocalFile, found] at downloaded
    cases downloaded
  | some node =>
    cases node with
    | directory =>
      rw [downloadEvidenceFile, readLocalFile, found] at downloaded
      cases downloaded
    | file content =>
      rw [download_found found] at downloaded
      split at downloaded
      case isTrue =>
        cases downloaded
        rfl
      case isFalse => cases downloaded

/-- A file that is found is the node of its names. -/
theorem find_file {β : Type} {files : FileSystem β} {path : List Char} {content : β}
    (found : files.find path = some (.file content)) :
    files.node (FilePaths.resolved false path) = some (.file content) := by
  rw [FileSystem.find] at found
  cases held : files.node (FilePaths.resolved false path) with
  | none =>
    rw [held] at found
    cases found
  | some node =>
    cases node with
    | directory =>
      rw [held] at found
      cases found
    | file stored =>
      simp only [held] at found
      split at found
      case isTrue => cases found
      case isFalse => rw [Option.some.inj found]

/-- Whatever the key, a download is the content of a file below the uploads. -/
theorem download_confined {response : EvidenceResponse}
    (downloaded : downloadEvidenceFile storage key = .ok response) :
    ∃ path, path ≠ [] ∧
      FilePaths.resolved false (localFilePath storage key) = storage.uploads ++ path ∧
      storage.files.node (storage.uploads ++ path) = some (.file response.content) := by
  have held := find_file (download_reads downloaded)
  by_cases up : safePath key = FilePaths.parent
  case pos =>
    -- two dots lead to the directory of the program
    have above : FilePaths.resolved false (localFilePath storage key) = storage.cwd := by
      rw [localFilePath, LocalStorage.localStorageDir,
        FilePaths.resolved_join (uploads_plain storage), up]
      have last : storage.uploads.getLast?.all (· = FilePaths.parent) = false := by
        rw [LocalStorage.uploads, List.getLast?_concat]
        decide
      change FilePaths.push false storage.uploads FilePaths.parent = storage.cwd
      rw [FilePaths.push, if_neg (by decide), if_pos rfl, last, if_neg Bool.false_ne_true,
        LocalStorage.uploads, List.dropLast_concat]
    rw [above, storage.running] at held
    cases held
  case neg =>
    obtain ⟨path, below⟩ := FilePaths.resolved_join_stripParents (uploads_plain storage) up
    have led : FilePaths.resolved false (localFilePath storage key) = storage.uploads ++ path :=
      below
    rw [led] at held
    refine ⟨path, ?_, led, held⟩
    rintro rfl
    rw [List.append_nil] at held
    exact storage.uploadsNoFile _ held

end Confinement

/-! ## Reach -/

/-- A key for a path below the uploads. The dot keeps its name out of the headers. -/
def keyOf (path : List Name) : String := String.ofList ('/' :: FilePaths.written path ++ ['/', '.'])

section Reach

variable {storage : LocalStorage} {path : List Name} (plain : ∀ name ∈ path, Plain name)
  (filled : path ≠ [])

include plain filled

/-- The key of a path leads to the path. -/
theorem safePath_keyOf : safePath (keyOf path) = '/' :: FilePaths.written path := by
  rw [safePath, keyOf, String.toList_ofList, FilePaths.normalize_dotted plain filled]
  rfl

omit plain filled in
/-- The key of a path has a file name of one dot. -/
theorem filename_keyOf (path : List Name) : filename (keyOf path) = "." := by
  have dot : FilePaths.components ['.'] = [['.']] := by decide
  have split := FilePaths.components_append ('/' :: FilePaths.written path) ['.']
  rw [dot, FilePaths.components] at split
  rw [filename, keyOf, String.toList_ofList, split, List.getLast?_concat]
  rfl

/-- Every file below the uploads can be downloaded. -/
theorem download_keyOf {content : Bytes}
    (held : storage.files.node (storage.uploads ++ path) = some (.file content)) :
    ∃ response, downloadEvidenceFile storage (keyOf path) = .ok response ∧
      response.content = content := by
  have found : storage.files.find (localFilePath storage (keyOf path)) = some (.file content) := by
    rw [localFilePath, safePath_keyOf plain filled, LocalStorage.localStorageDir,
      FilePaths.find_join plain filled (uploads_plain storage), held]
  have printable : headerValue (contentDisposition (filename (keyOf path))) = true := by
    have dotted : headerValue (contentDisposition ".") = true := by decide +kernel
    exact (filename_keyOf path).symm ▸ dotted
  exact ⟨_, (download_found found).trans (if_pos printable), rfl⟩

end Reach

/-- Downloads stay below the uploads, and they are private for a user just if every file below
the uploads belongs to an incident that the user may read. -/
theorem evidence_private_iff (storage : LocalStorage) (db : Database) (user : AuthenticatedUser) :
    (∀ key, ConfinedAndPrivate storage db user key) ↔
      ∀ path content, storage.files.node (storage.uploads ++ path) = some (.file content) →
        MayRead db user path := by
  constructor
  · intro guarded path content held
    have filled : path ≠ [] := by
      rintro rfl
      rw [List.append_nil] at held
      exact storage.uploadsNoFile content held
    have plain : ∀ name ∈ path, Plain name := fun name listed =>
      storage.files.plain _ (by rw [held]; rfl) name (List.mem_append_right _ listed)
    obtain ⟨response, downloaded, -⟩ := download_keyOf plain filled held
    obtain ⟨named, -, led, -, allowed⟩ := guarded (keyOf path) response downloaded
    rw [localFilePath, safePath_keyOf plain filled, LocalStorage.localStorageDir,
      FilePaths.resolved_join_below plain filled (uploads_plain storage)] at led
    rw [List.append_cancel_left led]
    exact allowed
  · intro owned key response downloaded
    obtain ⟨path, filled, led, held⟩ := download_confined downloaded
    exact ⟨path, filled, led, held, owned path response.content held⟩

/-- Outside of an insurer, a user reads the incidents of its fleet. -/
theorem getIncidentForUser_fleet {db : Database} {user : AuthenticatedUser} {id : Id}
    {incident : Incident} (uninsured : user.fleetPlan ≠ .INSURANCE)
    (allowed : getIncidentForUser db user id = .ok incident) :
    incident ∈ db.incidents ∧ incident.fleetId = user.fleetId := by
  rw [getIncidentForUser] at allowed
  cases found : db.findIncident id with
  | none =>
    rw [found] at allowed
    cases allowed
  | some stored =>
    rw [found] at allowed
    simp only [assertIncidentAccess, if_neg uninsured] at allowed
    split at allowed
    case isTrue own =>
      cases allowed
      exact ⟨List.mem_of_find?_eq_some found, own⟩
    case isFalse => cases allowed

/-- An incident of another fleet. -/
def crash : Incident where
  id := "i2"
  fleetId := "f2"
  bikeId := none
  deviceId := "d2"
  deviceUid := "GPS-2"
  eventId := 1
  eventTs := 0
  eventType := .CRASH
  status := .OPEN
  createdAt := 0
  updatedAt := 0
  acknowledgedByUserId := none
  acknowledgedAt := none
  resolvedByUserId := none
  resolvedAt := none
  notes := none

/-- A database with that incident. -/
def oneCrash : Database where
  users := []
  fleets := fun _ => none
  bikes := []
  assignments := []
  trips := []
  events := []
  incidents := [crash]
  commands := []
  accesses := []
  evidencePacks := fun _ => none
  userKeys := List.nodup_nil
  bikeKeys := List.nodup_nil
  incidentKeys := List.nodup_singleton _
  accessKeys := Database.noAccess_key

/-- The names of its summary. -/
def summaryNames : List Name :=
  ["app", "uploads", "evidence", "f2", "i2", "summary.json"].map String.toList

/-- A disk with the summary of the crash. -/
def summaryFiles : FileSystem Bytes where
  node := fun names =>
    if names = summaryNames then some (.file [123, 125])
    else if names = ["app".toList] then some .directory
    else none
  plain := by
    intro names present
    split at present
    case isTrue same =>
      rw [same]
      decide +kernel
    case isFalse =>
      split at present
      case isTrue same =>
        rw [same]
        decide +kernel
      case isFalse => cases present

/-- A disk with that summary. -/
def oneSummary : LocalStorage where
  cwd := ["app".toList]
  files := summaryFiles
  running := by decide +kernel
  uploadsNoFile := by
    intro content held
    have absent : summaryFiles.node (["app".toList] ++ ["uploads".toList]) = none := by
      decide +kernel
    cases absent.symm.trans held

/-- A user of another fleet downloads the summary. -/
theorem foreign_summary_downloaded :
    ¬ ∀ storage db user key, ConfinedAndPrivate storage db user key := by
  intro guarded
  have downloaded : downloadEvidenceFile oneSummary "evidence/f2/i2/summary.json" =
      .ok ⟨"application/json; charset=utf-8", "attachment; filename=\"summary.json\"",
        [123, 125]⟩ := by
    decide +kernel
  obtain ⟨path, -, -, -, id, incident, allowed, -⟩ :=
    guarded oneSummary oneCrash ⟨"u1", "f1", .PAYG, .OWNER, none⟩ _ _ downloaded
  obtain ⟨listed, own⟩ := getIncidentForUser_fleet (by decide) allowed
  rw [List.mem_singleton.mp listed] at own
  exact absurd own (by decide)

end EmotoFleet.Evidence
