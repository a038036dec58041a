import EmotoFleet.Access.PartnerReads
import EmotoFleet.Evidence.EvidenceFiles
import EmotoFleet.Foundations.PercentEncoding
import Mathlib.Data.List.Infix

/-!
# Evidence packs and their addresses

The two files of a pack are written to the disk and to a bucket; either write may fail, and
the failure is passed over. For each file the pack is answered with an address: of the
download when the disk has a file under its key, else a signed one of the bucket, and of the
download again when that one cannot be made. The requests of such an address find a handler
by the routes of the controller, in their order.

What the files say is left to the caller, as are expiry and the text of a signed address.
-/

namespace EmotoFleet.Evidence

open Access (Id Database Incident EvidencePack)
open Access.Insurers (AuthenticatedUser bikeInsured)
open FilePaths (Name Node FileSystem Plain)
open PercentEncoding (encodeURIComponent queryValues)

/-! ## Files -/

namespace LocalStorage

/-- A path below the uploads that leads to no directory and through no file. No key of
evidence names another one. -/
def Admits (storage : LocalStorage) (names : List Name) : Prop :=
  storage.uploads <+: names ∧ names ≠ storage.uploads ∧
    storage.files.node names ≠ some .directory ∧
    ∀ above ∈ names.inits, above ≠ names → (storage.files.node above).all (· = .directory) = true

instance (storage : LocalStorage) (names : List Name) : Decidable (storage.Admits names) :=
  inferInstanceAs (Decidable (_ ∧ _ ∧ _ ∧ _))

/-- The names that the storage admits lie below its working directory. -/
theorem Admits.cwd {storage : LocalStorage} {names : List Name} (admits : storage.Admits names) :
    storage.cwd <+: names ∧ storage.cwd ≠ names := by
  obtain ⟨below, -⟩ := admits
  refine ⟨(List.prefix_append _ _).trans below, fun same => ?_⟩
  have longer := below.length_le
  rw [← same, uploads, List.length_append, List.length_singleton] at longer
  omega

/-- A file written where the storage admits its resolved name; elsewhere the storage is as it was.
-/
def writeFileSync (storage : LocalStorage) (path : List Char) (content : Bytes) : LocalStorage :=
  if admits : storage.Admits (FilePaths.resolved false path) then
    { storage with
      files := storage.files.write _ (FilePaths.resolved_plain path) content
      running := by
        rw [FilePaths.node_write_above admits.cwd.1 admits.cwd.2, storage.running]
        rfl
      uploadsNoFile := by
        intro other
        have held := storage.uploadsNoFile other
        change (FileSystem.write _ _ _ _).node storage.uploads ≠ _
        rw [FilePaths.node_write_above admits.1 (Ne.symm admits.2.1)]
        cases found : storage.files.node storage.uploads with
        | none => simp
        | some node => exact fun same => held (found.trans same) }
  else storage

/-- Whether a path names something. -/
def existsSync (storage : LocalStorage) (path : List Char) : Bool := (storage.files.find path).isSome

end LocalStorage

/-! ## Storage -/

/-- What the storage reads of the environment. -/
structure StorageConfig where
  /-- NODE_ENV is test. -/
  test : Bool
  s3Bucket : String
  s3PresignExpiresSeconds : Nat

/-- The disk and the bucket. Under each key `uploaded` keeps what was last to be stored. -/
structure Stores where
  disk : LocalStorage
  bucket : String → Option Bytes
  uploaded : String → Option Bytes

/-- How a write to the disk ends; one that fails may leave a part of the file. -/
inductive DiskOutcome where
  | written
  | failed (left : Option Bytes)

/-- How the creation of the bucket ended. -/
inductive CreateOutcome where
  | created
  | failed (message : String)

/-- Whether the bucket answers that it is there, and if not, how its creation ends. -/
structure BucketOutcome where
  head : Bool
  create : CreateOutcome

/-- How the three steps of one upload ended. -/
structure UploadOutcome where
  disk : DiskOutcome
  bucket : BucketOutcome
  put : Bool

/-- How the two steps of one signature ended. -/
structure SignOutcome where
  bucket : BucketOutcome
  signed : Bool

/-- The three kinds of URL that the storage hands out. -/
inductive Url where
  | mock (text : String)
  | api (text : String)
  | presigned (key : String)
  deriving DecidableEq

section Storage

variable (config : StorageConfig) (stores : Stores) (key : String)

/-- Where a key is written, parents included. -/
def uploadPath : List Char := FilePaths.join [stores.disk.localStorageDir, key.toList]

/-- Whether the bucket is there to be used. -/
def ensureBucketExists (outcome : BucketOutcome) : Bool :=
  config.test || outcome.head || match outcome.create with
    | .created => true
    | .failed message =>
      decide ("BucketAlreadyOwnedByYou".toList <:+: message.toList) ||
        decide ("BucketAlreadyExists".toList <:+: message.toList)

/-- An upload: to the disk where that works, and then to the bucket. -/
def uploadObject (body : Bytes) (outcome : UploadOutcome) : Stores :=
  if config.test then stores
  else
    { disk :=
        match outcome.disk with
        | .written => stores.disk.writeFileSync (uploadPath stores key) body
        | .failed none => stores.disk
        | .failed (some left) => stores.disk.writeFileSync (uploadPath stores key) left
      bucket :=
        if ensureBucketExists config outcome.bucket && outcome.put then
          Function.update stores.bucket key (some body)
        else stores.bucket
      uploaded := Function.update stores.uploaded key (some body) }

/-- The URL under which the API serves an evidence file itself. -/
def evidenceFileUrl : String := "/incidents/evidence-file" ++ "?key=" ++ encodeURIComponent key

/-- The URL that is handed out for a key. -/
def createPresignedGetUrl (outcome : SignOutcome) : Url :=
  if config.test then
    .mock s!"https://mock-storage.emoto.local/{config.s3Bucket}/{key}?expires={config.s3PresignExpiresSeconds}"
  else if stores.disk.existsSync (uploadPath stores key) then .api (evidenceFileUrl key)
  else if ensureBucketExists config outcome.bucket && outcome.signed then .presigned key
  else .api (evidenceFileUrl key)

end Storage

/-! ## Packs -/

/-- The two files of a pack. -/
inductive Part where
  | summaryJson
  | telemetryCsv
  deriving DecidableEq

/-- The files and the rows of evidence packs. -/
structure EvidenceWorld where
  stores : Stores
  packs : Id → Option EvidencePack

/-- What a caller gets for a pack. -/
structure IncidentEvidencePackResponse where
  evidencePackId : Id
  incidentId : Id
  fleetId : Id
  createdAt : Int
  expiresInSeconds : Nat
  summaryJsonUrl : Url
  telemetryCsvUrl : Url

/-- The URL of each of the files. -/
def IncidentEvidencePackResponse.url (response : IncidentEvidencePackResponse) : Part → Url
  | .summaryJson => response.summaryJsonUrl
  | .telemetryCsv => response.telemetryCsvUrl

/-- The key of each of the files. -/
def s3Key (pack : EvidencePack) : Part → String
  | .summaryJson => pack.s3KeyJson
  | .telemetryCsv => pack.s3KeyCsv

/-- What the files of a new pack hold, and how each access ends. The row of the pack is not
inserted when another one has come first. -/
structure PackOutcome where
  packId : Id
  now : Int
  body : Part → Bytes
  upload : Part → UploadOutcome
  inserted : Bool
  sign : Part → SignOutcome

/-- The key under which a file of an incident is kept. -/
def evidenceKey (incident : Incident) (file : String) : String :=
  s!"evidence/{incident.fleetId}/{incident.id}/{file}"

section Packs

variable (config : StorageConfig) (world : EvidenceWorld) (incident : Incident)
  (outcome : PackOutcome)

/-- A pack made for an incident: two uploads and one row. -/
def generateAndPersistEvidencePack : EvidenceWorld × Option EvidencePack :=
  let s3KeyJson := evidenceKey incident "summary.json"
  let s3KeyCsv := evidenceKey incident "telemetry-window.csv"
  let summaryStored := uploadObject config world.stores s3KeyJson (outcome.body .summaryJson)
    (outcome.upload .summaryJson)
  let stores := uploadObject config summaryStored s3KeyCsv (outcome.body .telemetryCsv)
    (outcome.upload .telemetryCsv)
  let pack : EvidencePack := ⟨outcome.packId, s3KeyJson, s3KeyCsv, outcome.now⟩
  if outcome.inserted then
    (⟨stores, Function.update world.packs incident.id (some pack)⟩, some pack)
  else ({ world with stores }, none)

/-- An answer with the two addresses, or a failure. -/
def getOrCreateEvidencePack : EvidenceWorld × Option IncidentEvidencePackResponse :=
  let (made, evidencePack) :=
    match world.packs incident.id with
    | some existingPack => (world, some existingPack)
    | none => generateAndPersistEvidencePack config world incident outcome
  (made, evidencePack.map fun pack =>
    { evidencePackId := pack.id
      incidentId := incident.id
      fleetId := incident.fleetId
      createdAt := pack.createdAt
      expiresInSeconds := config.s3PresignExpiresSeconds
      summaryJsonUrl :=
        createPresignedGetUrl config made.stores pack.s3KeyJson (outcome.sign .summaryJson)
      telemetryCsvUrl :=
        createPresignedGetUrl config made.stores pack.s3KeyCsv (outcome.sign .telemetryCsv) })

end Packs

/-! ## Requests -/

/-- Who asks. -/
inductive Caller where
  | fleetUser (user : AuthenticatedUser)
  | partner (partnerId : Id)

/-- The incident of a pack, for the callers who may have it. -/
def loadIncidentFor (db : Database) (caller : Caller) (incidentId : Id) : Except Failure Incident :=
  match db.findIncident incidentId with
  | none => .error (.notFound "Incident not found")
  | some incident =>
    if incident.eventType ≠ .CRASH then
      .error (.forbidden "Evidence packs are available only for crash incidents")
    else
      match caller with
      | .fleetUser user =>
        if user.role = .INSURER then
          if bikeInsured db user.insurerName incident.bikeId then .ok incident
          else .error (.forbidden "Access to this evidence pack is denied")
        else if incident.fleetId = user.fleetId then .ok incident
        else .error (.forbidden "Fleet access violation")
      | .partner partnerId =>
        if Access.hasActiveAccess db partnerId incident.fleetId then .ok incident
        else .error (.forbidden "Partner fleet access denied")

/-- The routes of the controller. -/
inductive Handler where
  | listIncidents
  | getIncidentStats
  | getIncident
  | getIncidentEvidencePack
  | downloadEvidenceFile
  deriving DecidableEq

/-- One part of a route's pattern. -/
inductive Segment where
  | literal (text : String)
  | param
  deriving DecidableEq

/-- The routes of the incidents, in the order of their declaration. -/
def incidentRoutes : List (List Segment × Handler) :=
  [([], .listIncidents),
    ([.literal "stats"], .getIncidentStats),
    ([.param], .getIncident),
    ([.param, .literal "evidence-pack"], .getIncidentEvidencePack),
    ([.literal "evidence-file"], .downloadEvidenceFile)]

/-- The parameters of a path that fits a pattern. -/
def matchSegments : List Segment → List Name → Option (List Name)
  | [], [] => some []
  | .literal text :: pattern, name :: names =>
    if text.toList = name then matchSegments pattern names else none
  | .param :: pattern, name :: names =>
    if name = [] then none else (matchSegments pattern names).map (name :: ·)
  | _, _ => none

/-- The first route that fits a path. -/
def findRoute (path : List Char) : Option (Handler × List Name) :=
  incidentRoutes.findSome? fun route =>
    (matchSegments (.literal "" :: .literal "incidents" :: route.1)
      (FilePaths.components path)).map fun params => (route.2, params)

/-- Groups of eight, four, four, four and twelve hexadecimal digits. -/
def isUuid (text : Name) : Bool :=
  decide ((text.splitOn '-').map List.length = [8, 4, 4, 4, 12]) &&
    text.all fun char => char == '-' || (PercentEncoding.hexValue char).isSome

/-- What a caller gets back. -/
inductive Reply where
  | content (bytes : Bytes)
  | json
  | refused (status : Nat)
  | unreachable
  deriving DecidableEq

/-- The HTTP status of each failure. -/
def Failure.status : Failure → Nat
  | .forbidden _ => 403
  | .notFound _ => 404
  | .thrown _ => 500

section Requests

variable (db : Database) (stores : Stores) (caller : Caller)

/-- The handlers behind the sign-in of fleet users. -/
def handle (handler : Handler) (params : List Name) (query : List Char) : Reply :=
  match caller with
  | .partner _ => .refused 401
  | .fleetUser user =>
    match handler with
    | .listIncidents | .getIncidentStats => .json
    | .getIncident =>
      if params.all isUuid then
        match getIncidentForUser db user (String.ofList params.flatten) with
        | .ok _ => .json
        | .error failure => .refused failure.status
      else .refused 400
    | .getIncidentEvidencePack => if params.all isUuid then .json else .refused 400
    | .downloadEvidenceFile =>
      match queryValues "key" query with
      | [some key] =>
        match downloadEvidenceFile stores.disk key with
        | .ok response => .content response.content
        | .error failure => .refused failure.status
      | _ => .refused 500

/-- What the caller gets for an address. The signed ones are answered by the bucket, as far
as it can be reached. -/
def request (reachable : Bool) : Url → Reply
  | .mock _ => .unreachable
  | .presigned key =>
    if reachable then
      match stores.bucket key with
      | some bytes => .content bytes
      | none => .refused 404
    else .unreachable
  | .api text =>
    let path := text.toList.takeWhile (· ≠ '?')
    let query := (text.toList.dropWhile (· ≠ '?')).drop 1
    match findRoute path with
    | some (handler, params) => handle db stores caller handler params query
    | none => .refused 404

end Requests

/-! ## Addresses of the download -/

/-- The URL is the route, a question mark and the encoded key. -/
theorem evidenceFileUrl_split (key : String) :
    (evidenceFileUrl key).toList = "/incidents/evidence-file".toList ++
      '?' :: ("key".toList ++ '=' :: (encodeURIComponent key).toList) := by
  have parameter : "?key=".toList = '?' :: ("key".toList ++ ['=']) := rfl
  have parts : (evidenceFileUrl key).toList = "/incidents/evidence-file".toList ++ "?key=".toList ++
      (encodeURIComponent key).toList :=
    String.toList_append.trans (congrArg (· ++ _) String.toList_append)
  rw [parts, parameter, List.append_assoc, List.cons_append, List.append_assoc, List.singleton_append]

/-- What stands before the question mark is the route. -/
theorem evidenceFileUrl_path (key : String) :
    (evidenceFileUrl key).toList.takeWhile (· ≠ '?') = "/incidents/evidence-file".toList := by
  have before : ∀ char ∈ "/incidents/evidence-file".toList, decide (char ≠ '?') = true :=
    List.all_eq_true.mp rfl
  rw [evidenceFileUrl_split, List.takeWhile_append_of_pos before]
  simp

/-- The route of a single incident comes first. -/
theorem findRoute_evidenceFile :
    findRoute "/incidents/evidence-file".toList = some (.getIncident, ["evidence-file".toList]) :=
  rfl

/-- The address of the download is refused to everyone. -/
theorem request_evidenceFileUrl (db : Database) (stores : Stores) (caller : Caller)
    (reachable : Bool) (key : String) :
    ∃ status, request db stores caller reachable (.api (evidenceFileUrl key)) = .refused status := by
  rw [request, evidenceFileUrl_path, findRoute_evidenceFile]
  cases caller with
  | partner partnerId => exact ⟨401, rfl⟩
  | fleetUser user =>
    have noUuid : ["evidence-file".toList].all isUuid = false := rfl
    refine ⟨400, ?_⟩
    dsimp only [handle]
    rw [noUuid]
    rfl

/-! ## The round trip -/

/-- The disk or the bucket holds a file as it was to be stored. -/
structure HasCopy (stores : Stores) (key : String) (bytes : Bytes) : Prop where
  uploaded : stores.uploaded key = some bytes
  stored : stores.disk.files.find (uploadPath stores key) = some (.file bytes) ∨
    stores.bucket key = some bytes

/-- An address is good for a file if it is the signed one of a bucket with a copy. -/
theorem request_createPresignedGetUrl (config : StorageConfig) (db : Database) (stores : Stores)
    (caller : Caller) (reachable : Bool) (outcome : SignOutcome) {key : String} {bytes : Bytes}
    (copied : HasCopy stores key bytes) :
    request db stores caller reachable (createPresignedGetUrl config stores key outcome) =
        .content bytes ↔
      config.test = false ∧ stores.disk.existsSync (uploadPath stores key) = false ∧
        ensureBucketExists config outcome.bucket = true ∧ outcome.signed = true ∧
          reachable = true := by
  obtain ⟨status, refused⟩ := request_evidenceFileUrl db stores caller reachable key
  rw [createPresignedGetUrl]
  cases config.test with
  | true => simp [request]
  | false =>
    rw [if_neg Bool.false_ne_true]
    cases onDisk : stores.disk.existsSync (uploadPath stores key) with
    | true =>
      rw [if_pos rfl, refused]
      simp
    | false =>
      rw [if_neg Bool.false_ne_true]
      have absent : stores.disk.files.find (uploadPath stores key) = none :=
        Option.isNone_iff_eq_none.mp (Option.isSome_eq_false_iff.mp onDisk)
      have inBucket : stores.bucket key = some bytes := by
        obtain onDisk | inBucket := copied.stored
        · rw [absent] at onDisk
          cases onDisk
        · exact inBucket
      cases ensured : ensureBucketExists config outcome.bucket && outcome.signed with
      | true =>
        rw [Bool.and_eq_true] at ensured
        rw [if_pos rfl, request, inBucket, ensured.1, ensured.2]
        cases reachable with
        | true => simp
        | false => simp
      | false =>
        rw [if_neg Bool.false_ne_true, refused]
        rw [Bool.and_eq_false_iff] at ensured
        constructor
        · exact fun same => by cases same
        · rintro ⟨-, -, ready, signed, -⟩
          obtain unready | unsigned := ensured
          · exact Bool.noConfusion (ready.symm.trans unready)
          · exact Bool.noConfusion (signed.symm.trans unsigned)

/-- A generated pack is the row of its incident. -/
theorem generated_packs {config : StorageConfig} {world made : EvidenceWorld} {incident : Incident}
    {outcome : PackOutcome} {pack : EvidencePack}
    (generated : generateAndPersistEvidencePack config world incident outcome = (made, some pack)) :
    made.packs incident.id = some pack := by
  rw [generateAndPersistEvidencePack] at generated
  split at generated
  case isTrue =>
    cases generated
    exact Function.update_self _ _ _
  case isFalse => cases generated

/-- The addresses of an answer are those made for the keys of its pack. -/
theorem response_url {config : StorageConfig} {world made : EvidenceWorld} {incident : Incident}
    {outcome : PackOutcome} {response : IncidentEvidencePackResponse}
    (returned : getOrCreateEvidencePack config world incident outcome = (made, some response))
    {pack : EvidencePack} (packed : made.packs incident.id = some pack) (part : Part) :
    response.url part =
      createPresignedGetUrl config made.stores (s3Key pack part) (outcome.sign part) := by
  have own : ∀ kept : EvidencePack, made.packs incident.id = some kept → kept = pack :=
    fun kept stored => Option.some.inj (stored.symm.trans packed)
  rw [getOrCreateEvidencePack] at returned
  cases existing : world.packs incident.id with
  | some existingPack =>
    rw [existing] at returned
    cases returned
    obtain rfl := own existingPack existing
    cases part with
    | summaryJson => rfl
    | telemetryCsv => rfl
  | none =>
    rw [existing] at returned
    dsimp only at returned
    cases generated : generateAndPersistEvidencePack config world incident outcome with
    | mk next kept =>
      cases kept with
      | none =>
        rw [generated] at returned
        cases returned
      | some kept =>
        rw [generated] at returned
        cases returned
        obtain rfl := own kept (generated_packs generated)
        cases part with
        | summaryJson => rfl
        | telemetryCsv => rfl

/-- The round trip of a file with a copy succeeds just if no file is on the disk and the
bucket is there for signing and for the request. -/
theorem evidence_round_trip_iff {config : StorageConfig} {world made : EvidenceWorld}
    {incident : Incident} {outcome : PackOutcome} {response : IncidentEvidencePackResponse}
    (returned : getOrCreateEvidencePack config world incident outcome = (made, some response))
    {pack : EvidencePack} (packed : made.packs incident.id = some pack) {part : Part}
    {bytes : Bytes} (copied : HasCopy made.stores (s3Key pack part) bytes) (db : Database)
    (caller : Caller) (reachable : Bool) :
    request db made.stores caller reachable (response.url part) = .content bytes ↔
      config.test = false ∧
        made.stores.disk.existsSync (uploadPath made.stores (s3Key pack part)) = false ∧
          ensureBucketExists config (outcome.sign part).bucket = true ∧
            (outcome.sign part).signed = true ∧ reachable = true := by
  rw [response_url returned packed part]
  exact request_createPresignedGetUrl config db made.stores caller reachable _ copied

/-! ## The handler behind the route -/

/-- A key is a path of plain names, written out. -/
theorem evidenceKey_written (incident : Incident) (file : String) :
    (evidenceKey incident file).toList = FilePaths.written (evidenceBase incident ++ [file.toList]) := by
  have front : "evidence/".toList = "evidence".toList ++ ['/'] := rfl
  have slash : "/".toList = ['/'] := rfl
  have joined : (evidenceKey incident file).toList = "evidence/".toList ++ incident.fleetId.toList ++
      "/".toList ++ incident.id.toList ++ "/".toList ++ file.toList := by
    simp only [evidenceKey, String.toList_append, toString]
  rw [joined, front, slash]
  simp only [FilePaths.written, evidenceBase, List.cons_append, List.nil_append,
    List.intercalate_cons_cons, List.intercalate_singleton, List.append_assoc]

/-- The keys of a generated pack name its incident and the file. -/
theorem s3Key_generated {config : StorageConfig} {world made : EvidenceWorld} {incident : Incident}
    {outcome : PackOutcome} {pack : EvidencePack}
    (generated : generateAndPersistEvidencePack config world incident outcome = (made, some pack))
    (part : Part) :
    ∃ file ∈ ["summary.json", "telemetry-window.csv"], s3Key pack part = evidenceKey incident file := by
  rw [generateAndPersistEvidencePack] at generated
  split at generated
  case isTrue =>
    cases generated
    cases part with
    | summaryJson => exact ⟨_, List.mem_cons_self, rfl⟩
    | telemetryCsv => exact ⟨_, List.mem_cons_of_mem _ List.mem_cons_self, rfl⟩
  case isFalse => cases generated

section Served

variable {incident : Incident} (plainFleet : Plain incident.fleetId.toList)
  (plainId : Plain incident.id.toList)

include plainFleet plainId

/-- The names of a key are plain: none of them steps up or is empty. -/
theorem evidenceNames_plain {file : String} (plainFile : Plain file.toList) :
    ∀ name ∈ evidenceBase incident ++ [file.toList], Plain name := by
  have first : Plain "evidence".toList := by decide
  simp only [evidenceBase, List.cons_append, List.nil_append, List.mem_cons, List.not_mem_nil,
    or_false]
  rintro name (rfl | rfl | rfl | rfl)
  · exact first
  · exact plainFleet
  · exact plainId
  · exact plainFile

/-- Making a key safe changes nothing. -/
theorem safePath_evidenceKey {file : String} (plainFile : Plain file.toList) :
    safePath (evidenceKey incident file) = (evidenceKey incident file).toList := by
  have front : (evidenceKey incident file).toList.head? = some 'e' := by
    have base : evidenceBase incident ++ [file.toList] =
        "evidence".toList :: [incident.fleetId.toList, incident.id.toList, file.toList] := rfl
    rw [evidenceKey_written, base, FilePaths.written, List.intercalate_cons_cons, List.append_assoc,
      List.head?_append_of_ne_nil _ (by decide)]
    rfl
  have plain := evidenceNames_plain plainFleet plainId plainFile
  have normal := FilePaths.normalize_written plain (List.concat_ne_nil _ _)
  rw [← evidenceKey_written] at normal
  rw [safePath, normal, FilePaths.stripParents_eq_self]
  rw [front]
  decide

/-- The files of a new pack are written where those of the incident are looked for. -/
theorem generated_paths {config : StorageConfig} {world made : EvidenceWorld}
    {outcome : PackOutcome} {pack : EvidencePack}
    (generated : generateAndPersistEvidencePack config world incident outcome = (made, some pack))
    (part : Part) (stores : Stores) :
    ∃ path ∈ evidencePaths incident,
      FilePaths.resolved false (uploadPath stores (s3Key pack part)) =
        stores.disk.uploads ++ path := by
  have filePlain : ∀ known ∈ ["summary.json", "telemetry-window.csv"],
      Plain known.toList := by decide
  obtain ⟨file, listed, same⟩ := s3Key_generated generated part
  have plain := evidenceNames_plain plainFleet plainId (filePlain file listed)
  refine ⟨evidenceBase incident ++ [file.toList], ?_, ?_⟩
  · simp only [List.mem_cons, List.not_mem_nil, or_false] at listed
    obtain rfl | rfl := listed
    · exact List.mem_cons_self
    · exact List.mem_cons_of_mem _ List.mem_cons_self
  · rw [uploadPath, LocalStorage.localStorageDir, FilePaths.resolved_join (uploads_plain stores.disk),
      same, evidenceKey_written, FilePaths.components_written (List.concat_ne_nil _ _)
        fun name inside => (plain name inside).noSlash,
      FilePaths.foldl_push_plain false plain]

/-- Were the route found, the address of a copy on the disk would give it back. -/
theorem handle_evidenceFileUrl {file : String}
    (listed : file ∈ ["summary.json", "telemetry-window.csv"]) (db : Database) {stores : Stores}
    (user : AuthenticatedUser) {bytes : Bytes}
    (stored : stores.disk.files.find (uploadPath stores (evidenceKey incident file)) =
      some (.file bytes)) :
    handle db stores (.fleetUser user) .downloadEvidenceFile []
      (((evidenceFileUrl (evidenceKey incident file)).toList.dropWhile (· ≠ '?')).drop 1) =
        .content bytes := by
  have filePlain : ∀ known ∈ ["summary.json", "telemetry-window.csv"],
      Plain known.toList := by decide
  have plain := filePlain file listed
  have kept : ∀ char ∈ "key".toList, PercentEncoding.unreserved char = true :=
    List.all_eq_true.mp rfl
  have query : ((evidenceFileUrl (evidenceKey incident file)).toList.dropWhile (· ≠ '?')).drop 1 =
      "key".toList ++ '=' :: (encodeURIComponent (evidenceKey incident file)).toList := by
    have before : ∀ char ∈ "/incidents/evidence-file".toList, decide (char ≠ '?') = true :=
      List.all_eq_true.mp rfl
    rw [evidenceFileUrl_split, List.dropWhile_append_of_pos before]
    simp
  have found : stores.disk.files.find (localFilePath stores.disk (evidenceKey incident file)) =
      some (.file bytes) := by
    rw [localFilePath, safePath_evidenceKey plainFleet plainId plain]
    exact stored
  have named : filename (evidenceKey incident file) = file := by
    have split := FilePaths.components_written (List.concat_ne_nil _ _) fun name inside =>
      (evidenceNames_plain plainFleet plainId plain name inside).noSlash
    rw [← evidenceKey_written, FilePaths.components] at split
    rw [filename, split, List.getLast?_concat]
    exact String.ofList_toList
  have printable : ∀ known ∈ ["summary.json", "telemetry-window.csv"],
      headerValue (contentDisposition known) = true := by decide
  have served := (download_found found).trans (if_pos (named.symm ▸ printable file listed))
  dsimp only [handle]
  rw [query, PercentEncoding.queryValues_encoded kept]
  dsimp only
  rw [served]

end Served

/-! ## A crash with its files -/

/-- The working directory has plain names. -/
theorem app_plain : ∀ name ∈ ["app".toList], Plain name := by decide

/-- A disk with the working directory only. -/
def emptyFiles : FileSystem Bytes where
  node := fun names => if names = ["app".toList] then some .directory else none
  plain := by
    intro names present
    split at present
    case isTrue same =>
      rw [same]
      exact app_plain
    case isFalse => cases present

/-- Nothing uploaded and no pack. -/
def emptyWorld : EvidenceWorld where
  stores :=
    { disk :=
        { cwd := ["app".toList]
          files := emptyFiles
          running := by decide +kernel
          uploadsNoFile := by
            intro content held
            have absent : emptyFiles.node (["app".toList] ++ ["uploads".toList]) = none := by
              decide +kernel
            cases absent.symm.trans held }
      bucket := fun _ => none
      uploaded := fun _ => none }
  packs := fun _ => none

/-- The settings of a server in production. -/
def production : StorageConfig := ⟨false, "emoto-evidence", 600⟩

/-- Both files hold two braces and reach the bucket, and the disk as well if it works. -/
def packOutcome (diskWorks : Bool) : PackOutcome where
  packId := "p2"
  now := 0
  body := fun _ => [123, 125]
  upload := fun _ => ⟨if diskWorks then .written else .failed none, ⟨true, .created⟩, true⟩
  inserted := true
  sign := fun _ => ⟨⟨true, .created⟩, true⟩

/-- What is answered for the crash. -/
def crashPack (diskWorks : Bool) : EvidenceWorld × Option IncidentEvidencePackResponse :=
  getOrCreateEvidencePack production emptyWorld crash (packOutcome diskWorks)

/-- The pack of the crash is returned. -/
theorem crashPack_returned (diskWorks : Bool) : (crashPack diskWorks).2.isSome = true := by
  decide +kernel +revert

/-- The pack of the crash is stored. -/
theorem crashPack_packed (diskWorks : Bool) :
    ((crashPack diskWorks).1.packs crash.id).isSome = true := by
  decide +kernel +revert

/-- An owner of another fleet. -/
def owner : Caller := .fleetUser ⟨"u2", "f2", .PAYG, .OWNER, none⟩

/-- While the disk fails, the owner gets the summary. -/
theorem evidence_round_trip_bucket :
    request oneCrash (crashPack false).1.stores owner true
      (((crashPack false).2.get (crashPack_returned false)).url .summaryJson) =
        .content [123, 125] := by
  have returned : crashPack false = ((crashPack false).1, some ((crashPack false).2.get _)) :=
    Prod.ext rfl (Option.some_get (crashPack_returned false)).symm
  have packed : (crashPack false).1.packs crash.id = some (((crashPack false).1.packs crash.id).get _) :=
    (Option.some_get (crashPack_packed false)).symm
  apply (evidence_round_trip_iff returned packed ⟨by decide +kernel, .inr (by decide +kernel)⟩
    oneCrash owner true).mpr
  decide +kernel

/-- Once the disk works too, the same request is refused, although the download has the file
for every user of a fleet who asks for its address. -/
theorem summary_refused :
    (¬ ∀ config world db caller incident outcome made response pack part bytes,
      loadIncidentFor db caller incident.id = .ok incident →
      getOrCreateEvidencePack config world incident outcome = (made, some response) →
      made.packs incident.id = some pack → HasCopy made.stores (s3Key pack part) bytes →
      request db made.stores caller true (response.url part) = .content bytes) ∧
    ∀ user, handle oneCrash (crashPack true).1.stores (.fleetUser user) .downloadEvidenceFile []
      (((evidenceFileUrl (evidenceKey crash "summary.json")).toList.dropWhile (· ≠ '?')).drop 1) =
        .content [123, 125] := by
  refine ⟨?_, fun user => handle_evidenceFileUrl (by decide) (by decide) List.mem_cons_self oneCrash
    user (by decide +kernel)⟩
  intro always
  have returned : crashPack true = ((crashPack true).1, some ((crashPack true).2.get _)) :=
    Prod.ext rfl (Option.some_get (crashPack_returned true)).symm
  have packed : (crashPack true).1.packs crash.id = some (((crashPack true).1.packs crash.id).get _) :=
    (Option.some_get (crashPack_packed true)).symm
  have fetched := always production emptyWorld oneCrash owner crash (packOutcome true) _ _ _
    .summaryJson [123, 125] (by decide +kernel) returned packed
    ⟨by decide +kernel, .inl (by decide +kernel)⟩
  revert fetched
  decide +kernel

end EmotoFleet.Evidence
