import EmotoFleet.Access.InsurerReads
import EmotoFleet.Foundations.Overlaps
import EmotoFleet.Foundations.Tables

/-!
# Zones and their speed limits

Members of a fleet create, change and delete zones. An update checks the type and the limit
that the zone has when it is loaded, with those of the request in their place; what it
writes are the columns of the request, and a limit may be null there. The rule for speeding
passes over a slow zone without a limit.

A request has been through the validation of its body: a limit is at least one, the name
is a text, and the type is one of the types. The other columns of an update may be null as
well, which the database client refuses. The audit rows, the answers, the identity and
the times of a row and the length of its name are left out.
-/

namespace EmotoFleet.Zones

open Access (Id toFixed)
open Access.Insurers (AuthenticatedUser)
open CanonicalJson (Json)
open Runs Interleavings Tables

/-- The types of zones. -/
inductive ZoneType where
  | SLOW
  | NO_GO
  | PARK
  | WORK_BOUNDARY
  deriving DecidableEq

/-- A polygon by its rings. -/
structure PolygonGeoJson where
  coordinates : List (List (ℚ × ℚ))
  deriving DecidableEq

/-- A position: a longitude and a latitude. -/
def positionSchema : Json ℚ → Option (ℚ × ℚ)
  | .array [.number lng, .number lat] => some (lng, lat)
  | _ => none

/-- A ring: four positions or more, the last of them the first again. -/
def linearRingSchema : Json ℚ → Option (List (ℚ × ℚ))
  | .array items => (items.mapM positionSchema).filter fun positions =>
      decide (4 ≤ positions.length ∧ positions.head? = positions.getLast?)
  | _ => none

/-- A polygon: one ring or more. -/
def polygonGeoJsonSchema : Json ℚ → Option PolygonGeoJson
  | .object fields =>
    match fields.lookup "type", fields.lookup "coordinates" with
    | some (.string "Polygon"), some (.array rings) =>
      ((rings.mapM linearRingSchema).filter fun coordinates => !coordinates.isEmpty).map .mk
    | _, _ => none
  | _ => none

/-- A limit as a body may have it. -/
structure SpeedLimit where
  kph : ℚ
  least : 1 ≤ kph

/-- A column with two decimals. -/
def SpeedLimit.stored (limit : SpeedLimit) : ℚ := toFixed 2 limit.kph

/-- A zone as the table has it. -/
structure GeofenceZone where
  id : Id
  fleetId : Id
  name : String
  type : ZoneType
  geojsonPolygon : PolygonGeoJson
  speedLimitKph : Option ℚ
  active : Bool
  deriving DecidableEq

/-- The table of zones, in which all limits are positive. -/
structure ZoneStore where
  zones : List GeofenceZone
  distinct : (zones.map GeofenceZone.id).Nodup
  positive : ∀ zone ∈ zones, ∀ limit ∈ zone.speedLimitKph, 0 < limit

/-- A property of a body that may be left out and may be null. -/
inductive Field (α : Type) where
  | absent
  | null
  | value (content : α)

namespace Field

variable {α : Type}

/-- The value, or else that on the right of `??`. -/
def orElse (field : Field α) (fallback : α) : α :=
  match field with
  | .value content => content
  | .absent | .null => fallback

/-- Whether the property is there as null. -/
def isNull : Field α → Bool
  | .null => true
  | .absent | .value _ => false

end Field

/-- The body of a creation. -/
structure CreateZoneDto where
  name : String
  type : ZoneType
  geojsonPolygon : Json ℚ
  speedLimitKph : Field SpeedLimit
  active : Field Bool

/-- The body of an update. -/
structure UpdateZoneDto where
  name : Field String
  type : Field ZoneType
  geojsonPolygon : Field (Json ℚ)
  speedLimitKph : Field SpeedLimit
  active : Field Bool

/-- The columns of an update. -/
structure ZoneData where
  name : Field String
  type : Field ZoneType
  geojsonPolygon : Option PolygonGeoJson
  speedLimitKph : Field SpeedLimit
  active : Field Bool

/-- The writes to the table. -/
inductive Write where
  | create (id fleetId : Id) (name : String) (type : ZoneType) (geojsonPolygon : PolygonGeoJson)
      (speedLimitKph : Option SpeedLimit) (active : Bool)
  | update (id : Id) (data : ZoneData)
  | delete (id : Id)

/-- What the database and its client object to: an identity that is taken, a row that is
missing, a null in a column that has none and a number that does not fit. -/
inductive DatabaseError where
  | P2002
  | P2025
  | validation
  | overflow
  deriving DecidableEq

/-- What a call may fail with. -/
inductive Failure where
  | badRequest (message : String)
  | forbidden (message : String)
  | notFound (message : String)
  | database (error : DatabaseError)
  deriving DecidableEq

/-- A call of the service. -/
abbrev Call := Program ZoneStore Write DatabaseError Failure

/-! ## The calls -/

/-- The polygon of a body, or a refusal. -/
def validatePolygon (input : Json ℚ) : Call PolygonGeoJson :=
  match polygonGeoJsonSchema input with
  | none => .failed (.badRequest "Invalid polygon GeoJSON")
  | some polygon => pure polygon

/-- The polygon of an update, if it sends one. -/
def validateSentPolygon : Field (Json ℚ) → Call (Option PolygonGeoJson)
  | .value input => do
    let polygon ← validatePolygon input
    pure (some polygon)
  | .absent | .null => pure none

/-- The check that a slow zone has a positive limit. -/
def validateSpeedLimit (type : ZoneType) (speedLimitKph : Option ℚ) : Call Unit :=
  if type = .SLOW ∧ speedLimitKph.all fun limit => decide (limit ≤ 0) then
    .failed (.badRequest "SLOW zones require a positive speedLimitKph")
  else pure ()

/-- The zone that a call is about. -/
def loadZoneOrThrow (id : Id) : Call GeofenceZone := do
  let zone ← Program.read fun store => store.zones.find? fun zone => decide (zone.id = id)
  match zone with
  | none => .failed (.notFound "Zone not found")
  | some zone => pure zone

/-- The check that a zone is of the caller's fleet. -/
def assertFleetAccess (fleetId : Id) (user : AuthenticatedUser) : Call Unit :=
  if fleetId ≠ user.fleetId then .failed (.forbidden "Fleet access violation") else pure ()

/-- The limit that a property gives, if it gives one. -/
def givenLimit : Field SpeedLimit → Option SpeedLimit
  | .value limit => some limit
  | .absent | .null => none

/-- A zone is created with the limit that was checked. -/
def createZoneForUser (newId : Id) (user : AuthenticatedUser) (dto : CreateZoneDto) : Call Unit := do
  let geojsonPolygon ← validatePolygon dto.geojsonPolygon
  validateSpeedLimit dto.type ((givenLimit dto.speedLimitKph).map SpeedLimit.kph)
  Program.write (.create newId user.fleetId dto.name dto.type geojsonPolygon
    (givenLimit dto.speedLimitKph) (dto.active.orElse true)) .database

/-- An update checks the type and the limit with those of the zone in their places. -/
def updateZoneForUser (id : Id) (user : AuthenticatedUser) (dto : UpdateZoneDto) : Call Unit := do
  let existingZone ← loadZoneOrThrow id
  assertFleetAccess existingZone.fleetId user
  let effectiveType := dto.type.orElse existingZone.type
  let effectiveSpeedLimit :=
    (givenLimit dto.speedLimitKph).map SpeedLimit.kph <|> existingZone.speedLimitKph
  validateSpeedLimit effectiveType effectiveSpeedLimit
  let geojsonPolygon ← validateSentPolygon dto.geojsonPolygon
  -- the columns of the request, and not those that were validated
  Program.write (.update existingZone.id
    ⟨dto.name, dto.type, geojsonPolygon, dto.speedLimitKph, dto.active⟩) .database

/-- A zone of the caller's fleet is deleted. -/
def deleteZoneForUser (id : Id) (user : AuthenticatedUser) : Call Unit := do
  let zone ← loadZoneOrThrow id
  assertFleetAccess zone.fleetId user
  Program.write (.delete zone.id) .database

/-- The requests to the service. -/
inductive Request where
  | createZone (newId : Id) (user : AuthenticatedUser) (dto : CreateZoneDto)
  | updateZone (id : Id) (user : AuthenticatedUser) (dto : UpdateZoneDto)
  | deleteZone (id : Id) (user : AuthenticatedUser)

/-- The call that answers a request. -/
def handle : Request → Call Unit
  | .createZone newId user dto => createZoneForUser newId user dto
  | .updateZone id user dto => updateZoneForUser id user dto
  | .deleteZone id user => deleteZoneForUser id user

/-! ## The table -/

/-- Rounding to two decimals keeps what is at least one positive. -/
theorem toFixed_pos {value : ℚ} (least : 1 ≤ value) : 0 < toFixed 2 value := by
  have whole : (1 : ℤ) ≤ ⌊value * 10 ^ 2 + 1 / 2⌋ := by
    rw [Int.le_floor]
    push_cast
    linarith
  have nonneg : ¬ value < 0 := by linarith
  rw [toFixed, if_neg nonneg, Access.mathRound]
  have positive : (0 : ℚ) < (⌊value * 10 ^ 2 + 1 / 2⌋ : ℤ) := by exact_mod_cast whole
  positivity

/-- A limit is positive in its column. -/
theorem SpeedLimit.stored_pos (limit : SpeedLimit) : 0 < limit.stored := toFixed_pos limit.least

/-- The column has four digits before the point. -/
def SpeedLimit.fits (limit : SpeedLimit) : Bool := limit.stored < 10000

/-- A row after an update. -/
def ZoneData.apply (data : ZoneData) (zone : GeofenceZone) : GeofenceZone :=
  { zone with
    name := data.name.orElse zone.name
    type := data.type.orElse zone.type
    geojsonPolygon := data.geojsonPolygon.getD zone.geojsonPolygon
    speedLimitKph :=
      match data.speedLimitKph with
      | .absent => zone.speedLimitKph
      | .null => none
      | .value limit => some limit.stored
    active := data.active.orElse zone.active }

/-- An update leaves the identity of a zone. -/
@[simp] theorem apply_id (data : ZoneData) (zone : GeofenceZone) : (data.apply zone).id = zone.id := rfl

/-- An update stores positive limits alone. -/
theorem apply_positive (data : ZoneData) {zone : GeofenceZone}
    (before : ∀ limit ∈ zone.speedLimitKph, 0 < limit) :
    ∀ limit ∈ (data.apply zone).speedLimitKph, 0 < limit := by
  intro limit stored
  rw [ZoneData.apply] at stored
  cases asked : data.speedLimitKph with
  | absent =>
    rw [asked] at stored
    exact before limit stored
  | null =>
    rw [asked] at stored
    cases stored
  | value new =>
    rw [asked] at stored
    cases stored
    exact new.stored_pos

namespace ZoneStore

variable (store : ZoneStore)

/-- The zone with an identity. -/
def find (id : Id) : Option GeofenceZone := store.zones.find? fun zone => decide (zone.id = id)

/-- The table with one more zone. -/
def insert (zone : GeofenceZone) (new : zone.id ∉ store.zones.map GeofenceZone.id)
    (limited : ∀ limit ∈ zone.speedLimitKph, 0 < limit) : ZoneStore where
  zones := store.zones ++ [zone]
  distinct := (unique_append_iff zone).mpr ⟨store.distinct, new⟩
  positive := by
    intro other listed
    rcases List.mem_append.mp listed with before | last
    · exact store.positive other before
    · exact List.mem_singleton.mp last ▸ limited

/-- The table after an update. -/
def update (id : Id) (data : ZoneData) : ZoneStore where
  zones := updateKey GeofenceZone.id id data.apply store.zones
  distinct := by
    rw [map_updateKey (apply_id data)]
    exact store.distinct
  positive := by
    intro zone listed
    rcases mem_updateKey.mp listed with ⟨old, stored, -, rfl⟩ | ⟨stored, -⟩
    · exact apply_positive data (store.positive old stored)
    · exact store.positive zone stored

/-- The table without a zone. -/
def delete (id : Id) : ZoneStore where
  zones := store.zones.filter fun zone => decide (zone.id ≠ id)
  distinct := store.distinct.sublist (List.filter_sublist.map _)
  positive := fun zone listed => store.positive zone (List.mem_of_mem_filter listed)

end ZoneStore

/-- Limits of bodies are stored as positive ones. -/
theorem stored_positive (limit : Option SpeedLimit) :
    ∀ kph ∈ limit.map SpeedLimit.stored, 0 < kph := by
  intro kph stored
  obtain ⟨given, -, rfl⟩ := Option.map_eq_some_iff.mp stored
  exact given.stored_pos

/-- What the database does with a write. -/
def commit (store : ZoneStore) : Write → Except DatabaseError ZoneStore
  | .create id fleetId name type geojsonPolygon speedLimitKph active =>
    let zone : GeofenceZone :=
      ⟨id, fleetId, name, type, geojsonPolygon, speedLimitKph.map SpeedLimit.stored, active⟩
    if new : id ∉ store.zones.map GeofenceZone.id then
      if speedLimitKph.all SpeedLimit.fits then
        .ok (store.insert zone new (stored_positive speedLimitKph))
      else .error .overflow
    else .error .P2002
  | .update id data =>
    if data.name.isNull || data.type.isNull || data.active.isNull then .error .validation
    else if store.find id = none then .error .P2025
    else if (givenLimit data.speedLimitKph).all SpeedLimit.fits then .ok (store.update id data)
    else .error .overflow
  | .delete id => if store.find id = none then .error .P2025 else .ok (store.delete id)

/-! ## Slow zones -/

/-- The types that the rules know. -/
def ruleType : ZoneType → Option RulesEngine.ZoneType
  | .SLOW => some .SLOW
  | .PARK => some .PARK
  | .WORK_BOUNDARY => some .WORK_BOUNDARY
  | .NO_GO => none

/-- The zones that the rules engine loads for a packet of a device. -/
def loadActiveZones (store : ZoneStore) (fleetId : Id) : List RulesEngine.GeofenceZone :=
  (store.zones.filter fun zone => decide (zone.fleetId = fleetId) && zone.active).filterMap
    fun zone => (ruleType zone.type).map fun type => ⟨zone.id, type, zone.speedLimitKph⟩

/-- Every slow zone has a positive limit, and every active one is evaluated by the rule for
speeding: it is exceeded by the packets inside it that are faster than its limit. -/
structure LimitsSlowZones (store : ZoneStore) : Prop where
  limited : ∀ zone ∈ store.zones, zone.type = .SLOW →
    ∃ limit, zone.speedLimitKph = some limit ∧ 0 < limit
  evaluated : ∀ fleetId, ∀ zone ∈ loadActiveZones store fleetId, zone.type = .SLOW →
    ∃ limit, zone.speedLimitKph = some limit ∧ ∀ packet, RulesEngine.exceededZone packet zone =
      (packet.insideZoneIds.contains zone.id && decide (limit < packet.payload.speedKph))

/-- No slow zone is without a limit. -/
def Limited (zone : GeofenceZone) : Prop := zone.type = .SLOW → zone.speedLimitKph ≠ none

instance (zone : GeofenceZone) : Decidable (Limited zone) := inferInstanceAs (Decidable (_ → _))

/-- The rule passes over a zone only if its limit is missing or zero. -/
theorem exceededZone_of_limit {zone : RulesEngine.GeofenceZone} {limit : ℚ} (slow : zone.type = .SLOW)
    (limited : zone.speedLimitKph = some limit) (positive : 0 < limit) (packet : RulesEngine.Packet) :
    RulesEngine.exceededZone packet zone =
      (packet.insideZoneIds.contains zone.id && decide (limit < packet.payload.speedKph)) := by
  have nonzero : (limit != 0) = true := bne_iff_ne.mpr (ne_of_gt positive)
  rw [RulesEngine.exceededZone, slow, limited, Option.any_some, nonzero, Bool.true_and]
  rfl

/-- As limits are positive, slow zones are limited exactly if each of them has one. -/
theorem limitsSlowZones_iff (store : ZoneStore) :
    LimitsSlowZones store ↔ ∀ zone ∈ store.zones, Limited zone := by
  constructor
  case mp =>
    intro limits zone listed slow missing
    obtain ⟨limit, stored, -⟩ := limits.limited zone listed slow
    rw [stored] at missing
    cases missing
  case mpr =>
    intro limits
    have limited : ∀ zone ∈ store.zones, zone.type = .SLOW →
        ∃ limit, zone.speedLimitKph = some limit ∧ 0 < limit := by
      intro zone listed slow
      obtain ⟨limit, stored⟩ := Option.ne_none_iff_exists'.mp (limits zone listed slow)
      exact ⟨limit, stored, store.positive zone listed limit stored⟩
    refine ⟨limited, ?_⟩
    intro fleetId zone loaded slow
    obtain ⟨row, chosen, mapped⟩ := List.mem_filterMap.mp loaded
    obtain ⟨type, known, rfl⟩ := Option.map_eq_some_iff.mp mapped
    have slowRow : row.type = .SLOW := by
      cases kind : row.type with
      | SLOW => rfl
      | NO_GO => simp [kind, ruleType] at known
      | PARK =>
        obtain rfl : type = .SLOW := slow
        simp [kind, ruleType] at known
      | WORK_BOUNDARY =>
        obtain rfl : type = .SLOW := slow
        simp [kind, ruleType] at known
    obtain ⟨limit, stored, positive⟩ := limited row (List.mem_of_mem_filter chosen) slowRow
    exact ⟨limit, stored, exceededZone_of_limit slow stored positive⟩

/-! ## Writes that keep the limits -/

/-- An update of a zone that is slow or becomes slow by it sends a limit, or it leaves the
limit alone and finds one. -/
def KeepsLimit (store : ZoneStore) : Write → Prop
  | .create _ _ _ _ _ _ _ | .delete _ => True
  | .update id data => ∀ zone ∈ store.find id, data.type.orElse zone.type = .SLOW →
      match data.speedLimitKph with
      | .absent => zone.speedLimitKph ≠ none
      | .null => False
      | .value _ => True

/-- A slow zone is created with a limit. -/
def Validated : Write → Prop
  | .create _ _ _ type _ speedLimitKph _ => type = .SLOW → speedLimitKph ≠ none
  | .update _ _ | .delete _ => True

/-- Loading a zone writes nothing. -/
theorem makes_loadZoneOrThrow (id : Id) : (loadZoneOrThrow id).Makes Validated := by
  refine Program.makes_bind (fun _ => trivial) fun zone => ?_
  cases zone <;> trivial

/-- The check of the fleet writes nothing. -/
theorem makes_assertFleetAccess (fleetId : Id) (user : AuthenticatedUser) :
    (assertFleetAccess fleetId user).Makes Validated :=
  Program.makes_ite trivial trivial

/-- The check of a polygon writes nothing. -/
theorem makes_validatePolygon (input : Json ℚ) : (validatePolygon input).Makes Validated := by
  rw [validatePolygon]
  cases polygonGeoJsonSchema input <;> trivial

/-- A creation writes what has passed its checks. -/
theorem makes_createZoneForUser (newId : Id) (user : AuthenticatedUser) (dto : CreateZoneDto) :
    (createZoneForUser newId user dto).Makes Validated := by
  apply Program.makes_bind (makes_validatePolygon dto.geojsonPolygon)
  intro geojsonPolygon
  rw [validateSpeedLimit]
  split
  case isTrue => trivial
  case isFalse passed =>
    refine ⟨fun slow missing => passed ⟨slow, ?_⟩, trivial⟩
    rw [missing]
    rfl

/-- An update writes an update. -/
theorem makes_updateZoneForUser (id : Id) (user : AuthenticatedUser) (dto : UpdateZoneDto) :
    (updateZoneForUser id user dto).Makes Validated := by
  apply Program.makes_bind (makes_loadZoneOrThrow id)
  intro existingZone
  apply Program.makes_bind (makes_assertFleetAccess existingZone.fleetId user)
  intro _
  apply Program.makes_bind
  · exact Program.makes_ite trivial trivial
  intro _
  apply Program.makes_bind
  · cases dto.geojsonPolygon with
    | absent | null => trivial
    | value input => exact Program.makes_bind (makes_validatePolygon input) fun _ => trivial
  exact fun _ => ⟨trivial, trivial⟩

/-- A zone that is created slow has a limit. -/
theorem makes_handle (request : Request) : (handle request).Makes Validated := by
  cases request with
  | createZone newId user dto => exact makes_createZoneForUser newId user dto
  | updateZone id user dto => exact makes_updateZoneForUser id user dto
  | deleteZone id user =>
    apply Program.makes_bind (makes_loadZoneOrThrow id)
    intro zone
    apply Program.makes_bind (makes_assertFleetAccess zone.fleetId user)
    exact fun _ => ⟨trivial, trivial⟩

/-- A row is limited after an update exactly if the update keeps a limit in it. -/
theorem limited_apply_iff {data : ZoneData} {zone : GeofenceZone} :
    Limited (data.apply zone) ↔ (data.type.orElse zone.type = .SLOW →
      match data.speedLimitKph with
      | .absent => zone.speedLimitKph ≠ none
      | .null => False
      | .value _ => True) := by
  rw [Limited, ZoneData.apply]
  dsimp only
  apply imp_congr_right
  intro _
  cases data.speedLimitKph with
  | absent => exact Iff.rfl
  | null => exact iff_of_false (fun missing => missing rfl) id
  | value limit => exact iff_of_true (Option.some_ne_none _) trivial

/-- What the table accepts leaves all slow zones with limits exactly where it keeps to that
in the zone that it is about. -/
theorem limited_commit_iff {store written : ZoneStore} {operation : Write}
    (before : ∀ zone ∈ store.zones, Limited zone) (validated : Validated operation)
    (accepted : commit store operation = .ok written) :
    (∀ zone ∈ written.zones, Limited zone) ↔ KeepsLimit store operation := by
  cases operation with
  | create id fleetId name type geojsonPolygon speedLimitKph active =>
    simp only [commit] at accepted
    split at accepted
    case isFalse => cases accepted
    case isTrue =>
      split at accepted
      case isFalse => cases accepted
      case isTrue =>
        cases accepted
        refine iff_of_true ?_ trivial
        intro zone listed
        rcases List.mem_append.mp listed with old | new
        case inl => exact before zone old
        case inr =>
          rw [List.mem_singleton.mp new]
          intro slow missing
          exact validated slow (Option.map_eq_none_iff.mp missing)
  | update id data =>
    rw [commit] at accepted
    split at accepted
    case isTrue => cases accepted
    case isFalse =>
      cases found : store.find id with
      | none =>
        rw [if_pos found] at accepted
        cases accepted
      | some zone =>
        rw [if_neg (by rw [found]; exact Option.some_ne_none zone)] at accepted
        split at accepted
        case isFalse => cases accepted
        case isTrue =>
          cases accepted
          obtain ⟨stored, isWanted⟩ := (find?_key_iff store.distinct).mp found
          have keeps : KeepsLimit store (.update id data) ↔ Limited (data.apply zone) := by
            rw [limited_apply_iff, KeepsLimit, found]
            simp only [Option.mem_def, Option.some.injEq, forall_eq']
          rw [keeps]
          constructor
          case mp =>
            intro limits
            exact limits _ (mem_updateKey.mpr (Or.inl ⟨zone, stored, isWanted, rfl⟩))
          case mpr =>
            intro limited other listed
            rcases mem_updateKey.mp listed with ⟨old, oldStored, wanted, rfl⟩ | ⟨kept, -⟩
            case inl =>
              obtain rfl := eq_of_key_eq store.distinct oldStored stored (wanted.trans isWanted.symm)
              exact limited
            case inr => exact before other kept
  | delete id =>
    rw [commit] at accepted
    split at accepted
    case isTrue => cases accepted
    case isFalse =>
      cases accepted
      exact iff_of_true (fun zone listed => before zone (List.mem_of_mem_filter listed)) trivial

/-- In every interleaving of requests all slow zones have positive limits, and the rules
evaluate the active ones, exactly if every update that is written keeps a limit in the zone
as it is at that moment. -/
theorem slow_zones_limited_iff (store : ZoneStore) (actions : List (Action Request))
    (initially : LimitsSlowZones store) :
    Along (step commit handle) (fun _ _ next => LimitsSlowZones next.store) ⟨store, []⟩ actions ↔
      Along (step commit handle) (fun before action _ => Meets commit KeepsLimit before action)
        ⟨store, []⟩ actions := by
  refine @along_made_writes_iff _ _ _ _ _ commit handle (fun _ => True) LimitsSlowZones KeepsLimit
    Validated makes_handle (fun _ _ _ _ _ _ => trivial) ?_ ⟨store, []⟩ actions ?_ trivial initially
  · intro before operation written _ limits validated accepted
    rw [limitsSlowZones_iff] at limits ⊢
    exact limited_commit_iff limits validated accepted
  · exact fun program listed => nomatch listed

section Overlaps

/-- The zone as a call has read it, which each update does first. -/
def readAs (seen : List ZoneStore) (id : Id) : Option GeofenceZone :=
  seen.head?.bind fun first => first.find id

/-- What the check of an update depends on. -/
def standing (zone : GeofenceZone) : ZoneType × Option ℚ := (zone.type, zone.speedLimitKph)

/-- No other call has changed the type or the limit of the zone between the read of an update
and this write, and the update sends no null for the limit. -/
def Timely (_ : Request) (seen : List ZoneStore) (store : ZoneStore) : Write → Prop
  | .update id data => (readAs seen id).map standing = (store.find id).map standing ∧
      data.speedLimitKph.isNull = false
  | .create _ _ _ _ _ _ _ | .delete _ => True

/-- What the checks of a call tell about its write. -/
def Checked (seen : List ZoneStore) : Write → Prop
  | .create id fleetId name type geojsonPolygon speedLimitKph active =>
    Validated (.create id fleetId name type geojsonPolygon speedLimitKph active)
  | .update id data => ∃ zone, readAs seen id = some zone ∧
      (data.type.orElse zone.type = .SLOW →
        ((givenLimit data.speedLimitKph).map SpeedLimit.kph <|> zone.speedLimitKph) ≠ none)
  | .delete _ => True

section Vouching

variable {seen : List ZoneStore}

/-- The zone that a call goes on with is the one that it has read. -/
theorem vouches_loadZoneOrThrow {id : Id} {concluded : List ZoneStore → GeofenceZone → Prop}
    (onward : ∀ read zone, read.find zone.id = some zone → concluded (seen ++ [read]) zone) :
    Overlaps.Vouches commit LimitsSlowZones Checked concluded seen (loadZoneOrThrow id) := by
  rw [loadZoneOrThrow, Overlaps.vouches_bind, Overlaps.vouches_read]
  intro read _
  cases found : read.zones.find? fun zone => decide (zone.id = id) with
  | none => trivial
  | some zone =>
    obtain ⟨stored, -⟩ := (find?_key_iff read.distinct).mp found
    exact onward read zone ((find?_key_iff read.distinct).mpr ⟨stored, rfl⟩)

/-- A call goes on with a zone of its fleet. -/
theorem vouches_assertFleetAccess {fleetId : Id} {user : AuthenticatedUser}
    {concluded : List ZoneStore → Unit → Prop} (onward : concluded seen ()) :
    Overlaps.Vouches commit LimitsSlowZones Checked concluded seen (assertFleetAccess fleetId user) :=
  Overlaps.vouches_ite (fun _ => trivial) fun _ => onward

/-- A call goes on with what it has checked of the limit. -/
theorem vouches_validateSpeedLimit {type : ZoneType} {speedLimitKph : Option ℚ}
    {concluded : List ZoneStore → Unit → Prop}
    (onward : (type = .SLOW → speedLimitKph ≠ none) → concluded seen ()) :
    Overlaps.Vouches commit LimitsSlowZones Checked concluded seen
      (validateSpeedLimit type speedLimitKph) := by
  refine Overlaps.vouches_ite (fun _ => trivial) fun passed => onward ?_
  rintro slow rfl
  exact passed ⟨slow, rfl⟩

/-- The check of a polygon shows a call nothing of the store. -/
theorem vouches_validatePolygon {input : Json ℚ} {concluded : List ZoneStore → PolygonGeoJson → Prop}
    (onward : ∀ polygon, concluded seen polygon) :
    Overlaps.Vouches commit LimitsSlowZones Checked concluded seen (validatePolygon input) := by
  rw [validatePolygon]
  cases polygonGeoJsonSchema input with
  | none => trivial
  | some polygon => exact onward polygon

/-- Neither does that of an update, which may send none. -/
theorem vouches_validateSentPolygon {field : Field (Json ℚ)}
    {concluded : List ZoneStore → Option PolygonGeoJson → Prop}
    (onward : ∀ polygon, concluded seen polygon) :
    Overlaps.Vouches commit LimitsSlowZones Checked concluded seen (validateSentPolygon field) := by
  cases field with
  | absent | null => exact onward none
  | value input =>
    rw [validateSentPolygon, Overlaps.vouches_bind]
    exact vouches_validatePolygon fun polygon => onward (some polygon)

end Vouching

/-- A creation writes what it has checked. -/
theorem createZoneForUser_vouches (newId : Id) (user : AuthenticatedUser) (dto : CreateZoneDto) :
    Overlaps.Vouches commit LimitsSlowZones Checked (fun _ _ => True) []
      (createZoneForUser newId user dto) := by
  rw [createZoneForUser, Overlaps.vouches_bind]
  refine vouches_validatePolygon fun geojsonPolygon => ?_
  rw [Overlaps.vouches_bind]
  refine vouches_validateSpeedLimit fun limited => ?_
  exact ⟨fun slow missing => limited slow (by rw [missing]; rfl), fun _ _ _ _ => trivial⟩

/-- An update has checked the type and the limit that the zone would have, as it was read. -/
theorem updateZoneForUser_vouches (id : Id) (user : AuthenticatedUser) (dto : UpdateZoneDto) :
    Overlaps.Vouches commit LimitsSlowZones Checked (fun _ _ => True) []
      (updateZoneForUser id user dto) := by
  rw [updateZoneForUser, Overlaps.vouches_bind]
  refine vouches_loadZoneOrThrow fun read existingZone found => ?_
  rw [Overlaps.vouches_bind]
  refine vouches_assertFleetAccess ?_
  rw [Overlaps.vouches_bind]
  refine vouches_validateSpeedLimit fun limited => ?_
  rw [Overlaps.vouches_bind]
  refine vouches_validateSentPolygon fun geojsonPolygon => ?_
  exact ⟨⟨existingZone, found, limited⟩, fun _ _ _ _ => trivial⟩

/-- Every call has checked what it writes. -/
theorem handle_vouches (request : Request) :
    Overlaps.Vouches commit LimitsSlowZones Checked (fun _ _ => True) [] (handle request) := by
  cases request with
  | createZone newId user dto => exact createZoneForUser_vouches newId user dto
  | updateZone id user dto => exact updateZoneForUser_vouches id user dto
  | deleteZone id user =>
    rw [handle, deleteZoneForUser, Overlaps.vouches_bind]
    refine vouches_loadZoneOrThrow fun read zone _ => ?_
    rw [Overlaps.vouches_bind]
    exact vouches_assertFleetAccess ⟨trivial, fun _ _ _ _ => trivial⟩

/-- What was checked on the zone as it still is keeps its limit. -/
theorem keepsLimit_of_checked {request : Request} {seen : List ZoneStore} {store : ZoneStore}
    {operation : Write} (checked : Checked seen operation)
    (timely : Timely request seen store operation) : KeepsLimit store operation := by
  cases operation with
  | create id fleetId name type geojsonPolygon speedLimitKph active => trivial
  | delete id => trivial
  | update id data =>
    obtain ⟨read, known, limited⟩ := checked
    obtain ⟨unchanged, sent⟩ := timely
    intro zone found slow
    rw [known, Option.mem_def.mp found, Option.map_some, Option.map_some, Option.some.injEq] at unchanged
    obtain ⟨sameType, sameLimit⟩ := Prod.mk.inj unchanged
    rw [sameType, sameLimit] at limited
    have checkedLimit := limited slow
    cases asked : data.speedLimitKph with
    | absent =>
      rw [asked] at checkedLimit
      exact checkedLimit
    | null =>
      rw [asked] at sent
      cases sent
    | value limit => trivial

/-- A creation whose checks passed is a validated one. -/
theorem validated_of_checked {seen : List ZoneStore} {operation : Write}
    (checked : Checked seen operation) : Validated operation := by
  cases operation with
  | create id fleetId name type geojsonPolygon speedLimitKph active => exact checked
  | update id data => trivial
  | delete id => trivial

end Overlaps

/-- Where no update is overtaken or sends a null for the limit, the checks of the calls are
enough: all slow zones have positive limits in every interleaving. -/
theorem slow_zones_limited_of_timely (store : ZoneStore) (actions : List (Action Request))
    (initially : LimitsSlowZones store)
    (timely : Along (Overlaps.watch commit handle)
      (fun before action _ => Overlaps.Meets commit Timely before action)
      (Overlaps.Watched.begun store) actions) :
    Along (step commit handle) (fun _ _ next => LimitsSlowZones next.store) ⟨store, []⟩ actions := by
  refine @Overlaps.along_holds _ _ _ _ _ commit handle LimitsSlowZones (fun _ => Checked) Timely
    LimitsSlowZones handle_vouches (fun _ limits => limits) ?_ store actions initially timely
  intro request seen before operation written limits checked onTime accepted
  rw [limitsSlowZones_iff] at limits ⊢
  exact (limited_commit_iff limits (validated_of_checked checked) accepted).mpr
    (keepsLimit_of_checked checked onTime)

section Samples

/-- A dispatcher of the fleet. -/
def operator : AuthenticatedUser where
  id := "operator"
  fleetId := "fleet"
  fleetPlan := .ENTERPRISE
  role := .DISPATCHER
  insurerName := none

/-- A polygon with one ring. -/
def square : Json ℚ :=
  .object [("type", .string "Polygon"), ("coordinates", .array [.array
    [.array [.number 30, .number (-2)], .array [.number 31, .number (-2)],
      .array [.number 31, .number (-1)], .array [.number 30, .number (-2)]]])]

/-- A table without zones. -/
def noZones : ZoneStore := ⟨[], List.nodup_nil, fun _ listed => nomatch listed⟩

/-- The creation of a slow zone with a limit. -/
def slowZone : Request :=
  .createZone "zone" operator
    { name := "Downtown Slow Zone"
      type := .SLOW
      geojsonPolygon := square
      speedLimitKph := .value ⟨30, by norm_num⟩
      active := .absent }

/-- A body with the limit alone. -/
def limitAlone (speedLimitKph : Field SpeedLimit) : Request :=
  .updateZone "zone" operator ⟨.absent, .absent, .absent, speedLimitKph, .absent⟩

/-- Without zones all slow zones are limited. -/
theorem noZones_limited : LimitsSlowZones noZones :=
  (limitsSlowZones_iff noZones).mpr fun _ listed => nomatch listed

/-- A slow zone is created and gets another limit. -/
def limitChanged : List (Action Request) :=
  [.submit slowZone, .advance 0, .submit (limitAlone (.value ⟨40, by norm_num⟩)), .advance 1,
    .advance 1]

/-- A slow zone keeps a limit when it gets another one. -/
theorem slow_zones_limited_iff_changed :
    Along (step commit handle) (fun _ _ next => LimitsSlowZones next.store)
        (⟨noZones, []⟩ : System ZoneStore Write DatabaseError Failure) limitChanged ↔
      Along (step commit handle) (fun before action _ => Meets commit KeepsLimit before action)
        (⟨noZones, []⟩ : System ZoneStore Write DatabaseError Failure) limitChanged :=
  slow_zones_limited_iff noZones limitChanged noZones_limited

/-- A null in the place of the limit passes the check, since the stored limit is checked
instead, and is written. -/
theorem slow_zone_without_limit :
    ¬ ∀ (store : ZoneStore) actions, LimitsSlowZones store →
      Along (step commit handle) (fun _ _ next => LimitsSlowZones next.store) ⟨store, []⟩ actions := by
  intro claim
  refine not_along_of_check (⟨noZones, []⟩ : System ZoneStore Write DatabaseError Failure)
    [.submit slowZone, .advance 0, .submit (limitAlone .null), .advance 1] (.advance 1)
    (fun _ next (broken : decide (¬ ∀ zone ∈ next.store.zones, Limited zone) = true) => ?_) ?_
    (claim noZones _ noZones_limited)
  · rw [limitsSlowZones_iff]
    exact of_decide_eq_true broken
  · decide +kernel

end Samples

end EmotoFleet.Zones
