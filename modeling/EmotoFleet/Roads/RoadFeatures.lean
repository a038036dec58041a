import EmotoFleet.Foundations.Doubles
import EmotoFleet.Foundations.Runs
import EmotoFleet.Foundations.Tables
import EmotoFleet.Redis.RedisFallback
import Mathlib.Algebra.Order.Ring.Rat
import Mathlib.Data.List.Infix
import Mathlib.Data.List.Sort
import Mathlib.Data.Rat.Floor

/-!
# Road features of a bounding box

Features are fetched from a map by bounding box, stored in a table, and returned from
the table. A box is fetched unless some feature that is stored in it was stored
lately, so what was fetched for one box keeps another box that overlaps it from being
fetched. Whether the answers are complete is decided, call by call, by what is stored
and what is fetched. What is fetched is stored in one transaction, which fails if some
feature has no room in its columns.
-/

namespace EmotoFleet.RoadFeatures

open EmotoFleet.Runs
open Doubles (toDouble)

section Elements

/-- The kinds of map elements. -/
inductive OsmType
  | node
  | way
  | relation
deriving DecidableEq

/-- The kinds of features. -/
inductive RoadFeatureType
  | school
  | hospital
  | market
  | trafficSign
  | speedLimit
deriving DecidableEq

/-- The tags of a map element that the service reads. -/
structure Tags where
  amenity : Option String
  highway : Option String
  trafficSign : Option String
  maxspeed : Option String
  name : Option String
deriving DecidableEq

/-- An element as a server answers it. -/
structure OverpassElement where
  id : Nat
  type : OsmType
  lat : Option ℚ
  lon : Option ℚ
  center : Option (ℚ × ℚ)
  tags : Tags
deriving DecidableEq

/-- A feature as it is stored and answered. -/
structure Feature where
  osmId : Nat
  osmType : OsmType
  type : RoadFeatureType
  name : Option String
  speedLimitKph : Option Int
  lat : ℚ
  lng : ℚ
deriving DecidableEq

/-- The number that digits denote. -/
def numberOf (digits : List Char) : ℚ :=
  (digits.foldl (fun number digit => 10 * number + (digit.toNat - 48)) 0 : Nat)

/-- The first number in a text, with a fraction if a point and digits follow. -/
def firstNumber (letters : List Char) : Option ℚ :=
  let rest := letters.dropWhile fun letter => !letter.isDigit
  let whole := rest.takeWhile Char.isDigit
  if whole.isEmpty then none
  else
    match rest.dropWhile Char.isDigit with
    | '.' :: later =>
      let fraction := later.takeWhile Char.isDigit
      some (numberOf whole + numberOf fraction / 10 ^ fraction.length)
    | _ => some (numberOf whole)

/-- A limit in kilometres per hour, computed in double precision. -/
def parseSpeedLimitKph (raw : String) : Option Int :=
  (firstNumber raw.toList).map fun number =>
    let value := toDouble number
    if "mph".toList <:+: raw.toLower.toList then
      (toDouble (value * toDouble (1609 / 1000)) + 1 / 2).floor
    else (value + 1 / 2).floor

/-- A tag that is present and not empty. -/
def truthy (tag : Option String) : Bool := tag.any fun text => text ≠ ""

/-- The kind of feature that an element is, by its tags. -/
def resolveFeatureType (tags : Tags) : Option RoadFeatureType :=
  if truthy tags.maxspeed then some .speedLimit
  else if tags.amenity = some "school" then some .school
  else if tags.amenity = some "hospital" then some .hospital
  else if tags.amenity = some "marketplace" then some .market
  else if tags.highway = some "traffic_signals" ∨ truthy tags.trafficSign then some .trafficSign
  else none

/-- The position of an element, or of its centre. -/
def resolveElementLocation (element : OverpassElement) : Option (ℚ × ℚ) :=
  match element.lat, element.lon with
  | some lat, some lon => some (lat, lon)
  | _, _ => element.center

/-- The feature that an element is, if it is one. -/
def normalizeOverpassElement (element : OverpassElement) : Option Feature :=
  (resolveElementLocation element).bind fun location =>
    (resolveFeatureType element.tags).map fun type =>
      { osmId := element.id
        osmType := element.type
        type := type
        name := element.tags.name
        speedLimitKph :=
          if truthy element.tags.maxspeed then element.tags.maxspeed.bind parseSpeedLimitKph else none
        lat := location.1
        lng := location.2 }

/-- The elements that the query asks for, by their tags. -/
def queried (element : OverpassElement) : Bool :=
  let facility := element.tags.amenity.any fun amenity =>
    ["school", "hospital", "marketplace"].any fun kind => kind.toList <:+: amenity.toList
  match element.type with
  | .node => facility || element.tags.highway == some "traffic_signals" || element.tags.trafficSign.isSome
  | .way => facility || element.tags.maxspeed.isSome
  | .relation => false

end Elements

section Tables

/-- A box as it is asked for. -/
structure Bounds where
  minLat : ℚ
  minLng : ℚ
  maxLat : ℚ
  maxLng : ℚ
deriving DecidableEq

/-- A box with its corners in order. -/
def normalizeBounds (bounds : Bounds) : Bounds where
  minLat := min bounds.minLat bounds.maxLat
  maxLat := max bounds.minLat bounds.maxLat
  minLng := min bounds.minLng bounds.maxLng
  maxLng := max bounds.minLng bounds.maxLng

/-- Whether a position lies in a box, its border included. -/
def Bounds.Contains (bounds : Bounds) (lat lng : ℚ) : Prop :=
  (bounds.minLat ≤ lat ∧ lat ≤ bounds.maxLat) ∧ bounds.minLng ≤ lng ∧ lng ≤ bounds.maxLng

instance (bounds : Bounds) (lat lng : ℚ) : Decidable (bounds.Contains lat lng) :=
  inferInstanceAs (Decidable (_ ∧ _))

/-- The number that a column with six decimals stores. -/
def decimalColumn (value : ℚ) : ℚ :=
  if 0 ≤ value then ((value * 10 ^ 6 + 1 / 2).floor : ℚ) / 10 ^ 6
  else -((-value * 10 ^ 6 + 1 / 2).floor : ℚ) / 10 ^ 6

/-- A feature as its columns hold it. -/
def Feature.stored (feature : Feature) : Feature :=
  { feature with
    lat := decimalColumn feature.lat
    lng := decimalColumn feature.lng }

/-- Whether a feature has room in its columns: a limit in thirty-two bits, a position in three
digits before the point. -/
def Feature.fits (feature : Feature) : Bool :=
  feature.speedLimitKph.all (fun limit => decide (limit < 2 ^ 31)) &&
    decide (|feature.stored.lat| < 1000 ∧ |feature.stored.lng| < 1000)

/-- A row with the instant at which it was stored last. -/
structure Row where
  feature : Feature
  updatedAt : ℚ
deriving DecidableEq

/-- The columns that are unique together. -/
def Feature.key (feature : Feature) : OsmType × Nat := (feature.osmType, feature.osmId)

/-- The key of a row. -/
def Row.key (row : Row) : OsmType × Nat := row.feature.key

/-- A feature is stored in the place of the one with its key. -/
def upsert (now : ℚ) (rows : List Row) (feature : Feature) : List Row :=
  if rows.any fun row => row.key == feature.key then
    Tables.updateKey Row.key feature.key (fun _ => ⟨feature.stored, now⟩) rows
  else rows ++ [⟨feature.stored, now⟩]

end Tables

section Service

/-- The durations of the service, in seconds. -/
structure Config where
  cacheTtlSeconds : ℚ
  refreshSeconds : ℚ
deriving DecidableEq

/-- A feature as it is returned. The row's drawn identifier stands for the element that
the row was created for. -/
structure RoadFeatureSummary where
  id : OsmType × Nat
  type : RoadFeatureType
  name : Option String
  speedLimitKph : Option Int
  lat : ℚ
  lng : ℚ
deriving DecidableEq

/-- A cached answer with its expiry. -/
structure CachedFeatures where
  features : List RoadFeatureSummary
  expires : Option ℚ
deriving DecidableEq

/-- What a cached answer is found by: the box and the requested types in order. -/
abbrev CacheKey := Bounds × List RoadFeatureType

/-- The table, the cache and the time. -/
structure State where
  now : ℚ
  rows : List Row
  cache : CacheKey → Option CachedFeatures

/-- A map server: the elements that it answers for a box, or nothing when it fails. -/
abbrev Endpoint := Bounds → Option (List OverpassElement)

/-- A query, the milliseconds since the one before it, and the servers as they answer. -/
structure Call where
  wait : Nat
  bounds : Bounds
  types : List RoadFeatureType
  overpassEndpoints : List Endpoint

/-- The position of a type's name in alphabetical order. -/
def typeRank : RoadFeatureType → Nat
  | .hospital => 0
  | .market => 1
  | .school => 2
  | .speedLimit => 3
  | .trafficSign => 4

/-- The key of an answer, whatever order the types come in. -/
def cacheKey (bounds : Bounds) (types : List RoadFeatureType) : CacheKey :=
  (bounds, types.insertionSort fun left right => typeRank left ≤ typeRank right)

/-- The first answer of a server, each of them asked in turn. -/
def fetchOverpassFeatures (bounds : Bounds) : List Endpoint → Option (List Feature)
  | [] => none
  | endpoint :: rest =>
    match endpoint bounds with
    | some elements => some (elements.filterMap normalizeOverpassElement)
    | none => fetchOverpassFeatures bounds rest

/-- Whether a row lies in a box. -/
def inBounds (bounds : Bounds) (row : Row) : Bool :=
  decide (bounds.Contains row.feature.lat row.feature.lng)

/-- The columns of a feature that are answered. -/
def Feature.summary (feature : Feature) : RoadFeatureSummary where
  id := feature.key
  type := feature.type
  name := feature.name
  speedLimitKph := feature.speedLimitKph
  lat := feature.lat
  lng := feature.lng

variable (config : Config)

/-- Whether the row in the box that was stored last was stored lately. -/
def isFresh (rows : List Row) (bounds : Bounds) (now : ℚ) : Bool :=
  (((rows.filter (inBounds bounds)).map Row.updatedAt).max?).any fun updatedAt =>
    decide (now - updatedAt < config.refreshSeconds * 1000)

/-- The rows after the box has been refreshed if it was stale, and whether that
succeeded. The transaction that stores what was fetched fails, and the query with it, if some
feature does not fit. -/
def refreshFeaturesIfStale (rows : List Row) (now : ℚ) (bounds : Bounds)
    (overpassEndpoints : List Endpoint) : Option (List Row × Bool) :=
  if isFresh config rows bounds now then some (rows, true)
  else
    match fetchOverpassFeatures bounds overpassEndpoints with
    | none => some (rows, false)
    | some fetched =>
      if fetched.all Feature.fits then some (fetched.foldl (upsert now) rows, true) else none

/-- The rows of the requested types in a box. -/
def loadFeatures (rows : List Row) (bounds : Bounds) (types : List RoadFeatureType) :
    List RoadFeatureSummary :=
  (rows.filter fun row => inBounds bounds row && decide (row.feature.type ∈ types)).map
    fun row => row.feature.summary

/-- A cached answer, unless it has expired. -/
def readCache (state : State) (key : CacheKey) (now : ℚ) : Option (List RoadFeatureSummary) :=
  (state.cache key).bind fun cached =>
    if cached.expires.all fun expires => decide (now ≤ expires) then some cached.features else none

variable (state : State) (call : Call)

/-- The instant of a query. -/
def State.instant : ℚ := state.now + call.wait

/-- What a query leaves, and its answer unless it fails. -/
def getFeaturesInBounds : State × Option (List RoadFeatureSummary) :=
  let now := state.instant call
  let normalizedBounds := normalizeBounds call.bounds
  let key := cacheKey normalizedBounds call.types
  match readCache state key now with
  | some cached => ({ state with now := now }, some cached)
  | none =>
    match refreshFeaturesIfStale config state.rows now normalizedBounds call.overpassEndpoints with
    | none => ({ state with now := now }, none)
    | some (rows, success) =>
      let features := loadFeatures rows normalizedBounds call.types
      ({ now := now
         rows := rows
         cache := if success then
             Function.update state.cache key
               (some ⟨features, RedisFallback.expiry now (some config.cacheTtlSeconds)⟩)
           else state.cache },
        some features)

/-- The state after a query. -/
def State.next : State := (getFeaturesInBounds config state call).1

/-- The state before any query. -/
def start : State := ⟨0, [], fun _ => none⟩

end Service

section Completeness

/-- Map data: its elements, told apart by type and number, and which of them the
servers count into a box. -/
structure World where
  elements : List OverpassElement
  distinct : (elements.map fun element => (element.type, element.id)).Nodup
  touches : Bounds → OverpassElement → Bool

variable (world : World) (config : Config) (state : State) (call : Call)

/-- Some server answers, and whichever answers has all elements of the map that the query
asks for in the box, since the map is unchanged and they are fewer than the cap. -/
structure Reachable : Prop where
  reached : ∃ endpoint ∈ call.overpassEndpoints,
    (endpoint (normalizeBounds call.bounds)).isSome = true
  complete : ∀ endpoint ∈ call.overpassEndpoints, ∀ elements,
    endpoint (normalizeBounds call.bounds) = some elements → ∀ element, element ∈ elements ↔
      element ∈ world.elements ∧ queried element = true ∧
        world.touches (normalizeBounds call.bounds) element = true

/-- A feature that a query asks for: on the map, of a requested type, positioned in the box. -/
structure Wanted (bounds : Bounds) (types : List RoadFeatureType) (element : OverpassElement)
    (feature : Feature) : Prop where
  onMap : element ∈ world.elements
  isFeature : normalizeOverpassElement element = some feature
  ofType : feature.type ∈ types
  positioned : (normalizeBounds bounds).Contains feature.lat feature.lng

/-- The answer has every feature that is asked for, as the table stores it. -/
def Complete (bounds : Bounds) (types : List RoadFeatureType)
    (answer : List RoadFeatureSummary) : Prop :=
  ∀ element feature, Wanted world bounds types element feature → feature.stored.summary ∈ answer

/-- The query gets an answer, and a complete one. -/
def Answered : Prop :=
  ∃ answer, (getFeaturesInBounds config state call).2 = some answer ∧
    Complete world call.bounds call.types answer

/-- The element is fetched by the query: no row in the box is fresh, the query asks for the
element, and the servers count it into the box. -/
def Fetched (element : OverpassElement) : Prop :=
  isFresh config state.rows (normalizeBounds call.bounds) (state.instant call) = false ∧
    queried element = true ∧ world.touches (normalizeBounds call.bounds) element = true

instance (element : OverpassElement) : Decidable (Fetched world config state call element) :=
  inferInstanceAs (Decidable (_ ∧ _))

/-- The query is answered from the cache; or what it fetches has room in the table, and every
feature that it asks for keeps its place in the box when it is stored, and is stored already
or fetched now. -/
def Found : Prop :=
  (readCache state (cacheKey (normalizeBounds call.bounds) call.types)
      (state.instant call)).isSome = true ∨
    (∀ element ∈ world.elements, Fetched world config state call element →
      ∀ feature ∈ normalizeOverpassElement element, feature.fits = true) ∧
    ∀ element feature, Wanted world call.bounds call.types element feature →
      (normalizeBounds call.bounds).Contains feature.stored.lat feature.stored.lng ∧
        ((∃ row ∈ state.rows, row.key = feature.key) ∨ Fetched world config state call element)

end Completeness

section Rows

variable {world : World}

/-- The key is stored as it is. -/
@[simp] theorem stored_key (feature : Feature) : feature.stored.key = feature.key := rfl

/-- An answered feature stands for the element of its row. -/
@[simp] theorem summary_id (feature : Feature) : feature.summary.id = feature.key := rfl

/-- Every row is a feature of the map as the table stores it. -/
def FromMap (world : World) (rows : List Row) : Prop :=
  ∀ row ∈ rows, ∃ element ∈ world.elements, ∃ feature,
    normalizeOverpassElement element = some feature ∧ row.feature = feature.stored

/-- The key of a feature is that of its element. -/
theorem normalize_key {element : OverpassElement} {feature : Feature}
    (isFeature : normalizeOverpassElement element = some feature) :
    feature.key = (element.type, element.id) := by
  obtain ⟨location, _, rest⟩ := Option.bind_eq_some_iff.mp isFeature
  obtain ⟨type, _, rfl⟩ := Option.map_eq_some_iff.mp rest
  rfl

/-- Features of one key come from one element of the map. -/
theorem element_of_key {first second : OverpassElement} {firstFeature secondFeature : Feature}
    (firstOnMap : first ∈ world.elements) (secondOnMap : second ∈ world.elements)
    (isFirst : normalizeOverpassElement first = some firstFeature)
    (isSecond : normalizeOverpassElement second = some secondFeature)
    (sameKey : firstFeature.key = secondFeature.key) :
    first = second ∧ firstFeature = secondFeature := by
  rw [normalize_key isFirst, normalize_key isSecond] at sameKey
  obtain rfl := List.inj_on_of_nodup_map world.distinct firstOnMap secondOnMap sameKey
  exact ⟨rfl, Option.some.inj (isFirst.symm.trans isSecond)⟩

/-- Storing a feature of the map keeps the rows from the map. -/
theorem fromMap_upsert {now : ℚ} {rows : List Row} {element : OverpassElement} {feature : Feature}
    (kept : FromMap world rows) (onMap : element ∈ world.elements)
    (isFeature : normalizeOverpassElement element = some feature) :
    FromMap world (upsert now rows feature) := by
  intro row member
  rw [upsert] at member
  split at member
  · rcases Tables.mem_updateKey.mp member with ⟨_, _, _, rfl⟩ | ⟨old, _⟩
    · exact ⟨element, onMap, feature, isFeature, rfl⟩
    · exact kept row old
  · rcases List.mem_append.mp member with old | new
    · exact kept row old
    · obtain rfl := List.mem_singleton.mp new
      exact ⟨element, onMap, feature, isFeature, rfl⟩

/-- Storing a feature adds its key. -/
theorem mem_upsert_key {now : ℚ} {rows : List Row} {feature : Feature} {key : OsmType × Nat} :
    (∃ row ∈ upsert now rows feature, row.key = key) ↔
      (∃ row ∈ rows, row.key = key) ∨ feature.key = key := by
  rw [upsert]
  split
  case isTrue stored =>
    obtain ⟨held, isHeld, sameKey⟩ := List.any_eq_true.mp stored
    rw [beq_iff_eq] at sameKey
    constructor
    · rintro ⟨row, member, rfl⟩
      rcases Tables.mem_updateKey.mp member with ⟨_, _, _, rfl⟩ | ⟨old, _⟩
      · exact .inr rfl
      · exact .inl ⟨row, old, rfl⟩
    · intro known
      by_cases same : feature.key = key
      · exact ⟨_, Tables.mem_updateKey.mpr (.inl ⟨held, isHeld, sameKey, rfl⟩), same⟩
      · obtain ⟨row, old, rfl⟩ := known.resolve_right same
        exact ⟨row, Tables.mem_updateKey.mpr (.inr ⟨old, Ne.symm same⟩), rfl⟩
  case isFalse =>
    constructor
    · rintro ⟨row, member, rfl⟩
      rcases List.mem_append.mp member with old | new
      · exact .inl ⟨row, old, rfl⟩
      · obtain rfl := List.mem_singleton.mp new
        exact .inr rfl
    · rintro (⟨row, old, rfl⟩ | rfl)
      · exact ⟨row, List.mem_append_left _ old, rfl⟩
      · exact ⟨_, List.mem_append_right _ (List.mem_singleton_self _), rfl⟩

/-- Storing a list of features adds their keys. -/
theorem mem_upserts_key {now : ℚ} {rows : List Row} (fetched : List Feature)
    {key : OsmType × Nat} :
    (∃ row ∈ fetched.foldl (upsert now) rows, row.key = key) ↔
      (∃ row ∈ rows, row.key = key) ∨ ∃ feature ∈ fetched, feature.key = key := by
  induction fetched generalizing rows with
  | nil => simp
  | cons feature rest inductionHypothesis =>
    rw [List.foldl_cons, inductionHypothesis, mem_upsert_key, or_assoc]
    simp

/-- Storing features of the map keeps the rows from the map. -/
theorem fromMap_upserts {now : ℚ} {rows : List Row} (fetched : List Feature)
    (kept : FromMap world rows)
    (onMap : ∀ feature ∈ fetched, ∃ element ∈ world.elements,
      normalizeOverpassElement element = some feature) :
    FromMap world (fetched.foldl (upsert now) rows) := by
  induction fetched generalizing rows with
  | nil => exact kept
  | cons feature rest inductionHypothesis =>
    obtain ⟨element, inWorld, isFeature⟩ := onMap feature (List.mem_cons_self ..)
    exact inductionHypothesis (fromMap_upsert kept inWorld isFeature)
      fun later member => onMap later (List.mem_cons_of_mem _ member)

end Rows

section Queries

variable {world : World} {config : Config} {state : State} {call : Call}

/-- A fetch brings the features of the elements that the query asks for in the box. -/
theorem fetched_features (reachable : Reachable world call) :
    ∃ fetched, fetchOverpassFeatures (normalizeBounds call.bounds) call.overpassEndpoints =
        some fetched ∧
      ∀ feature, feature ∈ fetched ↔ ∃ element, (element ∈ world.elements ∧
        queried element = true ∧ world.touches (normalizeBounds call.bounds) element = true) ∧
        normalizeOverpassElement element = some feature := by
  obtain ⟨⟨endpoint, listed, answers⟩, complete⟩ := reachable
  revert listed complete
  induction call.overpassEndpoints with
  | nil => exact fun _ listed => absurd listed List.not_mem_nil
  | cons first rest inductionHypothesis =>
    intro complete listed
    rw [fetchOverpassFeatures]
    cases answer : first (normalizeBounds call.bounds) with
    | some elements =>
      refine ⟨_, rfl, fun feature => ?_⟩
      have exactly := complete first (List.mem_cons_self ..) elements answer
      simp only [List.mem_filterMap, exactly]
    | none =>
      rcases List.mem_cons.mp listed with rfl | later
      · rw [answer] at answers
        cases answers
      · exact inductionHypothesis (fun other inRest =>
          complete other (List.mem_cons_of_mem _ inRest)) later

/-- Where what is fetched has room in the table, the refresh succeeds: its rows come from the
map, and they have the keys of the rows before and of what was fetched. -/
theorem refreshed_rows (reachable : Reachable world call) (kept : FromMap world state.rows)
    (room : ∀ element ∈ world.elements, Fetched world config state call element →
      ∀ feature ∈ normalizeOverpassElement element, feature.fits = true) :
    ∃ rows, refreshFeaturesIfStale config state.rows (state.instant call)
        (normalizeBounds call.bounds) call.overpassEndpoints = some (rows, true) ∧
      FromMap world rows ∧
      ∀ element ∈ world.elements, ∀ feature, normalizeOverpassElement element = some feature →
        ((∃ row ∈ rows, row.key = feature.key) ↔
          (∃ row ∈ state.rows, row.key = feature.key) ∨ Fetched world config state call element) := by
  rw [refreshFeaturesIfStale]
  by_cases fresh :
      isFresh config state.rows (normalizeBounds call.bounds) (state.instant call) = true
  · rw [if_pos fresh]
    refine ⟨state.rows, rfl, kept, fun element _ feature _ => ?_⟩
    simp [Fetched, fresh]
  · obtain ⟨fetched, isFetched, exactly⟩ := fetched_features reachable
    rw [Bool.not_eq_true] at fresh
    have fits : fetched.all Feature.fits = true := by
      apply List.all_eq_true.mpr
      intro feature member
      obtain ⟨element, ⟨onMap, asked, touched⟩, isFeature⟩ := (exactly feature).mp member
      exact room element onMap ⟨fresh, asked, touched⟩ feature isFeature
    rw [if_neg (Bool.eq_false_iff.mp fresh), isFetched]
    refine ⟨_, if_pos fits, fromMap_upserts fetched kept ?_, ?_⟩
    · intro feature member
      obtain ⟨element, ⟨onMap, _⟩, isFeature⟩ := (exactly feature).mp member
      exact ⟨element, onMap, isFeature⟩
    · intro element onMap feature isFeature
      rw [mem_upserts_key]
      refine or_congr_right ?_
      constructor
      · rintro ⟨other, member, sameKey⟩
        obtain ⟨source, ⟨sourceOnMap, asked, touched⟩, isOther⟩ := (exactly other).mp member
        obtain ⟨rfl, _⟩ := element_of_key sourceOnMap onMap isOther isFeature sameKey
        exact ⟨fresh, asked, touched⟩
      · rintro ⟨_, asked, touched⟩
        exact ⟨feature, (exactly feature).mpr ⟨element, ⟨onMap, asked, touched⟩, isFeature⟩, rfl⟩

/-- A refresh that fetches something without room fails. -/
theorem refresh_fails (reachable : Reachable world call) {element : OverpassElement}
    (onMap : element ∈ world.elements) (isFetched : Fetched world config state call element)
    {feature : Feature} (isFeature : normalizeOverpassElement element = some feature)
    (beyond : feature.fits = false) :
    refreshFeaturesIfStale config state.rows (state.instant call) (normalizeBounds call.bounds)
      call.overpassEndpoints = none := by
  obtain ⟨stale, asked, touched⟩ := isFetched
  obtain ⟨fetched, answer, exactly⟩ := fetched_features reachable
  have member : feature ∈ fetched := (exactly feature).mpr ⟨element, ⟨onMap, asked, touched⟩, isFeature⟩
  have full : fetched.all Feature.fits ≠ true := fun fits =>
    absurd (List.all_eq_true.mp fits feature member) (Bool.eq_false_iff.mp beyond)
  rw [refreshFeaturesIfStale, if_neg (Bool.eq_false_iff.mp stale), answer]
  exact if_neg full

/-- A feature that is asked for is loaded when its place in the table is in the box and
it has a row. -/
theorem loaded_iff {bounds : Bounds} {types : List RoadFeatureType} {rows : List Row}
    (kept : FromMap world rows) {element : OverpassElement} {feature : Feature}
    (wanted : Wanted world bounds types element feature) :
    feature.stored.summary ∈ loadFeatures rows (normalizeBounds bounds) types ↔
      (normalizeBounds bounds).Contains feature.stored.lat feature.stored.lng ∧
        ∃ row ∈ rows, row.key = feature.key := by
  simp only [loadFeatures, List.mem_map, List.mem_filter, Bool.and_eq_true, inBounds,
    decide_eq_true_eq]
  constructor
  · rintro ⟨row, ⟨member, contained, _⟩, same⟩
    have sameLat : row.feature.lat = feature.stored.lat := congrArg RoadFeatureSummary.lat same
    have sameLng : row.feature.lng = feature.stored.lng := congrArg RoadFeatureSummary.lng same
    rw [sameLat, sameLng] at contained
    exact ⟨contained, row, member, congrArg RoadFeatureSummary.id same⟩
  · rintro ⟨contained, row, member, sameKey⟩
    obtain ⟨source, onMap, original, isOriginal, isStored⟩ := kept row member
    have originalKey : original.key = feature.key := by
      rw [← sameKey, Row.key, isStored, stored_key]
    obtain ⟨_, rfl⟩ := element_of_key onMap wanted.onMap isOriginal wanted.isFeature originalKey
    refine ⟨row, ⟨member, ?_, ?_⟩, by rw [isStored]⟩
    · rwa [isStored]
    · rw [isStored]
      exact wanted.ofType

/-- What holds in every state that complete answers lead to: the rows come from the map,
and the cached answers are complete. -/
structure Valid (world : World) (state : State) : Prop where
  rows : FromMap world state.rows
  cached : ∀ bounds types cached,
    state.cache (cacheKey (normalizeBounds bounds) types) = some cached →
      Complete world bounds types cached.features

/-- Queries with one key are about one box and the same types. -/
theorem mem_of_cacheKey {bounds other : Bounds} {types others : List RoadFeatureType}
    (same : cacheKey bounds types = cacheKey other others) :
    bounds = other ∧ ∀ type, type ∈ types ↔ type ∈ others := by
  obtain ⟨sameBounds, sameTypes⟩ := Prod.mk.inj same
  refine ⟨sameBounds, fun type => ?_⟩
  have perm := (List.perm_insertionSort (fun left right => typeRank left ≤ typeRank right) types)
  have otherPerm := (List.perm_insertionSort (fun left right => typeRank left ≤ typeRank right) others)
  rw [← perm.mem_iff, sameTypes, otherPerm.mem_iff]

/-- Queries with one cache key ask for the same features. -/
theorem complete_of_cacheKey {bounds other : Bounds} {types others : List RoadFeatureType}
    {answer : List RoadFeatureSummary}
    (same : cacheKey (normalizeBounds bounds) types = cacheKey (normalizeBounds other) others)
    (complete : Complete world other others answer) : Complete world bounds types answer := by
  obtain ⟨sameBounds, sameTypes⟩ := mem_of_cacheKey same
  intro element feature wanted
  exact complete element feature ⟨wanted.onMap, wanted.isFeature,
    (sameTypes feature.type).mp wanted.ofType, sameBounds ▸ wanted.positioned⟩

/-- What a query does that is not answered from the cache and whose refresh succeeds. -/
theorem getFeaturesInBounds_loaded
    (missed : readCache state (cacheKey (normalizeBounds call.bounds) call.types)
      (state.instant call) = none) {rows : List Row}
    (refreshed : refreshFeaturesIfStale config state.rows (state.instant call)
      (normalizeBounds call.bounds) call.overpassEndpoints = some (rows, true)) :
    getFeaturesInBounds config state call =
      ({ now := state.instant call
         rows := rows
         cache := Function.update state.cache (cacheKey (normalizeBounds call.bounds) call.types)
           (some ⟨loadFeatures rows (normalizeBounds call.bounds) call.types,
             RedisFallback.expiry (state.instant call) (some config.cacheTtlSeconds)⟩) },
        some (loadFeatures rows (normalizeBounds call.bounds) call.types)) := by
  simp only [getFeaturesInBounds, missed, refreshed, if_true]

/-- A query whose refresh fails changes nothing but the time. -/
theorem getFeaturesInBounds_failed
    (missed : readCache state (cacheKey (normalizeBounds call.bounds) call.types)
      (state.instant call) = none)
    (refused : refreshFeaturesIfStale config state.rows (state.instant call)
      (normalizeBounds call.bounds) call.overpassEndpoints = none) :
    getFeaturesInBounds config state call = ({ state with now := state.instant call }, none) := by
  simp only [getFeaturesInBounds, missed, refused]

/-- A query that is answered from the cache changes nothing but the time. -/
theorem getFeaturesInBounds_cached {cached : List RoadFeatureSummary}
    (hit : readCache state (cacheKey (normalizeBounds call.bounds) call.types)
      (state.instant call) = some cached) :
    getFeaturesInBounds config state call =
      ({ state with now := state.instant call }, some cached) := by
  simp only [getFeaturesInBounds, hit]

/-- Cached answers are complete. -/
theorem cached_complete (valid : Valid world state) {cached : List RoadFeatureSummary}
    (hit : readCache state (cacheKey (normalizeBounds call.bounds) call.types)
      (state.instant call) = some cached) : Complete world call.bounds call.types cached := by
  obtain ⟨entry, isEntry, alive⟩ := Option.bind_eq_some_iff.mp hit
  obtain rfl := Option.some.inj (Option.ite_none_right_eq_some.mp alive).2
  exact valid.cached call.bounds call.types entry isEntry

/-- A query is answered completely exactly when what it asks for is found. -/
theorem answered_iff_found (valid : Valid world state) (reachable : Reachable world call) :
    Answered world config state call ↔ Found world config state call := by
  rw [Answered, Found]
  cases hit : readCache state (cacheKey (normalizeBounds call.bounds) call.types)
      (state.instant call) with
  | some cached =>
    rw [getFeaturesInBounds_cached hit]
    exact iff_of_true ⟨cached, rfl, cached_complete valid hit⟩ (.inl rfl)
  | none =>
    simp only [Option.isSome_none, Bool.false_eq_true, false_or]
    by_cases room : ∀ element ∈ world.elements, Fetched world config state call element →
        ∀ feature ∈ normalizeOverpassElement element, feature.fits = true
    case pos =>
      obtain ⟨rows, refreshed, fromMap, known⟩ := refreshed_rows reachable valid.rows room
      rw [getFeaturesInBounds_loaded hit refreshed, and_iff_right room]
      simp only [Option.some.injEq, exists_eq_left']
      refine forall₃_congr fun element feature wanted => ?_
      rw [loaded_iff fromMap wanted, known element wanted.onMap feature wanted.isFeature]
    case neg =>
      refine iff_of_false ?_ fun both => room both.1
      push Not at room
      obtain ⟨element, onMap, isFetched, feature, isFeature, beyond⟩ := room
      have refused := refresh_fails reachable onMap isFetched isFeature
        (Bool.eq_false_iff.mpr beyond)
      rw [getFeaturesInBounds_failed hit refused]
      rintro ⟨answer, given, -⟩
      cases given

/-- A complete answer leaves only complete answers in the cache. -/
theorem valid_next (valid : Valid world state) (reachable : Reachable world call)
    (answered : Answered world config state call) : Valid world (state.next config call) := by
  rw [State.next]
  cases hit : readCache state (cacheKey (normalizeBounds call.bounds) call.types)
      (state.instant call) with
  | some cached =>
    rw [getFeaturesInBounds_cached hit]
    exact ⟨valid.rows, valid.cached⟩
  | none =>
    have found := (answered_iff_found valid reachable).mp answered
    rw [Found, hit] at found
    obtain ⟨room, -⟩ := found.resolve_left Bool.false_ne_true
    obtain ⟨rows, refreshed, fromMap, -⟩ := refreshed_rows reachable valid.rows room
    obtain ⟨answer, given, complete⟩ := answered
    rw [getFeaturesInBounds_loaded hit refreshed] at given ⊢
    cases given
    refine ⟨fromMap, fun bounds types cached isCached => ?_⟩
    dsimp only at isCached
    by_cases same : cacheKey (normalizeBounds bounds) types =
        cacheKey (normalizeBounds call.bounds) call.types
    · rw [same, Function.update_self] at isCached
      obtain rfl := Option.some.inj isCached
      exact complete_of_cacheKey same complete
    · rw [Function.update_of_ne same] at isCached
      exact valid.cached bounds types cached isCached

/-- The empty table is valid. -/
theorem valid_start (world : World) : Valid world start :=
  ⟨fun _ member => absurd member List.not_mem_nil,
    fun _ _ _ none => absurd none.symm (Option.some_ne_none _)⟩

/-- Every query of a run is answered completely exactly when in every query what it asks
for is found: in the cache, or in rows or on the map where the box is fetched and what is
fetched can be stored. -/
theorem complete_along_iff (world : World) (config : Config) (calls : List Call)
    (reachable : ∀ call ∈ calls, Reachable world call) :
    Along (total (State.next config)) (fun state call _ => Answered world config state call)
      start calls ↔
    Along (total (State.next config)) (fun state call _ => Found world config state call)
      start calls := by
  have guarded : Along (total (State.next config)) (fun _ call _ => Reachable world call) start calls :=
    along_of_forall_mem _ (fun call member _ _ => reachable call member) start
  refine along_iff_of_guarded (Valid world) ?_ ?_ (valid_start world) guarded
  · exact fun state call next valid reached _ => answered_iff_found valid reached
  · intro state call next valid reached answered moved
    obtain rfl := Option.some.inj moved
    exact valid_next valid reached answered

end Queries

section Samples

/-- An element without tags. -/
def untagged : Tags := ⟨none, none, none, none, none⟩

/-- Two schools half a degree apart. -/
def nearSchool : OverpassElement :=
  ⟨1, .node, some 0, some 0, none, { untagged with amenity := some "school" }⟩

/-- The school that is half a degree away. -/
def farSchool : OverpassElement :=
  ⟨2, .node, some 0, some (1 / 2), none, { untagged with amenity := some "school" }⟩

/-- A map with two schools. -/
def twoSchools : World where
  elements := [nearSchool, farSchool]
  distinct := by decide
  touches bounds element := (resolveElementLocation element).any fun location =>
    decide (bounds.Contains location.1 location.2)

/-- A server that answers what is on the map. -/
def mapServer : Endpoint := fun bounds =>
  some (twoSchools.elements.filter fun element => queried element && twoSchools.touches bounds element)

/-- The durations that the service starts with. -/
def sampleConfig : Config := ⟨604800, 2592000⟩

/-- A box around both schools. -/
def wide : Bounds := ⟨-1, -1, 1, 1⟩

/-- A box around the near school. -/
def narrow : Bounds := ⟨-1 / 10, -1 / 10, 1 / 10, 1 / 10⟩

/-- A query of schools, a second after the one before. -/
def schoolsIn (bounds : Bounds) : Call := ⟨1000, bounds, [.school], [mapServer]⟩

/-- The server answers these queries. -/
theorem schoolsIn_reachable (bounds : Bounds) : Reachable twoSchools (schoolsIn bounds) where
  reached := ⟨mapServer, List.mem_singleton_self _, rfl⟩
  complete := by
    intro endpoint listed elements answered element
    obtain rfl := List.mem_singleton.mp listed
    obtain rfl := Option.some.inj answered
    rw [List.mem_filter, Bool.and_eq_true]

/-- What is asked for in a box around both schools or around the near one. -/
theorem wanted_cases {bounds : Bounds} {element : OverpassElement} {feature : Feature}
    (wanted : Wanted twoSchools bounds [.school] element feature) :
    (element = nearSchool ∨ element = farSchool) ∧
      feature = ⟨element.id, .node, .school, none, none, 0, if element.id = 1 then 0 else 1 / 2⟩ := by
  have onMap := wanted.onMap
  have isFeature := wanted.isFeature
  simp only [twoSchools, List.mem_cons, List.not_mem_nil, or_false] at onMap
  refine ⟨onMap, ?_⟩
  rcases onMap with rfl | rfl
  · exact (Option.some.inj isFeature).symm
  · exact (Option.some.inj isFeature).symm

/-- After a wide box a narrow one is answered completely. -/
theorem complete_along_iff_wide_narrow :
    Along (total (State.next sampleConfig)) (fun state call _ =>
        Answered twoSchools sampleConfig state call)
      start [schoolsIn wide, schoolsIn narrow] := by
  refine (complete_along_iff twoSchools sampleConfig [schoolsIn wide, schoolsIn narrow] ?_).mpr ?_
  · intro call member
    rcases List.mem_pair.mp member with rfl | rfl
    · exact schoolsIn_reachable wide
    · exact schoolsIn_reachable narrow
  · rw [along_total_cons, along_total_cons]
    have room : ∀ element ∈ twoSchools.elements, ∀ feature ∈ normalizeOverpassElement element,
        feature.fits = true := by
      decide +kernel
    refine ⟨.inr ⟨fun element onMap _ => room element onMap, ?_⟩,
      .inr ⟨fun element onMap _ => room element onMap, ?_⟩, trivial⟩
    · intro element feature wanted
      obtain ⟨rfl | rfl, rfl⟩ := wanted_cases wanted
      · exact ⟨by decide +kernel, .inr (by decide +kernel)⟩
      · exact ⟨by decide +kernel, .inr (by decide +kernel)⟩
    · intro element feature wanted
      obtain ⟨rfl | rfl, rfl⟩ := wanted_cases wanted
      · exact ⟨by decide +kernel, .inl (by decide +kernel)⟩
      · exact absurd wanted.positioned (by decide +kernel)

/-- After a narrow box a wide one is not fetched, and lacks the far school. -/
theorem wide_incomplete : ¬ ∀ world config calls, (∀ call ∈ calls, Reachable world call) →
    Along (total (State.next config)) (fun state call _ => Answered world config state call)
      start calls := by
  intro everywhere
  have complete := everywhere twoSchools sampleConfig [schoolsIn narrow, schoolsIn wide] (by
    intro call member
    rcases List.mem_pair.mp member with rfl | rfl
    · exact schoolsIn_reachable narrow
    · exact schoolsIn_reachable wide)
  rw [along_total_cons, along_total_cons] at complete
  have wanted : Wanted twoSchools wide [.school] farSchool
      ⟨2, .node, .school, none, none, 0, 1 / 2⟩ :=
    ⟨List.mem_cons_of_mem _ (List.mem_singleton_self _), by decide +kernel, by decide,
      by decide +kernel⟩
  obtain ⟨answer, given, shown⟩ := complete.2.1
  have answered := shown _ _ wanted
  have lacking : (getFeaturesInBounds sampleConfig (State.next sampleConfig start (schoolsIn narrow))
      (schoolsIn wide)).2.all fun answer => decide ((⟨2, .node, .school, none, none, 0, 1 / 2⟩ :
        Feature).stored.summary ∉ answer) := by
    decide +kernel
  rw [given, Option.all_some] at lacking
  exact of_decide_eq_true lacking answered

end Samples

end EmotoFleet.RoadFeatures
