import EmotoFleet.Foundations.CanonicalJson

/-!
# Schemas of objects that drop what they do not know

A schema reads a JSON value and gives back the value that the program goes on
with. The schema of an object looks each of its properties up, fills in defaults
and drops every other entry. What is dropped is missing from the canonical text,
so the text of the parsed value is the text of the original exactly when nothing
was dropped, as long as no default was filled in.

Nothing here mentions a particular program.
-/

namespace EmotoFleet.ObjectSchemas

open CanonicalJson

variable {ν : Type}

abbrev Schema (ν : Type) := Json ν → Option (Json ν)

/-- What an object schema does about a property that is absent. -/
inductive Presence (ν : Type) where
  | required
  | optional
  | default (value : Json ν)

structure Property (ν : Type) where
  key : String
  presence : Presence ν
  schema : Schema ν

/-- A schema that passes the value on as it is. -/
def checked (check : Json ν → Bool) : Schema ν := fun value => if check value then some value else none

/-- The entries of the parsed object, in the order of the properties. -/
def parseProperties : List (Property ν) → Fields ν → Option (Fields ν)
  | [], _ => some []
  | property :: rest, fields =>
    match fields.lookup property.key, property.presence with
    | some value, _ => do
      let parsed ← property.schema value
      let others ← parseProperties rest fields
      some ((property.key, parsed) :: others)
    | none, .required => none
    | none, .optional => parseProperties rest fields
    | none, .default value => do
      let others ← parseProperties rest fields
      some ((property.key, value) :: others)

def object (properties : List (Property ν)) : Schema ν
  | .object fields => (parseProperties properties fields).map .object
  | _ => none

def keysOf (properties : List (Property ν)) : List String := properties.map Property.key

/-- The entries that the properties look up, as they are in the original. -/
def known (properties : List (Property ν)) (fields : Fields ν) : Fields ν :=
  properties.filterMap fun property => (fields.lookup property.key).map fun value =>
    (property.key, value)

/-- No default has to be filled in. -/
def DefaultsPresent (properties : List (Property ν)) (fields : Fields ν) : Prop :=
  ∀ property ∈ properties, ∀ value, property.presence = .default value →
    fields.lookup property.key ≠ none

/-- Nothing is dropped: all keys are known and the values of the properties are whole
themselves. -/
def WholeFields (whole : String → Json ν → Prop) (properties : List (Property ν))
    (fields : Fields ν) : Prop :=
  (∀ field ∈ fields, field.1 ∈ keysOf properties) ∧
    ∀ property ∈ properties, ∀ value, fields.lookup property.key = some value →
      whole property.key value

/-- A schema that keeps whole values as they are, up to the order of keys, and
shortens the text of all others. -/
structure Faithful (conventions : Conventions ν) (schema : Schema ν) (whole : Json ν → Prop) :
    Prop where
  exact : ∀ value parsed, Distinct value → schema value = some parsed → whole value →
    sortObjectKeysDeep conventions parsed = sortObjectKeysDeep conventions value
  shorter : ∀ value parsed, Distinct value → schema value = some parsed → ¬ whole value →
    (canonicalJSONString conventions parsed).length <
      (canonicalJSONString conventions value).length

theorem checked_faithful (conventions : Conventions ν) (check : Json ν → Bool) :
    Faithful conventions (checked check) fun _ => True where
  exact := by
    intro value parsed _ passed _
    by_cases holds : check value = true
    · rw [checked, if_pos holds, Option.some.injEq] at passed
      rw [passed]
    · rw [checked, if_neg holds] at passed
      cases passed
  shorter := fun _ _ _ _ broken => absurd trivial broken

section Parsing

variable {properties : List (Property ν)} {fields parsed : Fields ν}

theorem lookup_eq_some_iff (distinct : (fields.map Prod.fst).Nodup) (key : String) (value : Json ν) :
    fields.lookup key = some value ↔ (key, value) ∈ fields := by
  induction fields with
  | nil => simp
  | cons field rest inductionHypothesis =>
    obtain ⟨firstKey, firstValue⟩ := field
    rw [List.map_cons, List.nodup_cons] at distinct
    rw [List.lookup_cons, List.mem_cons, Prod.mk.injEq]
    by_cases same : key = firstKey
    · subst same
      have absent : (key, value) ∉ rest := fun member =>
        distinct.1 (List.mem_map.mpr ⟨(key, value), member, rfl⟩)
      simp [absent, eq_comm]
    · have different : (key == firstKey) = false := by simpa using same
      simp [different, same, inductionHypothesis distinct.2]

/-- Parsing reads the values of the properties only. -/
theorem parseProperties_congr {left right : Fields ν}
    (same : ∀ property ∈ properties, left.lookup property.key = right.lookup property.key) :
    parseProperties properties left = parseProperties properties right := by
  induction properties with
  | nil => rfl
  | cons property rest inductionHypothesis =>
    have sameRest := inductionHypothesis fun later member =>
      same later (List.mem_cons_of_mem _ member)
    rw [parseProperties, parseProperties, same property (List.mem_cons_self ..), sameRest]

theorem parseProperties_append (later : List (Property ν)) :
    parseProperties (properties ++ later) fields =
      (parseProperties properties fields).bind fun before =>
        (parseProperties later fields).map fun after => before ++ after := by
  induction properties with
  | nil => simp [parseProperties]
  | cons property rest inductionHypothesis =>
    rw [List.cons_append, parseProperties, parseProperties, inductionHypothesis]
    cases fields.lookup property.key with
    | some value =>
      cases passed : property.schema value with
      | none => simp [passed]
      | some parsedValue =>
        cases parseProperties rest fields <;> cases parseProperties later fields <;> simp [passed]
    | none =>
      cases property.presence with
      | required => rfl
      | optional => rfl
      | default value =>
        cases parseProperties rest fields <;> cases parseProperties later fields <;> simp

/-- A parsed object has no other keys than those of the properties. -/
theorem parsed_keys (parses : parseProperties properties fields = some parsed) :
    ∀ field ∈ parsed, field.1 ∈ keysOf properties := by
  induction properties generalizing parsed with
  | nil =>
    rw [parseProperties, Option.some.injEq] at parses
    subst parses
    exact fun field member => absurd member List.not_mem_nil
  | cons property rest inductionHypothesis =>
    have extend : ∀ {value : Json ν} {others : Fields ν}, parseProperties rest fields = some others →
        ∀ field ∈ (property.key, value) :: others, field.1 ∈ keysOf (property :: rest) := by
      intro value others restParses field member
      rcases List.mem_cons.mp member with same | inRest
      · rw [same]
        exact List.mem_cons_self ..
      · exact List.mem_cons_of_mem _ (inductionHypothesis restParses field inRest)
    cases found : fields.lookup property.key with
    | some value =>
      simp only [parseProperties, found, Option.bind_eq_bind, Option.bind_eq_some_iff,
        Option.some.injEq] at parses
      obtain ⟨_, _, others, restParses, rfl⟩ := parses
      exact extend restParses
    | none =>
      cases presence : property.presence with
      | required => simp [parseProperties, found, presence] at parses
      | optional =>
        simp only [parseProperties, found, presence] at parses
        exact fun field member => List.mem_cons_of_mem _ (inductionHypothesis parses field member)
      | default value =>
        simp only [parseProperties, found, presence, Option.bind_eq_bind, Option.bind_eq_some_iff,
          Option.some.injEq] at parses
        obtain ⟨others, restParses, rfl⟩ := parses
        exact extend restParses

/-- Each parsed entry comes from a looked-up entry with the same key. -/
theorem parsed_known (present : DefaultsPresent properties fields)
    (parses : parseProperties properties fields = some parsed) :
    List.Forall₂ (fun after before : String × Json ν => after.1 = before.1 ∧
      ∃ property ∈ properties, property.key = before.1 ∧
        fields.lookup property.key = some before.2 ∧ property.schema before.2 = some after.2)
      parsed (known properties fields) := by
  induction properties generalizing parsed with
  | nil =>
    rw [parseProperties, Option.some.injEq] at parses
    subst parses
    exact List.Forall₂.nil
  | cons property rest inductionHypothesis =>
    have restPresent : DefaultsPresent rest fields := fun later member =>
      present later (List.mem_cons_of_mem _ member)
    have weaken : ∀ {after before : Fields ν},
        List.Forall₂ (fun after before : String × Json ν => after.1 = before.1 ∧
          ∃ later ∈ rest, later.key = before.1 ∧ fields.lookup later.key = some before.2 ∧
            later.schema before.2 = some after.2) after before →
        List.Forall₂ (fun after before : String × Json ν => after.1 = before.1 ∧
          ∃ later ∈ property :: rest, later.key = before.1 ∧
            fields.lookup later.key = some before.2 ∧ later.schema before.2 = some after.2)
          after before := by
      intro after before matched
      refine matched.imp ?_
      rintro first second ⟨sameKey, later, member, found⟩
      exact ⟨sameKey, later, List.mem_cons_of_mem _ member, found⟩
    cases found : fields.lookup property.key with
    | some value =>
      simp only [parseProperties, found, Option.bind_eq_bind, Option.bind_eq_some_iff,
        Option.some.injEq] at parses
      obtain ⟨after, passed, others, restParses, rfl⟩ := parses
      rw [known, List.filterMap_cons, found]
      exact List.Forall₂.cons
        ⟨rfl, property, List.mem_cons_self .., rfl, found, passed⟩
        (weaken (inductionHypothesis restPresent restParses))
    | none =>
      have skipped : known (property :: rest) fields = known rest fields := by
        simp [known, found]
      rw [skipped]
      cases presence : property.presence with
      | required => simp [parseProperties, found, presence] at parses
      | optional =>
        simp only [parseProperties, found, presence] at parses
        exact weaken (inductionHypothesis restPresent parses)
      | default value =>
        exact absurd found (present property (List.mem_cons_self ..) value presence)

theorem mem_known_iff (distinct : (fields.map Prod.fst).Nodup) (field : String × Json ν) :
    field ∈ known properties fields ↔ field ∈ fields ∧ field.1 ∈ keysOf properties := by
  simp only [known, List.mem_filterMap, Option.map_eq_some_iff, keysOf, List.mem_map]
  constructor
  · rintro ⟨property, member, value, found, rfl⟩
    exact ⟨(lookup_eq_some_iff distinct _ _).mp found, property, member, rfl⟩
  · rintro ⟨member, property, inProperties, sameKey⟩
    refine ⟨property, inProperties, field.2, ?_, ?_⟩
    · rw [lookup_eq_some_iff distinct, sameKey]
      exact member
    · rw [sameKey]

/-- The looked-up entries have the keys of properties, each at most once. -/
theorem known_keys (properties : List (Property ν)) (fields : Fields ν) :
    ((known properties fields).map Prod.fst).Sublist (keysOf properties) := by
  induction properties with
  | nil => exact List.Sublist.refl _
  | cons property rest inductionHypothesis =>
    cases found : fields.lookup property.key with
    | none =>
      have skipped : known (property :: rest) fields = known rest fields := by
        simp [known, found]
      rw [skipped]
      exact inductionHypothesis.cons _
    | some value =>
      have kept : known (property :: rest) fields = (property.key, value) :: known rest fields := by
        simp [known, found]
      rw [kept]
      exact inductionHypothesis.cons_cons _

/-- The looked-up entries are the known entries of the object, reordered. -/
theorem known_perm (keys : (keysOf properties).Nodup) (distinct : (fields.map Prod.fst).Nodup) :
    (known properties fields).Perm
      (fields.filter fun field => decide (field.1 ∈ keysOf properties)) := by
  have knownNodup : (known properties fields).Nodup :=
    List.Nodup.of_map Prod.fst (keys.sublist (known_keys properties fields))
  have filterNodup := (List.Nodup.of_map Prod.fst distinct).filter
    fun field => decide (field.1 ∈ keysOf properties)
  rw [List.perm_ext_iff_of_nodup knownNodup filterNodup]
  intro field
  rw [mem_known_iff distinct, List.mem_filter, decide_eq_true_eq]

end Parsing

section Texts

variable {conventions : Conventions ν} {whole : String → Json ν → Prop}
  {properties : List (Property ν)} {fields parsed : Fields ν}

/-- Entries that are parsed one by one keep their sorted values, or together they
become shorter. -/
theorem parsed_entries
    (lawful : ∀ property ∈ properties,
      Faithful conventions property.schema (whole property.key))
    (each : ∀ field ∈ fields, Distinct field.2) (distinct : (fields.map Prod.fst).Nodup)
    {after before : Fields ν}
    (matched : List.Forall₂ (fun after before : String × Json ν => after.1 = before.1 ∧
      ∃ property ∈ properties, property.key = before.1 ∧
        fields.lookup property.key = some before.2 ∧ property.schema before.2 = some after.2)
      after before) :
    (sortFields conventions after = sortFields conventions before ∧
        weight conventions after = weight conventions before ∧
        ∀ field ∈ before, whole field.1 field.2) ∨
      (weight conventions after < weight conventions before ∧
        ∃ field ∈ before, ¬ whole field.1 field.2) := by
  induction matched with
  | nil => exact Or.inl ⟨rfl, rfl, fun field member => absurd member (List.not_mem_nil)⟩
  | @cons first second firstRest secondRest entry _ inductionHypothesis =>
    obtain ⟨sameKey, property, inProperties, propertyKey, found, passed⟩ := entry
    have law := lawful property inProperties
    have original : (property.key, second.2) ∈ fields :=
      (lookup_eq_some_iff distinct property.key second.2).mp found
    have originalDistinct := each _ original
    rw [propertyKey] at law
    by_cases intact : whole second.1 second.2
    · have sameValue := law.exact _ _ originalDistinct passed intact
      have sameText : entryText conventions first = entryText conventions second := by
        rw [entryText, entryText, canonicalJSONString, canonicalJSONString, sameKey, sameValue]
      rcases inductionHypothesis with ⟨sameRest, sameWeight, wholeRest⟩ | ⟨lighter, broken⟩
      · refine Or.inl ⟨?_, ?_, ?_⟩
        · rw [sortFields_eq_map] at sameRest ⊢
          rw [sortFields_eq_map, List.map_cons, List.map_cons, sameKey, sameValue, sameRest,
            sortFields_eq_map]
        · rw [weight_cons, weight_cons, sameText, sameWeight]
        · intro field member
          rcases List.mem_cons.mp member with same | inRest
          · rw [same]
            exact intact
          · exact wholeRest field inRest
      · obtain ⟨field, member, notWhole⟩ := broken
        refine Or.inr ⟨?_, field, List.mem_cons_of_mem _ member, notWhole⟩
        rw [weight_cons, weight_cons, sameText]
        omega
    · have shorterValue := law.shorter second.2 first.2 originalDistinct passed intact
      have shorterText :
          (entryText conventions first).length < (entryText conventions second).length := by
        simp only [entryText, sameKey, List.length_append, List.length_cons]
        omega
      refine Or.inr ⟨?_, second, List.mem_cons_self .., intact⟩
      rw [weight_cons, weight_cons]
      rcases inductionHypothesis with ⟨_, sameWeight, _⟩ | ⟨lighter, _⟩ <;> omega

variable (conventions) in
/-- The room of an object splits into what the properties look up and the rest. -/
theorem weight_known (keys : (keysOf properties).Nodup) (distinct : (fields.map Prod.fst).Nodup) :
    weight conventions fields = weight conventions (known properties fields) +
      weight conventions (fields.filter fun field => !decide (field.1 ∈ keysOf properties)) := by
  rw [weight_perm conventions (known_perm keys distinct), ← weight_append]
  exact (weight_perm conventions (List.filter_append_perm _ fields)).symm

/-- Without an absent default, a parsed object is the original up to the order of keys
when nothing was dropped, and its text is shorter otherwise. -/
theorem object_faithful
    (lawful : ∀ property ∈ properties,
      Faithful conventions property.schema (whole property.key))
    (collation : Collation conventions (keysOf properties)) (keys : (keysOf properties).Nodup)
    (each : ∀ field ∈ fields, Distinct field.2) (distinct : (fields.map Prod.fst).Nodup)
    (present : DefaultsPresent properties fields)
    (parses : parseProperties properties fields = some parsed) :
    (WholeFields whole properties fields →
        sortObjectKeysDeep conventions (.object parsed) =
          sortObjectKeysDeep conventions (.object fields)) ∧
      (¬ WholeFields whole properties fields →
        weight conventions parsed < weight conventions fields) := by
  have matched := parsed_known present parses
  have entries := parsed_entries lawful each distinct matched
  have split := weight_known conventions keys distinct
  have wholeKnown : (∀ field ∈ known properties fields, whole field.1 field.2) ↔
      ∀ property ∈ properties, ∀ value, fields.lookup property.key = some value →
        whole property.key value := by
    constructor
    · intro intact property member value found
      exact intact (property.key, value) (List.mem_filterMap.mpr ⟨property, member, by simp [found]⟩)
    · intro intact field member
      obtain ⟨property, inProperties, looked⟩ := List.mem_filterMap.mp member
      obtain ⟨value, found, rfl⟩ := Option.map_eq_some_iff.mp looked
      exact intact property inProperties value found
  constructor
  · rintro ⟨allKnown, intact⟩
    have sameEntries : sortFields conventions parsed = sortFields conventions (known properties fields) := by
      rcases entries with ⟨same, _⟩ | ⟨_, field, member, broken⟩
      · exact same
      · exact absurd (wholeKnown.mpr intact field member) broken
    have sameKeys : parsed.map Prod.fst = (known properties fields).map Prod.fst := by
      have mapped := congrArg (List.map Prod.fst) sameEntries
      rw [sortFields_eq_map, sortFields_eq_map, List.map_map, List.map_map] at mapped
      exact mapped
    have reordered : (known properties fields).Perm fields := by
      have nothingElse : fields.filter (fun field => decide (field.1 ∈ keysOf properties)) = fields := by
        rw [List.filter_eq_self]
        exact fun field member => decide_eq_true (allKnown field member)
      have perm := known_perm keys distinct
      rwa [nothingElse] at perm
    refine sortObjectKeysDeep_perm collation ?_ ?_ ?_
    · intro field member
      have inKnown : field.1 ∈ (known properties fields).map Prod.fst :=
        sameKeys ▸ List.mem_map_of_mem member
      exact (known_keys properties fields).subset inKnown
    · rw [sameKeys]
      exact keys.sublist (known_keys properties fields)
    · rw [sameEntries, sortFields_eq_map, sortFields_eq_map]
      exact reordered.map _
  · intro broken
    rcases entries with ⟨_, sameWeight, wholeEntries⟩ | ⟨lighter, _⟩
    · have unknown : fields.filter (fun field => !decide (field.1 ∈ keysOf properties)) ≠ [] := by
        intro none
        refine broken ⟨?_, wholeKnown.mp wholeEntries⟩
        intro field member
        have notDropped := List.filter_eq_nil_iff.mp none field member
        simpa using notDropped
      have dropped := four_le_weight conventions unknown
      omega
    · omega

end Texts

end EmotoFleet.ObjectSchemas
