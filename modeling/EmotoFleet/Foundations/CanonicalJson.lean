import Mathlib.Algebra.BigOperators.Group.List.Basic
import Mathlib.Algebra.GroupWithZero.Nat
import Mathlib.Data.List.Perm.Lattice
import Mathlib.Data.List.Sort
import Mathlib.Tactic.SplitIfs

/-!
# Canonical texts of JSON values

A JSON value is written without blanks after the keys of all its objects have been
sorted. Two values have the same text when one comes from the other by
reordering keys; an object that has lost an entry has a shorter text. The texts of
numbers and the order of the keys are conventions that the values are written
under.

Nothing here mentions a particular program.
-/

namespace EmotoFleet.CanonicalJson

/-- JSON values with numbers of a given type. An object is the list of its entries in
the order in which they were added. -/
inductive Json (ν : Type) where
  | null
  | bool (value : Bool)
  | number (value : ν)
  | string (value : String)
  | array (items : List (Json ν))
  | object (fields : List (String × Json ν))

/-- The fields of an object. -/
abbrev Fields (ν : Type) := List (String × Json ν)

/-- How numbers are written and how keys are compared. -/
structure Conventions (ν : Type) where
  numberText : ν → List Char
  compareKeys : String → String → Ordering

variable {ν : Type}

/-- The digit of a value below sixteen. -/
def hexDigit (value : Nat) : Char := if value < 10 then Char.ofNat (48 + value) else Char.ofNat (87 + value)

/-- A character inside a quoted text. -/
def escape (letter : Char) : List Char :=
  if letter = '"' then ['\\', '"']
  else if letter = '\\' then ['\\', '\\']
  else if letter = '\n' then ['\\', 'n']
  else if letter = '\r' then ['\\', 'r']
  else if letter = '\t' then ['\\', 't']
  else if letter.toNat = 8 then ['\\', 'b']
  else if letter.toNat = 12 then ['\\', 'f']
  else if letter.toNat < 32 then
    ['\\', 'u', '0', '0', hexDigit (letter.toNat / 16), hexDigit (letter.toNat % 16)]
  else [letter]

/-- A text between quotation marks. -/
def quote (text : String) : List Char := '"' :: (text.toList.flatMap escape ++ ['"'])

/-- Parts separated by commas. -/
def commaSeparated : List (List Char) → List Char
  | [] => []
  | [part] => part
  | part :: rest => part ++ (',' :: commaSeparated rest)

/-- The number that a key spells when it is an array index. -/
def arrayIndex (key : String) : Option Nat :=
  let value := key.toList.foldl (fun number digit => 10 * number + (digit.toNat - 48)) 0
  if key.toList ≠ [] ∧ key.toList.all Char.isDigit ∧ (key.toList.head? = some '0' → key.toList = ['0']) ∧
      value < 2 ^ 32 - 1 then some value
  else none

/-- The order in which an object lists its entries: array indices by value, then
the other keys in the order in which they were added. -/
def ownOrder (fields : Fields ν) : Fields ν :=
  (fields.filter fun field => (arrayIndex field.1).isSome).insertionSort
      (fun left right => (arrayIndex left.1).getD 0 ≤ (arrayIndex right.1).getD 0) ++
    fields.filter fun field => (arrayIndex field.1).isNone

variable (conventions : Conventions ν)

/-- The order that a comparison of keys gives to the entries of an object. -/
def KeyLE (left right : String × Json ν) : Prop :=
  conventions.compareKeys left.1 right.1 ≠ .gt

instance : DecidableRel (KeyLE conventions) := fun _ _ => inferInstanceAs (Decidable (_ ≠ _))

mutual

/-- The value with the keys of all its objects in order. -/
def sortObjectKeysDeep : Json ν → Json ν
  | .array items => .array (sortItems items)
  | .object fields => .object (ownOrder ((sortFields fields).insertionSort (KeyLE conventions)))
  | .null => .null
  | .bool value => .bool value
  | .number value => .number value
  | .string value => .string value

/-- The items of an array, each with its keys sorted. -/
def sortItems : List (Json ν) → List (Json ν)
  | [] => []
  | item :: rest => sortObjectKeysDeep item :: sortItems rest

/-- The fields of an object, each value with its keys sorted. -/
def sortFields : Fields ν → Fields ν
  | [] => []
  | (key, value) :: rest => (key, sortObjectKeysDeep value) :: sortFields rest

end

mutual

/-- The text of a value, without blanks. -/
def stringify : Json ν → List Char
  | .null => ['n', 'u', 'l', 'l']
  | .bool true => ['t', 'r', 'u', 'e']
  | .bool false => ['f', 'a', 'l', 's', 'e']
  | .number value => conventions.numberText value
  | .string value => quote value
  | .array items => '[' :: (commaSeparated (itemTexts items) ++ [']'])
  | .object fields => '{' :: (commaSeparated (fieldTexts fields) ++ ['}'])

/-- The texts of the items. -/
def itemTexts : List (Json ν) → List (List Char)
  | [] => []
  | item :: rest => stringify item :: itemTexts rest

/-- The texts of the fields. -/
def fieldTexts : Fields ν → List (List Char)
  | [] => []
  | (key, value) :: rest => (quote key ++ (':' :: stringify value)) :: fieldTexts rest

end

/-- The text that is signed: the keys in order, no blanks. -/
def canonicalJSONString (value : Json ν) : List Char :=
  stringify conventions (sortObjectKeysDeep conventions value)

/-- No object of the value has two entries with one key. -/
inductive Distinct : Json ν → Prop
  | null : Distinct .null
  | bool (value : Bool) : Distinct (.bool value)
  | number (value : ν) : Distinct (.number value)
  | string (value : String) : Distinct (.string value)
  | array (items : List (Json ν)) (each : ∀ item ∈ items, Distinct item) : Distinct (.array items)
  | object (fields : Fields ν) (keys : (fields.map Prod.fst).Nodup)
      (each : ∀ field ∈ fields, Distinct field.2) : Distinct (.object fields)

/-- Each value is sorted by itself. -/
theorem sortFields_eq_map (fields : Fields ν) :
    sortFields conventions fields =
      fields.map fun field => (field.1, sortObjectKeysDeep conventions field.2) := by
  induction fields with
  | nil => rfl
  | cons field rest inductionHypothesis =>
    obtain ⟨key, value⟩ := field
    rw [sortFields, inductionHypothesis, List.map_cons]

/-- Each field has its own text. -/
theorem fieldTexts_eq_map (fields : Fields ν) :
    fieldTexts conventions fields =
      fields.map fun field => quote field.1 ++ (':' :: stringify conventions field.2) := by
  induction fields with
  | nil => rfl
  | cons field rest inductionHypothesis =>
    obtain ⟨key, value⟩ := field
    rw [fieldTexts, inductionHypothesis, List.map_cons]

/-- Listing an object's own entries only reorders them. -/
theorem ownOrder_perm (fields : Fields ν) : (ownOrder fields).Perm fields := by
  have sorted := (List.perm_insertionSort
    (fun left right : String × Json ν =>
      (arrayIndex left.1).getD 0 ≤ (arrayIndex right.1).getD 0)
    (fields.filter fun field => (arrayIndex field.1).isSome)).append_right
    (fields.filter fun field => (arrayIndex field.1).isNone)
  refine sorted.trans ?_
  have split := List.filter_append_perm (fun field : String × Json ν => (arrayIndex field.1).isSome) fields
  simpa using split

/-- Without array indices the entries stay in their order. -/
theorem ownOrder_eq_self {fields : Fields ν}
    (named : ∀ field ∈ fields, arrayIndex field.1 = none) : ownOrder fields = fields := by
  have noIndex : fields.filter (fun field => (arrayIndex field.1).isSome) = [] := by
    rw [List.filter_eq_nil_iff]
    intro field member
    simp [named field member]
  have all : fields.filter (fun field => (arrayIndex field.1).isNone) = fields := by
    rw [List.filter_eq_self]
    intro field member
    simp [named field member]
  rw [ownOrder, noIndex, all, List.insertionSort_nil, List.nil_append]

/-- The text of an entry of an object. -/
def entryText (field : String × Json ν) : List Char :=
  quote field.1 ++ (':' :: canonicalJSONString conventions field.2)

/-- The room that the entries of an object take, each with its comma. -/
def weight (fields : Fields ν) : Nat :=
  (fields.map fun field => (entryText conventions field).length + 1).sum

/-- The text of an object lists the texts of its entries in some order. -/
theorem canonical_object (fields : Fields ν) :
    ∃ texts, texts.Perm (fields.map (entryText conventions)) ∧
      canonicalJSONString conventions (.object fields) =
        '{' :: (commaSeparated texts ++ ['}']) := by
  have reordered : (ownOrder ((sortFields conventions fields).insertionSort (KeyLE conventions))).Perm
      (fields.map fun field => (field.1, sortObjectKeysDeep conventions field.2)) := by
    rw [← sortFields_eq_map]
    exact (ownOrder_perm _).trans (List.perm_insertionSort _ _)
  have texts := reordered.map fun field => quote field.1 ++ (':' :: stringify conventions field.2)
  rw [List.map_map] at texts
  refine ⟨_, texts, ?_⟩
  rw [canonicalJSONString, sortObjectKeysDeep, stringify, fieldTexts_eq_map]

/-- Commas stand between the parts. -/
theorem length_commaSeparated {parts : List (List Char)} (some : parts ≠ []) :
    (commaSeparated parts).length + 1 = (parts.map fun part => part.length + 1).sum := by
  induction parts with
  | nil => exact absurd rfl some
  | cons part rest inductionHypothesis =>
    cases rest with
    | nil => simp [commaSeparated]
    | cons next others =>
      have restLength := inductionHypothesis (List.cons_ne_nil next others)
      simp only [commaSeparated, List.length_append, List.length_cons, List.map_cons,
        List.sum_cons] at restLength ⊢
      omega

/-- No fields weigh nothing. -/
@[simp] theorem weight_nil : weight conventions [] = 0 := rfl

/-- A field adds its text and a comma. -/
theorem weight_cons (field : String × Json ν) (rest : Fields ν) :
    weight conventions (field :: rest) =
      (entryText conventions field).length + 1 + weight conventions rest := by
  simp [weight]

/-- Fields weigh what their parts weigh. -/
theorem weight_append (left right : Fields ν) :
    weight conventions (left ++ right) = weight conventions left + weight conventions right := by
  simp [weight]

/-- The order of fields has no weight. -/
theorem weight_perm {left right : Fields ν} (perm : left.Perm right) :
    weight conventions left = weight conventions right :=
  (perm.map _).sum_eq

/-- Every entry has two quotation marks, a colon and its comma. -/
theorem four_le_weight {fields : Fields ν} (some : fields ≠ []) : 4 ≤ weight conventions fields := by
  obtain ⟨field, rest, rfl⟩ := List.exists_cons_of_ne_nil some
  rw [weight_cons]
  simp only [entryText, quote, List.length_append, List.length_cons, List.length_nil]
  omega

/-- An object takes as much room as its entries, and one more place. -/
theorem length_canonical_object (fields : Fields ν) :
    (canonicalJSONString conventions (.object fields)).length =
      1 + max 1 (weight conventions fields) := by
  obtain ⟨texts, perm, written⟩ := canonical_object conventions fields
  have room : weight conventions fields = (texts.map fun text => text.length + 1).sum := by
    rw [(perm.map fun text => text.length + 1).sum_eq, List.map_map]
    exact rfl
  by_cases none : fields = []
  · subst none
    have noTexts : texts = [] := by simpa using perm
    simp [written, noTexts, commaSeparated]
  · have someTexts : texts ≠ [] := by
      intro noTexts
      rw [noTexts, List.nil_perm, List.map_eq_nil_iff] at perm
      exact none perm
    have filled := four_le_weight conventions none
    have total := length_commaSeparated someTexts
    rw [← room] at total
    rw [written]
    simp only [List.length_cons, List.length_append, List.length_nil]
    omega

/-- Lighter fields have a shorter text. -/
theorem length_canonical_lt {left right : Fields ν}
    (lighter : weight conventions left < weight conventions right) :
    (canonicalJSONString conventions (.object left)).length <
      (canonicalJSONString conventions (.object right)).length := by
  have some : right ≠ [] := by
    rintro rfl
    exact Nat.not_lt_zero _ lighter
  have filled := four_le_weight conventions some
  rw [length_canonical_object, length_canonical_object]
  omega

/-- The comparison orders all keys, and the given ones strictly. -/
structure Collation (keys : List String) : Prop where
  total : ∀ left right, conventions.compareKeys left right ≠ .gt ∨
    conventions.compareKeys right left ≠ .gt
  trans : ∀ left middle right, conventions.compareKeys left middle ≠ .gt →
    conventions.compareKeys middle right ≠ .gt → conventions.compareKeys left right ≠ .gt
  strict : ∀ left ∈ keys, ∀ right ∈ keys, conventions.compareKeys left right ≠ .gt →
    conventions.compareKeys right left ≠ .gt → left = right

variable {conventions}

/-- Under a collation, objects with the same entries in different orders become the
same sorted object. -/
theorem sortObjectKeysDeep_perm {keys : List String} (collation : Collation conventions keys)
    {left right : Fields ν} (known : ∀ field ∈ left, field.1 ∈ keys)
    (distinct : (left.map Prod.fst).Nodup)
    (perm : (sortFields conventions left).Perm (sortFields conventions right)) :
    sortObjectKeysDeep conventions (.object left) = sortObjectKeysDeep conventions (.object right) := by
  have total : Std.Total (@KeyLE ν conventions) :=
    ⟨fun first second => collation.total first.1 second.1⟩
  have trans : IsTrans (String × Json ν) (KeyLE conventions) :=
    ⟨fun first second third => collation.trans first.1 second.1 third.1⟩
  have keysOf : (sortFields conventions left).map Prod.fst = left.map Prod.fst := by
    simp [sortFields_eq_map]
  have sameSorted : (sortFields conventions left).insertionSort (KeyLE conventions) =
      (sortFields conventions right).insertionSort (KeyLE conventions) := by
    refine List.Perm.eq_of_pairwise ?_ (List.pairwise_insertionSort _ _)
      (List.pairwise_insertionSort _ _)
      ((List.perm_insertionSort _ _).trans (perm.trans (List.perm_insertionSort _ _).symm))
    intro first second inLeft inRight firstLE secondLE
    have firstMember := (List.perm_insertionSort _ _).mem_iff.mp inLeft
    have secondMember := perm.mem_iff.mpr ((List.perm_insertionSort _ _).mem_iff.mp inRight)
    have keyOf : ∀ field ∈ sortFields conventions left, field.1 ∈ keys := by
      intro field member
      have inKeys : field.1 ∈ left.map Prod.fst := keysOf ▸ List.mem_map_of_mem member
      obtain ⟨original, originalMember, same⟩ := List.mem_map.mp inKeys
      exact same ▸ known original originalMember
    have sameKey := collation.strict first.1 (keyOf first firstMember) second.1
      (keyOf second secondMember) firstLE secondLE
    rw [← keysOf] at distinct
    exact List.inj_on_of_nodup_map distinct firstMember secondMember sameKey
  rw [sortObjectKeysDeep, sortObjectKeysDeep, sameSorted]

/-- An order of keys is one of fewer keys. -/
theorem collation_mono {keys fewer : List String} (collation : Collation conventions keys)
    (included : ∀ key ∈ fewer, key ∈ keys) : Collation conventions fewer where
  total := collation.total
  trans := collation.trans
  strict := fun left inLeft right inRight =>
    collation.strict left (included left inLeft) right (included right inRight)

/-- A character is written as itself or begins with a backslash. -/
def Written (letter : Char) (text : List Char) : Prop :=
  (text = [letter] ∧ letter ≠ '"') ∨ ∃ rest, text = '\\' :: rest

/-- A choice writes what its branches write. -/
theorem written_ite {letter : Char} {condition : Prop} [Decidable condition] {rest others : List Char}
    (otherwise : Written letter others) :
    Written letter (if condition then '\\' :: rest else others) := by
  by_cases holds : condition
  · exact .inr ⟨rest, if_pos holds⟩
  · rwa [if_neg holds]

/-- How each letter is written. -/
theorem escape_cases (letter : Char) : Written letter (escape letter) := by
  rw [escape]
  by_cases quotation : letter = '"'
  · exact .inr ⟨_, if_pos quotation⟩
  · rw [if_neg quotation]
    iterate 7 apply written_ite
    exact .inl ⟨rfl, quotation⟩

/-- A key of plain letters can be read off the beginning of a quoted text. -/
theorem quote_prefix {plain : List Char} (asItself : ∀ letter ∈ plain, letter ≠ '"' ∧ letter ≠ '\\')
    {key rest plainRest : List Char}
    (same : key.flatMap escape ++ ('"' :: rest) = plain ++ ('"' :: plainRest)) : key = plain := by
  induction plain generalizing key with
  | nil =>
    cases key with
    | nil => rfl
    | cons letter others =>
      rcases escape_cases letter with ⟨itself, other⟩ | ⟨tail, escaped⟩
      · simp [itself, other] at same
      · simp [escaped] at same
  | cons first others inductionHypothesis =>
    have ⟨notQuotation, notBackslash⟩ := asItself first (List.mem_cons_self ..)
    cases key with
    | nil => simp [notQuotation.symm] at same
    | cons letter keyRest =>
      rcases escape_cases letter with ⟨itself, _⟩ | ⟨tail, escaped⟩
      · simp only [List.flatMap_cons, itself, List.cons_append, List.nil_append,
          List.cons.injEq] at same
        rw [same.1, inductionHypothesis (fun later member =>
          asItself later (List.mem_cons_of_mem _ member)) same.2]
      · simp [escaped, notBackslash.symm] at same

/-- The first part comes first. -/
theorem commaSeparated_cons (first : List Char) (others : List (List Char)) :
    ∃ rest, commaSeparated (first :: others) = first ++ rest := by
  cases others with
  | nil => exact ⟨[], by simp [commaSeparated]⟩
  | cons next later => exact ⟨',' :: commaSeparated (next :: later), rfl⟩

/-- The text of an object begins with the key of one of its entries. -/
theorem canonical_object_first (conventions : Conventions ν) {fields : Fields ν} (some : fields ≠ []) :
    ∃ field ∈ fields, ∃ rest,
      canonicalJSONString conventions (.object fields) = '{' :: (quote field.1 ++ rest) := by
  obtain ⟨texts, perm, written⟩ := canonical_object conventions fields
  cases texts with
  | nil =>
    rw [List.nil_perm, List.map_eq_nil_iff] at perm
    exact absurd perm some
  | cons text others =>
    obtain ⟨field, member, same⟩ := List.mem_map.mp (perm.mem_iff.mp (List.mem_cons_self ..))
    obtain ⟨rest, begins⟩ := commaSeparated_cons text others
    refine ⟨field, member, ':' :: (canonicalJSONString conventions field.2 ++ (rest ++ ['}'])), ?_⟩
    rw [written, begins, ← same, entryText]
    simp

/-- An entry with the least key stands first. -/
theorem canonical_object_least {keys : List String} (collation : Collation conventions keys)
    (named : ∀ key ∈ keys, arrayIndex key = none) {fields : Fields ν}
    (known : ∀ field ∈ fields, field.1 ∈ keys) {least : String} (present : least ∈ fields.map Prod.fst)
    (smallest : ∀ key ∈ keys, conventions.compareKeys least key ≠ .gt) :
    ∃ rest, canonicalJSONString conventions (.object fields) = '{' :: (quote least ++ rest) := by
  have total : Std.Total (@KeyLE ν conventions) :=
    ⟨fun first second => collation.total first.1 second.1⟩
  have trans : IsTrans (String × Json ν) (KeyLE conventions) :=
    ⟨fun first second third => collation.trans first.1 second.1 third.1⟩
  have keysOf : (sortFields conventions fields).map Prod.fst = fields.map Prod.fst := by
    simp [sortFields_eq_map]
  have ordered := List.pairwise_insertionSort (KeyLE conventions) (sortFields conventions fields)
  have perm := List.perm_insertionSort (KeyLE conventions) (sortFields conventions fields)
  cases sorted : (sortFields conventions fields).insertionSort (KeyLE conventions) with
  | nil =>
    rw [sorted, List.nil_perm] at perm
    rw [← keysOf, perm] at present
    cases present
  | cons first others =>
    rw [sorted] at ordered perm
    have inKeys : ∀ field ∈ first :: others, field.1 ∈ keys := by
      intro field member
      have inFields : field.1 ∈ fields.map Prod.fst :=
        keysOf ▸ List.mem_map_of_mem (perm.mem_iff.mp member)
      obtain ⟨original, originalMember, same⟩ := List.mem_map.mp inFields
      exact same ▸ known original originalMember
    obtain ⟨field, member, same⟩ : ∃ field ∈ first :: others, field.1 = least := by
      rw [← keysOf] at present
      obtain ⟨field, inSorted, same⟩ := List.mem_map.mp present
      exact ⟨field, perm.mem_iff.mpr inSorted, same⟩
    have leads : first.1 = least := by
      rcases List.mem_cons.mp member with isFirst | later
      · rw [← isFirst, same]
      · have firstLE := (List.pairwise_cons.mp ordered).1 field later
        rw [KeyLE, same] at firstLE
        have firstKey := inKeys first (List.mem_cons_self ..)
        exact collation.strict first.1 firstKey least (same ▸ inKeys field member) firstLE
          (smallest first.1 firstKey)
    have unmoved : ownOrder (first :: others) = first :: others :=
      ownOrder_eq_self fun later inSorted => named later.1 (inKeys later inSorted)
    obtain ⟨rest, begins⟩ := commaSeparated_cons
      (quote first.1 ++ (':' :: stringify conventions first.2)) (fieldTexts conventions others)
    refine ⟨':' :: (stringify conventions first.2 ++ (rest ++ ['}'])), ?_⟩
    rw [canonicalJSONString, sortObjectKeysDeep, sorted, unmoved, stringify, fieldTexts, begins,
      leads]
    simp

end EmotoFleet.CanonicalJson
