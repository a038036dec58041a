import EmotoFleet.Foundations.CanonicalJson
import Mathlib.Data.Nat.Digits.Defs
import Mathlib.Data.Nat.Digits.Lemmas

/-!
# Objects that list their keys in a given order

Two objects are the same value when they have the same entries, in whatever order
these were added. A sorted object lists array indices first, by value, and then the
other keys by the comparison that sorted them. This is a given strict order of keys,
and independent of the order in which entries were added, exactly when every two keys
that the order tells apart are placed so.

Nothing here mentions a particular program.
-/

namespace EmotoFleet.KeyOrders

open CanonicalJson

variable {ν : Type}

/-- Values that differ in nothing but the order of the keys of their objects. -/
inductive SameValue : Json ν → Json ν → Prop
  | null : SameValue .null .null
  | bool (value : Bool) : SameValue (.bool value) (.bool value)
  | number (value : ν) : SameValue (.number value) (.number value)
  | string (value : String) : SameValue (.string value) (.string value)
  | array (items others : List (Json ν)) (length : items.length = others.length)
      (each : ∀ pair ∈ items.zip others, SameValue pair.1 pair.2) :
      SameValue (.array items) (.array others)
  | object (fields others : Fields ν) (keys : (fields.map Prod.fst).Perm (others.map Prod.fst))
      (each : ∀ field ∈ fields, ∀ other ∈ others, field.1 = other.1 →
        SameValue field.2 other.2) :
      SameValue (.object fields) (.object others)

/-- Every object of the value lists its keys in the given order. -/
inductive KeysInOrder (before : String → String → Prop) : Json ν → Prop
  | null : KeysInOrder before .null
  | bool (value : Bool) : KeysInOrder before (.bool value)
  | number (value : ν) : KeysInOrder before (.number value)
  | string (value : String) : KeysInOrder before (.string value)
  | array (items : List (Json ν)) (each : ∀ item ∈ items, KeysInOrder before item) :
      KeysInOrder before (.array items)
  | object (fields : Fields ν) (keys : (fields.map Prod.fst).Pairwise before)
      (each : ∀ field ∈ fields, KeysInOrder before field.2) : KeysInOrder before (.object fields)

section Places

variable (conventions : Conventions ν)

/-- A sorted object lists the one key before the other, whichever was added first. -/
def PlacedBefore (left right : String) : Prop :=
  match arrayIndex left, arrayIndex right with
  | some index, some other => index < other
  | some _, none => True
  | none, some _ => False
  | none, none => conventions.compareKeys right left = .gt

instance : DecidableRel (PlacedBefore conventions) := fun left right => by
  dsimp only [PlacedBefore]
  cases arrayIndex left <;> cases arrayIndex right <;> infer_instance

/-- Every object of the value has only keys that are placed in the given order. -/
inductive PlacedInOrder (before : String → String → Prop) : Json ν → Prop
  | null : PlacedInOrder before .null
  | bool (value : Bool) : PlacedInOrder before (.bool value)
  | number (value : ν) : PlacedInOrder before (.number value)
  | string (value : String) : PlacedInOrder before (.string value)
  | array (items : List (Json ν)) (each : ∀ item ∈ items, PlacedInOrder before item) :
      PlacedInOrder before (.array items)
  | object (fields : Fields ν)
      (keys : ∀ left ∈ fields.map Prod.fst, ∀ right ∈ fields.map Prod.fst, before left right →
        PlacedBefore conventions left right)
      (each : ∀ field ∈ fields, PlacedInOrder before field.2) :
      PlacedInOrder before (.object fields)

/-- The comparison is total and transitive, as sorting needs it. -/
structure Consistent : Prop where
  total : ∀ left right, conventions.compareKeys left right ≠ .gt ∨
    conventions.compareKeys right left ≠ .gt
  trans : ∀ left middle right, conventions.compareKeys left middle ≠ .gt →
    conventions.compareKeys middle right ≠ .gt → conventions.compareKeys left right ≠ .gt

/-- The entries of a sorted object as it lists them. -/
def listed (fields : Fields ν) : Fields ν :=
  ownOrder ((sortFields conventions fields).insertionSort (KeyLE conventions))

theorem sortObjectKeysDeep_object (fields : Fields ν) :
    sortObjectKeysDeep conventions (.object fields) = .object (listed conventions fields) := by
  rw [sortObjectKeysDeep, listed]

theorem sortItems_eq_map (items : List (Json ν)) :
    sortItems conventions items = items.map (sortObjectKeysDeep conventions) := by
  induction items with
  | nil => rfl
  | cons item rest inductionHypothesis => rw [sortItems, inductionHypothesis, List.map_cons]

theorem listed_perm (fields : Fields ν) :
    (listed conventions fields).Perm
      (fields.map fun field => (field.1, sortObjectKeysDeep conventions field.2)) := by
  rw [listed, ← sortFields_eq_map]
  exact (ownOrder_perm _).trans (List.perm_insertionSort _ _)

theorem listed_keys (fields : Fields ν) :
    ((listed conventions fields).map Prod.fst).Perm (fields.map Prod.fst) := by
  have perm := (listed_perm conventions fields).map Prod.fst
  rwa [List.map_map] at perm

end Places

section Indices

/-- The digits of an array index, the least one first. -/
def digitsOf (key : String) : List Nat := key.toList.reverse.map fun digit => digit.toNat - 48

theorem foldl_digits (letters : List Char) (number : Nat) :
    letters.foldl (fun number digit => 10 * number + (digit.toNat - 48)) number =
      Nat.ofDigits 10 (letters.reverse.map fun digit => digit.toNat - 48) +
        10 ^ letters.length * number := by
  induction letters generalizing number with
  | nil => simp
  | cons digit rest inductionHypothesis =>
    rw [List.foldl_cons, inductionHypothesis, List.reverse_cons, List.map_append,
      Nat.ofDigits_append]
    simp only [List.map_cons, List.map_nil, Nat.ofDigits_singleton, List.length_map,
      List.length_reverse, List.length_cons, pow_succ]
    ring

/-- What an array index spells. -/
theorem arrayIndex_spells {key : String} {value : Nat} (index : arrayIndex key = some value) :
    key.toList ≠ [] ∧ (∀ digit ∈ key.toList, digit.isDigit = true) ∧
      (key.toList.head? = some '0' → key.toList = ['0']) ∧
      Nat.ofDigits 10 (digitsOf key) = value := by
  rw [arrayIndex, Option.ite_none_right_eq_some] at index
  obtain ⟨⟨some, digits, leading, _⟩, spelled⟩ := index
  rw [foldl_digits, Nat.mul_zero, Nat.add_zero] at spelled
  exact ⟨some, List.all_eq_true.mp digits, leading, Option.some.inj spelled⟩

theorem digit_bounds {digit : Char} (isDigit : digit.isDigit = true) :
    48 ≤ digit.toNat ∧ digit.toNat ≤ 57 := by
  rw [Char.isDigit, Bool.and_eq_true, decide_eq_true_eq, decide_eq_true_eq] at isDigit
  exact isDigit

/-- An array index has the digits of its value, unless it is zero. -/
theorem arrayIndex_digits {key : String} {value : Nat} (index : arrayIndex key = some value) :
    key = "0" ∧ value = 0 ∨ Nat.digits 10 value = digitsOf key ∧ digitsOf key ≠ [] := by
  obtain ⟨some, digits, leading, spelled⟩ := arrayIndex_spells index
  by_cases zero : key.toList = ['0']
  · left
    obtain rfl : key = "0" := String.toList_inj.mp zero
    exact ⟨rfl, spelled.symm⟩
  · right
    have filled : digitsOf key ≠ [] := by simpa [digitsOf] using some
    refine ⟨?_, filled⟩
    rw [← spelled]
    refine Nat.digits_ofDigits 10 (by decide) _ ?_ ?_
    · intro number member
      obtain ⟨digit, inKey, rfl⟩ := List.mem_map.mp member
      have bounds := digit_bounds (digits digit (List.mem_reverse.mp inKey))
      omega
    · intro _ lastZero
      obtain ⟨first, rest, letters⟩ := List.exists_cons_of_ne_nil some
      have bounds := digit_bounds (digits first (letters ▸ List.mem_cons_self ..))
      have code : first.toNat - 48 = 0 := by
        simpa [digitsOf, letters] using lastZero
      have isZero : first = '0' := Char.toNat_inj.mp (by
        have fortyEight : '0'.toNat = 48 := rfl
        omega)
      exact zero (leading (by rw [letters, isZero, List.head?_cons]))

theorem letters_of_digits {key : String} (digits : ∀ digit ∈ key.toList, digit.isDigit = true) :
    key.toList.reverse = (digitsOf key).map fun number => Char.ofNat (number + 48) := by
  rw [digitsOf, List.map_map]
  refine ((List.map_congr_left fun digit member => ?_).trans (List.map_id _)).symm
  have bounds := digit_bounds (digits digit (List.mem_reverse.mp member))
  have code : digit.toNat - 48 + 48 = digit.toNat := Nat.sub_add_cancel bounds.1
  rw [Function.comp_apply, code, Char.ofNat_toNat, id]

/-- No two array indices have one value. -/
theorem arrayIndex_inj {left right : String} {value : Nat} (leftIndex : arrayIndex left = some value)
    (rightIndex : arrayIndex right = some value) : left = right := by
  have leftDigits := (arrayIndex_spells leftIndex).2.1
  have rightDigits := (arrayIndex_spells rightIndex).2.1
  rcases arrayIndex_digits leftIndex with ⟨rfl, zero⟩ | ⟨leftValue, leftSome⟩
  · rcases arrayIndex_digits rightIndex with ⟨rfl, _⟩ | ⟨rightValue, rightSome⟩
    · rfl
    · rw [zero, Nat.digits_zero] at rightValue
      exact absurd rightValue.symm rightSome
  · rcases arrayIndex_digits rightIndex with ⟨rfl, zero⟩ | ⟨rightValue, _⟩
    · rw [zero, Nat.digits_zero] at leftValue
      exact absurd leftValue.symm leftSome
    · have same : digitsOf left = digitsOf right := leftValue.symm.trans rightValue
      rw [← String.toList_inj, ← List.reverse_inj, letters_of_digits leftDigits,
        letters_of_digits rightDigits, same]

end Indices

section Lists

variable {conventions : Conventions ν} {before : String → String → Prop}

/-- A sorted object lists no key after one that it is placed before. -/
theorem listed_placed (consistent : Consistent conventions) (fields : Fields ν) :
    (listed conventions fields).Pairwise fun left right =>
      ¬ PlacedBefore conventions right.1 left.1 := by
  have total : Std.Total (@KeyLE ν conventions) :=
    ⟨fun first second => consistent.total first.1 second.1⟩
  have trans : IsTrans (String × Json ν) (KeyLE conventions) :=
    ⟨fun first second third => consistent.trans first.1 second.1 third.1⟩
  have sorted := List.pairwise_insertionSort (KeyLE conventions) (sortFields conventions fields)
  rw [listed, ownOrder, List.pairwise_append]
  refine ⟨?_, ?_, ?_⟩
  · have byValue := List.pairwise_insertionSort
      (fun left right : String × Json ν => (arrayIndex left.1).getD 0 ≤ (arrayIndex right.1).getD 0)
      (((sortFields conventions fields).insertionSort (KeyLE conventions)).filter
        fun field => (arrayIndex field.1).isSome)
    refine byValue.imp_of_mem ?_
    intro left right inLeft inRight atMost placed
    have leftIndex := (List.mem_filter.mp ((List.perm_insertionSort _ _).mem_iff.mp inLeft)).2
    have rightIndex := (List.mem_filter.mp ((List.perm_insertionSort _ _).mem_iff.mp inRight)).2
    obtain ⟨index, isIndex⟩ := Option.isSome_iff_exists.mp leftIndex
    obtain ⟨other, isOther⟩ := Option.isSome_iff_exists.mp rightIndex
    simp only [PlacedBefore, isIndex, isOther, Option.getD_some] at placed atMost
    omega
  · refine (sorted.filter _).imp_of_mem ?_
    intro left right inLeft inRight atMost placed
    have leftName := Option.isNone_iff_eq_none.mp (List.mem_filter.mp inLeft).2
    have rightName := Option.isNone_iff_eq_none.mp (List.mem_filter.mp inRight).2
    simp only [PlacedBefore, leftName, rightName] at placed
    exact atMost placed
  · intro left inLeft right inRight placed
    have leftIndex := (List.mem_filter.mp ((List.perm_insertionSort _ _).mem_iff.mp inLeft)).2
    have rightName := Option.isNone_iff_eq_none.mp (List.mem_filter.mp inRight).2
    obtain ⟨index, isIndex⟩ := Option.isSome_iff_exists.mp leftIndex
    simp only [PlacedBefore, isIndex, rightName] at placed

/-- Keys that the order tells apart, and that are placed so, are listed in the order. -/
theorem listed_in_order [IsStrictTotalOrder String before] (consistent : Consistent conventions)
    {fields : Fields ν} (distinct : (fields.map Prod.fst).Nodup)
    (placed : ∀ left ∈ fields.map Prod.fst, ∀ right ∈ fields.map Prod.fst, before left right →
      PlacedBefore conventions left right) :
    ((listed conventions fields).map Prod.fst).Pairwise before := by
  have keys := listed_keys conventions fields
  have apart : ((listed conventions fields).map Prod.fst).Nodup := keys.nodup_iff.mpr distinct
  have places : ((listed conventions fields).map Prod.fst).Pairwise fun left right =>
      ¬ PlacedBefore conventions right left :=
    List.pairwise_map.mpr (listed_placed consistent fields)
  refine (places.and apart).imp_of_mem ?_
  rintro left right inLeft inRight ⟨notAfter, different⟩
  rcases trichotomous_of before left right with ordered | same | reversed
  · exact ordered
  · exact absurd same different
  · exact absurd (placed right (keys.mem_iff.mp inRight) left (keys.mem_iff.mp inLeft) reversed)
      notAfter

/-- Two names that the comparison does not tell apart stay in the order in which they
were added. -/
theorem listed_tie {left right : String × Json ν} {fields : Fields ν}
    (added : [left, right].Sublist fields) (leftName : arrayIndex left.1 = none)
    (rightName : arrayIndex right.1 = none)
    (tie : conventions.compareKeys left.1 right.1 ≠ .gt) :
    [left.1, right.1].Sublist ((listed conventions fields).map Prod.fst) := by
  have sortedFields : [(left.1, sortObjectKeysDeep conventions left.2),
      (right.1, sortObjectKeysDeep conventions right.2)].Sublist (sortFields conventions fields) := by
    rw [sortFields_eq_map]
    exact added.map fun field => (field.1, sortObjectKeysDeep conventions field.2)
  have ordered : KeyLE conventions (left.1, sortObjectKeysDeep conventions left.2)
      (right.1, sortObjectKeysDeep conventions right.2) := tie
  have kept := (List.pair_sublist_insertionSort ordered sortedFields).filter
    fun field => (arrayIndex field.1).isNone
  simp only [List.filter_cons, leftName, rightName, Option.isNone_none, if_true,
    List.filter_nil] at kept
  exact (kept.trans (List.sublist_append_right _ _)).map Prod.fst

end Lists

section Same

theorem zip_self {α : Type} (items : List α) : items.zip items = items.map fun item => (item, item) := by
  rw [List.zip, List.zipWith_self]

theorem sameValue_refl {value : Json ν} (distinct : Distinct value) : SameValue value value := by
  induction distinct with
  | null => exact .null
  | bool value => exact .bool value
  | number value => exact .number value
  | string value => exact .string value
  | array items _ inductionHypothesis =>
    refine .array items items rfl ?_
    intro pair member
    rw [zip_self, List.mem_map] at member
    obtain ⟨item, inItems, rfl⟩ := member
    exact inductionHypothesis item inItems
  | object fields keys _ inductionHypothesis =>
    refine .object fields fields (.refl _) ?_
    intro field member other otherMember sameKey
    obtain rfl := List.inj_on_of_nodup_map keys member otherMember sameKey
    exact inductionHypothesis field member

/-- An array with one item in another form is the same value. -/
theorem sameValue_item {before after : List (Json ν)} {item other : Json ν}
    (distinct : ∀ one ∈ before ++ item :: after, Distinct one) (same : SameValue item other) :
    SameValue (.array (before ++ item :: after)) (.array (before ++ other :: after)) := by
  refine .array _ _ (by simp) ?_
  intro pair member
  rw [List.zip_append rfl, List.zip_cons_cons, zip_self, zip_self, List.mem_append,
    List.mem_cons] at member
  rcases member with inBefore | rfl | inAfter
  · obtain ⟨one, isOne, rfl⟩ := List.mem_map.mp inBefore
    exact sameValue_refl (distinct one (List.mem_append_left _ isOne))
  · exact same
  · obtain ⟨one, isOne, rfl⟩ := List.mem_map.mp inAfter
    exact sameValue_refl (distinct one (List.mem_append_right _ (List.mem_cons_of_mem _ isOne)))

/-- An object with its entries in another order, and one of them in another form, is
the same value. -/
theorem sameValue_field {rest others fields : Fields ν} {key : String} {value other : Json ν}
    (fieldsPerm : ((key, value) :: rest).Perm fields) (othersPerm : ((key, other) :: rest).Perm others)
    (keys : (fields.map Prod.fst).Nodup) (distinct : ∀ field ∈ fields, Distinct field.2)
    (same : SameValue value other) : SameValue (.object fields) (.object others) := by
  have sameKeys : (((key, value) :: rest).map Prod.fst).Perm (others.map Prod.fst) :=
    othersPerm.map Prod.fst
  refine .object fields others ((fieldsPerm.map Prod.fst).symm.trans sameKeys) ?_
  have entry : (key, value) ∈ fields := fieldsPerm.mem_iff.mp (List.mem_cons_self ..)
  intro field member second secondMember sameKey
  rcases List.mem_cons.mp (othersPerm.mem_iff.mpr secondMember) with rfl | inRest
  · obtain rfl := List.inj_on_of_nodup_map keys member entry sameKey
    exact same
  · have inFields : second ∈ fields := fieldsPerm.mem_iff.mp (List.mem_cons_of_mem _ inRest)
    obtain rfl := List.inj_on_of_nodup_map keys member inFields sameKey
    exact sameValue_refl (distinct field member)

/-- An object with its entries in another order is the same value. -/
theorem sameValue_perm {fields others : Fields ν} (perm : fields.Perm others)
    (keys : (fields.map Prod.fst).Nodup) (distinct : ∀ field ∈ fields, Distinct field.2) :
    SameValue (.object fields) (.object others) := by
  refine .object fields others (perm.map Prod.fst) ?_
  intro field member other otherMember sameKey
  obtain rfl := List.inj_on_of_nodup_map keys member (perm.mem_iff.mpr otherMember) sameKey
  exact sameValue_refl (distinct field member)

end Same

section Canonical

variable {conventions : Conventions ν} {before : String → String → Prop}
  [IsStrictTotalOrder String before]

/-- A value whose keys are placed in the order is sorted into the order at every level. -/
theorem sorted_of_placed (consistent : Consistent conventions) {value : Json ν}
    (distinct : Distinct value) (placed : PlacedInOrder conventions before value) :
    KeysInOrder before (sortObjectKeysDeep conventions value) := by
  induction distinct with
  | null => exact .null
  | bool value => exact .bool value
  | number value => exact .number value
  | string value => exact .string value
  | array items _ inductionHypothesis =>
    cases placed with
    | array _ each =>
      rw [sortObjectKeysDeep, sortItems_eq_map]
      refine .array _ fun sorted member => ?_
      obtain ⟨item, inItems, rfl⟩ := List.mem_map.mp member
      exact inductionHypothesis item inItems (each item inItems)
  | object fields keys _ inductionHypothesis =>
    cases placed with
    | object _ places each =>
      rw [sortObjectKeysDeep_object]
      refine .object _ (listed_in_order consistent keys places) fun sorted member => ?_
      obtain ⟨field, inFields, rfl⟩ :=
        List.mem_map.mp ((listed_perm conventions fields).mem_iff.mp member)
      exact inductionHypothesis field inFields (each field inFields)

/-- Lists of entries with distinct keys and with the same entry under each key are
reorderings of each other. -/
theorem perm_of_entries {left right : Fields ν} (leftKeys : (left.map Prod.fst).Nodup)
    (rightKeys : (right.map Prod.fst).Nodup) (keys : (left.map Prod.fst).Perm (right.map Prod.fst))
    (same : ∀ field ∈ left, ∀ other ∈ right, field.1 = other.1 → field = other) :
    left.Perm right := by
  rw [List.perm_ext_iff_of_nodup leftKeys.of_map rightKeys.of_map]
  intro entry
  constructor
  · intro member
    obtain ⟨other, inRight, sameKey⟩ :=
      List.mem_map.mp (keys.mem_iff.mp (List.mem_map_of_mem member))
    rwa [same entry member other inRight sameKey.symm]
  · intro member
    obtain ⟨other, inLeft, sameKey⟩ :=
      List.mem_map.mp (keys.mem_iff.mpr (List.mem_map_of_mem member))
    rwa [← same other inLeft entry member sameKey]

/-- A value whose keys are placed in the order is sorted into one form, whatever the
order in which its entries were added. -/
theorem sorted_unique (consistent : Consistent conventions) {value other : Json ν}
    (distinct : Distinct value) (placed : PlacedInOrder conventions before value)
    (same : SameValue value other) :
    sortObjectKeysDeep conventions other = sortObjectKeysDeep conventions value := by
  induction distinct generalizing other with
  | null => cases same; rfl
  | bool value => cases same; rfl
  | number value => cases same; rfl
  | string value => cases same; rfl
  | array items _ inductionHypothesis =>
    cases placed with
    | array _ placedItems =>
      cases same with
      | array _ others length each =>
        rw [sortObjectKeysDeep, sortObjectKeysDeep, sortItems_eq_map, sortItems_eq_map]
        congr 1
        refine List.ext_getElem (by simp [length]) ?_
        intro index inOthers inItems
        rw [List.length_map] at inOthers inItems
        rw [List.getElem_map, List.getElem_map]
        have paired : (items[index], others[index]) ∈ items.zip others := by
          rw [List.mem_iff_getElem]
          exact ⟨index, by simp [inItems, inOthers], by simp⟩
        have inList := List.getElem_mem inItems
        exact inductionHypothesis _ inList (placedItems _ inList) (each _ paired)
  | object fields keys _ inductionHypothesis =>
    cases placed with
    | object _ places placedFields =>
      cases same with
      | object _ others perm each =>
        have otherKeys : (others.map Prod.fst).Nodup := perm.nodup_iff.mp keys
        have otherPlaces : ∀ left ∈ others.map Prod.fst, ∀ right ∈ others.map Prod.fst,
            before left right → PlacedBefore conventions left right := fun left inLeft right inRight =>
          places left (perm.mem_iff.mpr inLeft) right (perm.mem_iff.mpr inRight)
        have ordered := listed_in_order consistent keys places
        have otherOrdered := listed_in_order consistent otherKeys otherPlaces
        have listedKeys := listed_keys conventions fields
        have otherListedKeys := listed_keys conventions others
        have reordered : (listed conventions others).Perm (listed conventions fields) := by
          refine perm_of_entries (otherListedKeys.nodup_iff.mpr otherKeys)
            (listedKeys.nodup_iff.mpr keys)
            (otherListedKeys.trans (perm.symm.trans listedKeys.symm)) ?_
          intro entry inOthers second inFields sameKey
          obtain ⟨other, isOther, rfl⟩ :=
            List.mem_map.mp ((listed_perm conventions others).mem_iff.mp inOthers)
          obtain ⟨field, isField, rfl⟩ :=
            List.mem_map.mp ((listed_perm conventions fields).mem_iff.mp inFields)
          have sameEntry : field.1 = other.1 := sameKey.symm
          rw [sameEntry, inductionHypothesis field isField (placedFields field isField)
            (each field isField other isOther sameEntry)]
        rw [sortObjectKeysDeep_object, sortObjectKeysDeep_object]
        congr 1
        refine List.Perm.eq_of_pairwise ?_ (List.pairwise_map.mp otherOrdered)
          (List.pairwise_map.mp ordered) reordered
        intro left right _ _ leftFirst rightFirst
        exact absurd rightFirst (asymm_of before leftFirst)

/-- Of two keys that a sorted object lists in the order, the later one is not placed
before the earlier one. -/
theorem notPlaced_of_listed (consistent : Consistent conventions) {fields : Fields ν}
    (inOrder : ((listed conventions fields).map Prod.fst).Pairwise before) {left right : String}
    (inLeft : left ∈ (listed conventions fields).map Prod.fst)
    (inRight : right ∈ (listed conventions fields).map Prod.fst) (ordered : before left right) :
    ¬ PlacedBefore conventions right left := by
  have places : ((listed conventions fields).map Prod.fst).Pairwise fun left right =>
      ¬ PlacedBefore conventions right left :=
    List.pairwise_map.mpr (listed_placed consistent fields)
  have agree : ((listed conventions fields).map Prod.fst).Pairwise fun left right =>
      (before left right → ¬ PlacedBefore conventions right left) ∧
        (before right left → ¬ PlacedBefore conventions left right) := by
    refine (inOrder.and places).imp ?_
    rintro one other ⟨first, notAfter⟩
    exact ⟨fun _ => notAfter, fun reversed => absurd reversed (asymm_of before first)⟩
  have different : left ≠ right := fun same => irrefl_of before _ (same ▸ ordered)
  have symmetric : Std.Symm fun left right =>
      (before left right → ¬ PlacedBefore conventions right left) ∧
        (before right left → ¬ PlacedBefore conventions left right) := ⟨fun _ _ => And.symm⟩
  exact (agree.forall inLeft inRight different).1 ordered

/-- Keys are placed in the order when all orders in which they were added lead to it. -/
theorem placed_of_listed (consistent : Consistent conventions) {fields : Fields ν}
    {left right : String} (inLeft : left ∈ fields.map Prod.fst)
    (inRight : right ∈ fields.map Prod.fst) (ordered : before left right)
    (inOrder : ∀ others, fields.Perm others →
      ((listed conventions others).map Prod.fst).Pairwise before) :
    PlacedBefore conventions left right := by
  obtain ⟨first, firstMember, rfl⟩ := List.mem_map.mp inLeft
  obtain ⟨second, secondMember, rfl⟩ := List.mem_map.mp inRight
  have different : first.1 ≠ second.1 := fun same => irrefl_of before _ (same ▸ ordered)
  -- The second entry is added before the first one.
  obtain ⟨earlier, later, isFields⟩ := List.append_of_mem secondMember
  have perm : fields.Perm (second :: (earlier ++ later)) := isFields ▸ List.perm_middle
  have inRest : first ∈ earlier ++ later := by
    rcases List.mem_cons.mp (perm.mem_iff.mp firstMember) with same | inRest
    · exact absurd (congrArg Prod.fst same) different
    · exact inRest
  have lists := inOrder _ perm
  have added : [second, first].Sublist (second :: (earlier ++ later)) :=
    (List.singleton_sublist.mpr inRest).cons_cons second
  have notAfter : ¬ PlacedBefore conventions second.1 first.1 :=
    notPlaced_of_listed consistent lists
      ((listed_keys conventions _).mem_iff.mpr ((perm.map Prod.fst).mem_iff.mp inLeft))
      ((listed_keys conventions _).mem_iff.mpr ((perm.map Prod.fst).mem_iff.mp inRight)) ordered
  rw [PlacedBefore] at notAfter ⊢
  cases firstIndex : arrayIndex first.1 with
  | some index =>
    cases secondIndex : arrayIndex second.1 with
    | some other =>
      simp only [firstIndex, secondIndex] at notAfter
      have apart : index ≠ other := by
        rintro rfl
        exact different (arrayIndex_inj firstIndex secondIndex)
      exact lt_of_le_of_ne (Nat.le_of_not_lt notAfter) apart
    | none => trivial
  | none =>
    cases secondIndex : arrayIndex second.1 with
    | some other => simp [firstIndex, secondIndex] at notAfter
    | none =>
      by_contra tie
      have swapped := lists.sublist (listed_tie added secondIndex firstIndex tie)
      exact asymm_of before ordered (List.pairwise_pair.mp swapped)

/-- A value is sorted into the order in all of its forms only when its keys are placed
in the order. -/
theorem placed_of_sorted (consistent : Consistent conventions) {value : Json ν}
    (distinct : Distinct value)
    (sorted : ∀ other, SameValue value other →
      KeysInOrder before (sortObjectKeysDeep conventions other)) :
    PlacedInOrder conventions before value := by
  induction distinct with
  | null => exact .null
  | bool value => exact .bool value
  | number value => exact .number value
  | string value => exact .string value
  | array items eachDistinct inductionHypothesis =>
    refine .array items fun item member => inductionHypothesis item member ?_
    intro other same
    obtain ⟨earlier, later, rfl⟩ := List.append_of_mem member
    have form := sorted _ (sameValue_item eachDistinct same)
    rw [sortObjectKeysDeep, sortItems_eq_map] at form
    cases form with
    | array _ each =>
      exact each _ (List.mem_map_of_mem (List.mem_append_right _ (List.mem_cons_self ..)))
  | object fields keys eachDistinct inductionHypothesis =>
    refine .object fields ?_ ?_
    · intro left inLeft right inRight ordered
      exact placed_of_listed consistent inLeft inRight ordered fun others perm => by
        have form := sorted _ (sameValue_perm perm keys eachDistinct)
        rw [sortObjectKeysDeep_object] at form
        cases form with
        | object _ inOrder _ => exact inOrder
    · intro field member
      refine inductionHypothesis field member ?_
      intro other same
      obtain ⟨earlier, later, isFields⟩ := List.append_of_mem member
      have perm : ((field.1, field.2) :: (earlier ++ later)).Perm fields := by
        rw [isFields]
        exact List.perm_middle.symm
      have form := sorted _ (sameValue_field perm (.refl _) keys eachDistinct same)
      rw [sortObjectKeysDeep_object] at form
      cases form with
      | object _ _ each =>
        exact each (field.1, sortObjectKeysDeep conventions other)
          ((listed_perm conventions _).mem_iff.mpr (List.mem_map_of_mem (List.mem_cons_self ..)))

end Canonical

end EmotoFleet.KeyOrders
