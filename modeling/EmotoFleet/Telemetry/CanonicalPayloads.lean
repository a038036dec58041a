import EmotoFleet.Foundations.KeyOrders
import EmotoFleet.Telemetry.MqttSignatures

/-!
# Payloads that sign equal

A payload is signed over its canonical text, so two payloads with the same entries
should have one text, and the contract wants the keys of every object in
lexicographic order. The code compares keys by the locale and then rebuilds the
object, which lists array indices first. The text is the contract's one exactly when
this places the keys of every object in lexicographic order.
-/

namespace EmotoFleet.CanonicalPayloads

open CanonicalJson KeyOrders MqttSignatures

section Keys

/-- The UTF-16 code units of a character. -/
def unitsOf (letter : Char) : List Nat :=
  if letter.toNat < 0x10000 then [letter.toNat]
  else [0xD800 + (letter.toNat - 0x10000) / 0x400, 0xDC00 + (letter.toNat - 0x10000) % 0x400]

def codeUnits (text : String) : List Nat := text.toList.flatMap unitsOf

/-- The lexicographic order of keys, by their code units. -/
def LexicographicallyBefore (left right : String) : Prop := codeUnits left < codeUnits right

instance : DecidableRel LexicographicallyBefore :=
  fun left right => inferInstanceAs (Decidable (codeUnits left < codeUnits right))

theorem scalar_value (letter : Char) :
    letter.toNat < 0xD800 ∨ 0xDFFF < letter.toNat ∧ letter.toNat < 0x110000 := letter.valid

/-- The code units of a text determine its letters. -/
theorem flatMap_unitsOf_inj {left right : List Char}
    (same : left.flatMap unitsOf = right.flatMap unitsOf) : left = right := by
  induction left generalizing right with
  | nil =>
    cases right with
    | nil => rfl
    | cons letter rest =>
      rw [List.flatMap_nil, List.flatMap_cons, unitsOf] at same
      split at same <;> cases same
  | cons first rest inductionHypothesis =>
    cases right with
    | nil =>
      rw [List.flatMap_nil, List.flatMap_cons, unitsOf] at same
      split at same <;> cases same
    | cons letter others =>
      have firstScalar := scalar_value first
      have letterScalar := scalar_value letter
      rw [List.flatMap_cons, List.flatMap_cons, unitsOf, unitsOf] at same
      -- The first unit tells a single unit from a pair, since no character is a surrogate.
      split at same <;> split at same <;>
        simp only [List.cons_append, List.nil_append, List.cons.injEq] at same
      case isTrue.isTrue =>
        rw [Char.toNat_inj.mp same.1, inductionHypothesis same.2]
      case isFalse.isFalse =>
        have code : first.toNat = letter.toNat := by omega
        rw [Char.toNat_inj.mp code, inductionHypothesis same.2.2]
      all_goals omega

theorem codeUnits_inj {left right : String} (same : codeUnits left = codeUnits right) :
    left = right :=
  String.toList_inj.mp (flatMap_unitsOf_inj same)

instance : IsStrictTotalOrder String LexicographicallyBefore where
  trichotomous _ _ notLess notGreater :=
    codeUnits_inj (le_antisymm (not_lt.mp notGreater) (not_lt.mp notLess))
  irrefl key := lt_irrefl (codeUnits key)
  trans _ _ _ := lt_trans

end Keys

/-- The text of a value is the contract's canonical one: it is the same for all orders
in which the entries of its objects were added, it lists the keys of every object in
lexicographic order, and payloads with the same entries sign equal. -/
structure MeetsContract (conventions : Conventions ℚ) (value : Json ℚ) : Prop where
  canonical : ∀ other, SameValue value other →
    canonicalJSONString conventions other = canonicalJSONString conventions value
  inOrder : ∀ other, SameValue value other →
    KeysInOrder LexicographicallyBefore (sortObjectKeysDeep conventions other)
  signEqual : ∀ payload others, value = .object payload → SameValue value (.object others) →
    ∀ hmac deviceSecret, computePayloadSignature hmac conventions deviceSecret others =
      computePayloadSignature hmac conventions deviceSecret payload

section Contract

variable {conventions : Conventions ℚ} {value : Json ℚ}

theorem meets_of_placed (consistent : Consistent conventions) (distinct : Distinct value)
    (placed : PlacedInOrder conventions LexicographicallyBefore value) :
    MeetsContract conventions value := by
  have unique : ∀ other, SameValue value other →
      sortObjectKeysDeep conventions other = sortObjectKeysDeep conventions value :=
    fun _ same => sorted_unique consistent distinct placed same
  refine ⟨?_, ?_, ?_⟩
  · intro other same
    rw [canonicalJSONString, canonicalJSONString, unique other same]
  · intro other same
    rw [unique other same]
    exact sorted_of_placed consistent distinct placed
  · rintro payload others rfl same hmac deviceSecret
    rw [computePayloadSignature, computePayloadSignature, canonicalJSONString,
      canonicalJSONString, unique (.object others) same]

/-- A value has the contract's text exactly when, in each of its objects, the array
indices and the comparison of the other keys place the keys in lexicographic order. -/
theorem meetsContract_iff (consistent : Consistent conventions) (distinct : Distinct value) :
    MeetsContract conventions value ↔
      PlacedInOrder conventions LexicographicallyBefore value :=
  ⟨fun meets => placed_of_sorted consistent distinct meets.inOrder,
    meets_of_placed consistent distinct⟩

end Contract

section Samples

theorem sampleConventions_consistent : Consistent sampleConventions where
  total := sampleConventions_order.total
  trans := sampleConventions_order.trans

theorem sampleTelemetry_placed :
    PlacedInOrder sampleConventions LexicographicallyBefore (.object sampleTelemetry) := by
  refine .object _ (by decide +kernel) ?_
  intro field member
  simp only [sampleTelemetry, List.mem_cons, List.not_mem_nil, or_false] at member
  rcases member with rfl | rfl | rfl | rfl | rfl | rfl
  case inr.inr.inr.inr.inl =>
    refine .object _ (by decide +kernel) ?_
    intro axis axisMember
    simp only [List.mem_cons, List.not_mem_nil, or_false] at axisMember
    rcases axisMember with rfl | rfl | rfl <;> exact .number _
  all_goals first
    | exact .number _
    | exact .string _

theorem meetsContract_iff_sampleTelemetry :
    MeetsContract sampleConventions (.object sampleTelemetry) :=
  (meetsContract_iff sampleConventions_consistent sampleTelemetry_distinct).mpr
    sampleTelemetry_placed

/-- An event whose metadata have keys that are array indices. -/
def indexedEvent : Fields ℚ :=
  [("ts", .string "2026-03-04T12:34:56.000Z"), ("type", .string "SOS"),
   ("severity", .string "HIGH"), ("meta", .object [("10", .bool true), ("9", .bool true)]),
   ("nonce", .string "fc94e113")]

theorem indexedEvent_distinct : Distinct (.object indexedEvent) := by
  refine Distinct.object _ (by decide) ?_
  intro field member
  simp only [indexedEvent, List.mem_cons, List.not_mem_nil, or_false] at member
  rcases member with rfl | rfl | rfl | rfl | rfl
  case inr.inr.inr.inl =>
    refine Distinct.object _ (by decide) ?_
    intro entry entryMember
    simp only [List.mem_cons, List.not_mem_nil, or_false] at entryMember
    rcases entryMember with rfl | rfl <;> exact Distinct.bool _
  all_goals exact Distinct.string _

/-- The text lists the key 9 before the key 10. -/
theorem indexedEvent_out_of_order : ¬ MeetsContract sampleConventions (.object indexedEvent) := by
  intro meets
  have inOrder := meets.inOrder _ (sameValue_refl indexedEvent_distinct)
  rw [sortObjectKeysDeep_object] at inOrder
  cases inOrder with
  | object _ _ each =>
    have sortedMeta : ("meta", Json.object [("9", .bool true), ("10", .bool true)]) ∈
        listed sampleConventions indexedEvent := by
      have values : sortObjectKeysDeep sampleConventions
          (.object [("10", .bool true), ("9", .bool true)]) =
            Json.object [("9", .bool true), ("10", .bool true)] := by rfl
      have entry : ("meta", Json.object [("10", .bool true), ("9", .bool true)]) ∈ indexedEvent :=
        List.mem_of_getElem? (show indexedEvent[3]? = some _ from rfl)
      rw [(listed_perm sampleConventions indexedEvent).mem_iff, ← values]
      exact List.mem_map_of_mem entry
    cases each _ sortedMeta with
    | object _ keys _ =>
      have ordered : LexicographicallyBefore "9" "10" := List.pairwise_pair.mp keys
      revert ordered
      decide +kernel

end Samples

end EmotoFleet.CanonicalPayloads
