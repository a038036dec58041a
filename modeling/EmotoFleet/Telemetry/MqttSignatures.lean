import EmotoFleet.Foundations.ObjectSchemas
import Mathlib.Algebra.GroupWithZero.Nat
import Mathlib.Data.List.Lex
import Mathlib.Data.Rat.Defs

/-!
# Signatures of the MQTT messages

A device signs the canonical text of its whole payload without the signature. The
server parses the payload first and verifies the signature of what the schema has
left: entries that the schema does not know are gone, and an event without
metadata has been given an empty object.

The main result says for which payloads a right signature is accepted, whatever
the HMAC function does. The test for date texts, the texts of numbers and the
collation order of the locale are parameters.
-/

namespace EmotoFleet.MqttSignatures

open CanonicalJson ObjectSchemas

section Schemas

/-- A number between two bounds. -/
def finiteNumber (least greatest : Option ℚ) : Schema ℚ :=
  checked fun value => match value with
    | .number number =>
      (least.all fun bound => decide (bound ≤ number)) &&
        greatest.all fun bound => decide (number ≤ bound)
    | _ => false

/-- A truth value. -/
def booleanSchema : Schema ℚ := checked fun value => match value with
  | .bool _ => true
  | _ => false

/-- The length of a text in the units in which the schema counts. -/
def utf16Length (text : String) : Nat :=
  (text.toList.map fun letter => if letter.toNat < 65536 then 1 else 2).sum

/-- A text of eight to a hundred and twenty-eight units. -/
def nonceSchema : Schema ℚ := checked fun value => match value with
  | .string text => decide (8 ≤ utf16Length text) && decide (utf16Length text ≤ 128)
  | _ => false

/-- One of some texts. -/
def enumSchema (texts : List String) : Schema ℚ := checked fun value => match value with
  | .string text => texts.contains text
  | _ => false

/-- An object with any properties. -/
def recordSchema : Schema ℚ := checked fun value => match value with
  | .object _ => true
  | _ => false

/-- A text that the schema takes for an instant. -/
def datetimeSchema (datetime : String → Bool) : Schema ℚ := checked fun value => match value with
  | .string text => datetime text
  | _ => false

/-- The value of a hexadecimal digit in either case. -/
def hexValue (letter : Char) : Option Nat :=
  if letter.isDigit then some (letter.toNat - 48)
  else if 'a' ≤ letter ∧ letter ≤ 'f' then some (letter.toNat - 87)
  else if 'A' ≤ letter ∧ letter ≤ 'F' then some (letter.toNat - 55)
  else none

/-- Whether a text is that of a digest: sixty-four hexadecimal digits. -/
def isSignatureHex (text : String) : Bool :=
  text.toList.length == 64 && text.toList.all fun letter => (hexValue letter).isSome

/-- The text of a digest. -/
def signatureHexSchema : Schema ℚ := checked fun value => match value with
  | .string text => isSignatureHex text
  | _ => false

/-- The types of events that a message may have. -/
def eventTypes : List String :=
  ["OVERSPEED", "SPEED_LIMIT_VIOLATION", "SCHOOL_ZONE_SPEED", "HOSPITAL_ZONE_SPEED",
   "MARKET_ZONE_SPEED", "HARSH_BRAKE", "HARSH_ACCEL", "HARSH_CORNER", "CRASH", "THEFT_SUSPECTED",
   "SOS", "TRACKER_OFFLINE", "GEOFENCE_EXIT"]

/-- The properties of an acceleration. -/
def accelProperties : List (Property ℚ) :=
  [⟨"x", .required, finiteNumber none none⟩, ⟨"y", .required, finiteNumber none none⟩,
   ⟨"z", .required, finiteNumber none none⟩]

/-- The kinds of messages. -/
inductive MessageKind where
  | telemetry
  | event
deriving DecidableEq

variable (datetime : String → Bool)

/-- The properties of telemetry, without the signature. -/
def telemetryPayloadWithoutSig : List (Property ℚ) :=
  [⟨"ts", .required, datetimeSchema datetime⟩,
   ⟨"lat", .required, finiteNumber (some (-90)) (some 90)⟩,
   ⟨"lng", .required, finiteNumber (some (-180)) (some 180)⟩,
   ⟨"speedKph", .required, finiteNumber (some 0) (some 300)⟩,
   ⟨"heading", .optional, finiteNumber (some 0) (some 360)⟩,
   ⟨"accel", .optional, object accelProperties⟩,
   ⟨"batteryV", .optional, finiteNumber (some 0) (some 200)⟩,
   ⟨"batteryPct", .optional, finiteNumber (some 0) (some 100)⟩,
   ⟨"ignition", .optional, booleanSchema⟩,
   ⟨"mainPowerCut", .optional, booleanSchema⟩,
   ⟨"nonce", .required, nonceSchema⟩]

/-- The properties of an event, without the signature. -/
def eventPayloadWithoutSig : List (Property ℚ) :=
  [⟨"ts", .required, datetimeSchema datetime⟩,
   ⟨"type", .required, enumSchema eventTypes⟩,
   ⟨"severity", .required, enumSchema ["LOW", "MEDIUM", "HIGH", "CRITICAL"]⟩,
   ⟨"meta", .default (.object []), recordSchema⟩,
   ⟨"nonce", .required, nonceSchema⟩]

/-- The properties of a message, without the signature. -/
def payloadWithoutSig : MessageKind → List (Property ℚ)
  | .telemetry => telemetryPayloadWithoutSig datetime
  | .event => eventPayloadWithoutSig datetime

/-- The property with the signature. -/
def sigProperty : Property ℚ := ⟨"sig", .required, signatureHexSchema⟩

/-- The schema of a signed message. -/
def payloadSchema (kind : MessageKind) : List (Property ℚ) :=
  payloadWithoutSig datetime kind ++ [sigProperty]

end Schemas

section Signatures

/-- The bytes of an HMAC. -/
structure Digest where
  bytes : List (Fin 256)
  length_eq : bytes.length = 32

/-- An HMAC function: a digest for each secret and text. -/
abbrev Hmac := String → List Char → Digest

variable (hmac : Hmac) (conventions : Conventions ℚ) (deviceSecret : String)

/-- A byte in two hexadecimal digits. -/
def byteText (byte : Fin 256) : List Char := [hexDigit (byte.val / 16), hexDigit (byte.val % 16)]

/-- The digest in hexadecimal digits. -/
def computePayloadSignature (payloadWithoutSig : Fields ℚ) : List Char :=
  (hmac deviceSecret
    (canonicalJSONString conventions (.object payloadWithoutSig))).bytes.flatMap byteText

/-- The bytes of a hexadecimal text, up to the first pair that is none. -/
def decodeHex : List Char → List Nat
  | high :: low :: rest =>
    match hexValue high, hexValue low with
    | some highValue, some lowValue => (16 * highValue + lowValue) :: decodeHex rest
    | _, _ => []
  | _ => []

/-- Two texts of digests are equal if their bytes are. -/
def timingSafeHexEqual (leftHex rightHex : List Char) : Bool :=
  decodeHex leftHex == decodeHex rightHex

/-- A payload without its signature. -/
def unsigned (payload : Fields ℚ) : Fields ℚ := payload.filter fun field => field.1 != "sig"

/-- Whether a payload has the signature of its other properties. -/
def verifyPayloadSignature (payload : Fields ℚ) : Bool :=
  match payload.lookup "sig" with
  | some (.string providedSig) =>
    isSignatureHex providedSig &&
      timingSafeHexEqual providedSig.toList
        (computePayloadSignature hmac conventions deviceSecret (unsigned payload))
  | _ => false

/-- The payload carries, in digits of either case, the signature of the rest of it. -/
def Signed (payload : Fields ℚ) : Prop :=
  ∃ sig, payload.lookup "sig" = some (.string sig) ∧ isSignatureHex sig = true ∧
    decodeHex sig.toList =
      decodeHex (computePayloadSignature hmac conventions deviceSecret (unsigned payload))

end Signatures

/-- Accelerations have no entries besides the three axes. -/
def wholeValue (key : String) (value : Json ℚ) : Prop :=
  key = "accel" → ∃ fields, value = .object fields ∧ ∀ field ∈ fields, field.1 ∈ ["x", "y", "z"]

/-- A payload that the schema leaves as it is: it has no unknown entries, not in the
acceleration either, and an event has metadata. -/
def Whole (datetime : String → Bool) (kind : MessageKind) (body : Fields ℚ) : Prop :=
  WholeFields wholeValue (payloadWithoutSig datetime kind) body ∧
    DefaultsPresent (payloadWithoutSig datetime kind) body

/-- The keys that occur in the schemas. -/
def schemaKeys : List String :=
  ["ts", "lat", "lng", "speedKph", "heading", "accel", "batteryV", "batteryPct", "ignition",
   "mainPowerCut", "nonce", "type", "severity", "meta", "x", "y", "z"]

/-- An order of keys by their letters, large or small. -/
def alphabetical (left right : String) : Ordering :=
  compareOfLessAndEq (left.toList.map fun letter => letter.toLower.toNat)
    (right.toList.map fun letter => letter.toLower.toNat)

/-- What is used of `localeCompare`: it orders all texts, and the keys of the schemas
alphabetically, whatever the case of their letters. -/
structure LocaleOrder (localeCompare : String → String → Ordering) : Prop where
  total : ∀ left right, localeCompare left right ≠ .gt ∨ localeCompare right left ≠ .gt
  trans : ∀ left middle right, localeCompare left middle ≠ .gt →
    localeCompare middle right ≠ .gt → localeCompare left right ≠ .gt
  letters : ∀ left ∈ schemaKeys, ∀ right ∈ schemaKeys,
    localeCompare left right = alphabetical left right

/-- Every right signature of a payload with this body is accepted, for every HMAC
function and every secret. -/
def AcceptsSignatures (datetime : String → Bool) (conventions : Conventions ℚ) (kind : MessageKind)
    (body : Fields ℚ) : Prop :=
  ∀ hmac deviceSecret payload parsed, unsigned payload = body → (payload.map Prod.fst).Nodup →
    Signed hmac conventions deviceSecret payload →
    parseProperties (payloadSchema datetime kind) payload = some parsed →
    verifyPayloadSignature hmac conventions deviceSecret parsed = true

/-- The keys of the schemas are told apart by the alphabetical order, and `meta` is the
first of those of an event. -/
structure KeysTold : Prop where
  strict : ∀ left ∈ schemaKeys, ∀ right ∈ schemaKeys, alphabetical left right ≠ .gt →
    alphabetical right left ≠ .gt → left = right
  named : ∀ key ∈ schemaKeys, arrayIndex key = none
  metaFirst : ∀ key ∈ keysOf (eventPayloadWithoutSig fun _ => true),
    key ∈ schemaKeys ∧ alphabetical "meta" key ≠ .gt
  axes : ∀ key ∈ keysOf accelProperties, key ∈ schemaKeys
  payload : ∀ kind, (keysOf (payloadWithoutSig (fun _ => true) kind)).Nodup ∧
    (∀ key ∈ keysOf (payloadWithoutSig (fun _ => true) kind), key ∈ schemaKeys) ∧
    "sig" ∉ keysOf (payloadWithoutSig (fun _ => true) kind)

/-- The keys of the schemas are told apart by the collation. -/
theorem keysTold : KeysTold := by
  refine ⟨?_, ?_, ?_, ?_, fun kind => ?_⟩
  case refine_5 => cases kind <;> decide +kernel
  all_goals decide +kernel

section Order

variable {conventions : Conventions ℚ} (order : LocaleOrder conventions.compareKeys)

include order

/-- A collation orders the keys of the schemas. -/
theorem schemaKeys_collation : Collation conventions schemaKeys where
  total := order.total
  trans := order.trans
  strict := by
    intro left inLeft right inRight leftFirst rightFirst
    rw [order.letters left inLeft right inRight] at leftFirst
    rw [order.letters right inRight left inLeft] at rightFirst
    exact KeysTold.strict keysTold left inLeft right inRight leftFirst rightFirst

/-- No key of an event comes before the one that may be left out. -/
theorem meta_least : ∀ key ∈ keysOf (eventPayloadWithoutSig fun _ => true),
    conventions.compareKeys "meta" key ≠ .gt := by
  intro key member
  obtain ⟨known, first⟩ := KeysTold.metaFirst keysTold key member
  rw [order.letters "meta" (by decide) key known]
  exact first

end Order

section Properties

variable (datetime : String → Bool) (kind : MessageKind)

/-- The keys do not depend on the test for date texts. -/
theorem keys_payloadWithoutSig :
    keysOf (payloadWithoutSig datetime kind) = keysOf (payloadWithoutSig (fun _ => true) kind) := by
  cases kind <;> rfl

/-- The keys of a message are distinct, known, and none is that of the signature. -/
theorem payloadKeys_known :
    (keysOf (payloadWithoutSig datetime kind)).Nodup ∧
      (∀ key ∈ keysOf (payloadWithoutSig datetime kind), key ∈ schemaKeys) ∧
      "sig" ∉ keysOf (payloadWithoutSig datetime kind) := by
  rw [keys_payloadWithoutSig]
  exact KeysTold.payload keysTold kind

variable {conventions : Conventions ℚ} (order : LocaleOrder conventions.compareKeys)

include order

/-- The acceleration drops whatever is not an axis. -/
theorem accel_faithful :
    Faithful conventions (object accelProperties) (wholeValue "accel") := by
  have axes : ∀ property ∈ accelProperties,
      Faithful conventions property.schema ((fun _ _ => True) property.key) := by
    intro property member
    simp only [accelProperties, List.mem_cons, List.not_mem_nil, or_false] at member
    rcases member with rfl | rfl | rfl <;> exact checked_faithful conventions _
  have keys : (keysOf accelProperties).Nodup := by decide
  have collation : Collation conventions (keysOf accelProperties) :=
    collation_mono (schemaKeys_collation order) (KeysTold.axes keysTold)
  have noDefaults : ∀ fields : Fields ℚ, DefaultsPresent accelProperties fields := by
    intro fields property member value isDefault
    simp only [accelProperties, List.mem_cons, List.not_mem_nil, or_false] at member
    rcases member with rfl | rfl | rfl <;> cases isDefault
  have wholeIff : ∀ fields : Fields ℚ, wholeValue "accel" (.object fields) ↔
      WholeFields (fun _ _ => True) accelProperties fields := by
    intro fields
    constructor
    · intro whole
      obtain ⟨same, sameObject, axesOnly⟩ := whole rfl
      cases sameObject
      exact ⟨axesOnly, fun _ _ _ _ => trivial⟩
    · intro whole _
      exact ⟨fields, rfl, whole.1⟩
  have parses : ∀ value parsed, object accelProperties value = some parsed →
      ∃ fields after, value = .object fields ∧ parsed = .object after ∧
        parseProperties accelProperties fields = some after := by
    intro value parsed passed
    cases value with
    | object fields =>
      obtain ⟨after, parses, same⟩ := Option.map_eq_some_iff.mp passed
      exact ⟨fields, after, rfl, same.symm, parses⟩
    | _ => cases passed
  constructor
  · intro value parsed distinct passed whole
    obtain ⟨fields, after, rfl, rfl, parses⟩ := parses value parsed passed
    cases distinct with
    | object _ distinctKeys each =>
      exact (object_faithful axes collation keys each distinctKeys (noDefaults fields) parses).1
        ((wholeIff fields).mp whole)
  · intro value parsed distinct passed broken
    obtain ⟨fields, after, rfl, rfl, parses⟩ := parses value parsed passed
    cases distinct with
    | object _ distinctKeys each =>
      exact length_canonical_lt conventions
        ((object_faithful axes collation keys each distinctKeys (noDefaults fields) parses).2
          fun whole => broken ((wholeIff fields).mpr whole))

/-- All other properties pass their values on as they are. -/
theorem payload_faithful : ∀ property ∈ payloadWithoutSig datetime kind,
    Faithful conventions property.schema (wholeValue property.key) := by
  have passedOn : ∀ (key : String) (check : Json ℚ → Bool), key ≠ "accel" →
      Faithful conventions (checked check) (wholeValue key) := by
    intro key check other
    have law := checked_faithful conventions check
    exact ⟨fun value parsed distinct passed _ => law.exact value parsed distinct passed trivial,
      fun _ _ _ _ broken => absurd (fun same => absurd same other) broken⟩
  intro property member
  cases kind with
  | telemetry =>
    simp only [payloadWithoutSig, telemetryPayloadWithoutSig, List.mem_cons, List.not_mem_nil,
      or_false] at member
    rcases member with rfl | rfl | rfl | rfl | rfl | rfl | rfl | rfl | rfl | rfl | rfl
    all_goals first
      | exact accel_faithful order
      | exact passedOn _ _ (by simp)
  | event =>
    simp only [payloadWithoutSig, eventPayloadWithoutSig, List.mem_cons, List.not_mem_nil,
      or_false] at member
    rcases member with rfl | rfl | rfl | rfl | rfl <;> exact passedOn _ _ (by simp)

end Properties

section Bodies

variable {datetime : String → Bool} {kind : MessageKind} {conventions : Conventions ℚ}
  {body parsedBody : Fields ℚ}

/-- An absent default is the metadata of an event. -/
theorem absent_default (absent : ¬ DefaultsPresent (payloadWithoutSig datetime kind) body) :
    kind = .event ∧ body.lookup "meta" = none := by
  simp only [DefaultsPresent, not_forall, ne_eq, not_not] at absent
  obtain ⟨property, member, value, isDefault, missing⟩ := absent
  cases kind with
  | telemetry =>
    simp only [payloadWithoutSig, telemetryPayloadWithoutSig, List.mem_cons, List.not_mem_nil,
      or_false] at member
    rcases member with rfl | rfl | rfl | rfl | rfl | rfl | rfl | rfl | rfl | rfl | rfl <;>
      cases isDefault
  | event =>
    simp only [payloadWithoutSig, eventPayloadWithoutSig, List.mem_cons, List.not_mem_nil,
      or_false] at member
    rcases member with rfl | rfl | rfl | rfl | rfl
    case inr.inr.inr.inl => exact ⟨rfl, missing⟩
    all_goals cases isDefault

/-- An event that was given empty metadata has them in its parsed form. -/
theorem parsed_meta (missing : body.lookup "meta" = none)
    (parses : parseProperties (payloadWithoutSig datetime .event) body = some parsedBody) :
    "meta" ∈ parsedBody.map Prod.fst := by
  have last : ∀ parsed, parseProperties [⟨"meta", .default (.object []), recordSchema⟩,
      ⟨"nonce", .required, nonceSchema⟩] body = some parsed → "meta" ∈ parsed.map Prod.fst := by
    intro parsed parses
    rw [parseProperties] at parses
    simp only [missing, Option.bind_eq_bind, Option.bind_eq_some_iff, Option.some.injEq] at parses
    obtain ⟨others, _, rfl⟩ := parses
    exact List.mem_cons_self ..
  have split : payloadWithoutSig datetime .event =
      [⟨"ts", .required, datetimeSchema datetime⟩, ⟨"type", .required, enumSchema eventTypes⟩,
        ⟨"severity", .required, enumSchema ["LOW", "MEDIUM", "HIGH", "CRITICAL"]⟩] ++
        [⟨"meta", .default (.object []), recordSchema⟩, ⟨"nonce", .required, nonceSchema⟩] := rfl
  rw [split, parseProperties_append, Option.bind_eq_some_iff] at parses
  obtain ⟨before, _, rest⟩ := parses
  obtain ⟨after, parsesLast, rfl⟩ := Option.map_eq_some_iff.mp rest
  rw [List.map_append, List.mem_append]
  exact Or.inr (last after parsesLast)

/-- A message that parses has properties. -/
theorem body_nonempty (parses : parseProperties (payloadWithoutSig datetime kind) body = some parsedBody) :
    body ≠ [] := by
  rintro rfl
  cases kind <;> simp [payloadWithoutSig, telemetryPayloadWithoutSig, eventPayloadWithoutSig,
    parseProperties] at parses

variable (order : LocaleOrder conventions.compareKeys)

include order

/-- The text of the parsed body is the text that was signed exactly for whole bodies. -/
theorem canonical_parsed_iff (distinct : Distinct (.object body))
    (parses : parseProperties (payloadWithoutSig datetime kind) body = some parsedBody) :
    canonicalJSONString conventions (.object parsedBody) =
        canonicalJSONString conventions (.object body) ↔
      Whole datetime kind body := by
  obtain ⟨keys, known, _⟩ := payloadKeys_known datetime kind
  have collation : Collation conventions (keysOf (payloadWithoutSig datetime kind)) :=
    collation_mono (schemaKeys_collation order) known
  cases distinct with
  | object _ distinctKeys each =>
    by_cases present : DefaultsPresent (payloadWithoutSig datetime kind) body
    · have faithful := object_faithful (payload_faithful datetime kind order) collation keys each
        distinctKeys present parses
      constructor
      · intro same
        refine ⟨?_, present⟩
        by_contra broken
        have shorter := length_canonical_lt conventions (faithful.2 broken)
        rw [same] at shorter
        exact Nat.lt_irrefl _ shorter
      · intro whole
        rw [canonicalJSONString, faithful.1 whole.1, canonicalJSONString]
    · -- The parsed text begins with the key `meta`, the original one with another key.
      refine iff_of_false ?_ fun whole => present whole.2
      intro same
      obtain ⟨rfl, missing⟩ := absent_default present
      obtain ⟨parsedRest, parsedText⟩ := canonical_object_least collation
        (fun key member => KeysTold.named keysTold key (known key member)) (parsed_keys parses)
        (parsed_meta missing parses) (meta_least order)
      obtain ⟨field, member, rest, text⟩ :=
        canonical_object_first conventions (body_nonempty parses)
      rw [parsedText, text, List.cons.injEq, quote, quote, List.cons_append, List.cons_append,
        List.cons.injEq, List.append_assoc, List.append_assoc] at same
      have letters : ("meta".toList.all fun letter => decide (letter ≠ '"' ∧ letter ≠ '\\')) = true := by
        decide
      have metaLetters : ∀ letter ∈ "meta".toList, letter ≠ '"' ∧ letter ≠ '\\' :=
        fun letter member => of_decide_eq_true (List.all_eq_true.mp letters letter member)
      have plain : "meta".toList.flatMap escape = "meta".toList := by decide
      rw [plain] at same
      have sameLetters := quote_prefix metaLetters same.2.2.symm
      have sameKey : field.1 = "meta" := String.toList_inj.mp sameLetters
      have looked := (lookup_eq_some_iff distinctKeys field.1 field.2).mpr member
      rw [sameKey, missing] at looked
      cases looked

end Bodies

section Verification

/-- A digit is read as it was written. -/
theorem hexValue_hexDigit : ∀ value < 16, hexValue (hexDigit value) = some value := by
  decide

/-- The digits of a digest decode to its bytes. -/
theorem decodeHex_bytes (bytes : List (Fin 256)) :
    decodeHex (bytes.flatMap byteText) = bytes.map Fin.val := by
  induction bytes with
  | nil => rfl
  | cons byte rest inductionHypothesis =>
    have high : hexValue (hexDigit (byte / 16)) = some ((byte : Nat) / 16) :=
      hexValue_hexDigit _ (by omega)
    have low : hexValue (hexDigit (byte % 16)) = some ((byte : Nat) % 16) :=
      hexValue_hexDigit _ (by omega)
    have whole : 16 * ((byte : Nat) / 16) + (byte : Nat) % 16 = byte := by omega
    simp only [List.flatMap_cons, byteText, List.cons_append, List.nil_append, decodeHex, high, low,
      whole, inductionHypothesis, List.map_cons]

variable {datetime : String → Bool} {kind : MessageKind} {conventions : Conventions ℚ}
  {body parsedBody payload parsed : Fields ℚ}

/-- The other properties are there without the signature as well. -/
theorem lookup_unsigned (payload : Fields ℚ) {key : String} (other : key ≠ "sig") :
    (unsigned payload).lookup key = payload.lookup key := by
  induction payload with
  | nil => rfl
  | cons field rest inductionHypothesis =>
    obtain ⟨firstKey, value⟩ := field
    by_cases isSig : firstKey = "sig"
    · subst isSig
      have different : (key == "sig") = false := by simpa using other
      simpa [unsigned, List.lookup_cons, different] using inductionHypothesis
    · by_cases same : key = firstKey
      · subst same
        simp [unsigned, isSig]
      · have different : (key == firstKey) = false := by simpa using same
        simpa [unsigned, isSig, List.lookup_cons, different] using inductionHypothesis

/-- A key that no property has is not found. -/
theorem lookup_absent {key : String} (absent : ∀ field ∈ body, field.1 ≠ key) :
    body.lookup key = none := by
  rw [List.lookup_eq_none_iff]
  intro field member
  exact bne_iff_ne.mpr (absent field member).symm

/-- Without a signature nothing is taken away. -/
theorem unsigned_of_absent (absent : ∀ field ∈ body, field.1 ≠ "sig") : unsigned body = body := by
  rw [unsigned, List.filter_eq_self]
  intro field member
  simpa using absent field member

variable (datetime kind) in
/-- Parsing a signed payload is parsing its body and keeping the signature. -/
theorem parsed_signed {sig : String} (carried : payload.lookup "sig" = some (.string sig))
    (hexadecimal : isSignatureHex sig = true) :
    parseProperties (payloadSchema datetime kind) payload =
      (parseProperties (payloadWithoutSig datetime kind) (unsigned payload)).map fun before =>
        before ++ [("sig", Json.string sig)] := by
  have sameBody : parseProperties (payloadWithoutSig datetime kind) payload =
      parseProperties (payloadWithoutSig datetime kind) (unsigned payload) := by
    apply parseProperties_congr
    intro property member
    have other : property.key ≠ "sig" := by
      intro same
      exact (payloadKeys_known datetime kind).2.2 (same ▸ List.mem_map_of_mem member)
    exact (lookup_unsigned payload other).symm
  have keptSig : parseProperties [sigProperty] payload = some [("sig", Json.string sig)] := by
    simp [parseProperties, sigProperty, carried, signatureHexSchema, checked, hexadecimal]
  rw [payloadSchema, parseProperties_append, keptSig, sameBody]
  cases parseProperties (payloadWithoutSig datetime kind) (unsigned payload) <;> rfl

/-- A right signature is accepted when the digests of the parsed and of the original
body are equal, and only then. -/
theorem verify_signed (hmac : Hmac) (deviceSecret : String)
    (parses : parseProperties (payloadWithoutSig datetime kind) (unsigned payload) = some parsedBody)
    (signed : Signed hmac conventions deviceSecret payload)
    (parsesSigned : parseProperties (payloadSchema datetime kind) payload = some parsed) :
    verifyPayloadSignature hmac conventions deviceSecret parsed = true ↔
      (hmac deviceSecret (canonicalJSONString conventions (.object parsedBody))).bytes =
        (hmac deviceSecret (canonicalJSONString conventions (.object (unsigned payload)))).bytes := by
  obtain ⟨sig, carried, hexadecimal, right⟩ := signed
  rw [parsed_signed datetime kind carried hexadecimal, parses, Option.map_some,
    Option.some.injEq] at parsesSigned
  subst parsesSigned
  have bodyOnly : ∀ field ∈ parsedBody, field.1 ≠ "sig" := by
    intro field member same
    exact (payloadKeys_known datetime kind).2.2 (same ▸ parsed_keys parses field member)
  have removed : unsigned (parsedBody ++ [("sig", Json.string sig)]) = parsedBody := by
    have kept := unsigned_of_absent bodyOnly
    rw [unsigned] at kept ⊢
    rw [List.filter_append, kept]
    simp
  have found : (parsedBody ++ [("sig", Json.string sig)]).lookup "sig" = some (.string sig) := by
    rw [List.lookup_append, lookup_absent bodyOnly]
    rfl
  rw [verifyPayloadSignature, found, removed]
  simp only [hexadecimal, Bool.true_and, timingSafeHexEqual, beq_iff_eq, right,
    computePayloadSignature, decodeHex_bytes]
  rw [(List.map_injective_iff.mpr Fin.val_injective).eq_iff, eq_comm]

/-- A digest that tells one text from all others. -/
def zeros : Digest := ⟨List.replicate 32 0, by simp⟩
/-- A digest of ones. -/
def ones : Digest := ⟨List.replicate 32 1, by simp⟩

/-- A function that tells one text from all others. -/
def telling (text : List Char) : Hmac := fun _ other => if other = text then zeros else ones

/-- The text of a digest of zeros. -/
def zeroText : String := String.ofList (List.replicate 64 '0')

/-- It is the text of a digest. -/
theorem zeroText_signed : isSignatureHex zeroText = true ∧
    decodeHex zeroText.toList = List.replicate 32 0 := by
  decide +kernel

/-- An HMAC function that tells the two texts apart lets a right signature fail. -/
theorem not_accepted (distinct : Distinct (.object body))
    (unsignedBody : ∀ field ∈ body, field.1 ≠ "sig")
    (parses : parseProperties (payloadWithoutSig datetime kind) body = some parsedBody)
    (different : canonicalJSONString conventions (.object parsedBody) ≠
      canonicalJSONString conventions (.object body)) :
    ¬ AcceptsSignatures datetime conventions kind body := by
  intro accepts
  have bodyOf : unsigned (body ++ [("sig", Json.string zeroText)]) = body := by
    have kept := unsigned_of_absent unsignedBody
    rw [unsigned] at kept ⊢
    rw [List.filter_append, kept]
    simp
  have carried : (body ++ [("sig", Json.string zeroText)]).lookup "sig" = some (.string zeroText) := by
    rw [List.lookup_append, lookup_absent unsignedBody]
    rfl
  have keys : ((body ++ [("sig", Json.string zeroText)]).map Prod.fst).Nodup := by
    cases distinct with
    | object _ distinctKeys _ =>
      rw [List.map_append, List.nodup_append]
      refine ⟨distinctKeys, List.nodup_singleton _, ?_⟩
      intro key member sig isSig same
      obtain ⟨field, inBody, sameKey⟩ := List.mem_map.mp member
      exact unsignedBody field inBody (by rw [sameKey, same, List.mem_singleton.mp isSig])
  have signed : Signed (telling (canonicalJSONString conventions (.object body))) conventions ""
      (body ++ [("sig", Json.string zeroText)]) := by
    refine ⟨zeroText, carried, zeroText_signed.1, ?_⟩
    rw [bodyOf, computePayloadSignature, decodeHex_bytes, zeroText_signed.2]
    simp [telling, zeros]
  have parsesSigned := parsed_signed datetime kind carried zeroText_signed.1
  rw [bodyOf, parses, Option.map_some] at parsesSigned
  have verified := accepts _ _ _ _ bodyOf keys signed parsesSigned
  rw [← bodyOf] at parses
  rw [verify_signed _ _ parses signed parsesSigned, bodyOf] at verified
  simp [telling, different, zeros, ones] at verified

/-- A right signature is accepted, for every HMAC function, every secret and every
place of the signature in the payload, exactly when the body is whole. -/
theorem signature_accepted_iff (order : LocaleOrder conventions.compareKeys)
    (distinct : Distinct (.object body)) (unsignedBody : ∀ field ∈ body, field.1 ≠ "sig")
    (valid : (parseProperties (payloadWithoutSig datetime kind) body).isSome = true) :
    AcceptsSignatures datetime conventions kind body ↔ Whole datetime kind body := by
  obtain ⟨parsedBody, parses⟩ := Option.isSome_iff_exists.mp valid
  rw [← canonical_parsed_iff order distinct parses]
  constructor
  · intro accepts
    by_contra different
    exact not_accepted distinct unsignedBody parses different accepts
  · intro same hmac deviceSecret payload parsed bodyOf _ signed parsesSigned
    rw [← bodyOf] at parses same
    exact (verify_signed hmac deviceSecret parses signed parsesSigned).mpr (by rw [same])

end Verification

section Samples

/-- The order by letters is that of the lists of letters. -/
theorem alphabetical_iff (left right : String) :
    alphabetical left right ≠ .gt ↔
      left.toList.map (fun letter => letter.toLower.toNat) ≤
        right.toList.map (fun letter => letter.toLower.toNat) := by
  rw [alphabetical, compareOfLessAndEq]
  rcases lt_trichotomy (left.toList.map fun letter => letter.toLower.toNat)
      (right.toList.map fun letter => letter.toLower.toNat) with before | same | after
  · simp [before, before.le]
  · simp [same]
  · simp [after, after.asymm, after.ne']

/-- Integers are written as decimal numbers, keys are ordered alphabetically. -/
def sampleConventions : Conventions ℚ := ⟨fun number => (toString number.num).toList, alphabetical⟩

/-- The sample orders keys as a language does. -/
theorem sampleConventions_order : LocaleOrder sampleConventions.compareKeys where
  total := by
    intro left right
    rw [sampleConventions, alphabetical_iff, alphabetical_iff]
    exact le_total _ _
  trans := by
    intro left middle right
    rw [sampleConventions, alphabetical_iff, alphabetical_iff, alphabetical_iff]
    exact le_trans
  letters := fun _ _ _ _ => rfl

/-- A schema that takes one text for an instant. -/
def sampleDatetime (text : String) : Bool := text == "2026-03-04T12:34:56.000Z"

/-- A packet with its properties out of order. -/
def sampleTelemetry : Fields ℚ :=
  [("ts", .string "2026-03-04T12:34:56.000Z"), ("lng", .number 30), ("lat", .number (-2)),
   ("speedKph", .number 41), ("accel", .object [("z", .number 10), ("x", .number 0), ("y", .number 1)]),
   ("nonce", .string "fc94e113")]

/-- The event of the contract's example without its metadata. -/
def bareEvent : Fields ℚ :=
  [("ts", .string "2026-03-04T12:34:56.000Z"), ("type", .string "SOS"),
   ("severity", .string "HIGH"), ("nonce", .string "fc94e113")]

/-- The packet has no property twice. -/
theorem sampleTelemetry_distinct : Distinct (.object sampleTelemetry) := by
  refine Distinct.object _ (by decide) ?_
  intro field member
  simp only [sampleTelemetry, List.mem_cons, List.not_mem_nil, or_false] at member
  rcases member with rfl | rfl | rfl | rfl | rfl | rfl
  case inr.inr.inr.inr.inl =>
    refine Distinct.object _ (by decide) ?_
    intro axis axisMember
    simp only [List.mem_cons, List.not_mem_nil, or_false] at axisMember
    rcases axisMember with rfl | rfl | rfl <;> exact Distinct.number _
  all_goals first
    | exact Distinct.number _
    | exact Distinct.string _

/-- The packet has all its properties. -/
theorem sampleTelemetry_whole : Whole sampleDatetime .telemetry sampleTelemetry := by
  refine ⟨⟨?_, ?_⟩, ?_⟩
  · have known : ∀ key ∈ sampleTelemetry.map Prod.fst,
        key ∈ keysOf (payloadWithoutSig sampleDatetime .telemetry) := by decide +kernel
    exact fun field member => known field.1 (List.mem_map_of_mem member)
  · intro property _ value found isAccel
    rw [isAccel] at found
    obtain rfl : Json.object [("z", .number 10), ("x", .number 0), ("y", .number 1)] = value :=
      Option.some.inj found
    refine ⟨_, rfl, ?_⟩
    have axes : ∀ key ∈ ["z", "x", "y"], key ∈ ["x", "y", "z"] := by decide
    exact fun field member => axes field.1 (List.mem_map.mpr ⟨field, member, rfl⟩)
  · by_contra absent
    exact MessageKind.noConfusion (absent_default absent).1

/-- The signature of the packet is accepted. -/
theorem signature_accepted_sampleTelemetry :
    AcceptsSignatures sampleDatetime sampleConventions .telemetry sampleTelemetry :=
  (signature_accepted_iff sampleConventions_order sampleTelemetry_distinct (by decide +kernel)
    (by decide +kernel)).mpr sampleTelemetry_whole

/-- A rightly signed event without metadata is refused. -/
theorem bareEvent_refused :
    ¬ AcceptsSignatures sampleDatetime sampleConventions .event bareEvent := by
  have distinct : Distinct (.object bareEvent) := by
    refine Distinct.object _ (by decide) ?_
    intro field member
    simp only [bareEvent, List.mem_cons, List.not_mem_nil, or_false] at member
    rcases member with rfl | rfl | rfl | rfl <;> exact Distinct.string _
  have parses : parseProperties (payloadWithoutSig sampleDatetime .event) bareEvent =
      some [("ts", .string "2026-03-04T12:34:56.000Z"), ("type", .string "SOS"),
        ("severity", .string "HIGH"), ("meta", .object []), ("nonce", .string "fc94e113")] := by
    rfl
  exact not_accepted distinct (by decide +kernel) parses (by decide +kernel)

end Samples

end EmotoFleet.MqttSignatures
