import EmotoFleet.Foundations.Tables

/-!
# Texts inside markup

A document is read letter by letter. A letter is read in the running text, in a tag or in a
quoted value inside a tag, and quotes inside tags surround values. A template has holes for
texts; where its holes are in the running text or in quoted values, texts whose special
letters are written as references leave its tags as they are, and a reader sees the texts.

Comments and elements whose contents are no markup are not covered. Nothing here mentions a
particular program.
-/

namespace EmotoFleet.Markup

/-- A text is the list of its letters. -/
abbrev Letters := List Char

/-- Where a reader of the markup stands. -/
inductive Place where
  | text
  | opened
  | tag
  | doubleQuoted
  | singleQuoted
  deriving DecidableEq

/-- The double quotation mark. -/
def doubleQuote : Char := Char.ofNat 34

/-- The single quotation mark. -/
def singleQuote : Char := Char.ofNat 39

/-- A letter that makes a tag of the bracket before it. -/
def opensTag (letter : Char) : Bool :=
  letter.isAlpha || letter == '/' || letter == '!' || letter == '?'

/-- Where the letter after this one is read. -/
def next : Place → Char → Place
  | .text, letter => if letter = '<' then .opened else .text
  | .opened, letter =>
    if opensTag letter then .tag else if letter = '<' then .opened else .text
  | .tag, letter =>
    if letter = '>' then .text
    else if letter = doubleQuote then .doubleQuoted
    else if letter = singleQuote then .singleQuoted
    else .tag
  | .doubleQuoted, letter => if letter = doubleQuote then .tag else .doubleQuoted
  | .singleQuoted, letter => if letter = singleQuote then .tag else .singleQuoted

/-- A letter in running text or in a value that stays there. -/
def isContent (place : Place) (letter : Char) : Bool :=
  match place with
  | .text | .doubleQuoted | .singleQuoted => next place letter == place
  | .opened | .tag => false

/-- Where a reader stands after some letters. -/
def after (place : Place) (letters : Letters) : Place :=
  letters.foldl next place

/-- The letters of the tags, without what their values say. -/
def skeleton : Place → Letters → Letters
  | _, [] => []
  | place, letter :: rest =>
    if isContent place letter then skeleton (next place letter) rest
    else letter :: skeleton (next place letter) rest

/-- What is written in places of one kind: the running text, or the quoted values. -/
def contents (kind : Place) : Place → Letters → Letters
  | _, [] => []
  | place, letter :: rest =>
    if place = kind ∧ isContent place letter then letter :: contents kind (next place letter) rest
    else contents kind (next place letter) rest

/-- After no letters the reader stands still. -/
@[simp] theorem after_nil (place : Place) : after place [] = place := rfl

/-- The skeleton of two texts is that of the first and then of the second. -/
theorem skeleton_append (place : Place) (first second : Letters) :
    skeleton place (first ++ second) =
      skeleton place first ++ skeleton (after place first) second := by
  induction first generalizing place with
  | nil => rfl
  | cons letter rest inductionHypothesis =>
    simp only [List.cons_append, skeleton, inductionHypothesis]
    split
    · rfl
    · rfl

/-- The contents of two texts are those of both. -/
theorem contents_append (kind place : Place) (first second : Letters) :
    contents kind place (first ++ second) =
      contents kind place first ++ contents kind (after place first) second := by
  induction first generalizing place with
  | nil => rfl
  | cons letter rest inductionHypothesis =>
    simp only [List.cons_append, contents, inductionHypothesis]
    split
    · rfl
    · rfl

/-- What is read was written. -/
theorem mem_of_mem_contents {kind place : Place} {letters : Letters} {letter : Char}
    (kept : letter ∈ contents kind place letters) : letter ∈ letters := by
  induction letters generalizing place with
  | nil => cases kept
  | cons first rest inductionHypothesis =>
    rw [contents] at kept
    split at kept
    case isTrue =>
      rcases List.mem_cons.mp kept with rfl | later
      · exact List.mem_cons_self
      · exact List.mem_cons_of_mem _ (inductionHypothesis later)
    case isFalse => exact List.mem_cons_of_mem _ (inductionHypothesis kept)

/-! ## References -/

/-- The special letters and the names that stand for them. -/
def references : List (Char × Letters) :=
  [('&', ['a', 'm', 'p', ';']), ('<', ['l', 't', ';']), ('>', ['g', 't', ';']),
    (doubleQuote, ['q', 'u', 'o', 't', ';']), (singleQuote, ['#', '0', '3', '9', ';'])]

/-- A special letter becomes its reference, every other letter stays. -/
def reference (letter : Char) : Letters :=
  match references.lookup letter with
  | some name => '&' :: name
  | none => [letter]

/-- A text with its special letters as references. -/
def escape (text : Letters) : Letters := text.flatMap reference

/-- The text with every reference read as its letter. `skip` letters belong to the reference
before. -/
def decodeFrom : Nat → Letters → Letters
  | _, [] => []
  | skip + 1, _ :: rest => decodeFrom skip rest
  | 0, letter :: rest =>
    if letter = '&' then
      match references.find? fun entry => entry.2.isPrefixOf rest with
      | some entry => entry.1 :: decodeFrom entry.2.length rest
      | none => '&' :: decodeFrom 0 rest
    else letter :: decodeFrom 0 rest

/-- A text with its references read. -/
def decode (letters : Letters) : Letters := decodeFrom 0 letters

/-- Letters that were read are skipped. -/
theorem decodeFrom_skip (skipped rest : Letters) :
    decodeFrom skipped.length (skipped ++ rest) = decode rest := by
  induction skipped with
  | nil => rfl
  | cons letter more inductionHypothesis => exact inductionHypothesis

/-- A letter that is written as a reference or as itself is read as itself. -/
theorem decode_reference (letter : Char) (rest : Letters) :
    decode (reference letter ++ rest) = letter :: decode rest := by
  cases named : references.lookup letter with
  | some name =>
    rw [reference, named]
    have listed : (letter, name) ∈ references := Tables.mem_of_lookup named
    simp only [references, List.mem_cons, List.not_mem_nil, or_false, Prod.mk.injEq] at listed
    -- no name is a beginning of another one, so that each finds its own letter
    rcases listed with ⟨rfl, rfl⟩ | ⟨rfl, rfl⟩ | ⟨rfl, rfl⟩ | ⟨rfl, rfl⟩ | ⟨rfl, rfl⟩
    all_goals exact congrArg (_ :: ·) (decodeFrom_skip _ rest)
  | none =>
    have other : letter ≠ '&' := by
      intro same
      subst same
      cases named
    rw [reference, named, decode, List.singleton_append, decodeFrom, if_neg other]
    rfl

/-- An escaped text is read as the text. -/
theorem decode_escape_append (text rest : Letters) :
    decode (escape text ++ rest) = text ++ decode rest := by
  induction text with
  | nil => rfl
  | cons letter more inductionHypothesis =>
    rw [escape, List.flatMap_cons, List.append_assoc, decode_reference]
    exact congrArg (letter :: ·) inductionHypothesis

/-- A text without references is read as it is. -/
theorem decode_plain_append {plain : Letters} (free : '&' ∉ plain) (rest : Letters) :
    decode (plain ++ rest) = plain ++ decode rest := by
  induction plain with
  | nil => rfl
  | cons letter more inductionHypothesis =>
    have other : letter ≠ '&' := fun same => free (same ▸ List.mem_cons_self)
    rw [List.cons_append, decode, decodeFrom, if_neg other]
    exact congrArg (letter :: ·)
      (inductionHypothesis fun inside => free (List.mem_cons_of_mem _ inside))

/-! ## Written texts stay where they are put -/

/-- The places that take a text. -/
def takesText (place : Place) : Bool :=
  place == .text || place == .doubleQuoted || place == .singleQuoted

/-- The letters that markup is made of. -/
def isSpecial (letter : Char) : Bool :=
  letter == '<' || letter == '>' || letter == doubleQuote || letter == singleQuote

/-- The names of references have no special letters. -/
theorem names_harmless :
    (references.all fun entry => ('&' :: entry.2).all fun letter => !isSpecial letter) = true :=
  rfl

/-- An escaped text has no special letters. -/
theorem escape_harmless {text : Letters} {letter : Char} (written : letter ∈ escape text) :
    isSpecial letter = false := by
  obtain ⟨original, _, inside⟩ := List.mem_flatMap.mp written
  cases named : references.lookup original with
  | some name =>
    rw [reference, named] at inside
    have harmless := List.all_eq_true.mp names_harmless (original, name) (Tables.mem_of_lookup named)
    simpa only [Bool.not_eq_true'] using List.all_eq_true.mp harmless letter inside
  | none =>
    rw [reference, named] at inside
    obtain rfl := List.mem_singleton.mp inside
    simp only [references, List.lookup_cons, List.lookup_nil] at named
    by_cases special : isSpecial letter = true
    · simp only [isSpecial, Bool.or_eq_true, beq_iff_eq] at special
      rcases special with ((rfl | rfl) | rfl) | rfl
      all_goals cases named
    · exact eq_false_of_ne_true special

/-- A letter that is not special leaves the reader in the text. -/
theorem next_harmless {place : Place} (takes : takesText place = true) {letter : Char}
    (harmless : isSpecial letter = false) : next place letter = place := by
  simp only [isSpecial, Bool.or_eq_false_iff, beq_eq_false_iff_ne] at harmless
  cases place with
  | text => exact if_neg harmless.1.1.1
  | doubleQuoted => exact if_neg harmless.1.2
  | singleQuoted => exact if_neg harmless.2
  | opened | tag => cases takes

/-- A harmless text is content from its first letter to its last. -/
theorem harmless_content {place : Place} (takes : takesText place = true) {text : Letters}
    (harmless : ∀ letter ∈ text, isSpecial letter = false) :
    after place text = place ∧ skeleton place text = [] ∧
      ∀ kind, contents kind place text = if place = kind then text else [] := by
  induction text with
  | nil => exact ⟨rfl, rfl, fun _ => (ite_self _).symm⟩
  | cons letter rest inductionHypothesis =>
    obtain ⟨there, bare, held⟩ :=
      inductionHypothesis fun other listed => harmless other (List.mem_cons_of_mem _ listed)
    have stays := next_harmless takes (harmless letter List.mem_cons_self)
    have content : isContent place letter = true := by
      cases place with
      | text | doubleQuoted | singleQuoted => exact beq_iff_eq.mpr stays
      | opened | tag => cases takes
    refine ⟨?_, ?_, fun kind => ?_⟩
    · rw [after, List.foldl_cons, stays]
      exact there
    · rw [skeleton, if_pos content, stays, bare]
    · rw [contents, stays, held, content]
      by_cases same : place = kind
      · rw [if_pos same, if_pos ⟨same, rfl⟩, if_pos same]
      · rw [if_neg same, if_neg fun both => same both.1, if_neg same]

/-! ## Templates -/

section Templates

variable {φ : Type*}

/-- A piece of a template. -/
inductive Piece (φ : Type*) where
  | literal (text : Letters)
  | hole (field : φ)

/-- A template with its holes filled. -/
def fill (values : φ → Letters) : List (Piece φ) → Letters
  | [] => []
  | .literal text :: rest => text ++ fill values rest
  | .hole field :: rest => values field ++ fill values rest

/-- All holes are where a text can be, and the template has no references of its own. -/
def wellPlaced : Place → List (Piece φ) → Bool
  | _, [] => true
  | place, .literal text :: rest =>
    !text.contains '&' && wellPlaced (after place text) rest
  | place, .hole _ :: rest => takesText place && wellPlaced place rest

/-- The tags of the template. -/
def outline : Place → List (Piece φ) → Letters
  | _, [] => []
  | place, .literal text :: rest => skeleton place text ++ outline (after place text) rest
  | place, .hole _ :: rest => outline place rest

/-- What places of one kind say when the values are put in. -/
def shown (values : φ → Letters) (kind : Place) : Place → List (Piece φ) → Letters
  | _, [] => []
  | place, .literal text :: rest =>
    contents kind place text ++ shown values kind (after place text) rest
  | place, .hole field :: rest =>
    (if place = kind then values field else []) ++ shown values kind place rest

/-- Whatever is written into a template, its tags are those of the template. By induction on
the pieces. -/
theorem skeleton_fill {values : φ → Letters} {place : Place} {pieces : List (Piece φ)}
    (placed : wellPlaced place pieces = true) :
    skeleton place (fill (fun field => escape (values field)) pieces) = outline place pieces := by
  induction pieces generalizing place with
  | nil => rfl
  | cons piece rest inductionHypothesis =>
    cases piece with
    | literal text =>
      rw [wellPlaced, Bool.and_eq_true] at placed
      rw [fill, skeleton_append, outline, inductionHypothesis placed.2]
    | hole field =>
      rw [wellPlaced, Bool.and_eq_true] at placed
      obtain ⟨there, bare, _⟩ := harmless_content placed.1 fun _ written =>
        @escape_harmless (values field) _ written
      rw [fill, skeleton_append, there, bare, outline, inductionHypothesis placed.2]
      rfl

/-- And what is read at the holes are the values, letter by letter. -/
theorem decode_fill {values : φ → Letters} {kind place : Place} {pieces : List (Piece φ)}
    (placed : wellPlaced place pieces = true) :
    decode (contents kind place (fill (fun field => escape (values field)) pieces)) =
      shown values kind place pieces := by
  induction pieces generalizing place with
  | nil => rfl
  | cons piece rest inductionHypothesis =>
    cases piece with
    | literal text =>
      rw [wellPlaced, Bool.and_eq_true] at placed
      have free : '&' ∉ text := by simpa using placed.1
      rw [fill, contents_append, decode_plain_append fun kept => free (mem_of_mem_contents kept),
        inductionHypothesis placed.2, shown]
    | hole field =>
      rw [wellPlaced, Bool.and_eq_true] at placed
      obtain ⟨there, _, held⟩ := harmless_content placed.1 fun _ written =>
        @escape_harmless (values field) _ written
      rw [fill, contents_append, there, held, shown]
      split
      case isTrue => rw [decode_escape_append, inductionHypothesis placed.2]
      case isFalse => exact inductionHypothesis placed.2

end Templates

end EmotoFleet.Markup
