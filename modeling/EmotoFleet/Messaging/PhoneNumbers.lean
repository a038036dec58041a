import EmotoFleet.Accounts.UserIdentities
import EmotoFleet.Billing.MomoGateway
import EmotoFleet.Telemetry.MqttSignatures

/-!
# The recipients of texts and payment requests

A phone number is brought into the international form twice: where a text is sent, and where
a payment is requested. The first removes some separators and asks for the length, the second
keeps the digits only and asks for the leading ones. They agree on a number in its usual
spellings, and neither of them knows the exit code `00`.
-/

namespace EmotoFleet.PhoneNumbers

open EmotoFleet.WhiteSpace (isSpace isSpace_of_printing)
open EmotoFleet.MqttSignatures (utf16Length)

/-- The characters of a text. -/
abbrev Letters := List Char

namespace SmsService

/-- The characters that are removed first: white space, parentheses, plus and hyphen. -/
def isSeparator (letter : Char) : Bool :=
  isSpace letter || ['(', ')', '+', '-'].contains letter

/-- A leading zero gives way to the country code, and nine digits get it in front. -/
def withCountry (cleaned : Letters) : Letters :=
  if "0".toList.isPrefixOf cleaned then "250".toList ++ cleaned.drop 1
  else if utf16Length (String.ofList cleaned) = 9 &&
      ("7".toList.isPrefixOf cleaned || "8".toList.isPrefixOf cleaned) then
    "250".toList ++ cleaned
  else cleaned

/-- The number that the text messages go to. -/
def normalizePhone (phone : String) : String :=
  let cleaned := withCountry (phone.toList.filter fun letter => !isSeparator letter)
  if "+".toList.isPrefixOf cleaned then String.ofList cleaned
  else String.ofList ("+".toList ++ cleaned)

end SmsService

/-! ## Spellings -/

/-- The digits of a text. -/
def digits (text : String) : Letters := text.toList.filter Char.isDigit

/-- A number of nine digits, without the leading zero or the country code. -/
structure PhoneNumber where
  digits : Letters
  nine : digits.length = 9
  decimal : digits.all Char.isDigit = true

/-- What is written before the nine digits. A plus before the country code is a separator. -/
inductive Form where
  | zero
  | bare
  | country
  | exitCode
deriving DecidableEq

/-- What each form writes in front of the number. -/
def Form.digits : Form → Letters
  | .zero => "0".toList
  | .bare => []
  | .country => "250".toList
  | .exitCode => "00250".toList

/-- A text that spells a number, with any characters between the digits. -/
structure Spelling where
  text : String
  number : PhoneNumber
  form : Form
  spells : digits text = form.digits ++ number.digits

/-- The number with a plus and the country code. -/
def PhoneNumber.international (number : PhoneNumber) : Letters :=
  "250".toList ++ number.digits

/-- Texts and payment requests go to the same number, the one that its international form
names, and normalizing it again changes nothing. -/
structure OneRecipient (spelling : Spelling) : Prop where
  agree : digits (SmsService.normalizePhone spelling.text) =
    (MomoGateway.normalizePhone spelling.text).toList
  sms : SmsService.normalizePhone spelling.text =
    SmsService.normalizePhone (String.ofList ("+".toList ++ spelling.number.international))
  momo : MomoGateway.normalizePhone spelling.text =
    MomoGateway.normalizePhone (String.ofList ("+".toList ++ spelling.number.international))
  sms_again : SmsService.normalizePhone (SmsService.normalizePhone spelling.text) =
    SmsService.normalizePhone spelling.text
  momo_again : MomoGateway.normalizePhone (MomoGateway.normalizePhone spelling.text) =
    MomoGateway.normalizePhone spelling.text

/-- The codes of the operators that a payment request knows. -/
def hasOperatorCode (letters : Letters) : Bool :=
  ["78", "79", "72", "73"].any fun code => code.toList.isPrefixOf letters

/-- There are only separators between the digits, the number does not begin with the exit
code, and without any code it begins with the code of an operator. -/
def Spelling.Usual (spelling : Spelling) : Prop :=
  (∀ letter ∈ spelling.text.toList, letter.isDigit = true ∨ SmsService.isSeparator letter = true) ∧
    spelling.form ≠ .exitCode ∧
    (spelling.form = .bare → hasOperatorCode spelling.number.digits = true)

/-! ## Letters -/

section Letters

variable {letter : Char} {letters rest : Letters}

/-- The codes of the digits. -/
theorem digit_range (digit : letter.isDigit = true) :
    48 ≤ letter.toNat ∧ letter.toNat ≤ 57 := by
  simp only [Char.isDigit, Bool.and_eq_true, decide_eq_true_eq, UInt32.le_iff_toNat_le] at digit
  exact digit

/-- No digit is a separator. -/
theorem isDigit_not_separator (digit : letter.isDigit = true) :
    SmsService.isSeparator letter = false := by
  obtain ⟨low, high⟩ := digit_range digit
  have printing : isSpace letter = false := isSpace_of_printing (by omega) (by omega)
  have sign : ['(', ')', '+', '-'].contains letter = false := by
    have other : ['(', ')', '+', '-'].any Char.isDigit = false := by decide
    rw [Bool.eq_false_iff, ne_eq, List.contains_iff_mem]
    intro member
    rw [List.any_eq_true.mpr ⟨letter, member, digit⟩] at other
    cases other
  rw [SmsService.isSeparator, printing, sign, Bool.or_self]

/-- A text of digits has as many units as letters. -/
theorem utf16Length_digits (decimal : letters.all Char.isDigit = true) :
    utf16Length (String.ofList letters) = letters.length := by
  rw [utf16Length, String.toList_ofList]
  induction letters with
  | nil => rfl
  | cons letter rest ih =>
    rw [List.all_cons, Bool.and_eq_true] at decimal
    have range : letter.toNat ≤ 57 := (digit_range decimal.1).2
    rw [List.map_cons, List.sum_cons, ih decimal.2, if_pos (by omega), List.length_cons]
    omega

/-- What starts with a zero is a zero and the rest. -/
theorem zero_prefix (zero : "0".toList.isPrefixOf letters = true) :
    ∃ rest, letters = '0' :: rest := by
  obtain ⟨rest, equal⟩ := List.isPrefixOf_iff_prefix.mp zero
  exact ⟨rest, equal.symm⟩

/-- All codes of operators begin with a seven. -/
theorem hasOperatorCode_seven (known : hasOperatorCode letters = true) :
    ∃ rest, letters = '7' :: rest := by
  rw [hasOperatorCode, List.any_eq_true] at known
  obtain ⟨code, member, leading⟩ := known
  obtain ⟨rest, equal⟩ := List.isPrefixOf_iff_prefix.mp leading
  simp only [List.mem_cons, List.not_mem_nil, or_false] at member
  rcases member with rfl | rfl | rfl | rfl
  all_goals exact ⟨_, equal.symm⟩

end Letters

/-! ## Texts -/

section Texts

variable {letters : Letters} {letter : Char}

/-- A number with its country is left as it is. -/
theorem withCountry_of_country (rest : Letters) :
    SmsService.withCountry ("250".toList ++ rest) = "250".toList ++ rest := by
  simp [SmsService.withCountry]

/-- The country is put in front or is there. -/
theorem withCountry_cases (letters : Letters) :
    SmsService.withCountry letters = letters ∨
      ∃ rest, SmsService.withCountry letters = "250".toList ++ rest := by
  unfold SmsService.withCountry
  split
  case isTrue => exact Or.inr ⟨_, rfl⟩
  case isFalse =>
    split
    case isTrue => exact Or.inr ⟨_, rfl⟩
    case isFalse => exact Or.inl rfl

/-- The country is put in front once. -/
theorem withCountry_idem (letters : Letters) :
    SmsService.withCountry (SmsService.withCountry letters) = SmsService.withCountry letters := by
  rcases withCountry_cases letters with same | ⟨rest, country⟩
  · rw [same, same]
  · rw [country, withCountry_of_country]

/-- Nothing is lost but a leading zero. -/
theorem mem_withCountry (member : letter ∈ letters) (other : letter ≠ '0') :
    letter ∈ SmsService.withCountry letters := by
  unfold SmsService.withCountry
  split
  case isTrue zero =>
    obtain ⟨rest, rfl⟩ := zero_prefix zero
    have later : letter ∈ rest := (List.mem_cons.mp member).resolve_left other
    exact List.mem_append_right _ later
  case isFalse =>
    split
    case isTrue => exact List.mem_append_right _ member
    case isFalse => exact member

/-- Adding the country adds no separator. -/
theorem withCountry_visible (visible : ∀ letter ∈ letters, SmsService.isSeparator letter = false) :
    ∀ letter ∈ SmsService.withCountry letters, SmsService.isSeparator letter = false := by
  have code : ∀ letter ∈ "250".toList, SmsService.isSeparator letter = false := by
    intro letter member
    have none : "250".toList.any SmsService.isSeparator = false := by decide
    simpa using List.any_eq_false.mp none letter member
  intro letter member
  unfold SmsService.withCountry at member
  split at member
  case isTrue =>
    rcases List.mem_append.mp member with front | back
    · exact code letter front
    · exact visible letter (List.mem_of_mem_drop back)
  case isFalse =>
    split at member
    case isTrue =>
      rcases List.mem_append.mp member with front | back
      · exact code letter front
      · exact visible letter back
    case isFalse => exact visible letter member

/-- What remains of a text without its separators. -/
def cleaned (text : String) : Letters :=
  text.toList.filter fun letter => !SmsService.isSeparator letter

/-- A cleaned text has no separators. -/
theorem cleaned_visible (text : String) :
    ∀ letter ∈ cleaned text, SmsService.isSeparator letter = false := by
  intro letter member
  simpa using (List.mem_filter.mp member).2

/-- The plus is always put in front: it is a separator itself. -/
theorem sms_eq (text : String) :
    SmsService.normalizePhone text =
      String.ofList ('+' :: SmsService.withCountry (cleaned text)) := by
  have absent : "+".toList.isPrefixOf (SmsService.withCountry (cleaned text)) = false := by
    rw [Bool.eq_false_iff, ne_eq, List.isPrefixOf_iff_prefix]
    rintro ⟨rest, equal⟩
    have plus := withCountry_visible (cleaned_visible text) '+' (equal ▸ List.mem_cons_self)
    exact absurd plus (by decide)
  show (if "+".toList.isPrefixOf (SmsService.withCountry (cleaned text)) then _ else _) = _
  rw [absent]
  rfl

/-- Cleaning takes the plus sign away. -/
theorem cleaned_plus {visible : Letters}
    (all : ∀ letter ∈ visible, SmsService.isSeparator letter = false) :
    cleaned (String.ofList ('+' :: visible)) = visible := by
  have plus : (!SmsService.isSeparator '+') = false := by decide
  rw [cleaned, String.toList_ofList, List.filter_cons, plus, if_neg Bool.false_ne_true]
  exact List.filter_eq_self.mpr fun letter member => by rw [all letter member, Bool.not_false]

/-- A number that text messages go to is normalised. -/
theorem sms_idem (text : String) :
    SmsService.normalizePhone (SmsService.normalizePhone text) =
      SmsService.normalizePhone text := by
  rw [sms_eq text, sms_eq, cleaned_plus (withCountry_visible (cleaned_visible text)),
    withCountry_idem]

/-- The digits to which a payment request goes. -/
def payer (normalized : Letters) : Letters :=
  if "250".toList.isPrefixOf normalized then normalized
  else if "0".toList.isPrefixOf normalized then "250".toList ++ normalized.drop 1
  else if hasOperatorCode normalized then "250".toList ++ normalized
  else normalized

/-- The payer is read from the digits of the text. -/
theorem momo_eq (text : String) :
    MomoGateway.normalizePhone text = String.ofList (payer (digits text)) := by
  rw [MomoGateway.normalizePhone, payer]
  simp only [apply_ite String.ofList]
  rfl

/-- A payer with the country is left as it is. -/
theorem payer_of_country (rest : Letters) : payer ("250".toList ++ rest) = "250".toList ++ rest := by
  simp [payer]

/-- The payer has the country in front or is as it was. -/
theorem payer_cases (letters : Letters) :
    payer letters = letters ∨ ∃ rest, payer letters = "250".toList ++ rest := by
  unfold payer
  split
  case isTrue => exact Or.inl rfl
  case isFalse =>
    split
    case isTrue => exact Or.inr ⟨_, rfl⟩
    case isFalse =>
      split
      case isTrue => exact Or.inr ⟨_, rfl⟩
      case isFalse => exact Or.inl rfl

/-- A payer is normalised. -/
theorem payer_idem (letters : Letters) : payer (payer letters) = payer letters := by
  rcases payer_cases letters with same | ⟨rest, country⟩
  · rw [same, same]
  · rw [country, payer_of_country]

/-- Digits are digits. -/
theorem digits_decimal (text : String) : (digits text).all Char.isDigit = true :=
  List.all_eq_true.mpr fun _ member => (List.mem_filter.mp member).2

/-- A text of digits is its own digits. -/
theorem digits_ofList (decimal : letters.all Char.isDigit = true) :
    digits (String.ofList letters) = letters := by
  rw [digits, String.toList_ofList]
  exact List.filter_eq_self.mpr (List.all_eq_true.mp decimal)

/-- The country and digits are digits. -/
theorem country_decimal {rest : Letters} (decimal : rest.all Char.isDigit = true) :
    ("250".toList ++ rest).all Char.isDigit = true := by
  rw [List.all_append, decimal, Bool.and_true]
  decide

/-- A payer of digits has digits. -/
theorem payer_decimal (decimal : letters.all Char.isDigit = true) :
    (payer letters).all Char.isDigit = true := by
  unfold payer
  split
  case isTrue => exact decimal
  case isFalse =>
    split
    case isTrue =>
      apply country_decimal
      rw [List.all_eq_true] at decimal ⊢
      exact fun letter member => decimal letter (List.mem_of_mem_drop member)
    case isFalse =>
      split
      case isTrue => exact country_decimal decimal
      case isFalse => exact decimal

/-- A payer's number is normalised. -/
theorem momo_idem (text : String) :
    MomoGateway.normalizePhone (MomoGateway.normalizePhone text) =
      MomoGateway.normalizePhone text := by
  rw [momo_eq text, momo_eq, digits_ofList (payer_decimal (digits_decimal text)), payer_idem]

/-- Where there are only separators between the digits, both services read the same digits. -/
theorem cleaned_eq_digits {text : String}
    (plain : ∀ letter ∈ text.toList,
      letter.isDigit = true ∨ SmsService.isSeparator letter = true) :
    cleaned text = digits text := by
  apply List.filter_congr
  intro letter member
  rcases plain letter member with digit | separator
  · rw [isDigit_not_separator digit, digit, Bool.not_false]
  · have other : letter.isDigit = false := by
      by_contra digit
      rw [isDigit_not_separator (Bool.not_eq_false _ ▸ digit)] at separator
      cases separator
    rw [separator, other, Bool.not_true]

end Texts

/-! ## Numbers -/

section Numbers

variable (number : PhoneNumber) (spelling : Spelling)

/-- An international number has only digits. -/
theorem PhoneNumber.international_decimal : number.international.all Char.isDigit = true :=
  country_decimal number.decimal

/-- An international number has twelve digits. -/
theorem PhoneNumber.international_length : number.international.length = 12 := by
  rw [PhoneNumber.international, List.length_append, number.nine]
  rfl

/-- What both services make of the international form. -/
theorem sms_international :
    SmsService.normalizePhone (String.ofList ("+".toList ++ number.international)) =
      String.ofList ('+' :: number.international) := by
  have visible : ∀ letter ∈ number.international, SmsService.isSeparator letter = false :=
    fun letter member => isDigit_not_separator
      (List.all_eq_true.mp number.international_decimal letter member)
  have read : cleaned (String.ofList ("+".toList ++ number.international)) =
      number.international := cleaned_plus visible
  rw [sms_eq, read, PhoneNumber.international, withCountry_of_country]

/-- The payer of an international number is that number. -/
theorem momo_international :
    MomoGateway.normalizePhone (String.ofList ("+".toList ++ number.international)) =
      String.ofList number.international := by
  have read : digits (String.ofList ("+".toList ++ number.international)) =
      number.international := by
    rw [digits, String.toList_ofList, List.filter_append]
    have none : "+".toList.filter Char.isDigit = [] := by decide
    rw [none, List.nil_append]
    exact List.filter_eq_self.mpr (List.all_eq_true.mp number.international_decimal)
  rw [momo_eq, read, PhoneNumber.international, payer_of_country]

variable {number}

/-- Nine digits are completed by the operator's code only. -/
theorem payer_bare :
    payer number.digits = number.international ↔ hasOperatorCode number.digits = true := by
  have nine := number.nine
  constructor
  · intro completed
    have twelve : (payer number.digits).length = 12 := by
      rw [completed, number.international_length]
    unfold payer at twelve
    split at twelve
    case isTrue => omega
    case isFalse =>
      split at twelve
      case isTrue =>
        rw [List.length_append, List.length_drop, nine] at twelve
        exact absurd twelve (by decide)
      case isFalse =>
        split at twelve
        case isTrue known => exact known
        case isFalse => omega
  · intro known
    obtain ⟨rest, seven⟩ := hasOperatorCode_seven known
    have abroad : "250".toList.isPrefixOf number.digits = false := by rw [seven]; rfl
    have zero : "0".toList.isPrefixOf number.digits = false := by rw [seven]; rfl
    rw [payer, abroad, zero, known]
    rfl

/-- A bare number with a known code gets its country. -/
theorem withCountry_bare (known : hasOperatorCode number.digits = true) :
    SmsService.withCountry number.digits = number.international := by
  obtain ⟨rest, seven⟩ := hasOperatorCode_seven known
  have zero : "0".toList.isPrefixOf number.digits = false := by rw [seven]; rfl
  have leading : "7".toList.isPrefixOf number.digits = true := by rw [seven]; rfl
  have length := utf16Length_digits number.decimal
  rw [number.nine] at length
  rw [SmsService.withCountry, zero, leading, length]
  rfl

variable {spelling}

/-- A usual spelling leads text messages to the international number. -/
theorem Spelling.Usual.withCountry (usual : spelling.Usual) :
    SmsService.withCountry (spelling.form.digits ++ spelling.number.digits) =
      spelling.number.international := by
  obtain ⟨_, known, bare⟩ := usual
  cases form : spelling.form with
  | zero => simp [SmsService.withCountry, Form.digits, PhoneNumber.international]
  | bare => exact withCountry_bare (bare form)
  | country => exact withCountry_of_country _
  | exitCode => exact absurd form known

/-- A usual spelling leads the payment to the international number. -/
theorem Spelling.Usual.payer (usual : spelling.Usual) :
    payer (spelling.form.digits ++ spelling.number.digits) = spelling.number.international := by
  obtain ⟨_, known, bare⟩ := usual
  cases form : spelling.form with
  | zero => simp [PhoneNumbers.payer, Form.digits, PhoneNumber.international]
  | bare => exact payer_bare.mpr (bare form)
  | country => exact payer_of_country _
  | exitCode => exact absurd form known

/-- A usual spelling has one recipient. -/
theorem Spelling.Usual.oneRecipient (usual : spelling.Usual) : OneRecipient spelling := by
  have sms : SmsService.normalizePhone spelling.text =
      String.ofList ('+' :: spelling.number.international) := by
    rw [sms_eq, cleaned_eq_digits usual.1, spelling.spells, usual.withCountry]
  have momo : MomoGateway.normalizePhone spelling.text =
      String.ofList spelling.number.international := by
    rw [momo_eq, spelling.spells, usual.payer]
  constructor
  case agree =>
    rw [sms, momo, String.toList_ofList, digits, String.toList_ofList, List.filter_cons,
      if_neg (by decide)]
    exact List.filter_eq_self.mpr (List.all_eq_true.mp spelling.number.international_decimal)
  case sms => rw [sms, sms_international]
  case momo => rw [momo, momo_international]
  case sms_again => exact sms_idem _
  case momo_again => exact momo_idem _

/-- Any other letter stays in the number to which a text is sent. -/
theorem OneRecipient.plain (one : OneRecipient spelling) :
    ∀ letter ∈ spelling.text.toList,
      letter.isDigit = true ∨ SmsService.isSeparator letter = true := by
  intro letter member
  by_contra stray
  obtain ⟨noDigit, noSeparator⟩ := not_or.mp stray
  have kept : letter ∈ cleaned spelling.text :=
    List.mem_filter.mpr ⟨member, by rw [Bool.eq_false_iff.mpr noSeparator, Bool.not_false]⟩
  have stays : letter ∈ SmsService.withCountry (cleaned spelling.text) := by
    refine mem_withCountry kept ?_
    rintro rfl
    exact noDigit (by decide)
  have same := one.sms
  rw [sms_international, sms_eq, String.ofList_inj, List.cons_inj_right] at same
  rw [same] at stays
  exact noDigit (List.all_eq_true.mp spelling.number.international_decimal letter stays)

/-- A spelling with one recipient is usual. -/
theorem OneRecipient.usual (one : OneRecipient spelling) : spelling.Usual := by
  have same := one.momo
  rw [momo_international, momo_eq, String.ofList_inj, spelling.spells] at same
  refine ⟨one.plain, ?_, ?_⟩
  · intro form
    have long : (payer (spelling.form.digits ++ spelling.number.digits)).length = 16 := by
      rw [form]
      simp [payer, Form.digits, spelling.number.nine]
    rw [same, PhoneNumber.international_length] at long
    cases long
  · intro form
    rw [form] at same
    exact payer_bare.mp same

/-- A number has one recipient exactly in its usual spellings. -/
theorem oneRecipient_iff_usual (spelling : Spelling) : OneRecipient spelling ↔ spelling.Usual :=
  ⟨OneRecipient.usual, Spelling.Usual.oneRecipient⟩

end Numbers

/-- A number that is dialled from abroad. -/
def dialledFromAbroad : Spelling where
  text := "00250 788 123 456"
  number := ⟨"788123456".toList, by decide, by decide⟩
  form := .exitCode
  spells := by decide

/-- A number dialled from abroad gets the country twice and reaches nobody. -/
theorem fromAbroad_two_codes :
    SmsService.normalizePhone dialledFromAbroad.text = "+2500250788123456" ∧
      SmsService.normalizePhone (String.ofList
        ("+".toList ++ dialledFromAbroad.number.international)) = "+250788123456" ∧
      ¬ OneRecipient dialledFromAbroad := by
  have wrong : SmsService.normalizePhone dialledFromAbroad.text = "+2500250788123456" := by decide
  have right : SmsService.normalizePhone (String.ofList
      ("+".toList ++ dialledFromAbroad.number.international)) = "+250788123456" := by decide
  refine ⟨wrong, right, fun one => ?_⟩
  have same := one.sms
  rw [wrong, right] at same
  exact absurd same (by decide)

end EmotoFleet.PhoneNumbers
