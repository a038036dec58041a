import Mathlib.Data.List.Basic

/-!
# Percent encoding

Characters outside of a small set are written as the bytes of their UTF-8 encoding, each as a
percent sign and two hexadecimal digits. Decoding gives back the text that was encoded.

Nothing here mentions a particular program.
-/

namespace EmotoFleet.PercentEncoding

/-! ## Encoding -/

/-- The digit of a value below sixteen, in capitals. -/
def hexDigit (digit : Nat) : Char := (Nat.digitChar digit).toUpper

/-- A byte after a percent sign. -/
def percent (byte : UInt8) : List Char :=
  ['%', hexDigit (byte.toNat / 16), hexDigit (byte.toNat % 16)]

/-- The letters that are left as they are. -/
def unreserved (char : Char) : Bool :=
  char.isAlphanum || ['-', '_', '.', '!', '~', '*', '\'', '(', ')'].contains char

/-- A letter, or the bytes that it is encoded as. -/
def encodeChar (char : Char) : List Char :=
  if unreserved char then [char] else (String.utf8EncodeChar char).flatMap percent

/-- A text with its letters encoded. -/
def encodeURIComponent (text : String) : String := String.ofList (text.toList.flatMap encodeChar)

/-! ## Decoding -/

/-- The value of a digit. -/
def hexValue (char : Char) : Option Nat :=
  if '0' ≤ char ∧ char ≤ '9' then some (char.toNat - 48)
  else if 'A' ≤ char ∧ char ≤ 'F' then some (char.toNat - 55)
  else if 'a' ≤ char ∧ char ≤ 'f' then some (char.toNat - 87)
  else none

/-- A percent sign without two digits stands for itself, and a plus for a space. -/
def decodedBytes : List Char → List UInt8
  | [] => []
  | '+' :: rest => 32 :: decodedBytes rest
  | '%' :: high :: low :: rest =>
    match hexValue high, hexValue low with
    | some upper, some lower => UInt8.ofNat (16 * upper + lower) :: decodedBytes rest
    | _, _ => 37 :: decodedBytes (high :: low :: rest)
  | char :: rest => String.utf8EncodeChar char ++ decodedBytes rest

/-- A text with its bytes read. -/
def decode (text : List Char) : Option String := String.fromUTF8? (decodedBytes text).toByteArray

/-- The values of a parameter in the query of an address. -/
def queryValues (name : String) (query : List Char) : List (Option String) :=
  (query.splitOn '&').filterMap fun pair =>
    if decode (pair.takeWhile (· ≠ '=')) = some name then
      some (decode ((pair.dropWhile (· ≠ '=')).drop 1))
    else none

/-! ## Round trip -/

/-- A digit is read as its value. -/
theorem hexValue_hexDigit {digit : Nat} (small : digit < 16) :
    hexValue (hexDigit digit) = some digit := by
  decide +revert

/-- A byte is read back. -/
theorem decodedBytes_percent (byte : UInt8) (rest : List Char) :
    decodedBytes (percent byte ++ rest) = byte :: decodedBytes rest := by
  have small : byte.toNat < 256 := byte.toNat_lt
  have upper := hexValue_hexDigit (show byte.toNat / 16 < 16 by omega)
  have lower := hexValue_hexDigit (show byte.toNat % 16 < 16 by omega)
  change decodedBytes ('%' :: hexDigit (byte.toNat / 16) :: hexDigit (byte.toNat % 16) :: rest) = _
  rw [decodedBytes, upper, lower]
  dsimp only
  rw [Nat.div_add_mod, UInt8.ofNat_toNat]

/-- Bytes are read back. -/
theorem decodedBytes_percents (bytes : List UInt8) (rest : List Char) :
    decodedBytes (bytes.flatMap percent ++ rest) = bytes ++ decodedBytes rest := by
  induction bytes with
  | nil => rfl
  | cons byte others inductionHypothesis =>
    rw [List.flatMap_cons, List.append_assoc, decodedBytes_percent, inductionHypothesis]
    rfl

/-- A letter is read back as its bytes. -/
theorem decodedBytes_encodeChar (char : Char) (rest : List Char) :
    decodedBytes (encodeChar char ++ rest) = String.utf8EncodeChar char ++ decodedBytes rest := by
  rw [encodeChar]
  split
  case isTrue kept =>
    have noPlus : char ≠ '+' := by
      rintro rfl
      revert kept
      decide
    have noPercent : char ≠ '%' := by
      rintro rfl
      revert kept
      decide
    rw [List.singleton_append, decodedBytes]
    · exact noPlus
    · exact fun _ _ _ same => absurd same noPercent
  case isFalse => exact decodedBytes_percents _ rest

/-- Letters are read back as their bytes. -/
theorem decodedBytes_encode (chars : List Char) :
    decodedBytes (chars.flatMap encodeChar) = chars.flatMap String.utf8EncodeChar := by
  induction chars with
  | nil => rfl
  | cons char rest inductionHypothesis =>
    rw [List.flatMap_cons, decodedBytes_encodeChar, inductionHypothesis, List.flatMap_cons]

/-- An encoded text is read back. -/
theorem decode_encodeURIComponent (text : String) :
    decode (encodeURIComponent text).toList = some text := by
  have bytes : (decodedBytes (encodeURIComponent text).toList).toByteArray = text.toByteArray := by
    rw [encodeURIComponent, String.toList_ofList, decodedBytes_encode]
    exact String.utf8Encode_toList
  rw [decode, bytes, String.fromUTF8?, dif_pos text.isValidUTF8]
  rfl

/-! ## Parameters -/

/-- The digits are left as they are. -/
theorem unreserved_hexDigit {digit : Nat} (small : digit < 16) :
    unreserved (hexDigit digit) = true := by
  decide +revert

/-- No separator of a query is left in an encoded text. -/
theorem not_mem_encoded {separator : Char} (reserved : unreserved separator = false)
    (noPercent : separator ≠ '%') (text : String) :
    separator ∉ (encodeURIComponent text).toList := by
  rw [encodeURIComponent, String.toList_ofList, List.mem_flatMap]
  rintro ⟨char, -, listed⟩
  rw [encodeChar] at listed
  split at listed
  case isTrue kept =>
    rw [List.mem_singleton.mp listed, kept] at reserved
    cases reserved
  case isFalse =>
    obtain ⟨byte, -, digit⟩ := List.mem_flatMap.mp listed
    have small : byte.toNat < 256 := byte.toNat_lt
    have upper := unreserved_hexDigit (show byte.toNat / 16 < 16 by omega)
    have lower := unreserved_hexDigit (show byte.toNat % 16 < 16 by omega)
    simp only [percent, List.mem_cons, List.not_mem_nil, or_false] at digit
    obtain same | same | same := digit
    · exact noPercent same
    · rw [same, upper] at reserved
      cases reserved
    · rw [same, lower] at reserved
      cases reserved

/-- A text of plain letters is read as it is. -/
theorem decode_unreserved {name : String} (kept : ∀ char ∈ name.toList, unreserved char = true) :
    decode name.toList = some name := by
  have plain : encodeURIComponent name = name := by
    have same : name.toList.flatMap encodeChar = name.toList.flatMap fun char => [char] :=
      List.flatMap_congr fun char listed => if_pos (kept char listed)
    rw [encodeURIComponent, same, List.flatMap_singleton', String.ofList_toList]
  have decoded := decode_encodeURIComponent name
  rw [plain] at decoded
  exact decoded

/-- What is written for a parameter is read back. -/
theorem queryValues_encoded {name : String} (kept : ∀ char ∈ name.toList, unreserved char = true)
    (text : String) :
    queryValues name (name.toList ++ '=' :: (encodeURIComponent text).toList) = [some text] := by
  have one : '&' ∉ name.toList ++ '=' :: (encodeURIComponent text).toList := by
    rw [List.mem_append, List.mem_cons]
    rintro (listed | same | listed)
    · exact Bool.noConfusion (kept '&' listed)
    · exact absurd same (by decide)
    · exact not_mem_encoded rfl (by decide) text listed
  have before : ∀ char ∈ name.toList, decide (char ≠ '=') = true := by
    intro char listed
    rw [decide_eq_true_eq]
    rintro rfl
    exact Bool.noConfusion (kept '=' listed)
  rw [queryValues, List.splitOn_eq_singleton one, List.filterMap_cons, List.filterMap_nil,
    List.takeWhile_append_of_pos before, List.dropWhile_append_of_pos before]
  simp only [List.takeWhile_cons, List.dropWhile_cons, ne_eq, not_true_eq_false, decide_false,
    Bool.false_eq_true, if_false, List.append_nil, List.drop_one, List.tail_cons,
    decode_unreserved kept, if_true, decode_encodeURIComponent]

end EmotoFleet.PercentEncoding
