import Mathlib.Data.List.DropRight

/-!
# White space as JavaScript reads it

`trim` and the class `\s` of regular expressions know the same white space: the space, the
controls from tab to carriage return, and some characters beyond the first 128, the mark of
byte order among them.

Nothing here mentions a particular program.
-/

namespace EmotoFleet.WhiteSpace

/-- The white space beyond the first 128 characters. -/
def wideSpaces : List Nat :=
  [0xA0, 0x1680, 0x2000, 0x2001, 0x2002, 0x2003, 0x2004, 0x2005, 0x2006, 0x2007, 0x2008, 0x2009,
    0x200A, 0x2028, 0x2029, 0x202F, 0x205F, 0x3000, 0xFEFF]

def isSpace (letter : Char) : Bool :=
  letter == ' ' || decide (9 ≤ letter.toNat ∧ letter.toNat ≤ 13) || wideSpaces.contains letter.toNat

/-- What remains of some letters without the white space at both ends. -/
def trimLetters (letters : List Char) : List Char := (letters.dropWhile isSpace).rdropWhile isSpace

def trim (text : String) : String := String.ofList (trimLetters text.toList)

/-- The characters that print among the first 128 are no white space. -/
theorem isSpace_of_printing {letter : Char} (above : 32 < letter.toNat)
    (narrow : letter.toNat < 128) : isSpace letter = false := by
  have beyond : ∀ space ∈ wideSpaces, 127 < space := by decide
  have wide : wideSpaces.contains letter.toNat = false := by
    rw [List.contains_eq_mem, decide_eq_false_iff_not]
    intro member
    have least := beyond letter.toNat member
    omega
  have blank : letter ≠ ' ' := by
    rintro rfl
    exact absurd above (by decide)
  rw [isSpace, wide, Bool.or_false, Bool.or_eq_false_iff]
  exact ⟨beq_false_of_ne blank, decide_eq_false (by omega)⟩

end EmotoFleet.WhiteSpace
