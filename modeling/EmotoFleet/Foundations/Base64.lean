import Mathlib.Data.List.Basic
import Mathlib.Data.List.TakeWhile

/-!
# Base64 for addresses

Three bytes are written as four letters of six bits each, without padding. Reading ends at a
padding sign, skips all other letters outside of the alphabet and knows the letters of the
usual alphabet as well; it gives back the bytes that were written.

Nothing here mentions a particular program.
-/

namespace EmotoFleet.Base64

abbrev Bytes := List UInt8

/-! ## Six bits at a time -/

/-- The last group may have one or two bytes. -/
def sextets : List Nat → List Nat
  | [] => []
  | [first] => [first / 4, first % 4 * 16]
  | [first, second] => [first / 4, first % 4 * 16 + second / 16, second % 16 * 4]
  | first :: second :: third :: rest =>
    first / 4 :: (first % 4 * 16 + second / 16) :: (second % 16 * 4 + third / 64) :: third % 64 ::
      sextets rest

/-- A group of two or three letters has one or two bytes; one letter alone has none. -/
def octets : List Nat → List Nat
  | first :: second :: third :: fourth :: rest =>
    (first * 4 + second / 16) :: (second % 16 * 16 + third / 4) :: (third % 4 * 64 + fourth) ::
      octets rest
  | [first, second, third] => [first * 4 + second / 16, second % 16 * 16 + third / 4]
  | [first, second] => [first * 4 + second / 16]
  | _ => []

theorem sextets_lt {values : List Nat} (bytes : ∀ value ∈ values, value < 256) :
    ∀ sextet ∈ sextets values, sextet < 64 := by
  induction values using sextets.induct with
  | case1 => simp [sextets]
  | case2 first =>
    have bound := bytes first (by simp)
    simp only [sextets, List.forall_mem_cons]
    exact ⟨by omega, by omega, by simp⟩
  | case3 first second =>
    have bound := bytes first (by simp)
    have next := bytes second (by simp)
    simp only [sextets, List.forall_mem_cons]
    exact ⟨by omega, by omega, by omega, by simp⟩
  | case4 first second third rest inductionHypothesis =>
    have bound := bytes first (by simp)
    have next := bytes second (by simp)
    have last := bytes third (by simp)
    have others := inductionHypothesis fun value member => bytes value (by simp [member])
    simp only [sextets, List.forall_mem_cons]
    exact ⟨by omega, by omega, by omega, by omega, others⟩

theorem octets_sextets {values : List Nat} (bytes : ∀ value ∈ values, value < 256) :
    octets (sextets values) = values := by
  induction values using sextets.induct with
  | case1 => rfl
  | case2 first =>
    have bound := bytes first (by simp)
    simp only [sextets, octets, List.cons.injEq, and_true]
    omega
  | case3 first second =>
    have bound := bytes first (by simp)
    have next := bytes second (by simp)
    simp only [sextets, octets, List.cons.injEq, and_true]
    omega
  | case4 first second third rest inductionHypothesis =>
    have bound := bytes first (by simp)
    have next := bytes second (by simp)
    have last := bytes third (by simp)
    have others := inductionHypothesis fun value member => bytes value (by simp [member])
    simp only [sextets, octets, others, List.cons.injEq, and_true]
    omega

/-! ## Letters -/

def letterOf (sextet : Nat) : Char :=
  if sextet < 26 then Char.ofNat (65 + sextet)
  else if sextet < 52 then Char.ofNat (71 + sextet)
  else if sextet < 62 then Char.ofNat (sextet - 4)
  else if sextet = 62 then '-'
  else '_'

/-- Both alphabets are read. -/
def valueOf (letter : Char) : Option Nat :=
  if 'A' ≤ letter ∧ letter ≤ 'Z' then some (letter.toNat - 65)
  else if 'a' ≤ letter ∧ letter ≤ 'z' then some (letter.toNat - 71)
  else if '0' ≤ letter ∧ letter ≤ '9' then some (letter.toNat + 4)
  else if letter = '-' ∨ letter = '+' then some 62
  else if letter = '_' ∨ letter = '/' then some 63
  else none

theorem valueOf_letterOf {sextet : Nat} (small : sextet < 64) :
    valueOf (letterOf sextet) = some sextet := by
  decide +revert

def encode (bytes : Bytes) : List Char := (sextets (bytes.map UInt8.toNat)).map letterOf

def decode (text : List Char) : Bytes :=
  (octets ((text.takeWhile (· ≠ '=')).filterMap valueOf)).map UInt8.ofNat

theorem toNat_lt (bytes : Bytes) : ∀ value ∈ bytes.map UInt8.toNat, value < 256 := by
  intro value member
  obtain ⟨byte, -, rfl⟩ := List.mem_map.mp member
  exact byte.toNat_lt

/-- Every letter that is written can be read. -/
theorem readable_of_mem_encode {bytes : Bytes} {letter : Char} (member : letter ∈ encode bytes) :
    (valueOf letter).isSome = true := by
  obtain ⟨sextet, listed, rfl⟩ := List.mem_map.mp member
  rw [valueOf_letterOf (sextets_lt (toNat_lt bytes) sextet listed)]
  rfl

theorem decode_encode (bytes : Bytes) : decode (encode bytes) = bytes := by
  have small := sextets_lt (toNat_lt bytes)
  have unpadded : (encode bytes).takeWhile (· ≠ '=') = encode bytes := by
    rw [List.takeWhile_eq_self_iff]
    intro letter member
    rw [decide_eq_true_eq]
    rintro rfl
    exact absurd (readable_of_mem_encode member) (by decide)
  have read : (encode bytes).filterMap valueOf = sextets (bytes.map UInt8.toNat) := by
    rw [encode, List.filterMap_map]
    calc (sextets (bytes.map UInt8.toNat)).filterMap (valueOf ∘ letterOf)
        = (sextets (bytes.map UInt8.toNat)).filterMap some :=
          List.filterMap_congr fun sextet member => valueOf_letterOf (small sextet member)
      _ = sextets (bytes.map UInt8.toNat) := List.filterMap_some
  rw [decode, unpadded, read, octets_sextets (toNat_lt bytes), List.map_map]
  calc bytes.map (UInt8.ofNat ∘ UInt8.toNat) = bytes.map id :=
        List.map_congr_left fun byte _ => UInt8.ofNat_toNat
    _ = bytes := List.map_id bytes

theorem encode_eq_nil {bytes : Bytes} (empty : encode bytes = []) : bytes = [] := by
  have read := decode_encode bytes
  rw [empty] at read
  exact read.symm

end EmotoFleet.Base64
