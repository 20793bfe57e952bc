import Mathlib.Data.List.Basic

/-!
# Base64

Three bytes become four characters of six bits each, and a text is padded to a whole
number of fours.  What has been encoded decodes to the same bytes.
-/

namespace ConferenceContact
namespace Base64

/-- The 64 characters, in the order of the numbers they stand for. -/
def alphabet : List Char :=
  "ABCDEFGHIJKLMNOPQRSTUVWXYZabcdefghijklmnopqrstuvwxyz0123456789+/".toList

/-- The character of six bits. -/
def character (sextet : Nat) : Char := alphabet.getD sextet '='

/-- The six bits a character stands for, in the alphabet for texts or in that for URLs. -/
def sextet? (character : Char) : Option Nat :=
  match alphabet.idxOf? character with
  | some sextet => some sextet
  | none => if character = '-' then some 62 else if character = '_' then some 63 else none

/-- The characters of some bytes. -/
def encode : List UInt8 → List Char
  | [] => []
  | [a] => [character (a.toNat / 4), character (a.toNat % 4 * 16), '=', '=']
  | [a, b] =>
      [character (a.toNat / 4), character (a.toNat % 4 * 16 + b.toNat / 16),
        character (b.toNat % 16 * 4), '=']
  | a :: b :: c :: rest =>
      character (a.toNat / 4) :: character (a.toNat % 4 * 16 + b.toNat / 16) ::
        character (b.toNat % 16 * 4 + c.toNat / 64) :: character (c.toNat % 64) :: encode rest

/-- The bytes of some six bits each; bits that do not fill a byte are dropped. -/
def bytes : List Nat → List UInt8
  | a :: b :: c :: d :: rest =>
      UInt8.ofNat (a * 4 + b / 16) :: UInt8.ofNat (b % 16 * 16 + c / 4) ::
        UInt8.ofNat (c % 4 * 64 + d) :: bytes rest
  | [a, b, c] => [UInt8.ofNat (a * 4 + b / 16), UInt8.ofNat (b % 16 * 16 + c / 4)]
  | [a, b] => [UInt8.ofNat (a * 4 + b / 16)]
  | _ => []

/-- The numbers some characters stand for, up to the padding; others are passed over. -/
def sextets : List Char → List Nat
  | [] => []
  | character :: rest =>
      if character = '=' then []
      else
        match sextet? character with
        | some sextet => sextet :: sextets rest
        | none => sextets rest

/-- The bytes of a text. -/
def decode (characters : List Char) : List UInt8 := bytes (sextets characters)

/-! ## The alphabet -/

/-- A number is read from its character. -/
theorem sextets_character
    {sextet : Nat}
    (small : sextet < 64)
    (rest : List Char) :
    sextets (character sextet :: rest) = sextet :: sextets rest := by
  have every : ((List.range 64).all fun sextet =>
      character sextet != '=' && sextet? (character sextet) == some sextet) = true := by
    decide +kernel
  have here := List.all_eq_true.mp every sextet (List.mem_range.mpr small)
  rw [Bool.and_eq_true, bne_iff_ne, beq_iff_eq] at here
  rw [sextets, if_neg here.1, here.2]

theorem sextets_padding (rest : List Char) : sextets ('=' :: rest) = [] := rfl

theorem character_mem (sextet : Nat) : character sextet ∈ '=' :: alphabet := by
  unfold character
  rw [List.getD_eq_getElem?_getD]
  cases found : alphabet[sextet]? with
  | none => exact List.mem_cons_self
  | some character => exact List.mem_cons_of_mem _ (List.mem_of_getElem? found)

/-! ## Round trip -/

/-- A byte is put together from its bits. -/
theorem ofNat_eq (byte : UInt8) {number : Nat} (same : number = byte.toNat) :
    UInt8.ofNat number = byte := by
  rw [same, UInt8.ofNat_toNat]

theorem decode_encode (source : List UInt8) : decode (encode source) = source := by
  unfold decode
  induction source using encode.induct with
  | case1 => rfl
  | case2 a =>
      have small := a.toNat_lt
      rw [encode, sextets_character (by omega), sextets_character (by omega), sextets_padding,
        bytes, ofNat_eq a (by omega)]
  | case3 a b =>
      have smallA := a.toNat_lt
      have smallB := b.toNat_lt
      rw [encode, sextets_character (by omega), sextets_character (by omega),
        sextets_character (by omega), sextets_padding, bytes, ofNat_eq a (by omega),
        ofNat_eq b (by omega)]
  | case4 a b c rest inductionHypothesis =>
      have smallA := a.toNat_lt
      have smallB := b.toNat_lt
      have smallC := c.toNat_lt
      rw [encode, sextets_character (by omega), sextets_character (by omega),
        sextets_character (by omega), sextets_character (by omega), bytes, inductionHypothesis,
        ofNat_eq a (by omega), ofNat_eq b (by omega),
        ofNat_eq c (by omega)]

/-! ## What a coded text is made of -/

theorem encode_subset (source : List UInt8) : encode source ⊆ '=' :: alphabet := by
  have padding : '=' ∈ '=' :: alphabet := List.mem_cons_self
  induction source using encode.induct with
  | case1 => exact List.nil_subset _
  | case2 a =>
      simp only [encode, List.cons_subset, character_mem, padding, List.nil_subset, and_self]
  | case3 a b =>
      simp only [encode, List.cons_subset, character_mem, padding, List.nil_subset, and_self]
  | case4 a b c rest inductionHypothesis =>
      simp only [encode, List.cons_subset, character_mem, inductionHypothesis, and_self]

theorem encode_eq_nil_iff (source : List UInt8) : encode source = [] ↔ source = [] := by
  induction source using encode.induct <;> simp [encode]

end Base64
end ConferenceContact
