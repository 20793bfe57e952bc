import Mathlib.Data.List.TakeWhile

/-!
# Query strings

`encodeURIComponent`, and the parameters that are read back from the query of a URL.
The escapes of a text hold none of the characters that structure a query, so that the
fields of a query are read back as they were written.
-/

namespace ConferenceContact
namespace QueryStrings

/-! ## Escapes -/

/-- The characters `encodeURIComponent` leaves alone. -/
def isUnreserved (character : Char) : Bool :=
  character.isAlphanum || character ∈ "-_.!~*'()".toList

/-- The digit of a value below sixteen. -/
def hexDigit (value : Nat) : Char :=
  Char.ofNat (if value < 10 then 48 + value else 55 + value)

/-- The value of a digit, in either case. -/
def hexValue (character : Char) : Option Nat :=
  let code := character.toNat
  if 48 ≤ code ∧ code ≤ 57 then some (code - 48)
  else if 65 ≤ code ∧ code ≤ 70 then some (code - 55)
  else if 97 ≤ code ∧ code ≤ 102 then some (code - 87)
  else none

/-- The escape of a byte. -/
def escape (byte : UInt8) : List Char :=
  ['%', hexDigit (byte.toNat / 16), hexDigit (byte.toNat % 16)]

/-- A character as it stands in a component. -/
def encodeChar (character : Char) : List Char :=
  if isUnreserved character then [character]
  else (String.utf8EncodeChar character).flatMap escape

/-- `encodeURIComponent`. -/
def encodeURIComponent (text : String) : String :=
  String.ofList (text.toList.flatMap encodeChar)

/-- The bytes of a part of a query: a plus sign is a blank, and escapes are resolved. -/
def decodeBytes : List Char → List UInt8
  | [] => []
  | '%' :: high :: low :: rest =>
      match hexValue high, hexValue low with
      | some high', some low' => UInt8.ofNat (16 * high' + low') :: decodeBytes rest
      | _, _ => String.utf8EncodeChar '%' ++ decodeBytes (high :: low :: rest)
  | '+' :: rest => String.utf8EncodeChar ' ' ++ decodeBytes rest
  | character :: rest => String.utf8EncodeChar character ++ decodeBytes rest

/-- A part of a query as text, if its bytes are UTF-8. -/
def decodeComponent (part : List Char) : Option String :=
  String.fromUTF8? (decodeBytes part).toByteArray

theorem hexValue_hexDigit {value : Nat} (small : value < 16) :
    hexValue (hexDigit value) = some value := by
  revert value
  decide

theorem decodeBytes_escape (byte : UInt8) (rest : List Char) :
    decodeBytes (escape byte ++ rest) = byte :: decodeBytes rest := by
  have bound : byte.toNat < 256 := byte.toNat_lt
  show decodeBytes ('%' :: hexDigit (byte.toNat / 16) :: hexDigit (byte.toNat % 16) :: rest) = _
  rw [decodeBytes, hexValue_hexDigit (by omega), hexValue_hexDigit (by omega)]
  dsimp only
  rw [Nat.div_add_mod, UInt8.ofNat_toNat]

theorem decodeBytes_escapes (bytes : List UInt8) (rest : List Char) :
    decodeBytes (bytes.flatMap escape ++ rest) = bytes ++ decodeBytes rest := by
  induction bytes with
  | nil => rfl
  | cons byte bytes inductionHypothesis =>
      rw [List.flatMap_cons, List.append_assoc, decodeBytes_escape, inductionHypothesis,
        List.cons_append]

/-- Unreserved characters are not those that are special in a query. -/
theorem ne_of_isUnreserved
    {character special : Char}
    (unreserved : isUnreserved character = true)
    (reserved : isUnreserved special = false) :
    character ≠ special := by
  rintro rfl
  rw [unreserved] at reserved
  cases reserved

theorem decodeBytes_encodeChar (character : Char) (rest : List Char) :
    decodeBytes (encodeChar character ++ rest) =
      String.utf8EncodeChar character ++ decodeBytes rest := by
  unfold encodeChar
  split
  · rename_i unreserved
    rw [List.singleton_append, decodeBytes]
    · exact fun high low rest same _ =>
        ne_of_isUnreserved unreserved (by decide) same
    · exact fun same => ne_of_isUnreserved unreserved (by decide) same
  · exact decodeBytes_escapes _ rest

/-- A text is read back from its escapes. -/
theorem decodeComponent_encodeURIComponent (text : String) :
    decodeComponent (encodeURIComponent text).toList = some text := by
  have bytes (characters : List Char) :
      decodeBytes (characters.flatMap encodeChar) =
        characters.flatMap String.utf8EncodeChar := by
    induction characters with
    | nil => rfl
    | cons character rest inductionHypothesis =>
        rw [List.flatMap_cons, decodeBytes_encodeChar, inductionHypothesis, List.flatMap_cons]
  unfold decodeComponent encodeURIComponent
  rw [String.toList_ofList, bytes]
  have whole : (text.toList.flatMap String.utf8EncodeChar).toByteArray = text.toByteArray :=
    String.utf8Encode_toList
  rw [whole, String.fromUTF8?, dif_pos text.isValidUTF8]
  rfl

/-- Escapes consist of unreserved characters and percent signs. -/
theorem mem_encodeURIComponent
    {text : String}
    {character : Char}
    (present : character ∈ (encodeURIComponent text).toList) :
    isUnreserved character = true ∨ character = '%' := by
  have digit {value : Nat} (small : value < 16) : isUnreserved (hexDigit value) = true := by
    revert value
    decide
  rw [encodeURIComponent, String.toList_ofList, List.mem_flatMap] at present
  obtain ⟨source, -, present⟩ := present
  unfold encodeChar at present
  split at present
  · rename_i unreserved
    obtain rfl := List.mem_singleton.mp present
    exact .inl unreserved
  · obtain ⟨byte, -, present⟩ := List.mem_flatMap.mp present
    have bound : byte.toNat < 256 := byte.toNat_lt
    simp only [escape, List.mem_cons, List.not_mem_nil, or_false] at present
    rcases present with rfl | rfl | rfl
    · exact .inr rfl
    · exact .inl (digit (by omega))
    · exact .inl (digit (by omega))

theorem not_mem_encodeURIComponent
    {special : Char}
    (reserved : isUnreserved special = false)
    (percent : special ≠ '%')
    (text : String) :
    special ∉ (encodeURIComponent text).toList := by
  intro present
  rcases mem_encodeURIComponent present with unreserved | same
  · rw [reserved] at unreserved
    cases unreserved
  · exact percent same

/-! ## Fields -/

/-- A field of a query, and the URL with a base and some fields. -/
def field (name value : String) : List Char :=
  (encodeURIComponent name).toList ++ '=' :: (encodeURIComponent value).toList

/-- An address with its fields. -/
def link (base : String) (fields : List (String × String)) : String :=
  base ++ "?" ++ String.ofList
    (['&'].intercalate (fields.map fun entry => field entry.1 entry.2))

/-- The query of a URL: what stands before the fragment and after a question mark. -/
def query (url : String) : List Char :=
  ((url.toList.takeWhile (· ≠ '#')).dropWhile (· ≠ '?')).drop 1

/-- The name and the value of a field. -/
def parseField (part : List Char) : Option (String × String) := do
  let name ← decodeComponent (part.takeWhile (· ≠ '='))
  let value ← decodeComponent ((part.dropWhile (· ≠ '=')).drop 1)
  return (name, value)

/-- The `searchParams` of a URL. -/
def searchParams (url : String) : Option (List (String × String)) :=
  (((query url).splitOn '&').filter (· ≠ [])).mapM parseField

theorem takeWhile_dropWhile_append
    {characters rest : List Char}
    {special : Char}
    (absent : special ∉ characters) :
    (characters ++ special :: rest).takeWhile (· ≠ special) = characters ∧
      (characters ++ special :: rest).dropWhile (· ≠ special) = special :: rest := by
  have all : ∀ character ∈ characters, decide (character ≠ special) = true :=
    fun character present => decide_eq_true fun same => absent (same ▸ present)
  rw [List.takeWhile_append_of_pos all, List.dropWhile_append_of_pos all,
    List.takeWhile_cons_of_neg (by simp), List.dropWhile_cons_of_neg (by simp), List.append_nil]
  exact ⟨rfl, rfl⟩

theorem parseField_field (name value : String) :
    parseField (field name value) = some (name, value) := by
  have absent : '=' ∉ (encodeURIComponent name).toList :=
    not_mem_encodeURIComponent (by decide) (by decide) name
  unfold parseField field
  rw [(takeWhile_dropWhile_append absent).1, (takeWhile_dropWhile_append absent).2,
    List.drop_one, List.tail_cons, decodeComponent_encodeURIComponent,
    decodeComponent_encodeURIComponent]
  rfl

theorem not_mem_field
    {special : Char}
    (reserved : isUnreserved special = false)
    (percent : special ≠ '%')
    (apart : special ≠ '=')
    (name value : String) :
    special ∉ field name value := by
  rw [field, List.mem_append, List.mem_cons, not_or, not_or]
  exact ⟨not_mem_encodeURIComponent reserved percent name, apart,
    not_mem_encodeURIComponent reserved percent value⟩

theorem not_mem_intercalate
    {special : Char}
    (apart : special ≠ '&')
    {parts : List (List Char)}
    (absent : ∀ part ∈ parts, special ∉ part) :
    special ∉ ['&'].intercalate parts := by
  match parts with
  | [] => exact List.not_mem_nil
  | [part] => simpa using absent
  | part :: next :: rest =>
      obtain ⟨here, elsewhere⟩ := List.forall_mem_cons.mp absent
      rw [List.intercalate_cons_cons, List.mem_append, List.mem_append, not_or, not_or]
      exact ⟨⟨here, by simpa using apart⟩, not_mem_intercalate apart elsewhere⟩

/-- The query of a URL whose base holds neither a question mark nor a number sign. -/
theorem query_link
    {base : String}
    (plain : ∀ character ∈ base.toList, character ≠ '?' ∧ character ≠ '#')
    (fields : List (String × String)) :
    query (link base fields) =
      ['&'].intercalate (fields.map fun entry => field entry.1 entry.2) := by
  have written : (link base fields).toList =
      base.toList ++ '?' :: ['&'].intercalate (fields.map fun entry => field entry.1 entry.2) := by
    simp [link]
  have noFragment : '#' ∉ (link base fields).toList := by
    rw [written, List.mem_append, List.mem_cons, not_or, not_or]
    refine ⟨fun present => (plain _ present).2 rfl, by decide, not_mem_intercalate (by decide) ?_⟩
    refine List.forall_mem_map.mpr fun entry _ => ?_
    exact not_mem_field (by decide) (by decide) (by decide) _ _
  have whole : (link base fields).toList.takeWhile (· ≠ '#') = (link base fields).toList :=
    List.takeWhile_eq_self_iff.mpr fun character present =>
      decide_eq_true fun same => noFragment (same ▸ present)
  have noQuestion : '?' ∉ base.toList := fun present => (plain _ present).1 rfl
  rw [query, whole, written, (takeWhile_dropWhile_append noQuestion).2, List.drop_one,
    List.tail_cons]

/-- The fields of a query are read back as they were written. -/
theorem searchParams_link
    {base : String}
    (plain : ∀ character ∈ base.toList, character ≠ '?' ∧ character ≠ '#')
    (fields : List (String × String)) :
    searchParams (link base fields) = some fields := by
  have parts : ((query (link base fields)).splitOn '&').filter (· ≠ []) =
      fields.map fun entry => field entry.1 entry.2 := by
    rw [query_link plain]
    cases fields with
    | nil => rfl
    | cons entry rest =>
        rw [List.splitOn_intercalate]
        · refine List.filter_eq_self.mpr (List.forall_mem_map.mpr fun entry _ => ?_)
          simp [field]
        · refine List.forall_mem_map.mpr fun entry _ => ?_
          exact not_mem_field (by decide) (by decide) (by decide) _ _
        · exact List.cons_ne_nil _ _
  rw [searchParams, parts]
  clear parts
  induction fields with
  | nil => rfl
  | cons entry rest inductionHypothesis =>
      rw [List.map_cons, List.mapM_cons, parseField_field, inductionHypothesis]
      rfl

end QueryStrings
end ConferenceContact
