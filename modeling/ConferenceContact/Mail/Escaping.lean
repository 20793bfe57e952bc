import ConferenceContact.Model.Mail

/-!
# Escaped text

`escapeHtml` replaces one character after the other.  The ampersand comes first, so that
the five replacements are one substitution; what it returns holds no character that is
special in HTML beside the ampersands of its entities, from which the text can be read
back.
-/

namespace ConferenceContact

open Substitution

/-! ## One substitution -/

/-- The entities of `escapeHtml`, in the order in which it brings them in. -/
def entities : List (Char × List Char) :=
  [('&', "&amp;".toList), ('<', "&lt;".toList), ('>', "&gt;".toList), ('"', "&quot;".toList),
    ('\'', "&#39;".toList)]

/-- All special characters at once become entities. -/
def escapeCharacters (value : String) : String :=
  String.ofList (value.toList.flatMap (substitute entities))

/-- No entity holds a character that is replaced later. -/
theorem entities_ordered : Ordered entities := by decide

theorem toList_escapeHtml (value : String) :
    (escapeHtml value).toList = value.toList.flatMap (substitute entities) := by
  rw [← foldl_replaceAll entities_ordered]
  simp only [escapeHtml, ConferenceContact.replaceAll, String.toList_ofList, entities,
    List.foldl_cons, List.foldl_nil]

/-! ## Reading the text back -/

/-- The entities of a text are decoded in one pass from left to right. -/
def decodeCharacters : List Char → List Char
  | [] => []
  | '&' :: 'a' :: 'm' :: 'p' :: ';' :: rest => '&' :: decodeCharacters rest
  | '&' :: 'l' :: 't' :: ';' :: rest => '<' :: decodeCharacters rest
  | '&' :: 'g' :: 't' :: ';' :: rest => '>' :: decodeCharacters rest
  | '&' :: 'q' :: 'u' :: 'o' :: 't' :: ';' :: rest => '"' :: decodeCharacters rest
  | '&' :: '#' :: '3' :: '9' :: ';' :: rest => '\'' :: decodeCharacters rest
  | character :: rest => character :: decodeCharacters rest

/-- A text with its entities replaced by what they stand for. -/
def decodeEntities (value : String) : String :=
  String.ofList (decodeCharacters value.toList)

/-- A special character becomes its entity, and another one stays as it is. -/
theorem substitute_cases (character : Char) :
    (character, substitute entities character) ∈ entities ∨
      substitute entities character = [character] ∧
        character ∉ ['&', '<', '>', '"', '\''] := by
  by_cases special : character ∈ ['&', '<', '>', '"', '\'']
  · left
    simp only [List.mem_cons, List.not_mem_nil, or_false] at special
    rcases special with rfl | rfl | rfl | rfl | rfl <;> decide
  · right
    refine ⟨?_, special⟩
    simp only [List.mem_cons, List.not_mem_nil, or_false, not_or] at special
    simp [substitute, entities, special]

/-- A character is decoded from what it has become. -/
theorem decodeCharacters_substitute (character : Char) (rest : List Char) :
    decodeCharacters (substitute entities character ++ rest) =
      character :: decodeCharacters rest := by
  rcases substitute_cases character with entity | ⟨same, plain⟩
  · generalize substitute entities character = replacement at entity
    simp only [entities, List.mem_cons, Prod.mk.injEq, List.not_mem_nil, or_false] at entity
    rcases entity with ⟨rfl, rfl⟩ | ⟨rfl, rfl⟩ | ⟨rfl, rfl⟩ | ⟨rfl, rfl⟩ | ⟨rfl, rfl⟩ <;> rfl
  · rw [same, List.singleton_append, decodeCharacters]
    all_goals
      rintro _ rfl
      simp at plain

theorem decodeEntities_escapeHtml (value : String) :
    decodeEntities (escapeHtml value) = value := by
  have decoded (text : List Char) :
      decodeCharacters (text.flatMap (substitute entities)) = text := by
    induction text with
    | nil => rfl
    | cons character rest inductionHypothesis =>
        rw [List.flatMap_cons, decodeCharacters_substitute, inductionHypothesis]
  rw [decodeEntities, toList_escapeHtml, decoded, String.ofList_toList]

/-! ## What is left in an escaped text -/

/-- Only ampersands are left of the special characters. -/
theorem not_mem_escapeHtml
    {value : String}
    {character : Char}
    (present : character ∈ (escapeHtml value).toList) :
    character ∉ ['<', '>', '"', '\''] := by
  rw [toList_escapeHtml, List.mem_flatMap] at present
  obtain ⟨source, -, present⟩ := present
  rcases substitute_cases source with entity | ⟨same, plain⟩
  · have clean : ∀ entity ∈ entities,
        (entity.2.all fun character => character ∉ ['<', '>', '"', '\'']) = true := by
      decide
    exact of_decide_eq_true (List.all_eq_true.mp (clean _ entity) character present)
  · rw [same, List.mem_singleton] at present
    subst present
    exact fun special => plain (List.mem_cons_of_mem _ special)

/-- Every ampersand is the first character of an entity. -/
theorem entity_of_ampersand
    {text before after : List Char}
    (equal : text.flatMap (substitute entities) = before ++ '&' :: after) :
    ∃ entity ∈ entities, entity.2 <+: '&' :: after := by
  induction text generalizing before with
  | nil => simp at equal
  | cons character rest inductionHypothesis =>
      rw [List.flatMap_cons] at equal
      rcases List.append_eq_append_iff.mp equal with ⟨middle, -, later⟩ | ⟨middle, here, later⟩
      · exact inductionHypothesis later
      · cases middle with
        | nil => exact @inductionHypothesis [] later.symm
        | cons first middle =>
            obtain ⟨rfl, later⟩ := List.cons.inj later
            rcases substitute_cases character with entity | ⟨same, plain⟩
            · have once : ∀ entity ∈ entities, '&' ∉ entity.2.tail := by decide
              refine ⟨_, entity, ?_⟩
              dsimp only
              cases before with
              | nil => exact here ▸ ⟨rest.flatMap (substitute entities), by rw [later]; rfl⟩
              | cons start before =>
                  refine absurd ?_ (once _ entity)
                  rw [here]
                  simp
            · have special : '&' ∈ [character] := by
                rw [← same, here]
                simp
              rw [List.mem_singleton] at special
              exact absurd (special ▸ List.mem_cons_self) plain

/-- For every text, `escapeHtml` leaves no special character beside the ampersands of its
entities, from which the text can be read back; it is the substitution of all special
characters at once, and injective. -/
theorem escapeHtml_reversible :
    (∀ value,
      (∀ character ∈ (escapeHtml value).toList, character ∉ ['<', '>', '"', '\'']) ∧
        (∀ before after, (escapeHtml value).toList = before ++ '&' :: after →
          ∃ entity ∈ entities, entity.2 <+: '&' :: after) ∧
        decodeEntities (escapeHtml value) = value ∧
        escapeHtml value = escapeCharacters value) ∧
      Function.Injective escapeHtml := by
  refine ⟨fun value => ⟨fun _ => not_mem_escapeHtml, fun before after equal => ?_,
    decodeEntities_escapeHtml value, ?_⟩, ?_⟩
  · rw [toList_escapeHtml] at equal
    exact entity_of_ampersand equal
  · rw [escapeCharacters, ← toList_escapeHtml, String.ofList_toList]
  · exact Function.LeftInverse.injective decodeEntities_escapeHtml

end ConferenceContact
