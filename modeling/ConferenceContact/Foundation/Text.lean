import Mathlib.Data.String.Basic

/-!
# Splitting text at a character

Splitting a text at a separator of one character splits the list of its characters.
-/

namespace ConferenceContact
namespace Text

open String

/-- The splitting in progress: `before` is done, `part` is the part that is being read, and
`rest` is left. -/
theorem splitOnAux_of_valid
    (separator : Char)
    (before part rest : List Char)
    (parts : List String) :
    splitOnAux (ofList (before ++ part ++ rest)) (ofList [separator]) ⟨utf8Len before⟩
        ⟨utf8Len before + utf8Len part⟩ 0 parts =
      parts.reverse ++
        (List.splitOnPPrepend (· == separator) rest part.reverse).map ofList := by
  have atEnd := atEnd_of_valid (before ++ part) rest
  have extracted := extract_of_valid before part rest
  rw [utf8Len_append] at atEnd
  unfold splitOnAux
  cases rest with
  | nil =>
      rw [if_pos (atEnd.mpr rfl), extracted]
      simp
  | cons character rest =>
      have read : Pos.Raw.get (ofList (before ++ part ++ character :: rest))
          ⟨utf8Len before + utf8Len part⟩ = character := by
        rw [← utf8Len_append]
        exact get_of_valid (before ++ part) (character :: rest)
      have moved : Pos.Raw.next (ofList (before ++ part ++ character :: rest))
          ⟨utf8Len before + utf8Len part⟩ =
            ⟨utf8Len before + utf8Len part + character.utf8Size⟩ := by
        rw [← utf8Len_append]
        exact next_of_valid (before ++ part) character rest
      have expected : Pos.Raw.get (ofList [separator]) 0 = separator :=
        get_of_valid [] [separator]
      have passed : Pos.Raw.next (ofList [separator]) 0 = ⟨separator.utf8Size⟩ :=
        (next_of_valid [] separator []).trans (by simp)
      have whole : Pos.Raw.atEnd (ofList [separator]) ⟨separator.utf8Size⟩ = true := by
        have ends := (atEnd_of_valid [separator] []).mpr rfl
        simpa using ends
      rw [if_neg fun ends => List.cons_ne_nil _ _ (atEnd.mp ends), read, expected]
      by_cases same : character = separator
      · subst same
        have next := splitOnAux_of_valid character (before ++ part ++ [character]) [] rest
          (ofList part :: parts)
        have back : Pos.Raw.unoffsetBy ⟨utf8Len before + utf8Len part + character.utf8Size⟩
            ⟨character.utf8Size⟩ = ⟨utf8Len before + utf8Len part⟩ := by
          simp [Pos.Raw.unoffsetBy]
        simp only [List.append_assoc, List.singleton_append, List.append_nil, utf8Len_append,
          utf8Len_cons, utf8Len_nil, Nat.zero_add, Nat.add_zero, List.reverse_nil,
          ← Nat.add_assoc] at next moved extracted
        simp only [List.append_assoc, beq_self_eq_true, if_true, moved, passed, whole, back,
          extracted, next]
        simp [List.splitOnPPrepend_cons_pos]
      · have next := splitOnAux_of_valid separator before (part ++ [character]) rest parts
        have differs : (character == separator) = false := beq_false_of_ne same
        have back : Pos.Raw.unoffsetBy ⟨utf8Len before + utf8Len part⟩ 0 =
            ⟨utf8Len before + utf8Len part⟩ := by
          simp [Pos.Raw.unoffsetBy]
        simp only [List.append_assoc, List.singleton_append, utf8Len_append, utf8Len_cons,
          utf8Len_nil, Nat.zero_add, ← Nat.add_assoc] at next moved
        simp only [List.append_assoc, differs, Bool.false_eq_true, if_false, back, moved, next]
        simp [List.splitOnPPrepend_cons_neg, differs]
termination_by rest.length

theorem splitOn_eq (text : String) (separator : Char) :
    text.splitOn (ofList [separator]) =
      (text.toList.splitOn separator).map ofList := by
  have started := splitOnAux_of_valid separator [] [] text.toList []
  have nonempty : (ofList [separator] == "") = false := by simp
  unfold splitOn
  rw [nonempty, List.splitOn_eq_splitOnP]
  simpa using started

/-- Three parts joined by a character that none of them has. -/
theorem splitOn_three
    {separator : Char}
    {first second third : String}
    (inFirst : separator ∉ first.toList)
    (inSecond : separator ∉ second.toList)
    (inThird : separator ∉ third.toList) :
    (first ++ ofList [separator] ++ second ++ ofList [separator] ++ third).splitOn
        (ofList [separator]) =
      [first, second, third] := by
  rw [splitOn_eq]
  simp only [toList_append, toList_ofList, List.append_assoc, List.nil_append,
    List.cons_append]
  rw [List.splitOn_append_cons_self_of_not_mem inFirst,
    List.splitOn_append_cons_self_of_not_mem inSecond, List.splitOn_eq_singleton inThird]
  simp

end Text
end ConferenceContact
