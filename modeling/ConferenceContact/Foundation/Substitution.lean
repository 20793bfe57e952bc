import Mathlib.Data.List.Basic

/-!
# Substitution of characters

Replacing one character after another by a text is a substitution of all of them at
once, provided that no replacement brings in a character that is still to be replaced.
-/

namespace ConferenceContact
namespace Substitution

variable {α : Type} [DecidableEq α]

/-- Every occurrence of a character is replaced. -/
def replaceAll (character : α) (replacement text : List α) : List α :=
  text.flatMap fun other => if other = character then replacement else [other]

/-- The text a character is replaced by: that of the first rule about it. -/
def substitute : List (α × List α) → α → List α
  | [], character => [character]
  | (replaced, replacement) :: rules, character =>
      if character = replaced then replacement else substitute rules character

/-- No later rule is about a character that an earlier one brings in. -/
def Ordered (rules : List (α × List α)) : Prop :=
  rules.Pairwise fun earlier later => later.1 ∉ earlier.2

instance (rules : List (α × List α)) : Decidable (Ordered rules) :=
  inferInstanceAs (Decidable (rules.Pairwise _))

/-- The rules leave a text alone that holds none of their characters. -/
theorem flatMap_substitute_of_not_mem
    {rules : List (α × List α)}
    {text : List α}
    (absent : ∀ rule ∈ rules, rule.1 ∉ text) :
    text.flatMap (substitute rules) = text := by
  induction text with
  | nil => rfl
  | cons character rest inductionHypothesis =>
      have kept : substitute rules character = [character] := by
        clear inductionHypothesis
        induction rules with
        | nil => rfl
        | cons rule rules inductionHypothesis =>
            obtain ⟨here, elsewhere⟩ := List.forall_mem_cons.mp absent
            have other : ¬character = rule.1 := fun same => here (same ▸ List.mem_cons_self)
            rw [substitute, if_neg other]
            exact inductionHypothesis elsewhere
      rw [List.flatMap_cons, kept,
        inductionHypothesis fun rule listed present =>
          absent rule listed (List.mem_cons_of_mem _ present)]
      rfl

/-- Successive replacements make up one substitution. -/
theorem foldl_replaceAll
    {rules : List (α × List α)}
    (ordered : Ordered rules)
    (text : List α) :
    rules.foldl (fun text rule => replaceAll rule.1 rule.2 text) text =
      text.flatMap (substitute rules) := by
  induction rules generalizing text with
  | nil => exact (List.flatMap_singleton' text).symm
  | cons rule rules inductionHypothesis =>
      obtain ⟨later, rest⟩ := List.pairwise_cons.mp ordered
      rw [List.foldl_cons, inductionHypothesis rest, replaceAll, List.flatMap_assoc]
      congr 1
      funext character
      rw [substitute]
      split
      · exact flatMap_substitute_of_not_mem later
      · exact List.flatMap_singleton ..

end Substitution
end ConferenceContact
