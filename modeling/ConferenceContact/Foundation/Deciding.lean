import ConferenceContact.Foundation.Table

/-!
# Decisions made by the first relevant row

A table, newest row first, is judged by its first relevant row alone.  A row is
exposed when no newer row is relevant: only a change to an exposed row can
change the verdict.
-/

namespace ConferenceContact
namespace Deciding

variable {ρ : Type} {relevant : ρ → Bool}

/-- The row has only irrelevant rows above it, and `older` below it. -/
def Exposed (relevant : ρ → Bool) (rows : List ρ) (row : ρ) (older : List ρ) : Prop :=
  ∃ newer, rows = newer ++ row :: older ∧ ∀ other ∈ newer, relevant other = false

theorem exposed_head (row : ρ) (older : List ρ) :
    Exposed relevant (row :: older) row older :=
  ⟨[], rfl, fun _ present => absurd present List.not_mem_nil⟩

/-- An irrelevant row on top hides nothing. -/
theorem Exposed.cons
    {rows older : List ρ}
    {row : ρ}
    (exposed : Exposed relevant rows row older)
    {head : ρ}
    (irrelevant : relevant head = false) :
    Exposed relevant (head :: rows) row older := by
  obtain ⟨newer, split, above⟩ := exposed
  refine ⟨head :: newer, by rw [split, List.cons_append], ?_⟩
  intro other present
  rcases List.mem_cons.mp present with rfl | inNewer
  · exact irrelevant
  · exact above other inNewer

theorem Exposed.mem
    {rows older : List ρ}
    {row : ρ}
    (exposed : Exposed relevant rows row older) :
    row ∈ rows := by
  obtain ⟨newer, split, -⟩ := exposed
  simp [split]

/-- A relevant exposed row decides. -/
theorem Exposed.find?
    {rows older : List ρ}
    {row : ρ}
    (exposed : Exposed relevant rows row older)
    (isRelevant : relevant row = true) :
    rows.find? relevant = some row := by
  obtain ⟨newer, split, above⟩ := exposed
  refine List.find?_eq_some_iff_append.mpr ⟨isRelevant, newer, older, split, ?_⟩
  intro other present
  simp [above other present]

/-- A verdict survives the rewriting of one row: an exposed row that is
rewritten either decides in its new form, or gives way to the older ones. -/
theorem verdict_updateWhere
    (verdict : Option ρ → Prop)
    {condition : ρ → Bool}
    {rewrite : ρ → ρ}
    {rows : List ρ}
    (single : rows.Pairwise fun left right =>
      ¬ (condition left = true ∧ condition right = true))
    (holds : verdict (rows.find? relevant))
    (decides : ∀ row older, Exposed relevant rows row older → condition row = true →
      relevant (rewrite row) = true → verdict (some (rewrite row)))
    (givesWay : ∀ row older, Exposed relevant rows row older → condition row = true →
      relevant row = true → relevant (rewrite row) = false →
      verdict (older.find? relevant)) :
    verdict ((Table.updateWhere condition rewrite rows).find? relevant) := by
  induction rows with
  | nil => exact holds
  | cons head rows inductionHypothesis =>
      rw [List.pairwise_cons] at single
      rw [Table.updateWhere_cons]
      by_cases chosen : condition head = true
      · -- The only row the condition selects is the head.
        have unchanged : Table.updateWhere condition rewrite rows = rows := by
          refine Table.updateWhere_eq_self fun row present alsoChosen => ?_
          exact absurd ⟨chosen, alsoChosen⟩ (single.1 row present)
        rw [if_pos chosen, unchanged]
        cases rewritten : relevant (rewrite head) with
        | true =>
            rw [List.find?_cons_of_pos rewritten]
            exact decides head rows (exposed_head head rows) chosen rewritten
        | false =>
            rw [List.find?_cons_of_neg (by simp [rewritten])]
            cases before : relevant head with
            | true =>
                exact givesWay head rows (exposed_head head rows) chosen before rewritten
            | false => rwa [List.find?_cons_of_neg (by simp [before])] at holds
      · rw [if_neg chosen]
        cases before : relevant head with
        | true =>
            rw [List.find?_cons_of_pos before] at holds ⊢
            exact holds
        | false =>
            rw [List.find?_cons_of_neg (by simp [before])] at holds ⊢
            refine inductionHypothesis single.2 holds ?_ ?_
            · intro row older exposed
              exact decides row older (exposed.cons before)
            · intro row older exposed
              exact givesWay row older (exposed.cons before)

/-- A verdict survives a new row that is irrelevant or gets the same verdict. -/
theorem verdict_cons
    (verdict : Option ρ → Prop)
    {row : ρ}
    {rows : List ρ}
    (holds : verdict (rows.find? relevant))
    (decides : relevant row = true → verdict (some row)) :
    verdict ((row :: rows).find? relevant) := by
  cases isRelevant : relevant row with
  | true =>
      rw [List.find?_cons_of_pos isRelevant]
      exact decides isRelevant
  | false =>
      rw [List.find?_cons_of_neg (by simp [isRelevant])]
      exact holds

end Deciding
end ConferenceContact
