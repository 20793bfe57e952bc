import Mathlib.Data.List.Basic
import Mathlib.Data.List.Nodup

/-!
# Tables as lists of rows

A table is the list of its rows, newest first.  The operations here are the
ones a query builder offers: look a row up by a key, and rewrite the rows a
condition selects.
-/

namespace ConferenceContact
namespace Table

/-- Rewrite the rows that satisfy a condition. -/
def updateWhere (condition : ρ → Bool) (rewrite : ρ → ρ) (rows : List ρ) : List ρ :=
  rows.map fun row => if condition row then rewrite row else row

@[simp] theorem updateWhere_nil (condition : ρ → Bool) (rewrite : ρ → ρ) :
    updateWhere condition rewrite [] = [] := rfl

@[simp] theorem updateWhere_cons
    (condition : ρ → Bool)
    (rewrite : ρ → ρ)
    (row : ρ)
    (rows : List ρ) :
    updateWhere condition rewrite (row :: rows) =
      (if condition row then rewrite row else row) ::
        updateWhere condition rewrite rows := rfl

theorem mem_updateWhere
    {condition : ρ → Bool}
    {rewrite : ρ → ρ}
    {rows : List ρ}
    {row : ρ} :
    row ∈ updateWhere condition rewrite rows ↔
      ∃ before ∈ rows,
        (if condition before then rewrite before else before) = row :=
  List.mem_map

/-- One of the rows that satisfy a condition, whichever comes up. -/
def findFirst (choice : Nat) (condition : ρ → Bool) (rows : List ρ) : Option ρ :=
  (rows.filter condition)[choice % (rows.filter condition).length]?

theorem findFirst_eq_some
    {choice : Nat}
    {condition : ρ → Bool}
    {rows : List ρ}
    {row : ρ}
    (found : findFirst choice condition rows = some row) :
    row ∈ rows ∧ condition row = true := by
  have matched := List.mem_of_getElem? found
  simpa using matched

/-- A column the rewriting leaves alone reads the same in a row, rewritten or not. -/
theorem column_rewritten
    {column : ρ → κ}
    (condition : ρ → Bool)
    {rewrite : ρ → ρ}
    (kept : ∀ row, column (rewrite row) = column row)
    (row : ρ) :
    column (if condition row then rewrite row else row) = column row := by
  split
  · exact kept row
  · rfl

/-- A column the rewriting leaves alone reads the same in every row. -/
theorem map_updateWhere
    (column : ρ → κ)
    (condition : ρ → Bool)
    (rewrite : ρ → ρ)
    (rows : List ρ)
    (kept : ∀ row, column (rewrite row) = column row) :
    (updateWhere condition rewrite rows).map column = rows.map column := by
  induction rows with
  | nil => rfl
  | cons row rows inductionHypothesis =>
      rw [updateWhere_cons, List.map_cons, List.map_cons, inductionHypothesis,
        column_rewritten condition kept]

/-- Seen through a view that condition and rewriting respect, a rewriting is one of the
views. -/
theorem map_updateWhere_view
    {view : ρ → κ}
    {condition : ρ → Bool}
    {rewrite : ρ → ρ}
    {conditionView : κ → Bool}
    {rewriteView : κ → κ}
    (sameCondition : ∀ row, conditionView (view row) = condition row)
    (sameRewrite : ∀ row, view (rewrite row) = rewriteView (view row))
    (rows : List ρ) :
    (updateWhere condition rewrite rows).map view =
      updateWhere conditionView rewriteView (rows.map view) := by
  unfold updateWhere
  rw [List.map_map, List.map_map]
  refine List.map_congr_left fun row _ => ?_
  simp only [Function.comp_apply, sameCondition]
  split
  · exact sameRewrite row
  · rfl

/-- A rewriting of the same rows again. -/
theorem updateWhere_updateWhere
    {condition : ρ → Bool}
    {first : ρ → ρ}
    (second : ρ → ρ)
    (kept : ∀ row, condition (first row) = condition row)
    (rows : List ρ) :
    updateWhere condition second (updateWhere condition first rows) =
      updateWhere condition (fun row => second (first row)) rows := by
  unfold updateWhere
  rw [List.map_map]
  refine List.map_congr_left fun row _ => ?_
  rw [Function.comp_apply]
  by_cases chosen : condition row = true
  · rw [if_pos chosen, if_pos ((kept row).trans chosen), if_pos chosen]
  · rw [if_neg chosen, if_neg chosen, if_neg chosen]

/-- Rewriting rows that already are as the rewriting makes them does nothing. -/
theorem updateWhere_eq_self
    {condition : ρ → Bool}
    {rewrite : ρ → ρ}
    {rows : List ρ}
    (fixed : ∀ row ∈ rows, condition row = true → rewrite row = row) :
    updateWhere condition rewrite rows = rows := by
  unfold updateWhere
  rw [List.map_congr_left (g := id), List.map_id]
  intro row present
  split
  · exact fixed row present ‹_›
  · rfl

/-- Changing only rows that a filter leaves out, before and after, does not show
through it. -/
theorem filter_map
    {change : ρ → ρ}
    {selected : ρ → Bool}
    {rows : List ρ}
    (hidden : ∀ row ∈ rows, change row = row ∨
      selected row = false ∧ selected (change row) = false) :
    (rows.map change).filter selected = rows.filter selected := by
  induction rows with
  | nil => rfl
  | cons row rows inductionHypothesis =>
      rw [List.map_cons, List.filter_cons, List.filter_cons,
        inductionHypothesis fun other present => hidden other (List.mem_cons_of_mem _ present)]
      rcases hidden row List.mem_cons_self with same | ⟨before, after⟩
      · rw [same]
      · simp [before, after]

/-- Rewriting only rows that a filter leaves out, before and after, does not show
through it. -/
theorem filter_updateWhere
    {condition : ρ → Bool}
    {rewrite : ρ → ρ}
    {selected : ρ → Bool}
    {rows : List ρ}
    (hidden : ∀ row ∈ rows, condition row = true →
      selected row = false ∧ selected (rewrite row) = false) :
    (updateWhere condition rewrite rows).filter selected = rows.filter selected := by
  refine filter_map fun row present => ?_
  split
  · exact .inr (hidden row present ‹_›)
  · exact .inl rfl

/-- A rewriting that a filter does not see commutes with the filter. -/
theorem updateWhere_filter
    {rewrite : ρ → ρ}
    {selected : ρ → Bool}
    (condition : ρ → Bool)
    (kept : ∀ row, condition row = true → selected (rewrite row) = selected row)
    (rows : List ρ) :
    updateWhere condition rewrite (rows.filter selected) =
      (updateWhere condition rewrite rows).filter selected := by
  induction rows with
  | nil => rfl
  | cons row rows inductionHypothesis =>
      rw [updateWhere_cons, List.filter_cons, List.filter_cons, ← inductionHypothesis]
      by_cases met : condition row = true
      · rw [if_pos met, kept row met]
        by_cases shown : selected row = true
        · rw [if_pos shown, if_pos shown, updateWhere_cons, if_pos met]
        · rw [if_neg shown, if_neg shown]
      · rw [if_neg met]
        by_cases shown : selected row = true
        · rw [if_pos shown, if_pos shown, updateWhere_cons, if_neg met]
        · rw [if_neg shown, if_neg shown]

/-- Rows that are selected for a rewriting before and after it are the selected ones,
rewritten. -/
theorem filter_updateWhere_self
    {condition : ρ → Bool}
    {rewrite : ρ → ρ}
    (kept : ∀ row, condition (rewrite row) = condition row)
    (rows : List ρ) :
    (updateWhere condition rewrite rows).filter condition =
      (rows.filter condition).map rewrite := by
  induction rows with
  | nil => rfl
  | cons row rows inductionHypothesis =>
      rw [updateWhere_cons]
      cases chosen : condition row with
      | true =>
          rw [if_pos rfl, List.filter_cons_of_pos (by rw [kept, chosen]),
            List.filter_cons_of_pos chosen, List.map_cons, inductionHypothesis]
      | false =>
          rw [if_neg Bool.false_ne_true, List.filter_cons_of_neg (by rw [chosen]; exact nofun),
            List.filter_cons_of_neg (by rw [chosen]; exact nofun), inductionHypothesis]

/-- A rewriting that hides its rows from a filter takes them out of what the filter
selects. -/
theorem filter_updateWhere_hides
    {condition : ρ → Bool}
    {rewrite : ρ → ρ}
    {selected : ρ → Bool}
    (rows : List ρ)
    (hides : ∀ row, selected (rewrite row) = false) :
    (updateWhere condition rewrite rows).filter selected =
      rows.filter fun row => selected row && !condition row := by
  induction rows with
  | nil => rfl
  | cons row rows inductionHypothesis =>
      rw [updateWhere_cons, List.filter_cons, List.filter_cons, inductionHypothesis]
      cases chosen : condition row <;> simp [hides]

/-- A rewriting that keeps the keys rewrites the row a lookup finds. -/
theorem find?_updateWhere
    [DecidableEq κ]
    (key : ρ → κ)
    (condition : ρ → Bool)
    (rewrite : ρ → ρ)
    (rows : List ρ)
    (value : κ)
    (kept : ∀ row, key (rewrite row) = key row) :
    (updateWhere condition rewrite rows).find? (fun row => key row = value) =
      (rows.find? fun row => key row = value).map fun row =>
        if condition row then rewrite row else row := by
  unfold updateWhere
  rw [List.find?_map]
  have sameKey : ((fun row => decide (key row = value)) ∘ fun row =>
      if condition row = true then rewrite row else row) =
      fun row => decide (key row = value) := by
    funext row
    rw [Function.comp_apply, column_rewritten condition kept]
  rw [sameKey]

/-- With distinct keys, a condition on rows of one key is a condition on the row a
lookup finds. -/
theorem any_key_and
    [DecidableEq κ]
    {key : ρ → κ}
    {rows : List ρ}
    (distinct : (rows.map key).Nodup)
    (condition : ρ → Bool)
    (value : κ) :
    (rows.any fun row => key row = value && condition row) =
      (rows.find? fun row => key row = value).any condition := by
  induction rows with
  | nil => rfl
  | cons head rows inductionHypothesis =>
      rw [List.map_cons, List.nodup_cons] at distinct
      rw [List.any_cons, inductionHypothesis distinct.2]
      by_cases found : key head = value
      · have others : rows.find? (fun row => key row = value) = none := by
          rw [List.find?_eq_none]
          intro row present same
          have sameKey : key row = key head := (of_decide_eq_true same).trans found.symm
          exact distinct.1 (sameKey ▸ List.mem_map_of_mem present)
        simp [found, others]
      · simp [found]

/-- With distinct keys, looking a stored row up by its key finds that row. -/
theorem find?_key_eq_some
    [DecidableEq κ]
    {key : ρ → κ}
    {rows : List ρ}
    {row : ρ}
    (distinct : (rows.map key).Nodup)
    (present : row ∈ rows) :
    rows.find? (fun other => key other = key row) = some row := by
  induction rows with
  | nil => cases present
  | cons head rows inductionHypothesis =>
      rw [List.map_cons, List.nodup_cons] at distinct
      rcases List.mem_cons.mp present with rfl | inTail
      · simp
      · have different : key head ≠ key row := by
          intro equal
          exact distinct.1 (equal ▸ List.mem_map_of_mem inTail)
        rw [List.find?_cons_of_neg (by simpa using different)]
        exact inductionHypothesis distinct.2 inTail

/-- With distinct keys, a lookup that discards invisible rows is a lookup among the
visible ones. -/
theorem filter_find?
    [DecidableEq κ]
    {key : ρ → κ}
    {rows : List ρ}
    (distinct : (rows.map key).Nodup)
    (visible : ρ → Bool)
    (value : κ) :
    (rows.find? fun row => key row = value).filter visible =
      (rows.filter visible).find? fun row => key row = value := by
  induction rows with
  | nil => rfl
  | cons head rows inductionHypothesis =>
      rw [List.map_cons, List.nodup_cons] at distinct
      rw [List.filter_cons]
      by_cases named : key head = value
      · have others : (rows.filter visible).find? (fun row => key row = value) = none := by
          rw [List.find?_eq_none]
          intro row present same
          have sameKey : key row = key head := (of_decide_eq_true same).trans named.symm
          exact distinct.1 (sameKey ▸ List.mem_map_of_mem (List.mem_of_mem_filter present))
        cases seen : visible head <;> simp [named, seen, others]
      · have rest := inductionHypothesis distinct.2
        cases visible head <;> simp [named, rest]

/-- With distinct keys, at most the row of a key is counted. -/
theorem countP_key_and
    [DecidableEq κ]
    {key : ρ → κ}
    {rows : List ρ}
    (distinct : (rows.map key).Nodup)
    (visible : ρ → Bool)
    (value : κ) :
    (rows.countP fun row => key row = value && visible row) =
      if (rows.find? fun row => key row = value).any visible then 1 else 0 := by
  induction rows with
  | nil => rfl
  | cons head rows inductionHypothesis =>
      rw [List.map_cons, List.nodup_cons] at distinct
      by_cases named : key head = value
      · have others : (rows.countP fun row => key row = value && visible row) = 0 := by
          rw [List.countP_eq_zero]
          intro row present selected
          rw [Bool.and_eq_true, decide_eq_true_eq] at selected
          have sameKey : key row = key head := selected.1.trans named.symm
          exact distinct.1 (sameKey ▸ List.mem_map_of_mem present)
        cases seen : visible head <;> simp [named, seen, others]
      · simp [named, inductionHypothesis distinct.2]

/-- With distinct keys, two stored rows of one key are the same row. -/
theorem eq_of_key_eq
    {key : ρ → κ}
    {rows : List ρ}
    {left right : ρ}
    (distinct : (rows.map key).Nodup)
    (leftPresent : left ∈ rows)
    (rightPresent : right ∈ rows)
    (equal : key left = key right) :
    left = right :=
  List.inj_on_of_nodup_map distinct leftPresent rightPresent equal

/-- With distinct names that a rewriting keeps, a lookup finds a row rewritten exactly if
it found the row. -/
theorem find?_updateWhere_eq_some
    [DecidableEq κ]
    {key : ρ → κ}
    {name : ρ → ι}
    (condition : ρ → Bool)
    {rewrite : ρ → ρ}
    {rows : List ρ}
    (keepsKey : ∀ row, key (rewrite row) = key row)
    (keepsName : ∀ row, name (rewrite row) = name row)
    (distinct : (rows.map name).Nodup)
    {row : ρ}
    (present : row ∈ rows)
    (value : κ) :
    (updateWhere condition rewrite rows).find? (fun other => key other = value) =
        some (if condition row then rewrite row else row) ↔
      (rows.find? fun other => key other = value) = some row := by
  rw [find?_updateWhere key condition rewrite rows value keepsKey]
  constructor
  · intro after
    obtain ⟨found, isFound, same⟩ := Option.map_eq_some_iff.mp after
    have sameName : name found = name row := by
      rw [← column_rewritten condition keepsName found, same,
        column_rewritten condition keepsName row]
    rw [isFound, eq_of_key_eq distinct (List.mem_of_find?_eq_some isFound) present sameName]
  · intro isFound
    rw [isFound]
    rfl

/-- With distinct keys, what is not behind a place is before it. -/
theorem filter_not_mem_drop
    [DecidableEq κ]
    {key : ρ → κ}
    {rows : List ρ}
    (distinct : (rows.map key).Nodup)
    (place : Nat) :
    rows.filter (fun row => key row ∉ (rows.drop place).map key) = rows.take place := by
  induction rows generalizing place with
  | nil => simp
  | cons head rows inductionHypothesis =>
      rw [List.map_cons, List.nodup_cons] at distinct
      cases place with
      | zero =>
          rw [List.drop_zero, List.take_zero, List.filter_eq_nil_iff]
          intro row present
          simpa only [decide_eq_true_eq, not_not] using List.mem_map_of_mem present
      | succ place =>
          have kept : key head ∉ (rows.drop place).map key :=
            fun dropped => distinct.1 (List.map_subset _ (List.drop_subset _ _) dropped)
          rw [List.drop_succ_cons, List.take_succ_cons,
            List.filter_cons_of_pos (by simpa using kept), inductionHypothesis distinct.2]

/-- Without the rows of one selected key fewer are selected. -/
theorem countP_without
    [DecidableEq κ]
    {key : ρ → κ}
    {rows : List ρ}
    {selected : ρ → Bool}
    {row : ρ}
    (present : row ∈ rows)
    (isSelected : selected row = true) :
    rows.countP (fun other => selected other && key other ≠ key row) + 1 ≤
      rows.countP selected := by
  rw [List.countP_eq_countP_filter_add rows selected (fun other => key other ≠ key row),
    List.countP_filter]
  have one : 0 < (rows.filter fun other => ¬key other ≠ key row).countP selected :=
    List.countP_pos_iff.mpr ⟨row, List.mem_filter.mpr ⟨present, by simp⟩, isSelected⟩
  simp only [decide_not] at one ⊢
  omega

end Table
end ConferenceContact
