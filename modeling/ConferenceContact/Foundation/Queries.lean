import Mathlib.Data.List.Sort
import Mathlib.Data.List.Dedup

/-!
# Queries over a table

A query that selects by a condition which implies that a row is visible sees nothing but
the visible rows, and neither does what is computed from its result.  The distinct values
of a column in their order say which values the column has, and nothing else.
-/

namespace ConferenceContact

/-! ## Visible rows -/

/-- A read gives the same for tables with the same visible rows. -/
def SeesOnly (visible : ρ → Bool) (read : List ρ → α) : Prop :=
  ∀ left right, left.filter visible = right.filter visible → read left = read right

namespace SeesOnly

variable {visible : ρ → Bool}

/-- A query of visible rows. -/
theorem filter
    {condition : ρ → Bool}
    (implies : ∀ row, condition row = true → visible row = true) :
    SeesOnly visible fun rows => rows.filter condition := by
  have narrowed : ∀ rows : List ρ,
      rows.filter condition = (rows.filter visible).filter condition := by
    intro rows
    rw [List.filter_filter]
    refine List.filter_congr fun row _ => ?_
    cases holds : condition row with
    | false => rfl
    | true => rw [implies row holds]; rfl
  intro left right same
  dsimp only
  rw [narrowed left, narrowed right, same]

/-- What is computed from the result of a read. -/
theorem map
    {read : List ρ → α}
    (sees : SeesOnly visible read)
    (result : α → β) :
    SeesOnly visible fun rows => result (read rows) :=
  fun left right same => congrArg result (sees left right same)

/-- A lookup of a visible row. -/
theorem find?
    {condition : ρ → Bool}
    (implies : ∀ row, condition row = true → visible row = true) :
    SeesOnly visible fun rows => rows.find? condition := by
  have first : (fun rows : List ρ => rows.find? condition) =
      fun rows => (rows.filter condition).head? := by
    funext rows
    exact List.head?_filter.symm
  rw [first]
  exact (SeesOnly.filter implies).map List.head?

/-- Whether there is a visible row of a kind. -/
theorem any
    {condition : ρ → Bool}
    (implies : ∀ row, condition row = true → visible row = true) :
    SeesOnly visible fun rows => rows.any condition := by
  have found : (fun rows : List ρ => rows.any condition) =
      fun rows => (rows.find? condition).isSome := by
    funext rows
    exact List.isSome_find?.symm
  rw [found]
  exact (SeesOnly.find? implies).map Option.isSome

/-- The number of visible rows of a kind. -/
theorem countP
    {condition : ρ → Bool}
    (implies : ∀ row, condition row = true → visible row = true) :
    SeesOnly visible fun rows => rows.countP condition := by
  have counted : (fun rows : List ρ => rows.countP condition) =
      fun rows => (rows.filter condition).length := by
    funext rows
    exact List.countP_eq_length_filter
  rw [counted]
  exact (SeesOnly.filter implies).map List.length

end SeesOnly

/-! ## Distinct values -/

/-- A linear order of the values of a column. -/
structure Collation (κ : Type) where
  le : κ → κ → Bool
  total : ∀ left right, le left right = true ∨ le right left = true
  trans : ∀ first second third, le first second = true → le second third = true →
    le first third = true
  antisymm : ∀ left right, le left right = true → le right left = true → left = right

namespace Collation

/-- Order by a natural number that tells values apart. -/
def ofRank (rank : κ → Nat) (injective : ∀ left right, rank left = rank right → left = right) :
    Collation κ where
  le left right := rank left ≤ rank right
  total left right := by
    simp only [decide_eq_true_eq]
    exact Nat.le_total _ _
  trans first second third := by
    simp only [decide_eq_true_eq]
    exact Nat.le_trans
  antisymm left right := by
    simp only [decide_eq_true_eq]
    exact fun below above => injective left right (Nat.le_antisymm below above)

/-- A missing value comes last. -/
def nullsLast (collation : Collation κ) : Collation (Option κ) where
  le
    | some left, some right => collation.le left right
    | _, none => true
    | none, some _ => false
  total left right := by
    cases left with
    | none => cases right <;> exact .inr rfl
    | some left =>
        cases right with
        | none => exact .inl rfl
        | some right => exact collation.total left right
  trans first second third := by
    cases third with
    | none => cases first <;> exact fun _ _ => rfl
    | some third =>
        cases second with
        | none => exact fun _ impossible => absurd impossible Bool.false_ne_true
        | some second =>
            cases first with
            | none => exact fun impossible => absurd impossible Bool.false_ne_true
            | some first => exact collation.trans first second third
  antisymm left right := by
    cases left with
    | none =>
        cases right with
        | none => exact fun _ _ => rfl
        | some right => exact fun impossible => absurd impossible Bool.false_ne_true
    | some left =>
        cases right with
        | none => exact fun _ impossible => absurd impossible Bool.false_ne_true
        | some right =>
            exact fun below above => congrArg some (collation.antisymm left right below above)

variable [DecidableEq κ] (collation : Collation κ)

/-- `SELECT DISTINCT` of a column, ordered by it. -/
def distinct (values : List κ) : List κ :=
  (values.insertionSort fun left right => collation.le left right = true).dedup

theorem mem_distinct {value : κ} {values : List κ} :
    value ∈ collation.distinct values ↔ value ∈ values :=
  List.mem_dedup.trans (List.mem_insertionSort _)

/-- The distinct values say which values there are, and nothing else. -/
theorem distinct_eq_iff {left right : List κ} :
    collation.distinct left = collation.distinct right ↔
      ∀ value, value ∈ left ↔ value ∈ right := by
  constructor
  · intro same value
    rw [← collation.mem_distinct, same, collation.mem_distinct]
  · intro same
    have ordered : ∀ values,
        (collation.distinct values).Pairwise fun left right => collation.le left right = true := by
      intro values
      have : Std.Total fun left right => collation.le left right = true := ⟨collation.total⟩
      have : IsTrans κ fun left right => collation.le left right = true := ⟨collation.trans⟩
      exact (List.pairwise_insertionSort _ values).sublist (List.dedup_sublist _)
    have sameValues : (collation.distinct left).Perm (collation.distinct right) := by
      refine (List.perm_ext_iff_of_nodup (List.nodup_dedup _) (List.nodup_dedup _)).mpr ?_
      intro value
      exact (collation.mem_distinct.trans (same value)).trans collation.mem_distinct.symm
    exact sameValues.eq_of_pairwise (fun first second _ _ => collation.antisymm first second)
      (ordered left) (ordered right)

end Collation
end ConferenceContact
