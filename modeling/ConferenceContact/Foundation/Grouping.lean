import Mathlib.Algebra.BigOperators.Group.List.Basic
import Mathlib.Algebra.GroupWithZero.Nat
import Mathlib.Data.List.Nodup

/-!
# Grouping items by a key

The items of a table are grouped in a map, whose entry for a key is rewritten for every
item with the key.  Whatever amounts the rewritings add, their sum over the entries is the
sum over the items, and the entry of a key has the amounts of its items.
-/

namespace ConferenceContact
namespace Grouping

variable {α κ β : Type} [DecidableEq κ]

/-! ## Maps -/

/-- `map.set(key, rewrite(map.get(key) ?? initial))`; entries stay in the order in which
their keys came. -/
def upsert (initial : β) (key : κ) (rewrite : β → β) : List (κ × β) → List (κ × β)
  | [] => [(key, rewrite initial)]
  | entry :: rest =>
      if entry.1 = key then (entry.1, rewrite entry.2) :: rest
      else entry :: upsert initial key rewrite rest

/-- A loop over items that rewrites the entry of each. -/
def group
    (initial : β)
    (key : α → κ)
    (rewrite : α → β → β)
    (items : List α)
    (entries : List (κ × β)) : List (κ × β) :=
  items.foldl (fun entries item => upsert initial (key item) (rewrite item) entries) entries

variable {initial : β} {key : κ} {rewrite : β → β} {entries : List (κ × β)}

theorem mem_keys_upsert {other : κ} :
    other ∈ (upsert initial key rewrite entries).map Prod.fst ↔
      other = key ∨ other ∈ entries.map Prod.fst := by
  induction entries with
  | nil => simp [upsert]
  | cons entry rest inductionHypothesis =>
      rw [upsert]
      split
      · rename_i same
        subst same
        simp
      · simp only [List.map_cons, List.mem_cons, inductionHypothesis]
        tauto

theorem nodup_keys_upsert (nodup : (entries.map Prod.fst).Nodup) :
    ((upsert initial key rewrite entries).map Prod.fst).Nodup := by
  induction entries with
  | nil => simp [upsert]
  | cons entry rest inductionHypothesis =>
      rw [List.map_cons, List.nodup_cons] at nodup
      rw [upsert]
      split
      · rw [List.map_cons, List.nodup_cons]
        exact nodup
      · rename_i differs
        rw [List.map_cons, List.nodup_cons, mem_keys_upsert, not_or]
        exact ⟨⟨differs, nodup.1⟩, inductionHypothesis nodup.2⟩

/-- An amount of the entries grows by what the rewriting adds to it. -/
theorem sum_upsert
    {amount : β → Nat}
    {added : Nat}
    (empty : amount initial = 0)
    (adds : ∀ value, amount (rewrite value) = amount value + added) :
    ((upsert initial key rewrite entries).map fun entry => amount entry.2).sum =
      (entries.map fun entry => amount entry.2).sum + added := by
  induction entries with
  | nil => simp [upsert, adds, empty]
  | cons entry rest inductionHypothesis =>
      rw [upsert]
      split
      · simp only [List.map_cons, List.sum_cons, adds]
        omega
      · simp only [List.map_cons, List.sum_cons, inductionHypothesis]
        omega

theorem lookup_upsert (other : κ) :
    (upsert initial key rewrite entries).lookup other =
      if other = key then some (rewrite ((entries.lookup key).getD initial))
      else entries.lookup other := by
  induction entries with
  | nil =>
      rw [upsert, List.lookup_cons, List.lookup_nil]
      by_cases same : other = key
      · simp [same]
      · simp [same, beq_false_of_ne same]
  | cons entry rest inductionHypothesis =>
      obtain ⟨first, value⟩ := entry
      rw [upsert, List.lookup_cons, List.lookup_cons]
      by_cases same : first = key
      · subst same
        by_cases here : other = first
        · simp [here]
        · simp [List.lookup_cons, here, beq_false_of_ne here]
      · rw [if_neg same, List.lookup_cons, beq_false_of_ne (Ne.symm same), inductionHypothesis]
        by_cases here : other = first
        · subst here
          simp [same]
        · simp [beq_false_of_ne here]

/-! ## Loops -/

section

variable {key : α → κ} {rewrite : α → β → β}

theorem nodup_keys_group
    (items : List α)
    (nodup : (entries.map Prod.fst).Nodup) :
    ((group initial key rewrite items entries).map Prod.fst).Nodup := by
  induction items generalizing entries with
  | nil => exact nodup
  | cons item rest inductionHypothesis => exact inductionHypothesis (nodup_keys_upsert nodup)

/-- The amounts of all entries are the amounts of all items. -/
theorem sum_group
    (amount : β → Nat)
    (added : α → Nat)
    (empty : amount initial = 0)
    (adds : ∀ item value, amount (rewrite item value) = amount value + added item)
    (items : List α) :
    ((group initial key rewrite items entries).map fun entry => amount entry.2).sum =
      (entries.map fun entry => amount entry.2).sum + (items.map added).sum := by
  induction items generalizing entries with
  | nil => simp [group]
  | cons item rest inductionHypothesis =>
      unfold group at inductionHypothesis ⊢
      rw [List.foldl_cons, inductionHypothesis, sum_upsert empty (adds item), List.map_cons,
        List.sum_cons]
      omega

/-- The amount of an entry is that of the items with its key. -/
theorem lookup_group
    (amount : β → Nat)
    (added : α → Nat)
    (adds : ∀ item value, amount (rewrite item value) = amount value + added item)
    (items : List α)
    (value : κ) :
    amount (((group initial key rewrite items entries).lookup value).getD initial) =
      amount ((entries.lookup value).getD initial) +
        ((items.filter fun item => key item = value).map added).sum := by
  induction items generalizing entries with
  | nil => simp [group]
  | cons item rest inductionHypothesis =>
      unfold group at inductionHypothesis ⊢
      rw [List.foldl_cons, inductionHypothesis, lookup_upsert, List.filter_cons]
      by_cases same : key item = value
      · simp [same, adds]
        omega
      · simp [same, Ne.symm same]

end

/-- Among items with some keys, those with one of the keys. -/
theorem filter_listed
    {key : α → κ}
    {keys : List κ}
    {value : κ}
    (listed : value ∈ keys)
    (items : List α) :
    ((items.filter fun item => key item ∈ keys).filter fun item => key item = value) =
      items.filter fun item => key item = value := by
  rw [List.filter_filter]
  refine List.filter_congr fun item _ => ?_
  by_cases same : key item = value
  · simp [same, listed]
  · simp [same]

/-! ## Sums by group -/

/-- A sum with one term that is not zero. -/
theorem sum_single
    {keys : List κ}
    (nodup : keys.Nodup)
    {key : κ}
    (listed : key ∈ keys)
    (amount : Nat) :
    (keys.map fun value => if value = key then amount else 0).sum = amount := by
  rw [List.sum_map_ite, List.filter_eq, List.count_eq_one_of_mem nodup listed]
  simp

/-- Sums over the groups of some keys add up to the sum over all items, if every item is in
a group. -/
theorem sum_groups
    {key : α → κ}
    {keys : List κ}
    (nodup : keys.Nodup)
    (amount : α → Nat)
    {items : List α}
    (covered : ∀ item ∈ items, key item ∈ keys) :
    (keys.map fun value => ((items.filter fun item => key item = value).map amount).sum).sum =
      (items.map amount).sum := by
  induction items with
  | nil => simp
  | cons item rest inductionHypothesis =>
      obtain ⟨here, others⟩ := List.forall_mem_cons.mp covered
      rw [List.map_cons, List.sum_cons, ← inductionHypothesis others]
      have split : ∀ value, (((item :: rest).filter fun item => key item = value).map amount).sum =
          (if value = key item then amount item else 0) +
            ((rest.filter fun item => key item = value).map amount).sum := by
        intro value
        rw [List.filter_cons]
        by_cases same : key item = value
        · simp [same]
        · simp [same, Ne.symm same]
      simp only [split, List.sum_map_add]
      rw [sum_single nodup here]

end Grouping
end ConferenceContact
