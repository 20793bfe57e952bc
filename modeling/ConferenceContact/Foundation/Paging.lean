import ConferenceContact.Foundation.Queries
import Mathlib.Data.List.Nodup
import Mathlib.Data.List.Perm.Basic

/-!
# Paging through an ordered table

Every page is cut out of its own arrangement of the rows: each is ordered by the key, but
rows with equal keys may stand in another order each time.  The pages hold every row once
if no group of equal keys goes across the end of a page; otherwise some arrangements
repeat a row and leave another one out.
-/

namespace ConferenceContact
namespace Paging

variable {α κ : Type}

/-! ## Arrangements -/

/-- The rows in an order of their keys. -/
structure Arranges (collation : Collation κ) (key : α → κ) (rows arranged : List α) : Prop where
  perm : arranged.Perm rows
  sorted : arranged.Pairwise fun left right => collation.le (key left) (key right) = true

/-- Sorting by the key arranges the rows. -/
theorem arranges_insertionSort (collation : Collation κ) (key : α → κ) (rows : List α) :
    Arranges collation key rows
      (rows.insertionSort fun left right => collation.le (key left) (key right) = true) where
  perm := List.perm_insertionSort _ rows
  sorted := by
    have : Std.Total fun left right => collation.le (key left) (key right) = true :=
      ⟨fun _ _ => collation.total _ _⟩
    have : IsTrans α fun left right => collation.le (key left) (key right) = true :=
      ⟨fun _ _ _ => collation.trans _ _ _⟩
    exact List.pairwise_insertionSort _ rows

/-- One page, the first of which is number 0. -/
def page (size index : Nat) (arranged : List α) : List α :=
  (arranged.drop (index * size)).take size

/-- The pages, each cut out of its own arrangement. -/
def pages (size : Nat) (arranged : Nat → List α) (count : Nat) : List α :=
  (List.range count).flatMap fun index => page size index (arranged index)

section Groups

variable (collation : Collation κ) (key : α → κ) (rows : List α)

/-- How many rows come before those with a key. -/
def before (value : κ) : Nat := rows.countP fun row => !collation.le value (key row)

/-- How many rows come up to the last one with a key. -/
def upTo (value : κ) : Nat := rows.countP fun row => collation.le (key row) value

/-- The rows with some key are on both sides of a place. -/
def Straddled (place : Nat) : Prop :=
  ∃ value, before collation key rows value < place ∧ place < upTo collation key rows value

/-- The rows whose groups end before a place. -/
def head (place : Nat) : List α :=
  rows.filter fun row => upTo collation key rows (key row) ≤ place

end Groups

variable {collation : Collation κ} {key : α → κ} {rows arranged : List α}

/-- A row is in a group around its place. -/
theorem group_around
    {earlier later : List α}
    {row : α}
    (arranges : Arranges collation key rows (earlier ++ row :: later)) :
    before collation key rows (key row) ≤ earlier.length ∧
      earlier.length < upTo collation key rows (key row) := by
  obtain ⟨perm, sorted⟩ := arranges
  obtain ⟨-, fromRow, acrossRow⟩ := List.pairwise_append.mp sorted
  have reflexive : collation.le (key row) (key row) = true := (collation.total _ _).elim id id
  constructor
  · have none : (row :: later).countP (fun other => !collation.le (key row) (key other)) = 0 := by
      refine List.countP_eq_zero.mpr fun other present => ?_
      rcases List.mem_cons.mp present with rfl | present
      · simp [reflexive]
      · simp [List.rel_of_pairwise_cons fromRow present]
    unfold before
    rw [← perm.countP_eq, List.countP_append, none]
    exact List.countP_le_length
  · have every : earlier.countP (fun other => collation.le (key other) (key row)) =
        earlier.length :=
      List.countP_eq_length.mpr fun other present =>
        acrossRow other present row List.mem_cons_self
    unfold upTo
    rw [← perm.countP_eq, List.countP_append, every, List.countP_cons_of_pos]
    · omega
    · exact reflexive

theorem getElem_around
    (arranges : Arranges collation key rows arranged)
    {index : Nat}
    (inside : index < arranged.length) :
    before collation key rows (key arranged[index]) ≤ index ∧
      index < upTo collation key rows (key arranged[index]) := by
  have split : arranged.take index ++ arranged[index] :: arranged.drop (index + 1) = arranged := by
    rw [List.getElem_cons_drop, List.take_append_drop]
  have around := group_around (split.symm ▸ arranges)
  rwa [List.length_take_of_le (Nat.le_of_lt inside)] at around

/-- Groups follow each other in the order of their keys. -/
theorem upTo_le_before {left right : κ} (less : collation.le right left = false) :
    upTo collation key rows left ≤ before collation key rows right := by
  refine List.countP_mono_left fun row _ below => ?_
  cases above : collation.le right (key row) with
  | false => rfl
  | true =>
      have joined := collation.trans _ _ _ above below
      rw [less] at joined
      cases joined

/-- Only one group goes across a place. -/
theorem group_unique
    {left right : κ}
    {place : Nat}
    (first : before collation key rows left ≤ place ∧ place < upTo collation key rows left)
    (second : before collation key rows right ≤ place ∧ place < upTo collation key rows right) :
    left = right := by
  have ordered {one other : κ}
      (one' : place < upTo collation key rows one)
      (other' : before collation key rows other ≤ place) :
      collation.le other one = true := by
    by_contra less
    have apart : upTo collation key rows one ≤ before collation key rows other :=
      upTo_le_before (Bool.not_eq_true _ ▸ less)
    omega
  exact collation.antisymm _ _ (ordered second.2 first.1) (ordered first.2 second.1)

/-- Pages hold rows of the table. -/
theorem pages_subset
    {size count : Nat}
    {other : Nat → List α}
    (arranges : ∀ index, Arranges collation key rows (other index)) :
    pages size other count ⊆ rows := by
  intro row present
  obtain ⟨index, -, onPage⟩ := List.mem_flatMap.mp present
  exact (arranges index).perm.mem_iff.mp (List.mem_of_mem_drop (List.mem_of_mem_take onPage))

/-! ## Ends of pages inside no group -/

/-- The rows before a place inside no group are the same in every arrangement. -/
theorem take_perm
    (arranges : Arranges collation key rows arranged)
    {place : Nat}
    (inside : ¬ Straddled collation key rows place) :
    (arranged.take place).Perm (head collation key rows place) := by
  have ends : ∀ (index : Nat) (short : index < arranged.length),
      upTo collation key rows (key arranged[index]) ≤ place ↔ index < place := by
    intro index short
    obtain ⟨starts, stops⟩ := getElem_around arranges short
    constructor
    · exact fun whole => Nat.lt_of_lt_of_le stops whole
    · intro less
      by_contra across
      exact inside ⟨_, Nat.lt_of_le_of_lt starts less, Nat.lt_of_not_le across⟩
  have taken : arranged.take place =
      arranged.filter fun row => upTo collation key rows (key row) ≤ place := by
    conv_rhs => rw [← List.take_append_drop place arranged]
    rw [List.filter_append, List.filter_eq_self.mpr, List.filter_eq_nil_iff.mpr,
      List.append_nil]
    · intro row present
      obtain ⟨offset, short, rfl⟩ := List.mem_iff_getElem.mp present
      rw [List.length_drop] at short
      rw [List.getElem_drop, decide_eq_true_eq, ends]
      omega
    · intro row present
      obtain ⟨index, short, rfl⟩ := List.mem_iff_getElem.mp present
      rw [List.length_take] at short
      rw [List.getElem_take, decide_eq_true_eq, ends]
      omega
  rw [taken]
  exact arranges.perm.filter _

/-- The rows before a place and the page after it. -/
theorem take_append_page (size index : Nat) (arranged : List α) :
    arranged.take (index * size) ++ page size index arranged =
      arranged.take ((index + 1) * size) := by
  rw [page, ← List.take_add, Nat.succ_mul]

theorem pages_succ (size : Nat) (arranged : Nat → List α) (count : Nat) :
    pages size arranged (count + 1) =
      pages size arranged count ++ page size count (arranged count) := by
  simp [pages, List.range_succ]

/-- Pages whose ends are inside no group. -/
theorem pages_perm_head
    {arranged : Nat → List α}
    (arranges : ∀ index, Arranges collation key rows (arranged index))
    {size : Nat}
    (inside : ∀ index, ¬ Straddled collation key rows (index * size))
    (count : Nat) :
    (pages size arranged count).Perm (head collation key rows (count * size)) := by
  induction count with
  | zero =>
      have none := take_perm (arranges 0) (inside 0)
      rw [Nat.zero_mul, List.take_zero] at none
      rw [Nat.zero_mul]
      exact none
  | succ count inductionHypothesis =>
      have upToHere := take_perm (arranges count) (inside count)
      have upToNext := take_perm (arranges count) (inside (count + 1))
      rw [pages_succ]
      refine ((inductionHypothesis.trans upToHere.symm).append_right _).trans ?_
      rw [take_append_page]
      exact upToNext

theorem head_eq_self {place : Nat} (whole : rows.length ≤ place) :
    head collation key rows place = rows := by
  refine List.filter_eq_self.mpr fun row _ => decide_eq_true ?_
  exact List.countP_le_length.trans whole

/-- Where no two rows have the same key, there is no group to be on both sides of a
place. -/
theorem not_straddled_of_nodup
    (distinct : (rows.map key).Nodup)
    (arranges : Arranges collation key rows arranged)
    (place : Nat) :
    ¬ Straddled collation key rows place := by
  rintro ⟨value, starts, stops⟩
  obtain ⟨previous, rfl⟩ := Nat.exists_eq_succ_of_ne_zero (Nat.ne_zero_of_lt starts)
  have bounded : upTo collation key rows value ≤ rows.length := List.countP_le_length
  have length := arranges.perm.length_eq
  have first : previous < arranged.length := by omega
  have second : previous + 1 < arranged.length := by omega
  have around : before collation key rows value ≤ previous ∧
      previous < upTo collation key rows value := by omega
  have aroundNext : before collation key rows value ≤ previous + 1 ∧
      previous + 1 < upTo collation key rows value := by omega
  have same : key arranged[previous] = key arranged[previous + 1] :=
    (group_unique (getElem_around arranges first) around).trans
      (group_unique (getElem_around arranges second) aroundNext).symm
  have nodup : (arranged.map key).Nodup := (arranges.perm.map key).nodup_iff.mpr distinct
  rw [← List.length_map key] at first second
  have keys : (arranged.map key)[previous] = (arranged.map key)[previous + 1] := by
    rw [List.getElem_map, List.getElem_map]
    exact same
  have equal := nodup.getElem_inj_iff.mp keys
  omega

/-! ## Ends of pages inside a group -/

theorem getElem_mem_page
    {size index place : Nat}
    (inside : place < arranged.length)
    (starts : index * size ≤ place)
    (ends : place < (index + 1) * size) :
    arranged[place] ∈ page size index arranged := by
  rw [Nat.succ_mul] at ends
  have short : place - index * size < (page size index arranged).length := by
    rw [page, List.length_take, List.length_drop]
    omega
  refine List.mem_iff_getElem.mpr ⟨place - index * size, short, ?_⟩
  simp only [page, List.getElem_take, List.getElem_drop]
  congr 1
  omega

/-- Two neighbours with equal keys may change places. -/
theorem Arranges.swap
    {earlier later : List α}
    {left right : α}
    (arranges : Arranges collation key rows (earlier ++ left :: right :: later))
    (same : key left = key right) :
    Arranges collation key rows (earlier ++ right :: left :: later) where
  perm := ((List.Perm.swap left right later).append_left earlier).trans arranges.perm
  sorted := by
    have keys : (earlier ++ right :: left :: later).map key =
        (earlier ++ left :: right :: later).map key := by simp [same]
    refine (List.pairwise_map (R := fun one other => collation.le one other = true)).mp ?_
    rw [keys]
    exact List.pairwise_map.mpr arranges.sorted

/-- If a page ends inside a group, some arrangements repeat a row. -/
theorem exists_repeated
    (unique : rows.Nodup)
    {size index : Nat}
    (straddled : Straddled collation key rows (index * size))
    {count : Nat}
    (enough : rows.length ≤ count * size)
    (arranges : Arranges collation key rows arranged) :
    ∃ other : Nat → List α, (∀ index, Arranges collation key rows (other index)) ∧
      ¬ (pages size other count).Perm rows := by
  obtain ⟨value, starts, stops⟩ := straddled
  obtain ⟨place, endsAt⟩ := Nat.exists_eq_succ_of_ne_zero (Nat.ne_zero_of_lt starts)
  have bounded : upTo collation key rows value ≤ rows.length := List.countP_le_length
  have length := arranges.perm.length_eq
  have second : place + 1 < arranged.length := by omega
  have first : place < arranged.length := by omega
  -- The two rows at the end of the page are in the group.
  have split : arranged.take place ++ arranged[place] :: arranged[place + 1] ::
      arranged.drop (place + 2) = arranged := by
    rw [List.getElem_cons_drop, List.getElem_cons_drop, List.take_append_drop]
  have around : before collation key rows value ≤ place ∧
      place < upTo collation key rows value := by omega
  have aroundNext : before collation key rows value ≤ place + 1 ∧
      place + 1 < upTo collation key rows value := by omega
  have same : key arranged[place] = key arranged[place + 1] :=
    (group_unique (getElem_around arranges first) around).trans
      (group_unique (getElem_around arranges second) aroundNext).symm
  obtain ⟨swapped, moved⟩ : Arranges collation key rows (arranged.take place ++
        arranged[place + 1] :: arranged[place] :: arranged.drop (place + 2)) ∧
      (arranged.take place ++ arranged[place + 1] :: arranged[place] ::
        arranged.drop (place + 2))[place + 1]? = some arranged[place] := by
    refine ⟨Arranges.swap (split.symm ▸ arranges) same, ?_⟩
    rw [List.getElem?_append_right (by simp), List.length_take_of_le (Nat.le_of_lt first)]
    simp
  generalize arranged.take place ++ arranged[place + 1] :: arranged[place] ::
    arranged.drop (place + 2) = exchanged at swapped moved
  obtain ⟨secondToo, moved⟩ := List.getElem?_eq_some_iff.mp moved
  refine ⟨fun number => if number < index then arranged else exchanged, ?_, ?_⟩
  · intro number
    dsimp only
    split
    · exact arranges
    · exact swapped
  · intro perm
    have nodup := perm.nodup_iff.mpr unique
    rw [pages, List.nodup_flatMap] at nodup
    have apart := List.pairwise_iff_getElem.mp nodup.2
    have positive : 0 < size := by
      by_contra none
      rw [Nat.eq_zero_of_not_pos none, Nat.mul_zero] at starts
      omega
    obtain ⟨previous, rfl⟩ : ∃ previous, index = previous + 1 := by
      refine Nat.exists_eq_succ_of_ne_zero fun zero => ?_
      rw [zero, Nat.zero_mul] at starts
      omega
    have inRange : previous + 1 < count := by
      by_contra beyond
      have := Nat.mul_le_mul_right size (Nat.le_of_not_lt beyond)
      omega
    have repeats := apart previous (previous + 1) (by rw [List.length_range]; omega)
      (by rw [List.length_range]; omega) (by omega)
    simp only [Function.onFun, List.getElem_range, Nat.lt_succ_self, Nat.lt_irrefl, if_true,
      if_false] at repeats
    refine repeats (getElem_mem_page first ?_ ?_) (moved ▸ getElem_mem_page secondToo ?_ ?_)
    · rw [Nat.succ_mul] at endsAt
      omega
    · omega
    · omega
    · rw [Nat.succ_mul (previous + 1)]
      omega

/-- The pages of every arrangement hold every row once exactly if no page ends inside a
group. -/
theorem pages_perm_iff
    (unique : rows.Nodup)
    {size count : Nat}
    (enough : rows.length ≤ count * size)
    (arranges : Arranges collation key rows arranged) :
    (∀ other : Nat → List α, (∀ index, Arranges collation key rows (other index)) →
        (pages size other count).Perm rows) ↔
      ∀ index, ¬ Straddled collation key rows (index * size) := by
  constructor
  · intro every index straddled
    obtain ⟨other, othersArrange, notPerm⟩ := exists_repeated unique straddled enough arranges
    exact notPerm (every other othersArrange)
  · intro inside other othersArrange
    have perm := pages_perm_head othersArrange inside count
    rwa [head_eq_self enough] at perm

end Paging
end ConferenceContact
