import Mathlib.Data.Set.Insert
import Mathlib.Logic.Function.Basic
import Mathlib.Logic.Relation

/-!
# Succession

Members of a system replace items in use by new ones, each in three steps: take
up the item, put the new one in place, retire the old one.  Items may be
withdrawn at any time, and a member may give up before it has put anything in
place.  Where no item gets a second replacement, at most one item is in use once
every member is idle, if at most one was at the start.
-/

namespace ConferenceContact

/-- How far a member has come with replacing an item. -/
inductive Custody (ι : Type)
  | idle
  /-- It has taken up the item. -/
  | taken (item : ι)
  /-- It has put the replacement in place, and is to retire the item. -/
  | replaced (item : ι)

/-- The items in use, the items that have a replacement on record, and how far the
members have come. -/
structure Succession (κ ι : Type) where
  live : Set ι
  retired : Set ι
  custody : κ → Custody ι

namespace Succession

variable {κ ι : Type}

/-- The item has no replacement, on record or about to be. -/
structure Unreplaced (system : Succession κ ι) (item : ι) : Prop where
  unretired : item ∉ system.retired
  unheld : ∀ member, system.custody member ≠ .replaced item

/-- The item is in use, or some member will replace it though it no longer is. -/
structure Pending (system : Succession κ ι) (item : ι) : Prop where
  unheld : ∀ member, system.custody member ≠ .replaced item
  current : item ∈ system.live ∨
    item ∉ system.retired ∧ ∃ member, system.custody member = .taken item

/-- At most one item is pending. -/
def Single (system : Succession κ ι) : Prop :=
  ∀ first second, system.Pending first → system.Pending second → first = second

/-! ## What is pending -/

section

variable {before after : Succession κ ι}

/-- Where everything pending was pending before, one item at most stays pending. -/
theorem Single.of_pending
    (single : before.Single)
    (pending : ∀ item, after.Pending item → before.Pending item) :
    after.Single :=
  fun first second left right => single first second (pending first left) (pending second right)

/-- While every member is idle, one item at most is in use. -/
theorem Single.live_eq
    (single : before.Single)
    (idle : ∀ member, before.custody member = .idle)
    {first second : ι}
    (left : first ∈ before.live)
    (right : second ∈ before.live) :
    first = second := by
  have pending : ∀ item ∈ before.live, before.Pending item := by
    refine fun item inUse => ⟨fun member holds => ?_, .inl inUse⟩
    rw [idle] at holds
    cases holds
  exact single first second (pending first left) (pending second right)

/-- While every member is idle, an item is pending exactly if it is in use. -/
theorem Single.of_idle
    (idle : ∀ member, before.custody member = .idle)
    (unique : ∀ first ∈ before.live, ∀ second ∈ before.live, first = second) :
    before.Single := by
  have inUse : ∀ item, before.Pending item → item ∈ before.live := by
    intro item pending
    rcases pending.current with current | ⟨-, member, holds⟩
    · exact current
    · rw [idle] at holds
      cases holds
  exact fun first second left right => unique first (inUse first left) second (inUse second right)

end

/-! ## Steps -/

variable [DecidableEq κ]

/-- One change of the system. -/
inductive Step (before after : Succession κ ι) : Prop
  /-- Items go out of use. -/
  | withdraw
      (live : after.live ⊆ before.live)
      (retired : after.retired = before.retired)
      (custody : after.custody = before.custody)
  /-- An idle member takes up an item in use. -/
  | take
      (member : κ)
      (item : ι)
      (idle : before.custody member = .idle)
      (inUse : item ∈ before.live)
      (live : after.live = before.live)
      (retired : after.retired = before.retired)
      (custody : after.custody = Function.update before.custody member (.taken item))
  /-- A member gives up. -/
  | drop
      (member : κ)
      (early : ∀ item, before.custody member ≠ .replaced item)
      (live : after.live = before.live)
      (retired : after.retired = before.retired)
      (custody : after.custody = Function.update before.custody member .idle)
  /-- A member puts in place the only replacement its item gets. -/
  | put
      (member : κ)
      (item new : ι)
      (took : before.custody member = .taken item)
      (unreplaced : before.Unreplaced item)
      (live : after.live = insert new before.live)
      (retired : after.retired = before.retired)
      (custody : after.custody = Function.update before.custody member (.replaced item))
  /-- A member retires its item. -/
  | retire
      (member : κ)
      (item : ι)
      (put : before.custody member = .replaced item)
      (live : after.live = before.live \ {item})
      (retired : after.retired = insert item before.retired)
      (custody : after.custody = Function.update before.custody member .idle)

variable {before after : Succession κ ι} {mover : κ} {holds : Custody ι}

/-- An item that no member is to retire after a move of one that was not to retire
it, no member was to retire. -/
theorem unheld_of_update
    {item : ι}
    (custody : after.custody = Function.update before.custody mover holds)
    (other : before.custody mover ≠ .replaced item)
    (unheld : ∀ member, after.custody member ≠ .replaced item) :
    ∀ member, before.custody member ≠ .replaced item := by
  intro member held
  have elsewhere : member ≠ mover := by
    rintro rfl
    exact other held
  refine unheld member ?_
  rw [custody, Function.update_of_ne elsewhere]
  exact held

/-- An item that some member has taken up after a move, one had taken up before,
unless the move took it up. -/
theorem taken_of_update
    {item : ι}
    (custody : after.custody = Function.update before.custody mover holds)
    (taken : ∃ member, after.custody member = .taken item) :
    holds = .taken item ∨ ∃ member, before.custody member = .taken item := by
  obtain ⟨member, held⟩ := taken
  rw [custody] at held
  by_cases same : member = mover
  · subst same
    rw [Function.update_self] at held
    exact .inl held
  · rw [Function.update_of_ne same] at held
    exact .inr ⟨member, held⟩

/-- A step that puts no new item in place adds nothing to what is pending; the
others exchange their item for the new one. -/
theorem Step.single (step : Step before after) (single : before.Single) : after.Single := by
  cases step with
  | withdraw live retired custody =>
      refine single.of_pending fun item pending => ⟨?_, ?_⟩
      · rw [← custody]
        exact pending.unheld
      · rw [← custody, ← retired]
        exact pending.current.imp (fun inUse => live inUse) id
  | take member taken idle inUse live retired custody =>
      refine single.of_pending fun item pending => ⟨?_, ?_⟩
      · refine unheld_of_update custody ?_ pending.unheld
        rw [idle]
        exact nofun
      · rcases pending.current with current | ⟨unretired, held⟩
        · exact .inl (live ▸ current)
        · rcases taken_of_update custody held with same | held
          · cases same
            exact .inl inUse
          · exact .inr ⟨retired ▸ unretired, held⟩
  | drop member early live retired custody =>
      refine single.of_pending fun item pending => ⟨?_, ?_⟩
      · exact unheld_of_update custody (early item) pending.unheld
      · rcases pending.current with current | ⟨unretired, held⟩
        · exact .inl (live ▸ current)
        · exact .inr ⟨retired ▸ unretired, (taken_of_update custody held).resolve_left nofun⟩
  | put member item new took unreplaced live retired custody =>
      -- The old item was the pending one, and it no longer is.
      have old : before.Pending item := by
        refine ⟨unreplaced.unheld, ?_⟩
        by_cases inUse : item ∈ before.live
        · exact .inl inUse
        · exact .inr ⟨unreplaced.unretired, member, took⟩
      have onlyNew : ∀ other, after.Pending other → other = new := by
        intro other pending
        by_contra different
        have earlier : before.Pending other := by
          refine ⟨?_, ?_⟩
          · refine unheld_of_update custody ?_ pending.unheld
            rw [took]
            exact nofun
          · rcases pending.current with current | ⟨unretired, held⟩
            · rw [live] at current
              exact .inl (current.resolve_left different)
            · exact .inr ⟨retired ▸ unretired, (taken_of_update custody held).resolve_left nofun⟩
        refine pending.unheld member ?_
        rw [custody, Function.update_self, single other item earlier old]
      exact fun first second left right =>
        (onlyNew first left).trans (onlyNew second right).symm
  | retire member item put live retired custody =>
      refine single.of_pending fun other pending => ?_
      have different : other ≠ item := by
        rintro rfl
        rcases pending.current with current | ⟨unretired, -⟩
        · rw [live] at current
          exact current.2 rfl
        · rw [retired] at unretired
          exact unretired (Set.mem_insert _ _)
      refine ⟨?_, ?_⟩
      · refine unheld_of_update custody ?_ pending.unheld
        rw [put]
        rintro ⟨⟩
        exact different rfl
      · rcases pending.current with current | ⟨unretired, held⟩
        · rw [live] at current
          exact .inl current.1
        · rw [retired] at unretired
          exact .inr ⟨fun present => unretired (Set.mem_insert_of_mem _ present),
            (taken_of_update custody held).resolve_left nofun⟩

end Succession
end ConferenceContact
