import ConferenceContact.Directory.Moderation
import Mathlib.Algebra.Order.BigOperators.Group.List
import Mathlib.Data.List.Infix

/-!
# What the homepage preview reveals

The preview selects no paid column, but its search looks into one: `buildWhere` is the
filter of the paid search too and matches the email of a lead.  So a visitor who sees a
lead appear learns what its email contains; only a table without approved leads keeps its
paid columns to itself.
-/

namespace ConferenceContact

/-- A lead without the columns that are paid for. -/
def Lead.masked (lead : Lead) : Lead :=
  { lead with
    email := none
    phone := none
    linkedin := none
    website := none
    appLink := none }

/-- Two tables that differ in paid columns only. -/
def SameButPaid (left right : List Lead) : Prop :=
  left.map Lead.masked = right.map Lead.masked

/-- A word of one letter, of any length. -/
def repeatedLetter (length : Nat) : String :=
  String.ofList (List.replicate length 'a')

/-- Such a word is found in itself, and not in a shorter text. -/
structure LeadStore.FindsWords (store : LeadStore) : Prop where
  itself : ∀ length, store.contains (repeatedLetter length) (repeatedLetter length) = true
  longer : ∀ text length, text.length < length →
    store.contains text (repeatedLetter length) = false

namespace LeadsService

variable {store : LeadStore}

/-- A preview is empty if no row is selected. -/
theorem preview_eq_nil_iff (search : String) (leads : List Lead) :
    preview store search leads = [] ↔
      ∀ lead ∈ leads, (buildWhere { search := some search }).selects store lead = false := by
  unfold preview findMany
  rw [List.map_eq_nil_iff, List.take_eq_nil_iff, or_iff_right (by decide),
    ← List.length_eq_zero_iff, (store.arrange_perm _).length_eq, List.length_eq_zero_iff,
    List.filter_eq_nil_iff]
  simp only [Bool.not_eq_true]

/-- Which rows a preview of a nonempty search selects. -/
theorem selects_preview {search : String} (nonempty : search ≠ "") (lead : Lead) :
    (buildWhere { search := some search }).selects store lead =
      (lead.approved &&
        (buildWhere { search := some search }).searched.any fun column =>
          (column lead.toLeadRecord).any fun text => store.contains text search) := by
  simp [LeadWhere.selects, buildWhere, resolveCompanyTypeFilter, Option.filter, nonempty]

end LeadsService

open LeadsService

/-- Some word is longer than every searched text of a table. -/
theorem exists_longer_word (leads : List Lead) :
    ∃ length, 0 < length ∧ ∀ lead ∈ leads, ∀ column ∈ (buildWhere {}).searched, ∀ text,
      column lead.toLeadRecord = some text → text.length < length := by
  let texts := leads.flatMap fun lead =>
    (buildWhere {}).searched.filterMap fun column => column lead.toLeadRecord
  refine ⟨(texts.map String.length).sum + 1, Nat.succ_pos _, ?_⟩
  intro lead present column searched text read
  have listed : text ∈ texts := by
    refine List.mem_flatMap.mpr ⟨lead, present, ?_⟩
    exact List.mem_filterMap.mpr ⟨column, searched, read⟩
  have bounded : text.length ≤ (texts.map String.length).sum :=
    List.single_le_sum (fun _ _ => Nat.zero_le _) _ (List.mem_map_of_mem listed)
  omega

/-- Tables that differ in paid columns only have approved rows in the same places. -/
theorem SameButPaid.unapproved
    {left right : List Lead}
    (same : SameButPaid left right)
    (unapproved : ∀ lead ∈ left, lead.approved = false) :
    ∀ lead ∈ right, lead.approved = false := by
  intro lead present
  have masked : lead.masked ∈ left.map Lead.masked := same ▸ List.mem_map_of_mem present
  obtain ⟨other, stored, equal⟩ := List.mem_map.mp masked
  have approved : other.masked.approved = lead.masked.approved := congrArg Lead.approved equal
  exact approved.symm.trans (unapproved other stored)

/-- Every preview of every table with the same free columns is the same exactly if no row
is approved. -/
theorem preview_reveals_nothing_iff
    {store : LeadStore}
    (finds : store.FindsWords)
    (leads : List Lead) :
    (∀ twin, SameButPaid leads twin → ∀ search,
        preview store search twin = preview store search leads) ↔
      ∀ lead ∈ leads, lead.approved = false := by
  constructor
  · intro same lead present
    by_contra notUnapproved
    have approved : lead.approved = true := by simpa using notUnapproved
    obtain ⟨length, positive, longer⟩ := exists_longer_word leads
    have nonempty : repeatedLetter length ≠ "" := by
      intro empty
      have none : (repeatedLetter length).toList = [] := by rw [empty]; rfl
      rw [repeatedLetter, String.toList_ofList, List.replicate_eq_nil_iff] at none
      omega
    -- In the twin the word is everybody's email.
    let twin := leads.map fun lead => { lead with email := some (repeatedLetter length) }
    have alike : SameButPaid leads twin := by
      simp only [SameButPaid, twin, List.map_map]
      rfl
    have unseen : preview store (repeatedLetter length) leads = [] := by
      rw [preview_eq_nil_iff]
      intro other stored
      rw [selects_preview nonempty, Bool.and_eq_false_iff]
      refine .inr (List.any_eq_false.mpr fun column searched => ?_)
      cases read : column other.toLeadRecord with
      | none => simp
      | some text => simp [finds.longer text length (longer other stored column searched text read)]
    have seen := (preview_eq_nil_iff (repeatedLetter length) twin).mp
      ((same twin alike (repeatedLetter length)).trans unseen) _ (List.mem_map_of_mem present)
    rw [selects_preview nonempty] at seen
    simp [approved, buildWhere, finds.itself] at seen
  · intro unapproved twin alike search
    have empty : ∀ table : List Lead, (∀ lead ∈ table, lead.approved = false) →
        preview store search table = [] := by
      intro table none
      rw [preview_eq_nil_iff]
      intro lead present
      simp [LeadWhere.selects, buildWhere, none lead present]
    rw [empty leads unapproved, empty twin (alike.unapproved unapproved)]

theorem sampleLeadStore_findsWords : sampleLeadStore.FindsWords where
  itself length := by
    simp only [sampleLeadStore, List.any_eq_true, List.isPrefixOf_iff_prefix]
    exact ⟨_, (List.mem_tails _ _).mpr (List.suffix_refl _), List.prefix_refl _⟩
  longer text length short := by
    simp only [sampleLeadStore, List.any_eq_false, List.isPrefixOf_iff_prefix]
    intro tail isTail isPrefix
    have atMost : tail.length ≤ text.toLower.toList.length :=
      ((List.mem_tails _ _).mp isTail).length_le
    have least := isPrefix.length_le
    have lowered : ∀ text : String, text.toLower = text.map Char.toLower := fun _ => rfl
    simp only [lowered, String.toList_map, List.length_map, repeatedLetter,
      String.toList_ofList, List.length_replicate, String.length_toList] at atMost least
    omega

/-- A submission that nobody has approved stays hidden. -/
theorem preview_reveals_nothing_submission :
    preview sampleLeadStore "bob@"
        [{ sampleSubmission "MAU Vegas 2026" with email := some "bob@example.com" }] =
      preview sampleLeadStore "bob@" [sampleSubmission "MAU Vegas 2026"] :=
  (preview_reveals_nothing_iff sampleLeadStore_findsWords
    [sampleSubmission "MAU Vegas 2026"]).mpr (by simp [sampleSubmission]) _ rfl "bob@"

/-- A visitor who searches for an email sees whether a lead has it. -/
theorem preview_reveals_email :
    SameButPaid [{ sampleLead with email := some "ann@example.com" }] [sampleLead] ∧
      (preview sampleLeadStore "ann@example"
        [{ sampleLead with email := some "ann@example.com" }]).length = 1 ∧
      preview sampleLeadStore "ann@example" [sampleLead] = [] := by
  refine ⟨rfl, ?_, ?_⟩
  · decide +kernel
  · decide +kernel

end ConferenceContact
