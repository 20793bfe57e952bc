import ConferenceContact.Model.Directory
import Mathlib.Data.String.Basic

/-!
# What unapproved leads reveal

Every read that is selected by `buildWhere`, and the suggestions, see approved rows only.
The filters are not selected at all: they offer the events and the company types of every
row, so a self-submission with a new event or company type is seen at once.
-/

namespace ConferenceContact

/-- A read of the matching rows sees approved rows only. -/
theorem seesOnly_buildWhere (store : LeadStore) (filters : LeadFilters) :
    SeesOnly Lead.approved fun leads =>
      leads.filter ((LeadsService.buildWhere filters).selects store) := by
  refine SeesOnly.filter fun lead selected => ?_
  unfold LeadWhere.selects at selected
  simp only [Bool.and_eq_true] at selected
  exact of_decide_eq_true selected.1.1.1.1

/-- So does a read of the matching rows in their order. -/
theorem seesOnly_findMany (store : LeadStore) (filters : LeadFilters) :
    SeesOnly Lead.approved (findMany store (LeadsService.buildWhere filters)) :=
  (seesOnly_buildWhere store filters).map store.arrange

/-- A read that is not of the filters sees approved rows only. -/
theorem LeadsRead.seesOnly
    (store : LeadStore)
    {read : LeadsRead}
    (notFilters : read ≠ .getFilters)
    (notEvents : read ≠ .getEventOptions) :
    SeesOnly Lead.approved (read.answer store) := by
  intro left right same
  cases read with
  | list query =>
      have rows := seesOnly_findMany store query.toLeadFilters left right same
      have matching := seesOnly_buildWhere store query.toLeadFilters left right same
      unfold answer LeadsService.list
      dsimp only at matching ⊢
      rw [rows, matching]
  | count filters =>
      exact (seesOnly_buildWhere store filters).map (LeadsAnswer.number ∘ List.length) left right
        same
  | exportCsv filters =>
      have rows := seesOnly_findMany store filters left right same
      unfold answer LeadsService.exportCsv
      dsimp only
      rw [rows]
  | preview search =>
      have rows := seesOnly_findMany store { search := some search } left right same
      unfold answer LeadsService.preview
      dsimp only
      rw [rows]
  | suggest dto =>
      have selected : SeesOnly Lead.approved fun leads : List Lead => leads.filter fun lead =>
          lead.approved && (LeadsService.suggested dto.field lead).any fun text =>
            store.ilike text ("%" ++ dto.q ++ "%") :=
        SeesOnly.filter fun lead selected => (Bool.and_eq_true _ _ ▸ selected).1
      have rows := selected left right same
      unfold answer LeadsService.suggest
      dsimp only at rows ⊢
      rw [rows]
  | getFilters => exact absurd rfl notFilters
  | getEventOptions => exact absurd rfl notEvents

/-! ## The filters -/

section

variable (store : LeadStore) (leads : List Lead)

/-- The filters offer the company types of all rows. -/
theorem is_mem_companyTypes (companyType : CompanyType) :
    .is companyType ∈ (LeadsService.getFilters store leads).companyTypes ↔
      some companyType ∈ leads.map (·.companyType) := by
  have offered : .is companyType ∈ (LeadsService.getFilters store leads).companyTypes ↔
      companyType ∈ (CompanyType.collation.nullsLast.distinct
        (leads.map (·.companyType))).filterMap id := by
    unfold LeadsService.getFilters
    dsimp only
    split <;> simp
  rw [offered, List.mem_filterMap, ← CompanyType.collation.nullsLast.mem_distinct]
  simp

/-- They offer `UNCLASSIFIED` if a row has no company type. -/
theorem unclassified_mem_companyTypes :
    .unclassified ∈ (LeadsService.getFilters store leads).companyTypes ↔
      none ∈ leads.map (·.companyType) := by
  have offered : .unclassified ∈ (LeadsService.getFilters store leads).companyTypes ↔
      ((CompanyType.collation.nullsLast.distinct
          (leads.map (·.companyType))).filterMap id).length <
        (CompanyType.collation.nullsLast.distinct (leads.map (·.companyType))).length := by
    unfold LeadsService.getFilters
    dsimp only
    split
    · rename_i missing
      exact iff_of_true (List.mem_append_right _ List.mem_cons_self) missing
    · rename_i complete
      exact iff_of_false (by simp) complete
  rw [offered, List.length_filterMap_lt_length_iff_exists,
    ← CompanyType.collation.nullsLast.mem_distinct]
  simp

/-- They offer the events of all rows. -/
theorem mem_events (event : String) :
    event ∈ (LeadsService.getFilters store leads).events ↔
      event ∈ leads.map (·.likelyToAttend) :=
  store.collation.mem_distinct

end

/-- The filters are the same exactly if the rows have the same events and the same company
types. -/
theorem getFilters_eq_iff (store : LeadStore) (left right : List Lead) :
    LeadsService.getFilters store left = LeadsService.getFilters store right ↔
      (∀ event, event ∈ left.map (·.likelyToAttend) ↔ event ∈ right.map (·.likelyToAttend)) ∧
        ∀ companyType, companyType ∈ left.map (·.companyType) ↔
          companyType ∈ right.map (·.companyType) := by
  constructor
  · intro same
    refine ⟨fun event => ?_, fun companyType => ?_⟩
    · rw [← mem_events store left event, same, mem_events store right event]
    · cases companyType with
      | none =>
          rw [← unclassified_mem_companyTypes store left, same,
            unclassified_mem_companyTypes store right]
      | some companyType =>
          rw [← is_mem_companyTypes store left, same, is_mem_companyTypes store right]
  · rintro ⟨sameEvents, sameTypes⟩
    have events := store.collation.distinct_eq_iff.mpr sameEvents
    have companyTypes := CompanyType.collation.nullsLast.distinct_eq_iff.mpr sameTypes
    unfold LeadsService.getFilters
    rw [events, companyTypes]

/-! ## Moderation -/

/-- With the same approved rows, all reads are the same if the filters are. -/
theorem answers_eq_iff
    (store : LeadStore)
    {left right : List Lead}
    (approved : left.filter (·.approved) = right.filter (·.approved)) :
    (∀ read : LeadsRead, read.answer store left = read.answer store right) ↔
      LeadsService.getFilters store left = LeadsService.getFilters store right := by
  constructor
  · intro same
    have answers := same .getFilters
    exact LeadsAnswer.filters.inj answers
  · intro same read
    by_cases notFilters : read = .getFilters
    · rw [notFilters]
      exact congrArg LeadsAnswer.filters same
    · by_cases notEvents : read = .getEventOptions
      · rw [notEvents]
        exact congrArg (fun options => LeadsAnswer.events options.events) same
      · exact LeadsRead.seesOnly store notFilters notEvents left right approved

/-- Two tables with the same approved rows look the same to every read, whatever its
arguments, exactly if their rows, unapproved ones included, are for the same events and of
the same company types. -/
theorem moderation_noninterference_iff
    (store : LeadStore)
    {left right : List Lead}
    (approved : left.filter (·.approved) = right.filter (·.approved)) :
    (∀ read : LeadsRead, read.answer store left = read.answer store right) ↔
      (∀ event, (∃ lead ∈ left, lead.likelyToAttend = event) ↔
          ∃ lead ∈ right, lead.likelyToAttend = event) ∧
        ∀ companyType, (∃ lead ∈ left, lead.companyType = companyType) ↔
          ∃ lead ∈ right, lead.companyType = companyType := by
  refine (answers_eq_iff store approved).trans ((getFilters_eq_iff store left right).trans ?_)
  simp only [List.mem_map]

/-! ## Sample tables -/

/-- Whether a text is like a pattern; `%` stands for any text and `_` for any character. -/
def likePattern : List Char → List Char → Bool
  | [], text => text.isEmpty
  | '%' :: pattern, text => text.tails.any (likePattern pattern)
  | '_' :: pattern, text => !text.isEmpty && likePattern pattern text.tail
  | character :: pattern, text => text.head? = some character && likePattern pattern text.tail

/-- The names by their code points, and equal keys in the order of the table. -/
def sampleLeadStore : LeadStore where
  collation :=
    { le := fun left right => decide (left ≤ right)
      total := fun left right => by simpa using le_total left right
      trans := fun first second third => by simpa using le_trans
      antisymm := fun left right => by simpa using le_antisymm }
  contains text search := text.toLower.toList.tails.any search.toLower.toList.isPrefixOf
  ilike text pattern := likePattern pattern.toLower.toList text.toLower.toList
  arrange leads := leads.insertionSort fun left right => left.name ≤ right.name
  arrange_perm leads := List.perm_insertionSort _ leads
  arrange_sorted leads := by
    have total : Std.Total fun left right : Lead => left.name ≤ right.name :=
      ⟨fun left right => le_total left.name right.name⟩
    have trans : IsTrans Lead fun left right => left.name ≤ right.name :=
      ⟨fun _ _ _ => le_trans⟩
    simpa using List.pairwise_insertionSort (fun left right : Lead => left.name ≤ right.name) leads
  arrangeGroups groups := groups.insertionSort fun left right => right.2 ≤ left.2
  arrangeGroups_perm groups := List.perm_insertionSort _ groups
  arrangeGroups_sorted groups := by
    have total : Std.Total fun left right : String × Nat => right.2 ≤ left.2 :=
      ⟨fun left right => Nat.le_total right.2 left.2⟩
    have trans : IsTrans (String × Nat) fun left right => right.2 ≤ left.2 :=
      ⟨fun _ _ _ below above => Nat.le_trans above below⟩
    exact List.pairwise_insertionSort _ groups
  stringify header rows :=
    String.join ((header :: rows.map fun row => row.map (·.getD "")).map fun record =>
      ",".intercalate record ++ "\n")

/-- An approved lead. -/
def sampleLead : Lead :=
  { id := 0
    name := "Ann"
    companyType := some .agency
    likelyToAttend := "MAU Vegas 2026" }

/-- A submission that waits for its approval. -/
def sampleSubmission (likelyToAttend : String) : Lead :=
  { id := 1
    name := "Bob"
    companyType := some .agency
    likelyToAttend
    approved := false
    submittedByUserId := some 5 }

/-- A submission for an event that the Directory has. -/
theorem moderation_noninterference_known_event :
    LeadsRead.getFilters.answer sampleLeadStore [sampleLead, sampleSubmission "MAU Vegas 2026"] =
        LeadsRead.getFilters.answer sampleLeadStore [sampleLead] ∧
      LeadsRead.getEventOptions.answer sampleLeadStore
          [sampleLead, sampleSubmission "MAU Vegas 2026"] =
        LeadsRead.getEventOptions.answer sampleLeadStore [sampleLead] := by
  have unseen : ∀ read : LeadsRead,
      read.answer sampleLeadStore [sampleLead, sampleSubmission "MAU Vegas 2026"] =
        read.answer sampleLeadStore [sampleLead] := by
    refine (moderation_noninterference_iff sampleLeadStore rfl).mpr ⟨?_, ?_⟩
    · simp [sampleLead, sampleSubmission]
    · simp [sampleLead, sampleSubmission]
  exact ⟨unseen .getFilters, unseen .getEventOptions⟩

/-- The event of a submission that nobody has approved is offered to every visitor of the
form. -/
theorem unapproved_event_offered :
    [sampleLead, sampleSubmission "Buy at spam.example"].filter (·.approved) =
        [sampleLead].filter (·.approved) ∧
      "Buy at spam.example" ∈ PublicLeadsController.getEventOptions sampleLeadStore
        [sampleLead, sampleSubmission "Buy at spam.example"] ∧
      "Buy at spam.example" ∉ PublicLeadsController.getEventOptions sampleLeadStore
        [sampleLead] := by
  unfold PublicLeadsController.getEventOptions
  rw [mem_events, mem_events]
  exact ⟨rfl, by decide, by decide⟩

end ConferenceContact
