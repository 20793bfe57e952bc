import ConferenceContact.Directory.Moderation

/-!
# The two filters of the Directory

`AdminService.listLeads` builds its filter again instead of calling `buildWhere`.  The two
agree in every column but one: a search of the subscribers looks into the event of a lead,
and a search of the administrators does not.
-/

namespace ConferenceContact

/-- A query of an administrator for the approved leads of any day. -/
def ListLeadsQueryDto.approvedOnly (query : ListLeadsQueryDto) : ListLeadsQueryDto :=
  { query with approved := some true, fromDate := none, toDate := none }

/-- The columns that both searches look into contain a text. -/
def LeadStore.findsText (store : LeadStore) (search : String) (lead : Lead) : Bool :=
  [some lead.name, lead.company, lead.title, lead.email].any
    (·.any fun text => store.contains text search)

/-- An approved lead passes the filters of a query other than its search. -/
def LeadFilters.admits (filters : LeadFilters) (lead : Lead) : Bool :=
  lead.approved && (resolveCompanyTypeFilter filters.companyType).all (lead.companyType = ·) &&
    filters.likelyToAttend.all (lead.likelyToAttend = ·) &&
    (filters.hasEmail ≠ some true || lead.email.isSome)

theorem selects_buildWhere (store : LeadStore) (filters : LeadFilters) (lead : Lead) :
    (LeadsService.buildWhere filters).selects store lead =
      (filters.admits lead && (filters.search.filter (· ≠ "")).all fun search =>
        store.findsText search lead || store.contains lead.likelyToAttend search) := by
  unfold LeadWhere.selects LeadsService.buildWhere LeadFilters.admits LeadStore.findsText
  simp [Bool.or_assoc]

theorem matchesLead_approvedOnly
    (store : LeadStore)
    (details : Lead → LeadDetails)
    (query : ListLeadsQueryDto)
    (lead : Lead) :
    AdminService.matchesLead store details query.approvedOnly lead =
      (query.admits lead && (query.search.filter (· ≠ "")).all fun search =>
        store.findsText search lead) := by
  unfold AdminService.matchesLead AdminService.leadWhere AdminService.createdAtFilter
    LeadWhere.selects ListLeadsQueryDto.approvedOnly LeadFilters.admits LeadStore.findsText
  simp

/-- The two filters select the same rows of a table exactly if they agree about each. -/
theorem filter_eq_iff {left right : Lead → Bool} {leads : List Lead} :
    leads.filter left = leads.filter right ↔ ∀ lead ∈ leads, left lead = right lead := by
  constructor
  · intro same lead present
    rw [Bool.eq_iff_iff]
    have selected := congrArg (lead ∈ ·) same
    simpa [List.mem_filter, present] using selected
  · exact List.filter_congr

/-- Both lists match the same leads exactly if no lead that the other filters admit is
found through its event only. -/
theorem lists_agree_iff
    (store : LeadStore)
    (details : Lead → LeadDetails)
    (query : ListLeadsQueryDto)
    (leads : List Lead) :
    leads.filter (AdminService.matchesLead store details query.approvedOnly) =
        leads.filter ((LeadsService.buildWhere query.toLeadFilters).selects store) ↔
      ∀ search, query.search = some search → search ≠ "" → ∀ lead ∈ leads,
        query.admits lead = true → store.contains lead.likelyToAttend search = true →
          store.findsText search lead = true := by
  rw [filter_eq_iff]
  simp only [selects_buildWhere, matchesLead_approvedOnly]
  cases searched : query.search.filter (· ≠ "") with
  | none =>
      refine iff_of_true (fun _ _ => rfl) ?_
      intro search given nonempty
      rw [given, Option.filter_some, if_pos (decide_eq_true nonempty)] at searched
      cases searched
  | some search =>
      obtain ⟨given, nonempty⟩ := Option.filter_eq_some_iff.mp searched
      have nonempty := of_decide_eq_true nonempty
      constructor
      · intro agree search' given' _ lead present admitted found
        rw [given] at given'
        cases given'
        have same := agree lead present
        simpa [admitted, found] using same
      · intro covered lead present
        have covered := covered search given nonempty lead present
        cases admitted : query.admits lead with
        | false => rfl
        | true =>
            cases found : store.contains lead.likelyToAttend search with
            | false => simp [found]
            | true => simp [covered admitted found]

/-- A search for an event. -/
def eventSearch : ListLeadsQueryDto := { ListLeadsQueryDto.defaults with search := some "vegas" }

/-- Imported leads have no submitter. -/
def sampleDetails (_ : Lead) : LeadDetails where
  submittedBy := none
  createdAt := 0
  updatedAt := 0

/-- The subscribers find a lead that is found through its event only; the administrators
do not. -/
theorem event_search_disagrees :
    (LeadsService.list sampleLeadStore eventSearch [sampleLead]).data =
        [sampleLead.toLeadRecord] ∧
      (AdminService.listLeads sampleLeadStore sampleDetails eventSearch.approvedOnly
        [sampleLead]).data = [] ∧
      [sampleLead].filter
          (AdminService.matchesLead sampleLeadStore sampleDetails eventSearch.approvedOnly) ≠
        [sampleLead].filter
          ((LeadsService.buildWhere eventSearch.toLeadFilters).selects sampleLeadStore) := by
  refine ⟨?_, ?_, ?_⟩
  · decide +kernel
  · decide +kernel
  · decide +kernel

end ConferenceContact
