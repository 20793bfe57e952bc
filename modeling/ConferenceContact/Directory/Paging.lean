import ConferenceContact.Directory.Moderation
import ConferenceContact.Foundation.Paging

/-!
# The pages of the Directory

`list` orders by name only, so the database may return leads of the same name in another
order for every page.  The pages hold every matching lead once if no name goes across the
end of a page, and otherwise they may repeat one lead and leave out another.
-/

namespace ConferenceContact

/-- The same database at another query: it orders and matches text in the same way, but may
return rows with equal keys in another order. -/
structure LeadStore.SameDatabase (store other : LeadStore) : Prop where
  collation : other.collation = store.collation
  contains : other.contains = store.contains

namespace LeadStore

/-- A database that returns the rows of one result in a given order. -/
def returning
    (store : LeadStore)
    (rows arranged : List Lead)
    (arranges : Paging.Arranges store.collation (·.name) rows arranged) : LeadStore :=
  { store with
    arrange := fun leads => if leads = rows then arranged else store.arrange leads
    arrange_perm := fun leads => by
      split
      · subst leads
        exact arranges.perm
      · exact store.arrange_perm leads
    arrange_sorted := fun leads => by
      split
      · exact arranges.sorted
      · exact store.arrange_sorted leads }

theorem sameDatabase_returning
    {store : LeadStore}
    {rows arranged : List Lead}
    (arranges : Paging.Arranges store.collation (·.name) rows arranged) :
    store.SameDatabase (store.returning rows arranged arranges) where
  collation := rfl
  contains := rfl

theorem arrange_returning
    {store : LeadStore}
    {rows arranged : List Lead}
    (arranges : Paging.Arranges store.collation (·.name) rows arranged) :
    (store.returning rows arranged arranges).arrange rows = arranged :=
  if_pos rfl

/-- What a database returns is ordered by name. -/
theorem SameDatabase.arranges
    {store other : LeadStore}
    (same : store.SameDatabase other)
    (leads : List Lead) :
    Paging.Arranges store.collation (·.name) leads (other.arrange leads) where
  perm := other.arrange_perm leads
  sorted := same.collation ▸ other.arrange_sorted leads

theorem SameDatabase.selects
    {store other : LeadStore}
    (same : store.SameDatabase other)
    (condition : LeadWhere) :
    condition.selects other = condition.selects store := by
  funext lead
  unfold LeadWhere.selects
  rw [same.contains]

end LeadStore

namespace LeadsService

variable (store : LeadStore) (query : ListLeadsQueryDto) (leads : List Lead)

/-- The leads that a query matches, in the order of the table. -/
def matching : List Lead := leads.filter ((buildWhere query.toLeadFilters).selects store)

/-- The query for a page, the first of which is number 0 here. -/
def atPage (index : Nat) : ListLeadsQueryDto :=
  { query with
    page := index + 1
    page_pos := Nat.succ_le_succ (Nat.zero_le index) }

/-- `ceil(total / pageSize)`. -/
def pageCount : Nat :=
  ((list store query leads).total + query.pageSize - 1) / query.pageSize

/-- All pages, each answered at its own query. -/
def allPages (answering : Nat → LeadStore) : List LeadRecord :=
  (List.range (pageCount store query leads)).flatMap fun index =>
    (list (answering index) (atPage query index) leads).data

/-- The records that `exportCsv` writes out. -/
def exported : List LeadRecord :=
  (findMany store (buildWhere query.toLeadFilters) leads).map (·.toLeadRecord)

variable {store query leads}

theorem allPages_eq
    {answering : Nat → LeadStore}
    (same : ∀ index, store.SameDatabase (answering index)) :
    allPages store query leads answering =
      (Paging.pages query.pageSize
        (fun index => (answering index).arrange (matching store query leads))
        (pageCount store query leads)).map (·.toLeadRecord) := by
  unfold allPages Paging.pages
  rw [List.map_flatMap]
  congr 1
  funext index
  simp only [list, atPage, findMany, (same index).selects, Paging.page, matching,
    Nat.add_sub_cancel]

/-- The pages have room for every matching lead. -/
theorem length_matching_le :
    (matching store query leads).length ≤ pageCount store query leads * query.pageSize := by
  have positive := query.pageSize_pos
  have rounded := Nat.lt_div_mul_add (a := (matching store query leads).length +
    query.pageSize - 1) positive
  unfold pageCount list
  change (matching store query leads).length ≤
    ((matching store query leads).length + query.pageSize - 1) / query.pageSize * query.pageSize
  omega

/-- Whatever order the database returns leads of the same name in, the pages hold every
exported lead once, exactly if the leads of no name are on both sides of the end of a
page. -/
theorem pages_cover_iff
    (store : LeadStore)
    (query : ListLeadsQueryDto)
    {leads : List Lead}
    (primaryKey : (leads.map (·.id)).Nodup) :
    (∀ (answering : Nat → LeadStore) (exporting : LeadStore),
        (∀ index, store.SameDatabase (answering index)) → store.SameDatabase exporting →
          (allPages store query leads answering).Perm (exported exporting query leads)) ↔
      ∀ index, ¬ Paging.Straddled store.collation (·.name) (matching store query leads)
        (index * query.pageSize) := by
  have ids : ((matching store query leads).map (·.id)).Nodup :=
    (List.filter_sublist.map _).nodup primaryKey
  have itself : store.SameDatabase store := ⟨rfl, rfl⟩
  have export_perm {exporting : LeadStore} (same : store.SameDatabase exporting) :
      (exported exporting query leads).Perm
        ((matching store query leads).map (·.toLeadRecord)) := by
    unfold exported findMany
    rw [same.selects]
    exact (exporting.arrange_perm _).map _
  rw [← Paging.pages_perm_iff ids.of_map length_matching_le (itself.arranges _)]
  constructor
  · intro covers arranged arranges
    have answers index := LeadStore.sameDatabase_returning (arranges index)
    have perm := (covers _ store answers itself).trans (export_perm itself)
    rw [allPages_eq answers] at perm
    simp only [LeadStore.arrange_returning] at perm
    have recordIds := perm.map (·.id)
    rw [List.map_map, List.map_map] at recordIds
    have nodup := recordIds.nodup_iff.mpr ids
    have length := perm.length_eq
    rw [List.length_map, List.length_map] at length
    exact (List.subperm_of_subset nodup.of_map (Paging.pages_subset arranges)).perm_of_length_le
      (Nat.le_of_eq length.symm)
  · intro covers answering exporting answers exports
    rw [allPages_eq answers]
    exact ((covers _ fun index => (answers index).arranges _).map _).trans
      (export_perm exports).symm

/-- Two leads of the same name. -/
def namesakes : List Lead :=
  [sampleLead, { sampleLead with id := 1, likelyToAttend := "Affiliate World Dubai" }]

/-- A query for pages of one lead. -/
def onePerPage : ListLeadsQueryDto :=
  { pageSize := 1, page_pos := Nat.one_pos, pageSize_pos := Nat.one_pos }

/-- A query for pages of two leads. -/
def twoPerPage : ListLeadsQueryDto := { pageSize := 2, page_pos := Nat.one_pos }

/-- The first page is answered in the order of the table, the others in the opposite one. -/
def exchanging : Nat → LeadStore
  | 0 => sampleLeadStore
  | _ => sampleLeadStore.returning namesakes namesakes.reverse
      { perm := List.reverse_perm _
        sorted := by decide +kernel }

theorem sameDatabase_exchanging (index : Nat) :
    sampleLeadStore.SameDatabase (exchanging index) := by
  cases index with
  | zero => exact ⟨rfl, rfl⟩
  | succ index => exact ⟨rfl, rfl⟩

/-- On one page, the namesakes are both there. -/
theorem namesakes_on_one_page :
    (allPages sampleLeadStore twoPerPage namesakes exchanging).Perm
      (exported sampleLeadStore twoPerPage namesakes) := by
  have ids : (namesakes.map (·.id)).Nodup := by decide
  refine (pages_cover_iff sampleLeadStore twoPerPage ids).mpr ?_
    exchanging sampleLeadStore sameDatabase_exchanging ⟨rfl, rfl⟩
  rintro index ⟨name, starts, stops⟩
  have bounded : Paging.upTo sampleLeadStore.collation (·.name)
      (matching sampleLeadStore twoPerPage namesakes) name ≤ 2 := List.countP_le_length
  change _ < index * 2 at starts
  change index * 2 < _ at stops
  omega

/-- On two pages, the first one is there twice. -/
theorem namesakes_repeated :
    (∀ index, sampleLeadStore.SameDatabase (exchanging index)) ∧
      allPages sampleLeadStore onePerPage namesakes exchanging =
        [sampleLead.toLeadRecord, sampleLead.toLeadRecord] ∧
      ¬ (allPages sampleLeadStore onePerPage namesakes exchanging).Perm
        (exported sampleLeadStore onePerPage namesakes) := by
  refine ⟨sameDatabase_exchanging, ?_, ?_⟩
  · decide +kernel
  · decide +kernel

end LeadsService
end ConferenceContact
