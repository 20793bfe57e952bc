import ConferenceContact.Leads.RunningJobs

/-!
# What a run may add to the results of its job

A search by criteria adds people to its job that are not among its results yet, as
long as the list of people it excludes covers them; a direct match adds its person,
enriched or not, each time it runs.
-/

namespace ConferenceContact

open Process ApolloSearchProcessor

/-- The person a job looks up directly, if it does. -/
def World.directNameOf (world : World) (jobId : Nat) : Option String :=
  (world.findSearchJob jobId).bind fun job => job.filters.bind directName

/-- The people among the results of a job. -/
def World.peopleOf (world : World) (jobId : Nat) : List String :=
  (world.resultsOf jobId).map (·.apolloPersonId)

/-- A search by criteria has nobody twice among its results; a direct match has at most
one enriched result. -/
def World.Unrepeated (world : World) (jobId : Nat) : Prop :=
  match world.directNameOf jobId with
  | none => (world.peopleOf jobId).Nodup
  | some _ => enrichedCount (world.resultsOf jobId) ≤ 1

/-- The filters of a queue job are those of its job. -/
structure OfJob (world : World) (data : ApolloSearchJobData) : Prop where
  known : (world.findSearchJob data.jobId).isSome = true
  sameName : world.directNameOf data.jobId = directName data.filters

/-- A run of a queue job would repeat nobody: a search excludes everybody found before,
and a direct match has not been enriched. -/
def Covers (world : World) (data : ApolloSearchJobData) : Prop :=
  match directName data.filters with
  | none => ∀ person ∈ world.peopleOf data.jobId, person ∈ data.excludeApolloPersonIds.getD []
  | some _ => enrichedCount (world.resultsOf data.jobId) ≤ 0

/-- Rows of a run that are in the table. -/
def Stored (world : World) (jobId : Nat) (rows : List LeadSearchResult) : Prop :=
  ∀ result ∈ rows, ∃ row ∈ world.leadSearchResults, row.id = result.id ∧ row.jobId = jobId

/-- The tables of searches: ids are distinct and used up, and results have jobs. -/
structure LeadTables (world : World) : Prop where
  distinct : (world.leadSearchResults.map (·.id)).Nodup
  results : ∀ row ∈ world.leadSearchResults, row.id < world.nextId
  jobs : ∀ job ∈ world.leadSearchJobs, job.id < world.nextId
  owners : ∀ row ∈ world.leadSearchResults, (world.findSearchJob row.jobId).isSome = true

/-! ## Changes of the tables -/

/-- Jobs and results are only added. -/
structure Grows (before after : World) : Prop where
  jobs : ∀ jobId, (before.findSearchJob jobId).isSome = true →
    (after.findSearchJob jobId).isSome = true ∧
      after.directNameOf jobId = before.directNameOf jobId
  rows : ∀ row ∈ before.leadSearchResults, ∃ kept ∈ after.leadSearchResults,
    kept.id = row.id ∧ kept.jobId = row.jobId

/-- A job is given nobody, and if it is a direct match no enriched result. -/
structure Spares (jobId : Nat) (before after : World) : Prop where
  sameName : after.directNameOf jobId = before.directNameOf jobId
  people : after.peopleOf jobId = before.peopleOf jobId
  enriched : before.directNameOf jobId ≠ none →
    enrichedCount (after.resultsOf jobId) ≤ enrichedCount (before.resultsOf jobId)

section

variable {before after world : World} {data : ApolloSearchJobData} {jobId : Nat}
  {rows : List LeadSearchResult}

theorem OfJob.grows (ofJob : OfJob before data) (grows : Grows before after) :
    OfJob after data := by
  obtain ⟨known, sameName⟩ := grows.jobs data.jobId ofJob.known
  exact ⟨known, sameName.trans ofJob.sameName⟩

theorem Stored.grows (stored : Stored before jobId rows) (grows : Grows before after) :
    Stored after jobId rows := by
  intro result present
  obtain ⟨row, inRows, sameId, owner⟩ := stored result present
  obtain ⟨kept, inAfter, keptId, keptJob⟩ := grows.rows row inRows
  exact ⟨kept, inAfter, keptId.trans sameId, keptJob.trans owner⟩

theorem Spares.unrepeated
    (spares : Spares jobId before after)
    (unrepeated : before.Unrepeated jobId) :
    after.Unrepeated jobId := by
  unfold World.Unrepeated at unrepeated ⊢
  rw [spares.sameName, spares.people]
  cases name : before.directNameOf jobId with
  | none =>
      rw [name] at unrepeated
      exact unrepeated
  | some personName =>
      rw [name] at unrepeated
      exact Int.le_trans (spares.enriched (by rw [name]; exact Option.some_ne_none _)) unrepeated

theorem Spares.covers
    (spares : Spares data.jobId before after)
    (ofJob : OfJob before data)
    (covers : Covers before data) :
    Covers after data := by
  unfold Covers at covers ⊢
  rw [spares.people]
  cases name : directName data.filters with
  | none =>
      rw [name] at covers
      exact covers
  | some personName =>
      rw [name] at covers
      have direct : before.directNameOf data.jobId ≠ none := by
        rw [ofJob.sameName, name]
        exact Option.some_ne_none _
      exact Int.le_trans (spares.enriched direct) covers

/-- Two rows of one id are the same row. -/
theorem LeadTables.owner_eq
    (tables : LeadTables world)
    {row : LeadSearchResult}
    {result : LeadSearchResult}
    (stored : Stored world jobId [result])
    (present : row ∈ world.leadSearchResults)
    (sameId : row.id = result.id) :
    row.jobId = jobId := by
  obtain ⟨found, inRows, foundId, owner⟩ := stored result List.mem_cons_self
  rw [← owner, Table.eq_of_key_eq tables.distinct present inRows (sameId.trans foundId.symm)]

end

theorem resultsOf_rewriteResults
    (world : World)
    (condition : LeadSearchResult → Bool)
    (rewrite : LeadSearchResult → LeadSearchResult)
    (kept : ∀ row, (rewrite row).id = row.id ∧ (rewrite row).jobId = row.jobId)
    (jobId : Nat) :
    (world.rewriteResults condition rewrite).resultsOf jobId =
      Table.updateWhere condition rewrite (world.resultsOf jobId) := by
  rw [← created_zero, ← created_zero]
  exact created_rewriteResults world condition rewrite kept

/-- A new result comes first among the results of its job. -/
theorem resultsOf_insertResult
    {world : World}
    {row : Nat → LeadSearchResult}
    {jobId : Nat}
    (owner : (row world.nextId).jobId = jobId)
    (known : (world.findSearchJob jobId).isSome = true) :
    (world.insertResult row).resultsOf jobId = row world.nextId :: world.resultsOf jobId := by
  unfold World.insertResult World.resultsOf
  rw [owner, if_pos known, List.filter_cons_of_pos (by simp [owner])]

/-- Rewriting rows to rows that are not enriched enriches none. -/
theorem enrichedCount_updateWhere_le
    {condition : LeadSearchResult → Bool}
    {rewrite : LeadSearchResult → LeadSearchResult}
    (unenriched : ∀ row, (rewrite row).status ≠ .enriched)
    (rows : List LeadSearchResult) :
    enrichedCount (Table.updateWhere condition rewrite rows) ≤ enrichedCount rows := by
  induction rows with
  | nil => exact Int.le_refl 0
  | cons head rows inductionHypothesis =>
      rw [Table.updateWhere_cons, enrichedCount_cons, enrichedCount_cons]
      split
      · rw [if_neg (unenriched head)]
        split <;> omega
      · exact Int.add_le_add_right inductionHypothesis _

section

variable {world after : World} {jobId other : Nat}

theorem directNameOf_of_jobs (jobs : after.leadSearchJobs = world.leadSearchJobs) :
    after.directNameOf jobId = world.directNameOf jobId := by
  unfold World.directNameOf World.findSearchJob
  rw [jobs]

theorem resultsOf_of_results (results : after.leadSearchResults = world.leadSearchResults) :
    after.resultsOf jobId = world.resultsOf jobId := by
  unfold World.resultsOf
  rw [results]

theorem directNameOf_setJobStatus (status : LeadSearchJobStatus) :
    (world.setJobStatus other status).directNameOf jobId = world.directNameOf jobId := by
  unfold World.directNameOf
  rw [findSearchJob_setJobStatus]
  cases world.findSearchJob jobId with
  | none => rfl
  | some job =>
      rw [Option.map_some, Option.bind_some, Option.bind_some]
      split <;> rfl

theorem grows_of_same
    (jobs : after.leadSearchJobs = world.leadSearchJobs)
    (results : after.leadSearchResults = world.leadSearchResults) :
    Grows world after := by
  refine ⟨fun jobId known => ⟨?_, directNameOf_of_jobs jobs⟩, fun row present => ?_⟩
  · unfold World.findSearchJob at known ⊢
    rwa [jobs]
  · exact ⟨row, results ▸ present, rfl, rfl⟩

theorem grows_setJobStatus (status : LeadSearchJobStatus) :
    Grows world (world.setJobStatus other status) := by
  refine ⟨fun jobId known => ⟨?_, directNameOf_setJobStatus status⟩,
    fun row present => ⟨row, present, rfl, rfl⟩⟩
  rw [findSearchJob_setJobStatus, Option.isSome_map, known]

theorem grows_insertResult (row : Nat → LeadSearchResult) :
    Grows world (world.insertResult row) := by
  refine ⟨fun jobId known => ⟨?_, directNameOf_of_jobs (insertResult_leadSearchJobs _ _)⟩,
    fun stored present => ⟨stored, ?_, rfl, rfl⟩⟩
  · unfold World.findSearchJob at known ⊢
    rwa [insertResult_leadSearchJobs]
  · unfold World.insertResult
    split
    · exact List.mem_cons_of_mem _ present
    · exact present

theorem grows_rewriteResults
    (condition : LeadSearchResult → Bool)
    (rewrite : LeadSearchResult → LeadSearchResult)
    (kept : ∀ row, (rewrite row).id = row.id ∧ (rewrite row).jobId = row.jobId) :
    Grows world (world.rewriteResults condition rewrite) := by
  refine ⟨fun jobId known => ⟨known, rfl⟩, fun row present => ?_⟩
  refine ⟨_, Table.mem_updateWhere.mpr ⟨row, present, rfl⟩, ?_⟩
  split
  · exact kept row
  · exact ⟨rfl, rfl⟩

theorem spares_of_same
    (jobs : after.leadSearchJobs = world.leadSearchJobs)
    (results : after.leadSearchResults = world.leadSearchResults) :
    Spares jobId world after := by
  refine ⟨directNameOf_of_jobs jobs, ?_, fun _ => ?_⟩
  · unfold World.peopleOf
    rw [resultsOf_of_results results]
  · rw [resultsOf_of_results results]

theorem spares_setJobStatus (status : LeadSearchJobStatus) :
    Spares jobId world (world.setJobStatus other status) :=
  ⟨directNameOf_setJobStatus status, rfl, fun _ => Int.le_refl _⟩

/-- A new result goes to its own job. -/
theorem spares_insertResult
    {row : Nat → LeadSearchResult}
    (apart : (row world.nextId).jobId ≠ jobId) :
    Spares jobId world (world.insertResult row) := by
  have results : (world.insertResult row).resultsOf jobId = world.resultsOf jobId := by
    unfold World.insertResult World.resultsOf
    split
    · rw [List.filter_cons_of_neg (by simpa using apart)]
    · rfl
  refine ⟨directNameOf_of_jobs (insertResult_leadSearchJobs _ _), ?_, fun _ => ?_⟩
  · unfold World.peopleOf
    rw [results]
  · rw [results]

theorem people_rewriteResults
    (condition : LeadSearchResult → Bool)
    (rewrite : LeadSearchResult → LeadSearchResult)
    (kept : ∀ row, (rewrite row).id = row.id ∧ (rewrite row).jobId = row.jobId)
    (person : ∀ row, (rewrite row).apolloPersonId = row.apolloPersonId) :
    (world.rewriteResults condition rewrite).peopleOf jobId = world.peopleOf jobId := by
  unfold World.peopleOf
  rw [resultsOf_rewriteResults world condition rewrite kept]
  exact Table.map_updateWhere _ _ _ _ person

/-- Rows that are settled without being enriched repeat nobody. -/
theorem spares_rewriteResults
    (condition : LeadSearchResult → Bool)
    (rewrite : LeadSearchResult → LeadSearchResult)
    (kept : ∀ row, (rewrite row).id = row.id ∧ (rewrite row).jobId = row.jobId)
    (person : ∀ row, (rewrite row).apolloPersonId = row.apolloPersonId)
    (unenriched : ∀ row, (rewrite row).status ≠ .enriched) :
    Spares jobId world (world.rewriteResults condition rewrite) := by
  refine ⟨rfl, people_rewriteResults condition rewrite kept person, fun _ => ?_⟩
  rw [resultsOf_rewriteResults world condition rewrite kept]
  exact enrichedCount_updateWhere_le unenriched _

/-- Enriching a row of a search by criteria gives no direct match an enriched
result. -/
theorem spares_enrich
    (tables : LeadTables world)
    {result : LeadSearchResult}
    (stored : Stored world other [result])
    (criteria : world.directNameOf other = none)
    (columns : EnrichedColumns) :
    Spares jobId world
      (world.rewriteResults (fun row => row.id = result.id) columns.fill) := by
  refine ⟨rfl, people_rewriteResults _ _ (fun _ => ⟨rfl, rfl⟩) fun _ => rfl, fun direct => ?_⟩
  have same : (world.rewriteResults (fun row => row.id = result.id) columns.fill).resultsOf
      jobId = world.resultsOf jobId := by
    refine Table.filter_updateWhere fun row present chosen => ?_
    have owner := tables.owner_eq stored present (of_decide_eq_true chosen)
    have apart : ¬row.jobId = jobId := by
      rintro rfl
      exact direct (owner ▸ criteria)
    exact ⟨decide_eq_false apart, decide_eq_false apart⟩
  rw [same]

end

end ConferenceContact
