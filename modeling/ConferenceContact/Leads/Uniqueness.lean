import ConferenceContact.Leads.Openings

/-!
# Nobody is enriched twice in one search

At most one run of a job has still to create results at any time, as long as a
search is only extended while none has: while no queue job of it waits, no run of
it has results to create, and no other request is about to extend it.  Then the list
of people it excludes covers all its results, and nobody is enriched twice.
-/

namespace ConferenceContact

open Process ApolloSearchProcessor

namespace LeadTables

variable {world after : World}

theorem of_same
    (tables : LeadTables world)
    (jobs : after.leadSearchJobs = world.leadSearchJobs)
    (results : after.leadSearchResults = world.leadSearchResults)
    (supply : world.nextId ≤ after.nextId) :
    LeadTables after := by
  refine ⟨results ▸ tables.distinct, ?_, ?_, ?_⟩
  · rw [results]
    exact fun row present => Nat.lt_of_lt_of_le (tables.results row present) supply
  · rw [jobs]
    exact fun job present => Nat.lt_of_lt_of_le (tables.jobs job present) supply
  · rw [results]
    unfold World.findSearchJob
    rw [jobs]
    exact tables.owners

theorem setJobStatus (tables : LeadTables world) (id : Nat) (status : LeadSearchJobStatus) :
    LeadTables (world.setJobStatus id status) := by
  refine ⟨tables.distinct, tables.results, fun job present => ?_, fun row present => ?_⟩
  · obtain ⟨before, inJobs, rfl⟩ := Table.mem_updateWhere.mp present
    split
    · exact tables.jobs before inJobs
    · exact tables.jobs before inJobs
  · rw [findSearchJob_setJobStatus, Option.isSome_map, tables.owners row present]

theorem insertResult
    (tables : LeadTables world)
    {row : Nat → LeadSearchResult}
    (newest : (row world.nextId).id = world.nextId) :
    LeadTables (world.insertResult row) := by
  unfold World.insertResult
  split
  · rename_i known
    refine ⟨?_, ?_, ?_, ?_⟩
    · rw [List.map_cons, List.nodup_cons, newest]
      refine ⟨fun inIds => ?_, tables.distinct⟩
      obtain ⟨stored, present, sameId⟩ := List.mem_map.mp inIds
      exact absurd (tables.results stored present) (by omega)
    · refine List.forall_mem_cons.mpr ⟨?_, fun stored present => ?_⟩
      · rw [newest]
        exact Nat.lt_succ_self _
      · exact Nat.lt_succ_of_lt (tables.results stored present)
    · exact fun job present => Nat.lt_succ_of_lt (tables.jobs job present)
    · exact List.forall_mem_cons.mpr ⟨known, tables.owners⟩
  · exact tables

theorem rewriteResults
    (tables : LeadTables world)
    (condition : LeadSearchResult → Bool)
    (rewrite : LeadSearchResult → LeadSearchResult)
    (kept : ∀ row, (rewrite row).id = row.id ∧ (rewrite row).jobId = row.jobId) :
    LeadTables (world.rewriteResults condition rewrite) := by
  have rows : ∀ row ∈ (world.rewriteResults condition rewrite).leadSearchResults,
      ∃ before ∈ world.leadSearchResults, row.id = before.id ∧ row.jobId = before.jobId := by
    intro row present
    obtain ⟨before, inRows, rfl⟩ := Table.mem_updateWhere.mp present
    refine ⟨before, inRows, ?_⟩
    split
    · exact kept before
    · exact ⟨rfl, rfl⟩
  refine ⟨?_, fun row present => ?_, tables.jobs, fun row present => ?_⟩
  · show ((Table.updateWhere condition rewrite world.leadSearchResults).map (·.id)).Nodup
    rw [Table.map_updateWhere _ _ _ _ fun row => (kept row).1]
    exact tables.distinct
  · obtain ⟨before, inRows, sameId, -⟩ := rows row present
    rw [sameId]
    exact tables.results before inRows
  · obtain ⟨before, inRows, -, owner⟩ := rows row present
    rw [owner]
    exact tables.owners before inRows

end LeadTables

/-! ## Runs -/

/-- The credit is reserved for a direct match. -/
def Target.isDirect : Target → Bool
  | row _ _ => false
  | direct _ => true

namespace SearchStage

/-- The run has still to create results. -/
def creating : SearchStage → Bool
  | search => true
  | create _ _ _ => true
  | readAccess target => target.isDirect
  | takeCredit target => target.isDirect
  | enrich target _ => target.isDirect
  | readAccessToRefund target _ => target.isDirect
  | refund target _ => target.isDirect
  | createDirect _ _ => true
  | _ => false

/-- What the rows left to enrich are, or what a direct match may still add. -/
def TargetSound (data : ApolloSearchJobData) (target : Target) (world : World) : Prop :=
  match target with
  | .row result rest =>
      directName data.filters = none ∧ Stored world data.jobId (result :: rest)
  | .direct _ => directName data.filters ≠ none ∧ Covers world data

/-- The rows a run has still to enrich are in the table, and the people it has still to
add are distinct and not among the results. -/
def Sound (data : ApolloSearchJobData) (stage : SearchStage) (world : World) : Prop :=
  match stage with
  | search => directName data.filters = none ∧ Covers world data
  | create candidate rest made =>
      directName data.filters = none ∧
        (world.peopleOf data.jobId ++
          (candidate :: rest).map (·.apolloPersonId)).Nodup ∧
        ∀ rows, made = .ok rows → Stored world data.jobId rows
  | check result rest => TargetSound data (.row result rest) world
  | readAccess target => TargetSound data target world
  | takeCredit target => TargetSound data target world
  | enrich target _ => TargetSound data target world
  | store result rest _ => TargetSound data (.row result rest) world
  | readAccessToRefund target _ => TargetSound data target world
  | refund target _ => TargetSound data target world
  | markFailed result rest => TargetSound data (.row result rest) world
  | createDirect _ _ => directName data.filters ≠ none ∧ Covers world data
  | _ => True

variable {data : ApolloSearchJobData} {stage : SearchStage} {input : Input}
  {world after : World}

theorem creating_start (data : ApolloSearchJobData) : (start data).creating = true := by
  unfold start
  split <;> rfl

theorem sound_start (covers : Covers world data) : Sound data (start data) world := by
  unfold start
  cases name : directName data.filters with
  | none => exact ⟨name, covers⟩
  | some personName => exact ⟨by rw [name]; exact Option.some_ne_none _, covers⟩

/-- A change that spares the job of a run that has still to create results, and only
adds to the tables otherwise, leaves the run sound. -/
theorem Sound.grows
    (ofJob : OfJob world data)
    (grows : Grows world after)
    (spares : stage.creating = true → Spares data.jobId world after)
    (sound : Sound data stage world) :
    Sound data stage after := by
  have target : ∀ target : Target, (target.isDirect = true → Spares data.jobId world after) →
      TargetSound data target world → TargetSound data target after := by
    rintro (⟨result, rest⟩ | personName) spares ⟨kind, stored⟩
    · exact ⟨kind, stored.grows grows⟩
    · exact ⟨kind, (spares rfl).covers ofJob stored⟩
  cases stage with
  | search => exact ⟨sound.1, (spares rfl).covers ofJob sound.2⟩
  | create candidate rest made =>
      obtain ⟨kind, distinct, stored⟩ := sound
      refine ⟨kind, ?_, fun rows created => (stored rows created).grows grows⟩
      rw [(spares rfl).people]
      exact distinct
  | check result rest => exact target (.row result rest) spares sound
  | readAccess chosen => exact target chosen spares sound
  | takeCredit chosen => exact target chosen spares sound
  | enrich chosen charged => exact target chosen spares sound
  | store result rest columns => exact target (.row result rest) spares sound
  | readAccessToRefund chosen charged => exact target chosen spares sound
  | refund chosen charged => exact target chosen spares sound
  | markFailed result rest => exact target (.row result rest) spares sound
  | createDirect personName matched => exact ⟨sound.1, (spares rfl).covers ofJob sound.2⟩
  | _ => trivial

/-- A run keeps the tables. -/
theorem leadTables_write (tables : LeadTables world) : LeadTables (write data stage world) := by
  cases stage with
  | create candidate rest made => exact tables.insertResult rfl
  | createDirect personName matched => exact tables.insertResult (by cases matched <;> rfl)
  | skipCancelled => exact tables.rewriteResults _ _ fun _ => ⟨rfl, rfl⟩
  | skipUnreserved => exact tables.rewriteResults _ _ fun _ => ⟨rfl, rfl⟩
  | store result rest columns => exact tables.rewriteResults _ _ fun _ => ⟨rfl, rfl⟩
  | markFailed result rest => exact tables.rewriteResults _ _ fun _ => ⟨rfl, rfl⟩
  | complete audited => exact tables.setJobStatus _ _
  | fail => exact tables.setJobStatus _ _
  | _ => exact tables.of_same rfl rfl (Nat.le_refl _)

/-- A run only adds to the tables. -/
theorem grows_write : Grows world (write data stage world) := by
  cases stage with
  | create candidate rest made => exact grows_insertResult _
  | createDirect personName matched => exact grows_insertResult _
  | skipCancelled => exact grows_rewriteResults _ _ fun _ => ⟨rfl, rfl⟩
  | skipUnreserved => exact grows_rewriteResults _ _ fun _ => ⟨rfl, rfl⟩
  | store result rest columns => exact grows_rewriteResults _ _ fun _ => ⟨rfl, rfl⟩
  | markFailed result rest => exact grows_rewriteResults _ _ fun _ => ⟨rfl, rfl⟩
  | complete audited => exact grows_setJobStatus _
  | fail => exact grows_setJobStatus _
  | _ => exact grows_of_same rfl rfl

/-- A run spares every job but the one it creates a result of. -/
theorem spares_write
    (tables : LeadTables world)
    (ofJob : OfJob world data)
    (sound : Sound data stage world)
    {jobId : Nat}
    (apart : stage.creates = true → data.jobId ≠ jobId) :
    Spares jobId world (write data stage world) := by
  cases stage with
  | create candidate rest made => exact spares_insertResult (apart rfl)
  | createDirect personName matched =>
      refine spares_insertResult ?_
      cases matched <;> exact apart rfl
  | skipCancelled =>
      exact spares_rewriteResults _ _ (fun _ => ⟨rfl, rfl⟩) (fun _ => rfl) fun _ => nofun
  | skipUnreserved =>
      exact spares_rewriteResults _ _ (fun _ => ⟨rfl, rfl⟩) (fun _ => rfl) fun _ => nofun
  | store result rest columns =>
      obtain ⟨kind, stored⟩ := sound
      have first : Stored world data.jobId [result] :=
        fun row single => stored row (List.mem_singleton.mp single ▸ List.mem_cons_self)
      exact spares_enrich tables first (ofJob.sameName.trans kind) columns
  | markFailed result rest =>
      exact spares_rewriteResults _ _ (fun _ => ⟨rfl, rfl⟩) (fun _ => rfl) fun _ => nofun
  | complete audited => exact spares_setJobStatus _
  | fail => exact spares_setJobStatus _
  | _ => exact spares_of_same rfl rfl

/-- A run that has no results left to create creates none. -/
theorem creating_of_leads
    {before later : SearchStage}
    (leads : Leads before later)
    (creating : later.creating = true) :
    before.creating = true := by
  have loops : ∀ rows, (loop rows).creating = false := by
    intro rows
    cases rows <;> rfl
  cases leads with
  | failed stage => cases creating
  | refused target => cases target <;> cases creating
  | revealed target charged columns =>
      cases target with
      | row result rest => cases creating
      | direct personName => rfl
  | free target charged =>
      cases target with
      | row result rest => cases creating
      | direct personName => rfl
  | paidBack target charged =>
      cases target with
      | row result rest => cases creating
      | direct personName => rfl
  | stored result rest columns =>
      rw [loops] at creating
      cases creating
  | marked result rest =>
      rw [loops] at creating
      cases creating
  | unlimited target => exact creating
  | limited target => exact creating
  | reserved target => exact creating
  | unmatched target charged => exact creating
  | refunding target charged => exact creating
  | checked result rest => cases creating
  | found candidate rest => rfl
  | foundNobody => rfl
  | created candidate rest made outcome => rfl
  | recorded personName matched => rfl
  | _ => cases creating

/-- The people of one search response are distinct. -/
def DistinctPeople (input : Input) : Prop :=
  ((input.apolloSearch.getD []).map (·.id)).Nodup

/-- The candidates of a search are distinct people that are not excluded. -/
theorem candidates_distinct
    (data : ApolloSearchJobData)
    {people : List ApolloSearchPerson}
    (distinct : (people.map (·.id)).Nodup) :
    ((candidates data (people.map ApolloService.candidate)).map (·.apolloPersonId)).Nodup ∧
      ∀ person ∈ (candidates data (people.map ApolloService.candidate)).map (·.apolloPersonId),
        person ∉ data.excludeApolloPersonIds.getD [] := by
  have chosen : (candidates data (people.map ApolloService.candidate)).Sublist
      (people.map ApolloService.candidate) :=
    (List.take_sublist _ _).trans List.filter_sublist
  constructor
  · have ids := chosen.map (·.apolloPersonId)
    rw [List.map_map] at ids
    exact ids.nodup distinct
  · intro person present
    obtain ⟨candidate, inCandidates, rfl⟩ := List.mem_map.mp present
    have kept := List.mem_of_mem_take inCandidates
    exact of_decide_eq_true (List.mem_filter.mp kept).2

/-- The rows left in a loop are in the table. -/
theorem sound_loop
    {rows : List LeadSearchResult}
    (criteria : directName data.filters = none)
    (stored : Stored world data.jobId rows) :
    Sound data (loop rows) world := by
  cases rows with
  | nil => trivial
  | cons result rest => exact ⟨criteria, stored⟩

/-- After a creation, of a result or of none. -/
theorem sound_afterCreate
    {rest : List ApolloCandidate}
    {made : Except ApiError (List LeadSearchResult)}
    (criteria : directName data.filters = none)
    (distinct : (world.peopleOf data.jobId ++ rest.map (·.apolloPersonId)).Nodup)
    (stored : ∀ rows, made = .ok rows → Stored world data.jobId rows) :
    Sound data (afterCreate rest made) world := by
  cases rest with
  | cons candidate rest => exact ⟨criteria, distinct, stored⟩
  | nil =>
      cases made with
      | error error => trivial
      | ok rows => exact sound_loop criteria (stored rows rfl)

theorem resultsOf_create
    (known : (world.findSearchJob data.jobId).isSome = true)
    (candidate : ApolloCandidate) :
    (world.insertResult (pendingRow data.jobId candidate)).resultsOf data.jobId =
      pendingRow data.jobId candidate world.nextId :: world.resultsOf data.jobId :=
  resultsOf_insertResult rfl known

/-- The people a search finds are new to the job. -/
theorem sound_search
    (ofJob : OfJob world data)
    (unrepeated : world.Unrepeated data.jobId)
    (people : DistinctPeople input)
    (criteria : directName data.filters = none)
    (covers : Covers world data) :
    Sound data (next data search input world) (write data search world) := by
  rw [next]
  cases found : input.apolloSearch with
  | none => trivial
  | some response =>
      dsimp only
      rw [DistinctPeople, found, Option.getD_some] at people
      obtain ⟨distinct, fresh⟩ := candidates_distinct data people
      cases chosen : candidates data (response.map ApolloService.candidate) with
      | nil => trivial
      | cons candidate rest =>
          rw [chosen] at distinct fresh
          refine ⟨criteria, List.nodup_append.mpr ⟨?_, distinct, ?_⟩, ?_⟩
          · unfold World.Unrepeated at unrepeated
            rw [ofJob.sameName, criteria] at unrepeated
            exact unrepeated
          · intro person present other inCandidates same
            unfold Covers at covers
            rw [criteria] at covers
            exact fresh other inCandidates (same ▸ covers person present)
          · rintro rows created
            cases created
            exact List.forall_mem_nil _

/-- The row a creation adds joins the rows made so far. -/
theorem sound_create
    (ofJob : OfJob world data)
    {candidate : ApolloCandidate}
    {rest : List ApolloCandidate}
    {made : Except ApiError (List LeadSearchResult)}
    (sound : Sound data (create candidate rest made) world) :
    Sound data (next data (create candidate rest made) input world)
      (write data (create candidate rest made) world) := by
  obtain ⟨criteria, distinct, stored⟩ := sound
  have grows : Grows world (write data (create candidate rest made) world) := grows_write
  have results := resultsOf_create ofJob.known candidate
  rw [next, if_pos ofJob.known]
  refine sound_afterCreate criteria ?_ ?_
  · show (((world.insertResult (pendingRow data.jobId candidate)).resultsOf data.jobId).map
      (·.apolloPersonId) ++ _).Nodup
    rw [results]
    exact List.nodup_middle.mp distinct
  · rintro rows created result present
    cases made with
    | error error => cases created
    | ok earlier =>
        cases created
        rcases List.mem_append.mp present with old | new
        · exact (stored earlier rfl).grows grows result old
        · rw [List.mem_singleton.mp new]
          have first : pendingRow data.jobId candidate world.nextId ∈
              (world.insertResult (pendingRow data.jobId candidate)).resultsOf data.jobId := by
            rw [results]
            exact List.mem_cons_self
          exact ⟨_, List.mem_of_mem_filter first, rfl, rfl⟩

/-- A call keeps a run sound. -/
theorem sound_next
    (ofJob : OfJob world data)
    (unrepeated : world.Unrepeated data.jobId)
    (people : DistinctPeople input)
    (sound : Sound data stage world) :
    Sound data (next data stage input world) (write data stage world) := by
  have grows : Grows world (write data stage world) := grows_write
  cases stage with
  | search => exact sound_search ofJob unrepeated people sound.1 sound.2
  | create candidate rest made => exact sound_create ofJob sound
  | check result rest =>
      rw [next]
      split
      · trivial
      · exact sound
  | readAccess target =>
      rw [next]
      split <;> exact sound
  | takeCredit target =>
      rw [next]
      split
      · exact sound
      · cases target <;> trivial
  | enrich target charged =>
      rw [next]
      cases ApolloService.outcome input.apolloMatch with
      | error error => trivial
      | ok outcome =>
          cases outcome with
          | none => exact sound
          | some person =>
              dsimp only
              cases person.columns with
              | error error => trivial
              | ok columns => cases target <;> exact sound
  | store result rest columns =>
      rw [next]
      split
      · have left : Stored world data.jobId rest :=
          fun row present => sound.2 row (List.mem_cons_of_mem _ present)
        exact sound_loop sound.1 (left.grows grows)
      · trivial
  | readAccessToRefund target charged =>
      rw [next]
      split
      · cases target <;> exact sound
      · exact sound
  | refund target charged =>
      rw [next]
      split
      · cases target <;> exact sound
      · trivial
  | markFailed result rest =>
      rw [next]
      split
      · have left : Stored world data.jobId rest :=
          fun row present => sound.2 row (List.mem_cons_of_mem _ present)
        exact sound_loop sound.1 (left.grows grows)
      · trivial
  | createDirect personName matched =>
      rw [next]
      split <;> trivial
  | complete audited =>
      rw [next]
      split
      · cases audited <;> trivial
      · trivial
  | fail =>
      rw [next]
      split <;> trivial
  | _ => trivial

/-- A rejected call leaves a run sound. -/
theorem sound_abort (sound : Sound data stage world) (error : ApiError) :
    Sound data (abort stage error) world := by
  cases stage with
  | create candidate rest made =>
      obtain ⟨criteria, distinct, -⟩ := sound
      refine sound_afterCreate criteria ?_ fun rows created => ?_
      · rw [List.map_cons, List.nodup_middle, List.nodup_cons] at distinct
        exact distinct.2
      · cases made <;> cases created
  | finished outcome => exact sound
  | _ => trivial

/-- A run repeats nobody. -/
theorem unrepeated_write
    (tables : LeadTables world)
    (ofJob : OfJob world data)
    (sound : Sound data stage world)
    {jobId : Nat}
    (unrepeated : world.Unrepeated jobId) :
    (write data stage world).Unrepeated jobId := by
  by_cases creates : stage.creates = true ∧ data.jobId = jobId
  · obtain ⟨creates, rfl⟩ := creates
    have sameName : (write data stage world).directNameOf data.jobId = directName data.filters :=
      (grows_write.jobs data.jobId ofJob.known).2.trans ofJob.sameName
    unfold World.Unrepeated World.peopleOf at unrepeated ⊢
    rw [sameName]
    rw [ofJob.sameName] at unrepeated
    cases stage with
    | create candidate rest made =>
        obtain ⟨criteria, distinct, -⟩ := sound
        rw [criteria, write, resultsOf_create ofJob.known]
        rw [List.map_cons, List.nodup_middle, ← List.cons_append] at distinct
        exact distinct.of_append_left
    | createDirect personName matched =>
        obtain ⟨direct, covers⟩ := sound
        have owner : (directRow data personName matched world.nextId).jobId = data.jobId := by
          cases matched <;> rfl
        rw [write, resultsOf_insertResult owner ofJob.known]
        unfold Covers at covers
        cases name : directName data.filters with
        | none => exact absurd name direct
        | some person =>
            rw [name] at covers
            dsimp only at covers ⊢
            rw [enrichedCount_cons]
            split <;> omega
    | _ => cases creates
  · refine (spares_write tables ofJob sound fun created same => ?_).unrepeated unrepeated
    exact creates ⟨created, same⟩

end SearchStage
end ConferenceContact
