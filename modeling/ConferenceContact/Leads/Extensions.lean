import ConferenceContact.Leads.Uniqueness

/-!
# Extending a search

A job is open while a run of it may still create results: a request is about to
extend it, or a queue job of it waits, or a worker runs one that has results to
create.  Where searches are only extended while they are not open, a job is open
at most once at any time.
-/

namespace ConferenceContact

open Process ApolloSearchProcessor

/-! ## Requests -/

namespace RequestStage

/-- The queue job, but for its number of candidates, that a request is about to add. -/
def snapshot : RequestStage → Option ApolloSearchJobData
  | planExtension data _ => some data
  | restart data => some data
  | enqueue data => some data
  | _ => none

variable {app : Deployment} {stage : RequestStage} {input : Input} {world : World}

/-- What a snapshot is of, whatever the number of candidates. -/
def SoundSnapshot (world : World) (data : ApolloSearchJobData) : Prop :=
  OfJob world data ∧ Covers world data

theorem snapshot_planned
    (userId : UserId)
    (filters : ApolloSearchFilters)
    (service : Service Nat)
    (readOnly : ReadOnly service) :
    (planned userId filters service readOnly).snapshot = none := by
  cases service <;> rfl

theorem snapshot_extended
    {data later : ApolloSearchJobData}
    {service : Service Nat}
    {readOnly : ReadOnly service}
    (snapshot : (extended data service readOnly).snapshot = some later) :
    later.jobId = data.jobId ∧
      ∀ world, SoundSnapshot world data → SoundSnapshot world later := by
  cases service with
  | done cap =>
      cases snapshot
      exact ⟨rfl, fun _ sound => ⟨⟨sound.1.known, sound.1.sameName⟩, sound.2⟩⟩
  | fail error => cases snapshot
  | call update resume abort =>
      cases snapshot
      exact ⟨rfl, fun _ => id⟩

/-- Searches are created and started; results are left alone. -/
theorem leadTables_write (tables : LeadTables world) :
    LeadTables (write stage input world) := by
  cases stage with
  | createJob userId filters cap =>
      rw [write]
      split
      · refine ⟨tables.distinct, ?_, ?_, ?_⟩
        · exact fun row present => Nat.lt_succ_of_lt (tables.results row present)
        · refine List.forall_mem_cons.mpr ⟨Nat.lt_succ_self _, fun job present => ?_⟩
          exact Nat.lt_succ_of_lt (tables.jobs job present)
        · intro row present
          rw [findSearchJob_cons rfl]
          split
          · rfl
          · exact tables.owners row present
      · exact tables
  | restart data => exact tables.setJobStatus _ _
  | cancel jobId => exact tables.setJobStatus _ _
  | _ => exact tables.of_same rfl rfl (Nat.le_refl _)

/-- A job with the next id is missing. -/
theorem not_known_nextId (tables : LeadTables world) :
    (world.findSearchJob world.nextId).isSome = false := by
  cases found : world.findSearchJob world.nextId with
  | none => rfl
  | some job =>
      unfold World.findSearchJob at found
      have sameId : job.id = world.nextId := by simpa using List.find?_some found
      exact absurd (tables.jobs job (List.mem_of_find?_eq_some found)) (by omega)

/-- A request changes no job but the one it creates. -/
theorem spares_write
    {jobId : Nat}
    (known : (world.findSearchJob jobId).isSome = true)
    (tables : LeadTables world) :
    Spares jobId world (write stage input world) := by
  cases stage with
  | createJob userId filters cap =>
      have older : ¬world.nextId = jobId := by
        rintro rfl
        rw [not_known_nextId tables] at known
        cases known
      rw [write]
      split
      · refine ⟨?_, rfl, fun _ => Int.le_refl _⟩
        unfold World.directNameOf
        rw [findSearchJob_cons rfl]
        dsimp only
        rw [if_neg older]
      · exact spares_of_same rfl rfl
  | restart data => exact spares_setJobStatus _
  | cancel jobId => exact spares_setJobStatus _
  | _ => exact spares_of_same rfl rfl

theorem grows_write (tables : LeadTables world) : Grows world (write stage input world) := by
  have known : ∀ jobId, (world.findSearchJob jobId).isSome = true →
      ((write stage input world).findSearchJob jobId).isSome = true := by
    intro jobId known
    cases stage with
    | createJob userId filters cap =>
        rw [write]
        split
        · rw [findSearchJob_cons rfl]
          split
          · rfl
          · exact known
        · exact known
    | restart data =>
        rw [write, findSearchJob_setJobStatus, Option.isSome_map]
        exact known
    | cancel other =>
        rw [write, findSearchJob_setJobStatus, Option.isSome_map]
        exact known
    | _ => exact known
  refine ⟨fun jobId found => ⟨known jobId found, (spares_write found tables).sameName⟩,
    fun row present => ⟨row, ?_, rfl, rfl⟩⟩
  cases stage with
  | createJob userId filters cap =>
      rw [write]
      split <;> exact present
  | _ => exact present

theorem leadSearchResults_write :
    (write stage input world).leadSearchResults = world.leadSearchResults := by
  cases stage with
  | createJob userId filters cap =>
      rw [write]
      split <;> rfl
  | _ => rfl

/-- A job that is missing has no results. -/
theorem resultsOf_of_unknown
    {jobId : Nat}
    (tables : LeadTables world)
    (unknown : (world.findSearchJob jobId).isSome = false) :
    world.resultsOf jobId = [] := by
  refine List.filter_eq_nil_iff.mpr fun row present owner => ?_
  have known := tables.owners row present
  rw [of_decide_eq_true owner, unknown] at known
  cases known

theorem unrepeated_of_nil
    {jobId : Nat}
    (nothing : world.resultsOf jobId = []) :
    world.Unrepeated jobId := by
  unfold World.Unrepeated World.peopleOf
  rw [nothing]
  split
  · exact List.nodup_nil
  · exact Int.zero_le_ofNat 1

/-- A request repeats nobody. -/
theorem unrepeated_write
    (tables : LeadTables world)
    {jobId : Nat}
    (unrepeated : world.Unrepeated jobId) :
    (write stage input world).Unrepeated jobId := by
  cases known : (world.findSearchJob jobId).isSome with
  | true => exact (spares_write known tables).unrepeated unrepeated
  | false =>
      refine unrepeated_of_nil ?_
      rw [resultsOf_of_results leadSearchResults_write]
      exact resultsOf_of_unknown tables known

/-- What a request extends a search with covers its results, if none is enriched by a
direct match. -/
theorem soundSnapshot_of_extensible
    {userId : UserId}
    {jobId : Nat}
    {data : ApolloSearchJobData}
    (extended : LeadsService.extensible world userId jobId = .ok data)
    (fresh : directName data.filters ≠ none → enrichedCount (world.resultsOf jobId) ≤ 0) :
    SoundSnapshot world data := by
  obtain ⟨job, found, -, -, filters, rfl, excluded⟩ := LeadsService.of_extensible extended
  refine ⟨⟨by rw [found]; rfl, ?_⟩, ?_⟩
  · unfold World.directNameOf
    rw [found, Option.bind_some, filters, Option.bind_some]
  · unfold Covers
    cases name : directName data.filters with
    | none =>
        rw [excluded]
        exact fun person present => present
    | some personName => exact fresh (by rw [name]; exact Option.some_ne_none _)

/-- A new search has no results yet. -/
theorem soundSnapshot_of_created
    (tables : LeadTables world)
    {userId : UserId}
    {filters : ApolloSearchFilters}
    {cap : Nat}
    (known : world.hasUser userId = true) :
    SoundSnapshot (write (createJob userId filters cap) input world)
      { jobId := world.nextId, userId, filters, cap } := by
  have nothing :
      (write (createJob userId filters cap) input world).resultsOf world.nextId = [] := by
    rw [resultsOf_of_results leadSearchResults_write]
    exact resultsOf_of_unknown tables (not_known_nextId tables)
  have found : (write (createJob userId filters cap) input world).findSearchJob world.nextId =
      some { id := world.nextId, userId, filters := some filters, createdAt := input.now } := by
    rw [write, if_pos known, findSearchJob_cons rfl]
    exact if_pos rfl
  refine ⟨⟨by rw [found]; rfl, ?_⟩, ?_⟩
  · unfold World.directNameOf
    rw [found]
    rfl
  · unfold Covers World.peopleOf
    dsimp only
    rw [nothing]
    split
    · exact List.forall_mem_nil _
    · exact Int.le_refl 0

/-- The snapshots a call may leave a request with: the one it had, that of an extension
that is about to begin, or that of a new search. -/
theorem snapshot_next
    {later : ApolloSearchJobData}
    (snapshot : (next app stage input world).snapshot = some later) :
    (∃ data, stage.snapshot = some data ∧ later.jobId = data.jobId ∧
        (∀ world, SoundSnapshot world data → SoundSnapshot world later) ∧
        (write stage input world).apolloQueue = world.apolloQueue) ∨
      (∃ userId jobId count data, stage = readResults userId jobId count ∧
        LeadsService.extensible world userId jobId = .ok data ∧ later.jobId = jobId ∧
        ∀ world, SoundSnapshot world data → SoundSnapshot world later) ∨
      ∃ userId filters cap, stage = createJob userId filters cap ∧
        world.hasUser userId = true ∧
        later = { jobId := world.nextId, userId, filters, cap } := by
  cases stage with
  | planSearch userId filters checks =>
      rw [next, snapshot_planned] at snapshot
      cases snapshot
  | createJob userId filters cap =>
      rw [next] at snapshot
      split at snapshot
      · rename_i known
        cases snapshot
        exact .inr (.inr ⟨userId, filters, cap, rfl, known, rfl⟩)
      · cases snapshot
  | readResults userId jobId count =>
      rw [next] at snapshot
      cases decision : LeadsService.extensible world userId jobId with
      | error error =>
          rw [decision] at snapshot
          cases snapshot
      | ok data =>
          rw [decision] at snapshot
          obtain ⟨-, -, -, -, -, sameJob, -⟩ := LeadsService.of_extensible decision
          obtain ⟨owner, kept⟩ := snapshot_extended snapshot
          exact .inr (.inl ⟨userId, jobId, count, data, rfl, decision, owner.trans sameJob, kept⟩)
  | planExtension data checks =>
      rw [next] at snapshot
      obtain ⟨owner, kept⟩ := snapshot_extended snapshot
      exact .inl ⟨data, rfl, owner, kept, rfl⟩
  | restart data =>
      rw [next] at snapshot
      split at snapshot
      · cases snapshot
        exact .inl ⟨_, rfl, rfl, fun _ => id, rfl⟩
      · cases snapshot
  | enqueue data => cases snapshot
  | readJob userId jobId =>
      rw [next] at snapshot
      split at snapshot
      · cases snapshot
      · split at snapshot
        · cases snapshot
        · split at snapshot <;> cases snapshot
  | cancel jobId =>
      rw [next] at snapshot
      split at snapshot <;> cases snapshot
  | finished outcome => cases snapshot

/-- A rejected call leaves a request with the snapshot it had, or none. -/
theorem snapshot_abort
    {later : ApolloSearchJobData}
    {error : ApiError}
    (snapshot : (abort stage error).snapshot = some later) :
    ∃ data, stage.snapshot = some data ∧ later.jobId = data.jobId ∧
      ∀ world, SoundSnapshot world data → SoundSnapshot world later := by
  cases stage with
  | planSearch userId filters checks =>
      rw [abort, snapshot_planned] at snapshot
      cases snapshot
  | planExtension data checks =>
      rw [abort] at snapshot
      obtain ⟨owner, kept⟩ := snapshot_extended snapshot
      exact ⟨data, rfl, owner, kept⟩
  | _ => cases snapshot

end RequestStage

/-! ## Members -/

namespace LeadSystem

open RequestStage

/-- The queue job with which a member may still add results to a job. -/
def claim : LeadMember → Option ApolloSearchJobData
  | .worker none => none
  | .worker (some run) => if run.stage.creating then some run.data else none
  | .request stage => stage.snapshot
  | .other _ => none

/-- Whether a member has a job open. -/
def opens (jobId : Nat) (member : LeadMember) : Int :=
  if (claim member).any fun data => data.jobId = jobId then 1 else 0

/-- The queue jobs of a job that wait. -/
def waiting (world : World) (jobId : Nat) : Int :=
  world.apolloQueue.countP fun data => data.jobId = jobId

/-- How often a job is open. -/
def openings (jobId : Nat) (crew : Crew LeadMember World) : Int :=
  Machine.weightOf (opens jobId) crew.members + waiting crew.state jobId

/-- What a member may still add to a job repeats nobody. -/
def SoundMember (world : World) : LeadMember → Prop
  | .worker none => True
  | .worker (some run) => OfJob world run.data ∧ run.stage.Sound run.data world
  | .request stage => ∀ data, stage.snapshot = some data → SoundSnapshot world data
  | .other left => left.Respects Aside

variable {app : Deployment} {member : LeadMember} {input : Input} {world after : World}
  {jobId : Nat}

theorem opens_nonneg (jobId : Nat) (member : LeadMember) : 0 ≤ opens jobId member := by
  unfold opens
  split <;> decide

theorem opens_eq_one {data : ApolloSearchJobData} (claims : claim member = some data) :
    opens data.jobId member = 1 := by
  unfold opens
  rw [claims, Option.any_some, if_pos (decide_eq_true rfl)]

theorem opens_le_one (jobId : Nat) (member : LeadMember) : opens jobId member ≤ 1 := by
  unfold opens
  split <;> decide

/-- A member has no job open but that of its claim. -/
theorem opens_eq_zero
    (apart : ∀ data, claim member = some data → data.jobId ≠ jobId) :
    opens jobId member = 0 := by
  unfold opens
  cases claims : claim member with
  | none => rfl
  | some data =>
      rw [Option.any_some, decide_eq_false (apart data claims)]
      rfl

theorem claim_run {run : SearchRun} (creating : run.stage.creating = true) :
    claim (.worker (some run)) = some run.data :=
  if_pos creating

/-- A member has open at most the job of its claim. -/
theorem opens_le
    {later : LeadMember}
    (kept : ∀ data, claim later = some data →
      ∃ before, claim member = some before ∧ data.jobId = before.jobId) :
    opens jobId later ≤ opens jobId member := by
  unfold opens
  cases claims : claim later with
  | none => exact opens_nonneg jobId member
  | some data =>
      obtain ⟨before, found, same⟩ := kept data claims
      rw [found, Option.any_some, Option.any_some, same]

/-- A change that spares the job of a member's claim leaves the member sound. -/
theorem SoundMember.grows
    (grows : Grows world after)
    (spares : ∀ data, claim member = some data →
      (world.findSearchJob data.jobId).isSome = true → Spares data.jobId world after)
    (sound : SoundMember world member) :
    SoundMember after member := by
  cases member with
  | worker current =>
      cases current with
      | none => trivial
      | some run =>
          obtain ⟨ofJob, sound⟩ := sound
          refine ⟨ofJob.grows grows, sound.grows ofJob grows fun creating => ?_⟩
          exact spares run.data (if_pos creating) ofJob.known
  | request stage =>
      intro data snapshot
      obtain ⟨ofJob, covers⟩ := sound data snapshot
      exact ⟨ofJob.grows grows, (spares data snapshot ofJob.known).covers ofJob covers⟩
  | other left => exact sound

/-- What the claim of a sound member is of. -/
theorem known_of_claim
    {data : ApolloSearchJobData}
    (sound : SoundMember world member)
    (claims : claim member = some data) :
    (world.findSearchJob data.jobId).isSome = true := by
  cases member with
  | worker current =>
      cases current with
      | none => cases claims
      | some run =>
          rw [claim] at claims
          split at claims
          · cases claims
            exact sound.1.known
          · cases claims
  | request stage => exact (sound data claims).1.known
  | other left => cases claims

theorem waiting_of_queue (queue : after.apolloQueue = world.apolloQueue) :
    waiting after jobId = waiting world jobId := by
  unfold waiting
  rw [queue]

/-- A request adds the queue job that it has claimed. -/
theorem waiting_enqueue (data : ApolloSearchJobData) :
    waiting (RequestStage.write (.enqueue data) input world) jobId =
      waiting world jobId + opens jobId (.request (.enqueue data)) := by
  unfold waiting
  rw [RequestStage.apolloQueue_write, List.countP_append, Int.natCast_add]
  by_cases same : data.jobId = jobId
  · subst same
    have claimed : opens data.jobId (.request (.enqueue data)) = 1 := opens_eq_one rfl
    rw [claimed, List.countP_singleton, if_pos (decide_eq_true rfl)]
    rfl
  · have closed : opens jobId (.request (.enqueue data)) = 0 := by
      refine opens_eq_zero fun claimed claims => ?_
      cases claims
      exact same
    rw [closed, List.countP_singleton, decide_eq_false same]
    rfl

/-- The first read of a request finds that a search may be extended. -/
def Extends (world : World) (member : LeadMember) (jobId : Nat) : Prop :=
  ∃ userId count data, member = .request (.readResults userId jobId count) ∧
    LeadsService.extensible world userId jobId = .ok data

/-- What a call makes of the tables, the queue and the claim of its member. -/
structure Acts (world after : World) (member later : LeadMember) : Prop where
  tables : LeadTables after
  grows : Grows world after
  spares : ∀ jobId, (world.findSearchJob jobId).isSome = true → opens jobId member = 0 →
    Spares jobId world after
  unrepeated : ∀ jobId, world.Unrepeated jobId → after.Unrepeated jobId
  sound : SoundMember after later
  queue : ∀ data ∈ after.apolloQueue, data ∈ world.apolloQueue ∨ SoundSnapshot after data
  opened : ∀ jobId,
    opens jobId later + waiting after jobId ≤ opens jobId member + waiting world jobId ∨
      opens jobId later + waiting after jobId ≤ 1 + waiting world jobId ∧
        ((world.findSearchJob jobId).isSome = false ∨ Extends world member jobId)

/-- An idle worker takes over the claim of the oldest queue job. -/
theorem acts_poll
    (app : Deployment)
    (input : Input)
    (tables : LeadTables world)
    (queue : ∀ data ∈ world.apolloQueue, SoundSnapshot world data) :
    Acts world (poll world) (.worker none) (next app (.worker none) input world) := by
  have grows : Grows world (poll world) := grows_of_same rfl rfl
  have spares : ∀ jobId, Spares jobId world (poll world) := fun _ => spares_of_same rfl rfl
  refine ⟨tables.of_same rfl rfl (Nat.le_refl _), grows, fun jobId _ _ => spares jobId,
    fun jobId => (spares jobId).unrepeated, ?_, ?_, fun jobId => .inl ?_⟩
  · rw [next]
    cases found : world.apolloQueue with
    | nil => trivial
    | cons data later =>
        obtain ⟨ofJob, covers⟩ := queue data (found ▸ List.mem_cons_self)
        exact ⟨ofJob.grows grows, SearchStage.sound_start ((spares _).covers ofJob covers)⟩
  · exact fun data present => .inl (List.mem_of_mem_tail present)
  · unfold waiting poll
    rw [next]
    cases world.apolloQueue with
    | nil => exact Int.le_refl _
    | cons data later =>
        have claims : claim (.worker (some (SearchRun.start data))) = some data :=
          if_pos (SearchStage.creating_start data)
        show opens jobId (.worker (some (SearchRun.start data))) + _ ≤ _
        unfold opens
        rw [claims, Option.any_some, List.countP_cons]
        split <;> simp [claim, Int.add_comm]

/-- The call of a run. -/
theorem acts_run
    (app : Deployment)
    (tables : LeadTables world)
    (unrepeated : ∀ jobId, world.Unrepeated jobId)
    {run : SearchRun}
    (sound : SoundMember world (.worker (some run)))
    (people : SearchStage.DistinctPeople input) :
    Acts world (effect app (.worker (some run)) input world) (.worker (some run))
      (next app (.worker (some run)) input world) := by
  obtain ⟨ofJob, sound⟩ := sound
  have written : effect app (.worker (some run)) input world = run.stage.write run.data world :=
    SearchStage.effect_eq run.data run.stage input world
  have queue : (run.stage.write run.data world).apolloQueue = world.apolloQueue :=
    SearchStage.apolloQueue_write _ _ _
  have grows : Grows world (run.stage.write run.data world) := SearchStage.grows_write
  rw [written]
  refine ⟨SearchStage.leadTables_write tables, grows, ?_, ?_, ?_, ?_, fun jobId => .inl ?_⟩
  · intro jobId _ closed
    refine SearchStage.spares_write tables ofJob sound fun creates same => ?_
    have creating : run.stage.creating = true := by
      cases stage : run.stage with
      | create candidate rest made => rfl
      | createDirect personName matched => rfl
      | _ =>
          rw [stage] at creates
          cases creates
    rw [← same, opens_eq_one (claim_run creating)] at closed
    cases closed
  · exact fun jobId => SearchStage.unrepeated_write tables ofJob sound
  · rw [next]
    split
    · trivial
    · exact ⟨ofJob.grows grows, SearchStage.sound_next ofJob (unrepeated _) people sound⟩
  · exact fun data present => .inl (queue ▸ present)
  · rw [waiting_of_queue queue]
    refine Int.add_le_add_right (opens_le fun data claims => ?_) _
    rw [next] at claims
    split at claims
    · cases claims
    · rw [claim] at claims
      split at claims
      · rename_i creating
        cases claims
        have before := SearchStage.creating_of_leads
          (SearchStage.leads_next run.data run.stage input world) creating
        exact ⟨run.data, if_pos before, rfl⟩
      · cases claims

/-- The call of a request. -/
theorem acts_request
    (app : Deployment)
    (tables : LeadTables world)
    {stage : RequestStage}
    (sound : SoundMember world (.request stage))
    (fresh : ∀ userId jobId count data, stage = .readResults userId jobId count →
      LeadsService.extensible world userId jobId = .ok data →
      directName data.filters ≠ none → enrichedCount (world.resultsOf jobId) ≤ 0) :
    Acts world (effect app (.request stage) input world) (.request stage)
      (next app (.request stage) input world) := by
  show Acts world (stage.write input world) (.request stage) (.request (stage.next app input world))
  have grows : Grows world (stage.write input world) := RequestStage.grows_write tables
  have kept : ∀ data, SoundSnapshot world data → SoundSnapshot (stage.write input world) data := by
    rintro data ⟨ofJob, covers⟩
    exact ⟨ofJob.grows grows,
      (RequestStage.spares_write ofJob.known tables).covers ofJob covers⟩
  refine ⟨RequestStage.leadTables_write tables, grows,
    fun jobId known _ => RequestStage.spares_write known tables,
    fun jobId => RequestStage.unrepeated_write tables, ?_, ?_, fun jobId => ?_⟩
  · intro later snapshot
    rcases snapshot_next snapshot with ⟨data, before, -, same, -⟩ |
      ⟨userId, jobId, count, data, rfl, extended, -, same⟩ |
      ⟨userId, filters, cap, rfl, known, rfl⟩
    · exact same _ (kept data (sound data before))
    · exact same _ (kept data (soundSnapshot_of_extensible extended
        (fresh userId jobId count data rfl extended)))
    · exact soundSnapshot_of_created tables known
  · intro data present
    rw [RequestStage.apolloQueue_write] at present
    cases stage with
    | enqueue added =>
        rcases List.mem_append.mp present with old | new
        · exact .inl old
        · rw [List.mem_singleton.mp new]
          exact .inr (kept added (sound added rfl))
    | _ => exact .inl present
  · cases snapshot : (stage.next app input world).snapshot with
    | none =>
        have closed : opens jobId (.request (stage.next app input world)) = 0 :=
          opens_eq_zero fun data claims => nomatch snapshot.symm.trans claims
        refine .inl ?_
        rw [closed]
        cases stage with
        | enqueue data =>
            rw [waiting_enqueue]
            omega
        | _ =>
            rw [waiting_of_queue RequestStage.apolloQueue_write]
            exact Int.add_le_add_right (opens_nonneg _ _) _
    | some later =>
        have atMost := opens_le_one jobId (.request (stage.next app input world))
        have elsewhere : later.jobId ≠ jobId →
            opens jobId (.request (stage.next app input world)) = 0 := by
          intro apart
          refine opens_eq_zero fun data claims => ?_
          cases snapshot.symm.trans claims
          exact apart
        have before := opens_nonneg jobId (.request stage)
        by_cases same : later.jobId = jobId
        · rcases snapshot_next snapshot with ⟨data, was, sameJob, -, queue⟩ |
            ⟨userId, found, count, data, rfl, extended, sameJob, -⟩ |
            ⟨userId, filters, cap, rfl, -, rfl⟩
          · refine .inl ?_
            rw [waiting_of_queue queue, ← same, sameJob,
              opens_eq_one (show claim (.request stage) = some data from was)]
            rw [← same, sameJob] at atMost
            exact Int.add_le_add_right atMost _
          · refine .inr ⟨Int.add_le_add_right atMost _, .inr ?_⟩
            rw [← same, sameJob]
            exact ⟨userId, count, data, rfl, extended⟩
          · refine .inr ⟨?_, .inl ?_⟩
            · rw [waiting_of_queue RequestStage.apolloQueue_write]
              exact Int.add_le_add_right atMost _
            · rw [← same]
              exact not_known_nextId tables
        · refine .inl ?_
          have queue : (stage.write input world).apolloQueue = world.apolloQueue := by
            rw [RequestStage.apolloQueue_write]
            cases stage with
            | enqueue data => cases snapshot
            | _ => rfl
          rw [elsewhere same, waiting_of_queue queue]
          exact Int.add_le_add_right before _

/-- Other code keeps to itself. -/
theorem acts_other
    (app : Deployment)
    (tables : LeadTables world)
    {left : Service Unit}
    (aside : left.Respects Aside) :
    Acts world (effect app (.other left) input world) (.other left)
      (next app (.other left) input world) := by
  have change := aside.effect input world
  have spares : ∀ jobId, Spares jobId world (left.effect input world) :=
    fun _ => spares_of_same change.jobs change.results
  refine ⟨tables.of_same change.jobs change.results change.supply,
    grows_of_same change.jobs change.results, fun jobId _ _ => spares jobId,
    fun jobId => (spares jobId).unrepeated, aside.residual input world, ?_, ?_⟩
  · exact fun data present => .inl (change.queue ▸ present)
  · exact fun jobId => .inl (Int.add_le_add_left (waiting_of_queue change.queue).le _)

/-- A rejected call leaves its member sound, and opens nothing. -/
theorem sound_abort
    (app : Deployment)
    (sound : SoundMember world member)
    (error : ApiError) :
    SoundMember world (abort app member error) ∧
      ∀ jobId, opens jobId (abort app member error) ≤ opens jobId member := by
  cases member with
  | worker current =>
      cases current with
      | none => exact ⟨trivial, fun _ => Int.le_refl _⟩
      | some run =>
          refine ⟨⟨sound.1, SearchStage.sound_abort sound.2 error⟩, fun jobId => ?_⟩
          refine opens_le fun data claims => ?_
          rw [abort, claim] at claims
          split at claims
          · rename_i creating
            cases claims
            have before := SearchStage.creating_of_leads
              (SearchStage.leads_abort run.stage error) creating
            exact ⟨run.data, claim_run before, rfl⟩
          · cases claims
  | request stage =>
      refine ⟨fun later snapshot => ?_, fun jobId => opens_le fun later snapshot => ?_⟩
      · obtain ⟨data, before, -, same⟩ := snapshot_abort snapshot
        exact same world (sound data before)
      · obtain ⟨data, before, sameJob, -⟩ := snapshot_abort snapshot
        exact ⟨data, before, sameJob⟩
  | other left => exact ⟨sound.rejected error, fun _ => Int.le_refl _⟩

/-! ## Systems -/

/-- No job is open twice, and what is open repeats nobody. -/
structure SoundSystem (crew : Crew LeadMember World) : Prop where
  tables : LeadTables crew.state
  unrepeated : ∀ jobId, crew.state.Unrepeated jobId
  members : ∀ member ∈ crew.members, SoundMember crew.state member
  queue : ∀ data ∈ crew.state.apolloQueue, SoundSnapshot crew.state data
  single : ∀ jobId, openings jobId crew ≤ 1

/-- A request that reads a search it may extend finds it closed, and if it is a direct
match, not enriched. -/
def ExtendsClosed (crew : Crew LeadMember World) (turn : CrewTurn Input ApiError) : Prop :=
  turn.rejected = none →
    match crew.members[turn.member]? with
    | some (.request (.readResults userId jobId _)) =>
        match LeadsService.extensible crew.state userId jobId with
        | .ok data =>
            openings jobId crew = 0 ∧
              (directName data.filters ≠ none →
                enrichedCount (crew.state.resultsOf jobId) = 0)
        | .error _ => True
    | _ => True

instance (crew : Crew LeadMember World) (turn : CrewTurn Input ApiError) :
    Decidable (ExtendsClosed crew turn) := by
  unfold ExtendsClosed
  rcases crew.members[turn.member]? with _ | _ | stage | _
  case some.request =>
    cases stage with
    | readResults userId jobId count =>
        dsimp only
        cases LeadsService.extensible crew.state userId jobId with
        | ok data => infer_instance
        | error error => infer_instance
    | _ => exact inferInstanceAs (Decidable (_ → True))
  all_goals exact inferInstanceAs (Decidable (_ → True))

instance (input : Input) : Decidable (SearchStage.DistinctPeople input) := by
  unfold SearchStage.DistinctPeople
  infer_instance

theorem waiting_nonneg (world : World) (jobId : Nat) : 0 ≤ waiting world jobId :=
  Int.natCast_nonneg _

theorem one_le_waiting {data : ApolloSearchJobData} (present : data ∈ world.apolloQueue) :
    1 ≤ waiting world data.jobId := by
  have some : 0 < world.apolloQueue.countP fun other => other.jobId = data.jobId :=
    List.countP_pos_iff.mpr ⟨data, present, decide_eq_true rfl⟩
  unfold waiting
  omega

variable {crew : Crew LeadMember World} {turn : CrewTurn Input ApiError}

theorem openings_set
    {later : LeadMember}
    (chosen : crew.members[turn.member]? = some member)
    (after : World) :
    openings jobId ⟨after, crew.members.set turn.member later⟩ =
      openings jobId crew - opens jobId member - waiting crew.state jobId +
        opens jobId later + waiting after jobId := by
  unfold openings
  dsimp only
  rw [Machine.weightOf_set (opens jobId) chosen later]
  omega

/-- A missing job is not open. -/
theorem openings_of_unknown
    (sound : SoundSystem crew)
    (unknown : (crew.state.findSearchJob jobId).isSome = false) :
    openings jobId crew = 0 := by
  have closed : Machine.weightOf (opens jobId) crew.members = 0 := by
    refine Machine.weightOf_eq_zero fun member present => opens_eq_zero fun data claims => ?_
    rintro rfl
    rw [known_of_claim (sound.members member present) claims] at unknown
    cases unknown
  have empty : waiting crew.state jobId = 0 := by
    unfold waiting
    rw [List.countP_eq_zero.mpr]
    · rfl
    · intro data present same
      have known := (sound.queue data present).1.known
      rw [of_decide_eq_true same, unknown] at known
      cases known
  unfold openings
  omega

/-- What a sound system makes of a call. -/
theorem soundSystem_of_acts
    (sound : SoundSystem crew)
    (closed : ExtendsClosed crew turn)
    (taken : turn.rejected = none)
    (chosen : crew.members[turn.member]? = some member)
    {after : World}
    {later : LeadMember}
    (acts : Acts crew.state after member later) :
    SoundSystem ⟨after, crew.members.set turn.member later⟩ := by
  have mine : ∀ jobId, opens jobId member ≤ Machine.weightOf (opens jobId) crew.members :=
    fun jobId => Machine.weight_le_weightOf (opens_nonneg jobId) (List.mem_of_getElem? chosen)
  refine ⟨acts.tables, fun jobId => acts.unrepeated jobId (sound.unrepeated jobId), ?_, ?_, ?_⟩
  · intro other present
    obtain ⟨position, found⟩ := List.getElem?_of_mem present
    by_cases same : turn.member = position
    · subst same
      rw [List.getElem?_set_self (List.getElem?_eq_some_iff.mp chosen).1] at found
      cases found
      exact acts.sound
    · rw [List.getElem?_set_ne same] at found
      refine (sound.members other (List.mem_of_getElem? found)).grows acts.grows ?_
      intro data claims known
      refine acts.spares data.jobId known ?_
      have both := Machine.add_le_weightOf (opens_nonneg data.jobId) chosen found same
      have single := sound.single data.jobId
      have nonneg := opens_nonneg data.jobId member
      have queued := waiting_nonneg crew.state data.jobId
      rw [opens_eq_one claims] at both
      unfold openings at single
      omega
  · intro data present
    rcases acts.queue data present with old | new
    · obtain ⟨ofJob, covers⟩ := sound.queue data old
      have single := sound.single data.jobId
      have nonneg := opens_nonneg data.jobId member
      have queued := one_le_waiting old
      have mine := mine data.jobId
      unfold openings at single
      have spares := acts.spares data.jobId ofJob.known (by omega)
      exact ⟨ofJob.grows acts.grows, spares.covers ofJob covers⟩
    · exact new
  · intro jobId
    rw [openings_set chosen]
    have single := sound.single jobId
    have nonneg := opens_nonneg jobId member
    rcases acts.opened jobId with shrinks | ⟨grows, unknown | ⟨userId, count, data, rfl, extended⟩⟩
    · omega
    · have closed := openings_of_unknown sound unknown
      omega
    · have met := closed taken
      rw [chosen] at met
      dsimp only at met
      rw [extended] at met
      have empty := met.1
      omega

/-- A turn that extends closed searches only keeps a system sound. -/
theorem soundSystem_turn
    (sound : SoundSystem crew)
    (met : ExtendsClosed crew turn ∧ SearchStage.DistinctPeople turn.input) :
    SoundSystem ((machine app).step crew turn) := by
  obtain ⟨closed, people⟩ := met
  rcases Machine.step_cases (machine app) crew turn with
    ⟨-, same⟩ | ⟨member, chosen, ⟨taken, after⟩ | ⟨error, rejected, after⟩⟩
  · rw [same]
    exact sound
  · rw [after]
    have mine := sound.members member (List.mem_of_getElem? chosen)
    refine soundSystem_of_acts sound closed taken chosen ?_
    cases member with
    | worker current =>
        cases current with
        | none => exact acts_poll app turn.input sound.tables sound.queue
        | some run => exact acts_run app sound.tables sound.unrepeated mine people
    | request stage =>
        refine acts_request app sound.tables mine ?_
        rintro userId jobId count data rfl extended direct
        have met := closed taken
        rw [chosen] at met
        dsimp only at met
        rw [extended] at met
        exact (met.2 direct).le
    | other left => exact acts_other app sound.tables mine
  · rw [after]
    have mine := sound.members member (List.mem_of_getElem? chosen)
    obtain ⟨still, shrinks⟩ := sound_abort app mine error
    refine ⟨sound.tables, sound.unrepeated, fun other present => ?_, sound.queue, fun jobId => ?_⟩
    · rcases List.mem_or_eq_of_mem_set present with old | rfl
      · exact sound.members other old
      · exact still
    · rw [openings_set chosen]
      have single := sound.single jobId
      have less := shrinks jobId
      have same : (machine app).abort member error = abort app member error := rfl
      rw [same]
      omega

/-- The enriched results of a job that repeats nobody are of distinct people. -/
theorem enriched_nodup (unrepeated : world.Unrepeated jobId) :
    (((world.resultsOf jobId).filter fun row => row.status = .enriched).map
      (·.apolloPersonId)).Nodup := by
  unfold World.Unrepeated at unrepeated
  split at unrepeated
  · exact (List.filter_sublist.map _).nodup unrepeated
  · have short : ((world.resultsOf jobId).filter fun row => row.status = .enriched).length ≤ 1 := by
      unfold enrichedCount at unrepeated
      rw [← List.countP_eq_length_filter]
      omega
    generalize (world.resultsOf jobId).filter (fun row => row.status = .enriched) = rows at short ⊢
    cases rows with
    | nil => exact List.nodup_nil
    | cons row rest =>
        have alone : rest = [] := by
          rw [List.length_cons] at short
          exact List.length_eq_zero_iff.mp (by omega)
        rw [alone]
        exact List.nodup_singleton _

/-- Before anything has happened nobody has claimed a search. -/
theorem idle_crew
    {app : Deployment}
    {world : World}
    {workers : Nat}
    {requests : List SearchRequest}
    {others : List (Service Unit)}
    (aside : ∀ service ∈ others, service.Respects Aside) :
    ∀ member ∈ (LeadSystem.crew app world workers requests others).members,
      claim member = none ∧ SoundMember world member := by
  intro member present
  rcases List.mem_append.mp present with first | inOthers
  · rcases List.mem_append.mp first with inWorkers | inRequests
    · rw [List.eq_of_mem_replicate inWorkers]
      exact ⟨rfl, trivial⟩
    · obtain ⟨request, -, rfl⟩ := List.mem_map.mp inRequests
      have none : (RequestStage.start app request).snapshot = none := by
        cases request with
        | aiSearch userId dto =>
            rw [RequestStage.start]
            exact snapshot_planned _ _ _ _
        | getMoreLeads userId jobId count => rfl
        | cancelSearchJob userId jobId => rfl
      exact ⟨none, fun data snapshot => absurd (none.symm.trans snapshot) (by simp)⟩
  · obtain ⟨service, inList, rfl⟩ := List.mem_map.mp inOthers
    exact ⟨rfl, aside service inList⟩

/-- An empty database is sound, whoever is about to use it. -/
theorem soundSystem_start
    {app : Deployment}
    {world : World}
    (noJobs : world.leadSearchJobs = [])
    (noResults : world.leadSearchResults = [])
    (noQueue : world.apolloQueue = [])
    {workers : Nat}
    {requests : List SearchRequest}
    {others : List (Service Unit)}
    (aside : ∀ service ∈ others, service.Respects Aside) :
    SoundSystem (LeadSystem.crew app world workers requests others) := by
  have idle : ∀ member ∈ (LeadSystem.crew app world workers requests others).members,
      claim member = none ∧ SoundMember world member := idle_crew aside
  refine ⟨⟨?_, ?_, ?_, ?_⟩, ?_, fun member present => (idle member present).2, ?_, ?_⟩
  · show (world.leadSearchResults.map (·.id)).Nodup
    rw [noResults]
    exact List.nodup_nil
  · show ∀ row ∈ world.leadSearchResults, row.id < world.nextId
    rw [noResults]
    exact List.forall_mem_nil _
  · show ∀ job ∈ world.leadSearchJobs, job.id < world.nextId
    rw [noJobs]
    exact List.forall_mem_nil _
  · show ∀ row ∈ world.leadSearchResults, (world.findSearchJob row.jobId).isSome = true
    rw [noResults]
    exact List.forall_mem_nil _
  · intro jobId
    refine unrepeated_of_nil ?_
    show world.leadSearchResults.filter _ = []
    rw [noResults]
    rfl
  · show ∀ data ∈ world.apolloQueue, SoundSnapshot world data
    rw [noQueue]
    exact List.forall_mem_nil _
  · intro jobId
    have closed : Machine.weightOf (opens jobId)
        (LeadSystem.crew app world workers requests others).members = 0 := by
      refine Machine.weightOf_eq_zero fun member present => opens_eq_zero fun data claims => ?_
      exact absurd ((idle member present).1.symm.trans claims) (by simp)
    have empty : waiting world jobId = 0 := by
      unfold waiting
      rw [noQueue]
      rfl
    show _ + waiting world jobId ≤ 1
    rw [closed, empty]
    decide

/-- From an empty database, where Apollo's search responses name nobody twice and every
search is extended only while it is closed, a direct match moreover only before it is
enriched, no two enriched results of a job are of the same person. -/
theorem enriched_people_distinct
    (app : Deployment)
    (world : World)
    (noJobs : world.leadSearchJobs = [])
    (noResults : world.leadSearchResults = [])
    (noQueue : world.apolloQueue = [])
    (workers : Nat)
    (requests : List SearchRequest)
    (others : List (Service Unit))
    (aside : ∀ service ∈ others, service.Respects Aside)
    (schedule : List (CrewTurn Input ApiError))
    (met : Along (machine app).step
      (fun crew turn => ExtendsClosed crew turn ∧ SearchStage.DistinctPeople turn.input)
      (LeadSystem.crew app world workers requests others) schedule)
    (jobId : Nat) :
    (((((machine app).run (LeadSystem.crew app world workers requests others)
      schedule).state.resultsOf jobId).filter fun row =>
        row.status = .enriched).map (·.apolloPersonId)).Nodup := by
  have starts : SoundSystem (LeadSystem.crew app world workers requests others) :=
    soundSystem_start noJobs noResults noQueue aside
  have kept : ∀ crew turn, SoundSystem crew →
      ExtendsClosed crew turn ∧ SearchStage.DistinctPeople turn.input →
      SoundSystem ((machine app).step crew turn) := fun _ _ => soundSystem_turn
  exact enriched_nodup ((Along.preserves kept starts met).unrepeated jobId)

/-- A user with nine credits, who has bought a credit pack. -/
def payingAccounts : World :=
  { users := [{ id := 0, email := "user@example.com", passwordHash := "", leadFinderCredits := 9 }]
    creditGrants :=
      [{ id := 0
         userId := 0
         credits := 9
         source := .creditPackPurchase
         amountPaidCents := none
         stripeReference := none
         createdAt := 0 }]
    nextId := 1 }

/-- A search, its extension when it is completed, and a run of each. -/
def extendedTurns : List (CrewTurn Input ApiError) :=
  turnsOf 1 9 ++ turnsOf 0 18 ++ turnsOf 2 9 ++ turnsOf 0 5

set_option maxRecDepth 20000 in
/-- A completed search that is extended finds nobody new. -/
theorem enriched_people_distinct_extended :
    (((((machine {}).run (LeadSystem.crew {} payingAccounts 1
        [.aiSearch 0 {}, .getMoreLeads 0 1 none] []) extendedTurns).state.resultsOf 1).filter
          fun row => row.status = .enriched).map (·.apolloPersonId)).Nodup :=
  enriched_people_distinct {} payingAccounts rfl rfl rfl 1
    [.aiSearch 0 {}, .getMoreLeads 0 1 none] [] (List.forall_mem_nil _) extendedTurns
    (by decide) 1

/-- The people whose results of the first job are enriched. -/
def enrichedPeople (crew : Crew LeadMember World) : List String :=
  ((crew.state.resultsOf 1).filter fun row => row.status = .enriched).map (·.apolloPersonId)

set_option maxRecDepth 20000 in
/-- A completed direct match that is extended is enriched again, at the price of a
second credit; and so are the people of a search that is cancelled, and extended, before
its run has asked Apollo for them. -/
theorem extended_searches_repeat :
    enrichedPeople
          ((machine {}).run (LeadSystem.crew {} payingAccounts 1
              [.aiSearch 0 { personName := some "Ada" }, .getMoreLeads 0 1 none] [])
            (turnsOf 1 9 ++ turnsOf 0 9 ++ turnsOf 2 9 ++ turnsOf 0 9)) =
        ["name:Ada", "name:Ada"] ∧
      ((machine {}).run (LeadSystem.crew {} payingAccounts 1
          [.aiSearch 0 { personName := some "Ada" }, .getMoreLeads 0 1 none] [])
        (turnsOf 1 9 ++ turnsOf 0 9 ++ turnsOf 2 9 ++ turnsOf 0 9)).state.creditsOf 0 = 7 ∧
      enrichedPeople
          ((machine {}).run (LeadSystem.crew {} payingAccounts 1
              [.aiSearch 0 {}, .cancelSearchJob 0 1, .getMoreLeads 0 1 none] [])
            (turnsOf 1 9 ++ turnsOf 0 1 ++ turnsOf 2 2 ++ turnsOf 3 9 ++ turnsOf 0 36)) =
        ["q", "p", "q", "p"] ∧
      SearchStage.DistinctPeople LeadFinder.sampleInput := by
  decide

end LeadSystem
end ConferenceContact
