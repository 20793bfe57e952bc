import ConferenceContact.Leads.Failures
import ConferenceContact.Leads.LeadSystem

/-!
# Who is responsible for a running job

A job in the status `RUNNING` waits in the queue, or a worker that is running it
has still to write its status, or a request that has just written `RUNNING` is
about to add it to the queue.  This is kept by every call but two: a rejected
`apolloQueue.add`, and a rejected write of `FAILED`.
-/

namespace ConferenceContact

open Process

/-- The row of a job says that it is running. -/
def World.isRunning (world : World) (jobId : Nat) : Bool :=
  (world.findSearchJob jobId).any fun job => job.status = .running

/-- A queue job of a job waits. -/
def World.waits (world : World) (jobId : Nat) : Bool :=
  world.apolloQueue.any fun data => data.jobId = jobId

section

variable {world : World} {id other : Nat} {status : LeadSearchJobStatus}

theorem isRunning_of_jobs
    {after : World}
    (jobs : after.leadSearchJobs = world.leadSearchJobs) :
    after.isRunning id = world.isRunning id := by
  unfold World.isRunning World.findSearchJob
  rw [jobs]

theorem isRunning_setJobStatus :
    (world.setJobStatus id status).isRunning other =
      if id = other then (world.findSearchJob other).isSome && decide (status = .running)
      else world.isRunning other := by
  unfold World.isRunning
  rw [findSearchJob_setJobStatus]
  cases found : world.findSearchJob other with
  | none => simp
  | some job =>
      have owner : job.id = other := by
        unfold World.findSearchJob at found
        simpa using List.find?_some found
      by_cases same : id = other
      · simp [owner, same]
      · have different : ¬other = id := fun equal => same equal.symm
        simp [owner, same, different]

end

namespace SearchStage

/-- The run has still to write the status of its job. -/
def responsible : SearchStage → Bool
  | skipCancelled => false
  | audit => false
  | finished _ => false
  | _ => true

variable {data : ApolloSearchJobData} {stage : SearchStage} {input : Input} {world : World}

theorem responsible_start (data : ApolloSearchJobData) : (start data).responsible = true := by
  unfold start
  split <;> rfl

theorem responsible_loop (rows : List LeadSearchResult) : (loop rows).responsible = true := by
  cases rows <;> rfl

theorem responsible_afterCreate
    (rest : List ApolloCandidate)
    (made : Except ApiError (List LeadSearchResult)) :
    (afterCreate rest made).responsible = true := by
  cases rest with
  | cons candidate rest => rfl
  | nil =>
      cases made with
      | error error => rfl
      | ok rows => exact responsible_loop rows

/-- A run gives up its responsibility where its job is not running any more. -/
theorem responsible_next
    (responsible : stage.responsible = true)
    (running : (write data stage world).isRunning data.jobId = true) :
    (next data stage input world).responsible = true := by
  cases stage with
  | search =>
      rw [next]
      cases input.apolloSearch with
      | none => rfl
      | some people =>
          dsimp only
          cases ApolloSearchProcessor.candidates data (people.map ApolloService.candidate) <;> rfl
  | create candidate rest made => exact responsible_afterCreate _ _
  | check result rest =>
      rw [next]
      split
      · rename_i cancelled
        have found : (world.findSearchJob data.jobId).any (fun job => job.status = .running) =
          true := running
        rw [Option.any_eq_true] at cancelled found
        obtain ⟨job, same, status⟩ := cancelled
        obtain ⟨_, current, runs⟩ := found
        cases same.symm.trans current
        rw [decide_eq_true_eq] at status runs
        rw [status] at runs
        cases runs
      · rfl
  | readAccess target =>
      rw [next]
      split <;> rfl
  | takeCredit target =>
      rw [next]
      split
      · rfl
      · cases target <;> rfl
  | skipUnreserved => rfl
  | enrich target charged =>
      rw [next]
      cases ApolloService.outcome input.apolloMatch with
      | error error => rfl
      | ok outcome =>
          cases outcome with
          | none => rfl
          | some person =>
              dsimp only
              cases person.columns with
              | error error => rfl
              | ok columns => cases target <;> rfl
  | store result rest columns =>
      rw [next]
      split
      · exact responsible_loop _
      · rfl
  | readAccessToRefund target charged =>
      rw [next]
      split
      · cases target <;> rfl
      · rfl
  | refund target charged =>
      rw [next]
      split
      · cases target <;> rfl
      · rfl
  | markFailed result rest =>
      rw [next]
      split
      · exact responsible_loop _
      · rfl
  | createDirect personName matched =>
      rw [next]
      split <;> rfl
  | complete audited =>
      rw [write, isRunning_setJobStatus, if_pos rfl, Bool.and_eq_true] at running
      exact absurd running.2 (by decide)
  | fail =>
      rw [write, isRunning_setJobStatus, if_pos rfl, Bool.and_eq_true] at running
      exact absurd running.2 (by decide)
  | skipCancelled => cases responsible
  | audit => cases responsible
  | finished outcome => cases responsible

/-- A rejected call leaves the run responsible, unless it is the write of `FAILED`. -/
theorem responsible_abort
    (responsible : stage.responsible = true)
    (handled : stage ≠ fail)
    (error : ApiError) :
    (abort stage error).responsible = true := by
  cases stage with
  | create candidate rest made => exact responsible_afterCreate _ _
  | fail => exact absurd rfl handled
  | finished outcome => cases responsible
  | _ => rfl

/-- A run sets no job to `RUNNING`. -/
theorem isRunning_write {jobId : Nat} (running : (write data stage world).isRunning jobId = true) :
    world.isRunning jobId = true := by
  have kept : (write data stage world).leadSearchJobs = world.leadSearchJobs →
      world.isRunning jobId = true := fun jobs => isRunning_of_jobs jobs ▸ running
  have stops : ∀ status, status ≠ LeadSearchJobStatus.running →
      (world.setJobStatus data.jobId status).isRunning jobId = true →
      world.isRunning jobId = true := by
    intro status terminal runs
    rw [isRunning_setJobStatus] at runs
    split at runs
    · rw [decide_eq_false terminal, Bool.and_false] at runs
      cases runs
    · exact runs
  cases stage with
  | complete audited => exact stops .completed nofun running
  | fail => exact stops .failed nofun running
  | create candidate rest made => exact kept (insertResult_leadSearchJobs _ _)
  | createDirect personName matched => exact kept (insertResult_leadSearchJobs _ _)
  | _ => exact kept rfl

end SearchStage

namespace RequestStage

variable {app : Deployment} {stage : RequestStage} {input : Input} {world : World} {jobId : Nat}

/-- The request is about to add a queue job of a job. -/
def enqueues (stage : RequestStage) (jobId : Nat) : Bool :=
  match stage with
  | enqueue data => data.jobId = jobId
  | _ => false

theorem findSearchJob_cons
    {job : LeadSearchJob}
    {after : World}
    (jobs : after.leadSearchJobs = job :: world.leadSearchJobs) :
    after.findSearchJob jobId = if job.id = jobId then some job else world.findSearchJob jobId := by
  unfold World.findSearchJob
  rw [jobs, List.find?_cons]
  by_cases same : job.id = jobId <;> simp [same]

/-- A request that sets a job to `RUNNING` is about to add a queue job. -/
theorem isRunning_write
    (app : Deployment)
    (running : (write stage input world).isRunning jobId = true) :
    world.isRunning jobId = true ∨ (next app stage input world).enqueues jobId = true := by
  cases stage with
  | createJob userId filters cap =>
      rw [write] at running
      rw [next]
      by_cases known : world.hasUser userId = true
      · rw [if_pos known] at running ⊢
        by_cases newest : world.nextId = jobId
        · exact .inr (decide_eq_true newest)
        · refine .inl ?_
          unfold World.isRunning at running ⊢
          rw [findSearchJob_cons rfl] at running
          dsimp only at running
          rwa [if_neg newest] at running
      · rw [if_neg known] at running
        exact .inl running
  | restart data =>
      rw [write, isRunning_setJobStatus] at running
      rw [next]
      by_cases same : data.jobId = jobId
      · rw [if_pos same, Bool.and_eq_true] at running
        rw [same, if_pos running.1]
        exact .inr (decide_eq_true same)
      · rw [if_neg same] at running
        exact .inl running
  | cancel other =>
      rw [write, isRunning_setJobStatus] at running
      split at running
      · rw [Bool.and_eq_true] at running
        exact absurd running.2 (by decide)
      · exact .inl running
  | _ => exact .inl running

/-- The queue after a call of a request. -/
theorem apolloQueue_write :
    (write stage input world).apolloQueue =
      match stage with
      | enqueue data => world.apolloQueue ++ [data]
      | _ => world.apolloQueue := by
  cases stage with
  | createJob userId filters cap =>
      rw [write]
      split <;> rfl
  | _ => rfl

/-- The request has made its change. -/
def committed : RequestStage → Bool
  | enqueue _ => true
  | finished (.ok _) => true
  | _ => false

/-- A request that changes the world has made its change. -/
theorem committed_next
    (app : Deployment)
    (stage : RequestStage)
    (input : Input)
    (world : World) :
    write stage input world = world ∨ (next app stage input world).committed = true := by
  cases stage with
  | createJob userId filters cap =>
      rw [write, next]
      split
      · exact .inr rfl
      · exact .inl rfl
  | restart data =>
      rw [next]
      cases found : world.findSearchJob data.jobId with
      | some job => exact .inr rfl
      | none => exact .inl (SearchStage.setJobStatus_of_not_found found _)
  | enqueue data => exact .inr rfl
  | cancel jobId =>
      rw [next]
      cases found : world.findSearchJob jobId with
      | some job => exact .inr rfl
      | none => exact .inl (SearchStage.setJobStatus_of_not_found found _)
  | _ => exact .inl rfl

/-- A request that has made its change does not fail any more. -/
theorem committed_kept (committed : stage.committed = true) :
    (next app stage input world).committed = true := by
  cases stage with
  | enqueue data => rfl
  | finished outcome => exact committed
  | _ => cases committed

end RequestStage

/-! ## The members of a system -/

namespace LeadSystem

/-- The member has still to write the status of a job, or to add it to the queue. -/
def tends (member : LeadMember) (jobId : Nat) : Bool :=
  match member with
  | .worker none => false
  | .worker (some run) => run.data.jobId = jobId && run.stage.responsible
  | .request stage => stage.enqueues jobId
  | .other _ => false

/-- Code that is not modelled as a worker or a request keeps its hands off. -/
def KeepsAside : LeadMember → Prop
  | .other left => left.Respects Aside
  | _ => True

variable {app : Deployment} {member : LeadMember} {input : Input} {world : World} {jobId : Nat}

theorem tends_poll (waits : world.waits jobId = true) :
    (poll world).waits jobId = true ∨
      tends (next app (.worker none) input world) jobId = true := by
  unfold World.waits at waits
  unfold World.waits poll
  cases queue : world.apolloQueue with
  | nil =>
      rw [queue] at waits
      cases waits
  | cons data later =>
      rw [queue, List.any_cons, Bool.or_eq_true] at waits
      rcases waits with first | waits
      · refine .inr ?_
        rw [next, queue]
        exact Bool.and_eq_true_iff.mpr ⟨first, SearchStage.responsible_start data⟩
      · exact .inl waits

theorem waits_of_queue
    {after : World}
    (queue : after.apolloQueue = world.apolloQueue) :
    after.waits jobId = world.waits jobId := by
  unfold World.waits
  rw [queue]

/-- A job that is running after a call waits, or is tended by the member that made
it; or it was running before, and neither waited nor was tended by that member. -/
theorem tended_step
    (app : Deployment)
    (aside : KeepsAside member)
    (running : (effect app member input world).isRunning jobId = true) :
    (effect app member input world).waits jobId = true ∨
      tends (next app member input world) jobId = true ∨
      world.isRunning jobId = true ∧ world.waits jobId = false ∧ tends member jobId = false := by
  cases waiting : world.waits jobId with
  | true =>
      -- The queue only loses what a worker takes.
      cases member with
      | worker current =>
          cases current with
          | none => exact (tends_poll waiting).imp_right .inl
          | some run =>
              have queue : (SearchRun.machine.effect run input world).apolloQueue =
                  world.apolloQueue := by
                show (SearchStage.effect run.data run.stage input world).apolloQueue = _
                rw [SearchStage.effect_eq, SearchStage.apolloQueue_write]
              exact .inl ((waits_of_queue queue).trans waiting)
      | request stage =>
          refine .inl ?_
          show (stage.write input world).waits jobId = true
          unfold World.waits at waiting ⊢
          rw [RequestStage.apolloQueue_write]
          split
          · rw [List.any_append, waiting]
            rfl
          · exact waiting
      | other left => exact .inl ((waits_of_queue (aside.effect input world).queue).trans waiting)
  | false =>
      cases member with
      | worker current =>
          cases current with
          | none => exact .inr (.inr ⟨running, rfl, rfl⟩)
          | some run =>
              have written : (run.stage.write run.data world).isRunning jobId = true := by
                rw [← SearchStage.effect_eq run.data run.stage input]
                exact running
              cases tending : tends (.worker (some run)) jobId with
              | false => exact .inr (.inr ⟨SearchStage.isRunning_write written, rfl, rfl⟩)
              | true =>
                  rw [tends, Bool.and_eq_true, decide_eq_true_eq] at tending
                  obtain ⟨rfl, responsible⟩ := tending
                  have going : ¬run.stage.isOver = true := by
                    intro finished
                    cases stage : run.stage with
                    | finished outcome =>
                        rw [stage] at responsible
                        cases responsible
                    | _ =>
                        rw [stage] at finished
                        cases finished
                  refine .inr (.inl ?_)
                  rw [next, if_neg going]
                  exact Bool.and_eq_true_iff.mpr ⟨decide_eq_true rfl,
                    SearchStage.responsible_next responsible written⟩
      | request stage =>
          rcases RequestStage.isRunning_write app running with before | enqueues
          · cases tending : stage.enqueues jobId with
            | false => exact .inr (.inr ⟨before, rfl, tending⟩)
            | true =>
                refine .inl ?_
                cases stage with
                | enqueue data =>
                    refine List.any_eq_true.mpr ⟨data, ?_, tending⟩
                    exact List.mem_append_right _ List.mem_cons_self
                | _ => cases tending
          · exact .inr (.inl enqueues)
      | other left =>
          have jobs := (aside.effect input world).jobs
          exact .inr (.inr ⟨(isRunning_of_jobs jobs).symm.trans running, rfl, rfl⟩)

/-! ## Systems in which no write is lost -/

/-- The call of a turn is neither an `apolloQueue.add` that is rejected nor a rejected
write of `FAILED`. -/
def Delivers (crew : Crew LeadMember World) (turn : CrewTurn Input ApiError) : Prop :=
  turn.rejected.isSome = true →
    match crew.members[turn.member]? with
    | some (.request (.enqueue _)) => False
    | some (.worker (some run)) => run.stage ≠ .fail
    | _ => True

instance (crew : Crew LeadMember World) (turn : CrewTurn Input ApiError) :
    Decidable (Delivers crew turn) := by
  unfold Delivers
  split <;> infer_instance

/-- A running job waits in the queue, or a member has still to write its status or to
add it to the queue. -/
def Tended (crew : Crew LeadMember World) : Prop :=
  ∀ jobId, crew.state.isRunning jobId = true →
    crew.state.waits jobId = true ∨ ∃ member ∈ crew.members, tends member jobId = true

theorem keepsAside_next (aside : KeepsAside member) :
    KeepsAside (next app member input world) := by
  cases member with
  | worker current =>
      cases current with
      | none => trivial
      | some run =>
          rw [next]
          split <;> trivial
  | request stage => trivial
  | other left => exact aside.residual input world

theorem keepsAside_abort (aside : KeepsAside member) (error : ApiError) :
    KeepsAside (abort app member error) := by
  cases member with
  | worker current => cases current <;> trivial
  | request stage => trivial
  | other left => exact aside.rejected error

/-- A rejected call leaves its member tending what it tended. -/
theorem tends_abort
    {crew : Crew LeadMember World}
    {turn : CrewTurn Input ApiError}
    {error : ApiError}
    (chosen : crew.members[turn.member]? = some member)
    (rejected : turn.rejected = some error)
    (delivers : Delivers crew turn)
    (tending : tends member jobId = true) :
    tends (abort app member error) jobId = true := by
  have kept := delivers (by rw [rejected]; rfl)
  rw [chosen] at kept
  cases member with
  | worker current =>
      cases current with
      | none => cases tending
      | some run =>
          rw [tends, Bool.and_eq_true] at tending
          exact Bool.and_eq_true_iff.mpr
            ⟨tending.1, SearchStage.responsible_abort tending.2 kept error⟩
  | request stage =>
      cases stage with
      | enqueue data => exact absurd kept id
      | _ => cases tending
  | other left => cases tending

/-- A turn that loses no write leaves every running job tended. -/
theorem tended_turn
    {crew : Crew LeadMember World}
    {turn : CrewTurn Input ApiError}
    (holds : Tended crew ∧ ∀ member ∈ crew.members, KeepsAside member)
    (delivers : Delivers crew turn) :
    Tended ((machine app).step crew turn) ∧
      ∀ member ∈ ((machine app).step crew turn).members, KeepsAside member := by
  obtain ⟨tended, aside⟩ := holds
  rcases Machine.step_cases (machine app) crew turn with
    ⟨-, same⟩ | ⟨member, chosen, ⟨-, after⟩ | ⟨error, rejected, after⟩⟩
  · rw [same]
    exact ⟨tended, aside⟩
  · have mine := aside member (List.mem_of_getElem? chosen)
    have present : turn.member < crew.members.length := (List.getElem?_eq_some_iff.mp chosen).1
    rw [after]
    refine ⟨fun jobId running => ?_, fun other inMembers => ?_⟩
    · rcases tended_step app mine running with waits | tends | ⟨before, idle, untended⟩
      · exact .inl waits
      · exact .inr ⟨_, List.mem_set present _, tends⟩
      · rcases tended jobId before with waits | ⟨other, inMembers, tending⟩
        · rw [idle] at waits
          cases waits
        · refine .inr ⟨other, ?_, tending⟩
          obtain ⟨position, found⟩ := List.getElem?_of_mem inMembers
          have apart : turn.member ≠ position := by
            rintro rfl
            cases chosen.symm.trans found
            rw [untended] at tending
            cases tending
          exact List.mem_of_getElem? ((List.getElem?_set_ne apart).trans found)
    · rcases List.mem_or_eq_of_mem_set inMembers with old | rfl
      · exact aside other old
      · exact keepsAside_next mine
  · have mine := aside member (List.mem_of_getElem? chosen)
    have present : turn.member < crew.members.length := (List.getElem?_eq_some_iff.mp chosen).1
    rw [after]
    refine ⟨fun jobId running => ?_, fun other inMembers => ?_⟩
    · refine (tended jobId running).imp_right ?_
      rintro ⟨other, inMembers, tending⟩
      obtain ⟨position, found⟩ := List.getElem?_of_mem inMembers
      by_cases same : turn.member = position
      · subst same
        cases chosen.symm.trans found
        exact ⟨_, List.mem_set present _, tends_abort chosen rejected delivers tending⟩
      · exact ⟨other, List.mem_of_getElem? ((List.getElem?_set_ne same).trans found), tending⟩
    · rcases List.mem_or_eq_of_mem_set inMembers with old | rfl
      · exact aside other old
      · exact keepsAside_abort mine error

/-! ## Requests that fail -/

/-- The request at a position has not made its change. -/
def Uncommitted (position : Nat) (crew : Crew LeadMember World) : Prop :=
  ∃ stage, crew.members[position]? = some (.request stage) ∧ stage.committed = false

/-- A turn after which a request has not made its change has not made it either. -/
theorem uncommitted_turn
    {crew : Crew LeadMember World}
    {turn : CrewTurn Input ApiError}
    {position : Nat}
    (delivers : Delivers crew turn)
    (uncommitted : Uncommitted position ((machine app).step crew turn)) :
    Uncommitted position crew ∧
      (turn.member = position → ((machine app).step crew turn).state = crew.state) := by
  obtain ⟨later, found, idle⟩ := uncommitted
  rcases Machine.step_cases (machine app) crew turn with
    ⟨-, same⟩ | ⟨member, chosen, ⟨-, after⟩ | ⟨error, rejected, after⟩⟩
  · rw [same] at found ⊢
    exact ⟨⟨later, found, idle⟩, fun _ => rfl⟩
  · rw [after] at found ⊢
    by_cases mine : turn.member = position
    · subst mine
      rw [List.getElem?_set_self (List.getElem?_eq_some_iff.mp chosen).1] at found
      cases member with
      | worker current =>
          cases current with
          | none => cases found
          | some run =>
              have leads : next app (.worker (some run)) turn.input crew.state =
                .request later := Option.some.inj found
              rw [next] at leads
              split at leads <;> cases leads
      | request stage =>
          have leads : stage.next app turn.input crew.state = later :=
            LeadMember.request.inj (Option.some.inj found)
          subst leads
          refine ⟨⟨stage, chosen, ?_⟩, fun _ => ?_⟩
          · cases committed : stage.committed with
            | false => rfl
            | true =>
                rw [RequestStage.committed_kept committed] at idle
                cases idle
          · rcases RequestStage.committed_next app stage turn.input crew.state with
              unchanged | committed
            · exact unchanged
            · rw [committed] at idle
              cases idle
      | other left => cases found
    · rw [List.getElem?_set_ne mine] at found
      exact ⟨⟨later, found, idle⟩, fun same => absurd same mine⟩
  · rw [after] at found ⊢
    refine ⟨?_, fun _ => rfl⟩
    by_cases mine : turn.member = position
    · subst mine
      rw [List.getElem?_set_self (List.getElem?_eq_some_iff.mp chosen).1] at found
      have kept := delivers (by rw [rejected]; rfl)
      rw [chosen] at kept
      cases member with
      | worker current => cases current <;> cases found
      | request stage =>
          have leads : stage.abort error = later :=
            LeadMember.request.inj (Option.some.inj found)
          subst leads
          refine ⟨stage, chosen, ?_⟩
          cases stage with
          | enqueue data => exact absurd kept id
          | finished outcome => exact idle
          | _ => rfl
      | other left => cases found
    · rw [List.getElem?_set_ne mine] at found
      exact ⟨later, found, idle⟩

/-- A request that ends with an error has changed nothing in any of its turns. -/
theorem failed_request_unchanged
    {crew : Crew LeadMember World}
    {schedule : List (CrewTurn Input ApiError)}
    {position : Nat}
    {error : ApiError}
    (delivers : Along (machine app).step Delivers crew schedule)
    (failed : ((machine app).run crew schedule).members[position]? =
      some (.request (.finished (.error error)))) :
    Uncommitted position crew ∧
      Along (machine app).step (fun crew turn => turn.member = position →
        ((machine app).step crew turn).state = crew.state) crew schedule := by
  induction schedule generalizing crew with
  | nil => exact ⟨⟨_, failed, rfl⟩, trivial⟩
  | cons turn schedule inductionHypothesis =>
      obtain ⟨first, later⟩ := delivers
      obtain ⟨uncommitted, unchanged⟩ := inductionHypothesis later failed
      obtain ⟨before, still⟩ := uncommitted_turn first uncommitted
      exact ⟨before, still, unchanged⟩

/-- Where no `apolloQueue.add` and no write of `FAILED` is rejected, every running job
waits in the queue or is run by a worker that has still to write its status, but
between the write of `RUNNING` and the `apolloQueue.add` of one request; and a
request that fails leaves everything as it was. -/
theorem running_jobs_tended
    (app : Deployment)
    (world : World)
    (workers : Nat)
    (requests : List SearchRequest)
    (others : List (Service Unit))
    (aside : ∀ service ∈ others, service.Respects Aside)
    (queued : ∀ jobId, world.isRunning jobId = true → world.waits jobId = true)
    (schedule : List (CrewTurn Input ApiError))
    (delivers : Along (machine app).step Delivers (crew app world workers requests others)
      schedule) :
    (∀ jobId,
      ((machine app).run (crew app world workers requests others) schedule).state.isRunning
          jobId = true →
      (∀ stage, .request stage ∈
          ((machine app).run (crew app world workers requests others) schedule).members →
        stage.enqueues jobId = false) →
      ((machine app).run (crew app world workers requests others) schedule).state.waits
          jobId = true ∨
        ∃ run, .worker (some run) ∈
            ((machine app).run (crew app world workers requests others) schedule).members ∧
          run.data.jobId = jobId ∧ run.stage.responsible = true) ∧
    ∀ position error,
      ((machine app).run (crew app world workers requests others) schedule).members[position]? =
          some (.request (.finished (.error error))) →
        Along (machine app).step (fun crew turn => turn.member = position →
            ((machine app).step crew turn).state = crew.state)
          (crew app world workers requests others) schedule := by
  refine ⟨fun jobId running between => ?_, fun position error failed =>
    (failed_request_unchanged delivers failed).2⟩
  have starts : Tended (crew app world workers requests others) ∧
      ∀ member ∈ (crew app world workers requests others).members, KeepsAside member := by
    refine ⟨fun jobId running => .inl (queued jobId running), fun member present => ?_⟩
    rcases List.mem_append.mp present with first | inOthers
    · rcases List.mem_append.mp first with idle | inRequests
      · rw [List.eq_of_mem_replicate idle]
        trivial
      · obtain ⟨request, -, rfl⟩ := List.mem_map.mp inRequests
        trivial
    · obtain ⟨service, inList, rfl⟩ := List.mem_map.mp inOthers
      exact aside service inList
  have kept : ∀ crew turn, (Tended crew ∧ ∀ member ∈ crew.members, KeepsAside member) →
      Delivers crew turn → Tended ((machine app).step crew turn) ∧
        ∀ member ∈ ((machine app).step crew turn).members, KeepsAside member :=
    fun _ _ => tended_turn
  rcases (Along.preserves kept starts delivers).1 jobId running with
    waits | ⟨member, present, tending⟩
  · exact .inl waits
  · refine .inr ?_
    cases member with
    | worker current =>
        cases current with
        | none => cases tending
        | some run =>
            rw [tends, Bool.and_eq_true, decide_eq_true_eq] at tending
            exact ⟨run, present, tending⟩
    | request stage =>
        have idle := between stage present
        rw [tends, idle] at tending
        cases tending
    | other left => cases tending

/-- An account with one credit, and no search. -/
def sampleAccounts : World :=
  { LeadFinder.sampleWorld with leadSearchJobs := [], nextId := 1 }

/-- A user with unlimited access and a search of theirs that is completed. -/
def finishedSearch : World :=
  { users :=
      [{ id := 0
         email := "user@example.com"
         passwordHash := ""
         leadFinderCredits := 1
         adminGrantedLeadFinderAccess := true }]
    leadSearchJobs :=
      [{ id := 1, userId := 0, filters := some {}, status := .completed, createdAt := 0 }]
    nextId := 2 }

/-- Turns of one member. -/
def turnsOf (member count : Nat) : List (CrewTurn Input ApiError) :=
  List.replicate count { member, input := LeadFinder.sampleInput }

/-- A worker, a request for a search, and a change of a comp flag. -/
def searching : Crew LeadMember World :=
  crew .defaults sampleAccounts 1 [.aiSearch 0 {}] [AdminService.setLeadFinderAccess 0 0 true]

/-- The search is queued and taken by the worker. -/
def searchingTurns : List (CrewTurn Input ApiError) :=
  turnsOf 1 9 ++ turnsOf 2 1 ++ turnsOf 0 4

/-- A search that a worker runs, beside a change of a comp flag. -/
theorem running_jobs_tended_search :
    (∀ jobId, ((machine {}).run searching searchingTurns).state.isRunning jobId = true →
      (∀ stage, .request stage ∈ ((machine {}).run searching searchingTurns).members →
        stage.enqueues jobId = false) →
      ((machine {}).run searching searchingTurns).state.waits jobId = true ∨
        ∃ run, .worker (some run) ∈ ((machine {}).run searching searchingTurns).members ∧
          run.data.jobId = jobId ∧ run.stage.responsible = true) ∧
    ∀ position error,
      ((machine {}).run searching searchingTurns).members[position]? =
          some (.request (.finished (.error error))) →
        Along (machine {}).step (fun crew turn => turn.member = position →
          ((machine {}).step crew turn).state = crew.state) searching searchingTurns :=
  running_jobs_tended {} sampleAccounts 1 [.aiSearch 0 {}]
    [AdminService.setLeadFinderAccess 0 0 true]
    (List.forall_mem_singleton.mpr (aside_setLeadFinderAccess 0 0 true))
    (fun _ running => absurd running Bool.false_ne_true) searchingTurns (by decide)

/-- Turns of a request, the last one of which is rejected. -/
def rejectedAfter (count : Nat) : List (CrewTurn Input ApiError) :=
  turnsOf 1 count ++
    [{ member := 1, input := LeadFinder.sampleInput, rejected := some .database }]

/-- A new search whose `apolloQueue.add` is rejected. -/
def unqueuedSearch : Crew LeadMember World :=
  (machine .defaults).run (crew .defaults sampleAccounts 1 [.aiSearch 0 {}] []) (rejectedAfter 8)

/-- A completed search that was to be extended, and whose `apolloQueue.add` is
rejected. -/
def unqueuedExtension : Crew LeadMember World :=
  (machine .defaults).run (crew .defaults finishedSearch 1 [.getMoreLeads 0 1 none] [])
    (rejectedAfter 5)

/-- A rejected `apolloQueue.add` fails the request and leaves its job running with
nothing queued and nobody to run it, also a job that was completed before. -/
theorem rejected_add_leaves_running :
    unqueuedSearch.members = [.worker none, .request (.finished (.error .database))] ∧
      unqueuedSearch.state.isRunning 1 = true ∧
      unqueuedSearch.state.apolloQueue = [] ∧
      unqueuedExtension.members = [.worker none, .request (.finished (.error .database))] ∧
      finishedSearch.isRunning 1 = false ∧
      unqueuedExtension.state.isRunning 1 = true ∧
      unqueuedExtension.state.apolloQueue = [] :=
  ⟨rfl, by decide, by decide, rfl, by decide, by decide, by decide⟩

end LeadSystem
end ConferenceContact
