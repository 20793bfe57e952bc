import ConferenceContact.Leads.Requests

/-!
# The control points of the requests for a search

The requests that start, extend and cancel a search, cut at their awaited calls
as the runs of the worker are.  Their checks only read, so they are kept as code
whose result is the number of candidates to enrich.
-/

namespace ConferenceContact

open Process LeadSearchTables

/-- The requests for a search. -/
inductive SearchRequest
  | aiSearch (userId : UserId) (dto : AiSearchDto)
  | getMoreLeads (userId : UserId) (jobId : Nat) (count : Option Nat)
  | cancelSearchJob (userId : UserId) (jobId : Nat)

/-- The method behind a request. -/
def SearchRequest.handle (app : Deployment) : SearchRequest → Service Unit
  | aiSearch userId dto => LeadRequest.handle app (.aiSearch userId dto)
  | getMoreLeads userId jobId count => LeadRequest.handle app (.getMoreLeads userId jobId count)
  | cancelSearchJob userId jobId => LeadRequest.handle app (.cancelSearchJob userId jobId)

namespace ReadOnly

variable {service : Service α}

theorem residual (readOnly : ReadOnly service) (input : Input) (world : World) :
    ReadOnly (service.residual input world) :=
  Respects.residual readOnly input world

theorem rejected (readOnly : ReadOnly service) (error : ApiError) :
    ReadOnly (service.rejected error) :=
  Respects.rejected readOnly error

theorem effect_eq (readOnly : ReadOnly service) (input : Input) (world : World) :
    service.effect input world = world :=
  Respects.effect readOnly input world

end ReadOnly

/-- A check that only reads the world, and the checks after it. -/
structure Checks where
  service : Service Nat
  readOnly : ReadOnly service
  left : service.finished = false

namespace LeadsService

/-- What the first read of `getMoreLeads` decides: the search may not be extended, or
the queue job, but for its number of candidates. -/
def extensible
    (world : World)
    (userId : UserId)
    (jobId : Nat) : Except ApiError ApolloSearchJobData :=
  match world.findSearchJob jobId with
  | none => .error (.notFound "Search not found")
  | some job =>
      if job.userId ≠ userId then .error (.notFound "Search not found")
      else if job.status = .running then .error (.forbidden "This search is still running.")
      else
        match job.filters with
        | none =>
            .error (.forbidden
              "This search predates structured filters and cannot be extended — start a new search.")
        | some filters =>
            .ok
              { jobId
                userId
                filters
                cap := 0
                excludeApolloPersonIds :=
                  some ((world.resultsOf jobId).map (·.apolloPersonId)) }

/-- The checks of `getMoreLeads` after its first read. -/
def extensionCap (app : Deployment) (userId : UserId) (count : Option Nat) : Service Nat := do
  let hasPaidAccess ← hasPaidLeadFinderAccess app userId
  if !hasPaidAccess then
    throw (.forbidden
      "Buy a credit pack or upgrade to a paid plan to get more leads per search — the free plan is capped at 3 results per search.")
  let credits ← creditsOrThrow userId
  let hasUnlimited ← hasUnlimitedLeadFinderAccess userId
  if !hasUnlimited && credits ≤ 0 then
    throw outOfCredits
  let requested := count.getD app.leadSearchMaxResults
  return if hasUnlimited then min requested app.leadSearchMaxResults
    else min (min requested credits.toNat) app.leadSearchMaxResults

theorem readOnly_extensionCap (app : Deployment) (userId : UserId) (count : Option Nat) :
    ReadOnly (extensionCap app userId count) := by
  refine Respects.bind (readOnly_hasPaidLeadFinderAccess app userId) fun paid => ?_
  refine Respects.ite (Respects.throw _) ?_
  refine Respects.bind (readOnly_creditsOrThrow userId) fun credits => ?_
  refine Respects.bind (readOnly_hasUnlimitedLeadFinderAccess userId) fun unlimited => ?_
  exact Respects.ite (Respects.throw _) (Respects.pure _)

/-- The extension is decided by its first read and the checks after it. -/
theorem extension_eq
    (app : Deployment)
    (userId : UserId)
    (jobId : Nat)
    (count : Option Nat) :
    extension app userId jobId count =
      (query (fun _ world => extensible world userId jobId) : Service _) >>= fun decision =>
        orThrow decision >>= fun data =>
          extensionCap app userId count >>= fun cap => pure { data with cap } := by
  unfold extension
  refine query_bind_congr fun _ world => ?_
  unfold extensible
  cases world.findSearchJob jobId with
  | none => rfl
  | some job =>
      dsimp only [Option.map]
      by_cases owner : job.userId = userId
      · rw [if_neg (not_not.mpr owner), if_neg (not_not.mpr owner)]
        by_cases running : job.status = .running
        · rw [if_pos running, if_pos running]
          rfl
        · rw [if_neg running, if_neg running]
          cases job.filters with
          | none => rfl
          | some filters =>
              show (hasPaidLeadFinderAccess app userId >>= _) =
                extensionCap app userId count >>= _
              unfold extensionCap
              rw [Process.bind_assoc]
              congr 1
              funext paid
              cases paid with
              | false => rfl
              | true =>
                  show (creditsOrThrow userId >>= _) = (creditsOrThrow userId >>= _) >>= _
                  rw [Process.bind_assoc]
                  congr 1
                  funext credits
                  rw [Process.bind_assoc]
                  congr 1
                  funext unlimited
                  split <;> rfl
      · rw [if_pos owner, if_pos owner]
        rfl

/-- What an extension is made of. -/
theorem of_extensible
    {world : World}
    {userId : UserId}
    {jobId : Nat}
    {data : ApolloSearchJobData}
    (extended : extensible world userId jobId = .ok data) :
    ∃ job, world.findSearchJob jobId = some job ∧ job.userId = userId ∧
      job.status ≠ .running ∧ job.filters = some data.filters ∧ data.jobId = jobId ∧
      data.excludeApolloPersonIds = some ((world.resultsOf jobId).map (·.apolloPersonId)) := by
  unfold extensible at extended
  cases found : world.findSearchJob jobId with
  | none =>
      rw [found] at extended
      cases extended
  | some job =>
      rw [found] at extended
      dsimp only at extended
      split at extended
      · cases extended
      · rename_i owner
        split at extended
        · cases extended
        · rename_i running
          cases filters : job.filters with
          | none =>
              rw [filters] at extended
              cases extended
          | some stored =>
              rw [filters] at extended
              cases extended
              exact ⟨job, rfl, not_not.mp owner, running, filters, rfl, rfl⟩

end LeadsService

/-- The call a request is about to make. -/
inductive RequestStage
  /-- A check of `aiSearch`. -/
  | planSearch (userId : UserId) (filters : ApolloSearchFilters) (checks : Checks)
  | createJob (userId : UserId) (filters : ApolloSearchFilters) (cap : Nat)
  /-- The first read of `getMoreLeads`. -/
  | readResults (userId : UserId) (jobId : Nat) (count : Option Nat)
  /-- A later check of `getMoreLeads`, which still decides the `cap` of the queue job. -/
  | planExtension (data : ApolloSearchJobData) (checks : Checks)
  /-- The write of `RUNNING`. -/
  | restart (data : ApolloSearchJobData)
  | enqueue (data : ApolloSearchJobData)
  /-- The read of `cancelSearchJob`. -/
  | readJob (userId : UserId) (jobId : Nat)
  /-- The write of `CANCELLED`. -/
  | cancel (jobId : Nat)
  | finished (outcome : Except ApiError Unit)

namespace RequestStage

variable (app : Deployment)

/-! ## The code left at a stage -/

/-- What follows the checks of `aiSearch`. -/
def submit (userId : UserId) (filters : ApolloSearchFilters) (cap : Nat) : Service Unit := do
  let jobId ← LeadSearchTables.createJob userId filters
  LeadSearchTables.enqueue { jobId, userId, filters, cap }

/-- What follows the checks of `getMoreLeads`. -/
def resubmit (data : ApolloSearchJobData) : Service Unit := do
  let _ ← updateJobStatus data.jobId .running
  LeadSearchTables.enqueue data

/-- The code left of the request. -/
def code : RequestStage → Service Unit
  | planSearch userId filters checks => checks.service >>= submit userId filters
  | createJob userId filters cap => submit userId filters cap
  | readResults userId jobId count => LeadsService.getMoreLeads app userId jobId count
  | planExtension data checks => checks.service >>= fun cap => resubmit { data with cap }
  | restart data => resubmit data
  | enqueue data => LeadSearchTables.enqueue data
  | readJob userId jobId => SearchRequest.handle app (.cancelSearchJob userId jobId)
  | cancel jobId => do
      let _ ← updateJobStatus jobId .cancelled
  | finished outcome => orThrow outcome

/-! ## Where a stage leads -/

/-- After a check of `aiSearch`. -/
def planned
    (userId : UserId)
    (filters : ApolloSearchFilters)
    (service : Service Nat)
    (readOnly : ReadOnly service) : RequestStage :=
  match service, readOnly with
  | .done cap, _ => createJob userId filters cap
  | .fail error, _ => finished (.error error)
  | .call update resume abort, readOnly =>
      planSearch userId filters ⟨.call update resume abort, readOnly, rfl⟩

/-- After a check of `getMoreLeads`. -/
def extended
    (data : ApolloSearchJobData)
    (service : Service Nat)
    (readOnly : ReadOnly service) : RequestStage :=
  match service, readOnly with
  | .done cap, _ => restart { data with cap }
  | .fail error, _ => finished (.error error)
  | .call update resume abort, readOnly =>
      planExtension data ⟨.call update resume abort, readOnly, rfl⟩

/-- The first stage of a request. -/
def start : SearchRequest → RequestStage
  | .aiSearch userId dto =>
      planned userId (LeadsService.buildApolloFilters dto) _ (readOnly_searchCap app userId)
  | .getMoreLeads userId jobId count => readResults userId jobId count
  | .cancelSearchJob userId jobId => readJob userId jobId

/-- The write at a stage. -/
def write (stage : RequestStage) (input : Input) (world : World) : World :=
  match stage with
  | createJob userId filters _ =>
      if world.hasUser userId then
        { world with
          leadSearchJobs :=
            { id := world.nextId
              userId
              filters := some filters
              createdAt := input.now } :: world.leadSearchJobs
          nextId := world.nextId + 1 }
      else world
  | restart data => world.setJobStatus data.jobId .running
  | enqueue data => { world with apolloQueue := world.apolloQueue ++ [data] }
  | cancel jobId => world.setJobStatus jobId .cancelled
  | _ => world

/-- Where the call at a stage leads. -/
def next (stage : RequestStage) (input : Input) (world : World) : RequestStage :=
  match stage with
  | planSearch userId filters checks =>
      planned userId filters _ (checks.readOnly.residual input world)
  | createJob userId filters cap =>
      if world.hasUser userId then enqueue { jobId := world.nextId, userId, filters, cap }
      else finished (.error .foreignKeyViolation)
  | readResults userId jobId count =>
      match LeadsService.extensible world userId jobId with
      | .ok data => extended data _ (LeadsService.readOnly_extensionCap app userId count)
      | .error error => finished (.error error)
  | planExtension data checks => extended data _ (checks.readOnly.residual input world)
  | restart data =>
      if (world.findSearchJob data.jobId).isSome then enqueue data
      else finished (.error .recordNotFound)
  | enqueue _ => finished (.ok ())
  | readJob userId jobId =>
      match world.findSearchJob jobId with
      | none => finished (.error (.notFound "Search not found"))
      | some job =>
          if job.userId ≠ userId then finished (.error (.notFound "Search not found"))
          else if job.status ≠ .running then finished (.ok ())
          else cancel jobId
  | cancel jobId =>
      if (world.findSearchJob jobId).isSome then finished (.ok ())
      else finished (.error .recordNotFound)
  | finished outcome => finished outcome

/-- Where the rejection of the call at a stage leads. -/
def abort (stage : RequestStage) (error : ApiError) : RequestStage :=
  match stage with
  | planSearch userId filters checks => planned userId filters _ (checks.readOnly.rejected error)
  | planExtension data checks => extended data _ (checks.readOnly.rejected error)
  | finished outcome => finished outcome
  | _ => finished (.error error)

/-! ## The stages move as the code does -/

theorem code_planned
    (userId : UserId)
    (filters : ApolloSearchFilters)
    (service : Service Nat)
    (readOnly : ReadOnly service) :
    code app (planned userId filters service readOnly) = service >>= submit userId filters := by
  cases service <;> rfl

theorem code_extended
    (data : ApolloSearchJobData)
    (service : Service Nat)
    (readOnly : ReadOnly service) :
    code app (extended data service readOnly) =
      service >>= fun cap => resubmit { data with cap } := by
  cases service <;> rfl

/-- The first read of `getMoreLeads`, and what follows it. -/
theorem code_readResults (userId : UserId) (jobId : Nat) (count : Option Nat) :
    code app (readResults userId jobId count) =
      (query (fun _ world => LeadsService.extensible world userId jobId) : Service _) >>=
        fun decision => orThrow decision >>= fun data =>
          LeadsService.extensionCap app userId count >>= fun cap => resubmit { data with cap } := by
  show LeadsService.getMoreLeads app userId jobId count = _
  unfold LeadsService.getMoreLeads
  rw [LeadsService.extension_eq, Process.bind_assoc]
  refine query_bind_congr fun _ world => ?_
  cases decision : LeadsService.extensible world userId jobId with
  | error error => rfl
  | ok data =>
      obtain ⟨-, -, -, -, -, sameJob, -⟩ := LeadsService.of_extensible decision
      show (LeadsService.extensionCap app userId count >>= _) >>= _ = _
      rw [Process.bind_assoc, ← sameJob]
      rfl

/-- The stages of a request begin with the whole method. -/
theorem code_start (request : SearchRequest) :
    code app (start app request) = request.handle app := by
  cases request with
  | aiSearch userId dto =>
      rw [start, code_planned]
      show _ = LeadsService.aiSearch app userId dto >>= fun _ => pure ()
      unfold LeadsService.aiSearch submit
      simp only [bind_assoc]
      rfl
  | getMoreLeads userId jobId count => rfl
  | cancelSearchJob userId jobId => rfl

/-- The call at a stage makes the write of that stage. -/
theorem effect_code (stage : RequestStage) (input : Input) (world : World) :
    (code app stage).effect input world = write stage input world := by
  cases stage with
  | planSearch userId filters checks =>
      exact (effect_bind checks.left _).trans (checks.readOnly.effect_eq input world)
  | createJob userId filters cap =>
      show (LeadSearchTables.createJob userId filters >>= _).effect input world = _
      rw [LeadSearchTables.createJob, effect_attempt_bind, write]
      unfold World.hasUser
      split
      · rename_i value after created
        split at created
        · rename_i known
          cases created
          rw [if_pos known]
        · cases created
      · rename_i error refused
        split at refused
        · cases refused
        · rename_i unknown
          rw [if_neg unknown]
  | readResults userId jobId count =>
      rw [code_readResults]
      rfl
  | planExtension data checks =>
      exact (effect_bind checks.left _).trans (checks.readOnly.effect_eq input world)
  | restart data =>
      show (updateJobStatus data.jobId .running >>= _).effect input world = _
      rw [updateJobStatus, effect_attempt_bind, write]
      cases found : world.findSearchJob data.jobId with
      | some job => rfl
      | none => exact (SearchStage.setJobStatus_of_not_found found _).symm
  | enqueue data => rfl
  | readJob userId jobId => rfl
  | cancel jobId =>
      show (updateJobStatus jobId .cancelled >>= _).effect input world = _
      rw [updateJobStatus, effect_attempt_bind, write]
      cases found : world.findSearchJob jobId with
      | some job => rfl
      | none => exact (SearchStage.setJobStatus_of_not_found found _).symm
  | finished outcome => cases outcome <;> rfl

/-- The code at a stage goes on as the stage does. -/
theorem residual_code (stage : RequestStage) (input : Input) (world : World) :
    (code app stage).residual input world = code app (next app stage input world) := by
  cases stage with
  | planSearch userId filters checks =>
      rw [next, code_planned]
      exact residual_bind checks.left _
  | createJob userId filters cap =>
      show (LeadSearchTables.createJob userId filters >>= _).residual input world = _
      rw [LeadSearchTables.createJob, residual_attempt_bind, next]
      unfold World.hasUser
      cases world.users.any fun user => user.id = userId <;> rfl
  | readResults userId jobId count =>
      rw [code_readResults, residual_query_bind, next]
      cases LeadsService.extensible world userId jobId with
      | error error => rfl
      | ok data =>
          dsimp only
          rw [code_extended]
          rfl
  | planExtension data checks =>
      rw [next, code_extended]
      exact residual_bind checks.left _
  | restart data =>
      show (updateJobStatus data.jobId .running >>= _).residual input world = _
      rw [updateJobStatus, residual_attempt_bind, next]
      cases world.findSearchJob data.jobId <;> rfl
  | enqueue data => rfl
  | readJob userId jobId =>
      show ((LeadsService.ownSearchJob userId jobId >>= _) >>= _).residual input world = _
      unfold LeadsService.ownSearchJob
      rw [Process.bind_assoc, Process.bind_assoc, residual_query_bind, next]
      cases world.findSearchJob jobId with
      | none => rfl
      | some job =>
          dsimp only
          by_cases owner : job.userId = userId
          · rw [if_neg (not_not.mpr owner), if_neg (not_not.mpr owner)]
            by_cases running : job.status = .running
            · rw [if_neg (not_not.mpr running)]
              show ((if job.status ≠ .running then _ else _ : Service _) >>= _) = _
              rw [if_neg (not_not.mpr running)]
              rfl
            · rw [if_pos running]
              show ((if job.status ≠ .running then _ else _ : Service _) >>= _) = _
              rw [if_pos running]
              rfl
          · rw [if_pos owner, if_pos owner]
            rfl
  | cancel jobId =>
      show (updateJobStatus jobId .cancelled >>= _).residual input world = _
      rw [updateJobStatus, residual_attempt_bind, next]
      cases world.findSearchJob jobId <;> rfl
  | finished outcome => cases outcome <;> rfl

/-- A rejection at a stage ends the request, unless it is a check that handles it. -/
theorem rejected_code (stage : RequestStage) (error : ApiError) :
    (code app stage).rejected error = code app (abort stage error) := by
  cases stage with
  | planSearch userId filters checks =>
      rw [abort, code_planned]
      exact rejected_bind checks.left _
  | planExtension data checks =>
      rw [abort, code_extended]
      exact rejected_bind checks.left _
  | readResults userId jobId count =>
      rw [code_readResults]
      rfl
  | finished outcome => cases outcome <;> rfl
  | _ => rfl

/-- The control points of a request. -/
def machine : Machine RequestStage Input ApiError World where
  effect stage := write stage
  next := next app
  abort := abort

theorem implements : (machine app).Implements (code app) where
  effect := effect_code app
  next := residual_code app
  abort := rejected_code app

end RequestStage
end ConferenceContact
