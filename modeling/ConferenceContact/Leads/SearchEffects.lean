import ConferenceContact.Foundation.Crews
import ConferenceContact.Leads.SearchRun

/-!
# What a search writes

The writes of a search, stage by stage, and their effect on each table.  The
machine of a whole run carries the queue job along, and shares the world with
the requests in progress.
-/

namespace ConferenceContact

open Process LeadSearchTables ApolloSearchProcessor

/-- The world with a new result, unless its job is missing. -/
def World.insertResult (world : World) (row : Nat → LeadSearchResult) : World :=
  if (world.findSearchJob (row world.nextId).jobId).isSome then
    { world with
      leadSearchResults := row world.nextId :: world.leadSearchResults
      nextId := world.nextId + 1 }
  else world

section

variable (world : World) (row : Nat → LeadSearchResult)

@[simp] theorem insertResult_users : (world.insertResult row).users = world.users := by
  unfold World.insertResult
  split <;> rfl

@[simp] theorem insertResult_leadSearchJobs :
    (world.insertResult row).leadSearchJobs = world.leadSearchJobs := by
  unfold World.insertResult
  split <;> rfl

@[simp] theorem insertResult_apolloQueue :
    (world.insertResult row).apolloQueue = world.apolloQueue := by
  unfold World.insertResult
  split <;> rfl

end

/-- The world with the results that satisfy a condition rewritten. -/
def World.rewriteResults
    (world : World)
    (condition : LeadSearchResult → Bool)
    (rewrite : LeadSearchResult → LeadSearchResult) : World :=
  { world with
    leadSearchResults := Table.updateWhere condition rewrite world.leadSearchResults }

/-- The users with one credit of a user taken, if there is one. -/
def chargeUser (userId : UserId) (users : List User) : List User :=
  Table.updateWhere (fun user => user.id = userId && 0 < user.leadFinderCredits)
    (fun user => { user with leadFinderCredits := user.leadFinderCredits - 1 }) users

/-- The users with one credit of a user given back. -/
def repayUser (userId : UserId) (users : List User) : List User :=
  Table.updateWhere (fun user => user.id = userId)
    (fun user => { user with leadFinderCredits := user.leadFinderCredits + 1 }) users

namespace SearchStage

variable (data : ApolloSearchJobData)

/-- The write at a stage. -/
def write (stage : SearchStage) (world : World) : World :=
  match stage with
  | create candidate _ _ => world.insertResult (pendingRow data.jobId candidate)
  | skipCancelled =>
      world.rewriteResults (fun row => row.jobId = data.jobId && row.status = .pending)
        fun row => { row with status := .skipped }
  | skipUnreserved =>
      world.rewriteResults (fun row => row.jobId = data.jobId && row.status = .pending)
        fun row => { row with status := .skipped }
  | takeCredit _ => { world with users := chargeUser data.userId world.users }
  | store result _ columns => world.rewriteResults (fun row => row.id = result.id) columns.fill
  | refund _ _ => { world with users := repayUser data.userId world.users }
  | markFailed result _ =>
      world.rewriteResults (fun row => row.id = result.id)
        fun row => { row with status := .failed }
  | createDirect personName matched => world.insertResult (directRow data personName matched)
  | complete _ => world.setJobStatus data.jobId .completed
  | fail => world.setJobStatus data.jobId .failed
  | audit =>
      { world with auditLogs := ⟨some data.userId, .leadsAiSearch⟩ :: world.auditLogs }
  | search => world
  | check _ _ => world
  | readAccess _ => world
  | enrich _ _ => world
  | readAccessToRefund _ _ => world
  | finished _ => world

/-- An update of a row that is not there changes nothing. -/
theorem rewriteResults_of_not_any
    {world : World}
    {condition : LeadSearchResult → Bool}
    (missing : world.leadSearchResults.any condition = false)
    (rewrite : LeadSearchResult → LeadSearchResult) :
    world.rewriteResults condition rewrite = world := by
  unfold World.rewriteResults
  rw [Table.updateWhere_eq_self]
  intro row present selected
  rw [List.any_eq_false] at missing
  exact absurd selected (missing row present)

theorem setJobStatus_of_not_found
    {world : World}
    {id : Nat}
    (missing : world.findSearchJob id = none)
    (status : LeadSearchJobStatus) :
    world.setJobStatus id status = world := by
  unfold World.setJobStatus
  rw [Table.updateWhere_eq_self]
  intro job present selected
  unfold World.findSearchJob at missing
  rw [List.find?_eq_none] at missing
  exact absurd selected (missing job present)

/-- The call at a stage makes the write of that stage. -/
theorem effect_eq (stage : SearchStage) (input : Input) (world : World) :
    effect data stage input world = write data stage world := by
  unfold effect
  cases stage with
  | search =>
      show (tryCatch (searchAndEnrich data) _).effect input world = _
      rw [searchAndEnrich, ApolloService.searchPeople, effect_tryCatch _ _ rfl,
        effect_attempt_bind]
      cases input.apolloSearch <;> rfl
  | create candidate rest made =>
      show (tryCatch (createPending data.jobId (candidate :: rest) made >>= enrichAll data)
        _).effect input world = _
      rw [createPending, createResult, effect_tryCatch _ _ rfl, effect_bind rfl,
        effect_bind rfl, effect_tryCatch _ _ rfl, effect_attempt_bind, write,
        World.insertResult]
      cases (world.findSearchJob (pendingRow data.jobId candidate world.nextId).jobId).isSome <;>
        rfl
  | check result rest =>
      show (tryCatch (enrichAll data (result :: rest)) _).effect input world = _
      rw [enrichAll_cons]
      rfl
  | readAccess target =>
      show (tryCatch (LeadsService.tryReserveCredit data.userId >>= afterReserve data target)
        _).effect input world = _
      rw [tryReserveCredit_bind]
      rfl
  | enrich target charged =>
      show (tryCatch (ApolloService.matchPerson >>= afterMatch data target)
        _).effect input world = _
      rw [ApolloService.matchPerson, effect_tryCatch _ _ rfl, effect_attempt_bind]
      cases ApolloService.outcome input.apolloMatch <;> rfl
  | store result rest columns =>
      show (tryCatch (updateResult result.id columns.fill >>= fun _ => enrichAll data rest)
        _).effect input world = _
      rw [updateResult, effect_tryCatch _ _ rfl, effect_attempt_bind, write]
      cases found : world.leadSearchResults.any fun row => row.id = result.id with
      | true => rfl
      | false => exact (rewriteResults_of_not_any found _).symm
  | readAccessToRefund target charged =>
      show (tryCatch (LeadsService.refundCredit data.userId >>= fun _ => afterRefund data target)
        _).effect input world = _
      rw [refundCredit_bind]
      rfl
  | refund target charged =>
      show (tryCatch (incrementCredits data.userId 1 >>= fun _ => afterRefund data target)
        _).effect input world = _
      rw [incrementCredits, UsersService.update, effect_tryCatch _ _ rfl, effect_attempt_bind,
        write, repayUser]
      cases found : world.users.find? fun user => user.id = data.userId with
      | none =>
          rw [Table.updateWhere_eq_self]
          intro user present selected
          rw [List.find?_eq_none] at found
          exact absurd selected (found user present)
      | some user => rfl
  | markFailed result rest =>
      show (tryCatch (updateResult result.id _ >>= fun _ => enrichAll data rest)
        _).effect input world = _
      rw [updateResult, effect_tryCatch _ _ rfl, effect_attempt_bind, write]
      cases found : world.leadSearchResults.any fun row => row.id = result.id with
      | true => rfl
      | false => exact (rewriteResults_of_not_any found _).symm
  | createDirect personName matched =>
      show (tryCatch (recordDirect data personName matched) _).effect input world = _
      rw [recordDirect, createResult, effect_tryCatch _ _ rfl, effect_attempt_bind, write,
        World.insertResult]
      cases (world.findSearchJob (directRow data personName matched world.nextId).jobId).isSome <;>
        rfl
  | complete audited =>
      have shape : (tryCatch (updateJobStatus data.jobId .completed >>= fun _ =>
          if audited then AuditService.record (some data.userId) .leadsAiSearch
          else pure ()) (handler data)).effect input world =
          world.setJobStatus data.jobId .completed := by
        rw [updateJobStatus, effect_tryCatch _ _ rfl, effect_attempt_bind]
        cases found : world.findSearchJob data.jobId with
        | some job => rfl
        | none => exact (setJobStatus_of_not_found found _).symm
      cases audited <;> exact shape
  | fail =>
      show (updateJobStatus data.jobId .failed >>= fun _ => pure ()).effect input world = _
      rw [updateJobStatus, effect_attempt_bind, write]
      cases found : world.findSearchJob data.jobId with
      | some job => rfl
      | none => exact (setJobStatus_of_not_found found _).symm
  | finished outcome => cases outcome <;> rfl
  | _ => rfl

/-! ## Its effect on each table -/

theorem users_write (stage : SearchStage) (world : World) :
    (write data stage world).users =
      match stage with
      | takeCredit _ => chargeUser data.userId world.users
      | refund _ _ => repayUser data.userId world.users
      | _ => world.users := by
  cases stage with
  | create candidate rest made => exact insertResult_users _ _
  | createDirect personName matched => exact insertResult_users _ _
  | _ => rfl

theorem leadSearchJobs_write (stage : SearchStage) (world : World) :
    (write data stage world).leadSearchJobs =
      match stage with
      | complete _ => (world.setJobStatus data.jobId .completed).leadSearchJobs
      | fail => (world.setJobStatus data.jobId .failed).leadSearchJobs
      | _ => world.leadSearchJobs := by
  cases stage with
  | create candidate rest made => exact insertResult_leadSearchJobs _ _
  | createDirect personName matched => exact insertResult_leadSearchJobs _ _
  | _ => rfl

theorem apolloQueue_write (stage : SearchStage) (world : World) :
    (write data stage world).apolloQueue = world.apolloQueue := by
  cases stage with
  | create candidate rest made => exact insertResult_apolloQueue _ _
  | createDirect personName matched => exact insertResult_apolloQueue _ _
  | _ => rfl

/-- The two calls of a reservation. -/
def reserves : SearchStage → Bool
  | readAccess _ => true
  | takeCredit _ => true
  | _ => false

end SearchStage

/-! ## The machine of a run -/

/-- A queue job in progress. -/
structure SearchRun where
  data : ApolloSearchJobData
  stage : SearchStage

namespace SearchRun

/-- A run that has not made its first call. -/
def start (data : ApolloSearchJobData) : SearchRun where
  data
  stage := .start data

/-- The code left of a run. -/
def code (run : SearchRun) : Service Unit := run.stage.code run.data

/-- What a run of a search does call by call. -/
def machine : Machine SearchRun Input ApiError World where
  effect run := run.stage.effect run.data
  next run input world := { run with stage := run.stage.next run.data input world }
  abort run error := { run with stage := run.stage.abort error }

/-- A run is what is left of `ApolloSearchProcessor.process`. -/
theorem code_start (data : ApolloSearchJobData) :
    (start data).code = ApolloSearchProcessor.process data :=
  SearchStage.code_start data

theorem implements : machine.Implements code where
  effect _ _ _ := rfl
  next run := SearchStage.residual_code run.data run.stage
  abort run := SearchStage.rejected_code run.data run.stage

end SearchRun
end ConferenceContact
