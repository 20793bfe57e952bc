import ConferenceContact.Foundation.Machine
import ConferenceContact.Model.Leads

/-!
# The control points of a search

A run of the Apollo worker is cut at its awaited calls.  Its stages are the
calls it can be about to make, with the local variables that are still needed;
`SearchStage.code` is the code left at a stage, and the stages move as that
code does.
-/

namespace ConferenceContact

open Process LeadSearchTables ApolloSearchProcessor

/-- What a credit is reserved for: a row of a search, with the rows after it, or
the match of a named person. -/
inductive Target
  | row (result : LeadSearchResult) (rest : List LeadSearchResult)
  | direct (personName : String)
  deriving DecidableEq

/-- The call a run is about to make.  The flag `charged` tells whether the
reservation took a credit; no call depends on it. -/
inductive SearchStage
  | search
  | create
      (candidate : ApolloCandidate)
      (rest : List ApolloCandidate)
      (made : Except ApiError (List LeadSearchResult))
  | check (result : LeadSearchResult) (rest : List LeadSearchResult)
  | skipCancelled
  | readAccess (target : Target)
  | takeCredit (target : Target)
  | skipUnreserved
  | enrich (target : Target) (charged : Bool)
  | store
      (result : LeadSearchResult)
      (rest : List LeadSearchResult)
      (columns : EnrichedColumns)
  | readAccessToRefund (target : Target) (charged : Bool)
  | refund (target : Target) (charged : Bool)
  | markFailed (result : LeadSearchResult) (rest : List LeadSearchResult)
  | createDirect (personName : String) (matched : Option EnrichedColumns)
  /-- The write of `COMPLETED`, with or without the audit row after it. -/
  | complete (audited : Bool)
  | audit
  /-- The write of `FAILED` in the handler. -/
  | fail
  | finished (outcome : Except ApiError Unit)
  deriving DecidableEq

namespace SearchStage

/-- The run has ended. -/
def isOver : SearchStage → Bool
  | finished _ => true
  | _ => false

variable (data : ApolloSearchJobData)

/-! ## The code left at a stage -/

/-- The handler of the `try` block. -/
def handler (_error : ApiError) : Service Unit := do
  let _ ← updateJobStatus data.jobId .failed

/-- What follows a reservation. -/
def afterReserve : Target → Bool → Service Unit
  | .row result rest, true => do
      let iterationEnd ← spendReserved data result
      match iterationEnd with
      | .cancelled => return ()
      | .outOfCredits => finishSearch data
      | .next => enrichAll data rest
  | .row _ _, false => do
      skipPending data.jobId
      finishSearch data
  | .direct personName, true => do
      let matched ← ApolloService.matchByName personName data.filters.personOrganization
      match matched with
      | some matched =>
          let columns ← orThrow matched.columns
          recordDirect data personName (some columns)
      | none =>
          LeadsService.refundCredit data.userId
          recordDirect data personName none
  | .direct _, false => do
      let _ ← updateJobStatus data.jobId .completed

/-- What follows a match. -/
def afterMatch : Target → Option ApolloEnrichedPerson → Service Unit
  | .row result rest, some matched => do
      let columns ← orThrow matched.columns
      updateResult result.id columns.fill
      enrichAll data rest
  | .direct personName, some matched => do
      let columns ← orThrow matched.columns
      recordDirect data personName (some columns)
  | .row result rest, none => do
      LeadsService.refundCredit data.userId
      updateResult result.id fun row => { row with status := .failed }
      enrichAll data rest
  | .direct personName, none => do
      LeadsService.refundCredit data.userId
      recordDirect data personName none

/-- What follows a refund. -/
def afterRefund : Target → Service Unit
  | .row result rest => do
      updateResult result.id fun row => { row with status := .failed }
      enrichAll data rest
  | .direct personName => recordDirect data personName none

/-- The code left of the `try` block. -/
def body : SearchStage → Service Unit
  | search => searchAndEnrich data
  | create candidate rest made => do
      let pendingResults ← createPending data.jobId (candidate :: rest) made
      enrichAll data pendingResults
  | check result rest => enrichAll data (result :: rest)
  | skipCancelled => skipPending data.jobId
  | readAccess target => do
      let reserved ← LeadsService.tryReserveCredit data.userId
      afterReserve data target reserved
  | takeCredit target => do
      let reserved ← LeadsService.takeCredit data.userId
      afterReserve data target reserved
  | skipUnreserved => do
      skipPending data.jobId
      finishSearch data
  | enrich target _ => do
      let matched ← ApolloService.matchPerson
      afterMatch data target matched
  | store result rest columns => do
      updateResult result.id columns.fill
      enrichAll data rest
  | readAccessToRefund target _ => do
      LeadsService.refundCredit data.userId
      afterRefund data target
  | refund target _ => do
      let _ ← incrementCredits data.userId 1
      afterRefund data target
  | markFailed result rest => do
      updateResult result.id fun row => { row with status := .failed }
      enrichAll data rest
  | createDirect personName matched => recordDirect data personName matched
  | complete true => finishSearch data
  | complete false => do
      let _ ← updateJobStatus data.jobId .completed
  | audit => AuditService.record (some data.userId) .leadsAiSearch
  | fail => pure ()
  | finished _ => pure ()

/-- The code left of the whole run. -/
def code : SearchStage → Service Unit
  | fail => do
      let _ ← updateJobStatus data.jobId .failed
  | finished outcome => orThrow outcome
  | stage => tryCatch (body data stage) (handler data)

/-! ## Where a stage leads -/

/-- The first stage of a run. -/
def start : SearchStage :=
  match directName data.filters with
  | some personName => readAccess (.direct personName)
  | none => search

/-- The head of the loop. -/
def loop : List LeadSearchResult → SearchStage
  | [] => complete true
  | result :: rest => check result rest

/-- After all rows are created, unless a creation was rejected. -/
def created : Except ApiError (List LeadSearchResult) → SearchStage
  | .ok rows => loop rows
  | .error _ => fail

/-- After one more creation. -/
def afterCreate
    (rest : List ApolloCandidate)
    (made : Except ApiError (List LeadSearchResult)) : SearchStage :=
  match rest with
  | [] => created made
  | candidate :: rest => create candidate rest made

/-- After a reservation that is refused. -/
def unreserved : Target → SearchStage
  | .row _ _ => skipUnreserved
  | .direct _ => complete false

/-- After a match whose columns are accepted. -/
def matched (target : Target) (columns : EnrichedColumns) : SearchStage :=
  match target with
  | .row result rest => store result rest columns
  | .direct personName => createDirect personName (some columns)

/-- After a refund, or the decision that there is nothing to give back. -/
def refunded : Target → SearchStage
  | .row result rest => markFailed result rest
  | .direct personName => createDirect personName none

/-- The call at a stage, as its code makes it. -/
def effect (stage : SearchStage) (input : Input) (world : World) : World :=
  (code data stage).effect input world

/-- Where the call at a stage leads. -/
def next (stage : SearchStage) (input : Input) (world : World) : SearchStage :=
  match stage with
  | search =>
      match input.apolloSearch with
      | none => fail
      | some people =>
          match candidates data (people.map ApolloService.candidate) with
          | [] => complete false
          | candidate :: rest => create candidate rest (.ok [])
  | create candidate rest made =>
      afterCreate rest (collect made
        (if (world.findSearchJob data.jobId).isSome then
          .ok (pendingRow data.jobId candidate world.nextId)
        else .error .foreignKeyViolation))
  | check result rest =>
      if (world.findSearchJob data.jobId).any fun job => job.status = .cancelled then
        skipCancelled
      else readAccess (.row result rest)
  | skipCancelled => finished (.ok ())
  | readAccess target =>
      if world.unlimited data.userId then enrich target false else takeCredit target
  | takeCredit target =>
      if world.users.any fun user => user.id = data.userId && 0 < user.leadFinderCredits then
        enrich target true
      else unreserved target
  | skipUnreserved => complete true
  | enrich target charged =>
      match ApolloService.outcome input.apolloMatch with
      | .error _ => fail
      | .ok none => readAccessToRefund target charged
      | .ok (some person) =>
          match person.columns with
          | .error _ => fail
          | .ok columns => matched target columns
  | store result rest _ =>
      if world.leadSearchResults.any fun row => row.id = result.id then loop rest else fail
  | readAccessToRefund target charged =>
      if world.unlimited data.userId then refunded target else refund target charged
  | refund target _ =>
      if (world.users.find? fun user => user.id = data.userId).isSome then refunded target
      else fail
  | markFailed result rest =>
      if world.leadSearchResults.any fun row => row.id = result.id then loop rest else fail
  | createDirect _ _ =>
      if (world.findSearchJob data.jobId).isSome then complete true else fail
  | complete audited =>
      if (world.findSearchJob data.jobId).isSome then
        if audited then audit else finished (.ok ())
      else fail
  | audit => finished (.ok ())
  | fail =>
      if (world.findSearchJob data.jobId).isSome then finished (.ok ())
      else finished (.error .recordNotFound)
  | finished outcome => finished outcome

/-- Where the rejection of the call at a stage leads. -/
def abort (stage : SearchStage) (error : ApiError) : SearchStage :=
  match stage with
  | create _ rest made => afterCreate rest (collect made (.error error))
  | fail => finished (.error error)
  | finished outcome => finished outcome
  | _ => fail

/-- The stages a call may lead to, whatever it finds. -/
inductive Leads : SearchStage → SearchStage → Prop
  | failed (stage : SearchStage) : Leads stage fail
  | found (candidate : ApolloCandidate) (rest : List ApolloCandidate) :
      Leads search (create candidate rest (.ok []))
  | foundNobody : Leads search (complete false)
  | created
      (candidate : ApolloCandidate)
      (rest : List ApolloCandidate)
      (made : Except ApiError (List LeadSearchResult))
      (outcome : Except ApiError LeadSearchResult) :
      Leads (create candidate rest made) (afterCreate rest (collect made outcome))
  | cancelled (result : LeadSearchResult) (rest : List LeadSearchResult) :
      Leads (check result rest) skipCancelled
  | checked (result : LeadSearchResult) (rest : List LeadSearchResult) :
      Leads (check result rest) (readAccess (.row result rest))
  | skipped : Leads skipCancelled (finished (.ok ()))
  | unlimited (target : Target) : Leads (readAccess target) (enrich target false)
  | limited (target : Target) : Leads (readAccess target) (takeCredit target)
  | reserved (target : Target) : Leads (takeCredit target) (enrich target true)
  | refused (target : Target) : Leads (takeCredit target) (unreserved target)
  | outOfCredits : Leads skipUnreserved (complete true)
  | unmatched (target : Target) (charged : Bool) :
      Leads (enrich target charged) (readAccessToRefund target charged)
  | revealed (target : Target) (charged : Bool) (columns : EnrichedColumns) :
      Leads (enrich target charged) (matched target columns)
  | stored
      (result : LeadSearchResult)
      (rest : List LeadSearchResult)
      (columns : EnrichedColumns) :
      Leads (store result rest columns) (loop rest)
  | free (target : Target) (charged : Bool) :
      Leads (readAccessToRefund target charged) (refunded target)
  | refunding (target : Target) (charged : Bool) :
      Leads (readAccessToRefund target charged) (refund target charged)
  | paidBack (target : Target) (charged : Bool) :
      Leads (refund target charged) (refunded target)
  | marked (result : LeadSearchResult) (rest : List LeadSearchResult) :
      Leads (markFailed result rest) (loop rest)
  | recorded (personName : String) (matched : Option EnrichedColumns) :
      Leads (createDirect personName matched) (complete true)
  | completed : Leads (complete true) audit
  | endedEarly : Leads (complete false) (finished (.ok ()))
  | audited : Leads audit (finished (.ok ()))
  | handled : Leads fail (finished (.ok ()))
  | unhandled (error : ApiError) : Leads fail (finished (.error error))
  | stays (outcome : Except ApiError Unit) : Leads (finished outcome) (finished outcome)

theorem leads_next (stage : SearchStage) (input : Input) (world : World) :
    Leads stage (next data stage input world) := by
  cases stage with
  | search =>
      rw [next]
      cases input.apolloSearch with
      | none => exact .failed _
      | some people =>
          dsimp only
          cases candidates data (people.map ApolloService.candidate) with
          | nil => exact .foundNobody
          | cons candidate rest => exact .found candidate rest
  | create candidate rest made => exact .created candidate rest made _
  | check result rest =>
      rw [next]
      split
      · exact .cancelled result rest
      · exact .checked result rest
  | skipCancelled => exact .skipped
  | readAccess target =>
      rw [next]
      split
      · exact .unlimited target
      · exact .limited target
  | takeCredit target =>
      rw [next]
      split
      · exact .reserved target
      · exact .refused target
  | skipUnreserved => exact .outOfCredits
  | enrich target charged =>
      rw [next]
      cases ApolloService.outcome input.apolloMatch with
      | error error => exact .failed _
      | ok outcome =>
          cases outcome with
          | none => exact .unmatched target charged
          | some person =>
              dsimp only
              cases person.columns with
              | error error => exact .failed _
              | ok columns => exact .revealed target charged columns
  | store result rest columns =>
      rw [next]
      split
      · exact .stored result rest columns
      · exact .failed _
  | readAccessToRefund target charged =>
      rw [next]
      split
      · exact .free target charged
      · exact .refunding target charged
  | refund target charged =>
      rw [next]
      split
      · exact .paidBack target charged
      · exact .failed _
  | markFailed result rest =>
      rw [next]
      split
      · exact .marked result rest
      · exact .failed _
  | createDirect personName matched =>
      rw [next]
      split
      · exact .recorded personName matched
      · exact .failed _
  | complete audited =>
      rw [next]
      split
      · cases audited
        · exact .endedEarly
        · exact .completed
      · exact .failed _
  | audit => exact .audited
  | fail =>
      rw [next]
      split
      · exact .handled
      · exact .unhandled _
  | finished outcome => exact .stays outcome

theorem leads_abort (stage : SearchStage) (error : ApiError) :
    Leads stage (abort stage error) := by
  cases stage with
  | create candidate rest made => exact .created candidate rest made _
  | fail => exact .unhandled error
  | finished outcome => exact .stays outcome
  | _ => exact .failed _

/-! ## The stages move as the code does -/

/-- A named person is matched against a reserved credit. -/
theorem processDirectMatch_eq (personName : String) :
    processDirectMatch data personName =
      LeadsService.tryReserveCredit data.userId >>= afterReserve data (.direct personName) := by
  unfold processDirectMatch
  congr 1
  funext reserved
  cases reserved <;> rfl

/-- The loop reads the status, and goes on to the reservation. -/
theorem enrichAll_cons (result : LeadSearchResult) (rest : List LeadSearchResult) :
    enrichAll data (result :: rest) =
      (query (fun _ world => world.findSearchJob data.jobId) : Service _) >>= fun current =>
        if current.any fun job => job.status = .cancelled then skipPending data.jobId
        else
          LeadsService.tryReserveCredit data.userId >>= afterReserve data (.row result rest) := by
  rw [enrichAll, attemptEnrichment, bind_assoc]
  congr 1
  funext current
  split
  · rfl
  · rw [bind_assoc]
    congr 1
    funext reserved
    cases reserved <;> rfl

/-- A reserved credit is spent on a match. -/
theorem afterReserve_true (target : Target) :
    afterReserve data target true =
      ApolloService.matchPerson >>= afterMatch data target := by
  cases target with
  | row result rest =>
      rw [afterReserve, spendReserved, ApolloService.enrichPerson, bind_assoc]
      congr 1
      funext matched
      cases matched with
      | none =>
          simp only [bind_assoc]
          rfl
      | some person =>
          simp only [afterMatch, bind_assoc]
          rfl
  | direct personName =>
      rw [afterReserve, ApolloService.matchByName]
      congr 1
      funext matched
      cases matched <;> rfl

/-- A reservation is the read of the access and the guarded update. -/
theorem tryReserveCredit_bind (userId : UserId) (next : Bool → Service α) :
    LeadsService.tryReserveCredit userId >>= next =
      (query (fun _ world => world.unlimited userId) : Service _) >>= fun unlimited =>
        if unlimited then next true else LeadsService.takeCredit userId >>= next := by
  unfold LeadsService.tryReserveCredit LeadsService.hasUnlimitedLeadFinderAccess
  rw [bind_assoc]
  congr 1
  funext unlimited
  cases unlimited <;> rfl

/-- A refund is the read of the access and the increment. -/
theorem refundCredit_bind (userId : UserId) (next : Service α) :
    (LeadsService.refundCredit userId >>= fun _ => next) =
      (query (fun _ world => world.unlimited userId) : Service _) >>= fun unlimited =>
        if unlimited then next else incrementCredits userId 1 >>= fun _ => next := by
  unfold LeadsService.refundCredit LeadsService.hasUnlimitedLeadFinderAccess
  rw [bind_assoc]
  congr 1
  funext unlimited
  cases unlimited with
  | true => rfl
  | false => exact bind_assoc _ _ _

theorem afterMatch_none (target : Target) :
    afterMatch data target none =
      LeadsService.refundCredit data.userId >>= fun _ => afterRefund data target := by
  cases target <;> rfl

/-- An update of a result inside the handler. -/
theorem residual_updateResult
    (id : Nat)
    (rewrite : LeadSearchResult → LeadSearchResult)
    (next : Unit → Service Unit)
    (input : Input)
    (world : World) :
    (tryCatch (updateResult id rewrite >>= next) (handler data)).residual input world =
      if world.leadSearchResults.any fun row => row.id = id then
        tryCatch (next ()) (handler data)
      else handler data .recordNotFound := by
  rw [updateResult, residual_tryCatch _ _ rfl, residual_attempt_bind]
  cases world.leadSearchResults.any fun row => row.id = id <;> rfl

/-- An update of the job inside the handler. -/
theorem residual_updateJobStatus
    (id : Nat)
    (status : LeadSearchJobStatus)
    (next : LeadSearchJob → Service Unit)
    (input : Input)
    (world : World) :
    (tryCatch (updateJobStatus id status >>= next) (handler data)).residual input world =
      match world.findSearchJob id with
      | some job => tryCatch (next { job with status }) (handler data)
      | none => handler data .recordNotFound := by
  rw [updateJobStatus, residual_tryCatch _ _ rfl, residual_attempt_bind]
  cases world.findSearchJob id <;> rfl

/-- A creation goes on to the others, whatever its outcome. -/
theorem residual_createPending
    (candidate : ApolloCandidate)
    (rest : List ApolloCandidate)
    (made : Except ApiError (List LeadSearchResult))
    (next : List LeadSearchResult → Service Unit)
    (input : Input)
    (world : World) :
    (createPending data.jobId (candidate :: rest) made >>= next).residual input world =
      createPending data.jobId rest (collect made
        (if (world.findSearchJob data.jobId).isSome then
          .ok (pendingRow data.jobId candidate world.nextId)
        else .error .foreignKeyViolation)) >>= next := by
  rw [createPending, createResult, residual_bind rfl, residual_bind rfl,
    residual_tryCatch _ _ rfl, residual_attempt_bind]
  have owner : (pendingRow data.jobId candidate world.nextId).jobId = data.jobId := rfl
  rw [owner]
  cases (world.findSearchJob data.jobId).isSome <;> rfl

theorem code_start : code data (start data) = process data := by
  unfold start process
  cases directName data.filters with
  | none => rfl
  | some personName =>
      dsimp only
      rw [processDirectMatch_eq]
      rfl

theorem code_loop (rows : List LeadSearchResult) :
    code data (loop rows) = tryCatch (enrichAll data rows) (handler data) := by
  cases rows <;> rfl

theorem code_afterCreate
    (rest : List ApolloCandidate)
    (made : Except ApiError (List LeadSearchResult)) :
    code data (afterCreate rest made) =
      tryCatch (createPending data.jobId rest made >>= enrichAll data) (handler data) := by
  cases rest with
  | nil =>
      cases made with
      | error error => rfl
      | ok rows => exact code_loop data rows
  | cons candidate rest => rfl

/-- The code at a stage goes on as the stage does. -/
theorem residual_code (stage : SearchStage) (input : Input) (world : World) :
    (code data stage).residual input world = code data (next data stage input world) := by
  cases stage with
  | search =>
      show (tryCatch (searchAndEnrich data) _).residual input world = _
      rw [searchAndEnrich, ApolloService.searchPeople, residual_tryCatch _ _ rfl,
        residual_attempt_bind, next]
      cases input.apolloSearch with
      | none => rfl
      | some people =>
          dsimp only
          cases candidates data (people.map ApolloService.candidate) <;> rfl
  | create candidate rest made =>
      show (tryCatch (createPending data.jobId (candidate :: rest) made >>= enrichAll data)
        _).residual input world = _
      rw [next, code_afterCreate, residual_tryCatch _ _ rfl, residual_createPending]
  | check result rest =>
      show (tryCatch (enrichAll data (result :: rest)) _).residual input world = _
      rw [enrichAll_cons, residual_tryCatch _ _ rfl, residual_query_bind, next]
      split <;> rfl
  | skipCancelled => rfl
  | readAccess target =>
      show (tryCatch (LeadsService.tryReserveCredit data.userId >>= afterReserve data target)
        _).residual input world = _
      rw [tryReserveCredit_bind, residual_tryCatch _ _ rfl, residual_query_bind, next]
      cases world.unlimited data.userId with
      | true =>
          rw [if_pos rfl, if_pos rfl, afterReserve_true]
          rfl
      | false => rfl
  | takeCredit target =>
      show (tryCatch (LeadsService.takeCredit data.userId >>= afterReserve data target)
        _).residual input world = _
      rw [LeadsService.takeCredit, residual_tryCatch _ _ rfl, residual_attempt_bind, next]
      dsimp only
      split
      · rename_i affordable
        rw [affordable, afterReserve_true]
        rfl
      · rename_i unaffordable
        rw [Bool.not_eq_true] at unaffordable
        rw [unaffordable]
        cases target <;> rfl
  | skipUnreserved => rfl
  | enrich target charged =>
      show (tryCatch (ApolloService.matchPerson >>= afterMatch data target)
        _).residual input world = _
      rw [ApolloService.matchPerson, residual_tryCatch _ _ rfl, residual_attempt_bind, next]
      cases ApolloService.outcome input.apolloMatch with
      | error error => rfl
      | ok found =>
          cases found with
          | none =>
              dsimp only
              rw [afterMatch_none]
              rfl
          | some person =>
              dsimp only
              cases target <;> (rw [afterMatch]; cases person.columns <;> rfl)
  | store result rest columns =>
      show (tryCatch (updateResult result.id columns.fill >>= fun _ => enrichAll data rest)
        _).residual input world = _
      rw [residual_updateResult, next]
      split
      · rw [code_loop]
      · rfl
  | readAccessToRefund target charged =>
      show (tryCatch (LeadsService.refundCredit data.userId >>= fun _ => afterRefund data target)
        _).residual input world = _
      rw [refundCredit_bind, residual_tryCatch _ _ rfl, residual_query_bind, next]
      cases world.unlimited data.userId with
      | true => cases target <;> rfl
      | false => rfl
  | refund target charged =>
      show (tryCatch (incrementCredits data.userId 1 >>= fun _ => afterRefund data target)
        _).residual input world = _
      rw [incrementCredits, UsersService.update, residual_tryCatch _ _ rfl,
        residual_attempt_bind, next]
      cases world.users.find? fun user => user.id = data.userId with
      | none => rfl
      | some user => cases target <;> rfl
  | markFailed result rest =>
      show (tryCatch (updateResult result.id _ >>= fun _ => enrichAll data rest)
        _).residual input world = _
      rw [residual_updateResult, next]
      split
      · rw [code_loop]
      · rfl
  | createDirect personName matched =>
      show (tryCatch (recordDirect data personName matched) _).residual input world = _
      rw [recordDirect, createResult, residual_tryCatch _ _ rfl, residual_attempt_bind, next]
      have owner : (directRow data personName matched world.nextId).jobId = data.jobId := by
        cases matched <;> rfl
      rw [owner]
      cases (world.findSearchJob data.jobId).isSome <;> rfl
  | complete audited =>
      cases audited with
      | true =>
          show (tryCatch (finishSearch data) _).residual input world = _
          rw [finishSearch, residual_updateJobStatus, next]
          cases world.findSearchJob data.jobId <;> rfl
      | false =>
          show (tryCatch (updateJobStatus data.jobId .completed >>= fun _ => pure ())
            _).residual input world = _
          rw [residual_updateJobStatus, next]
          cases world.findSearchJob data.jobId <;> rfl
  | audit => rfl
  | fail =>
      show (updateJobStatus data.jobId .failed >>= fun _ => pure ()).residual input world = _
      rw [updateJobStatus, residual_attempt_bind, next]
      cases world.findSearchJob data.jobId <;> rfl
  | finished outcome => cases outcome <;> rfl

/-- A rejection at a stage is handled as the stage says. -/
theorem rejected_code (stage : SearchStage) (error : ApiError) :
    (code data stage).rejected error = code data (abort stage error) := by
  cases stage with
  | create candidate rest made =>
      show (tryCatch (createPending data.jobId (candidate :: rest) made >>= enrichAll data)
        _).rejected error = _
      rw [abort, code_afterCreate]
      rfl
  | check result rest =>
      show (tryCatch (enrichAll data (result :: rest)) _).rejected error = _
      rw [enrichAll_cons]
      rfl
  | readAccess target =>
      show (tryCatch (LeadsService.tryReserveCredit data.userId >>= afterReserve data target)
        _).rejected error = _
      rw [tryReserveCredit_bind]
      rfl
  | readAccessToRefund target charged =>
      show (tryCatch (LeadsService.refundCredit data.userId >>= fun _ => afterRefund data target)
        _).rejected error = _
      rw [refundCredit_bind]
      rfl
  | complete audited => cases audited <;> rfl
  | finished outcome => cases outcome <;> rfl
  | _ => rfl

/-! ## The machine -/

/-- The stages of the runs of one queue job. -/
def machine : Machine SearchStage Input ApiError World where
  effect := effect data
  next := next data
  abort := abort

theorem implements : (machine data).Implements (code data) where
  effect _ _ _ := rfl
  next := residual_code data
  abort := rejected_code data

end SearchStage
end ConferenceContact
