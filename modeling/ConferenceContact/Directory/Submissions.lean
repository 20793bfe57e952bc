import ConferenceContact.Directory.Moderation
import ConferenceContact.Foundation.Purging
import ConferenceContact.Foundation.Reliance
import ConferenceContact.Model.Moderation

/-!
# Self-submitted leads

Requests that write the table `leads`, their calls interleaved and any of them rejected,
show a self-submission only once an administrator approves it, and as its submitter wrote
it unless an administrator updates it.  Handled one at a time, submissions that nobody
approves leave no trace in what subscribers and visitors read.
-/

namespace ConferenceContact

open Process

/-! ## What a call does to a row -/

/-- A row after a call of one of the requests, from the rows before it. -/
inductive RowStep (requests : List ModerationRequest) (before : List Lead) : Lead → Prop
  | kept {lead : Lead} : lead ∈ before → RowStep requests before lead
  | submitted (userId : UserId) (dto : SelfSubmitLeadDto) (id : Nat) :
      .submitSelf userId dto ∈ requests → RowStep requests before (dto.lead userId id)
  | created {lead : Lead} : lead.submittedByUserId = none → RowStep requests before lead
  | approved (adminUserId : UserId) {lead : Lead} :
      lead ∈ before → .approveLead adminUserId lead.id ∈ requests →
      RowStep requests before { lead with approved := true }
  | updated
      (adminUserId : UserId) (dto : UpdateLeadDto) {lead : Lead} {rewrite : Lead → Lead} :
      lead ∈ before → .updateLead adminUserId lead.id dto ∈ requests →
      dto.rewrite = .ok rewrite → RowStep requests before (rewrite lead)

/-- Every row comes from the rows before by a call of one of the requests. -/
def RowSteps (requests : List ModerationRequest) (before after : DirectoryWorld) : Prop :=
  ∀ lead ∈ after.leads, RowStep requests before.leads lead

variable {requests : List ModerationRequest}

instance : Std.Refl (RowSteps requests) where
  refl _ _ present := .kept present

/-- An update leaves alone what `UpdateLeadDto` does not have. -/
theorem UpdateLeadDto.rewrite_keeps
    {dto : UpdateLeadDto}
    {rewrite : Lead → Lead}
    (data : dto.rewrite = .ok rewrite)
    (lead : Lead) :
    (rewrite lead).id = lead.id ∧ (rewrite lead).approved = lead.approved ∧
      (rewrite lead).submittedByUserId = lead.submittedByUserId := by
  unfold UpdateLeadDto.rewrite at data
  cases name : requiredColumn dto.name with
  | error error =>
      rw [name] at data
      cases data
  | ok value =>
      cases likelyToAttend : requiredColumn dto.likelyToAttend with
      | error error =>
          rw [name, likelyToAttend] at data
          cases data
      | ok event =>
          rw [name, likelyToAttend] at data
          cases data
          exact ⟨rfl, rfl, rfl⟩

/-! ## The calls of a request -/

section

variable (requests)

theorem rowSteps_record (actorUserId : UserId) (action : LeadAuditAction) (targetId : Nat) :
    (LeadTable.record actorUserId action targetId).Respects (RowSteps requests) :=
  Respects.command fun _ _ _ present => .kept present

theorem rowSteps_create
    {lead : Nat → Lead}
    (step : ∀ before id, RowStep requests before (lead id)) :
    (LeadTable.create lead).Respects (RowSteps requests) := by
  refine Respects.attempt fun uuid world value after created => ?_
  split at created
  · cases created
  · split at created
    · cases created
      intro row present
      rcases List.mem_append.mp present with old | new
      · exact .kept old
      · rw [List.mem_singleton.mp new]
        exact step _ _
    · cases created

theorem rowSteps_update
    {id : Nat}
    {data : Except ApiError (Lead → Lead)}
    (step : ∀ before lead rewrite, lead ∈ before → lead.id = id → data = .ok rewrite →
      RowStep requests before (rewrite lead)) :
    (LeadTable.update id data).Respects (RowSteps requests) := by
  refine Respects.attempt fun uuid world value after updated => ?_
  cases outcome : data with
  | error error =>
      rw [outcome] at updated
      cases updated
  | ok rewrite =>
      rw [outcome] at updated
      dsimp only at updated
      split at updated
      · cases updated
      · cases updated
        intro row present
        obtain ⟨old, stored, rfl⟩ := Table.mem_updateWhere.mp present
        split
        · exact step _ old rewrite stored (of_decide_eq_true ‹_›) outcome
        · exact .kept stored

theorem rowSteps_delete (id : Nat) :
    (LeadTable.delete id).Respects (RowSteps requests) := by
  refine Respects.attempt fun uuid world value after deleted => ?_
  split at deleted
  · cases deleted
    exact fun row present => .kept (List.mem_of_mem_filter present)
  · cases deleted

end

/-- Every call of a request moves the rows as the request may. -/
theorem rowSteps_handle
    {request : ModerationRequest}
    (present : request ∈ requests) :
    request.handle.Respects (RowSteps requests) := by
  cases request with
  | submitSelf userId dto =>
      refine Respects.bind (Respects.bind (rowSteps_create requests fun _ id => ?_) fun lead => ?_)
        fun _ => Respects.pure _
      · exact .submitted userId dto id present
      · exact Respects.bind (rowSteps_record requests _ _ _) fun _ => Respects.pure _
  | createLead adminUserId dto =>
      refine Respects.bind (Respects.bind (rowSteps_create requests fun _ id => ?_) fun lead => ?_)
        fun _ => Respects.pure _
      · exact .created rfl
      · exact Respects.bind (rowSteps_record requests _ _ _) fun _ => Respects.pure _
  | approveLead adminUserId leadId =>
      refine Respects.bind (Respects.bind (Respects.query _) fun existing => ?_)
        fun _ => Respects.pure _
      cases existing with
      | none => exact Respects.throw _
      | some existing =>
          refine Respects.ite (Respects.throw _) (Respects.bind ?_ fun lead => ?_)
          · refine rowSteps_update requests fun before lead rewrite stored same data => ?_
            cases data
            exact .approved adminUserId stored (same ▸ present)
          · exact Respects.bind (rowSteps_record requests _ _ _) fun _ => Respects.pure _
  | updateLead adminUserId leadId dto =>
      refine Respects.bind (Respects.bind (Respects.query _) fun existing => ?_)
        fun _ => Respects.pure _
      cases existing with
      | none => exact Respects.throw _
      | some existing =>
          refine Respects.bind ?_ fun lead => ?_
          · refine rowSteps_update requests fun before lead rewrite stored same data => ?_
            exact .updated adminUserId dto stored (same ▸ present) data
          · exact Respects.bind (rowSteps_record requests _ _ _) fun _ => Respects.pure _
  | deleteLead adminUserId leadId =>
      refine Respects.bind (Respects.query _) fun existing => ?_
      cases existing with
      | none => exact Respects.throw _
      | some existing =>
          exact Respects.bind (rowSteps_delete requests _) fun _ => rowSteps_record requests _ _ _

/-! ## Where a visible self-submission comes from -/

/-- A row of the start, or the lead of a submission, that a row with a submitter goes back
to: it has what the submitter wrote unless a request updates it, and it is approved if the
row was at the start or a request approves it. -/
structure Vouched
    (start : List Lead)
    (requests : List ModerationRequest)
    (userId : UserId)
    (lead source : Lead) : Prop where
  id : lead.id = source.id
  origin : source ∈ start ∨
    ∃ dto, .submitSelf userId dto ∈ requests ∧ source = dto.lead userId source.id
  content : (∀ adminUserId dto, .updateLead adminUserId lead.id dto ∉ requests) →
    lead.toLeadRecord = source.toLeadRecord
  approval : lead.approved = true → source.approved = true ∨
    ∃ adminUserId, .approveLead adminUserId lead.id ∈ requests

/-- Every row with a submitter is vouched for. -/
def AllVouched
    (start : List Lead)
    (requests : List ModerationRequest)
    (world : DirectoryWorld) : Prop :=
  ∀ lead ∈ world.leads, ∀ userId, lead.submittedByUserId = some userId →
    ∃ source, Vouched start requests userId lead source

/-- What a call makes of the rows is vouched for as the rows are. -/
theorem RowSteps.vouched
    {start : List Lead}
    {before after : DirectoryWorld}
    (steps : RowSteps requests before after)
    (vouched : AllVouched start requests before) :
    AllVouched start requests after := by
  intro lead stored userId submitted
  cases steps lead stored with
  | kept present => exact vouched lead present userId submitted
  | submitted author dto id asked =>
      cases submitted
      exact ⟨dto.lead userId id, rfl, .inr ⟨dto, asked, rfl⟩, fun _ => rfl, .inl⟩
  | created missing =>
      rw [missing] at submitted
      cases submitted
  | approved adminUserId present asked =>
      obtain ⟨source, id, origin, content, -⟩ := vouched _ present userId submitted
      exact ⟨source, id, origin, content, fun _ => .inr ⟨adminUserId, asked⟩⟩
  | updated adminUserId dto present asked data =>
      obtain ⟨sameId, sameApproved, sameSubmitter⟩ := UpdateLeadDto.rewrite_keeps data _
      rw [sameSubmitter] at submitted
      obtain ⟨source, id, origin, -, approval⟩ := vouched _ present userId submitted
      refine ⟨source, sameId.trans id, origin, fun unchanged => ?_, fun approved => ?_⟩
      · rw [sameId] at unchanged
        exact absurd asked (unchanged adminUserId dto)
      · rw [sameApproved] at approved
        rw [sameId]
        exact approval approved

/-- Whatever the order of the calls, and whichever of them are rejected: a row with a
submitter goes back to a row of the start or to a submission of that user; it reads as that
unless a request of an administrator updates it, and is visible only if that was or if a
request of an administrator approves it. -/
theorem submission_vouched
    (start : DirectoryWorld)
    (requests : List ModerationRequest)
    (schedule : List (CrewTurn Nat ApiError))
    {lead : Lead}
    (present : lead ∈ (Process.machine.run
      { state := start, members := requests.map (·.handle) } schedule).state.leads)
    {userId : UserId}
    (submitted : lead.submittedByUserId = some userId) :
    ∃ source, Vouched start.leads requests userId lead source := by
  have vouched : AllVouched start.leads requests (Process.machine.run
      { state := start, members := requests.map (·.handle) } schedule).state := by
    refine Sustains.crew_of_respects (AllVouched start.leads requests)
      (fun _ _ (steps : RowSteps requests _ _) => steps.vouched) ?_ ?_ schedule
    · intro row stored userId submitted
      exact ⟨row, rfl, .inl stored, fun _ => rfl, .inl⟩
    · intro process member
      obtain ⟨request, asked, rfl⟩ := List.mem_map.mp member
      exact rowSteps_handle asked
  exact vouched lead present userId submitted

/-- The form of a user at an event. -/
def sampleForm : SelfSubmitLeadDto where
  name := "Bob"
  companyType := .agency
  likelyToAttend := "MAU Vegas 2026"

/-- Both calls of a submission, with an approval that comes too early between them, and then
the three calls of an approval. -/
theorem submission_vouched_approved :
    ∃ source, Vouched []
      [.submitSelf 5 sampleForm, .approveLead 1 7, .approveLead 2 7] 5
      { sampleForm.lead 5 7 with approved := true } source :=
  submission_vouched { users := [5] }
    [.submitSelf 5 sampleForm, .approveLead 1 7, .approveLead 2 7]
    [⟨1, 0, none⟩, ⟨0, 7, none⟩, ⟨0, 0, none⟩, ⟨2, 0, none⟩, ⟨2, 0, none⟩, ⟨2, 0, none⟩]
    (by decide) rfl

/-! ## Requests one at a time -/

/-- The tables without the audit log. -/
def DirectoryWorld.tables (world : DirectoryWorld) : List Lead × List UserId :=
  (world.leads, world.users)

/-- A request handled by itself, with the `uuid()` of the lead it creates. -/
structure LeadCall where
  request : ModerationRequest
  uuid : Nat

namespace LeadCall

/-- The tables after a request. -/
def step (world : DirectoryWorld) (call : LeadCall) : DirectoryWorld :=
  (call.request.handle.run call.uuid world).2

/-- The tables after requests. -/
def run (start : DirectoryWorld) (calls : List LeadCall) : DirectoryWorld :=
  calls.foldl step start

/-- The request is a self-submission. -/
def submits (call : LeadCall) : Bool :=
  match call.request with
  | .submitSelf _ _ => true
  | _ => false

/-- The request creates a lead on behalf of an administrator. -/
def creates (call : LeadCall) : Bool :=
  match call.request with
  | .createLead _ _ => true
  | _ => false

/-- The request is for the approval of a lead. -/
def approves (id : Nat) (call : LeadCall) : Bool :=
  match call.request with
  | .approveLead _ leadId => leadId = id
  | _ => false

/-- The id is that of a submission that no request approves. -/
def unapproved (calls : List LeadCall) (id : Nat) : Bool :=
  (calls.any fun call => call.submits && call.uuid = id) && !calls.any (approves id)

/-- The id of the lead that the request is about. -/
def subject (call : LeadCall) : Nat :=
  match call.request with
  | .submitSelf _ _ => call.uuid
  | .createLead _ _ => call.uuid
  | .approveLead _ leadId => leadId
  | .updateLead _ leadId _ => leadId
  | .deleteLead _ leadId => leadId

/-- The request is not about a submission that nobody approves. -/
def stays (calls : List LeadCall) (call : LeadCall) : Bool :=
  !unapproved calls call.subject

/-- The requests without the submissions that nobody approves and the requests about them. -/
def purge (calls : List LeadCall) : List LeadCall :=
  calls.filter (stays calls)

/-- The `uuid()` of a submission is not the id of another lead. -/
structure Fresh (start : DirectoryWorld) (calls : List LeadCall) : Prop where
  stored : ∀ call ∈ calls, call.submits = true → ∀ lead ∈ start.leads, lead.id ≠ call.uuid
  created : ∀ call ∈ calls, call.submits = true → ∀ other ∈ calls, other.creates = true →
    other.uuid ≠ call.uuid

/-! ### What a request leaves of the leads -/

/-- The audit log is none of the tables. -/
theorem sameTables_record
    (actorUserId : UserId)
    (action : LeadAuditAction)
    (targetId : Nat) :
    (LeadTable.record actorUserId action targetId).Respects fun before after =>
      after.tables = before.tables :=
  Respects.command fun _ _ => rfl

/-- What follows a write is its audit row. -/
theorem tables_recorded
    {process : DirectoryService α}
    (actorUserId : UserId)
    (action : LeadAuditAction)
    (targetId : α → Nat)
    (result : α → β)
    (uuid : Nat)
    (world : DirectoryWorld) :
    ((do
      let value ← process
      LeadTable.record actorUserId action (targetId value)
      return result value : DirectoryService β).run uuid world).2.tables =
      (process.run uuid world).2.tables :=
  Respects.view_run_bind DirectoryWorld.tables
    (fun _ => Respects.bind (sameTables_record _ _ _) fun _ => Respects.pure _) uuid world

theorem tables_discard (process : DirectoryService α) (uuid : Nat) (world : DirectoryWorld) :
    ((do let _ ← process : DirectoryService Unit).run uuid world).2.tables =
      (process.run uuid world).2.tables :=
  Respects.view_run_bind DirectoryWorld.tables (fun _ => Respects.pure _) uuid world

/-- The leads after a request. -/
def written (users : List UserId) (leads : List Lead) (call : LeadCall) : List Lead :=
  match call.request with
  | .submitSelf userId dto =>
      if leads.any fun lead => lead.id = call.uuid then leads
      else if userId ∈ users then leads ++ [dto.lead userId call.uuid]
      else leads
  | .createLead _ dto =>
      if leads.any fun lead => lead.id = call.uuid then leads
      else leads ++ [dto.lead call.uuid]
  | .approveLead _ leadId =>
      if (leads.find? fun lead => lead.id = leadId).all (·.approved) then leads
      else Table.updateWhere (fun lead => lead.id = leadId)
        (fun lead => { lead with approved := true }) leads
  | .updateLead _ leadId dto =>
      match dto.rewrite with
      | .ok rewrite => Table.updateWhere (fun lead => lead.id = leadId) rewrite leads
      | .error _ => leads
  | .deleteLead _ leadId => leads.filter fun lead => lead.id ≠ leadId

theorem updateWhere_missing
    {leads : List Lead}
    {id : Nat}
    (missing : (leads.find? fun lead => lead.id = id) = none)
    (rewrite : Lead → Lead) :
    Table.updateWhere (fun lead => lead.id = id) rewrite leads = leads :=
  Table.updateWhere_eq_self fun lead present same =>
    absurd same (List.find?_eq_none.mp missing lead present)

theorem filter_missing
    {leads : List Lead}
    {id : Nat}
    (missing : (leads.find? fun lead => lead.id = id) = none) :
    (leads.filter fun lead => lead.id ≠ id) = leads := by
  refine List.filter_eq_self.mpr fun lead present => ?_
  simpa using List.find?_eq_none.mp missing lead present

/-- An update rewrites the leads with an id, if its data is valid. -/
theorem tables_update
    (id uuid : Nat)
    (data : Except ApiError (Lead → Lead))
    (world : DirectoryWorld) :
    ((LeadTable.update id data).run uuid world).2.tables =
      (match data with
        | .ok rewrite => Table.updateWhere (fun lead => lead.id = id) rewrite world.leads
        | .error _ => world.leads,
        world.users) := by
  unfold LeadTable.update
  rw [run_attempt]
  cases data with
  | error error => rfl
  | ok rewrite =>
      cases found : world.leads.find? fun lead => lead.id = id with
      | some lead => rfl
      | none =>
          show (world.leads, world.users) =
            (Table.updateWhere (fun lead => lead.id = id) rewrite world.leads, world.users)
          rw [updateWhere_missing found]

/-- A lead is created unless its id is taken or its submitter unknown. -/
theorem tables_create (lead : Nat → Lead) (uuid : Nat) (world : DirectoryWorld) :
    ((LeadTable.create lead).run uuid world).2.tables =
      (if world.leads.any fun other => other.id = uuid then world.leads
        else if (lead uuid).submittedByUserId.all (· ∈ world.users) then
          world.leads ++ [lead uuid]
        else world.leads,
        world.users) := by
  unfold LeadTable.create
  rw [run_attempt]
  by_cases taken : (world.leads.any fun other => other.id = uuid) = true
  · rw [if_pos taken, if_pos taken]
    rfl
  · rw [if_neg taken, if_neg taken]
    by_cases known : (lead uuid).submittedByUserId.all (· ∈ world.users) = true
    · rw [if_pos known, if_pos known]
      rfl
    · rw [if_neg known, if_neg known]
      rfl

theorem tables_delete (id uuid : Nat) (world : DirectoryWorld) :
    ((LeadTable.delete id).run uuid world).2.tables =
      (world.leads.filter fun lead => lead.id ≠ id, world.users) := by
  unfold LeadTable.delete
  rw [run_attempt]
  by_cases present : (world.leads.any fun lead => lead.id = id) = true
  · rw [if_pos present]
    rfl
  · have missing : (world.leads.find? fun lead => lead.id = id) = none := by
      simpa using present
    rw [if_neg present, filter_missing missing]
    rfl

/-- What a request leaves of the tables. -/
theorem tables_step (world : DirectoryWorld) (call : LeadCall) :
    (step world call).tables = (call.written world.users world.leads, world.users) := by
  obtain ⟨request, uuid⟩ := call
  cases request with
  | submitSelf userId dto =>
      have created := tables_create (dto.lead userId) uuid world
      simp only [SelfSubmitLeadDto.lead, Option.all_some, decide_eq_true_eq] at created
      exact (tables_discard _ uuid world).trans ((tables_recorded _ _ _ _ uuid world).trans created)
  | createLead adminUserId dto =>
      have created := tables_create dto.lead uuid world
      simp only [CreateLeadDto.lead, Option.all_none, if_true] at created
      exact (tables_discard _ uuid world).trans ((tables_recorded _ _ _ _ uuid world).trans created)
  | approveLead adminUserId leadId =>
      refine (tables_discard _ uuid world).trans ?_
      unfold AdminService.approveLead LeadTable.findUnique written
      rw [run_bind, run_query]
      dsimp only
      cases found : world.leads.find? fun lead => lead.id = leadId with
      | none => rfl
      | some existing =>
          rw [Option.all_some]
          dsimp only
          cases existing.approved with
          | true => rfl
          | false =>
              exact (tables_recorded _ _ _ _ uuid world).trans (tables_update leadId uuid _ world)
  | updateLead adminUserId leadId dto =>
      refine (tables_discard _ uuid world).trans ?_
      have updated := tables_update leadId uuid dto.rewrite world
      unfold AdminService.updateLead LeadTable.findUnique written
      rw [run_bind, run_query]
      dsimp only
      cases found : world.leads.find? fun lead => lead.id = leadId with
      | none =>
          cases dto.rewrite with
          | error error => rfl
          | ok rewrite =>
              dsimp only
              rw [updateWhere_missing found]
              rfl
      | some existing => exact (tables_recorded _ _ _ _ uuid world).trans updated
  | deleteLead adminUserId leadId =>
      unfold step ModerationRequest.handle AdminService.deleteLead LeadTable.findUnique written
      rw [run_bind, run_query]
      dsimp only
      cases found : world.leads.find? fun lead => lead.id = leadId with
      | none =>
          rw [filter_missing found]
          rfl
      | some existing =>
          exact (Respects.view_run_bind DirectoryWorld.tables (fun _ => sameTables_record _ _ _)
            uuid world).trans (tables_delete leadId uuid world)

/-! ### Submissions that nobody approves -/

section

variable (calls : List LeadCall)

/-- The tables of a run and of the run without the submissions that nobody approves: these
are hidden in the first and missing in the second. -/
structure Purged (full part : DirectoryWorld) : Prop where
  users : part.users = full.users
  leads : part.leads = full.leads.filter fun lead => !unapproved calls lead.id
  hidden : ∀ lead ∈ full.leads, unapproved calls lead.id = true → lead.approved = false

end

variable {calls : List LeadCall} {call : LeadCall} {start : DirectoryWorld}

/-- A lead that an administrator creates is no submission that nobody approves. -/
theorem Fresh.created_shown
    (fresh : Fresh start calls)
    (asked : call ∈ calls)
    (creates : call.creates = true) :
    unapproved calls call.uuid = false := by
  have unsubmitted : (calls.any fun other => other.submits && other.uuid = call.uuid) = false := by
    refine List.any_eq_false.mpr fun other present submitted => ?_
    rw [Bool.and_eq_true] at submitted
    exact fresh.created other present submitted.1 call asked creates
      (of_decide_eq_true submitted.2).symm
  rw [unapproved, unsubmitted, Bool.false_and]

/-- Neither is a row of the start. -/
theorem Fresh.stored_shown
    (fresh : Fresh start calls)
    {lead : Lead}
    (stored : lead ∈ start.leads) :
    unapproved calls lead.id = false := by
  have unsubmitted : (calls.any fun other => other.submits && other.uuid = lead.id) = false := by
    refine List.any_eq_false.mpr fun other present submitted => ?_
    rw [Bool.and_eq_true] at submitted
    exact fresh.stored other present submitted.1 lead stored (of_decide_eq_true submitted.2).symm
  rw [unapproved, unsubmitted, Bool.false_and]

/-- Neither is a lead that a request approves. -/
theorem approved_shown
    {id : Nat}
    (asked : call ∈ calls)
    (approves : call.approves id = true) :
    unapproved calls id = false := by
  have approved : calls.any (LeadCall.approves id) = true :=
    List.any_eq_true.mpr ⟨call, asked, approves⟩
  rw [unapproved, approved, Bool.not_true, Bool.and_false]

/-- A lookup by an id that is shown. -/
theorem find?_shown
    {id : Nat}
    (shown : unapproved calls id = false)
    (leads : List Lead) :
    ((leads.filter fun lead => !unapproved calls lead.id).find? fun lead => lead.id = id) =
      leads.find? fun lead => lead.id = id := by
  rw [List.find?_filter]
  congr 1
  funext lead
  by_cases same : lead.id = id
  · simp [same, shown]
  · simp [same]

theorem any_shown
    {id : Nat}
    (shown : unapproved calls id = false)
    (leads : List Lead) :
    ((leads.filter fun lead => !unapproved calls lead.id).any fun lead => lead.id = id) =
      leads.any fun lead => lead.id = id := by
  rw [List.any_filter]
  congr 1
  funext lead
  by_cases same : lead.id = id
  · simp [same, shown]
  · simp [same]

/-- A request that stays does with the leads that are shown what it does with all. -/
theorem written_filter
    (fresh : Fresh start calls)
    (asked : call ∈ calls)
    (staying : call.stays calls = true)
    (users : List UserId)
    (leads : List Lead) :
    call.written users (leads.filter fun lead => !unapproved calls lead.id) =
      (call.written users leads).filter fun lead => !unapproved calls lead.id := by
  obtain ⟨request, uuid⟩ := call
  unfold written
  cases request with
  | submitSelf userId dto =>
      have shown : unapproved calls uuid = false := by
        simpa [stays, subject] using staying
      dsimp only
      rw [any_shown shown]
      split
      · rfl
      · split
        · simp [SelfSubmitLeadDto.lead, shown]
        · rfl
  | createLead adminUserId dto =>
      have shown : unapproved calls uuid = false := fresh.created_shown asked rfl
      dsimp only
      rw [any_shown shown]
      split
      · rfl
      · simp [CreateLeadDto.lead, shown]
  | approveLead adminUserId leadId =>
      have shown : unapproved calls leadId = false :=
        approved_shown asked (by simp [approves])
      dsimp only
      rw [find?_shown shown]
      split
      · rfl
      · refine Table.updateWhere_filter _ (fun lead _ => ?_) leads
        rfl
  | updateLead adminUserId leadId dto =>
      dsimp only
      cases data : dto.rewrite with
      | error error => rfl
      | ok rewrite =>
          refine Table.updateWhere_filter _ (fun lead _ => ?_) leads
          rw [(UpdateLeadDto.rewrite_keeps data lead).1]
  | deleteLead adminUserId leadId =>
      dsimp only
      rw [List.filter_filter, List.filter_filter]
      congr 1
      funext lead
      exact Bool.and_comm _ _

/-- A request about a submission that nobody approves does nothing that is shown. -/
theorem written_dropped
    (fresh : Fresh start calls)
    (asked : call ∈ calls)
    (dropped : call.stays calls = false)
    (users : List UserId)
    (leads : List Lead) :
    (call.written users leads).filter (fun lead => !unapproved calls lead.id) =
      leads.filter fun lead => !unapproved calls lead.id := by
  obtain ⟨request, uuid⟩ := call
  unfold stays subject at dropped
  rw [Bool.not_eq_false'] at dropped
  unfold written
  cases request with
  | submitSelf userId dto =>
      have hidden : unapproved calls uuid = true := dropped
      dsimp only
      split
      · rfl
      · split
        · simp [SelfSubmitLeadDto.lead, hidden]
        · rfl
  | createLead adminUserId dto =>
      have shown : unapproved calls uuid = false := fresh.created_shown asked rfl
      cases shown.symm.trans dropped
  | approveLead adminUserId leadId =>
      have shown : unapproved calls leadId = false :=
        approved_shown asked (by simp [approves])
      cases shown.symm.trans dropped
  | updateLead adminUserId leadId dto =>
      have hidden : unapproved calls leadId = true := dropped
      dsimp only
      cases data : dto.rewrite with
      | error error => rfl
      | ok rewrite =>
          refine Table.filter_updateWhere fun lead _ same => ?_
          rw [(UpdateLeadDto.rewrite_keeps data lead).1, of_decide_eq_true same, hidden]
          exact ⟨rfl, rfl⟩
  | deleteLead adminUserId leadId =>
      have hidden : unapproved calls leadId = true := dropped
      dsimp only
      rw [List.filter_filter]
      refine List.filter_congr fun lead _ => ?_
      by_cases same : lead.id = leadId
      · simp [same, hidden]
      · simp [same]

/-- What is hidden stays unapproved. -/
theorem written_hidden
    (fresh : Fresh start calls)
    (asked : call ∈ calls)
    {users : List UserId}
    {leads : List Lead}
    (hidden : ∀ lead ∈ leads, unapproved calls lead.id = true → lead.approved = false) :
    ∀ lead ∈ call.written users leads, unapproved calls lead.id = true →
      lead.approved = false := by
  obtain ⟨request, uuid⟩ := call
  unfold written
  cases request with
  | submitSelf userId dto =>
      dsimp only
      split
      · exact hidden
      · split
        · intro lead present
          rcases List.mem_append.mp present with old | new
          · exact hidden lead old
          · rw [List.mem_singleton.mp new]
            exact fun _ => rfl
        · exact hidden
  | createLead adminUserId dto =>
      dsimp only
      split
      · exact hidden
      · intro lead present unseen
        rcases List.mem_append.mp present with old | new
        · exact hidden lead old unseen
        · have shown : unapproved calls uuid = false := fresh.created_shown asked rfl
          rw [List.mem_singleton.mp new] at unseen
          exact absurd (shown.symm.trans unseen) Bool.false_ne_true
  | approveLead adminUserId leadId =>
      have shown : unapproved calls leadId = false :=
        approved_shown asked (by simp [approves])
      dsimp only
      split
      · exact hidden
      · intro lead present unseen
        obtain ⟨old, stored, rfl⟩ := Table.mem_updateWhere.mp present
        split at unseen
        · rename_i same
          rw [of_decide_eq_true same, shown] at unseen
          cases unseen
        · rw [if_neg ‹_›]
          exact hidden old stored unseen
  | updateLead adminUserId leadId dto =>
      dsimp only
      cases data : dto.rewrite with
      | error error => exact hidden
      | ok rewrite =>
          intro lead present unseen
          obtain ⟨old, stored, rfl⟩ := Table.mem_updateWhere.mp present
          obtain ⟨sameId, sameApproved, -⟩ := UpdateLeadDto.rewrite_keeps data old
          split at unseen
          · rw [sameId] at unseen
            rw [if_pos ‹_›, sameApproved]
            exact hidden old stored unseen
          · rw [if_neg ‹_›]
            exact hidden old stored unseen
  | deleteLead adminUserId leadId =>
      intro lead present
      exact hidden lead (List.mem_of_mem_filter present)

theorem leads_step (world : DirectoryWorld) (call : LeadCall) :
    (step world call).leads = call.written world.users world.leads :=
  congrArg Prod.fst (tables_step world call)

theorem users_step (world : DirectoryWorld) (call : LeadCall) :
    (step world call).users = world.users :=
  congrArg Prod.snd (tables_step world call)

/-- Submissions that no administrator approves might as well not have been made: whatever
requests are handled one at a time, subscribers and visitors read in the end what they would
read without those submissions and the requests about them, the lists of filters apart. -/
theorem purge_unread
    (store : LeadStore)
    {start : DirectoryWorld}
    {calls : List LeadCall}
    (fresh : Fresh start calls)
    {read : LeadsRead}
    (notFilters : read ≠ .getFilters)
    (notEvents : read ≠ .getEventOptions) :
    read.answer store (run start calls).leads =
      read.answer store (run start (purge calls)).leads := by
  have along : Along step (fun _ call => call ∈ calls) start calls :=
    Along.of_forall fun _ present _ => present
  have related : Purged calls (run start calls) (run start (purge calls)) := by
    refine Along.related_filter (fun full part call related asked staying => ?_)
      (fun full part call related asked dropped => ?_) ?_ along
    · refine ⟨?_, ?_, ?_⟩
      · rw [users_step, users_step, related.users]
      · rw [leads_step, leads_step, related.users, related.leads,
          written_filter fresh asked staying]
      · rw [leads_step]
        exact written_hidden fresh asked related.hidden
    · refine ⟨?_, ?_, ?_⟩
      · rw [users_step, related.users]
      · rw [leads_step, written_dropped fresh asked dropped, related.leads]
      · rw [leads_step]
        exact written_hidden fresh asked related.hidden
    · refine ⟨rfl, ?_, ?_⟩
      · refine (List.filter_eq_self.mpr fun lead stored => ?_).symm
        rw [fresh.stored_shown stored, Bool.not_false]
      · intro lead stored unseen
        rw [fresh.stored_shown stored] at unseen
        cases unseen
  refine LeadsRead.seesOnly store notFilters notEvents _ _ ?_
  rw [related.leads, List.filter_filter]
  refine List.filter_congr fun lead present => ?_
  cases unseen : unapproved calls lead.id with
  | true => rw [related.hidden lead present unseen, Bool.false_and]
  | false => rw [Bool.not_false, Bool.and_true]

/-- One submission that an administrator approves, and one that nobody approves although an
administrator rewrites it. -/
def sampleCalls : List LeadCall :=
  [⟨.submitSelf 5 sampleForm, 7⟩, ⟨.submitSelf 5 { sampleForm with name := "Eve" }, 8⟩,
    ⟨.updateLead 1 8 { company := some (some "Acme") }, 0⟩, ⟨.approveLead 1 7, 0⟩]

/-- The preview of the second submission. -/
theorem purge_unread_preview :
    (LeadsRead.preview "Eve").answer sampleLeadStore
        (run { leads := [sampleLead], users := [5] } sampleCalls).leads =
      (LeadsRead.preview "Eve").answer sampleLeadStore
        (run { leads := [sampleLead], users := [5] } (purge sampleCalls)).leads :=
  purge_unread sampleLeadStore ⟨by decide, by decide⟩ (by simp) (by simp)

end LeadCall

end ConferenceContact
