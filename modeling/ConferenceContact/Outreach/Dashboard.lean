import ConferenceContact.Foundation.Crews
import ConferenceContact.Outreach.ColdInvites
import ConferenceContact.Outreach.Uploads

/-!
# The dashboard of the campaign

The statistics that administrators see are counts of the rows of the queue.  Requests are
handled one at a time: the statistics move by what the responses of uploads and drips
report, and by nothing else.
-/

namespace ConferenceContact

open Process ProspectCampaignService

/-! ## Counts by status -/

/-- The rows with one of some statuses. -/
def World.countStatuses (chosen : ProspectInviteQueueStatus → Bool) (world : World) : Nat :=
  world.prospectInviteQueue.countP fun row => chosen row.status

theorem lookup_groupByStatus
    (rows : List ProspectInviteQueue)
    (status : ProspectInviteQueueStatus) :
    ((groupByStatus rows).lookup status).getD 0 = rows.countP fun row => row.status = status := by
  have count : ((groupByStatus rows).lookup status).getD 0 =
      (([] : List (ProspectInviteQueueStatus × Nat)).lookup status).getD 0 +
        ((rows.filter fun row => row.status = status).map fun _ => 1).sum :=
    Grouping.lookup_group id (fun _ => 1) (fun _ _ => rfl) rows status
  rw [count, List.countP_eq_length_filter]
  simp

theorem sum_groupByStatus (rows : List ProspectInviteQueue) :
    ((groupByStatus rows).map Prod.snd).sum = rows.length := by
  have sum : ((groupByStatus rows).map fun entry => entry.2).sum =
      (([] : List (ProspectInviteQueueStatus × Nat)).map fun entry => entry.2).sum +
        (rows.map fun _ => 1).sum :=
    Grouping.sum_group id (fun _ => 1) rfl (fun _ _ => rfl) rows
  rw [sum]
  simp

/-- What the dashboard shows of the rows. -/
structure Shows (world : World) (stats : CampaignStats) : Prop where
  pending : stats.pending = world.countStatuses (· = .pending)
  skippedExistingUser : stats.skippedExistingUser = world.countStatuses (· = .skippedExistingUser)
  skippedUnsubscribed : stats.skippedUnsubscribed = world.countStatuses (· = .skippedUnsubscribed)
  attempted : stats.sent + stats.bounced + stats.complained =
    world.countStatuses (· ∈ [.sent, .bounced, .complained])
  total : stats.total = world.countStatuses fun _ => true

theorem run_getStats (input : Input) (world : World) :
    ∃ stats, (getStats.run input world).1 = .ok stats ∧ Shows world stats := by
  refine ⟨_, rfl, lookup_groupByStatus _ _, lookup_groupByStatus _ _, lookup_groupByStatus _ _,
    ?_, ?_⟩
  · simp only [lookup_groupByStatus, World.countStatuses]
    induction world.prospectInviteQueue with
    | nil => rfl
    | cons row rest inductionHypothesis =>
        simp only [List.countP_cons, ← inductionHypothesis]
        cases row.status <;> simp <;> omega
  · rw [World.countStatuses, List.countP_true]
    exact sum_groupByStatus _

/-! ## Responses -/

/-- A request handled by itself, with what its calls read. -/
structure CampaignCall where
  request : OutreachRequest
  input : Input

/-- What the response to a request reports: the addresses that an upload queued, and the
counts of a drip. -/
structure CampaignReport where
  queued : Nat := 0
  drip : DripResult := {}
  deriving DecidableEq

namespace CampaignCall

variable (app : Deployment)

/-- The state after a request. -/
def step (world : World) (call : CampaignCall) : World :=
  ((call.request.handle app).run call.input world).2

/-- What a request has reported. -/
def report (world : World) (call : CampaignCall) : CampaignReport :=
  match call.request with
  | .upload uploadedByUserId rawEmails =>
      match ((enqueueUploadedEmails app uploadedByUserId rawEmails).run call.input world).1 with
      | .ok result => { queued := result.queued }
      | .error _ => {}
  | .runDailyDrip =>
      match (ProspectCampaignService.runDailyDrip.run call.input world).1 with
      | .ok result => { drip := result }
      | .error _ => {}
  | _ => {}

end CampaignCall

/-! ## Requests that leave the rows alone -/

/-- The rows stay as they are. -/
def SameQueue (before after : World) : Prop :=
  after.prospectInviteQueue = before.prospectInviteQueue

instance : IsPreorder World SameQueue where
  refl _ := rfl
  trans _ _ _ earlier later := Eq.trans later earlier

theorem sameQueue_record (actor : Option UserId) (action : AuditAction) :
    (AuditService.record actor action).Respects SameQueue :=
  Respects.command fun _ _ => rfl

variable {app : Deployment}

theorem sameQueue_register (dto : RegisterDto) :
    (AuthService.register app dto).Respects SameQueue := by
  refine Respects.bind (Respects.query _) fun existing => Respects.ite (Respects.throw _) ?_
  refine Respects.bind (Respects.attempt fun input world value after registered => ?_)
    fun user => sameQueue_record _ _
  split at registered
  · cases registered
  · dsimp only at registered
    split at registered
    · cases registered
      rfl
    · cases registered
      rfl

theorem sameQueue_deleteUser (adminUserId targetUserId : UserId) :
    (AdminService.deleteUser app adminUserId targetUserId).Respects SameQueue :=
  Footprint.deleteUser (Footprint.updateUser fun _ _ => rfl) (Respects.command fun _ _ => rfl)
    (fun _ _ => rfl) sameQueue_record app adminUserId

theorem sameQueue_deleteAccount (userId : UserId) (password : String) :
    (AuthService.deleteAccount app userId password).Respects SameQueue :=
  Footprint.deleteAccount (fun _ _ => rfl) (fun _ => Footprint.eraseAccount fun _ _ _ _ => rfl)
    (Footprint.revokeUser (fun _ _ => rfl) app userId) sameQueue_record password

theorem sameQueue_suppress (email : String) : (suppress email).Respects SameQueue := by
  refine Respects.command fun input world => ?_
  split
  · exact refl_of SameQueue world
  · rfl

theorem sameQueue_unsubscribe (dto : UnsubscribeDto) :
    (UnsubscribeController.post app dto).Respects SameQueue :=
  Respects.ite (Respects.ite (Respects.throw _) (sameQueue_suppress _)) (Respects.throw _)

theorem sameQueue_updateSettings (adminUserId : UserId) (dto : UpdateCampaignSettingsDto) :
    (ProspectCampaignService.updateSettings adminUserId dto).Respects SameQueue := by
  refine Respects.bind (Respects.attempt fun input world value after updated => ?_)
    fun _ => Respects.bind (sameQueue_record _ _) fun _ => Respects.pure _
  cases updated
  rfl

theorem sameQueue_enqueueChunks (chunks : List (List EmailJob)) :
    (EmailService.enqueueChunks chunks).Respects SameQueue := by
  induction chunks with
  | nil => exact Respects.pure ()
  | cons chunk rest inductionHypothesis =>
      refine Respects.bind (Respects.tryCatch (Respects.command fun input world => ?_)
        fun _ => Respects.pure ()) fun _ => inductionHypothesis
      split
      · rfl
      · exact refl_of SameQueue world

theorem sameQueue_inviteProspect (adminUserId : UserId) (email : String) :
    (AdminService.inviteProspect app adminUserId email).Respects SameQueue := by
  refine Respects.bind (Respects.query _) fun existingUser => ?_
  refine Respects.bind (Respects.query _) fun suppressed => ?_
  refine Respects.ite (Respects.throw _) (Respects.ite (Respects.throw _) ?_)
  exact Respects.bind (sameQueue_enqueueChunks _) fun _ => sameQueue_record _ _

/-! ## What a request does to the counts -/

variable {chosen : ProspectInviteQueueStatus → Bool}

/-- A bounce and a complaint only tell apart what was attempted. -/
structure CountsAttempts (chosen : ProspectInviteQueueStatus → Bool) : Prop where
  bounced : chosen .bounced = chosen .sent
  complained : chosen .complained = chosen .sent

/-- The rows are counted alike. -/
def SameCount (chosen : ProspectInviteQueueStatus → Bool) (before after : World) : Prop :=
  after.countStatuses chosen = before.countStatuses chosen

instance : IsPreorder World (SameCount chosen) where
  refl _ := rfl
  trans _ _ _ earlier later := Eq.trans later earlier

theorem SameQueue.sameCount
    {before after : World}
    (same : SameQueue before after) :
    SameCount chosen before after :=
  congrArg (List.countP fun row : ProspectInviteQueue => chosen row.status) same

theorem sameCount_suppressAndUpdateStatus
    {status : ProspectInviteQueueStatus}
    (alike : chosen status = chosen .sent)
    (rawEmail : String) :
    (suppressAndUpdateStatus app rawEmail status).Respects (SameCount chosen) := by
  refine Respects.bind ((sameQueue_suppress _).mono fun _ _ same => same.sameCount) fun _ => ?_
  refine Respects.command fun input world => ?_
  unfold SameCount World.countStatuses Table.updateWhere
  dsimp only
  rw [List.countP_map]
  refine List.countP_congr fun row _ => ?_
  rw [Function.comp_apply]
  split
  · rename_i sent
    rw [decide_eq_true_eq] at sent
    rw [sent.2, alike]
  · rfl

theorem sameCount_handleResendWebhook
    (attempts : CountsAttempts chosen)
    (event : ResendWebhookEvent) :
    (ResendWebhookController.handleResendWebhook app event).Respects (SameCount chosen) := by
  unfold ResendWebhookController.handleResendWebhook
  cases event.recipients.head?.filter (· ≠ "") with
  | none => exact Respects.pure ()
  | some recipient =>
      dsimp only
      cases event.type with
      | bounced => exact sameCount_suppressAndUpdateStatus attempts.bounced recipient
      | complained => exact sameCount_suppressAndUpdateStatus attempts.complained recipient
      | other => exact Respects.pure ()

/-- An amount that counts where a status is chosen. -/
def amountIf (chosen : Bool) (amount : Nat) : Nat := if chosen then amount else 0

/-- What a report takes from the rows with some statuses. -/
def CampaignReport.leaves
    (chosen : ProspectInviteQueueStatus → Bool)
    (report : CampaignReport) : Nat :=
  amountIf (chosen .pending) report.drip.batchSize

/-- What a report adds to them. -/
def CampaignReport.enters
    (chosen : ProspectInviteQueueStatus → Bool)
    (report : CampaignReport) : Nat :=
  amountIf (chosen .pending) report.queued + amountIf (chosen .sent) report.drip.sent +
    amountIf (chosen .skippedExistingUser) report.drip.skippedExisting +
    amountIf (chosen .skippedUnsubscribed) report.drip.skippedUnsubscribed

/-- The counts move as a report says. -/
def Balances
    (chosen : ProspectInviteQueueStatus → Bool)
    (before : World)
    (report : CampaignReport)
    (after : World) : Prop :=
  after.countStatuses chosen + report.leaves chosen =
    before.countStatuses chosen + report.enters chosen

theorem SameCount.balances
    {before after : World}
    (same : SameCount chosen before after) :
    Balances chosen before {} after := by
  have counted : after.countStatuses chosen = before.countStatuses chosen := same
  unfold Balances CampaignReport.leaves CampaignReport.enters amountIf
  simpa using counted

/-- An upload moves the counts by the rows that it reports, also if it fails for want of an
uploader. -/
theorem balances_upload
    (uploadedByUserId : UserId)
    (rawEmails : List String)
    (input : Input)
    (world : World) :
    Balances chosen world
      (CampaignCall.report app world ⟨.upload uploadedByUserId rawEmails, input⟩)
      ((enqueueUploadedEmails app uploadedByUserId rawEmails).run input world).2 := by
  unfold CampaignCall.report
  dsimp only
  by_cases uploader : ∃ user ∈ world.users, user.id = uploadedByUserId
  · rw [enqueueUploadedEmails_eq, run_enqueueInChunks (by decide) uploader]
    have added : (newRows app uploadedByUserId input.now world rawEmails).countP
        (fun row => chosen row.status) =
          amountIf (chosen .pending) (uploadResult app world rawEmails).queued := by
      simp only [newRows, List.countP_reverse, List.countP_map, uploadResult, amountIf]
      cases wanted : chosen .pending with
      | true => simp [Function.comp_def, newRow, wanted]
      | false => simp [Function.comp_def, newRow, wanted]
    unfold Balances CampaignReport.leaves CampaignReport.enters World.countStatuses
    dsimp only
    rw [List.countP_append, added]
    simp [amountIf, Nat.add_comm]
  · rw [enqueueUploadedEmails_eq, run_enqueueInChunks_eq (by decide),
      run_queueNew_of_unknown uploader]
    by_cases some : 0 < (newEmails app world rawEmails).length
    · rw [if_pos some]
      exact SameCount.balances rfl
    · have none : (uploadResult app world rawEmails).queued = 0 := Nat.eq_zero_of_not_pos some
      rw [if_neg some]
      dsimp only
      rw [none]
      exact SameCount.balances rfl

theorem amountIf_add (chosen : Bool) (first second : Nat) :
    amountIf chosen (first + second) = amountIf chosen first + amountIf chosen second := by
  cases chosen with
  | true => rfl
  | false => rfl

/-- The rows of a batch, counted by what becomes of them. -/
theorem countP_verdict (world : World) (batch : List ProspectInviteQueue) :
    batch.countP (fun row => chosen (world.verdict row.email)) =
      amountIf (chosen .sent) (batch.countP fun row => world.verdict row.email = .sent) +
        amountIf (chosen .skippedExistingUser)
          (batch.countP fun row => world.verdict row.email = .skippedExistingUser) +
        amountIf (chosen .skippedUnsubscribed)
          (batch.countP fun row => world.verdict row.email = .skippedUnsubscribed) := by
  induction batch with
  | nil => simp [amountIf]
  | cons row batch inductionHypothesis =>
      have verdicts : world.verdict row.email = .sent ∨
          world.verdict row.email = .skippedExistingUser ∨
            world.verdict row.email = .skippedUnsubscribed := verdict_cases _ _ row.email
      simp only [List.countP_cons, inductionHypothesis, amountIf_add]
      rcases verdicts with verdict | verdict | verdict
      · simp [verdict, amountIf]
        omega
      · simp [verdict, amountIf]
        omega
      · simp [verdict, amountIf]
        omega

/-- A drip moves the counts by its batch. -/
theorem balances_decided
    {before after : World}
    {result : DripResult}
    {batch rest : List ProspectInviteQueue}
    (ids : (before.prospectInviteQueue.map (·.id)).Nodup)
    (decided : Decided before after result batch rest) :
    Balances chosen before { drip := result } after := by
  -- The queue is the batch, the other pending rows and the rows that are not pending.
  let settled := before.prospectInviteQueue.filter fun row => !decide (row.status = .pending)
  have parts : before.prospectInviteQueue.Perm (batch ++ (rest ++ settled)) := by
    rw [← List.append_assoc]
    exact (List.filter_append_perm (fun row => decide (row.status = .pending)) _).symm.trans
      (decided.pending.symm.append_right _)
  have apart := parts.nodup_iff.mp ids.of_map
  rw [List.nodup_append] at apart
  have others : (rest ++ settled).countP (fun row =>
      chosen (if row ∈ batch then before.verdict row.email else row.status)) =
        (rest ++ settled).countP fun row => chosen row.status := by
    refine List.countP_congr fun row listed => ?_
    rw [if_neg fun drawn => apart.2.2 row drawn row listed rfl]
  have drawn : batch.countP (fun row =>
      chosen (if row ∈ batch then before.verdict row.email else row.status)) =
        amountIf (chosen .sent) result.sent +
          amountIf (chosen .skippedExistingUser) result.skippedExisting +
          amountIf (chosen .skippedUnsubscribed) result.skippedUnsubscribed := by
    rw [decided.sent, decided.skippedExisting, decided.skippedUnsubscribed, ← countP_verdict]
    refine List.countP_congr fun row listed => ?_
    rw [if_pos listed]
  have waiting : batch.countP (fun row => chosen row.status) =
      amountIf (chosen .pending) result.batchSize := by
    have pending : ∀ row ∈ batch, row.status = .pending := fun row listed =>
      of_decide_eq_true (List.mem_filter.mp (decided.pending.subset
        (List.mem_append_left rest listed))).2
    rw [decided.batchSize]
    cases wanted : chosen .pending with
    | true => exact List.countP_eq_length.mpr fun row listed => by rw [pending row listed, wanted]
    | false =>
        refine List.countP_eq_zero.mpr fun row listed => ?_
        rw [pending row listed, wanted]
        exact Bool.false_ne_true
  have rows : after.countStatuses chosen = before.prospectInviteQueue.countP fun row =>
      chosen (if row ∈ batch then before.verdict row.email else row.status) := by
    have counted := congrArg (List.countP fun standing => chosen standing.2.2) decided.rows
    rw [List.countP_map, List.countP_map] at counted
    exact counted
  have start : before.countStatuses chosen =
      amountIf (chosen .pending) result.batchSize +
        (rest ++ settled).countP fun row => chosen row.status := by
    rw [World.countStatuses, parts.countP_eq, List.countP_append, waiting]
  unfold Balances CampaignReport.leaves CampaignReport.enters
  rw [start, rows, parts.countP_eq, List.countP_append, drawn, others]
  simp only [amountIf, ite_self]
  omega

/-- A drip that is paused moves nothing. -/
theorem run_runDailyDrip_paused
    {world : World}
    (paused : (world.prospectInviteCampaignSettings.getD {}).paused = true)
    (input : Input) :
    ∃ after, ProspectCampaignService.runDailyDrip.run input world = (.ok {}, after) ∧
      SameQueue world after := by
  unfold ProspectCampaignService.runDailyDrip getOrCreateSettings
  rw [run_bind, run_attempt]
  dsimp only
  rw [if_pos paused]
  exact ⟨_, rfl, rfl⟩

/-- A drip, which fails never, is paused or decides a batch. -/
theorem run_runDailyDrip
    {world : World}
    (normal : world.Normal app)
    (input : Input) :
    ∃ result after, ProspectCampaignService.runDailyDrip.run input world = (.ok result, after) ∧
      (result = {} ∧ SameQueue world after ∨
        ∃ batch rest, Decided world after result batch rest) := by
  cases paused : (world.prospectInviteCampaignSettings.getD {}).paused with
  | true =>
      obtain ⟨after, ends, same⟩ := run_runDailyDrip_paused paused input
      exact ⟨{}, after, ends, .inl ⟨rfl, same⟩⟩
  | false =>
      have performs : ProspectCampaignService.runDailyDrip.Performs app.Offers false world _ :=
        performs_runDailyDrip normal
      have performed := performs.run input
      rcases ends : ProspectCampaignService.runDailyDrip.run input world with
        ⟨error | result, after⟩
      · rw [ends] at performed
        cases performed
      · rw [ends] at performed
        exact ⟨result, after, rfl, .inr (performed paused)⟩

/-! ## Runs -/

namespace CampaignCall

theorem run_discard
    {process : Service α}
    (result : α → Option DripResult)
    (input : Input)
    (world : World) :
    ((process >>= fun value => (pure (result value) : Service _)).run input world).2 =
      (process.run input world).2 := by
  rw [run_bind]
  split
  · rename_i equal
    rw [equal]
    rfl
  · rename_i equal
    rw [equal]

/-- Every request moves the counts as its response reports. -/
theorem balances_step
    {world : World}
    (normal : world.Normal app)
    (attempts : CountsAttempts chosen)
    (call : CampaignCall) :
    Balances chosen world (report app world call) (step app world call) := by
  have untouched {α : Type} {process : Service α} (same : process.Respects SameQueue) :
      Balances chosen world {}
        ((process >>= fun _ => (pure none : Service (Option DripResult))).run call.input world).2 :=
    ((Respects.bind same fun _ => Respects.pure _).run call.input world).sameCount.balances
  obtain ⟨request, input⟩ := call
  cases request with
  | upload uploadedByUserId rawEmails =>
      have ended : step app world ⟨.upload uploadedByUserId rawEmails, input⟩ =
          ((enqueueUploadedEmails app uploadedByUserId rawEmails).run input world).2 :=
        run_discard (fun _ => none) input world
      rw [ended]
      exact balances_upload uploadedByUserId rawEmails input world
  | register dto => exact untouched (sameQueue_register dto)
  | deleteUser adminUserId targetUserId => exact untouched (sameQueue_deleteUser _ _)
  | deleteAccount userId password => exact untouched (sameQueue_deleteAccount _ _)
  | unsubscribe dto => exact untouched (sameQueue_unsubscribe dto)
  | resendWebhook event =>
      have same : (OutreachRequest.handle app (.resendWebhook event)).Respects
          (SameCount chosen) :=
        Respects.bind (sameCount_handleResendWebhook attempts event) fun _ => Respects.pure _
      exact (same.run input world).balances
  | updateSettings adminUserId dto => exact untouched (sameQueue_updateSettings _ dto)
  | inviteProspect adminUserId email => exact untouched (sameQueue_inviteProspect _ _)
  | runDailyDrip =>
      have ended : step app world ⟨.runDailyDrip, input⟩ =
          (ProspectCampaignService.runDailyDrip.run input world).2 :=
        run_discard some input world
      obtain ⟨result, after, ends, paused | ⟨batch, rest, decided⟩⟩ :=
        run_runDailyDrip normal input
      · rw [ended, report, ends, paused.1]
        exact paused.2.sameCount.balances
      · rw [ended, report, ends]
        exact balances_decided normal.ids decided

/-- The counts of a report add up. -/
theorem report_adds_up
    {world : World}
    (normal : world.Normal app)
    (call : CampaignCall) :
    (report app world call).drip.sent + (report app world call).drip.skippedExisting +
        (report app world call).drip.skippedUnsubscribed =
      (report app world call).drip.batchSize := by
  obtain ⟨request, input⟩ := call
  cases request with
  | upload uploadedByUserId rawEmails =>
      unfold report
      dsimp only
      split
      · rfl
      · rfl
  | runDailyDrip =>
      obtain ⟨result, after, ends, paused | ⟨batch, rest, decided⟩⟩ :=
        run_runDailyDrip normal input
      · rw [report, ends, paused.1]
        rfl
      · rw [report, ends]
        exact decided.adds_up
  | _ => rfl

/-- What reports add up to over a run. -/
def totalOf
    (app : Deployment)
    (amount : CampaignReport → Nat)
    (start : World)
    (calls : List CampaignCall) : Int :=
  tally (step app) (fun world call => (amount (report app world call) : Nat)) start calls

theorem totalOf_zero (start : World) (calls : List CampaignCall) :
    totalOf app (fun _ => 0) start calls = 0 :=
  tally_zero _ _ _

/-- A count of rows over a run, if the count moves with every report by some amounts. -/
theorem countStatuses_run
    (chosen : ProspectInviteQueueStatus → Bool)
    (lowercases : app.Lowercases)
    {start : World}
    (normal : start.Normal app)
    (spent earned : CampaignReport → Nat)
    (moves : ∀ world call, world.Normal app →
      (step app world call).countStatuses chosen + spent (report app world call) =
        world.countStatuses chosen + earned (report app world call))
    (calls : List CampaignCall) :
    ((calls.foldl (step app) start).countStatuses chosen : Int) +
        totalOf app spent start calls =
      start.countStatuses chosen + totalOf app earned start calls := by
  have along : Along (step app) (fun _ _ => True) start calls :=
    Along.of_forall fun _ _ _ => trivial
  refine tally_eq _ _ (fun world => (world.countStatuses chosen : Int))
    (fun world call (normal : world.Normal app) _ => ?_) (fun world call normal _ => ?_)
    normal along
  · exact ((outreach_serves lowercases call.request world normal).run call.input).1
  · exact_mod_cast moves world call normal

/-- The statistics before and after a run differ by what the responses report. -/
structure Reconciles
    (app : Deployment)
    (start : World)
    (calls : List CampaignCall)
    (before after : CampaignStats) : Prop where
  total : (after.total : Int) = before.total + totalOf app (·.queued) start calls
  pending : after.pending + totalOf app (·.drip.batchSize) start calls =
    before.pending + totalOf app (·.queued) start calls
  attempted : ((after.sent + after.bounced + after.complained : Nat) : Int) =
    (before.sent + before.bounced + before.complained : Nat) +
      totalOf app (·.drip.sent) start calls
  skippedExistingUser : (after.skippedExistingUser : Int) =
    before.skippedExistingUser + totalOf app (·.drip.skippedExisting) start calls
  skippedUnsubscribed : (after.skippedUnsubscribed : Int) =
    before.skippedUnsubscribed + totalOf app (·.drip.skippedUnsubscribed) start calls

/-- Whatever uploads, registrations, deletions, unsubscriptions, bounces, complaints,
invitations, settings and drips are handled one at a time: every address that the dashboard
counts was there before or was reported as queued, and every one that is no longer pending
was reported by a drip as what it is counted as, or has bounced or complained since it was
reported as sent. -/
theorem dashboard_reconciles
    (lowercases : app.Lowercases)
    {start : World}
    (normal : start.Normal app)
    (calls : List CampaignCall)
    (input : Input) :
    ∃ before after, (getStats.run input start).1 = .ok before ∧
      (getStats.run input (calls.foldl (step app) start)).1 = .ok after ∧
      Reconciles app start calls before after := by
  obtain ⟨before, shown, showsBefore⟩ := run_getStats input start
  obtain ⟨after, shownLater, showsAfter⟩ := run_getStats input (calls.foldl (step app) start)
  refine ⟨before, after, shown, shownLater, ?_, ?_, ?_, ?_, ?_⟩
  · rw [showsBefore.total, showsAfter.total]
    have counted := countStatuses_run (fun _ => true) lowercases normal (fun _ => 0) (·.queued)
      (fun world call normal => ?_) calls
    · rwa [totalOf_zero, Int.add_zero] at counted
    · have balance := balances_step normal (⟨rfl, rfl⟩ : CountsAttempts fun _ => true) call
      have adds := report_adds_up normal call
      unfold Balances CampaignReport.leaves CampaignReport.enters amountIf at balance
      simp only [if_true] at balance
      omega
  · rw [showsBefore.pending, showsAfter.pending]
    refine countStatuses_run _ lowercases normal (·.drip.batchSize) (·.queued)
      (fun world call normal => ?_) calls
    simpa [Balances, CampaignReport.leaves, CampaignReport.enters, amountIf] using
      balances_step normal (⟨rfl, rfl⟩ : CountsAttempts (· = .pending)) call
  · rw [showsBefore.attempted, showsAfter.attempted]
    have counted := countStatuses_run (· ∈ [.sent, .bounced, .complained]) lowercases normal
      (fun _ => 0) (·.drip.sent) (fun world call normal => ?_) calls
    · rwa [totalOf_zero, Int.add_zero] at counted
    · simpa [Balances, CampaignReport.leaves, CampaignReport.enters, amountIf] using
        balances_step normal
          (⟨rfl, rfl⟩ : CountsAttempts (· ∈ [.sent, .bounced, .complained])) call
  · rw [showsBefore.skippedExistingUser, showsAfter.skippedExistingUser]
    have counted := countStatuses_run (· = .skippedExistingUser) lowercases normal
      (fun _ => 0) (·.drip.skippedExisting) (fun world call normal => ?_) calls
    · rwa [totalOf_zero, Int.add_zero] at counted
    · simpa [Balances, CampaignReport.leaves, CampaignReport.enters, amountIf] using
        balances_step normal (⟨rfl, rfl⟩ : CountsAttempts (· = .skippedExistingUser)) call
  · rw [showsBefore.skippedUnsubscribed, showsAfter.skippedUnsubscribed]
    have counted := countStatuses_run (· = .skippedUnsubscribed) lowercases normal
      (fun _ => 0) (·.drip.skippedUnsubscribed) (fun world call normal => ?_) calls
    · rwa [totalOf_zero, Int.add_zero] at counted
    · simpa [Balances, CampaignReport.leaves, CampaignReport.enters, amountIf] using
        balances_step normal (⟨rfl, rfl⟩ : CountsAttempts (· = .skippedUnsubscribed)) call

/-- Two addresses are uploaded, the owner of one registers, a drip invites the other, and
the mail bounces. -/
def sampleCampaignCalls : List CampaignCall :=
  [⟨.upload 0 [" Ann@Example.com ", "bob@example.com"], { now := 1000 }⟩,
    ⟨.register ⟨"BOB@example.com", "correct horse"⟩, { now := 2000 }⟩,
    ⟨.runDailyDrip, { now := 3000 }⟩,
    ⟨.resendWebhook { type := .bounced, recipients := ["ann@example.com"] }, { now := 4000 }⟩]

theorem dashboard_reconciles_sample :
    ∃ before after, (getStats.run { now := 5000 } quietBackend).1 = .ok before ∧
      (getStats.run { now := 5000 }
        (sampleCampaignCalls.foldl (step asciiDeployment) quietBackend)).1 = .ok after ∧
      Reconciles asciiDeployment quietBackend sampleCampaignCalls before after :=
  dashboard_reconciles lowercases_ascii quietBackend_normal sampleCampaignCalls { now := 5000 }

end CampaignCall
end ConferenceContact
