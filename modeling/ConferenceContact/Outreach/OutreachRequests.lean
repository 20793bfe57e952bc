import ConferenceContact.Billing.Footprints
import ConferenceContact.Foundation.Serial
import ConferenceContact.Outreach.Addresses

/-!
# The requests that read and write addresses

Uploads, registrations, deletions of accounts, unsubscriptions, the webhook of the email
provider, single invitations, the settings of the campaign and its daily drip.  All of
them keep the stored addresses in normal form; only single invitations and the drip
enqueue cold invites.
-/

namespace ConferenceContact

open Process ProspectCampaignService

/-- What may happen next to the outreach queue. -/
inductive OutreachRequest
  | upload (uploadedByUserId : UserId) (rawEmails : List String)
  | register (dto : RegisterDto)
  | deleteUser (adminUserId targetUserId : UserId)
  | deleteAccount (userId : UserId) (password : String)
  | unsubscribe (dto : UnsubscribeDto)
  | resendWebhook (event : ResendWebhookEvent)
  | updateSettings (adminUserId : UserId) (dto : UpdateCampaignSettingsDto)
  | inviteProspect (adminUserId : UserId) (email : String)
  | runDailyDrip

/-- The handler of a request; a drip reports its result. -/
def OutreachRequest.handle (app : Deployment) : OutreachRequest → Service (Option DripResult)
  | upload uploadedByUserId rawEmails => do
      let _ ← enqueueUploadedEmails app uploadedByUserId rawEmails
      return none
  | register dto => do
      AuthService.register app dto
      return none
  | deleteUser adminUserId targetUserId => do
      AdminService.deleteUser app adminUserId targetUserId
      return none
  | deleteAccount userId password => do
      AuthService.deleteAccount app userId password
      return none
  | unsubscribe dto => do
      UnsubscribeController.post app dto
      return none
  | resendWebhook event => do
      ResendWebhookController.handleResendWebhook app event
      return none
  | updateSettings adminUserId dto => do
      let _ ← ProspectCampaignService.updateSettings adminUserId dto
      return none
  | inviteProspect adminUserId email => do
      AdminService.inviteProspect app adminUserId email
      return none
  | runDailyDrip => do
      let result ← ProspectCampaignService.runDailyDrip
      return some result

/-! ## Requests that invite nobody -/

section

variable {app : Deployment}

theorem stores_findKnown (chunks : List (List String)) (known : KnownAddresses) :
    (findKnown chunks known).Respects app.Stores := by
  induction chunks generalizing known with
  | nil => exact Respects.pure known
  | cons chunk rest inductionHypothesis =>
      refine Respects.bind (Respects.query _) fun users => ?_
      refine Respects.bind (Respects.query _) fun suppressions => ?_
      exact Respects.bind (Respects.query _) fun queued => inductionHypothesis _

theorem stores_enqueueUploadedEmails
    (lowercases : app.Lowercases)
    (uploadedByUserId : UserId)
    (rawEmails : List String) :
    (enqueueUploadedEmails app uploadedByUserId rawEmails).Respects app.Stores := by
  have normal : ∀ email ∈ ((rawEmails.map fun raw => app.toLowerCase (jsTrim raw)).filter
      app.isEmail).eraseDups, app.IsNormal email := by
    intro email present
    rw [List.mem_eraseDups, List.mem_filter] at present
    obtain ⟨raw, -, rfl⟩ := List.mem_map.mp present.1
    exact lowercases.isNormal_normalize raw
  refine Respects.bind (stores_findKnown _ _) fun known => ?_
  have recorded (result : UploadResult) :
      (do
        AuditService.record (some uploadedByUserId) .adminProspectCampaignUploaded
        return result : Service UploadResult).Respects app.Stores :=
    Respects.bind (stores_record _ _) fun _ => Respects.pure result
  refine Respects.ite (Respects.bind ?_ fun _ => recorded _) (recorded _)
  exact stores_createMany _ fun email present => normal email (List.mem_filter.mp present).1

/-- A new account has an address in normal form. -/
theorem stores_createAccount
    {normalizedEmail : String}
    (isNormal : app.IsNormal normalizedEmail)
    (passwordHash : String) :
    (AuthService.createAccount normalizedEmail passwordHash).Respects app.Stores := by
  have normal (users : List User)
      (user : User)
      (address : user.email = normalizedEmail)
      (others : ∀ user ∈ users, app.IsNormal user.email) :
      ∀ other ∈ user :: users, app.IsNormal other.email :=
    List.forall_mem_cons.mpr ⟨address ▸ isNormal, others⟩
  refine Respects.attempt fun input world value after registered => ?_
  split at registered
  · cases registered
  · dsimp only at registered
    split at registered
    · cases registered
      exact stores_of_users (normal _ _ rfl) rfl rfl rfl (Nat.le_succ _)
    · cases registered
      exact stores_of_users (normal _ _ rfl) rfl rfl rfl (Nat.le_succ _)

theorem stores_register
    (lowercases : app.Lowercases)
    (dto : RegisterDto) :
    (AuthService.register app dto).Respects app.Stores := by
  refine Respects.bind (Respects.query _) fun existing => Respects.ite (Respects.throw _) ?_
  refine Respects.bind (stores_createAccount (lowercases.isNormal_normalize _) _) fun user => ?_
  exact stores_record _ _

theorem stores_deleteUser
    (lowercases : app.Lowercases)
    (adminUserId targetUserId : UserId) :
    (AdminService.deleteUser app adminUserId targetUserId).Respects app.Stores :=
  Footprint.deleteUser (stores_updateUser _ fun _ _ _ => lowercases.isNormal_deletedEmail _)
    (stores_revokeAllForUser _) (fun _ _ => stores_of_same rfl rfl rfl rfl (Nat.le_refl _))
    stores_record app adminUserId

theorem stores_eraseAccount
    (lowercases : app.Lowercases)
    (userId : UserId)
    (activeSubscription : Option SubscriptionRow) :
    (AuthService.eraseAccount userId activeSubscription).Respects app.Stores := by
  refine Footprint.eraseAccount fun now world subscriptions _ => ?_
  refine stores_of_users (isNormal_updateUsers _ fun _ _ => ?_) rfl rfl rfl (Nat.le_refl _)
  exact lowercases.isNormal_deletedEmail userId

theorem stores_deleteAccount
    (lowercases : app.Lowercases)
    (userId : UserId)
    (password : String) :
    (AuthService.deleteAccount app userId password).Respects app.Stores :=
  Footprint.deleteAccount (fun _ _ => stores_of_same rfl rfl rfl rfl (Nat.le_refl _))
    (stores_eraseAccount lowercases userId) (stores_revokeUser _) stores_record password

theorem stores_unsubscribe
    (lowercases : app.Lowercases)
    (dto : UnsubscribeDto) :
    (UnsubscribeController.post app dto).Respects app.Stores := by
  refine Respects.ite (Respects.ite (Respects.throw _) ?_) (Respects.throw _)
  exact stores_suppress (lowercases.isNormal_normalize _)

theorem stores_suppressAndUpdateStatus
    (lowercases : app.Lowercases)
    (rawEmail : String)
    (status : ProspectInviteQueueStatus) :
    (suppressAndUpdateStatus app rawEmail status).Respects app.Stores := by
  refine Respects.bind (stores_suppress (lowercases.isNormal_normalize _)) fun _ => ?_
  exact Respects.command fun _ _ => stores_updateQueue _ (fun _ => rfl) fun _ => rfl

theorem stores_handleResendWebhook
    (lowercases : app.Lowercases)
    (event : ResendWebhookEvent) :
    (ResendWebhookController.handleResendWebhook app event).Respects app.Stores := by
  unfold ResendWebhookController.handleResendWebhook
  cases event.recipients.head?.filter (· ≠ "") with
  | none => exact Respects.pure ()
  | some recipient =>
      dsimp only
      cases event.type with
      | bounced => exact stores_suppressAndUpdateStatus lowercases _ _
      | complained => exact stores_suppressAndUpdateStatus lowercases _ _
      | other => exact Respects.pure ()

theorem stores_getOrCreateSettings : getOrCreateSettings.Respects app.Stores := by
  refine Respects.attempt fun input world value after found => ?_
  cases found
  exact stores_of_same rfl rfl rfl rfl (Nat.le_refl _)

theorem stores_updateSettings (adminUserId : UserId) (dto : UpdateCampaignSettingsDto) :
    (ProspectCampaignService.updateSettings adminUserId dto).Respects app.Stores := by
  refine Respects.bind (Respects.attempt fun input world value after updated => ?_) fun _ => ?_
  · cases updated
    exact stores_of_same rfl rfl rfl rfl (Nat.le_refl _)
  · exact Respects.bind (stores_record _ _) fun _ => Respects.pure _

/-! ## Requests that invite -/

theorem tends_of_stores
    {process : Service α}
    (stores : process.Respects app.Stores) :
    process.Respects app.Tends :=
  stores.mono fun _ _ stores => stores.toTends

/-- Offering jobs to the queue touches no address. -/
theorem tends_enqueueChunks (chunks : List (List EmailJob)) :
    (EmailService.enqueueChunks chunks).Respects app.Tends := by
  induction chunks with
  | nil => exact Respects.pure ()
  | cons chunk rest inductionHypothesis =>
      refine Respects.bind (Respects.tryCatch (Respects.command fun input world => ?_)
        fun _ => Respects.pure ()) fun _ => inductionHypothesis
      split
      · exact ⟨fun normal => normal.of_same rfl rfl rfl rfl (Nat.le_refl _),
          List.Subset.refl _⟩
      · exact refl_of app.Tends world

theorem tends_updateStatus (id : Nat) (status : ProspectInviteQueueStatus) :
    (updateStatus id status).Respects app.Tends := by
  refine tends_of_stores (Respects.attempt fun input world value after updated => ?_)
  split at updated
  · cases updated
    exact stores_updateQueue _ (fun _ => rfl) fun _ => rfl
  · cases updated

theorem tends_decideCandidates
    (existing suppressed : List String)
    (candidates : List ProspectInviteQueue)
    (decisions : Decisions) :
    (decideCandidates existing suppressed candidates decisions).Respects app.Tends := by
  induction candidates generalizing decisions with
  | nil => exact Respects.pure _
  | cons candidate rest inductionHypothesis =>
      refine Respects.ite ?_ (Respects.ite ?_ (inductionHypothesis _))
      · exact Respects.bind (tends_updateStatus _ _) fun _ => inductionHypothesis _
      · exact Respects.bind (tends_updateStatus _ _) fun _ => inductionHypothesis _

theorem tends_runDailyDrip : ProspectCampaignService.runDailyDrip.Respects app.Tends := by
  refine Respects.bind (tends_of_stores stores_getOrCreateSettings) fun settings => ?_
  refine Respects.ite (Respects.pure _) (Respects.bind (Respects.query _) fun candidates => ?_)
  refine Respects.ite (Respects.pure _) ?_
  refine Respects.bind (Respects.query _) fun existingUsers => ?_
  refine Respects.bind (Respects.query _) fun suppressions => ?_
  refine Respects.bind (tends_decideCandidates _ _ _ _) fun decisions => ?_
  have recorded (result : DripResult) :
      (do
        AuditService.record none .adminProspectCampaignDailyDrip
        return result : Service DripResult).Respects app.Tends :=
    Respects.bind (tends_of_stores (stores_record _ _)) fun _ => Respects.pure result
  refine Respects.ite ?_ (recorded _)
  refine Respects.bind (tends_enqueueChunks _) fun _ => Respects.bind ?_ fun _ => recorded _
  exact tends_of_stores
    (Respects.command fun _ _ => stores_updateQueue _ (fun _ => rfl) fun _ => rfl)

theorem tends_inviteProspect (adminUserId : UserId) (email : String) :
    (AdminService.inviteProspect app adminUserId email).Respects app.Tends := by
  refine Respects.bind (Respects.query _) fun existingUser => ?_
  refine Respects.bind (Respects.query _) fun suppressed => ?_
  refine Respects.ite (Respects.throw _) (Respects.ite (Respects.throw _) ?_)
  refine Respects.bind (tends_enqueueChunks _) fun _ => ?_
  exact tends_of_stores (stores_record _ _)

end
end ConferenceContact
