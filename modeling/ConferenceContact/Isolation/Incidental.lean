import ConferenceContact.Auth.TokenRequests
import ConferenceContact.Isolation.Owners
import ConferenceContact.Leads.Requests

/-!
# What most calls leave alone

Most calls change neither who owns what nor what an account may do: sessions are revoked,
accounts are suspended or given credits, searches are decided, and tokens are used up,
but nothing changes hands and no role or comp flag is set.
-/

namespace ConferenceContact

open Process

/-! ## Accounts and what they may do -/

/-- What an account may do besides what it pays for. -/
structure Grants where
  role : Role := .user
  directoryAccess : Bool := false
  leadFinderAccess : Bool := false
  deriving DecidableEq

/-- The privileges of an account. -/
def User.grants (user : User) : Grants where
  role := user.role
  directoryAccess := user.adminGrantedDirectoryAccess
  leadFinderAccess := user.adminGrantedLeadFinderAccess

/-- An account as its id and what it may do. -/
def User.account (user : User) : UserId × Grants :=
  (user.id, user.grants)

/-! ## Incidental changes -/

/-- Who owns what is left alone, the supply of ids aside. -/
def SameOwners (before after : World) : Prop :=
  ∃ amount, after.owners = { before.owners with nextId := before.owners.nextId + amount }

instance : IsPreorder World SameOwners where
  refl _ := ⟨0, rfl⟩
  trans first second third := by
    rintro ⟨earlier, middle⟩ ⟨later, last⟩
    refine ⟨earlier + later, ?_⟩
    rw [last, middle]
    simp only [Nat.add_assoc]

/-- Neither who owns what nor what an account or an invite may do is changed, and no token
is signed. -/
structure Incidental (before after : World) : Prop where
  owners : SameOwners before after
  accounts : after.users.map User.account = before.users.map User.account
  invites : after.adminAccessInvites = before.adminAccessInvites
  signed : after.signed = before.signed

instance : IsPreorder World Incidental where
  refl world := ⟨refl_of SameOwners world, rfl, rfl, rfl⟩
  trans _ _ _ first second :=
    { owners := trans_of SameOwners first.owners second.owners
      accounts := second.accounts.trans first.accounts
      invites := second.invites.trans first.invites
      signed := second.signed.trans first.signed }

variable {app : Deployment}

/-! ## Calls of the services -/

/-- Rewriting users without changing what they may do. -/
theorem incidental_updateUsers
    (world : World)
    (condition : User → Bool)
    {rewrite : User → User}
    (kept : ∀ user, (rewrite user).account = user.account) :
    Incidental world { world with users := Table.updateWhere condition rewrite world.users } :=
  ⟨⟨0, rfl⟩, Table.map_updateWhere _ _ _ _ kept, rfl, rfl⟩

theorem incidental_updateUser
    (id : UserId)
    {rewrite : Time → User → User}
    (kept : ∀ now user, (rewrite now user).account = user.account) :
    (UsersService.update id rewrite).Respects Incidental :=
  Footprint.updateUser fun now world => incidental_updateUsers world _ (kept now)

theorem incidental_record (actor : Option UserId) (action : AuditAction) :
    (AuditService.record actor action).Respects Incidental :=
  Respects.command fun _ _ => ⟨⟨0, rfl⟩, rfl, rfl, rfl⟩

theorem incidental_enqueue (job : EmailJob) :
    (EmailService.enqueue job).Respects Incidental :=
  Footprint.enqueue (fun _ _ => ⟨⟨0, rfl⟩, rfl, rfl, rfl⟩) job

theorem incidental_revokeUser (app : Deployment) (userId : UserId) :
    (TokenRevocationService.revokeUser app userId).Respects Incidental :=
  Footprint.revokeUser (fun _ _ => ⟨⟨0, rfl⟩, rfl, rfl, rfl⟩) app userId

theorem incidental_registerFailedLogin (app : Deployment) (userId : UserId) :
    (UsersService.registerFailedLogin app userId).Respects Incidental := by
  refine Respects.bind (incidental_updateUser _ fun _ _ => rfl) fun user => ?_
  refine Respects.ite ?_ (Respects.pure _)
  exact Respects.bind (incidental_updateUser _ fun _ _ => rfl) fun _ => Respects.pure _

/-- Rewriting sessions without changing their users and devices. -/
theorem incidental_updateSessions
    (world : World)
    (condition : Session → Bool)
    (rewrite : Session → Session)
    (kept : ∀ session, ((rewrite session).userId, (rewrite session).deviceId) =
      (session.userId, session.deviceId)) :
    Incidental world
      { world with sessions := Table.updateWhere condition rewrite world.sessions } := by
  refine ⟨⟨0, ?_⟩, rfl, rfl, rfl⟩
  unfold World.owners
  rw [Table.map_updateWhere _ _ _ _ kept]
  rfl

theorem incidental_updateSession
    (id : SessionId)
    {rewrite : Time → Session → Session}
    (kept : ∀ now session, ((rewrite now session).userId, (rewrite now session).deviceId) =
      (session.userId, session.deviceId)) :
    (SessionsService.update id rewrite).Respects Incidental :=
  Footprint.updateSession fun now world => incidental_updateSessions world _ _ (kept now)

theorem incidental_revoke (sessionId : SessionId) :
    (SessionsService.revoke sessionId).Respects Incidental :=
  incidental_updateSession _ fun _ _ => rfl

theorem incidental_revokeAllForUser (userId : UserId) :
    (SessionsService.revokeAllForUser userId).Respects Incidental :=
  Respects.command fun _ world => incidental_updateSessions world _ _ fun _ => rfl

theorem incidental_enforceLimit (app : Deployment) (userId : UserId) :
    (SessionsService.enforceLimit app userId).Respects Incidental := by
  refine Respects.bind (Respects.query _) fun active => Respects.ite ?_ (Respects.pure ())
  exact Respects.command fun _ world => incidental_updateSessions world _ _ fun _ => rfl

theorem incidental_issueVerificationToken
    (userId : UserId)
    (email : String)
    (purpose : VerificationTokenPurpose) :
    (AuthService.issueVerificationToken userId email purpose).Respects Incidental :=
  Footprint.issueVerificationToken (fun _ _ => ⟨⟨0, rfl⟩, rfl, rfl, rfl⟩)
    (fun _ => ⟨⟨1, rfl⟩, rfl, rfl, rfl⟩) (fun _ _ => ⟨⟨1, rfl⟩, rfl, rfl, rfl⟩)
    incidental_enqueue userId email purpose

theorem incidental_consumeVerificationToken
    (rawToken : RawToken)
    (purpose : VerificationTokenPurpose) :
    (AuthService.consumeVerificationToken rawToken purpose).Respects Incidental :=
  Footprint.consumeVerificationToken (fun _ _ => ⟨⟨0, rfl⟩, rfl, rfl, rfl⟩) rawToken purpose

theorem incidental_registerChallengeAttempt (token : Jwt) (ttlSeconds : Nat) :
    (TokenRevocationService.registerChallengeAttempt token ttlSeconds).Respects
      Incidental :=
  Footprint.registerChallengeAttempt (Footprint.incr fun _ _ => ⟨⟨0, rfl⟩, rfl, rfl, rfl⟩)
    (Footprint.expire fun _ _ => ⟨⟨0, rfl⟩, rfl, rfl, rfl⟩) token ttlSeconds

theorem incidental_checkPassword (dto : LoginDto) :
    (AuthService.checkPassword app dto).Respects Incidental :=
  Footprint.checkPassword
    (fun _ => Respects.bind (incidental_updateUser _ fun _ _ => rfl) fun _ => Respects.pure _)
    (incidental_registerFailedLogin app) incidental_record dto

theorem incidental_trust (userId : UserId) (deviceId : DeviceId) :
    (DevicesService.trust app userId deviceId).Respects Incidental := by
  refine Respects.bind (Respects.query _) fun device => ?_
  cases device with
  | none => exact Respects.throw _
  | some device =>
      refine Respects.ite (Respects.throw _) ?_
      refine Respects.bind (Respects.query _) fun trustedCount => ?_
      refine Respects.ite (Respects.throw _) (Respects.attempt ?_)
      intro input world value after trusted
      dsimp only at trusted
      split at trusted
      · cases trusted
      · cases trusted
        refine ⟨⟨0, ?_⟩, rfl, rfl, rfl⟩
        unfold World.owners
        rw [Table.map_updateWhere]
        · rfl
        · exact fun _ => rfl

/-! ## Accounts -/

theorem incidental_revokeEverything (userId : UserId) (actor : Option UserId)
    (action : AuditAction) :
    (do
      SessionsService.revokeAllForUser userId
      TokenRevocationService.revokeUser app userId
      AuditService.record actor action : Service Unit).Respects Incidental := by
  refine Respects.bind (incidental_revokeAllForUser _) fun _ => ?_
  exact Respects.bind (incidental_revokeUser _ _) fun _ => incidental_record _ _

theorem incidental_logout (rawToken : RawToken) :
    (AuthService.logout rawToken).Respects Incidental := by
  refine Respects.bind (Respects.query _) fun session => ?_
  cases session with
  | none => exact Respects.pure ()
  | some session =>
      exact Respects.bind (incidental_revoke _) fun _ => incidental_record _ _

theorem incidental_forgotPassword (email : String) :
    (AuthService.forgotPassword app email).Respects Incidental :=
  Footprint.forgotPassword incidental_issueVerificationToken incidental_record app email

theorem incidental_resetPassword (rawToken : RawToken) (newPassword : String) :
    (AuthService.resetPassword app rawToken newPassword).Respects Incidental := by
  refine Respects.bind (incidental_consumeVerificationToken _ _) fun token => ?_
  refine Respects.bind (incidental_updateUser _ fun _ _ => rfl) fun _ => ?_
  exact incidental_revokeEverything _ _ _

theorem incidental_suspendUser (adminUserId targetUserId : UserId) :
    (AdminService.suspendUser app adminUserId targetUserId).Respects Incidental := by
  refine Respects.ite (Respects.throw _) (Respects.bind (Respects.query _) fun target => ?_)
  cases target with
  | none => exact Respects.throw _
  | some target =>
      refine Respects.ite (Respects.throw _) ?_
      refine Respects.bind (incidental_updateUser _ fun _ _ => rfl) fun _ => ?_
      exact incidental_revokeEverything _ _ _

theorem incidental_reactivateUser (adminUserId targetUserId : UserId) :
    (AdminService.reactivateUser adminUserId targetUserId).Respects Incidental :=
  Footprint.reactivateUser (incidental_updateUser _ fun _ _ => rfl) incidental_record adminUserId

theorem incidental_deleteUser (adminUserId targetUserId : UserId) :
    (AdminService.deleteUser app adminUserId targetUserId).Respects Incidental :=
  Footprint.deleteUser (incidental_updateUser _ fun _ _ => rfl) (incidental_revokeAllForUser _)
    (fun _ _ => ⟨⟨0, rfl⟩, rfl, rfl, rfl⟩) incidental_record app adminUserId

theorem incidental_forceLogout (adminUserId targetUserId : UserId) :
    (AdminService.forceLogout app adminUserId targetUserId).Respects Incidental := by
  refine Respects.bind (Respects.query _) fun target => ?_
  cases target with
  | none => exact Respects.throw _
  | some target => exact incidental_revokeEverything _ _ _

theorem incidental_deleteAccount (userId : UserId) (password : String) :
    (AuthService.deleteAccount app userId password).Respects Incidental := by
  refine Footprint.deleteAccount (fun _ _ => ⟨⟨0, rfl⟩, rfl, rfl, rfl⟩)
    (fun activeSubscription => ?_) (incidental_revokeUser _ _) incidental_record password
  refine Footprint.eraseAccount fun now world subscriptions _ => ?_
  have sameOwners := (incidental_updateSessions world
    (fun session => session.userId = userId ∧ session.revokedAt = none)
    (fun session => { session with revokedAt := some now }) fun _ => rfl).owners
  exact ⟨sameOwners, Table.map_updateWhere _ _ _ _ fun _ => rfl, rfl, rfl⟩

/-! ## Searches -/

theorem incidental_readOnly {service : Service α} (reads : ReadOnly service) :
    service.Respects Incidental := by
  refine reads.mono fun before after same => ?_
  rw [same]
  exact refl_of Incidental before

theorem incidental_updateJobStatus (id : Nat) (status : LeadSearchJobStatus) :
    (LeadSearchTables.updateJobStatus id status).Respects Incidental := by
  refine Respects.attempt fun input world value after updated => ?_
  split at updated
  · cases updated
    refine ⟨⟨0, ?_⟩, rfl, rfl, rfl⟩
    unfold World.setJobStatus World.owners
    rw [Table.map_updateWhere]
    · rfl
    · exact fun _ => rfl
  · cases updated

/-- Rewriting results without changing their ids. -/
theorem incidental_updateResults
    (world : World)
    (condition : LeadSearchResult → Bool)
    (rewrite : LeadSearchResult → LeadSearchResult)
    (kept : ∀ row, (rewrite row).id = row.id) :
    Incidental world
      { world with
        leadSearchResults := Table.updateWhere condition rewrite world.leadSearchResults } := by
  refine ⟨⟨0, ?_⟩, rfl, rfl, rfl⟩
  unfold World.owners
  rw [Table.map_updateWhere _ _ _ _ kept]
  rfl

theorem incidental_updateResult
    (id : Nat)
    {rewrite : LeadSearchResult → LeadSearchResult}
    (kept : ∀ row, (rewrite row).id = row.id) :
    (LeadSearchTables.updateResult id rewrite).Respects Incidental := by
  refine Respects.attempt fun input world value after updated => ?_
  split at updated
  · cases updated
    exact incidental_updateResults world _ _ kept
  · cases updated

theorem incidental_setReviewStatus (id : Nat) (reviewStatus : LeadReviewStatus) :
    (LeadSearchTables.setReviewStatus id reviewStatus).Respects Incidental := by
  refine Respects.attempt fun input world value after updated => ?_
  split at updated
  · cases updated
    exact incidental_updateResults world _ _ fun _ => rfl
  · cases updated

theorem incidental_skipPending (jobId : Nat) :
    (LeadSearchTables.skipPending jobId).Respects Incidental :=
  Respects.command fun _ world => incidental_updateResults world _ _ fun _ => rfl

theorem incidental_getSearchJob (userId : UserId) (jobId : Nat) :
    (LeadsService.getSearchJob userId jobId).Respects Incidental := by
  refine Respects.bind (Respects.query _) fun found => ?_
  split
  · exact Respects.ite (Respects.throw _) (Respects.pure _)
  · exact Respects.throw _

theorem incidental_cancelSearchJob (userId : UserId) (jobId : Nat) :
    (LeadsService.cancelSearchJob userId jobId).Respects Incidental := by
  refine Respects.bind (incidental_readOnly (readOnly_ownSearchJob userId jobId))
    fun job => ?_
  exact Respects.ite (Respects.pure job) (incidental_updateJobStatus _ _)

theorem incidental_getMoreLeads (userId : UserId) (jobId : Nat) (count : Option Nat) :
    (LeadsService.getMoreLeads app userId jobId count).Respects Incidental := by
  refine Respects.bind (incidental_readOnly (readOnly_extension app userId jobId count))
    fun data => ?_
  refine Respects.bind (incidental_updateJobStatus _ _) fun _ => ?_
  exact Respects.command fun _ _ => ⟨⟨0, rfl⟩, rfl, rfl, rfl⟩

theorem incidental_updateResultReviewStatus
    (userId : UserId)
    (jobId resultId : Nat)
    (reviewStatus : LeadReviewStatus) :
    (LeadsService.updateResultReviewStatus userId jobId resultId reviewStatus).Respects
      Incidental := by
  refine Respects.bind (Respects.query _) fun owner => Respects.ite (Respects.throw _) ?_
  refine Respects.bind (Respects.query _) fun job => Respects.ite (Respects.throw _) ?_
  exact incidental_setReviewStatus _ _

/-! ## The worker -/

theorem incidental_refundCredit (userId : UserId) :
    (LeadsService.refundCredit userId).Respects Incidental := by
  refine Respects.bind (Respects.query _) fun unlimited => Respects.ite (Respects.pure ()) ?_
  exact Respects.bind (incidental_updateUser _ fun _ _ => rfl) fun _ => Respects.pure _

theorem incidental_tryReserveCredit (userId : UserId) :
    (LeadsService.tryReserveCredit userId).Respects Incidental := by
  refine Respects.bind (Respects.query _) fun unlimited => Respects.ite (Respects.pure _) ?_
  refine Respects.attempt ?_
  rintro input world value after ⟨⟩
  exact incidental_updateUsers world _ fun _ => rfl

theorem incidental_matchPerson : ApolloService.matchPerson.Respects Incidental := by
  refine Respects.attempt fun input world value after matched => ?_
  split at matched
  · cases matched
    exact refl_of Incidental world
  · cases matched

theorem incidental_searchPeople (filters : ApolloSearchFilters) (perPage : Nat) :
    (ApolloService.searchPeople filters perPage).Respects Incidental := by
  refine Respects.attempt fun input world value after found => ?_
  split at found
  · cases found
    exact refl_of Incidental world
  · cases found

theorem incidental_orThrow (outcome : Except ApiError α) :
    (orThrow outcome).Respects Incidental := by
  cases outcome with
  | ok value => exact Respects.pure value
  | error error => exact Respects.throw error

theorem incidental_finishSearch (data : ApolloSearchJobData) :
    (ApolloSearchProcessor.finishSearch data).Respects Incidental := by
  refine Respects.bind (incidental_updateJobStatus _ _) fun _ => ?_
  exact incidental_record _ _

theorem incidental_attemptEnrichment (data : ApolloSearchJobData) (result : LeadSearchResult) :
    (ApolloSearchProcessor.attemptEnrichment data result).Respects Incidental := by
  refine Respects.bind (Respects.query _) fun current => Respects.ite ?_ ?_
  · exact Respects.bind (incidental_skipPending _) fun _ => Respects.pure _
  refine Respects.bind (incidental_tryReserveCredit _) fun reserved => Respects.ite ?_ ?_
  · refine Respects.bind incidental_matchPerson fun enriched => ?_
    cases enriched with
    | some enriched =>
        refine Respects.bind (incidental_orThrow _) fun columns => ?_
        exact Respects.bind (incidental_updateResult _ fun _ => rfl) fun _ => Respects.pure _
    | none =>
        refine Respects.bind (incidental_refundCredit _) fun _ => ?_
        exact Respects.bind (incidental_updateResult _ fun _ => rfl) fun _ => Respects.pure _
  · exact Respects.bind (incidental_skipPending _) fun _ => Respects.pure _

theorem incidental_enrichAll (data : ApolloSearchJobData) (results : List LeadSearchResult) :
    (ApolloSearchProcessor.enrichAll data results).Respects Incidental := by
  induction results with
  | nil => exact incidental_finishSearch data
  | cons result rest inductionHypothesis =>
      refine Respects.bind (incidental_attemptEnrichment data result) fun iterationEnd => ?_
      cases iterationEnd with
      | cancelled => exact Respects.pure ()
      | outOfCredits => exact incidental_finishSearch data
      | next => exact inductionHypothesis

end ConferenceContact
