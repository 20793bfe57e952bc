import ConferenceContact.Auth.TwoFactor
import ConferenceContact.Billing.Grants
import ConferenceContact.Foundation.Advances
import ConferenceContact.Foundation.Endowments
import ConferenceContact.Isolation.Reachable

/-!
# What requests do to privileges

Accounts and invites form a registry: an invite is an offer of a role and of comp flags
to an address.  All but four requests leave the registry alone, and whatever signs an
access token signs it for an account with the role of the token.
-/

namespace ConferenceContact

open Process

/-- A new account has the role `USER` and neither comp flag. -/
instance : Inhabited Grants := ⟨{}⟩

/-- What an invite grants to the account that is registered with it. -/
def AdminAccessInvite.grants (invite : AdminAccessInvite) : Grants where
  role := invite.role
  directoryAccess := invite.grantDirectoryAccess
  leadFinderAccess := invite.grantLeadFinderAccess

/-- What an invitation offers to an address. -/
def AdminAccessInvite.offer (invite : AdminAccessInvite) : Offer String Grants where
  id := invite.id
  address := invite.email
  endowment := invite.grants
  pending := invite.status = .pending

/-- Who may do what, and who may come to. -/
def World.registry (world : World) : Registry String Grants where
  accounts := world.users.map User.account
  offers := world.adminAccessInvites.map AdminAccessInvite.offer
  nextId := world.nextId

/-- An access token is for an account with the role it carries. -/
def World.Entitles (world : World) (token : Jwt) : Prop :=
  ∀ payload, token.payload = .access payload →
    ∃ grants, (payload.sub, grants) ∈ world.registry.accounts ∧ grants.role = payload.role

/-- A step of the registry that changes no role of an account, and signs access tokens
only for accounts with their role. -/
structure Acts (deed : Deed String Grants) (before after : World) : Prop where
  step : Registry.Step deed before.registry after.registry
  roles : ∀ account change, deed = .alter account change →
    ∀ grants, (change grants).role = grants.role
  signs : ∀ token ∈ after.signed, token ∈ before.signed ∨ after.Entitles token

/-- The registry is left alone, the supply of ids aside. -/
abbrev Harmless : World → World → Prop := Acts .idle

variable {app : Deployment} {input : Input} {world before after : World}

/-- What entitles to a token is kept. -/
theorem Acts.entitles
    {deed : Deed String Grants}
    (acts : Acts deed before after)
    {token : Jwt}
    (entitles : before.Entitles token) :
    after.Entitles token := by
  intro payload access
  refine acts.step.keeps ?_ (entitles payload access)
  exact fun account change altered grants has =>
    (acts.roles account change altered grants).trans has

/-- What happens before a step and after it. -/
theorem Acts.later
    {deed : Deed String Grants}
    {first last : World}
    (waits : Harmless first before)
    (acts : Acts deed before after)
    (rests : Harmless after last) :
    Acts deed first last where
  step := waits.step.later acts.step rests.step
  roles := acts.roles
  signs token present := by
    rcases rests.signs token present with earlier | entitled
    · rcases acts.signs token earlier with earlier | entitled
      · rcases waits.signs token earlier with earlier | entitled
        · exact .inl earlier
        · exact .inr (rests.entitles (acts.entitles entitled))
      · exact .inr (rests.entitles entitled)
    · exact .inr entitled

theorem harmless_refl (world : World) : Harmless world world where
  step := .idle world.registry (Nat.le_refl _)
  roles _ _ altered := by cases altered
  signs _ present := .inl present

instance : IsPreorder World Harmless where
  refl := harmless_refl
  trans _ _ third earlier later := earlier.later later (harmless_refl third)

/-- Accounts and invites are left alone, and only other tokens are signed. -/
theorem harmless_of_same
    (accounts : after.users.map User.account = before.users.map User.account)
    (invites : after.adminAccessInvites = before.adminAccessInvites)
    (supply : before.nextId ≤ after.nextId)
    (signs : ∀ token ∈ after.signed, token ∈ before.signed ∨ before.Entitles token) :
    Harmless before after := by
  have same : after.registry = { before.registry with nextId := after.nextId } := by
    unfold World.registry
    rw [accounts, invites]
  have entitled : ∀ token, before.Entitles token → after.Entitles token := by
    intro token entitles
    unfold World.Entitles
    rw [same]
    exact entitles
  exact
    { step := same ▸ .idle before.registry supply
      roles := (harmless_refl before).roles
      signs := fun token present => (signs token present).imp_right (entitled token) }

theorem Incidental.harmless (incidental : Incidental before after) : Harmless before after := by
  obtain ⟨amount, owners⟩ := incidental.owners
  have supply : after.nextId = before.nextId + amount := congrArg Owners.nextId owners
  refine harmless_of_same incidental.accounts incidental.invites (by omega) ?_
  rw [incidental.signed]
  exact fun _ present => .inl present

theorem harmless_of_incidental
    {service : Service α}
    (incidental : service.Respects Incidental) :
    service.Respects Harmless :=
  incidental.mono fun _ _ changes => changes.harmless

/-! ## Signing in -/

/-- Nothing is signed, and neither accounts nor invites change. -/
theorem harmless_of_unsigned
    (accounts : after.users = before.users)
    (invites : after.adminAccessInvites = before.adminAccessInvites)
    (signed : after.signed = before.signed)
    (supply : before.nextId ≤ after.nextId) :
    Harmless before after := by
  refine harmless_of_same (by rw [accounts]) invites supply ?_
  rw [signed]
  exact fun _ present => .inl present

theorem harmless_signChallenge (payload : LoginChallengePayload) :
    (AuthService.signChallenge payload).Respects Harmless := by
  unfold AuthService.signChallenge
  refine Respects.attempt ?_
  rintro input world value after ⟨⟩
  refine harmless_of_same rfl rfl (Nat.le_refl _) fun token present => ?_
  rcases List.mem_cons.mp present with rfl | present
  · exact .inr fun payload access => by cases access
  · exact .inl present

theorem harmless_challenge (user : User) (device : Device) :
    (AuthService.challenge user device).Respects Harmless :=
  Footprint.challenge harmless_signChallenge
    (fun _ _ => harmless_of_incidental (incidental_record _ _))
    (fun _ => harmless_of_incidental (incidental_enqueue _)) user device

theorem harmless_findOrCreateDevice (userId : UserId) (fingerprint : Sha256 String) :
    (DevicesService.findOrCreateDevice userId fingerprint).Respects Harmless :=
  Footprint.findOrCreateDevice
    (fun _ _ => harmless_of_unsigned rfl rfl rfl (Nat.le_refl _))
    (fun _ _ => harmless_of_unsigned rfl rfl rfl (Nat.le_succ _)) userId fingerprint

theorem harmless_createSession (call : CreateSessionInput) :
    (SessionsService.create app call).Respects Harmless :=
  Footprint.createSession (fun _ _ => harmless_of_unsigned rfl rfl rfl (Nat.le_add_right _ _))
    app call

/-- An account whose row was read keeps its id and its role. -/
def HasRole (id : UserId) (role : Role) (world : World) : Prop :=
  ∃ grants, (id, grants) ∈ world.registry.accounts ∧ grants.role = role

theorem hasRole_of_find?
    {user : User}
    {id : UserId}
    (found : (world.users.find? fun user => user.id = id) = some user) :
    HasRole user.id user.role world :=
  ⟨user.grants, List.mem_map_of_mem (List.mem_of_find?_eq_some found), rfl⟩

theorem HasRole.later
    {id : UserId}
    {role : Role}
    (has : HasRole id role before)
    (harmless : Harmless before after) :
    HasRole id role after :=
  harmless.step.keeps (fun account change altered => by cases altered) has

/-- Among other harmless calls. -/
abbrev StaysHarmless
    (input : Input)
    (service : Service α)
    (world : World)
    (post : α → World → Prop) : Prop :=
  Advances Harmless input (fun _ => True) service world post

theorem staysHarmless
    {service : Service α}
    (harmless : service.Respects Harmless) :
    StaysHarmless input service world fun _ _ => True :=
  Advances.of_respects harmless

theorem staysHarmless_of_incidental
    {service : Service α}
    (incidental : service.Respects Incidental) :
    StaysHarmless input service world fun _ _ => True :=
  staysHarmless (harmless_of_incidental incidental)

/-- The lookup of a user finds the role of its account. -/
theorem staysHarmless_findById (id : UserId) :
    StaysHarmless input (UsersService.findById id) world
      fun found after => ∀ user, found = some user → HasRole user.id user.role after :=
  Advances.query _ fun _ found => hasRole_of_find? found

theorem staysHarmless_signAccess
    {payload : AccessTokenPayload}
    (entitled : HasRole payload.sub payload.role world)
    (expiresIn : Nat) :
    StaysHarmless input (JwtService.signAsync (.access payload) expiresIn) world
      fun _ _ => True := by
  refine Advances.attempt _ ?_
  rintro value after ⟨⟩
  refine ⟨harmless_of_same rfl rfl (Nat.le_refl _) fun token present => ?_, trivial⟩
  rcases List.mem_cons.mp present with rfl | present
  · refine .inr fun signed access => ?_
    cases access
    exact entitled
  · exact .inl present

theorem staysHarmless_issueTokenPair
    (userId : UserId)
    (deviceId : DeviceId)
    (requestMeta : RequestMeta)
    (isNewDevice : Bool) :
    StaysHarmless input (AuthService.issueTokenPair app userId deviceId requestMeta isNewDevice)
      world fun _ _ => True := by
  unfold AuthService.issueTokenPair
  refine Advances.bind (staysHarmless_findById userId) fun found _ _ known => ?_
  cases found with
  | none => exact Advances.throw _ _
  | some user =>
      have has := known user rfl
      refine Advances.bind (staysHarmless_of_incidental (Footprint.assess _ _ _ _))
        fun risk _ first _ => ?_
      refine Advances.bind (staysHarmless_of_incidental (incidental_enforceLimit app _))
        fun _ _ second _ => ?_
      refine Advances.bind (staysHarmless_signAccess ((has.later first).later second) _)
        fun token _ _ _ => staysHarmless ?_
      refine Respects.bind (harmless_createSession _) fun created => ?_
      refine Respects.bind (harmless_of_incidental (incidental_updateUser _ fun _ _ => rfl))
        fun _ => harmless_of_incidental ?_
      have logged : ∀ score, (do
          AuditService.record (some user.id) .authLogin
          if app.riskHighThreshold ≤ score then
            AuditService.record (some user.id) .authHighRiskLogin
          return {
            accessToken := token
            refreshToken := created.1
            refreshTokenExpiresAt := created.2.expiresAt } :
          Service TokenPair).Respects Incidental := by
        intro score
        refine Respects.bind (incidental_record _ _) fun _ => Respects.ite ?_ (Respects.pure _)
        exact Respects.bind (incidental_record _ _) fun _ => Respects.pure _
      refine Respects.ite ?_ (logged risk.score)
      exact Respects.bind (incidental_enqueue _) fun _ => logged risk.score

theorem staysHarmless_login (dto : LoginDto) (requestMeta : RequestMeta) :
    StaysHarmless input (AuthService.login app dto requestMeta) world fun _ _ => True := by
  unfold AuthService.login
  refine Advances.bind (staysHarmless_of_incidental (incidental_checkPassword dto))
    fun user _ _ _ => ?_
  refine Advances.bind (staysHarmless (harmless_findOrCreateDevice _ _)) ?_
  rintro ⟨device, isNew⟩ after - -
  refine Advances.ite (fun _ => staysHarmless (harmless_challenge user device)) fun _ => ?_
  exact Advances.bind (staysHarmless_issueTokenPair _ _ _ _) fun _ _ _ _ => Advances.pure trivial

theorem incidental_checkChallenge (dto : VerifyLoginDto) :
    (AuthService.checkChallenge app dto).Respects Incidental :=
  Footprint.checkChallenge incidental_registerChallengeAttempt incidental_record app dto

theorem staysHarmless_verifyLogin (dto : VerifyLoginDto) (requestMeta : RequestMeta) :
    StaysHarmless input (AuthService.verifyLogin app dto requestMeta) world fun _ _ => True := by
  unfold AuthService.verifyLogin
  refine Advances.bind (staysHarmless_of_incidental (incidental_checkChallenge dto)) ?_
  rintro ⟨user, payload⟩ after - -
  refine Advances.ite (fun _ => ?_) fun _ => staysHarmless_issueTokenPair _ _ _ _
  refine Advances.bind (staysHarmless_of_incidental (incidental_updateUser _ fun _ _ => rfl))
    fun _ _ _ _ => ?_
  exact staysHarmless_issueTokenPair _ _ _ _

/-! ## Sessions and devices -/

theorem incidental_sessionToRotate (rawToken : RawToken) :
    (AuthService.sessionToRotate rawToken).Respects Incidental :=
  Footprint.sessionToRotate incidental_revokeAllForUser incidental_record rawToken

theorem staysHarmless_refresh (rawToken : RawToken) :
    StaysHarmless input (AuthService.refresh app rawToken) world fun _ _ => True := by
  unfold AuthService.refresh
  refine Advances.bind (staysHarmless_of_incidental (incidental_sessionToRotate rawToken))
    fun session _ _ _ => ?_
  unfold AuthService.refreshSession
  refine Advances.bind (staysHarmless_findById session.userId) fun found _ _ known => ?_
  have refused : (do
      SessionsService.revoke session.id
      throw (.unauthorized "Account is not active") : Service TokenPair).Respects Incidental :=
    Respects.bind (incidental_revoke _) fun _ => Respects.throw _
  cases found with
  | none => exact staysHarmless_of_incidental refused
  | some user =>
      refine Advances.ite (fun _ => ?_) fun _ => staysHarmless_of_incidental refused
      unfold AuthService.rotateAndSign SessionsService.rotate
      refine Advances.bind (staysHarmless ?_) fun rotated _ moved _ => ?_
      · refine Respects.bind (harmless_createSession _) fun created => harmless_of_incidental ?_
        exact Respects.bind (incidental_updateSession _ fun _ _ => rfl) fun _ => Respects.pure _
      · exact Advances.bind (staysHarmless_signAccess ((known user rfl).later moved) _)
          fun _ _ _ _ => Advances.pure trivial

theorem harmless_removeDevice (userId : UserId) (deviceId : DeviceId) :
    (AuthService.removeDevice userId deviceId).Respects Harmless := by
  refine Respects.bind ?_ fun _ => harmless_of_incidental (incidental_record _ _)
  refine Respects.bind (Respects.query _) fun device => ?_
  cases device with
  | none => exact Respects.throw _
  | some device =>
      refine Respects.ite (Respects.throw _) (Respects.command fun input world => ?_)
      exact harmless_of_unsigned rfl rfl rfl (Nat.le_refl _)

theorem staysHarmless_impersonateUser (adminUserId targetUserId : UserId) :
    StaysHarmless input (AdminService.impersonateUser adminUserId targetUserId) world
      fun _ _ => True := by
  unfold AdminService.impersonateUser
  refine Advances.ite (fun _ => Advances.throw _ _) fun _ => ?_
  refine Advances.bind (staysHarmless_findById targetUserId) fun found _ _ known => ?_
  cases found with
  | none => exact Advances.throw _ _
  | some target =>
      refine Advances.ite (fun _ => Advances.throw _ _) fun _ => ?_
      refine Advances.ite (fun _ => Advances.throw _ _) fun _ => ?_
      refine Advances.bind (staysHarmless_signAccess (known target rfl) _) fun token _ _ _ => ?_
      exact staysHarmless_of_incidental
        (Respects.bind (incidental_record _ _) fun _ => Respects.pure _)

theorem incidental_verifyEmail (rawToken : RawToken) :
    (AuthService.verifyEmail rawToken).Respects Incidental := by
  refine Respects.bind (incidental_consumeVerificationToken _ _) fun token => ?_
  refine Respects.bind (incidental_updateUser _ fun _ _ => rfl) fun _ => ?_
  exact incidental_record _ _

theorem incidental_twoFactor (userId : UserId) (request : TwoFactorRequest) :
    (request.handle app userId).Respects Incidental := by
  cases request with
  | start2fa =>
      refine Respects.bind ?_ fun _ => Respects.pure ()
      refine Respects.bind (Respects.query _) fun user => ?_
      cases user with
      | none => exact Respects.throw _
      | some user =>
          refine Respects.ite (Respects.throw _) (Respects.bind (Respects.query _) ?_)
          rintro ⟨secret, initializationVector⟩
          refine Respects.bind (incidental_updateUser _ fun _ _ => rfl) fun _ => ?_
          exact Respects.bind (Respects.query _) fun _ => Respects.pure _
  | confirm2fa code =>
      refine Respects.bind (Respects.query _) fun user => ?_
      split
      · split
        · exact Respects.throw _
        · refine Respects.bind (Respects.query _) fun now => ?_
          refine Respects.ite ?_ (Respects.throw _)
          refine Respects.bind (incidental_updateUser _ fun _ _ => rfl) fun _ => ?_
          exact incidental_record _ _
      · exact Respects.throw _
  | disable2fa password =>
      refine Respects.bind (Respects.query _) fun user => ?_
      cases user with
      | none => exact Respects.throw _
      | some user =>
          refine Respects.ite ?_ (Respects.throw _)
          refine Respects.bind (incidental_updateUser _ fun _ _ => rfl) fun _ => ?_
          exact incidental_record _ _

/-! ## Searches -/

theorem harmless_aiSearch (userId : UserId) (dto : AiSearchDto) :
    (LeadsService.aiSearch app userId dto).Respects Harmless := by
  have readsCap : (LeadsService.searchCap app userId).Respects Harmless :=
    harmless_of_incidental (incidental_readOnly (readOnly_searchCap app userId))
  refine Respects.bind readsCap fun cap => ?_
  refine Respects.bind (Respects.attempt fun input world value after created => ?_) fun jobId => ?_
  · split at created
    · cases created
      exact harmless_of_unsigned rfl rfl rfl (Nat.le_succ _)
    · cases created
  · refine Respects.bind (Respects.command fun _ _ => ?_) fun _ => Respects.pure _
    exact harmless_of_unsigned rfl rfl rfl (Nat.le_refl _)

theorem harmless_own (userId : UserId) (request : OwnRequest) :
    (request.handle app userId).Respects Harmless := by
  cases request with
  | getSearchJob jobId => exact harmless_of_incidental (incidental_getSearchJob _ _)
  | cancelSearchJob jobId => exact harmless_of_incidental (incidental_cancelSearchJob _ _)
  | getMoreLeads jobId count => exact harmless_of_incidental (incidental_getMoreLeads _ _ _)
  | updateResultReviewStatus jobId resultId reviewStatus =>
      exact harmless_of_incidental (incidental_updateResultReviewStatus _ _ _ _)
  | trustDevice deviceId =>
      refine harmless_of_incidental (Respects.bind (incidental_trust _ _) fun device => ?_)
      exact Respects.bind (incidental_record _ _) fun _ => Respects.pure _
  | removeDevice deviceId => exact harmless_removeDevice _ _

theorem harmless_createResult (row : Nat → LeadSearchResult) :
    (LeadSearchTables.createResult row).Respects Harmless := by
  refine Respects.attempt fun input world value after created => ?_
  split at created
  · cases created
    exact harmless_of_unsigned rfl rfl rfl (Nat.le_succ _)
  · cases created

theorem harmless_createPending
    (jobId : Nat)
    (candidates : List ApolloCandidate)
    (made : Except ApiError (List LeadSearchResult)) :
    (ApolloSearchProcessor.createPending jobId candidates made).Respects Harmless := by
  induction candidates generalizing made with
  | nil => exact harmless_of_incidental (incidental_orThrow made)
  | cons candidate rest inductionHypothesis =>
      refine Respects.bind (Respects.tryCatch ?_ fun error => Respects.pure _)
        fun outcome => inductionHypothesis _
      exact Respects.bind (harmless_createResult _) fun _ => Respects.pure _

theorem harmless_recordDirect
    (data : ApolloSearchJobData)
    (personName : String)
    (matched : Option EnrichedColumns) :
    (ApolloSearchProcessor.recordDirect data personName matched).Respects Harmless :=
  Respects.bind (harmless_createResult _) fun _ =>
    harmless_of_incidental (incidental_finishSearch data)

theorem harmless_process (data : ApolloSearchJobData) :
    (ApolloSearchProcessor.process data).Respects Harmless := by
  have failed : ∀ status, (do
      let _ ← LeadSearchTables.updateJobStatus data.jobId status : Service Unit).Respects
        Harmless := fun status =>
    harmless_of_incidental
      (Respects.bind (incidental_updateJobStatus _ _) fun _ => Respects.pure ())
  refine Respects.tryCatch ?_ fun error => failed _
  split
  · refine Respects.bind (harmless_of_incidental (incidental_tryReserveCredit _))
      fun reserved => Respects.ite ?_ (failed _)
    refine Respects.bind (harmless_of_incidental incidental_matchPerson) fun matched => ?_
    cases matched with
    | some matched =>
        exact Respects.bind (harmless_of_incidental (incidental_orThrow _))
          fun columns => harmless_recordDirect _ _ _
    | none =>
        exact Respects.bind (harmless_of_incidental (incidental_refundCredit _))
          fun _ => harmless_recordDirect _ _ _
  · refine Respects.bind (harmless_of_incidental (incidental_searchPeople _ _)) fun found => ?_
    split
    · exact failed _
    · exact Respects.bind (harmless_createPending _ _ _)
        fun pending => harmless_of_incidental (incidental_enrichAll data pending)

/-! ## Billing -/

/-- Changes that are no account's leave the registry alone. -/
theorem Change.harmless
    {allowed : Allowance}
    (foreign : allowed.accounts = false)
    {before after : World}
    (change : Change allowed before after) :
    Harmless before after := by
  cases change with
  | @rows product _ _ _ supply =>
      cases product <;> exact harmless_of_unsigned rfl rfl rfl supply
  | fresh supply => exact harmless_of_unsigned rfl rfl rfl supply
  | invoice bills now subscriptionId =>
      unfold World.billed SubscriptionsService.upsertInvoice
      rw [Process.run_command]
      dsimp only
      split
      · exact harmless_of_unsigned rfl rfl rfl (Nat.le_refl _)
      · exact harmless_of_unsigned rfl rfl rfl (Nat.le_succ _)
  | credit _ userId _ =>
      unfold World.credited
      apply Incidental.harmless
      exact incidental_updateUsers before _ fun _ => rfl
  | grant => exact harmless_of_unsigned rfl rfl rfl (Nat.le_succ _)
  | account own =>
      rw [foreign] at own
      cases own
  | _ => exact harmless_of_unsigned rfl rfl rfl (Nat.le_refl _)

/-- The changes that are no account's. -/
def foreignChanges : Allowance where
  mails _ := true

theorem harmless_of_changes
    {service : Service α}
    (changes : service.Respects (Change foreignChanges)) :
    service.Respects Harmless :=
  changes.mono fun _ _ change => change.harmless rfl

theorem harmless_webhook (event : StripeEvent) :
    (StripeWebhookProcessor.process app event).Respects Harmless :=
  ((BillingRequest.webhook event).changes app).mono fun _ _ change => change.harmless rfl

theorem harmless_getOrCreateStripeCustomer (userId : UserId) :
    (StripeCustomerService.getOrCreateStripeCustomer userId).Respects Harmless := by
  refine Respects.bind (Respects.query _) fun user => ?_
  split
  · exact Respects.pure _
  · refine Respects.bind (Respects.attempt ?_) fun customer => ?_
    · rintro input world value after ⟨⟩
      exact harmless_of_unsigned rfl rfl rfl (Nat.le_succ _)
    · refine Respects.bind (Respects.attempt ?_) fun claimed => ?_
      · rintro input world value after ⟨⟩
        apply Incidental.harmless
        exact incidental_updateUsers world _ fun _ => rfl
      · refine Respects.ite (Respects.pure customer) ?_
        exact Respects.bind (Respects.query _) fun _ => Respects.pure _

theorem harmless_openCheckout (user : User) (action : AuditAction) :
    (SubscriptionsService.openCheckout user action).Respects Harmless := by
  refine Respects.bind (harmless_getOrCreateStripeCustomer _) fun _ => ?_
  refine Respects.bind (Respects.query _) fun url => ?_
  split
  · exact Respects.bind (harmless_of_incidental (incidental_record _ _)) fun _ => Respects.pure _
  · exact Respects.throw _

theorem harmless_createCheckoutSession (userId : UserId) (planSlug : String) :
    (SubscriptionsService.createCheckoutSession app userId planSlug).Respects Harmless := by
  refine Respects.bind (Respects.query _) fun user => ?_
  split
  · refine Respects.bind (Respects.query _) fun plan => ?_
    split
    · refine Respects.bind (Respects.query _) fun existing => ?_
      refine Respects.bind (Respects.query _) fun now => ?_
      split
      · exact Respects.throw _
      · refine Respects.bind ?_ fun _ => harmless_openCheckout _ _
        cases existing with
        | none => exact Respects.pure ()
        | some row =>
            exact harmless_of_changes
              (Respects.bind (changes_modifyStripe _ _) fun _ => changes_update rfl _ _)
    · exact Respects.throw _
  · exact Respects.throw _

theorem harmless_createLeadFinderCheckoutSession (userId : UserId) (tierSlug : String) :
    (LeadFinderBillingService.createCheckoutSession userId tierSlug).Respects Harmless := by
  refine Respects.bind (Respects.query _) fun user => ?_
  split
  · refine Respects.bind (Respects.query _) fun tier => ?_
    split
    · refine Respects.bind (Respects.query _) fun existing => ?_
      exact Respects.ite (Respects.throw _) (harmless_openCheckout _ _)
    · exact Respects.throw _
  · exact Respects.throw _

theorem harmless_cancel (userId : UserId) :
    (SubscriptionsService.cancel userId).Respects Harmless := by
  refine Respects.bind (Respects.query _) fun found => ?_
  split
  · refine harmless_of_changes (changes_schedule rfl _ _ _ ?_)
    refine Respects.bind (changes_record _ _) fun _ => ?_
    split
    · exact changes_enqueue rfl
    · exact Respects.pure ()
  · exact Respects.throw _

theorem harmless_resume (userId : UserId) :
    (SubscriptionsService.resume userId).Respects Harmless := by
  refine Respects.bind (Respects.query _) fun subscription => ?_
  split
  · exact harmless_of_changes (changes_schedule rfl _ _ _ (changes_record _ _))
  · exact Respects.throw _

theorem harmless_cancelLeadFinder (userId : UserId) :
    (LeadFinderBillingService.cancel userId).Respects Harmless := by
  refine Respects.bind (Respects.query _) fun subscription => ?_
  split
  · exact harmless_of_changes (changes_schedule rfl _ _ _ (changes_record _ _))
  · exact Respects.throw _

end ConferenceContact
