import ConferenceContact.Privileges.Harmless

/-!
# Requests and the deeds they do

Every request that reaches the backend, with the guards it passes on its way.  A
registration opens an account, an invitation offers grants, and the two `set…Access`
calls alter an account; the last three only on the request of an administrator.
-/

namespace ConferenceContact

open Process

/-! ## Requests -/

/-- The routes that anyone may call. -/
inductive PublicRequest
  | register (dto : RegisterDto)
  | verifyEmail (rawToken : RawToken)
  | login (dto : LoginDto) (requestMeta : RequestMeta)
  | verifyLogin (dto : VerifyLoginDto) (requestMeta : RequestMeta)
  | refresh (rawRefreshToken : RawToken)
  | logout (rawRefreshToken : RawToken)
  | forgotPassword (email : String)
  | resetPassword (rawToken : RawToken) (newPassword : String)
  | webhook (event : StripeEvent)

/-- The routes of a signed-in user. -/
inductive SignedInRequest
  | logoutAll
  | twoFactor (request : TwoFactorRequest)
  | own (request : OwnRequest)
  | aiSearch (dto : AiSearchDto)
  | createCheckoutSession (planSlug : String)
  | cancel
  | resume
  | createLeadFinderCheckoutSession (tierSlug : String)
  | cancelLeadFinder
  | deleteAccount (password : String)

/-- The routes under `/admin` that concern accounts. -/
inductive AdminRequest
  | inviteUser (dto : AdminService.InviteUserDto)
  | setDirectoryAccess (targetUserId : UserId) (granted : Bool)
  | setLeadFinderAccess (targetUserId : UserId) (granted : Bool)
  | suspendUser (targetUserId : UserId)
  | reactivateUser (targetUserId : UserId)
  | deleteUser (targetUserId : UserId)
  | forceLogout (targetUserId : UserId)
  | impersonateUser (targetUserId : UserId)

/-- What the rest of the backend does not touch. -/
structure Unprivileged (before after : World) : Prop where
  accounts : after.users.map User.account = before.users.map User.account
  invites : after.adminAccessInvites = before.adminAccessInvites
  signed : after.signed = before.signed
  nextId : before.nextId ≤ after.nextId

/-- A request with its bearer token, or what else the backend is busy with. -/
inductive HttpRequest
  | anyone (request : PublicRequest)
  | signedIn (token : Option Jwt) (request : SignedInRequest)
  | admin (token : Option Jwt) (request : AdminRequest)
  /-- A run of the worker. -/
  | search (data : ApolloSearchJobData)
  /-- Any other code. -/
  | elsewhere (service : Service Unit) (unprivileged : service.Respects Unprivileged)

/-- The method behind a route. -/
def PublicRequest.handle (app : Deployment) : PublicRequest → Service Unit
  | register dto => AuthService.register app dto
  | verifyEmail rawToken => AuthService.verifyEmail rawToken
  | login dto requestMeta => do
      let _ ← AuthService.login app dto requestMeta
  | verifyLogin dto requestMeta => do
      let _ ← AuthService.verifyLogin app dto requestMeta
  | refresh rawRefreshToken => do
      let _ ← AuthService.refresh app rawRefreshToken
  | logout rawRefreshToken => AuthService.logout rawRefreshToken
  | forgotPassword email => AuthService.forgotPassword app email
  | resetPassword rawToken newPassword => AuthService.resetPassword app rawToken newPassword
  | webhook event => StripeWebhookProcessor.process app event

/-- The method behind a route, for the user of the token. -/
def SignedInRequest.handle (app : Deployment) (userId : UserId) : SignedInRequest → Service Unit
  | logoutAll => AuthService.logoutAll app userId
  | twoFactor request => request.handle app userId
  | own request => do
      let _ ← request.handle app userId
  | aiSearch dto => do
      let _ ← LeadsService.aiSearch app userId dto
  | createCheckoutSession planSlug => do
      let _ ← SubscriptionsService.createCheckoutSession app userId planSlug
  | cancel => SubscriptionsService.cancel userId
  | resume => SubscriptionsService.resume userId
  | createLeadFinderCheckoutSession tierSlug => do
      let _ ← LeadFinderBillingService.createCheckoutSession userId tierSlug
  | cancelLeadFinder => LeadFinderBillingService.cancel userId
  | deleteAccount password => AuthService.deleteAccount app userId password

/-- The method behind a route, for the administrator of the token. -/
def AdminRequest.handle (app : Deployment) (adminUserId : UserId) : AdminRequest → Service Unit
  | inviteUser dto => AdminService.inviteUser app adminUserId dto
  | setDirectoryAccess targetUserId granted =>
      AdminService.setDirectoryAccess adminUserId targetUserId granted
  | setLeadFinderAccess targetUserId granted =>
      AdminService.setLeadFinderAccess adminUserId targetUserId granted
  | suspendUser targetUserId => AdminService.suspendUser app adminUserId targetUserId
  | reactivateUser targetUserId => AdminService.reactivateUser adminUserId targetUserId
  | deleteUser targetUserId => AdminService.deleteUser app adminUserId targetUserId
  | forceLogout targetUserId => AdminService.forceLogout app adminUserId targetUserId
  | impersonateUser targetUserId => do
      let _ ← AdminService.impersonateUser adminUserId targetUserId

/-- `@Roles(Role.ADMIN, Role.SUPER_ADMIN)` of the class `AdminController`. -/
def adminRoles : List Role := [.admin, .superAdmin]

/-- The guards of a route that is not public; the payload of the token they let pass. -/
def authorise (required : List Role) (token : Option Jwt) : Service AccessTokenPayload := do
  let user ← JwtAuthGuard.canActivate false token
  let _ ← RolesGuard.canActivate required user
  let some user := user
    | throw (.unauthorized "Unauthorized")
  return user

/-- What a request has the services do, past the guards. -/
def HttpRequest.handle (app : Deployment) : HttpRequest → Service Unit
  | anyone request => do
      let _ ← JwtAuthGuard.canActivate true none
      request.handle app
  | signedIn token request => do
      let user ← authorise [] token
      request.handle app user.sub
  | admin token request => do
      let user ← authorise adminRoles token
      request.handle app user.sub
  | search data => ApolloSearchProcessor.process data
  | elsewhere service _ => service

/-- One request of a run, what its calls read, and the position of the call that is
rejected, if one is. -/
structure HttpOccurrence where
  input : Input
  rejected : Option Nat := none
  request : HttpRequest

/-- The rejected call and its error. -/
def HttpOccurrence.fault (occurrence : HttpOccurrence) : Option (Nat × ApiError) :=
  occurrence.rejected.map fun position => (position, .database)

/-- The world after a request. -/
def HttpOccurrence.step (app : Deployment) (world : World) (occurrence : HttpOccurrence) : World :=
  ((occurrence.request.handle app).runWithFault occurrence.input occurrence.fault world).2

/-- The world after the requests of a run, the latest first, are handled one at a time. -/
def serveHttp (app : Deployment) (start : World) : List HttpOccurrence → World
  | [] => start
  | occurrence :: earlier => occurrence.step app (serveHttp app start earlier)

/-! ## Guards -/

/-- The guards let the request through as that of an administrator. -/
def AuthorisedAsAdmin
    (occurrence : HttpOccurrence)
    (world : World)
    (token : Option Jwt) : Prop :=
  ∃ payload,
    ((authorise adminRoles token).runWithFault occurrence.input occurrence.fault world).1 =
      .ok payload ∧
    (payload.role = .admin ∨ payload.role = .superAdmin)

variable {app : Deployment} {input : Input} {world before after : World}

/-- What passes the guard of every route is the payload of a token that was signed. -/
theorem advances_canActivate (token : Option Jwt) :
    Advances Eq input (fun _ => True) (JwtAuthGuard.canActivate false token) world
      fun user _ => ∃ payload, user = some payload ∧
        ∃ jwt ∈ world.signed, jwt.payload = .access payload := by
  unfold JwtAuthGuard.canActivate
  refine Advances.ite nofun fun _ => ?_
  cases token with
  | none => exact Advances.throw _ _
  | some jwt =>
      refine Advances.bind (Advances.query (fun found _ => ∀ payload, found = some payload →
        jwt ∈ world.signed ∧ jwt.payload = payload) ?_) ?_
      · intro payload found
        split at found
        · rename_i valid
          cases found
          exact ⟨valid.1, rfl⟩
        · cases found
      rintro found _ ⟨⟩ verified
      cases found with
      | none => exact Advances.throw _ _
      | some payload =>
      cases payload with
      | loginChallenge payload => exact Advances.throw _ _
      | access payload =>
          have asked : (TokenRevocationService.isRevoked payload.sub).Respects Eq :=
            Respects.tryCatch (Footprint.answered (Respects.query _)) fun _ => Respects.pure _
          refine Advances.bind (Advances.of_respects asked) ?_
          rintro revoked _ ⟨⟩ -
          refine Advances.ite (fun _ => Advances.throw _ _) fun _ => Advances.pure ?_
          exact ⟨payload, rfl, jwt, (verified _ rfl).1, (verified _ rfl).2⟩

/-- What passes all guards has a role the route requires, too. -/
theorem advances_authorise (required : List Role) (token : Option Jwt) :
    Advances Eq input (fun _ => True) (authorise required token) world fun payload _ =>
      (∃ jwt ∈ world.signed, jwt.payload = .access payload) ∧
        (required = [] ∨ payload.role ∈ required) := by
  unfold authorise
  refine Advances.bind (advances_canActivate token) ?_
  rintro _ _ ⟨⟩ ⟨payload, rfl, signed⟩
  have guarded : Advances Eq input (fun _ => True) (RolesGuard.canActivate required (some payload))
      world fun _ _ => required = [] ∨ payload.role ∈ required := by
    unfold RolesGuard.canActivate
    refine Advances.ite (fun any => Advances.pure (.inl any)) fun _ => ?_
    exact Advances.ite (fun allowed => Advances.pure (.inr allowed)) fun _ => Advances.throw _ _
  exact Advances.bind guarded fun _ _ _ allowed => Advances.pure ⟨signed, allowed⟩

theorem authorise_passed
    {required : List Role}
    {token : Option Jwt}
    {fault : Option (Nat × ApiError)}
    {payload : AccessTokenPayload}
    (passed : ((authorise required token).runWithFault input fault world).1 = .ok payload) :
    (∃ jwt ∈ world.signed, jwt.payload = .access payload) ∧
      (required = [] ∨ payload.role ∈ required) :=
  (Ensures.runWithFault (advances_authorise required token) fault fun _ _ _ => trivial).2
    payload passed

/-! ## Deeds -/

/-- The deed is done, or nothing is. -/
def DoesAtMost (deed : Deed String Grants) (before after : World) : Prop :=
  Harmless before after ∨ Acts deed before after

/-- However it ends, the service does at most the deed. -/
abbrev EnsuresAtMost
    (input : Input)
    (deed : Deed String Grants)
    (service : Service α)
    (world : World) : Prop :=
  service.Ensures input (fun _ => True) world fun _ after => DoesAtMost deed world after

variable {deed : Deed String Grants}

theorem ensuresAtMost_throw (error : ApiError) :
    EnsuresAtMost input deed (throw error : Service α) world :=
  .inl (harmless_refl world)

theorem ensuresAtMost_query_bind
    {read : Input → World → α}
    {next : α → Service β}
    (rest : EnsuresAtMost input deed (next (read input world)) world) :
    EnsuresAtMost input deed (query read >>= next) world :=
  ⟨rest, fun _ _ => .inl (harmless_refl world)⟩

/-- One call does the deed, and the calls after it are harmless. -/
theorem ensuresAtMost_attempt_bind
    {act : Input → World → Except ApiError (α × World)}
    {next : α → Service β}
    (acts : ∀ value after, act input world = .ok (value, after) → Acts deed world after)
    (rest : ∀ value, (next value).Respects Harmless) :
    EnsuresAtMost input deed (attempt act >>= next) world := by
  have first : (attempt act).Ensures input (fun _ => True) world fun result after =>
      (∀ value, result = .ok value → Acts deed world after) ∧
        ∀ error, result = .error error → after = world := by
    rw [Ensures.attempt_iff]
    refine ⟨?_, fun _ _ => ⟨by simp, fun _ _ => rfl⟩⟩
    cases outcome : act input world with
    | error error => exact ⟨by simp, fun _ _ => rfl⟩
    | ok pair => exact ⟨fun _ _ => acts pair.1 pair.2 outcome, by simp⟩
  refine Ensures.bind first ?_ ?_
  · intro value after acted
    refine (Ensures.of_respects (rest value)).weaken fun result last rests => ?_
    exact .inr ((harmless_refl world).later (acted.1 value rfl) rests)
  · intro error after kept
    rw [kept.2 error rfl]
    exact .inl (harmless_refl world)

/-- A step of the registry that signs nothing. -/
theorem acts_of_step
    (step : Registry.Step deed before.registry after.registry)
    (roles : ∀ account change, deed = .alter account change →
      ∀ grants, (change grants).role = grants.role)
    (signed : after.signed = before.signed) :
    Acts deed before after where
  step := step
  roles := roles
  signs _ present := .inl (signed ▸ present)

/-- Rewriting an invite rewrites its offer. -/
theorem offers_updateInvites
    {rewrite : AdminAccessInvite → AdminAccessInvite}
    (change : Offer String Grants → Offer String Grants)
    (same : ∀ invite, (rewrite invite).offer = change invite.offer)
    (id : Nat)
    (invites : List AdminAccessInvite) :
    (Table.updateWhere (fun invite => invite.id = id) rewrite invites).map
        AdminAccessInvite.offer =
      Table.updateWhere (fun offer => offer.id = id) change
        (invites.map AdminAccessInvite.offer) := by
  apply Table.map_updateWhere_view
  · exact fun _ => rfl
  · exact same

/-- The grants of a pending invite of the address, or none, go to the new account. -/
theorem ensures_register (dto : RegisterDto) :
    EnsuresAtMost input (.open (UsersService.normalizeEmail app dto.email))
      (AuthService.register app dto) world := by
  refine ensuresAtMost_query_bind ?_
  split
  · exact ensuresAtMost_throw _
  refine ensuresAtMost_attempt_bind (fun created after outcome => ?_) fun _ =>
    harmless_of_incidental (incidental_record _ _)
  split at outcome
  · cases outcome
  · dsimp only at outcome
    split at outcome
    · rename_i invite found
      cases outcome
      obtain ⟨present, matched⟩ := Table.findFirst_eq_some found
      simp only [Bool.decide_and, Bool.and_eq_true, decide_eq_true_eq] at matched
      refine acts_of_step ?_ (fun _ _ altered => by cases altered) rfl
      have stored : invite.offer ∈ world.registry.offers := List.mem_map_of_mem present
      have step := Registry.Step.redeem world.registry stored (decide_eq_true matched.2)
        (Nat.le_refl _) (Nat.lt_succ_self world.nextId)
      rw [show invite.offer.address = _ from matched.1] at step
      simp only [World.registry]
      rw [offers_updateInvites (fun offer => { offer with pending := false }) fun _ => rfl]
      exact step
    · cases outcome
      refine acts_of_step ?_ (fun _ _ altered => by cases altered) rfl
      exact .open world.registry _ (Nat.le_refl _) (Nat.lt_succ_self world.nextId)

/-- What an invitation grants, with the defaults of the service. -/
def AdminService.InviteUserDto.grants (dto : AdminService.InviteUserDto) : Grants where
  role := dto.role.getD .user
  directoryAccess := dto.grantDirectoryAccess.getD true
  leadFinderAccess := dto.grantLeadFinderAccess.getD false

/-- The grants are offered to the address, with the pending invite or a new one. -/
theorem ensures_inviteUser (adminUserId : UserId) (dto : AdminService.InviteUserDto) :
    EnsuresAtMost input (.offer (UsersService.normalizeEmail app dto.email) dto.grants)
      (AdminService.inviteUser app adminUserId dto) world := by
  refine ensuresAtMost_query_bind ?_
  split
  · exact ensuresAtMost_throw _
  refine ensuresAtMost_query_bind ?_
  have rest : ∀ job : EmailJob, (do
      EmailService.enqueue job
      AuditService.record (some adminUserId) .adminUserInvited : Service Unit).Respects
        Harmless := fun job => harmless_of_incidental
    (Respects.bind (incidental_enqueue _) fun _ => incidental_record _ _)
  split
  · rename_i invite found
    obtain ⟨present, matched⟩ := Table.findFirst_eq_some found
    simp only [Bool.decide_and, Bool.and_eq_true, decide_eq_true_eq] at matched
    refine ensuresAtMost_attempt_bind (fun _ after outcome => ?_) fun _ => rest _
    split at outcome
    · split at outcome
      · cases outcome
        refine acts_of_step ?_ (fun _ _ altered => by cases altered) rfl
        have stored : invite.offer ∈ world.registry.offers := List.mem_map_of_mem present
        have step := Registry.Step.amend world.registry stored (decide_eq_true matched.2)
          dto.grants (Nat.le_refl _)
        rw [show invite.offer.address = _ from matched.1] at step
        simp only [World.registry]
        rw [offers_updateInvites (fun offer => { offer with endowment := dto.grants })
          fun _ => rfl]
        exact step
      · cases outcome
    · cases outcome
  · refine ensuresAtMost_attempt_bind (fun _ after outcome => ?_) fun _ => rest _
    split at outcome
    · cases outcome
      refine acts_of_step ?_ (fun _ _ altered => by cases altered) rfl
      exact .offer world.registry _ dto.grants (Nat.le_refl _) (Nat.lt_succ_self world.nextId)
    · cases outcome

/-- An update of a user's row alters the account. -/
theorem ensures_setAccess
    {rewrite : Time → User → User}
    {change : Grants → Grants}
    (rewrites : ∀ now user, (rewrite now user).account = (user.id, change user.grants))
    (roles : ∀ grants, (change grants).role = grants.role)
    (targetUserId : UserId)
    {rest : Service Unit}
    (harmless : rest.Respects Harmless) :
    EnsuresAtMost input (.alter targetUserId change)
      (do
        let some _ ← UsersService.findById targetUserId
          | throw (.notFound "User not found")
        let _ ← UsersService.update targetUserId rewrite
        rest) world := by
  refine ensuresAtMost_query_bind ?_
  split
  · refine ensuresAtMost_attempt_bind (fun _ after outcome => ?_) fun _ => harmless
    split at outcome
    · cases outcome
    · cases outcome
      refine acts_of_step ?_ ?_ rfl
      · have step := Registry.Step.alter world.registry targetUserId change (Nat.le_refl _)
        have same : (Table.updateWhere (fun user => user.id = targetUserId) (rewrite input.now)
            world.users).map User.account =
            Table.updateWhere (fun account => account.1 = targetUserId)
              (fun account => (account.1, change account.2)) (world.users.map User.account) := by
          apply Table.map_updateWhere_view
          · exact fun _ => rfl
          · exact rewrites input.now
        simp only [World.registry]
        rw [same]
        exact step
      · intro account altered same
        cases same
        exact roles
  · exact ensuresAtMost_throw _

/-! ## Every request -/

/-- The deeds that a request may do. -/
inductive HttpOccurrence.Permits
    (app : Deployment)
    (world : World)
    (occurrence : HttpOccurrence) : Deed String Grants → Prop
  | register
      {dto : RegisterDto}
      (request : occurrence.request = .anyone (.register dto)) :
      Permits app world occurrence (.open (UsersService.normalizeEmail app dto.email))
  | inviteUser
      {token : Option Jwt}
      {dto : AdminService.InviteUserDto}
      (request : occurrence.request = .admin token (.inviteUser dto))
      (authorised : AuthorisedAsAdmin occurrence world token) :
      Permits app world occurrence
        (.offer (UsersService.normalizeEmail app dto.email) dto.grants)
  | setDirectoryAccess
      {token : Option Jwt}
      {targetUserId : UserId}
      {granted : Bool}
      (request : occurrence.request = .admin token (.setDirectoryAccess targetUserId granted))
      (authorised : AuthorisedAsAdmin occurrence world token) :
      Permits app world occurrence
        (.alter targetUserId fun grants => { grants with directoryAccess := granted })
  | setLeadFinderAccess
      {token : Option Jwt}
      {targetUserId : UserId}
      {granted : Bool}
      (request : occurrence.request = .admin token (.setLeadFinderAccess targetUserId granted))
      (authorised : AuthorisedAsAdmin occurrence world token) :
      Permits app world occurrence
        (.alter targetUserId fun grants => { grants with leadFinderAccess := granted })

theorem staysHarmless_discard
    {service : Service α}
    (stays : StaysHarmless input service world fun _ _ => True) :
    StaysHarmless input (do let _ ← service) world fun _ _ => True :=
  Advances.bind stays fun _ _ _ _ => Advances.pure trivial

/-- The public routes other than registration. -/
theorem staysHarmless_public
    {request : PublicRequest}
    (other : ∀ dto, request ≠ .register dto) :
    StaysHarmless input (request.handle app) world fun _ _ => True := by
  cases request with
  | register dto => exact absurd rfl (other dto)
  | verifyEmail rawToken => exact staysHarmless_of_incidental (incidental_verifyEmail _)
  | login dto requestMeta => exact staysHarmless_discard (staysHarmless_login dto requestMeta)
  | verifyLogin dto requestMeta =>
      exact staysHarmless_discard (staysHarmless_verifyLogin dto requestMeta)
  | refresh rawToken => exact staysHarmless_discard (staysHarmless_refresh rawToken)
  | logout rawToken => exact staysHarmless_of_incidental (incidental_logout _)
  | forgotPassword email => exact staysHarmless_of_incidental (incidental_forgotPassword _)
  | resetPassword rawToken newPassword =>
      exact staysHarmless_of_incidental (incidental_resetPassword _ _)
  | webhook event => exact staysHarmless (harmless_webhook event)

theorem staysHarmless_signedIn (userId : UserId) (request : SignedInRequest) :
    StaysHarmless input (request.handle app userId) world fun _ _ => True := by
  cases request with
  | logoutAll => exact staysHarmless_of_incidental (incidental_revokeEverything _ _ _)
  | twoFactor request => exact staysHarmless_of_incidental (incidental_twoFactor _ _)
  | own request => exact staysHarmless_discard (staysHarmless (harmless_own _ _))
  | aiSearch dto => exact staysHarmless_discard (staysHarmless (harmless_aiSearch _ _))
  | createCheckoutSession planSlug =>
      exact staysHarmless_discard (staysHarmless (harmless_createCheckoutSession _ _))
  | cancel => exact staysHarmless (harmless_cancel _)
  | resume => exact staysHarmless (harmless_resume _)
  | createLeadFinderCheckoutSession tierSlug =>
      exact staysHarmless_discard (staysHarmless (harmless_createLeadFinderCheckoutSession _ _))
  | cancelLeadFinder => exact staysHarmless (harmless_cancelLeadFinder _)
  | deleteAccount password => exact staysHarmless_of_incidental (incidental_deleteAccount _ _)

/-- A request is harmless, or does one deed that it may do. -/
def HttpOccurrence.Does
    (app : Deployment)
    (occurrence : HttpOccurrence)
    (before after : World) : Prop :=
  Harmless before after ∨
    ∃ deed, occurrence.Permits app before deed ∧ Acts deed before after

variable {occurrence : HttpOccurrence}

theorem does_of_atMost
    {service : Service α}
    (permits : occurrence.Permits app world deed)
    (ensures : EnsuresAtMost input deed service world) :
    service.Ensures input (fun _ => True) world fun _ after => occurrence.Does app world after := by
  refine Ensures.weaken ensures fun _ after done => ?_
  exact done.imp_right fun acts => ⟨deed, permits, acts⟩

theorem does_of_staysHarmless
    {service : Service α}
    (stays : StaysHarmless input service world fun _ _ => True) :
    service.Ensures input (fun _ => True) world fun _ after => occurrence.Does app world after :=
  Ensures.weaken stays fun _ _ moved => .inl moved.1

/-- What follows the guards does so in the world of the guards. -/
theorem does_of_authorise
    {required : List Role}
    {token : Option Jwt}
    {fault : Option (Nat × ApiError)}
    {next : AccessTokenPayload → Service Unit}
    (goesOn : ∀ payload,
      ((authorise required token).runWithFault input fault world).1 = .ok payload →
        (next payload).Ensures input (fun _ => True) world fun _ after =>
          occurrence.Does app world after) :
    occurrence.Does app world
      ((authorise required token >>= next).runWithFault input fault world).2 := by
  have stays : world = ((authorise required token).runWithFault input fault world).2 :=
    (advances_authorise required token).runWithFault fault
  obtain ⟨rest, goes⟩ := runWithFault_bind (authorise required token) next input fault world
  rw [goes]
  rcases outcome : (authorise required token).runWithFault input fault world with
    ⟨error | payload, after⟩
  · rw [outcome] at stays
    exact .inl (stays ▸ harmless_refl world)
  · rw [outcome] at stays goesOn
    cases stays
    exact (goesOn payload rfl).runWithFault rest fun _ _ _ => trivial

/-- The payload of a token that passes the guards of `/admin`. -/
theorem authorisedAsAdmin_of_passed
    {token : Option Jwt}
    {payload : AccessTokenPayload}
    (passed : ((authorise adminRoles token).runWithFault occurrence.input occurrence.fault
      world).1 = .ok payload) :
    AuthorisedAsAdmin occurrence world token := by
  refine ⟨payload, passed, ?_⟩
  rcases (authorise_passed passed).2 with unrestricted | allowed
  · cases unrestricted
  · simpa [adminRoles] using allowed

theorem HttpOccurrence.does
    (app : Deployment)
    (world : World)
    (occurrence : HttpOccurrence) :
    occurrence.Does app world (occurrence.step app world) := by
  have ends (service : Service Unit)
      (ensures : service.Ensures occurrence.input (fun _ => True) world fun _ after =>
        occurrence.Does app world after) :
      occurrence.Does app world
        (service.runWithFault occurrence.input occurrence.fault world).2 :=
    ensures.runWithFault _ fun _ _ _ => trivial
  unfold HttpOccurrence.step
  cases carried : occurrence.request with
  | anyone request =>
      refine ends (request.handle app) ?_
      by_cases registers : ∃ dto, request = .register dto
      · obtain ⟨dto, rfl⟩ := registers
        exact does_of_atMost (.register carried) (ensures_register dto)
      · refine does_of_staysHarmless (staysHarmless_public fun dto same => ?_)
        exact registers ⟨dto, same⟩
  | signedIn token request =>
      exact does_of_authorise fun payload _ =>
        does_of_staysHarmless (staysHarmless_signedIn payload.sub request)
  | admin token request =>
      refine does_of_authorise fun payload passed => ?_
      have authorised := authorisedAsAdmin_of_passed passed
      cases request with
      | inviteUser dto =>
          exact does_of_atMost (.inviteUser carried authorised) (ensures_inviteUser _ dto)
      | setDirectoryAccess targetUserId granted =>
          refine does_of_atMost (.setDirectoryAccess carried authorised) ?_
          refine ensures_setAccess ?_ ?_ targetUserId
            (harmless_of_incidental (incidental_record _ _))
          · exact fun _ _ => rfl
          · exact fun _ => rfl
      | setLeadFinderAccess targetUserId granted =>
          refine does_of_atMost (.setLeadFinderAccess carried authorised) ?_
          refine ensures_setAccess ?_ ?_ targetUserId
            (harmless_of_incidental (incidental_record _ _))
          · exact fun _ _ => rfl
          · exact fun _ => rfl
      | suspendUser targetUserId =>
          exact does_of_staysHarmless
            (staysHarmless_of_incidental (incidental_suspendUser _ _))
      | reactivateUser targetUserId =>
          exact does_of_staysHarmless
            (staysHarmless_of_incidental (incidental_reactivateUser _ _))
      | deleteUser targetUserId =>
          exact does_of_staysHarmless
            (staysHarmless_of_incidental (incidental_deleteUser _ _))
      | forceLogout targetUserId =>
          exact does_of_staysHarmless
            (staysHarmless_of_incidental (incidental_forceLogout _ _))
      | impersonateUser targetUserId =>
          exact does_of_staysHarmless
            (staysHarmless_discard (staysHarmless_impersonateUser _ _))
  | search data => exact ends _ (does_of_staysHarmless (staysHarmless (harmless_process data)))
  | elsewhere service unprivileged =>
      refine ends _ ?_
      refine does_of_staysHarmless (staysHarmless (unprivileged.mono fun _ _ leaves => ?_))
      refine harmless_of_same leaves.accounts leaves.invites leaves.nextId ?_
      rw [leaves.signed]
      exact fun _ present => .inl present

end ConferenceContact
