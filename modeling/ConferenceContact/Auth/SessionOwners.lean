import ConferenceContact.Auth.LaterTokens
import ConferenceContact.Auth.LoginAttempts
import ConferenceContact.Foundation.Ownership
import ConferenceContact.Foundation.Reliance

/-!
# Whose a session is

The sessions as a registry of credentials.  Among any requests, whose calls may come in
any order and be rejected, a session is created for the account that a login is for or
whose session is refreshed; so a refresh token stands for one account for good.
-/

namespace ConferenceContact

open Process

/-! ## The registry -/

/-- A session as a credential of its user. -/
def Session.credential (session : Session) : Credential SessionId (Sha256 RawToken) UserId where
  name := session.id
  token := session.tokenHash
  owner := session.userId
  replacedBy := session.replacedByTokenId

/-- The refresh tokens issued so far, with their owners. -/
def World.sessionRegistry (world : World) : CredentialRegistry SessionId (Sha256 RawToken) UserId :=
  world.sessions.map Session.credential

/-- The registry is well kept, with names and tokens that have been handed out. -/
structure World.Registered (world : World) : Prop where
  wellKept : world.sessionRegistry.WellKept
  names : ∀ credential ∈ world.sessionRegistry, credential.name < world.nextId
  tokens : ∀ credential ∈ world.sessionRegistry, credential.token.preimage < world.nextId

/-- Sessions stay with their owners, and signed tokens stay signed. -/
structure World.Onwards (before after : World) : Prop where
  registry : before.sessionRegistry.Extends after.sessionRegistry
  signed : before.signed ⊆ after.signed

instance : IsPreorder World World.Onwards where
  refl world := ⟨Std.Refl.refl world.sessionRegistry, List.Subset.refl _⟩
  trans _ _ _ first second :=
    ⟨IsTrans.trans _ _ _ first.registry second.registry,
      List.Subset.trans first.signed second.signed⟩

/-- No session is created or replaced. -/
structure SameRegistry (before after : World) : Prop where
  registry : after.sessionRegistry = before.sessionRegistry
  nextId : before.nextId ≤ after.nextId
  signed : before.signed ⊆ after.signed

instance : Std.Refl SameRegistry where
  refl _ := ⟨rfl, Nat.le_refl _, List.Subset.refl _⟩

theorem SameRegistry.keeps
    {before after : World}
    (same : SameRegistry before after)
    (registered : before.Registered) :
    after.Registered ∧ before.Onwards after := by
  obtain ⟨registry, nextId, signed⟩ := same
  refine ⟨⟨?_, ?_, ?_⟩, ?_, signed⟩
  · rw [registry]
    exact registered.wellKept
  · rw [registry]
    exact fun credential present => (registered.names credential present).trans_le nextId
  · rw [registry]
    exact fun credential present => (registered.tokens credential present).trans_le nextId
  · rw [registry]
    exact Std.Refl.refl _

/-- A consistent store is well registered. -/
theorem SessionStore.Consistent.registered
    {world : World}
    (consistent : world.store.Consistent) :
    world.Registered where
  wellKept :=
    { names := by
        have ids : world.sessionRegistry.map Credential.name = world.sessions.map (·.id) :=
          List.map_map
        rw [ids]
        exact consistent.idsDistinct
      tokens := by
        have tokens : world.sessionRegistry.map Credential.token =
            world.sessions.map (·.tokenHash) :=
          List.map_map
        rw [tokens]
        exact consistent.tokensDistinct
      successors := by
        intro credential present name replaced
        obtain ⟨session, stored, rfl⟩ := List.mem_map.mp present
        obtain ⟨-, successor, onFile, isNamed, sameUser⟩ :=
          consistent.successorExists session stored name replaced
        exact ⟨successor.credential, List.mem_map_of_mem onFile, isNamed, sameUser⟩ }
  names credential present := by
    obtain ⟨session, stored, rfl⟩ := List.mem_map.mp present
    exact consistent.idsFresh session stored
  tokens credential present := by
    obtain ⟨session, stored, rfl⟩ := List.mem_map.mp present
    exact consistent.tokensFresh session stored

/-! ## Calls that create and replace no session -/

section

variable {app : Deployment}

/-- Rewriting sessions that stay what they are as credentials. -/
theorem sameRegistry_updateSessions
    (world : World)
    (condition : Session → Bool)
    (rewrite : Session → Session)
    (kept : ∀ session, (rewrite session).credential = session.credential) :
    SameRegistry world
      { world with sessions := Table.updateWhere condition rewrite world.sessions } where
  registry := Table.map_updateWhere _ _ _ _ kept
  nextId := Nat.le_refl _
  signed := List.Subset.refl _

/-- Writes outside the sessions. -/
theorem sameRegistry_of_sessions
    {before after : World}
    (sessions : after.sessions = before.sessions)
    (nextId : before.nextId ≤ after.nextId)
    (signed : after.signed = before.signed) :
    SameRegistry before after where
  registry := congrArg (List.map Session.credential) sessions
  nextId
  signed := by
    rw [signed]
    exact List.Subset.refl _

theorem sameRegistry_updateUser (id : UserId) (rewrite : Time → User → User) :
    (UsersService.update id rewrite).Respects SameRegistry :=
  Footprint.updateUser fun _ _ => sameRegistry_of_sessions rfl (Nat.le_refl _) rfl

theorem sameRegistry_record (actor : Option UserId) (action : AuditAction) :
    (AuditService.record actor action).Respects SameRegistry :=
  Respects.command fun _ _ => sameRegistry_of_sessions rfl (Nat.le_refl _) rfl

theorem sameRegistry_enqueue (job : EmailJob) :
    (EmailService.enqueue job).Respects SameRegistry :=
  Footprint.enqueue (fun _ _ => sameRegistry_of_sessions rfl (Nat.le_refl _) rfl) job

theorem sameRegistry_sign (world : World) (token : Jwt) :
    SameRegistry world { world with signed := token :: world.signed } :=
  ⟨rfl, Nat.le_refl _, List.subset_cons_self _ _⟩

theorem sameRegistry_signAsync (payload : JwtPayload) (expiresIn : Nat) :
    (JwtService.signAsync payload expiresIn).Respects SameRegistry := by
  refine Respects.attempt ?_
  rintro input world value after ⟨⟩
  exact sameRegistry_sign world _

theorem sameRegistry_revokeAllForUser (userId : UserId) :
    (SessionsService.revokeAllForUser userId).Respects SameRegistry :=
  Respects.command fun _ world => sameRegistry_updateSessions world _ _ fun _ => rfl

theorem sameRegistry_revoke (sessionId : SessionId) :
    (SessionsService.revoke sessionId).Respects SameRegistry :=
  Footprint.updateSession fun _ world => sameRegistry_updateSessions world _ _ fun _ => rfl

theorem sameRegistry_enforceLimit (userId : UserId) :
    (SessionsService.enforceLimit app userId).Respects SameRegistry := by
  refine Respects.bind (Respects.query _) fun active => Respects.ite ?_ (Respects.pure ())
  exact Respects.command fun _ world => sameRegistry_updateSessions world _ _ fun _ => rfl

theorem sameRegistry_redis (world : World) (redis : List RedisEntry) :
    SameRegistry world { world with redis } :=
  sameRegistry_of_sessions rfl (Nat.le_refl _) rfl

theorem sameRegistry_revokeUser (userId : UserId) :
    (TokenRevocationService.revokeUser app userId).Respects SameRegistry :=
  Footprint.revokeUser sameRegistry_redis app userId

theorem sameRegistry_findOrCreateDevice (userId : UserId) (fingerprint : Sha256 String) :
    (DevicesService.findOrCreateDevice userId fingerprint).Respects SameRegistry :=
  Footprint.findOrCreateDevice (fun _ _ => sameRegistry_of_sessions rfl (Nat.le_refl _) rfl)
    (fun _ _ => sameRegistry_of_sessions rfl (Nat.le_succ _) rfl) userId fingerprint

theorem sameRegistry_registerFailedLogin (userId : UserId) :
    (UsersService.registerFailedLogin app userId).Respects SameRegistry := by
  refine Respects.bind (sameRegistry_updateUser _ _) fun user => ?_
  refine Respects.ite ?_ (Respects.pure _)
  exact Respects.bind (sameRegistry_updateUser _ _) fun _ => Respects.pure _

theorem sameRegistry_resetFailedLogins (userId : UserId) :
    (UsersService.resetFailedLogins userId).Respects SameRegistry :=
  Respects.bind (sameRegistry_updateUser _ _) fun _ => Respects.pure _

theorem sameRegistry_registerChallengeAttempt (token : Jwt) (ttlSeconds : Nat) :
    (TokenRevocationService.registerChallengeAttempt token ttlSeconds).Respects SameRegistry :=
  Footprint.registerChallengeAttempt (Footprint.incr sameRegistry_redis)
    (Footprint.expire sameRegistry_redis) token ttlSeconds

theorem sameRegistry_checkPassword (dto : LoginDto) :
    (AuthService.checkPassword app dto).Respects SameRegistry :=
  Footprint.checkPassword sameRegistry_resetFailedLogins sameRegistry_registerFailedLogin
    sameRegistry_record dto

theorem sameRegistry_checkChallenge (dto : VerifyLoginDto) :
    (AuthService.checkChallenge app dto).Respects SameRegistry :=
  Footprint.checkChallenge sameRegistry_registerChallengeAttempt sameRegistry_record app dto

theorem sameRegistry_logout (rawToken : RawToken) :
    (AuthService.logout rawToken).Respects SameRegistry := by
  refine Respects.bind (Respects.query _) fun session => ?_
  cases session with
  | none => exact Respects.pure _
  | some session =>
      refine Respects.bind (sameRegistry_revoke session.id) fun _ => ?_
      exact sameRegistry_record _ _

/-- The sessions and the access tokens of a user are ended and that is logged. -/
theorem sameRegistry_revokeEverything
    (userId : UserId)
    (actor : Option UserId)
    (action : AuditAction) :
    Respects SameRegistry (do
      SessionsService.revokeAllForUser userId
      TokenRevocationService.revokeUser app userId
      AuditService.record actor action) := by
  refine Respects.bind (sameRegistry_revokeAllForUser userId) fun _ => ?_
  refine Respects.bind (sameRegistry_revokeUser userId) fun _ => ?_
  exact sameRegistry_record actor action

theorem sameRegistry_remove (userId : UserId) (deviceId : DeviceId) :
    (DevicesService.remove userId deviceId).Respects SameRegistry := by
  refine Respects.bind (Respects.query _) fun device => ?_
  cases device with
  | none => exact Respects.throw _
  | some device =>
      refine Respects.ite (Respects.throw _) (Respects.command fun input world => ?_)
      refine ⟨?_, Nat.le_refl _, List.Subset.refl _⟩
      unfold World.sessionRegistry
      dsimp only
      rw [List.map_map]
      have kept : (Session.credential ∘ fun session => if session.deviceId = some deviceId then
            { session with deviceId := none } else session) = Session.credential := by
        funext session
        dsimp only [Function.comp]
        split <;> rfl
      rw [kept, Table.map_updateWhere]
      exact fun _ => rfl

theorem sameRegistry_deleteAccount (userId : UserId) (password : String) :
    (AuthService.deleteAccount app userId password).Respects SameRegistry :=
  Footprint.deleteAccount (fun _ _ => sameRegistry_of_sessions rfl (Nat.le_refl _) rfl)
    (fun _ => Footprint.eraseAccount fun _ _ _ _ =>
      ⟨Table.map_updateWhere _ _ _ _ fun _ => rfl, Nat.le_refl _, List.Subset.refl _⟩)
    (sameRegistry_revokeUser userId) sameRegistry_record password

theorem sameRegistry_consumeVerificationToken
    (rawToken : RawToken)
    (purpose : VerificationTokenPurpose) :
    (AuthService.consumeVerificationToken rawToken purpose).Respects SameRegistry :=
  Footprint.consumeVerificationToken
    (fun _ _ => sameRegistry_of_sessions rfl (Nat.le_refl _) rfl) rawToken purpose

theorem sameRegistry_forgotPassword (email : String) :
    (AuthService.forgotPassword app email).Respects SameRegistry := by
  have tables : ∀ (world : World) verificationTokens,
      SameRegistry world { world with verificationTokens } :=
    fun _ _ => sameRegistry_of_sessions rfl (Nat.le_refl _) rfl
  refine Footprint.forgotPassword (fun userId email purpose => ?_) sameRegistry_record app email
  exact Footprint.issueVerificationToken tables
    (fun _ => sameRegistry_of_sessions rfl (Nat.le_succ _) rfl)
    (fun _ _ => sameRegistry_of_sessions rfl (Nat.le_succ _) rfl)
    sameRegistry_enqueue userId email purpose

theorem sameRegistry_register (dto : RegisterDto) :
    (AuthService.register app dto).Respects SameRegistry := by
  refine Respects.bind (Respects.query _) fun existing => Respects.ite (Respects.throw _) ?_
  refine Respects.bind (Respects.attempt fun input world user after created => ?_)
    fun user => sameRegistry_record _ _
  split at created
  · cases created
  · dsimp only at created
    split at created
    · cases created
      exact sameRegistry_of_sessions rfl (Nat.le_succ _) rfl
    · cases created
      exact sameRegistry_of_sessions rfl (Nat.le_succ _) rfl

theorem sameRegistry_impersonateUser (adminUserId targetUserId : UserId) :
    (AdminService.impersonateUser adminUserId targetUserId).Respects SameRegistry := by
  refine Respects.ite (Respects.throw _) (Respects.bind (Respects.query _) fun found => ?_)
  cases found with
  | none => exact Respects.throw _
  | some target =>
      refine Respects.ite (Respects.throw _) (Respects.ite (Respects.throw _) ?_)
      refine Respects.bind (sameRegistry_signAsync _ _) fun token => ?_
      exact Respects.bind (sameRegistry_record _ _) fun _ => Respects.pure _

/-- A request that is neither a login nor a refresh. -/
theorem sameRegistry_handle
    {request : AuthRequest}
    (signsNobodyIn : ¬ (AccountRequest.auth request).SignsIn) :
    (request.handle app).Respects SameRegistry := by
  cases request with
  | login dto requestMeta => exact absurd trivial signsNobodyIn
  | verifyLogin dto requestMeta => exact absurd trivial signsNobodyIn
  | refresh rawRefreshToken => exact absurd trivial signsNobodyIn
  | logout rawRefreshToken => exact sameRegistry_logout rawRefreshToken
  | logoutAll userId => exact sameRegistry_revokeEverything _ _ _
  | forgotPassword email => exact sameRegistry_forgotPassword email
  | resetPassword rawToken newPassword =>
      refine Respects.bind (sameRegistry_consumeVerificationToken _ _) fun token => ?_
      refine Respects.bind (sameRegistry_updateUser _ _) fun _ => ?_
      exact sameRegistry_revokeEverything _ _ _
  | removeDevice userId deviceId =>
      exact Respects.bind (sameRegistry_remove userId deviceId) fun _ => sameRegistry_record _ _
  | suspendUser adminUserId targetUserId =>
      refine Respects.ite (Respects.throw _) (Respects.bind (Respects.query _) fun found => ?_)
      cases found with
      | none => exact Respects.throw _
      | some target =>
          refine Respects.ite (Respects.throw _) ?_
          refine Respects.bind (sameRegistry_updateUser _ _) fun _ => ?_
          exact sameRegistry_revokeEverything _ _ _
  | reactivateUser adminUserId targetUserId =>
      exact Footprint.reactivateUser (sameRegistry_updateUser _ _) sameRegistry_record adminUserId
  | deleteUser adminUserId targetUserId =>
      exact Footprint.deleteUser (sameRegistry_updateUser _ _)
        (sameRegistry_revokeAllForUser _) sameRegistry_redis sameRegistry_record app adminUserId
  | forceLogout adminUserId targetUserId =>
      refine Respects.bind (Respects.query _) fun found => ?_
      cases found with
      | none => exact Respects.throw _
      | some target => exact sameRegistry_revokeEverything _ _ _

/-! ## Calls that create or replace a session -/

/-- Among others that do the same, a service keeps the registry well and every session
with its owner. -/
abbrev KeepsRegistry
    (service : Service α)
    (world : World)
    (post : α → World → Prop) : Prop :=
  Sustains World.Registered World.Onwards service world post

variable {world : World}

theorem keepsRegistry_of_same
    {service : Service α}
    (same : service.Respects SameRegistry) :
    KeepsRegistry service world fun _ _ => True :=
  Sustains.of_respects same fun _ _ step registered => step.keeps registered

/-- A new session is of the account that it is created for. -/
theorem keepsRegistry_create (values : CreateSessionInput) :
    KeepsRegistry (SessionsService.create app values) world fun created after =>
      after.sessionRegistry.Owns ⟨created.1⟩ values.userId ∧
        after.sessionRegistry.Names created.2.id values.userId := by
  refine Sustains.attempt _ fun input later created after _ registered succeeds => ?_
  split at succeeds
  · cases succeeds
    refine ⟨⟨registered.wellKept.issue ?_ ?_ rfl, ?_, ?_⟩,
      ⟨CredentialRegistry.extends_cons _ _, List.Subset.refl _⟩,
      ⟨_, List.mem_cons_self, rfl, rfl⟩, ⟨_, List.mem_cons_self, rfl, rfl⟩⟩
    · intro other present same
      have older := registered.names other present
      rw [same] at older
      exact absurd older (by simp [Session.credential])
    · intro other present same
      have older := registered.tokens other present
      rw [same] at older
      exact absurd older (by simp [Session.credential])
    · intro credential present
      rcases List.mem_cons.mp present with rfl | old
      · exact Nat.lt_succ_self _
      · exact (registered.names credential old).trans_le (Nat.le_add_right _ 2)
    · intro credential present
      rcases List.mem_cons.mp present with rfl | old
      · exact Nat.lt_add_of_pos_right (by decide)
      · exact (registered.tokens credential old).trans_le (Nat.le_add_right _ 2)
  · cases succeeds

/-- A session is replaced by one of its owner. -/
theorem keepsRegistry_supersede
    {old new : SessionId}
    {userId : UserId}
    (replaced : world.sessionRegistry.Names old userId)
    (successor : world.sessionRegistry.Names new userId) :
    KeepsRegistry (SessionsService.update old fun now row =>
        { row with revokedAt := some now, replacedByTokenId := some new }) world
      fun _ _ => True := by
  refine Sustains.attempt _ fun input later value after onwards registered succeeds => ?_
  split at succeeds
  · cases succeeds
    have replaces : World.sessionRegistry
        { later with
          sessions := Table.updateWhere (fun session => session.id = old)
            (fun row => { row with revokedAt := some input.now, replacedByTokenId := some new })
            later.sessions } =
        later.sessionRegistry.replace old new := by
      unfold World.sessionRegistry Table.updateWhere CredentialRegistry.replace
      rw [List.map_map, List.map_map]
      refine List.map_congr_left fun session _ => ?_
      simp only [Function.comp, decide_eq_true_eq]
      by_cases named : session.id = old
      · have isNamed : session.credential.name = old := named
        rw [if_pos named, if_pos isNamed]
        rfl
      · have isOther : ¬ session.credential.name = old := named
        rw [if_neg named, if_neg isOther]
    refine ⟨⟨?_, ?_, ?_⟩, ⟨?_, List.Subset.refl _⟩, trivial⟩
    · rw [replaces]
      exact registered.wellKept.replace (onwards.registry.names _ _ replaced)
        (onwards.registry.names _ _ successor)
    · rw [replaces]
      intro credential present
      obtain ⟨before, stored, rfl⟩ := CredentialRegistry.mem_replace.mp present
      split <;> exact registered.names before stored
    · rw [replaces]
      intro credential present
      obtain ⟨before, stored, rfl⟩ := CredentialRegistry.mem_replace.mp present
      split <;> exact registered.tokens before stored
    · rw [replaces]
      exact CredentialRegistry.extends_replace _ _ _
  · cases succeeds

/-! ## Token pairs -/

/-- Both tokens are the account's. -/
def TokenPair.IsFor (tokens : TokenPair) (userId : UserId) (world : World) : Prop :=
  (∃ role, tokens.accessToken.payload = .access { sub := userId, role }) ∧
    world.sessionRegistry.Owns ⟨tokens.refreshToken⟩ userId

theorem TokenPair.IsFor.onwards
    {tokens : TokenPair}
    {userId : UserId}
    {after : World}
    (isFor : tokens.IsFor userId world)
    (onwards : world.Onwards after) :
    tokens.IsFor userId after :=
  ⟨isFor.1, onwards.registry.owns _ _ isFor.2⟩

/-- An access token names the account it is signed for. -/
theorem keepsRegistry_signAccessToken (sub : UserId) (role : Role) :
    KeepsRegistry (AuthService.signAccessToken app sub role) world
      fun token _ => token.payload = .access { sub, role } := by
  unfold AuthService.signAccessToken JwtService.signAsync
  refine Sustains.attempt _ ?_
  rintro input later token after - registered ⟨⟩
  obtain ⟨keeps, moves⟩ := (sameRegistry_sign later _).keeps registered
  exact ⟨keeps, moves, rfl⟩

/-- What has been read of an account is its row. -/
theorem keepsRegistry_findById (id : UserId) :
    KeepsRegistry (UsersService.findById id) world
      fun found _ => ∀ user ∈ found, user.id = id := by
  unfold UsersService.findById
  refine Sustains.query _ fun input later _ _ user found => ?_
  have isUser := List.find?_some found
  exact of_decide_eq_true isUser

/-- A completed login is for the account that it completes. -/
theorem keepsRegistry_issueTokenPair
    (userId : UserId)
    (deviceId : DeviceId)
    (requestMeta : RequestMeta)
    (isNewDevice : Bool) :
    KeepsRegistry (AuthService.issueTokenPair app userId deviceId requestMeta isNewDevice) world
      fun tokens after => tokens.IsFor userId after := by
  unfold AuthService.issueTokenPair
  refine Sustains.bind (keepsRegistry_findById userId) fun found _ _ isUser => ?_
  cases found with
  | none => exact Sustains.throw _ _
  | some user =>
      have isUser := isUser user rfl
      subst isUser
      refine Sustains.bind (keepsRegistry_of_same (Footprint.assess _ _ _ _)) fun risk _ _ _ => ?_
      refine Sustains.bind (keepsRegistry_of_same (sameRegistry_enforceLimit _)) fun _ _ _ _ => ?_
      refine Sustains.bind (keepsRegistry_signAccessToken _ _) fun token _ _ signed => ?_
      refine Sustains.bind (keepsRegistry_create _) ?_
      rintro ⟨rawToken, session⟩ created - ⟨owns, -⟩
      have isFor : ∀ expiresAt, TokenPair.IsFor ⟨token, rawToken, expiresAt⟩ user.id created :=
        fun _ => ⟨⟨user.role, signed⟩, owns⟩
      have logged : ∀ {service : Service TokenPair} {later : World} action,
          created.Onwards later →
          (∀ after, created.Onwards after →
            KeepsRegistry service after fun tokens after => tokens.IsFor user.id after) →
          KeepsRegistry (do AuditService.record (some user.id) action; service) later
            fun tokens after => tokens.IsFor user.id after := by
        intro service later action moved rest
        refine Sustains.bind (keepsRegistry_of_same (sameRegistry_record _ action)) ?_
        exact fun _ after onwards _ => rest after (IsTrans.trans _ _ _ moved onwards)
      refine Sustains.bind (keepsRegistry_of_same (sameRegistry_updateUser _ _))
        fun _ updated onwards _ => ?_
      refine Sustains.ite (fun _ => ?_) fun _ => logged _ onwards fun after moved => ?_
      · refine Sustains.bind (keepsRegistry_of_same (sameRegistry_enqueue _))
          fun _ mailed further _ => logged _ (IsTrans.trans _ _ _ onwards further)
            fun after moved => ?_
        refine Sustains.ite (fun _ => logged _ moved fun last moved => ?_) fun _ => ?_
        · exact Sustains.pure ((isFor _).onwards moved)
        · exact Sustains.pure ((isFor _).onwards moved)
      · refine Sustains.ite (fun _ => logged _ moved fun last moved => ?_) fun _ => ?_
        · exact Sustains.pure ((isFor _).onwards moved)
        · exact Sustains.pure ((isFor _).onwards moved)

/-! ## Logins -/

/-- A challenge hands out no refresh token. -/
theorem keepsRegistry_challenge (user : User) (device : Device) :
    KeepsRegistry (AuthService.challenge user device) world
      fun result _ => ∀ tokens, result ≠ .signedIn tokens := by
  unfold AuthService.challenge AuthService.signChallenge
  refine Sustains.ite (fun _ => ?_) fun _ => ?_
  · refine Sustains.bind (keepsRegistry_of_same (sameRegistry_signAsync _ _)) fun _ _ _ _ => ?_
    refine Sustains.bind (keepsRegistry_of_same (sameRegistry_record _ _)) fun _ _ _ _ => ?_
    exact Sustains.pure fun _ signedIn => by cases signedIn
  · refine Sustains.bind (keepsRegistry_of_same (Respects.query _)) fun _ _ _ _ => ?_
    refine Sustains.bind (keepsRegistry_of_same (sameRegistry_signAsync _ _)) fun _ _ _ _ => ?_
    refine Sustains.bind (keepsRegistry_of_same (sameRegistry_enqueue _)) fun _ _ _ _ => ?_
    refine Sustains.bind (keepsRegistry_of_same (sameRegistry_record _ _)) fun _ _ _ _ => ?_
    exact Sustains.pure fun _ signedIn => by cases signedIn

/-- The tokens of a login that needs no challenge are the account's. -/
theorem keepsRegistry_signIn (requestMeta : RequestMeta) (user : User) :
    KeepsRegistry (AuthService.signIn app requestMeta user) world
      fun result after => ∀ tokens, result = .signedIn tokens → tokens.IsFor user.id after := by
  unfold AuthService.signIn
  refine Sustains.bind (keepsRegistry_of_same (sameRegistry_findOrCreateDevice _ _)) ?_
  rintro ⟨device, isNew⟩ found - -
  refine Sustains.ite (fun _ => ?_) fun _ => ?_
  · refine (keepsRegistry_challenge user device).weaken fun result after _ challenged => ?_
    exact fun tokens signedIn => absurd signedIn (challenged tokens)
  · refine Sustains.bind (keepsRegistry_issueTokenPair _ _ _ _) fun pair after _ isFor => ?_
    refine Sustains.pure fun tokens signedIn => ?_
    cases signedIn
    exact isFor

/-- The part of an answer to a challenge after its code has been accepted. -/
def afterChallenge
    (app : Deployment)
    (requestMeta : RequestMeta)
    (user : User)
    (payload : LoginChallengePayload) : Service TokenPair := do
  if payload.method = .emailCode ∧ user.emailVerifiedAt = none then
    let _ ← UsersService.markEmailVerified user.id
  AuthService.issueTokenPair app user.id payload.deviceId requestMeta true

theorem verifyLogin_eq (dto : VerifyLoginDto) (requestMeta : RequestMeta) :
    AuthService.verifyLogin app dto requestMeta =
      AuthService.checkChallenge app dto >>= fun accepted =>
        afterChallenge app requestMeta accepted.1 accepted.2 := rfl

theorem keepsRegistry_afterChallenge
    (requestMeta : RequestMeta)
    (user : User)
    (payload : LoginChallengePayload) :
    KeepsRegistry (afterChallenge app requestMeta user payload) world
      fun tokens after => tokens.IsFor user.id after := by
  unfold afterChallenge
  refine Sustains.ite (fun _ => ?_) fun _ => keepsRegistry_issueTokenPair _ _ _ _
  refine Sustains.bind (keepsRegistry_of_same (sameRegistry_updateUser _ _)) fun _ _ _ _ => ?_
  exact keepsRegistry_issueTokenPair _ _ _ _

/-! ## Refreshes -/

/-- A session on file, as a credential. -/
theorem World.sessionRegistry_of_mem
    {session : Session}
    (present : session ∈ world.sessions) :
    world.sessionRegistry.Owns session.tokenHash session.userId ∧
      world.sessionRegistry.Names session.id session.userId :=
  ⟨⟨session.credential, List.mem_map_of_mem present, rfl, rfl⟩,
    ⟨session.credential, List.mem_map_of_mem present, rfl, rfl⟩⟩

/-- The successor of a session is of the same account. -/
theorem keepsRegistry_concurrentSuccessor
    {anySession : Option Session}
    (linked : ∀ session ∈ anySession, ∀ id ∈ session.replacedByTokenId,
      world.sessionRegistry.Names id session.userId) :
    KeepsRegistry (AuthService.concurrentSuccessor anySession) world
      fun found after => ∀ successor ∈ found, ∃ session ∈ anySession,
        successor.userId = session.userId ∧
          after.sessionRegistry.Names successor.id successor.userId := by
  have absent : ∀ {later : World}, KeepsRegistry (pure none : Service (Option Session)) later
      fun found after => ∀ successor ∈ found, ∃ session ∈ anySession,
        successor.userId = session.userId ∧
          after.sessionRegistry.Names successor.id successor.userId :=
    Sustains.pure fun _ found => by cases found
  cases anySession with
  | none => exact absent
  | some session =>
      cases revoked : session.revokedAt with
      | none => simpa only [AuthService.concurrentSuccessor, revoked] using absent
      | some revokedAt =>
          cases replaced : session.replacedByTokenId with
          | none => simpa only [AuthService.concurrentSuccessor, revoked, replaced] using absent
          | some id =>
              simp only [AuthService.concurrentSuccessor, revoked, replaced]
              refine Sustains.bind (keepsRegistry_of_same (Respects.query _)) fun _ _ before _ => ?_
              refine Sustains.ite (fun _ => ?_) fun _ => absent
              refine Sustains.bind (Sustains.query (fun found after =>
                ∀ successor ∈ found, successor.userId = session.userId ∧
                  after.sessionRegistry.Names successor.id successor.userId) ?_) ?_
              · intro input later onwards registered successor found
                have isSuccessor := List.find?_some found
                have named := (World.sessionRegistry_of_mem (List.mem_of_find?_eq_some found)).2
                have link := onwards.registry.names _ _
                  (before.registry.names _ _ (linked session rfl id replaced))
                rw [← of_decide_eq_true isSuccessor] at link
                exact ⟨registered.wellKept.names_unique named link, named⟩
              · intro found after _ same
                refine Sustains.bind (keepsRegistry_of_same (Respects.query _))
                  fun _ last further _ => Sustains.pure fun successor kept => ?_
                have isFound := (Option.filter_eq_some_iff.mp kept).1
                obtain ⟨sameUser, named⟩ := same successor isFound
                exact ⟨session, rfl, sameUser, further.registry.names _ _ named⟩

/-- The session that a token stands for is of the account that the token stands for. -/
theorem keepsRegistry_sessionToRotate (rawToken : RawToken) :
    KeepsRegistry (AuthService.sessionToRotate rawToken) world
      fun session after => after.sessionRegistry.Names session.id session.userId ∧
        ∀ owner, world.sessionRegistry.Owns ⟨rawToken⟩ owner → session.userId = owner := by
  have presented : ∀ {later : World} {session : Session}, world.Onwards later →
      later.Registered → session ∈ later.sessions → session.tokenHash = ⟨rawToken⟩ →
      ∀ owner, world.sessionRegistry.Owns ⟨rawToken⟩ owner → session.userId = owner := by
    intro later session onwards registered stored isToken owner owns
    have own := (World.sessionRegistry_of_mem stored).1
    rw [isToken] at own
    exact registered.wellKept.owns_unique own (onwards.registry.owns _ _ owns)
  unfold AuthService.sessionToRotate SessionsService.findActiveByRawToken
    SessionsService.findAnyByRawToken
  refine Sustains.bind (Sustains.query (fun found after => ∀ session ∈ found,
    after.sessionRegistry.Names session.id session.userId ∧
      ∀ owner, world.sessionRegistry.Owns ⟨rawToken⟩ owner → session.userId = owner) ?_) ?_
  · intro input later onwards registered session found
    have stored := List.mem_of_find?_eq_some found
    have isSession := List.find?_some found
    exact ⟨(World.sessionRegistry_of_mem stored).2, presented onwards registered stored
      (of_decide_eq_true (Bool.and_eq_true_iff.mp isSession).1)⟩
  intro active found first owned
  cases active with
  | some session => exact Sustains.pure (owned session rfl)
  | none =>
      refine Sustains.bind (Sustains.query (fun any after => ∀ session ∈ any,
        (∀ id ∈ session.replacedByTokenId, after.sessionRegistry.Names id session.userId) ∧
          ∀ owner, world.sessionRegistry.Owns ⟨rawToken⟩ owner → session.userId = owner) ?_) ?_
      · intro input later second registered session found
        have stored := List.mem_of_find?_eq_some found
        have isSession := List.find?_some found
        refine ⟨registered.wellKept.successors session.credential
          (List.mem_map_of_mem stored), ?_⟩
        exact presented (IsTrans.trans _ _ _ first second) registered stored
          (of_decide_eq_true isSession)
      intro anySession looked _ known
      refine Sustains.bind (keepsRegistry_concurrentSuccessor fun session isAny =>
        (known session isAny).1) fun successor after onwards linked => ?_
      cases successor with
      | some successor =>
          obtain ⟨session, isAny, sameUser, named⟩ := linked successor rfl
          exact Sustains.pure ⟨named, fun owner owns =>
            sameUser.trans ((known session isAny).2 owner owns)⟩
      | none =>
          cases anySession with
          | none => exact Sustains.throw _ _
          | some session =>
              refine Sustains.ite (fun _ => ?_) fun _ => Sustains.throw _ _
              refine Sustains.bind (keepsRegistry_of_same (sameRegistry_revokeAllForUser _))
                fun _ _ _ _ => ?_
              refine Sustains.bind (keepsRegistry_of_same (sameRegistry_record _ _))
                fun _ _ _ _ => ?_
              exact Sustains.throw _ _

/-- A session is rotated for its owner. -/
theorem keepsRegistry_rotate
    {session : Session}
    (named : world.sessionRegistry.Names session.id session.userId) :
    KeepsRegistry (SessionsService.rotate app session) world
      fun rotated after => after.sessionRegistry.Owns ⟨rotated.1⟩ session.userId := by
  unfold SessionsService.rotate
  refine Sustains.bind (keepsRegistry_create _) ?_
  rintro ⟨rawToken, created⟩ after onwards ⟨owns, successor⟩
  refine Sustains.bind (keepsRegistry_supersede (onwards.registry.names _ _ named) successor)
    fun _ last further _ => ?_
  exact Sustains.pure (further.registry.owns _ _ owns)

theorem keepsRegistry_refreshSession
    {session : Session}
    (named : world.sessionRegistry.Names session.id session.userId) :
    KeepsRegistry (AuthService.refreshSession app session) world
      fun tokens after => tokens.IsFor session.userId after := by
  have refused : ∀ {later : World}, KeepsRegistry (do
      SessionsService.revoke session.id
      throw (.unauthorized "Account is not active") : Service TokenPair) later
      fun tokens after => tokens.IsFor session.userId after :=
    Sustains.bind (keepsRegistry_of_same (sameRegistry_revoke _)) fun _ _ _ _ => Sustains.throw _ _
  unfold AuthService.refreshSession
  refine Sustains.bind (keepsRegistry_findById session.userId) fun found after onwards isUser => ?_
  cases found with
  | none => exact refused
  | some user =>
      refine Sustains.ite (fun _ => ?_) fun _ => refused
      unfold AuthService.rotateAndSign
      refine Sustains.bind (keepsRegistry_rotate (onwards.registry.names _ _ named)) ?_
      rintro ⟨rawToken, created⟩ rotated - owns
      refine Sustains.bind (keepsRegistry_signAccessToken _ _) fun token last further signed => ?_
      rw [isUser user rfl] at signed
      exact Sustains.pure ⟨⟨user.role, signed⟩, further.registry.owns _ _ owns⟩

/-- A refresh hands out tokens of the account that the token presented stands for. -/
theorem keepsRegistry_refresh (rawToken : RawToken) :
    KeepsRegistry (AuthService.refresh app rawToken) world
      fun tokens after => ∀ owner, world.sessionRegistry.Owns ⟨rawToken⟩ owner →
        tokens.IsFor owner after := by
  unfold AuthService.refresh
  refine Sustains.bind (keepsRegistry_sessionToRotate rawToken) ?_
  rintro session found - ⟨named, isOwner⟩
  refine (keepsRegistry_refreshSession named).weaken fun tokens after _ isFor owner owns => ?_
  rw [← isOwner owner owns]
  exact isFor

/-! ## Requests -/

/-- Whoever signs in with whatever tokens, sessions stay with their owners. -/
theorem keepsRegistry_handle (request : AccountRequest) :
    KeepsRegistry (request.handle app) world fun _ _ => True := by
  cases request with
  | impersonateUser adminUserId targetUserId =>
      exact Sustains.bind (keepsRegistry_of_same (sameRegistry_impersonateUser _ _))
        fun _ _ _ _ => Sustains.pure trivial
  | deleteAccount userId password =>
      exact keepsRegistry_of_same (sameRegistry_deleteAccount userId password)
  | auth request =>
      by_cases signsIn : (AccountRequest.auth request).SignsIn
      · cases request with
        | login dto requestMeta =>
            have login : KeepsRegistry (AuthService.login app dto requestMeta) world _ :=
              Sustains.bind (keepsRegistry_of_same (sameRegistry_checkPassword dto))
                fun user _ _ _ => (keepsRegistry_signIn requestMeta user).weaken
                  fun _ _ _ _ => trivial
            exact Sustains.bind login fun _ _ _ _ => Sustains.pure trivial
        | verifyLogin dto requestMeta =>
            have verifyLogin :
                KeepsRegistry (AuthService.verifyLogin app dto requestMeta) world _ :=
              Sustains.bind (keepsRegistry_of_same (sameRegistry_checkChallenge dto))
                fun accepted _ _ _ =>
                  (keepsRegistry_afterChallenge requestMeta accepted.1 accepted.2).weaken
                    fun _ _ _ _ => trivial
            exact Sustains.bind verifyLogin fun _ _ _ _ => Sustains.pure trivial
        | refresh rawRefreshToken =>
            exact Sustains.bind (keepsRegistry_refresh rawRefreshToken)
              fun _ _ _ _ => Sustains.pure trivial
        | _ => exact signsIn.elim
      · exact keepsRegistry_of_same (sameRegistry_handle signsIn)

end

end ConferenceContact
