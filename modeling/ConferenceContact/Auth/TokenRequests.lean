import ConferenceContact.Auth.Requests
import ConferenceContact.Auth.TokenStore
import ConferenceContact.Billing.Footprints
import ConferenceContact.Foundation.Advances
import ConferenceContact.Foundation.Runs

/-!
# Requests and the token store

A run is a sequence of account requests handled one at a time, in each of which
one call may be rejected.  Each request moves the token store along the steps of
`TokenStore.Step`; it issues something only to the users its `MayMint` names.
-/

namespace ConferenceContact

open Process

/-- The requests that issue, revoke or take away access to an account. -/
inductive AccountRequest
  | auth (request : AuthRequest)
  | impersonateUser (adminUserId targetUserId : UserId)
  | deleteAccount (userId : UserId) (password : String)

/-- The service method behind a request. -/
def AccountRequest.handle (app : Deployment) : AccountRequest → Service Unit
  | auth request => request.handle app
  | impersonateUser adminUserId targetUserId => do
      let _ ← AdminService.impersonateUser adminUserId targetUserId
  | deleteAccount userId password => AuthService.deleteAccount app userId password

/-- A request, what its calls read besides the world, and the call that is
rejected, if one is. -/
structure AccountArrival where
  input : Input
  request : AccountRequest
  rejected : Option (Nat × ApiError) := none

/-- The world after a request. -/
def AccountArrival.step
    (app : Deployment)
    (world : World)
    (arrival : AccountArrival) : World :=
  ((arrival.request.handle app).runWithFault arrival.input arrival.rejected world).2

/-! ## Moves of the token store -/

/-- The token store is left alone. -/
def SameTokens (before after : World) : Prop :=
  after.tokens = before.tokens

instance : IsPreorder World SameTokens where
  refl _ := rfl
  trans _ _ _ first second := second.trans first

/-- The token store moves along its steps. -/
def TokenMoves
    (app : Deployment)
    (now : Time)
    (mayIssue : UserId → Prop)
    (before after : World) : Prop :=
  TokenStore.Steps app now mayIssue before.tokens after.tokens

instance : IsPreorder World (TokenMoves app now mayIssue) where
  refl _ := Relation.ReflTransGen.refl
  trans _ _ _ first second := Relation.ReflTransGen.trans first second

/-- The process moves the token store along its steps, whichever of its calls are
rejected with some errors. -/
abbrev Mints
    (app : Deployment)
    (input : Input)
    (rejections : ApiError → Prop)
    (mayIssue : UserId → Prop)
    (process : Service α)
    (world : World)
    (post : α → World → Prop) : Prop :=
  Advances (TokenMoves app input.now mayIssue) input rejections process world post

variable {app : Deployment} {input : Input} {rejections : ApiError → Prop}
  {mayIssue : UserId → Prop} {world : World}

theorem SameTokens.moves {now : Time} {before after : World} (same : SameTokens before after) :
    TokenMoves app now mayIssue before after := by
  unfold TokenMoves
  rw [same]

theorem mints_of_same
    {process : Service α}
    (respects : process.Respects SameTokens) :
    Mints app input rejections mayIssue process world fun _ _ => True :=
  Advances.of_respects (respects.mono fun _ _ same => same.moves)

/-- One step of the token store. -/
theorem TokenStore.Step.moves
    {now : Time}
    {before after : World}
    (step : TokenStore.Step app now mayIssue before.tokens after.tokens) :
    TokenMoves app now mayIssue before after :=
  Relation.ReflTransGen.single step

/-! ## Calls outside the token store -/

theorem sameTokens_updateUser (id : UserId) (rewrite : Time → User → User) :
    (UsersService.update id rewrite).Respects SameTokens :=
  Footprint.updateUser fun _ _ => rfl

theorem sameTokens_record (actor : Option UserId) (action : AuditAction) :
    (AuditService.record actor action).Respects SameTokens :=
  Respects.command fun _ _ => rfl

theorem sameTokens_enqueue (job : EmailJob) :
    (EmailService.enqueue job).Respects SameTokens :=
  Footprint.enqueue (fun _ _ => rfl) job

/-- Rewriting sessions without changing their ids and users. -/
theorem sameTokens_updateSessions
    (world : World)
    (condition : Session → Bool)
    (rewrite : Session → Session)
    (kept : ∀ session, ((rewrite session).id, (rewrite session).userId) =
      (session.id, session.userId)) :
    SameTokens world
      { world with sessions := Table.updateWhere condition rewrite world.sessions } := by
  unfold SameTokens World.tokens
  rw [Table.map_updateWhere _ _ _ _ kept]

theorem sameTokens_updateSession
    (id : SessionId)
    {rewrite : Time → Session → Session}
    (kept : ∀ now session, ((rewrite now session).id, (rewrite now session).userId) =
      (session.id, session.userId)) :
    (SessionsService.update id rewrite).Respects SameTokens :=
  Footprint.updateSession fun now world => sameTokens_updateSessions world _ _ (kept now)

theorem sameTokens_revokeAllForUser (userId : UserId) :
    (SessionsService.revokeAllForUser userId).Respects SameTokens :=
  Respects.command fun _ world => sameTokens_updateSessions world _ _ fun _ => rfl

theorem sameTokens_enforceLimit (userId : UserId) :
    (SessionsService.enforceLimit app userId).Respects SameTokens := by
  refine Respects.bind (Respects.query _) fun active => Respects.ite ?_ (Respects.pure ())
  exact Respects.command fun _ world => sameTokens_updateSessions world _ _ fun _ => rfl

theorem sameTokens_findOrCreateDevice (userId : UserId) (fingerprint : Sha256 String) :
    (DevicesService.findOrCreateDevice userId fingerprint).Respects SameTokens :=
  Footprint.findOrCreateDevice (fun _ _ => rfl) (fun _ _ => rfl) userId fingerprint

theorem sameTokens_registerFailedLogin (userId : UserId) :
    (UsersService.registerFailedLogin app userId).Respects SameTokens := by
  refine Respects.bind (sameTokens_updateUser _ _) fun user => ?_
  refine Respects.ite ?_ (Respects.pure _)
  exact Respects.bind (sameTokens_updateUser _ _) fun _ => Respects.pure _

theorem sameTokens_remove (userId : UserId) (deviceId : DeviceId) :
    (DevicesService.remove userId deviceId).Respects SameTokens := by
  refine Respects.bind (Respects.query _) fun device => ?_
  cases device with
  | none => exact Respects.throw _
  | some device =>
      refine Respects.ite (Respects.throw _) (Respects.command fun input world => ?_)
      unfold SameTokens World.tokens
      dsimp only
      rw [List.map_map]
      have kept : ((fun session : Session => (session.id, session.userId)) ∘
          fun session => if session.deviceId = some deviceId then
            { session with deviceId := none } else session) =
          fun session => (session.id, session.userId) := by
        funext session
        dsimp only [Function.comp]
        split <;> rfl
      rw [kept, Table.map_updateWhere]
      exact fun _ => rfl

theorem sameTokens_issueVerificationToken
    (userId : UserId)
    (email : String)
    (purpose : VerificationTokenPurpose) :
    (AuthService.issueVerificationToken userId email purpose).Respects SameTokens := by
  refine Footprint.issueVerificationToken (fun _ _ => ?_) (fun _ => ?_) (fun _ _ => ?_)
    sameTokens_enqueue userId email purpose
  all_goals rfl

theorem sameTokens_endSubscription (activeSubscription : Option SubscriptionRow) :
    (AuthService.endSubscription activeSubscription).Respects SameTokens :=
  Footprint.endSubscription (fun _ _ => rfl) activeSubscription

theorem sameTokens_eraseAccount
    (userId : UserId)
    (activeSubscription : Option SubscriptionRow) :
    (AuthService.eraseAccount userId activeSubscription).Respects SameTokens :=
  Footprint.eraseAccount fun _ world _ _ => sameTokens_updateSessions world _ _ fun _ => rfl

/-! ## Steps of the token store -/

theorem mints_signAccess
    {payload : AccessTokenPayload}
    {expiresIn : Nat}
    (lifetime : TokenStore.Lifetime app expiresIn)
    (allowed : mayIssue payload.sub) :
    Mints app input rejections mayIssue (JwtService.signAsync (.access payload) expiresIn) world
      fun _ _ => True := by
  refine Advances.attempt _ ?_
  rintro value after ⟨⟩
  exact ⟨TokenStore.Step.moves (.sign world.tokens payload expiresIn lifetime allowed),
    trivial⟩

theorem mints_signChallenge (payload : LoginChallengePayload) :
    Mints app input rejections mayIssue (AuthService.signChallenge payload) world
      fun _ _ => True := by
  unfold AuthService.signChallenge
  refine Advances.attempt _ ?_
  rintro value after ⟨⟩
  exact ⟨TokenStore.Step.moves (.challenge world.tokens payload _), trivial⟩

theorem mints_create
    (call : CreateSessionInput)
    (allowed : mayIssue call.userId) :
    Mints app input rejections mayIssue (SessionsService.create app call) world
      fun _ _ => True := by
  refine Advances.attempt _ ?_
  intro value after created
  split at created
  · cases created
    exact ⟨TokenStore.Step.moves (.create world.tokens _ call.userId allowed), trivial⟩
  · cases created

/-- Redis answers, and no call is rejected. -/
def Redis.Answers (input : Input) (rejections : ApiError → Prop) : Prop :=
  input.redisAvailable = true ∧ ∀ error, ¬rejections error

/-- Once it is executed while Redis answers, the tokens are revoked. -/
theorem mints_revokeUser (userId : UserId) :
    Mints app input rejections mayIssue (TokenRevocationService.revokeUser app userId) world
      fun _ after => Redis.Answers input rejections →
        after.tokens.RevokedAt app userId input.now := by
  have swallowed (unanswered : ¬Redis.Answers input rejections) :
      Mints app input rejections mayIssue (pure () : Service Unit) world fun _ after =>
        Redis.Answers input rejections → after.tokens.RevokedAt app userId input.now :=
    Advances.pure fun answers => absurd answers unanswered
  unfold TokenRevocationService.revokeUser Redis.answered Redis.setEx
  unfold Mints Advances at *
  simp only [Ensures.tryCatch_iff, Ensures.bind_iff, Ensures.ask_iff]
  refine ⟨?_, fun error rejected => swallowed fun answers => answers.2 error rejected⟩
  split
  · rw [Ensures.command_iff]
    exact ⟨⟨TokenStore.Step.moves (.revoke world.tokens userId),
        fun _ _ _ _ => TokenStore.lookup_put_isSome rfl⟩,
      fun error rejected => swallowed fun answers => answers.2 error rejected⟩
  · exact swallowed fun answers => absurd answers.1 ‹_›

theorem mints_registerChallengeAttempt (token : Jwt) (ttlSeconds : Nat) :
    Mints app input rejections mayIssue
      (TokenRevocationService.registerChallengeAttempt token ttlSeconds) world
      fun _ _ => True := by
  refine Advances.tryCatch ?_ fun _ _ _ => Advances.pure trivial
  refine Advances.bind Advances.ask fun outside _ _ _ => ?_
  refine Advances.ite (fun _ => ?_) fun _ => Advances.throw _ _
  refine Advances.bind (Advances.attempt (fun _ _ => True) ?_) fun count middle _ _ => ?_
  · rintro value next ⟨⟩
    refine ⟨TokenStore.Step.moves (.count _ _ ?_), trivial⟩
    intro userId
    split
    · rename_i entry found
      have matched := List.find?_some found
      simp only [decide_eq_true_eq] at matched
      rw [matched.1]
      exact nofun
    · exact nofun
  · refine Advances.ite (fun _ => ?_) fun _ => Advances.pure trivial
    refine Advances.bind (Advances.command ?_) fun _ _ _ _ => Advances.pure trivial
    cases found : Redis.lookup input.now (.challengeAttempts ⟨token⟩) middle.redis with
    | none =>
        exact Std.Refl.refl middle
    | some entry =>
        refine TokenStore.Step.moves (.count _ _ fun userId => ?_)
        have matched := List.find?_some found
        simp only [decide_eq_true_eq] at matched
        rw [matched.1]
        exact nofun

/-! ## Logging in -/

/-- Only an active account is returned. -/
theorem mints_checkPassword (dto : LoginDto) :
    Mints app input rejections mayIssue (AuthService.checkPassword app dto) world
      fun user _ => user ∈ world.users ∧ user.status = .active := by
  unfold AuthService.checkPassword
  refine Advances.bind (Advances.query (fun found _ =>
    ∀ user, found = some user → user ∈ world.users) ?_) ?_
  · exact fun user found => List.mem_of_find?_eq_some found
  intro found _ _ stored
  cases found with
  | none => exact Advances.throw _ _
  | some user =>
      refine Advances.bind (Advances.query (fun _ _ => True) trivial) fun now _ _ _ => ?_
      refine Advances.ite (fun _ => Advances.throw _ _) fun _ => ?_
      refine Advances.ite (fun _ => Advances.throw _ _) fun active => ?_
      refine Advances.ite (fun _ => ?_) fun _ => ?_
      · refine Advances.bind (mints_of_same (Respects.bind (sameTokens_updateUser _ _)
          fun _ => Respects.pure _)) fun _ _ _ _ => ?_
        exact Advances.pure ⟨stored user rfl, by simpa using active⟩
      · refine Advances.bind (mints_of_same (sameTokens_registerFailedLogin _))
          fun locked _ _ _ => ?_
        refine Advances.bind (mints_of_same (sameTokens_record _ _)) fun _ _ _ _ => ?_
        exact Advances.ite (fun _ => Advances.throw _ _) fun _ => Advances.throw _ _

theorem mints_challenge (user : User) (device : Device) :
    Mints app input rejections mayIssue (AuthService.challenge user device) world
      fun _ _ => True := by
  unfold AuthService.challenge
  refine Advances.ite (fun _ => ?_) fun _ => ?_
  · refine Advances.bind (mints_signChallenge _) fun token _ _ _ => ?_
    exact mints_of_same (Respects.bind (sameTokens_record _ _) fun _ => Respects.pure _)
  · refine Advances.bind (Advances.query (fun _ _ => True) trivial) fun code _ _ _ => ?_
    refine Advances.bind (mints_signChallenge _) fun token _ _ _ => ?_
    refine mints_of_same (Respects.bind (sameTokens_enqueue _) fun _ => ?_)
    exact Respects.bind (sameTokens_record _ _) fun _ => Respects.pure _

/-- Completing a login issues an access token and a session to its user only. -/
theorem mints_issueTokenPair
    {userId : UserId}
    (deviceId : DeviceId)
    (requestMeta : RequestMeta)
    (isNewDevice : Bool)
    (allowed : mayIssue userId) :
    Mints app input rejections mayIssue
      (AuthService.issueTokenPair app userId deviceId requestMeta isNewDevice) world
      fun _ _ => True := by
  unfold AuthService.issueTokenPair
  refine Advances.bind (Advances.query (fun found _ =>
    ∀ user, found = some user → user.id = userId) ?_) ?_
  · intro user found
    simpa using List.find?_some found
  intro found _ _ named
  cases found with
  | none => exact Advances.throw _ _
  | some user =>
      have owner : mayIssue user.id := (named user rfl).symm ▸ allowed
      refine Advances.bind (mints_of_same (Footprint.assess _ _ _ _)) fun risk _ _ _ => ?_
      refine Advances.bind (mints_of_same (sameTokens_enforceLimit _)) fun _ _ _ _ => ?_
      refine Advances.bind (mints_signAccess (.inl rfl) owner) fun token _ _ _ => ?_
      refine Advances.bind (mints_create _ owner) fun created _ _ _ => ?_
      refine Advances.bind (mints_of_same (sameTokens_updateUser _ _)) fun _ _ _ _ => ?_
      have logged : ∀ score, (do
          AuditService.record (some user.id) .authLogin
          if app.riskHighThreshold ≤ score then
            AuditService.record (some user.id) .authHighRiskLogin
          return {
            accessToken := token
            refreshToken := created.1
            refreshTokenExpiresAt := created.2.expiresAt } :
          Service TokenPair).Respects SameTokens := by
        intro score
        refine Respects.bind (sameTokens_record _ _) fun _ => Respects.ite ?_ (Respects.pure _)
        exact Respects.bind (sameTokens_record _ _) fun _ => Respects.pure _
      refine Advances.ite (fun _ => ?_) fun _ => mints_of_same (logged risk.score)
      exact mints_of_same
        (Respects.bind (sameTokens_enqueue _) fun _ => logged risk.score)

/-- A login issues something to an active account only. -/
theorem mints_login
    (active : ∀ user ∈ world.users, user.status = .active → mayIssue user.id)
    (dto : LoginDto)
    (requestMeta : RequestMeta) :
    Mints app input rejections mayIssue (AuthService.login app dto requestMeta) world
      fun _ _ => True := by
  unfold AuthService.login
  refine Advances.bind (mints_checkPassword dto) ?_
  rintro user _ - ⟨stored, isActive⟩
  refine Advances.bind (mints_of_same (sameTokens_findOrCreateDevice _ _)) ?_
  rintro ⟨device, isNew⟩ _ - -
  refine Advances.ite (fun _ => mints_challenge _ _) fun _ => ?_
  refine Advances.bind (mints_issueTokenPair _ _ _ (active user stored isActive))
    fun _ _ _ _ => ?_
  exact Advances.pure trivial

/-- A valid challenge of an account is answered with its right code. -/
structure AnswersChallenge
    (app : Deployment)
    (dto : VerifyLoginDto)
    (input : Input)
    (world : World)
    (user : User)
    (payload : LoginChallengePayload) : Prop where
  challenge : dto.challengeToken.payload = .loginChallenge payload
  signed : dto.challengeToken ∈ world.signed
  unexpired : input.now / 1000 < dto.challengeToken.exp
  stored : user ∈ world.users
  named : user.id = payload.sub
  code : ((AuthService.codeValid app user payload dto.code).run input world).1 = .ok true

/-- What the check of a code returns is what it returns by itself, wherever and
whenever it is made in the request. -/
theorem mints_codeValid
    (user : User)
    (payload : LoginChallengePayload)
    (code : String)
    (start : World) :
    Mints app input rejections mayIssue (AuthService.codeValid app user payload code) world
      fun valid _ =>
        ((AuthService.codeValid app user payload code).run input start).1 = .ok valid := by
  unfold AuthService.codeValid
  cases payload.method with
  | totp =>
      cases user.twoFactorSecret.filter (· ≠ "") with
      | none => exact Advances.throw _ _
      | some encrypted =>
          cases decrypted : EncryptionService.decrypt app encrypted with
          | error error =>
              simp only [decrypted]
              exact Advances.throw _ _
          | ok secret =>
              simp only [decrypted]
              refine Advances.bind (Advances.query (fun now _ => now = input.now) rfl) ?_
              rintro now _ - rfl
              exact Advances.pure rfl
  | emailCode =>
      cases payload.codeHash with
      | none => exact Advances.throw _ _
      | some codeHash => exact Advances.pure rfl

/-- Only the account and the challenge of a right answer are returned. -/
theorem mints_checkChallenge (dto : VerifyLoginDto) :
    Mints app input rejections mayIssue (AuthService.checkChallenge app dto) world
      fun result _ => AnswersChallenge app dto input world result.1 result.2 := by
  unfold AuthService.checkChallenge
  refine Advances.bind (Advances.query (fun found after => after = world ∧
    ∀ payload, found = some payload → dto.challengeToken.payload = payload ∧
      dto.challengeToken ∈ world.signed ∧
        input.now / 1000 < dto.challengeToken.exp) ⟨rfl, ?_⟩) ?_
  · intro payload verified
    split at verified
    · rename_i valid
      cases verified
      exact ⟨rfl, valid⟩
    · cases verified
  rintro found _ - ⟨rfl, verified⟩
  cases found with
  | none => exact Advances.throw _ _
  | some payload =>
  cases payload with
  | access payload => exact Advances.throw _ _
  | loginChallenge payload =>
      obtain ⟨challenge, signed, unexpired⟩ := verified _ rfl
      rename_i world
      refine Advances.bind (Advances.query (fun found _ =>
        ∀ user, found = some user → user ∈ world.users ∧ user.id = payload.sub) ?_) ?_
      · intro user found
        exact ⟨List.mem_of_find?_eq_some found, by simpa using List.find?_some found⟩
      intro found _ _ stored
      cases found with
      | none => exact Advances.throw _ _
      | some user =>
          refine Advances.bind (mints_registerChallengeAttempt _ _) fun within _ _ _ => ?_
          refine Advances.ite (fun _ => Advances.throw _ _) fun _ => ?_
          refine Advances.bind (mints_codeValid user payload dto.code world)
            fun valid _ _ code => ?_
          refine Advances.ite (fun _ => ?_) fun accepted => ?_
          · exact Advances.bind (mints_of_same (sameTokens_record _ _))
              fun _ _ _ _ => Advances.throw _ _
          · have right : valid = true := by simpa using accepted
            rw [right] at code
            exact Advances.pure
              ⟨challenge, signed, unexpired, (stored user rfl).1, (stored user rfl).2, code⟩

theorem mints_verifyLogin
    (dto : VerifyLoginDto)
    (requestMeta : RequestMeta)
    (answers : ∀ user payload, AnswersChallenge app dto input world user payload →
      mayIssue user.id) :
    Mints app input rejections mayIssue (AuthService.verifyLogin app dto requestMeta) world
      fun _ _ => True := by
  unfold AuthService.verifyLogin
  refine Advances.bind (mints_checkChallenge dto) ?_
  rintro ⟨user, payload⟩ _ - answered
  have allowed : mayIssue user.id := answers user payload answered
  refine Advances.ite (fun _ => ?_) fun _ => mints_issueTokenPair _ _ _ allowed
  refine Advances.bind (mints_of_same (sameTokens_updateUser _ _)) fun _ _ _ _ => ?_
  exact mints_issueTokenPair _ _ _ allowed

/-! ## Refreshing -/

/-- Neither the token store nor the accounts have changed. -/
def SameAccounts (before after : World) : Prop :=
  SameTokens before after ∧ after.users = before.users

instance : IsPreorder World SameAccounts where
  refl _ := ⟨rfl, rfl⟩
  trans _ _ _ first second :=
    ⟨IsTrans.trans _ _ _ first.1 second.1, second.2.trans first.2⟩

theorem sameAccounts_sessionToRotate (rawToken : RawToken) :
    (AuthService.sessionToRotate rawToken).Respects SameAccounts :=
  Footprint.sessionToRotate
    (fun _ => Respects.command fun _ world =>
      ⟨sameTokens_updateSessions world _ _ fun _ => rfl, rfl⟩)
    (fun _ _ => Respects.command fun _ _ => ⟨rfl, rfl⟩) rawToken

theorem mints_rotate (session : Session) (allowed : mayIssue session.userId) :
    Mints app input rejections mayIssue (SessionsService.rotate app session) world
      fun _ _ => True := by
  unfold SessionsService.rotate
  refine Advances.bind (mints_create _ allowed) ?_
  rintro ⟨rawToken, created⟩ _ - -
  exact mints_of_same (Respects.bind (sameTokens_updateSession _ fun _ _ => rfl)
    fun _ => Respects.pure _)

/-- A refresh issues something to an active account only. -/
theorem mints_refresh
    (active : ∀ user ∈ world.users, user.status = .active → mayIssue user.id)
    (rawToken : RawToken) :
    Mints app input rejections mayIssue (AuthService.refresh app rawToken) world
      fun _ _ => True := by
  have found : Mints app input rejections mayIssue (AuthService.sessionToRotate rawToken) world
      fun _ after => after.users = world.users :=
    (Ensures.of_respects (sameAccounts_sessionToRotate rawToken)).weaken
      fun _ after same => ⟨same.1.moves, fun _ _ => same.2⟩
  unfold AuthService.refresh
  refine Advances.bind found fun session after _ sameUsers => ?_
  unfold AuthService.refreshSession
  refine Advances.bind (Advances.query (fun found _ =>
    ∀ user, found = some user → user ∈ world.users ∧ user.id = session.userId) ?_) ?_
  · intro user lookup
    refine ⟨?_, by simpa using List.find?_some lookup⟩
    rw [← sameUsers]
    exact List.mem_of_find?_eq_some lookup
  intro found _ _ stored
  have refused : (do
      SessionsService.revoke session.id
      throw (.unauthorized "Account is not active") :
      Service TokenPair).Respects SameTokens :=
    Respects.bind (sameTokens_updateSession _ fun _ _ => rfl) fun _ => Respects.throw _
  cases found with
  | none => exact mints_of_same refused
  | some user =>
      obtain ⟨present, owner⟩ := stored user rfl
      refine Advances.ite (fun isActive => ?_) fun _ => mints_of_same refused
      have allowed := active user present isActive
      unfold AuthService.rotateAndSign
      refine Advances.bind (mints_rotate session (owner ▸ allowed)) ?_
      rintro ⟨rawToken, created⟩ _ - -
      refine Advances.bind (mints_signAccess (.inl rfl) allowed) fun token _ _ _ => ?_
      exact Advances.pure trivial

/-! ## Taking access away -/

/-- The sessions and the access tokens of a user are ended and that is logged. -/
theorem mints_revokeEverything
    (userId : UserId)
    (actor : Option UserId)
    (action : AuditAction) :
    Mints app input rejections mayIssue (do
        SessionsService.revokeAllForUser userId
        TokenRevocationService.revokeUser app userId
        AuditService.record actor action) world
      fun _ after => Redis.Answers input rejections →
        after.tokens.RevokedAt app userId input.now := by
  refine Advances.bind (mints_of_same (sameTokens_revokeAllForUser _)) fun _ _ _ _ => ?_
  refine Advances.bind (mints_revokeUser _) fun _ after _ revoked => ?_
  refine Ensures.weaken (Ensures.of_respects (sameTokens_record actor action)) ?_
  intro _ last same
  refine ⟨same.moves, fun _ _ available => ?_⟩
  rw [show last.tokens = after.tokens from same]
  exact revoked available

theorem sameTokens_logout (rawToken : RawToken) :
    (AuthService.logout rawToken).Respects SameTokens := by
  refine Respects.bind (Respects.query _) fun session => ?_
  cases session with
  | none => exact Respects.pure _
  | some session =>
      refine Respects.bind (sameTokens_updateSession _ fun _ _ => rfl) fun _ => ?_
      exact sameTokens_record _ _

theorem sameTokens_forgotPassword (email : String) :
    (AuthService.forgotPassword app email).Respects SameTokens :=
  Footprint.forgotPassword sameTokens_issueVerificationToken sameTokens_record app email

/-- The token of a link names the account. -/
theorem mints_consumeVerificationToken
    (rawToken : RawToken)
    (purpose : VerificationTokenPurpose) :
    Mints app input rejections mayIssue
      (AuthService.consumeVerificationToken rawToken purpose) world
      fun token _ => (world.verificationTokens.find? fun other =>
        other.tokenHash = ⟨rawToken⟩) = some token := by
  unfold AuthService.consumeVerificationToken
  refine Advances.bind (Advances.query (fun found _ =>
    found = world.verificationTokens.find? fun other =>
      other.tokenHash = ⟨rawToken⟩) rfl) fun found _ _ lookup => ?_
  cases found with
  | none => exact Advances.throw _ _
  | some token =>
      refine Advances.ite (fun _ => Advances.throw _ _) fun _ => ?_
      refine Advances.ite (fun _ => Advances.throw _ _) fun _ => ?_
      refine Advances.bind (Advances.query (fun _ _ => True) trivial) fun now _ _ _ => ?_
      refine Advances.ite (fun _ => Advances.throw _ _) fun _ => ?_
      refine Advances.bind (mints_of_same (Respects.command fun _ _ => rfl))
        fun _ _ _ _ => Advances.pure lookup.symm

theorem mints_resetPassword (rawToken : RawToken) (newPassword : String) :
    Mints app input rejections mayIssue (AuthService.resetPassword app rawToken newPassword) world
      fun _ after => Redis.Answers input rejections → ∀ token,
        (world.verificationTokens.find? fun other =>
          other.tokenHash = ⟨rawToken⟩) = some token →
        after.tokens.RevokedAt app token.userId input.now := by
  unfold AuthService.resetPassword
  refine Advances.bind (mints_consumeVerificationToken rawToken _)
    fun token _ _ consumed => ?_
  refine Advances.bind (mints_of_same (sameTokens_updateUser _ _)) fun _ _ _ _ => ?_
  refine (mints_revokeEverything _ _ _).weaken ?_
  rintro _ after - revoked available other found
  rw [consumed] at found
  cases found
  exact revoked available

theorem mints_suspendUser (adminUserId targetUserId : UserId) :
    Mints app input rejections mayIssue
      (AdminService.suspendUser app adminUserId targetUserId) world
      fun _ after => Redis.Answers input rejections →
        after.tokens.RevokedAt app targetUserId input.now := by
  unfold AdminService.suspendUser
  refine Advances.ite (fun _ => Advances.throw _ _) fun _ => ?_
  refine Advances.bind (Advances.query (fun _ _ => True) trivial) fun found _ _ _ => ?_
  cases found with
  | none => exact Advances.throw _ _
  | some target =>
      refine Advances.ite (fun _ => Advances.throw _ _) fun _ => ?_
      refine Advances.bind (mints_of_same (sameTokens_updateUser _ _)) fun _ _ _ _ => ?_
      exact mints_revokeEverything _ _ _

theorem sameTokens_reactivateUser (adminUserId targetUserId : UserId) :
    (AdminService.reactivateUser adminUserId targetUserId).Respects SameTokens :=
  Footprint.reactivateUser (sameTokens_updateUser _ _) sameTokens_record adminUserId

theorem mints_deleteUser (adminUserId targetUserId : UserId) :
    Mints app input rejections mayIssue (AdminService.deleteUser app adminUserId targetUserId) world
      fun _ after => Redis.Answers input rejections →
        after.tokens.RevokedAt app targetUserId input.now := by
  unfold AdminService.deleteUser
  refine Advances.ite (fun _ => Advances.throw _ _) fun _ => ?_
  refine Advances.bind (Advances.query (fun _ _ => True) trivial) fun found _ _ _ => ?_
  cases found with
  | none => exact Advances.throw _ _
  | some target =>
      refine Advances.ite (fun _ => Advances.throw _ _) fun _ => ?_
      refine Advances.bind (mints_of_same (sameTokens_updateUser _ _)) fun _ _ _ _ => ?_
      exact mints_revokeEverything _ _ _

theorem mints_forceLogout (adminUserId targetUserId : UserId) :
    Mints app input rejections mayIssue
      (AdminService.forceLogout app adminUserId targetUserId) world
      fun _ after => Redis.Answers input rejections →
        after.tokens.RevokedAt app targetUserId input.now := by
  unfold AdminService.forceLogout
  refine Advances.bind (Advances.query (fun _ _ => True) trivial) fun found _ _ _ => ?_
  cases found with
  | none => exact Advances.throw _ _
  | some target => exact mints_revokeEverything _ _ _

theorem mints_deleteAccount (userId : UserId) (password : String) :
    Mints app input rejections mayIssue (AuthService.deleteAccount app userId password) world
      fun _ _ => True := by
  unfold AuthService.deleteAccount
  refine Advances.bind (Advances.query (fun _ _ => True) trivial) fun found _ _ _ => ?_
  cases found with
  | none => exact Advances.throw _ _
  | some user =>
      refine Advances.ite (fun _ => ?_) fun _ => Advances.throw _ _
      unfold AuthService.eraseSubscriber
      refine Advances.bind (Advances.query (fun _ _ => True) trivial)
        fun activeSubscription _ _ _ => ?_
      refine Advances.bind (mints_of_same (sameTokens_endSubscription _)) fun _ _ _ _ => ?_
      refine Advances.bind (mints_of_same (sameTokens_eraseAccount _ _)) fun _ _ _ _ => ?_
      refine Advances.bind (mints_revokeUser _) fun _ _ _ _ => ?_
      exact mints_of_same (sameTokens_record _ _)

/-- An impersonation token is signed for an active account only. -/
theorem mints_impersonateUser
    (active : ∀ user ∈ world.users, user.status = .active → mayIssue user.id)
    (adminUserId targetUserId : UserId) :
    Mints app input rejections mayIssue
      (AdminService.impersonateUser adminUserId targetUserId) world
      fun _ _ => True := by
  unfold AdminService.impersonateUser
  refine Advances.ite (fun _ => Advances.throw _ _) fun _ => ?_
  refine Advances.bind (Advances.query (fun found _ =>
    ∀ user, found = some user → user ∈ world.users) ?_) ?_
  · exact fun user found => List.mem_of_find?_eq_some found
  intro found _ _ stored
  cases found with
  | none => exact Advances.throw _ _
  | some target =>
      refine Advances.ite (fun _ => Advances.throw _ _) fun _ => ?_
      refine Advances.ite (fun _ => Advances.throw _ _) fun isActive => ?_
      have allowed := active target (stored target rfl) (by simpa using isActive)
      refine Advances.bind (mints_signAccess (.inr rfl) allowed) fun token _ _ _ => ?_
      exact mints_of_same (Respects.bind (sameTokens_record _ _) fun _ => Respects.pure _)

/-! ## Every request -/

/-- The user has an active account. -/
def World.Active (world : World) (userId : UserId) : Prop :=
  ∃ user ∈ world.users, user.id = userId ∧ user.status = .active

/-- The users a request may issue a token or a session to. -/
def AccountRequest.MayMint
    (app : Deployment)
    (input : Input)
    (world : World) : AccountRequest → UserId → Prop
  | auth (.login _ _), userId => world.Active userId
  | auth (.verifyLogin dto _), userId =>
      ∃ user payload, AnswersChallenge app dto input world user payload ∧ user.id = userId
  | auth (.refresh _), userId => world.Active userId
  | impersonateUser _ _, userId => world.Active userId
  | _, _ => False

theorem AccountRequest.mints
    (app : Deployment)
    (input : Input)
    (request : AccountRequest)
    (world : World) :
    Mints app input rejections (request.MayMint app input world) (request.handle app) world
      fun _ _ => True := by
  have active : ∀ user ∈ world.users, user.status = .active → world.Active user.id :=
    fun user present isActive => ⟨user, present, rfl, isActive⟩
  have dropped : ∀ {α : Type} {mayIssue} {process : Service α},
      Mints app input rejections mayIssue process world (fun _ _ => True) →
      Mints app input rejections mayIssue (do let _ ← process : Service Unit) world
        fun _ _ => True :=
    fun mints => Advances.bind mints fun _ _ _ _ => Advances.pure trivial
  have ends : ∀ {mayIssue} {process : Service Unit} {post : Unit → World → Prop},
      Mints app input rejections mayIssue process world post →
      Mints app input rejections mayIssue process world fun _ _ => True :=
    fun mints => mints.weaken fun _ _ _ _ => trivial
  cases request with
  | impersonateUser adminUserId targetUserId =>
      exact dropped (mints_impersonateUser active adminUserId targetUserId)
  | deleteAccount userId password => exact mints_deleteAccount userId password
  | auth request =>
  cases request with
  | login dto requestMeta => exact dropped (mints_login active dto requestMeta)
  | verifyLogin dto requestMeta =>
      exact dropped (mints_verifyLogin dto requestMeta
        fun user payload answers => ⟨user, payload, answers, rfl⟩)
  | refresh rawToken => exact dropped (mints_refresh active rawToken)
  | logout rawToken => exact mints_of_same (sameTokens_logout rawToken)
  | logoutAll userId => exact ends (mints_revokeEverything _ _ _)
  | forgotPassword email => exact mints_of_same (sameTokens_forgotPassword email)
  | resetPassword rawToken newPassword => exact ends (mints_resetPassword rawToken newPassword)
  | removeDevice userId deviceId =>
      exact mints_of_same (Respects.bind (sameTokens_remove _ _) fun _ =>
        sameTokens_record _ _)
  | suspendUser adminUserId targetUserId => exact ends (mints_suspendUser _ _)
  | reactivateUser adminUserId targetUserId =>
      exact mints_of_same (sameTokens_reactivateUser _ _)
  | deleteUser adminUserId targetUserId => exact ends (mints_deleteUser _ _)
  | forceLogout adminUserId targetUserId => exact ends (mints_forceLogout _ _)

/-- What a request of a run does to the token store. -/
theorem AccountArrival.moves
    (app : Deployment)
    (world : World)
    (arrival : AccountArrival) :
    TokenMoves app arrival.input.now
      (arrival.request.MayMint app arrival.input world) world
      (AccountArrival.step app world arrival) :=
  (arrival.request.mints app arrival.input world).runWithFault arrival.rejected

end ConferenceContact
