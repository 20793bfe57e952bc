import ConferenceContact.Auth.Revocation

/-!
# Access tokens issued after a revocation

A revocation is one Redis entry of the user, which says nothing of when a token
was issued: until it expires, the guard also refuses the tokens of a login or a
refresh that came after it.
-/

namespace ConferenceContact

open Process

/-! ## What revokes a user's tokens, and what does not -/

/-- What the guard finds of the user's revocation is the same at every time. -/
def SameRevocation (userId : UserId) (before after : World) : Prop :=
  ∀ now, Redis.lookup now (.revokedUser userId) after.redis =
    Redis.lookup now (.revokedUser userId) before.redis

instance {userId : UserId} : IsPreorder World (SameRevocation userId) where
  refl _ _ := rfl
  trans _ _ _ first second := fun now => (second now).trans (first now)

theorem SameTokens.sameRevocation
    {userId : UserId}
    {before after : World}
    (same : SameTokens before after) :
    SameRevocation userId before after := by
  intro now
  rw [show after.redis = before.redis from congrArg TokenStore.redis same]

/-- Redis is as it was. -/
def SameRedis (before after : World) : Prop :=
  after.redis = before.redis

instance : IsPreorder World SameRedis where
  refl _ := rfl
  trans _ _ _ first second := second.trans first

/-- A revocation that is the same lasts as long. -/
theorem SameRevocation.revokedAt
    {app : Deployment}
    {userId : UserId}
    {moment : Time}
    {before after : World}
    (same : SameRevocation userId before after)
    (revoked : before.tokens.RevokedAt app userId moment) :
    after.tokens.RevokedAt app userId moment := by
  intro now
  rw [show Redis.lookup now (.revokedUser userId) after.tokens.redis = _ from same now]
  exact revoked now

namespace AccountArrival

/-- The request executes the revocation of the user's access tokens. -/
def Revokes
    (app : Deployment)
    (userId : UserId)
    (world : World)
    (arrival : AccountArrival) : Prop :=
  (AccountArrival.step app world arrival).tokens.RevokedAt app userId arrival.input.now

/-- The request leaves the revocation of the user's access tokens as it is. -/
def Spares
    (app : Deployment)
    (userId : UserId)
    (world : World)
    (arrival : AccountArrival) : Prop :=
  SameRevocation userId world (AccountArrival.step app world arrival)

/-- The request signs the token. -/
def Issues
    (app : Deployment)
    (world : World)
    (arrival : AccountArrival)
    (token : Jwt) : Prop :=
  ∃ issued, (AccountArrival.step app world arrival).signed = issued ++ world.signed ∧
    token ∈ issued

variable {app : Deployment} {userId : UserId} {world : World}

/-- There is nothing in between. -/
theorem spares_or_revokes (arrival : AccountArrival) :
    arrival.Spares app userId world ∨ arrival.Revokes app userId world :=
  TokenStore.Steps.revocation (arrival.moves app world) userId

/-- Requests that spare the revocation leave it as they found it. -/
theorem sameRevocation_run
    {arrivals : List AccountArrival}
    (spared : Along (step app) (Spares app userId) world arrivals) :
    SameRevocation userId world (arrivals.foldl (step app) world) := by
  have kept : ∀ state arrival, SameRevocation userId world state →
      Spares app userId state arrival →
      SameRevocation userId world (step app state arrival) :=
    fun _ _ same spares => IsTrans.trans _ _ _ same spares
  exact Along.preserves kept (Std.Refl.refl world) spared

/-- A token signed once stays signed. -/
theorem signed_run
    {token : Jwt}
    {arrivals : List AccountArrival}
    (signed : token ∈ world.signed) :
    token ∈ (arrivals.foldl (step app) world).signed := by
  induction arrivals generalizing world with
  | nil => exact signed
  | cons arrival later inductionHypothesis =>
      refine inductionHypothesis ?_
      obtain ⟨issued, grown, -⟩ := (TokenStore.Steps.issuesOnly (arrival.moves app world)).tokens
      rw [show (step app world arrival).signed = issued ++ world.signed from grown]
      exact List.mem_append_right issued signed

end AccountArrival

/-! ## The requests that end every session of a user -/

/-- The user whose access a request ends, if it succeeds. -/
def AccountRequest.endsAccessOf (world : World) : AccountRequest → Option UserId
  | auth (.logoutAll userId) => some userId
  | auth (.resetPassword rawToken _) =>
      (world.verificationTokens.find? fun token =>
        token.tokenHash = ⟨rawToken⟩).map (·.userId)
  | auth (.suspendUser _ targetUserId) => some targetUserId
  | auth (.forceLogout _ targetUserId) => some targetUserId
  | _ => none

theorem AccountRequest.revokedAt
    {app : Deployment}
    {input : Input}
    {userId : UserId}
    {world : World}
    {request : AccountRequest}
    {rejections : ApiError → Prop}
    (answers : Redis.Answers input rejections)
    (ends : request.endsAccessOf world = some userId) :
    Mints app input rejections (fun _ => False) (request.handle app) world
      fun _ after => after.tokens.RevokedAt app userId input.now := by
  unfold endsAccessOf at ends
  split at ends
  · cases ends
    exact (mints_revokeEverything _ _ _).weaken fun _ _ _ revoked => revoked answers
  · obtain ⟨token, found, rfl⟩ := Option.map_eq_some_iff.mp ends
    exact (mints_resetPassword _ _).weaken
      fun _ _ _ revoked => revoked answers token found
  · cases ends
    exact (mints_suspendUser _ _).weaken fun _ _ _ revoked => revoked answers
  · cases ends
    exact (mints_forceLogout _ _).weaken fun _ _ _ revoked => revoked answers
  · cases ends

/-- Where Redis answers and no call is rejected, such a request revokes the user's access
tokens. -/
theorem AccountArrival.revokes_of_returns
    {app : Deployment}
    {userId : UserId}
    {world : World}
    {arrival : AccountArrival}
    (available : arrival.input.redisAvailable = true)
    (unrejected : arrival.rejected = none)
    (ends : arrival.request.endsAccessOf world = some userId)
    (returns : ((arrival.request.handle app).runWithFault arrival.input arrival.rejected
      world).1 = .ok ()) :
    arrival.Revokes app userId world := by
  have answers : Redis.Answers arrival.input fun _ => False := ⟨available, fun _ => id⟩
  refine (Ensures.runWithFault (AccountRequest.revokedAt answers ends) arrival.rejected ?_).2
    () returns
  intro position error rejected
  rw [unrejected] at rejected
  cases rejected

/-! ## Signing in spares every revocation -/

section SigningIn

variable {app : Deployment} {userId : UserId}

theorem sameRevocation_of_same
    {process : Service α}
    (respects : process.Respects SameTokens) :
    process.Respects (SameRevocation userId) :=
  respects.mono fun _ _ same => same.sameRevocation

theorem sameRevocation_of_redis
    {process : Service α}
    (respects : process.Respects SameRedis) :
    process.Respects (SameRevocation userId) :=
  respects.mono fun before after same now => by rw [show after.redis = before.redis from same]

theorem sameRedis_of_same
    {process : Service α}
    (respects : process.Respects SameTokens) :
    process.Respects SameRedis :=
  respects.mono fun _ _ same => congrArg TokenStore.redis same

theorem sameRedis_signAsync (payload : JwtPayload) (expiresIn : Nat) :
    (JwtService.signAsync payload expiresIn).Respects SameRedis :=
  Footprint.signAsync (fun _ _ => rfl) payload expiresIn

theorem sameRedis_create (values : CreateSessionInput) :
    (SessionsService.create app values).Respects SameRedis :=
  Footprint.createSession (fun _ _ => rfl) app values

theorem sameRevocation_registerChallengeAttempt (token : Jwt) (ttlSeconds : Nat) :
    (TokenRevocationService.registerChallengeAttempt token ttlSeconds).Respects
      (SameRevocation userId) := by
  have keyed : ∀ {time entries entry},
      Redis.lookup time (.challengeAttempts ⟨token⟩) entries = some entry →
      entry.key ≠ .revokedUser userId := by
    intro time entries entry found
    have matched := List.find?_some found
    simp only [decide_eq_true_eq] at matched
    rw [matched.1]
    exact nofun
  refine Respects.tryCatch (Footprint.answered ?_) fun _ => Respects.pure _
  refine Respects.bind (Respects.attempt ?_) fun _ => ?_
  · rintro _ _ _ _ ⟨⟩ time
    refine TokenStore.lookup_put_of_ne ?_
    split
    · rename_i entry found
      have other := keyed found
      exact other
    · exact nofun
  · refine Respects.ite (Respects.bind (Respects.command ?_) fun _ => Respects.pure _)
      (Respects.pure _)
    intro input world time
    cases found : Redis.lookup input.now (.challengeAttempts ⟨token⟩) world.redis with
    | none => rfl
    | some entry =>
        have other := keyed found
        exact TokenStore.lookup_put_of_ne other

theorem sameRedis_challenge (user : User) (device : Device) :
    (AuthService.challenge user device).Respects SameRedis :=
  Footprint.challenge (fun _ => sameRedis_signAsync _ _)
    (fun _ _ => sameRedis_of_same (sameTokens_record _ _))
    (fun _ => sameRedis_of_same (sameTokens_enqueue _)) user device

theorem sameRedis_issueTokenPair
    (owner : UserId)
    (deviceId : DeviceId)
    (requestMeta : RequestMeta)
    (isNewDevice : Bool) :
    (AuthService.issueTokenPair app owner deviceId requestMeta isNewDevice).Respects
      SameRedis :=
  Footprint.issueTokenPair (fun _ => sameRedis_of_same (sameTokens_enforceLimit _))
    (fun _ _ => sameRedis_signAsync _ _) sameRedis_create
    (fun _ => sameRedis_of_same (sameTokens_updateUser _ _))
    (fun _ => sameRedis_of_same (sameTokens_enqueue _))
    (fun _ _ => sameRedis_of_same (sameTokens_record _ _)) owner deviceId requestMeta isNewDevice

theorem sameTokens_checkPassword (dto : LoginDto) :
    (AuthService.checkPassword app dto).Respects SameTokens :=
  Footprint.checkPassword
    (fun _ => Respects.bind (sameTokens_updateUser _ _) fun _ => Respects.pure _)
    sameTokens_registerFailedLogin sameTokens_record dto

theorem sameRevocation_login (dto : LoginDto) (requestMeta : RequestMeta) :
    (AuthService.login app dto requestMeta).Respects (SameRevocation userId) := by
  unfold AuthService.login
  refine Respects.bind (sameRevocation_of_same (sameTokens_checkPassword dto)) fun user => ?_
  refine Respects.bind (sameRevocation_of_same (sameTokens_findOrCreateDevice _ _)) ?_
  rintro ⟨device, isNew⟩
  refine Respects.ite (sameRevocation_of_redis (sameRedis_challenge _ _)) ?_
  exact sameRevocation_of_redis
    (Respects.bind (sameRedis_issueTokenPair _ _ _ _) fun _ => Respects.pure _)

theorem sameRevocation_checkChallenge (dto : VerifyLoginDto) :
    (AuthService.checkChallenge app dto).Respects (SameRevocation userId) :=
  Footprint.checkChallenge sameRevocation_registerChallengeAttempt
    (fun _ _ => sameRevocation_of_same (sameTokens_record _ _)) app dto

theorem sameRevocation_verifyLogin (dto : VerifyLoginDto) (requestMeta : RequestMeta) :
    (AuthService.verifyLogin app dto requestMeta).Respects (SameRevocation userId) := by
  unfold AuthService.verifyLogin
  refine Respects.bind (sameRevocation_checkChallenge dto) ?_
  rintro ⟨user, payload⟩
  refine Respects.ite ?_ (sameRevocation_of_redis (sameRedis_issueTokenPair _ _ _ _))
  refine Respects.bind (sameRevocation_of_same (sameTokens_updateUser _ _)) fun _ => ?_
  exact sameRevocation_of_redis (sameRedis_issueTokenPair _ _ _ _)

/-- A presented token that ends every session of its user revokes no access
token. -/
theorem sameRevocation_refresh (rawToken : RawToken) :
    (AuthService.refresh app rawToken).Respects (SameRevocation userId) := by
  have found : (AuthService.sessionToRotate rawToken).Respects SameTokens :=
    (sameAccounts_sessionToRotate rawToken).mono fun _ _ same => same.1
  unfold AuthService.refresh
  refine Respects.bind (sameRevocation_of_same found) fun session => ?_
  unfold AuthService.refreshSession
  refine Respects.bind (Respects.query _) fun user => ?_
  have refused : (do
      SessionsService.revoke session.id
      throw (.unauthorized "Account is not active") :
      Service TokenPair).Respects SameTokens :=
    Respects.bind (sameTokens_updateSession _ fun _ _ => rfl) fun _ => Respects.throw _
  cases user with
  | none => exact sameRevocation_of_same refused
  | some user =>
      refine Respects.ite ?_ (sameRevocation_of_same refused)
      unfold AuthService.rotateAndSign SessionsService.rotate
      refine sameRevocation_of_redis ?_
      refine Respects.bind (Respects.bind (sameRedis_create _) fun _ => ?_) fun _ => ?_
      · exact sameRedis_of_same (Respects.bind (sameTokens_updateSession _ fun _ _ => rfl)
          fun _ => Respects.pure _)
      · exact Respects.bind (sameRedis_signAsync _ _) fun _ => Respects.pure _

end SigningIn

/-- The request is a login, the answer to its challenge, or a refresh. -/
def AccountRequest.SignsIn : AccountRequest → Prop
  | auth (.login _ _) => True
  | auth (.verifyLogin _ _) => True
  | auth (.refresh _) => True
  | _ => False

/-- It leaves every revocation as it is, whichever of its calls is rejected. -/
theorem AccountArrival.spares_of_signsIn
    {app : Deployment}
    {arrival : AccountArrival}
    (signsIn : arrival.request.SignsIn)
    (userId : UserId)
    (world : World) :
    arrival.Spares app userId world := by
  have respects : (arrival.request.handle app).Respects (SameRevocation userId) := by
    generalize arrival.request = request at signsIn ⊢
    unfold AccountRequest.SignsIn at signsIn
    split at signsIn
    · exact Respects.bind (sameRevocation_login _ _) fun _ => Respects.pure _
    · exact Respects.bind (sameRevocation_verifyLogin _ _) fun _ => Respects.pure _
    · exact Respects.bind (sameRevocation_refresh _) fun _ => Respects.pure _
    · exact signsIn.elim
  exact respects.runWithFault arrival.input arrival.rejected world

/-! ## Runs in which a token is issued after a revocation -/

/-- A run from the latest revocation of a user's access tokens to a request that
issues one.  The backend it starts in is arbitrary. -/
structure ReissueRun (app : Deployment) where
  start : World
  userId : UserId
  /-- The request with the latest revocation. -/
  revoking : AccountArrival
  between : List AccountArrival
  /-- The login or refresh that issues the token. -/
  issuing : AccountArrival
  token : Jwt
  payload : AccessTokenPayload
  revokes : revoking.Revokes app userId start
  spared : Along (AccountArrival.step app) (AccountArrival.Spares app userId)
    (revoking.step app start) between
  signsIn : issuing.request.SignsIn
  access : token.payload = .access payload
  owner : payload.sub = userId
  issued : issuing.Issues app
    (between.foldl (AccountArrival.step app) (revoking.step app start)) token

namespace ReissueRun

variable {app : Deployment} (run : ReissueRun app)

/-- The world the issuing request finds. -/
def before : World :=
  run.between.foldl (AccountArrival.step app) (run.revoking.step app run.start)

/-- The world after it. -/
def after : World := run.issuing.step app run.before

/-- From then on, and through any requests that do not revoke the user's tokens
again, the guard accepts the token until it expires. -/
def Honoured : Prop :=
  ∀ (later : List AccountArrival) (check : Input),
    Along (AccountArrival.step app) (AccountArrival.Spares app run.userId) run.after later →
    (∀ arrival ∈ later, run.issuing.input.now ≤ arrival.input.now ∧
      arrival.input.now ≤ check.now) →
    run.issuing.input.now ≤ check.now →
    check.redisAvailable = true →
    check.now / 1000 < run.token.exp →
    JwtAuthGuard.Accepts check (later.foldl (AccountArrival.step app) run.after) run.token

/-- The revocation stays what it was made. -/
theorem revokedAt_later
    {later : List AccountArrival}
    (spared : Along (AccountArrival.step app) (AccountArrival.Spares app run.userId)
      run.after later) :
    (later.foldl (AccountArrival.step app) run.after).tokens.RevokedAt app run.userId
      run.revoking.input.now := by
  have atIssue : run.before.tokens.RevokedAt app run.userId run.revoking.input.now :=
    (AccountArrival.sameRevocation_run run.spared).revokedAt run.revokes
  have issued : run.after.tokens.RevokedAt app run.userId run.revoking.input.now :=
    (AccountArrival.spares_of_signsIn run.signsIn run.userId run.before).revokedAt atIssue
  exact (AccountArrival.sameRevocation_run spared).revokedAt issued

theorem token_signed : run.token ∈ run.after.signed := by
  obtain ⟨issued, grown, present⟩ := run.issued
  rw [show run.after.signed = issued ++ run.before.signed from grown]
  exact List.mem_append_left _ present

/-- The token has not expired where it is issued. -/
theorem token_unexpired
    (positive : 0 < app.jwtAccessExpirySeconds) :
    run.issuing.input.now / 1000 < run.token.exp := by
  obtain ⟨issued, grown, present⟩ := run.issued
  obtain ⟨now, signed, lifetimes⟩ :=
    TokenStore.Steps.issuedNow (run.issuing.moves app run.before)
  have same : issued = now := List.append_cancel_right (grown.symm.trans signed)
  obtain ⟨expiresIn, lifetime, expiry⟩ :=
    lifetimes run.token (same ▸ present) run.payload run.access
  have lasting : 0 < expiresIn := by
    rcases lifetime with configured | impersonation
    · exact configured ▸ positive
    · exact impersonation ▸ by decide
  rw [expiry]
  exact Nat.lt_add_of_pos_right lasting

end ReissueRun

/-- A token issued after the latest revocation of its user's tokens is accepted
until it expires or they are revoked again, in any run, exactly where the request
that issues it comes at least one configured lifetime after the revocation. -/
theorem later_token_accepted_iff
    {app : Deployment}
    (positive : 0 < app.jwtAccessExpirySeconds)
    (run : ReissueRun app) :
    run.Honoured ↔
      run.revoking.input.now + app.jwtAccessExpirySeconds * 1000 ≤ run.issuing.input.now := by
  constructor
  · intro honoured
    have accepted := honoured [] { now := run.issuing.input.now } trivial
      (List.forall_mem_nil _) (Nat.le_refl _) rfl (run.token_unexpired positive)
    rw [JwtAuthGuard.accepts_iff rfl run.access, run.owner] at accepted
    by_contra early
    have undisturbed : Along (AccountArrival.step app)
        (AccountArrival.Spares app run.userId) run.after [] := trivial
    have revoked := (run.revokedAt_later undisturbed run.issuing.input.now).mpr
      (Nat.lt_of_not_le early)
    exact Bool.false_ne_true (accepted.2.symm.trans revoked)
  · intro late later check spared _ issued available unexpired
    rw [JwtAuthGuard.accepts_iff available run.access, run.owner]
    refine ⟨⟨AccountArrival.signed_run run.token_signed, unexpired⟩, ?_⟩
    rw [Bool.eq_false_iff]
    intro found
    exact absurd ((run.revokedAt_later spared check.now).mp found)
      (Nat.not_lt.mpr (Nat.le_trans late issued))

/-! ## Signing in again after signing out everywhere -/

/-- The sample account signs out everywhere at time 0, and signs in again at a
later moment from the device it has. -/
def signedInAgain (moment : Time) : ReissueRun sampleApp where
  start :=
    { sampleWorld with
      devices := [{ id := 7, userId := 0, fingerprint := hashDeviceId "laptop", lastSeenAt := 0 }] }
  userId := 0
  revoking := { input := { now := 0 }, request := .auth (.logoutAll 0) }
  between := []
  issuing := { input := { now := moment }, request := .auth (sampleLogin "laptop") }
  token := ⟨.access { sub := 0, role := .user }, moment / 1000, moment / 1000 + 900⟩
  payload := { sub := 0, role := .user }
  revokes := AccountArrival.revokes_of_returns rfl rfl rfl rfl
  spared := trivial
  signsIn := trivial
  access := rfl
  owner := rfl
  issued := ⟨[_], rfl, List.mem_singleton_self _⟩

/-- A quarter of an hour later the new token is honoured. -/
theorem later_token_accepted_after_lifetime : (signedInAgain 900000).Honoured :=
  (later_token_accepted_iff (by decide) (signedInAgain 900000)).mpr (by decide)

/-- A second later it is not. -/
theorem later_token_rejected :
    ¬∀ (app : Deployment) (run : ReissueRun app), run.Honoured := by
  intro honoured
  have accepted := honoured sampleApp (signedInAgain 1000) [] { now := 1000 } trivial
    (List.forall_mem_nil _) (Nat.le_refl _) rfl (by decide)
  rw [JwtAuthGuard.accepts_iff rfl rfl] at accepted
  revert accepted
  decide

end ConferenceContact
