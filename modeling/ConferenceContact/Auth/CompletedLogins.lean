import ConferenceContact.Auth.PasswordChecks

/-!
# What a completed login stores

A completed login ends the sessions there is no more room for and adds one that carries
its risk.  What it assesses the risk by are its device, its country against the user's
latest sessions, and the failures the account has counted by then.
-/

namespace ConferenceContact

open Process

variable {app : Deployment} {input : Input} {world : World}

/-! ## Risk -/

namespace RiskService

/-- The points for the country of a login against the sessions in the database. -/
def countryRisk
    (now : Time)
    (userId : UserId)
    (country : Option String)
    (sessions : List Session) : Nat × RiskSignals :=
  match country with
  | none => (0, {})
  | some country =>
      if country = "" then (0, {})
      else
        countrySignals now country
          ((sessions.filter fun session => session.userId = userId).take recentSessionsLookback)

/-- The points for failed logins, twenty at most. -/
def failurePoints (failedLoginCount : Nat) : Nat :=
  min (failedLoginCount * 5) 20

/-- The assessment of a login by its country's risk. -/
def assessment
    (isNewDevice : Bool)
    (countryRisk : Nat × RiskSignals)
    (failedLoginCount : Nat) : RiskAssessment where
  score := (if isNewDevice then 30 else 0) + countryRisk.1 + failurePoints failedLoginCount
  signals :=
    { countryRisk.2 with
      newDevice := isNewDevice
      recentFailedLogins := if 0 < failedLoginCount then some failedLoginCount else none }

theorem run_assessCountry (userId : UserId) (country : Option String) :
    (assessCountry userId country).run input world =
      (.ok (countryRisk input.now userId country world.sessions), world) := by
  unfold assessCountry countryRisk
  cases country with
  | none => rfl
  | some country =>
      dsimp only
      split <;> rfl

theorem run_assess
    (userId : UserId)
    (isNewDevice : Bool)
    (country : Option String)
    (failedLoginCount : Nat) :
    (assess userId isNewDevice country failedLoginCount).run input world =
      (.ok (assessment isNewDevice (countryRisk input.now userId country world.sessions)
        failedLoginCount), world) := by
  unfold assess
  rw [run_bind, run_assessCountry]
  have points : (if 0 < failedLoginCount then min (failedLoginCount * 5) 20 else 0) =
      failurePoints failedLoginCount := by
    unfold failurePoints
    split
    · rfl
    · omega
  dsimp only
  rw [points]
  rfl

end RiskService

/-! ## Room -/

namespace SessionsService

/-- The live sessions of a user, the newest first. -/
def liveSessions (now : Time) (userId : UserId) (sessions : List Session) : List Session :=
  sessions.filter fun session => session.userId = userId && session.live now

/-- The sessions that make room for one more: the oldest live ones. -/
def evicted (app : Deployment) (now : Time) (userId : UserId) (sessions : List Session) :
    List SessionId :=
  ((liveSessions now userId sessions).reverse.map (·.id)).take
    ((liveSessions now userId sessions).length + 1 - app.maxTrustedDevices)

/-- The sessions once the limit has ended the oldest of an account. -/
def afterLimit (app : Deployment) (now : Time) (userId : UserId) (sessions : List Session) :
    List Session :=
  Table.updateWhere (fun session => session.id ∈ evicted app now userId sessions)
    (fun session => { session with revokedAt := some now }) sessions

theorem run_enforceLimit (userId : UserId) :
    (enforceLimit app userId).run input world =
      (.ok (),
        { world with sessions := afterLimit app input.now userId world.sessions }) := by
  unfold enforceLimit
  rw [run_bind, run_query]
  dsimp only
  rw [List.length_map, List.length_reverse]
  by_cases surplus : 0 < (liveSessions input.now userId world.sessions).length + 1 -
      app.maxTrustedDevices
  · rw [if_pos (show 0 < (world.sessions.filter fun session =>
      session.userId = userId && session.live input.now).length + 1 - app.maxTrustedDevices
        from surplus)]
    rfl
  · rw [if_neg (show ¬0 < (world.sessions.filter fun session =>
      session.userId = userId && session.live input.now).length + 1 - app.maxTrustedDevices
        from surplus)]
    have nobody : evicted app input.now userId world.sessions = [] := by
      unfold evicted
      rw [Nat.eq_zero_of_not_pos surplus, List.take_zero]
    have same : afterLimit app input.now userId world.sessions = world.sessions := by
      refine Table.updateWhere_eq_self fun session _ chosen => ?_
      rw [nobody] at chosen
      exact absurd (of_decide_eq_true chosen) List.not_mem_nil
    rw [same]
    rfl

/-- The row of a new session. -/
def created (app : Deployment) (call : Input) (world : World) (input : CreateSessionInput) :
    Session where
  id := world.nextId + 1
  userId := input.userId
  deviceId := input.deviceId
  tokenHash := ⟨world.nextId⟩
  country := input.country
  riskScore := input.riskScore
  riskSignals := input.riskSignals
  createdAt := call.now
  expiresAt := call.now + app.refreshTokenExpiryDays * 86400000

theorem run_create (session : CreateSessionInput) :
    (create app session).run input world =
      if session.deviceId.all fun deviceId =>
          world.devices.any fun device => device.id = deviceId then
        (.ok (world.nextId, created app input world session),
          { world with
            sessions := created app input world session :: world.sessions
            nextId := world.nextId + 2 })
      else (.error .foreignKeyViolation, world) := by
  unfold create
  rw [run_attempt]
  cases registered : session.deviceId.all fun deviceId =>
      world.devices.any fun device => device.id = deviceId with
  | true =>
      simp only [if_true]
      rfl
  | false => simp only [if_neg Bool.false_ne_true]

end SessionsService

/-! ## Completed logins -/

/-- A login that comes to create a session. -/
structure LoginCompletion where
  user : User
  deviceId : DeviceId
  requestMeta : RequestMeta
  isNewDevice : Bool

namespace LoginCompletion

variable (app : Deployment) (input : Input) (world : World) (login : LoginCompletion)

/-- The country the login comes from, if it is known. -/
def country : Option String :=
  GeoipService.country app login.requestMeta.ipAddress

/-- The risk, had the account counted a number of failures. -/
def risk (failedLoginCount : Nat) : RiskAssessment :=
  RiskService.assessment login.isNewDevice
    (RiskService.countryRisk input.now login.user.id (login.country app) world.sessions)
    failedLoginCount

/-- The session it creates. -/
def session : Session :=
  SessionsService.created app input world
    { userId := login.user.id
      deviceId := some login.deviceId
      country := login.country app
      riskScore := (login.risk app input world login.user.failedLoginCount).score
      riskSignals := some (login.risk app input world login.user.failedLoginCount).signals }

/-- The access token that the login hands out. -/
def accessToken : Jwt where
  payload := .access { sub := login.user.id, role := login.user.role }
  iat := input.now / 1000
  exp := input.now / 1000 + app.jwtAccessExpirySeconds

/-- The sessions it leaves room in. -/
def room : List Session :=
  SessionsService.afterLimit app input.now login.user.id world.sessions

/-- The world it leaves. -/
def after : World :=
  { world with
    users := Table.updateWhere (fun user => user.id = login.user.id)
      (fun user => { user with lastLoginAt := some input.now }) world.users
    sessions := login.session app input world :: login.room app input world
    signed := login.accessToken app input :: world.signed
    outbox :=
      if login.user.lastLoginAt.isNone ∧ input.queueAvailable then
        .welcome login.user.email :: world.outbox
      else world.outbox
    auditLogs :=
      if app.riskHighThreshold ≤
          (login.risk app input world login.user.failedLoginCount).score then
        ⟨some login.user.id, .authHighRiskLogin⟩ :: ⟨some login.user.id, .authLogin⟩ ::
          world.auditLogs
      else ⟨some login.user.id, .authLogin⟩ :: world.auditLogs
    nextId := world.nextId + 2 }

end LoginCompletion

/-- The end of a completed login. -/
theorem run_recordLogin (user : User) (score : Nat) (tokens : TokenPair) :
    (do
      if user.lastLoginAt.isNone then
        EmailService.enqueue (.welcome user.email)
      AuditService.record (some user.id) .authLogin
      if app.riskHighThreshold ≤ score then
        AuditService.record (some user.id) .authHighRiskLogin
      return tokens : Service TokenPair).run input world =
      (.ok tokens,
        { world with
          outbox :=
            if user.lastLoginAt.isNone ∧ input.queueAvailable then
              .welcome user.email :: world.outbox
            else world.outbox
          auditLogs :=
            if app.riskHighThreshold ≤ score then
              ⟨some user.id, .authHighRiskLogin⟩ :: ⟨some user.id, .authLogin⟩ ::
                world.auditLogs
            else ⟨some user.id, .authLogin⟩ :: world.auditLogs }) := by
  by_cases first : user.lastLoginAt.isNone = true
  all_goals by_cases risky : app.riskHighThreshold ≤ score
  all_goals cases available : input.queueAvailable
  all_goals simp [first, risky, available, run_bind]

/-- What a completed login comes to. -/
theorem run_issueTokenPair
    {userId : UserId}
    {user : User}
    (stored : world.userRow userId = some user)
    (deviceId : DeviceId)
    (requestMeta : RequestMeta)
    (isNewDevice : Bool) :
    (AuthService.issueTokenPair app userId deviceId requestMeta isNewDevice).run input world =
      let login : LoginCompletion := ⟨user, deviceId, requestMeta, isNewDevice⟩
      if world.devices.any fun device => device.id = deviceId then
        (.ok
          { accessToken := login.accessToken app input
            refreshToken := world.nextId
            refreshTokenExpiresAt := input.now + app.refreshTokenExpiryDays * 86400000 },
          login.after app input world)
      else
        (.error .foreignKeyViolation,
          { world with
            sessions := login.room app input world
            signed := login.accessToken app input :: world.signed }) := by
  have sameId : user.id = userId := by simpa using List.find?_some stored
  subst sameId
  unfold AuthService.issueTokenPair UsersService.findById AuthService.signAccessToken
  rw [run_bind, run_query]
  dsimp only
  rw [show (world.users.find? fun row => row.id = user.id) = some user from stored]
  dsimp only
  rw [run_bind, RiskService.run_assess]
  dsimp only
  rw [run_bind, SessionsService.run_enforceLimit]
  dsimp only
  rw [run_bind, JwtService.run_signAsync]
  dsimp only
  rw [run_bind, SessionsService.run_create]
  by_cases registered : (world.devices.any fun device => device.id = deviceId) = true
  · rw [if_pos registered, if_pos (show Option.all (fun deviceId =>
      world.devices.any fun device => device.id = deviceId) (some deviceId) = true
        from registered)]
    dsimp only
    unfold UsersService.updateLastLogin
    rw [run_bind, @run_updateUser _ _ _ _ user (by exact stored)]
    dsimp only
    exact run_recordLogin user _ _
  · rw [if_neg registered, if_neg (show ¬Option.all (fun deviceId =>
      world.devices.any fun device => device.id = deviceId) (some deviceId) = true
        from registered)]
    rfl

/-! ## What comes before -/

/-- Neither the accounts nor the sessions have changed. -/
def SameSignIns (before after : World) : Prop :=
  after.users = before.users ∧ after.sessions = before.sessions

instance : IsPreorder World SameSignIns where
  refl _ := ⟨rfl, rfl⟩
  trans _ _ _ first second := ⟨second.1.trans first.1, second.2.trans first.2⟩

theorem sameSignIns_record (actor : Option UserId) (action : AuditAction) :
    (AuditService.record actor action).Respects SameSignIns :=
  Respects.command fun _ _ => ⟨rfl, rfl⟩

theorem sameSignIns_findOrCreateDevice (userId : UserId) (fingerprint : Sha256 String) :
    (DevicesService.findOrCreateDevice userId fingerprint).Respects SameSignIns :=
  Footprint.findOrCreateDevice (fun _ _ => ⟨rfl, rfl⟩) (fun _ _ => ⟨rfl, rfl⟩) userId fingerprint

theorem sameSignIns_challenge (user : User) (device : Device) :
    (AuthService.challenge user device).Respects SameSignIns :=
  Footprint.challenge (fun _ => Footprint.signAsync (fun _ _ => ⟨rfl, rfl⟩) _ _)
    sameSignIns_record (Footprint.enqueue fun _ _ => ⟨rfl, rfl⟩) user device

theorem sameSignIns_registerChallengeAttempt (token : Jwt) (ttlSeconds : Nat) :
    (TokenRevocationService.registerChallengeAttempt token ttlSeconds).Respects
      SameSignIns :=
  Footprint.registerChallengeAttempt (Footprint.incr fun _ _ => ⟨rfl, rfl⟩)
    (Footprint.expire fun _ _ => ⟨rfl, rfl⟩) token ttlSeconds

theorem sameSignIns_checkChallenge (dto : VerifyLoginDto) :
    (AuthService.checkChallenge app dto).Respects SameSignIns :=
  Footprint.checkChallenge sameSignIns_registerChallengeAttempt sameSignIns_record app dto

/-- An accepted code is one for the user its challenge names. -/
theorem run_checkChallenge_ok
    {dto : VerifyLoginDto}
    {user : User}
    {payload : LoginChallengePayload}
    {after : World}
    (accepted : (AuthService.checkChallenge app dto).run input world =
      (.ok (user, payload), after)) :
    dto.challengeToken.payload = .loginChallenge payload ∧
      world.userRow payload.sub = some user := by
  unfold AuthService.checkChallenge at accepted
  obtain ⟨verified, reached, verifies, accepted⟩ := run_bind_eq_ok.mp accepted
  cases verified with
  | none => cases accepted
  | some verified =>
      cases verified with
      | access access => cases accepted
      | loginChallenge challenge =>
          obtain ⟨found, looked, finds, accepted⟩ := run_bind_eq_ok.mp accepted
          cases found with
          | none => cases accepted
          | some found =>
              obtain ⟨within, counted, -, accepted⟩ := run_bind_eq_ok.mp accepted
              cases within with
              | false => cases accepted
              | true =>
                  obtain ⟨valid, judged, -, accepted⟩ := run_bind_eq_ok.mp accepted
                  cases valid with
                  | false => cases accepted
                  | true =>
                      cases accepted
                      rw [UsersService.findById, run_query] at finds
                      rw [JwtService.verifyAsync, run_query] at verifies
                      obtain ⟨verified, rfl⟩ := Prod.mk.inj verifies
                      obtain ⟨stored, -⟩ := Prod.mk.inj finds
                      refine ⟨?_, Except.ok.inj stored⟩
                      have named := Except.ok.inj verified
                      split at named
                      · exact Option.some.inj named
                      · cases named

/-- A challenge names the user it is for, and signs nobody in. -/
theorem run_challenge_ok
    {user : User}
    {device : Device}
    {result : LoginResult}
    {after : World}
    (challenged : (AuthService.challenge user device).run input world = (.ok result, after)) :
    ∃ payload method token, result = .requiresVerification method token ∧
      token.payload = .loginChallenge payload ∧ payload.sub = user.id := by
  unfold AuthService.challenge AuthService.signChallenge at challenged
  split at challenged
  · cases challenged
    exact ⟨_, _, _, rfl, rfl, rfl⟩
  · cases challenged
    exact ⟨_, _, _, rfl, rfl, rfl⟩

end ConferenceContact
