import ConferenceContact.Auth.Footprints
import ConferenceContact.Auth.Refresh
import ConferenceContact.Foundation.Moves

/-!
# Authentication requests

A run is a sequence of requests handled one at a time.  Each request moves the
session store along the steps of `SessionStore.Step`, and issues sessions only
to the pairs its `mayIssue` names; so every run keeps the store consistent and
settles a revocation once.
-/

namespace ConferenceContact

open Process

/-- The requests that reach the authentication and moderation services. -/
inductive AuthRequest
  | login (dto : LoginDto) (requestMeta : RequestMeta)
  | verifyLogin (dto : VerifyLoginDto) (requestMeta : RequestMeta)
  | refresh (rawRefreshToken : RawToken)
  | logout (rawRefreshToken : RawToken)
  | logoutAll (userId : UserId)
  | forgotPassword (email : String)
  | resetPassword (rawToken : RawToken) (newPassword : String)
  | removeDevice (userId : UserId) (deviceId : DeviceId)
  | suspendUser (adminUserId targetUserId : UserId)
  | reactivateUser (adminUserId targetUserId : UserId)
  | deleteUser (adminUserId targetUserId : UserId)
  | forceLogout (adminUserId targetUserId : UserId)

namespace AuthRequest

/-- The service method behind a request. -/
def handle (app : Deployment) : AuthRequest → Service Unit
  | .login dto requestMeta => do
      let _ ← AuthService.login app dto requestMeta
  | .verifyLogin dto requestMeta => do
      let _ ← AuthService.verifyLogin app dto requestMeta
  | .refresh rawRefreshToken => do
      let _ ← AuthService.refresh app rawRefreshToken
  | .logout rawRefreshToken => AuthService.logout rawRefreshToken
  | .logoutAll userId => AuthService.logoutAll app userId
  | .forgotPassword email => AuthService.forgotPassword app email
  | .resetPassword rawToken newPassword =>
      AuthService.resetPassword app rawToken newPassword
  | .removeDevice userId deviceId => AuthService.removeDevice userId deviceId
  | .suspendUser adminUserId targetUserId =>
      AdminService.suspendUser app adminUserId targetUserId
  | .reactivateUser adminUserId targetUserId =>
      AdminService.reactivateUser adminUserId targetUserId
  | .deleteUser adminUserId targetUserId =>
      AdminService.deleteUser app adminUserId targetUserId
  | .forceLogout adminUserId targetUserId =>
      AdminService.forceLogout app adminUserId targetUserId

end AuthRequest

/-- A request and what its calls read besides the world. -/
structure Arrival where
  input : Input
  request : AuthRequest

/-- The world after the requests of a run, the latest first, are handled one
at a time. -/
def serve (app : Deployment) (start : World) : List Arrival → World
  | [] => start
  | arrival :: earlier =>
      ((arrival.request.handle app).run arrival.input (serve app start earlier)).2

@[simp] theorem serve_nil (app : Deployment) (start : World) :
    serve app start [] = start := rfl

@[simp] theorem serve_cons
    (app : Deployment)
    (start : World)
    (arrival : Arrival)
    (earlier : List Arrival) :
    serve app start (arrival :: earlier) =
      ((arrival.request.handle app).run arrival.input
        (serve app start earlier)).2 := rfl

/-- A backend nobody has signed in to yet; its accounts and plans are arbitrary. -/
def World.Initial (world : World) : Prop :=
  world.sessions = [] ∧ world.devices = []

/-- A state that some run of requests leads to. -/
def World.Reachable (app : Deployment) (world : World) : Prop :=
  ∃ start arrivals, World.Initial start ∧ serve app start arrivals = world

/-- An account for the concrete runs below. -/
def sampleUser : User :=
  { id := 0, email := "ann@example.com", passwordHash := "correct horse" }

/-- The default configuration. -/
def sampleApp : Deployment := .defaults

/-- A backend with that account alone. -/
def sampleWorld : World := { users := [sampleUser] }

theorem sampleWorld_initial : sampleWorld.Initial := ⟨rfl, rfl⟩

/-- A login to that account from a device. -/
def sampleLogin (rawDeviceId : String) : AuthRequest :=
  .login { email := "ann@example.com", password := "correct horse" } { rawDeviceId }

/-- The challenge of its device `deviceId`, mailed at time 0 with code 000000. -/
def sampleChallenge (deviceId : DeviceId) : Jwt :=
  { payload := .loginChallenge
      { sub := 0, deviceId, method := .emailCode, codeHash := some ⟨"000000"⟩ }
    iat := 0
    exp := 600 }

/-- The right answer to that challenge. -/
def sampleVerifyLogin (rawDeviceId : String) (deviceId : DeviceId) : AuthRequest :=
  .verifyLogin { challengeToken := sampleChallenge deviceId, code := "000000" }
    { rawDeviceId }

/-! ## Whom a request may issue a session to -/

/-- The account is found, neither locked nor inactive, and has this password. -/
def PassesPassword
    (app : Deployment)
    (dto : LoginDto)
    (now : Time)
    (world : World)
    (user : User) : Prop :=
  (world.users.find? fun other =>
      other.email = UsersService.normalizeEmail app dto.email) = some user ∧
    UsersService.isLocked now user = false ∧
    user.status = .active ∧
    app.argon2Verify user.passwordHash dto.password = true

/-- The Device row a login's cookie is already on file as. -/
def OnFile
    (requestMeta : RequestMeta)
    (world : World)
    (user : User)
    (device : Device) : Prop :=
  (world.devices.find? fun other =>
      other.userId = user.id ∧
        other.fingerprint = hashDeviceId requestMeta.rawDeviceId) = some device

/-- The code of a challenge for this user and device is accepted. -/
def AcceptsChallenge
    (app : Deployment)
    (dto : VerifyLoginDto)
    (input : Input)
    (world : World)
    (userId : UserId)
    (deviceId : DeviceId) : Prop :=
  ∃ user payload,
    ((AuthService.checkChallenge app dto).run input world).1 = .ok (user, payload) ∧
      user.id = userId ∧ payload.deviceId = deviceId

/-- The pairs of a user and a device a request may create a session for. -/
def AuthRequest.MayIssue
    (app : Deployment)
    (input : Input)
    (world : World) : AuthRequest → UserId → Option DeviceId → Prop
  | .login dto requestMeta, userId, deviceId =>
      ∃ user device,
        PassesPassword app dto input.now world user ∧
          OnFile requestMeta world user device ∧
          user.id = userId ∧ deviceId = some device.id
  | .verifyLogin dto _, userId, deviceId =>
      ∃ device, AcceptsChallenge app dto input world userId device ∧
        deviceId = some device
  | .refresh _, userId, deviceId =>
      ∃ session ∈ world.sessions,
        session.userId = userId ∧ session.deviceId = deviceId
  | _, _, _ => False

/-! ## Two preorders on the world -/

/-- The session store is left alone. -/
def SameStore (before after : World) : Prop :=
  after.store = before.store

instance : IsPreorder World SameStore where
  refl _ := rfl
  trans _ _ _ first second := second.trans first

/-- The session store moves along its steps. -/
def StoreMoves
    (now : Time)
    (mayIssue : UserId → Option DeviceId → Prop)
    (before after : World) : Prop :=
  SessionStore.Steps now mayIssue before.store after.store

instance : IsPreorder World (StoreMoves now mayIssue) where
  refl _ := Relation.ReflTransGen.refl
  trans _ _ _ first second := Relation.ReflTransGen.trans first second

variable {now : Time} {mayIssue : UserId → Option DeviceId → Prop}
variable {app : Deployment} {input : Input} {world : World}

/-- A call that leaves the store alone moves it by no step. -/
theorem SameStore.moves {before after : World} (same : SameStore before after) :
    StoreMoves now mayIssue before after := by
  unfold StoreMoves
  rw [same]

theorem Process.Moves.sameStore
    {process : Service α}
    {post : α → World → Prop}
    (frame : Moves SameStore input process world post) :
    Moves (StoreMoves now mayIssue) input process world
      fun value after => after.store = world.store ∧ post value after :=
  ⟨frame.1.moves, fun value returned => ⟨frame.1, frame.2 value returned⟩⟩

theorem StoreMoves.consistent
    {before after : World}
    (moves : StoreMoves now mayIssue before after)
    (consistent : before.store.Consistent) :
    after.store.Consistent :=
  SessionStore.Steps.consistent moves consistent

/-! ## Calls outside the session store -/

theorem respects_update (id : UserId) (rewrite : Time → User → User) :
    (UsersService.update id rewrite).Respects SameStore :=
  Footprint.updateUser fun _ _ => rfl

theorem respects_record (actor : Option UserId) (action : AuditAction) :
    (AuditService.record actor action).Respects SameStore :=
  Respects.command fun _ _ => rfl

theorem respects_enqueue (job : EmailJob) :
    (EmailService.enqueue job).Respects SameStore :=
  Footprint.enqueue (fun _ _ => rfl) job

theorem respects_signAsync (payload : JwtPayload) (expiresIn : Nat) :
    (JwtService.signAsync payload expiresIn).Respects SameStore :=
  Footprint.signAsync (fun _ _ => rfl) payload expiresIn

theorem respects_revokeUser (app : Deployment) (userId : UserId) :
    (TokenRevocationService.revokeUser app userId).Respects SameStore :=
  Footprint.revokeUser (fun _ _ => rfl) app userId

theorem respects_registerFailedLogin (app : Deployment) (userId : UserId) :
    (UsersService.registerFailedLogin app userId).Respects SameStore := by
  refine Respects.bind (respects_update _ _) fun user => Respects.ite ?_ (Respects.pure _)
  exact Respects.bind (respects_update _ _) fun _ => Respects.pure _

theorem respects_incr (key : RedisKey) : (Redis.incr key).Respects SameStore :=
  Footprint.incr (fun _ _ => rfl) key

theorem respects_expire (key : RedisKey) (seconds : Nat) :
    (Redis.expire key seconds).Respects SameStore :=
  Footprint.expire (fun _ _ => rfl) key seconds

theorem respects_registerChallengeAttempt (token : Jwt) (ttlSeconds : Nat) :
    (TokenRevocationService.registerChallengeAttempt token ttlSeconds).Respects
      SameStore :=
  Footprint.registerChallengeAttempt respects_incr respects_expire token ttlSeconds

theorem respects_checkChallenge (app : Deployment) (dto : VerifyLoginDto) :
    (AuthService.checkChallenge app dto).Respects SameStore :=
  Footprint.checkChallenge respects_registerChallengeAttempt respects_record app dto

theorem respects_challenge (user : User) (device : Device) :
    (AuthService.challenge user device).Respects SameStore :=
  Footprint.challenge (fun _ => respects_signAsync _ _) respects_record respects_enqueue user device

/-! ## Logging in -/

/-- Only an account that passes the password check is returned. -/
theorem moves_checkPassword (dto : LoginDto) :
    Moves SameStore input (AuthService.checkPassword app dto) world
      fun user _ => PassesPassword app dto input.now world user := by
  unfold AuthService.checkPassword
  refine Moves.bind (Moves.query (fun found _ =>
    found = world.users.find? fun other =>
      other.email = UsersService.normalizeEmail app dto.email) rfl) ?_
  intro found after same lookup
  cases found with
  | none => exact Moves.throw _ _
  | some user =>
      refine Moves.bind (Moves.query (fun now _ => now = input.now) rfl) ?_
      rintro now after same rfl
      refine Moves.ite (fun _ => Moves.throw _ _) fun unlocked => ?_
      refine Moves.ite (fun _ => Moves.throw _ _) fun active => ?_
      refine Moves.ite (fun verified => ?_) fun _ => ?_
      · refine Moves.bind (Moves.of_respects
          (Respects.bind (respects_update _ _) fun _ => Respects.pure _)) ?_
        intro _ _ _ _
        exact Moves.pure
          ⟨lookup.symm, by simpa using unlocked, by simpa using active, verified⟩
      · refine Moves.bind (Moves.of_respects (respects_registerFailedLogin _ _)) ?_
        intro locked _ _ _
        refine Moves.bind (Moves.of_respects (respects_record _ _)) ?_
        intro _ _ _ _
        exact Moves.ite (fun _ => Moves.throw _ _) fun _ => Moves.throw _ _

/-- A device that is not new was on file. -/
theorem moves_findOrCreateDevice
    (user : User)
    (requestMeta : RequestMeta) :
    Moves (StoreMoves now mayIssue) input
      (DevicesService.findOrCreateDevice user.id
        (hashDeviceId requestMeta.rawDeviceId)) world
      fun result _ => result.2 = false →
        ∃ stored, OnFile requestMeta world user stored ∧ stored.id = result.1.id := by
  unfold DevicesService.findOrCreateDevice
  refine Moves.bind (Moves.query (fun found after =>
    after = world ∧
      found = world.devices.find? fun other =>
        other.userId = user.id ∧
          other.fingerprint = hashDeviceId requestMeta.rawDeviceId) ⟨rfl, rfl⟩) ?_
  rintro found after - ⟨rfl, lookup⟩
  cases found with
  | some stored =>
      refine Moves.bind (Moves.attempt
        (fun device _ => device.id = stored.id) ?_) ?_
      · intro device next outcome
        split at outcome
        · cases outcome
        · cases outcome
          refine ⟨Relation.ReflTransGen.single ?_, ?_⟩
          · exact .touch after.store _ _ fun _ => rfl
          · have matched := List.find?_some ‹_›
            simpa using matched
      · intro device next _ sameId
        exact Moves.pure fun _ => ⟨stored, lookup.symm, sameId.symm⟩
  | none =>
      refine Moves.bind (Moves.attempt (fun _ _ => True) ?_) ?_
      · intro device next outcome
        split at outcome
        · cases outcome
        · cases outcome
          exact ⟨Relation.ReflTransGen.single (.register after.store _ rfl), trivial⟩
      · intro device next _ _
        exact Moves.pure nofun

/-- Making room ends live sessions only. -/
theorem moves_enforceLimit
    (consistent : world.store.Consistent)
    (userId : UserId) :
    Moves (StoreMoves input.now mayIssue) input
      (SessionsService.enforceLimit app userId) world fun _ _ => True := by
  unfold SessionsService.enforceLimit
  refine Moves.bind (Moves.query (fun active after =>
    after = world ∧ ∀ id ∈ active, ∃ session ∈ world.sessions,
      session.id = id ∧ session.revokedAt = none) ⟨rfl, ?_⟩) ?_
  · intro id active
    obtain ⟨session, selected, named⟩ := List.mem_map.mp active
    obtain ⟨stored, chosen⟩ := List.mem_filter.mp (List.mem_reverse.mp selected)
    have live : session.revokedAt.isNone := by
      simp only [Session.live, Bool.and_eq_true] at chosen
      exact chosen.2.1
    exact ⟨session, stored, named, Option.isNone_iff_eq_none.mp live⟩
  rintro active after - ⟨rfl, unrevoked⟩
  refine Moves.ite (fun _ => ?_) fun _ => Moves.pure trivial
  refine Moves.command (Relation.ReflTransGen.single ?_) trivial
  refine .revoke after.store _ ?_
  intro session stored selected
  have evicted := List.mem_of_mem_take (of_decide_eq_true selected)
  obtain ⟨live, liveStored, named, open_⟩ := unrevoked session.id evicted
  rw [← consistent.eq_of_id_eq liveStored stored named]
  exact open_

/-- A created session is issued to the pair it was asked for. -/
theorem moves_create
    (call : CreateSessionInput)
    (allowed : mayIssue call.userId call.deviceId) :
    Moves (StoreMoves now mayIssue) input (SessionsService.create app call) world
      fun _ _ => True := by
  refine Moves.attempt _ ?_
  intro value after outcome
  split at outcome
  · cases outcome
    refine ⟨Relation.ReflTransGen.single ?_, trivial⟩
    refine .issue world.store _ rfl rfl rfl rfl ?_ allowed
    intro id refers
    have known : call.deviceId.all _ = true := ‹_›
    rw [show call.deviceId = some id from refers] at known
    simpa using known
  · cases outcome

/-- Completing a login issues a session to its user and device only. -/
theorem moves_issueTokenPair
    (consistent : world.store.Consistent)
    {userId : UserId}
    {deviceId : DeviceId}
    (requestMeta : RequestMeta)
    (isNewDevice : Bool)
    (allowed : mayIssue userId (some deviceId)) :
    Moves (StoreMoves input.now mayIssue) input
      (AuthService.issueTokenPair app userId deviceId requestMeta isNewDevice) world
      fun _ _ => True := by
  unfold AuthService.issueTokenPair
  refine Moves.bind (Moves.query (fun found after =>
    after = world ∧ ∀ user, found = some user → user.id = userId) ⟨rfl, ?_⟩) ?_
  · intro user found
    have matched := List.find?_some found
    simpa using matched
  rintro found after - ⟨rfl, named⟩
  cases found with
  | none => exact Moves.throw _ _
  | some user =>
      have sameUser := named user rfl
      have assessed : ∀ country, Respects SameStore
          (RiskService.assess user.id isNewDevice country user.failedLoginCount) := by
        intro country
        refine Respects.bind ?_ fun _ => Respects.pure _
        cases country with
        | none => exact Respects.pure _
        | some country => exact Respects.ite (Respects.pure _) (Respects.query _)
      refine Moves.bind (Moves.of_respects (assessed _)).sameStore ?_
      rintro risk scored - ⟨same, -⟩
      have stillConsistent : scored.store.Consistent := same ▸ consistent
      refine Moves.bind (moves_enforceLimit stillConsistent _) ?_
      intro _ _ _ _
      refine Moves.bind (Moves.of_respects (respects_signAsync _ _)).sameStore ?_
      intro accessToken _ _ _
      refine Moves.bind (moves_create _ (by simpa only [sameUser] using allowed)) ?_
      intro created _ _ _
      refine Moves.bind (Moves.of_respects (respects_update _ _)).sameStore ?_
      intro _ _ _ _
      have audited : ∀ (risk : RiskAssessment) (tokens : TokenPair), Respects SameStore (do
          AuditService.record (some user.id) .authLogin
          if app.riskHighThreshold ≤ risk.score then
            AuditService.record (some user.id) .authHighRiskLogin
          return tokens) := by
        intro risk tokens
        refine Respects.bind (respects_record _ _) fun _ => Respects.ite ?_ (Respects.pure _)
        exact Respects.bind (respects_record _ _) fun _ => Respects.pure _
      refine (Moves.of_respects (Respects.ite ?_ (audited _ _))).sameStore.weaken
        fun _ _ _ _ => trivial
      exact Respects.bind (respects_enqueue _) fun _ => audited _ _

/-- A login issues a session only past the password check, for the device its
cookie is on file as. -/
theorem moves_login
    (consistent : world.store.Consistent)
    (dto : LoginDto)
    (requestMeta : RequestMeta) :
    Moves
      (StoreMoves input.now
        ((AuthRequest.login dto requestMeta).MayIssue app input world))
      input (AuthService.login app dto requestMeta) world fun _ _ => True := by
  unfold AuthService.login
  refine Moves.bind (moves_checkPassword dto).sameStore ?_
  rintro user checked - ⟨same, passes⟩
  refine Moves.bind (moves_findOrCreateDevice user requestMeta) ?_
  rintro ⟨device, isNew⟩ found moved onFile
  have foundConsistent := moved.consistent (same ▸ consistent)
  refine Moves.ite (fun _ => ?_) fun known => ?_
  · exact (Moves.of_respects (respects_challenge _ _)).sameStore.weaken
      fun _ _ _ _ => trivial
  · obtain ⟨stored, stillOnFile, sameId⟩ := onFile (by simpa using known)
    have sameDevices : checked.devices = world.devices := congrArg (·.devices) same
    unfold OnFile at stillOnFile
    rw [sameDevices] at stillOnFile
    refine Moves.bind (moves_issueTokenPair foundConsistent requestMeta false
      ⟨user, stored, passes, stillOnFile, rfl, by rw [sameId]⟩) ?_
    intro _ _ _ _
    exact Moves.pure trivial

/-- An accepted code issues a session for the user and the device it was asked
for. -/
theorem moves_verifyLogin
    (consistent : world.store.Consistent)
    (dto : VerifyLoginDto)
    (requestMeta : RequestMeta) :
    Moves
      (StoreMoves input.now
        ((AuthRequest.verifyLogin dto requestMeta).MayIssue app input world))
      input (AuthService.verifyLogin app dto requestMeta) world fun _ _ => True := by
  unfold AuthService.verifyLogin
  refine Moves.bind (Moves.of_respects (respects_checkChallenge _ _)).sameStore ?_
  rintro ⟨user, payload⟩ checked - ⟨same, outcome⟩
  have accepted : AcceptsChallenge app dto input world user.id payload.deviceId :=
    ⟨user, payload, congrArg Prod.fst outcome, rfl, rfl⟩
  have issues : ∀ state : World, state.store.Consistent →
      Moves
        (StoreMoves input.now
          ((AuthRequest.verifyLogin dto requestMeta).MayIssue app input world))
        input
        (AuthService.issueTokenPair app user.id payload.deviceId requestMeta true)
        state fun _ _ => True :=
    fun state stateConsistent => moves_issueTokenPair stateConsistent requestMeta true
      ⟨payload.deviceId, accepted, rfl⟩
  refine Moves.ite (fun _ => ?_) fun _ => issues checked (same ▸ consistent)
  refine Moves.bind (Moves.of_respects (respects_update _ _)).sameStore ?_
  rintro _ marked - ⟨sameAfter, -⟩
  exact issues marked (by rw [sameAfter, same]; exact consistent)

/-! ## Refreshing and signing out -/

/-- A refresh issues a session only to the pair of a stored session. -/
theorem moves_refresh
    (consistent : world.store.Consistent)
    (rawToken : RawToken) :
    Moves
      (StoreMoves input.now ((AuthRequest.refresh rawToken).MayIssue app input world))
      input (AuthService.refresh app rawToken) world fun _ _ => True := by
  have runs := run_refresh app rawToken input consistent
  cases target : refreshTarget input.now rawToken world.sessions with
  | rotate session =>
      obtain ⟨present, live⟩ := refreshTarget_rotate target
      have unrevoked : session.revokedAt = none := by
        simp only [Session.live, Bool.and_eq_true] at live
        exact Option.isNone_iff_eq_none.mp live.1
      simp only [target] at runs
      cases active : activeUser session.userId world with
      | some user =>
          simp only [active] at runs
          exact Moves.of_run_eq runs
            (rotatedWorld_steps app input.now user consistent present unrevoked
              ⟨session, present, rfl, rfl⟩)
            fun _ _ => trivial
      | none =>
          simp only [active] at runs
          exact Moves.of_run_eq runs
            (Relation.ReflTransGen.single (revokeOne_step consistent present unrevoked))
            fun _ _ => trivial
  | reuse presented =>
      simp only [target] at runs
      exact Moves.of_run_eq runs
        (Relation.ReflTransGen.single
          (revokeUserSessions_step input.now _ presented.userId world.store))
        fun _ _ => trivial
  | refuse =>
      simp only [target] at runs
      exact Moves.of_run_eq runs Relation.ReflTransGen.refl fun _ _ => trivial

theorem moves_revokeAllForUser (userId : UserId) :
    Moves (StoreMoves input.now mayIssue) input
      (SessionsService.revokeAllForUser userId) world fun _ _ => True :=
  Moves.command
    (Relation.ReflTransGen.single
      (revokeUserSessions_step input.now mayIssue userId world.store))
    trivial

/-- The sessions are ended, and then only the token revocation and the audit log
are written. -/
theorem moves_revokeEverything
    (userId : UserId)
    (actor : Option UserId)
    (action : AuditAction) :
    Moves (StoreMoves input.now mayIssue) input (do
        SessionsService.revokeAllForUser userId
        TokenRevocationService.revokeUser app userId
        AuditService.record actor action) world fun _ _ => True := by
  refine Moves.bind (moves_revokeAllForUser userId) ?_
  intro _ after _ _
  exact (Moves.of_respects (Respects.bind (respects_revokeUser _ _)
    fun _ => respects_record _ _)).sameStore.weaken fun _ _ _ _ => trivial

theorem moves_logout
    (consistent : world.store.Consistent)
    (rawToken : RawToken) :
    Moves (StoreMoves input.now mayIssue) input (AuthService.logout rawToken) world
      fun _ _ => True := by
  unfold AuthService.logout
  refine Moves.bind (Moves.query (fun found after =>
    after = world ∧ ∀ session, found = some session →
      session ∈ world.sessions ∧ session.revokedAt = none) ⟨rfl, ?_⟩) ?_
  · intro session found
    refine ⟨List.mem_of_find?_eq_some found, ?_⟩
    have matched := List.find?_some found
    simp only [Session.live, Bool.and_eq_true] at matched
    exact Option.isNone_iff_eq_none.mp matched.2.1
  rintro found after - ⟨rfl, selects⟩
  cases found with
  | none => exact Moves.pure trivial
  | some session =>
      obtain ⟨present, unrevoked⟩ := selects session rfl
      refine Moves.bind (Moves.attempt (fun _ _ => True) ?_) ?_
      · intro value next outcome
        split at outcome
        · cases outcome
          exact ⟨Relation.ReflTransGen.single
            (revokeOne_step consistent present unrevoked), trivial⟩
        · cases outcome
      · intro _ _ _ _
        exact (Moves.of_respects (respects_record _ _)).sameStore.weaken
          fun _ _ _ _ => trivial

/-- Removing a device ends its sessions and clears the references to it. -/
theorem moves_remove (userId : UserId) (deviceId : DeviceId) :
    Moves (StoreMoves input.now mayIssue) input
      (DevicesService.remove userId deviceId) world fun _ _ => True := by
  unfold DevicesService.remove
  refine Moves.bind (Moves.query (fun _ _ => True) trivial) ?_
  intro found after _ _
  cases found with
  | none => exact Moves.throw _ _
  | some device =>
      refine Moves.ite (fun _ => Moves.throw _ _) fun _ => Moves.command ?_ trivial
      have ended : SessionStore.Step input.now mayIssue after.store _ :=
        .revoke after.store
          (fun session => session.deviceId = some deviceId ∧ session.revokedAt = none)
          fun _ _ selected => (of_decide_eq_true selected).2
      exact (Relation.ReflTransGen.single ended).tail (.forget _ deviceId)

theorem moves_removeDevice (userId : UserId) (deviceId : DeviceId) :
    Moves (StoreMoves input.now mayIssue) input
      (AuthService.removeDevice userId deviceId) world fun _ _ => True := by
  unfold AuthService.removeDevice
  refine Moves.bind (moves_remove userId deviceId) ?_
  intro _ _ _ _
  exact (Moves.of_respects (respects_record _ _)).sameStore.weaken
    fun _ _ _ _ => trivial

/-! ## Password reset -/

/-- A store left alone but for the supply of fresh names. -/
theorem reserves
    {before after : World}
    (amount : Nat)
    (same : after.store =
      { before.store with nextId := before.store.nextId + amount }) :
    StoreMoves now mayIssue before after := by
  unfold StoreMoves
  rw [same]
  exact Relation.ReflTransGen.single (.reserve before.store amount)

theorem respects_sameStore_moves
    {process : Service α}
    (respects : process.Respects SameStore) :
    process.Respects (StoreMoves now mayIssue) := by
  induction process with
  | done value => trivial
  | fail error => trivial
  | call update resume abort resumeHypothesis abortHypothesis =>
      obtain ⟨same, resumes, aborts⟩ := respects
      exact ⟨fun input state => (same input state).moves,
        fun input state => resumeHypothesis input state (resumes input state),
        fun error => abortHypothesis error (aborts error)⟩

theorem respects_issueVerificationToken
    (userId : UserId)
    (email : String)
    (purpose : VerificationTokenPurpose) :
    (AuthService.issueVerificationToken userId email purpose).Respects
      (StoreMoves now mayIssue) :=
  Footprint.issueVerificationToken (fun _ _ => reserves 0 rfl) (fun _ => reserves 1 rfl)
    (fun _ _ => reserves 1 rfl) (fun _ => respects_sameStore_moves (respects_enqueue _))
    userId email purpose

theorem respects_forgotPassword (email : String) :
    (AuthService.forgotPassword app email).Respects (StoreMoves now mayIssue) :=
  Footprint.forgotPassword respects_issueVerificationToken
    (fun _ _ => respects_sameStore_moves (respects_record _ _)) app email

theorem respects_consumeVerificationToken
    (rawToken : RawToken)
    (purpose : VerificationTokenPurpose) :
    (AuthService.consumeVerificationToken rawToken purpose).Respects SameStore :=
  Footprint.consumeVerificationToken (fun _ _ => rfl) rawToken purpose

theorem moves_resetPassword (rawToken : RawToken) (newPassword : String) :
    Moves (StoreMoves input.now mayIssue) input
      (AuthService.resetPassword app rawToken newPassword) world fun _ _ => True := by
  unfold AuthService.resetPassword
  refine Moves.bind
    (Moves.of_respects (respects_consumeVerificationToken _ _)).sameStore ?_
  intro token _ _ _
  refine Moves.bind (Moves.of_respects (respects_update _ _)).sameStore ?_
  intro _ _ _ _
  exact moves_revokeEverything _ _ _

/-! ## Moderation -/

theorem moves_suspendUser (adminUserId targetUserId : UserId) :
    Moves (StoreMoves input.now mayIssue) input
      (AdminService.suspendUser app adminUserId targetUserId) world
      fun _ _ => True := by
  unfold AdminService.suspendUser
  refine Moves.ite (fun _ => Moves.throw _ _) fun _ => ?_
  refine Moves.bind (Moves.query (fun _ _ => True) trivial) ?_
  intro found _ _ _
  cases found with
  | none => exact Moves.throw _ _
  | some target =>
      refine Moves.ite (fun _ => Moves.throw _ _) fun _ => ?_
      refine Moves.bind (Moves.of_respects (respects_update _ _)).sameStore ?_
      intro _ _ _ _
      exact moves_revokeEverything _ _ _

theorem respects_reactivateUser (adminUserId targetUserId : UserId) :
    (AdminService.reactivateUser adminUserId targetUserId).Respects SameStore :=
  Footprint.reactivateUser (respects_update _ _) respects_record adminUserId

theorem moves_deleteUser (adminUserId targetUserId : UserId) :
    Moves (StoreMoves input.now mayIssue) input
      (AdminService.deleteUser app adminUserId targetUserId) world
      fun _ _ => True := by
  unfold AdminService.deleteUser
  refine Moves.ite (fun _ => Moves.throw _ _) fun _ => ?_
  refine Moves.bind (Moves.query (fun _ _ => True) trivial) ?_
  intro found _ _ _
  cases found with
  | none => exact Moves.throw _ _
  | some target =>
      refine Moves.ite (fun _ => Moves.throw _ _) fun _ => ?_
      refine Moves.bind (Moves.of_respects (respects_update _ _)).sameStore ?_
      intro _ _ _ _
      exact moves_revokeEverything _ _ _

theorem moves_forceLogout (adminUserId targetUserId : UserId) :
    Moves (StoreMoves input.now mayIssue) input
      (AdminService.forceLogout app adminUserId targetUserId) world
      fun _ _ => True := by
  unfold AdminService.forceLogout
  refine Moves.bind (Moves.query (fun _ _ => True) trivial) ?_
  intro found _ _ _
  cases found with
  | none => exact Moves.throw _ _
  | some target => exact moves_revokeEverything _ _ _

/-! ## Every request, and every run -/

/-- Every request moves the session store along its steps. -/
theorem AuthRequest.handle_moves
    (app : Deployment)
    (request : AuthRequest)
    (input : Input)
    {world : World}
    (consistent : world.store.Consistent) :
    StoreMoves input.now (request.MayIssue app input world) world
      ((request.handle app).run input world).2 := by
  have discards : ∀ {R : World → World → Prop} [IsPreorder World R] {α : Type}
      {process : Service α} {post : α → World → Prop},
      Moves R input process world post →
      R world ((do let _ ← process; pure ()).run input world).2 := by
    intro R _ α process post moves
    exact (Moves.bind moves fun _ _ _ _ =>
      Moves.pure trivial : Moves R input (do let _ ← process; pure ()) world
        fun _ _ => True).1
  cases request with
  | login dto requestMeta => exact discards (moves_login consistent dto requestMeta)
  | verifyLogin dto requestMeta =>
      exact discards (moves_verifyLogin consistent dto requestMeta)
  | refresh rawToken => exact discards (moves_refresh consistent rawToken)
  | logout rawToken => exact (moves_logout consistent rawToken).1
  | logoutAll userId => exact (moves_revokeEverything _ _ _).1
  | forgotPassword email => exact (respects_forgotPassword email).run input world
  | resetPassword rawToken newPassword =>
      exact (moves_resetPassword rawToken newPassword).1
  | removeDevice userId deviceId => exact (moves_removeDevice userId deviceId).1
  | suspendUser adminUserId targetUserId =>
      exact (moves_suspendUser adminUserId targetUserId).1
  | reactivateUser adminUserId targetUserId =>
      exact ((respects_reactivateUser adminUserId targetUserId).run input world).moves
  | deleteUser adminUserId targetUserId =>
      exact (moves_deleteUser adminUserId targetUserId).1
  | forceLogout adminUserId targetUserId =>
      exact (moves_forceLogout adminUserId targetUserId).1

/-- Every run keeps the session store consistent. -/
theorem serve_consistent
    (app : Deployment)
    {start : World}
    (consistent : start.store.Consistent)
    (arrivals : List Arrival) :
    (serve app start arrivals).store.Consistent := by
  induction arrivals with
  | nil => exact consistent
  | cons arrival earlier inductionHypothesis =>
      exact (arrival.request.handle_moves app arrival.input
        inductionHypothesis).consistent inductionHypothesis

theorem World.Initial.consistent {start : World} (initial : start.Initial) :
    start.store.Consistent := by
  have empty : start.store = ⟨[], [], start.nextId⟩ := by
    unfold World.store
    rw [initial.1, initial.2]
  rw [empty]
  exact SessionStore.consistent_empty start.nextId

/-- No run loses a row or takes a revocation back. -/
theorem serve_evolves
    (app : Deployment)
    {start : World}
    (consistent : start.store.Consistent)
    (arrivals : List Arrival)
    {session : Session}
    (present : session ∈ start.sessions) :
    ∃ after ∈ (serve app start arrivals).sessions, session.Evolves after := by
  induction arrivals with
  | nil => exact ⟨session, present, .refl session⟩
  | cons arrival earlier inductionHypothesis =>
      obtain ⟨middle, stored, first⟩ := inductionHypothesis
      have middleConsistent := serve_consistent app consistent earlier
      obtain ⟨after, storedAfter, second⟩ := SessionStore.Steps.evolves
        (arrival.request.handle_moves app arrival.input middleConsistent)
        middleConsistent stored
      exact ⟨after, storedAfter, first.trans second⟩

theorem World.Reachable.consistent {world : World} (reachable : world.Reachable app) :
    world.store.Consistent := by
  obtain ⟨start, arrivals, initial, rfl⟩ := reachable
  exact serve_consistent app initial.consistent arrivals

end ConferenceContact
