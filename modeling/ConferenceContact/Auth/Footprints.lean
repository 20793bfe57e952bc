import ConferenceContact.Foundation.Respects
import ConferenceContact.Model.Auth

/-!
# What the calls of a login leave alone

A service respects a relation if its calls do.  The lemmas here follow each service
that a login or a refresh is made of once, for any relation, so that a relation has
only to say what it makes of the single writes.
-/

namespace ConferenceContact

open Process

namespace Footprint

variable {R : World → World → Prop} [Std.Refl R] {app : Deployment}

/-! ## Writes outside the tables -/

theorem enqueue
    (sends : ∀ world outbox, R world { world with outbox })
    (job : EmailJob) :
    (EmailService.enqueue job).Respects R := by
  refine Respects.tryCatch (Respects.command fun input world => ?_) fun _ => Respects.pure ()
  split
  · exact sends world _
  · exact Std.Refl.refl world

theorem signAsync
    (signs : ∀ world signed, R world { world with signed })
    (payload : JwtPayload)
    (expiresIn : Nat) :
    (JwtService.signAsync payload expiresIn).Respects R := by
  refine Respects.attempt ?_
  rintro input world value after ⟨⟩
  exact signs world _

theorem incr
    (stores : ∀ world redis, R world { world with redis })
    (key : RedisKey) :
    (Redis.incr key).Respects R := by
  refine Respects.attempt ?_
  rintro input world value after ⟨⟩
  exact stores world _

theorem expire
    (stores : ∀ world redis, R world { world with redis })
    (key : RedisKey)
    (seconds : Nat) :
    (Redis.expire key seconds).Respects R := by
  refine Respects.command fun input world => ?_
  split
  · exact stores world _
  · exact Std.Refl.refl world

theorem answered
    {commands : Service α}
    (respects : commands.Respects R) :
    (Redis.answered commands).Respects R :=
  Respects.bind Respects.ask fun _ => Respects.ite respects (Respects.throw _)

theorem revokeUser
    (stores : ∀ world redis, R world { world with redis })
    (app : Deployment)
    (userId : UserId) :
    (TokenRevocationService.revokeUser app userId).Respects R := by
  refine Respects.tryCatch (answered ?_) fun _ => Respects.pure ()
  exact Respects.command fun _ world => stores world _

/-! ## Rows -/

theorem updateUser
    {id : UserId}
    {rewrite : Time → User → User}
    (writes : ∀ now world, R world
      { world with
        users := Table.updateWhere (fun other => other.id = id) (rewrite now) world.users }) :
    (UsersService.update id rewrite).Respects R := by
  refine Respects.attempt fun input world value after updated => ?_
  split at updated
  · cases updated
  · cases updated
    exact writes input.now world

theorem updateSession
    {id : SessionId}
    {rewrite : Time → Session → Session}
    (writes : ∀ now world, R world
      { world with
        sessions := Table.updateWhere (fun session => session.id = id) (rewrite now)
          world.sessions }) :
    (SessionsService.update id rewrite).Respects R := by
  refine Respects.attempt fun input world value after updated => ?_
  split at updated
  · cases updated
    exact writes input.now world
  · cases updated

theorem createSession
    (creates : ∀ world sessions,
      R world { world with sessions, nextId := world.nextId + 2 })
    (app : Deployment)
    (values : CreateSessionInput) :
    (SessionsService.create app values).Respects R := by
  refine Respects.attempt fun input world value after created => ?_
  split at created
  · cases created
    exact creates world _
  · cases created

/-! ## Devices and risk -/

theorem findOrCreateDevice
    (touches : ∀ world devices, R world { world with devices })
    (creates : ∀ world devices,
      R world { world with devices, nextId := world.nextId + 1 })
    (userId : UserId)
    (fingerprint : Sha256 String) :
    (DevicesService.findOrCreateDevice userId fingerprint).Respects R := by
  refine Respects.bind (Respects.query _) fun existing => ?_
  cases existing with
  | some device =>
      refine Respects.bind (Respects.attempt fun input world value after touched => ?_)
        fun _ => Respects.pure _
      split at touched
      · cases touched
      · cases touched
        exact touches world _
  | none =>
      refine Respects.bind (Respects.attempt fun input world value after created => ?_)
        fun _ => Respects.pure _
      split at created
      · cases created
      · cases created
        exact creates world _

/-- A login is scored without any write. -/
theorem assess
    (userId : UserId)
    (isNewDevice : Bool)
    (country : Option String)
    (failedLoginCount : Nat) :
    (RiskService.assess userId isNewDevice country failedLoginCount).Respects R := by
  refine Respects.bind ?_ fun _ => Respects.pure _
  unfold RiskService.assessCountry
  split
  · exact Respects.pure _
  · exact Respects.ite (Respects.pure _) (Respects.query _)

/-! ## Logins -/

theorem issueTokenPair
    (limits : ∀ userId, (SessionsService.enforceLimit app userId).Respects R)
    (signs : ∀ userId role, (AuthService.signAccessToken app userId role).Respects R)
    (creates : ∀ values, (SessionsService.create app values).Respects R)
    (updates : ∀ userId, (UsersService.updateLastLogin userId).Respects R)
    (mails : ∀ job, (EmailService.enqueue job).Respects R)
    (records : ∀ actor action, (AuditService.record actor action).Respects R)
    (userId : UserId)
    (deviceId : DeviceId)
    (requestMeta : RequestMeta)
    (isNewDevice : Bool) :
    (AuthService.issueTokenPair app userId deviceId requestMeta isNewDevice).Respects R := by
  unfold AuthService.issueTokenPair
  refine Respects.bind (Respects.query _) fun found => ?_
  cases found with
  | none => exact Respects.throw _
  | some user =>
      refine Respects.bind (assess _ _ _ _) fun _ => ?_
      refine Respects.bind (limits _) fun _ => ?_
      refine Respects.bind (signs _ _) fun _ => ?_
      refine Respects.bind (creates _) fun _ => ?_
      refine Respects.bind (updates _) fun _ => ?_
      have logged : ∀ {process : Service TokenPair} action, process.Respects R →
          (do AuditService.record (some user.id) action; process).Respects R :=
        fun action rest => Respects.bind (records _ action) fun _ => rest
      refine Respects.ite (Respects.bind (mails _) fun _ => ?_) ?_
      all_goals exact logged _ (Respects.ite (logged _ (Respects.pure _)) (Respects.pure _))

theorem checkPassword
    (resets : ∀ userId, (UsersService.resetFailedLogins userId).Respects R)
    (counts : ∀ userId, (UsersService.registerFailedLogin app userId).Respects R)
    (records : ∀ actor action, (AuditService.record actor action).Respects R)
    (dto : LoginDto) :
    (AuthService.checkPassword app dto).Respects R := by
  refine Respects.bind (Respects.query _) fun found => ?_
  cases found with
  | none => exact Respects.throw _
  | some user =>
      refine Respects.bind (Respects.query _) fun _ => ?_
      refine Respects.ite (Respects.throw _) (Respects.ite (Respects.throw _) ?_)
      refine Respects.ite (Respects.bind (resets _) fun _ => Respects.pure _) ?_
      refine Respects.bind (counts _) fun _ => ?_
      refine Respects.bind (records _ _) fun _ => ?_
      exact Respects.ite (Respects.throw _) (Respects.throw _)

/-! ## Challenges -/

theorem challenge
    (signs : ∀ payload, (AuthService.signChallenge payload).Respects R)
    (records : ∀ actor action, (AuditService.record actor action).Respects R)
    (mails : ∀ job, (EmailService.enqueue job).Respects R)
    (user : User)
    (device : Device) :
    (AuthService.challenge user device).Respects R := by
  unfold AuthService.challenge
  refine Respects.ite ?_ ?_
  · refine Respects.bind (signs _) fun _ => ?_
    exact Respects.bind (records _ _) fun _ => Respects.pure _
  · refine Respects.bind (Respects.query _) fun _ => ?_
    refine Respects.bind (signs _) fun _ => ?_
    refine Respects.bind (mails _) fun _ => ?_
    exact Respects.bind (records _ _) fun _ => Respects.pure _

theorem registerChallengeAttempt
    (counts : ∀ key, (Redis.incr key).Respects R)
    (expires : ∀ key seconds, (Redis.expire key seconds).Respects R)
    (token : Jwt)
    (ttlSeconds : Nat) :
    (TokenRevocationService.registerChallengeAttempt token ttlSeconds).Respects R := by
  refine Respects.tryCatch (answered ?_) fun _ => Respects.pure _
  refine Respects.bind (counts _) fun _ => ?_
  exact Respects.ite (Respects.bind (expires _ _) fun _ => Respects.pure _) (Respects.pure _)

/-- A code is checked without any write. -/
theorem codeValid
    (app : Deployment)
    (user : User)
    (payload : LoginChallengePayload)
    (code : String) :
    (AuthService.codeValid app user payload code).Respects R := by
  unfold AuthService.codeValid
  cases payload.method with
  | totp =>
      cases user.twoFactorSecret.filter (· ≠ "") with
      | none => exact Respects.throw _
      | some encrypted =>
          dsimp only
          cases EncryptionService.decrypt app encrypted with
          | error error => exact Respects.throw _
          | ok secret => exact Respects.bind (Respects.query _) fun _ => Respects.pure _
  | emailCode =>
      cases payload.codeHash with
      | none => exact Respects.throw _
      | some codeHash => exact Respects.pure _

theorem checkChallenge
    (counts : ∀ token ttlSeconds,
      (TokenRevocationService.registerChallengeAttempt token ttlSeconds).Respects R)
    (records : ∀ actor action, (AuditService.record actor action).Respects R)
    (app : Deployment)
    (dto : VerifyLoginDto) :
    (AuthService.checkChallenge app dto).Respects R := by
  refine Respects.bind (Respects.query _) fun found => ?_
  cases found with
  | none => exact Respects.throw _
  | some payload =>
      cases payload with
      | access payload => exact Respects.throw _
      | loginChallenge payload =>
          refine Respects.bind (Respects.query _) fun found => ?_
          cases found with
          | none => exact Respects.throw _
          | some user =>
              refine Respects.bind (counts _ _) fun within => ?_
              refine Respects.ite (Respects.throw _) ?_
              refine Respects.bind (codeValid app user payload dto.code) fun valid => ?_
              refine Respects.ite ?_ (Respects.pure _)
              exact Respects.bind (records _ _) fun _ => Respects.throw _

/-! ## Refreshes -/

/-- A successor is looked for without any write. -/
theorem concurrentSuccessor (anySession : Option Session) :
    (AuthService.concurrentSuccessor anySession).Respects R := by
  unfold AuthService.concurrentSuccessor
  split
  · split
    · split
      · refine Respects.bind (Respects.query _) fun now => Respects.ite ?_ (Respects.pure _)
        refine Respects.bind (Respects.query _) fun successor => ?_
        exact Respects.bind (Respects.query _) fun now => Respects.pure _
      · exact Respects.pure _
    · exact Respects.pure _
  · exact Respects.pure _

theorem sessionToRotate
    (revokes : ∀ userId, (SessionsService.revokeAllForUser userId).Respects R)
    (records : ∀ actor action, (AuditService.record actor action).Respects R)
    (rawToken : RawToken) :
    (AuthService.sessionToRotate rawToken).Respects R := by
  refine Respects.bind (Respects.query _) fun session => ?_
  cases session with
  | some session => exact Respects.pure _
  | none =>
      refine Respects.bind (Respects.query _) fun anySession => ?_
      refine Respects.bind (concurrentSuccessor anySession) fun successor => ?_
      cases successor with
      | some successor => exact Respects.pure _
      | none =>
          cases anySession with
          | none => exact Respects.throw _
          | some anySession =>
              refine Respects.ite ?_ (Respects.throw _)
              refine Respects.bind (revokes _) fun _ => ?_
              exact Respects.bind (records _ _) fun _ => Respects.throw _

/-! ## Links sent by email -/

theorem issueVerificationToken
    (updates : ∀ world verificationTokens, R world { world with verificationTokens })
    (reserves : ∀ world, R world { world with nextId := world.nextId + 1 })
    (creates : ∀ world verificationTokens,
      R world { world with verificationTokens, nextId := world.nextId + 1 })
    (mails : ∀ job, (EmailService.enqueue job).Respects R)
    (userId : UserId)
    (email : String)
    (purpose : VerificationTokenPurpose) :
    (AuthService.issueVerificationToken userId email purpose).Respects R := by
  refine Respects.bind (Respects.command fun _ world => updates world _) fun _ => ?_
  refine Respects.bind (Respects.attempt ?_) fun rawToken => ?_
  · rintro input world value after ⟨⟩
    exact reserves world
  · refine Respects.bind (Respects.command fun _ world => creates world _) fun _ => ?_
    exact mails _

theorem consumeVerificationToken
    (updates : ∀ world verificationTokens, R world { world with verificationTokens })
    (rawToken : RawToken)
    (purpose : VerificationTokenPurpose) :
    (AuthService.consumeVerificationToken rawToken purpose).Respects R := by
  refine Respects.bind (Respects.query _) fun found => ?_
  cases found with
  | none => exact Respects.throw _
  | some token =>
      refine Respects.ite (Respects.throw _) (Respects.ite (Respects.throw _) ?_)
      refine Respects.bind (Respects.query _) fun now => ?_
      refine Respects.ite (Respects.throw _) ?_
      exact Respects.bind (Respects.command fun _ world => updates world _)
        fun _ => Respects.pure _

theorem forgotPassword
    (issues : ∀ userId email purpose,
      (AuthService.issueVerificationToken userId email purpose).Respects R)
    (records : ∀ actor action, (AuditService.record actor action).Respects R)
    (app : Deployment)
    (email : String) :
    (AuthService.forgotPassword app email).Respects R := by
  refine Respects.bind (Respects.query _) fun found => ?_
  cases found with
  | none => exact Respects.pure ()
  | some user =>
      refine Respects.bind (issues _ _ _) fun _ => ?_
      exact records _ _

/-! ## Administrators -/

theorem reactivateUser
    {targetUserId : UserId}
    (updates : (UsersService.update targetUserId fun _ user =>
      { user with status := .active }).Respects R)
    (records : ∀ actor action, (AuditService.record actor action).Respects R)
    (adminUserId : UserId) :
    (AdminService.reactivateUser adminUserId targetUserId).Respects R := by
  refine Respects.bind (Respects.query _) fun found => ?_
  cases found with
  | none => exact Respects.throw _
  | some target =>
      refine Respects.ite (Respects.throw _) ?_
      exact Respects.bind updates fun _ => records _ _

theorem deleteUser
    {targetUserId : UserId}
    (updates : (UsersService.update targetUserId fun now user =>
      { user with
        status := .deleted
        deletedAt := some now
        email := AdminService.deletedEmail targetUserId }).Respects R)
    (revokes : (SessionsService.revokeAllForUser targetUserId).Respects R)
    (stores : ∀ world redis, R world { world with redis })
    (records : ∀ actor action, (AuditService.record actor action).Respects R)
    (app : Deployment)
    (adminUserId : UserId) :
    (AdminService.deleteUser app adminUserId targetUserId).Respects R := by
  refine Respects.ite (Respects.throw _) (Respects.bind (Respects.query _) fun found => ?_)
  cases found with
  | none => exact Respects.throw _
  | some target =>
      refine Respects.ite (Respects.throw _) ?_
      refine Respects.bind updates fun _ => ?_
      refine Respects.bind revokes fun _ => ?_
      refine Respects.bind (revokeUser stores app _) fun _ => ?_
      exact records _ _

end Footprint
end ConferenceContact
