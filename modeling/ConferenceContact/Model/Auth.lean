import ConferenceContact.Model.Sessions

/-!
# Authentication

`AuthService`, and the actions of `AdminService` that end a user's sessions.
-/

namespace ConferenceContact

open Process Service

/-! ## Requests and responses -/

/-- Where a request comes from: its address and the identifier in its device cookie. -/
structure RequestMeta where
  ipAddress : Option String := none
  rawDeviceId : String

/-- The body of a registration. -/
structure RegisterDto where
  email : String
  password : String

/-- The body of a login. -/
structure LoginDto where
  email : String
  password : String

/-- The body of an answer to a login challenge. -/
structure VerifyLoginDto where
  challengeToken : Jwt
  code : String

/-- The tokens a login or a refresh hands out. -/
structure TokenPair where
  accessToken : Jwt
  refreshToken : RawToken
  refreshTokenExpiresAt : Time
  deriving DecidableEq

/-- A login hands out tokens or asks for a code first. -/
inductive LoginResult
  | signedIn (tokens : TokenPair)
  | requiresVerification (method : LoginChallengeMethod) (challengeToken : Jwt)
  deriving DecidableEq

/-- How long a link to reset a password may be used. -/
def passwordResetExpiryHours : Nat := 1

/-- How long a link to verify an address may be used. -/
def emailVerificationExpiryHours : Nat := 24

/-- How long a login challenge may be answered. -/
def loginChallengeExpiryMinutes : Nat := 10

/-- How long after a rotation the old token may be presented once more. -/
def concurrentRefreshGraceSeconds : Nat := 15

/-- What is stored of the device cookie. -/
def hashDeviceId (rawDeviceId : String) : Sha256 String := ⟨rawDeviceId⟩

namespace EncryptionService

/-- `base64(iv):base64(tag):base64(ciphertext)`. -/
def encrypt (app : Deployment) (initializationVector plaintext : String) : String :=
  let (authTag, ciphertext) := app.aesGcmEncrypt initializationVector plaintext
  initializationVector ++ ":" ++ authTag ++ ":" ++ ciphertext

/-- Decrypt `base64(iv):base64(tag):base64(ciphertext)`. -/
def decrypt (app : Deployment) (payload : String) : Except ApiError String :=
  match payload.splitOn ":" with
  | iv :: authTag :: ciphertext :: _ =>
      if iv = "" ∨ authTag = "" ∨ ciphertext = "" then
        .error .malformedPayload
      else
        match app.aesGcmDecrypt iv authTag ciphertext with
        | some plaintext => .ok plaintext
        | none => .error .malformedPayload
  | _ => .error .malformedPayload

end EncryptionService

namespace AuthService

variable (app : Deployment)

/-! ## Issuing tokens -/

/-- Sign an access token for the configured time. -/
def signAccessToken (sub : UserId) (role : Role) : Service Jwt :=
  JwtService.signAsync (.access { sub, role }) app.jwtAccessExpirySeconds

/-- The lifetime of an impersonation token. -/
def impersonationExpirySeconds : Nat := 600

/-- An access token for a user that an administrator views the site as. -/
def signImpersonationToken
    (targetUserId : UserId)
    (targetRole : Role)
    (adminUserId : UserId) : Service Jwt :=
  JwtService.signAsync
    (.access { sub := targetUserId, role := targetRole, impersonatedBy := some adminUserId })
    impersonationExpirySeconds

/-- Sign a login challenge for ten minutes. -/
def signChallenge (payload : LoginChallengePayload) : Service Jwt :=
  JwtService.signAsync (.loginChallenge payload) (loginChallengeExpiryMinutes * 60)

/-- Complete a login: score it, make room, and create its session. -/
def issueTokenPair
    (userId : UserId)
    (deviceId : DeviceId)
    (requestMeta : RequestMeta)
    (isNewDevice : Bool) : Service TokenPair := do
  let some user ← UsersService.findById userId
    | throw (.unauthorized "Unauthorized")
  let isFirstLogin := user.lastLoginAt.isNone
  let country := GeoipService.country app requestMeta.ipAddress
  let risk ← RiskService.assess user.id isNewDevice country user.failedLoginCount
  SessionsService.enforceLimit app user.id
  let accessToken ← signAccessToken app user.id user.role
  let (rawToken, session) ← SessionsService.create app
    { userId := user.id
      deviceId := some deviceId
      country
      riskScore := risk.score
      riskSignals := some risk.signals }
  let _ ← UsersService.updateLastLogin user.id
  if isFirstLogin then
    EmailService.enqueue (.welcome user.email)
  AuditService.record (some user.id) .authLogin
  if app.riskHighThreshold ≤ risk.score then
    AuditService.record (some user.id) .authHighRiskLogin
  return {
    accessToken
    refreshToken := rawToken
    refreshTokenExpiresAt := session.expiresAt }

/-! ## Login -/

/-- The one answer to a wrong address and to a wrong password. -/
def genericError : ApiError := .unauthorized "Invalid email or password"

/-- The account a password is accepted for.  A locked or inactive account is
refused before its password is looked at, and a wrong password is counted. -/
def checkPassword (dto : LoginDto) : Service User := do
  let some user ← UsersService.findByEmail app dto.email
    | throw genericError
  let now ← dateNow
  if UsersService.isLocked now user then
    throw (.unauthorized "Too many failed login attempts. Try again later.")
  if user.status ≠ .active then
    throw (.unauthorized
      "This account is not active. Contact us if you believe this is a mistake.")
  if app.argon2Verify user.passwordHash dto.password then
    UsersService.resetFailedLogins user.id
    return user
  else
    let locked ← UsersService.registerFailedLogin app user.id
    AuditService.record (some user.id) .authLoginFailed
    if locked then
      throw (.unauthorized
        "Too many failed login attempts. This account is temporarily locked.")
    throw genericError

/-- Pause a login from a device the account has not used before. -/
def challenge (user : User) (device : Device) : Service LoginResult := do
  if user.twoFactorEnabled then
    let challengeToken ← signChallenge
      { sub := user.id, deviceId := device.id, method := .totp, codeHash := none }
    AuditService.record (some user.id) .authNewDeviceChallenge
    return .requiresVerification .totp challengeToken
  let code ← query fun input _ => input.numericCode
  let challengeToken ← signChallenge
    { sub := user.id
      deviceId := device.id
      method := .emailCode
      codeHash := some ⟨code⟩ }
  EmailService.enqueue (.deviceCode user.email code)
  AuditService.record (some user.id) .authNewDeviceChallenge
  return .requiresVerification .emailCode challengeToken

/-- Sign in from a device that is known, and challenge one that is new. -/
def login (dto : LoginDto) (requestMeta : RequestMeta) : Service LoginResult := do
  let user ← checkPassword app dto
  let (device, isNew) ← DevicesService.findOrCreateDevice user.id
    (hashDeviceId requestMeta.rawDeviceId)
  if isNew then
    challenge user device
  else
    let tokenPair ← issueTokenPair app user.id device.id requestMeta false
    return .signedIn tokenPair

/-- Whether a code answers a challenge. -/
def codeValid
    (user : User)
    (payload : LoginChallengePayload)
    (code : String) : Service Bool := do
  match payload.method with
  | .totp =>
      let some encrypted := user.twoFactorSecret.filter (· ≠ "")
        | throw (.unauthorized "2FA is not set up on this account")
      match EncryptionService.decrypt app encrypted with
      | .error error => throw error
      | .ok secret =>
          let now ← dateNow
          return app.verifyTotp code secret now
  | .emailCode =>
      let some codeHash := payload.codeHash
        | throw (.unauthorized "Invalid verification token")
      return decide (codeHash = ⟨code⟩)

/-- The account and the challenge of an accepted code. -/
def checkChallenge
    (dto : VerifyLoginDto) : Service (User × LoginChallengePayload) := do
  let some payload ← JwtService.verifyAsync dto.challengeToken
    | throw (.unauthorized "Verification expired — please log in again")
  let .loginChallenge payload := payload
    | throw (.unauthorized "Invalid verification token")
  let some user ← UsersService.findById payload.sub
    | throw (.unauthorized "Account not found")
  let withinAttemptCap ← TokenRevocationService.registerChallengeAttempt
    dto.challengeToken (loginChallengeExpiryMinutes * 60)
  if !withinAttemptCap then
    throw (.unauthorized "Too many attempts — please log in again")
  let valid ← codeValid app user payload dto.code
  if !valid then
    AuditService.record (some user.id) .authDeviceVerificationFailed
    throw (.unauthorized "Invalid code")
  return (user, payload)

/-- Sign in with the code that a challenge has asked for. -/
def verifyLogin
    (dto : VerifyLoginDto)
    (requestMeta : RequestMeta) : Service TokenPair := do
  let (user, payload) ← checkChallenge app dto
  if payload.method = .emailCode ∧ user.emailVerifiedAt = none then
    let _ ← UsersService.markEmailVerified user.id
  issueTokenPair app user.id payload.deviceId requestMeta true

/-! ## Session lifecycle -/

/-- The answer to a session that cannot be refreshed. -/
def sessionExpired : ApiError :=
  .unauthorized "Session expired — please log in again"

/-- The live successor of a session rotated within the grace window, if the
presented token is that of such a session. -/
def concurrentSuccessor (anySession : Option Session) : Service (Option Session) := do
  let some anySession := anySession | return none
  let some revokedAt := anySession.revokedAt | return none
  let some replacedByTokenId := anySession.replacedByTokenId | return none
  let now ← dateNow
  if now - revokedAt ≤ concurrentRefreshGraceSeconds * 1000 then
    let successor ← SessionsService.findById replacedByTokenId
    let now ← dateNow
    return successor.filter fun successor => successor.live now
  else
    return none

/-- The session a presented refresh token stands for.  A revoked token outside
the grace window ends every session of its user. -/
def sessionToRotate (rawRefreshToken : RawToken) : Service Session := do
  let session ← SessionsService.findActiveByRawToken rawRefreshToken
  match session with
  | some session => return session
  | none =>
      let anySession ← SessionsService.findAnyByRawToken rawRefreshToken
      let successor ← concurrentSuccessor anySession
      match successor with
      | some successor => return successor
      | none =>
          match anySession with
          | some anySession =>
              if anySession.revokedAt.isSome then
                SessionsService.revokeAllForUser anySession.userId
                AuditService.record (some anySession.userId)
                  .authRefreshTokenReuseDetected
              throw sessionExpired
          | none => throw sessionExpired

/-- Rotate the session of an active account and sign its new access token. -/
def rotateAndSign (user : User) (session : Session) : Service TokenPair := do
  let (rawToken, newSession) ← SessionsService.rotate app session
  let accessToken ← signAccessToken app user.id user.role
  return {
    accessToken
    refreshToken := rawToken
    refreshTokenExpiresAt := newSession.expiresAt }

/-- The part of a refresh after its session has been found. -/
def refreshSession (session : Session) : Service TokenPair := do
  let user ← UsersService.findById session.userId
  match user with
  | some user =>
      if user.status = .active then
        rotateAndSign app user session
      else
        SessionsService.revoke session.id
        throw (.unauthorized "Account is not active")
  | none =>
      SessionsService.revoke session.id
      throw (.unauthorized "Account is not active")

/-- Rotate the session of a refresh token. -/
def refresh (rawRefreshToken : RawToken) : Service TokenPair := do
  let session ← sessionToRotate rawRefreshToken
  refreshSession app session

/-- End the session of a refresh token, if it is live. -/
def logout (rawRefreshToken : RawToken) : Service Unit := do
  let session ← SessionsService.findActiveByRawToken rawRefreshToken
  match session with
  | some session =>
      SessionsService.revoke session.id
      AuditService.record (some session.userId) .authLogout
  | none => return ()

/-- End every session of an account and reject its access tokens. -/
def logoutAll (userId : UserId) : Service Unit := do
  SessionsService.revokeAllForUser userId
  TokenRevocationService.revokeUser app userId
  AuditService.record (some userId) .authLogoutAll

/-! ## Password reset -/

/-- Replace the unused tokens of a purpose by a new one and mail it. -/
def issueVerificationToken
    (userId : UserId)
    (email : String)
    (purpose : VerificationTokenPurpose) : Service Unit := do
  command fun input world =>
    { world with
      verificationTokens := Table.updateWhere
        (fun token =>
          token.userId = userId ∧ token.purpose = purpose ∧ token.usedAt = none)
        (fun token => { token with usedAt := some input.now })
        world.verificationTokens }
  let rawToken ← generateOpaqueToken
  let hours :=
    match purpose with
    | .emailVerification => emailVerificationExpiryHours
    | .passwordReset => passwordResetExpiryHours
  command fun input world =>
    { world with
      verificationTokens :=
        { id := world.nextId
          userId
          tokenHash := ⟨rawToken⟩
          purpose
          expiresAt := input.now + hours * 3600000 } :: world.verificationTokens
      nextId := world.nextId + 1 }
  EmailService.enqueue
    (match purpose with
    | .emailVerification => .verification email rawToken
    | .passwordReset => .passwordReset email rawToken)

/-- Use up a token; a wrong, used or expired one is refused. -/
def consumeVerificationToken
    (rawToken : RawToken)
    (purpose : VerificationTokenPurpose) : Service VerificationToken := do
  let token ← query fun _ world =>
    world.verificationTokens.find? fun token => token.tokenHash = ⟨rawToken⟩
  let some token := token
    | throw (.badRequest "Invalid or expired link")
  if token.purpose ≠ purpose then
    throw (.badRequest "Invalid or expired link")
  if token.usedAt.isSome then
    throw (.badRequest "This link has already been used")
  let now ← dateNow
  if token.expiresAt < now then
    throw (.badRequest "This link has expired")
  command fun input world =>
    { world with
      verificationTokens := Table.updateWhere (fun other => other.id = token.id)
        (fun other => { other with usedAt := some input.now })
        world.verificationTokens }
  return token

/-- Email a link to reset the password, if the address has an account. -/
def forgotPassword (email : String) : Service Unit := do
  let user ← UsersService.findByEmail app email
  match user with
  | some user =>
      issueVerificationToken user.id user.email .passwordReset
      AuditService.record (some user.id) .authPasswordResetRequested
  | none => return ()

/-- Set a new password for an emailed token and end every session. -/
def resetPassword (rawToken : RawToken) (newPassword : String) : Service Unit := do
  let token ← consumeVerificationToken rawToken .passwordReset
  let _ ← UsersService.updatePasswordHash token.userId (app.argon2Hash newPassword)
  SessionsService.revokeAllForUser token.userId
  TokenRevocationService.revokeUser app token.userId
  AuditService.record (some token.userId) .authPasswordResetCompleted

/-- Mark an address verified for an emailed token. -/
def verifyEmail (rawToken : RawToken) : Service Unit := do
  let token ← consumeVerificationToken rawToken .emailVerification
  let _ ← UsersService.markEmailVerified token.userId
  AuditService.record (some token.userId) .authEmailVerified

/-! ## Registration -/

/-- The transaction of a registration: the account, with what a pending invite of its
address grants, and the acceptance of that invite. -/
def createAccount (normalizedEmail passwordHash : String) : Service User :=
  attempt fun input world =>
    if world.users.any fun user => user.email = normalizedEmail then
      .error .uniqueViolation
    else
      let created : User := { id := world.nextId, email := normalizedEmail, passwordHash }
      let accessInvite := Table.findFirst input.anyRow
        (fun invite => invite.email = normalizedEmail ∧ invite.status = .pending)
        world.adminAccessInvites
      match accessInvite with
      | some accessInvite =>
          let created :=
            { created with
              role := accessInvite.role
              adminGrantedDirectoryAccess := accessInvite.grantDirectoryAccess
              adminGrantedLeadFinderAccess := accessInvite.grantLeadFinderAccess }
          .ok (created,
            { world with
              users := created :: world.users
              adminAccessInvites := Table.updateWhere
                (fun invite => invite.id = accessInvite.id)
                (fun invite =>
                  { invite with status := .accepted, acceptedAt := some input.now })
                world.adminAccessInvites
              nextId := world.nextId + 1 })
      | none =>
          .ok (created,
            { world with users := created :: world.users, nextId := world.nextId + 1 })

/-- Create an account whose address is still to be verified. -/
def register (dto : RegisterDto) : Service Unit := do
  let existing ← UsersService.findByEmail app dto.email
  if existing.isSome then
    throw (.conflict "An account with this email already exists")
  let passwordHash := app.argon2Hash dto.password
  let user ← createAccount (UsersService.normalizeEmail app dto.email) passwordHash
  AuditService.record (some user.id) .authRegister

/-! ## Two-factor authentication -/

/-- What a user needs to set up an authenticator app. -/
structure TwoFactorSetup where
  secret : String
  otpauthUrl : String
  qrCodeDataUrl : String
  deriving DecidableEq

/-- Store a new secret for an authenticator, which a confirmation is to enable. -/
def start2fa (userId : UserId) : Service TwoFactorSetup := do
  let some user ← UsersService.findById userId
    | throw (.unauthorized "Unauthorized")
  if user.twoFactorEnabled then
    throw (.badRequest "Two-factor authentication is already enabled")
  let (secret, initializationVector) ← query fun input _ =>
    (input.totpSecret, input.initializationVector)
  let _ ← UsersService.setTwoFactorSecret userId
    (EncryptionService.encrypt app initializationVector secret)
  let otpauthUrl := app.generateTotpUri "conference.contact" user.email secret
  let qrCodeDataUrl ← query fun _ _ => app.qrcodeToDataUrl otpauthUrl
  return { secret, otpauthUrl, qrCodeDataUrl }

/-- Enable two-factor authentication for a code made with the stored secret. -/
def confirm2fa (userId : UserId) (code : String) : Service Unit := do
  let user ← UsersService.findById userId
  let some encrypted := (user.bind (·.twoFactorSecret)).filter (· ≠ "")
    | throw (.badRequest "Start 2FA setup before confirming it")
  match EncryptionService.decrypt app encrypted with
  | .error error => throw error
  | .ok secret =>
      let now ← dateNow
      if app.verifyTotp code secret now then
        let _ ← UsersService.enableTwoFactor userId
        AuditService.record (some userId) .auth2faEnabled
      else
        throw (.unauthorized "Invalid code")

/-- Disable two-factor authentication for the password. -/
def disable2fa (userId : UserId) (password : String) : Service Unit := do
  let some user ← UsersService.findById userId
    | throw (.unauthorized "Unauthorized")
  if app.argon2Verify user.passwordHash password then
    let _ ← UsersService.disableTwoFactor userId
    AuditService.record (some userId) .auth2faDisabled
  else
    throw (.unauthorized "Incorrect password")

/-! ## Devices -/

/-- Trust a device of the account. -/
def trustDevice (userId : UserId) (deviceId : DeviceId) : Service Device := do
  let device ← DevicesService.trust app userId deviceId
  AuditService.record (some userId) .authDeviceTrusted
  return device

/-- Forget a device of the account. -/
def removeDevice (userId : UserId) (deviceId : DeviceId) : Service Unit := do
  DevicesService.remove userId deviceId
  AuditService.record (some userId) .authDeviceRemoved

end AuthService

namespace AdminService

variable (app : Deployment)

/-- Suspend another account that is active, and end its sessions. -/
def suspendUser (adminUserId targetUserId : UserId) : Service Unit := do
  if adminUserId = targetUserId then
    throw (.forbidden "You cannot suspend your own account")
  let some target ← UsersService.findById targetUserId
    | throw (.notFound "User not found")
  if target.status ≠ .active then
    throw (.badRequest
      ("Cannot suspend an account with status " ++ target.status.text))
  let _ ← UsersService.update targetUserId fun _ user =>
    { user with status := .suspended }
  SessionsService.revokeAllForUser targetUserId
  TokenRevocationService.revokeUser app targetUserId
  AuditService.record (some adminUserId) .adminUserSuspended

/-- Lift a suspension. -/
def reactivateUser (adminUserId targetUserId : UserId) : Service Unit := do
  let some target ← UsersService.findById targetUserId
    | throw (.notFound "User not found")
  if target.status ≠ .suspended then
    throw (.badRequest
      ("Cannot reactivate an account with status " ++ target.status.text))
  let _ ← UsersService.update targetUserId fun _ user =>
    { user with status := .active }
  AuditService.record (some adminUserId) .adminUserReactivated

/-- The address a deleted account's row keeps. -/
def deletedEmail (userId : UserId) : String :=
  "deleted-" ++ toString userId ++ "@deleted.invalid"

/-- Delete another account, giving up its address, and end its sessions. -/
def deleteUser (adminUserId targetUserId : UserId) : Service Unit := do
  if adminUserId = targetUserId then
    throw (.forbidden "You cannot delete your own account")
  let some target ← UsersService.findById targetUserId
    | throw (.notFound "User not found")
  if target.status = .deleted then
    throw (.badRequest "This account is already deleted")
  let _ ← UsersService.update targetUserId fun now user =>
    { user with
      status := .deleted
      deletedAt := some now
      email := deletedEmail targetUserId }
  SessionsService.revokeAllForUser targetUserId
  TokenRevocationService.revokeUser app targetUserId
  AuditService.record (some adminUserId) .adminUserDeleted

/-- Sign an access token for an account that is active and no administrator's;
the result is the token and the account's email. -/
def impersonateUser (adminUserId targetUserId : UserId) : Service (Jwt × String) := do
  if adminUserId = targetUserId then
    throw (.forbidden "You cannot impersonate your own account")
  let some target ← UsersService.findById targetUserId
    | throw (.notFound "User not found")
  if target.role = .admin ∨ target.role = .superAdmin then
    throw (.forbidden "Cannot impersonate an admin account")
  if target.status ≠ .active then
    throw (.badRequest
      ("Cannot impersonate an account with status " ++ target.status.text))
  let accessToken ← AuthService.signImpersonationToken target.id target.role adminUserId
  AuditService.record (some adminUserId) .adminUserImpersonated
  return (accessToken, target.email)

/-- End every session of an account. -/
def forceLogout (adminUserId targetUserId : UserId) : Service Unit := do
  let some _ ← UsersService.findById targetUserId
    | throw (.notFound "User not found")
  SessionsService.revokeAllForUser targetUserId
  TokenRevocationService.revokeUser app targetUserId
  AuditService.record (some adminUserId) .adminUserForceLogout

/-- The body of an invitation; what is left out has the default of the service. -/
structure InviteUserDto where
  email : String
  role : Option Role := none
  grantDirectoryAccess : Option Bool := none
  grantLeadFinderAccess : Option Bool := none

/-- Arrange access for an address without an account; a pending invite of the address is
updated instead of a second one being made. -/
def inviteUser (adminUserId : UserId) (dto : InviteUserDto) : Service Unit := do
  let email := UsersService.normalizeEmail app dto.email
  let existingUser ← query fun _ world => world.users.find? fun user => user.email = email
  if existingUser.isSome then
    throw (.badRequest
      ("This email already has an account — grant or revoke Directory access on their " ++
        "existing user instead."))
  let pending ← query fun input world =>
    Table.findFirst input.anyRow
      (fun invite => invite.email = email ∧ invite.status = .pending)
      world.adminAccessInvites
  let role := dto.role.getD .user
  let grantDirectoryAccess := dto.grantDirectoryAccess.getD true
  let grantLeadFinderAccess := dto.grantLeadFinderAccess.getD false
  match pending with
  | some pending =>
      attempt fun _ world =>
        if world.adminAccessInvites.any fun invite => invite.id = pending.id then
          if world.users.any fun user => user.id = adminUserId then
            .ok ((),
              { world with
                adminAccessInvites := Table.updateWhere (fun invite => invite.id = pending.id)
                  (fun invite =>
                    { invite with
                      invitedByUserId := adminUserId
                      role
                      grantDirectoryAccess
                      grantLeadFinderAccess })
                  world.adminAccessInvites })
          else .error .foreignKeyViolation
        else .error .recordNotFound
  | none =>
      attempt fun _ world =>
        if world.users.any fun user => user.id = adminUserId then
          .ok ((),
            { world with
              adminAccessInvites :=
                { id := world.nextId
                  invitedByUserId := adminUserId
                  email
                  role
                  grantDirectoryAccess
                  grantLeadFinderAccess } :: world.adminAccessInvites
              nextId := world.nextId + 1 })
        else .error .foreignKeyViolation
  EmailService.enqueue
    (.adminAccessInvite email grantDirectoryAccess grantLeadFinderAccess)
  AuditService.record (some adminUserId) .adminUserInvited

end AdminService

/-! ## The guards -/

namespace JwtAuthGuard

/-- The payload a request is served with; a public route is served without one. -/
def canActivate (isPublic : Bool) (token : Option Jwt) : Service (Option AccessTokenPayload) := do
  if isPublic then
    return none
  else
    let some token := token
      | throw (.unauthorized "Missing access token")
    let some payload ← JwtService.verifyAsync token
      | throw (.unauthorized "Invalid or expired access token")
    let .access payload := payload
      | throw (.unauthorized "Invalid token type")
    if (← TokenRevocationService.isRevoked payload.sub) then
      throw (.unauthorized "Access has been revoked")
    return some payload

end JwtAuthGuard

namespace RolesGuard

/-- A route with required roles is served to these roles only. -/
def canActivate (required : List Role) (user : Option AccessTokenPayload) : Service Bool := do
  if required = [] then
    return true
  else
    let some user := user
      | throw (.unauthorized "Unauthorized")
    if user.role ∈ required then
      return true
    else
      throw (.forbidden "Insufficient permissions")

end RolesGuard
end ConferenceContact
