import ConferenceContact.Foundation.Table
import ConferenceContact.Model.Service

/-!
# Users, devices and sessions

`UsersService`, `DevicesService`, `SessionsService` and `RiskService`.
-/

namespace ConferenceContact

open Process Service

/-- The characters `String.prototype.trim` removes: white space and line
terminators. -/
def isJsWhitespace (character : Char) : Bool :=
  let code := character.toNat
  (0x09 ≤ code && code ≤ 0x0D) || code = 0x20 || code = 0xA0 || code = 0x1680 ||
    (0x2000 ≤ code && code ≤ 0x200A) || code = 0x2028 || code = 0x2029 ||
    code = 0x202F || code = 0x205F || code = 0x3000 || code = 0xFEFF

/-- `String.prototype.trim`. -/
def jsTrim (text : String) : String :=
  String.ofList
    ((text.toList.dropWhile isJsWhitespace).reverse.dropWhile isJsWhitespace).reverse

/-! ## Users -/

namespace UsersService

variable (app : Deployment)

/-- Every lookup and write of an email goes through this. -/
def normalizeEmail (email : String) : String :=
  app.toLowerCase (jsTrim email)

/-- The account of an address, in whatever case it is given. -/
def findByEmail (email : String) : Service (Option User) :=
  query fun _ world =>
    world.users.find? fun user => user.email = normalizeEmail app email

/-- The account of an identifier. -/
def findById (id : UserId) : Service (Option User) :=
  query fun _ world => world.users.find? fun user => user.id = id

/-- `user.update` of one row, returning the row as updated. -/
def update (id : UserId) (rewrite : Time → User → User) : Service User :=
  attempt fun input world =>
    match world.users.find? fun user => user.id = id with
    | none => .error .recordNotFound
    | some user =>
        .ok (rewrite input.now user,
          { world with
            users := Table.updateWhere (fun other => other.id = id)
              (rewrite input.now) world.users })

/-- Note when an address was verified. -/
def markEmailVerified (id : UserId) : Service User :=
  update id fun now user => { user with emailVerifiedAt := some now }

/-- Replace the password. -/
def updatePasswordHash (id : UserId) (passwordHash : String) : Service User :=
  update id fun _ user => { user with passwordHash }

/-- Note when the user has logged in. -/
def updateLastLogin (id : UserId) : Service User :=
  update id fun now user => { user with lastLoginAt := some now }

/-- Store a secret, encrypted; it counts once two-factor authentication is enabled. -/
def setTwoFactorSecret (id : UserId) (encryptedSecret : String) : Service User :=
  update id fun _ user => { user with twoFactorSecret := some encryptedSecret }

/-- Ask for a code of the stored secret from now on. -/
def enableTwoFactor (id : UserId) : Service User :=
  update id fun _ user => { user with twoFactorEnabled := true }

/-- Ask for no code any more, and forget the secret. -/
def disableTwoFactor (id : UserId) : Service User :=
  update id fun _ user => { user with twoFactorEnabled := false, twoFactorSecret := none }

/-- Whether too many wrong passwords have locked an account for now. -/
def isLocked (now : Time) (user : User) : Bool :=
  match user.lockedUntil with
  | none => false
  | some lockedUntil => now < lockedUntil

/-- Count a failed password check; at the threshold the account locks and the
counter starts again. -/
def registerFailedLogin (id : UserId) : Service Bool := do
  let user ← update id fun _ user =>
    { user with failedLoginCount := user.failedLoginCount + 1 }
  if app.loginMaxAttempts ≤ user.failedLoginCount then
    let _ ← update id fun now user =>
      { user with
        failedLoginCount := 0
        lockedUntil := some (now + app.loginLockoutMinutes * 60000) }
    return true
  return false

/-- Forget the wrong passwords and lift the lock. -/
def resetFailedLogins (id : UserId) : Service Unit := do
  let _ ← update id fun _ user =>
    { user with failedLoginCount := 0, lockedUntil := none }

end UsersService

/-! ## Devices -/

namespace DevicesService

/-- `device.update` of `lastSeenAt`. -/
def touch (id : DeviceId) : Service Device :=
  attempt fun input world =>
    match world.devices.find? fun device => device.id = id with
    | none => .error .recordNotFound
    | some device =>
        .ok ({ device with lastSeenAt := input.now },
          { world with
            devices := Table.updateWhere (fun other => other.id = id)
              (fun other => { other with lastSeenAt := input.now })
              world.devices })

/-- `device.create`; a user has one device for a fingerprint. -/
def create (userId : UserId) (fingerprint : Sha256 String) : Service Device :=
  attempt fun input world =>
    let device : Device :=
      { id := world.nextId, userId, fingerprint, lastSeenAt := input.now }
    if world.devices.any fun other =>
        other.userId = userId ∧ other.fingerprint = fingerprint then
      .error .uniqueViolation
    else
      .ok (device,
        { world with
          devices := device :: world.devices
          nextId := world.nextId + 1 })

/-- The device of a user with a fingerprint, and whether this call created it. -/
def findOrCreateDevice
    (userId : UserId)
    (fingerprint : Sha256 String) : Service (Device × Bool) := do
  let existing ← query fun _ world =>
    world.devices.find? fun device =>
      device.userId = userId ∧ device.fingerprint = fingerprint
  match existing with
  | some device =>
      let device ← touch device.id
      return (device, false)
  | none =>
      let device ← create userId fingerprint
      return (device, true)

/-- Trust a device of a user, up to a number of them. -/
def trust (app : Deployment) (userId : UserId) (deviceId : DeviceId) : Service Device := do
  let device ← query fun _ world =>
    world.devices.find? fun device => device.id = deviceId
  match device with
  | none => throw (.notFound "Device not found")
  | some device =>
      if device.userId ≠ userId then
        throw (.notFound "Device not found")
      let trustedCount ← query fun _ world =>
        world.devices.countP fun device => device.userId = userId ∧ device.isTrusted
      if app.maxTrustedDevices ≤ trustedCount then
        throw (.forbidden ("You can have at most " ++ toString app.maxTrustedDevices ++
          " trusted devices. Remove one first."))
      attempt fun input world =>
        let rewrite (device : Device) : Device :=
          { device with isTrusted := true, trustedAt := some input.now }
        match world.devices.find? fun device => device.id = deviceId with
        | none => .error .recordNotFound
        | some device =>
            .ok (rewrite device,
              { world with
                devices := Table.updateWhere (fun other => other.id = deviceId) rewrite
                  world.devices })

/-- Delete a device of a user, ending every session tied to it.  A session's
reference to a deleted device becomes null. -/
def remove (userId : UserId) (deviceId : DeviceId) : Service Unit := do
  let device ← query fun _ world =>
    world.devices.find? fun device => device.id = deviceId
  match device with
  | none => throw (.notFound "Device not found")
  | some device =>
      if device.userId ≠ userId then
        throw (.notFound "Device not found")
      command fun input world =>
        { world with
          sessions :=
            (Table.updateWhere
              (fun session =>
                session.deviceId = some deviceId ∧ session.revokedAt = none)
              (fun session => { session with revokedAt := some input.now })
              world.sessions).map fun session =>
                if session.deviceId = some deviceId then
                  { session with deviceId := none }
                else session
          devices := world.devices.filter fun device => device.id ≠ deviceId }

end DevicesService

/-! ## Sessions -/

/-- Unrevoked and unexpired. -/
def Session.live (now : Time) (session : Session) : Bool :=
  session.revokedAt.isNone && now < session.expiresAt

/-- What a caller chooses about a new session. -/
structure CreateSessionInput where
  userId : UserId
  deviceId : Option DeviceId
  country : Option String := none
  riskScore : Nat := 0
  riskSignals : Option RiskSignals := none

namespace SessionsService

variable (app : Deployment)

/-- Make room for one more session by ending the oldest live ones. -/
def enforceLimit (userId : UserId) : Service Unit := do
  let active ← query fun input world =>
    (world.sessions.filter fun session =>
      session.userId = userId && session.live input.now).reverse.map (·.id)
  let overBy := active.length + 1 - app.maxTrustedDevices
  if 0 < overBy then
    let evicted := active.take overBy
    command fun input world =>
      { world with
        sessions := Table.updateWhere (fun session => session.id ∈ evicted)
          (fun session => { session with revokedAt := some input.now })
          world.sessions }

/-- Insert a session under a fresh token.  The database rejects a reference to
a device that does not exist. -/
def create (input : CreateSessionInput) : Service (RawToken × Session) :=
  attempt fun call world =>
    let session : Session :=
      { id := world.nextId + 1
        userId := input.userId
        deviceId := input.deviceId
        tokenHash := ⟨world.nextId⟩
        country := input.country
        riskScore := input.riskScore
        riskSignals := input.riskSignals
        createdAt := call.now
        expiresAt := call.now + app.refreshTokenExpiryDays * 86400000 }
    if input.deviceId.all fun deviceId =>
        world.devices.any fun device => device.id = deviceId then
      .ok ((world.nextId, session),
        { world with
          sessions := session :: world.sessions
          nextId := world.nextId + 2 })
    else .error .foreignKeyViolation

/-- The live session of a refresh token. -/
def findActiveByRawToken (rawToken : RawToken) : Service (Option Session) :=
  query fun input world =>
    world.sessions.find? fun session =>
      session.tokenHash = ⟨rawToken⟩ && session.live input.now

/-- The session of a refresh token, live or not. -/
def findAnyByRawToken (rawToken : RawToken) : Service (Option Session) :=
  query fun _ world =>
    world.sessions.find? fun session => session.tokenHash = ⟨rawToken⟩

/-- The session of an identifier. -/
def findById (id : SessionId) : Service (Option Session) :=
  query fun _ world => world.sessions.find? fun session => session.id = id

/-- `session.update` of one row. -/
def update (id : SessionId) (rewrite : Time → Session → Session) : Service Unit :=
  attempt fun input world =>
    if world.sessions.any fun session => session.id = id then
      .ok ((),
        { world with
          sessions := Table.updateWhere (fun session => session.id = id)
            (rewrite input.now) world.sessions })
    else .error .recordNotFound

/-- Issue a successor of a session and revoke the session in its favour. -/
def rotate (oldSession : Session) : Service (RawToken × Session) := do
  let (rawToken, session) ← create app
    { userId := oldSession.userId, deviceId := oldSession.deviceId }
  update oldSession.id fun now row =>
    { row with revokedAt := some now, replacedByTokenId := some session.id }
  return (rawToken, session)

/-- End a session. -/
def revoke (sessionId : SessionId) : Service Unit :=
  update sessionId fun now row => { row with revokedAt := some now }

/-- The "log out everywhere" and theft-response action. -/
def revokeAllForUser (userId : UserId) : Service Unit :=
  command fun input world =>
    { world with
      sessions := Table.updateWhere
        (fun session => session.userId = userId ∧ session.revokedAt = none)
        (fun session => { session with revokedAt := some input.now })
        world.sessions }

end SessionsService

/-! ## Risk -/

/-- How suspicious a login is, and why. -/
structure RiskAssessment where
  score : Nat
  signals : RiskSignals

namespace GeoipService

/-- The country of an address; null for a missing or unresolvable one. -/
def country (app : Deployment) (ipAddress : Option String) : Option String :=
  match ipAddress with
  | none => none
  | some address =>
      if address = "" then none
      else if address = "::1" then app.geoipCountry "127.0.0.1"
      else if "::ffff:".toList.isPrefixOf address.toList then
        app.geoipCountry (String.ofList (address.toList.drop 7))
      else app.geoipCountry address

end GeoipService

namespace RiskService

/-- How many sessions a login is compared with. -/
def recentSessionsLookback : Nat := 5

/-- How soon a login from another country is impossible travel. -/
def impossibleTravelWindowMs : Nat := 60 * 60 * 1000

/-- The points for the country of a login against the user's recent sessions. -/
def countrySignals
    (now : Time)
    (country : String)
    (recentSessions : List Session) : Nat × RiskSignals :=
  match recentSessions with
  | [] => (0, {})
  | mostRecent :: _ =>
      let knownCountries := (recentSessions.filterMap (·.country)).eraseDups
      let newCountry := !knownCountries.isEmpty && !knownCountries.contains country
      let elapsed := now - mostRecent.createdAt
      let impossibleTravel :=
        match mostRecent.country with
        | none => none
        | some fromCountry =>
            if fromCountry ≠ "" ∧ fromCountry ≠ country ∧
                elapsed < impossibleTravelWindowMs then
              some (fromCountry, country, (elapsed + 30000) / 60000)
            else none
      ((if newCountry then 25 else 0) + (if impossibleTravel.isSome then 50 else 0),
        { newCountry := if newCountry then some (country, knownCountries) else none
          impossibleTravel })

/-- `countrySignals` of the latest sessions, or nothing for an unknown country. -/
def assessCountry
    (userId : UserId)
    (country : Option String) : Service (Nat × RiskSignals) :=
  match country with
  | none => return (0, {})
  | some country =>
      if country = "" then return (0, {})
      else
        query fun input world =>
          countrySignals input.now country
            ((world.sessions.filter fun session => session.userId = userId).take
              recentSessionsLookback)

/-- Score a login from its device, its country and the failed attempts before
it. -/
def assess
    (userId : UserId)
    (isNewDevice : Bool)
    (country : Option String)
    (failedLoginCount : Nat) : Service RiskAssessment := do
  let deviceScore := if isNewDevice then 30 else 0
  let (countryScore, signals) ← assessCountry userId country
  let failedScore := if 0 < failedLoginCount then min (failedLoginCount * 5) 20 else 0
  return {
    score := deviceScore + countryScore + failedScore
    signals :=
      { signals with
        newDevice := isNewDevice
        recentFailedLogins :=
          if 0 < failedLoginCount then some failedLoginCount else none } }

end RiskService
end ConferenceContact
