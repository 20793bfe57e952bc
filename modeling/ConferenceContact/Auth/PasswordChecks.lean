import ConferenceContact.Auth.Footprints
import ConferenceContact.Auth.UserRows
import ConferenceContact.Foundation.Lockout

/-!
# Password checks and lockout

A login looks at the password only of an active account that is not locked, and each
account with its counter and its lock moves as a lockout does.  Nothing else of a login
touches the counter, the lock or what a password is checked against.
-/

namespace ConferenceContact

open Process

/-! ## Credentials -/

/-- What a login is decided by. -/
structure Credentials where
  id : UserId
  email : String
  passwordHash : String
  status : AccountStatus
  lockout : Lockout
  deriving DecidableEq

/-- What a check of the password reads of an account. -/
def User.credentials (user : User) : Credentials where
  id := user.id
  email := user.email
  passwordHash := user.passwordHash
  status := user.status
  lockout := ⟨user.failedLoginCount, user.lockedUntil⟩

/-- What a check of the password reads. -/
def World.credentials (world : World) : List Credentials :=
  world.users.map User.credentials

/-- The credentials of the account with an address. -/
def World.account (world : World) (email : String) : Option Credentials :=
  world.credentials.find? fun account => account.email = email

/-- No account has changed in what a login is decided by. -/
def SameCredentials (before after : World) : Prop :=
  after.credentials = before.credentials

instance : IsPreorder World SameCredentials where
  refl _ := rfl
  trans _ _ _ first second := second.trans first

variable {app : Deployment} {input : Input} {world before after : World}

theorem account_eq (world : World) (email : String) :
    world.account email =
      (world.users.find? fun user => user.email = email).map User.credentials := by
  unfold World.account World.credentials
  rw [List.find?_map]
  rfl

theorem isLocked_eq (now : Time) (user : User) :
    UsersService.isLocked now user = user.credentials.lockout.locked now := by
  unfold UsersService.isLocked Lockout.locked User.credentials
  cases user.lockedUntil <;> simp

/-- Rewriting the rows of an id that keeps what a login is decided by. -/
theorem sameCredentials_update
    (id : UserId)
    {rewrite : Time → User → User}
    (kept : ∀ now user, (rewrite now user).credentials = user.credentials) :
    (UsersService.update id rewrite).Respects SameCredentials :=
  Footprint.updateUser fun now _ => Table.map_updateWhere _ _ _ _ (kept now)

theorem sameCredentials_record (actor : Option UserId) (action : AuditAction) :
    (AuditService.record actor action).Respects SameCredentials :=
  Respects.command fun _ _ => rfl

theorem sameCredentials_enqueue (job : EmailJob) :
    (EmailService.enqueue job).Respects SameCredentials :=
  Footprint.enqueue (fun _ _ => rfl) job

theorem sameCredentials_signAsync (payload : JwtPayload) (expiresIn : Nat) :
    (JwtService.signAsync payload expiresIn).Respects SameCredentials :=
  Footprint.signAsync (fun _ _ => rfl) payload expiresIn

theorem sameCredentials_findOrCreateDevice (userId : UserId) (fingerprint : Sha256 String) :
    (DevicesService.findOrCreateDevice userId fingerprint).Respects SameCredentials :=
  Footprint.findOrCreateDevice (fun _ _ => rfl) (fun _ _ => rfl) userId fingerprint

theorem sameCredentials_challenge (user : User) (device : Device) :
    (AuthService.challenge user device).Respects SameCredentials :=
  Footprint.challenge (fun _ => sameCredentials_signAsync _ _) sameCredentials_record
    sameCredentials_enqueue user device

theorem sameCredentials_enforceLimit (userId : UserId) :
    (SessionsService.enforceLimit app userId).Respects SameCredentials := by
  refine Respects.bind (Respects.query _) fun active => Respects.ite ?_ (Respects.pure ())
  exact Respects.command fun _ _ => rfl

theorem sameCredentials_create (session : CreateSessionInput) :
    (SessionsService.create app session).Respects SameCredentials :=
  Footprint.createSession (fun _ _ => rfl) app session

/-- A completed login counts no failure, and forgets none. -/
theorem sameCredentials_issueTokenPair
    (userId : UserId)
    (deviceId : DeviceId)
    (requestMeta : RequestMeta)
    (isNewDevice : Bool) :
    (AuthService.issueTokenPair app userId deviceId requestMeta isNewDevice).Respects
      SameCredentials :=
  Footprint.issueTokenPair sameCredentials_enforceLimit (fun _ _ => sameCredentials_signAsync _ _)
    sameCredentials_create (fun _ => sameCredentials_update _ fun _ _ => rfl)
    sameCredentials_enqueue sameCredentials_record userId deviceId requestMeta isNewDevice

/-! ## One check -/

/-- No two accounts have the same id. -/
def World.DistinctUsers (world : World) : Prop :=
  (world.users.map (·.id)).Nodup

theorem userRow_of_mem
    (distinct : world.DistinctUsers)
    {user : User}
    (present : user ∈ world.users) :
    world.userRow user.id = some user :=
  Table.find?_key_eq_some distinct present

theorem run_updateUser
    {id : UserId}
    {rewrite : Time → User → User}
    {user : User}
    (stored : world.userRow id = some user) :
    (UsersService.update id rewrite).run input world =
      (.ok (rewrite input.now user), world.rewriteUser id (rewrite input.now)) := by
  unfold UsersService.update
  rw [run_attempt, show (world.users.find? fun user => user.id = id) = some user from stored]
  rfl

/-- An account after a password is tried. -/
def Credentials.tried
    (app : Deployment)
    (now : Time)
    (password : String)
    (account : Credentials) : Credentials :=
  if account.status = .active then
    { account with
      lockout := account.lockout.attempt app.loginMaxAttempts (app.loginLockoutMinutes * 60000)
        ⟨now, app.argon2Verify account.passwordHash password⟩ }
  else account

/-- The result of the check of a password, if it is checked at all. -/
def Credentials.check
    (app : Deployment)
    (now : Time)
    (password : String)
    (account : Credentials) : Option Bool :=
  if account.lockout.locked now ∨ account.status ≠ .active then none
  else some (app.argon2Verify account.passwordHash password)

namespace AuthService

/-- The answer while an account is locked. -/
def lockedError : ApiError :=
  .unauthorized "Too many failed login attempts. Try again later."

/-- The answer of an account that is suspended or deleted. -/
def inactiveError : ApiError :=
  .unauthorized "This account is not active. Contact us if you believe this is a mistake."

/-- The answer to the wrong password that locks an account. -/
def lockingError : ApiError :=
  .unauthorized "Too many failed login attempts. This account is temporarily locked."

end AuthService

/-- The error that an account gives a wrong password. -/
def Credentials.refusal (app : Deployment) (now : Time) (account : Credentials) : ApiError :=
  if account.lockout.locked now then AuthService.lockedError
  else if account.status ≠ .active then AuthService.inactiveError
  else if app.loginMaxAttempts ≤ account.lockout.failures + 1 then AuthService.lockingError
  else AuthService.genericError

/-- A row with one more wrong password. -/
def countFailure (row : User) : User :=
  { row with failedLoginCount := row.failedLoginCount + 1 }

/-- A row that is locked, with the wrong passwords forgotten. -/
def lockRow (app : Deployment) (now : Time) (row : User) : User :=
  { row with
    failedLoginCount := 0
    lockedUntil := some (now + app.loginLockoutMinutes * 60000) }

/-- A row without wrong passwords and without a lock. -/
def resetRow (row : User) : User :=
  { row with failedLoginCount := 0, lockedUntil := none }

theorem run_registerFailedLogin
    {user : User}
    (stored : world.userRow user.id = some user) :
    (UsersService.registerFailedLogin app user.id).run input world =
      if app.loginMaxAttempts ≤ user.failedLoginCount + 1 then
        (.ok true, world.rewriteUser user.id (lockRow app input.now))
      else (.ok false, world.rewriteUser user.id countFailure) := by
  show ((UsersService.update user.id fun _ => countFailure) >>= fun counted =>
    if app.loginMaxAttempts ≤ counted.failedLoginCount then
      UsersService.update user.id (fun now => lockRow app now) >>= fun _ => pure true
    else pure false).run input world = _
  rw [run_bind, run_updateUser stored]
  show (if app.loginMaxAttempts ≤ user.failedLoginCount + 1 then
      UsersService.update user.id (fun now => lockRow app now) >>= fun _ => pure true
    else pure false : Service Bool).run input (world.rewriteUser user.id countFailure) = _
  by_cases locks : app.loginMaxAttempts ≤ user.failedLoginCount + 1
  · have counted : (world.rewriteUser user.id countFailure).userRow user.id =
        some (countFailure user) := by
      rw [@userRow_rewriteUser _ countFailure world fun _ => rfl, stored]
      rfl
    have twice : Table.updateWhere (fun row => row.id = user.id) (lockRow app input.now)
        (Table.updateWhere (fun row => row.id = user.id) countFailure world.users) =
          Table.updateWhere (fun row => row.id = user.id) (lockRow app input.now)
            world.users := by
      rw [Table.updateWhere_updateWhere]
      · rfl
      · exact fun _ => rfl
    rw [if_pos locks, if_pos locks, run_bind, run_updateUser counted]
    unfold World.rewriteUser
    dsimp only
    rw [twice]
    rfl
  · rw [if_neg locks, if_neg locks]
    rfl

/-- What is left of a check once the account is found. -/
theorem checkPassword_eq (dto : LoginDto) :
    AuthService.checkPassword app dto =
      (UsersService.findByEmail app dto.email >>= fun found =>
        match found with
        | none => throw AuthService.genericError
        | some user => do
            let now ← Service.dateNow
            if UsersService.isLocked now user then throw AuthService.lockedError
            else if user.status ≠ .active then throw AuthService.inactiveError
            else if app.argon2Verify user.passwordHash dto.password then
              UsersService.resetFailedLogins user.id
              return user
            else
              let locked ← UsersService.registerFailedLogin app user.id
              AuditService.record (some user.id) .authLoginFailed
              if locked then throw AuthService.lockingError
              else throw AuthService.genericError) := by
  unfold AuthService.checkPassword
  congr 1
  funext found
  cases found with
  | none => rfl
  | some user => rfl

/-- What the check of a password comes to, by the account it is for. -/
theorem run_checkPassword
    (distinct : world.DistinctUsers)
    (dto : LoginDto) :
    (AuthService.checkPassword app dto).run input world =
      match world.users.find? fun user =>
          user.email = UsersService.normalizeEmail app dto.email with
      | none => (.error AuthService.genericError, world)
      | some user =>
          match user.credentials.check app input.now dto.password with
          | none => (.error (user.credentials.refusal app input.now), world)
          | some true => (.ok user, world.rewriteUser user.id resetRow)
          | some false =>
              (.error (user.credentials.refusal app input.now),
                { world.rewriteUser user.id
                    (if app.loginMaxAttempts ≤ user.failedLoginCount + 1 then
                      lockRow app input.now
                    else countFailure) with
                  auditLogs := ⟨some user.id, .authLoginFailed⟩ :: world.auditLogs }) := by
  rw [checkPassword_eq]
  unfold UsersService.findByEmail
  rw [run_bind, run_query]
  dsimp only
  cases found : world.users.find? fun user =>
      user.email = UsersService.normalizeEmail app dto.email with
  | none => rfl
  | some user =>
      have stored := userRow_of_mem distinct (List.mem_of_find?_eq_some found)
      dsimp only
      rw [run_bind, Service.run_dateNow]
      dsimp only
      rw [isLocked_eq]
      by_cases locked : user.credentials.lockout.locked input.now = true
      · have unchecked : user.credentials.check app input.now dto.password = none :=
          if_pos (.inl locked)
        have refused : user.credentials.refusal app input.now = AuthService.lockedError :=
          if_pos locked
        rw [if_pos locked, unchecked, refused]
        rfl
      by_cases inactive : user.status ≠ .active
      · have unchecked : user.credentials.check app input.now dto.password = none :=
          if_pos (.inr inactive)
        have refused : user.credentials.refusal app input.now = AuthService.inactiveError :=
          (if_neg locked).trans (if_pos inactive)
        rw [if_neg locked, if_pos inactive, unchecked, refused]
        rfl
      have checked : user.credentials.check app input.now dto.password =
          some (app.argon2Verify user.passwordHash dto.password) :=
        if_neg fun refused => refused.elim locked inactive
      rw [if_neg locked, if_neg inactive, checked]
      cases app.argon2Verify user.passwordHash dto.password with
      | true =>
          rw [if_pos rfl]
          unfold UsersService.resetFailedLogins
          rw [run_bind, run_bind, run_updateUser stored]
          rfl
      | false =>
          have refused : user.credentials.refusal app input.now =
              if app.loginMaxAttempts ≤ user.failedLoginCount + 1 then AuthService.lockingError
              else AuthService.genericError :=
            (if_neg locked).trans (if_neg inactive)
          rw [if_neg Bool.false_ne_true, run_bind, run_registerFailedLogin stored, refused]
          by_cases locks : app.loginMaxAttempts ≤ user.failedLoginCount + 1
          · simp only [locks, if_true]
            rfl
          · simp only [locks, if_false]
            rfl

end ConferenceContact
