import ConferenceContact.Auth.TokenRequests
import ConferenceContact.Billing.Footprints

/-!
# The addresses of accounts

An account keeps its address until it is deleted, and nothing but a registration opens
one: the requests about accounts, whose calls may come in any order and be rejected, only
ever move an account to the address of a deleted one.
-/

namespace ConferenceContact

open Process

/-- Accounts are neither opened nor given another address than that of a deleted one. -/
structure KeepsAddresses (before after : World) : Prop where
  users : ∀ user ∈ after.users, ∃ earlier ∈ before.users, earlier.id = user.id ∧
    (earlier.email = user.email ∨ user.email = AdminService.deletedEmail user.id)
  nextId : before.nextId ≤ after.nextId

instance : IsPreorder World KeepsAddresses where
  refl _ := ⟨fun user present => ⟨user, present, rfl, .inl rfl⟩, Nat.le_refl _⟩
  trans first second third := by
    intro earlier later
    refine ⟨fun user present => ?_, Nat.le_trans earlier.nextId later.nextId⟩
    obtain ⟨middle, inMiddle, sameId, address⟩ := later.users user present
    obtain ⟨start, inStart, isMiddle, middleAddress⟩ := earlier.users middle inMiddle
    refine ⟨start, inStart, isMiddle.trans sameId, ?_⟩
    rcases address with kept | deleted
    · rcases middleAddress with same | deleted
      · exact .inl (same.trans kept)
      · rw [sameId, kept] at deleted
        exact .inr deleted
    · exact .inr deleted

section

variable {app : Deployment}

/-! ## Single calls -/

/-- Writes outside the accounts. -/
theorem keepsAddresses_of_users
    {before after : World}
    (users : after.users = before.users)
    (nextId : before.nextId ≤ after.nextId) :
    KeepsAddresses before after where
  users user present := ⟨user, users ▸ present, rfl, .inl rfl⟩
  nextId

/-- Rewriting accounts that keep their addresses or are deleted. -/
theorem keepsAddresses_updateUsers
    {before after : World}
    {condition : User → Bool}
    {rewrite : User → User}
    (users : after.users = Table.updateWhere condition rewrite before.users)
    (rewrites : ∀ user, condition user = true → (rewrite user).id = user.id ∧
      ((rewrite user).email = user.email ∨
        (rewrite user).email = AdminService.deletedEmail user.id))
    (nextId : before.nextId ≤ after.nextId) :
    KeepsAddresses before after where
  users user present := by
    rw [users] at present
    obtain ⟨earlier, stored, rfl⟩ := List.mem_map.mp present
    refine ⟨earlier, stored, ?_⟩
    split
    · rename_i chosen
      obtain ⟨sameId, address⟩ := rewrites earlier chosen
      rw [sameId]
      exact ⟨rfl, address.imp_left Eq.symm⟩
    · exact ⟨rfl, .inl rfl⟩
  nextId

theorem keepsAddresses_updateUser
    (id : UserId)
    {rewrite : Time → User → User}
    (kept : ∀ now user, (rewrite now user).id = user.id ∧
      (rewrite now user).email = user.email) :
    (UsersService.update id rewrite).Respects KeepsAddresses :=
  Footprint.updateUser fun now _ => keepsAddresses_updateUsers rfl
    (fun user _ => ⟨(kept now user).1, .inl (kept now user).2⟩) (Nat.le_refl _)

theorem keepsAddresses_record (actor : Option UserId) (action : AuditAction) :
    (AuditService.record actor action).Respects KeepsAddresses :=
  Respects.command fun _ _ => keepsAddresses_of_users rfl (Nat.le_refl _)

theorem keepsAddresses_enqueue (job : EmailJob) :
    (EmailService.enqueue job).Respects KeepsAddresses :=
  Footprint.enqueue (fun _ _ => keepsAddresses_of_users rfl (Nat.le_refl _)) job

theorem keepsAddresses_signAsync (payload : JwtPayload) (expiresIn : Nat) :
    (JwtService.signAsync payload expiresIn).Respects KeepsAddresses :=
  Footprint.signAsync (fun _ _ => keepsAddresses_of_users rfl (Nat.le_refl _)) payload expiresIn

theorem keepsAddresses_redis (world : World) (redis : List RedisEntry) :
    KeepsAddresses world { world with redis } :=
  keepsAddresses_of_users rfl (Nat.le_refl _)

theorem keepsAddresses_revokeUser (userId : UserId) :
    (TokenRevocationService.revokeUser app userId).Respects KeepsAddresses :=
  Footprint.revokeUser keepsAddresses_redis app userId

theorem keepsAddresses_updateSession (id : SessionId) (rewrite : Time → Session → Session) :
    (SessionsService.update id rewrite).Respects KeepsAddresses :=
  Footprint.updateSession fun _ _ => keepsAddresses_of_users rfl (Nat.le_refl _)

theorem keepsAddresses_revokeAllForUser (userId : UserId) :
    (SessionsService.revokeAllForUser userId).Respects KeepsAddresses :=
  Respects.command fun _ _ => keepsAddresses_of_users rfl (Nat.le_refl _)

theorem keepsAddresses_enforceLimit (userId : UserId) :
    (SessionsService.enforceLimit app userId).Respects KeepsAddresses := by
  refine Respects.bind (Respects.query _) fun active => Respects.ite ?_ (Respects.pure ())
  exact Respects.command fun _ _ => keepsAddresses_of_users rfl (Nat.le_refl _)

theorem keepsAddresses_createSession (values : CreateSessionInput) :
    (SessionsService.create app values).Respects KeepsAddresses :=
  Footprint.createSession (fun _ _ => keepsAddresses_of_users rfl (Nat.le_add_right _ _)) app
    values

theorem keepsAddresses_findOrCreateDevice (userId : UserId) (fingerprint : Sha256 String) :
    (DevicesService.findOrCreateDevice userId fingerprint).Respects KeepsAddresses :=
  Footprint.findOrCreateDevice (fun _ _ => keepsAddresses_of_users rfl (Nat.le_refl _))
    (fun _ _ => keepsAddresses_of_users rfl (Nat.le_succ _)) userId fingerprint

/-! ## Logins -/

theorem keepsAddresses_registerFailedLogin (userId : UserId) :
    (UsersService.registerFailedLogin app userId).Respects KeepsAddresses := by
  refine Respects.bind (keepsAddresses_updateUser _ fun _ _ => ⟨rfl, rfl⟩) fun user => ?_
  refine Respects.ite ?_ (Respects.pure _)
  exact Respects.bind (keepsAddresses_updateUser _ fun _ _ => ⟨rfl, rfl⟩) fun _ =>
    Respects.pure _

theorem keepsAddresses_checkPassword (dto : LoginDto) :
    (AuthService.checkPassword app dto).Respects KeepsAddresses :=
  Footprint.checkPassword
    (fun _ => Respects.bind (keepsAddresses_updateUser _ fun _ _ => ⟨rfl, rfl⟩) fun _ =>
      Respects.pure _)
    keepsAddresses_registerFailedLogin keepsAddresses_record dto

theorem keepsAddresses_challenge (user : User) (device : Device) :
    (AuthService.challenge user device).Respects KeepsAddresses :=
  Footprint.challenge (fun _ => keepsAddresses_signAsync _ _) keepsAddresses_record
    keepsAddresses_enqueue user device

theorem keepsAddresses_issueTokenPair
    (userId : UserId)
    (deviceId : DeviceId)
    (requestMeta : RequestMeta)
    (isNewDevice : Bool) :
    (AuthService.issueTokenPair app userId deviceId requestMeta isNewDevice).Respects
      KeepsAddresses :=
  Footprint.issueTokenPair keepsAddresses_enforceLimit (fun _ _ => keepsAddresses_signAsync _ _)
    keepsAddresses_createSession
    (fun _ => keepsAddresses_updateUser _ fun _ _ => ⟨rfl, rfl⟩) keepsAddresses_enqueue
    keepsAddresses_record userId deviceId requestMeta isNewDevice

theorem keepsAddresses_login (dto : LoginDto) (requestMeta : RequestMeta) :
    (AuthService.login app dto requestMeta).Respects KeepsAddresses := by
  refine Respects.bind (keepsAddresses_checkPassword dto) fun user => ?_
  refine Respects.bind (keepsAddresses_findOrCreateDevice _ _) fun found => ?_
  refine Respects.ite (keepsAddresses_challenge _ _) ?_
  exact Respects.bind (keepsAddresses_issueTokenPair _ _ _ _) fun _ => Respects.pure _

theorem keepsAddresses_verifyLogin (dto : VerifyLoginDto) (requestMeta : RequestMeta) :
    (AuthService.verifyLogin app dto requestMeta).Respects KeepsAddresses := by
  refine Respects.bind (Footprint.checkChallenge (fun token ttlSeconds => ?_)
    keepsAddresses_record app dto) fun accepted => Respects.ite ?_ ?_
  · exact Footprint.registerChallengeAttempt (Footprint.incr keepsAddresses_redis)
      (Footprint.expire keepsAddresses_redis) token ttlSeconds
  · refine Respects.bind (keepsAddresses_updateUser _ fun _ _ => ⟨rfl, rfl⟩) fun _ => ?_
    exact keepsAddresses_issueTokenPair _ _ _ _
  · exact keepsAddresses_issueTokenPair _ _ _ _

theorem keepsAddresses_refresh (rawToken : RawToken) :
    (AuthService.refresh app rawToken).Respects KeepsAddresses := by
  refine Respects.bind (Footprint.sessionToRotate keepsAddresses_revokeAllForUser
    keepsAddresses_record rawToken) fun session => ?_
  have refused : (do
      SessionsService.revoke session.id
      throw (.unauthorized "Account is not active") : Service TokenPair).Respects
        KeepsAddresses :=
    Respects.bind (keepsAddresses_updateSession _ _) fun _ => Respects.throw _
  refine Respects.bind (Respects.query _) fun found => ?_
  cases found with
  | none => exact refused
  | some user =>
      refine Respects.ite (Respects.bind ?_ fun rotated => ?_) refused
      · refine Respects.bind (keepsAddresses_createSession _) fun created => ?_
        exact Respects.bind (keepsAddresses_updateSession _ _) fun _ => Respects.pure _
      · exact Respects.bind (keepsAddresses_signAsync _ _) fun token => Respects.pure _

/-! ## Requests -/

/-- The sessions and the access tokens of a user are ended and that is logged. -/
theorem keepsAddresses_revokeEverything
    (userId : UserId)
    (actor : Option UserId)
    (action : AuditAction) :
    Respects KeepsAddresses (do
      SessionsService.revokeAllForUser userId
      TokenRevocationService.revokeUser app userId
      AuditService.record actor action) := by
  refine Respects.bind (keepsAddresses_revokeAllForUser userId) fun _ => ?_
  refine Respects.bind (keepsAddresses_revokeUser userId) fun _ => ?_
  exact keepsAddresses_record actor action

theorem keepsAddresses_logout (rawToken : RawToken) :
    (AuthService.logout rawToken).Respects KeepsAddresses := by
  refine Respects.bind (Respects.query _) fun session => ?_
  cases session with
  | none => exact Respects.pure _
  | some session =>
      refine Respects.bind (keepsAddresses_updateSession _ _) fun _ => ?_
      exact keepsAddresses_record _ _

theorem keepsAddresses_remove (userId : UserId) (deviceId : DeviceId) :
    (DevicesService.remove userId deviceId).Respects KeepsAddresses := by
  refine Respects.bind (Respects.query _) fun device => ?_
  cases device with
  | none => exact Respects.throw _
  | some device =>
      refine Respects.ite (Respects.throw _) (Respects.command fun input world => ?_)
      exact keepsAddresses_of_users rfl (Nat.le_refl _)

theorem keepsAddresses_resetPassword (rawToken : RawToken) (newPassword : String) :
    (AuthService.resetPassword app rawToken newPassword).Respects KeepsAddresses := by
  refine Respects.bind (Footprint.consumeVerificationToken
    (fun _ _ => keepsAddresses_of_users rfl (Nat.le_refl _)) rawToken _) fun token => ?_
  refine Respects.bind (keepsAddresses_updateUser _ fun _ _ => ⟨rfl, rfl⟩) fun _ => ?_
  exact keepsAddresses_revokeEverything _ _ _

theorem keepsAddresses_forgotPassword (email : String) :
    (AuthService.forgotPassword app email).Respects KeepsAddresses := by
  refine Footprint.forgotPassword (fun userId email purpose => ?_) keepsAddresses_record app email
  exact Footprint.issueVerificationToken
    (fun _ _ => keepsAddresses_of_users rfl (Nat.le_refl _))
    (fun _ => keepsAddresses_of_users rfl (Nat.le_succ _))
    (fun _ _ => keepsAddresses_of_users rfl (Nat.le_succ _))
    keepsAddresses_enqueue userId email purpose

theorem keepsAddresses_suspendUser (adminUserId targetUserId : UserId) :
    (AdminService.suspendUser app adminUserId targetUserId).Respects KeepsAddresses := by
  refine Respects.ite (Respects.throw _) (Respects.bind (Respects.query _) fun found => ?_)
  cases found with
  | none => exact Respects.throw _
  | some target =>
      refine Respects.ite (Respects.throw _) ?_
      refine Respects.bind (keepsAddresses_updateUser _ fun _ _ => ⟨rfl, rfl⟩) fun _ => ?_
      exact keepsAddresses_revokeEverything _ _ _

/-- A deleted account leaves its address for good. -/
theorem keepsAddresses_deleteUser (adminUserId targetUserId : UserId) :
    (AdminService.deleteUser app adminUserId targetUserId).Respects KeepsAddresses := by
  refine Footprint.deleteUser (Footprint.updateUser fun now world => ?_)
    (keepsAddresses_revokeAllForUser _) keepsAddresses_redis keepsAddresses_record app
    adminUserId
  refine keepsAddresses_updateUsers rfl (fun user chosen => ⟨rfl, .inr ?_⟩) (Nat.le_refl _)
  rw [of_decide_eq_true chosen]

theorem keepsAddresses_forceLogout (adminUserId targetUserId : UserId) :
    (AdminService.forceLogout app adminUserId targetUserId).Respects KeepsAddresses := by
  refine Respects.bind (Respects.query _) fun found => ?_
  cases found with
  | none => exact Respects.throw _
  | some target => exact keepsAddresses_revokeEverything _ _ _

theorem keepsAddresses_impersonateUser (adminUserId targetUserId : UserId) :
    (AdminService.impersonateUser adminUserId targetUserId).Respects KeepsAddresses := by
  refine Respects.ite (Respects.throw _) (Respects.bind (Respects.query _) fun found => ?_)
  cases found with
  | none => exact Respects.throw _
  | some target =>
      refine Respects.ite (Respects.throw _) (Respects.ite (Respects.throw _) ?_)
      refine Respects.bind (keepsAddresses_signAsync _ _) fun token => ?_
      exact Respects.bind (keepsAddresses_record _ _) fun _ => Respects.pure _

theorem keepsAddresses_deleteAccount (userId : UserId) (password : String) :
    (AuthService.deleteAccount app userId password).Respects KeepsAddresses := by
  refine Footprint.deleteAccount (fun _ _ => keepsAddresses_of_users rfl (Nat.le_refl _))
    (fun activeSubscription => Footprint.eraseAccount fun now world subscriptions _ => ?_)
    (keepsAddresses_revokeUser userId) keepsAddresses_record password
  refine keepsAddresses_updateUsers rfl (fun user chosen => ⟨rfl, .inr ?_⟩) (Nat.le_refl _)
  rw [of_decide_eq_true chosen]

/-- A request about an account opens none. -/
theorem keepsAddresses_handle (request : AccountRequest) :
    (request.handle app).Respects KeepsAddresses := by
  cases request with
  | impersonateUser adminUserId targetUserId =>
      exact Respects.bind (keepsAddresses_impersonateUser _ _) fun _ => Respects.pure _
  | deleteAccount userId password => exact keepsAddresses_deleteAccount userId password
  | auth request =>
      cases request with
      | login dto requestMeta =>
          exact Respects.bind (keepsAddresses_login dto requestMeta) fun _ => Respects.pure _
      | verifyLogin dto requestMeta =>
          exact Respects.bind (keepsAddresses_verifyLogin dto requestMeta) fun _ =>
            Respects.pure _
      | refresh rawRefreshToken =>
          exact Respects.bind (keepsAddresses_refresh rawRefreshToken) fun _ => Respects.pure _
      | logout rawRefreshToken => exact keepsAddresses_logout rawRefreshToken
      | logoutAll userId => exact keepsAddresses_revokeEverything _ _ _
      | forgotPassword email => exact keepsAddresses_forgotPassword email
      | resetPassword rawToken newPassword => exact keepsAddresses_resetPassword _ _
      | removeDevice userId deviceId =>
          exact Respects.bind (keepsAddresses_remove userId deviceId) fun _ =>
            keepsAddresses_record _ _
      | suspendUser adminUserId targetUserId => exact keepsAddresses_suspendUser _ _
      | reactivateUser adminUserId targetUserId =>
          exact Footprint.reactivateUser (keepsAddresses_updateUser _ fun _ _ => ⟨rfl, rfl⟩)
            keepsAddresses_record adminUserId
      | deleteUser adminUserId targetUserId => exact keepsAddresses_deleteUser _ _
      | forceLogout adminUserId targetUserId => exact keepsAddresses_forceLogout _ _

end

end ConferenceContact
