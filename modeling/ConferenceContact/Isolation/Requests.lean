import ConferenceContact.Foundation.Reliance
import ConferenceContact.Isolation.Incidental

/-!
# Requests and ownership

Every call of every request is a step of `Owners.Step`, whatever the calls of other
requests have done since it read what it relies on; so no interleaving of requests
makes a session refer to a device of another user.
-/

namespace ConferenceContact

open Process

/-! ## Keeping ownership -/

/-- Ids and references are as they should be. -/
def World.Owned (world : World) : Prop :=
  world.owners.Sound

/-- Nothing changes hands. -/
def SameHands (before after : World) : Prop :=
  before.owners.Inherits after.owners

instance : IsPreorder World SameHands where
  refl world := refl_of Owners.Inherits world.owners
  trans _ _ _ first second := trans_of Owners.Inherits first second

/-- The process takes only steps of ownership, among others that do so too. -/
abbrev KeepsOwners
    (process : Service α)
    (world : World)
    (post : α → World → Prop) : Prop :=
  Sustains World.Owned SameHands process world post

/-- A step of ownership keeps ids and references as they should be. -/
theorem Owners.Step.keeps
    {before after : World}
    (step : Owners.Step before.owners after.owners)
    (owned : before.Owned) :
    after.Owned ∧ SameHands before after :=
  ⟨step.sound owned, step.inherits⟩

theorem SameOwners.keeps
    (before after : World)
    (same : SameOwners before after)
    (owned : before.Owned) :
    after.Owned ∧ SameHands before after := by
  obtain ⟨amount, equal⟩ := same
  have step : Owners.Step before.owners after.owners := equal ▸ .reserve before.owners amount
  exact step.keeps owned

variable {world : World}

theorem keeps_of_same
    {process : Service α}
    (same : process.Respects SameOwners) :
    KeepsOwners process world fun _ _ => True :=
  Sustains.of_respects same SameOwners.keeps

theorem sameOwners_of_incidental
    {process : Service α}
    (incidental : process.Respects Incidental) :
    process.Respects SameOwners :=
  incidental.mono fun _ _ changes => changes.owners

theorem keeps_of_incidental
    {process : Service α}
    (incidental : process.Respects Incidental) :
    KeepsOwners process world fun _ _ => True :=
  keeps_of_same (sameOwners_of_incidental incidental)

/-- An update whose successes are steps of ownership. -/
theorem keeps_attempt
    {act : Input → World → Except ApiError (α × World)}
    (post : α → World → Prop)
    (steps : ∀ input later value after, SameHands world later → later.Owned →
      act input later = .ok (value, after) →
      Owners.Step later.owners after.owners ∧ post value after) :
    KeepsOwners (Process.attempt act) world post := by
  refine Sustains.attempt post fun input later value after moved owned outcome => ?_
  obtain ⟨step, holds⟩ := steps input later value after moved owned outcome
  obtain ⟨still, inherits⟩ := step.keeps owned
  exact ⟨still, inherits, holds⟩

/-! ## Calls that leave ownership alone -/

theorem sameOwners_signAccess (payload : AccessTokenPayload) (expiresIn : Nat) :
    (JwtService.signAsync (.access payload) expiresIn).Respects SameOwners := by
  refine Respects.attempt ?_
  rintro input world value after ⟨⟩
  exact ⟨0, rfl⟩

/-! ## Logging in -/

section

variable {app : Deployment}

/-- The device found or created is the user's. -/
theorem keeps_findOrCreateDevice (userId : UserId) (fingerprint : Sha256 String) :
    KeepsOwners (DevicesService.findOrCreateDevice userId fingerprint) world
      fun result after => after.owners.Holds userId result.1.id := by
  unfold DevicesService.findOrCreateDevice
  refine Sustains.bind (Sustains.query (fun existing after =>
    ∀ device, existing = some device → after.owners.Holds userId device.id) ?_) ?_
  · intro input later _ owned device found
    have matched := List.find?_some found
    simp only [Bool.decide_and, Bool.and_eq_true, decide_eq_true_eq] at matched
    rw [← matched.1]
    exact owned.holds (List.mem_map_of_mem (List.mem_of_find?_eq_some found))
  intro existing after _ holds
  cases existing with
  | some device =>
      refine Sustains.bind (Sustains.attempt
        (fun touched later => later.owners.Holds userId touched.id) ?_) ?_
      · intro input later touched next moved owned outcome
        split at outcome
        · cases outcome
        · rename_i stored found
          cases outcome
          have same : SameOwners later
              { later with
                devices := Table.updateWhere (fun other => other.id = device.id)
                  (fun other => { other with lastSeenAt := input.now }) later.devices } := by
            refine ⟨0, ?_⟩
            unfold World.owners
            rw [Table.map_updateWhere]
            · rfl
            · exact fun _ => rfl
          obtain ⟨still, inherits⟩ := same.keeps later _ owned
          have named : stored.id = device.id := by simpa using List.find?_some found
          refine ⟨still, inherits, ?_⟩
          show Owners.Holds _ userId stored.id
          rw [named]
          exact ((holds device rfl).inherited moved).inherited inherits
      · intro touched after _ held
        exact held
  | none =>
      refine Sustains.bind (keeps_attempt
        (fun created later => later.owners.Holds userId created.id) ?_) ?_
      · intro input later created next _ owned outcome
        split at outcome
        · cases outcome
        · cases outcome
          have step := Owners.Step.register later.owners userId
          exact ⟨step, (step.sound owned).holds List.mem_cons_self⟩
      · intro created after _ held
        exact held

/-- A challenge names a device of the user it challenges. -/
theorem keeps_signChallenge
    {payload : LoginChallengePayload}
    (holds : world.owners.Holds payload.sub payload.deviceId) :
    KeepsOwners (AuthService.signChallenge payload) world fun _ _ => True := by
  unfold AuthService.signChallenge
  refine keeps_attempt _ ?_
  rintro input later value after moved - ⟨⟩
  exact ⟨Owners.Step.challenge later.owners payload.sub payload.deviceId
    (holds.inherited moved), trivial⟩

theorem keeps_challenge
    {user : User}
    {device : Device}
    (holds : world.owners.Holds user.id device.id) :
    KeepsOwners (AuthService.challenge user device) world fun _ _ => True := by
  unfold AuthService.challenge
  refine Sustains.ite (fun _ => ?_) fun _ => ?_
  · refine Sustains.bind (keeps_signChallenge holds) fun token _ _ _ => ?_
    exact keeps_of_incidental (Respects.bind (incidental_record _ _) fun _ => Respects.pure _)
  · refine Sustains.bind (Sustains.query (fun _ _ => True) fun _ _ _ _ => trivial)
      fun code after moved _ => ?_
    refine Sustains.bind (keeps_signChallenge (holds.inherited moved)) fun token _ _ _ => ?_
    refine keeps_of_incidental (Respects.bind (incidental_enqueue _) fun _ => ?_)
    exact Respects.bind (incidental_record _ _) fun _ => Respects.pure _

/-- A session of a user with a device nobody else holds. -/
theorem keeps_create
    {call : CreateSessionInput}
    (holds : ∀ deviceId, call.deviceId = some deviceId →
      world.owners.Holds call.userId deviceId) :
    KeepsOwners (SessionsService.create app call) world fun _ _ => True := by
  refine keeps_attempt _ fun input later value after moved _ created => ?_
  split at created
  · rename_i stored
    cases created
    refine ⟨Owners.Step.issue later.owners call.userId call.deviceId ?_, trivial⟩
    intro deviceId refers
    rw [refers, Option.all_some, List.any_eq_true] at stored
    obtain ⟨device, present, named⟩ := stored
    have listed : (device.id, device.userId) ∈ later.owners.devices :=
      List.mem_map_of_mem present
    rw [of_decide_eq_true named] at listed
    rwa [((holds deviceId refers).inherited moved).2 _ listed] at listed
  · cases created

theorem keeps_issueTokenPair
    {userId : UserId}
    {deviceId : DeviceId}
    (holds : world.owners.Holds userId deviceId)
    (requestMeta : RequestMeta)
    (isNewDevice : Bool) :
    KeepsOwners (AuthService.issueTokenPair app userId deviceId requestMeta isNewDevice) world
      fun _ _ => True := by
  unfold AuthService.issueTokenPair
  refine Sustains.bind (Sustains.query (fun found _ =>
    ∀ user, found = some user → user.id = userId) ?_) ?_
  · intro _ _ _ _ user found
    simpa using List.find?_some found
  intro found after moved named
  cases found with
  | none => exact Sustains.throw _ _
  | some user =>
      have held : after.owners.Holds user.id deviceId :=
        (named user rfl).symm ▸ holds.inherited moved
      refine Sustains.bind (keeps_of_incidental (Footprint.assess _ _ _ _)) fun risk _ first _ => ?_
      refine Sustains.bind (keeps_of_incidental (incidental_enforceLimit app _))
        fun _ _ second _ => ?_
      refine Sustains.bind (keeps_of_same (sameOwners_signAccess _ _)) fun token _ third _ => ?_
      refine Sustains.bind (keeps_create ?_) fun created _ _ _ => ?_
      · rintro _ ⟨⟩
        exact ((held.inherited first).inherited second).inherited third
      refine Sustains.bind (keeps_of_incidental (incidental_updateUser _ fun _ _ => rfl))
        fun _ _ _ _ => ?_
      have logged : ∀ score, (do
          AuditService.record (some user.id) .authLogin
          if app.riskHighThreshold ≤ score then
            AuditService.record (some user.id) .authHighRiskLogin
          return {
            accessToken := token
            refreshToken := created.1
            refreshTokenExpiresAt := created.2.expiresAt } :
          Service TokenPair).Respects Incidental := by
        intro score
        refine Respects.bind (incidental_record _ _) fun _ => Respects.ite ?_ (Respects.pure _)
        exact Respects.bind (incidental_record _ _) fun _ => Respects.pure _
      refine Sustains.ite (fun _ => ?_) fun _ => keeps_of_incidental (logged risk.score)
      exact keeps_of_incidental (Respects.bind (incidental_enqueue _) fun _ => logged risk.score)

theorem keeps_login (dto : LoginDto) (requestMeta : RequestMeta) :
    KeepsOwners (AuthService.login app dto requestMeta) world fun _ _ => True := by
  unfold AuthService.login
  refine Sustains.bind (keeps_of_incidental (incidental_checkPassword dto)) fun user _ _ _ => ?_
  refine Sustains.bind (keeps_findOrCreateDevice _ _) ?_
  rintro ⟨device, isNew⟩ after - holds
  refine Sustains.ite (fun _ => keeps_challenge holds) fun _ => ?_
  exact Sustains.bind (keeps_issueTokenPair holds _ _) fun _ _ _ _ => Sustains.pure trivial

/-- An accepted challenge names a device of its account. -/
theorem keeps_checkChallenge (dto : VerifyLoginDto) :
    KeepsOwners (AuthService.checkChallenge app dto) world
      fun result after => after.owners.Holds result.1.id result.2.deviceId := by
  unfold AuthService.checkChallenge
  refine Sustains.bind (Sustains.query (fun found after =>
    ∀ payload, found = some (.loginChallenge payload) →
      after.owners.Holds payload.sub payload.deviceId) ?_) ?_
  · intro input later _ owned payload verified
    split at verified
    · rename_i valid
      refine owned.challenges (payload.sub, payload.deviceId) ?_
      refine List.mem_filterMap.mpr ⟨dto.challengeToken, valid.1, ?_⟩
      rw [Jwt.challenged, Option.some.inj verified]
    · cases verified
  intro found after _ challenges
  cases found with
  | none => exact Sustains.throw _ _
  | some payload =>
  cases payload with
  | access payload => exact Sustains.throw _ _
  | loginChallenge payload =>
      have holds := challenges payload rfl
      refine Sustains.bind (Sustains.query (fun found _ =>
        ∀ user, found = some user → user.id = payload.sub) ?_) ?_
      · intro _ _ _ _ user found
        simpa using List.find?_some found
      intro found _ first named
      cases found with
      | none => exact Sustains.throw _ _
      | some user =>
          refine Sustains.bind (keeps_of_incidental (incidental_registerChallengeAttempt _ _))
            fun within _ second _ => ?_
          refine Sustains.ite (fun _ => Sustains.throw _ _) fun _ => ?_
          refine Sustains.bind (keeps_of_incidental (Footprint.codeValid app user payload dto.code))
            fun valid _ third _ => ?_
          refine Sustains.ite (fun _ => ?_) fun _ => ?_
          · exact Sustains.bind (keeps_of_incidental (incidental_record _ _))
              fun _ _ _ _ => Sustains.throw _ _
          · refine Sustains.pure ?_
            show Owners.Holds _ user.id payload.deviceId
            rw [named user rfl]
            exact ((holds.inherited first).inherited second).inherited third

theorem keeps_verifyLogin (dto : VerifyLoginDto) (requestMeta : RequestMeta) :
    KeepsOwners (AuthService.verifyLogin app dto requestMeta) world fun _ _ => True := by
  unfold AuthService.verifyLogin
  refine Sustains.bind (keeps_checkChallenge dto) ?_
  rintro ⟨user, payload⟩ after - holds
  refine Sustains.ite (fun _ => ?_) fun _ => keeps_issueTokenPair holds _ _
  refine Sustains.bind (keeps_of_incidental (incidental_updateUser _ fun _ _ => rfl))
    fun _ _ moved _ => ?_
  exact keeps_issueTokenPair (holds.inherited moved) _ _

/-! ## Refreshing -/

/-- A session refers to a device nobody else holds. -/
def OwnsDevice (session : Session) (world : World) : Prop :=
  ∀ deviceId, session.deviceId = some deviceId → world.owners.Holds session.userId deviceId

theorem OwnsDevice.inherited
    {session : Session}
    {before after : World}
    (owns : OwnsDevice session before)
    (moved : SameHands before after) :
    OwnsDevice session after :=
  fun deviceId refers => (owns deviceId refers).inherited moved

theorem ownsDevice_of_mem
    {session : Session}
    (owned : world.Owned)
    (present : session ∈ world.sessions) :
    OwnsDevice session world :=
  fun deviceId refers =>
    owned.holds (owned.sessions _ (List.mem_map_of_mem present) deviceId refers)

/-- A session that a lookup finds refers to a device of its user. -/
theorem keeps_findSession (matched : Input → Session → Bool) :
    KeepsOwners
      (Process.query fun input world => world.sessions.find? (matched input)) world
      fun found after => ∀ session, found = some session → OwnsDevice session after :=
  Sustains.query _ fun _ _ _ owned _ found =>
    ownsDevice_of_mem owned (List.mem_of_find?_eq_some found)

theorem keeps_noSession :
    KeepsOwners (pure none) world
      fun found after => ∀ session, found = some session → OwnsDevice session after := by
  refine Sustains.pure fun session found => ?_
  cases found

theorem keeps_concurrentSuccessor (anySession : Option Session) :
    KeepsOwners (AuthService.concurrentSuccessor anySession) world
      fun found after => ∀ session, found = some session → OwnsDevice session after := by
  unfold AuthService.concurrentSuccessor
  split
  · split
    · split
      · refine Sustains.bind (Sustains.query (fun _ _ => True)
          fun _ _ _ _ => trivial) fun now _ _ _ => ?_
        refine Sustains.ite (fun _ => ?_) fun _ => keeps_noSession
        refine Sustains.bind (keeps_findSession _) fun successor _ _ owns => ?_
        refine Sustains.bind (Sustains.query (fun _ _ => True)
          fun _ _ _ _ => trivial) fun now _ moved _ => ?_
        refine Sustains.pure fun session found => ?_
        exact (owns session (Option.eq_some_of_filter_eq_some found)).inherited moved
      · exact keeps_noSession
    · exact keeps_noSession
  · exact keeps_noSession

theorem keeps_sessionToRotate (rawToken : RawToken) :
    KeepsOwners (AuthService.sessionToRotate rawToken) world OwnsDevice := by
  unfold AuthService.sessionToRotate
  refine Sustains.bind (keeps_findSession _) fun session _ _ owns => ?_
  cases session with
  | some session => exact Sustains.pure (owns session rfl)
  | none =>
      refine Sustains.bind (keeps_findSession _) fun anySession _ _ _ => ?_
      refine Sustains.bind (keeps_concurrentSuccessor anySession) fun successor _ _ owns => ?_
      cases successor with
      | some successor => exact Sustains.pure (owns successor rfl)
      | none =>
          cases anySession with
          | none => exact Sustains.throw _ _
          | some anySession =>
              refine Sustains.ite (fun _ => ?_) fun _ => Sustains.throw _ _
              refine Sustains.bind (keeps_of_incidental (incidental_revokeAllForUser _))
                fun _ _ _ _ => ?_
              exact Sustains.bind (keeps_of_incidental (incidental_record _ _))
                fun _ _ _ _ => Sustains.throw _ _

theorem keeps_refresh (rawToken : RawToken) :
    KeepsOwners (AuthService.refresh app rawToken) world fun _ _ => True := by
  unfold AuthService.refresh
  refine Sustains.bind (keeps_sessionToRotate rawToken) fun session _ _ owns => ?_
  unfold AuthService.refreshSession
  refine Sustains.bind (Sustains.query (fun _ _ => True) fun _ _ _ _ => trivial)
    fun user _ moved _ => ?_
  have refused : (do
      SessionsService.revoke session.id
      throw (.unauthorized "Account is not active") :
      Service TokenPair).Respects Incidental :=
    Respects.bind (incidental_revoke _) fun _ => Respects.throw _
  cases user with
  | none => exact keeps_of_incidental refused
  | some user =>
      refine Sustains.ite (fun _ => ?_) fun _ => keeps_of_incidental refused
      unfold AuthService.rotateAndSign SessionsService.rotate
      refine Sustains.bind (Sustains.bind (keeps_create (owns.inherited moved))
        fun created _ _ _ => keeps_of_incidental (Respects.bind
          (incidental_updateSession _ fun _ _ => rfl) fun _ => Respects.pure _))
        fun rotated _ _ _ => ?_
      exact keeps_of_same (Respects.bind (sameOwners_signAccess _ _) fun _ => Respects.pure _)

/-! ## Devices -/

/-- Deleting a device clears the references to it. -/
theorem keeps_remove (userId : UserId) (deviceId : DeviceId) :
    KeepsOwners (DevicesService.remove userId deviceId) world fun _ _ => True := by
  unfold DevicesService.remove
  refine Sustains.bind (Sustains.query (fun _ _ => True) fun _ _ _ _ => trivial)
    fun device _ _ _ => ?_
  cases device with
  | none => exact Sustains.throw _ _
  | some device =>
      refine Sustains.ite (fun _ => Sustains.throw _ _) fun _ => ?_
      refine Sustains.command fun input later _ owned => ?_
      refine Owners.Step.keeps ?_ owned
      have forgets := Owners.Step.forget later.owners deviceId
      have devices : (later.devices.filter fun device => device.id ≠ deviceId).map
          (fun device => (device.id, device.userId)) =
          later.owners.devices.filter fun device => device.1 ≠ deviceId := by
        rw [World.owners, List.filter_map]
        rfl
      have sessions : ((Table.updateWhere
            (fun session => session.deviceId = some deviceId ∧ session.revokedAt = none)
            (fun session => { session with revokedAt := some input.now })
            later.sessions).map fun session =>
              if session.deviceId = some deviceId then { session with deviceId := none }
              else session).map (fun session => (session.userId, session.deviceId)) =
          later.owners.sessions.map fun session =>
            if session.2 = some deviceId then (session.1, none) else session := by
        simp only [World.owners, Table.updateWhere, List.map_map]
        refine List.map_congr_left fun session _ => ?_
        simp only [Function.comp_apply]
        split <;> split <;> simp_all
      rw [← devices, ← sessions] at forgets
      exact forgets

/-! ## Accounts -/

end

end ConferenceContact
