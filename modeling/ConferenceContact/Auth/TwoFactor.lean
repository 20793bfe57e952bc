import ConferenceContact.Auth.UserRows
import ConferenceContact.Foundation.Crews
import ConferenceContact.Foundation.Text

/-!
# Setting up two-factor authentication

A set-up stores a new secret, a confirmation checks a code against the stored secret
and switches two-factor authentication on, and a disabling clears both.  Each of
them reads the user first and writes later.  The stored secret of a user with
two-factor authentication has been confirmed exactly as long as no confirmation
switches it on over another secret than a confirmed one, and no set-up replaces the
secret after that.
-/

namespace ConferenceContact

open Process

/-- A request about the two-factor authentication of one user. -/
inductive TwoFactorRequest
  | start2fa
  | confirm2fa (code : String)
  | disable2fa (password : String)

/-- The method behind a request; what it returns does not matter here. -/
def TwoFactorRequest.handle (app : Deployment) (userId : UserId) : TwoFactorRequest → Service Unit
  | start2fa => do
      let _ ← AuthService.start2fa app userId
      return ()
  | confirm2fa code => AuthService.confirm2fa app userId code
  | disable2fa password => AuthService.disable2fa app userId password

/-- A payload of three parts is decrypted from them, if none of them is empty. -/
theorem EncryptionService.decrypt_join
    {app : Deployment}
    {initializationVector authTag ciphertext : String}
    (plainVector : ':' ∉ initializationVector.toList)
    (plainTag : ':' ∉ authTag.toList)
    (plainText : ':' ∉ ciphertext.toList) :
    EncryptionService.decrypt app
        (initializationVector ++ ":" ++ authTag ++ ":" ++ ciphertext) =
      if initializationVector = "" ∨ authTag = "" ∨ ciphertext = "" then
        .error .malformedPayload
      else
        match app.aesGcmDecrypt initializationVector authTag ciphertext with
        | some plaintext => .ok plaintext
        | none => .error .malformedPayload := by
  have parts := Text.splitOn_three plainVector plainTag plainText
  have separator : String.ofList [':'] = ":" := rfl
  rw [separator] at parts
  unfold EncryptionService.decrypt
  cases outcome : app.aesGcmDecrypt initializationVector authTag ciphertext with
  | none => simp only [parts, outcome]
  | some plaintext => simp only [parts, outcome]

theorem EncryptionService.decrypt_parts
    {app : Deployment}
    {initializationVector authTag ciphertext plaintext : String}
    (plainVector : ':' ∉ initializationVector.toList)
    (plainTag : ':' ∉ authTag.toList)
    (plainText : ':' ∉ ciphertext.toList)
    (nonempty : initializationVector ≠ "" ∧ authTag ≠ "" ∧ ciphertext ≠ "")
    (decrypts : app.aesGcmDecrypt initializationVector authTag ciphertext = some plaintext) :
    EncryptionService.decrypt app
      (initializationVector ++ ":" ++ authTag ++ ":" ++ ciphertext) = .ok plaintext := by
  obtain ⟨vector, tag, text⟩ := nonempty
  rw [decrypt_join plainVector plainTag plainText]
  simp [vector, tag, text, decrypts]

/-! ## The control points -/

/-- The point a request has come to. -/
inductive TwoFactorStage
  /-- The lookup of the user of a set-up. -/
  | findForSetup
  /-- The choice of a secret and of an initialization vector. -/
  | generate (email : String)
  | setSecret (email secret initializationVector : String)
  /-- The lookup of the user of a confirmation. -/
  | findForConfirmation (code : String)
  /-- The check of the code against the stored secret. -/
  | verify (code secret : String)
  /-- The update that switches two-factor authentication on, after a check against the
  secret. -/
  | enable (secret : String)
  /-- Any other point, with the secret that a code was checked against before. -/
  | rest (process : Service Unit) (verified : Option String)

namespace TwoFactorStage

/-- The secret that `confirm2fa` has verified a code for. -/
def verified : TwoFactorStage → Option String
  | enable secret => some secret
  | rest _ verified => verified
  | _ => none

variable (app : Deployment) (userId : UserId)

/-- What a set-up does after its update. -/
def showSecret (email secret : String) : Service Unit := do
  let otpauthUrl := app.generateTotpUri "conference.contact" email secret
  let _ ← query fun _ _ => app.qrcodeToDataUrl otpauthUrl
  return ()

/-- What a confirmation does after its update. -/
def confirmed : Service Unit :=
  AuditService.record (some userId) .auth2faEnabled

/-- The code left at a point. -/
def code : TwoFactorStage → Service Unit
  | findForSetup => TwoFactorRequest.start2fa.handle app userId
  | generate email => do
      let (secret, initializationVector) ← query fun input _ =>
        (input.totpSecret, input.initializationVector)
      let _ ← UsersService.setTwoFactorSecret userId
        (EncryptionService.encrypt app initializationVector secret)
      showSecret app email secret
  | setSecret email secret initializationVector => do
      let _ ← UsersService.setTwoFactorSecret userId
        (EncryptionService.encrypt app initializationVector secret)
      showSecret app email secret
  | findForConfirmation code => AuthService.confirm2fa app userId code
  | verify code secret => do
      let now ← Service.dateNow
      if app.verifyTotp code secret now then
        let _ ← UsersService.enableTwoFactor userId
        confirmed userId
      else
        throw (.unauthorized "Invalid code")
  | enable _ => do
      let _ ← UsersService.enableTwoFactor userId
      confirmed userId
  | rest process _ => process

/-- The point a request starts at. -/
def start : TwoFactorRequest → TwoFactorStage
  | .start2fa => findForSetup
  | .confirm2fa code => findForConfirmation code
  | .disable2fa password => rest (AuthService.disable2fa app userId password) none

theorem code_start (request : TwoFactorRequest) :
    code app userId (start app userId request) = request.handle app userId := by
  cases request <;> rfl

/-- Where the lookup of the user of a set-up leads. -/
def foundForSetup : Option User → TwoFactorStage
  | none => rest (throw (.unauthorized "Unauthorized")) none
  | some user =>
      if user.twoFactorEnabled then
        rest (throw (.badRequest "Two-factor authentication is already enabled")) none
      else generate user.email

/-- Where the lookup of the user of a confirmation leads. -/
def foundForConfirmation (code : String) (user : Option User) : TwoFactorStage :=
  match (user.bind (·.twoFactorSecret)).filter (· ≠ "") with
  | none => rest (throw (.badRequest "Start 2FA setup before confirming it")) none
  | some encrypted =>
      match EncryptionService.decrypt app encrypted with
      | .error error => rest (throw error) none
      | .ok secret => verify code secret

/-- After an update that stops where the user is not on file. -/
def updated
    (process : Service Unit)
    (verified : Option String)
    (user : Option User) : TwoFactorStage :=
  match user with
  | none => rest (throw .recordNotFound) verified
  | some _ => rest process verified

/-- What the routes do about the second factor of the account, call by call. -/
def machine : Machine TwoFactorStage Input ApiError World where
  effect
    | setSecret _ secret initializationVector, _, world =>
        world.rewriteUser userId fun user =>
          { user with
            twoFactorSecret :=
              some (EncryptionService.encrypt app initializationVector secret) }
    | enable _, _, world =>
        world.rewriteUser userId fun user => { user with twoFactorEnabled := true }
    | rest process _, input, world => process.effect input world
    | _, _, world => world
  next
    | findForSetup, _, world => foundForSetup (world.userRow userId)
    | generate email, input, _ => setSecret email input.totpSecret input.initializationVector
    | setSecret email secret _, _, world =>
        updated (showSecret app email secret) none (world.userRow userId)
    | findForConfirmation code, _, world => foundForConfirmation app code (world.userRow userId)
    | verify code secret, input, _ =>
        if app.verifyTotp code secret input.now then enable secret
        else rest (throw (.unauthorized "Invalid code")) none
    | enable secret, _, world => updated (confirmed userId) (some secret) (world.userRow userId)
    | rest process verified, input, world => rest (process.residual input world) verified
  abort
    | enable secret, error => rest (throw error) (some secret)
    | rest process verified, error => rest (process.rejected error) verified
    | _, error => rest (throw error) none

/-! ## The points move as the code does -/

/-- The calls left from the lookup of the user of a set-up. -/
theorem code_findForSetup :
    code app userId findForSetup =
      UsersService.findById userId >>= fun user => code app userId (foundForSetup user) := by
  show (AuthService.start2fa app userId >>= fun _ => pure ()) = _
  unfold AuthService.start2fa
  rw [bind_assoc]
  congr 1
  funext user
  cases user with
  | none => rfl
  | some user =>
      unfold foundForSetup
      dsimp only
      split
      · rfl
      · simp only [bind_assoc]
        rfl

theorem implements : (machine app userId).Implements (code app userId) where
  effect point input world := by
    cases point with
    | setSecret email secret initializationVector =>
        exact UsersService.effect_update_bind userId _ _
    | enable secret => exact UsersService.effect_update_bind userId _ _
    | _ => rfl
  next point input world := by
    cases point with
    | findForSetup =>
        rw [code_findForSetup]
        rfl
    | generate email => rfl
    | setSecret email secret initializationVector =>
        show Process.residual input world (UsersService.update userId _ >>= _) =
          code app userId (updated (showSecret app email secret) none (world.userRow userId))
        rw [UsersService.residual_update_bind]
        cases world.userRow userId <;> rfl
    | findForConfirmation confirmationCode =>
        show Process.residual input world (UsersService.findById userId >>= _) =
          code app userId (foundForConfirmation app confirmationCode (world.userRow userId))
        rw [UsersService.residual_findById_bind]
        unfold foundForConfirmation
        cases ((world.userRow userId).bind (·.twoFactorSecret)).filter (· ≠ "") with
        | none => rfl
        | some encrypted =>
            dsimp only
            cases EncryptionService.decrypt app encrypted <;> rfl
    | verify confirmationCode secret =>
        show Process.residual input world (Service.dateNow >>= _) = code app userId
          (if app.verifyTotp confirmationCode secret input.now then enable secret
            else rest (throw (.unauthorized "Invalid code")) none)
        unfold Service.dateNow
        rw [residual_query_bind]
        split <;> rfl
    | enable secret =>
        show Process.residual input world (UsersService.update userId _ >>= _) =
          code app userId (updated (confirmed userId) (some secret) (world.userRow userId))
        rw [UsersService.residual_update_bind]
        cases world.userRow userId <;> rfl
    | rest process verified => rfl
  abort point error := by
    cases point <;> rfl

end TwoFactorStage

/-! ## Calls that keep the secret -/

/-- Two-factor authentication is not switched on, and where it stays on the stored secret
is the same. -/
def KeepsTwoFactor (userId : UserId) (before after : World) : Prop :=
  ∀ user, after.userRow userId = some user → user.twoFactorEnabled = true →
    ∃ earlier, before.userRow userId = some earlier ∧ earlier.twoFactorEnabled = true ∧
      earlier.twoFactorSecret = user.twoFactorSecret

instance (userId : UserId) : IsPreorder World (KeepsTwoFactor userId) where
  refl _ := fun user found enabled => ⟨user, found, enabled, rfl⟩
  trans _ _ _ first second := by
    intro user found enabled
    obtain ⟨middle, foundMiddle, enabledMiddle, sameMiddle⟩ := second user found enabled
    obtain ⟨earlier, foundEarlier, enabledEarlier, same⟩ :=
      first middle foundMiddle enabledMiddle
    exact ⟨earlier, foundEarlier, enabledEarlier, same.trans sameMiddle⟩

theorem keepsTwoFactor_record {userId : UserId} (actor : Option UserId) (action : AuditAction) :
    (AuditService.record actor action).Respects (KeepsTwoFactor userId) :=
  Respects.command fun _ _ user found enabled => ⟨user, found, enabled, rfl⟩

theorem keepsTwoFactor_disable2fa (app : Deployment) (userId : UserId) (password : String) :
    (AuthService.disable2fa app userId password).Respects (KeepsTwoFactor userId) := by
  refine Respects.bind (Respects.query _) fun found => ?_
  cases found with
  | none => exact Respects.throw _
  | some user =>
      refine Respects.ite ?_ (Respects.throw _)
      refine Respects.bind ?_ fun _ => keepsTwoFactor_record _ _
      refine Respects.attempt fun input world value after updated => ?_
      intro row found enabled
      split at updated
      · cases updated
      · cases updated
        rw [userRow_updated rfl (by simp)] at found
        obtain ⟨earlier, -, rfl⟩ := Option.map_eq_some_iff.mp found
        cases enabled

namespace TwoFactorStage

variable (app : Deployment) (userId : UserId)

/-- What is left at a point without a write of its own keeps the secret. -/
def Harmless (point : TwoFactorStage) : Prop :=
  match point with
  | rest process _ => process.Respects (KeepsTwoFactor userId)
  | _ => True

theorem harmless_start (request : TwoFactorRequest) :
    (start app userId request).Harmless userId := by
  cases request with
  | disable2fa password => exact keepsTwoFactor_disable2fa app userId password
  | _ => trivial

theorem harmless_updated
    {process : Service Unit}
    (respects : process.Respects (KeepsTwoFactor userId))
    (verified : Option String)
    (user : Option User) :
    (updated process verified user).Harmless userId := by
  cases user with
  | none => trivial
  | some user => exact respects

theorem harmless_next
    {point : TwoFactorStage}
    (harmless : point.Harmless userId)
    (input : Input)
    (world : World) :
    ((machine app userId).next point input world).Harmless userId := by
  cases point with
  | findForSetup =>
      simp only [machine, foundForSetup]
      split
      · trivial
      · split <;> trivial
  | generate email => trivial
  | setSecret email secret initializationVector =>
      exact harmless_updated userId (Respects.bind (Respects.query _) fun _ => Respects.pure _) _ _
  | findForConfirmation confirmationCode =>
      simp only [machine, foundForConfirmation]
      split
      · trivial
      · split <;> trivial
  | verify confirmationCode secret =>
      simp only [machine]
      split <;> trivial
  | enable secret => exact harmless_updated userId (keepsTwoFactor_record _ _) _ _
  | rest process verified => exact Respects.residual harmless input world

theorem harmless_abort
    {point : TwoFactorStage}
    (harmless : point.Harmless userId)
    (error : ApiError) :
    ((machine app userId).abort point error).Harmless userId := by
  cases point with
  | rest process verified => exact Respects.rejected harmless error
  | _ => trivial

/-! ## Confirmed secrets -/

/-- The secrets that a code has been verified for, before or by one of the requests. -/
def Confirmed (earlier : List String) (members : List TwoFactorStage) (secret : String) : Prop :=
  secret ∈ earlier ∨ ∃ point ∈ members, point.verified = some secret

theorem verified_updated (process : Service Unit) (secret : Option String) (user : Option User) :
    (updated process secret user).verified = secret := by
  cases user <;> rfl

/-- A verified code stays so. -/
theorem verified_next
    {point : TwoFactorStage}
    {secret : String}
    (isVerified : point.verified = some secret)
    (input : Input)
    (world : World) :
    ((machine app userId).next point input world).verified = some secret := by
  cases point with
  | enable other => exact (verified_updated _ _ _).trans isVerified
  | rest process other => exact isVerified
  | _ => cases isVerified

theorem verified_abort
    {point : TwoFactorStage}
    {secret : String}
    (isVerified : point.verified = some secret)
    (error : ApiError) :
    ((machine app userId).abort point error).verified = some secret := by
  cases point with
  | enable other => exact isVerified
  | rest process other => exact isVerified
  | _ => cases isVerified

section

variable {earlier : List String} {members : List TwoFactorStage} {position : Nat}
  {old new : TwoFactorStage} {secret : String}

/-- What was confirmed stays so when a member moves on. -/
theorem Confirmed.set
    (chosen : members[position]? = some old)
    (keeps : ∀ secret, old.verified = some secret → new.verified = some secret)
    (confirmed : Confirmed earlier members secret) :
    Confirmed earlier (members.set position new) secret := by
  refine confirmed.imp_right ?_
  rintro ⟨point, present, isVerified⟩
  obtain ⟨index, found⟩ := List.mem_iff_getElem?.mp present
  by_cases same : position = index
  · subst same
    obtain rfl : point = old := Option.some.inj (found.symm.trans chosen)
    have inside : position < members.length := (List.getElem?_eq_some_iff.mp chosen).1
    exact ⟨new, List.mem_set inside new, keeps secret isVerified⟩
  · refine ⟨point, List.mem_iff_getElem?.mpr ⟨index, ?_⟩, isVerified⟩
    rw [List.getElem?_set_ne same, found]

/-- A member that has verified no other code adds nothing to what is confirmed. -/
theorem confirmed_set_iff
    (chosen : members[position]? = some old)
    (same : new.verified = old.verified) :
    Confirmed earlier (members.set position new) secret ↔ Confirmed earlier members secret := by
  constructor
  · refine fun confirmed => confirmed.imp_right ?_
    rintro ⟨point, present, isVerified⟩
    rcases List.mem_or_eq_of_mem_set present with old | rfl
    · exact ⟨point, old, isVerified⟩
    · exact ⟨old, List.mem_of_getElem? chosen, same ▸ isVerified⟩
  · exact Confirmed.set chosen fun secret isVerified => same.trans isVerified

end

end TwoFactorStage

/-! ## Secrets that are confirmed -/

/-- What is stored is the encryption of a confirmed secret. -/
def Secured (app : Deployment) (confirmed : String → Prop) (stored : Option String) : Prop :=
  ∃ encrypted secret, stored = some encrypted ∧
    EncryptionService.decrypt app encrypted = .ok secret ∧ confirmed secret

/-- While two-factor authentication is switched on the stored secret is a confirmed
one. -/
def TwoFactorSound
    (app : Deployment)
    (userId : UserId)
    (confirmed : String → Prop)
    (world : World) : Prop :=
  ∀ user, world.userRow userId = some user → user.twoFactorEnabled = true →
    Secured app confirmed user.twoFactorSecret

theorem Secured.mono
    {app : Deployment}
    {confirmed more : String → Prop}
    {stored : Option String}
    (secured : Secured app confirmed stored)
    (implies : ∀ secret, confirmed secret → more secret) :
    Secured app more stored := by
  obtain ⟨encrypted, secret, isStored, decrypts, isConfirmed⟩ := secured
  exact ⟨encrypted, secret, isStored, decrypts, implies secret isConfirmed⟩

theorem secured_congr
    {app : Deployment}
    {confirmed other : String → Prop}
    (same : ∀ secret, confirmed secret ↔ other secret)
    (stored : Option String) :
    Secured app confirmed stored ↔ Secured app other stored :=
  ⟨fun secured => secured.mono fun secret => (same secret).mp,
    fun secured => secured.mono fun secret => (same secret).mpr⟩

/-- Calls that keep the secret keep it a confirmed one, and so do further confirmations. -/
theorem TwoFactorSound.keeps
    {app : Deployment}
    {userId : UserId}
    {confirmed more : String → Prop}
    {before after : World}
    (sound : TwoFactorSound app userId confirmed before)
    (implies : ∀ secret, confirmed secret → more secret)
    (keeps : KeepsTwoFactor userId before after) :
    TwoFactorSound app userId more after := by
  intro user found enabled
  obtain ⟨earlier, foundEarlier, enabledEarlier, same⟩ := keeps user found enabled
  rw [← same]
  exact (sound earlier foundEarlier enabledEarlier).mono implies

namespace TwoFactorStage

/-- A write leaves a confirmed secret behind: that of a set-up while two-factor
authentication is switched off, unless the new secret is confirmed already, and the one
that switches it on while a confirmed secret is stored. -/
def Allows
    (app : Deployment)
    (confirmed : String → Prop)
    (point : TwoFactorStage)
    (user : User) : Prop :=
  match point with
  | setSecret _ secret initializationVector =>
      user.twoFactorEnabled = true →
        Secured app confirmed (some (EncryptionService.encrypt app initializationVector secret))
  | enable _ => Secured app confirmed user.twoFactorSecret
  | _ => True

/-- The write of this turn, if there is one, leaves a confirmed secret behind. -/
def Permits
    (app : Deployment)
    (userId : UserId)
    (earlier : List String)
    (crew : Crew TwoFactorStage World)
    (turn : CrewTurn Input ApiError) : Prop :=
  turn.rejected = none → ∀ point, crew.members[turn.member]? = some point →
    ∀ user, crew.state.userRow userId = some user →
      point.Allows app (Confirmed earlier crew.members) user

variable {app : Deployment} {userId : UserId} {earlier : List String}

/-- A write to the user's row, judged by the row it leaves. -/
theorem sound_rewriteUser_iff
    {confirmed : String → Prop}
    {world : World}
    {rewrite : User → User}
    (sameId : ∀ user, (rewrite user).id = user.id) :
    TwoFactorSound app userId confirmed (world.rewriteUser userId rewrite) ↔
      ∀ user, world.userRow userId = some user → (rewrite user).twoFactorEnabled = true →
        Secured app confirmed (rewrite user).twoFactorSecret := by
  unfold TwoFactorSound
  rw [userRow_updated rfl sameId]
  cases world.userRow userId <;> simp

/-- Whether the next call writes a secret or switches two-factor authentication on. -/
def writes : TwoFactorStage → Bool
  | setSecret _ _ _ => true
  | enable _ => true
  | _ => false

theorem verified_next_of_writes
    {point : TwoFactorStage}
    (writes : point.writes = true)
    (input : Input)
    (world : World) :
    ((machine app userId).next point input world).verified = point.verified := by
  cases point with
  | setSecret email secret initializationVector => exact verified_updated _ _ _
  | enable secret => exact verified_updated _ _ _
  | _ => cases writes

/-- A call leaves a confirmed secret behind exactly if its write does. -/
theorem sound_effect_iff
    {confirmed more : String → Prop}
    {point : TwoFactorStage}
    {world : World}
    (harmless : point.Harmless userId)
    (sound : TwoFactorSound app userId confirmed world)
    (implies : ∀ secret, confirmed secret → more secret)
    (same : point.writes = true → ∀ secret, more secret ↔ confirmed secret)
    (input : Input) :
    TwoFactorSound app userId more ((machine app userId).effect point input world) ↔
      ∀ user, world.userRow userId = some user → point.Allows app confirmed user := by
  have unwritten : TwoFactorSound app userId more world :=
    sound.keeps implies (Std.Refl.refl world)
  cases point with
  | setSecret email secret initializationVector =>
      refine (sound_rewriteUser_iff (by simp)).trans ?_
      exact forall_congr' fun user => imp_congr_right fun _ => imp_congr_right fun _ =>
        secured_congr (same rfl) _
  | enable secret =>
      refine (sound_rewriteUser_iff (by simp)).trans ?_
      refine forall_congr' fun user => imp_congr_right fun _ => ?_
      exact (forall_prop_of_true rfl).trans (secured_congr (same rfl) _)
  | rest process secret =>
      exact iff_of_true (sound.keeps implies (harmless.effect input world)) fun _ _ => trivial
  | _ => exact iff_of_true unwritten fun _ _ => trivial

/-- A turn leaves a confirmed secret behind exactly if it permits so. -/
theorem sound_step_iff
    {crew : Crew TwoFactorStage World}
    (harmless : ∀ point ∈ crew.members, point.Harmless userId)
    (sound : TwoFactorSound app userId (Confirmed earlier crew.members) crew.state)
    (turn : CrewTurn Input ApiError) :
    TwoFactorSound app userId
        (Confirmed earlier ((machine app userId).step crew turn).members)
        ((machine app userId).step crew turn).state ↔
      Permits app userId earlier crew turn := by
  unfold Permits
  rcases Machine.step_cases (machine app userId) crew turn with
    ⟨absent, same⟩ | ⟨point, chosen, ⟨taken, after⟩ | ⟨error, rejected, after⟩⟩
  · rw [same]
    simp [sound, absent]
  · rw [after]
    simp only [taken, chosen, Option.some.injEq, forall_const, forall_eq']
    refine sound_effect_iff (harmless point (List.mem_of_getElem? chosen)) sound ?_ ?_ turn.input
    · intro secret
      exact Confirmed.set chosen fun secret isVerified => verified_next app userId isVerified _ _
    · intro writes secret
      exact confirmed_set_iff chosen (verified_next_of_writes writes _ _)
  · rw [after]
    refine iff_of_true (sound.keeps ?_ (Std.Refl.refl crew.state)) ?_
    · intro secret
      exact Confirmed.set chosen fun secret isVerified => verified_abort app userId isVerified _
    · simp [rejected]

theorem harmless_step
    {crew : Crew TwoFactorStage World}
    (harmless : ∀ point ∈ crew.members, point.Harmless userId)
    (turn : CrewTurn Input ApiError) :
    ∀ point ∈ ((machine app userId).step crew turn).members, point.Harmless userId := by
  refine (Machine.step_keeps (fun _ => True) ?_ ?_ trivial harmless turn).2
  · intro point input world harmless _
    exact ⟨trivial, harmless_next app userId harmless input world⟩
  · intro point error harmless
    exact harmless_abort app userId harmless error

end TwoFactorStage

/-! ## Requests in any order of their calls -/

/-- Requests about the two-factor authentication of one user. -/
def twoFactorRequests
    (app : Deployment)
    (userId : UserId)
    (requests : List TwoFactorRequest)
    (world : World) : Crew (Service Unit) World where
  state := world
  members := requests.map (·.handle app userId)

namespace TwoFactorStage

/-- The requests, by the points they start at. -/
def starts
    (app : Deployment)
    (userId : UserId)
    (requests : List TwoFactorRequest)
    (world : World) : Crew TwoFactorStage World where
  state := world
  members := requests.map (start app userId)

variable {app : Deployment} {userId : UserId}

theorem run_twoFactorRequests
    (requests : List TwoFactorRequest)
    (world : World)
    (schedule : List (CrewTurn Input ApiError)) :
    Process.machine.run (twoFactorRequests app userId requests world) schedule =
      Machine.Implements.crew (code app userId)
        ((machine app userId).run (starts app userId requests world) schedule) := by
  have members : (requests.map (start app userId)).map (code app userId) =
      requests.map (·.handle app userId) := by
    simp [code_start, Function.comp_def]
  rw [← (implements app userId).run]
  simp only [Machine.Implements.crew, twoFactorRequests, starts, members]

end TwoFactorStage

/-- However the calls of set-ups, confirmations and disablings of one user interleave, and
whichever of them fail, two-factor authentication is never switched on with another
secret than a confirmed one exactly if no write of a secret and no switching on leaves
one behind. -/
theorem two_factor_sound_iff
    (app : Deployment)
    (userId : UserId)
    (earlier : List String)
    (requests : List TwoFactorRequest)
    (world : World)
    (schedule : List (CrewTurn Input ApiError))
    (sound : TwoFactorSound app userId (· ∈ earlier) world) :
    (∀ reached, reached <+: schedule →
      TwoFactorSound app userId
        (TwoFactorStage.Confirmed earlier
          ((TwoFactorStage.machine app userId).run
            (TwoFactorStage.starts app userId requests world) reached).members)
        (Process.machine.run (twoFactorRequests app userId requests world) reached).state) ↔
    Along (TwoFactorStage.machine app userId).step
      (TwoFactorStage.Permits app userId earlier)
      (TwoFactorStage.starts app userId requests world) schedule := by
  have harmless : ∀ point ∈ (TwoFactorStage.starts app userId requests world).members,
      point.Harmless userId := by
    intro point present
    obtain ⟨request, -, rfl⟩ := List.mem_map.mp present
    exact TwoFactorStage.harmless_start app userId request
  let Harmless (crew : Crew TwoFactorStage World) : Prop :=
    ∀ point ∈ crew.members, point.Harmless userId
  let Sound (crew : Crew TwoFactorStage World) : Prop :=
    TwoFactorSound app userId (TwoFactorStage.Confirmed earlier crew.members) crew.state
  have kept : ∀ crew, ∀ turn ∈ schedule, Harmless crew →
      Harmless ((TwoFactorStage.machine app userId).step crew turn) :=
    fun crew turn _ harmless => TwoFactorStage.harmless_step harmless turn
  have decides : ∀ crew, ∀ turn ∈ schedule, Harmless crew → Sound crew →
      (Sound ((TwoFactorStage.machine app userId).step crew turn) ↔
        TwoFactorStage.Permits app userId earlier crew turn) :=
    fun crew turn _ harmless sound => TwoFactorStage.sound_step_iff harmless sound turn
  have first : Sound (TwoFactorStage.starts app userId requests world) :=
    sound.keeps (fun secret => Or.inl) (Std.Refl.refl world)
  simp only [TwoFactorStage.run_twoFactorRequests]
  exact Along.iff_prefixes kept decides harmless first

/-- A deployment where every code is accepted, and a user who has started a set-up. -/
def openDeployment : Deployment := { Deployment.defaults with verifyTotp := fun _ _ _ => true }

/-- An account that has stored a secret and confirmed no code. -/
def settingUp : World :=
  { users :=
      [{ id := 1, email := "a@b.com", passwordHash := "pw",
         twoFactorSecret := some ("iv" ++ ":" ++ "tag" ++ ":" ++ "SECRET") }] }

/-- The turns of some members, all at time 0. -/
def turnsOf (members : List Nat) : List (CrewTurn Input ApiError) :=
  members.map fun member => { member, input := { now := 0 } }

theorem settingUp_decrypts :
    EncryptionService.decrypt openDeployment ("iv" ++ ":" ++ "tag" ++ ":" ++ "SECRET") =
      .ok "SECRET" := by
  apply EncryptionService.decrypt_parts <;> decide

/-- The confirmation has read the stored secret. -/
theorem confirmation_read :
    (TwoFactorStage.machine openDeployment 1).run
        (TwoFactorStage.starts openDeployment 1 [.confirm2fa "123456", .disable2fa "pw"] settingUp)
        (turnsOf [0]) =
      { state := settingUp
        members :=
          [.verify "123456" "SECRET",
            .rest (AuthService.disable2fa openDeployment 1 "pw") none] } := by
  have stored : ((settingUp.userRow 1).bind (·.twoFactorSecret)).filter (· ≠ "") =
      some ("iv" ++ ":" ++ "tag" ++ ":" ++ "SECRET") := by decide
  have found : TwoFactorStage.foundForConfirmation openDeployment "123456" (settingUp.userRow 1) =
      .verify "123456" "SECRET" := by
    unfold TwoFactorStage.foundForConfirmation
    rw [stored]
    simp only [settingUp_decrypts]
  show ({ state := settingUp
          members := [TwoFactorStage.foundForConfirmation openDeployment "123456"
              (settingUp.userRow 1),
            .rest (AuthService.disable2fa openDeployment 1 "pw") none] } :
        Crew TwoFactorStage World) = _
  rw [found]

/-- A confirmation that switches two-factor authentication on, beside a disabling that has
read the user before and switches it off again. -/
theorem confirmation_sound :
    ((Process.machine.run
        (twoFactorRequests openDeployment 1 [.confirm2fa "123456", .disable2fa "pw"] settingUp)
        (turnsOf [0, 1, 0, 0])).state.userRow 1).map (·.twoFactorEnabled) = some true ∧
    ∀ reached, reached <+: turnsOf [0, 1, 0, 0, 1, 1] →
      TwoFactorSound openDeployment 1
        (TwoFactorStage.Confirmed []
          ((TwoFactorStage.machine openDeployment 1).run
            (TwoFactorStage.starts openDeployment 1 [.confirm2fa "123456", .disable2fa "pw"]
              settingUp) reached).members)
        (Process.machine.run
          (twoFactorRequests openDeployment 1 [.confirm2fa "123456", .disable2fa "pw"] settingUp)
          reached).state := by
  have read := confirmation_read
  unfold Machine.run at read
  constructor
  · rw [TwoFactorStage.run_twoFactorRequests,
      show turnsOf [0, 1, 0, 0] = turnsOf [0] ++ turnsOf [1, 0, 0] from rfl,
      Machine.run, List.foldl_append, read]
    rfl
  · have sound : TwoFactorSound openDeployment 1 (· ∈ []) settingUp := by
      intro user found enabled
      cases found
      cases enabled
    refine (two_factor_sound_iff openDeployment 1 [] _ settingUp _ sound).mpr ?_
    rw [show turnsOf [0, 1, 0, 0, 1, 1] = turnsOf [0] ++ turnsOf [1, 0, 0, 1, 1] from rfl,
      Along.append_iff, read]
    refine ⟨⟨?_, trivial⟩, ?_, ?_, ?_, ?_, ?_, trivial⟩
    all_goals
      intro _ point chosen user found
      cases chosen
      cases found
    · trivial
    · trivial
    · trivial
    · exact ⟨_, "SECRET", rfl, settingUp_decrypts, .inr ⟨_, List.mem_cons_self, rfl⟩⟩
    · trivial
    · trivial

/-- A confirmation that read the secret before it was disabled switches two-factor
authentication on without one. -/
theorem two_factor_not_sound :
    TwoFactorSound openDeployment 1 (· ∈ []) settingUp ∧
    ¬ TwoFactorSound openDeployment 1 (fun _ => True)
      (Process.machine.run
        (twoFactorRequests openDeployment 1 [.confirm2fa "123456", .disable2fa "pw"] settingUp)
        (turnsOf [0, 0, 1, 1, 0])).state := by
  constructor
  · intro user found enabled
    cases found
    cases enabled
  · rw [TwoFactorStage.run_twoFactorRequests,
      show turnsOf [0, 0, 1, 1, 0] = turnsOf [0] ++ turnsOf [0, 1, 1, 0] from rfl,
      Machine.run, List.foldl_append]
    have read := confirmation_read
    unfold Machine.run at read
    rw [read]
    intro sound
    obtain ⟨encrypted, -, stored, -⟩ := sound _ rfl rfl
    cases stored

end ConferenceContact
