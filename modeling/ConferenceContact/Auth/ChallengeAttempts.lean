import ConferenceContact.Auth.LaterTokens
import ConferenceContact.Auth.RedisEntries
import ConferenceContact.Auth.UserRows
import ConferenceContact.Foundation.Crews

/-!
# Attempts at one login challenge

Any number of requests may answer one challenge at the same time.  Each is counted in
Redis before its code is compared, under a key that expires ten minutes after the first
of them, and only five get that far while the counter lives.  The counter outlives the
challenge token, but not every request that was admitted with the token is counted
before the counter expires.
-/

namespace ConferenceContact

open Process

/-- A code submitted for a challenge, and the request it comes with. -/
structure ChallengeAttempt where
  code : String
  requestMeta : RequestMeta

/-- The request that submits a code. -/
def ChallengeAttempt.handle
    (app : Deployment)
    (challengeToken : Jwt)
    (attempt : ChallengeAttempt) : Service Unit := do
  let _ ← AuthService.verifyLogin app ⟨challengeToken, attempt.code⟩ attempt.requestMeta
  return ()

/-- The time to live of the counter, in seconds. -/
def attemptTtlSeconds : Nat := loginChallengeExpiryMinutes * 60

/-! ## The control points -/

/-- The point a request has come to. -/
inductive AttemptStage
  /-- The check of the challenge token. -/
  | verifyToken (attempt : ChallengeAttempt)
  | findUser (attempt : ChallengeAttempt) (payload : LoginChallengePayload)
  /-- The first call to Redis. -/
  | reachRedis (attempt : ChallengeAttempt) (payload : LoginChallengePayload) (user : User)
  | incr (attempt : ChallengeAttempt) (payload : LoginChallengePayload) (user : User)
  | expire (attempt : ChallengeAttempt) (payload : LoginChallengePayload) (user : User)
  /-- Any other point, and whether the code is compared. -/
  | rest (process : Service Unit) (compared : Bool)

namespace AttemptStage

variable (app : Deployment) (token : Jwt)

/-- What is left once the code is compared. -/
def judge
    (attempt : ChallengeAttempt)
    (payload : LoginChallengePayload)
    (user : User) : Service Unit := do
  let valid ← AuthService.codeValid app user payload attempt.code
  if !valid then
    AuditService.record (some user.id) .authDeviceVerificationFailed
    throw (.unauthorized "Invalid code")
  if payload.method = .emailCode ∧ user.emailVerifiedAt = none then
    let _ ← UsersService.markEmailVerified user.id
  let _ ← AuthService.issueTokenPair app user.id payload.deviceId attempt.requestMeta true
  return ()

/-- What is left after the attempt is counted. -/
def counted
    (attempt : ChallengeAttempt)
    (payload : LoginChallengePayload)
    (user : User)
    (withinAttemptCap : Bool) : Service Unit :=
  if withinAttemptCap then judge app attempt payload user
  else throw (.unauthorized "Too many attempts — please log in again")

/-- An attempt is admitted where Redis does not answer. -/
def failsOpen (_ : ApiError) : Service Bool := pure true

/-- The calls to Redis left once an attempt is counted. -/
def settled (count : Nat) : Service Bool := do
  if count = 1 then
    Redis.expire (.challengeAttempts ⟨token⟩) attemptTtlSeconds
  return decide (count ≤ TokenRevocationService.maxChallengeAttempts)

/-- The code left at a point. -/
def code : AttemptStage → Service Unit
  | verifyToken attempt => attempt.handle app token
  | findUser attempt payload => do
      let some user ← UsersService.findById payload.sub
        | throw (.unauthorized "Account not found")
      TokenRevocationService.registerChallengeAttempt token attemptTtlSeconds >>=
        counted app attempt payload user
  | reachRedis attempt payload user =>
      TokenRevocationService.registerChallengeAttempt token attemptTtlSeconds >>=
        counted app attempt payload user
  | incr attempt payload user =>
      tryCatch (Redis.incr (.challengeAttempts ⟨token⟩) >>= settled token) failsOpen >>=
        counted app attempt payload user
  | expire attempt payload user =>
      tryCatch (settled token 1) failsOpen >>= counted app attempt payload user
  | rest process _ => process

/-- Where the check of the token leads. -/
def verified (attempt : ChallengeAttempt) : Option JwtPayload → AttemptStage
  | some (.loginChallenge payload) => findUser attempt payload
  | some (.access _) => rest (throw (.unauthorized "Invalid verification token")) false
  | none => rest (throw (.unauthorized "Verification expired — please log in again")) false

/-- Where a count leads. -/
def admitted
    (attempt : ChallengeAttempt)
    (payload : LoginChallengePayload)
    (user : User)
    (count : Nat) : AttemptStage :=
  if count = 1 then expire attempt payload user
  else if count ≤ TokenRevocationService.maxChallengeAttempts then
    rest (judge app attempt payload user) true
  else rest (throw (.unauthorized "Too many attempts — please log in again")) false

/-- The counter after one more attempt. -/
def bumped (token : Jwt) (now : Time) (world : World) : RedisEntry :=
  match Redis.lookup now (.challengeAttempts ⟨token⟩) world.redis with
  | some entry => { entry with value := entry.value + 1 }
  | none => { key := .challengeAttempts ⟨token⟩, value := 1 }

/-- The counter with its time to live. -/
def expiring (token : Jwt) (now : Time) (world : World) : World :=
  match Redis.lookup now (.challengeAttempts ⟨token⟩) world.redis with
  | some entry =>
      { world with
        redis := Redis.put { entry with expiresAt := some (now + attemptTtlSeconds * 1000) }
          world.redis }
  | none => world

/-- What an attempt does call by call. -/
def machine : Machine AttemptStage Input ApiError World where
  effect
    | incr _ _ _, input, world =>
        { world with redis := Redis.put (bumped token input.now world) world.redis }
    | expire _ _ _, input, world => expiring token input.now world
    | rest process _, input, world => process.effect input world
    | _, _, world => world
  next
    | verifyToken attempt, input, world =>
        verified attempt
          (if token ∈ world.signed ∧ input.now / 1000 < token.exp then some token.payload
            else none)
    | findUser attempt payload, _, world =>
        match world.userRow payload.sub with
        | some user => reachRedis attempt payload user
        | none => rest (throw (.unauthorized "Account not found")) false
    | reachRedis attempt payload user, input, _ =>
        if input.redisAvailable then incr attempt payload user
        else rest (judge app attempt payload user) true
    | incr attempt payload user, input, world =>
        admitted app attempt payload user (bumped token input.now world).value
    | expire attempt payload user, _, _ => rest (judge app attempt payload user) true
    | rest process compared, input, world => rest (process.residual input world) compared
  abort
    | reachRedis attempt payload user, _ => rest (judge app attempt payload user) true
    | incr attempt payload user, _ => rest (judge app attempt payload user) true
    | expire attempt payload user, _ => rest (judge app attempt payload user) true
    | rest process compared, error => rest (process.rejected error) compared
    | _, error => rest (throw error) false

/-! ## The points move as the code does -/

/-- The calls left from the check of the token. -/
theorem code_verifyToken (attempt : ChallengeAttempt) :
    code app token (verifyToken attempt) =
      JwtService.verifyAsync token >>= fun payload =>
        code app token (verified attempt payload) := by
  show (AuthService.verifyLogin app ⟨token, attempt.code⟩ attempt.requestMeta >>= fun _ =>
    pure ()) = _
  unfold AuthService.verifyLogin AuthService.checkChallenge
  simp only [bind_assoc]
  congr 1
  funext payload
  match payload with
  | none => rfl
  | some (.access payload) => rfl
  | some (.loginChallenge payload) =>
      show _ = (UsersService.findById payload.sub >>= _ : Service Unit)
      simp only [bind_assoc]
      congr 1
      funext user
      cases user with
      | none => rfl
      | some user =>
          simp only [bind_assoc]
          show (TokenRevocationService.registerChallengeAttempt token attemptTtlSeconds >>= _ :
            Service Unit) = _
          congr 1
          funext within
          cases within with
          | false => rfl
          | true =>
              simp only [counted, judge, Bool.not_true, Bool.false_eq_true, if_false, if_true,
                bind_assoc]
              congr 1
              funext valid
              cases valid with
              | false => rfl
              | true =>
                  simp only [Bool.not_true, Bool.false_eq_true, if_false, pure_bind]
                  split
                  · simp only [bind_assoc]
                  · rfl

/-- The calls left from the first call to Redis. -/
theorem code_reachRedis
    (attempt : ChallengeAttempt)
    (payload : LoginChallengePayload)
    (user : User) :
    code app token (reachRedis attempt payload user) =
      tryCatch (Redis.answered (Redis.incr (.challengeAttempts ⟨token⟩) >>= settled token))
        failsOpen >>= counted app attempt payload user := rfl

/-- The calls left from the count. -/
theorem code_admitted
    (attempt : ChallengeAttempt)
    (payload : LoginChallengePayload)
    (user : User)
    (count : Nat) :
    tryCatch (settled token count) failsOpen >>= counted app attempt payload user =
      code app token (admitted app attempt payload user count) := by
  unfold admitted
  by_cases first : count = 1
  · rw [if_pos first, first]
    rfl
  · have afterCount : settled token count =
        pure (decide (count ≤ TokenRevocationService.maxChallengeAttempts)) := by
      unfold settled
      rw [if_neg first]
    rw [if_neg first, afterCount, tryCatch_pure, Process.pure_bind]
    unfold counted
    by_cases within : count ≤ TokenRevocationService.maxChallengeAttempts
    · simp only [within, decide_true, if_true]
      rfl
    · simp only [within, decide_false, Bool.false_eq_true, if_false]
      rfl

theorem implements : (machine app token).Implements (code app token) where
  effect point input world := by
    cases point with
    | verifyToken attempt =>
        rw [code_verifyToken]
        rfl
    | _ => rfl
  next point input world := by
    cases point with
    | verifyToken attempt =>
        rw [code_verifyToken]
        rfl
    | findUser attempt payload =>
        show Process.residual input world (UsersService.findById payload.sub >>= _) = _
        rw [UsersService.residual_findById_bind]
        show _ = code app token (match world.userRow payload.sub with
          | some user => reachRedis attempt payload user
          | none => rest (throw (.unauthorized "Account not found")) false)
        cases world.userRow payload.sub <;> rfl
    | reachRedis attempt payload user =>
        rw [code_reachRedis, residual_bind rfl, residual_tryCatch _ _ rfl]
        show tryCatch
          (if input.redisAvailable then Redis.incr (.challengeAttempts ⟨token⟩) >>= settled token
            else throw .redis) failsOpen >>= counted app attempt payload user =
          code app token (if input.redisAvailable then incr attempt payload user
            else rest (judge app attempt payload user) true)
        cases input.redisAvailable <;> rfl
    | incr attempt payload user =>
        rw [code, residual_bind rfl, residual_tryCatch _ _ rfl]
        unfold Redis.incr
        rw [residual_attempt_bind]
        exact code_admitted app token attempt payload user (bumped token input.now world).value
    | expire attempt payload user => rfl
    | rest process compared => rfl
  abort point error := by
    cases point with
    | verifyToken attempt =>
        rw [code_verifyToken]
        rfl
    | _ => rfl

/-! ## What the rest of a request leaves alone -/

theorem sameRedis_judge
    (attempt : ChallengeAttempt)
    (payload : LoginChallengePayload)
    (user : User) :
    (judge app attempt payload user).Respects SameRedis := by
  unfold judge
  refine Respects.bind (Footprint.codeValid _ _ _ _) fun valid => ?_
  have issued : (do
      let _ ← AuthService.issueTokenPair app user.id payload.deviceId attempt.requestMeta true
      return () : Service Unit).Respects SameRedis :=
    Respects.bind (sameRedis_issueTokenPair _ _ _ _) fun _ => Respects.pure _
  have signsIn : (do
      if payload.method = .emailCode ∧ user.emailVerifiedAt = none then
        let _ ← UsersService.markEmailVerified user.id
      let _ ← AuthService.issueTokenPair app user.id payload.deviceId attempt.requestMeta true
      return () : Service Unit).Respects SameRedis :=
    Respects.ite
      (Respects.bind (sameRedis_of_same (sameTokens_updateUser _ _)) fun _ => issued) issued
  refine Respects.ite ?_ signsIn
  refine Respects.bind (sameRedis_of_same (sameTokens_record _ _)) fun _ => ?_
  exact Respects.bind (Respects.throw _) fun _ => signsIn

/-- What is left of a request does not reach Redis again. -/
def Harmless : AttemptStage → Prop
  | rest process _ => process.Respects SameRedis
  | _ => True

theorem harmless_next
    {point : AttemptStage}
    (harmless : point.Harmless)
    (input : Input)
    (world : World) :
    ((machine app token).next point input world).Harmless := by
  cases point with
  | verifyToken attempt =>
      simp only [machine]
      split
      · cases token.payload <;> trivial
      · trivial
  | findUser attempt payload =>
      simp only [machine]
      split <;> trivial
  | reachRedis attempt payload user =>
      simp only [machine]
      split
      · trivial
      · exact sameRedis_judge app attempt payload user
  | incr attempt payload user =>
      simp only [machine, admitted]
      split
      · trivial
      · split
        · exact sameRedis_judge app attempt payload user
        · trivial
  | expire attempt payload user => exact sameRedis_judge app attempt payload user
  | rest process compared => exact Respects.residual harmless input world

theorem harmless_abort
    {point : AttemptStage}
    (harmless : point.Harmless)
    (error : ApiError) :
    ((machine app token).abort point error).Harmless := by
  cases point with
  | rest process compared => exact Respects.rejected harmless error
  | verifyToken attempt => trivial
  | findUser attempt payload => trivial
  | _ => exact sameRedis_judge app _ _ _

end AttemptStage

/-! ## The counter -/

/-- The entries of a challenge's counter, whether or not they have expired. -/
def World.attempts (world : World) (token : Jwt) : List RedisEntry :=
  world.redis.filter fun entry => entry.key = .challengeAttempts ⟨token⟩

/-- The number of attempts that are counted. -/
def World.attemptCount (world : World) (token : Jwt) : Nat :=
  ((world.attempts token).head?.map (·.value)).getD 0

section

variable {token : Jwt} {now : Time} {world : World}

theorem lookup_attempts :
    Redis.lookup now (.challengeAttempts ⟨token⟩) world.redis =
      (world.attempts token).find? (Redis.RedisEntry.present now) :=
  lookup_entriesOf

theorem attempts_put
    {entry : RedisEntry}
    (keyed : entry.key = .challengeAttempts ⟨token⟩) :
    ({ world with redis := Redis.put entry world.redis } : World).attempts token = [entry] :=
  entriesOf_put keyed

theorem mem_attempts_of_lookup
    {entry : RedisEntry}
    (found : Redis.lookup now (.challengeAttempts ⟨token⟩) world.redis = some entry) :
    entry ∈ world.attempts token ∧ entry.key = .challengeAttempts ⟨token⟩ :=
  mem_entriesOf_of_lookup found

theorem bumped_key : (AttemptStage.bumped token now world).key = .challengeAttempts ⟨token⟩ := by
  unfold AttemptStage.bumped
  cases found : Redis.lookup now (.challengeAttempts ⟨token⟩) world.redis with
  | none => rfl
  | some entry => exact (mem_attempts_of_lookup found).2

/-- One more attempt, while the counter lives. -/
theorem bumped_of_present
    (lives : ∀ entry ∈ world.attempts token, Redis.RedisEntry.present now entry = true) :
    (AttemptStage.bumped token now world).value = world.attemptCount token + 1 := by
  unfold AttemptStage.bumped World.attemptCount
  rw [lookup_attempts]
  cases entries : world.attempts token with
  | nil => rfl
  | cons entry others =>
      have stored : entry ∈ world.attempts token := by simp [entries]
      simp [lives entry stored]

/-- A new time to live does not change the count. -/
theorem attempts_expiring
    (single : (world.attempts token).length ≤ 1) :
    ((AttemptStage.expiring token now world).attempts token).length ≤ 1 ∧
      (AttemptStage.expiring token now world).attemptCount token = world.attemptCount token := by
  unfold AttemptStage.expiring World.attemptCount
  cases found : Redis.lookup now (.challengeAttempts ⟨token⟩) world.redis with
  | none => exact ⟨single, rfl⟩
  | some entry =>
      obtain ⟨stored, keyed⟩ := mem_attempts_of_lookup found
      have only : world.attempts token = [entry] := by
        match entries : world.attempts token with
        | [] => simp [entries] at stored
        | [other] =>
            rw [entries] at stored
            rw [List.mem_singleton.mp stored]
        | first :: second :: others => simp [entries] at single
      dsimp only
      rw [attempts_put (by exact keyed), only]
      simp

theorem attempts_of_sameRedis
    {after : World}
    (same : SameRedis world after) :
    after.attempts token = world.attempts token := by
  unfold World.attempts
  rw [show after.redis = world.redis from same]

end

namespace AttemptStage

variable {app : Deployment} {token : Jwt}

/-- The code is compared, or will be. -/
def passed : AttemptStage → Bool
  | expire _ _ _ => true
  | rest _ compared => compared
  | _ => false

/-- The code is compared. -/
def compared : AttemptStage → Bool
  | rest _ compared => compared
  | _ => false

/-- The request is about to call Redis. -/
def callsRedis : AttemptStage → Bool
  | reachRedis _ _ _ => true
  | incr _ _ _ => true
  | expire _ _ _ => true
  | _ => false

/-- Redis answers the call of this turn, if it is one to Redis. -/
def RedisAnswers (crew : Crew AttemptStage World) (turn : CrewTurn Input ApiError) : Prop :=
  turn.input.redisAvailable = true ∧
    ∀ point, crew.members[turn.member]? = some point → point.callsRedis = true →
      turn.rejected = none

/-- An attempt that is counted in this turn finds the counter alive, if it has been
started. -/
def CountsInTime
    (token : Jwt)
    (crew : Crew AttemptStage World)
    (turn : CrewTurn Input ApiError) : Prop :=
  ∀ attempt payload user, crew.members[turn.member]? = some (incr attempt payload user) →
    ∀ entry ∈ crew.state.attempts token, Redis.RedisEntry.present turn.input.now entry = true

/-- The counter has counted the requests that were admitted. -/
structure Tallied (token : Jwt) (world : World) (passedCount : Int) : Prop where
  single : (world.attempts token).length ≤ 1
  counted : passedCount = min (world.attemptCount token)
    TokenRevocationService.maxChallengeAttempts

/-- The weight of a request that was admitted. -/
def passedWeight (point : AttemptStage) : Int :=
  if point.passed then 1 else 0

/-- A call admits a request exactly if it counts one of the first five. -/
theorem tallied_effect
    {point : AttemptStage}
    (harmless : point.Harmless)
    {input : Input}
    {world : World}
    (available : input.redisAvailable = true)
    (lives : ∀ attempt payload user, point = incr attempt payload user →
      ∀ entry ∈ world.attempts token, Redis.RedisEntry.present input.now entry = true)
    {passedCount : Int}
    (tallied : Tallied token world passedCount) :
    Tallied token ((machine app token).effect point input world)
      (passedCount - point.passedWeight +
        ((machine app token).next point input world).passedWeight) := by
  obtain ⟨single, counted⟩ := tallied
  cases point with
  | verifyToken attempt =>
      have weightless : ∀ payload, (verified attempt payload).passedWeight = 0 := by
        rintro (_ | _ | _) <;> rfl
      refine ⟨single, ?_⟩
      simp only [machine, weightless]
      simpa [passedWeight, passed] using counted
  | findUser attempt payload =>
      refine ⟨single, ?_⟩
      simp only [machine]
      cases world.userRow payload.sub <;> simpa [passedWeight, passed] using counted
  | reachRedis attempt payload user =>
      refine ⟨single, ?_⟩
      simpa [machine, available, passedWeight, passed] using counted
  | incr attempt payload user =>
      have value := bumped_of_present (lives attempt payload user rfl)
      have after : ((machine app token).effect (incr attempt payload user) input world).attempts
          token = [bumped token input.now world] := attempts_put bumped_key
      refine ⟨by simp [after], ?_⟩
      have weight :
          (admitted app attempt payload user (world.attemptCount token + 1)).passedWeight =
          if world.attemptCount token + 1 ≤ TokenRevocationService.maxChallengeAttempts then 1
          else 0 := by
        unfold admitted
        by_cases first : world.attemptCount token + 1 = 1
        · simp [first, passedWeight, passed, TokenRevocationService.maxChallengeAttempts]
        · rw [if_neg first]
          split <;> rfl
      have count : ((machine app token).effect (incr attempt payload user) input
          world).attemptCount token = world.attemptCount token + 1 := by
        simp [World.attemptCount, after, value]
      have before : (incr attempt payload user).passedWeight = 0 := rfl
      have next : ((machine app token).next (incr attempt payload user) input world).passedWeight =
          _ := (congrArg (passedWeight ∘ admitted app attempt payload user) value).trans weight
      rw [count, before, next]
      unfold TokenRevocationService.maxChallengeAttempts at counted ⊢
      by_cases within : world.attemptCount token + 1 ≤ 5
      · rw [if_pos within]
        omega
      · rw [if_neg within]
        omega
  | expire attempt payload user =>
      obtain ⟨stillSingle, sameCount⟩ :
          ((expiring token input.now world).attempts token).length ≤ 1 ∧
            (expiring token input.now world).attemptCount token = world.attemptCount token :=
        attempts_expiring single
      refine ⟨stillSingle, ?_⟩
      have count : ((machine app token).effect (expire attempt payload user) input
          world).attemptCount token = world.attemptCount token := sameCount
      rw [count]
      simpa [machine, passedWeight, passed] using counted
  | rest process compared =>
      have same : ((machine app token).effect (rest process compared) input world).attempts token =
          world.attempts token := attempts_of_sameRedis (harmless.effect input world)
      refine ⟨same ▸ single, ?_⟩
      unfold World.attemptCount at counted ⊢
      rw [same]
      exact (Int.sub_add_cancel _ _).trans counted

/-- A rejected call that is not one to Redis admits no request. -/
theorem passedWeight_abort
    {point : AttemptStage}
    (elsewhere : point.callsRedis ≠ true)
    (error : ApiError) :
    ((machine app token).abort point error).passedWeight = point.passedWeight := by
  cases point with
  | verifyToken attempt => rfl
  | findUser attempt payload => rfl
  | rest process compared => rfl
  | _ => exact absurd rfl elsewhere

theorem harmless_step
    {crew : Crew AttemptStage World}
    (harmless : ∀ point ∈ crew.members, point.Harmless)
    (turn : CrewTurn Input ApiError) :
    ∀ point ∈ ((machine app token).step crew turn).members, point.Harmless := by
  refine (Machine.step_keeps (fun _ => True) ?_ ?_ trivial harmless turn).2
  · intro point input world harmless _
    exact ⟨trivial, harmless_next app token harmless input world⟩
  · intro point error harmless
    exact harmless_abort app token harmless error

/-- A turn of a crew whose counter has counted the admitted requests. -/
theorem tallied_step
    {crew : Crew AttemptStage World}
    {turn : CrewTurn Input ApiError}
    (harmless : ∀ point ∈ crew.members, point.Harmless)
    (answers : RedisAnswers crew turn)
    (inTime : CountsInTime token crew turn)
    (tallied : Tallied token crew.state (Machine.weightOf passedWeight crew.members)) :
    Tallied token ((machine app token).step crew turn).state
      (Machine.weightOf passedWeight ((machine app token).step crew turn).members) := by
  rcases Machine.step_cases (machine app token) crew turn with
    ⟨-, same⟩ | ⟨point, chosen, ⟨-, after⟩ | ⟨error, rejected, after⟩⟩
  · rw [same]
    exact tallied
  · rw [after, Machine.weightOf_set passedWeight chosen]
    refine tallied_effect (harmless point (List.mem_of_getElem? chosen)) answers.1 ?_ tallied
    rintro attempt payload user rfl
    exact inTime attempt payload user chosen
  · have elsewhere : point.callsRedis ≠ true := by
      intro calls
      have taken := answers.2 point chosen calls
      rw [rejected] at taken
      cases taken
    rw [after, Machine.weightOf_set passedWeight chosen, passedWeight_abort elsewhere,
      Int.sub_add_cancel]
    exact tallied

/-- No more requests have their codes compared than are counted. -/
theorem compared_le
    {crew : Crew AttemptStage World}
    (tallied : Tallied token crew.state (Machine.weightOf passedWeight crew.members)) :
    crew.members.countP compared ≤ TokenRevocationService.maxChallengeAttempts := by
  have comparedPassed : crew.members.countP compared ≤ crew.members.countP passed := by
    refine List.countP_mono_left fun point _ isCompared => ?_
    cases point with
    | rest process compared => exact isCompared
    | _ => cases isCompared
  have weight := Machine.weightOf_indicator passed crew.members
  have counted := tallied.counted
  unfold passedWeight at counted
  omega

/-! ## The life of the counter -/

/-- The counter does not expire before the challenge token. -/
def Outlives (token : Jwt) (world : World) : Prop :=
  ∀ entry ∈ world.attempts token, ∀ expiresAt, entry.expiresAt = some expiresAt →
    token.exp * 1000 ≤ expiresAt

/-- A time to live that starts after the token was issued ends after it has expired. -/
theorem outlives_effect
    {point : AttemptStage}
    (harmless : point.Harmless)
    {input : Input}
    {world : World}
    (lifetime : token.exp = token.iat + attemptTtlSeconds)
    (issued : token.iat ≤ input.now / 1000)
    (outlives : Outlives token world) :
    Outlives token ((machine app token).effect point input world) := by
  cases point with
  | incr attempt payload user =>
      intro entry present expiresAt expires
      have after : ((machine app token).effect (incr attempt payload user) input world).attempts
          token = [bumped token input.now world] := attempts_put bumped_key
      rw [after, List.mem_singleton] at present
      rw [present] at expires
      unfold bumped at expires
      split at expires
      · rename_i old found
        exact outlives old (mem_attempts_of_lookup found).1 expiresAt expires
      · cases expires
  | expire attempt payload user =>
      intro entry present expiresAt expires
      change entry ∈ (expiring token input.now world).attempts token at present
      unfold expiring at present
      split at present
      · rename_i old found
        rw [attempts_put (by exact (mem_attempts_of_lookup found).2), List.mem_singleton] at present
        rw [present] at expires
        cases expires
        omega
      · exact outlives entry present expiresAt expires
  | rest process compared =>
      have same : ((machine app token).effect (rest process compared) input world).attempts token =
          world.attempts token := attempts_of_sameRedis (harmless.effect input world)
      unfold Outlives
      rw [same]
      exact outlives
  | _ => exact outlives

end AttemptStage

/-! ## Requests in any order of their calls -/

/-- Requests that submit codes for one challenge. -/
def challengeAttempts
    (app : Deployment)
    (token : Jwt)
    (attempts : List ChallengeAttempt)
    (world : World) : Crew (Service Unit) World where
  state := world
  members := attempts.map (·.handle app token)

namespace AttemptStage

/-- The requests, by the points they start at. -/
def starts (attempts : List ChallengeAttempt) (world : World) : Crew AttemptStage World where
  state := world
  members := attempts.map verifyToken

variable {app : Deployment} {token : Jwt} {attempts : List ChallengeAttempt} {world : World}

theorem run_challengeAttempts (schedule : List (CrewTurn Input ApiError)) :
    Process.machine.run (challengeAttempts app token attempts world) schedule =
      Machine.Implements.crew (code app token)
        ((machine app token).run (starts attempts world) schedule) := by
  have members : (attempts.map verifyToken).map (code app token) =
      attempts.map (·.handle app token) := by
    simp [code, Function.comp_def]
  rw [← (implements app token).run]
  simp only [Machine.Implements.crew, challengeAttempts, starts, members]

theorem harmless_starts :
    ∀ point ∈ (starts attempts world).members, point.Harmless := by
  intro point present
  obtain ⟨attempt, -, rfl⟩ := List.mem_map.mp present
  trivial

theorem outlives_step
    (lifetime : token.exp = token.iat + attemptTtlSeconds)
    {crew : Crew AttemptStage World}
    {turn : CrewTurn Input ApiError}
    (harmless : ∀ point ∈ crew.members, point.Harmless)
    (issued : token.iat ≤ turn.input.now / 1000)
    (outlives : Outlives token crew.state) :
    Outlives token ((machine app token).step crew turn).state := by
  rcases Machine.step_cases (machine app token) crew turn with
    ⟨-, same⟩ | ⟨point, chosen, ⟨-, after⟩ | ⟨error, -, after⟩⟩
  · rw [same]
    exact outlives
  · rw [after]
    show Outlives token ((machine app token).effect point turn.input crew.state)
    exact outlives_effect (harmless point (List.mem_of_getElem? chosen)) lifetime issued outlives
  · rw [after]
    exact outlives

/-- While attempts are counted in time, the counter counts the admitted requests. -/
theorem tallied_run
    (fresh : world.attempts token = [])
    {schedule : List (CrewTurn Input ApiError)}
    (answers : Along (machine app token).step RedisAnswers (starts attempts world) schedule)
    (inTime : Along (machine app token).step (CountsInTime token) (starts attempts world)
      schedule) :
    Tallied token ((machine app token).run (starts attempts world) schedule).state
      (Machine.weightOf passedWeight
        ((machine app token).run (starts attempts world) schedule).members) := by
  have first : Tallied token (starts attempts world).state
      (Machine.weightOf passedWeight (starts attempts world).members) := by
    refine ⟨by simp [starts, fresh], ?_⟩
    rw [Machine.weightOf_eq_zero]
    · simp [World.attemptCount, starts, fresh]
    · intro point present
      obtain ⟨attempt, -, rfl⟩ := List.mem_map.mp present
      rfl
  let invariant (crew : Crew AttemptStage World) : Prop :=
    (∀ point ∈ crew.members, point.Harmless) ∧
      Tallied token crew.state (Machine.weightOf passedWeight crew.members)
  have kept : ∀ crew turn, invariant crew →
      RedisAnswers crew turn ∧ CountsInTime token crew turn →
      invariant ((machine app token).step crew turn) := by
    rintro crew turn ⟨harmless, tallied⟩ ⟨answers, inTime⟩
    exact ⟨harmless_step harmless turn, tallied_step harmless answers inTime tallied⟩
  exact (Along.preserves kept ⟨harmless_starts, first⟩ (answers.and inTime)).2

/-- The counter outlives the token. -/
theorem outlives_run
    (lifetime : token.exp = token.iat + attemptTtlSeconds)
    (fresh : world.attempts token = [])
    {schedule : List (CrewTurn Input ApiError)}
    (issued : ∀ turn ∈ schedule, token.iat ≤ turn.input.now / 1000) :
    Outlives token ((machine app token).run (starts attempts world) schedule).state := by
  let invariant (crew : Crew AttemptStage World) : Prop :=
    (∀ point ∈ crew.members, point.Harmless) ∧ Outlives token crew.state
  have kept : ∀ crew (turn : CrewTurn Input ApiError), invariant crew →
      token.iat ≤ turn.input.now / 1000 → invariant ((machine app token).step crew turn) := by
    rintro crew turn ⟨harmless, outlives⟩ issued
    exact ⟨harmless_step harmless turn, outlives_step lifetime harmless issued outlives⟩
  have first : Outlives token (starts attempts world).state := by
    intro entry present
    rw [show (starts attempts world).state = world from rfl, fresh] at present
    cases present
  have met : Along (machine app token).step (fun _ turn => token.iat ≤ turn.input.now / 1000)
      (starts attempts world) schedule :=
    Along.of_forall fun turn present _ => issued turn present
  exact (Along.preserves kept ⟨harmless_starts, first⟩ met).2

end AttemptStage

/-- However the calls of the requests that answer one challenge interleave while Redis is
available: no more than five codes are compared as long as every attempt that is counted
finds the counter alive once it has been started, and the counter is alive whenever the
challenge token is still accepted. -/
theorem challenge_attempts_bounded
    (app : Deployment)
    {token : Jwt}
    (lifetime : token.exp = token.iat + attemptTtlSeconds)
    (attempts : List ChallengeAttempt)
    {world : World}
    (fresh : world.attempts token = [])
    {schedule : List (CrewTurn Input ApiError)}
    (issued : ∀ turn ∈ schedule, token.iat ≤ turn.input.now / 1000)
    (answers : Along (AttemptStage.machine app token).step AttemptStage.RedisAnswers
      (AttemptStage.starts attempts world) schedule) :
    (Along (AttemptStage.machine app token).step (AttemptStage.CountsInTime token)
        (AttemptStage.starts attempts world) schedule →
      ∀ reached, reached <+: schedule →
        ((AttemptStage.machine app token).run (AttemptStage.starts attempts world)
          reached).members.countP AttemptStage.compared ≤
            TokenRevocationService.maxChallengeAttempts) ∧
    ∀ reached, reached <+: schedule → ∀ now, now / 1000 < token.exp →
      ∀ entry ∈ (Process.machine.run (challengeAttempts app token attempts world)
        reached).state.attempts token, Redis.RedisEntry.present now entry = true := by
  constructor
  · rintro inTime reached ⟨later, rfl⟩
    exact AttemptStage.compared_le
      (AttemptStage.tallied_run fresh (Along.append_iff.mp answers).1
        (Along.append_iff.mp inTime).1)
  · rintro reached ⟨later, rfl⟩ now accepted entry present
    rw [AttemptStage.run_challengeAttempts] at present
    have early : ∀ turn ∈ reached, token.iat ≤ turn.input.now / 1000 :=
      fun turn present => issued turn (List.mem_append_left later present)
    have outlives := AttemptStage.outlives_run lifetime fresh early entry present
    unfold Redis.RedisEntry.present
    cases expires : entry.expiresAt with
    | none => rfl
    | some expiresAt =>
        have late := outlives expiresAt expires
        have alive : now < expiresAt := by omega
        simp [alive]

/-- A challenge for the code 123456 by email, signed at time 0. -/
def emailedChallenge : Jwt where
  payload :=
    .loginChallenge { sub := 1, deviceId := 7, method := .emailCode, codeHash := some ⟨"123456"⟩ }
  iat := 0
  exp := 600

/-- An account that has been challenged by email. -/
def challengedWorld : World where
  users := [{ id := 1, email := "a@b.com", passwordHash := "" }]
  signed := [emailedChallenge]

/-- A wrong code. -/
def wrongAttempt : ChallengeAttempt := ⟨"000000", { rawDeviceId := "laptop" }⟩

/-- The turns of one request at given times. -/
def attemptTurns (member : Nat) (times : List Time) : List (CrewTurn Input ApiError) :=
  times.map fun now => { member, input := { now } }

/-- The turns of six requests that take a call each at given times. -/
def attemptRounds (times : List Time) : List (CrewTurn Input ApiError) :=
  times.flatMap fun now => (List.range 6).map fun member => { member, input := { now } }

/-- Six requests that are all admitted with the token before the first is counted, and are
all counted in time. -/
theorem six_attempts_bounded :
    ((AttemptStage.machine {} emailedChallenge).run
      (AttemptStage.starts (List.replicate 6 wrongAttempt) challengedWorld)
      (attemptRounds [0, 1000, 2000, 3000, 4000])).members.countP AttemptStage.compared ≤
        TokenRevocationService.maxChallengeAttempts := by
  refine (challenge_attempts_bounded {} rfl (List.replicate 6 wrongAttempt) rfl ?_ ?_).1 ?_ _
    (List.prefix_refl _)
  · intro turn present
    exact Nat.zero_le _
  · refine Along.of_forall fun turn present crew => ?_
    obtain ⟨now, -, chosen⟩ := List.mem_flatMap.mp present
    obtain ⟨member, -, rfl⟩ := List.mem_map.mp chosen
    exact ⟨rfl, fun _ _ _ => rfl⟩
  · repeat' apply And.intro
    all_goals
      first
        | exact trivial
        | exact fun _ _ _ _ => List.all_eq_true.mp rfl

/-- A sixth attempt whose token is checked just before it expires, and which is counted
after the counter has expired, has its code compared. -/
theorem challenge_attempts_not_bounded :
    ((AttemptStage.machine {} emailedChallenge).run
      (AttemptStage.starts (List.replicate 6 wrongAttempt) challengedWorld)
      (attemptTurns 0 [0, 0, 0, 0, 0] ++ attemptTurns 1 [0, 0, 0, 0] ++
        attemptTurns 2 [0, 0, 0, 0] ++ attemptTurns 3 [0, 0, 0, 0] ++
        attemptTurns 4 [0, 0, 0, 0] ++
        attemptTurns 5 [599999, 599999, 599999, 600000, 600000])).members.countP
          AttemptStage.compared = 6 := by
  rfl

end ConferenceContact
