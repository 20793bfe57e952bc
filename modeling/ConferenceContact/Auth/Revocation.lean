import ConferenceContact.Auth.TokenRequests

/-!
# Revoked access tokens

A revocation lasts as long as a configured access token.  That outlives every
token issued before it, except an impersonation token where the configured
lifetime is the shorter one.
-/

namespace ConferenceContact

open Process

/-! ## What the guard accepts -/

/-- The guard of a route that is not public lets a token through. -/
def JwtAuthGuard.Accepts (input : Input) (world : World) (token : Jwt) : Prop :=
  ∃ payload, ((canActivate false (some token)).run input world).1 = .ok payload

/-- With Redis available the guard accepts the unexpired access tokens of users
whose tokens are not revoked. -/
theorem JwtAuthGuard.accepts_iff
    {input : Input}
    {world : World}
    {token : Jwt}
    {payload : AccessTokenPayload}
    (available : input.redisAvailable = true)
    (access : token.payload = .access payload) :
    Accepts input world token ↔
      (token ∈ world.signed ∧ input.now / 1000 < token.exp) ∧
        (Redis.lookup input.now (.revokedUser payload.sub) world.redis).isSome = false := by
  unfold Accepts canActivate JwtService.verifyAsync
  simp only [Bool.false_eq_true, if_false, run_bind, run_query]
  by_cases valid : token ∈ world.signed ∧ input.now / 1000 < token.exp
  · simp only [valid, and_self, if_true, access, run_bind, true_and,
      TokenRevocationService.run_isRevoked available]
    cases (Redis.lookup input.now (.revokedUser payload.sub) world.redis).isSome with
    | true =>
        refine iff_of_false ?_ nofun
        rintro ⟨_, ⟨⟩⟩
    | false => exact iff_of_true ⟨_, rfl⟩ rfl
  · rw [if_neg valid]
    refine iff_of_false ?_ fun accepted => valid accepted.1
    rintro ⟨_, ⟨⟩⟩

/-! ## Runs around a revocation -/

/-- A run of requests, a revocation, and the requests after it. -/
structure RevocationRun where
  start : World
  earlier : List AccountArrival
  userId : UserId
  /-- What the revocation's own call reads. -/
  revocation : Input
  later : List AccountArrival
  unsigned : start.signed = []
  before : ∀ arrival ∈ earlier, arrival.input.now < revocation.now
  after : ∀ arrival ∈ later, revocation.now ≤ arrival.input.now
  available : revocation.redisAvailable = true

namespace RevocationRun

/-- The world the revocation finds. -/
def issued (app : Deployment) (run : RevocationRun) : World :=
  run.earlier.foldl (AccountArrival.step app) run.start

/-- The world after the revocation. -/
def revoked (app : Deployment) (run : RevocationRun) : World :=
  ((TokenRevocationService.revokeUser app run.userId).run run.revocation (run.issued app)).2

/-- The world at the end of the run. -/
def final (app : Deployment) (run : RevocationRun) : World :=
  run.later.foldl (AccountArrival.step app) (run.revoked app)

variable {app : Deployment}

/-- Every token signed so far was signed before a moment that no request has
reached. -/
theorem signedBefore_run
    {moment : Time}
    {arrivals : List AccountArrival}
    {world : World}
    (early : ∀ arrival ∈ arrivals, arrival.input.now < moment)
    (signed : world.tokens.SignedBefore app moment) :
    (arrivals.foldl (AccountArrival.step app) world).tokens.SignedBefore app moment := by
  induction arrivals generalizing world with
  | nil => exact signed
  | cons arrival later inductionHypothesis =>
      refine inductionHypothesis (fun other present =>
        early other (List.mem_cons_of_mem _ present)) ?_
      exact TokenStore.Steps.signedBefore (arrival.moves app world)
        (early arrival List.mem_cons_self) signed

/-- Later requests do not shorten a revocation. -/
theorem revokedUntil_run
    {moment : Time}
    {userId : UserId}
    {arrivals : List AccountArrival}
    {world : World}
    (late : ∀ arrival ∈ arrivals, moment ≤ arrival.input.now)
    (revoked : world.tokens.RevokedUntil userId
      (moment + app.jwtAccessExpirySeconds * 1000)) :
    (arrivals.foldl (AccountArrival.step app) world).tokens.RevokedUntil userId
      (moment + app.jwtAccessExpirySeconds * 1000) := by
  induction arrivals generalizing world with
  | nil => exact revoked
  | cons arrival later inductionHypothesis =>
      refine inductionHypothesis (fun other present =>
        late other (List.mem_cons_of_mem _ present)) ?_
      exact TokenStore.Steps.revokedUntil (arrival.moves app world)
        (late arrival List.mem_cons_self) revoked

theorem issued_signedBefore (run : RevocationRun) :
    (run.issued app).tokens.SignedBefore app run.revocation.now := by
  refine signedBefore_run run.before ?_
  intro token present
  rw [show run.start.tokens.signed = [] from run.unsigned] at present
  cases present

theorem revoked_eq (run : RevocationRun) :
    run.revoked app =
      { run.issued app with
        redis := Redis.put
          ⟨.revokedUser run.userId, 1,
            some (run.revocation.now + app.jwtAccessExpirySeconds * 1000)⟩
          (run.issued app).redis } := by
  unfold revoked TokenRevocationService.revokeUser Redis.answered
  rw [run_tryCatch, run_bind, run_ask]
  dsimp only
  rw [if_pos run.available]
  rfl

theorem final_revokedUntil (run : RevocationRun) :
    (run.final app).tokens.RevokedUntil run.userId
      (run.revocation.now + app.jwtAccessExpirySeconds * 1000) := by
  refine revokedUntil_run run.after ?_
  intro now early
  rw [run.revoked_eq]
  exact Option.isSome_of_eq_some (TokenStore.lookup_put_self rfl early)

/-- A token of the user issued before the revocation is accepted afterwards. -/
def Breached (app : Deployment) (run : RevocationRun) : Prop :=
  ∃ (check : Input) (token : Jwt) (payload : AccessTokenPayload),
    run.revocation.now ≤ check.now ∧
      check.redisAvailable = true ∧
      token ∈ (run.issued app).signed ∧
      token.payload = .access payload ∧
      payload.sub = run.userId ∧
      JwtAuthGuard.Accepts check (run.final app) token

/-- A revocation that lasts as long as every token it is for is not breached. -/
theorem not_breached
    (longEnough : AuthService.impersonationExpirySeconds ≤ app.jwtAccessExpirySeconds)
    (run : RevocationRun) :
    ¬run.Breached app := by
  rintro ⟨check, token, payload, -, available, signed, access, owner, accepted⟩
  obtain ⟨issuedAt, expiresIn, early, lifetime, expiry⟩ :=
    run.issued_signedBefore token signed payload access
  rw [JwtAuthGuard.accepts_iff available access, owner] at accepted
  obtain ⟨⟨-, unexpired⟩, unrevoked⟩ := accepted
  have short : expiresIn ≤ app.jwtAccessExpirySeconds := by
    rcases lifetime with configured | impersonation
    · exact Nat.le_of_eq configured
    · exact impersonation ▸ longEnough
  have late : ¬check.now < run.revocation.now + app.jwtAccessExpirySeconds * 1000 := by
    intro early
    rw [show (Redis.lookup check.now (.revokedUser run.userId)
      (run.final app).redis).isSome = true from run.final_revokedUntil _ early] at unrevoked
    cases unrevoked
  rw [expiry] at unexpired
  have seconds : issuedAt / 1000 ≤ run.revocation.now / 1000 :=
    Nat.div_le_div_right (Nat.le_of_lt early)
  have elapsed : run.revocation.now / 1000 + app.jwtAccessExpirySeconds ≤ check.now / 1000 := by
    rw [← Nat.add_mul_div_right _ _ (by decide : 0 < 1000)]
    exact Nat.div_le_div_right (Nat.le_of_not_lt late)
  exact absurd unexpired (Nat.not_lt.mpr
    (Nat.le_trans (Nat.add_le_add seconds short) elapsed))

/-! ## A configured lifetime that is too short -/

/-- An administrator views the site as the sample account. -/
def sampleImpersonation : AccountArrival :=
  { input := { now := 0 }, request := .impersonateUser 1 0 }

/-- The tokens of the impersonated account are revoked a millisecond later. -/
def impersonated : RevocationRun where
  start := sampleWorld
  earlier := [sampleImpersonation]
  userId := 0
  revocation := { now := 1 }
  later := []
  unsigned := rfl
  before := List.forall_mem_singleton.mpr Nat.zero_lt_one
  after := List.forall_mem_nil _
  available := rfl

/-- The impersonation token outlives the revocation. -/
theorem impersonated_breached
    (tooShort : app.jwtAccessExpirySeconds < AuthService.impersonationExpirySeconds) :
    impersonated.Breached app := by
  refine ⟨{ now := app.jwtAccessExpirySeconds * 1000 + 1 },
    ⟨.access { sub := 0, role := .user, impersonatedBy := some 1 }, 0,
      AuthService.impersonationExpirySeconds⟩,
    { sub := 0, role := .user, impersonatedBy := some 1 }, Nat.le_add_left 1 _, rfl,
    List.mem_singleton_self _, rfl, rfl, ?_⟩
  rw [JwtAuthGuard.accepts_iff rfl rfl]
  refine ⟨⟨List.mem_singleton_self _, ?_⟩, ?_⟩
  · have elapsed : (app.jwtAccessExpirySeconds * 1000 + 1) / 1000 =
        app.jwtAccessExpirySeconds := by
      omega
    rw [elapsed]
    exact tooShort
  · have finished : ¬app.jwtAccessExpirySeconds * 1000 + 1 <
        1 + app.jwtAccessExpirySeconds * 1000 := by
      omega
    rw [show impersonated.final app = impersonated.revoked app from rfl, revoked_eq]
    unfold Redis.lookup Redis.put
    rw [List.find?_cons_of_neg]
    · rfl
    · simp only [Redis.RedisEntry.present, decide_eq_true_eq, not_and]
      exact fun _ => finished

end RevocationRun

/-- No token issued before a revocation is accepted after it, in any run, exactly
where an access token is configured to live at least as long as an impersonation
token. -/
theorem revocation_outlives_tokens_iff (app : Deployment) :
    (∀ run : RevocationRun, ¬run.Breached app) ↔
      AuthService.impersonationExpirySeconds ≤ app.jwtAccessExpirySeconds := by
  constructor
  · intro safe
    by_contra tooShort
    exact safe _ (RevocationRun.impersonated_breached (Nat.lt_of_not_le tooShort))
  · exact RevocationRun.not_breached

/-- The shortest lifetime the environment may configure. -/
def shortestDeployment : Deployment := { Deployment.defaults with jwtAccessExpirySeconds := 60 }

/-- An impersonation token is accepted again a minute after its revocation. -/
theorem impersonation_token_outlives_revocation :
    ¬∀ run : RevocationRun, ¬run.Breached shortestDeployment := by
  intro safe
  exact safe RevocationRun.impersonated
    (RevocationRun.impersonated_breached (by decide))

end ConferenceContact
