import ConferenceContact.Model.Auth
import Mathlib.Logic.Relation

/-!
# The token store

What bears access to an account: the tokens signed so far, the sessions with
their users, and the Redis entries that revoke a user's access tokens.  The
store changes only by the steps of `TokenStore.Step`; a step that issues
something names whom it may be issued to.  The services are shown to move their
world along these steps in `Auth.TokenRequests`.
-/

namespace ConferenceContact

/-- The bearers of access, and what revokes them. -/
structure TokenStore where
  signed : List Jwt
  /-- The ids of the sessions and of their users. -/
  sessions : List (SessionId × UserId)
  redis : List RedisEntry

/-- The token store inside the world. -/
def World.tokens (world : World) : TokenStore where
  signed := world.signed
  sessions := world.sessions.map fun session => (session.id, session.userId)
  redis := world.redis

namespace TokenStore

/-- How long an access token may live: as configured, or as an impersonation
token. -/
def Lifetime (app : Deployment) (expiresIn : Nat) : Prop :=
  expiresIn = app.jwtAccessExpirySeconds ∨
    expiresIn = AuthService.impersonationExpirySeconds

/-- One change of the store at a time. -/
inductive Step
    (app : Deployment)
    (now : Time)
    (mayIssue : UserId → Prop) : TokenStore → TokenStore → Prop
  /-- Sign an access token. -/
  | sign
      (store : TokenStore)
      (payload : AccessTokenPayload)
      (expiresIn : Nat)
      (lifetime : Lifetime app expiresIn)
      (allowed : mayIssue payload.sub) :
      Step app now mayIssue store
        { store with
          signed := ⟨.access payload, now / 1000, now / 1000 + expiresIn⟩ :: store.signed }
  /-- Sign a login challenge. -/
  | challenge
      (store : TokenStore)
      (payload : LoginChallengePayload)
      (expiresIn : Nat) :
      Step app now mayIssue store
        { store with
          signed :=
            ⟨.loginChallenge payload, now / 1000, now / 1000 + expiresIn⟩ :: store.signed }
  /-- Create a session. -/
  | create
      (store : TokenStore)
      (id : SessionId)
      (userId : UserId)
      (allowed : mayIssue userId) :
      Step app now mayIssue store { store with sessions := (id, userId) :: store.sessions }
  /-- Revoke the access tokens of a user. -/
  | revoke
      (store : TokenStore)
      (userId : UserId) :
      Step app now mayIssue store
        { store with
          redis := Redis.put
            ⟨.revokedUser userId, 1, some (now + app.jwtAccessExpirySeconds * 1000)⟩
            store.redis }
  /-- Write an entry that revokes nothing. -/
  | count
      (store : TokenStore)
      (entry : RedisEntry)
      (other : ∀ userId, entry.key ≠ .revokedUser userId) :
      Step app now mayIssue store { store with redis := Redis.put entry store.redis }

/-- Any number of changes at one moment. -/
abbrev Steps (app : Deployment) (now : Time) (mayIssue : UserId → Prop) :
    TokenStore → TokenStore → Prop :=
  Relation.ReflTransGen (Step app now mayIssue)

variable {app : Deployment} {now : Time} {mayIssue : UserId → Prop}
  {before after : TokenStore}

/-! ## What is issued -/

/-- Every access token and every session that is new is for a user it may be
issued to. -/
structure IssuesOnly (mayIssue : UserId → Prop) (before after : TokenStore) : Prop where
  tokens : ∃ issued, after.signed = issued ++ before.signed ∧
    ∀ token ∈ issued, ∀ payload, token.payload = .access payload → mayIssue payload.sub
  sessions : ∃ issued, after.sessions = issued ++ before.sessions ∧
    ∀ session ∈ issued, mayIssue session.2

namespace IssuesOnly

theorem refl (store : TokenStore) : IssuesOnly mayIssue store store :=
  ⟨⟨[], rfl, nofun⟩, ⟨[], rfl, nofun⟩⟩

theorem trans
    {first second third : TokenStore}
    (earlier : IssuesOnly mayIssue first second)
    (later : IssuesOnly mayIssue second third) :
    IssuesOnly mayIssue first third := by
  obtain ⟨⟨tokens, signed, allowedTokens⟩, ⟨sessions, created, allowedSessions⟩⟩ := earlier
  obtain ⟨⟨moreTokens, moreSigned, allowedMore⟩,
    ⟨moreSessions, moreCreated, allowedMoreSessions⟩⟩ := later
  constructor
  · refine ⟨moreTokens ++ tokens, by rw [moreSigned, signed, List.append_assoc], ?_⟩
    intro token present
    rcases List.mem_append.mp present with new | old
    · exact allowedMore token new
    · exact allowedTokens token old
  · refine ⟨moreSessions ++ sessions, by rw [moreCreated, created, List.append_assoc], ?_⟩
    intro session present
    rcases List.mem_append.mp present with new | old
    · exact allowedMoreSessions session new
    · exact allowedSessions session old

end IssuesOnly

theorem Step.issuesOnly
    (step : Step app now mayIssue before after) :
    IssuesOnly mayIssue before after := by
  cases step with
  | sign payload expiresIn lifetime allowed =>
      refine ⟨⟨[_], rfl, ?_⟩, ⟨[], rfl, nofun⟩⟩
      intro token present other same
      rw [List.mem_singleton.mp present] at same
      cases same
      exact allowed
  | challenge payload expiresIn =>
      refine ⟨⟨[_], rfl, ?_⟩, ⟨[], rfl, nofun⟩⟩
      intro token present other same
      rw [List.mem_singleton.mp present] at same
      cases same
  | create id userId allowed =>
      refine ⟨⟨[], rfl, nofun⟩, ⟨[(id, userId)], rfl, ?_⟩⟩
      intro session present
      rw [List.mem_singleton.mp present]
      exact allowed
  | revoke userId => exact ⟨⟨[], rfl, nofun⟩, ⟨[], rfl, nofun⟩⟩
  | count entry other => exact ⟨⟨[], rfl, nofun⟩, ⟨[], rfl, nofun⟩⟩

theorem Steps.issuesOnly
    (steps : Steps app now mayIssue before after) :
    IssuesOnly mayIssue before after := by
  induction steps with
  | refl => exact IssuesOnly.refl before
  | tail _ step inductionHypothesis => exact inductionHypothesis.trans step.issuesOnly

/-! ## Lifetimes -/

/-- Every access token was signed before a moment, for one of the lifetimes. -/
def SignedBefore (app : Deployment) (moment : Time) (store : TokenStore) : Prop :=
  ∀ token ∈ store.signed, ∀ payload, token.payload = .access payload →
    ∃ issuedAt expiresIn, issuedAt < moment ∧ Lifetime app expiresIn ∧
      token.exp = issuedAt / 1000 + expiresIn

theorem Steps.signedBefore
    {moment : Time}
    (steps : Steps app now mayIssue before after)
    (earlier : now < moment)
    (signed : SignedBefore app moment before) :
    SignedBefore app moment after := by
  induction steps with
  | refl => exact signed
  | tail _ step inductionHypothesis =>
      cases step with
      | sign payload expiresIn lifetime allowed =>
          intro token present
          rcases List.mem_cons.mp present with rfl | old
          · exact fun _ _ => ⟨now, expiresIn, earlier, lifetime, rfl⟩
          · exact inductionHypothesis token old
      | challenge payload expiresIn =>
          intro token present other same
          rcases List.mem_cons.mp present with rfl | old
          · cases same
          · exact inductionHypothesis token old other same
      | create id userId allowed => exact inductionHypothesis
      | revoke userId => exact inductionHypothesis
      | count entry other => exact inductionHypothesis

/-- Every new access token was signed now, for one of the lifetimes. -/
theorem Steps.issuedNow
    (steps : Steps app now mayIssue before after) :
    ∃ issued, after.signed = issued ++ before.signed ∧
      ∀ token ∈ issued, ∀ payload, token.payload = .access payload →
        ∃ expiresIn, Lifetime app expiresIn ∧ token.exp = now / 1000 + expiresIn := by
  induction steps with
  | refl => exact ⟨[], rfl, nofun⟩
  | tail _ step inductionHypothesis =>
      obtain ⟨issued, signed, lifetimes⟩ := inductionHypothesis
      cases step with
      | sign payload expiresIn lifetime allowed =>
          refine ⟨_ :: issued, congrArg (List.cons _) signed, ?_⟩
          intro token present
          rcases List.mem_cons.mp present with rfl | old
          · exact fun _ _ => ⟨expiresIn, lifetime, rfl⟩
          · exact lifetimes token old
      | challenge payload expiresIn =>
          refine ⟨_ :: issued, congrArg (List.cons _) signed, ?_⟩
          intro token present other same
          rcases List.mem_cons.mp present with rfl | old
          · cases same
          · exact lifetimes token old other same
      | create id userId allowed => exact ⟨issued, signed, lifetimes⟩
      | revoke userId => exact ⟨issued, signed, lifetimes⟩
      | count entry other => exact ⟨issued, signed, lifetimes⟩

/-! ## Revocations -/

/-- The access tokens of a user are revoked until a moment. -/
def RevokedUntil (userId : UserId) (moment : Time) (store : TokenStore) : Prop :=
  ∀ now < moment, (Redis.lookup now (.revokedUser userId) store.redis).isSome

/-- The access tokens of a user are revoked for one configured lifetime from a
moment, and no longer. -/
def RevokedAt
    (app : Deployment)
    (userId : UserId)
    (moment : Time)
    (store : TokenStore) : Prop :=
  ∀ now, (Redis.lookup now (.revokedUser userId) store.redis).isSome ↔
    now < moment + app.jwtAccessExpirySeconds * 1000

/-- The entry just written is found until it expires. -/
theorem lookup_put_self
    {entry : RedisEntry}
    {entries : List RedisEntry}
    {now expiresAt : Time}
    (expires : entry.expiresAt = some expiresAt)
    (early : now < expiresAt) :
    Redis.lookup now entry.key (Redis.put entry entries) = some entry := by
  unfold Redis.lookup Redis.put
  rw [List.find?_cons_of_pos]
  simp [Redis.RedisEntry.present, expires, early]

/-- The entry just written is found exactly until it expires. -/
theorem lookup_put_isSome
    {entry : RedisEntry}
    {entries : List RedisEntry}
    {now expiresAt : Time}
    (expires : entry.expiresAt = some expiresAt) :
    (Redis.lookup now entry.key (Redis.put entry entries)).isSome ↔ now < expiresAt := by
  refine ⟨fun found => ?_, fun early =>
    Option.isSome_of_eq_some (lookup_put_self expires early)⟩
  obtain ⟨row, present, matched⟩ := List.find?_isSome.mp found
  simp only [decide_eq_true_eq] at matched
  rcases List.mem_cons.mp present with rfl | kept
  · simpa [Redis.RedisEntry.present, expires] using matched.2
  · have different := (List.mem_filter.mp kept).2
    simp only [decide_eq_true_eq] at different
    exact absurd matched.1 different

/-- Writing an entry leaves the other keys alone. -/
theorem lookup_put_of_ne
    {entry : RedisEntry}
    {entries : List RedisEntry}
    {key : RedisKey}
    {now : Time}
    (other : entry.key ≠ key) :
    Redis.lookup now key (Redis.put entry entries) = Redis.lookup now key entries := by
  unfold Redis.lookup Redis.put
  rw [List.find?_cons_of_neg (by simp [other]), List.find?_filter]
  congr 1
  funext row
  by_cases same : row.key = key
  · simp [same, Ne.symm other]
  · simp [same]

/-- A later step keeps a revocation, or writes one that lasts longer. -/
theorem Steps.revokedUntil
    {userId : UserId}
    {moment : Time}
    (steps : Steps app now mayIssue before after)
    (later : moment ≤ now)
    (revoked : RevokedUntil userId (moment + app.jwtAccessExpirySeconds * 1000) before) :
    RevokedUntil userId (moment + app.jwtAccessExpirySeconds * 1000) after := by
  induction steps with
  | refl => exact revoked
  | tail _ step inductionHypothesis =>
      cases step with
      | sign payload expiresIn lifetime allowed => exact inductionHypothesis
      | challenge payload expiresIn => exact inductionHypothesis
      | create id owner allowed => exact inductionHypothesis
      | revoke other =>
          intro time early
          by_cases same : other = userId
          · subst same
            have lasts : time < now + app.jwtAccessExpirySeconds * 1000 :=
              Nat.lt_of_lt_of_le early (Nat.add_le_add_right later _)
            exact Option.isSome_of_eq_some (lookup_put_self rfl lasts)
          · rw [lookup_put_of_ne (by simp [same])]
            exact inductionHypothesis time early
      | count entry other =>
          intro time early
          rw [lookup_put_of_ne (other userId)]
          exact inductionHypothesis time early

/-- The steps of a moment leave what the guard finds of a user alone, or revoke
the user's access tokens for one configured lifetime from that moment. -/
theorem Steps.revocation
    (steps : Steps app now mayIssue before after)
    (userId : UserId) :
    (∀ time, Redis.lookup time (.revokedUser userId) after.redis =
      Redis.lookup time (.revokedUser userId) before.redis) ∨
    after.RevokedAt app userId now := by
  unfold RevokedAt
  induction steps with
  | refl => exact .inl fun _ => rfl
  | tail _ step inductionHypothesis =>
      cases step with
      | sign payload expiresIn lifetime allowed => exact inductionHypothesis
      | challenge payload expiresIn => exact inductionHypothesis
      | create id owner allowed => exact inductionHypothesis
      | revoke other =>
          by_cases same : other = userId
          · subst same
            exact .inr fun time => lookup_put_isSome rfl
          · have elsewhere : ∀ time entries, Redis.lookup time (.revokedUser userId)
                (Redis.put ⟨.revokedUser other, 1,
                  some (now + app.jwtAccessExpirySeconds * 1000)⟩ entries) =
                Redis.lookup time (.revokedUser userId) entries :=
              fun _ _ => lookup_put_of_ne (by simp [same])
            simp only [elsewhere]
            exact inductionHypothesis
      | count entry other =>
          simp only [lookup_put_of_ne (other userId)]
          exact inductionHypothesis

end TokenStore
end ConferenceContact
