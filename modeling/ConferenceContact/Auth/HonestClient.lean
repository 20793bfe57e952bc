import ConferenceContact.Auth.ReplayResponse

/-!
# An honest client

A client that only presents refresh tokens it was handed, each for the first
time before it expires or again shortly after.  Every refresh rotates the newest
session, also through the grace window; so such a client is served exactly as
long as it presents the newest token, or the one before it shortly after the
previous call.
-/

namespace ConferenceContact

open Process

/-- A refresh token in the client's hands. -/
structure HeldToken where
  token : RawToken
  expiresAt : Time
  firstPresentedAt : Option Time := none
  deriving DecidableEq

/-- A backend and the tokens a client was handed, newest first. -/
structure ClientState where
  world : World
  held : List HeldToken

/-- One call of `refresh`; `age` counts the tokens handed out since the one that
is presented. -/
structure Presentation where
  input : Input
  age : Nat

/-- Note that a token has been presented. -/
def HeldToken.markPresented (now : Time) (held : HeldToken) : HeldToken :=
  { held with firstPresentedAt := some (held.firstPresentedAt.getD now) }

variable (app : Deployment)

/-- The answer to a presentation; a client cannot present what it does not hold. -/
def ClientState.answer (presentation : Presentation) (client : ClientState) :
    Option (Except ApiError TokenPair) :=
  client.held[presentation.age]?.map fun held =>
    ((AuthService.refresh app held.token).run presentation.input client.world).1

/-- The backend and the client after a presentation. -/
def ClientState.present (presentation : Presentation) (client : ClientState) :
    ClientState :=
  match client.held[presentation.age]? with
  | none => client
  | some held =>
      let (result, world) :=
        (AuthService.refresh app held.token).run presentation.input client.world
      let marked :=
        client.held.modify presentation.age
          (HeldToken.markPresented presentation.input.now)
      match result with
      | .ok pair =>
          { world
            held := ⟨pair.refreshToken, pair.refreshTokenExpiresAt, none⟩ :: marked }
      | .error _ => { world, held := marked }

/-- The state after presentations one at a time, the latest first. -/
def ClientState.after (start : ClientState) : List Presentation → ClientState
  | [] => start
  | presentation :: earlier => (start.after earlier).present app presentation

/-- Every presented token is held, and presented for the first time before its
expiry or again within the grace period of its first presentation. -/
def Honest (start : ClientState) : List Presentation → Prop
  | [] => True
  | presentation :: earlier =>
      (∃ held ∈ (start.after app earlier).held[presentation.age]?,
        match held.firstPresentedAt with
        | none => presentation.input.now < held.expiresAt
        | some first =>
            presentation.input.now ≤ first + concurrentRefreshGraceSeconds * 1000) ∧
      Honest start earlier

/-- Every call returns a token pair. -/
def AllServed (start : ClientState) : List Presentation → Prop
  | [] => True
  | presentation :: earlier =>
      (∃ pair, (start.after app earlier).answer app presentation = some (.ok pair)) ∧
      AllServed start earlier

/-- A call presents the newest token, or the one before it at most the grace
period after the previous call, which was at `last`. -/
def TimelyNext (last : Option Time) (presentation : Presentation) : Prop :=
  presentation.age = 0 ∨
    presentation.age = 1 ∧
      ∃ previous ∈ last,
        presentation.input.now ≤ previous + concurrentRefreshGraceSeconds * 1000

/-- Every call does so. -/
def Timely : List Presentation → Prop
  | [] => True
  | presentation :: earlier =>
      TimelyNext (earlier.head?.map (·.input.now)) presentation ∧ Timely earlier

/-! ## The chain of rotations -/

/-- The token's session is revoked, and so is a session that replaced it. -/
def Spent (sessions : List Session) (token : RawToken) : Prop :=
  ∃ row ∈ sessions, row.tokenHash = ⟨token⟩ ∧ row.revokedAt.isSome ∧
    ∀ id, row.replacedByTokenId = some id →
      ∃ successor ∈ sessions, successor.id = id ∧ successor.revokedAt.isSome

/-- The tokens before the newest: the first of them was rotated by the last call
into the session `current`, and the older ones are spent. -/
def Behind
    (sessions : List Session)
    (last : Option Time)
    (current : Session) : List RawToken → Prop
  | [] => True
  | previous :: ancient =>
      ∃ time, last = some time ∧
        (∃ row ∈ sessions, row.tokenHash = ⟨previous⟩ ∧
          row.revokedAt = some time ∧ row.replacedByTokenId = some current.id) ∧
        current.expiresAt = time + app.refreshTokenExpiryDays * 86400000 ∧
        ∀ token ∈ ancient, Spent sessions token

/-- The sessions behind the tokens of a client whose last call was at `last`. -/
structure Chained
    (last : Option Time)
    (client : ClientState)
    (newest : HeldToken)
    (older : List HeldToken)
    (current : Session)
    (user : User) : Prop where
  consistent : client.world.store.Consistent
  held : client.held = newest :: older
  present : current ∈ client.world.sessions
  active : activeUser current.userId client.world = some user
  token : current.tokenHash = ⟨newest.token⟩
  unrevoked : current.revokedAt = none
  expiresAt : current.expiresAt = newest.expiresAt
  unpresented : newest.firstPresentedAt = none
  behind : Behind app client.world.sessions last current (older.map (·.token))

variable {app} {input : Input} {world : World}

/-- A refresh of an active account rotates what its token may be exchanged for. -/
theorem run_refresh_exchange
    (consistent : world.store.Consistent)
    {rawToken : RawToken}
    {session target : Session}
    {user : User}
    (present : session ∈ world.sessions)
    (token : session.tokenHash = ⟨rawToken⟩)
    (targetPresent : target ∈ world.sessions)
    (exchanges : ExchangesFor input.now session target)
    (active : activeUser target.userId world = some user) :
    (AuthService.refresh app rawToken).run input world =
      (.ok (refreshedPair app input.now world.store user),
        rotatedWorld app input.now user target world) := by
  rw [run_refresh app rawToken input consistent,
    refreshTarget_of_exchange consistent present token targetPresent exchanges]
  simp only [active]

/-- A revoked token is served only in exchange for a live successor. -/
theorem exchange_of_served
    (consistent : world.store.Consistent)
    {rawToken : RawToken}
    {session : Session}
    (present : session ∈ world.sessions)
    (token : session.tokenHash = ⟨rawToken⟩)
    (revoked : session.revokedAt.isSome)
    {pair : TokenPair}
    (served : ((AuthService.refresh app rawToken).run input world).1 = .ok pair) :
    ∃ target ∈ world.sessions, ExchangesFor input.now session target := by
  by_contra none_
  have unexchangeable : ∀ target ∈ world.sessions,
      ¬ ExchangesFor input.now session target :=
    fun target stored exchanges => none_ ⟨target, stored, exchanges⟩
  rw [run_refresh_reuse consistent present token revoked unexchangeable] at served
  cases served

/-- A spent token is not served. -/
theorem not_served_of_spent
    (consistent : world.store.Consistent)
    {rawToken : RawToken}
    (spent : Spent world.sessions rawToken)
    {pair : TokenPair}
    (served : ((AuthService.refresh app rawToken).run input world).1 = .ok pair) :
    False := by
  obtain ⟨row, stored, token, revoked, successors⟩ := spent
  obtain ⟨target, targetStored, exchanges⟩ :=
    exchange_of_served consistent stored token revoked served
  rcases exchanges with ⟨live, -⟩ | ⟨_, -, -, linked, live⟩
  · rw [not_live_of_revoked revoked] at live
    cases live
  · obtain ⟨successor, successorStored, named, successorRevoked⟩ :=
      successors target.id linked
    rw [← consistent.eq_of_id_eq successorStored targetStored named,
      not_live_of_revoked successorRevoked] at live
    cases live

/-- A spent token stays spent while sessions evolve. -/
theorem Spent.evolves
    {before after : List Session}
    {token : RawToken}
    (spent : Spent before token)
    (evolve : ∀ row ∈ before, ∃ later ∈ after, row.Evolves later) :
    Spent after token := by
  obtain ⟨row, stored, hashed, revoked, successors⟩ := spent
  obtain ⟨later, laterStored, evolves⟩ := evolve row stored
  obtain ⟨revokedAt, ended⟩ := Option.isSome_iff_exists.mp revoked
  obtain ⟨stillEnded, sameLink⟩ := evolves.settled revokedAt ended
  refine ⟨later, laterStored, evolves.tokenHash.trans hashed,
    by rw [stillEnded]; rfl, ?_⟩
  intro id linked
  rw [sameLink] at linked
  obtain ⟨successor, successorStored, named, successorRevoked⟩ := successors id linked
  obtain ⟨last, lastStored, lastEvolves⟩ := evolve successor successorStored
  obtain ⟨time, timed⟩ := Option.isSome_iff_exists.mp successorRevoked
  refine ⟨last, lastStored, lastEvolves.id.trans named, ?_⟩
  rw [(lastEvolves.settled time timed).1]
  rfl

/-- Marking a token as presented changes no token. -/
theorem map_token_modify (now : Time) (age : Nat) (held : List HeldToken) :
    (held.modify age (HeldToken.markPresented now)).map (·.token) =
      held.map (·.token) := by
  induction held generalizing age with
  | nil => cases age <;> rfl
  | cons newest older inductionHypothesis =>
      cases age with
      | zero => rfl
      | succ age =>
          rw [List.modify_succ_cons, List.map_cons, List.map_cons, inductionHypothesis]

/-- Rotating the newest session, for whichever token, extends the chain. -/
theorem Chained.rotate
    {last : Option Time}
    {client : ClientState}
    {newest : HeldToken}
    {older : List HeldToken}
    {current : Session}
    {user : User}
    (chained : Chained app last client newest older current user)
    {presentation : Presentation}
    {held : HeldToken}
    (holds : client.held[presentation.age]? = some held)
    (runs : (AuthService.refresh app held.token).run presentation.input client.world =
      (.ok (refreshedPair app presentation.input.now client.world.store user),
        rotatedWorld app presentation.input.now user current client.world)) :
    ∃ next rest,
      Chained app (some presentation.input.now) (client.present app presentation)
        next rest
        (successorOf app presentation.input.now client.world.store current) user := by
  have presented : client.present app presentation =
      { world := rotatedWorld app presentation.input.now user current client.world
        held :=
          ⟨client.world.nextId,
            presentation.input.now + app.refreshTokenExpiryDays * 86400000, none⟩ ::
          client.held.modify presentation.age
            (HeldToken.markPresented presentation.input.now) } := by
    unfold ClientState.present
    rw [holds]
    simp only [runs]
    rfl
  have steps : SessionStore.Steps presentation.input.now (fun _ _ => True)
      client.world.store
      (rotatedWorld app presentation.input.now user current client.world).store :=
    rotatedWorld_steps app presentation.input.now user chained.consistent
      chained.present chained.unrevoked trivial
  have evolve : ∀ row ∈ client.world.sessions, ∃ later ∈
      (rotatedWorld app presentation.input.now user current client.world).sessions,
      row.Evolves later :=
    fun row stored => steps.evolves chained.consistent stored
  have superseded : current.supersede presentation.input.now (client.world.nextId + 1) ∈
      (rotatedWorld app presentation.input.now user current client.world).sessions := by
    refine List.mem_cons_of_mem _ (Table.mem_updateWhere.mpr ⟨current, chained.present, ?_⟩)
    exact if_pos (decide_eq_true rfl)
  refine ⟨⟨client.world.nextId,
      presentation.input.now + app.refreshTokenExpiryDays * 86400000, none⟩,
    client.held.modify presentation.age
      (HeldToken.markPresented presentation.input.now), ?_⟩
  rw [presented]
  refine
    { consistent := steps.consistent chained.consistent
      held := rfl
      present := List.mem_cons_self
      active := chained.active
      token := rfl
      unrevoked := rfl
      expiresAt := rfl
      unpresented := rfl
      behind := ?_ }
  rw [map_token_modify, chained.held, List.map_cons]
  refine ⟨presentation.input.now, rfl, ⟨_, superseded, chained.token, rfl, rfl⟩, rfl, ?_⟩
  have behind := chained.behind
  -- The token before is spent now: the session that replaced it is revoked.
  cases older with
  | nil => exact nofun
  | cons previous ancient =>
      obtain ⟨time, -, ⟨row, stored, hashed, revoked, linked⟩, -, spent⟩ := behind
      intro token listed
      rcases List.mem_cons.mp listed with rfl | old
      · obtain ⟨later, laterStored, evolves⟩ := evolve row stored
        obtain ⟨stillRevoked, sameLink⟩ := evolves.settled time revoked
        refine ⟨later, laterStored, evolves.tokenHash.trans hashed,
          by rw [stillRevoked]; rfl, ?_⟩
        intro id link
        rw [sameLink, linked] at link
        cases link
        exact ⟨_, superseded, rfl, rfl⟩
      · exact (spent token old).evolves evolve

/-! ## Who is served -/

variable (app) in
/-- The client is served, without a trace of reuse, and its chain is extended. -/
def ServedOnwards
    (presentation : Presentation)
    (client : ClientState)
    (current : Session)
    (user : User) : Prop :=
  (∃ pair, client.answer app presentation = some (.ok pair)) ∧
    (client.present app presentation).world.auditLogs = client.world.auditLogs ∧
    ∃ next rest,
      Chained app (some presentation.input.now) (client.present app presentation)
        next rest
        (successorOf app presentation.input.now client.world.store current) user

variable
  {last : Option Time} {client : ClientState}
  {newest : HeldToken} {older : List HeldToken} {current : Session} {user : User}
  {presentation : Presentation} {held : HeldToken}

/-- A token that may be exchanged for the newest session is served. -/
theorem Chained.served_of_exchange
    (chained : Chained app last client newest older current user)
    (holds : client.held[presentation.age]? = some held)
    {row : Session}
    (stored : row ∈ client.world.sessions)
    (hashed : row.tokenHash = ⟨held.token⟩)
    (exchanges : ExchangesFor presentation.input.now row current) :
    ServedOnwards app presentation client current user := by
  have runs : (AuthService.refresh app held.token).run presentation.input client.world =
      (.ok (refreshedPair app presentation.input.now client.world.store user),
        rotatedWorld app presentation.input.now user current client.world) :=
    run_refresh_exchange chained.consistent stored hashed chained.present exchanges
      chained.active
  refine ⟨⟨refreshedPair app presentation.input.now client.world.store user, ?_⟩, ?_,
    chained.rotate holds runs⟩
  · unfold ClientState.answer
    rw [holds, Option.map_some, runs]
  · unfold ClientState.present
    rw [holds]
    simp only [runs]
    rfl

/-- The newest token is served until it expires. -/
theorem Chained.served_newest
    (chained : Chained app last client newest older current user)
    (first : presentation.age = 0)
    (unexpired : presentation.input.now < newest.expiresAt) :
    ServedOnwards app presentation client current user := by
  have holds : client.held[presentation.age]? = some newest := by
    rw [first, chained.held]
    rfl
  refine chained.served_of_exchange holds chained.present chained.token (.inl ⟨?_, rfl⟩)
  simp only [Session.live, chained.unrevoked, chained.expiresAt]
  simpa using unexpired

/-- The token before the newest is served exactly within the grace period. -/
theorem Chained.served_previous
    (chained : Chained app last client newest older current user)
    (second : presentation.age = 1)
    (holds : client.held[presentation.age]? = some held) :
    ∃ previous, last = some previous ∧
      (presentation.input.now ≤ previous + concurrentRefreshGraceSeconds * 1000 →
        ServedOnwards app presentation client current user) ∧
      ∀ pair, client.answer app presentation = some (.ok pair) →
        presentation.input.now ≤ previous + concurrentRefreshGraceSeconds * 1000 := by
  have behind := chained.behind
  cases older with
  | nil =>
      rw [second, chained.held] at holds
      cases holds
  | cons before ancient =>
      have same : before = held := by
        rw [second, chained.held] at holds
        exact Option.some.inj holds
      obtain ⟨time, timed, ⟨row, stored, hashed, revoked, linked⟩, expires, -⟩ := behind
      rw [same] at hashed
      refine ⟨time, timed, ?_, ?_⟩
      · intro recent
        refine chained.served_of_exchange holds stored hashed
          (.inr ⟨time, revoked, Nat.sub_le_iff_le_add'.mpr recent, linked, ?_⟩)
        have day := app.one_le_refreshTokenExpiryDays
        have unexpired : presentation.input.now < current.expiresAt := by
          rw [expires]
          unfold concurrentRefreshGraceSeconds at recent
          unfold Time at *
          omega
        simp only [Session.live, chained.unrevoked]
        simpa using unexpired
      · intro pair served
        unfold ClientState.answer at served
        rw [holds, Option.map_some, Option.some.injEq] at served
        obtain ⟨target, targetStored, exchanges⟩ := exchange_of_served
          chained.consistent stored hashed (by rw [revoked]; rfl) served
        rcases exchanges with ⟨live, -⟩ | ⟨revokedAt, ended, recent, -⟩
        · rw [not_live_of_revoked (by rw [revoked]; rfl)] at live
          cases live
        · rw [revoked] at ended
          cases ended
          exact Nat.sub_le_iff_le_add'.mp recent

/-- An older token is not served. -/
theorem Chained.not_served_ancient
    (chained : Chained app last client newest older current user)
    {age : Nat}
    (later : presentation.age = age + 2)
    {pair : TokenPair}
    (served : client.answer app presentation = some (.ok pair)) :
    False := by
  unfold ClientState.answer at served
  rw [later, chained.held] at served
  obtain ⟨held, holds, answered⟩ := Option.map_eq_some_iff.mp served
  have behind := chained.behind
  cases older with
  | nil => cases holds
  | cons before ancient =>
      obtain ⟨-, -, -, -, spent⟩ := behind
      refine not_served_of_spent chained.consistent (spent held.token ?_) answered
      exact List.mem_map_of_mem (List.mem_of_getElem? holds)

/-- An honest presentation is served exactly when it is timely. -/
theorem Chained.served_or_not
    (chained : Chained app last client newest older current user)
    (holds : client.held[presentation.age]? = some held)
    (honest : match held.firstPresentedAt with
      | none => presentation.input.now < held.expiresAt
      | some first =>
          presentation.input.now ≤ first + concurrentRefreshGraceSeconds * 1000) :
    (TimelyNext last presentation ∧
        ServedOnwards app presentation client current user) ∨
      (¬ TimelyNext last presentation ∧
        ∀ pair, client.answer app presentation ≠ some (.ok pair)) := by
  match age : presentation.age with
  | 0 =>
      have same : newest = held := by
        rw [age, chained.held] at holds
        exact Option.some.inj holds
      rw [← same, chained.unpresented] at honest
      exact .inl ⟨.inl age, chained.served_newest age honest⟩
  | 1 =>
      obtain ⟨previous, timed, serves, inTime⟩ := chained.served_previous age holds
      by_cases recent : presentation.input.now ≤
          previous + concurrentRefreshGraceSeconds * 1000
      · exact .inl ⟨.inr ⟨age, previous, timed, recent⟩, serves recent⟩
      · refine .inr ⟨?_, fun pair served => recent (inTime pair served)⟩
        rintro (first | ⟨-, other, otherTimed, otherRecent⟩)
        · omega
        · rw [timed] at otherTimed
          cases otherTimed
          exact recent otherRecent
  | older + 2 =>
      refine .inr ⟨?_, fun pair served => chained.not_served_ancient age served⟩
      rintro (first | ⟨second, -⟩) <;> omega

variable (app) in
/-- The client has just signed in: in a state that some run leads to, it holds
one token, that of an unrevoked session of an active account. -/
def SignedIn (start : ClientState) : Prop :=
  start.world.Reachable app ∧
    ∃ session ∈ start.world.sessions,
      session.revokedAt = none ∧
        start.held = [⟨session.tokenHash.preimage, session.expiresAt, none⟩] ∧
        (activeUser session.userId start.world).isSome

/-- While every call is served, or equivalently while every call is timely, the
client stays at the end of a chain and no reuse is detected. -/
theorem chained_after
    {start : ClientState}
    (signedIn : SignedIn app start)
    {presentations : List Presentation}
    (honest : Honest app start presentations) :
    (AllServed app start presentations ↔ Timely presentations) ∧
      (AllServed app start presentations →
        (start.after app presentations).world.auditLogs = start.world.auditLogs ∧
        ∃ newest older current user,
          Chained app (presentations.head?.map (·.input.now))
            (start.after app presentations) newest older current user) := by
  induction presentations with
  | nil =>
      obtain ⟨reachable, session, stored, unrevoked, held, active⟩ := signedIn
      obtain ⟨user, active⟩ := Option.isSome_iff_exists.mp active
      exact ⟨Iff.rfl, fun _ => ⟨rfl, _, _, session, user,
        { consistent := reachable.consistent
          held
          present := stored
          active
          token := rfl
          unrevoked
          expiresAt := rfl
          unpresented := rfl
          behind := trivial }⟩⟩
  | cons presentation earlier inductionHypothesis =>
      obtain ⟨⟨held, holds, honestNow⟩, honestBefore⟩ := honest
      obtain ⟨servedIff, onwards⟩ := inductionHypothesis honestBefore
      -- Both sides need every earlier call to be served.
      by_cases servedBefore : AllServed app start earlier
      · obtain ⟨sameLogs, newest, older, current, user, chained⟩ := onwards servedBefore
        rcases chained.served_or_not holds honestNow with
          ⟨timely, served, sameLogsNow, next, rest, extended⟩ | ⟨untimely, unserved⟩
        · refine ⟨⟨fun _ => ⟨timely, servedIff.mp servedBefore⟩,
            fun _ => ⟨served, servedBefore⟩⟩, fun _ => ⟨?_, next, rest, _, user, extended⟩⟩
          exact sameLogsNow.trans sameLogs
        · have notServed : ¬ AllServed app start (presentation :: earlier) := by
            rintro ⟨⟨pair, served⟩, -⟩
            exact unserved pair served
          exact ⟨⟨fun served => absurd served notServed,
            fun timely => absurd timely.1 untimely⟩, fun served => absurd served notServed⟩
      · have untimely : ¬ Timely earlier := fun timely => servedBefore (servedIff.mpr timely)
        exact ⟨⟨fun served => absurd served.2 servedBefore,
          fun timely => absurd timely.2 untimely⟩, fun served => absurd served.2 servedBefore⟩

/-- An honest client is served on every call, and no reuse is ever detected,
exactly when every call is timely. -/
theorem honest_client_served_iff_timely
    (app : Deployment)
    (start : ClientState)
    (signedIn : SignedIn app start)
    (presentations : List Presentation)
    (honest : Honest app start presentations) :
    (AllServed app start presentations ∧
        (start.after app presentations).world.auditLogs = start.world.auditLogs) ↔
      Timely presentations := by
  obtain ⟨servedIff, onwards⟩ := chained_after signedIn honest
  constructor
  · intro served
    exact servedIff.mp served.1
  · intro timely
    have served := servedIff.mpr timely
    exact ⟨served, (onwards served).1⟩

/-- The state after the sample sign-in, with the token it returned. -/
def sampleClient : ClientState :=
  { world := serve sampleApp sampleWorld
      [⟨{ now := 1000 }, sampleVerifyLogin "laptop" 0⟩, ⟨{ now := 0 }, sampleLogin "laptop"⟩]
    held := [⟨1, 2592001000, none⟩] }

theorem sampleClient_signedIn : SignedIn sampleApp sampleClient :=
  ⟨⟨sampleWorld, _, sampleWorld_initial, rfl⟩,
    sampleClient.world.sessions.head (by decide), by decide, by decide, by decide,
    by decide⟩

/-- Two requests in parallel with one token are both served. -/
theorem honest_client_served_iff_timely_twice :
    AllServed sampleApp sampleClient
      [⟨{ now := 61000 }, 1⟩, ⟨{ now := 60000 }, 0⟩] := by
  refine ((honest_client_served_iff_timely sampleApp sampleClient sampleClient_signedIn
    [⟨{ now := 61000 }, 1⟩, ⟨{ now := 60000 }, 0⟩] ?_).mpr ?_).1
  · exact ⟨⟨⟨1, 2592001000, some 60000⟩, by decide, by decide⟩,
      ⟨⟨1, 2592001000, none⟩, by decide, by decide⟩, trivial⟩
  · exact ⟨.inr ⟨rfl, 60000, by decide, by decide⟩, .inl rfl, trivial⟩

/-- Three requests in parallel with one token: the third is refused as reuse. -/
theorem third_parallel_refresh_refused :
    Honest sampleApp sampleClient
        [⟨{ now := 62000 }, 2⟩, ⟨{ now := 61000 }, 1⟩, ⟨{ now := 60000 }, 0⟩] ∧
      (sampleClient.after sampleApp
          [⟨{ now := 61000 }, 1⟩, ⟨{ now := 60000 }, 0⟩]).answer sampleApp
        ⟨{ now := 62000 }, 2⟩ = some (.error AuthService.sessionExpired) ∧
      ⟨some 0, .authRefreshTokenReuseDetected⟩ ∈
        (sampleClient.after sampleApp
          [⟨{ now := 62000 }, 2⟩, ⟨{ now := 61000 }, 1⟩,
            ⟨{ now := 60000 }, 0⟩]).world.auditLogs := by
  refine ⟨?_, by decide, by decide⟩
  exact ⟨⟨⟨1, 2592001000, some 60000⟩, by decide, by decide⟩,
    ⟨⟨1, 2592001000, some 60000⟩, by decide, by decide⟩,
    ⟨⟨1, 2592001000, none⟩, by decide, by decide⟩, trivial⟩

end ConferenceContact
