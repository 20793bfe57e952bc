import ConferenceContact.Auth.SessionStore
import ConferenceContact.Model.Auth

/-!
# What one refresh does

A refresh handled by itself, in closed form: `refreshTarget` names the session
a presented token stands for, and the run of `AuthService.refresh` is read off
it.
-/

namespace ConferenceContact

open Process

/-! ## The session a token stands for -/

/-- How a presented refresh token is answered. -/
inductive RefreshTarget
  /-- A live session is rotated. -/
  | rotate (session : Session)
  /-- A revoked session was presented again. -/
  | reuse (presented : Session)
  /-- The token is unknown, or its session has merely expired. -/
  | refuse

/-- The live successor of a session rotated within the grace window. -/
def graceSuccessor
    (now : Time)
    (sessions : List Session)
    (presented : Session) : Option Session :=
  match presented.revokedAt, presented.replacedByTokenId with
  | some revokedAt, some successorId =>
      if now - revokedAt ≤ concurrentRefreshGraceSeconds * 1000 then
        (sessions.find? fun session => session.id = successorId).filter
          fun successor => successor.live now
      else none
  | _, _ => none

/-- The answer to a presented token, from the stored sessions alone. -/
def refreshTarget
    (now : Time)
    (rawToken : RawToken)
    (sessions : List Session) : RefreshTarget :=
  match sessions.find? fun session =>
      session.tokenHash = ⟨rawToken⟩ && session.live now with
  | some session => .rotate session
  | none =>
      match sessions.find? fun session => session.tokenHash = ⟨rawToken⟩ with
      | none => .refuse
      | some presented =>
          match graceSuccessor now sessions presented with
          | some successor => .rotate successor
          | none => if presented.revokedAt.isSome then .reuse presented else .refuse

theorem graceSuccessor_eq_some
    {now : Time}
    {sessions : List Session}
    {presented successor : Session} :
    graceSuccessor now sessions presented = some successor ↔
      ∃ revokedAt successorId,
        presented.revokedAt = some revokedAt ∧
        presented.replacedByTokenId = some successorId ∧
        now - revokedAt ≤ concurrentRefreshGraceSeconds * 1000 ∧
        sessions.find? (fun session => session.id = successorId) = some successor ∧
        successor.live now := by
  unfold graceSuccessor
  cases presented.revokedAt with
  | none => simp
  | some revokedAt =>
      cases presented.replacedByTokenId with
      | none => simp
      | some successorId =>
          simp only
          constructor
          · intro found
            split at found
            · obtain ⟨stored, live⟩ := Option.filter_eq_some_iff.mp found
              exact ⟨revokedAt, successorId, rfl, rfl, ‹_›, stored, live⟩
            · cases found
          · rintro ⟨_, _, ⟨⟩, ⟨⟩, within, stored, live⟩
            simp only [if_pos within, stored, Option.filter_some, live, if_true]

/-- The session that is rotated is a stored live one. -/
theorem refreshTarget_rotate
    {now : Time}
    {rawToken : RawToken}
    {sessions : List Session}
    {session : Session}
    (target : refreshTarget now rawToken sessions = .rotate session) :
    session ∈ sessions ∧ session.live now := by
  unfold refreshTarget at target
  split at target
  · cases target
    refine ⟨List.mem_of_find?_eq_some ‹_›, ?_⟩
    have found := List.find?_some ‹_›
    rw [Bool.and_eq_true] at found
    exact found.2
  · split at target
    · cases target
    · split at target
      · cases target
        obtain ⟨_, _, _, _, _, found, live⟩ := graceSuccessor_eq_some.mp ‹_›
        exact ⟨List.mem_of_find?_eq_some found, live⟩
      · split at target <;> cases target

/-- With distinct tokens, the session of a presented token decides the answer. -/
theorem refreshTarget_of_mem
    {world : World}
    (consistent : world.store.Consistent)
    (now : Time)
    {rawToken : RawToken}
    {session : Session}
    (present : session ∈ world.sessions)
    (token : session.tokenHash = ⟨rawToken⟩) :
    refreshTarget now rawToken world.sessions =
      if session.live now then .rotate session
      else
        match graceSuccessor now world.sessions session with
        | some successor => .rotate successor
        | none => if session.revokedAt.isSome then .reuse session else .refuse := by
  have distinct : (world.sessions.map (·.tokenHash)).Nodup := consistent.tokensDistinct
  have found := Table.find?_key_eq_some distinct present
  rw [token] at found
  have activeFound : world.sessions.find? (fun other =>
      other.tokenHash = ⟨rawToken⟩ && other.live now) =
      if session.live now then some session else none := by
    by_cases live : session.live now
    · rw [if_pos live, List.find?_eq_some_iff_append]
      obtain ⟨-, before, after, split, unlike⟩ :=
        List.find?_eq_some_iff_append.mp found
      refine ⟨by simp [token, live], before, after, split, ?_⟩
      intro other earlier
      have different := unlike other earlier
      simp_all
    · rw [if_neg live, List.find?_eq_none]
      intro other otherPresent matched
      simp only [Bool.and_eq_true, decide_eq_true_eq] at matched
      have same : other = session :=
        Table.eq_of_key_eq distinct otherPresent present (matched.1.trans token.symm)
      exact live (same ▸ matched.2)
  unfold refreshTarget
  rw [activeFound, found]
  by_cases live : session.live now
  · simp only [if_pos live]
  · simp only [if_neg live]

/-- The sessions after every unrevoked one of a user is ended. -/
def revokeUserSessions
    (now : Time)
    (user : UserId)
    (sessions : List Session) : List Session :=
  Table.updateWhere
    (fun session => session.userId = user ∧ session.revokedAt = none)
    (Session.revoke now) sessions

theorem run_concurrentSuccessor
    (input : Input)
    (world : World)
    (presented : Session) :
    (AuthService.concurrentSuccessor (some presented)).run input world =
      (.ok (graceSuccessor input.now world.sessions presented), world) := by
  unfold AuthService.concurrentSuccessor graceSuccessor
  cases revoked : presented.revokedAt with
  | none => simp only [revoked, run_pure]
  | some revokedAt =>
      cases linked : presented.replacedByTokenId with
      | none => simp only [revoked, linked, run_pure]
      | some successorId =>
          simp only [revoked, linked, run_bind, Service.run_dateNow]
          split
          · simp [run_bind, SessionsService.findById]
          · rfl

theorem run_sessionToRotate (rawToken : RawToken) (input : Input) (world : World) :
    (AuthService.sessionToRotate rawToken).run input world =
      match refreshTarget input.now rawToken world.sessions with
      | .rotate session => (.ok session, world)
      | .reuse presented =>
          (.error AuthService.sessionExpired,
            { world with
              sessions :=
                revokeUserSessions input.now presented.userId world.sessions
              auditLogs :=
                ⟨some presented.userId, .authRefreshTokenReuseDetected⟩ ::
                  world.auditLogs })
      | .refuse => (.error AuthService.sessionExpired, world) := by
  unfold AuthService.sessionToRotate refreshTarget
  simp only [run_bind, SessionsService.findActiveByRawToken, run_query]
  cases world.sessions.find? fun session =>
      session.tokenHash = ⟨rawToken⟩ && session.live input.now with
  | some session => rfl
  | none =>
      simp only [run_bind, SessionsService.findAnyByRawToken, run_query]
      cases world.sessions.find? fun session => session.tokenHash = ⟨rawToken⟩ with
      | none => rfl
      | some presented =>
          simp only [run_concurrentSuccessor]
          cases graceSuccessor input.now world.sessions presented with
          | some successor => rfl
          | none =>
              cases presented.revokedAt with
              | none => rfl
              | some revokedAt => rfl

/-! ## Rotating it -/

/-- The session a rotation creates. -/
def successorOf
    (app : Deployment)
    (now : Time)
    (store : SessionStore)
    (session : Session) : Session :=
  { id := store.nextId + 1
    userId := session.userId
    deviceId := session.deviceId
    tokenHash := ⟨store.nextId⟩
    createdAt := now
    expiresAt := now + app.refreshTokenExpiryDays * 86400000 }

/-- The sessions after a rotation: the successor is new, and the rotated session
is revoked in its favour. -/
def rotatedSessions
    (app : Deployment)
    (now : Time)
    (store : SessionStore)
    (session : Session) : List Session :=
  successorOf app now store session ::
    Table.updateWhere (fun row => row.id = session.id)
      (Session.supersede now (store.nextId + 1)) store.sessions

/-- The access token of a rotation. -/
def refreshedAccessToken (app : Deployment) (now : Time) (user : User) : Jwt :=
  { payload := .access { sub := user.id, role := user.role }
    iat := now / 1000
    exp := now / 1000 + app.jwtAccessExpirySeconds }

/-- The token pair of a rotation. -/
def refreshedPair
    (app : Deployment)
    (now : Time)
    (store : SessionStore)
    (user : User) : TokenPair :=
  { accessToken := refreshedAccessToken app now user
    refreshToken := store.nextId
    refreshTokenExpiresAt := now + app.refreshTokenExpiryDays * 86400000 }

/-- The world after a rotation. -/
def rotatedWorld
    (app : Deployment)
    (now : Time)
    (user : User)
    (session : Session)
    (world : World) : World :=
  { world with
    sessions := rotatedSessions app now world.store session
    nextId := world.nextId + 2
    signed := refreshedAccessToken app now user :: world.signed }

/-- Rotating a stored session of a consistent store succeeds. -/
theorem run_rotateAndSign
    (app : Deployment)
    (input : Input)
    {world : World}
    (consistent : world.store.Consistent)
    (user : User)
    {session : Session}
    (present : session ∈ world.sessions) :
    (AuthService.rotateAndSign app user session).run input world =
      (.ok (refreshedPair app input.now world.store user),
        rotatedWorld app input.now user session world) := by
  have deviceKnown : (session.deviceId.all fun deviceId =>
      world.devices.any fun device => device.id = deviceId) = true := by
    cases refers : session.deviceId with
    | none => rfl
    | some deviceId =>
        obtain ⟨device, stored, named⟩ :=
          consistent.deviceExists session present deviceId refers
        simpa using ⟨device, stored, named⟩
  have created : (SessionsService.create app
      { userId := session.userId, deviceId := session.deviceId }).run input world =
      (.ok (world.nextId, successorOf app input.now world.store session),
        { world with
          sessions := successorOf app input.now world.store session :: world.sessions
          nextId := world.nextId + 2 }) := by
    simp only [SessionsService.create, run_attempt, deviceKnown]
    rfl
  -- The successor's identifier is fresh, so marking the old row misses it.
  have fresh : world.nextId + 1 ≠ session.id := by
    have older := consistent.idsFresh session present
    grind [World.store_nextId]
  have marked : (SessionsService.update session.id fun now row =>
      { row with
        revokedAt := some now
        replacedByTokenId := some (successorOf app input.now world.store session).id }).run
      input
      { world with
        sessions := successorOf app input.now world.store session :: world.sessions
        nextId := world.nextId + 2 } =
      (.ok (), { world with
        sessions := rotatedSessions app input.now world.store session
        nextId := world.nextId + 2 }) := by
    have known : ((successorOf app input.now world.store session ::
        world.sessions).any fun row => row.id = session.id) = true :=
      List.any_eq_true.mpr ⟨session, List.mem_cons_of_mem _ present, by simp⟩
    simp only [SessionsService.update, run_attempt, known, if_true]
    simp [rotatedSessions, successorOf, fresh]
    rfl
  simp only [AuthService.rotateAndSign, SessionsService.rotate, run_bind, created,
    marked, run_pure, AuthService.signAccessToken, JwtService.run_signAsync]
  rfl

/-! ## The whole refresh -/

/-- The row of a user whose account is active. -/
def activeUser (id : UserId) (world : World) : Option User :=
  (world.users.find? fun user => user.id = id).filter fun user =>
    user.status = .active

/-- The answer to a session of an account that may not be used. -/
def accountNotActive : ApiError := .unauthorized "Account is not active"

/-- A live session is rotated for an active account and ended otherwise. -/
theorem run_refreshSession
    (app : Deployment)
    (input : Input)
    {world : World}
    (consistent : world.store.Consistent)
    {session : Session}
    (present : session ∈ world.sessions) :
    (AuthService.refreshSession app session).run input world =
      match activeUser session.userId world with
      | some user =>
          (.ok (refreshedPair app input.now world.store user),
            rotatedWorld app input.now user session world)
      | none =>
          (.error accountNotActive,
            { world with
              sessions := Table.updateWhere (fun row => row.id = session.id)
                (Session.revoke input.now) world.sessions }) := by
  have ended : (SessionsService.revoke session.id).run input world =
      (.ok (), { world with
        sessions := Table.updateWhere (fun row => row.id = session.id)
          (Session.revoke input.now) world.sessions }) := by
    have known : (world.sessions.any fun row => row.id = session.id) = true :=
      List.any_eq_true.mpr ⟨session, present, by simp⟩
    simp only [SessionsService.revoke, SessionsService.update, run_attempt, known,
      if_true]
    rfl
  unfold AuthService.refreshSession activeUser
  simp only [run_bind, UsersService.findById, run_query]
  cases world.users.find? fun user => user.id = session.userId with
  | none => simp only [run_bind, ended, run_throw, Option.filter_none]; rfl
  | some user =>
      by_cases active : user.status = .active
      · simp only [active, if_true, Option.filter_some, decide_true,
          run_rotateAndSign app input consistent user present]
      · simp only [active, if_false, run_bind, ended, run_throw, Option.filter_some,
          decide_false, Bool.false_eq_true]
        rfl

/-- A refresh in a consistent world. -/
theorem run_refresh
    (app : Deployment)
    (rawToken : RawToken)
    (input : Input)
    {world : World}
    (consistent : world.store.Consistent) :
    (AuthService.refresh app rawToken).run input world =
      match refreshTarget input.now rawToken world.sessions with
      | .rotate session =>
          match activeUser session.userId world with
          | some user =>
              (.ok (refreshedPair app input.now world.store user),
                rotatedWorld app input.now user session world)
          | none =>
              (.error accountNotActive,
                { world with
                  sessions := Table.updateWhere (fun row => row.id = session.id)
                    (Session.revoke input.now) world.sessions })
      | .reuse presented =>
          (.error AuthService.sessionExpired,
            { world with
              sessions :=
                revokeUserSessions input.now presented.userId world.sessions
              auditLogs :=
                ⟨some presented.userId, .authRefreshTokenReuseDetected⟩ ::
                  world.auditLogs })
      | .refuse => (.error AuthService.sessionExpired, world) := by
  unfold AuthService.refresh
  rw [run_bind, run_sessionToRotate]
  cases target : refreshTarget input.now rawToken world.sessions with
  | rotate session =>
      exact run_refreshSession app input consistent (refreshTarget_rotate target).1
  | reuse presented => rfl
  | refuse => rfl

/-! ## Steps of the session store -/

/-- Ending every unrevoked session of a user is a step of the session store. -/
theorem revokeUserSessions_step
    (now : Time)
    (mayIssue : UserId → Option DeviceId → Prop)
    (user : UserId)
    (store : SessionStore) :
    SessionStore.Step now mayIssue store
      { store with sessions := revokeUserSessions now user store.sessions } :=
  .revoke store _ fun _ _ selected => (of_decide_eq_true selected).2

/-- Ending one unrevoked session is a step of the session store. -/
theorem revokeOne_step
    {now : Time}
    {mayIssue : UserId → Option DeviceId → Prop}
    {store : SessionStore}
    (consistent : store.Consistent)
    {session : Session}
    (present : session ∈ store.sessions)
    (unrevoked : session.revokedAt = none) :
    SessionStore.Step now mayIssue store
      { store with
        sessions := Table.updateWhere (fun row => row.id = session.id)
          (Session.revoke now) store.sessions } := by
  refine .revoke store _ ?_
  intro row stored selected
  rw [consistent.eq_of_id_eq stored present (of_decide_eq_true selected)]
  exact unrevoked

/-- A successful rotation is two steps of the session store. -/
theorem rotatedWorld_steps
    (app : Deployment)
    (now : Time)
    (user : User)
    {world : World}
    (consistent : world.store.Consistent)
    {mayIssue : UserId → Option DeviceId → Prop}
    {session : Session}
    (present : session ∈ world.sessions)
    (unrevoked : session.revokedAt = none)
    (allowed : mayIssue session.userId session.deviceId) :
    SessionStore.Steps now mayIssue world.store
      (rotatedWorld app now user session world).store := by
  have issued : SessionStore.Step now mayIssue world.store
      { world.store with
        sessions := successorOf app now world.store session :: world.store.sessions
        nextId := world.store.nextId + 2 } :=
    .issue world.store (successorOf app now world.store session) rfl rfl rfl rfl
      (consistent.deviceExists session present) allowed
  have superseded : SessionStore.Step now mayIssue _ _ :=
    .supersede
      { world.store with
        sessions := successorOf app now world.store session :: world.store.sessions
        nextId := world.store.nextId + 2 }
      session (successorOf app now world.store session)
      (List.mem_cons_of_mem _ present) unrevoked List.mem_cons_self rfl
  have fresh : world.nextId + 1 ≠ session.id := by
    have older := consistent.idsFresh session present
    grind [World.store_nextId]
  have outcome : (rotatedWorld app now user session world).store =
      ⟨Table.updateWhere (fun row => row.id = session.id)
          (Session.supersede now (successorOf app now world.store session).id)
          (successorOf app now world.store session :: world.store.sessions),
        world.devices, world.nextId + 2⟩ := by
    simp [rotatedWorld, World.store, rotatedSessions, successorOf, fresh]
  rw [outcome]
  exact (Relation.ReflTransGen.single issued).tail superseded

end ConferenceContact
