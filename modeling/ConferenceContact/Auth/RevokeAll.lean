import ConferenceContact.Auth.ReplayResponse
import ConferenceContact.Foundation.Interleaving

/-!
# Ending every session while refreshes are in progress

Refreshes and the operations that end every session of a user, interleaved at
their single calls.  The update that ends the sessions is final unless, at that
moment, some refresh holds a session of the user that it found before and whose
successor it has yet to create.
-/

namespace ConferenceContact

open Process

/-- A refresh, or an operation that ends every session of a user. -/
def AuthRequest.RefreshesOrRevokes : AuthRequest → Bool
  | .refresh _ => true
  | .logoutAll _ => true
  | .resetPassword _ _ => true
  | .suspendUser _ _ => true
  | .deleteUser _ _ => true
  | .forceLogout _ _ => true
  | _ => false

/-- The next call of the process ends every unrevoked session of the user. -/
def RevokesAllNext (userId : UserId) (process : Service Unit) : Prop :=
  ∃ next : Service Unit, process = (do
    SessionsService.revokeAllForUser userId
    next)

/-- What is left of a refresh once it has found its session. -/
def sessionFound (app : Deployment) (session : Session) : Service Unit := do
  let _ ← AuthService.refreshSession app session

/-- What is left of a refresh once it has found its session and account. -/
def accountFound (app : Deployment) (user : User) (session : Session) : Service Unit := do
  let _ ← AuthService.rotateAndSign app user session

/-- The answer to a replayed token: its live successor, or the theft response. -/
def answerReplay (presented : Session) (successor : Option Session) : Service Session :=
  match successor with
  | some successor => return successor
  | none => do
      if presented.revokedAt.isSome then
        SessionsService.revokeAllForUser presented.userId
        AuditService.record (some presented.userId) .authRefreshTokenReuseDetected
      throw AuthService.sessionExpired

/-- What is left of a refresh once it has read the successor of its session. -/
def successorFound
    (app : Deployment)
    (presented : Session)
    (successor : Option Session) : Service Unit := do
  let now ← Service.dateNow
  let session ← answerReplay presented (successor.filter fun successor =>
    successor.live now)
  sessionFound app session

/-- A refresh has read an unrevoked session of the user and has yet to create its
successor, while the account is active or was found to be. -/
inductive HoldsSession (app : Deployment) (userId : UserId) (active : Prop) :
    Service Unit → Prop
  | session (session : Session) :
      session.userId = userId → active →
      HoldsSession app userId active (sessionFound app session)
  | account (user : User) (session : Session) :
      session.userId = userId →
      HoldsSession app userId active (accountFound app user session)
  | successor (presented successor : Session) :
      successor.userId = userId → successor.revokedAt = none → active →
      HoldsSession app userId active (successorFound app presented (some successor))

/-- Every session of the user is revoked, and the account stays as inactive as it
was. -/
def Ended (userId : UserId) (active : Prop) (world : World) : Prop :=
  (∀ session ∈ world.sessions, session.userId = userId → session.revokedAt.isSome) ∧
    (¬ active → activeUser userId world = none)

variable {app : Deployment} {userId : UserId} {active : Prop}

/-- The preservation of `Ended`. -/
abbrev KeepsEnded (userId : UserId) (active : Prop) (before after : World) : Prop :=
  Ended userId active before → Ended userId active after

instance : IsPreorder World (KeepsEnded userId active) where
  refl _ := id
  trans _ _ _ first second := second ∘ first

/-! ## Calls that keep the sessions ended -/

/-- A call that touches neither sessions nor users. -/
theorem keepsEnded_of_same
    {before after : World}
    (sessions : after.sessions = before.sessions)
    (users : after.users = before.users) :
    KeepsEnded userId active before after := by
  rintro ⟨ended, inactive⟩
  unfold Ended activeUser
  rw [sessions, users]
  exact ⟨ended, inactive⟩

/-- Revoking rows. -/
theorem keepsEnded_updateWhere
    (condition : Session → Bool)
    (now : Time)
    (rewrite : Session → Session)
    (revoked : ∀ session, (rewrite session).revokedAt = some now)
    (world : World) :
    KeepsEnded userId active world
      { world with sessions := Table.updateWhere condition rewrite world.sessions } := by
  rintro ⟨ended, inactive⟩
  refine ⟨?_, inactive⟩
  intro session present same
  obtain ⟨before, stored, rfl⟩ := Table.mem_updateWhere.mp present
  split at same
  · rw [if_pos ‹_›, revoked]
    rfl
  · rw [if_neg ‹_›]
    exact ended before stored same

theorem respects_revokeAllForUser (target : UserId) :
    (SessionsService.revokeAllForUser target).Respects (KeepsEnded userId active) :=
  Respects.command fun input world =>
    keepsEnded_updateWhere _ input.now (Session.revoke input.now) (fun _ => rfl) world

/-- Updating an account without activating it. -/
theorem respects_updateUser
    (id : UserId)
    {rewrite : Time → User → User}
    (sameId : ∀ now user, (rewrite now user).id = user.id)
    (inactive : ∀ now user, (rewrite now user).status = .active → user.status = .active) :
    (UsersService.update id rewrite).Respects (KeepsEnded userId active) := by
  refine Respects.attempt ?_
  intro input world value after outcome
  split at outcome
  · cases outcome
  · cases outcome
    rintro ⟨ended, blocked⟩
    refine ⟨ended, fun notActive => ?_⟩
    have before := blocked notActive
    unfold activeUser at before ⊢
    have found : (Table.updateWhere (fun other => other.id = id) (rewrite input.now)
        world.users).find? (fun user => user.id = userId) =
        (world.users.find? fun user => user.id = userId).map fun user =>
          if user.id = id then rewrite input.now user else user := by
      rw [Table.find?_updateWhere User.id _ _ _ _ (sameId input.now)]
      simp only [decide_eq_true_eq]
    rw [found]
    cases lookup : world.users.find? fun user => user.id = userId with
    | none => rfl
    | some user =>
        rw [lookup] at before
        simp only [Option.filter_some, Option.map_some] at before ⊢
        split at before
        · cases before
        · rw [if_neg]
          rename_i notNow
          intro activated
          apply notNow
          simp only [decide_eq_true_eq] at activated ⊢
          split at activated
          · exact inactive input.now user activated
          · exact activated

theorem respects_revokeEverything
    (target : UserId)
    (actor : Option UserId)
    (action : AuditAction) :
    Respects (KeepsEnded userId active) (do
      SessionsService.revokeAllForUser target
      TokenRevocationService.revokeUser app target
      AuditService.record actor action) := by
  refine Respects.bind (respects_revokeAllForUser target) fun _ => ?_
  refine Respects.bind ?_ fun _ => Respects.command fun _ _ => keepsEnded_of_same rfl rfl
  exact Footprint.revokeUser (fun _ _ => keepsEnded_of_same rfl rfl) app target

/-- The operations that end every session of a user keep ended ones ended. -/
theorem respects_revokingRequest
    {request : AuthRequest}
    (allowed : request.RefreshesOrRevokes)
    (revokes : ∀ rawToken, request ≠ .refresh rawToken) :
    (request.handle app).Respects (KeepsEnded userId active) := by
  cases request with
  | refresh rawToken => exact absurd rfl (revokes rawToken)
  | logoutAll target => exact respects_revokeEverything _ _ _
  | resetPassword rawToken newPassword =>
      refine Respects.bind ?_ fun token => ?_
      · refine Respects.bind (Respects.query _) fun found => ?_
        cases found with
        | none => exact Respects.throw _
        | some token =>
            refine Respects.ite (Respects.throw _) (Respects.ite (Respects.throw _) ?_)
            refine Respects.bind (Respects.query _) fun now => ?_
            refine Respects.ite (Respects.throw _) ?_
            exact Respects.bind
              (Respects.command fun _ _ => keepsEnded_of_same rfl rfl)
              fun _ => Respects.pure _
      · refine Respects.bind (respects_updateUser _ (fun _ _ => rfl) fun _ _ => id)
          fun _ => ?_
        exact respects_revokeEverything _ _ _
  | suspendUser adminUserId targetUserId =>
      refine Respects.ite (Respects.throw _) ?_
      refine Respects.bind (Respects.query _) fun found => ?_
      cases found with
      | none => exact Respects.throw _
      | some target =>
          refine Respects.ite (Respects.throw _) ?_
          refine Respects.bind (respects_updateUser _ (fun _ _ => rfl) ?_) fun _ => ?_
          · intro _ _ activated
            cases activated
          · exact respects_revokeEverything _ _ _
  | deleteUser adminUserId targetUserId =>
      refine Respects.ite (Respects.throw _) ?_
      refine Respects.bind (Respects.query _) fun found => ?_
      cases found with
      | none => exact Respects.throw _
      | some target =>
          refine Respects.ite (Respects.throw _) ?_
          refine Respects.bind (respects_updateUser _ (fun _ _ => rfl) ?_) fun _ => ?_
          · intro _ _ activated
            cases activated
          · exact respects_revokeEverything _ _ _
  | forceLogout adminUserId targetUserId =>
      refine Respects.bind (Respects.query _) fun found => ?_
      cases found with
      | none => exact Respects.throw _
      | some target => exact respects_revokeEverything _ _ _
  | _ => cases allowed

/-! ## Refreshes -/

theorem respects_updateSession
    (id : SessionId)
    {rewrite : Time → Session → Session}
    (revoked : ∀ now session, (rewrite now session).revokedAt = some now) :
    (SessionsService.update id rewrite).Respects (KeepsEnded userId active) :=
  Footprint.updateSession fun now world =>
    keepsEnded_updateWhere _ now (rewrite now) (revoked now) world

theorem respects_signAccessToken (sub : UserId) (role : Role) :
    (AuthService.signAccessToken app sub role).Respects (KeepsEnded userId active) := by
  unfold AuthService.signAccessToken JwtService.signAsync
  refine Respects.attempt ?_
  rintro input world value after ⟨⟩
  exact keepsEnded_of_same rfl rfl

/-- Rotating a session of another user keeps this user's sessions ended. -/
theorem respects_rotateAndSign
    (user : User)
    {session : Session}
    (other : session.userId ≠ userId) :
    (AuthService.rotateAndSign app user session).Respects (KeepsEnded userId active) := by
  refine Respects.bind ?_ fun pair =>
    Respects.bind (respects_signAccessToken _ _) fun _ => Respects.pure _
  refine Respects.bind ?_ fun created =>
    Respects.bind (respects_updateSession _ fun _ _ => rfl) fun _ => Respects.pure _
  refine Respects.attempt ?_
  intro input world value after outcome
  split at outcome
  · cases outcome
    rintro ⟨ended, inactive⟩
    refine ⟨?_, inactive⟩
    intro row present ofUser
    rcases List.mem_cons.mp present with rfl | old
    · exact absurd ofUser other
    · exact ended row old ofUser
  · cases outcome

theorem respects_refreshSession
    {session : Session}
    (other : session.userId ≠ userId) :
    (AuthService.refreshSession app session).Respects (KeepsEnded userId active) := by
  have refused : Respects (KeepsEnded userId active) (do
      SessionsService.revoke session.id
      throw (.unauthorized "Account is not active") : Service TokenPair) :=
    Respects.bind (respects_updateSession _ fun _ _ => rfl) fun _ => Respects.throw _
  refine Respects.bind (Respects.query _) fun found => ?_
  cases found with
  | none => exact refused
  | some user => exact Respects.ite (respects_rotateAndSign user other) refused

/-- While the account is inactive a refresh does not rotate its sessions. -/
theorem keeps_refreshSession
    {session : Session}
    (harmless : session.userId = userId → ¬ active) :
    (AuthService.refreshSession app session).Keeps (Ended userId active)
      fun _ => True := by
  by_cases ofUser : session.userId = userId
  · have refused : Keeps (Ended userId active) (fun _ => True) (do
        SessionsService.revoke session.id
        throw (.unauthorized "Account is not active") : Service TokenPair) :=
      Keeps.of_respects (Respects.bind (respects_updateSession _ fun _ _ => rfl)
        fun _ => Respects.throw _)
    have lookup : (UsersService.findById session.userId).Keeps (Ended userId active)
        fun found => (found.filter fun user => user.status = .active) = none := by
      refine Keeps.query fun input world ended => ?_
      have inactive := ended.2 (harmless ofUser)
      rw [← ofUser] at inactive
      exact inactive
    refine Keeps.bind lookup fun found inactive => ?_
    cases found with
    | none => exact refused
    | some user =>
        have suspended : ¬ user.status = .active := by
          intro activated
          simp [activated] at inactive
        simp only [suspended, if_false]
        exact refused
  · exact Keeps.of_respects (respects_refreshSession ofUser)

/-- A process that keeps ended sessions ended, or holds a session of the user. -/
def Accounted (app : Deployment) (userId : UserId) (active : Prop)
    (process : Service Unit) : Prop :=
  process.Keeps (Ended userId active) (fun _ => True) ∨
    HoldsSession app userId active process

theorem Process.Respects.always_accounted
    {process : Service Unit}
    (respects : process.Respects (KeepsEnded userId active)) :
    process.Always (Accounted app userId active) :=
  respects.always_keeps.weaken fun _ keeps => .inl keeps

theorem always_accountFound
    (user : User)
    {session : Session}
    (ofUser : session.userId = userId) :
    (accountFound app user session).Always (Accounted app userId active) := by
  have here : Accounted app userId active (accountFound app user session) :=
    .inr (.account user session ofUser)
  unfold accountFound AuthService.rotateAndSign SessionsService.rotate at here ⊢
  simp only [bind_assoc] at here ⊢
  refine Always.attempt_bind here (fun _ => .inl trivial) fun created => ?_
  refine Respects.always_accounted (Respects.bind (respects_updateSession _ fun _ _ => rfl) ?_)
  intro _
  refine Respects.bind (Respects.pure _) fun _ => ?_
  refine Respects.bind (respects_signAccessToken _ _) fun _ => ?_
  exact Respects.bind (Respects.pure _) fun _ => Respects.pure ()

theorem respects_sessionFound
    {session : Session}
    (other : session.userId ≠ userId) :
    (sessionFound app session).Respects (KeepsEnded userId active) :=
  Respects.bind (respects_refreshSession other) fun _ => Respects.pure ()

theorem always_sessionFound (session : Session) :
    (sessionFound app session).Always (Accounted app userId active) := by
  by_cases ofUser : session.userId = userId
  · have here : Accounted app userId active (sessionFound app session) := by
      by_cases isActive : active
      · exact .inr (.session session ofUser isActive)
      · exact .inl (Keeps.bind (keeps_refreshSession fun _ => isActive)
          fun _ _ => Keeps.pure trivial)
    unfold sessionFound AuthService.refreshSession at here ⊢
    simp only [bind_assoc] at here ⊢
    refine Always.query_bind here fun found => ?_
    have refused : Respects (KeepsEnded userId active) ((do
        SessionsService.revoke session.id
        throw (.unauthorized "Account is not active") : Service TokenPair) >>=
          fun _ => pure ()) :=
      Respects.bind (Respects.bind (respects_updateSession _ fun _ _ => rfl)
        fun _ => Respects.throw _) fun _ => Respects.pure ()
    cases found with
    | none => exact refused.always_accounted
    | some user =>
        by_cases isActive : user.status = .active
        · simp only [isActive, if_true]
          exact always_accountFound user ofUser
        · simp only [isActive, if_false]
          exact refused.always_accounted
  · exact (respects_sessionFound ofUser).always_accounted

/-- The theft response ends sessions and stops. -/
theorem respects_theftResponse (presented : Session) (next : Session → Service Unit) :
    (answerReplay presented none >>= next).Respects (KeepsEnded userId active) := by
  unfold answerReplay
  by_cases revoked : presented.revokedAt.isSome
  · simp only [revoked, if_true, bind_assoc]
    refine Respects.bind (respects_revokeAllForUser _) fun _ => ?_
    refine Respects.bind (Respects.command fun _ _ => keepsEnded_of_same rfl rfl) fun _ => ?_
    exact Respects.throw _
  · simp only [revoked, Bool.false_eq_true, if_false]
    exact Respects.throw _

/-- A session that ended sessions of the user cannot be confused with. -/
theorem keeps_sessionFound
    {session : Session}
    (harmless : session.userId = userId → ¬ active) :
    (sessionFound app session).Keeps (Ended userId active) fun _ => True :=
  Keeps.bind (keeps_refreshSession harmless) fun _ _ => Keeps.pure trivial

theorem keeps_answered
    (presented : Session)
    {successor : Option Session}
    (harmless : ∀ session ∈ successor, session.userId = userId → ¬ active) :
    (answerReplay presented successor >>= sessionFound app).Keeps
      (Ended userId active) fun _ => True := by
  cases successor with
  | some session => exact keeps_sessionFound (harmless session rfl)
  | none => exact Keeps.of_respects (respects_theftResponse presented _)

theorem always_answered (presented : Session) (successor : Option Session) :
    (answerReplay presented successor >>= sessionFound app).Always
      (Accounted app userId active) := by
  cases successor with
  | some session => exact always_sessionFound session
  | none => exact (respects_theftResponse presented _).always_accounted

theorem keeps_successorFound
    (presented : Session)
    {successor : Option Session}
    (harmless : ∀ session ∈ successor,
      session.userId = userId → session.revokedAt = none → ¬ active) :
    (successorFound app presented successor).Keeps (Ended userId active)
      fun _ => True := by
  refine Keeps.bind (Keeps.query fun _ _ _ => trivial) fun now (_ : True) => ?_
  refine keeps_answered presented ?_
  intro session selected ofUser
  obtain ⟨known, live⟩ := Option.filter_eq_some_iff.mp selected
  refine harmless session known ofUser ?_
  simp only [Session.live, Bool.and_eq_true] at live
  exact Option.isNone_iff_eq_none.mp live.1

theorem always_successorFound (presented : Session) (successor : Option Session) :
    (successorFound app presented successor).Always (Accounted app userId active) := by
  refine Always.query_bind ?_ fun now => always_answered presented _
  -- A successor that would be rotated is one the refresh holds.
  by_cases holds : ∃ session ∈ successor,
      session.userId = userId ∧ session.revokedAt = none ∧ active
  · obtain ⟨session, known, ofUser, unrevoked, isActive⟩ := holds
    cases known
    exact .inr (.successor presented session ofUser unrevoked isActive)
  · refine .inl (keeps_successorFound presented ?_)
    intro session known ofUser unrevoked isActive
    exact holds ⟨session, known, ofUser, unrevoked, isActive⟩

theorem keeps_successorLookup (presented : Session) (successorId : SessionId) :
    (SessionsService.findById successorId >>= successorFound app presented).Keeps
      (Ended userId active) fun _ => True := by
  have lookup : (SessionsService.findById successorId).Keeps (Ended userId active)
      fun found => ∀ session ∈ found,
        session.userId = userId → session.revokedAt = none → ¬ active := by
    refine Keeps.query fun input world ended session found ofUser unrevoked => ?_
    have present : session ∈ world.sessions := List.mem_of_find?_eq_some found
    have isRevoked := ended.1 session present ofUser
    rw [unrevoked] at isRevoked
    cases isRevoked
  exact Keeps.bind lookup fun found harmless => keeps_successorFound presented harmless

/-- What a refresh does with a presented session that is not live. -/
def replay (app : Deployment) (presented : Session) : Service Unit :=
  AuthService.concurrentSuccessor (some presented) >>= fun successor =>
    answerReplay presented successor >>= sessionFound app

theorem keeps_replay (presented : Session) :
    (replay app presented).Keeps (Ended userId active) fun _ => True := by
  have stopped : (answerReplay presented none >>= sessionFound app).Keeps
      (Ended userId active) fun _ => True :=
    Keeps.of_respects (respects_theftResponse presented _)
  unfold replay AuthService.concurrentSuccessor
  cases revoked : presented.revokedAt with
  | none =>
      simp only [revoked]
      exact stopped
  | some revokedAt =>
      cases linked : presented.replacedByTokenId with
      | none =>
          simp only [revoked, linked]
          exact stopped
      | some successorId =>
          simp only [revoked, linked, bind_assoc]
          refine Keeps.bind (Keeps.query fun _ _ _ => trivial) fun now (_ : True) => ?_
          split
          · simp only [bind_assoc]
            exact keeps_successorLookup presented successorId
          · exact stopped

theorem always_replay (presented : Session) :
    (replay app presented).Always (Accounted app userId active) := by
  have stopped : (answerReplay presented none >>= sessionFound app).Always
      (Accounted app userId active) :=
    always_answered presented none
  have here : Accounted app userId active (replay app presented) :=
    .inl (keeps_replay presented)
  unfold replay AuthService.concurrentSuccessor at here ⊢
  cases revoked : presented.revokedAt with
  | none =>
      simp only [revoked]
      exact stopped
  | some revokedAt =>
      cases linked : presented.replacedByTokenId with
      | none =>
          simp only [revoked, linked]
          exact stopped
      | some successorId =>
          simp only [revoked, linked, bind_assoc] at here ⊢
          refine Always.query_bind here fun now => ?_
          split
          · simp only [bind_assoc]
            exact Always.query_bind (.inl (keeps_successorLookup presented successorId))
              fun successor => always_successorFound presented successor
          · exact stopped

/-- What a refresh does with a token no live session has. -/
def lookupReplay (app : Deployment) (rawToken : RawToken) : Service Unit := do
  let presented ← SessionsService.findAnyByRawToken rawToken
  match presented with
  | some presented => replay app presented
  | none => throw AuthService.sessionExpired

/-- A refresh, cut after its first lookup. -/
theorem refresh_eq (rawToken : RawToken) :
    (AuthRequest.refresh rawToken).handle app =
      SessionsService.findActiveByRawToken rawToken >>= fun found =>
        match found with
        | some session => sessionFound app session
        | none => lookupReplay app rawToken := by
  unfold AuthRequest.handle AuthService.refresh AuthService.sessionToRotate
  simp only [bind_assoc]
  refine congrArg (SessionsService.findActiveByRawToken rawToken >>= ·) ?_
  funext found
  cases found with
  | some session => rfl
  | none =>
      simp only [bind_assoc]
      refine congrArg (SessionsService.findAnyByRawToken rawToken >>= ·) ?_
      funext presented
      cases presented with
      | none => rfl
      | some presented =>
          refine congrArg (AuthService.concurrentSuccessor (some presented) >>= ·) ?_
          funext successor
          cases successor <;> rfl

theorem keeps_lookupReplay (rawToken : RawToken) :
    (lookupReplay app rawToken).Keeps (Ended userId active) fun _ => True := by
  refine Keeps.bind (Keeps.query fun _ _ _ => trivial) fun found (_ : True) => ?_
  cases found with
  | none => exact Keeps.throw _ _
  | some presented => exact keeps_replay presented

/-- Whatever a refresh has read so far, it keeps ended sessions ended or holds a
session of the user. -/
theorem always_refresh (rawToken : RawToken) :
    ((AuthRequest.refresh rawToken).handle app).Always
      (Accounted app userId active) := by
  rw [refresh_eq]
  refine Always.query_bind (.inl ?_) fun found => ?_
  · have lookup : (SessionsService.findActiveByRawToken rawToken).Keeps
        (Ended userId active) fun found => ∀ session ∈ found,
          session.userId = userId → ¬ active := by
      refine Keeps.query fun input world ended session found ofUser => ?_
      have present : session ∈ world.sessions := List.mem_of_find?_eq_some found
      have matched := List.find?_some found
      simp only [Bool.and_eq_true] at matched
      rw [not_live_of_revoked (ended.1 session present ofUser)] at matched
      cases matched.2
    refine Keeps.bind lookup fun found harmless => ?_
    cases found with
    | some session => exact keeps_sessionFound (harmless session rfl)
    | none => exact keeps_lookupReplay rawToken
  · cases found with
    | some session => exact always_sessionFound session
    | none =>
        refine Always.query_bind (.inl (keeps_lookupReplay rawToken)) fun presented => ?_
        cases presented with
        | none => exact .inl trivial
        | some presented => exact always_replay presented

/-! ## The update is final -/

/-- The update ends every session of the user, and what is left of its process
keeps them ended if the process does. -/
theorem ended_of_revokesAllNext
    {process : Service Unit}
    (revokes : RevokesAllNext userId process)
    (keeps : process.Keeps (Ended userId active) fun _ => True)
    (input : Input)
    {world : World}
    (isActive : (activeUser userId world).isSome = active) :
    Ended userId active (process.effect input world) ∧
      (process.residual input world).Keeps (Ended userId active) fun _ => True := by
  obtain ⟨next, rfl⟩ := revokes
  have ended : Ended userId active
      { world with sessions := revokeUserSessions input.now userId world.sessions } := by
    refine ⟨fun session present ofUser =>
      revokedAt_isSome_of_revokeUserSessions present ofUser, fun inactive => ?_⟩
    rw [← isActive] at inactive
    exact Option.not_isSome_iff_eq_none.mp inactive
  exact ⟨ended, keeps.2.1 input _ ended⟩

/-- A process that holds a session has a call to make. -/
theorem HoldsSession.unfinished
    {process : Service Unit}
    (holds : HoldsSession app userId active process) :
    process.finished = false := by
  cases holds <;> rfl

/-- A process that holds a session is not about to end the user's sessions. -/
theorem HoldsSession.not_revokesAllNext
    {process : Service Unit}
    (holds : HoldsSession app userId active process) :
    ¬ RevokesAllNext userId process := by
  rintro ⟨next, revokes⟩
  let row : Session :=
    { id := 0, userId, deviceId := none, tokenHash := ⟨0⟩, createdAt := 0, expiresAt := 0 }
  have kept : row ∈ (process.effect { now := 0 } { sessions := [row] }).sessions := by
    cases holds with
    | session session _ _ => exact List.mem_cons_self
    | successor presented successor _ _ _ => exact List.mem_cons_self
    | account user session _ =>
        change row ∈ ((SessionsService.create app
          { userId := session.userId, deviceId := session.deviceId }).effect
            { now := 0 } { sessions := [row] }).sessions
        unfold SessionsService.create attempt Process.effect
        cases session.deviceId with
        | none => exact List.mem_cons_of_mem _ List.mem_cons_self
        | some device => exact List.mem_cons_self
  have ended : row ∉ (process.effect { now := 0 } { sessions := [row] }).sessions := by
    rw [revokes]
    intro present
    have revoked := revokedAt_isSome_of_revokeUserSessions present rfl
    cases revoked
  exact ended kept

/-- In every interleaving of refreshes and operations that end every session of
a user: if no refresh holds a session of the user when the sessions are ended,
then no session of the user is live at any later moment. -/
theorem revoked_sessions_stay_ended
    (app : Deployment)
    (userId : UserId)
    (pool : Pool Input ApiError World)
    (requests : ∀ process ∈ pool.threads, ∃ request : AuthRequest,
      request.RefreshesOrRevokes ∧ process = request.handle app)
    (earlier later : List (Turn Input))
    (turn : Turn Input)
    (process : Service Unit)
    (chosen : (pool.run earlier).threads[turn.thread]? = some process)
    (revokes : RevokesAllNext userId process)
    (free : ∀ other ∈ (pool.run earlier).threads,
      ¬ HoldsSession app userId (activeUser userId (pool.run earlier).state).isSome other) :
    ∀ session ∈ (pool.run (earlier ++ turn :: later)).state.sessions,
      session.userId = userId → ∀ time, session.live time = false := by
  intro session present ofUser time
  generalize isActive : ((activeUser userId (pool.run earlier).state).isSome : Prop) =
    active at free
  have accounted : ∀ other ∈ (pool.run earlier).threads,
      other.Always (Accounted app userId active) := by
    refine Pool.run_always ?_ earlier
    intro other started
    obtain ⟨request, allowed, rfl⟩ := requests other started
    by_cases refreshes : ∃ rawToken, request = .refresh rawToken
    · obtain ⟨rawToken, rfl⟩ := refreshes
      exact always_refresh rawToken
    · exact (respects_revokingRequest allowed fun rawToken same =>
        refreshes ⟨rawToken, same⟩).always_accounted
  have keeps : ∀ other ∈ (pool.run earlier).threads,
      other.Keeps (Ended userId active) fun _ => True := by
    intro other running
    rcases (accounted other running).now with keeps | holds
    · exact keeps
    · exact absurd holds (free other running)
  have ended : Ended userId active ((pool.run earlier).step turn).state ∧
      ∀ other ∈ ((pool.run earlier).step turn).threads,
        other.Keeps (Ended userId active) fun _ => True := by
    obtain ⟨atUpdate, residual⟩ := ended_of_revokesAllNext revokes
      (keeps process (List.mem_of_getElem? chosen)) turn.input isActive
    unfold Pool.step
    rw [chosen]
    refine ⟨atUpdate, ?_⟩
    intro other running
    rcases List.mem_or_eq_of_mem_set running with old | rfl
    · exact keeps other old
    · exact residual
  rw [Pool.run_append, Pool.run_cons] at present
  exact not_live_of_revoked
    ((Pool.run_keeps ended.1 ended.2 later).1 session present ofUser) time

/-- A refresh of the sample client's token and a logout of all its devices. -/
def samplePool : Pool Input ApiError World :=
  { state := serve sampleApp sampleWorld
      [⟨{ now := 1000 }, sampleVerifyLogin "laptop" 0⟩, ⟨{ now := 0 }, sampleLogin "laptop"⟩]
    threads :=
      [(AuthRequest.refresh 1).handle sampleApp, (AuthRequest.logoutAll 0).handle sampleApp] }

/-- The schedule that lets the numbered processes make one call after another. -/
def sampleSchedule (threads : List Nat) : List (Turn Input) :=
  threads.map fun thread => ⟨thread, { now := 2000 }⟩

/-- The refresh has finished when the logout comes: nothing outlives it. -/
theorem revoked_sessions_stay_ended_afterRotation :
    (samplePool.run (sampleSchedule [0, 0, 0, 0, 0])).state.sessions.length = 2 ∧
      ∀ session ∈ (samplePool.run
          (sampleSchedule [0, 0, 0, 0, 0] ++
            ⟨1, { now := 2000 }⟩ :: sampleSchedule [1, 1, 1])).state.sessions,
        session.userId = 0 → ∀ time, session.live time = false := by
  have threads : (samplePool.run (sampleSchedule [0, 0, 0, 0, 0])).threads =
      [.done (), (AuthRequest.logoutAll 0).handle sampleApp] := rfl
  refine ⟨by decide, revoked_sessions_stay_ended sampleApp 0 samplePool ?_
    (sampleSchedule [0, 0, 0, 0, 0]) (sampleSchedule [1, 1, 1]) ⟨1, { now := 2000 }⟩
    ((AuthRequest.logoutAll 0).handle sampleApp) (by rw [threads]; rfl) ⟨_, rfl⟩ ?_⟩
  · intro process running
    rcases List.mem_cons.mp running with rfl | running
    · exact ⟨.refresh 1, rfl, rfl⟩
    · exact ⟨.logoutAll 0, rfl, List.mem_singleton.mp running⟩
  · intro process running holds
    rw [threads] at running
    rcases List.mem_cons.mp running with rfl | running
    · cases holds.unfinished
    · exact holds.not_revokesAllNext ⟨_, List.mem_singleton.mp running⟩

/-- The logout comes between the lookup of the session and its rotation: both
requests finish, and the user has a live session. -/
theorem rotation_survives_revokeAll :
    (samplePool.run (sampleSchedule [0, 1, 0, 0, 0, 0, 1, 1, 1])).threads.all
        (·.finished) = true ∧
      ∃ session ∈ (samplePool.run
          (sampleSchedule [0, 1, 0, 0, 0, 0, 1, 1, 1])).state.sessions,
        session.userId = 0 ∧ session.live 2000 = true := by
  decide

end ConferenceContact
