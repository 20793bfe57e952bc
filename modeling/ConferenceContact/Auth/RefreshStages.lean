import ConferenceContact.Auth.RevokeAll
import ConferenceContact.Foundation.Crews

/-!
# The control points of a refresh

A refresh cut at its single calls: what it has read so far, and the call it makes
next.
-/

namespace ConferenceContact

open Process

/-- The call a refresh is about to make. -/
inductive RefreshStage
  /-- The lookup of a live session with the presented token. -/
  | findActive (rawToken : RawToken)
  /-- The lookup of any session with it. -/
  | findAny (rawToken : RawToken)
  /-- The clock, for the age of a rotation. -/
  | readAge (presented : Session) (revokedAt : Time) (successorId : SessionId)
  | findSuccessor (presented : Session) (successorId : SessionId)
  /-- The clock, for the expiry of the successor. -/
  | checkSuccessor (presented : Session) (successor : Option Session)
  /-- The theft response. -/
  | endSessions (presented : Session)
  | recordReuse (presented : Session)
  | findUser (session : Session)
  /-- The end of a session whose account is not active. -/
  | refuse (session : Session)
  /-- The creation of the session's successor. -/
  | create (user : User) (session : Session)
  /-- The update that revokes the session in favour of its successor. -/
  | supersede (user : User) (session : Session) (created : RawToken × Session)
  | sign (user : User)
  | finished (outcome : Except ApiError Unit)

namespace RefreshStage

variable (app : Deployment)

/-! ## The code left at a stage -/

/-- What is left of a refresh after its session is rotated. -/
def rotated (user : User) : Service Unit := do
  let _ ← AuthService.signAccessToken app user.id user.role
  return ()

/-- The code left of the refresh. -/
def code : RefreshStage → Service Unit
  | findActive rawToken => (AuthRequest.refresh rawToken).handle app
  | findAny rawToken => lookupReplay app rawToken
  | readAge presented revokedAt successorId => do
      let now ← Service.dateNow
      if now - revokedAt ≤ concurrentRefreshGraceSeconds * 1000 then
        SessionsService.findById successorId >>= successorFound app presented
      else
        answerReplay presented none >>= sessionFound app
  | findSuccessor presented successorId =>
      SessionsService.findById successorId >>= successorFound app presented
  | checkSuccessor presented successor => successorFound app presented successor
  | endSessions presented => do
      SessionsService.revokeAllForUser presented.userId
      AuditService.record (some presented.userId) .authRefreshTokenReuseDetected
      throw AuthService.sessionExpired
  | recordReuse presented => do
      AuditService.record (some presented.userId) .authRefreshTokenReuseDetected
      throw AuthService.sessionExpired
  | findUser session => sessionFound app session
  | refuse session => do
      SessionsService.revoke session.id
      throw (.unauthorized "Account is not active")
  | create user session => accountFound app user session
  | supersede user session created => do
      SessionsService.update session.id fun now row =>
        { row with revokedAt := some now, replacedByTokenId := some created.2.id }
      rotated app user
  | sign user => rotated app user
  | finished (.ok ()) => return ()
  | finished (.error error) => throw error

/-! ## Where a stage leads -/

/-- After the search for a successor within the grace window. -/
def answered (presented : Session) : Option Session → RefreshStage
  | some successor => findUser successor
  | none =>
      if presented.revokedAt.isSome then endSessions presented
      else finished (.error AuthService.sessionExpired)

/-- After the lookup of a session that is not live. -/
def replayed (presented : Session) : RefreshStage :=
  match presented.revokedAt, presented.replacedByTokenId with
  | some revokedAt, some successorId => readAge presented revokedAt successorId
  | _, _ => answered presented none

/-- The row a refresh creates. -/
def successorRow (session : Session) (input : Input) (world : World) : Session :=
  { id := world.nextId + 1
    userId := session.userId
    deviceId := session.deviceId
    tokenHash := ⟨world.nextId⟩
    createdAt := input.now
    expiresAt := input.now + app.refreshTokenExpiryDays * 86400000 }

/-- The device a session refers to is on file, so that its successor may be
created. -/
def deviceOnFile (session : Session) (world : World) : Bool :=
  session.deviceId.all fun deviceId => world.devices.any fun device => device.id = deviceId

/-- The write at a stage. -/
def write (stage : RefreshStage) (input : Input) (world : World) : World :=
  match stage with
  | endSessions presented =>
      { world with
        sessions := revokeUserSessions input.now presented.userId world.sessions }
  | recordReuse presented =>
      { world with
        auditLogs :=
          ⟨some presented.userId, .authRefreshTokenReuseDetected⟩ :: world.auditLogs }
  | refuse session =>
      { world with
        sessions := Table.updateWhere (fun row => row.id = session.id)
          (Session.revoke input.now) world.sessions }
  | create _ session =>
      if deviceOnFile session world then
        { world with
          sessions := successorRow app session input world :: world.sessions
          nextId := world.nextId + 2 }
      else world
  | supersede _ session created =>
      { world with
        sessions := Table.updateWhere (fun row => row.id = session.id)
          (Session.supersede input.now created.2.id) world.sessions }
  | sign user =>
      { world with
        signed :=
          ⟨.access { sub := user.id, role := user.role }, input.now / 1000,
            input.now / 1000 + app.jwtAccessExpirySeconds⟩ :: world.signed }
  | _ => world

/-- Where the call at a stage leads. -/
def next (stage : RefreshStage) (input : Input) (world : World) : RefreshStage :=
  match stage with
  | findActive rawToken =>
      match world.sessions.find? fun session =>
          session.tokenHash = ⟨rawToken⟩ && session.live input.now with
      | some session => findUser session
      | none => findAny rawToken
  | findAny rawToken =>
      match world.sessions.find? fun session => session.tokenHash = ⟨rawToken⟩ with
      | some presented => replayed presented
      | none => finished (.error AuthService.sessionExpired)
  | readAge presented revokedAt successorId =>
      if input.now - revokedAt ≤ concurrentRefreshGraceSeconds * 1000 then
        findSuccessor presented successorId
      else answered presented none
  | findSuccessor presented successorId =>
      checkSuccessor presented (world.sessions.find? fun session => session.id = successorId)
  | checkSuccessor presented successor =>
      answered presented (successor.filter fun successor => successor.live input.now)
  | endSessions presented => recordReuse presented
  | recordReuse _ => finished (.error AuthService.sessionExpired)
  | findUser session =>
      match activeUser session.userId world with
      | some user => create user session
      | none => refuse session
  | refuse session =>
      if world.sessions.any fun row => row.id = session.id then
        finished (.error (.unauthorized "Account is not active"))
      else finished (.error .recordNotFound)
  | create user session =>
      if deviceOnFile session world then
        supersede user session (world.nextId, successorRow app session input world)
      else finished (.error .foreignKeyViolation)
  | supersede user session _ =>
      if world.sessions.any fun row => row.id = session.id then sign user
      else finished (.error .recordNotFound)
  | sign _ => finished (.ok ())
  | finished outcome => finished outcome

/-- Where the rejection of the call at a stage leads. -/
def abort (stage : RefreshStage) (error : ApiError) : RefreshStage :=
  match stage with
  | finished outcome => finished outcome
  | _ => finished (.error error)

/-! ## The stages move as the code does -/

theorem code_answered (presented : Session) (successor : Option Session) :
    code app (answered presented successor) =
      answerReplay presented successor >>= sessionFound app := by
  cases successor with
  | some successor => rfl
  | none =>
      unfold answered answerReplay
      dsimp only
      split <;> rfl

theorem code_replayed (presented : Session) :
    code app (replayed presented) = replay app presented := by
  unfold replayed replay AuthService.concurrentSuccessor
  cases revoked : presented.revokedAt with
  | none =>
      simp only [revoked]
      exact code_answered app presented none
  | some revokedAt =>
      cases linked : presented.replacedByTokenId with
      | none =>
          simp only [revoked, linked]
          exact code_answered app presented none
      | some successorId =>
          simp only [revoked, linked, bind_assoc]
          show (Service.dateNow >>= _ : Service Unit) = _
          congr 1
          funext now
          split <;> rfl

/-- The calls left from the creation of the successor. -/
theorem code_create (user : User) (session : Session) :
    code app (create user session) =
      SessionsService.create app { userId := session.userId, deviceId := session.deviceId } >>=
        fun created => code app (supersede user session created) := by
  show accountFound app user session = _
  unfold accountFound AuthService.rotateAndSign SessionsService.rotate
  simp only [bind_assoc]
  rfl

/-- The calls left from the lookup of the account. -/
theorem code_findUser (session : Session) :
    code app (findUser session) =
      UsersService.findById session.userId >>= fun found =>
        match found with
        | some user =>
            if user.status = .active then code app (create user session)
            else code app (refuse session)
        | none => code app (refuse session) := by
  show sessionFound app session = _
  unfold sessionFound AuthService.refreshSession
  simp only [bind_assoc]
  congr 1
  funext found
  cases found with
  | none =>
      simp only [bind_assoc]
      rfl
  | some user =>
      dsimp only
      split
      · rfl
      · simp only [bind_assoc]
        rfl

section Calls

variable {app : Deployment} {input : Input} {world : World} {rest : α → Service β}

/-- The update of one row writes that row, and stops where there is none. -/
theorem effect_update_bind
    (id : SessionId)
    (rewrite : Time → Session → Session)
    (rest : Unit → Service β) :
    (SessionsService.update id rewrite >>= rest).effect input world =
      { world with
        sessions := Table.updateWhere (fun row => row.id = id) (rewrite input.now)
          world.sessions } := by
  unfold SessionsService.update
  rw [effect_attempt_bind]
  by_cases present : world.sessions.any fun row => row.id = id
  · rw [if_pos present]
  · rw [if_neg present, Table.updateWhere_eq_self]
    intro row stored matched
    exact absurd (List.any_eq_true.mpr ⟨row, stored, matched⟩) present

theorem residual_update_bind
    (id : SessionId)
    (rewrite : Time → Session → Session)
    (rest : Unit → Service β) :
    (SessionsService.update id rewrite >>= rest).residual input world =
      if world.sessions.any fun row => row.id = id then rest ()
      else throw .recordNotFound := by
  unfold SessionsService.update
  rw [residual_attempt_bind]
  by_cases present : world.sessions.any fun row => row.id = id
  · rw [if_pos present, if_pos present]
  · rw [if_neg present, if_neg present]

/-- The creation of a successor, in terms of its row. -/
theorem create_eq (session : Session) :
    SessionsService.create app { userId := session.userId, deviceId := session.deviceId } =
      attempt fun input world =>
        if deviceOnFile session world then
          .ok ((world.nextId, successorRow app session input world),
            { world with
              sessions := successorRow app session input world :: world.sessions
              nextId := world.nextId + 2 })
        else .error .foreignKeyViolation := rfl

theorem effect_create_bind
    (session : Session)
    (rest : RawToken × Session → Service β) :
    (SessionsService.create app
        { userId := session.userId, deviceId := session.deviceId } >>= rest).effect input world =
      if deviceOnFile session world then
        { world with
          sessions := successorRow app session input world :: world.sessions
          nextId := world.nextId + 2 }
      else world := by
  rw [create_eq, effect_attempt_bind]
  by_cases onFile : deviceOnFile session world
  · rw [if_pos onFile, if_pos onFile]
  · rw [if_neg onFile, if_neg onFile]

theorem residual_create_bind
    (session : Session)
    (rest : RawToken × Session → Service β) :
    (SessionsService.create app
        { userId := session.userId, deviceId := session.deviceId } >>= rest).residual
        input world =
      if deviceOnFile session world then
        rest (world.nextId, successorRow app session input world)
      else throw .foreignKeyViolation := by
  rw [create_eq, residual_attempt_bind]
  by_cases onFile : deviceOnFile session world
  · rw [if_pos onFile, if_pos onFile]
  · rw [if_neg onFile, if_neg onFile]

end Calls

theorem effect_code (stage : RefreshStage) (input : Input) (world : World) :
    (code app stage).effect input world = write app stage input world := by
  cases stage with
  | findActive rawToken =>
      show ((AuthRequest.refresh rawToken).handle app).effect input world = world
      rw [refresh_eq]
      rfl
  | create user session =>
      rw [code_create]
      exact effect_create_bind session _
  | refuse session => exact effect_update_bind session.id _ _
  | supersede user session created => exact effect_update_bind session.id _ _
  | finished outcome => rcases outcome with error | value <;> rfl
  | _ => rfl

theorem residual_code (stage : RefreshStage) (input : Input) (world : World) :
    (code app stage).residual input world = code app (next app stage input world) := by
  cases stage with
  | findActive rawToken =>
      show ((AuthRequest.refresh rawToken).handle app).residual input world = _
      rw [refresh_eq]
      show (match world.sessions.find? fun session =>
          session.tokenHash = ⟨rawToken⟩ && session.live input.now with
        | some session => sessionFound app session
        | none => lookupReplay app rawToken) = _
      dsimp only [next]
      cases world.sessions.find? fun session =>
        session.tokenHash = ⟨rawToken⟩ && session.live input.now <;> rfl
  | findAny rawToken =>
      show (match world.sessions.find? fun session => session.tokenHash = ⟨rawToken⟩ with
        | some presented => replay app presented
        | none => throw AuthService.sessionExpired) = _
      dsimp only [next]
      cases world.sessions.find? fun session => session.tokenHash = ⟨rawToken⟩ with
      | none => rfl
      | some presented => exact (code_replayed app presented).symm
  | readAge presented revokedAt successorId =>
      show (if input.now - revokedAt ≤ concurrentRefreshGraceSeconds * 1000 then
          SessionsService.findById successorId >>= successorFound app presented
        else answerReplay presented none >>= sessionFound app) = _
      dsimp only [next]
      split
      · rfl
      · exact (code_answered app presented none).symm
  | checkSuccessor presented successor => exact (code_answered app presented _).symm
  | findUser session =>
      rw [code_findUser]
      show (match world.users.find? fun user => user.id = session.userId with
        | some user =>
            if user.status = AccountStatus.active then code app (create user session)
            else code app (refuse session)
        | none => code app (refuse session)) = _
      dsimp only [next]
      unfold activeUser
      cases world.users.find? fun user => user.id = session.userId with
      | none => rfl
      | some user =>
          by_cases active : user.status = .active
          · simp only [active, if_true, Option.filter_some, decide_true]
          · simp only [active, if_false, Option.filter_some, decide_false]
            rfl
  | refuse session =>
      rw [show code app (refuse session) = SessionsService.update session.id _ >>= _ from rfl,
        residual_update_bind]
      dsimp only [next]
      split <;> rfl
  | create user session =>
      rw [code_create, residual_create_bind]
      dsimp only [next]
      split <;> rfl
  | supersede user session created =>
      rw [show code app (supersede user session created) =
        SessionsService.update session.id _ >>= _ from rfl, residual_update_bind]
      dsimp only [next]
      split <;> rfl
  | finished outcome => rcases outcome with error | value <;> rfl
  | _ => rfl

theorem rejected_code (stage : RefreshStage) (error : ApiError) :
    (code app stage).rejected error = code app (abort stage error) := by
  cases stage with
  | findActive rawToken =>
      show ((AuthRequest.refresh rawToken).handle app).rejected error = _
      rw [refresh_eq]
      rfl
  | finished outcome => rcases outcome with error | value <;> rfl
  | _ => rfl

/-- The control points of a refresh. -/
def machine : Machine RefreshStage Input ApiError World where
  effect := write app
  next := next app
  abort := abort

theorem implements : (machine app).Implements (code app) where
  effect := effect_code app
  next := residual_code app
  abort := rejected_code app

end RefreshStage
end ConferenceContact
