import ConferenceContact.Auth.CompletedLogins
import ConferenceContact.Auth.Requests

/-!
# How many sessions a user has

A completed login ends the oldest live sessions of its user for which there is no room, a
rotation ends the session it replaces, and every other request only ends sessions.  So no
user ever has more live sessions than there may be.
-/

namespace ConferenceContact

open Process SessionsService

variable {app : Deployment} {input : Input} {world : World} {now : Time} {userId : UserId}

/-! ## Sessions that fade -/

/-- A session as before, unless it has been revoked or has lost its device. -/
structure Session.Fades (before after : Session) : Prop where
  id : after.id = before.id
  userId : after.userId = before.userId
  country : after.country = before.country
  createdAt : after.createdAt = before.createdAt
  expiresAt : after.expiresAt = before.expiresAt
  revokedAt : after.revokedAt = none → before.revokedAt = none

/-- Every session has only faded. -/
def SessionsFade (before after : List Session) : Prop :=
  ∃ change : Session → Session, after = before.map change ∧
    ∀ session ∈ before, session.Fades (change session)

theorem SessionsFade.refl (sessions : List Session) : SessionsFade sessions sessions :=
  ⟨id, by rw [List.map_id], fun _ _ => ⟨rfl, rfl, rfl, rfl, rfl, id⟩⟩

theorem SessionsFade.trans
    {first second third : List Session}
    (earlier : SessionsFade first second)
    (later : SessionsFade second third) :
    SessionsFade first third := by
  obtain ⟨change, rfl, fades⟩ := earlier
  obtain ⟨further, rfl, onwards⟩ := later
  refine ⟨further ∘ change, List.map_map, fun session present => ?_⟩
  have one := fades session present
  have two := onwards (change session) (List.mem_map_of_mem present)
  exact
    { id := two.id.trans one.id
      userId := two.userId.trans one.userId
      country := two.country.trans one.country
      createdAt := two.createdAt.trans one.createdAt
      expiresAt := two.expiresAt.trans one.expiresAt
      revokedAt := fun open_ => one.revokedAt (two.revokedAt open_) }

/-- Rewriting some sessions so that they fade. -/
theorem SessionsFade.updateWhere
    (selected : Session → Bool)
    {rewrite : Session → Session}
    (sessions : List Session)
    (fades : ∀ session : Session, session.Fades (rewrite session)) :
    SessionsFade sessions (Table.updateWhere selected rewrite sessions) := by
  refine ⟨_, rfl, fun session _ => ?_⟩
  split
  · exact fades session
  · exact ⟨rfl, rfl, rfl, rfl, rfl, id⟩

/-- A step that issues no session lets the sessions fade. -/
theorem fade_step
    {before after : SessionStore}
    (step : SessionStore.Step now (fun _ _ => False) before after) :
    SessionsFade before.sessions after.sessions := by
  cases step with
  | reserve amount => exact .refl _
  | register device fresh => exact .refl _
  | touch selected rewrite sameId => exact .refl _
  | revoke selected unrevoked => exact .updateWhere _ _ fun _ => ⟨rfl, rfl, rfl, rfl, rfl, nofun⟩
  | issue session _ _ _ _ _ allowed => exact allowed.elim
  | supersede old successor =>
      exact .updateWhere _ _ fun _ => ⟨rfl, rfl, rfl, rfl, rfl, nofun⟩
  | forget device =>
      refine ⟨_, rfl, fun session _ => ?_⟩
      unfold Session.detach
      split <;> exact ⟨rfl, rfl, rfl, rfl, rfl, id⟩

theorem fade_steps
    {before after : SessionStore}
    (steps : SessionStore.Steps now (fun _ _ => False) before after) :
    SessionsFade before.sessions after.sessions := by
  induction steps with
  | refl => exact .refl _
  | tail _ step inductionHypothesis => exact inductionHypothesis.trans (fade_step step)

/-! ## Live sessions -/

/-- How many live sessions a user has. -/
def liveCount (now : Time) (userId : UserId) (sessions : List Session) : Nat :=
  (liveSessions now userId sessions).length

theorem liveCount_eq_countP (now : Time) (userId : UserId) (sessions : List Session) :
    liveCount now userId sessions =
      sessions.countP fun session => session.userId = userId && session.live now :=
  List.countP_eq_length_filter.symm

/-- A session that has faded is live only if it was. -/
theorem Session.Fades.live
    {before after : Session}
    (fades : before.Fades after)
    (live : after.live now = true) :
    before.live now = true := by
  unfold Session.live at live ⊢
  rw [Bool.and_eq_true, Option.isNone_iff_eq_none] at live ⊢
  exact ⟨fades.revokedAt live.1, fades.expiresAt ▸ live.2⟩

theorem liveCount_fade
    {before after : List Session}
    (fade : SessionsFade before after) :
    liveCount now userId after ≤ liveCount now userId before := by
  obtain ⟨change, rfl, fades⟩ := fade
  rw [liveCount_eq_countP, liveCount_eq_countP, List.countP_map]
  refine List.countP_mono_left fun session present live => ?_
  rw [Function.comp_apply, Bool.and_eq_true, decide_eq_true_eq] at live
  rw [Bool.and_eq_true, decide_eq_true_eq]
  exact ⟨(fades session present).userId ▸ live.1, (fades session present).live live.2⟩

/-- As time passes sessions expire. -/
theorem liveCount_later
    {later : Time}
    (sessions : List Session)
    (passes : now ≤ later) :
    liveCount later userId sessions ≤ liveCount now userId sessions := by
  rw [liveCount_eq_countP, liveCount_eq_countP]
  refine List.countP_mono_left fun session _ live => ?_
  unfold Session.live at live ⊢
  simp only [Bool.and_eq_true, decide_eq_true_eq] at live ⊢
  exact ⟨live.1, live.2.1, Nat.lt_of_le_of_lt passes live.2.2⟩

/-! ## Making room -/

theorem mem_evicted_iff {sessions : List Session} {id : SessionId} :
    id ∈ evicted app now userId sessions ↔
      id ∈ ((liveSessions now userId sessions).drop (app.maxTrustedDevices - 1)).map (·.id) := by
  have positive := app.one_le_maxTrustedDevices
  unfold evicted
  rw [List.map_reverse, List.take_reverse, List.mem_reverse, List.length_map, ← List.map_drop]
  have place : (liveSessions now userId sessions).length -
      ((liveSessions now userId sessions).length + 1 - app.maxTrustedDevices) =
        min (liveSessions now userId sessions).length (app.maxTrustedDevices - 1) := by
    omega
  rw [place]
  rcases Nat.le_total (liveSessions now userId sessions).length (app.maxTrustedDevices - 1) with
    few | many
  · rw [Nat.min_eq_left few, List.drop_of_length_le few, List.drop_length]
  · rw [Nat.min_eq_right many]

/-- The sessions that have to make room. -/
def oldestSessions
    (app : Deployment)
    (now : Time)
    (userId : UserId)
    (sessions : List Session) : List Session :=
  (liveSessions now userId sessions).drop (app.maxTrustedDevices - 1)

/-- With distinct ids a session is evicted exactly if it is one of them. -/
theorem evicted_iff
    {sessions : List Session}
    (distinct : (sessions.map (·.id)).Nodup)
    {session : Session}
    (present : session ∈ sessions) :
    session.id ∈ evicted app now userId sessions ↔
      session ∈ oldestSessions app now userId sessions := by
  rw [mem_evicted_iff]
  refine ⟨fun named => ?_, fun oldest => List.mem_map_of_mem oldest⟩
  obtain ⟨other, oldest, same⟩ := List.mem_map.mp named
  have stored := List.mem_of_mem_filter (List.mem_of_mem_drop oldest)
  rwa [← Table.eq_of_key_eq distinct stored present same]

/-- What is left of a user's live sessions are the newest. -/
theorem liveSessions_afterLimit
    {sessions : List Session}
    (distinct : (sessions.map (·.id)).Nodup) :
    liveSessions now userId (afterLimit app now userId sessions) =
      (liveSessions now userId sessions).take (app.maxTrustedDevices - 1) := by
  have distinctLive : ((liveSessions now userId sessions).map (·.id)).Nodup :=
    distinct.sublist (List.filter_sublist.map _)
  rw [← Table.filter_not_mem_drop distinctLive (app.maxTrustedDevices - 1), afterLimit,
    liveSessions, Table.filter_updateWhere_hides _ (by simp [Session.live]), liveSessions,
    List.filter_filter]
  refine List.filter_congr fun session _ => ?_
  rw [Bool.and_comm, ← decide_not]
  congr 1
  exact decide_eq_decide.mpr (not_congr mem_evicted_iff)

/-- A user who makes room has room for one more. -/
theorem liveCount_afterLimit
    {sessions : List Session}
    (distinct : (sessions.map (·.id)).Nodup) :
    liveCount now userId (afterLimit app now userId sessions) + 1 ≤ app.maxTrustedDevices := by
  have positive := app.one_le_maxTrustedDevices
  rw [liveCount, liveSessions_afterLimit distinct, List.length_take]
  omega

theorem fade_afterLimit (sessions : List Session) :
    SessionsFade sessions (afterLimit app now userId sessions) :=
  .updateWhere _ _ fun _ => ⟨rfl, rfl, rfl, rfl, rfl, nofun⟩

/-! ## The sessions in order -/

/-- The sessions are stored newest first, none is from the future, and no user has more
live ones than there may be. -/
structure SessionsInOrder (app : Deployment) (now : Time) (world : World) : Prop where
  consistent : world.store.Consistent
  sorted : world.sessions.Pairwise fun newer older => older.createdAt ≤ newer.createdAt
  past : ∀ session ∈ world.sessions, session.createdAt ≤ now
  capped : ∀ userId, liveCount now userId world.sessions ≤ app.maxTrustedDevices

theorem SessionsInOrder.later
    {later : Time}
    (inOrder : SessionsInOrder app now world)
    (passes : now ≤ later) :
    SessionsInOrder app later world where
  consistent := inOrder.consistent
  sorted := inOrder.sorted
  past session present := Nat.le_trans (inOrder.past session present) passes
  capped userId := Nat.le_trans (liveCount_later world.sessions passes) (inOrder.capped userId)

/-- Sessions that fade stay in order. -/
theorem SessionsFade.inOrder
    {before after : List Session}
    (fade : SessionsFade before after)
    (sorted : before.Pairwise fun newer older => older.createdAt ≤ newer.createdAt)
    (past : ∀ session ∈ before, session.createdAt ≤ now) :
    (after.Pairwise fun newer older => older.createdAt ≤ newer.createdAt) ∧
      ∀ session ∈ after, session.createdAt ≤ now := by
  obtain ⟨change, rfl, fades⟩ := fade
  constructor
  · rw [List.pairwise_map]
    refine sorted.imp_of_mem fun newerStored olderStored ordered => ?_
    rw [(fades _ newerStored).createdAt, (fades _ olderStored).createdAt]
    exact ordered
  · intro session present
    obtain ⟨old, stored, rfl⟩ := List.mem_map.mp present
    rw [(fades old stored).createdAt]
    exact past old stored

/-- A request that only ends sessions. -/
theorem SessionsInOrder.fade
    {before after : World}
    (inOrder : SessionsInOrder app now before)
    (consistent : after.store.Consistent)
    (fade : SessionsFade before.sessions after.sessions) :
    SessionsInOrder app now after where
  consistent := consistent
  sorted := (fade.inOrder inOrder.sorted inOrder.past).1
  past := (fade.inOrder inOrder.sorted inOrder.past).2
  capped userId := Nat.le_trans (liveCount_fade fade) (inOrder.capped userId)

/-- A new session in front of what is left of the others. -/
theorem SessionsInOrder.issue
    {before after : World}
    (inOrder : SessionsInOrder app now before)
    (consistent : after.store.Consistent)
    {session : Session}
    {others : List Session}
    (sessions : after.sessions = session :: others)
    (fade : SessionsFade before.sessions others)
    (created : session.createdAt = now)
    (room : liveCount now session.userId others + 1 ≤ app.maxTrustedDevices) :
    SessionsInOrder app now after where
  consistent := consistent
  sorted := by
    obtain ⟨sorted, past⟩ := fade.inOrder inOrder.sorted inOrder.past
    rw [sessions, List.pairwise_cons, created]
    exact ⟨past, sorted⟩
  past := by
    obtain ⟨-, past⟩ := fade.inOrder inOrder.sorted inOrder.past
    rw [sessions, List.forall_mem_cons]
    exact ⟨Nat.le_of_eq created, past⟩
  capped userId := by
    rw [sessions, liveCount_eq_countP, List.countP_cons, ← liveCount_eq_countP]
    by_cases same : session.userId = userId
    · subst same
      have most : (if (decide (session.userId = session.userId) &&
          session.live now) = true then 1 else 0) ≤ 1 := by split <;> omega
      exact Nat.le_trans (Nat.add_le_add_left most _) room
    · rw [if_neg (by simp [same])]
      exact Nat.le_trans (liveCount_fade fade) (inOrder.capped userId)

/-! ## Logging in -/

/-- A completed login of a user: a new session, and room made for it. -/
def MakesRoom (app : Deployment) (now : Time) (userId : UserId) (before after : List Session) :
    Prop :=
  ∃ session : Session, session.userId = userId ∧ session.createdAt = now ∧
    after = session :: afterLimit app now userId before

/-- What a request that logs in may do to the sessions. -/
def LogsIn (app : Deployment) (now : Time) (before after : List Session) : Prop :=
  after = before ∨ ∃ userId, after = afterLimit app now userId before ∨
    MakesRoom app now userId before after

theorem issueTokenPair_logsIn
    (deviceId : DeviceId)
    (requestMeta : RequestMeta)
    (isNewDevice : Bool) :
    LogsIn app input.now world.sessions
        ((AuthService.issueTokenPair app userId deviceId requestMeta isNewDevice).run input
          world).2.sessions ∧
      ∀ tokens, ((AuthService.issueTokenPair app userId deviceId requestMeta isNewDevice).run
          input world).1 = .ok tokens →
        MakesRoom app input.now userId world.sessions
          ((AuthService.issueTokenPair app userId deviceId requestMeta isNewDevice).run input
            world).2.sessions := by
  cases stored : world.userRow userId with
  | none =>
      have refused : (AuthService.issueTokenPair app userId deviceId requestMeta isNewDevice).run
          input world = (.error (.unauthorized "Unauthorized"), world) := by
        unfold AuthService.issueTokenPair UsersService.findById
        rw [run_bind, run_query]
        dsimp only
        rw [show (world.users.find? fun row => row.id = userId) = none from stored]
        rfl
      rw [refused]
      exact ⟨.inl rfl, nofun⟩
  | some user =>
      have sameId : user.id = userId := by simpa using List.find?_some stored
      subst sameId
      rw [run_issueTokenPair stored]
      dsimp only
      split
      · have completed : MakesRoom app input.now user.id world.sessions
            ((⟨user, deviceId, requestMeta, isNewDevice⟩ : LoginCompletion).after app input
              world).sessions := ⟨_, rfl, rfl, rfl⟩
        exact ⟨.inr ⟨user.id, .inr completed⟩, fun _ _ => completed⟩
      · exact ⟨.inr ⟨user.id, .inl rfl⟩, nofun⟩

/-- A login completes, or leaves no new session. -/
theorem login_logsIn (dto : LoginDto) (requestMeta : RequestMeta) :
    LogsIn app input.now world.sessions
        ((AuthService.login app dto requestMeta).run input world).2.sessions ∧
      ∀ tokens, ((AuthService.login app dto requestMeta).run input world).1 =
          .ok (.signedIn tokens) →
        ∃ userId, MakesRoom app input.now userId world.sessions
          ((AuthService.login app dto requestMeta).run input world).2.sessions := by
  unfold AuthService.login
  rw [run_bind]
  have unchecked := (@moves_checkPassword app input world dto).1
  rcases outcome : (AuthService.checkPassword app dto).run input world with
    ⟨checkedResult, checked⟩
  rw [outcome] at unchecked
  have sameChecked : checked.sessions = world.sessions := congrArg (·.sessions) unchecked
  cases checkedResult with
  | error error => exact ⟨.inl sameChecked, nofun⟩
  | ok user =>
      dsimp only
      rw [run_bind]
      have unseen := (sameSignIns_findOrCreateDevice user.id
        (hashDeviceId requestMeta.rawDeviceId)).run input checked
      rcases identified : (DevicesService.findOrCreateDevice user.id
        (hashDeviceId requestMeta.rawDeviceId)).run input checked with ⟨seenResult, seen⟩
      rw [identified] at unseen
      have sameSeen : seen.sessions = world.sessions := unseen.2.trans sameChecked
      match seenResult with
      | .error error => exact ⟨.inl sameSeen, nofun⟩
      | .ok (device, true) =>
          have same := (sameSignIns_challenge user device).run input seen
          refine ⟨.inl (same.2.trans sameSeen), fun tokens signedIn => ?_⟩
          obtain ⟨_, _, _, challenged, -⟩ := run_challenge_ok (Prod.ext signedIn rfl)
          cases challenged
      | .ok (device, false) =>
          obtain ⟨logsIn, completes⟩ := @issueTokenPair_logsIn app input seen user.id device.id
            requestMeta false
          dsimp only
          rw [if_neg Bool.false_ne_true, run_bind]
          rw [sameSeen] at logsIn completes
          rcases issues : (AuthService.issueTokenPair app user.id device.id requestMeta false).run
            input seen with ⟨issued, after⟩
          rw [issues] at logsIn completes
          cases issued with
          | error error => exact ⟨logsIn, nofun⟩
          | ok tokens => exact ⟨logsIn, fun _ _ => ⟨user.id, completes tokens rfl⟩⟩

/-- A submitted code completes a login, or leaves no new session. -/
theorem verifyLogin_logsIn (dto : VerifyLoginDto) (requestMeta : RequestMeta) :
    LogsIn app input.now world.sessions
        ((AuthService.verifyLogin app dto requestMeta).run input world).2.sessions ∧
      ∀ tokens, ((AuthService.verifyLogin app dto requestMeta).run input world).1 = .ok tokens →
        ∃ userId, MakesRoom app input.now userId world.sessions
          ((AuthService.verifyLogin app dto requestMeta).run input world).2.sessions := by
  unfold AuthService.verifyLogin
  rw [run_bind]
  have unchecked := (@sameSignIns_checkChallenge app dto).run input world
  rcases outcome : (AuthService.checkChallenge app dto).run input world with ⟨result, checked⟩
  rw [outcome] at unchecked
  have sameChecked : checked.sessions = world.sessions := unchecked.2
  have issues : ∀ (userId : UserId) (deviceId : DeviceId) (reached : World),
      reached.sessions = world.sessions →
      LogsIn app input.now world.sessions
          ((AuthService.issueTokenPair app userId deviceId requestMeta true).run input
            reached).2.sessions ∧
        ∀ tokens, ((AuthService.issueTokenPair app userId deviceId requestMeta true).run input
            reached).1 = .ok tokens →
          ∃ owner, MakesRoom app input.now owner world.sessions
            ((AuthService.issueTokenPair app userId deviceId requestMeta true).run input
              reached).2.sessions := by
    intro userId deviceId reached same
    obtain ⟨logsIn, completes⟩ := @issueTokenPair_logsIn app input reached userId deviceId
      requestMeta true
    rw [same] at logsIn completes
    exact ⟨logsIn, fun tokens issued => ⟨userId, completes tokens issued⟩⟩
  match result with
  | .error error => exact ⟨.inl sameChecked, nofun⟩
  | .ok (user, payload) =>
      dsimp only
      split
      · rw [run_bind]
        have unmarked := (respects_update user.id
          (fun now row => { row with emailVerifiedAt := some now })).run input checked
        rcases marks : (UsersService.markEmailVerified user.id).run input checked with
          ⟨markedResult, marked⟩
        rw [show UsersService.update user.id (fun now row =>
          { row with emailVerifiedAt := some now }) = UsersService.markEmailVerified user.id
            from rfl, marks] at unmarked
        have sameMarked : marked.sessions = world.sessions :=
          (congrArg SessionStore.sessions unmarked).trans sameChecked
        cases markedResult with
        | error error => exact ⟨.inl sameMarked, nofun⟩
        | ok row => exact issues user.id payload.deviceId marked sameMarked
      · exact issues user.id payload.deviceId checked sameChecked

/-- A request that logs in keeps the sessions in order. -/
theorem SessionsInOrder.logIn
    {before after : World}
    (inOrder : SessionsInOrder app now before)
    (consistent : after.store.Consistent)
    (logsIn : LogsIn app now before.sessions after.sessions) :
    SessionsInOrder app now after := by
  rcases logsIn with same | ⟨userId, ended | ⟨session, owned, created, issued⟩⟩
  · exact inOrder.fade consistent (same ▸ .refl _)
  · exact inOrder.fade consistent (ended ▸ fade_afterLimit _)
  · subst owned
    exact inOrder.issue consistent issued (fade_afterLimit _) created
      (liveCount_afterLimit inOrder.consistent.idsDistinct)

/-! ## Refreshing -/

/-- A rotation puts one live session in the place of another. -/
theorem liveCount_rotated
    {session : Session}
    (present : session ∈ world.sessions)
    (live : session.live now = true) :
    liveCount now session.userId
        (Table.updateWhere (fun row => row.id = session.id)
          (Session.supersede now (world.nextId + 1)) world.sessions) + 1 ≤
      liveCount now session.userId world.sessions := by
  have selected : (decide (session.userId = session.userId) && session.live now) = true := by
    rw [live, decide_eq_true rfl]
    rfl
  have fewer : world.sessions.countP (fun row =>
      (decide (row.userId = session.userId) && row.live now) && row.id ≠ session.id) + 1 ≤
        world.sessions.countP fun row => decide (row.userId = session.userId) && row.live now :=
    Table.countP_without present selected
  unfold liveCount liveSessions
  rw [Table.filter_updateWhere_hides _ (by simp [Session.live, Session.supersede]),
    ← List.countP_eq_length_filter, ← List.countP_eq_length_filter]
  simpa only [decide_not] using fewer

/-- The sessions a rotation leaves besides the new one have faded. -/
theorem fade_supersede (id successor : SessionId) (sessions : List Session) :
    SessionsFade sessions (Table.updateWhere (fun row => row.id = id)
      (Session.supersede now successor) sessions) :=
  .updateWhere _ _ fun _ => ⟨rfl, rfl, rfl, rfl, rfl, nofun⟩

/-- A refresh rotates a live session, or lets sessions fade. -/
theorem refresh_sessions
    (consistent : world.store.Consistent)
    (rawToken : RawToken) :
    SessionsFade world.sessions ((AuthService.refresh app rawToken).run input world).2.sessions ∨
      ∃ session ∈ world.sessions, session.live input.now = true ∧
        ((AuthService.refresh app rawToken).run input world).2.sessions =
          rotatedSessions app input.now world.store session := by
  rw [run_refresh app rawToken input consistent]
  cases target : refreshTarget input.now rawToken world.sessions with
  | rotate session =>
      obtain ⟨present, live⟩ := refreshTarget_rotate target
      dsimp only
      cases activeUser session.userId world with
      | some user => exact .inr ⟨session, present, live, rfl⟩
      | none => exact .inl (.updateWhere _ _ fun _ => ⟨rfl, rfl, rfl, rfl, rfl, nofun⟩)
  | reuse presented => exact .inl (.updateWhere _ _ fun _ => ⟨rfl, rfl, rfl, rfl, rfl, nofun⟩)
  | refuse => exact .inl (.refl _)

/-- A refresh never increases the number of live sessions. -/
theorem liveCount_refresh
    (consistent : world.store.Consistent)
    (rawToken : RawToken)
    (userId : UserId) :
    liveCount input.now userId
        ((AuthService.refresh app rawToken).run input world).2.sessions ≤
      liveCount input.now userId world.sessions := by
  rcases @refresh_sessions app input world consistent rawToken with
    fade | ⟨session, present, live, rotated⟩
  · exact liveCount_fade fade
  · rw [rotated, rotatedSessions, liveCount_eq_countP, List.countP_cons, ← liveCount_eq_countP]
    by_cases same : session.userId = userId
    · subst same
      have most : (if (decide ((successorOf app input.now world.store session).userId =
          session.userId) && (successorOf app input.now world.store session).live input.now) =
            true then 1 else 0) ≤ 1 := by split <;> omega
      exact Nat.le_trans (Nat.add_le_add_left most _) (liveCount_rotated present live)
    · rw [if_neg (by simp [successorOf, same])]
      exact liveCount_fade (fade_supersede _ _ _)

/-! ## Runs -/

/-- The requests of a run; besides registrations they may be any that authenticate. -/
inductive SessionRequest
  | register (dto : RegisterDto)
  | auth (request : AuthRequest)

/-- What a request has the services do. -/
def SessionRequest.handle (app : Deployment) : SessionRequest → Service Unit
  | .register dto => AuthService.register app dto
  | .auth request => request.handle app

/-- A request and the input it is handled with. -/
structure SessionArrival where
  input : Input
  request : SessionRequest

/-- The state once a request has been handled. -/
def SessionArrival.serve (app : Deployment) (world : World) (arrival : SessionArrival) : World :=
  ((arrival.request.handle app).run arrival.input world).2

/-- A registration has nothing to do with sessions. -/
theorem register_moves (dto : RegisterDto) :
    (AuthService.register app dto).Respects (StoreMoves now fun _ _ => False) := by
  unfold AuthService.register
  refine Respects.bind (Respects.query _) fun existing => ?_
  refine Respects.ite (Respects.throw _) ?_
  refine Respects.bind (Respects.attempt fun input world value after created => ?_) fun user =>
    respects_sameStore_moves (respects_record _ _)
  split at created
  · cases created
  · dsimp only at created
    split at created
    · cases created
      exact reserves 1 rfl
    · cases created
      exact reserves 1 rfl

theorem run_discard (process : Service α) :
    ((do let _ ← process; pure ()).run input world).2 = (process.run input world).2 := by
  rw [run_bind]
  rcases process.run input world with ⟨result, after⟩
  cases result <;> rfl

/-- A request that issues no session keeps the sessions in order. -/
theorem SessionsInOrder.moves
    {before after : World}
    (inOrder : SessionsInOrder app now before)
    (moves : StoreMoves now (fun _ _ => False) before after) :
    SessionsInOrder app now after :=
  inOrder.fade (moves.consistent inOrder.consistent) (fade_steps moves)

/-- Every request keeps the sessions in order. -/
theorem SessionsInOrder.serve
    {arrival : SessionArrival}
    (inOrder : SessionsInOrder app arrival.input.now world) :
    SessionsInOrder app arrival.input.now (arrival.serve app world) := by
  obtain ⟨input, request⟩ := arrival
  unfold SessionArrival.serve
  cases request with
  | register dto => exact inOrder.moves ((register_moves dto).run input world)
  | auth request =>
      have moves := request.handle_moves app input inOrder.consistent
      have consistent := moves.consistent inOrder.consistent
      cases request with
      | login dto requestMeta =>
          refine inOrder.logIn consistent ?_
          show LogsIn _ _ _ ((do let _ ← _; pure () : Service Unit).run _ _).2.sessions
          rw [run_discard]
          exact (login_logsIn dto requestMeta).1
      | verifyLogin dto requestMeta =>
          refine inOrder.logIn consistent ?_
          show LogsIn _ _ _ ((do let _ ← _; pure () : Service Unit).run _ _).2.sessions
          rw [run_discard]
          exact (verifyLogin_logsIn dto requestMeta).1
      | refresh rawToken =>
          have refreshed : (((AuthRequest.refresh rawToken).handle app).run input world).2 =
              ((AuthService.refresh app rawToken).run input world).2 := run_discard _
          rw [refreshed] at consistent
          show SessionsInOrder app input.now
            (((AuthRequest.refresh rawToken).handle app).run input world).2
          rw [refreshed]
          rcases @refresh_sessions app input world inOrder.consistent rawToken with
            fade | ⟨session, present, live, rotated⟩
          · exact inOrder.fade consistent fade
          · exact inOrder.issue consistent rotated (fade_supersede _ _ _) rfl
              (Nat.le_trans (liveCount_rotated present live) (inOrder.capped session.userId))
      | logout rawToken => exact inOrder.moves moves
      | logoutAll userId => exact inOrder.moves moves
      | forgotPassword email => exact inOrder.moves moves
      | resetPassword rawToken newPassword => exact inOrder.moves moves
      | removeDevice userId deviceId => exact inOrder.moves moves
      | suspendUser adminUserId targetUserId => exact inOrder.moves moves
      | reactivateUser adminUserId targetUserId => exact inOrder.moves moves
      | deleteUser adminUserId targetUserId => exact inOrder.moves moves
      | forceLogout adminUserId targetUserId => exact inOrder.moves moves

/-- A run keeps the sessions in order, up to any later moment. -/
theorem SessionsInOrder.run
    {arrivals : List SessionArrival}
    (inOrder : SessionsInOrder app now world)
    (sorted : arrivals.Pairwise fun earlier later => earlier.input.now ≤ later.input.now)
    (started : ∀ arrival ∈ arrivals, now ≤ arrival.input.now)
    {moment : Time}
    (begun : now ≤ moment)
    (passed : ∀ arrival ∈ arrivals, arrival.input.now ≤ moment) :
    SessionsInOrder app moment (arrivals.foldl (SessionArrival.serve app) world) := by
  induction arrivals generalizing world now with
  | nil => exact inOrder.later begun
  | cons arrival later inductionHypothesis =>
      obtain ⟨first, rest⟩ := List.pairwise_cons.mp sorted
      have reached := (inOrder.later (started arrival List.mem_cons_self)).serve
      exact inductionHypothesis reached rest first (passed arrival List.mem_cons_self)
        fun other present => passed other (List.mem_cons_of_mem _ present)

/-- A completed login of a user ends exactly the oldest live sessions there is no room for:
as many as they exceed the limit by with one more, none of them younger than a live one it
keeps, and no other session. -/
def EndsOldest (app : Deployment) (now : Time) (userId : UserId) (before after : List Session) :
    Prop :=
  ∃ session : Session, session.userId = userId ∧
    after = session :: before.map (fun row =>
      if row ∈ oldestSessions app now userId before then { row with revokedAt := some now }
      else row) ∧
    (oldestSessions app now userId before).length =
      liveCount now userId before + 1 - app.maxTrustedDevices ∧
    ∀ older ∈ oldestSessions app now userId before,
      older ∈ liveSessions now userId before ∧
      ∀ kept ∈ liveSessions now userId before,
        kept ∉ oldestSessions app now userId before → older.createdAt ≤ kept.createdAt

theorem MakesRoom.endsOldest
    {after : List Session}
    (inOrder : SessionsInOrder app now world)
    (makesRoom : MakesRoom app now userId world.sessions after) :
    EndsOldest app now userId world.sessions after := by
  obtain ⟨session, owned, -, rfl⟩ := makesRoom
  have positive := app.one_le_maxTrustedDevices
  refine ⟨session, owned, ?_, ?_, ?_⟩
  · congr 1
    refine List.map_congr_left fun row present => ?_
    have same := @evicted_iff app now userId _ inOrder.consistent.idsDistinct row present
    exact if_congr (decide_eq_true_iff.trans same) rfl rfl
  · unfold oldestSessions liveCount
    rw [List.length_drop]
    omega
  · intro older oldest
    refine ⟨List.mem_of_mem_drop oldest, fun kept live newer => ?_⟩
    have split := List.take_append_drop (app.maxTrustedDevices - 1)
      (liveSessions now userId world.sessions)
    have ordered : (liveSessions now userId world.sessions).Pairwise
        fun newer older => older.createdAt ≤ newer.createdAt := inOrder.sorted.filter _
    rw [← split] at live ordered
    rcases List.mem_append.mp live with early | late
    · exact (List.pairwise_append.mp ordered).2.2 kept early older oldest
    · exact absurd late newer

/-- After any run no user has more live sessions than there may be; then a login that
completes ends exactly the oldest live sessions of its user there is no room for, and a
refresh leaves no user with more live sessions. -/
theorem live_sessions_capped
    {start : World}
    (initial : start.Initial)
    {arrivals : List SessionArrival}
    (sorted : arrivals.Pairwise fun earlier later => earlier.input.now ≤ later.input.now)
    (input : Input)
    (passed : ∀ arrival ∈ arrivals, arrival.input.now ≤ input.now) :
    let world := arrivals.foldl (SessionArrival.serve app) start
    (∀ userId, liveCount input.now userId world.sessions ≤ app.maxTrustedDevices) ∧
    (∀ reached : World, reached.sessions = world.sessions →
      ∀ userId deviceId requestMeta isNewDevice tokens after,
        (AuthService.issueTokenPair app userId deviceId requestMeta isNewDevice).run input
          reached = (.ok tokens, after) →
        EndsOldest app input.now userId world.sessions after.sessions) ∧
    (∀ dto requestMeta tokens after,
      (AuthService.login app dto requestMeta).run input world = (.ok (.signedIn tokens), after) →
        ∃ userId, EndsOldest app input.now userId world.sessions after.sessions) ∧
    (∀ dto requestMeta tokens after,
      (AuthService.verifyLogin app dto requestMeta).run input world = (.ok tokens, after) →
        ∃ userId, EndsOldest app input.now userId world.sessions after.sessions) ∧
    (∀ rawToken userId,
      liveCount input.now userId
          ((AuthService.refresh app rawToken).run input world).2.sessions ≤
        liveCount input.now userId world.sessions) := by
  intro world
  have first : SessionsInOrder app 0 start :=
    { consistent := initial.consistent
      sorted := by rw [initial.1]; exact List.Pairwise.nil
      past := by rw [initial.1]; exact List.forall_mem_nil _
      capped := fun userId => by rw [initial.1]; exact Nat.zero_le _ }
  have inOrder : SessionsInOrder app input.now world :=
    first.run sorted (fun _ _ => Nat.zero_le _) (Nat.zero_le _) passed
  refine ⟨inOrder.capped, ?_, ?_, ?_, ?_⟩
  · intro reached same userId deviceId requestMeta isNewDevice tokens after issued
    have completes := (@issueTokenPair_logsIn app input reached userId deviceId requestMeta
      isNewDevice).2
    rw [issued, same] at completes
    exact (completes tokens rfl).endsOldest inOrder
  · intro dto requestMeta tokens after signedIn
    have completes := (@login_logsIn app input world dto requestMeta).2
    rw [signedIn] at completes
    obtain ⟨userId, makesRoom⟩ := completes tokens rfl
    exact ⟨userId, makesRoom.endsOldest inOrder⟩
  · intro dto requestMeta tokens after verified
    have completes := (@verifyLogin_logsIn app input world dto requestMeta).2
    rw [verified] at completes
    obtain ⟨userId, makesRoom⟩ := completes tokens rfl
    exact ⟨userId, makesRoom.endsOldest inOrder⟩
  · exact fun rawToken userId => liveCount_refresh inOrder.consistent rawToken userId

/-- A login that is verified, and two more from the same device. -/
def fullAccount : World :=
  ([⟨{ now := 0 }, .auth (sampleLogin "laptop")⟩,
    ⟨{ now := 1000 }, .auth (sampleVerifyLogin "laptop" 0)⟩,
    ⟨{ now := 2000 }, .auth (sampleLogin "laptop")⟩,
    ⟨{ now := 3000 }, .auth (sampleLogin "laptop")⟩] : List SessionArrival).foldl
      (SessionArrival.serve sampleApp) sampleWorld

/-- One login more. -/
def fourthLogin : Except ApiError LoginResult × World :=
  (AuthService.login sampleApp { email := "ann@example.com", password := "correct horse" }
    { rawDeviceId := "laptop" }).run { now := 4000 } fullAccount

/-- The fourth login ends the session of the first. -/
theorem live_sessions_capped_full :
    liveCount 4000 0 fullAccount.sessions = 3 ∧
      (∃ userId, EndsOldest sampleApp 4000 userId fullAccount.sessions fourthLogin.2.sessions) ∧
      fourthLogin.2.sessions.map (fun session => (session.createdAt, session.revokedAt)) =
        [(4000, none), (3000, none), (2000, none), (1000, some 4000)] := by
  have signedIn : fourthLogin.1 = .ok (.signedIn
      { accessToken := { payload := .access { sub := 0, role := .user }, iat := 4, exp := 904 }
        refreshToken := 7
        refreshTokenExpiresAt := 2592004000 }) := by decide
  refine ⟨by decide, ?_, by decide⟩
  exact (@live_sessions_capped sampleApp sampleWorld sampleWorld_initial _ (by decide)
    { now := 4000 } (by decide)).2.2.1 _ _ _ fourthLogin.2 (Prod.ext signedIn rfl)

end ConferenceContact
