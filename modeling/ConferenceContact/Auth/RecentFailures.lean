import ConferenceContact.Auth.CompletedLogins
import ConferenceContact.Auth.DeviceChallenge
import ConferenceContact.Auth.Enumeration

/-!
# Recent failures in the risk of a login

A right password forgets the failed checks before the risk of its login is assessed.  So a
login from a known device never shows them, and a login that answers a challenge shows the
checks that have failed since its password was checked.
-/

namespace ConferenceContact

open Process

variable {app : Deployment} {input : Input} {world before after : World} {email : String}

/-! ## Failed checks -/

/-- A number of password checks of the account with an address fail, and whatever else
happens leaves that account alone. -/
inductive FailedChecks (app : Deployment) (email : String) : Nat → World → World → Prop
  | refl (start : World) : FailedChecks app email 0 start start
  | check
      {count : Nat}
      {start before : World}
      (earlier : FailedChecks app email count start before)
      (arrival : LoginArrival)
      (sameAddress : arrival.address app = email)
      (fails : arrival.check app before = some ⟨arrival.input.now, false⟩) :
      FailedChecks app email (count + 1) start (arrival.handle app before)
  | other
      {count : Nat}
      {start before after : World}
      (earlier : FailedChecks app email count start before)
      (sameAccount : after.account email = before.account email)
      (distinct : after.DistinctUsers) :
      FailedChecks app email count start after

theorem FailedChecks.distinct
    {count : Nat}
    {start : World}
    (failed : FailedChecks app email count start before)
    (distinct : start.DistinctUsers) :
    before.DistinctUsers := by
  induction failed with
  | refl => exact distinct
  | check _ _ _ _ inductionHypothesis => exact handle_distinct (inductionHypothesis distinct)
  | other _ _ distinctAfter _ => exact distinctAfter

/-- A check that fails is one of an active account that is not locked. -/
theorem check_fails
    {arrival : LoginArrival}
    {account : Credentials}
    (distinct : world.DistinctUsers)
    (isAccount : world.account (arrival.address app) = some account)
    (fails : arrival.check app world = some ⟨arrival.input.now, false⟩) :
    account.status = .active ∧ account.lockout.locked arrival.input.now = false ∧
      app.argon2Verify account.passwordHash arrival.dto.password = false := by
  rw [check_eq distinct, isAccount, Option.bind_some] at fails
  obtain ⟨right, checked, same⟩ := Option.map_eq_some_iff.mp fails
  obtain ⟨-, rfl⟩ := LockoutAttempt.mk.inj same
  unfold Credentials.check at checked
  split at checked
  · cases checked
  · rename_i admitted
    obtain ⟨unlocked, active⟩ := not_or.mp admitted
    exact ⟨not_not.mp active, Bool.eq_false_iff.mpr unlocked, Option.some.inj checked⟩

/-- The account counts them, as long as they do not lock it. -/
theorem FailedChecks.account
    {count : Nat}
    {start : World}
    (failed : FailedChecks app email count start before)
    (distinct : start.DistinctUsers)
    {account : Credentials}
    (isAccount : start.account email = some account)
    (forgotten : account.lockout = {})
    (few : count < app.loginMaxAttempts) :
    before.account email = some { account with lockout := { failures := count } } := by
  induction failed with
  | refl =>
      rw [isAccount, ← forgotten]
  | other _ sameAccount _ inductionHypothesis =>
      rw [sameAccount]
      exact inductionHypothesis distinct isAccount few
  | @check count start before earlier arrival sameAddress fails inductionHypothesis =>
      subst sameAddress
      have counted := inductionHypothesis distinct isAccount (Nat.lt_of_succ_lt few)
      have distinctBefore := earlier.distinct distinct
      obtain ⟨active, unlocked, wrong⟩ := check_fails distinctBefore counted fails
      rw [handle_account distinctBefore, counted, Option.map_some,
        tried_wrong active unlocked few wrong]

/-! ## Sessions of completed logins -/

/-- A number of failed checks shows in a session: in its signals, and in its score on top
of what the login scores without. -/
def Session.ShowsFailures
    (app : Deployment)
    (input : Input)
    (world : World)
    (requestMeta : RequestMeta)
    (isNewDevice : Bool)
    (count : Nat)
    (session : Session) : Prop :=
  (∃ base,
    ((RiskService.assess session.userId isNewDevice
      (GeoipService.country app requestMeta.ipAddress) 0).run input world).1 = .ok base ∧
    session.riskScore = base.score + min (5 * count) 20) ∧
  (session.riskSignals.bind (·.recentFailedLogins)) = some count

/-- The session of a completed login shows what its account has counted by then. -/
theorem LoginCompletion.showsFailures_iff
    (login : LoginCompletion)
    (sameSessions : world.sessions = before.sessions)
    {count : Nat}
    (positive : 0 < count) :
    (login.session app input world).ShowsFailures app input before login.requestMeta
        login.isNewDevice count ↔
      login.user.failedLoginCount = count := by
  unfold Session.ShowsFailures
  rw [RiskService.run_assess, ← sameSessions]
  show (∃ base, _ = _ ∧ (login.risk app input world login.user.failedLoginCount).score = _) ∧
    (if 0 < login.user.failedLoginCount then some login.user.failedLoginCount else none) =
      some count ↔ _
  constructor
  · rintro ⟨-, shown⟩
    split at shown
    · exact Option.some.inj shown
    · cases shown
  · intro counted
    refine ⟨⟨_, rfl, ?_⟩, ?_⟩
    · unfold LoginCompletion.risk RiskService.assessment RiskService.failurePoints
      rw [counted, Nat.mul_comm 5 count]
      rfl
    · rw [counted, if_pos positive]

theorem run_issueTokenPair_ok
    {userId : UserId}
    {deviceId : DeviceId}
    {requestMeta : RequestMeta}
    {isNewDevice : Bool}
    {tokens : TokenPair}
    (issued : (AuthService.issueTokenPair app userId deviceId requestMeta isNewDevice).run input
      world = (.ok tokens, after)) :
    ∃ user, world.userRow userId = some user ∧
      after = (⟨user, deviceId, requestMeta, isNewDevice⟩ : LoginCompletion).after app input
        world := by
  cases stored : world.userRow userId with
  | none =>
      unfold AuthService.issueTokenPair UsersService.findById at issued
      rw [run_bind, run_query] at issued
      dsimp only at issued
      rw [show (world.users.find? fun row => row.id = userId) = none from stored] at issued
      cases issued
  | some user =>
      rw [run_issueTokenPair stored] at issued
      dsimp only at issued
      split at issued
      · exact ⟨user, rfl, (Prod.mk.inj issued).2.symm⟩
      · cases issued

/-- The one session a completed login creates. -/
theorem LoginCompletion.eq_session
    {login : LoginCompletion}
    (sameSessions : world.sessions = before.sessions)
    {session : Session}
    (created : Created before (login.after app input world) session) :
    session = login.session app input world := by
  obtain ⟨present, new⟩ := created
  rcases List.mem_cons.mp present with first | old
  · exact first
  · obtain ⟨row, stored, same⟩ := Table.mem_updateWhere.mp old
    rw [sameSessions] at stored
    refine absurd ?_ (new row stored)
    rw [← same]
    split <;> rfl

/-! ## The two paths -/

/-- A login whose password is right. -/
theorem run_checkPassword_ok
    {arrival : LoginArrival}
    {user : User}
    (distinct : world.DistinctUsers)
    (accepted : (AuthService.checkPassword app arrival.dto).run arrival.input world =
      (.ok user, after)) :
    world.account (arrival.address app) = some user.credentials ∧
      world.userRow user.id = some user ∧
        after = world.rewriteUser user.id resetRow := by
  rw [run_checkPassword distinct] at accepted
  unfold LoginArrival.address
  rw [account_eq]
  split at accepted
  · cases accepted
  · rename_i found
    rw [found]
    split at accepted
    · cases accepted
    · cases accepted
      exact ⟨rfl, userRow_of_mem distinct (List.mem_of_find?_eq_some found), rfl⟩
    · cases accepted

/-- A login from a known device shows no failures. -/
theorem direct_login_shows_none
    {login : LoginArrival}
    {tokens : TokenPair}
    {session : Session}
    {count : Nat}
    (distinct : before.DistinctUsers)
    (signsIn : login.outcome app before = .ok (.signedIn tokens))
    (created : Created before (login.handle app before) session)
    (positive : 0 < count) :
    ¬session.ShowsFailures app login.input before login.requestMeta false count := by
  have ran : (AuthService.login app login.dto login.requestMeta).run login.input before =
      (.ok (.signedIn tokens), login.handle app before) := Prod.ext signsIn rfl
  rw [login_eq] at ran
  obtain ⟨user, checked, accepted, signed⟩ := run_bind_eq_ok.mp ran
  obtain ⟨-, stored, rfl⟩ := run_checkPassword_ok distinct accepted
  obtain ⟨⟨device, isNew⟩, seen, identified, signed⟩ := run_bind_eq_ok.mp signed
  have same := (sameSignIns_findOrCreateDevice user.id
    (hashDeviceId login.requestMeta.rawDeviceId)).run login.input
      (before.rewriteUser user.id resetRow)
  rw [identified] at same
  cases isNew with
  | true =>
      obtain ⟨_, _, _, challenged, -⟩ := run_challenge_ok signed
      cases challenged
  | false =>
      obtain ⟨issued, reached, issues, returned⟩ := run_bind_eq_ok.mp signed
      have unchanged : reached = login.handle app before := (Prod.mk.inj returned).2
      obtain ⟨row, reread, rfl⟩ := run_issueTokenPair_ok issues
      have sameSessions : seen.sessions = before.sessions := same.2
      rw [← unchanged] at created
      have isSession := LoginCompletion.eq_session sameSessions created
      subst isSession
      intro shows
      have counted := (LoginCompletion.showsFailures_iff _ sameSessions positive).mp shows
      -- The row read for the assessment is the one the password check has reset.
      rw [userRow_updated same.1 (by exact fun _ => rfl), stored, Option.map_some] at reread
      cases reread
      exact Nat.ne_of_lt positive counted

/-- A login that answers a challenge shows the failures its account has counted by then. -/
theorem challenged_login_shows_iff
    {dto : VerifyLoginDto}
    {requestMeta : RequestMeta}
    {payload : LoginChallengePayload}
    {tokens : TokenPair}
    {session : Session}
    {count : Nat}
    (challenge : dto.challengeToken.payload = .loginChallenge payload)
    (signsIn : (AuthService.verifyLogin app dto requestMeta).run input before =
      (.ok tokens, after))
    (created : Created before after session)
    (positive : 0 < count) :
    session.ShowsFailures app input before requestMeta true count ↔
      (before.userRow payload.sub).map (·.failedLoginCount) = some count := by
  unfold AuthService.verifyLogin at signsIn
  obtain ⟨⟨user, answered⟩, checked, accepted, issues⟩ := run_bind_eq_ok.mp signsIn
  obtain ⟨named, stored⟩ := run_checkChallenge_ok accepted
  have same : SameSignIns before checked := by
    have respected := (@sameSignIns_checkChallenge app dto).run input before
    rw [accepted] at respected
    exact respected
  have sub : answered = payload := JwtPayload.loginChallenge.inj (named.symm.trans challenge)
  subst sub
  have sameId : user.id = answered.sub := by simpa using List.find?_some stored
  -- Whether or not the address is verified on the way, the counter stays as it is.
  have verified : ∃ reached : World, reached.sessions = before.sessions ∧
      (reached.userRow user.id).map (·.failedLoginCount) = some user.failedLoginCount ∧
      (AuthService.issueTokenPair app user.id answered.deviceId requestMeta true).run input
        reached = (.ok tokens, after) := by
    have storedNow : checked.userRow user.id = some user := by
      unfold World.userRow at stored ⊢
      rw [same.1, sameId]
      exact stored
    dsimp only at issues
    split at issues
    · obtain ⟨row, marked, marks, issues⟩ := run_bind_eq_ok.mp issues
      unfold UsersService.markEmailVerified at marks
      rw [run_updateUser storedNow] at marks
      obtain ⟨-, rfl⟩ := Prod.mk.inj marks
      refine ⟨checked.rewriteUser user.id fun row =>
        { row with emailVerifiedAt := some input.now }, same.2, ?_, issues⟩
      rw [userRow_rewriteUser checked (by exact fun _ => rfl), storedNow]
      rfl
    · exact ⟨checked, same.2, by rw [storedNow]; rfl, issues⟩
  obtain ⟨reached, sameSessions, counter, issues⟩ := verified
  obtain ⟨row, reread, rfl⟩ := run_issueTokenPair_ok issues
  have isSession := LoginCompletion.eq_session sameSessions created
  subst isSession
  refine (LoginCompletion.showsFailures_iff _ sameSessions positive).trans ?_
  rw [reread, Option.map_some] at counter
  rw [stored, Option.map_some, ← counter, Option.some.injEq]

/-- After a number of failed checks below the limit, a session created by the next login
with the right password never shows them where the login signs in at once, and where it is
challenged shows them exactly if that many checks are counted when the code is submitted. -/
theorem recent_failures_shown_iff
    {start before : World}
    (distinct : start.DistinctUsers)
    {account : Credentials}
    (isAccount : start.account email = some account)
    (forgotten : account.lockout = {})
    {count : Nat}
    (failed : FailedChecks app email count start before)
    (positive : 0 < count)
    (few : count < app.loginMaxAttempts)
    {login : LoginArrival}
    (sameAddress : login.address app = email) :
    before.account email = some { account with lockout := { failures := count } } ∧
    (∀ tokens session, login.outcome app before = .ok (.signedIn tokens) →
      Created before (login.handle app before) session →
        ¬session.ShowsFailures app login.input before login.requestMeta false count) ∧
    (∀ method challengeToken, login.outcome app before =
        .ok (.requiresVerification method challengeToken) →
      ∀ input requestMeta code submitted tokens after session,
        (AuthService.verifyLogin app ⟨challengeToken, code⟩ requestMeta).run input submitted =
          (.ok tokens, after) →
        Created submitted after session →
          (session.ShowsFailures app input submitted requestMeta true count ↔
            (submitted.userRow account.id).map (·.failedLoginCount) = some count)) := by
  have counted := failed.account distinct isAccount forgotten few
  have distinctBefore := failed.distinct distinct
  refine ⟨counted, ?_, ?_⟩
  · intro tokens session signsIn created
    exact direct_login_shows_none distinctBefore signsIn created positive
  · intro method challengeToken challenged input requestMeta code submitted tokens after session
      answered created
    have ran : (AuthService.login app login.dto login.requestMeta).run login.input before =
        (.ok (.requiresVerification method challengeToken), login.handle app before) :=
      Prod.ext challenged rfl
    rw [login_eq] at ran
    obtain ⟨user, checked, accepted, signed⟩ := run_bind_eq_ok.mp ran
    obtain ⟨isUser, -, rfl⟩ := run_checkPassword_ok distinctBefore accepted
    obtain ⟨⟨device, isNew⟩, seen, -, signed⟩ := run_bind_eq_ok.mp signed
    cases isNew with
    | false =>
        obtain ⟨issued, reached, -, returned⟩ := run_bind_eq_ok.mp signed
        cases (Prod.mk.inj returned).1
    | true =>
        obtain ⟨payload, _, token, same, names, sub⟩ := run_challenge_ok signed
        cases same
        have sameUser : user.id = account.id := by
          rw [sameAddress, counted] at isUser
          exact congrArg Credentials.id (Option.some.inj isUser).symm
        rw [challenged_login_shows_iff names answered created positive, sub, sameUser]

/-- A wrong password, the right one, and another wrong one before the code is submitted. -/
def slip : LoginArrival :=
  { input := { now := 0 }, dto := { email := "ada@example.com", password := "guess" } }

/-- A login with the right password. -/
def signIn : LoginArrival :=
  { input := { now := 1000 }, dto := { email := "ada@example.com", password := "correct" } }

/-- After the first wrong password. -/
def slippedWorld : World := slip.handle .defaults guessedWorld

/-- After a right and a wrong password more. -/
def submittedWorld : World := slip.handle .defaults (signIn.handle .defaults slippedWorld)

/-- The challenge of the slip. -/
def slipChallenge : Jwt where
  payload := .loginChallenge
    { sub := 1, deviceId := 2, method := .emailCode, codeHash := some ⟨"000000"⟩ }
  iat := 1
  exp := 601

/-- The answer to that challenge. -/
def answeredSlip : Except ApiError TokenPair × World :=
  (AuthService.verifyLogin .defaults ⟨slipChallenge, "000000"⟩ { rawDeviceId := "" }).run
    { now := 2000 } submittedWorld

theorem recent_failures_shown_between :
    ∃ session ∈ answeredSlip.2.sessions,
      session.ShowsFailures {} { now := 2000 } submittedWorld { rawDeviceId := "" } true 1 := by
  have failed : FailedChecks {} "ada@example.com" 1 guessedWorld slippedWorld :=
    .check (.refl _) slip (by decide +kernel) (by decide +kernel)
  obtain ⟨-, -, challenged⟩ := @recent_failures_shown_iff {} "ada@example.com" guessedWorld
    slippedWorld (List.nodup_singleton _) ⟨1, "ada@example.com", "correct", .active, {}⟩
    (by decide +kernel) rfl 1 failed (by decide) (by decide) signIn (by decide +kernel)
  have answered : answeredSlip = (.ok ⟨⟨.access { sub := 1, role := .user }, 2, 902⟩, 3,
      2000 + 30 * 86400000⟩, answeredSlip.2) := Prod.ext (by decide +kernel) rfl
  have stored : answeredSlip.2.sessions ≠ [] := by decide +kernel
  have created : Created submittedWorld answeredSlip.2 (answeredSlip.2.sessions.head stored) :=
    ⟨List.head_mem stored, show ∀ old ∈ submittedWorld.sessions, _ by
      have none : submittedWorld.sessions = [] := by decide +kernel
      rw [none]
      exact List.forall_mem_nil _⟩
  refine ⟨_, List.head_mem stored, ?_⟩
  exact (challenged .emailCode slipChallenge (by decide +kernel) _ _ _ _ _ _ _ answered
    created).mpr (by decide +kernel)

/-- The account once it has a session, on a known device. -/
def knownDeviceWorld : World :=
  { guessedWorld with
    devices := [{ id := 2, userId := 1, fingerprint := ⟨""⟩, lastSeenAt := 0 }]
    nextId := 3 }

/-- After one wrong password the login that follows on a known device creates a session
without any trace of it. -/
theorem recent_failures_forgotten :
    slip.check {} knownDeviceWorld = some ⟨0, false⟩ ∧
    (∃ tokens, signIn.outcome {} (slip.handle {} knownDeviceWorld) = .ok (.signedIn tokens)) ∧
    (signIn.handle {} (slip.handle {} knownDeviceWorld)).sessions.map (fun session =>
      (session.riskScore, session.riskSignals.bind (·.recentFailedLogins))) = [(0, none)] :=
  ⟨by decide +kernel, ⟨_, rfl⟩, by decide +kernel⟩

end ConferenceContact
