import ConferenceContact.Auth.PasswordChecks

/-!
# Runs of login requests

Login requests handled one after the other, and what they do to the account they are
for.  The password checks among them are those its lockout lets through.
-/

namespace ConferenceContact

open Process

/-- A login request, and what its calls read besides the world. -/
structure LoginArrival where
  input : Input
  dto : LoginDto
  requestMeta : RequestMeta := { rawDeviceId := "" }

namespace LoginArrival

variable (app : Deployment) (arrival : LoginArrival)

/-- The address the account is looked up by. -/
def address : String := UsersService.normalizeEmail app arrival.dto.email

/-- The state once a login has been handled. -/
def handle (world : World) : World :=
  ((AuthService.login app arrival.dto arrival.requestMeta).run arrival.input world).2

/-- What the client is answered. -/
def outcome (world : World) : Except ApiError LoginResult :=
  ((AuthService.login app arrival.dto arrival.requestMeta).run arrival.input world).1

/-- The check of the password, if there is one: a right password is let through and a
wrong one is recorded. -/
def check (world : World) : Option LockoutAttempt :=
  match (AuthService.checkPassword app arrival.dto).run arrival.input world with
  | (.ok _, _) => some ⟨arrival.input.now, true⟩
  | (.error _, after) =>
      if after.auditLogs = world.auditLogs then none else some ⟨arrival.input.now, false⟩

end LoginArrival

/-- The password checks of a run. -/
def passwordChecks (app : Deployment) : World → List LoginArrival → List LockoutAttempt
  | _, [] => []
  | world, arrival :: later =>
      (arrival.check app world).toList ++ passwordChecks app (arrival.handle app world) later

/-- The answers of a run. -/
def loginOutcomes (app : Deployment) :
    World → List LoginArrival → List (Except ApiError LoginResult)
  | _, [] => []
  | world, arrival :: later =>
      arrival.outcome app world :: loginOutcomes app (arrival.handle app world) later

variable {app : Deployment} {input : Input} {world : World} {arrival : LoginArrival}

/-! ## One login -/

/-- What a login does once the password is right. -/
def AuthService.signIn
    (app : Deployment)
    (requestMeta : RequestMeta)
    (user : User) : Service LoginResult := do
  let (device, isNew) ← DevicesService.findOrCreateDevice user.id
    (hashDeviceId requestMeta.rawDeviceId)
  if isNew then
    AuthService.challenge user device
  else
    let tokenPair ← AuthService.issueTokenPair app user.id device.id requestMeta false
    return .signedIn tokenPair

theorem login_eq (dto : LoginDto) (requestMeta : RequestMeta) :
    AuthService.login app dto requestMeta =
      AuthService.checkPassword app dto >>= AuthService.signIn app requestMeta := rfl

theorem sameCredentials_signIn (requestMeta : RequestMeta) (user : User) :
    (AuthService.signIn app requestMeta user).Respects SameCredentials := by
  refine Respects.bind (sameCredentials_findOrCreateDevice _ _) fun found => ?_
  refine Respects.ite (sameCredentials_challenge _ _) ?_
  exact Respects.bind (sameCredentials_issueTokenPair _ _ _ _) fun _ => Respects.pure _

/-- A login does to the accounts what the check of its password does. -/
theorem handle_credentials :
    (arrival.handle app world).credentials =
      ((AuthService.checkPassword app arrival.dto).run arrival.input world).2.credentials := by
  unfold LoginArrival.handle
  rw [login_eq, run_bind]
  rcases (AuthService.checkPassword app arrival.dto).run arrival.input world with
    ⟨result, after⟩
  cases result with
  | error error => rfl
  | ok user => exact (sameCredentials_signIn arrival.requestMeta user).run arrival.input after

/-- The account with an address once a row found by it is rewritten. -/
theorem account_rewriteUser
    {email : String}
    {user : User}
    {rewrite : User → User}
    (found : (world.users.find? fun user => user.email = email) = some user)
    (sameEmail : ∀ row, (rewrite row).email = row.email) :
    (world.rewriteUser user.id rewrite).account email = some (rewrite user).credentials := by
  unfold World.rewriteUser
  rw [account_eq]
  dsimp only
  rw [Table.find?_updateWhere User.email _ _ _ _ sameEmail, found]
  simp

/-- The ids of the accounts. -/
theorem distinct_of_credentials
    {before after : World}
    (distinct : before.DistinctUsers)
    (sameIds : after.credentials.map (·.id) = before.credentials.map (·.id)) :
    after.DistinctUsers := by
  unfold World.DistinctUsers
  unfold World.credentials at sameIds
  rw [List.map_map, List.map_map] at sameIds
  exact sameIds ▸ distinct

theorem distinct_rewriteUser
    {id : UserId}
    {rewrite : User → User}
    (distinct : world.DistinctUsers)
    (sameId : ∀ row, (rewrite row).id = row.id) :
    (world.rewriteUser id rewrite).DistinctUsers := by
  unfold World.DistinctUsers World.rewriteUser
  rw [Table.map_updateWhere _ _ _ _ sameId]
  exact distinct

/-- The accounts keep their ids. -/
theorem handle_distinct (distinct : world.DistinctUsers) :
    (arrival.handle app world).DistinctUsers := by
  have checked :
      ((AuthService.checkPassword app arrival.dto).run arrival.input world).2.DistinctUsers := by
    rw [run_checkPassword distinct]
    split
    · exact distinct
    · split
      · exact distinct
      · exact distinct_rewriteUser distinct fun _ => rfl
      · refine distinct_rewriteUser distinct fun row => ?_
        split <;> rfl
  exact distinct_of_credentials checked (congrArg _ handle_credentials)

/-- The account that a login is for, after it. -/
theorem handle_account (distinct : world.DistinctUsers) :
    (arrival.handle app world).account (arrival.address app) =
      (world.account (arrival.address app)).map
        (Credentials.tried app arrival.input.now arrival.dto.password) := by
  unfold World.account
  rw [handle_credentials]
  show World.account _ _ = Option.map _ (World.account _ _)
  rw [run_checkPassword distinct]
  cases found : world.users.find? fun user =>
      user.email = UsersService.normalizeEmail app arrival.dto.email with
  | none =>
      have absent : world.account (arrival.address app) = none := by
        rw [account_eq]
        exact congrArg (Option.map _) found
      rw [absent]
      rfl
  | some user =>
      have present : world.account (arrival.address app) = some user.credentials := by
        rw [account_eq]
        exact congrArg (Option.map _) found
      rw [present, Option.map_some]
      dsimp only
      unfold Credentials.check Credentials.tried Lockout.attempt
      by_cases locked : user.credentials.lockout.locked arrival.input.now = true
      · rw [if_pos (.inl locked), if_pos locked, ite_self]
        exact present
      by_cases active : user.credentials.status = .active
      · rw [if_neg fun refused => refused.elim locked fun inactive => inactive active,
          if_pos active, if_neg locked]
        unfold Lockout.settle
        cases right : app.argon2Verify user.credentials.passwordHash arrival.dto.password with
        | true => exact account_rewriteUser found fun _ => rfl
        | false =>
            dsimp only
            by_cases locks : app.loginMaxAttempts ≤ user.failedLoginCount + 1
            · rw [if_pos locks, if_neg Bool.false_ne_true,
                if_pos (show app.loginMaxAttempts ≤ user.credentials.lockout.failures + 1
                  from locks)]
              exact account_rewriteUser found fun _ => rfl
            · rw [if_neg locks, if_neg Bool.false_ne_true,
                if_neg (show ¬app.loginMaxAttempts ≤ user.credentials.lockout.failures + 1
                  from locks)]
              exact account_rewriteUser found fun _ => rfl
      · rw [if_pos (.inr active), if_neg active]
        exact present

/-- The check a login makes is the one its account admits. -/
theorem check_eq (distinct : world.DistinctUsers) :
    arrival.check app world =
      (world.account (arrival.address app)).bind fun account =>
        (account.check app arrival.input.now arrival.dto.password).map fun right =>
          ⟨arrival.input.now, right⟩ := by
  unfold LoginArrival.check LoginArrival.address
  rw [run_checkPassword distinct, account_eq]
  cases world.users.find? fun user =>
      user.email = UsersService.normalizeEmail app arrival.dto.email with
  | none => exact if_pos rfl
  | some user =>
      dsimp only [Option.map_some, Option.bind_some]
      cases user.credentials.check app arrival.input.now arrival.dto.password with
      | none => exact if_pos rfl
      | some right =>
          cases right with
          | true => rfl
          | false => exact if_neg (List.cons_ne_self _ _)

/-! ## Runs -/

/-- A login for an account that stays as it is but for its lockout. -/
theorem check_eq_of_account
    (distinct : world.DistinctUsers)
    {account : Credentials}
    (isAccount : world.account (arrival.address app) = some account)
    (active : account.status = .active) :
    (arrival.check app world).toList =
      if account.lockout.locked arrival.input.now then []
      else [⟨arrival.input.now, app.argon2Verify account.passwordHash arrival.dto.password⟩] := by
  rw [check_eq distinct, isAccount, Option.bind_some]
  unfold Credentials.check
  by_cases locked : account.lockout.locked arrival.input.now = true
  · rw [if_pos (.inl locked), if_pos locked]
    rfl
  · rw [if_neg fun refused => refused.elim locked fun inactive => inactive active,
      if_neg locked]
    rfl

/-- The password checks of a run are those the lockout of the account lets through. -/
theorem passwordChecks_eq
    {email : String}
    {arrivals : List LoginArrival}
    (distinct : world.DistinctUsers)
    (sameAddress : ∀ arrival ∈ arrivals, arrival.address app = email)
    {account : Credentials}
    (isAccount : world.account email = some account)
    (active : account.status = .active) :
    passwordChecks app world arrivals =
      Lockout.admitted app.loginMaxAttempts (app.loginLockoutMinutes * 60000) account.lockout
        (arrivals.map fun arrival =>
          ⟨arrival.input.now,
            app.argon2Verify account.passwordHash arrival.dto.password⟩) := by
  induction arrivals generalizing world account with
  | nil => rfl
  | cons arrival later inductionHypothesis =>
      have here : arrival.address app = email := sameAddress arrival List.mem_cons_self
      subst here
      have after := @handle_account app world arrival distinct
      rw [isAccount, Option.map_some] at after
      unfold Credentials.tried at after
      rw [if_pos active] at after
      rw [passwordChecks, List.map_cons, Lockout.admitted,
        check_eq_of_account distinct isAccount active]
      congr 1
      exact inductionHypothesis (handle_distinct distinct)
        (fun other present => sameAddress other (List.mem_cons_of_mem _ present)) after active

/-- An account that is not there or not active makes no login check a password. -/
theorem passwordChecks_eq_nil
    {email : String}
    {arrivals : List LoginArrival}
    (distinct : world.DistinctUsers)
    (sameAddress : ∀ arrival ∈ arrivals, arrival.address app = email)
    (inactive : ∀ account, world.account email = some account → account.status ≠ .active) :
    passwordChecks app world arrivals = [] := by
  induction arrivals generalizing world with
  | nil => rfl
  | cons arrival later inductionHypothesis =>
      have here : arrival.address app = email := sameAddress arrival List.mem_cons_self
      subst here
      have unchecked : arrival.check app world = none := by
        rw [check_eq distinct]
        cases isAccount : world.account (arrival.address app) with
        | none => rfl
        | some account =>
            rw [Option.bind_some]
            unfold Credentials.check
            rw [if_pos (.inr (inactive account isAccount))]
            rfl
      have after := @handle_account app world arrival distinct
      rw [passwordChecks, unchecked, Option.toList_none, List.nil_append]
      refine inductionHypothesis (handle_distinct distinct)
        (fun other present => sameAddress other (List.mem_cons_of_mem _ present)) ?_
      intro account isAccount
      rw [after] at isAccount
      obtain ⟨before, isBefore, rfl⟩ := Option.map_eq_some_iff.mp isAccount
      have refused := inactive before isBefore
      unfold Credentials.tried
      rw [if_neg refused]
      exact refused

/-- A locked account answers every password alike, and looks at none. -/
theorem login_locked
    (distinct : world.DistinctUsers)
    {account : Credentials}
    (isAccount : world.account (arrival.address app) = some account)
    (locked : account.lockout.locked arrival.input.now = true) :
    (AuthService.login app arrival.dto arrival.requestMeta).run arrival.input world =
      (.error AuthService.lockedError, world) := by
  rw [login_eq, run_bind, run_checkPassword distinct]
  unfold LoginArrival.address at isAccount
  rw [account_eq] at isAccount
  obtain ⟨user, found, rfl⟩ := Option.map_eq_some_iff.mp isAccount
  rw [found]
  dsimp only
  have unchecked : user.credentials.check app arrival.input.now arrival.dto.password = none :=
    if_pos (.inl locked)
  have refused : user.credentials.refusal app arrival.input.now = AuthService.lockedError :=
    if_pos locked
  rw [unchecked, refused]

/-- No two accounts share an id at any point of a run. -/
theorem distinct_foldl
    (distinct : world.DistinctUsers)
    (arrivals : List LoginArrival) :
    (arrivals.foldl (fun world arrival => arrival.handle app world) world).DistinctUsers := by
  induction arrivals generalizing world with
  | nil => exact distinct
  | cons arrival later inductionHypothesis =>
      exact inductionHypothesis (handle_distinct distinct)

/-- In a run of logins for one account, no stretch of time as long as a lock sees more
failed checks than the limit unless one succeeds in it; and no password, and no way of
verifying it, makes a difference while the account is locked. -/
theorem password_guesses_bounded
    (distinct : world.DistinctUsers)
    {email : String}
    {arrivals : List LoginArrival}
    (sameAddress : ∀ arrival ∈ arrivals, arrival.address app = email)
    (sorted : arrivals.Pairwise fun earlier later => earlier.input.now ≤ later.input.now) :
    (∀ start,
      (∀ check ∈ passwordChecks app world arrivals,
        start ≤ check.now → check.now < start + app.loginLockoutMinutes * 60000 →
          check.right = false) →
      ((passwordChecks app world arrivals).filter fun check =>
        start ≤ check.now ∧ check.now < start + app.loginLockoutMinutes * 60000).length ≤
          app.loginMaxAttempts) ∧
    (∀ earlier arrival later, arrivals = earlier ++ arrival :: later →
      let reached := earlier.foldl (fun world arrival => arrival.handle app world) world
      ∀ account, reached.account email = some account →
        account.lockout.locked arrival.input.now = true →
        arrival.check app reached = none ∧
        ∀ password verify,
          (AuthService.login { app with argon2Verify := verify }
              { arrival.dto with password } arrival.requestMeta).run arrival.input reached =
            (AuthService.login app arrival.dto arrival.requestMeta).run arrival.input
              reached) := by
  constructor
  · intro start fails
    have sameFilter : ((passwordChecks app world arrivals).filter fun check =>
        decide (start ≤ check.now ∧ check.now < start + app.loginLockoutMinutes * 60000)) =
          (passwordChecks app world arrivals).filter
            (Lockout.during start (app.loginLockoutMinutes * 60000)) :=
      List.filter_congr fun check _ => Bool.decide_and _ _
    rw [sameFilter]
    by_cases active : ∃ account, world.account email = some account ∧ account.status = .active
    · obtain ⟨account, isAccount, active⟩ := active
      rw [passwordChecks_eq distinct sameAddress isAccount active] at fails ⊢
      refine Lockout.failures_le app.one_le_loginMaxAttempts ?_ ?_
      · rw [List.pairwise_map]
        exact sorted
      · intro check selected
        obtain ⟨present, within⟩ := List.mem_filter.mp selected
        simp only [Lockout.during, Bool.and_eq_true, decide_eq_true_eq] at within
        exact fails check present within.1 within.2
    · rw [passwordChecks_eq_nil distinct sameAddress]
      · exact Nat.zero_le _
      · intro account isAccount isActive
        exact active ⟨account, isAccount, isActive⟩
  · rintro earlier arrival later rfl reached account isAccount locked
    have distinctReached : reached.DistinctUsers := distinct_foldl distinct earlier
    have here : arrival.address app = email :=
      sameAddress arrival (List.mem_append_right _ List.mem_cons_self)
    subst here
    constructor
    · rw [check_eq distinctReached, isAccount, Option.bind_some]
      unfold Credentials.check
      rw [if_pos (.inl locked)]
      rfl
    · intro password verify
      rw [login_locked distinctReached isAccount locked]
      exact @login_locked { app with argon2Verify := verify } reached
        { arrival with dto := { arrival.dto with password } } distinctReached account isAccount
        locked

/-- An account, and six guesses at its password in one minute. -/
def guessedWorld : World :=
  { users := [{ id := 1, email := "ada@example.com", passwordHash := "correct" }], nextId := 2 }

/-- Six guesses within a minute. -/
def guesses : List LoginArrival :=
  [0, 10000, 20000, 30000, 40000, 50000].map fun now =>
    { input := { now }, dto := { email := "ada@example.com", password := "guess" } }

theorem password_guesses_bounded_six :
    ((passwordChecks {} guessedWorld guesses).filter fun check =>
      0 ≤ check.now ∧ check.now < 0 + 15 * 60000).length ≤ 5 :=
  (@password_guesses_bounded {} guessedWorld (List.nodup_singleton _) "ada@example.com" guesses
    (by decide +kernel) (by decide +kernel)).1 0 (by decide +kernel)

end ConferenceContact
