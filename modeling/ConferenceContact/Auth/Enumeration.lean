import ConferenceContact.Auth.LoginAttempts

/-!
# What wrong passwords reveal

The answers to logins with wrong passwords, and when they are the answers for an address
that has no account.
-/

namespace ConferenceContact

open Process

variable {app : Deployment} {world : World} {arrival : LoginArrival}

/-- The answer to a wrong password. -/
theorem outcome_wrong
    (distinct : world.DistinctUsers)
    (wrong : ∀ account, world.account (arrival.address app) = some account →
      app.argon2Verify account.passwordHash arrival.dto.password = false) :
    arrival.outcome app world =
      .error (match world.account (arrival.address app) with
        | none => AuthService.genericError
        | some account => account.refusal app arrival.input.now) := by
  unfold LoginArrival.outcome LoginArrival.address at *
  rw [login_eq, run_bind, run_checkPassword distinct]
  rw [account_eq] at wrong ⊢
  cases found : world.users.find? fun user =>
      user.email = UsersService.normalizeEmail app arrival.dto.email with
  | none => rfl
  | some user =>
      rw [found] at wrong
      have fails := wrong user.credentials rfl
      dsimp only [Option.map_some]
      unfold Credentials.check
      by_cases refused : user.credentials.lockout.locked arrival.input.now = true ∨
          user.credentials.status ≠ .active
      · rw [if_pos refused]
      · rw [if_neg refused, fails]

/-- An answer that an address without an account is given too. -/
theorem refusal_eq_genericError_iff {account : Credentials} {now : Time} :
    account.refusal app now = AuthService.genericError ↔
      account.status = .active ∧ account.lockout.locked now = false ∧
        account.lockout.failures + 1 < app.loginMaxAttempts := by
  unfold Credentials.refusal
  by_cases locked : account.lockout.locked now = true
  · rw [if_pos locked]
    refine iff_of_false (by decide) ?_
    rintro ⟨-, unlocked, -⟩
    exact Bool.false_ne_true (unlocked.symm.trans locked)
  rw [if_neg locked]
  by_cases active : account.status = .active
  · rw [if_neg fun inactive => inactive active]
    by_cases locks : app.loginMaxAttempts ≤ account.lockout.failures + 1
    · rw [if_pos locks]
      refine iff_of_false (by decide) ?_
      rintro ⟨-, -, room⟩
      omega
    · rw [if_neg locks]
      exact iff_of_true rfl
        ⟨active, Bool.eq_false_iff.mpr locked, Nat.lt_of_not_le locks⟩
  · rw [if_pos active]
    refine iff_of_false (by decide) ?_
    rintro ⟨isActive, -, -⟩
    exact active isActive

/-- The account answers wrong passwords as if it were not there: it is active, no attempt
falls into a lock, and the attempts do not bring on one. -/
def Credentials.Unremarkable
    (app : Deployment)
    (account : Credentials)
    (arrivals : List LoginArrival) : Prop :=
  arrivals = [] ∨
    account.status = .active ∧
      (∀ arrival ∈ arrivals, account.lockout.locked arrival.input.now = false) ∧
      account.lockout.failures + arrivals.length < app.loginMaxAttempts

/-- A wrong password that does not lock an account is counted. -/
theorem tried_wrong
    {account : Credentials}
    {now : Time}
    {password : String}
    (active : account.status = .active)
    (unlocked : account.lockout.locked now = false)
    (room : account.lockout.failures + 1 < app.loginMaxAttempts)
    (wrong : app.argon2Verify account.passwordHash password = false) :
    account.tried app now password =
      { account with
        lockout := { account.lockout with failures := account.lockout.failures + 1 } } := by
  unfold Credentials.tried Lockout.attempt Lockout.settle
  rw [if_pos active, if_neg (by simpa using unlocked), wrong, if_neg Bool.false_ne_true,
    if_neg (Nat.not_le_of_lt room)]

/-- What the counter of an account adds to its first attempt. -/
theorem unremarkable_cons_iff {account : Credentials} {later : List LoginArrival} :
    account.Unremarkable app (arrival :: later) ↔
      account.refusal app arrival.input.now = AuthService.genericError ∧
        { account with
          lockout :=
            { account.lockout with
              failures := account.lockout.failures + 1 } }.Unremarkable app later := by
  rw [refusal_eq_genericError_iff]
  unfold Credentials.Unremarkable
  rw [List.forall_mem_cons, List.length_cons]
  constructor
  · rintro (empty | ⟨active, ⟨first, others⟩, room⟩)
    · cases empty
    · exact ⟨⟨active, first, by omega⟩, .inr ⟨active, others, by dsimp only; omega⟩⟩
  · rintro ⟨⟨active, first, room⟩, rfl | ⟨-, others, rest⟩⟩
    · refine .inr ⟨active, ⟨first, List.forall_mem_nil _⟩, ?_⟩
      rw [List.length_nil]
      omega
    · dsimp only at rest
      exact .inr ⟨active, ⟨first, others⟩, by omega⟩

/-- An address without an account gives one answer throughout. -/
theorem loginOutcomes_absent
    {email : String}
    {arrivals : List LoginArrival}
    (distinct : world.DistinctUsers)
    (sameAddress : ∀ arrival ∈ arrivals, arrival.address app = email)
    (absent : world.account email = none) :
    loginOutcomes app world arrivals = arrivals.map fun _ => .error AuthService.genericError := by
  induction arrivals generalizing world with
  | nil => rfl
  | cons arrival later inductionHypothesis =>
      have here : arrival.address app = email := sameAddress arrival List.mem_cons_self
      subst here
      have after := @handle_account app world arrival distinct
      rw [absent, Option.map_none] at after
      have answer : arrival.outcome app world = .error AuthService.genericError := by
        rw [outcome_wrong distinct (by simp [absent]), absent]
      rw [loginOutcomes, List.map_cons, answer]
      congr 1
      exact inductionHypothesis (handle_distinct distinct)
        (fun other present => sameAddress other (List.mem_cons_of_mem _ present)) after

/-- An account gives that answer throughout exactly if it is unremarkable. -/
theorem loginOutcomes_present_iff
    {email : String}
    {arrivals : List LoginArrival}
    (distinct : world.DistinctUsers)
    (sameAddress : ∀ arrival ∈ arrivals, arrival.address app = email)
    {account : Credentials}
    (isAccount : world.account email = some account)
    (wrong : ∀ arrival ∈ arrivals,
      app.argon2Verify account.passwordHash arrival.dto.password = false) :
    (loginOutcomes app world arrivals =
        arrivals.map fun _ => .error AuthService.genericError) ↔
      account.Unremarkable app arrivals := by
  induction arrivals generalizing world account with
  | nil => exact iff_of_true rfl (.inl rfl)
  | cons arrival later inductionHypothesis =>
      have here : arrival.address app = email := sameAddress arrival List.mem_cons_self
      subst here
      have fails := wrong arrival List.mem_cons_self
      have answer : arrival.outcome app world =
          .error (account.refusal app arrival.input.now) := by
        rw [outcome_wrong distinct (by rw [isAccount]; rintro _ ⟨⟩; exact fails), isAccount]
      rw [unremarkable_cons_iff, loginOutcomes, List.map_cons, List.cons.injEq, answer,
        Except.error.injEq]
      refine and_congr_right fun generic => ?_
      obtain ⟨active, unlocked, room⟩ := refusal_eq_genericError_iff.mp generic
      have after := @handle_account app world arrival distinct
      rw [isAccount, Option.map_some, tried_wrong active unlocked room fails] at after
      exact inductionHypothesis (handle_distinct distinct)
        (fun other present => sameAddress other (List.mem_cons_of_mem _ present)) after
        fun other present => wrong other (List.mem_cons_of_mem _ present)

/-- Wrong passwords are answered as for an address without an account exactly if the
account, if there is one, is unremarkable. -/
theorem wrong_password_answers_alike_iff
    {present absent : World}
    (distinctPresent : present.DistinctUsers)
    (distinctAbsent : absent.DistinctUsers)
    {email : String}
    {arrivals : List LoginArrival}
    (sameAddress : ∀ arrival ∈ arrivals, arrival.address app = email)
    (wrong : ∀ account, present.account email = some account → ∀ arrival ∈ arrivals,
      app.argon2Verify account.passwordHash arrival.dto.password = false)
    (missing : absent.account email = none) :
    loginOutcomes app present arrivals = loginOutcomes app absent arrivals ↔
      ∀ account, present.account email = some account →
        account.Unremarkable app arrivals := by
  rw [loginOutcomes_absent distinctAbsent sameAddress missing]
  cases isAccount : present.account email with
  | none =>
      exact iff_of_true (loginOutcomes_absent distinctPresent sameAddress isAccount) nofun
  | some account =>
      rw [loginOutcomes_present_iff distinctPresent sameAddress isAccount
        (wrong account isAccount)]
      constructor
      · rintro unremarkable _ ⟨⟩
        exact unremarkable
      · intro all
        exact all account rfl

theorem wrong_password_answers_alike_guessed :
    loginOutcomes {} guessedWorld (guesses.take 4) = loginOutcomes {} {} (guesses.take 4) :=
  (@wrong_password_answers_alike_iff {} guessedWorld {} (List.nodup_singleton _) List.nodup_nil
    "ada@example.com" (guesses.take 4) (by decide +kernel)
    (by rintro _ ⟨⟩; decide +kernel) rfl).mpr
    (by rintro _ ⟨⟩; exact .inr (by decide +kernel))

/-- The fifth wrong password is answered otherwise where there is an account. -/
theorem wrong_password_answers_differ :
    (∀ arrival ∈ guesses, arrival.address {} = "ada@example.com" ∧
      ∀ account, guessedWorld.account "ada@example.com" = some account →
        Deployment.argon2Verify {} account.passwordHash arrival.dto.password = false) ∧
    (loginOutcomes {} guessedWorld guesses)[4]? = some (.error AuthService.lockingError) ∧
    (loginOutcomes {} {} guesses)[4]? = some (.error AuthService.genericError) := by
  refine ⟨?_, ?_, ?_⟩ <;> decide +kernel

end ConferenceContact
