import ConferenceContact.Auth.TokenRequests

/-!
# Tokens and sessions of active accounts

`login`, `refresh` and `impersonateUser` look at the status of the account they
issue something to.  `verifyLogin` does not: a challenge mailed to an active
account is still honoured once the account is suspended or deleted.
-/

namespace ConferenceContact

open Process

/-- What may be issued to some users may be issued to more. -/
theorem TokenStore.IssuesOnly.mono
    {fewer more : UserId → Prop}
    {before after : TokenStore}
    (issues : IssuesOnly fewer before after)
    (implies : ∀ userId, fewer userId → more userId) :
    IssuesOnly more before after := by
  obtain ⟨⟨tokens, signed, allowed⟩, ⟨sessions, created, owned⟩⟩ := issues
  refine ⟨⟨tokens, signed, ?_⟩, ⟨sessions, created, ?_⟩⟩
  · exact fun token present payload access =>
      implies _ (allowed token present payload access)
  · exact fun session present => implies _ (owned session present)

namespace AccountArrival

/-- Every access token and every session a request issues is for a user whose
account is active at that moment. -/
def IssuesToActive (app : Deployment) (world : World) (arrival : AccountArrival) : Prop :=
  TokenStore.IssuesOnly world.Active world.tokens (arrival.step app world).tokens

/-- A challenge is answered with its right code only while the account it names
is active. -/
def AnswersWhileActive
    (app : Deployment)
    (world : World)
    (arrival : AccountArrival) : Prop :=
  ∀ dto requestMeta user payload,
    arrival.request = .auth (.verifyLogin dto requestMeta) →
      AnswersChallenge app dto arrival.input world user payload →
        user.status = .active

/-- Only the answer to a challenge can issue something to an inactive account. -/
theorem issuesToActive
    {app : Deployment}
    {world : World}
    {arrival : AccountArrival}
    (answers : arrival.AnswersWhileActive app world) :
    arrival.IssuesToActive app world := by
  refine (TokenStore.Steps.issuesOnly (arrival.moves app world)).mono fun userId allowed => ?_
  rcases arrival with ⟨input, request, rejected⟩
  cases request with
  | impersonateUser adminUserId targetUserId => exact allowed
  | deleteAccount => cases allowed
  | auth request =>
  cases request with
  | login dto requestMeta => exact allowed
  | refresh rawToken => exact allowed
  | verifyLogin dto requestMeta =>
      obtain ⟨user, payload, answered, rfl⟩ := allowed
      exact ⟨user, answered.stored, rfl, answers dto requestMeta user payload rfl answered⟩
  | _ => cases allowed

end AccountArrival

/-- In a run whose challenges are answered only while their accounts are active,
nothing is ever issued to an account that is not. -/
theorem issued_only_while_active
    (app : Deployment)
    {start : World}
    {arrivals : List AccountArrival}
    (answers : Along (AccountArrival.step app)
      (fun world arrival => arrival.AnswersWhileActive app world) start arrivals) :
    Along (AccountArrival.step app)
      (fun world arrival => arrival.IssuesToActive app world) start arrivals :=
  answers.weaken (fun _ => True) (fun _ _ _ _ => trivial)
    (fun _ _ _ answers => AccountArrival.issuesToActive answers) trivial

/-- A login from a new device, and the answer to its challenge. -/
def sampleAnsweredRun : List AccountArrival :=
  [{ input := { now := 0 }, request := .auth (sampleLogin "laptop") },
    { input := { now := 1000 }, request := .auth (sampleVerifyLogin "laptop" 0) }]

theorem issued_only_while_active_answered :
    Along (AccountArrival.step sampleApp)
      (fun world arrival => arrival.IssuesToActive sampleApp world) sampleWorld
      sampleAnsweredRun := by
  refine issued_only_while_active sampleApp ⟨?_, ?_, trivial⟩
  · rintro dto requestMeta user payload ⟨⟩
  · intro dto requestMeta user payload _ answered
    have active : ∀ user ∈ (AccountArrival.step sampleApp sampleWorld
        ⟨{ now := 0 }, .auth (sampleLogin "laptop"), none⟩).users,
        user.status = .active := by
      decide
    exact active user answered.stored

/-- The same with the account suspended in between. -/
def sampleSuspendedRun : List AccountArrival :=
  [{ input := { now := 0 }, request := .auth (sampleLogin "laptop") },
    { input := { now := 500 }, request := .auth (.suspendUser 1 0) },
    { input := { now := 1000 }, request := .auth (sampleVerifyLogin "laptop" 0) }]

/-- The challenge still yields a session after the suspension. -/
theorem suspended_account_signs_in :
    ¬Along (AccountArrival.step sampleApp)
      (fun world arrival => arrival.IssuesToActive sampleApp world) sampleWorld
      sampleSuspendedRun := by
  rintro ⟨-, -, ⟨-, issued, created, active⟩, -⟩
  have opened : ((sampleSuspendedRun.foldl (AccountArrival.step sampleApp)
      sampleWorld).tokens.sessions.map (·.2)) = [0] := by
    decide
  have unopened : ((sampleSuspendedRun.take 2).foldl (AccountArrival.step sampleApp)
      sampleWorld).tokens.sessions = [] := by
    decide
  have new : issued.map (·.2) = [0] := by
    rw [← opened, ← List.append_nil issued, ← unopened]
    exact congrArg (List.map (·.2)) created.symm
  obtain ⟨session, present, owner⟩ : ∃ session ∈ issued, session.2 = 0 := by
    have first : 0 ∈ issued.map (·.2) := by
      rw [new]
      exact List.mem_singleton_self 0
    exact List.mem_map.mp first
  obtain ⟨user, stored, named, isActive⟩ := active session present
  have suspended : ∀ user ∈ ((sampleSuspendedRun.take 2).foldl
      (AccountArrival.step sampleApp) sampleWorld).users, user.status ≠ .active := by
    decide
  exact suspended user stored isActive

end ConferenceContact
