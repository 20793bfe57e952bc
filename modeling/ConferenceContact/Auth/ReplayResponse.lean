import ConferenceContact.Auth.DeviceChallenge

/-!
# Presenting a refresh token again

What a refresh does with the token of a stored session, in every state a run
can reach: it rotates the session or, shortly after its rotation, the successor;
and any other revoked token ends every session of its user.
-/

namespace ConferenceContact

open Process

/-- The live session that the token of `session` may still be exchanged for:
itself, or its successor shortly after its rotation. -/
def ExchangesFor (now : Time) (session target : Session) : Prop :=
  (session.live now ∧ target = session) ∨
    ∃ revokedAt ∈ session.revokedAt,
      now - revokedAt ≤ concurrentRefreshGraceSeconds * 1000 ∧
        session.replacedByTokenId = some target.id ∧
        target.live now

instance (now : Time) (session target : Session) :
    Decidable (ExchangesFor now session target) :=
  inferInstanceAs (Decidable (_ ∨ _))

/-- The world a refresh leaves. -/
def refreshed
    (app : Deployment)
    (rawToken : RawToken)
    (input : Input)
    (world : World) : World :=
  ((AuthService.refresh app rawToken).run input world).2

variable {app : Deployment} {input : Input} {world : World}

/-- A rewriting of rows that keeps their identifiers creates nothing. -/
theorem not_created_of_ids_eq
    {before after : World}
    (sameIds : after.sessions.map (·.id) = before.sessions.map (·.id))
    (session : Session) :
    ¬ Created before after session := by
  rintro ⟨present, new⟩
  have listed : session.id ∈ before.sessions.map (·.id) := by
    rw [← sameIds]
    exact List.mem_map_of_mem present
  obtain ⟨old, stored, equal⟩ := List.mem_map.mp listed
  exact new old stored equal

theorem ids_updateWhere_revoke
    (now : Time)
    (condition : Session → Bool)
    (sessions : List Session) :
    (Table.updateWhere condition (Session.revoke now) sessions).map (·.id) =
      sessions.map (·.id) :=
  Table.map_updateWhere _ _ _ _ fun _ => rfl

/-- After every session of a user is ended, none of them is unrevoked. -/
theorem revokedAt_isSome_of_revokeUserSessions
    {now : Time}
    {user : UserId}
    {sessions : List Session}
    {row : Session}
    (present : row ∈ revokeUserSessions now user sessions)
    (ofUser : row.userId = user) :
    row.revokedAt.isSome := by
  obtain ⟨before, -, rfl⟩ := Table.mem_updateWhere.mp present
  split at ofUser
  · rw [if_pos ‹_›]
    rfl
  · rw [if_neg ‹_›]
    rename_i kept
    have unselected : ¬ (before.userId = user ∧ before.revokedAt = none) := by
      simpa using kept
    exact Option.isSome_iff_ne_none.mpr fun unrevoked => unselected ⟨ofUser, unrevoked⟩

theorem not_live_of_revoked
    {session : Session}
    (revoked : session.revokedAt.isSome)
    (time : Time) :
    session.live time = false := by
  obtain ⟨revokedAt, ended⟩ := Option.isSome_iff_exists.mp revoked
  simp [Session.live, ended]

/-- In a consistent store the row a session names as its successor is the one
its identifier finds. -/
theorem graceSuccessor_of_exchange
    (consistent : world.store.Consistent)
    {now revokedAt : Time}
    {session target : Session}
    (targetPresent : target ∈ world.sessions)
    (revoked : session.revokedAt = some revokedAt)
    (recent : now - revokedAt ≤ concurrentRefreshGraceSeconds * 1000)
    (linked : session.replacedByTokenId = some target.id)
    (live : target.live now) :
    graceSuccessor now world.sessions session = some target :=
  graceSuccessor_eq_some.mpr ⟨revokedAt, target.id, revoked, linked, recent,
    Table.find?_key_eq_some consistent.idsDistinct targetPresent, live⟩

/-- What a refresh may be exchanged for is what it rotates. -/
theorem refreshTarget_of_exchange
    (consistent : world.store.Consistent)
    {now : Time}
    {rawToken : RawToken}
    {session target : Session}
    (present : session ∈ world.sessions)
    (token : session.tokenHash = ⟨rawToken⟩)
    (targetPresent : target ∈ world.sessions)
    (exchanges : ExchangesFor now session target) :
    refreshTarget now rawToken world.sessions = .rotate target := by
  rw [refreshTarget_of_mem consistent now present token]
  rcases exchanges with ⟨live, rfl⟩ | ⟨revokedAt, revoked, recent, linked, live⟩
  · rw [if_pos live]
  · have ended := not_live_of_revoked (by rw [revoked]; rfl) now
    rw [ended, graceSuccessor_of_exchange consistent targetPresent revoked recent
      linked live]
    rfl

/-- Conversely a rotated session is one the token may be exchanged for. -/
theorem exchange_of_refreshTarget
    (consistent : world.store.Consistent)
    {now : Time}
    {rawToken : RawToken}
    {session target : Session}
    (present : session ∈ world.sessions)
    (token : session.tokenHash = ⟨rawToken⟩)
    (rotates : refreshTarget now rawToken world.sessions = .rotate target) :
    target ∈ world.sessions ∧ ExchangesFor now session target := by
  refine ⟨(refreshTarget_rotate rotates).1, ?_⟩
  rw [refreshTarget_of_mem consistent now present token] at rotates
  by_cases live : session.live now
  · rw [if_pos live] at rotates
    cases rotates
    exact .inl ⟨live, rfl⟩
  · rw [if_neg live] at rotates
    split at rotates
    · cases rotates
      obtain ⟨revokedAt, successorId, revoked, linked, recent, found, liveSuccessor⟩ :=
        graceSuccessor_eq_some.mp ‹_›
      have named := List.find?_some found
      refine .inr ⟨revokedAt, revoked, recent, ?_, liveSuccessor⟩
      rw [linked]
      simpa using (of_decide_eq_true named).symm
    · split at rotates <;> cases rotates

/-- A session and what its token may be exchanged for have one user. -/
theorem ExchangesFor.userId_eq
    (consistent : world.store.Consistent)
    {now : Time}
    {session target : Session}
    (present : session ∈ world.sessions)
    (targetPresent : target ∈ world.sessions)
    (exchanges : ExchangesFor now session target) :
    target.userId = session.userId := by
  rcases exchanges with ⟨-, rfl⟩ | ⟨_, -, -, linked, -⟩
  · rfl
  · obtain ⟨-, successor, stored, named, sameUser⟩ :=
      consistent.successorExists session present target.id linked
    rw [← consistent.eq_of_id_eq stored targetPresent named]
    exact sameUser

/-- A revoked token with nothing to be exchanged for is answered by ending every
session of its user. -/
theorem run_refresh_reuse
    (consistent : world.store.Consistent)
    {rawToken : RawToken}
    {session : Session}
    (present : session ∈ world.sessions)
    (token : session.tokenHash = ⟨rawToken⟩)
    (revoked : session.revokedAt.isSome)
    (unexchangeable : ∀ target ∈ world.sessions,
      ¬ ExchangesFor input.now session target) :
    (AuthService.refresh app rawToken).run input world =
      (.error AuthService.sessionExpired,
        { world with
          sessions := revokeUserSessions input.now session.userId world.sessions
          auditLogs :=
            ⟨some session.userId, .authRefreshTokenReuseDetected⟩ ::
              world.auditLogs }) := by
  have reuse : refreshTarget input.now rawToken world.sessions = .reuse session := by
    cases target : refreshTarget input.now rawToken world.sessions with
    | rotate rotated =>
        obtain ⟨stored, exchanges⟩ :=
          exchange_of_refreshTarget consistent present token target
        exact absurd exchanges (unexchangeable rotated stored)
    | _ =>
        rw [refreshTarget_of_mem consistent input.now present token,
          not_live_of_revoked revoked, if_neg Bool.false_ne_true] at target
        split at target
        · cases target
        · rw [if_pos revoked] at target
          exact target.symm ▸ rfl
  rw [run_refresh app rawToken input consistent, reuse]

/-- A refresh creates a session only by rotating what the presented token may be
exchanged for, for an active account. -/
theorem refreshed_of_created
    (consistent : world.store.Consistent)
    {rawToken : RawToken}
    {session created : Session}
    (present : session ∈ world.sessions)
    (token : session.tokenHash = ⟨rawToken⟩)
    (isCreated : Created world (refreshed app rawToken input world) created) :
    (∃ user ∈ world.users, user.id = session.userId ∧ user.status = .active) ∧
      ∃ target ∈ world.sessions,
        ExchangesFor input.now session target ∧
        created.userId = session.userId ∧
        (refreshed app rawToken input world).sessions =
          created :: Table.updateWhere (fun row => row.id = target.id)
            (Session.supersede input.now created.id) world.sessions := by
  unfold refreshed at isCreated ⊢
  have runs := run_refresh app rawToken input consistent
  cases target : refreshTarget input.now rawToken world.sessions with
  | rotate rotated =>
      obtain ⟨stored, exchanges⟩ :=
        exchange_of_refreshTarget consistent present token target
      have sameUser := exchanges.userId_eq consistent present stored
      simp only [target] at runs
      cases found : activeUser rotated.userId world with
      | some user =>
          simp only [found] at runs
          rw [runs] at isCreated ⊢
          obtain ⟨lookup, active⟩ := Option.filter_eq_some_iff.mp found
          have named := List.find?_some lookup
          refine ⟨⟨user, List.mem_of_find?_eq_some lookup, ?_, by simpa using active⟩,
            rotated, stored, exchanges, ?_⟩
          · rw [← sameUser]
            simpa using named
          · rcases List.mem_cons.mp isCreated.1 with rfl | old
            · exact ⟨sameUser, rfl⟩
            · obtain ⟨before, beforeStored, rfl⟩ := Table.mem_updateWhere.mp old
              refine absurd ?_ (isCreated.2 before beforeStored)
              split <;> rfl
      | none =>
          simp only [found] at runs
          rw [runs] at isCreated
          exact absurd isCreated
            (not_created_of_ids_eq (ids_updateWhere_revoke _ _ _) created)
  | reuse presented =>
      simp only [target] at runs
      rw [runs] at isCreated
      exact absurd isCreated
        (not_created_of_ids_eq (ids_updateWhere_revoke _ _ _) created)
  | refuse =>
      simp only [target] at runs
      rw [runs] at isCreated
      exact absurd isCreated (not_created_of_ids_eq rfl created)

/-- In every state a run reaches: a revocation is settled once and for all; a
refresh creates a session only for an active account, by rotating the live
session its token may be exchanged for; and a revoked token that may not be
exchanged leaves its user without a live session. -/
theorem refresh_settles_sessions
    (app : Deployment)
    (start : World)
    (initial : start.Initial)
    (arrivals : List Arrival) :
    (∀ session ∈ (serve app start arrivals).sessions,
      ∀ revokedAt, session.revokedAt = some revokedAt →
      ∀ later, ∀ row ∈ (serve app (serve app start arrivals) later).sessions,
        row.id = session.id → row.revokedAt = some revokedAt) ∧
    (∀ input rawToken, ∀ session ∈ (serve app start arrivals).sessions,
      session.tokenHash = ⟨rawToken⟩ →
      ∀ created,
        Created (serve app start arrivals)
          (refreshed app rawToken input (serve app start arrivals)) created →
        (∃ user ∈ (serve app start arrivals).users,
          user.id = session.userId ∧ user.status = .active) ∧
        ∃ target ∈ (serve app start arrivals).sessions,
          ExchangesFor input.now session target ∧
          created.userId = session.userId ∧
          (refreshed app rawToken input (serve app start arrivals)).sessions =
            created :: Table.updateWhere (fun row => row.id = target.id)
              (Session.supersede input.now created.id)
              (serve app start arrivals).sessions) ∧
    (∀ input rawToken, ∀ session ∈ (serve app start arrivals).sessions,
      session.tokenHash = ⟨rawToken⟩ →
      session.revokedAt.isSome →
      (∀ target ∈ (serve app start arrivals).sessions,
        ¬ ExchangesFor input.now session target) →
      ((AuthService.refresh app rawToken).run input (serve app start arrivals)).1 =
          .error AuthService.sessionExpired ∧
        (∀ created, ¬ Created (serve app start arrivals)
          (refreshed app rawToken input (serve app start arrivals)) created) ∧
        ∀ row ∈ (refreshed app rawToken input (serve app start arrivals)).sessions,
          row.userId = session.userId → ∀ time, row.live time = false) := by
  have consistent := serve_consistent app initial.consistent arrivals
  refine ⟨?_, ?_, ?_⟩
  · intro session present revokedAt revoked later row rowPresent sameId
    obtain ⟨after, stored, evolves⟩ := serve_evolves app consistent later present
    have same : row = after := (serve_consistent app consistent later).eq_of_id_eq
      rowPresent stored (sameId.trans evolves.id.symm)
    rw [same]
    exact (evolves.settled revokedAt revoked).1
  · intro input rawToken session present token created isCreated
    exact refreshed_of_created consistent present token isCreated
  · intro input rawToken session present token revoked unexchangeable
    have runs : (AuthService.refresh app rawToken).run input _ = _ :=
      run_refresh_reuse consistent present token revoked unexchangeable
    unfold refreshed
    rw [runs]
    refine ⟨rfl, fun created =>
      not_created_of_ids_eq (ids_updateWhere_revoke _ _ _) created, ?_⟩
    intro row rowPresent ofUser time
    exact not_live_of_revoked
      (revokedAt_isSome_of_revokeUserSessions rowPresent ofUser) time

/-- A sign-in at time 0, and a rotation of its token two seconds later. -/
def sampleRotation : List Arrival :=
  [⟨{ now := 2000 }, .refresh 1⟩,
    ⟨{ now := 1000 }, sampleVerifyLogin "laptop" 0⟩,
    ⟨{ now := 0 }, sampleLogin "laptop"⟩]

/-- The rotated token is presented again half a minute after the rotation. -/
theorem refresh_settles_sessions_replayed :
    ((AuthService.refresh sampleApp 1).run { now := 32000 }
        (serve sampleApp sampleWorld sampleRotation)).1 =
        .error AuthService.sessionExpired ∧
      ∀ row ∈ (refreshed sampleApp 1 { now := 32000 }
          (serve sampleApp sampleWorld sampleRotation)).sessions,
        row.userId = 0 → ∀ time, row.live time = false := by
  obtain ⟨-, -, replay⟩ :=
    refresh_settles_sessions sampleApp sampleWorld sampleWorld_initial sampleRotation
  obtain ⟨refused, -, ended⟩ := replay { now := 32000 } 1
    ((serve sampleApp sampleWorld sampleRotation).sessions.getLast (by decide))
    (by decide) (by decide) (by decide) (by decide)
  exact ⟨refused, ended⟩

/-! ## Sessions ended without a rotation -/

/-- The token of a session that was ended without a successor is refused.  Every
unrevoked session of its user is ended and nothing else changes, so the other
sessions stay as they were exactly when none of them was left unrevoked. -/
theorem refresh_after_end
    (app : Deployment)
    (start : World)
    (initial : start.Initial)
    (arrivals : List Arrival)
    (input : Input)
    (rawToken : RawToken)
    (session : Session)
    (present : session ∈ (serve app start arrivals).sessions)
    (token : session.tokenHash = ⟨rawToken⟩)
    (revoked : session.revokedAt.isSome)
    (unlinked : session.replacedByTokenId = none) :
    ((AuthService.refresh app rawToken).run input (serve app start arrivals)).1 =
        .error AuthService.sessionExpired ∧
      (refreshed app rawToken input (serve app start arrivals)).sessions =
        (serve app start arrivals).sessions.map (fun row =>
          if row.userId = session.userId ∧ row.revokedAt = none then
            { row with revokedAt := some input.now }
          else row) ∧
      ((refreshed app rawToken input (serve app start arrivals)).sessions =
          (serve app start arrivals).sessions ↔
        ∀ row ∈ (serve app start arrivals).sessions,
          row.userId = session.userId → row.revokedAt.isSome) := by
  have consistent := serve_consistent app initial.consistent arrivals
  have unexchangeable : ∀ target ∈ (serve app start arrivals).sessions,
      ¬ ExchangesFor input.now session target := by
    rintro target - (⟨live, -⟩ | ⟨_, -, -, linked, -⟩)
    · rw [not_live_of_revoked revoked] at live
      cases live
    · rw [unlinked] at linked
      cases linked
  have runs : (AuthService.refresh app rawToken).run input _ = _ :=
    run_refresh_reuse consistent present token revoked unexchangeable
  have sessionsAfter : (refreshed app rawToken input (serve app start arrivals)).sessions =
      revokeUserSessions input.now session.userId (serve app start arrivals).sessions := by
    unfold refreshed
    rw [runs]
  refine ⟨by rw [runs], ?_, ?_⟩
  · rw [sessionsAfter]
    unfold revokeUserSessions Table.updateWhere
    simp only [decide_eq_true_eq]
    rfl
  · rw [sessionsAfter]
    constructor
    · intro unchanged row rowPresent ofUser
      rw [← unchanged] at rowPresent
      exact revokedAt_isSome_of_revokeUserSessions rowPresent ofUser
    · intro allRevoked
      refine Table.updateWhere_eq_self ?_
      intro row rowPresent selected
      obtain ⟨ofUser, unrevoked⟩ := of_decide_eq_true selected
      have ended := allRevoked row rowPresent ofUser
      rw [unrevoked] at ended
      cases ended

/-- A deployment that allows one session at a time. -/
def singleSessionApp : Deployment :=
  { Deployment.defaults with maxTrustedDevices := 1, one_le_maxTrustedDevices := Nat.one_pos }

/-- A sign-in from a laptop, evicted by a sign-in from a phone. -/
def sampleEviction : List Arrival :=
  [⟨{ now := 900 }, sampleVerifyLogin "phone" 3⟩,
    ⟨{ now := 600 }, sampleLogin "phone"⟩,
    ⟨{ now := 300 }, sampleVerifyLogin "laptop" 0⟩,
    ⟨{ now := 0 }, sampleLogin "laptop"⟩]

/-- The evicted laptop's next refresh is refused. -/
theorem refresh_after_end_evicted :
    ((AuthService.refresh singleSessionApp 1).run { now := 60000 }
      (serve singleSessionApp sampleWorld sampleEviction)).1 =
        .error AuthService.sessionExpired :=
  (refresh_after_end singleSessionApp sampleWorld sampleWorld_initial sampleEviction
    { now := 60000 } 1
    ((serve singleSessionApp sampleWorld sampleEviction).sessions.getLast (by decide))
    (by decide) (by decide) (by decide) (by decide)).1

/-- The evicted laptop's next refresh signs the phone out. -/
theorem evicted_refresh_ends_new_session :
    ∃ session ∈ (serve singleSessionApp sampleWorld sampleEviction).sessions,
      session.tokenHash = ⟨1⟩ ∧ session.revokedAt.isSome ∧
      session.replacedByTokenId = none ∧
      ∃ other ∈ (serve singleSessionApp sampleWorld sampleEviction).sessions,
        other.userId = session.userId ∧ other.live 60000 ∧
        ∀ row ∈ (refreshed singleSessionApp 1 { now := 60000 }
            (serve singleSessionApp sampleWorld sampleEviction)).sessions,
          row.id = other.id → row.live 60000 = false := by
  decide

end ConferenceContact
