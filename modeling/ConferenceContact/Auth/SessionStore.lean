import ConferenceContact.Foundation.Table
import ConferenceContact.Model.World
import Mathlib.Logic.Relation

/-!
# The session store

The purpose of the session services, apart from any request: a store of
sessions and devices that changes only by the steps of `SessionStore.Step`.
Rows are never lost, a revocation is never taken back, and identifiers and
tokens stay distinct.  The services are shown to move their world along these
steps in `Auth.Requests`.
-/

namespace ConferenceContact

/-- The tables the session services own, with the supply of fresh names. -/
structure SessionStore where
  sessions : List Session
  devices : List Device
  nextId : Nat

/-- The session store inside the world. -/
def World.store (world : World) : SessionStore :=
  ⟨world.sessions, world.devices, world.nextId⟩

@[simp] theorem World.store_sessions (world : World) :
    world.store.sessions = world.sessions := rfl

@[simp] theorem World.store_devices (world : World) :
    world.store.devices = world.devices := rfl

@[simp] theorem World.store_nextId (world : World) :
    world.store.nextId = world.nextId := rfl

namespace Session

/-- End a session. -/
def revoke (now : Time) (session : Session) : Session :=
  { session with revokedAt := some now }

/-- End a session in favour of a successor. -/
def supersede (now : Time) (successor : SessionId) (session : Session) : Session :=
  { session with revokedAt := some now, replacedByTokenId := some successor }

/-- Clear a reference to a device. -/
def detach (device : DeviceId) (session : Session) : Session :=
  if session.deviceId = some device then { session with deviceId := none }
  else session

/-- What may become of a session: it keeps its identity, it may lose its
device, and once it is revoked its end is settled. -/
structure Evolves (before after : Session) : Prop where
  id : after.id = before.id
  userId : after.userId = before.userId
  tokenHash : after.tokenHash = before.tokenHash
  createdAt : after.createdAt = before.createdAt
  expiresAt : after.expiresAt = before.expiresAt
  deviceId : after.deviceId = before.deviceId ∨ after.deviceId = none
  settled : ∀ time, before.revokedAt = some time →
    after.revokedAt = some time ∧
      after.replacedByTokenId = before.replacedByTokenId

namespace Evolves

theorem refl (session : Session) : session.Evolves session :=
  ⟨rfl, rfl, rfl, rfl, rfl, .inl rfl, fun _ revoked => ⟨revoked, rfl⟩⟩

theorem trans
    {first second third : Session}
    (earlier : first.Evolves second)
    (later : second.Evolves third) :
    first.Evolves third where
  id := later.id.trans earlier.id
  userId := later.userId.trans earlier.userId
  tokenHash := later.tokenHash.trans earlier.tokenHash
  createdAt := later.createdAt.trans earlier.createdAt
  expiresAt := later.expiresAt.trans earlier.expiresAt
  deviceId := by
    rcases later.deviceId with kept | lost
    · rw [kept]
      exact earlier.deviceId
    · exact .inr lost
  settled := by
    intro time revoked
    obtain ⟨still, link⟩ := earlier.settled time revoked
    obtain ⟨stillLater, lastLink⟩ := later.settled time still
    exact ⟨stillLater, lastLink.trans link⟩

/-- A device reference read later was there before. -/
theorem deviceId_eq
    {before after : Session}
    (evolves : before.Evolves after)
    {device : DeviceId}
    (refers : after.deviceId = some device) :
    before.deviceId = some device := by
  rcases evolves.deviceId with kept | lost
  · exact kept ▸ refers
  · rw [lost] at refers
    cases refers

end Evolves

theorem evolves_revoke
    (now : Time)
    {session : Session}
    (unrevoked : session.revokedAt = none) :
    session.Evolves (session.revoke now) :=
  ⟨rfl, rfl, rfl, rfl, rfl, .inl rfl, by simp [unrevoked]⟩

theorem evolves_supersede
    (now : Time)
    (successor : SessionId)
    {session : Session}
    (unrevoked : session.revokedAt = none) :
    session.Evolves (session.supersede now successor) :=
  ⟨rfl, rfl, rfl, rfl, rfl, .inl rfl, by simp [unrevoked]⟩

theorem evolves_detach (device : DeviceId) (session : Session) :
    session.Evolves (session.detach device) := by
  unfold detach
  split
  · exact ⟨rfl, rfl, rfl, rfl, rfl, .inr rfl, fun _ revoked => ⟨revoked, rfl⟩⟩
  · exact Evolves.refl session

theorem detach_deviceId_ne (device : DeviceId) (session : Session) :
    (session.detach device).deviceId ≠ some device := by
  unfold detach
  split
  · exact (Option.some_ne_none device).symm
  · assumption

end Session

namespace SessionStore

/-! ## Steps -/

/-- One change of the store at the time `now`, where sessions may be issued
only to the pairs of a user and a device that `mayIssue` allows. -/
inductive Step
    (now : Time)
    (mayIssue : UserId → Option DeviceId → Prop) :
    SessionStore → SessionStore → Prop
  | reserve (store : SessionStore) (amount : Nat) :
      Step now mayIssue store { store with nextId := store.nextId + amount }
  | register (store : SessionStore) (device : Device) :
      device.id = store.nextId →
      Step now mayIssue store
        { store with
          devices := device :: store.devices
          nextId := store.nextId + 1 }
  | touch
      (store : SessionStore)
      (selected : Device → Bool)
      (rewrite : Device → Device) :
      (∀ device, (rewrite device).id = device.id) →
      Step now mayIssue store
        { store with devices := Table.updateWhere selected rewrite store.devices }
  | revoke (store : SessionStore) (selected : Session → Bool) :
      (∀ session ∈ store.sessions, selected session → session.revokedAt = none) →
      Step now mayIssue store
        { store with
          sessions := Table.updateWhere selected (Session.revoke now) store.sessions }
  | issue (store : SessionStore) (session : Session) :
      session.id = store.nextId + 1 →
      session.tokenHash = ⟨store.nextId⟩ →
      session.revokedAt = none →
      session.replacedByTokenId = none →
      (∀ id, session.deviceId = some id → ∃ device ∈ store.devices, device.id = id) →
      mayIssue session.userId session.deviceId →
      Step now mayIssue store
        { store with
          sessions := session :: store.sessions
          nextId := store.nextId + 2 }
  | supersede (store : SessionStore) (old successor : Session) :
      old ∈ store.sessions →
      old.revokedAt = none →
      successor ∈ store.sessions →
      successor.userId = old.userId →
      Step now mayIssue store
        { store with
          sessions := Table.updateWhere (fun session => session.id = old.id)
            (Session.supersede now successor.id) store.sessions }
  | forget (store : SessionStore) (id : DeviceId) :
      Step now mayIssue store
        { store with
          sessions := store.sessions.map (Session.detach id)
          devices := store.devices.filter fun device => device.id ≠ id }

/-- Any number of steps at one time. -/
abbrev Steps
    (now : Time)
    (mayIssue : UserId → Option DeviceId → Prop) :
    SessionStore → SessionStore → Prop :=
  Relation.ReflTransGen (Step now mayIssue)

/-! ## Consistency -/

/-- Names are distinct and not from the future, and references resolve. -/
structure Consistent (store : SessionStore) : Prop where
  idsDistinct : (store.sessions.map (·.id)).Nodup
  tokensDistinct : (store.sessions.map (·.tokenHash)).Nodup
  idsFresh : ∀ session ∈ store.sessions, session.id < store.nextId
  tokensFresh : ∀ session ∈ store.sessions,
    session.tokenHash.preimage < store.nextId
  devicesFresh : ∀ device ∈ store.devices, device.id < store.nextId
  deviceExists : ∀ session ∈ store.sessions, ∀ id, session.deviceId = some id →
    ∃ device ∈ store.devices, device.id = id
  successorExists : ∀ session ∈ store.sessions,
    ∀ id, session.replacedByTokenId = some id →
      session.revokedAt.isSome ∧
        ∃ successor ∈ store.sessions,
          successor.id = id ∧ successor.userId = session.userId

/-- A store without rows. -/
theorem consistent_empty (nextId : Nat) : Consistent ⟨[], [], nextId⟩ where
  idsDistinct := List.nodup_nil
  tokensDistinct := List.nodup_nil
  idsFresh := List.forall_mem_nil _
  tokensFresh := List.forall_mem_nil _
  devicesFresh := List.forall_mem_nil _
  deviceExists := List.forall_mem_nil _
  successorExists := List.forall_mem_nil _

/-- Rewriting rows as they may evolve keeps the store consistent, as long as the
devices stay and a new reference to a successor resolves. -/
theorem Consistent.map
    {store : SessionStore}
    (consistent : store.Consistent)
    {rewrite : Session → Session}
    {devices : List Device}
    (evolves : ∀ session ∈ store.sessions, session.Evolves (rewrite session))
    (devicesKept : ∀ device ∈ devices, ∃ before ∈ store.devices, before.id = device.id)
    (stillExists : ∀ session ∈ store.sessions, ∀ id,
      (rewrite session).deviceId = some id → ∃ device ∈ devices, device.id = id)
    (successors : ∀ session ∈ store.sessions, ∀ id,
      (rewrite session).replacedByTokenId = some id →
        (rewrite session).revokedAt.isSome ∧
          ∃ successor ∈ store.sessions,
            successor.id = id ∧ successor.userId = session.userId) :
    Consistent ⟨store.sessions.map rewrite, devices, store.nextId⟩ where
  idsDistinct := by
    have same : (store.sessions.map rewrite).map (·.id) =
        store.sessions.map (·.id) := by
      rw [List.map_map]
      exact List.map_congr_left fun session present => (evolves session present).id
    rw [same]
    exact consistent.idsDistinct
  tokensDistinct := by
    have same : (store.sessions.map rewrite).map (·.tokenHash) =
        store.sessions.map (·.tokenHash) := by
      rw [List.map_map]
      exact List.map_congr_left fun session present =>
        (evolves session present).tokenHash
    rw [same]
    exact consistent.tokensDistinct
  idsFresh := by
    intro session present
    obtain ⟨before, stored, rfl⟩ := List.mem_map.mp present
    rw [(evolves before stored).id]
    exact consistent.idsFresh before stored
  tokensFresh := by
    intro session present
    obtain ⟨before, stored, rfl⟩ := List.mem_map.mp present
    rw [(evolves before stored).tokenHash]
    exact consistent.tokensFresh before stored
  devicesFresh := by
    intro device present
    obtain ⟨before, stored, equal⟩ := devicesKept device present
    rw [← equal]
    exact consistent.devicesFresh before stored
  deviceExists := by
    intro session present id refers
    obtain ⟨before, stored, rfl⟩ := List.mem_map.mp present
    exact stillExists before stored id refers
  successorExists := by
    intro session present id link
    obtain ⟨before, stored, rfl⟩ := List.mem_map.mp present
    obtain ⟨revoked, successor, successorStored, named, sameUser⟩ :=
      successors before stored id link
    refine ⟨revoked, rewrite successor, List.mem_map_of_mem successorStored, ?_, ?_⟩
    · rw [(evolves successor successorStored).id, named]
    · rw [(evolves successor successorStored).userId,
        (evolves before stored).userId, sameUser]

/-- With distinct identifiers, the rows an identifier selects are one row. -/
theorem Consistent.eq_of_id_eq
    {store : SessionStore}
    (consistent : store.Consistent)
    {left right : Session}
    (leftPresent : left ∈ store.sessions)
    (rightPresent : right ∈ store.sessions)
    (equal : left.id = right.id) :
    left = right :=
  Table.eq_of_key_eq consistent.idsDistinct leftPresent rightPresent equal

/-! ### One step at a time -/

namespace Consistent

variable {store : SessionStore} (consistent : store.Consistent)

include consistent

theorem reserve (amount : Nat) :
    Consistent { store with nextId := store.nextId + amount } where
  idsDistinct := consistent.idsDistinct
  tokensDistinct := consistent.tokensDistinct
  idsFresh session present := Nat.lt_add_right _ (consistent.idsFresh session present)
  tokensFresh session present := Nat.lt_add_right _ (consistent.tokensFresh session present)
  devicesFresh device present := Nat.lt_add_right _ (consistent.devicesFresh device present)
  deviceExists := consistent.deviceExists
  successorExists := consistent.successorExists

theorem register {device : Device} (fresh : device.id = store.nextId) :
    Consistent
      { store with
        devices := device :: store.devices
        nextId := store.nextId + 1 } := by
  refine { consistent.reserve 1 with devicesFresh := ?_, deviceExists := ?_ }
  · intro other present
    rcases List.mem_cons.mp present with rfl | older
    · rw [fresh]
      exact Nat.lt_add_one _
    · exact Nat.lt_add_right _ (consistent.devicesFresh other older)
  · intro session present id refers
    obtain ⟨other, stored, named⟩ := consistent.deviceExists session present id refers
    exact ⟨other, List.mem_cons_of_mem _ stored, named⟩

theorem touch
    (selected : Device → Bool)
    {rewrite : Device → Device}
    (kept : ∀ device, (rewrite device).id = device.id) :
    Consistent
      { store with devices := Table.updateWhere selected rewrite store.devices } := by
  have sameId : ∀ device : Device,
      (if selected device then rewrite device else device).id = device.id :=
    Table.column_rewritten selected kept
  refine { consistent with devicesFresh := ?_, deviceExists := ?_ }
  · intro device present
    obtain ⟨before, stored, rfl⟩ := Table.mem_updateWhere.mp present
    rw [sameId]
    exact consistent.devicesFresh before stored
  · intro session present id refers
    obtain ⟨device, stored, named⟩ := consistent.deviceExists session present id refers
    exact ⟨_, Table.mem_updateWhere.mpr ⟨device, stored, rfl⟩, (sameId device).trans named⟩

/-- Rewriting rows as they may evolve, where the devices stay. -/
theorem evolve
    {rewrite : Session → Session}
    (evolves : ∀ session ∈ store.sessions, session.Evolves (rewrite session))
    (successors : ∀ session ∈ store.sessions, ∀ id,
      (rewrite session).replacedByTokenId = some id →
        (rewrite session).revokedAt.isSome ∧
          ∃ successor ∈ store.sessions,
            successor.id = id ∧ successor.userId = session.userId) :
    Consistent { store with sessions := store.sessions.map rewrite } := by
  refine consistent.map evolves (fun device present => ⟨device, present, rfl⟩) ?_ successors
  intro session present id refers
  exact consistent.deviceExists session present id
    ((evolves session present).deviceId_eq refers)

theorem revoke
    (now : Time)
    {selected : Session → Bool}
    (unrevoked : ∀ session ∈ store.sessions, selected session → session.revokedAt = none) :
    Consistent
      { store with
        sessions := Table.updateWhere selected (Session.revoke now) store.sessions } := by
  refine consistent.evolve ?_ ?_
  · intro session present
    split
    · exact Session.evolves_revoke now (unrevoked session present ‹_›)
    · exact Session.Evolves.refl session
  · intro session present id link
    have linked : session.replacedByTokenId = some id := by
      split at link <;> exact link
    have resolved := consistent.successorExists session present id linked
    refine ⟨?_, resolved.2⟩
    split
    · rfl
    · exact resolved.1

theorem issue
    {session : Session}
    (idFresh : session.id = store.nextId + 1)
    (tokenFresh : session.tokenHash = ⟨store.nextId⟩)
    (unlinked : session.replacedByTokenId = none)
    (resolved : ∀ id, session.deviceId = some id → ∃ device ∈ store.devices, device.id = id) :
    Consistent
      { store with
        sessions := session :: store.sessions
        nextId := store.nextId + 2 } where
  idsDistinct := by
    rw [List.map_cons, List.nodup_cons]
    refine ⟨?_, consistent.idsDistinct⟩
    intro repeated
    obtain ⟨other, stored, equal⟩ := List.mem_map.mp repeated
    have older := consistent.idsFresh other stored
    rw [equal, idFresh] at older
    exact absurd older (Nat.not_lt.mpr (Nat.le_succ _))
  tokensDistinct := by
    rw [List.map_cons, List.nodup_cons]
    refine ⟨?_, consistent.tokensDistinct⟩
    intro repeated
    obtain ⟨other, stored, equal⟩ := List.mem_map.mp repeated
    have older := consistent.tokensFresh other stored
    rw [equal, tokenFresh] at older
    exact Nat.lt_irrefl _ older
  idsFresh := by
    intro other present
    rcases List.mem_cons.mp present with rfl | older
    · rw [idFresh]
      exact Nat.lt_add_one _
    · exact Nat.lt_add_right _ (consistent.idsFresh other older)
  tokensFresh := by
    intro other present
    rcases List.mem_cons.mp present with rfl | older
    · rw [tokenFresh]
      exact Nat.lt_add_of_pos_right Nat.two_pos
    · exact Nat.lt_add_right _ (consistent.tokensFresh other older)
  devicesFresh := (consistent.reserve 2).devicesFresh
  deviceExists := by
    intro other present id refers
    rcases List.mem_cons.mp present with rfl | older
    · exact resolved id refers
    · exact consistent.deviceExists other older id refers
  successorExists := by
    intro other present id link
    rcases List.mem_cons.mp present with rfl | older
    · rw [unlinked] at link
      cases link
    · obtain ⟨revoked, successor, stored, named⟩ :=
        consistent.successorExists other older id link
      exact ⟨revoked, successor, List.mem_cons_of_mem _ stored, named⟩

theorem supersede
    (now : Time)
    {old successor : Session}
    (stored : old ∈ store.sessions)
    (unrevoked : old.revokedAt = none)
    (successorStored : successor ∈ store.sessions)
    (sameUser : successor.userId = old.userId) :
    Consistent
      { store with
        sessions := Table.updateWhere (fun session => session.id = old.id)
          (Session.supersede now successor.id) store.sessions } := by
  have only : ∀ session ∈ store.sessions, decide (session.id = old.id) = true →
      session = old :=
    fun session present chosen =>
      consistent.eq_of_id_eq present stored (of_decide_eq_true chosen)
  refine consistent.evolve ?_ ?_
  · intro session present
    split
    · rw [only session present ‹_›]
      exact Session.evolves_supersede now successor.id unrevoked
    · exact Session.Evolves.refl session
  · intro session present id link
    split at link
    · rw [if_pos ‹_›, only session present ‹_›]
      exact ⟨rfl, successor, successorStored, Option.some.inj link, sameUser⟩
    · rw [if_neg ‹_›]
      exact consistent.successorExists session present id link

theorem forget (device : DeviceId) :
    Consistent
      { store with
        sessions := store.sessions.map (Session.detach device)
        devices := store.devices.filter fun other => other.id ≠ device } := by
  refine consistent.map (fun session _ => Session.evolves_detach device session)
    (fun other present => ⟨other, List.mem_of_mem_filter present, rfl⟩) ?_ ?_
  · intro session present id refers
    obtain ⟨other, stored, named⟩ := consistent.deviceExists session present id
      ((Session.evolves_detach device session).deviceId_eq refers)
    refine ⟨other, List.mem_filter.mpr ⟨stored, ?_⟩, named⟩
    have different : id ≠ device := by
      rintro rfl
      exact Session.detach_deviceId_ne _ session refers
    simpa [named] using different
  · intro session present id link
    have kept : (session.detach device).replacedByTokenId = session.replacedByTokenId ∧
        (session.detach device).revokedAt = session.revokedAt := by
      unfold Session.detach
      split <;> exact ⟨rfl, rfl⟩
    rw [kept.1] at link
    rw [kept.2]
    exact consistent.successorExists session present id link

end Consistent

variable {now : Time} {mayIssue : UserId → Option DeviceId → Prop}

/-- Every step keeps the store consistent. -/
theorem Step.consistent
    {store next : SessionStore}
    (step : Step now mayIssue store next)
    (consistent : store.Consistent) :
    next.Consistent := by
  cases step with
  | reserve amount => exact consistent.reserve amount
  | register device fresh => exact consistent.register fresh
  | touch selected rewrite kept => exact consistent.touch selected kept
  | revoke selected unrevoked => exact consistent.revoke now unrevoked
  | issue session idFresh tokenFresh unrevoked unlinked resolved allowed =>
      exact consistent.issue idFresh tokenFresh unlinked resolved
  | supersede old successor stored unrevoked successorStored sameUser =>
      exact consistent.supersede now stored unrevoked successorStored sameUser
  | forget device => exact consistent.forget device

theorem Steps.consistent
    {store next : SessionStore}
    (steps : Steps now mayIssue store next)
    (consistent : store.Consistent) :
    next.Consistent := by
  induction steps with
  | refl => exact consistent
  | tail _ step inductionHypothesis => exact step.consistent inductionHypothesis

/-! ## The fate and the origin of a row -/

/-- The rows a step rewrites evolve, and it loses none. -/
theorem Step.evolves
    {store next : SessionStore}
    (step : Step now mayIssue store next)
    (consistent : store.Consistent)
    {session : Session}
    (present : session ∈ store.sessions) :
    ∃ after ∈ next.sessions, session.Evolves after := by
  cases step with
  | reserve amount => exact ⟨session, present, .refl session⟩
  | register device fresh => exact ⟨session, present, .refl session⟩
  | touch selected rewrite kept => exact ⟨session, present, .refl session⟩
  | revoke selected unrevoked =>
      refine ⟨_, Table.mem_updateWhere.mpr ⟨session, present, rfl⟩, ?_⟩
      split
      · exact Session.evolves_revoke now (unrevoked session present ‹_›)
      · exact .refl session
  | issue issued _ _ _ _ _ _ =>
      exact ⟨session, List.mem_cons_of_mem _ present, .refl session⟩
  | supersede old successor stored unrevoked _ _ =>
      refine ⟨_, Table.mem_updateWhere.mpr ⟨session, present, rfl⟩, ?_⟩
      split
      · rw [consistent.eq_of_id_eq present stored (of_decide_eq_true ‹_›)]
        exact Session.evolves_supersede now successor.id unrevoked
      · exact .refl session
  | forget device =>
      exact ⟨_, List.mem_map_of_mem present, Session.evolves_detach device session⟩

/-- A row is either what became of an earlier row or was issued to a pair that
was allowed to have one. -/
theorem Step.origin
    {store next : SessionStore}
    (step : Step now mayIssue store next)
    (consistent : store.Consistent)
    {session : Session}
    (present : session ∈ next.sessions) :
    (∃ before ∈ store.sessions, before.Evolves session) ∨
      mayIssue session.userId session.deviceId := by
  cases step with
  | reserve amount => exact .inl ⟨session, present, .refl session⟩
  | register device fresh => exact .inl ⟨session, present, .refl session⟩
  | touch selected rewrite kept => exact .inl ⟨session, present, .refl session⟩
  | revoke selected unrevoked =>
      obtain ⟨before, stored, rfl⟩ := Table.mem_updateWhere.mp present
      refine .inl ⟨before, stored, ?_⟩
      split
      · exact Session.evolves_revoke now (unrevoked before stored ‹_›)
      · exact .refl before
  | issue issued _ _ _ _ _ allowed =>
      rcases List.mem_cons.mp present with rfl | older
      · exact .inr allowed
      · exact .inl ⟨session, older, .refl session⟩
  | supersede old successor oldStored unrevoked _ _ =>
      obtain ⟨before, stored, rfl⟩ := Table.mem_updateWhere.mp present
      refine .inl ⟨before, stored, ?_⟩
      split
      · rw [consistent.eq_of_id_eq stored oldStored (of_decide_eq_true ‹_›)]
        exact Session.evolves_supersede now successor.id unrevoked
      · exact .refl before
  | forget device =>
      obtain ⟨before, stored, rfl⟩ := List.mem_map.mp present
      exact .inl ⟨before, stored, Session.evolves_detach device before⟩

theorem Steps.evolves
    {store next : SessionStore}
    (steps : Steps now mayIssue store next)
    (consistent : store.Consistent)
    {session : Session}
    (present : session ∈ store.sessions) :
    ∃ after ∈ next.sessions, session.Evolves after := by
  induction steps with
  | refl => exact ⟨session, present, .refl session⟩
  | tail earlier step inductionHypothesis =>
      obtain ⟨middle, stored, first⟩ := inductionHypothesis
      obtain ⟨after, storedAfter, second⟩ :=
        step.evolves (Steps.consistent earlier consistent) stored
      exact ⟨after, storedAfter, first.trans second⟩

theorem Steps.origin
    {store next : SessionStore}
    (steps : Steps now mayIssue store next)
    (consistent : store.Consistent)
    {session : Session}
    (present : session ∈ next.sessions) :
    (∃ before ∈ store.sessions, before.Evolves session) ∨
      ∃ issued : Session, mayIssue issued.userId issued.deviceId ∧
        issued.Evolves session := by
  induction steps generalizing session with
  | refl => exact .inl ⟨session, present, .refl session⟩
  | tail earlier step inductionHypothesis =>
      rcases step.origin (Steps.consistent earlier consistent) present with
        ⟨middle, stored, second⟩ | allowed
      · rcases inductionHypothesis stored with
          ⟨before, storedBefore, first⟩ | ⟨issued, allowed, first⟩
        · exact .inl ⟨before, storedBefore, first.trans second⟩
        · exact .inr ⟨issued, allowed, first.trans second⟩
      · exact .inr ⟨session, allowed, .refl session⟩

end SessionStore
end ConferenceContact
