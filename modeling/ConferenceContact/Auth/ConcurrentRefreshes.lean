import ConferenceContact.Auth.RefreshStages
import ConferenceContact.Foundation.Succession

/-!
# Concurrent refreshes of one rotation family

Refreshes that present tokens of one family, interleaved at their single calls.
They replace sessions as the members of a succession replace items, so they leave
one live session at most wherever no session gets a second successor.  Nothing in
a rotation checks that.
-/

namespace ConferenceContact

open Process

/-! ## The family -/

/-- The first session was rotated into the second. -/
def World.Replaces (world : World) (old new : SessionId) : Prop :=
  ∃ row ∈ world.sessions, row.id = old ∧ row.replacedByTokenId = some new

/-- The session was obtained by successive rotations of the one a login created. -/
def World.Family (world : World) (login : SessionId) : SessionId → Prop :=
  Relation.ReflTransGen world.Replaces login

/-- The same while only refreshes of the family run, which create no session but by
rotating one of the family. -/
def OfFamily (start : World) (login id : SessionId) : Prop :=
  start.Family login id ∨ start.nextId ≤ id

/-- What every refresh of the family keeps. -/
structure FamilyKept (start : World) (login : SessionId) (world : World) : Prop where
  closed : ∀ row ∈ world.sessions, OfFamily start login row.id →
    ∀ id, row.replacedByTokenId = some id → OfFamily start login id
  grown : start.nextId ≤ world.nextId
  distinct : (world.sessions.map (·.id)).Nodup
  fresh : ∀ row ∈ world.sessions, row.id < world.nextId

/-- A row with this id is on file. -/
def World.HasSession (world : World) (id : SessionId) : Prop :=
  ∃ row ∈ world.sessions, row.id = id

/-- Rows keep their ids and tokens, and every new one is of the family. -/
structure FamilyGrows (start : World) (login : SessionId) (before after : World) : Prop where
  rows : ∀ row ∈ after.sessions, OfFamily start login row.id ∨
    ∃ old ∈ before.sessions, old.id = row.id ∧ old.tokenHash = row.tokenHash
  stays : ∀ id, before.HasSession id → after.HasSession id

section Family

variable {start world : World} {login : SessionId}

theorem familyKept_start
    (consistent : start.store.Consistent) :
    FamilyKept start login start where
  closed := by
    rintro row present (family | new) id linked
    · exact .inl (family.tail ⟨row, present, rfl, linked⟩)
    · exact absurd (consistent.idsFresh row present) (Nat.not_lt.mpr new)
  grown := Nat.le_refl _
  distinct := consistent.idsDistinct
  fresh := consistent.idsFresh

/-- A rotation chain has one end, and only its end is unrevoked. -/
theorem unrevoked_of_family_eq
    (consistent : start.store.Consistent)
    {first second : Session}
    (present : first ∈ start.sessions)
    (stored : second ∈ start.sessions)
    (firstFamily : start.Family login first.id)
    (secondFamily : start.Family login second.id)
    (current : first.revokedAt = none)
    (alsoCurrent : second.revokedAt = none) :
    first.id = second.id := by
  have sameRow : ∀ {left right : Session}, left ∈ start.sessions → right ∈ start.sessions →
      left.id = right.id → left = right :=
    fun inLeft inRight same => Table.eq_of_key_eq consistent.idsDistinct inLeft inRight same
  have oneSuccessor : Relator.RightUnique start.Replaces := by
    rintro old new other ⟨row, inTable, named, linked⟩ ⟨row', inTable', named', linked'⟩
    have same := sameRow inTable inTable' (named.trans named'.symm)
    subst same
    exact Option.some.inj (linked.symm.trans linked')
  have last : ∀ {row : Session} {id}, row ∈ start.sessions → row.revokedAt = none →
      Relation.ReflTransGen start.Replaces row.id id → row.id = id := by
    intro row id inTable unrevoked chain
    rcases chain.cases_head with same | ⟨next, ⟨other, inTable', named, linked⟩, -⟩
    · exact same
    · have same := sameRow inTable' inTable named
      subst same
      obtain ⟨revoked, -⟩ := consistent.successorExists other inTable' next linked
      rw [unrevoked] at revoked
      cases revoked
  rcases firstFamily.total_of_right_unique oneSuccessor secondFamily with onwards | backwards
  · exact last present current onwards
  · exact (last stored alsoCurrent backwards).symm

/-- Rewriting rows that keep their ids, and whose links stay in the family. -/
theorem FamilyKept.updateWhere
    (kept : FamilyKept start login world)
    {condition : Session → Bool}
    {rewrite : Session → Session}
    (sameId : ∀ row, (rewrite row).id = row.id)
    (links : ∀ row ∈ world.sessions, condition row → ∀ id,
      (rewrite row).replacedByTokenId = some id →
        row.replacedByTokenId = some id ∨ OfFamily start login id) :
    FamilyKept start login
      { world with sessions := Table.updateWhere condition rewrite world.sessions } where
  closed := by
    intro row present family id linked
    obtain ⟨old, stored, rfl⟩ := Table.mem_updateWhere.mp present
    split at linked
    · rename_i chosen
      rw [if_pos chosen, sameId] at family
      rcases links old stored chosen id linked with before | inFamily
      · exact kept.closed old stored family id before
      · exact inFamily
    · rename_i other
      rw [if_neg other] at family
      exact kept.closed old stored family id linked
  grown := kept.grown
  distinct := by
    rw [Table.map_updateWhere _ _ _ _ sameId]
    exact kept.distinct
  fresh := by
    intro row present
    obtain ⟨old, stored, rfl⟩ := Table.mem_updateWhere.mp present
    split
    · rw [sameId]
      exact kept.fresh old stored
    · exact kept.fresh old stored

theorem familyGrows_of_same
    {after : World}
    (same : after.sessions = world.sessions) :
    FamilyGrows start login world after := by
  refine ⟨fun row present => .inr ⟨row, same ▸ present, rfl, rfl⟩, ?_⟩
  rintro id ⟨row, present, named⟩
  exact ⟨row, same ▸ present, named⟩

theorem familyGrows_updateWhere
    {condition : Session → Bool}
    {rewrite : Session → Session}
    (sameId : ∀ row, (rewrite row).id = row.id)
    (sameToken : ∀ row, (rewrite row).tokenHash = row.tokenHash) :
    FamilyGrows start login world
      { world with sessions := Table.updateWhere condition rewrite world.sessions } where
  rows := by
    intro row present
    obtain ⟨old, stored, rfl⟩ := Table.mem_updateWhere.mp present
    refine .inr ⟨old, stored, ?_⟩
    split
    · exact ⟨(sameId old).symm, (sameToken old).symm⟩
    · exact ⟨rfl, rfl⟩
  stays := by
    rintro id ⟨row, present, named⟩
    refine ⟨_, Table.mem_updateWhere.mpr ⟨row, present, rfl⟩, ?_⟩
    split
    · exact (sameId row).trans named
    · exact named

/-- A new row is of the family. -/
theorem FamilyKept.create
    (kept : FamilyKept start login world)
    (app : Deployment)
    (session : Session)
    (input : Input) :
    OfFamily start login (RefreshStage.successorRow app session input world).id :=
  .inr (Nat.le_succ_of_le kept.grown)

end Family

/-! ## What a refresh of the family has read -/

namespace RefreshStage

variable {start world : World} {login : SessionId}

/-- Whatever the refresh has read or is about to read is of the family. -/
def Within (start : World) (login : SessionId) (stage : RefreshStage) (world : World) : Prop :=
  match stage with
  | findActive rawToken =>
      ∀ row ∈ world.sessions, row.tokenHash = ⟨rawToken⟩ → OfFamily start login row.id
  | findAny rawToken =>
      ∀ row ∈ world.sessions, row.tokenHash = ⟨rawToken⟩ → OfFamily start login row.id
  | readAge _ _ successorId => OfFamily start login successorId
  | findSuccessor _ successorId => OfFamily start login successorId
  | checkSuccessor _ successor =>
      ∀ session ∈ successor, OfFamily start login session.id ∧ world.HasSession session.id
  | findUser session => OfFamily start login session.id ∧ world.HasSession session.id
  | create _ session => OfFamily start login session.id ∧ world.HasSession session.id
  | supersede _ session created =>
      (OfFamily start login session.id ∧ world.HasSession session.id) ∧
        OfFamily start login created.2.id
  | _ => True

theorem Within.mono
    {stage : RefreshStage}
    {after : World}
    (within : stage.Within start login world)
    (grows : FamilyGrows start login world after) :
    stage.Within start login after := by
  obtain ⟨rows, kept⟩ := grows
  have token : ∀ {rawToken : RawToken},
      (∀ row ∈ world.sessions, row.tokenHash = ⟨rawToken⟩ → OfFamily start login row.id) →
      ∀ row ∈ after.sessions, row.tokenHash = ⟨rawToken⟩ → OfFamily start login row.id := by
    intro rawToken before row present hashed
    rcases rows row present with family | ⟨old, stored, sameId, sameToken⟩
    · exact family
    · exact sameId ▸ before old stored (sameToken.trans hashed)
  cases stage with
  | findActive rawToken => exact token within
  | findAny rawToken => exact token within
  | checkSuccessor presented successor =>
      exact fun session known => (within session known).imp id (kept _)
  | findUser session => exact within.imp id (kept _)
  | create user session => exact within.imp id (kept _)
  | supersede user session created => exact within.imp (And.imp id (kept _)) id
  | _ => exact within

theorem within_answered
    {presented : Session}
    {successor : Option Session}
    (within : ∀ session ∈ successor,
      OfFamily start login session.id ∧ world.HasSession session.id) :
    (answered presented successor).Within start login world := by
  cases successor with
  | some session => exact within session rfl
  | none =>
      unfold answered
      dsimp only
      split <;> trivial

theorem within_replayed
    {presented : Session}
    (links : ∀ id, presented.replacedByTokenId = some id → OfFamily start login id) :
    (replayed presented).Within start login world := by
  unfold replayed
  split
  · rename_i linked
    exact links _ linked
  · exact within_answered nofun

/-- Whatever a refresh of the family writes keeps the family together. -/
theorem write_family
    {app : Deployment}
    {stage : RefreshStage}
    (kept : FamilyKept start login world)
    (within : stage.Within start login world)
    (input : Input) :
    FamilyKept start login (write app stage input world) ∧
      FamilyGrows start login world (write app stage input world) := by
  cases stage with
  | endSessions presented =>
      exact ⟨kept.updateWhere (fun _ => rfl) fun _ _ _ _ linked => .inl linked,
        familyGrows_updateWhere (fun _ => rfl) fun _ => rfl⟩
  | refuse session =>
      exact ⟨kept.updateWhere (fun _ => rfl) fun _ _ _ _ linked => .inl linked,
        familyGrows_updateWhere (fun _ => rfl) fun _ => rfl⟩
  | supersede user session created =>
      refine ⟨kept.updateWhere (fun _ => rfl) fun _ _ _ id linked => .inr ?_,
        familyGrows_updateWhere (fun _ => rfl) fun _ => rfl⟩
      cases linked
      exact within.2
  | create user session =>
      unfold write
      dsimp only
      split
      · have family := kept.create app session input
        refine ⟨⟨?_, Nat.le_add_right_of_le kept.grown, ?_, ?_⟩, ⟨?_, ?_⟩⟩
        · intro row present ofFamily id linked
          rcases List.mem_cons.mp present with rfl | old
          · cases linked
          · exact kept.closed row old ofFamily id linked
        · refine List.nodup_cons.mpr ⟨fun present => ?_, kept.distinct⟩
          obtain ⟨row, stored, named⟩ := List.mem_map.mp present
          have fresh := kept.fresh row stored
          rw [show row.id = world.nextId + 1 from named] at fresh
          exact absurd (Nat.lt_of_succ_lt fresh) (Nat.lt_irrefl _)
        · intro row present
          rcases List.mem_cons.mp present with rfl | old
          · exact Nat.lt_succ_self _
          · exact Nat.lt_add_right 2 (kept.fresh row old)
        · intro row present
          rcases List.mem_cons.mp present with rfl | old
          · exact .inl family
          · exact .inr ⟨row, old, rfl, rfl⟩
        · rintro id ⟨row, stored, named⟩
          exact ⟨row, List.mem_cons_of_mem _ stored, named⟩
      · exact ⟨kept, familyGrows_of_same rfl⟩
  | sign user =>
      exact ⟨⟨kept.closed, kept.grown, kept.distinct, kept.fresh⟩, familyGrows_of_same rfl⟩
  | recordReuse presented =>
      exact ⟨⟨kept.closed, kept.grown, kept.distinct, kept.fresh⟩, familyGrows_of_same rfl⟩
  | _ => exact ⟨kept, familyGrows_of_same rfl⟩

/-- Where its call leads is of the family too. -/
theorem within_next
    {app : Deployment}
    {stage : RefreshStage}
    (kept : FamilyKept start login world)
    (within : stage.Within start login world)
    (input : Input) :
    (next app stage input world).Within start login world := by
  have found : ∀ {condition : Session → Bool} {row : Session},
      world.sessions.find? condition = some row → row ∈ world.sessions :=
    fun lookup => List.mem_of_find?_eq_some lookup
  cases stage with
  | findActive rawToken =>
      dsimp only [next]
      cases lookup : world.sessions.find? fun session =>
          session.tokenHash = ⟨rawToken⟩ && session.live input.now with
      | none => exact within
      | some session =>
          have matched := List.find?_some lookup
          simp only [Bool.and_eq_true, decide_eq_true_eq] at matched
          exact ⟨within session (found lookup) matched.1, session, found lookup, rfl⟩
  | findAny rawToken =>
      dsimp only [next]
      cases lookup : world.sessions.find? fun session => session.tokenHash = ⟨rawToken⟩ with
      | none => trivial
      | some presented =>
          have family := within presented (found lookup) (by simpa using List.find?_some lookup)
          exact within_replayed (kept.closed presented (found lookup) family)
  | readAge presented revokedAt successorId =>
      dsimp only [next]
      split
      · exact within
      · exact within_answered nofun
  | findSuccessor presented successorId =>
      intro session lookup
      have same : session.id = successorId := by simpa using List.find?_some lookup
      exact ⟨same ▸ within, session, found lookup, rfl⟩
  | checkSuccessor presented successor =>
      refine within_answered fun session known => within session ?_
      exact (Option.filter_eq_some_iff.mp known).1
  | findUser session =>
      dsimp only [next]
      cases activeUser session.userId world with
      | none => trivial
      | some user => exact within
  | refuse session =>
      dsimp only [next]
      split <;> trivial
  | create user session =>
      dsimp only [next]
      split
      · exact ⟨within, kept.create app session input⟩
      · trivial
  | supersede user session created =>
      dsimp only [next]
      split <;> trivial
  | _ => trivial

/-- Every turn keeps the family together and the refreshes inside it. -/
theorem step_family
    {app : Deployment}
    {crew : Crew RefreshStage World}
    (kept : FamilyKept start login crew.state)
    (within : ∀ member ∈ crew.members, member.Within start login crew.state)
    (turn : CrewTurn Input ApiError) :
    FamilyKept start login ((machine app).step crew turn).state ∧
      ∀ member ∈ ((machine app).step crew turn).members,
        member.Within start login ((machine app).step crew turn).state := by
  refine Machine.step_preserves _ (Within start login) kept within ?_ ?_ ?_
  · intro member chosen _
    have inside := within member (List.mem_of_getElem? chosen)
    obtain ⟨after, grows⟩ := write_family kept inside turn.input
    exact ⟨after, (within_next kept inside turn.input).mono grows⟩
  · intro member error _ _
    cases member <;> trivial
  · intro member other chosen _ present
    have inside := within member (List.mem_of_getElem? chosen)
    exact (within other present).mono (write_family kept inside turn.input).2

/-! ## Refreshes as a succession -/

/-- How far the refresh has come with replacing a session.  A successor read after
its end is not taken up. -/
def custody : RefreshStage → Custody SessionId
  | checkSuccessor _ (some successor) =>
      if successor.revokedAt = none then .taken successor.id else .idle
  | findUser session => .taken session.id
  | create _ session => .taken session.id
  | supersede _ session _ => .replaced session.id
  | _ => .idle

/-- The refresh is about to record a successor of the session. -/
def records (id : SessionId) : RefreshStage → Bool
  | supersede _ session _ => session.id = id
  | _ => false

/-- Only such a refresh is to retire the session. -/
theorem custody_ne_replaced
    {stage : RefreshStage}
    {id : SessionId}
    (other : stage.records id = false) :
    stage.custody ≠ .replaced id := by
  intro held
  cases stage with
  | supersede user session created =>
      cases held
      exact of_decide_eq_false other rfl
  | checkSuccessor presented successor =>
      cases successor with
      | none => cases held
      | some successor =>
          unfold custody at held
          dsimp only at held
          split at held <;> cases held
  | _ => cases held

end RefreshStage

section Succession

variable (start : World) (login : SessionId)

/-- The unrevoked sessions of the family. -/
def unrevoked (world : World) : Set SessionId :=
  { id | OfFamily start login id ∧ ∃ row ∈ world.sessions, row.id = id ∧ row.revokedAt = none }

/-- The sessions with a successor on record. -/
def succeeded (world : World) : Set SessionId :=
  { id | ∃ row ∈ world.sessions, row.id = id ∧ row.replacedByTokenId.isSome }

/-- The crew as the members of a succession. -/
def succession (crew : Crew RefreshStage World) : Succession Nat SessionId where
  live := unrevoked start login crew.state
  retired := succeeded crew.state
  custody position := (crew.members[position]?).elim .idle RefreshStage.custody

variable {start login} {world : World}

theorem unrevoked_revoke
    (condition : Session → Bool)
    (now : Time) :
    unrevoked start login
        { world with
          sessions := Table.updateWhere condition (Session.revoke now) world.sessions } ⊆
      unrevoked start login world := by
  rintro id ⟨family, row, present, named, current⟩
  obtain ⟨old, stored, rfl⟩ := Table.mem_updateWhere.mp present
  split at current
  · cases current
  · rename_i other
    rw [if_neg other] at named
    exact ⟨family, old, stored, named, current⟩

theorem succeeded_revoke
    (condition : Session → Bool)
    (now : Time) :
    succeeded
        { world with
          sessions := Table.updateWhere condition (Session.revoke now) world.sessions } =
      succeeded world := by
  ext id
  constructor
  · rintro ⟨row, present, named, linked⟩
    obtain ⟨old, stored, rfl⟩ := Table.mem_updateWhere.mp present
    refine ⟨old, stored, ?_, ?_⟩
    · split at named <;> exact named
    · split at linked <;> exact linked
  · rintro ⟨row, present, named, linked⟩
    refine ⟨_, Table.mem_updateWhere.mpr ⟨row, present, rfl⟩, ?_, ?_⟩
    · split <;> exact named
    · split <;> exact linked

theorem unrevoked_supersede
    (id successor : SessionId)
    (now : Time) :
    unrevoked start login
        { world with
          sessions := Table.updateWhere (fun row => row.id = id)
            (Session.supersede now successor) world.sessions } =
      unrevoked start login world \ {id} := by
  ext other
  constructor
  · rintro ⟨family, row, present, named, current⟩
    obtain ⟨old, stored, rfl⟩ := Table.mem_updateWhere.mp present
    split at current
    · cases current
    · rename_i different
      rw [if_neg different] at named
      refine ⟨⟨family, old, stored, named, current⟩, ?_⟩
      rintro rfl
      exact different (decide_eq_true named)
  · rintro ⟨⟨family, row, present, named, current⟩, different⟩
    have unchanged : ¬decide (row.id = id) = true := by
      rw [decide_eq_true_eq, named]
      exact different
    refine ⟨family, _, Table.mem_updateWhere.mpr ⟨row, present, rfl⟩, ?_⟩
    rw [if_neg unchanged]
    exact ⟨named, current⟩

theorem succeeded_supersede
    {id : SessionId}
    (onFile : world.HasSession id)
    (successor : SessionId)
    (now : Time) :
    succeeded
        { world with
          sessions := Table.updateWhere (fun row => row.id = id)
            (Session.supersede now successor) world.sessions } =
      insert id (succeeded world) := by
  ext other
  constructor
  · rintro ⟨row, present, named, linked⟩
    obtain ⟨old, stored, rfl⟩ := Table.mem_updateWhere.mp present
    split at linked
    · rename_i chosen
      rw [if_pos chosen] at named
      exact .inl (named.symm.trans (of_decide_eq_true chosen))
    · rename_i different
      rw [if_neg different] at named
      exact .inr ⟨old, stored, named, linked⟩
  · rintro (rfl | ⟨row, present, named, linked⟩)
    · obtain ⟨row, present, named⟩ := onFile
      refine ⟨_, Table.mem_updateWhere.mpr ⟨row, present, rfl⟩, ?_⟩
      rw [if_pos (decide_eq_true named)]
      exact ⟨named, rfl⟩
    · refine ⟨_, Table.mem_updateWhere.mpr ⟨row, present, rfl⟩, ?_, ?_⟩
      · split <;> exact named
      · split
        · rfl
        · exact linked

theorem unrevoked_create
    (kept : FamilyKept start login world)
    (app : Deployment)
    (session : Session)
    (input : Input)
    (nextId : Nat) :
    unrevoked start login
        { world with
          sessions := RefreshStage.successorRow app session input world :: world.sessions
          nextId } =
      insert (world.nextId + 1) (unrevoked start login world) := by
  ext id
  constructor
  · rintro ⟨family, row, present, named, current⟩
    rcases List.mem_cons.mp present with rfl | old
    · exact .inl named.symm
    · exact .inr ⟨family, row, old, named, current⟩
  · rintro (rfl | ⟨family, row, present, named, current⟩)
    · exact ⟨kept.create app session input, _, List.mem_cons_self, rfl, rfl⟩
    · exact ⟨family, row, List.mem_cons_of_mem _ present, named, current⟩

theorem succeeded_create
    (app : Deployment)
    (session : Session)
    (input : Input)
    (nextId : Nat) :
    succeeded
        { world with
          sessions := RefreshStage.successorRow app session input world :: world.sessions
          nextId } =
      succeeded world := by
  ext id
  constructor
  · rintro ⟨row, present, named, linked⟩
    rcases List.mem_cons.mp present with rfl | old
    · cases linked
    · exact ⟨row, old, named, linked⟩
  · rintro ⟨row, present, named, linked⟩
    exact ⟨row, List.mem_cons_of_mem _ present, named, linked⟩

theorem custody_of_member
    {crew : Crew RefreshStage World}
    {position : Nat}
    {member : RefreshStage}
    (chosen : crew.members[position]? = some member) :
    (succession start login crew).custody position = member.custody := by
  unfold succession
  dsimp only
  rw [chosen]
  rfl

/-- The move of one member changes what it holds, and what no other does. -/
theorem custody_set
    {crew : Crew RefreshStage World}
    {position : Nat}
    {member : RefreshStage}
    (chosen : crew.members[position]? = some member)
    (state : World)
    (moved : RefreshStage) :
    (succession start login ⟨state, crew.members.set position moved⟩).custody =
      Function.update (succession start login crew).custody position moved.custody := by
  have inside : position < crew.members.length := (List.getElem?_eq_some_iff.mp chosen).1
  funext other
  unfold succession
  dsimp only
  by_cases same : other = position
  · subst same
    rw [Function.update_self, List.getElem?_set_self inside]
    rfl
  · rw [Function.update_of_ne same, List.getElem?_set_ne (Ne.symm same)]

end Succession

/-! ## The guard that is missing -/

/-- The session has no successor yet, on record or about to be. -/
def unreplaced (id : SessionId) (crew : Crew RefreshStage World) : Bool :=
  (crew.state.sessions.all fun row => row.id ≠ id || row.replacedByTokenId.isNone) &&
    crew.members.all fun member => !member.records id

/-- A refresh that creates a successor of its session creates the first one, and
the update that records it is not rejected. -/
def guarded (crew : Crew RefreshStage World) (turn : CrewTurn Input ApiError) : Bool :=
  match crew.members[turn.member]?, turn.rejected with
  | some (.create _ session), none => unreplaced session.id crew
  | some (.supersede _ _ _), some _ => false
  | _, _ => true

theorem unreplaced_succession
    {start : World}
    {login id : SessionId}
    {crew : Crew RefreshStage World}
    (first : unreplaced id crew = true) :
    (succession start login crew).Unreplaced id := by
  unfold unreplaced at first
  rw [Bool.and_eq_true, List.all_eq_true, List.all_eq_true] at first
  refine ⟨?_, fun position held => ?_⟩
  · rintro ⟨row, present, rfl, linked⟩
    have unlinked := first.1 row present
    rw [Option.isSome_iff_ne_none] at linked
    simp only [ne_eq, not_true_eq_false, decide_false, Bool.false_or,
      Option.isNone_iff_eq_none] at unlinked
    exact linked unlinked
  · cases chosen : crew.members[position]? with
    | none =>
        unfold succession at held
        dsimp only at held
        rw [chosen] at held
        cases held
    | some member =>
        rw [custody_of_member chosen] at held
        have other := first.2 member (List.mem_of_getElem? chosen)
        exact RefreshStage.custody_ne_replaced (by simpa using other) held

/-! ## Every turn is a step of the succession -/

section Simulation

variable {start state : World} {login : SessionId} {crew : Crew RefreshStage World}
  {position : Nat} {member moved : RefreshStage}

/-- The member holds what it held, and sessions may have ended. -/
theorem step_still
    (chosen : crew.members[position]? = some member)
    (same : moved.custody = member.custody)
    (live : unrevoked start login state ⊆ unrevoked start login crew.state)
    (retired : succeeded state = succeeded crew.state) :
    Succession.Step (succession start login crew)
      (succession start login ⟨state, crew.members.set position moved⟩) := by
  refine .withdraw live retired ?_
  rw [custody_set chosen, same, ← custody_of_member chosen, Function.update_eq_self]

/-- The member has read a current session. -/
theorem step_take
    {id : SessionId}
    (chosen : crew.members[position]? = some member)
    (idle : member.custody = .idle)
    (takes : moved.custody = .taken id)
    (current : id ∈ unrevoked start login crew.state) :
    Succession.Step (succession start login crew)
      (succession start login ⟨crew.state, crew.members.set position moved⟩) := by
  refine .take position id ?_ current rfl rfl ?_
  · rw [custody_of_member chosen, idle]
  · rw [custody_set chosen, takes]

/-- The member stops before it has created anything. -/
theorem step_drop
    (chosen : crew.members[position]? = some member)
    (early : ∀ id, member.custody ≠ .replaced id)
    (idle : moved.custody = .idle) :
    Succession.Step (succession start login crew)
      (succession start login ⟨crew.state, crew.members.set position moved⟩) := by
  refine .drop position ?_ rfl rfl ?_
  · rw [custody_of_member chosen]
    exact early
  · rw [custody_set chosen, idle]

theorem custody_answered_none (presented : Session) :
    (RefreshStage.answered presented none).custody = .idle := by
  unfold RefreshStage.answered
  dsimp only
  split <;> rfl

theorem custody_replayed (presented : Session) :
    (RefreshStage.replayed presented).custody = .idle := by
  unfold RefreshStage.replayed
  split
  · rfl
  · exact custody_answered_none presented

/-- A call of a refresh of the family, where it creates first successors only. -/
theorem succession_call
    {app : Deployment}
    {input : Input}
    (kept : FamilyKept start login crew.state)
    (chosen : crew.members[position]? = some member)
    (within : member.Within start login crew.state)
    (first : ∀ user session, member = .create user session →
      unreplaced session.id crew = true) :
    Succession.Step (succession start login crew)
      (succession start login
        ⟨member.write app input crew.state,
          crew.members.set position (member.next app input crew.state)⟩) := by
  cases member with
  | findActive rawToken =>
      dsimp only [RefreshStage.next]
      cases lookup : crew.state.sessions.find? fun session =>
          session.tokenHash = ⟨rawToken⟩ && session.live input.now with
      | none => exact step_still chosen rfl subset_rfl rfl
      | some session =>
          have matched := List.find?_some lookup
          have present := List.mem_of_find?_eq_some lookup
          simp only [Session.live, Bool.and_eq_true, decide_eq_true_eq] at matched
          exact step_take chosen rfl rfl ⟨within session present matched.1, session, present,
            rfl, Option.isNone_iff_eq_none.mp matched.2.1⟩
  | findAny rawToken =>
      dsimp only [RefreshStage.next]
      cases crew.state.sessions.find? fun session => session.tokenHash = ⟨rawToken⟩ with
      | none => exact step_still chosen rfl subset_rfl rfl
      | some presented => exact step_still chosen (custody_replayed presented) subset_rfl rfl
  | readAge presented revokedAt successorId =>
      dsimp only [RefreshStage.next]
      split
      · exact step_still chosen rfl subset_rfl rfl
      · exact step_still chosen (custody_answered_none presented) subset_rfl rfl
  | findSuccessor presented successorId =>
      dsimp only [RefreshStage.next]
      cases lookup : crew.state.sessions.find? fun session => session.id = successorId with
      | none => exact step_still chosen rfl subset_rfl rfl
      | some successor =>
          have same : successor.id = successorId := by simpa using List.find?_some lookup
          by_cases current : successor.revokedAt = none
          · refine step_take chosen rfl (if_pos current) ⟨same ▸ within, successor,
              List.mem_of_find?_eq_some lookup, rfl, current⟩
          · exact step_still chosen (if_neg current) subset_rfl rfl
  | checkSuccessor presented successor =>
      dsimp only [RefreshStage.next]
      cases successor with
      | none => exact step_still chosen (custody_answered_none presented) subset_rfl rfl
      | some successor =>
          rw [Option.filter_some]
          split
          · rename_i live
            simp only [Session.live, Bool.and_eq_true] at live
            have current := Option.isNone_iff_eq_none.mp live.1
            exact step_still chosen (if_pos current).symm subset_rfl rfl
          · exact step_drop chosen (fun _ => RefreshStage.custody_ne_replaced rfl)
              (custody_answered_none presented)
  | endSessions presented =>
      exact step_still chosen rfl (unrevoked_revoke _ _) (succeeded_revoke _ _)
  | recordReuse presented => exact step_still chosen rfl subset_rfl rfl
  | findUser session =>
      dsimp only [RefreshStage.next]
      cases activeUser session.userId crew.state with
      | none => exact step_drop chosen (by simp [RefreshStage.custody]) rfl
      | some user => exact step_still chosen rfl subset_rfl rfl
  | refuse session =>
      dsimp only [RefreshStage.next]
      refine step_still chosen ?_ (unrevoked_revoke _ _) (succeeded_revoke _ _)
      split <;> rfl
  | create user session =>
      dsimp only [RefreshStage.next, RefreshStage.write]
      split
      · refine .put position session.id (crew.state.nextId + 1)
          (custody_of_member chosen) (unreplaced_succession (first user session rfl))
          (unrevoked_create kept app session input _) (succeeded_create app session input _) ?_
        rw [custody_set chosen]
        rfl
      · exact step_drop chosen (by simp [RefreshStage.custody]) rfl
  | supersede user session created =>
      have onFile := within.1.2
      have present : crew.state.sessions.any fun row => row.id = session.id := by
        obtain ⟨row, stored, named⟩ := onFile
        exact List.any_eq_true.mpr ⟨row, stored, decide_eq_true named⟩
      dsimp only [RefreshStage.next]
      rw [if_pos present]
      refine .retire position session.id (custody_of_member chosen)
        (unrevoked_supersede _ _ _) (succeeded_supersede onFile _ _) ?_
      rw [custody_set chosen]
      rfl
  | sign user => exact step_still chosen rfl subset_rfl rfl
  | finished outcome => exact step_still chosen rfl subset_rfl rfl

theorem succession_step
    {app : Deployment}
    {turn : CrewTurn Input ApiError}
    (kept : FamilyKept start login crew.state)
    (within : ∀ member ∈ crew.members, member.Within start login crew.state)
    (guard : guarded crew turn = true) :
    Succession.Step (succession start login crew)
      (succession start login ((RefreshStage.machine app).step crew turn)) := by
  rcases Machine.step_cases (RefreshStage.machine app) crew turn with
    ⟨-, same⟩ | ⟨member, chosen, ⟨taken, after⟩ | ⟨error, rejected, after⟩⟩
  · rw [same]
    exact .withdraw subset_rfl rfl rfl
  · rw [after]
    refine succession_call kept chosen (within member (List.mem_of_getElem? chosen)) ?_
    rintro user session rfl
    unfold guarded at guard
    rw [chosen, taken] at guard
    exact guard
  · rw [after]
    unfold guarded at guard
    rw [chosen, rejected] at guard
    cases member with
    | supersede user session created => cases guard
    | _ => exact step_drop chosen (fun _ => RefreshStage.custody_ne_replaced rfl) rfl

end Simulation

/-! ## Runs of refreshes -/

/-- Any number of refreshes that present tokens of one family, and the order of
their calls. -/
structure FamilyRefreshes (app : Deployment) where
  start : World
  /-- As every run of requests leaves the sessions. -/
  consistent : start.store.Consistent
  /-- The session the login created. -/
  login : SessionId
  tokens : List RawToken
  presented : ∀ rawToken ∈ tokens, ∀ row ∈ start.sessions,
    row.tokenHash = ⟨rawToken⟩ → start.Family login row.id
  schedule : List (CrewTurn Input ApiError)

namespace FamilyRefreshes

variable {app : Deployment} (run : FamilyRefreshes app)

/-- The requests with what is left of them at the end of the run. -/
def final : Crew (Service Unit) World :=
  Process.machine.run
    ⟨run.start, run.tokens.map fun rawToken => (AuthRequest.refresh rawToken).handle app⟩
    run.schedule

/-- The same requests at their control points. -/
def stages : Crew RefreshStage World :=
  ⟨run.start, run.tokens.map RefreshStage.findActive⟩

/-- All of them have finished. -/
def Finished : Prop := ∀ process ∈ run.final.members, process.finished = true

/-- At no time more than one session of the family is live. -/
def LeavesOne : Prop :=
  ∀ first ∈ run.final.state.sessions, ∀ second ∈ run.final.state.sessions,
    OfFamily run.start run.login first.id → OfFamily run.start run.login second.id →
      ∀ time, first.live time = true → second.live time = true → first = second

/-- No session gets a second successor in the run. -/
def Guarded : Prop :=
  Along (RefreshStage.machine app).step (fun crew turn => guarded crew turn = true)
    run.stages run.schedule

instance : Decidable run.Finished :=
  inferInstanceAs (Decidable (∀ process ∈ run.final.members, process.finished = true))

instance : Decidable run.Guarded :=
  inferInstanceAs (Decidable (Along _ _ _ _))

theorem final_eq :
    run.final = Machine.Implements.crew (RefreshStage.code app)
      ((RefreshStage.machine app).run run.stages run.schedule) := by
  rw [← (RefreshStage.implements app).run]
  unfold final Machine.Implements.crew stages
  rw [List.map_map]
  rfl

/-- What holds of the crew throughout. -/
structure Invariant (start : World) (login : SessionId) (crew : Crew RefreshStage World) :
    Prop where
  kept : FamilyKept start login crew.state
  within : ∀ member ∈ crew.members, member.Within start login crew.state
  single : (succession start login crew).Single

theorem invariant_start : Invariant run.start run.login run.stages where
  kept := familyKept_start run.consistent
  within := by
    intro member present
    obtain ⟨rawToken, given, rfl⟩ := List.mem_map.mp present
    exact fun row stored hashed => .inl (run.presented rawToken given row stored hashed)
  single := by
    refine Succession.Single.of_idle (fun position => ?_) ?_
    · unfold succession stages
      dsimp only
      rw [List.getElem?_map]
      cases run.tokens[position]? <;> rfl
    · rintro _ ⟨family, row, present, rfl, current⟩ _ ⟨alsoFamily, other, stored, rfl, alsoCurrent⟩
      have earlier : ∀ {row : Session}, row ∈ run.start.sessions →
          OfFamily run.start run.login row.id → run.start.Family run.login row.id :=
        fun stored ofFamily => ofFamily.resolve_right
          (Nat.not_le.mpr (run.consistent.idsFresh _ stored))
      exact unrevoked_of_family_eq run.consistent present stored (earlier present family)
        (earlier stored alsoFamily) current alsoCurrent

theorem invariant_step
    {start : World}
    {login : SessionId}
    {crew : Crew RefreshStage World}
    {turn : CrewTurn Input ApiError}
    (holds : Invariant start login crew)
    (guard : guarded crew turn = true) :
    Invariant start login ((RefreshStage.machine app).step crew turn) := by
  have family : FamilyKept start login ((RefreshStage.machine app).step crew turn).state ∧
      ∀ member ∈ ((RefreshStage.machine app).step crew turn).members,
        member.Within start login ((RefreshStage.machine app).step crew turn).state :=
    RefreshStage.step_family holds.kept holds.within turn
  exact ⟨family.1, family.2, (succession_step holds.kept holds.within guard).single holds.single⟩

/-- A refresh with no call left holds nothing. -/
theorem custody_of_finished
    {stage : RefreshStage}
    (finished : (stage.code app).finished = true) :
    stage.custody = .idle := by
  cases stage with
  | checkSuccessor presented successor => cases finished
  | findUser session => cases finished
  | create user session =>
      rw [RefreshStage.code_create] at finished
      cases finished
  | supersede user session created => cases finished
  | _ => rfl

end FamilyRefreshes

/-- Once all refreshes of a family have finished, at most one of its sessions is
live, in every run in which no session gets a second successor. -/
theorem refreshes_leave_one_live
    {app : Deployment}
    (run : FamilyRefreshes app)
    (guarded : run.Guarded)
    (finished : run.Finished) :
    run.LeavesOne := by
  have holds : FamilyRefreshes.Invariant run.start run.login
      ((RefreshStage.machine app).run run.stages run.schedule) :=
    Along.preserves (fun _ _ => FamilyRefreshes.invariant_step) run.invariant_start guarded
  unfold FamilyRefreshes.LeavesOne
  unfold FamilyRefreshes.Finished at finished
  rw [run.final_eq] at finished ⊢
  have idle : ∀ position, (succession run.start run.login
      ((RefreshStage.machine app).run run.stages run.schedule)).custody position = .idle := by
    intro position
    unfold succession
    dsimp only
    cases chosen : ((RefreshStage.machine app).run run.stages run.schedule).members[position]? with
    | none => rfl
    | some stage =>
        exact FamilyRefreshes.custody_of_finished (finished _
          (List.mem_map_of_mem (List.mem_of_getElem? chosen)))
  intro first present second stored family alsoFamily time live alsoLive
  simp only [Session.live, Bool.and_eq_true, Option.isNone_iff_eq_none] at live alsoLive
  have same : first.id = second.id := holds.single.live_eq idle
    ⟨family, first, present, rfl, live.1⟩ ⟨alsoFamily, second, stored, rfl, alsoLive.1⟩
  exact Table.eq_of_key_eq holds.kept.distinct present stored same

/-! ## One token presented twice -/

/-- Two refreshes with the token of the sample login, whose calls come in the given
order. -/
def presentedTwice (order : List Nat) : FamilyRefreshes sampleApp where
  start := samplePool.state
  consistent := serve_consistent sampleApp sampleWorld_initial.consistent _
  login := 2
  tokens := [1, 1]
  presented := by
    intro _ _ row stored _
    have only : ∀ row ∈ samplePool.state.sessions, row.id = 2 := by decide
    rw [only row stored]
    exact Relation.ReflTransGen.refl
  schedule := order.map fun member => { member, input := { now := 2000 } }

/-- The second request comes when the first has finished, and rotates the successor
of its session within the grace window. -/
theorem refreshes_leave_one_live_withinGrace :
    (presentedTwice [0, 0, 0, 0, 0, 1, 1, 1, 1, 1, 1, 1, 1, 1]).final.state.sessions.length = 3 ∧
      (presentedTwice [0, 0, 0, 0, 0, 1, 1, 1, 1, 1, 1, 1, 1, 1]).LeavesOne :=
  ⟨by decide, refreshes_leave_one_live _ (by decide) (by decide)⟩

/-- Both look the session up before either creates its successor, and both
successors stay live. -/
theorem both_refreshes_rotate :
    ¬∀ (app : Deployment) (run : FamilyRefreshes app), run.Finished → run.LeavesOne := by
  intro leavesOne
  have two : ∃ first ∈ (presentedTwice [0, 1, 0, 1, 0, 1, 0, 1, 0, 1]).final.state.sessions,
      ∃ second ∈ (presentedTwice [0, 1, 0, 1, 0, 1, 0, 1, 0, 1]).final.state.sessions,
        samplePool.state.nextId ≤ first.id ∧ samplePool.state.nextId ≤ second.id ∧
          first.live 2000 = true ∧ second.live 2000 = true ∧ first ≠ second := by
    decide
  obtain ⟨first, present, second, stored, new, alsoNew, live, alsoLive, different⟩ := two
  exact different (leavesOne _ (presentedTwice [0, 1, 0, 1, 0, 1, 0, 1, 0, 1]) (by decide)
    first present second stored (.inr new) (.inr alsoNew) 2000 live alsoLive)

end ConferenceContact
