import ConferenceContact.Auth.UserRows
import ConferenceContact.Billing.Footprints
import ConferenceContact.Foundation.Crews

/-!
# Status changes of one account

An administrator suspends, reactivates or deletes an account, and its owner deletes
it.  Each of these reads the account first and writes its status later, without
another look at it.  A deletion is never taken back by a deletion, but a suspension
or a reactivation takes it back exactly if it is written over one.
-/

namespace ConferenceContact

open Process

/-- The status of an account, if it is on file. -/
def statusOf (userId : UserId) (world : World) : Option AccountStatus :=
  (world.userRow userId).map (·.status)

/-- A request about the status of one account. -/
inductive StatusRequest
  | suspendUser (adminUserId : UserId)
  | reactivateUser (adminUserId : UserId)
  | deleteUser (adminUserId : UserId)
  | deleteAccount (password : String)

/-- The method behind a request. -/
def StatusRequest.handle (app : Deployment) (userId : UserId) : StatusRequest → Service Unit
  | suspendUser adminUserId => AdminService.suspendUser app adminUserId userId
  | reactivateUser adminUserId => AdminService.reactivateUser adminUserId userId
  | deleteUser adminUserId => AdminService.deleteUser app adminUserId userId
  | deleteAccount password => AuthService.deleteAccount app userId password

/-! ## Requests that never take a deletion back -/

/-- An account that is deleted stays so. -/
def KeepsDeleted (userId : UserId) (before after : World) : Prop :=
  statusOf userId before = some .deleted → statusOf userId after = some .deleted

instance (userId : UserId) : IsPreorder World (KeepsDeleted userId) where
  refl _ := id
  trans _ _ _ first second := fun deleted => second (first deleted)

section

variable {userId : UserId}

theorem keepsDeleted_of_users
    {before after : World}
    (same : after.users = before.users) :
    KeepsDeleted userId before after := by
  intro deleted
  rw [statusOf, World.userRow, same]
  exact deleted

/-- An update of the account that makes it deleted, or leaves it so. -/
theorem keepsDeleted_update
    {rewrite : Time → User → User}
    (sameId : ∀ now user, (rewrite now user).id = user.id)
    (deletes : ∀ now user, user.status = .deleted → (rewrite now user).status = .deleted) :
    (UsersService.update userId rewrite).Respects (KeepsDeleted userId) := by
  refine Respects.attempt fun input world value after updated => ?_
  intro deleted
  split at updated
  · cases updated
  · cases updated
    obtain ⟨user, found, isDeleted⟩ := Option.map_eq_some_iff.mp deleted
    rw [statusOf, userRow_updated rfl (sameId input.now), found]
    exact congrArg some (deletes _ _ isDeleted)

theorem keepsDeleted_record (actor : Option UserId) (action : AuditAction) :
    (AuditService.record actor action).Respects (KeepsDeleted userId) :=
  Respects.command fun _ _ => keepsDeleted_of_users rfl

theorem keepsDeleted_revokeUser (app : Deployment) (target : UserId) :
    (TokenRevocationService.revokeUser app target).Respects (KeepsDeleted userId) :=
  Footprint.revokeUser (fun _ _ => keepsDeleted_of_users rfl) app target

theorem keepsDeleted_revokeAllForUser (target : UserId) :
    (SessionsService.revokeAllForUser target).Respects (KeepsDeleted userId) :=
  Respects.command fun _ _ => keepsDeleted_of_users rfl

theorem keepsDeleted_deleteUser (app : Deployment) (adminUserId : UserId) :
    (AdminService.deleteUser app adminUserId userId).Respects (KeepsDeleted userId) :=
  Footprint.deleteUser (keepsDeleted_update (fun _ _ => rfl) fun _ _ _ => rfl)
    (keepsDeleted_revokeAllForUser _) (fun _ _ => keepsDeleted_of_users rfl) keepsDeleted_record
    app adminUserId

theorem keepsDeleted_eraseAccount (activeSubscription : Option SubscriptionRow) :
    (AuthService.eraseAccount userId activeSubscription).Respects (KeepsDeleted userId) := by
  refine Footprint.eraseAccount fun now world subscriptions _ deleted => ?_
  obtain ⟨user, found, -⟩ := Option.map_eq_some_iff.mp deleted
  rw [statusOf, userRow_updated rfl (by simp), found]
  rfl

theorem keepsDeleted_deleteAccount (app : Deployment) (password : String) :
    (AuthService.deleteAccount app userId password).Respects (KeepsDeleted userId) :=
  Footprint.deleteAccount (fun _ _ => keepsDeleted_of_users rfl) keepsDeleted_eraseAccount
    (keepsDeleted_revokeUser _ _) keepsDeleted_record password

end

/-! ## The control points -/

/-- The two changes of a status that are not final. -/
inductive StatusChange
  | suspension
  | reactivation

namespace StatusChange

/-- The status an account must have. -/
def expected : StatusChange → AccountStatus
  | suspension => .active
  | reactivation => .suspended

/-- The status that is written. -/
def written : StatusChange → AccountStatus
  | suspension => .suspended
  | reactivation => .active

/-- The error for an account of another status. -/
def refusal (change : StatusChange) (status : AccountStatus) : ApiError :=
  match change with
  | suspension => .badRequest ("Cannot suspend an account with status " ++ status.text)
  | reactivation => .badRequest ("Cannot reactivate an account with status " ++ status.text)

/-- What follows the write. -/
def afterwards (app : Deployment) (adminUserId userId : UserId) : StatusChange → Service Unit
  | suspension => do
      SessionsService.revokeAllForUser userId
      TokenRevocationService.revokeUser app userId
      AuditService.record (some adminUserId) .adminUserSuspended
  | reactivation => AuditService.record (some adminUserId) .adminUserReactivated

end StatusChange

/-- The point a request has come to. -/
inductive StatusStage
  /-- The lookup of the account. -/
  | findTarget (change : StatusChange) (adminUserId : UserId)
  /-- The update of its status. -/
  | writeStatus (change : StatusChange) (adminUserId : UserId)
  /-- Any other point. -/
  | rest (process : Service Unit)

namespace StatusStage

variable (app : Deployment) (userId : UserId)

/-- The code left at a point. -/
def code : StatusStage → Service Unit
  | findTarget change adminUserId => do
      let some target ← UsersService.findById userId
        | throw (.notFound "User not found")
      if target.status ≠ change.expected then
        throw (change.refusal target.status)
      let _ ← UsersService.update userId fun _ user => { user with status := change.written }
      change.afterwards app adminUserId userId
  | writeStatus change adminUserId => do
      let _ ← UsersService.update userId fun _ user => { user with status := change.written }
      change.afterwards app adminUserId userId
  | rest process => process

/-- The point a request starts at. -/
def start : StatusRequest → StatusStage
  | .suspendUser adminUserId =>
      if adminUserId = userId then
        rest (throw (.forbidden "You cannot suspend your own account"))
      else findTarget .suspension adminUserId
  | .reactivateUser adminUserId => findTarget .reactivation adminUserId
  | .deleteUser adminUserId => rest (AdminService.deleteUser app adminUserId userId)
  | .deleteAccount password => rest (AuthService.deleteAccount app userId password)

theorem code_start (request : StatusRequest) :
    code app userId (start app userId request) = request.handle app userId := by
  cases request with
  | suspendUser adminUserId =>
      unfold start StatusRequest.handle AdminService.suspendUser
      dsimp only
      split <;> rfl
  | _ => rfl

/-- What a change of the account's status does call by call. -/
def machine : Machine StatusStage Input ApiError World where
  effect
    | findTarget _ _, _, world => world
    | writeStatus change _, _, world =>
        world.rewriteUser userId fun user => { user with status := change.written }
    | rest process, input, world => process.effect input world
  next
    | findTarget change adminUserId, _, world =>
        match statusOf userId world with
        | none => rest (throw (.notFound "User not found"))
        | some status =>
            if status ≠ change.expected then rest (throw (change.refusal status))
            else writeStatus change adminUserId
    | writeStatus change adminUserId, _, world =>
        match statusOf userId world with
        | none => rest (throw .recordNotFound)
        | some _ => rest (change.afterwards app adminUserId userId)
    | rest process, input, world => rest (process.residual input world)
  abort
    | rest process, error => rest (process.rejected error)
    | _, error => rest (throw error)

theorem implements : (machine app userId).Implements (code app userId) where
  effect point input world := by
    cases point with
    | writeStatus change adminUserId => exact UsersService.effect_update_bind userId _ _
    | _ => rfl
  next point input world := by
    cases point with
    | findTarget change adminUserId =>
        show Process.residual input world (UsersService.findById userId >>= _) = code app userId
          (match statusOf userId world with
            | none => rest (throw (.notFound "User not found"))
            | some status =>
                if status ≠ change.expected then rest (throw (change.refusal status))
                else writeStatus change adminUserId)
        rw [UsersService.residual_findById_bind, statusOf]
        cases world.userRow userId with
        | none => rfl
        | some target =>
            dsimp only [Option.map_some]
            split <;> rfl
    | writeStatus change adminUserId =>
        show Process.residual input world (UsersService.update userId _ >>= _) = code app userId
          (match statusOf userId world with
            | none => rest (throw .recordNotFound)
            | some _ => rest (change.afterwards app adminUserId userId))
        rw [UsersService.residual_update_bind, statusOf]
        cases world.userRow userId <;> rfl
    | rest process => rfl
  abort point error := by
    cases point <;> rfl

/-! ## What a step does to a deletion -/

/-- What is left without a change of the status keeps a deletion. -/
def Harmless (point : StatusStage) : Prop :=
  match point with
  | rest process => process.Respects (KeepsDeleted userId)
  | _ => True

theorem harmless_start (request : StatusRequest) :
    (start app userId request).Harmless userId := by
  cases request with
  | suspendUser adminUserId =>
      unfold start
      dsimp only
      split <;> trivial
  | reactivateUser adminUserId => trivial
  | deleteUser adminUserId => exact keepsDeleted_deleteUser app adminUserId
  | deleteAccount password => exact keepsDeleted_deleteAccount app password

theorem harmless_afterwards (change : StatusChange) (adminUserId : UserId) :
    (change.afterwards app adminUserId userId).Respects (KeepsDeleted userId) := by
  cases change with
  | suspension =>
      refine Respects.bind (keepsDeleted_revokeAllForUser _) fun _ => ?_
      refine Respects.bind (keepsDeleted_revokeUser _ _) fun _ => ?_
      exact keepsDeleted_record _ _
  | reactivation => exact keepsDeleted_record _ _

theorem harmless_next
    {point : StatusStage}
    (harmless : point.Harmless userId)
    (input : Input)
    (world : World) :
    ((machine app userId).next point input world).Harmless userId := by
  cases point with
  | findTarget change adminUserId =>
      unfold machine
      dsimp only
      split
      · trivial
      · split <;> trivial
  | writeStatus change adminUserId =>
      unfold machine
      dsimp only
      split
      · trivial
      · exact harmless_afterwards app userId change adminUserId
  | rest process => exact Respects.residual harmless input world

theorem harmless_abort
    {point : StatusStage}
    (harmless : point.Harmless userId)
    (error : ApiError) :
    ((machine app userId).abort point error).Harmless userId := by
  cases point with
  | rest process => exact Respects.rejected harmless error
  | _ => trivial

/-- Whether the next call writes a status that is not final. -/
def writes (point : StatusStage) : Bool :=
  match point with
  | writeStatus _ _ => true
  | _ => false

/-- A call takes a deletion back exactly if it writes another status. -/
theorem deleted_effect_iff
    {point : StatusStage}
    (harmless : point.Harmless userId)
    (input : Input)
    {world : World}
    (deleted : statusOf userId world = some .deleted) :
    statusOf userId ((machine app userId).effect point input world) = some .deleted ↔
      point.writes = false := by
  cases point with
  | findTarget change adminUserId => exact iff_of_true deleted rfl
  | writeStatus change adminUserId =>
      refine iff_of_false ?_ nofun
      obtain ⟨user, found, -⟩ := Option.map_eq_some_iff.mp deleted
      have after : statusOf userId ((machine app userId).effect
          (writeStatus change adminUserId) input world) = some change.written := by
        rw [statusOf, userRow_updated rfl (by simp), found]
        rfl
      rw [after]
      cases change <;> exact nofun
  | rest process => exact iff_of_true (harmless.effect input world deleted) rfl

end StatusStage
/-! ## Requests in any order of their calls -/

/-- Requests about the status of one account. -/
def statusRequests
    (app : Deployment)
    (userId : UserId)
    (requests : List StatusRequest)
    (world : World) : Crew (Service Unit) World where
  state := world
  members := requests.map (·.handle app userId)

namespace StatusStage

/-- The requests, by the points they start at. -/
def starts
    (app : Deployment)
    (userId : UserId)
    (requests : List StatusRequest)
    (world : World) : Crew StatusStage World where
  state := world
  members := requests.map (start app userId)

/-- A suspension or a reactivation writes its status in this turn. -/
def WritesStatus (crew : Crew StatusStage World) (turn : CrewTurn Input ApiError) : Prop :=
  turn.rejected = none ∧ ∃ point, crew.members[turn.member]? = some point ∧ point.writes = true

variable {app : Deployment} {userId : UserId}

theorem run_statusRequests
    (requests : List StatusRequest)
    (world : World)
    (schedule : List (CrewTurn Input ApiError)) :
    Process.machine.run (statusRequests app userId requests world) schedule =
      Machine.Implements.crew (code app userId)
        ((machine app userId).run (starts app userId requests world) schedule) := by
  have members : (requests.map (start app userId)).map (code app userId) =
      requests.map (·.handle app userId) := by
    simp [code_start, Function.comp_def]
  rw [← (implements app userId).run]
  simp only [Machine.Implements.crew, statusRequests, starts, members]

theorem harmless_step
    {crew : Crew StatusStage World}
    (harmless : ∀ point ∈ crew.members, point.Harmless userId)
    (turn : CrewTurn Input ApiError) :
    ∀ point ∈ ((machine app userId).step crew turn).members, point.Harmless userId := by
  refine (Machine.step_keeps (fun _ => True) ?_ ?_ trivial harmless turn).2
  · intro point input world harmless _
    exact ⟨trivial, harmless_next app userId harmless input world⟩
  · intro point error harmless
    exact harmless_abort app userId harmless error

/-- A turn takes a deletion back exactly if it writes another status. -/
theorem deleted_step_iff
    {crew : Crew StatusStage World}
    (harmless : ∀ point ∈ crew.members, point.Harmless userId)
    (turn : CrewTurn Input ApiError)
    (deleted : statusOf userId crew.state = some .deleted) :
    statusOf userId ((machine app userId).step crew turn).state = some .deleted ↔
      ¬ WritesStatus crew turn := by
  unfold WritesStatus
  rcases Machine.step_cases (machine app userId) crew turn with
    ⟨absent, same⟩ | ⟨point, chosen, ⟨taken, after⟩ | ⟨error, rejected, after⟩⟩
  · rw [same]
    simp [deleted, absent]
  · rw [after]
    have decided := deleted_effect_iff app userId (harmless point (List.mem_of_getElem? chosen))
      turn.input deleted
    simp [decided, chosen, taken]
  · rw [after]
    simp [deleted, rejected]

end StatusStage

/-- However the calls of the requests about one account interleave, and whichever of them
fail, its deletion is never taken back exactly if no suspension and no reactivation
writes its status while the account is deleted. -/
theorem deletion_absorbing_iff
    (app : Deployment)
    (userId : UserId)
    (requests : List StatusRequest)
    (world : World)
    (schedule : List (CrewTurn Input ApiError)) :
    (∀ earlier later, earlier ++ later <+: schedule →
      statusOf userId
          (Process.machine.run (statusRequests app userId requests world) earlier).state =
        some .deleted →
      statusOf userId
          (Process.machine.run (statusRequests app userId requests world)
            (earlier ++ later)).state =
        some .deleted) ↔
    Along (StatusStage.machine app userId).step
      (fun crew turn => statusOf userId crew.state = some .deleted →
        ¬ StatusStage.WritesStatus crew turn)
      (StatusStage.starts app userId requests world) schedule := by
  simp only [StatusStage.run_statusRequests]
  have harmless : ∀ point ∈ (StatusStage.starts app userId requests world).members,
      point.Harmless userId := by
    intro point present
    obtain ⟨request, -, rfl⟩ := List.mem_map.mp present
    exact StatusStage.harmless_start app userId request
  let Harmless (crew : Crew StatusStage World) : Prop :=
    ∀ point ∈ crew.members, point.Harmless userId
  let Deleted (crew : Crew StatusStage World) : Prop := statusOf userId crew.state = some .deleted
  have kept : ∀ crew turn, Harmless crew →
      Harmless ((StatusStage.machine app userId).step crew turn) :=
    fun crew turn harmless => StatusStage.harmless_step harmless turn
  have decides : ∀ crew turn, Harmless crew → Deleted crew →
      (Deleted ((StatusStage.machine app userId).step crew turn) ↔
        ¬ StatusStage.WritesStatus crew turn) :=
    fun crew turn harmless deleted => StatusStage.deleted_step_iff harmless turn deleted
  exact Along.absorbing_iff kept decides harmless

/-- A reactivation that read the account before its deletion takes the deletion back. -/
theorem deletion_not_absorbing :
    let world : World :=
      { users := [{ id := 1, email := "a@b.com", passwordHash := "", status := .suspended }] }
    let requests : List StatusRequest := [.reactivateUser 2, .deleteUser 3]
    let turn (member : Nat) : CrewTurn Input ApiError := { member, input := { now := 0 } }
    let reached schedule :=
      (Process.machine.run (statusRequests {} 1 requests world) schedule).state
    statusOf 1 (reached [turn 0, turn 1, turn 1]) = some .deleted ∧
      statusOf 1 (reached [turn 0, turn 1, turn 1, turn 0]) = some .active := by
  refine ⟨?_, ?_⟩ <;> rfl

end ConferenceContact
