import ConferenceContact.Foundation.Machine
import ConferenceContact.Model.Auth

/-!
# The row of a user

What the lookup and the update of a user's row do as the next call of a method.
-/

namespace ConferenceContact

open Process

/-- The row of a user. -/
def World.userRow (world : World) (id : UserId) : Option User :=
  world.users.find? fun user => user.id = id

/-- The row of a user, rewritten. -/
def World.rewriteUser (world : World) (id : UserId) (rewrite : User → User) : World :=
  { world with users := Table.updateWhere (fun user => user.id = id) rewrite world.users }

/-- The row of a user after a call that rewrites it. -/
theorem userRow_updated
    {before after : World}
    {id : UserId}
    {rewrite : User → User}
    (updated : after.users = Table.updateWhere (fun user => user.id = id) rewrite before.users)
    (sameId : ∀ user, (rewrite user).id = user.id) :
    after.userRow id = (before.userRow id).map rewrite := by
  unfold World.userRow
  rw [updated, Table.find?_updateWhere User.id _ _ _ _ sameId]
  cases found : before.users.find? fun user => user.id = id with
  | none => rfl
  | some user =>
      have same : user.id = id := by simpa using List.find?_some found
      simp [same]

theorem userRow_rewriteUser
    {id : UserId}
    {rewrite : User → User}
    (world : World)
    (sameId : ∀ user, (rewrite user).id = user.id) :
    (world.rewriteUser id rewrite).userRow id = (world.userRow id).map rewrite :=
  userRow_updated rfl sameId

/-- There is nothing to rewrite where there is no row. -/
theorem rewriteUser_eq_self
    {world : World}
    {id : UserId}
    (absent : world.userRow id = none)
    (rewrite : User → User) :
    world.rewriteUser id rewrite = world := by
  unfold World.rewriteUser
  rw [Table.updateWhere_eq_self]
  exact fun user present chosen => absurd chosen (List.find?_eq_none.mp absent user present)

namespace UsersService

variable {input : Input} {world : World}

@[simp] theorem effect_findById_bind
    (id : UserId)
    (rest : Option User → Service α) :
    (findById id >>= rest).effect input world = world := rfl

@[simp] theorem residual_findById_bind
    (id : UserId)
    (rest : Option User → Service α) :
    (findById id >>= rest).residual input world = rest (world.userRow id) := rfl

/-- The update of a user writes its row, and stops where there is none. -/
@[simp] theorem effect_update_bind
    (id : UserId)
    (rewrite : Time → User → User)
    (rest : User → Service α) :
    (update id rewrite >>= rest).effect input world =
      world.rewriteUser id (rewrite input.now) := by
  unfold update
  rw [effect_attempt_bind]
  cases found : world.users.find? fun user => user.id = id with
  | none => simp [rewriteUser_eq_self (show world.userRow id = none from found)]
  | some user => rfl

@[simp] theorem residual_update_bind
    (id : UserId)
    (rewrite : Time → User → User)
    (rest : User → Service α) :
    (update id rewrite >>= rest).residual input world =
      match world.userRow id with
      | some user => rest (rewrite input.now user)
      | none => throw .recordNotFound := by
  unfold update World.userRow
  rw [residual_attempt_bind]
  cases world.users.find? fun user => user.id = id <;> rfl

end UsersService
end ConferenceContact
