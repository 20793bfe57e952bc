import ConferenceContact.Foundation.Crews
import ConferenceContact.Foundation.Table
import ConferenceContact.Model.Billing

/-!
# The Stripe customer of a user

Any number of calls may look for the Stripe customer of one user at the same time.
Each may create a customer of its own, but only one gets to store its id, and the
others return the stored one.
-/

namespace ConferenceContact

open Process

/-- The customer id that is stored for a user. -/
def storedCustomer (userId : UserId) (world : World) : Option Nat :=
  (world.users.find? fun user => user.id = userId).bind (·.stripeCustomerId)

/-- The user's row is on file, once. -/
structure HasUser (userId : UserId) (world : World) : Prop where
  distinct : (world.users.map (·.id)).Nodup
  present : ∃ user, (world.users.find? fun user => user.id = userId) = some user

/-- A user whose id is among those of the accounts has an account. -/
theorem HasUser.of_mem
    {userId : UserId}
    {world : World}
    (distinct : (world.users.map (·.id)).Nodup)
    (known : userId ∈ world.users.map (·.id)) : HasUser userId world where
  distinct
  present := by
    obtain ⟨user, stored, same⟩ := List.mem_map.mp known
    rw [← Option.isSome_iff_exists, List.find?_isSome]
    exact ⟨user, stored, decide_eq_true same⟩

/-- The call a search for a customer is about to make. -/
inductive CustomerStage
  /-- The lookup of the user. -/
  | findUser
  /-- The creation in Stripe. -/
  | create
  /-- The update of a user without a customer. -/
  | claim (customer : Nat)
  /-- The lookup of the customer that was stored in the meantime. -/
  | findWinner (customer : Nat)
  | finished (outcome : Except ApiError Nat)

namespace CustomerStage

variable (userId : UserId)

/-- The code left of `getOrCreateStripeCustomer`. -/
def code : CustomerStage → Service Nat
  | findUser => StripeCustomerService.getOrCreateStripeCustomer userId
  | create => do
      let customer ← StripeService.createCustomer
      let claimed ← StripeCustomerService.claimStripeCustomerId userId customer
      if claimed then
        return customer
      else
        let winner ← UsersService.findById userId
        return (winner.bind (·.stripeCustomerId)).getD customer
  | claim customer => do
      let claimed ← StripeCustomerService.claimStripeCustomerId userId customer
      if claimed then
        return customer
      else
        let winner ← UsersService.findById userId
        return (winner.bind (·.stripeCustomerId)).getD customer
  | findWinner customer => do
      let winner ← UsersService.findById userId
      return (winner.bind (·.stripeCustomerId)).getD customer
  | finished (.ok customer) => return customer
  | finished (.error error) => throw error

/-- The row that a claim is after. -/
def unclaimed (user : User) : Bool :=
  user.id = userId ∧ user.stripeCustomerId = none

/-- The write at a stage. -/
def write (stage : CustomerStage) (world : World) : World :=
  match stage with
  | create => { world with nextId := world.nextId + 1 }
  | claim customer =>
      { world with
        users := Table.updateWhere (unclaimed userId)
          (fun user => { user with stripeCustomerId := some customer }) world.users }
  | _ => world

/-- Where the call at a stage leads. -/
def next (stage : CustomerStage) (world : World) : CustomerStage :=
  match stage with
  | findUser =>
      match storedCustomer userId world with
      | some customer => finished (.ok customer)
      | none => create
  | create => claim world.nextId
  | claim customer =>
      if world.users.any (unclaimed userId) then finished (.ok customer)
      else findWinner customer
  | findWinner customer => finished (.ok ((storedCustomer userId world).getD customer))
  | finished outcome => finished outcome

/-- Where the rejection of the call at a stage leads. -/
def abort (stage : CustomerStage) (error : ApiError) : CustomerStage :=
  match stage with
  | finished outcome => finished outcome
  | _ => finished (.error error)

/-- What the creation of a customer does call by call. -/
def machine : Machine CustomerStage Input ApiError World where
  effect stage _ world := write userId stage world
  next stage _ world := next userId stage world
  abort := abort

theorem implements : (machine userId).Implements (code userId) where
  effect stage input world := by
    cases stage with
    | finished outcome => cases outcome <;> rfl
    | _ => rfl
  next stage input world := by
    cases stage with
    | findUser =>
        show Process.residual input world (StripeCustomerService.getOrCreateStripeCustomer _) = _
        unfold StripeCustomerService.getOrCreateStripeCustomer UsersService.findById
        rw [residual_query_bind]
        show _ = code userId (match storedCustomer userId world with
          | some customer => finished (.ok customer)
          | none => create)
        unfold storedCustomer
        cases (world.users.find? fun user => user.id = userId).bind (·.stripeCustomerId) <;> rfl
    | claim customer =>
        show Process.residual input world (StripeCustomerService.claimStripeCustomerId _ _ >>= _)
          = code userId (if world.users.any (unclaimed userId) then finished (.ok customer)
            else findWinner customer)
        unfold StripeCustomerService.claimStripeCustomerId
        rw [residual_attempt_bind]
        dsimp only
        unfold unclaimed
        split <;> rfl
    | finished outcome => cases outcome <;> rfl
    | _ => rfl
  abort stage error := by
    cases stage with
    | finished outcome => cases outcome <;> rfl
    | _ => rfl

/-! ## What a write does to the user -/

/-- The row a claim leaves of a row. -/
theorem storedCustomer_claim
    {world : World}
    (hasUser : HasUser userId world)
    (customer : Nat) :
    storedCustomer userId (write userId (claim customer) world) =
      some ((storedCustomer userId world).getD customer) := by
  obtain ⟨user, found⟩ := hasUser.present
  have sameId : user.id = userId := by simpa using List.find?_some found
  unfold storedCustomer write
  dsimp only
  rw [Table.find?_updateWhere User.id _ _ _ _ (by simp), found]
  cases held : user.stripeCustomerId with
  | none => simp [unclaimed, held, sameId]
  | some stored => simp [unclaimed, held]

/-- A stored customer stays. -/
theorem keeps_stored
    {world : World}
    (hasUser : HasUser userId world)
    {customer : Nat}
    (stored : storedCustomer userId world = some customer)
    (stage : CustomerStage) :
    storedCustomer userId (write userId stage world) = some customer := by
  cases stage with
  | claim other => simp [storedCustomer_claim userId hasUser, stored]
  | _ => exact stored

/-- A claim succeeds exactly if the user has no customer. -/
theorem any_unclaimed
    {world : World}
    (hasUser : HasUser userId world) :
    world.users.any (unclaimed userId) = (storedCustomer userId world).isNone := by
  obtain ⟨user, found⟩ := hasUser.present
  have decided := Table.any_key_and hasUser.distinct
    (fun user => decide (user.stripeCustomerId = none)) userId
  rw [found, Option.any_some] at decided
  have sameTest : unclaimed userId = fun user =>
      decide (user.id = userId) && decide (user.stripeCustomerId = none) := by
    funext user
    simp [unclaimed]
  rw [sameTest, decided, storedCustomer, found, Option.bind_some]
  cases user.stripeCustomerId <;> rfl

/-- The user stays on file, once. -/
theorem keeps_user
    {world : World}
    (hasUser : HasUser userId world)
    (stage : CustomerStage) :
    HasUser userId (write userId stage world) := by
  cases stage with
  | claim customer =>
      obtain ⟨user, found⟩ := hasUser.present
      refine ⟨?_, ?_⟩
      · dsimp only [write]
        rw [Table.map_updateWhere User.id _ _ _ (by simp)]
        exact hasUser.distinct
      · dsimp only [write]
        rw [Table.find?_updateWhere User.id _ _ _ _ (by simp), found]
        exact ⟨_, rfl⟩
  | _ => exact ⟨hasUser.distinct, hasUser.present⟩

/-! ## What a stage knows -/

/-- A call that lost its claim has a winner to find, a call that has returned returned
the stored customer, and a call that has failed was rejected. -/
def Knows (rejections : ApiError → Prop) (stage : CustomerStage) (world : World) : Prop :=
  match stage with
  | findWinner _ => (storedCustomer userId world).isSome
  | finished (.ok customer) => storedCustomer userId world = some customer
  | finished (.error error) => rejections error
  | _ => True

variable {rejections : ApiError → Prop}

theorem knows_next
    {stage : CustomerStage}
    {world : World}
    (hasUser : HasUser userId world)
    (knows : stage.Knows userId rejections world) :
    (next userId stage world).Knows userId rejections (write userId stage world) := by
  cases stage with
  | findUser =>
      unfold next
      cases stored : storedCustomer userId world with
      | none => trivial
      | some customer => exact stored
  | create => trivial
  | claim customer =>
      have claimed := storedCustomer_claim userId hasUser customer
      unfold next
      dsimp only
      rw [any_unclaimed userId hasUser]
      cases stored : storedCustomer userId world with
      | none =>
          rw [stored] at claimed
          exact claimed
      | some winner =>
          have winnerStays := keeps_stored userId hasUser stored (claim customer)
          simp [Knows, winnerStays]
  | findWinner customer =>
      obtain ⟨winner, stored⟩ := Option.isSome_iff_exists.mp knows
      unfold next
      simp only [stored]
      exact stored
  | finished outcome => exact knows

/-- What a stage knows stays true. -/
theorem knows_stable
    {stage other : CustomerStage}
    {world : World}
    (hasUser : HasUser userId world)
    (knows : other.Knows userId rejections world) :
    other.Knows userId rejections (write userId stage world) := by
  cases other with
  | findWinner customer =>
      obtain ⟨winner, stored⟩ := Option.isSome_iff_exists.mp knows
      exact Option.isSome_iff_exists.mpr ⟨winner, keeps_stored userId hasUser stored stage⟩
  | finished outcome =>
      cases outcome with
      | ok customer => exact keeps_stored userId hasUser knows stage
      | error error => exact knows
  | _ => trivial

/-! ## How far a call has come -/

/-- The most calls that are left. -/
def left : CustomerStage → Nat
  | findUser => 4
  | create => 3
  | claim _ => 2
  | findWinner _ => 1
  | finished _ => 0

theorem left_next (stage : CustomerStage) (world : World) :
    left (next userId stage world) ≤ left stage - 1 := by
  cases stage with
  | findUser =>
      unfold next
      cases storedCustomer userId world <;> simp [left]
  | claim customer =>
      unfold next
      dsimp only
      split <;> simp [left]
  | _ => simp [next, left]

theorem left_abort (stage : CustomerStage) (error : ApiError) :
    left (abort stage error) ≤ left stage - 1 := by
  cases stage <;> simp [abort, left]

end CustomerStage

/-! ## Any number of calls -/

/-- A crew of calls for the customer of one user. -/
def customerCalls (userId : UserId) (calls : Nat) (world : World) : Crew (Service Nat) World where
  state := world
  members := List.replicate calls (StripeCustomerService.getOrCreateStripeCustomer userId)

namespace CustomerStage

/-- The calls, by their stages. -/
def start (calls : Nat) (world : World) : Crew CustomerStage World where
  state := world
  members := List.replicate calls findUser

variable {userId : UserId} {calls : Nat} {world : World}

/-- The calls are at some stage each. -/
theorem run_customerCalls (schedule : List (CrewTurn Input ApiError)) :
    Process.machine.run (customerCalls userId calls world) schedule =
      Machine.Implements.crew (code userId)
        ((machine userId).run (start calls world) schedule) := by
  rw [← (implements userId).run]
  simp [Machine.Implements.crew, customerCalls, start, code]

/-- After a run the user is on file, and every call knows what it should. -/
theorem run_knows
    (hasUser : HasUser userId world)
    {schedule : List (CrewTurn Input ApiError)}
    (allowed : ∀ turn ∈ schedule, ∀ error, turn.rejected = some error → rejections error) :
    HasUser userId ((machine userId).run (start calls world) schedule).state ∧
      ∀ stage ∈ ((machine userId).run (start calls world) schedule).members,
        stage.Knows userId rejections
          ((machine userId).run (start calls world) schedule).state := by
  refine Machine.run_preserves (HasUser userId) (Knows userId rejections) ?_ ?_ ?_ hasUser ?_
    allowed
  · intro stage input world hasUser knows
    exact ⟨keeps_user userId hasUser stage, knows_next userId hasUser knows⟩
  · intro stage error world hasUser knows allowed
    cases stage with
    | finished outcome => exact knows
    | _ => exact allowed
  · intro stage other input world hasUser _ knows
    exact knows_stable userId hasUser knows
  · intro stage present
    rw [List.eq_of_mem_replicate present]
    trivial

/-- A call that has returned is at the stage that says so. -/
theorem eq_finished_of_code
    {stage : CustomerStage}
    {customer : Nat}
    (returned : code userId stage = .done customer) :
    stage = finished (.ok customer) := by
  cases stage with
  | finished outcome =>
      cases outcome with
      | ok value =>
          cases returned
          rfl
      | error error => cases returned
  | _ => cases returned

theorem eq_finished_of_code_fail
    {stage : CustomerStage}
    {error : ApiError}
    (failed : code userId stage = .fail error) :
    stage = finished (.error error) := by
  cases stage with
  | finished outcome =>
      cases outcome with
      | ok value => cases failed
      | error other =>
          cases failed
          rfl
  | _ => cases failed

theorem finished_of_left {stage : CustomerStage} (nothing : left stage = 0) :
    (code userId stage).finished = true := by
  cases stage with
  | finished outcome => cases outcome <;> rfl
  | _ => simp [left] at nothing

/-- A stored customer stays for the rest of a run. -/
theorem run_keeps_stored
    {crew : Crew CustomerStage World}
    (hasUser : HasUser userId crew.state)
    {customer : Nat}
    (stored : storedCustomer userId crew.state = some customer)
    (schedule : List (CrewTurn Input ApiError)) :
    storedCustomer userId ((machine userId).run crew schedule).state = some customer := by
  have kept : (HasUser userId ((machine userId).run crew schedule).state ∧
      storedCustomer userId ((machine userId).run crew schedule).state = some customer) ∧
      ∀ stage ∈ ((machine userId).run crew schedule).members, True := by
    refine Machine.run_preserves
      (fun world => HasUser userId world ∧ storedCustomer userId world = some customer)
      (fun _ _ => True) ?_ ?_ ?_ ⟨hasUser, stored⟩ ?_ fun _ _ _ _ => trivial
    · rintro stage input world ⟨hasUser, stored⟩ -
      exact ⟨⟨keeps_user userId hasUser stage, keeps_stored userId hasUser stored stage⟩, trivial⟩
    all_goals
      intros
      trivial
  exact kept.1.2

end CustomerStage

/-- However the calls for the customer of one user interleave, and whichever of their
steps fail: those that return all return the id that is stored, none fails by itself,
none is without an end, and an id that is stored stays. -/
theorem customer_calls_agree
    {userId : UserId}
    {world : World}
    (hasUser : HasUser userId world)
    (calls : Nat)
    (schedule : List (CrewTurn Input ApiError)) :
    let reached := Process.machine.run (customerCalls userId calls world) schedule
    (∀ customer, .done customer ∈ reached.members →
      storedCustomer userId reached.state = some customer) ∧
    (∀ error, .fail error ∈ reached.members →
      ∃ turn ∈ schedule, turn.rejected = some error) ∧
    (∀ position process, reached.members[position]? = some process →
      (4 ≤ schedule.countP fun turn => turn.member = position) → process.finished = true) ∧
    ∀ earlier later, schedule = earlier ++ later → ∀ customer,
      storedCustomer userId
          (Process.machine.run (customerCalls userId calls world) earlier).state =
        some customer →
      storedCustomer userId reached.state = some customer := by
  intro reached
  have atStages : ∀ schedule, Process.machine.run (customerCalls userId calls world) schedule =
      Machine.Implements.crew (CustomerStage.code userId)
        ((CustomerStage.machine userId).run (CustomerStage.start calls world) schedule) :=
    CustomerStage.run_customerCalls
  have knows : ∀ stage ∈ ((CustomerStage.machine userId).run
      (CustomerStage.start calls world) schedule).members,
      stage.Knows userId (fun error => ∃ turn ∈ schedule, turn.rejected = some error)
        ((CustomerStage.machine userId).run (CustomerStage.start calls world) schedule).state :=
    (CustomerStage.run_knows hasUser fun turn present error rejected =>
      ⟨turn, present, rejected⟩).2
  simp only [reached, atStages]
  refine ⟨?_, ?_, ?_, ?_⟩
  · intro customer returned
    obtain ⟨stage, present, code⟩ := List.mem_map.mp returned
    have stored := knows stage present
    rw [CustomerStage.eq_finished_of_code code] at stored
    exact stored
  · intro error failed
    obtain ⟨stage, present, code⟩ := List.mem_map.mp failed
    have rejected := knows stage present
    rw [CustomerStage.eq_finished_of_code_fail code] at rejected
    exact rejected
  · intro position process chosen turns
    obtain ⟨stage, isAt, rfl⟩ := Option.map_eq_some_iff.mp (List.getElem?_map ▸ chosen)
    have starts : ∀ stage ∈ (CustomerStage.start calls world).members,
        CustomerStage.left stage ≤ 4 := by
      intro stage present
      rw [List.eq_of_mem_replicate present]
      exact Nat.le_refl 4
    have nothingLeft := Machine.left_le
      (fun stage _ world => CustomerStage.left_next userId stage world)
      CustomerStage.left_abort starts schedule isAt
    apply CustomerStage.finished_of_left
    omega
  · rintro earlier later rfl customer stored
    have onFile : HasUser userId
        ((CustomerStage.machine userId).run (CustomerStage.start calls world) earlier).state :=
      (CustomerStage.run_knows hasUser fun turn present error rejected =>
        (⟨turn, present, rejected⟩ : ∃ turn ∈ earlier, turn.rejected = some error)).1
    have kept := CustomerStage.run_keeps_stored onFile stored later
    unfold Machine.run at kept ⊢
    rw [List.foldl_append]
    exact kept

/-- Two calls that both find no customer return the one that the second one stored. -/
theorem two_customer_calls_agree :
    let world : World := { users := [{ id := 1, email := "a@b.com", passwordHash := "" }] }
    let turns : List (CrewTurn Input ApiError) :=
      [0, 1, 0, 1, 1, 0, 0].map fun member => { member, input := { now := 0 } }
    storedCustomer 1 (Process.machine.run (customerCalls 1 2 world) turns).state = some 1 := by
  intro world turns
  have hasUser : HasUser 1 world := ⟨by decide, _, rfl⟩
  exact (customer_calls_agree hasUser 2 turns).1 1 (List.mem_cons_self)

end ConferenceContact
