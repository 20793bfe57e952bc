import ConferenceContact.Leads.Requests

/-!
# The credit balance under concurrent searches

A reservation takes a credit in one guarded write, and from there to the end of
the enrichment the credit is outstanding: it is either spent on a person or
given back.  The balance, the outstanding credits of all runs and the people
enriched so far together never exceed the starting balance and the credits
granted since, whichever calls are rejected.
-/

namespace ConferenceContact

open Process

/-! ## The balance of one user -/

/-- Whether a reservation for a user would take a credit. -/
def World.affords (world : World) (userId : UserId) : Bool :=
  world.users.any fun user => user.id = userId && 0 < user.leadFinderCredits

section

variable {world : World} {userId other : UserId}

theorem affords_eq (distinct : (world.users.map (·.id)).Nodup) :
    world.affords userId =
      (world.users.find? fun user => user.id = userId).any fun user =>
        0 < user.leadFinderCredits :=
  Table.any_key_and distinct _ userId

theorem hasUser_eq_isSome :
    world.hasUser userId = (world.users.find? fun user => user.id = userId).isSome := by
  cases found : world.users.find? fun user => user.id = userId with
  | none =>
      rw [List.find?_eq_none] at found
      exact List.any_eq_false.mpr found
  | some user =>
      exact List.any_eq_true.mpr
        ⟨user, List.mem_of_find?_eq_some found, by simpa using List.find?_some found⟩

theorem find?_chargeUser (users : List User) :
    (chargeUser other users).find? (fun user => user.id = userId) =
      (users.find? fun user => user.id = userId).map fun user =>
        if user.id = other && 0 < user.leadFinderCredits then
          { user with leadFinderCredits := user.leadFinderCredits - 1 }
        else user :=
  Table.find?_updateWhere User.id _ _ users userId fun _ => rfl

theorem find?_repayUser (users : List User) :
    (repayUser other users).find? (fun user => user.id = userId) =
      (users.find? fun user => user.id = userId).map fun user =>
        if user.id = other then
          { user with leadFinderCredits := user.leadFinderCredits + 1 }
        else user := by
  rw [repayUser, Table.find?_updateWhere User.id]
  · simp only [decide_eq_true_eq]
  · exact fun _ => rfl

/-- A charge takes one credit from its user if there is one. -/
theorem creditsOf_charge (distinct : (world.users.map (·.id)).Nodup) :
    { world with users := chargeUser other world.users }.creditsOf userId =
      if other = userId && world.affords userId then world.creditsOf userId - 1
      else world.creditsOf userId := by
  rw [affords_eq distinct]
  unfold World.creditsOf
  dsimp only
  rw [find?_chargeUser]
  cases found : world.users.find? fun user => user.id = userId with
  | none => simp
  | some user =>
      have owner : user.id = userId := by simpa using List.find?_some found
      by_cases same : other = userId
      · subst same
        by_cases positive : 0 < user.leadFinderCredits <;> simp [owner, positive]
      · have different : ¬ user.id = other := fun equal => same (equal.symm.trans owner)
        simp [same, different]

/-- A repayment adds one credit to its user. -/
theorem creditsOf_repay :
    { world with users := repayUser other world.users }.creditsOf userId =
      if other = userId && world.hasUser userId then world.creditsOf userId + 1
      else world.creditsOf userId := by
  rw [hasUser_eq_isSome]
  unfold World.creditsOf
  dsimp only
  rw [find?_repayUser]
  cases found : world.users.find? fun user => user.id = userId with
  | none => simp
  | some user =>
      have owner : user.id = userId := by simpa using List.find?_some found
      by_cases same : other = userId
      · subst same
        simp [owner]
      · have different : ¬ user.id = other := fun equal => same (equal.symm.trans owner)
        simp [same, different]

/-- Neither charges nor repayments change whose access is unlimited. -/
theorem unlimited_charge :
    { world with users := chargeUser other world.users }.unlimited userId =
      world.unlimited userId := by
  unfold World.unlimited
  dsimp only
  rw [find?_chargeUser]
  cases world.users.find? fun user => user.id = userId with
  | none => rfl
  | some user =>
      simp only [Option.map_some, Option.any_some]
      split <;> rfl

theorem unlimited_repay :
    { world with users := repayUser other world.users }.unlimited userId =
      world.unlimited userId := by
  unfold World.unlimited
  dsimp only
  rw [find?_repayUser]
  cases world.users.find? fun user => user.id = userId with
  | none => rfl
  | some user =>
      simp only [Option.map_some, Option.any_some]
      split <;> rfl

end

/-! ## One call of a run -/

namespace SearchStage

/-- Whether the reservation of the enrichment in progress took a credit. -/
def reservation : SearchStage → Option Bool
  | enrich _ charged => some charged
  | readAccessToRefund _ charged => some charged
  | refund _ charged => some charged
  | _ => none

/-- The credit taken for the enrichment in progress. -/
def outstanding (stage : SearchStage) : Int :=
  if stage.reservation = some true then 1 else 0

/-- The call is a match for which Apollo reveals a person. -/
def enriches (stage : SearchStage) (input : Input) : Bool :=
  match stage with
  | enrich _ _ =>
      match ApolloService.outcome input.apolloMatch with
      | .ok (some _) => true
      | _ => false
  | _ => false

variable {data : ApolloSearchJobData} {stage : SearchStage} {input : Input} {world : World}
  {userId : UserId}

theorem accounts_write :
    (write data stage world).users.map (·.id) = world.users.map (·.id) := by
  rw [users_write]
  cases stage with
  | takeCredit target => exact Table.map_updateWhere _ _ _ _ fun _ => rfl
  | refund target charged => exact Table.map_updateWhere _ _ _ _ fun _ => rfl
  | _ => rfl

theorem unlimited_write : (write data stage world).unlimited userId = world.unlimited userId := by
  have ofUsers : ∀ after : World, after.users = world.users →
      after.unlimited userId = world.unlimited userId := by
    intro after same
    unfold World.unlimited
    rw [same]
  cases stage with
  | takeCredit target => exact unlimited_charge
  | refund target charged => exact unlimited_repay
  | _ => exact ofUsers _ (users_write data _ world)

/-- The balance of a user after a call of a run. -/
theorem creditsOf_write (distinct : (world.users.map (·.id)).Nodup) :
    (write data stage world).creditsOf userId =
      match stage with
      | takeCredit _ =>
          if data.userId = userId && world.affords userId then world.creditsOf userId - 1
          else world.creditsOf userId
      | refund _ _ =>
          if data.userId = userId && world.hasUser userId then world.creditsOf userId + 1
          else world.creditsOf userId
      | _ => world.creditsOf userId := by
  have ofUsers : ∀ after : World, after.users = world.users →
      after.creditsOf userId = world.creditsOf userId := by
    intro after same
    unfold World.creditsOf
    rw [same]
  cases stage with
  | takeCredit target => exact creditsOf_charge distinct
  | refund target charged => exact creditsOf_repay
  | _ => exact ofUsers _ (users_write data _ world)

/-- A call of a run of another user leaves the balance alone. -/
theorem creditsOf_write_of_other
    (distinct : (world.users.map (·.id)).Nodup)
    (other : data.userId ≠ userId) :
    (write data stage world).creditsOf userId = world.creditsOf userId := by
  rw [creditsOf_write distinct]
  cases stage <;> simp [other]

/-- The credit lost when an enrichment fails between its reservation and its
match, or at its refund. -/
def lost (data : ApolloSearchJobData) (stage : SearchStage) (input : Input) (world : World) :
    Int :=
  match next data stage input world with
  | fail => if stage.enriches input then 0 else stage.outstanding
  | _ => 0

/-- A loop starts with nothing outstanding. -/
theorem reservation_loop (rows : List LeadSearchResult) : (loop rows).reservation = none := by
  cases rows <;> rfl

theorem reservation_afterCreate
    (rest : List ApolloCandidate)
    (made : Except ApiError (List LeadSearchResult)) :
    (afterCreate rest made).reservation = none := by
  cases rest with
  | cons candidate rest => rfl
  | nil =>
      cases made with
      | error error => rfl
      | ok rows => exact reservation_loop rows

theorem reservation_matched (target : Target) (columns : EnrichedColumns) :
    (matched target columns).reservation = none := by
  cases target <;> rfl

theorem reservation_refunded (target : Target) : (refunded target).reservation = none := by
  cases target <;> rfl

theorem reservation_unreserved (target : Target) : (unreserved target).reservation = none := by
  cases target <;> rfl

theorem outstanding_of_none (free : stage.reservation = none) : stage.outstanding = 0 := by
  simp [outstanding, free]

/-- A stage with nothing outstanding loses nothing. -/
theorem lost_of_none (free : stage.reservation = none) : lost data stage input world = 0 := by
  unfold lost
  split
  · rw [outstanding_of_none free, ite_self]
  · rfl

/-- A call that does not lead to the handler loses nothing. -/
theorem lost_of_ne_fail (succeeds : next data stage input world ≠ fail) :
    lost data stage input world = 0 := by
  unfold lost
  split
  · exact absurd ‹_› succeeds
  · rfl

theorem lost_nonneg : 0 ≤ lost data stage input world := by
  unfold lost outstanding
  split
  · split
    · exact Int.le_refl 0
    · split <;> decide
  · exact Int.le_refl 0

/-- Only the two calls of a reservation lead to one. -/
theorem reservation_next
    (idle : stage.reserves = false)
    (free : stage.reservation = none) :
    (next data stage input world).reservation = none := by
  cases stage with
  | search =>
      rw [next]
      cases input.apolloSearch with
      | none => rfl
      | some people =>
          dsimp only
          cases ApolloSearchProcessor.candidates data (people.map ApolloService.candidate) <;> rfl
  | create candidate rest made => exact reservation_afterCreate _ _
  | check result rest => rw [next]; split <;> rfl
  | readAccess target => cases idle
  | takeCredit target => cases idle
  | enrich target charged => cases free
  | readAccessToRefund target charged => cases free
  | refund target charged => cases free
  | store result rest columns =>
      rw [next]
      split
      · exact reservation_loop rest
      · rfl
  | markFailed result rest =>
      rw [next]
      split
      · exact reservation_loop rest
      · rfl
  | createDirect personName matched => rw [next]; split <;> rfl
  | complete audited => rw [next]; split <;> cases audited <;> rfl
  | fail => rw [next]; split <;> rfl
  | _ => rfl

/-- A call away from reservations moves nothing. -/
theorem settle_of_none
    (unmoved : (write data stage world).creditsOf userId = world.creditsOf userId)
    (idle : stage.reserves = false)
    (free : stage.reservation = none) :
    (write data stage world).creditsOf userId +
        (next data stage input world).outstanding +
        (if stage.enriches input then stage.outstanding else 0) +
        lost data stage input world =
      world.creditsOf userId + stage.outstanding := by
  rw [unmoved, lost_of_none free, outstanding_of_none free,
    outstanding_of_none (reservation_next idle free), ite_self]
  omega

/-- A call moves credits between the balance, what is outstanding and what is
spent; the rest is lost. -/
theorem settle
    (stage : SearchStage)
    (input : Input)
    (distinct : (world.users.map (·.id)).Nodup)
    (mine : data.userId = userId)
    (agrees : ∀ target charged, stage = readAccessToRefund target charged →
      world.unlimited userId = !charged)
    (charges : ∀ target charged, stage = refund target charged → charged = true) :
    (write data stage world).creditsOf userId +
        (next data stage input world).outstanding +
        (if stage.enriches input then stage.outstanding else 0) +
        lost data stage input world =
      world.creditsOf userId + stage.outstanding := by
  subst mine
  cases stage with
  | readAccess target =>
      have free : (readAccess target).reservation = none := rfl
      rw [creditsOf_write distinct, lost_of_none free, outstanding_of_none free, next]
      cases world.unlimited data.userId <;> simp [outstanding, reservation]
  | takeCredit target =>
      have free : (takeCredit target).reservation = none := rfl
      have affordable : world.affords data.userId = world.users.any fun user =>
          user.id = data.userId && 0 < user.leadFinderCredits := rfl
      rw [creditsOf_write distinct, lost_of_none free, outstanding_of_none free, next,
        ← affordable]
      cases world.affords data.userId with
      | true => simp [outstanding, reservation]
      | false => simp [outstanding_of_none (reservation_unreserved target)]
  | enrich target charged =>
      unfold lost enriches
      rw [creditsOf_write distinct, next]
      dsimp only
      cases ApolloService.outcome input.apolloMatch with
      | error error => simp [outstanding, reservation]
      | ok found =>
          cases found with
          | none => simp [outstanding, reservation]
          | some person =>
              dsimp only
              cases person.columns with
              | error error => simp [outstanding, reservation]
              | ok columns => cases target <;> simp [matched, outstanding, reservation]
  | readAccessToRefund target charged =>
      unfold lost enriches
      rw [creditsOf_write distinct, next, agrees target charged rfl]
      cases charged with
      | true => simp [outstanding, reservation]
      | false => cases target <;> simp [refunded, outstanding, reservation]
  | refund target charged =>
      obtain rfl := charges target charged rfl
      unfold lost enriches
      rw [creditsOf_write distinct, next, ← hasUser_eq_isSome]
      cases world.hasUser data.userId with
      | true => cases target <;> simp [refunded, outstanding, reservation]
      | false => simp [outstanding, reservation]
  | _ => exact settle_of_none (creditsOf_write distinct) rfl rfl

theorem reservation_abort (stage : SearchStage) (error : ApiError) :
    (abort stage error).reservation = none := by
  cases stage with
  | create candidate rest made => exact reservation_afterCreate _ _
  | _ => rfl

theorem reservation_start (data : ApolloSearchJobData) :
    (start data).reservation = none := by
  unfold start
  split <;> rfl

end SearchStage

/-! ## One turn of a crew -/

namespace LeadFinder

/-- The people enriched for a user in a turn. -/
def enriched
    (userId : UserId)
    (crew : Crew (SearchRun ⊕ Service Unit) World)
    (turn : CrewTurn Input ApiError) : Int :=
  match crew.members[turn.member]?, turn.rejected with
  | some (.inl run), none =>
      if run.data.userId = userId ∧ run.stage.enriches turn.input = true then 1 else 0
  | _, _ => 0

/-- The people enriched for a user in a turn, on a reservation that took a credit. -/
def enrichedOnCredit
    (userId : UserId)
    (crew : Crew (SearchRun ⊕ Service Unit) World)
    (turn : CrewTurn Input ApiError) : Int :=
  match crew.members[turn.member]?, turn.rejected with
  | some (.inl run), none =>
      if run.data.userId = userId ∧ run.stage.enriches turn.input = true then
        run.stage.outstanding
      else 0
  | _, _ => 0

/-- The credits a turn of a request adds to the balance of a user. -/
def granted
    (userId : UserId)
    (crew : Crew (SearchRun ⊕ Service Unit) World)
    (turn : CrewTurn Input ApiError) : Int :=
  match crew.members[turn.member]? with
  | some (.inr _) =>
      (machine.step crew turn).state.creditsOf userId - crew.state.creditsOf userId
  | _ => 0

/-- The credit of a user that a failure loses in a turn. -/
def lost
    (userId : UserId)
    (crew : Crew (SearchRun ⊕ Service Unit) World)
    (turn : CrewTurn Input ApiError) : Int :=
  match crew.members[turn.member]? with
  | some (.inl run) =>
      if run.data.userId = userId then
        match turn.rejected with
        | none => SearchStage.lost run.data run.stage turn.input crew.state
        | some _ => run.stage.outstanding
      else 0
  | _ => 0

/-- The credit of a user outstanding in a member. -/
def outstandingFor (userId : UserId) : SearchRun ⊕ Service Unit → Int
  | .inl run => if run.data.userId = userId then run.stage.outstanding else 0
  | .inr _ => 0

/-- The refund of a run gives back what its reservation took: the access it reads
is the one its reservation read. -/
def Agrees (userId : UserId) (world : World) (run : SearchRun) : Prop :=
  run.data.userId = userId →
    (∀ target charged, run.stage = .readAccessToRefund target charged →
      world.unlimited userId = !charged) ∧
    ∀ target charged, run.stage = .refund target charged → charged = true

/-- The balance of a user and the outstanding credits account for every turn. -/
theorem balance_step
    {userId : UserId}
    {crew : Crew (SearchRun ⊕ Service Unit) World}
    (turn : CrewTurn Input ApiError)
    (distinct : (crew.state.users.map (·.id)).Nodup)
    (agrees : ∀ run, crew.members[turn.member]? = some (.inl run) →
      Agrees userId crew.state run) :
    (machine.step crew turn).state.creditsOf userId +
        Machine.weightOf (outstandingFor userId) (machine.step crew turn).members +
        enrichedOnCredit userId crew turn + lost userId crew turn =
      crew.state.creditsOf userId +
        Machine.weightOf (outstandingFor userId) crew.members + granted userId crew turn := by
  have outcome := Machine.step_cases machine crew turn
  unfold enrichedOnCredit lost granted
  rcases outcome with
    ⟨missing, same⟩ | ⟨member, chosen, ⟨taken, after⟩ | ⟨error, rejected, after⟩⟩
  · rw [missing, same]
    dsimp only
    omega
  · rw [chosen, taken, after]
    dsimp only
    rw [Machine.weightOf_set _ chosen]
    cases member with
    | inr service =>
        show _ = _ + (((machine.effect _ _ _).creditsOf userId) - _)
        simp only [outstandingFor, machine, Machine.sum]
        omega
    | inl run =>
        have settled := agrees run chosen
        show (SearchStage.effect run.data run.stage turn.input crew.state).creditsOf userId + _ +
          _ + _ = _
        rw [SearchStage.effect_eq]
        by_cases mine : run.data.userId = userId
        · obtain ⟨steady, charged⟩ := settled mine
          have moved := SearchStage.settle run.stage turn.input
            distinct mine steady charged
          simp only [outstandingFor, machine, Machine.sum, SearchRun.machine, mine, if_true,
            true_and]
          omega
        · rw [SearchStage.creditsOf_write_of_other distinct mine]
          simp only [outstandingFor, machine, Machine.sum, SearchRun.machine, mine, if_false,
            false_and]
          omega
  · rw [chosen, rejected, after]
    dsimp only
    rw [Machine.weightOf_set _ chosen]
    cases member with
    | inr service =>
        simp only [outstandingFor, machine, Machine.sum]
        omega
    | inl run =>
        have aborted := SearchStage.outstanding_of_none
          (SearchStage.reservation_abort run.stage error)
        simp only [outstandingFor, machine, Machine.sum, SearchRun.machine, aborted, ite_self]
        omega

theorem lost_nonneg
    (userId : UserId)
    (crew : Crew (SearchRun ⊕ Service Unit) World)
    (turn : CrewTurn Input ApiError) :
    0 ≤ lost userId crew turn := by
  have outstanding : ∀ stage : SearchStage, 0 ≤ stage.outstanding := by
    intro stage
    unfold SearchStage.outstanding
    split <;> decide
  unfold lost
  split
  · split
    · split
      · exact SearchStage.lost_nonneg
      · exact outstanding _
    · exact Int.le_refl 0
  · exact Int.le_refl 0

/-- The balance of a user together with the credits outstanding. -/
def level (userId : UserId) (crew : Crew (SearchRun ⊕ Service Unit) World) : Int :=
  crew.state.creditsOf userId + Machine.weightOf (outstandingFor userId) crew.members

theorem credits_le_level
    (userId : UserId)
    (crew : Crew (SearchRun ⊕ Service Unit) World) :
    crew.state.creditsOf userId ≤ level userId crew := by
  refine Int.le_add_of_nonneg_right (Machine.weightOf_nonneg fun member _ => ?_)
  unfold outstandingFor SearchStage.outstanding
  split
  · split
    · split <;> decide
    · exact Int.le_refl 0
  · exact Int.le_refl 0

/-- Runs and requests about to start have nothing outstanding. -/
theorem level_crew
    (app : Deployment)
    (userId : UserId)
    (world : World)
    (jobs : List ApolloSearchJobData)
    (requests : List LeadRequest) :
    level userId (crew app world jobs requests) = world.creditsOf userId := by
  have weightless : Machine.weightOf (outstandingFor userId)
      (crew app world jobs requests).members = 0 := by
    refine Machine.weightOf_eq_zero fun member present => ?_
    rcases List.mem_append.mp present with inRuns | inRequests
    · obtain ⟨data, -, rfl⟩ := List.mem_map.mp inRuns
      have free := SearchStage.outstanding_of_none (SearchStage.reservation_start data)
      simp only [outstandingFor, SearchRun.start, free, ite_self]
    · obtain ⟨request, -, rfl⟩ := List.mem_map.mp inRequests
      rfl
  unfold level
  rw [weightless, Int.add_zero]
  rfl

end LeadFinder
end ConferenceContact
