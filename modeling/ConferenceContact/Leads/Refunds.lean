import ConferenceContact.Leads.Balance

/-!
# Reservations and refunds

A reservation and its refund each read for themselves whether the user's access
is unlimited.  Where both read the same, every refund gives back exactly what
its reservation took, and the balance is accounted for; where the comp flag
changes in between, a credit is lost or made.
-/

namespace ConferenceContact

open Process

namespace LeadFinder

variable {userId : UserId}

/-! ## Conditions on a turn -/

/-- No call is rejected, and no run fails. -/
def NoFailure
    (crew : Crew (SearchRun ⊕ Service Unit) World)
    (turn : CrewTurn Input ApiError) : Prop :=
  turn.rejected = none ∧
    match crew.members[turn.member]? with
    | some (.inl run) => run.stage.next run.data turn.input crew.state ≠ .fail
    | _ => True

/-- A refund of a user's credit reads the access its reservation has read. -/
def Steady
    (userId : UserId)
    (crew : Crew (SearchRun ⊕ Service Unit) World)
    (turn : CrewTurn Input ApiError) : Prop :=
  match crew.members[turn.member]? with
  | some (.inl run) =>
      match run.stage with
      | .readAccessToRefund _ charged =>
          run.data.userId = userId → crew.state.unlimited userId = !charged
      | _ => True
  | _ => True

/-- A reservation that is charged takes one credit, a refund gives one back just
where its reservation was charged, and no other call of a run moves the
balance. -/
def Settles
    (userId : UserId)
    (crew : Crew (SearchRun ⊕ Service Unit) World)
    (turn : CrewTurn Input ApiError) : Prop :=
  match crew.members[turn.member]? with
  | some (.inl run) =>
      let next := run.stage.next run.data turn.input crew.state
      let gain := (machine.step crew turn).state.creditsOf userId - crew.state.creditsOf userId
      run.data.userId = userId →
        match run.stage with
        | .readAccess target => (next = .enrich target false ∨ next = .takeCredit target) ∧ gain = 0
        | .takeCredit target =>
            next = .enrich target true ∧ gain = -1 ∨ next = .unreserved target ∧ gain = 0
        | .readAccessToRefund target charged =>
            next = (if charged then .refund target charged else .refunded target) ∧ gain = 0
        | .refund target charged => next = .refunded target ∧ charged = true ∧ gain = 1
        | _ => gain = 0
  | _ => True

/-- A run that is over, or a request. -/
def runOver : SearchRun ⊕ Service Unit → Bool
  | .inl run =>
      match run.stage with
      | .finished _ => true
      | _ => false
  | .inr _ => true

instance
    (userId : UserId)
    (crew : Crew (SearchRun ⊕ Service Unit) World)
    (turn : CrewTurn Input ApiError) :
    Decidable (Steady userId crew turn) := by
  unfold Steady
  split
  · split <;> infer_instance
  · infer_instance

instance (crew : Crew (SearchRun ⊕ Service Unit) World) (turn : CrewTurn Input ApiError) :
    Decidable (NoFailure crew turn) := by
  unfold NoFailure
  split <;> infer_instance

instance
    (userId : UserId)
    (crew : Crew (SearchRun ⊕ Service Unit) World)
    (turn : CrewTurn Input ApiError) :
    Decidable (Settles userId crew turn) := by
  unfold Settles
  split
  · dsimp only
    split <;> infer_instance
  · infer_instance

/-! ## The invariant of a crew -/

/-- No account appears or disappears. -/
def SameIds (before after : World) : Prop :=
  after.users.map (·.id) = before.users.map (·.id)

instance : Std.Refl SameIds where
  refl _ := rfl

theorem sameIds_handle (app : Deployment) (request : LeadRequest) :
    (request.handle app).Respects SameIds := by
  refine LeadRequest.respects ?_ ?_ app request ?_
  · intro before after users
    unfold SameIds
    rw [users]
  · intro before after grants
    exact grants.accounts
  · rintro adminUserId targetUserId granted rfl world
    exact Table.map_updateWhere _ _ _ _ fun _ => rfl

/-- A run whose refund under way was charged, or a request that keeps the
accounts. -/
def Refundable (userId : UserId) : SearchRun ⊕ Service Unit → Prop
  | .inl run => run.data.userId = userId →
      ∀ target charged, run.stage = .refund target charged → charged = true
  | .inr service => service.Respects SameIds

end LeadFinder

namespace SearchStage

/-- A refund is decided by the access read just before. -/
theorem of_next_eq_refund
    {data : ApolloSearchJobData}
    {stage : SearchStage}
    {input : Input}
    {world : World}
    {target : Target}
    {charged : Bool}
    (leads : next data stage input world = refund target charged) :
    stage = readAccessToRefund target charged ∧ world.unlimited data.userId = false := by
  have reserved : (next data stage input world).reservation ≠ none := by
    rw [leads]
    exact nofun
  cases stage with
  | readAccess target =>
      rw [next] at leads
      split at leads <;> cases leads
  | takeCredit target =>
      rw [next] at leads reserved
      split at leads
      · cases leads
      · rw [if_neg ‹_›, reservation_unreserved] at reserved
        exact absurd rfl reserved
  | enrich target charged =>
      rw [next] at leads
      split at leads
      · cases leads
      · cases leads
      · split at leads
        · cases leads
        · cases target <;> cases leads
  | readAccessToRefund target charged =>
      rw [next] at leads
      split at leads
      · cases target <;> cases leads
      · rename_i limited
        cases leads
        exact ⟨rfl, by simpa using limited⟩
  | refund target charged =>
      rw [next] at leads
      split at leads
      · cases target <;> cases leads
      · cases leads
  | _ => exact absurd (reservation_next rfl rfl) reserved

end SearchStage

namespace LeadFinder

variable {userId : UserId}

/-- A turn keeps the accounts distinct, and every refund under way charged. -/
theorem refundable_step
    {crew : Crew (SearchRun ⊕ Service Unit) World}
    (distinct : (crew.state.users.map (·.id)).Nodup)
    (refundable : ∀ member ∈ crew.members, Refundable userId member)
    (turn : CrewTurn Input ApiError)
    (steady : Steady userId crew turn) :
    ((machine.step crew turn).state.users.map (·.id)).Nodup ∧
      ∀ member ∈ (machine.step crew turn).members, Refundable userId member := by
  refine Machine.step_preserves (fun world => (world.users.map (·.id)).Nodup)
    (fun member _ => Refundable userId member) distinct refundable ?_ ?_ ?_
  · rintro (run | service) chosen _
    · constructor
      · show ((SearchStage.effect _ _ _ _).users.map (·.id)).Nodup
        rw [SearchStage.effect_eq, SearchStage.accounts_write]
        exact distinct
      · intro mine target charged leads
        obtain ⟨stage, limited⟩ := SearchStage.of_next_eq_refund leads
        unfold Steady at steady
        rw [chosen] at steady
        dsimp only at steady
        rw [stage] at steady
        have owner : run.data.userId = userId := mine
        have same := steady owner
        rw [← owner, limited] at same
        simpa using same
    · have kept := refundable _ (List.mem_of_getElem? chosen)
      refine ⟨?_, Respects.residual kept _ _⟩
      have same := Respects.effect kept turn.input crew.state
      show ((service.effect _ _).users.map (·.id)).Nodup
      rw [same]
      exact distinct
  · rintro (run | service) error chosen _
    · intro _ target charged leads
      have free := SearchStage.reservation_abort run.stage error
      have stage : run.stage.abort error = .refund target charged := leads
      rw [stage] at free
      cases free
    · exact Respects.rejected (refundable _ (List.mem_of_getElem? chosen)) error
  · intro _ other _ _ present
    exact refundable other present

theorem refundable_crew
    (app : Deployment)
    (world : World)
    (jobs : List ApolloSearchJobData)
    (requests : List LeadRequest) :
    ∀ member ∈ (crew app world jobs requests).members, Refundable userId member := by
  intro member present
  rcases List.mem_append.mp present with inRuns | inRequests
  · obtain ⟨data, -, rfl⟩ := List.mem_map.mp inRuns
    intro _ target charged leads
    have free := SearchStage.reservation_start data
    have stage : SearchStage.start data = .refund target charged := leads
    rw [stage] at free
    cases free
  · obtain ⟨request, -, rfl⟩ := List.mem_map.mp inRequests
    exact sameIds_handle app request

/-! ## One turn -/

/-- Where nothing fails, a turn loses nothing. -/
theorem lost_of_noFailure
    {crew : Crew (SearchRun ⊕ Service Unit) World}
    {turn : CrewTurn Input ApiError}
    (noFailure : NoFailure crew turn) :
    lost userId crew turn = 0 := by
  obtain ⟨taken, succeeds⟩ := noFailure
  unfold lost
  cases chosen : crew.members[turn.member]? with
  | none => rfl
  | some member =>
      cases member with
      | inr service => rfl
      | inl run =>
          rw [chosen] at succeeds
          dsimp only at succeeds ⊢
          rw [taken]
          dsimp only
          rw [SearchStage.lost_of_ne_fail succeeds, ite_self]

/-- The refund of a steady turn is the refund of its reservation. -/
theorem agrees_of_steady
    {crew : Crew (SearchRun ⊕ Service Unit) World}
    {turn : CrewTurn Input ApiError}
    (refundable : ∀ member ∈ crew.members, Refundable userId member)
    (steady : Steady userId crew turn)
    (run : SearchRun)
    (chosen : crew.members[turn.member]? = some (.inl run)) :
    Agrees userId crew.state run := by
  intro mine
  refine ⟨fun target charged stage => ?_, ?_⟩
  · unfold Steady at steady
    rw [chosen] at steady
    dsimp only at steady
    rw [stage] at steady
    exact steady mine
  · exact refundable _ (List.mem_of_getElem? chosen) mine

/-- A turn that meets the conditions settles. -/
theorem settles_step
    {crew : Crew (SearchRun ⊕ Service Unit) World}
    {turn : CrewTurn Input ApiError}
    (distinct : (crew.state.users.map (·.id)).Nodup)
    (refundable : ∀ member ∈ crew.members, Refundable userId member)
    (noFailure : NoFailure crew turn)
    (steady : Steady userId crew turn) :
    Settles userId crew turn := by
  obtain ⟨taken, succeeds⟩ := noFailure
  unfold Settles
  cases chosen : crew.members[turn.member]? with
  | none => trivial
  | some member =>
      cases member with
      | inr service => trivial
      | inl run =>
          intro mine
          have agrees := agrees_of_steady refundable steady run chosen mine
          have after : (machine.step crew turn).state =
              SearchStage.write run.data run.stage crew.state := by
            rw [← SearchStage.effect_eq run.data run.stage turn.input]
            unfold Machine.step
            rw [chosen, taken]
            rfl
          rw [chosen] at succeeds
          dsimp only at succeeds ⊢
          rw [after, SearchStage.creditsOf_write distinct]
          subst mine
          obtain ⟨reads, charged⟩ := agrees
          cases stage : run.stage with
          | readAccess target =>
              rw [SearchStage.next]
              refine ⟨?_, Int.sub_self _⟩
              split
              · exact .inl rfl
              · exact .inr rfl
          | takeCredit target =>
              have affordable : (crew.state.users.any fun user =>
                  user.id = run.data.userId && 0 < user.leadFinderCredits) =
                  crew.state.affords run.data.userId := rfl
              rw [SearchStage.next, affordable]
              cases crew.state.affords run.data.userId with
              | true => exact .inl ⟨rfl, by simp⟩
              | false => exact .inr ⟨rfl, by simp⟩
          | readAccessToRefund target taken =>
              rw [SearchStage.next, reads target taken stage]
              refine ⟨?_, Int.sub_self _⟩
              cases taken <;> rfl
          | refund target taken =>
              rw [stage, SearchStage.next, ← hasUser_eq_isSome] at succeeds
              rw [SearchStage.next, ← hasUser_eq_isSome, charged target taken stage]
              cases known : crew.state.hasUser run.data.userId with
              | true => exact ⟨rfl, rfl, by simp⟩
              | false =>
                  rw [known] at succeeds
                  exact absurd rfl succeeds
          | _ => exact Int.sub_self _

/-- A run that is over has nothing outstanding. -/
theorem outstandingFor_of_runOver
    {member : SearchRun ⊕ Service Unit}
    (ended : runOver member = true) :
    outstandingFor userId member = 0 := by
  rcases member with ⟨data, stage⟩ | service
  · cases stage with
    | finished outcome => exact ite_self 0
    | _ => cases ended
  · rfl

/-! ## Runs of the crew -/

/-- Along every schedule in which nothing fails and every refund reads the access
its reservation has read, a refund adds a credit just where its reservation took
one; and once all runs are over, the balance is what it was at the start with the
credits granted since, less the people enriched on reservations that took one. -/
theorem refunds_settle
    (app : Deployment)
    (userId : UserId)
    (world : World)
    (distinct : (world.users.map (·.id)).Nodup)
    (jobs : List ApolloSearchJobData)
    (requests : List LeadRequest)
    (schedule : List (CrewTurn Input ApiError))
    (noFailure : Along machine.step NoFailure (crew app world jobs requests) schedule)
    (steady : Along machine.step (Steady userId) (crew app world jobs requests) schedule) :
    Along machine.step (Settles userId) (crew app world jobs requests) schedule ∧
      ((∀ member ∈ (machine.run (crew app world jobs requests) schedule).members,
          runOver member = true) →
        (machine.run (crew app world jobs requests) schedule).state.creditsOf userId =
          world.creditsOf userId +
            tally machine.step (granted userId) (crew app world jobs requests) schedule -
            tally machine.step (enrichedOnCredit userId) (crew app world jobs requests)
              schedule) := by
  let invariant : Crew (SearchRun ⊕ Service Unit) World → Prop := fun crew =>
    (crew.state.users.map (·.id)).Nodup ∧ ∀ member ∈ crew.members, Refundable userId member
  have kept : ∀ crew turn, invariant crew → NoFailure crew turn ∧ Steady userId crew turn →
      invariant (machine.step crew turn) :=
    fun crew turn holds met => refundable_step holds.1 holds.2 turn met.2
  have start : invariant (crew app world jobs requests) :=
    ⟨distinct, refundable_crew app world jobs requests⟩
  have along := noFailure.and steady
  refine ⟨along.weaken invariant kept ?_ start, fun finished => ?_⟩
  · intro crew turn holds met
    exact settles_step holds.1 holds.2 met.1 met.2
  have balanced : ∀ crew turn, invariant crew → NoFailure crew turn ∧ Steady userId crew turn →
      level userId (machine.step crew turn) + enrichedOnCredit userId crew turn =
        level userId crew + granted userId crew turn := by
    intro crew turn holds met
    have moved := balance_step turn holds.1 fun run chosen =>
      agrees_of_steady holds.2 met.2 run chosen
    rw [lost_of_noFailure met.1] at moved
    unfold level
    omega
  have total := tally_eq (enrichedOnCredit userId) (granted userId) (level userId) kept
    balanced start along
  rw [level_crew] at total
  have settled : level userId (machine.run (crew app world jobs requests) schedule) =
      (machine.run (crew app world jobs requests) schedule).state.creditsOf userId := by
    unfold level
    rw [Machine.weightOf_eq_zero, Int.add_zero]
    exact fun member present => outstandingFor_of_runOver (finished member present)
  unfold Machine.run at settled ⊢
  omega

/-- A search that finds two people of whom Apollo reveals nothing, with a request
of three calls after the first match. -/
def sampleSchedule : List (CrewTurn Input ApiError) :=
  (List.replicate 7 0 ++ List.replicate 3 1 ++ List.replicate 16 0).map fun member =>
    { member, input := { sampleInput with apolloMatch := .noPerson } }

/-- Apollo reveals nothing of the first of two people; then the user is comped for the second
one, and no longer. -/
def compedSchedule : List (CrewTurn Input ApiError) :=
  (List.replicate 10 0 ++ List.replicate 3 1 ++ List.replicate 8 0 ++ List.replicate 3 2 ++
    List.replicate 4 0).map fun member =>
      { member, input := { sampleInput with apolloMatch := .noPerson } }

/-- A user who is comped between the refund of one reservation and the next reservation
keeps the balance. -/
theorem refunds_settle_beside_comp :
    Along machine.step (Settles 0)
        (crew {} sampleWorld [sampleJob]
          [.setLeadFinderAccess 9 0 true, .setLeadFinderAccess 9 0 false]) compedSchedule ∧
      (machine.run
        (crew {} sampleWorld [sampleJob]
          [.setLeadFinderAccess 9 0 true, .setLeadFinderAccess 9 0 false])
        compedSchedule).state.creditsOf 0 = 1 := by
  have settled := refunds_settle {} 0 sampleWorld (by decide) [sampleJob]
    [.setLeadFinderAccess 9 0 true, .setLeadFinderAccess 9 0 false] compedSchedule (by decide)
    (by decide)
  exact ⟨settled.1, settled.2 (by decide)⟩

/-- Comped between its reservation and its refund, a user loses the credit that was
taken: nothing fails, nobody is enriched, and the balance ends one credit short. -/
theorem comped_before_refund_loses_credit :
    Along machine.step NoFailure
        (crew {} sampleWorld [sampleJob] [.setLeadFinderAccess 9 0 true]) sampleSchedule ∧
      ¬ Along machine.step (Settles 0)
        (crew {} sampleWorld [sampleJob] [.setLeadFinderAccess 9 0 true]) sampleSchedule ∧
      (∀ member ∈ (machine.run
          (crew {} sampleWorld [sampleJob] [.setLeadFinderAccess 9 0 true])
          sampleSchedule).members, runOver member = true) ∧
      (machine.run (crew {} sampleWorld [sampleJob] [.setLeadFinderAccess 9 0 true])
          sampleSchedule).state.creditsOf 0 ≠
        sampleWorld.creditsOf 0 +
          tally machine.step (granted 0)
            (crew {} sampleWorld [sampleJob] [.setLeadFinderAccess 9 0 true])
            sampleSchedule -
          tally machine.step (enrichedOnCredit 0)
            (crew {} sampleWorld [sampleJob] [.setLeadFinderAccess 9 0 true])
            sampleSchedule := by
  decide

end LeadFinder
end ConferenceContact
