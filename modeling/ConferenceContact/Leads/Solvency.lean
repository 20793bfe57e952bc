import ConferenceContact.Leads.Balance

/-!
# Concurrent searches never overspend

For a user with limited access, the people enriched so far never outnumber the
starting balance and the credits granted since, and the balance never becomes
negative, along every schedule of runs and requests with any calls rejected.
-/

namespace ConferenceContact

open Process

/-! ## What requests do to a user -/

/-- No account appears or disappears, and the user keeps a limited access and
loses no credit. -/
structure Rewards (userId : UserId) (before after : World) : Prop where
  accounts : after.users.map (·.id) = before.users.map (·.id)
  credits : before.creditsOf userId ≤ after.creditsOf userId
  limited : before.unlimited userId = false → after.unlimited userId = false

instance (userId : UserId) : Std.Refl (Rewards userId) where
  refl _ := ⟨rfl, Int.le_refl _, id⟩

theorem rewards_of_users
    {before after : World}
    (userId : UserId)
    (users : after.users = before.users) :
    Rewards userId before after where
  accounts := by rw [users]
  credits := by
    unfold World.creditsOf
    rw [users]
  limited := by
    unfold World.unlimited
    rw [users]
    exact id

theorem OnlyGrants.rewards
    {before after : World}
    (grants : OnlyGrants before after)
    (userId : UserId) :
    Rewards userId before after := by
  rcases OnlyGrants.find? grants userId with
    ⟨missing, stillMissing⟩ | ⟨user, credited, found, stillFound, more, same⟩
  · refine ⟨grants.accounts, ?_, ?_⟩
    · unfold World.creditsOf
      rw [missing, stillMissing]
    · unfold World.unlimited
      rw [missing, stillMissing]
      exact id
  · refine ⟨grants.accounts, ?_, ?_⟩
    · unfold World.creditsOf
      rw [found, stillFound]
      exact more
    · unfold World.unlimited
      rw [found, stillFound, same]
      exact id

theorem rewards_comped
    {userId targetUserId : UserId}
    {granted : Bool}
    (uncomped : targetUserId = userId → granted = false)
    (world : World) :
    Rewards userId world (LeadRequest.comped world targetUserId granted) := by
  have lookup : ((LeadRequest.comped world targetUserId granted).users.find?
      fun user => user.id = userId) =
      (world.users.find? fun user => user.id = userId).map fun user =>
        if user.id = targetUserId then { user with adminGrantedLeadFinderAccess := granted }
        else user := by
    unfold LeadRequest.comped
    dsimp only
    rw [Table.find?_updateWhere User.id]
    · simp only [decide_eq_true_eq]
    · exact fun _ => rfl
  refine ⟨Table.map_updateWhere _ _ _ _ fun _ => rfl, ?_, ?_⟩
  · unfold World.creditsOf
    rw [lookup]
    cases world.users.find? fun user => user.id = userId with
    | none => exact Int.le_refl _
    | some user =>
        simp only [Option.map_some, Option.getD_some]
        split <;> exact Int.le_refl _
  · unfold World.unlimited
    rw [lookup]
    cases found : world.users.find? fun user => user.id = userId with
    | none => exact id
    | some user =>
        have owner : user.id = userId := by simpa using List.find?_some found
        simp only [Option.map_some, Option.any_some]
        split
        · rename_i chosen
          rw [uncomped (chosen.symm.trans owner)]
          simp only [Bool.or_eq_false_iff]
          exact fun limited => ⟨limited.1, trivial⟩
        · exact id

theorem LeadRequest.respects_rewards
    (app : Deployment)
    (userId : UserId)
    (request : LeadRequest)
    (uncomped : ∀ adminUserId, request ≠ .setLeadFinderAccess adminUserId userId true) :
    (request.handle app).Respects (Rewards userId) := by
  refine LeadRequest.respects (fun _ _ => rewards_of_users userId)
    (fun _ _ grants => grants.rewards userId) app request ?_
  rintro adminUserId targetUserId granted rfl world
  refine rewards_comped ?_ world
  rintro rfl
  cases granted with
  | false => rfl
  | true => exact absurd rfl (uncomped adminUserId)

/-! ## The invariant of a crew -/

/-- A balance of at least one credit is what a reservation takes from. -/
theorem creditsOf_pos_of_affords
    {world : World}
    {userId : UserId}
    (distinct : (world.users.map (·.id)).Nodup)
    (affords : world.affords userId = true) :
    0 < world.creditsOf userId := by
  rw [affords_eq distinct, Option.any_eq_true_iff_get] at affords
  obtain ⟨found, positive⟩ := affords
  unfold World.creditsOf
  rw [← Option.some_get found, Option.map_some, Option.getD_some]
  exact of_decide_eq_true positive

namespace SearchStage

/-- While access is limited every reservation takes a credit. -/
theorem reservation_next_of_limited
    {data : ApolloSearchJobData}
    {stage : SearchStage}
    {input : Input}
    {world : World}
    (limited : world.unlimited data.userId = false)
    (charged : stage.reservation ≠ some false) :
    (next data stage input world).reservation ≠ some false := by
  cases stage with
  | readAccess target =>
      rw [next, limited]
      simp [reservation]
  | takeCredit target =>
      rw [next]
      split
      · simp [reservation]
      · rw [reservation_unreserved]
        simp
  | enrich target taken =>
      rw [next]
      cases ApolloService.outcome input.apolloMatch with
      | error error => simp [reservation]
      | ok found =>
          cases found with
          | none => exact charged
          | some person =>
              dsimp only
              cases person.columns with
              | error error => simp [reservation]
              | ok columns =>
                  dsimp only
                  rw [reservation_matched]
                  simp
  | readAccessToRefund target taken =>
      rw [next, limited]
      exact charged
  | refund target taken =>
      rw [next]
      split
      · rw [reservation_refunded]
        simp
      · simp [reservation]
  | _ =>
      rw [reservation_next rfl rfl]
      simp

end SearchStage

namespace LeadFinder

/-- A user whose access is limited and whose balance is not overdrawn. -/
structure Limited (userId : UserId) (world : World) : Prop where
  distinct : (world.users.map (·.id)).Nodup
  limited : world.unlimited userId = false
  solvent : 0 ≤ world.creditsOf userId

/-- A run whose reservations took a credit, or a request that takes none. -/
def Sound (userId : UserId) : SearchRun ⊕ Service Unit → Prop
  | .inl run => run.data.userId = userId → run.stage.reservation ≠ some false
  | .inr service => service.Respects (Rewards userId)

variable {userId : UserId}

/-- A turn keeps the user limited and solvent. -/
theorem limited_step
    {crew : Crew (SearchRun ⊕ Service Unit) World}
    (holds : Limited userId crew.state)
    (sound : ∀ member ∈ crew.members, Sound userId member)
    (turn : CrewTurn Input ApiError) :
    Limited userId (machine.step crew turn).state ∧
      ∀ member ∈ (machine.step crew turn).members, Sound userId member := by
  refine Machine.step_keeps (Limited userId) ?_ ?_ holds sound turn
  · rintro (run | service) input world sound holds
    · obtain ⟨distinct, limited, solvent⟩ := holds
      refine ⟨?_, fun mine => SearchStage.reservation_next_of_limited (mine ▸ limited) (sound mine)⟩
      show Limited userId (SearchStage.effect run.data run.stage input world)
      rw [SearchStage.effect_eq]
      refine ⟨?_, ?_, ?_⟩
      · rw [SearchStage.accounts_write]
        exact distinct
      · rw [SearchStage.unlimited_write]
        exact limited
      · rw [SearchStage.creditsOf_write distinct]
        split
        · split
          · rename_i taken
            rw [Bool.and_eq_true] at taken
            have positive := creditsOf_pos_of_affords distinct taken.2
            omega
          · exact solvent
        · split
          · omega
          · exact solvent
        · exact solvent
    · have moved := Respects.effect sound input world
      refine ⟨⟨?_, moved.limited holds.limited, Int.le_trans holds.solvent moved.credits⟩,
        Respects.residual sound input world⟩
      show ((service.effect input world).users.map (·.id)).Nodup
      rw [moved.accounts]
      exact holds.distinct
  · rintro (run | service) error sound
    · intro _
      show (SearchStage.abort run.stage error).reservation ≠ some false
      rw [SearchStage.reservation_abort]
      exact nofun
    · exact Respects.rejected sound error

/-- A turn enriches on credit only. -/
theorem enriched_eq
    {crew : Crew (SearchRun ⊕ Service Unit) World}
    (sound : ∀ member ∈ crew.members, Sound userId member)
    (turn : CrewTurn Input ApiError) :
    enriched userId crew turn = enrichedOnCredit userId crew turn := by
  unfold enriched enrichedOnCredit
  split
  · rename_i run chosen taken
    split
    · rename_i enriches
      have charged := sound _ (List.mem_of_getElem? chosen) enriches.1
      unfold SearchStage.outstanding
      cases stage : run.stage with
      | enrich target taken =>
          rw [stage] at charged
          cases taken with
          | true => rfl
          | false => exact absurd rfl charged
      | _ =>
          have impossible := enriches.2
          rw [stage] at impossible
          cases impossible
    · rfl
  · rfl

/-- A sound crew meets the terms of every refund. -/
theorem agrees_of_sound
    {crew : Crew (SearchRun ⊕ Service Unit) World}
    (holds : Limited userId crew.state)
    (sound : ∀ member ∈ crew.members, Sound userId member)
    (run : SearchRun)
    (present : .inl run ∈ crew.members) :
    Agrees userId crew.state run := by
  intro mine
  have charged := sound _ present mine
  refine ⟨fun target taken stage => ?_, fun target taken stage => ?_⟩
  · rw [stage] at charged
    cases taken with
    | true => exact holds.limited
    | false => exact absurd rfl charged
  · rw [stage] at charged
    cases taken with
    | true => rfl
    | false => exact absurd rfl charged

/-- Runs and requests about to start are sound. -/
theorem sound_crew
    (app : Deployment)
    (world : World)
    (jobs : List ApolloSearchJobData)
    {requests : List LeadRequest}
    (uncomped : ∀ request ∈ requests, ∀ adminUserId,
      request ≠ .setLeadFinderAccess adminUserId userId true) :
    ∀ member ∈ (crew app world jobs requests).members, Sound userId member := by
  intro member present
  rcases List.mem_append.mp present with inRuns | inRequests
  · obtain ⟨data, -, rfl⟩ := List.mem_map.mp inRuns
    intro _
    show (SearchStage.start data).reservation ≠ some false
    rw [SearchStage.reservation_start]
    exact nofun
  · obtain ⟨request, requested, rfl⟩ := List.mem_map.mp inRequests
    exact LeadRequest.respects_rewards app userId request (uncomped request requested)

/-- Whatever the schedule, and whichever calls are rejected, a user with limited
access is never overdrawn, and the people enriched so far are covered by the
starting balance and the credits granted since. -/
theorem enriched_le_credits
    (app : Deployment)
    (userId : UserId)
    (world : World)
    (distinct : (world.users.map (·.id)).Nodup)
    (limited : world.unlimited userId = false)
    (solvent : 0 ≤ world.creditsOf userId)
    (jobs : List ApolloSearchJobData)
    (requests : List LeadRequest)
    (uncomped : ∀ request ∈ requests, ∀ adminUserId,
      request ≠ .setLeadFinderAccess adminUserId userId true)
    (schedule : List (CrewTurn Input ApiError)) :
    0 ≤ (machine.run (crew app world jobs requests) schedule).state.creditsOf userId ∧
      tally machine.step (enriched userId) (crew app world jobs requests) schedule ≤
        world.creditsOf userId +
          tally machine.step (granted userId) (crew app world jobs requests) schedule := by
  let invariant : Crew (SearchRun ⊕ Service Unit) World → Prop := fun crew =>
    Limited userId crew.state ∧ ∀ member ∈ crew.members, Sound userId member
  have kept : ∀ crew turn, invariant crew → True → invariant (machine.step crew turn) :=
    fun crew turn holds _ => limited_step holds.1 holds.2 turn
  have start : invariant (crew app world jobs requests) :=
    ⟨⟨distinct, limited, solvent⟩, sound_crew app world jobs uncomped⟩
  have along : Along machine.step (fun _ _ => True) (crew app world jobs requests) schedule :=
    Along.of_forall fun _ _ _ => trivial
  have covered := tally_le (enriched userId) (granted userId) (level userId) kept ?_ start along
  · have reached : invariant (machine.run (crew app world jobs requests) schedule) :=
      along.preserves kept start
    have final := credits_le_level userId (machine.run (crew app world jobs requests) schedule)
    rw [level_crew] at covered
    have solventStill := reached.1.solvent
    refine ⟨solventStill, ?_⟩
    unfold Machine.run at final solventStill
    omega
  · intro crew turn holds _
    have balanced := balance_step turn holds.1.distinct
      fun run chosen => agrees_of_sound holds.1 holds.2 run (List.mem_of_getElem? chosen)
    rw [enriched_eq holds.2]
    have loss := lost_nonneg userId crew turn
    unfold level
    omega

/-- Two searches taking turns over one credit. -/
theorem enriched_le_credits_of_two :
    0 ≤ (machine.run (crew {} sampleWorld [sampleJob, sampleJob] [])
        ((List.range 20).map fun turn =>
          { member := turn % 2, input := sampleInput })).state.creditsOf 0 ∧
      tally machine.step (enriched 0) (crew {} sampleWorld [sampleJob, sampleJob] [])
          ((List.range 20).map fun turn => { member := turn % 2, input := sampleInput }) ≤
        sampleWorld.creditsOf 0 +
          tally machine.step (granted 0) (crew {} sampleWorld [sampleJob, sampleJob] [])
            ((List.range 20).map fun turn => { member := turn % 2, input := sampleInput }) :=
  enriched_le_credits {} 0 sampleWorld (by decide) (by decide) (by decide) _ []
    (List.forall_mem_nil _) _

end LeadFinder
end ConferenceContact
