import ConferenceContact.Leads.Requests

/-!
# Cancelling a search

A run looks at the status of its job before every enrichment of a search, and
nowhere else.  While such a check is ahead of it, and finds the job cancelled, a
run makes at most the reservation it was about to make and does not complete the
job; a direct match, a search without candidates and the last enrichment have no
check ahead.
-/

namespace ConferenceContact

open Process

namespace SearchStage

/-- A check of the status lies ahead, or the run is past all reservations and
past the write of `COMPLETED`. -/
def checkAhead : SearchStage → Bool
  | search => true
  | create _ _ _ => true
  | check _ _ => true
  | skipCancelled => true
  | readAccess (.row _ rest) => !rest.isEmpty
  | takeCredit (.row _ rest) => !rest.isEmpty
  | enrich (.row _ rest) _ => !rest.isEmpty
  | store _ rest _ => !rest.isEmpty
  | readAccessToRefund (.row _ rest) _ => !rest.isEmpty
  | refund (.row _ rest) _ => !rest.isEmpty
  | markFailed _ rest => !rest.isEmpty
  | audit => true
  | fail => true
  | finished _ => true
  | _ => false

/-- A check finds the job cancelled, a search leaves a candidate or throws, and a
reservation finds a credit. -/
def Heeds
    (data : ApolloSearchJobData)
    (stage : SearchStage)
    (input : Input)
    (world : World) : Prop :=
  match stage with
  | check _ _ => ((world.findSearchJob data.jobId).any fun job => job.status = .cancelled) = true
  | search =>
      match input.apolloSearch with
      | none => True
      | some people =>
          ApolloSearchProcessor.candidates data (people.map ApolloService.candidate) ≠ []
  | takeCredit _ =>
      (world.users.any fun user => user.id = data.userId && 0 < user.leadFinderCredits) = true
  | _ => True

/-- The call reserves a credit. -/
def reservesCredit (data : ApolloSearchJobData) (stage : SearchStage) (world : World) : Bool :=
  match stage with
  | readAccess _ => world.unlimited data.userId
  | takeCredit _ =>
      world.users.any fun user => user.id = data.userId && 0 < user.leadFinderCredits
  | _ => false

/-- The call writes `COMPLETED`. -/
def completes : SearchStage → Bool
  | complete _ => true
  | _ => false

variable {data : ApolloSearchJobData} {stage : SearchStage} {input : Input} {world : World}

theorem checkAhead_loop {rows : List LeadSearchResult} (left : (!rows.isEmpty) = true) :
    (loop rows).checkAhead = true ∧ (loop rows).reserves = false := by
  cases rows with
  | nil => cases left
  | cons row rows => exact ⟨rfl, rfl⟩

theorem checkAhead_afterCreate
    (rest : List ApolloCandidate)
    (made : Except ApiError (List LeadSearchResult))
    (outcome : Except ApiError LeadSearchResult) :
    (afterCreate rest (ApolloSearchProcessor.collect made outcome)).checkAhead = true ∧
      (afterCreate rest (ApolloSearchProcessor.collect made outcome)).reserves = false := by
  cases rest with
  | cons candidate rest => exact ⟨rfl, rfl⟩
  | nil =>
      cases made with
      | error error => exact ⟨rfl, rfl⟩
      | ok rows =>
          cases outcome with
          | error error => exact ⟨rfl, rfl⟩
          | ok row => exact checkAhead_loop (by simp)

/-- A run whose call heeds the cancellation keeps a check ahead, and comes to no
reservation but the one under way. -/
theorem checkAhead_next
    (ahead : stage.checkAhead = true)
    (heeds : Heeds data stage input world) :
    (next data stage input world).checkAhead = true ∧
      ((next data stage input world).reserves = true →
        stage.reserves = true ∧ reservesCredit data stage world = false) := by
  have idle : ∀ after : SearchStage, after.checkAhead = true ∧ after.reserves = false →
      after.checkAhead = true ∧ (after.reserves = true →
        stage.reserves = true ∧ reservesCredit data stage world = false) := by
    rintro after ⟨stillAhead, quiet⟩
    exact ⟨stillAhead, fun reserving => absurd (quiet.symm.trans reserving) Bool.false_ne_true⟩
  cases stage with
  | search =>
      refine idle _ ?_
      rw [next]
      rw [Heeds] at heeds
      cases found : input.apolloSearch with
      | none => exact ⟨rfl, rfl⟩
      | some people =>
          rw [found] at heeds
          dsimp only at heeds ⊢
          cases left : ApolloSearchProcessor.candidates data
              (people.map ApolloService.candidate) with
          | nil => exact absurd left heeds
          | cons candidate rest => exact ⟨rfl, rfl⟩
  | create candidate rest made => exact idle _ (checkAhead_afterCreate _ _ _)
  | check result rest =>
      refine idle _ ?_
      rw [Heeds] at heeds
      rw [next, if_pos heeds]
      exact ⟨rfl, rfl⟩
  | readAccess target =>
      rw [next]
      cases unlimited : world.unlimited data.userId with
      | true =>
          refine idle _ ?_
          cases target with
          | row result rest => exact ⟨ahead, rfl⟩
          | direct personName => cases ahead
      | false =>
          cases target with
          | row result rest => exact ⟨ahead, fun _ => ⟨rfl, unlimited⟩⟩
          | direct personName => cases ahead
  | takeCredit target =>
      refine idle _ ?_
      rw [Heeds] at heeds
      rw [next, if_pos heeds]
      cases target with
      | row result rest => exact ⟨ahead, rfl⟩
      | direct personName => cases ahead
  | enrich target charged =>
      refine idle _ ?_
      cases target with
      | direct personName => cases ahead
      | row result rest =>
          rw [next]
          cases ApolloService.outcome input.apolloMatch with
          | error error => exact ⟨rfl, rfl⟩
          | ok found =>
              cases found with
              | none => exact ⟨ahead, rfl⟩
              | some person =>
                  dsimp only
                  cases person.columns with
                  | error error => exact ⟨rfl, rfl⟩
                  | ok columns => exact ⟨ahead, rfl⟩
  | store result rest columns =>
      refine idle _ ?_
      rw [next]
      split
      · exact checkAhead_loop ahead
      · exact ⟨rfl, rfl⟩
  | readAccessToRefund target charged =>
      refine idle _ ?_
      cases target with
      | direct personName => cases ahead
      | row result rest =>
          rw [next]
          split
          · exact ⟨ahead, rfl⟩
          · exact ⟨ahead, rfl⟩
  | refund target charged =>
      refine idle _ ?_
      cases target with
      | direct personName => cases ahead
      | row result rest =>
          rw [next]
          split
          · exact ⟨ahead, rfl⟩
          · exact ⟨rfl, rfl⟩
  | markFailed result rest =>
      refine idle _ ?_
      rw [next]
      split
      · exact checkAhead_loop ahead
      · exact ⟨rfl, rfl⟩
  | fail =>
      refine idle _ ?_
      rw [next]
      split <;> exact ⟨rfl, rfl⟩
  | skipUnreserved => cases ahead
  | createDirect personName matched => cases ahead
  | complete audited => cases ahead
  | _ => exact idle _ ⟨rfl, rfl⟩

/-- A rejected call keeps a check ahead and comes to no reservation. -/
theorem checkAhead_abort
    (ahead : stage.checkAhead = true)
    (error : ApiError) :
    (abort stage error).checkAhead = true ∧ (abort stage error).reserves = false := by
  cases stage with
  | create candidate rest made => exact checkAhead_afterCreate _ _ _
  | _ => exact ⟨rfl, rfl⟩

/-- A run with a check ahead is not at the write of `COMPLETED`. -/
theorem completes_of_checkAhead (ahead : stage.checkAhead = true) : stage.completes = false := by
  cases stage with
  | complete audited => cases ahead
  | _ => rfl

/-- A reservation is made by its own two calls only. -/
theorem reserves_of_reservesCredit (reserved : reservesCredit data stage world = true) :
    stage.reserves = true := by
  cases stage with
  | readAccess target => rfl
  | takeCredit target => rfl
  | _ => cases reserved

end SearchStage

/-! ## Schedules after the cancellation -/

namespace LeadFinder

/-- A turn in which the run at a position makes its call, if it is one, meets a
condition. -/
def OnCall
    (position : Nat)
    (condition : SearchRun → Input → World → Prop)
    (crew : Crew (SearchRun ⊕ Service Unit) World)
    (turn : CrewTurn Input ApiError) : Prop :=
  turn.member = position → turn.rejected = none →
    match crew.members[position]? with
    | some (.inl run) => condition run turn.input crew.state
    | _ => True

instance
    (data : ApolloSearchJobData)
    (stage : SearchStage)
    (input : Input)
    (world : World) :
    Decidable (stage.Heeds data input world) := by
  unfold SearchStage.Heeds
  split
  · infer_instance
  · split <;> infer_instance
  · infer_instance
  · infer_instance

instance
    (position : Nat)
    (condition : SearchRun → Input → World → Prop)
    [∀ run input world, Decidable (condition run input world)]
    (crew : Crew (SearchRun ⊕ Service Unit) World)
    (turn : CrewTurn Input ApiError) :
    Decidable (OnCall position condition crew turn) := by
  unfold OnCall
  split <;> infer_instance

/-- The reservations the run at a position makes in a turn. -/
def reservedBy
    (position : Nat)
    (crew : Crew (SearchRun ⊕ Service Unit) World)
    (turn : CrewTurn Input ApiError) : Int :=
  if turn.member = position ∧ turn.rejected = none then
    match crew.members[position]? with
    | some (.inl run) => if run.stage.reservesCredit run.data crew.state then 1 else 0
    | _ => 0
  else 0

/-- The reservation the run at a position is about to make. -/
def pendingReservation
    (position : Nat)
    (crew : Crew (SearchRun ⊕ Service Unit) World) : Int :=
  match crew.members[position]? with
  | some (.inl run) => if run.stage.reserves then 1 else 0
  | _ => 0

/-- The run at a position satisfies a condition. -/
def AtPosition
    (position : Nat)
    (condition : SearchRun → Prop)
    (crew : Crew (SearchRun ⊕ Service Unit) World) : Prop :=
  ∃ run, crew.members[position]? = some (.inl run) ∧ condition run

section

variable {position : Nat} {crew : Crew (SearchRun ⊕ Service Unit) World}
  {turn : CrewTurn Input ApiError}

/-- What a turn does to the run at a position: nothing, or its call, or a
rejection. -/
theorem run_step_cases
    {run : SearchRun}
    (chosen : crew.members[position]? = some (.inl run)) :
    (turn.member ≠ position ∧
        (machine.step crew turn).members[position]? = some (.inl run)) ∨
      (turn.member = position ∧ turn.rejected = none ∧
        (machine.step crew turn).state =
          SearchStage.write run.data run.stage crew.state ∧
        (machine.step crew turn).members[position]? = some (.inl
          { run with stage := run.stage.next run.data turn.input crew.state })) ∨
      ∃ error, turn.member = position ∧ turn.rejected = some error ∧
        (machine.step crew turn).state = crew.state ∧
        (machine.step crew turn).members[position]? = some (.inl
          { run with stage := run.stage.abort error }) := by
  rcases Machine.step_cases machine crew turn with
    ⟨missing, same⟩ | ⟨member, found, ⟨taken, after⟩ | ⟨error, rejected, after⟩⟩
  · refine .inl ⟨?_, by rw [same, chosen]⟩
    rintro rfl
    rw [missing] at chosen
    cases chosen
  · rw [after]
    by_cases mine : turn.member = position
    · subst mine
      rw [chosen] at found
      cases found
      refine .inr (.inl ⟨rfl, taken, SearchStage.effect_eq _ _ _ _, ?_⟩)
      rw [List.getElem?_set_self (List.getElem?_eq_some_iff.mp chosen).1]
      rfl
    · exact .inl ⟨mine, by rw [List.getElem?_set_ne mine, chosen]⟩
  · rw [after]
    by_cases mine : turn.member = position
    · subst mine
      rw [chosen] at found
      cases found
      refine .inr (.inr ⟨error, rfl, rejected, rfl, ?_⟩)
      rw [List.getElem?_set_self (List.getElem?_eq_some_iff.mp chosen).1]
      rfl
    · exact .inl ⟨mine, by rw [List.getElem?_set_ne mine, chosen]⟩

/-- A turn that heeds the cancellation leaves a check ahead, and uses up the
reservation that was about to be made. -/
theorem reserved_step
    (ahead : AtPosition position (fun run => run.stage.checkAhead = true) crew)
    (heeds : OnCall position
      (fun run input world => run.stage.Heeds run.data input world) crew turn) :
    AtPosition position (fun run => run.stage.checkAhead = true) (machine.step crew turn) ∧
      pendingReservation position (machine.step crew turn) + reservedBy position crew turn ≤
        pendingReservation position crew := by
  obtain ⟨run, chosen, ahead⟩ := ahead
  unfold pendingReservation reservedBy AtPosition
  rw [chosen]
  rcases run_step_cases chosen with
    ⟨other, kept⟩ | ⟨mine, taken, -, moved⟩ | ⟨error, mine, rejected, -, moved⟩
  · rw [kept, if_neg (fun both => other both.1)]
    exact ⟨⟨run, rfl, ahead⟩, by omega⟩
  · have heeded := heeds mine taken
    rw [chosen] at heeded
    obtain ⟨stillAhead, slows⟩ := SearchStage.checkAhead_next ahead heeded
    rw [moved, if_pos ⟨mine, taken⟩]
    refine ⟨⟨_, rfl, stillAhead⟩, ?_⟩
    dsimp only
    cases reserves : (run.stage.next run.data turn.input crew.state).reserves with
    | true =>
        obtain ⟨reserving, unreserved⟩ := slows reserves
        simp [reserving, unreserved]
    | false =>
        cases reserved : run.stage.reservesCredit run.data crew.state with
        | true => simp [SearchStage.reserves_of_reservesCredit reserved]
        | false =>
            cases run.stage.reserves <;> simp
  · obtain ⟨stillAhead, quiet⟩ := SearchStage.checkAhead_abort ahead error
    rw [moved, if_neg (fun both => by rw [rejected] at both; cases both.2)]
    refine ⟨⟨_, rfl, stillAhead⟩, ?_⟩
    dsimp only
    rw [quiet]
    cases run.stage.reserves <;> simp

end

/-- A run that has a check of the status ahead, and heeds what its checks find,
makes at most the reservation it was about to make, none if it has not started,
and does not write `COMPLETED`, whatever the other runs and requests do. -/
theorem cancelled_run_stops
    (crew : Crew (SearchRun ⊕ Service Unit) World)
    (position : Nat)
    (run : SearchRun)
    (chosen : crew.members[position]? = some (.inl run))
    (ahead : run.stage.checkAhead = true)
    (schedule : List (CrewTurn Input ApiError))
    (heeds : Along machine.step
      (OnCall position fun run input world => run.stage.Heeds run.data input world)
      crew schedule) :
    tally machine.step (reservedBy position) crew schedule ≤
        (if run.stage.reserves then 1 else 0) ∧
      (run = SearchRun.start run.data →
        tally machine.step (reservedBy position) crew schedule ≤ 0) ∧
      Along machine.step (OnCall position fun run _ _ => run.stage.completes = false)
        crew schedule := by
  let invariant := AtPosition position fun run => run.stage.checkAhead = true
  have start : invariant crew := ⟨run, chosen, ahead⟩
  have pending : pendingReservation position crew = if run.stage.reserves then 1 else 0 := by
    unfold pendingReservation
    rw [chosen]
  have bound : tally machine.step (reservedBy position) crew schedule ≤
      if run.stage.reserves then 1 else 0 := by
    rw [← pending]
    refine tally_le_level (reservedBy position) (pendingReservation position)
      (fun crew turn holds met => (reserved_step holds met).1)
      (fun crew turn holds met => (reserved_step holds met).2) ?_ start heeds
    intro crew
    unfold pendingReservation
    split
    · split <;> decide
    · exact Int.le_refl 0
  refine ⟨bound, fun unstarted => ?_, ?_⟩
  · -- A run of a direct match has no check ahead, and a search has reserved nothing.
    rw [unstarted] at bound ahead
    unfold SearchRun.start SearchStage.start at bound ahead
    dsimp only at bound ahead
    cases named : ApolloSearchProcessor.directName run.data.filters with
    | none =>
        rw [named] at bound
        exact bound
    | some personName =>
        rw [named] at ahead
        cases ahead
  · refine heeds.weaken invariant (fun crew turn holds met => (reserved_step holds met).1) ?_
      start
    rintro crew turn ⟨run, chosen, ahead⟩ - mine taken
    rw [chosen]
    exact SearchStage.completes_of_checkAhead ahead

/-- A search of two people by a user with credits for both, and its cancellation, as the
credit for the first is about to be taken. -/
def reservingCrew : Crew (SearchRun ⊕ Service Unit) World :=
  machine.run (crew .defaults fundedWorld [sampleJob] [.cancelSearchJob 0 1])
    (sampleTurns [0, 0, 0, 0, 0])

/-- The row of a person of the search. -/
def foundRow (id : Nat) (apolloPersonId : String) : LeadSearchResult where
  id
  jobId := 1
  apolloPersonId
  name := some "Unknown"
  title := none
  company := none

/-- The run of that search, about to take a credit for the first person. -/
def reservingRun : SearchRun where
  data := sampleJob
  stage := .takeCredit (.row (foundRow 2 "p") [foundRow 3 "q"])

/-- The credit for the first person is taken in the middle of the cancellation, and no other
one; the search stays cancelled. -/
theorem cancelled_run_stops_reserving :
    tally machine.step (reservedBy 0) reservingCrew
        (sampleTurns [1, 0, 1, 0, 0, 0, 0, 0, 0, 0, 0]) ≤ 1 ∧
      Along machine.step (OnCall 0 fun run _ _ => run.stage.completes = false) reservingCrew
        (sampleTurns [1, 0, 1, 0, 0, 0, 0, 0, 0, 0, 0]) ∧
      tally machine.step (reservedBy 0) reservingCrew
        (sampleTurns [1, 0, 1, 0, 0, 0, 0, 0, 0, 0, 0]) = 1 ∧
      ((machine.run reservingCrew
        (sampleTurns [1, 0, 1, 0, 0, 0, 0, 0, 0, 0, 0])).state.findSearchJob 1).map (·.status) =
          some .cancelled := by
  obtain ⟨bound, -, never⟩ := cancelled_run_stops reservingCrew 0 reservingRun rfl rfl
    (sampleTurns [1, 0, 1, 0, 0, 0, 0, 0, 0, 0, 0]) (by decide)
  exact ⟨bound, never, by decide, by decide⟩

/-- A direct match that is cancelled before it starts reserves a credit and completes
the job, and a search that is cancelled during its last enrichment completes it
too. -/
theorem cancelled_runs_complete :
    (tally machine.step (reservedBy 0)
          (crew {} (sampleWorld.setJobStatus 1 .cancelled)
            [{ sampleJob with filters := { personName := some "Ada" } }] [])
          (List.replicate 10 { member := 0, input := sampleInput }) = 1 ∧
        ((machine.run (crew {} (sampleWorld.setJobStatus 1 .cancelled)
            [{ sampleJob with filters := { personName := some "Ada" } }] [])
          (List.replicate 10 { member := 0, input := sampleInput })).state.findSearchJob
            1).map (·.status) = some .completed) ∧
      ((machine.run (crew {} sampleWorld [{ sampleJob with cap := 1 }]
            [.cancelSearchJob 0 1])
          ((List.replicate 6 0 ++ List.replicate 2 1).map fun member =>
            { member, input := sampleInput })).state.findSearchJob 1).map (·.status) =
          some .cancelled ∧
        ((machine.run (crew {} sampleWorld [{ sampleJob with cap := 1 }]
            [.cancelSearchJob 0 1])
          ((List.replicate 6 0 ++ List.replicate 2 1 ++ List.replicate 6 0).map
            fun member => { member, input := sampleInput })).state.findSearchJob 1).map
              (·.status) = some .completed := by
  decide

end LeadFinder
end ConferenceContact
