import ConferenceContact.Leads.Failures

/-!
# Executions that meet one failure

An execution, among requests that leave it what it needs, settles what it has
started exactly where its failure leaves nothing to undo.
-/

namespace ConferenceContact

open Process

/-! ## An execution among other requests -/

namespace LeadFinder

/-- An execution about to start, and the requests beside it. -/
def execution
    (data : ApolloSearchJobData)
    (world : World)
    (others : List (Service Unit)) : Crew (SearchRun ⊕ Service Unit) World where
  state := world
  members := .inl (SearchRun.start data) :: others.map .inr

/-- A turn in which the run at a position moves meets a condition. -/
def OnTurn
    (position : Nat)
    (condition : SearchRun → CrewTurn Input ApiError → Prop)
    (crew : Crew (SearchRun ⊕ Service Unit) World)
    (turn : CrewTurn Input ApiError) : Prop :=
  turn.member = position →
    match crew.members[position]? with
    | some (.inl run) => condition run turn
    | _ => True

/-- The failures of the run at a position in a turn. -/
def failuresOf
    (position : Nat)
    (crew : Crew (SearchRun ⊕ Service Unit) World)
    (turn : CrewTurn Input ApiError) : Int :=
  if turn.member = position then
    match crew.members[position]? with
    | some (.inl run) => if run.stage.fails turn then 1 else 0
    | _ => 0
  else 0

/-- The credits the run at a position gives back in a turn. -/
def refundedBy
    (position : Nat)
    (crew : Crew (SearchRun ⊕ Service Unit) World)
    (turn : CrewTurn Input ApiError) : Int :=
  if turn.member = position ∧ turn.rejected = none then
    match crew.members[position]? with
    | some (.inl run) => if run.stage.refundsCredit run.data crew.state then 1 else 0
    | _ => 0
  else 0

/-- The credits the run at a position reserves over a schedule, less those it gives
back. -/
def spentOver
    (position : Nat)
    (crew : Crew (SearchRun ⊕ Service Unit) World)
    (schedule : List (CrewTurn Input ApiError)) : Int :=
  tally machine.step (reservedBy position) crew schedule -
    tally machine.step (refundedBy position) crew schedule

/-- A failure that leaves nothing to undo. -/
def Harmless (run : SearchRun) (turn : CrewTurn Input ApiError) : Prop :=
  run.stage.fails turn = true → run.stage.harmless = true

/-- A call that does not skip the pending rows. -/
def SkipsNone (run : SearchRun) (_input : Input) (_world : World) : Prop :=
  run.stage.skips = false

/-- The job is in a terminal status, none of its results is pending, and the credits
spent are those of the enriched rows with ids from `base` on. -/
def Compensated (data : ApolloSearchJobData) (base : Nat) (world : World) (spent : Int) : Prop :=
  ((world.findSearchJob data.jobId).any fun job => job.status ≠ .running) = true ∧
    (∀ row ∈ world.resultsOf data.jobId, row.status ≠ .pending) ∧
    spent = enrichedCount (world.created data.jobId base)

instance
    (position : Nat)
    (condition : SearchRun → CrewTurn Input ApiError → Prop)
    [∀ run turn, Decidable (condition run turn)]
    (crew : Crew (SearchRun ⊕ Service Unit) World)
    (turn : CrewTurn Input ApiError) :
    Decidable (OnTurn position condition crew turn) := by
  unfold OnTurn
  rcases crew.members[position]? with _ | run | _
  · exact inferInstanceAs (Decidable (_ → True))
  · exact inferInstanceAs (Decidable (_ → condition run turn))
  · exact inferInstanceAs (Decidable (_ → True))

instance (run : SearchRun) (turn : CrewTurn Input ApiError) : Decidable (Harmless run turn) := by
  unfold Harmless
  infer_instance

instance (run : SearchRun) (input : Input) (world : World) :
    Decidable (SkipsNone run input world) := by
  unfold SkipsNone
  infer_instance

instance (data : ApolloSearchJobData) (base : Nat) (world : World) (spent : Int) :
    Decidable (Compensated data base world spent) := by
  unfold Compensated
  infer_instance

/-! ### The turns of the first member -/

section

variable {crew : Crew (SearchRun ⊕ Service Unit) World} {run : SearchRun}
  {others : List (SearchRun ⊕ Service Unit)} {turn : CrewTurn Input ApiError}

/-- A call of the run that is the first member. -/
theorem step_first_call
    (members : crew.members = .inl run :: others)
    (mine : turn.member = 0)
    (taken : turn.rejected = none) :
    machine.step crew turn =
      ⟨run.stage.write run.data crew.state,
        .inl ⟨run.data, run.stage.next run.data turn.input crew.state⟩ :: others⟩ := by
  simp only [Machine.step, mine, taken, members, List.set_cons_zero]
  rw [← SearchStage.effect_eq run.data run.stage turn.input]
  rfl

/-- A rejected call of the run that is the first member. -/
theorem step_first_rejected
    (members : crew.members = .inl run :: others)
    (mine : turn.member = 0)
    {error : ApiError}
    (rejected : turn.rejected = some error) :
    machine.step crew turn =
      ⟨crew.state, .inl ⟨run.data, run.stage.abort error⟩ :: others⟩ := by
  simp only [Machine.step, mine, rejected, members, List.set_cons_zero]
  rfl

/-- A turn of one of the requests beside the first member. -/
theorem step_beside
    {R : World → World → Prop}
    [Std.Refl R]
    (members : crew.members = .inl run :: others)
    (beside : ∀ other ∈ others, ∃ service : Service Unit,
      other = .inr service ∧ service.Respects R)
    (other : turn.member ≠ 0) :
    ∃ others, (machine.step crew turn).members = .inl run :: others ∧
      (∀ other ∈ others, ∃ service : Service Unit,
        other = .inr service ∧ service.Respects R) ∧
      R crew.state (machine.step crew turn).state := by
  obtain ⟨position, shift⟩ := Nat.exists_eq_succ_of_ne_zero other
  have replaced : ∀ service : Service Unit, service.Respects R →
      ∀ other ∈ others.set position (.inr service), ∃ service : Service Unit,
        other = .inr service ∧ service.Respects R := by
    intro service respects other present
    rcases List.mem_or_eq_of_mem_set present with old | rfl
    · exact beside other old
    · exact ⟨service, rfl, respects⟩
  rcases Machine.step_cases machine crew turn with
    ⟨-, same⟩ | ⟨member, found, ⟨taken, after⟩ | ⟨error, rejected, after⟩⟩
  · rw [same]
    exact ⟨others, members, beside, Std.Refl.refl _⟩
  · rw [members, shift] at found
    obtain ⟨service, rfl, respects⟩ := beside member (List.mem_of_getElem? found)
    rw [after, members, shift]
    exact ⟨_, rfl, replaced _ (respects.residual _ _), respects.effect _ _⟩
  · rw [members, shift] at found
    obtain ⟨service, rfl, respects⟩ := beside member (List.mem_of_getElem? found)
    rw [after, members, shift]
    exact ⟨_, rfl, replaced _ (respects.rejected _), Std.Refl.refl _⟩

end

/-- The state of an execution in a crew. -/
structure Execution
    (data : ApolloSearchJobData)
    (base : Nat)
    (crew : Crew (SearchRun ⊕ Service Unit) World)
    (stage : SearchStage) : Prop where
  members : ∃ others, crew.members = .inl ⟨data, stage⟩ :: others ∧
    ∀ other ∈ others, ∃ service : Service Unit,
      other = .inr service ∧ service.Respects (Beside data)
  ground : Ground data base crew.state
  account : 0 < stage.held → crew.state.hasUser data.userId = true
  concluded : stage.Concluded data crew.state

namespace Execution

variable {data : ApolloSearchJobData} {base : Nat} {stage : SearchStage}
  {crew : Crew (SearchRun ⊕ Service Unit) World} {turn : CrewTurn Input ApiError}

theorem chosen (execution : Execution data base crew stage) :
    crew.members[0]? = some (.inl ⟨data, stage⟩) := by
  obtain ⟨others, members, -⟩ := execution.members
  rw [members]
  rfl

/-- A turn of another request leaves the execution where it is. -/
theorem step_other
    (execution : Execution data base crew stage)
    (other : turn.member ≠ 0) :
    Execution data base (machine.step crew turn) stage ∧
      (machine.step crew turn).state.resultsOf data.jobId =
        crew.state.resultsOf data.jobId := by
  obtain ⟨⟨others, members, beside⟩, ground, account, concluded⟩ := execution
  obtain ⟨others, stays, respect, change⟩ := step_beside members beside other
  refine ⟨⟨⟨others, stays, respect⟩, ground.beside change, ?_, ?_⟩, change.results⟩
  · exact fun holds => change.account (account holds)
  · exact SearchStage.concluded_beside ground.known change concluded

/-- A call of the execution. -/
theorem step_call
    (execution : Execution data base crew stage)
    (mine : turn.member = 0)
    (taken : turn.rejected = none) :
    Execution data base (machine.step crew turn)
        (stage.next data turn.input crew.state) ∧
      (machine.step crew turn).state = stage.write data crew.state := by
  obtain ⟨⟨others, members, beside⟩, ground, account, concluded⟩ := execution
  rw [step_first_call members mine taken]
  refine ⟨⟨⟨others, rfl, beside⟩, ground.write, ?_, ?_⟩, rfl⟩
  · exact SearchStage.account_next ground.limited account
  · exact SearchStage.concluded_next ground.known concluded

/-- A rejected call of the execution. -/
theorem step_rejected
    (execution : Execution data base crew stage)
    (mine : turn.member = 0)
    {error : ApiError}
    (rejected : turn.rejected = some error)
    (handled : stage ≠ .fail) :
    Execution data base (machine.step crew turn) (stage.abort error) ∧
      (machine.step crew turn).state = crew.state := by
  obtain ⟨⟨others, members, beside⟩, ground, account, concluded⟩ := execution
  rw [step_first_rejected members mine rejected]
  refine ⟨⟨⟨others, rfl, beside⟩, ground, ?_, ?_⟩, rfl⟩
  · intro holds
    rw [SearchStage.held_abort] at holds
    exact absurd holds (Int.lt_irrefl 0)
  · cases finished : stage.isOver with
    | false => exact SearchStage.concluded_abort finished handled error
    | true =>
        cases stage with
        | finished outcome => exact concluded
        | _ => cases finished

/-- The final state, where nothing of the execution is pending any more. -/
theorem compensated_iff
    (execution : Execution data base crew stage)
    (finished : stage.isOver = true)
    (spent : Int) :
    Compensated data base crew.state spent ↔
      SettledRows (crew.state.created data.jobId base) spent ∧
        crew.state.leftover data.jobId base = [] := by
  have ended : ((crew.state.findSearchJob data.jobId).any fun job =>
      job.status ≠ .running) = true := by
    have concluded := execution.concluded
    cases stage with
    | finished outcome => exact concluded
    | _ => cases finished
  have apart : (∀ row ∈ crew.state.resultsOf data.jobId, row.status ≠ .pending) ↔
      (∀ row ∈ crew.state.created data.jobId base, row.status ≠ .pending) ∧
        crew.state.leftover data.jobId base = [] := by
    unfold World.created World.leftover
    simp only [List.mem_filter, List.filter_eq_nil_iff, decide_eq_true_eq, not_and]
    constructor
    · intro settled
      exact ⟨fun row both => settled row both.1, fun row present _ => settled row present⟩
    · rintro ⟨recent, older⟩ row present
      by_cases new : base ≤ row.id
      · exact recent row ⟨present, new⟩
      · exact older row present (Nat.lt_of_not_le new)
  unfold Compensated SettledRows
  rw [apart]
  constructor
  · rintro ⟨-, ⟨settled, none⟩, spent⟩
    exact ⟨⟨settled, spent⟩, none⟩
  · rintro ⟨⟨settled, spent⟩, none⟩
    exact ⟨ended, ⟨settled, none⟩, spent⟩

theorem failuresOf_eq
    (execution : Execution data base crew stage)
    (mine : turn.member = 0) :
    failuresOf 0 crew turn = if stage.fails turn then 1 else 0 := by
  unfold failuresOf
  rw [if_pos mine, execution.chosen]

/-- The credits a call reserves, less those it gives back. -/
theorem spent_eq (execution : Execution data base crew stage) :
    reservedBy 0 crew turn - refundedBy 0 crew turn =
      if turn.member = 0 ∧ turn.rejected = none then stage.spends data crew.state else 0 := by
  unfold reservedBy refundedBy
  rw [execution.chosen]
  split
  · rfl
  · exact Int.sub_self 0

/-- A turn without a failure. -/
theorem step_quiet
    {net : Int}
    (execution : Execution data base crew stage)
    (settles : Prop)
    (phase : stage.Accounted (crew.state.created data.jobId base) net ∨
      stage.Aftermath (crew.state.created data.jobId base) net settles)
    (quiet : failuresOf 0 crew turn = 0) :
    ∃ after, Execution data base (machine.step crew turn) after ∧
      (stage.Accounted (crew.state.created data.jobId base) net →
        after.Accounted ((machine.step crew turn).state.created data.jobId base)
          (net + (reservedBy 0 crew turn - refundedBy 0 crew turn))) ∧
      (stage.Aftermath (crew.state.created data.jobId base) net settles →
        after.Aftermath ((machine.step crew turn).state.created data.jobId base)
          (net + (reservedBy 0 crew turn - refundedBy 0 crew turn)) settles) ∧
      (OnCall 0 SkipsNone crew turn ∧
          (machine.step crew turn).state.leftover data.jobId base =
            crew.state.leftover data.jobId base ∨
        ¬OnCall 0 SkipsNone crew turn ∧
          (machine.step crew turn).state.leftover data.jobId base = []) := by
  rw [spent_eq execution]
  by_cases mine : turn.member = 0
  · rw [failuresOf_eq execution mine] at quiet
    have unfailing : stage.fails turn = false := by
      cases failing : stage.fails turn with
      | false => rfl
      | true =>
          rw [failing] at quiet
          exact absurd quiet (by decide)
    cases finished : stage.isOver with
    | true =>
        -- The run has ended, and its turns do nothing.
        obtain ⟨outcome, rfl⟩ : ∃ outcome, stage = .finished outcome := by
          cases stage with
          | finished outcome => exact ⟨outcome, rfl⟩
          | _ => cases finished
        have stays : Execution data base (machine.step crew turn) (.finished outcome) ∧
            (machine.step crew turn).state = crew.state := by
          cases rejected : turn.rejected with
          | none => exact execution.step_call mine rejected
          | some error => exact execution.step_rejected mine rejected nofun
        have free : (if turn.member = 0 ∧ turn.rejected = none then
            (SearchStage.finished outcome).spends data crew.state else 0) = 0 := by
          split <;> rfl
        rw [stays.2, free, Int.add_zero]
        refine ⟨_, stays.1, id, id, .inl ⟨fun _ _ => ?_, rfl⟩⟩
        rw [execution.chosen]
        rfl
    | false =>
        have parts : turn.rejected.isSome = false ∧ stage.throws turn.input = false := by
          unfold SearchStage.fails at unfailing
          rw [finished, Bool.not_false, Bool.true_and, Bool.or_eq_false_iff] at unfailing
          exact unfailing
        have taken : turn.rejected = none :=
          Option.not_isSome_iff_eq_none.mp (by rw [parts.1]; exact Bool.false_ne_true)
        obtain ⟨moved, state⟩ := execution.step_call mine taken
        rw [if_pos ⟨mine, taken⟩, state]
        refine ⟨_, moved, ?_, ?_, ?_⟩
        · intro accounted
          exact SearchStage.accounted_next execution.ground accounted execution.account parts.2
        · exact SearchStage.aftermath_next execution.ground
        · rw [SearchStage.leftover_write execution.ground phase]
          have call : OnCall 0 SkipsNone crew turn ↔ stage.skips = false := by
            unfold OnCall
            rw [execution.chosen]
            exact ⟨fun met => met mine taken, fun met _ _ => met⟩
          rw [call]
          cases stage.skips with
          | true => exact .inr ⟨nofun, rfl⟩
          | false => exact .inl ⟨rfl, rfl⟩
  · obtain ⟨kept, results⟩ := execution.step_other mine
    have created : (machine.step crew turn).state.created data.jobId base =
        crew.state.created data.jobId base := by
      unfold World.created
      rw [results]
    rw [if_neg (fun both => mine both.1), created, Int.add_zero]
    refine ⟨stage, kept, id, id, .inl ⟨?_, ?_⟩⟩
    · exact fun same => absurd same mine
    · unfold World.leftover
      rw [results]

/-- A turn in which the execution fails. -/
theorem step_failing
    {net : Int}
    (execution : Execution data base crew stage)
    (handled : stage ≠ .fail)
    (failing : failuresOf 0 crew turn ≠ 0) :
    ∃ after, Execution data base (machine.step crew turn) after ∧
      (machine.step crew turn).state = crew.state ∧
      reservedBy 0 crew turn - refundedBy 0 crew turn = 0 ∧
      failuresOf 0 crew turn = 1 ∧
      OnCall 0 SkipsNone crew turn ∧
      (stage.Accounted (crew.state.created data.jobId base) net →
        after.Aftermath (crew.state.created data.jobId base) net
          (OnTurn 0 Harmless crew turn)) := by
  rw [spent_eq execution]
  have mine : turn.member = 0 := by
    by_contra other
    unfold failuresOf at failing
    rw [if_neg other] at failing
    exact failing rfl
  have fails : stage.fails turn = true := by
    rw [failuresOf_eq execution mine] at failing
    cases fails : stage.fails turn with
    | true => rfl
    | false =>
        rw [fails] at failing
        exact absurd rfl failing
  have harmless : OnTurn 0 Harmless crew turn ↔ stage.harmless = true := by
    unfold OnTurn
    rw [execution.chosen]
    exact ⟨fun met => met mine fails, fun met _ _ => met⟩
  have parts : stage.isOver = false ∧
      (turn.rejected.isSome = true ∨ stage.throws turn.input = true) := by
    unfold SearchStage.fails at fails
    rwa [Bool.and_eq_true, Bool.not_eq_true', Bool.or_eq_true] at fails
  rw [failuresOf_eq execution mine, if_pos fails, harmless]
  cases rejected : turn.rejected with
  | some error =>
      obtain ⟨moved, state⟩ := execution.step_rejected mine rejected handled
      refine ⟨_, moved, state, if_neg (fun both => nomatch both.2), rfl, ?_, ?_⟩
      · exact fun _ taken => nomatch rejected.symm.trans taken
      · exact fun accounted => SearchStage.aftermath_abort accounted parts.1 error
  | none =>
      have throwing : stage.throws turn.input = true := by
        rw [rejected] at parts
        exact parts.2.resolve_left Bool.false_ne_true
      obtain ⟨unwritten, leads, free, skipless⟩ :=
        SearchStage.of_throws throwing .apollo data crew.state
      obtain ⟨moved, state⟩ := execution.step_call mine rejected
      rw [leads] at moved
      refine ⟨_, moved, state.trans unwritten, ?_, rfl, ?_, ?_⟩
      · rw [if_pos ⟨mine, rfl⟩, free]
      · intro _ _
        rw [execution.chosen]
        exact skipless
      · exact fun accounted => SearchStage.aftermath_abort accounted parts.1 .apollo

theorem spentOver_cons
    (crew : Crew (SearchRun ⊕ Service Unit) World)
    (turn : CrewTurn Input ApiError)
    (schedule : List (CrewTurn Input ApiError))
    (net : Int) :
    net + spentOver 0 crew (turn :: schedule) =
      net + (reservedBy 0 crew turn - refundedBy 0 crew turn) +
        spentOver 0 (machine.step crew turn) schedule := by
  simp only [spentOver, tally]
  omega

theorem failuresOf_nonneg
    (crew : Crew (SearchRun ⊕ Service Unit) World)
    (turn : CrewTurn Input ApiError) :
    0 ≤ failuresOf 0 crew turn := by
  unfold failuresOf
  split
  · split
    · split <;> decide
    · exact Int.le_refl 0
  · exact Int.le_refl 0

/-- A turn without a failure has no failure to undo. -/
theorem harmless_of_quiet (quiet : failuresOf 0 crew turn = 0) : OnTurn 0 Harmless crew turn := by
  intro mine
  unfold failuresOf at quiet
  rw [if_pos mine] at quiet
  split
  · rename_i run chosen
    rw [chosen] at quiet
    intro fails
    dsimp only at quiet
    rw [fails] at quiet
    exact absurd quiet (by decide)
  · trivial

/-- The pending rows from before are gone after a turn and the turns that follow it,
exactly where they are gone after all of them. -/
theorem cleared_cons
    {turn : CrewTurn Input ApiError}
    {schedule : List (CrewTurn Input ApiError)}
    (change : OnCall 0 SkipsNone crew turn ∧
        (machine.step crew turn).state.leftover data.jobId base =
          crew.state.leftover data.jobId base ∨
      ¬OnCall 0 SkipsNone crew turn ∧
        (machine.step crew turn).state.leftover data.jobId base = []) :
    ((machine.step crew turn).state.leftover data.jobId base = [] ∨
        ¬Along machine.step (OnCall 0 SkipsNone) (machine.step crew turn) schedule) ↔
      (crew.state.leftover data.jobId base = [] ∨
        ¬Along machine.step (OnCall 0 SkipsNone) crew (turn :: schedule)) := by
  rw [Along]
  rcases change with ⟨quiet, kept⟩ | ⟨skips, cleared⟩
  · rw [kept, and_iff_right quiet]
  · exact iff_of_true (.inl cleared) (.inr fun both => skips both.1)

/-- What an execution still comes to: before its failure, and after it. -/
theorem run_compensated_iff
    {schedule : List (CrewTurn Input ApiError)}
    {net : Int}
    (execution : Execution data base crew stage)
    (exits : AtPosition 0 (fun run => run.stage.isOver = true) (machine.run crew schedule)) :
    (stage.Accounted (crew.state.created data.jobId base) net →
      tally machine.step (failuresOf 0) crew schedule ≤ 1 →
      (Compensated data base (machine.run crew schedule).state
          (net + spentOver 0 crew schedule) ↔
        Along machine.step (OnTurn 0 Harmless) crew schedule ∧
          (crew.state.leftover data.jobId base = [] ∨
            ¬Along machine.step (OnCall 0 SkipsNone) crew schedule))) ∧
    ∀ settles : Prop, stage.Aftermath (crew.state.created data.jobId base) net settles →
      tally machine.step (failuresOf 0) crew schedule ≤ 0 →
      (Compensated data base (machine.run crew schedule).state
          (net + spentOver 0 crew schedule) ↔
        settles ∧
          (crew.state.leftover data.jobId base = [] ∨
            ¬Along machine.step (OnCall 0 SkipsNone) crew schedule)) := by
  induction schedule generalizing crew stage net with
  | nil =>
      have finished : stage.isOver = true := by
        obtain ⟨run, chosen, finished⟩ := exits
        have same : some (Sum.inl ⟨data, stage⟩) = some (Sum.inl run) :=
          execution.chosen.symm.trans chosen
        cases same
        exact finished
      obtain ⟨outcome, rfl⟩ : ∃ outcome, stage = .finished outcome := by
        cases stage with
        | finished outcome => exact ⟨outcome, rfl⟩
        | _ => cases finished
      have unskipped : ∀ cleared : Prop, (cleared ∨
          ¬Along machine.step (OnCall 0 SkipsNone) crew []) ↔ cleared :=
        fun cleared => or_iff_left (fun skips => skips trivial)
      have final := execution.compensated_iff finished net
      rw [unskipped, show net + spentOver 0 crew [] = net from Int.add_zero net]
      refine ⟨fun accounted _ => ?_, fun settles aftermath _ => ?_⟩
      · obtain ⟨todo, left, rfl, spent⟩ := accounted
        refine final.trans (and_congr_left' (iff_of_true ?_ trivial))
        exact SearchStage.settled_of_done left (spent.trans (Int.add_zero _))
      · exact final.trans (and_congr_left' aftermath)
  | cons turn schedule inductionHypothesis =>
      have later : 0 ≤ tally machine.step (failuresOf 0) (machine.step crew turn) schedule :=
        tally_nonneg failuresOf_nonneg _ _
      rw [spentOver_cons]
      simp only [tally]
      by_cases quiet : failuresOf 0 crew turn = 0
      · rw [quiet, Int.zero_add]
        refine ⟨fun accounted single => ?_, fun settles aftermath none => ?_⟩
        · obtain ⟨after, moved, accounts, -, change⟩ :=
            execution.step_quiet True (.inl accounted) quiet
          rw [Along, and_iff_right (harmless_of_quiet quiet), ← cleared_cons change]
          exact (inductionHypothesis moved exits).1 (accounts accounted) single
        · obtain ⟨after, moved, -, passes, change⟩ :=
            execution.step_quiet settles (.inr aftermath) quiet
          rw [← cleared_cons change]
          exact (inductionHypothesis moved exits).2 settles (passes aftermath) none
      · refine ⟨fun accounted single => ?_, fun settles _ none => ?_⟩
        · have handled : stage ≠ .fail := by
            rintro rfl
            obtain ⟨todo, -, awaits, -⟩ := accounted
            exact awaits
          obtain ⟨after, moved, state, free, once, skipless, fails⟩ :=
            execution.step_failing handled quiet
          have none : tally machine.step (failuresOf 0) (machine.step crew turn) schedule ≤ 0 := by
            omega
          have rest : Along machine.step (OnTurn 0 Harmless) (machine.step crew turn) schedule :=
            (along_of_tally failuresOf_nonneg none).weaken (fun _ => True)
              (fun _ _ _ _ => trivial) (fun _ _ _ => harmless_of_quiet) trivial
          rw [free, Int.add_zero, Along, and_iff_left rest,
            ← cleared_cons (.inl ⟨skipless, by rw [state]⟩)]
          refine (inductionHypothesis moved exits).2 _ ?_ none
          rw [state]
          exact fails accounted
        · have positive := failuresOf_nonneg crew turn
          omega

end Execution

/-- An execution for a user who pays, at most one call of which fails, ends with its
job in a terminal status, no result of the job pending, and one credit spent for
each row it left enriched, exactly where the failure leaves nothing to undo and no
pending row is left over from before, unless it skips those. -/
theorem compensated_iff_harmless
    (data : ApolloSearchJobData)
    (world : World)
    (others : List (Service Unit))
    (beside : ∀ service ∈ others, service.Respects (Beside data))
    (known : (world.findSearchJob data.jobId).isSome = true)
    (limited : world.unlimited data.userId = false)
    (fresh : ∀ row ∈ world.resultsOf data.jobId, row.id < world.nextId)
    (schedule : List (CrewTurn Input ApiError))
    (single : tally machine.step (failuresOf 0) (execution data world others) schedule ≤ 1)
    (exits : AtPosition 0 (fun run => run.stage.isOver = true)
      (machine.run (execution data world others) schedule)) :
    Compensated data world.nextId (machine.run (execution data world others) schedule).state
        (spentOver 0 (execution data world others) schedule) ↔
      Along machine.step (OnTurn 0 Harmless) (execution data world others) schedule ∧
        ((∀ row ∈ world.resultsOf data.jobId, row.status ≠ .pending) ∨
          ¬Along machine.step (OnCall 0 SkipsNone) (execution data world others) schedule) := by
  have empty : world.created data.jobId world.nextId = [] := by
    refine List.filter_eq_nil_iff.mpr fun row present recent => ?_
    exact absurd (fresh row present) (Nat.not_lt.mpr (of_decide_eq_true recent))
  have older : world.leftover data.jobId world.nextId = [] ↔
      ∀ row ∈ world.resultsOf data.jobId, row.status ≠ .pending := by
    unfold World.leftover
    simp only [List.filter_eq_nil_iff, decide_eq_true_eq, not_and]
    exact forall₂_congr fun row present => forall_prop_of_true (fresh row present)
  have starts : Execution data world.nextId (execution data world others)
      (SearchStage.start data) := by
    refine ⟨⟨others.map .inr, rfl, ?_⟩, ⟨known, limited, Nat.le_refl _, fresh, ?_⟩, ?_, ?_⟩
    · intro other present
      obtain ⟨service, inOthers, rfl⟩ := List.mem_map.mp present
      exact ⟨service, rfl, beside service inOthers⟩
    · exact (congrArg (List.map (·.id)) empty).symm ▸ List.nodup_nil
    · intro holds
      unfold SearchStage.start at holds
      split at holds <;> exact absurd holds (Int.lt_irrefl 0)
    · unfold SearchStage.start
      split <;> trivial
  have accounted : (SearchStage.start data).Accounted
      ((execution data world others).state.created data.jobId world.nextId) 0 := by
    refine ⟨[], ?_, ?_, ?_⟩
    · exact empty.symm ▸ todo_nil_iff.mpr (List.forall_mem_nil _)
    · unfold SearchStage.start
      split <;> exact empty
    · have unspent : enrichedCount (world.created data.jobId world.nextId) = 0 := by
        rw [empty]
        rfl
      have free : (SearchStage.start data).held = 0 := by
        unfold SearchStage.start
        split <;> rfl
      rw [free]
      exact (congrArg (· + 0) unspent).symm
  have whole := (starts.run_compensated_iff exits).1 accounted single
  rw [Int.zero_add] at whole
  exact whole.trans (and_congr_right' (or_congr_left older))

/-- A cancellation of the sample search. -/
def sampleCancellation : Service Unit := do
  let _ ← LeadsService.cancelSearchJob 0 1

/-- Both people are enriched, the search is cancelled, and the write of `COMPLETED` fails. -/
def failedCompletion : List (CrewTurn Input ApiError) :=
  sampleTurns (List.replicate 13 0 ++ [1, 1]) ++
    { member := 0, input := sampleInput, rejected := some .database } :: sampleTurns [0]

/-- One person is enriched, and the match of the other throws. -/
def failedMatch : List (CrewTurn Input ApiError) :=
  sampleTurns (List.replicate 11 0) ++
    { member := 0, input := { sampleInput with apolloMatch := .nullBody } } :: sampleTurns [0]

/-- A failure after both people are enriched leaves nothing to undo; one while the second
credit is held leaves that credit and a pending row. -/
theorem compensated_iff_harmless_enriched :
    (Compensated sampleJob 2
        (machine.run (execution sampleJob fundedWorld [sampleCancellation]) failedCompletion).state
        (spentOver 0 (execution sampleJob fundedWorld [sampleCancellation]) failedCompletion) ∧
      spentOver 0 (execution sampleJob fundedWorld [sampleCancellation]) failedCompletion = 2) ∧
    (¬Compensated sampleJob 2
        (machine.run (execution sampleJob fundedWorld [sampleCancellation]) failedMatch).state
        (spentOver 0 (execution sampleJob fundedWorld [sampleCancellation]) failedMatch) ∧
      spentOver 0 (execution sampleJob fundedWorld [sampleCancellation]) failedMatch = 2) := by
  have whole (schedule : List (CrewTurn Input ApiError)) :=
    compensated_iff_harmless sampleJob fundedWorld [sampleCancellation]
      (List.forall_mem_singleton.mpr
        (Respects.bind (beside_cancelSearchJob sampleJob 0 1) fun _ => Respects.pure ()))
      rfl rfl (List.forall_mem_nil _) schedule
  refine ⟨⟨(whole failedCompletion (by decide) ⟨⟨sampleJob, .finished (.ok ())⟩, rfl, rfl⟩).mpr
    ⟨by decide, .inl (List.forall_mem_nil _)⟩, by decide⟩, ?_, by decide⟩
  intro compensated
  have harmless := ((whole failedMatch (by decide) ⟨⟨sampleJob, .finished (.ok ())⟩, rfl,
    rfl⟩).mp compensated).1
  revert harmless
  decide

/-- Apollo finds two people, and answers the first match with the JSON value
`null`. -/
def nullMatch : List (CrewTurn Input ApiError) :=
  List.replicate 8 { member := 0, input := { sampleInput with apolloMatch := .nullBody } }

/-- The match that throws fails the job after a credit was reserved: the credit is
lost, and both rows stay pending. -/
theorem null_match_leaves_pending :
    sampleWorld.unlimited sampleJob.userId = false ∧
      tally machine.step (failuresOf 0) (execution sampleJob sampleWorld []) nullMatch = 1 ∧
      AtPosition 0 (fun run => run.stage.isOver = true)
        (machine.run (execution sampleJob sampleWorld []) nullMatch) ∧
      spentOver 0 (execution sampleJob sampleWorld []) nullMatch = 1 ∧
      ((machine.run (execution sampleJob sampleWorld []) nullMatch).state.resultsOf 1).map
        (·.status) = [.pending, .pending] ∧
      ¬Compensated sampleJob 2
        (machine.run (execution sampleJob sampleWorld []) nullMatch).state
        (spentOver 0 (execution sampleJob sampleWorld []) nullMatch) := by
  refine ⟨by decide, by decide, ⟨⟨sampleJob, .finished (.ok ())⟩, rfl, rfl⟩, ?_⟩
  decide

end LeadFinder
end ConferenceContact
