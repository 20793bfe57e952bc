import ConferenceContact.Foundation.Rationing
import ConferenceContact.Leads.Executions

/-!
# How a search settles its rows

An execution that meets no failure creates one row for each candidate and then
settles the rows one after the other, a credit for each match that reveals a
person.  What it still does is foretold by the credits left and the matches
ahead, and no call changes what is foretold.
-/

namespace ConferenceContact

open Process ApolloSearchProcessor

/-- A match reveals a person. -/
def ApolloMatchResponse.succeeds (response : ApolloMatchResponse) : Bool :=
  match ApolloService.outcome response with
  | .ok (some _) => true
  | _ => false

/-- The status of a row whose enrichment succeeds, fails or is left out. -/
def LeadSearchResultStatus.settled : Option Bool → LeadSearchResultStatus
  | some true => .enriched
  | some false => .failed
  | none => .skipped

/-- What the requests beside an execution leave to it when they neither cancel its job
nor spend or add credits. -/
structure Undisturbed
    (data : ApolloSearchJobData)
    (before after : World) : Prop extends Beside data before after where
  status : (after.findSearchJob data.jobId).map (·.status) =
    (before.findSearchJob data.jobId).map (·.status)
  balance : after.creditsOf data.userId = before.creditsOf data.userId
  accounts : (before.users.map (·.id)).Nodup → (after.users.map (·.id)).Nodup

instance (data : ApolloSearchJobData) : Std.Refl (Undisturbed data) where
  refl world := ⟨Std.Refl.refl world, rfl, rfl, id⟩

/-- The rows of an execution in the order of their creation: those it has settled, and
those that are still to do, for which a supply of credits is left. -/
structure Ledger where
  settled : List LeadSearchResult
  todo : List LeadSearchResult
  supply : Nat

namespace Ledger

/-- The statuses of all rows in the end, where `answers` tells which matches succeed. -/
def forecast (ledger : Ledger) (answers : List Bool) : List LeadSearchResultStatus :=
  ledger.settled.map (·.status) ++
    (ration ledger.supply (answers.drop ledger.settled.length)).map .settled

/-- The number of rows that are enriched. -/
def enriched (ledger : Ledger) : Nat :=
  ledger.settled.countP fun row => row.status = .enriched

/-- The ledger with one more row that is to do. -/
def add (ledger : Ledger) (row : LeadSearchResult) : Ledger :=
  { ledger with todo := ledger.todo ++ [row] }

/-- The ledger after its first row is settled. -/
def settle
    (ledger : Ledger)
    (row : LeadSearchResult)
    (rest : List LeadSearchResult)
    (supply : Nat) : Ledger where
  settled := ledger.settled ++ [row]
  todo := rest
  supply

/-- The ledger after all rows that are to do are skipped. -/
def skip (ledger : Ledger) : Ledger where
  settled := ledger.settled ++ ledger.todo.map fun row => { row with status := .skipped }
  todo := []
  supply := ledger.supply

variable {ledger : Ledger} {answers : List Bool}

theorem enriched_settle (row : LeadSearchResult) (rest : List LeadSearchResult) (supply : Nat) :
    (ledger.settle row rest supply).enriched =
      ledger.enriched + if row.status = .enriched then 1 else 0 := by
  unfold enriched settle
  rw [List.countP_append, List.countP_singleton]
  simp only [decide_eq_true_eq]

theorem enriched_skip : ledger.skip.enriched = ledger.enriched := by
  unfold enriched skip
  rw [List.countP_append, List.countP_map, Nat.add_eq_left, List.countP_eq_zero]
  intro row _ enriched
  exact absurd enriched Bool.false_ne_true

/-- An enriched row uses up a credit. -/
theorem forecast_settle_enriched
    {row : LeadSearchResult}
    {rest : List LeadSearchResult}
    {supply : Nat}
    (left : ledger.supply = supply + 1)
    (succeeds : answers[ledger.settled.length]? = some true)
    (enriched : row.status = .enriched) :
    (ledger.settle row rest supply).forecast answers = ledger.forecast answers := by
  have ahead : answers.drop ledger.settled.length =
      true :: answers.drop (ledger.settled.length + 1) := by
    rw [← List.getElem_cons_drop (List.getElem?_eq_some_iff.mp succeeds).1,
      (List.getElem?_eq_some_iff.mp succeeds).2]
  unfold forecast settle
  rw [ahead, left, ration, List.map_cons, List.map_append, List.length_append,
    List.append_assoc]
  simp [enriched, LeadSearchResultStatus.settled]

/-- A failed row uses up nothing. -/
theorem forecast_settle_failed
    {row : LeadSearchResult}
    {rest : List LeadSearchResult}
    (left : 0 < ledger.supply)
    (fails : answers[ledger.settled.length]? = some false)
    (failed : row.status = .failed) :
    (ledger.settle row rest ledger.supply).forecast answers = ledger.forecast answers := by
  obtain ⟨supply, same⟩ := Nat.exists_eq_succ_of_ne_zero (Nat.pos_iff_ne_zero.mp left)
  have ahead : answers.drop ledger.settled.length =
      false :: answers.drop (ledger.settled.length + 1) := by
    rw [← List.getElem_cons_drop (List.getElem?_eq_some_iff.mp fails).1,
      (List.getElem?_eq_some_iff.mp fails).2]
  unfold forecast settle
  rw [ahead, same, ration, List.map_cons, List.map_append, List.length_append,
    List.append_assoc]
  simp [failed, LeadSearchResultStatus.settled]

/-- Without credits every row that is to do is skipped in the end. -/
theorem forecast_skip
    (used : ledger.supply = 0)
    (all : answers.length = ledger.settled.length + ledger.todo.length) :
    ledger.skip.forecast answers = ledger.forecast answers := by
  have none : answers.drop (ledger.settled.length + ledger.todo.length) = [] :=
    List.drop_eq_nil_of_le (Nat.le_of_eq all)
  have ahead : (answers.drop ledger.settled.length).length = ledger.todo.length := by
    rw [List.length_drop]
    omega
  unfold forecast skip
  dsimp only
  rw [used, List.length_append, List.length_map, none, ration_nil, ration_zero, ahead]
  simp [Function.comp_def, LeadSearchResultStatus.settled]

end Ledger

/-! ## Where an execution stands -/

/-- A search by criteria: the candidates it is to enrich, which of their matches
succeed, the balance it starts with, and where the supply of ids stands then. -/
structure SearchPlan where
  data : ApolloSearchJobData
  base : Nat
  wanted : List ApolloCandidate
  answers : List Bool
  budget : Nat
  answered : answers.length = wanted.length

/-- The rows after the one a credit is reserved for. -/
def Target.later : Target → List LeadSearchResult
  | row _ rest => rest
  | direct _ => []

namespace SearchStage

/-- The candidates whose rows are still to be created. -/
def unmade (wanted : List ApolloCandidate) : SearchStage → List ApolloCandidate
  | search => wanted
  | create candidate rest _ => candidate :: rest
  | _ => []

/-- What a stage of a search by criteria is about to do with its rows, where `answer`
tells whether the match of the first row that is to do succeeds. -/
def Faces (stage : SearchStage) (ledger : Ledger) (answer : Option Bool) : Prop :=
  match stage with
  | search => ledger.settled = [] ∧ ledger.todo = []
  | create _ _ made => ledger.settled = [] ∧ made = .ok ledger.todo
  | check result rest => ledger.todo = result :: rest
  | readAccess (.row result rest) => ledger.todo = result :: rest
  | takeCredit (.row result rest) => ledger.todo = result :: rest
  | skipUnreserved => ledger.supply = 0
  | enrich (.row result rest) _ => ledger.todo = result :: rest ∧ 0 < ledger.supply
  | store result rest _ =>
      ledger.todo = result :: rest ∧ 0 < ledger.supply ∧ answer = some true
  | readAccessToRefund (.row result rest) _ =>
      ledger.todo = result :: rest ∧ 0 < ledger.supply ∧ answer = some false
  | refund (.row result rest) _ =>
      ledger.todo = result :: rest ∧ 0 < ledger.supply ∧ answer = some false
  | markFailed result rest =>
      ledger.todo = result :: rest ∧ 0 < ledger.supply ∧ answer = some false
  | complete _ => ledger.todo = []
  | audit => ledger.todo = []
  | finished outcome => ledger.todo = [] ∧ outcome = .ok ()
  | _ => False

/-- The status of the job at a stage. -/
def Records (stage : SearchStage) (status : Option LeadSearchJobStatus) : Prop :=
  match stage with
  | audit => status = some .completed
  | finished _ => status = some .completed
  | _ => status ≠ some .cancelled

/-- The number of calls a stage of a search by criteria has ahead of it, at most. -/
def ahead (wanted : List ApolloCandidate) : SearchStage → Nat
  | search => 8 * wanted.length + 3
  | create _ rest _ => rest.length + 7 * wanted.length + 3
  | check _ rest => 7 * rest.length + 9
  | readAccess target => 7 * target.later.length + 8
  | takeCredit target => 7 * target.later.length + 7
  | skipUnreserved => 3
  | enrich target _ => 7 * target.later.length + 6
  | readAccessToRefund target _ => 7 * target.later.length + 5
  | refund target _ => 7 * target.later.length + 4
  | markFailed _ rest => 7 * rest.length + 3
  | store _ rest _ => 7 * rest.length + 3
  | complete _ => 2
  | audit => 1
  | _ => 0

end SearchStage

/-- The rows and the balance of a search are those of its ledger, and the ledger
foretells what was foretold at the start. -/
structure Standing
    (plan : SearchPlan)
    (stage : SearchStage)
    (rows : List LeadSearchResult)
    (balance : Int)
    (ledger : Ledger) : Prop where
  rows : rows = (ledger.settled ++ ledger.todo).reverse
  pending : ∀ row ∈ ledger.todo, row.status = .pending
  closed : ∀ row ∈ ledger.settled, row.status ≠ .pending
  candidates :
    (ledger.settled ++ ledger.todo).map (·.apolloPersonId) ++
        (stage.unmade plan.wanted).map (·.apolloPersonId) =
      plan.wanted.map (·.apolloPersonId)
  supply : balance + stage.held = ledger.supply
  spent : ledger.supply + ledger.enriched = plan.budget
  forecast : ledger.forecast plan.answers = (ration plan.budget plan.answers).map .settled
  faces : stage.Faces ledger plan.answers[ledger.settled.length]?

namespace Standing

variable {plan : SearchPlan} {stage after : SearchStage} {rows : List LeadSearchResult}
  {balance : Int} {ledger : Ledger} {result : LeadSearchResult} {rest : List LeadSearchResult}

/-- A call that settles nothing. -/
theorem move
    (standing : Standing plan stage rows balance ledger)
    {left : Int}
    (made : after.unmade plan.wanted = stage.unmade plan.wanted)
    (held : left + after.held = balance + stage.held)
    (faces : after.Faces ledger plan.answers[ledger.settled.length]?) :
    Standing plan after rows left ledger where
  rows := standing.rows
  pending := standing.pending
  closed := standing.closed
  candidates := made ▸ standing.candidates
  supply := held.trans standing.supply
  spent := standing.spent
  forecast := standing.forecast
  faces

/-- The head of the loop. -/
theorem loop
    (rows_eq : rows = (ledger.settled ++ ledger.todo).reverse)
    (pending : ∀ row ∈ ledger.todo, row.status = .pending)
    (closed : ∀ row ∈ ledger.settled, row.status ≠ .pending)
    (candidates : (ledger.settled ++ ledger.todo).map (·.apolloPersonId) =
      plan.wanted.map (·.apolloPersonId))
    (supply : balance = ledger.supply)
    (spent : ledger.supply + ledger.enriched = plan.budget)
    (forecast :
      ledger.forecast plan.answers = (ration plan.budget plan.answers).map .settled) :
    Standing plan (.loop ledger.todo) rows balance ledger := by
  refine ⟨rows_eq, pending, closed, ?_, ?_, spent, forecast, ?_⟩
  · rw [← candidates]
    cases ledger.todo <;> exact List.append_nil _
  · rw [← supply]
    cases ledger.todo <;> exact Int.add_zero _
  · cases todo : ledger.todo with
    | nil => exact todo
    | cons result rest => exact todo

/-- The position of the first row that is to do among the candidates. -/
theorem position
    (standing : Standing plan stage rows balance ledger)
    (made : stage.unmade plan.wanted = [])
    (todo : ledger.todo = result :: rest) :
    plan.wanted.length - (rest.length + 1) = ledger.settled.length := by
  have lengths := congrArg List.length standing.candidates
  rw [made, todo] at lengths
  simp only [List.length_map, List.length_append, List.length_cons, List.length_nil] at lengths
  omega

/-- A row that is to do is in the table. -/
theorem stored
    {world : World}
    (standing : Standing plan stage (world.created plan.data.jobId plan.base) balance ledger)
    (todo : ledger.todo = result :: rest) :
    (world.leadSearchResults.any fun row => row.id = result.id) = true := by
  have present : result ∈ world.created plan.data.jobId plan.base := by
    rw [standing.rows, todo]
    simp
  exact List.any_eq_true.mpr ⟨result, (mem_created.mp present).1, decide_eq_true rfl⟩

/-- One more row is created. -/
theorem create
    {candidate : ApolloCandidate}
    {candidates : List ApolloCandidate}
    {made : Except ApiError (List LeadSearchResult)}
    (standing : Standing plan (.create candidate candidates made) rows balance ledger)
    (id : Nat) :
    Standing plan
      (.afterCreate candidates (collect made (.ok (pendingRow plan.data.jobId candidate id))))
      (pendingRow plan.data.jobId candidate id :: rows) balance
      (ledger.add (pendingRow plan.data.jobId candidate id)) := by
  obtain ⟨start, rfl⟩ := standing.faces
  generalize shape : pendingRow plan.data.jobId candidate id = row
  have stores : row :: rows =
      ((ledger.add row).settled ++ (ledger.add row).todo).reverse := by
    rw [standing.rows]
    simp [Ledger.add]
  have pending : ∀ row' ∈ (ledger.add row).todo, row'.status = .pending := by
    intro row' present
    rcases List.mem_append.mp present with old | new
    · exact standing.pending row' old
    · rw [List.mem_singleton.mp new, ← shape]
      rfl
  have listed : ((ledger.add row).settled ++ (ledger.add row).todo).map (·.apolloPersonId) ++
      candidates.map (·.apolloPersonId) = plan.wanted.map (·.apolloPersonId) := by
    rw [← standing.candidates]
    simp [Ledger.add, SearchStage.unmade, ← shape, pendingRow]
  cases candidates with
  | cons candidate rest =>
      exact ⟨stores, pending, standing.closed, listed, standing.supply, standing.spent,
        standing.forecast, start, rfl⟩
  | nil =>
      refine loop stores pending standing.closed ?_ ?_ standing.spent standing.forecast
      · rwa [List.map_nil, List.append_nil] at listed
      · exact (Int.add_zero balance).symm.trans standing.supply

/-- The first row that is to do is settled. -/
theorem settle
    (standing : Standing plan stage rows balance ledger)
    (made : stage.unmade plan.wanted = [])
    (todo : ledger.todo = result :: rest)
    (distinct : (rows.map (·.id)).Nodup)
    {rewrite : LeadSearchResult → LeadSearchResult}
    (kept : (rewrite result).apolloPersonId = result.apolloPersonId)
    (settled : (rewrite result).status ≠ .pending)
    {supply : Nat}
    (left : balance = supply)
    (uses : supply + (if (rewrite result).status = .enriched then 1 else 0) = ledger.supply)
    (forecast : (ledger.settle (rewrite result) rest supply).forecast plan.answers =
      ledger.forecast plan.answers) :
    Standing plan (.loop rest)
      (Table.updateWhere (fun row => row.id = result.id) rewrite rows) balance
      (ledger.settle (rewrite result) rest supply) := by
  have candidates := standing.candidates
  rw [made, List.map_nil, List.append_nil, todo] at candidates
  have stored := standing.rows
  rw [todo] at stored
  have fresh : ∀ row ∈ ledger.settled ++ rest, row.id ≠ result.id := by
    rw [stored, List.map_reverse, List.nodup_reverse, List.map_append, List.map_cons,
      List.nodup_middle, List.nodup_cons, ← List.map_append] at distinct
    exact fun row present same => distinct.1 (same ▸ List.mem_map_of_mem present)
  have others : ∀ rows : List LeadSearchResult, rows ⊆ ledger.settled ++ rest →
      Table.updateWhere (fun row => row.id = result.id) rewrite rows = rows := by
    intro rows included
    refine Table.updateWhere_eq_self fun row present same => ?_
    exact absurd (of_decide_eq_true same) (fresh row (included present))
  refine loop ?_ ?_ ?_ ?_ left ?_ (forecast.trans standing.forecast)
  · have whole : Table.updateWhere (fun row => row.id = result.id) rewrite
        (ledger.settled ++ result :: rest) = ledger.settled ++ rewrite result :: rest := by
      have first := others ledger.settled (List.subset_append_left _ _)
      have last := others rest (List.subset_append_right _ _)
      unfold Table.updateWhere at first last ⊢
      rw [List.map_append, List.map_cons, first, last, if_pos (decide_eq_true rfl)]
    rw [stored]
    unfold Table.updateWhere at whole ⊢
    rw [List.map_reverse, whole]
    simp [Ledger.settle]
  · intro row present
    exact standing.pending row (todo ▸ List.mem_cons_of_mem _ present)
  · intro row present
    rcases List.mem_append.mp present with old | new
    · exact standing.closed row old
    · rwa [List.mem_singleton.mp new]
  · rw [← candidates]
    simp [Ledger.settle, kept]
  · have spent := standing.spent
    rw [Ledger.enriched_settle]
    show supply + _ = _
    omega

/-- All rows that are to do are skipped. -/
theorem skip
    (standing : Standing plan .skipUnreserved rows balance ledger)
    (owned : ∀ row ∈ rows, row.jobId = plan.data.jobId) :
    Standing plan (.complete true)
      (Table.updateWhere (fun row => row.jobId = plan.data.jobId && row.status = .pending)
        (fun row => { row with status := .skipped }) rows) balance ledger.skip := by
  have used : ledger.supply = 0 := standing.faces
  have candidates : (ledger.settled ++ ledger.todo).map (·.apolloPersonId) =
      plan.wanted.map (·.apolloPersonId) :=
    (List.append_nil _).symm.trans standing.candidates
  have all : plan.answers.length = ledger.settled.length + ledger.todo.length := by
    have lengths := congrArg List.length candidates
    rw [List.length_map, List.length_map, List.length_append] at lengths
    rw [plan.answered, lengths]
  have stored := standing.rows
  have selects : ∀ row ∈ ledger.settled ++ ledger.todo,
      (decide (row.jobId = plan.data.jobId) && decide (row.status = .pending)) =
        decide (row.status = .pending) := by
    intro row present
    rw [owned row (stored ▸ List.mem_reverse.mpr present), decide_eq_true rfl, Bool.true_and]
  have others : Table.updateWhere
      (fun row => row.jobId = plan.data.jobId && row.status = .pending)
      (fun row => { row with status := .skipped }) ledger.settled = ledger.settled := by
    refine Table.updateWhere_eq_self fun row present chosen => ?_
    have pending := (selects row (List.mem_append_left _ present)).symm.trans chosen
    exact absurd (of_decide_eq_true pending) (standing.closed row present)
  have skipped : Table.updateWhere
      (fun row => row.jobId = plan.data.jobId && row.status = .pending)
      (fun row => { row with status := .skipped }) ledger.todo =
        ledger.todo.map fun row => { row with status := .skipped } := by
    refine List.map_congr_left fun row present => if_pos ?_
    have pending := decide_eq_true (standing.pending row present)
    exact (selects row (List.mem_append_right _ present)).trans pending
  refine ⟨?_, List.forall_mem_nil _, ?_, ?_, standing.supply, ?_, ?_, rfl⟩
  · unfold Table.updateWhere at others skipped ⊢
    rw [stored, List.map_reverse, List.map_append, others, skipped]
    simp [Ledger.skip]
  · intro row present
    rcases List.mem_append.mp present with old | new
    · exact standing.closed row old
    · obtain ⟨before, -, rfl⟩ := List.mem_map.mp new
      exact nofun
  · rw [← candidates]
    simp [Ledger.skip, SearchStage.unmade]
  · rw [Ledger.enriched_skip]
    exact standing.spent
  · exact (Ledger.forecast_skip used all).trans standing.forecast

end Standing

/-- The state of a search by criteria at a stage that is not disturbed. -/
structure Underway (plan : SearchPlan) (stage : SearchStage) (world : World) : Prop where
  ground : Ground plan.data plan.base world
  accounts : (world.users.map (·.id)).Nodup
  account : 0 < stage.held → world.hasUser plan.data.userId = true
  standing : ∃ ledger, Standing plan stage (world.created plan.data.jobId plan.base)
    (world.creditsOf plan.data.userId) ledger
  records : stage.Records ((world.findSearchJob plan.data.jobId).map (·.status))

/-- A reservation takes a credit exactly where the balance has one. -/
theorem affords_iff
    {world : World}
    {userId : UserId}
    (distinct : (world.users.map (·.id)).Nodup) :
    world.affords userId = true ↔ 0 < world.creditsOf userId := by
  rw [affords_eq distinct]
  unfold World.creditsOf
  cases world.users.find? fun user => user.id = userId <;> simp

namespace SearchStage

/-- Apollo answers a call as a plan says. -/
def Answered (plan : SearchPlan) (stage : SearchStage) (input : Input) : Prop :=
  match stage with
  | search => ∃ people, input.apolloSearch = some people ∧
      candidates plan.data (people.map ApolloService.candidate) = plan.wanted
  | enrich (.row _ rest) _ =>
      plan.answers[plan.wanted.length - (rest.length + 1)]? = some input.apolloMatch.succeeds
  | _ => True

variable {plan : SearchPlan} {stage : SearchStage} {input : Input} {world : World}
  {data : ApolloSearchJobData} {target : Target} {charged : Bool}

/-- A match that does not throw reveals a person with columns the database accepts, or
nobody. -/
theorem next_enrich
    (unthrown : (enrich target charged).throws input = false) :
    (input.apolloMatch.succeeds = true ∧
        ∃ columns, next data (enrich target charged) input world = matched target columns) ∨
      (input.apolloMatch.succeeds = false ∧
        next data (enrich target charged) input world = readAccessToRefund target charged) := by
  unfold ApolloMatchResponse.succeeds
  unfold throws at unthrown
  unfold next
  cases found : ApolloService.outcome input.apolloMatch with
  | error error =>
      rw [found] at unthrown
      cases unthrown
  | ok outcome =>
      cases outcome with
      | none => exact .inr ⟨rfl, rfl⟩
      | some person =>
          rw [found] at unthrown
          cases accepted : person.columns with
          | error error =>
              dsimp only at unthrown
              rw [accepted] at unthrown
              cases unthrown
          | ok columns =>
              refine .inl ⟨rfl, columns, ?_⟩
              dsimp only
              rw [accepted]

/-- A call whose answer is the plan's leaves the search where the plan foretells. -/
theorem standing_next
    (underway : Underway plan stage world)
    (unthrown : stage.throws input = false)
    (answered : stage.Answered plan input) :
    ∃ ledger, Standing plan (next plan.data stage input world)
      ((write plan.data stage world).created plan.data.jobId plan.base)
      ((write plan.data stage world).creditsOf plan.data.userId) ledger := by
  obtain ⟨ground, accounts, account, ⟨ledger, standing⟩, records⟩ := underway
  rw [created_write ground.known ground.supply, creditsOf_write accounts]
  cases stage with
  | search =>
      obtain ⟨people, found, wanted⟩ := answered
      obtain ⟨start, empty⟩ := standing.faces
      refine ⟨ledger, ?_⟩
      rw [next, found]
      dsimp only
      rw [wanted]
      have listed := standing.candidates
      cases chosen : plan.wanted with
      | nil => exact standing.move chosen.symm rfl empty
      | cons candidate rest =>
          refine standing.move chosen.symm rfl ⟨start, ?_⟩
          rw [empty]
  | create candidate rest made =>
      rw [next, if_pos ground.known]
      exact ⟨_, standing.create _⟩
  | check result rest =>
      refine ⟨ledger, ?_⟩
      rw [next, if_neg fun cancelled => ?_]
      · exact standing.move rfl rfl standing.faces
      · rw [Option.any_eq_true] at cancelled
        obtain ⟨job, found, status⟩ := cancelled
        refine records ?_
        rw [found, Option.map_some, of_decide_eq_true status]
  | readAccess target =>
      refine ⟨ledger, ?_⟩
      rw [next, if_neg (ground.limited ▸ Bool.false_ne_true)]
      cases target with
      | row result rest => exact standing.move rfl rfl standing.faces
      | direct personName => exact absurd standing.faces id
  | takeCredit target =>
      refine ⟨ledger, ?_⟩
      cases target with
      | direct personName => exact absurd standing.faces id
      | row result rest =>
          have balance : world.creditsOf plan.data.userId = ledger.supply :=
            (Int.add_zero _).symm.trans standing.supply
          have todo : ledger.todo = result :: rest := standing.faces
          dsimp only
          rw [decide_eq_true rfl, Bool.true_and, next]
          show Standing plan
            (if world.affords plan.data.userId then enrich (.row result rest) true
              else skipUnreserved) _ _ ledger
          by_cases affords : world.affords plan.data.userId = true
          · have positive := (affords_iff accounts).mp affords
            rw [if_pos affords, if_pos affords]
            refine standing.move rfl ?_ ⟨todo, by omega⟩
            exact (Int.sub_add_cancel _ 1).trans (Int.add_zero _).symm
          · have none := (affords_iff accounts).not.mp affords
            rw [if_neg affords, if_neg affords]
            refine standing.move rfl rfl ?_
            show ledger.supply = 0
            omega
  | skipUnreserved =>
      exact ⟨_, standing.skip fun row present => (mem_created.mp present).2.1⟩
  | enrich target charged =>
      refine ⟨ledger, ?_⟩
      cases target with
      | direct personName => exact absurd standing.faces id
      | row result rest =>
          obtain ⟨todo, left⟩ := standing.faces
          rw [Answered, standing.position rfl todo] at answered
          obtain ⟨reveals, columns, leads⟩ | ⟨unmatched, leads⟩ := next_enrich unthrown
          · rw [leads]
            exact standing.move rfl rfl ⟨todo, left, by rw [answered, reveals]⟩
          · rw [leads]
            exact standing.move rfl rfl ⟨todo, left, by rw [answered, unmatched]⟩
  | store result rest columns =>
      obtain ⟨todo, left, reveals⟩ := standing.faces
      obtain ⟨supply, some⟩ := Nat.exists_eq_succ_of_ne_zero (Nat.pos_iff_ne_zero.mp left)
      have held : world.creditsOf plan.data.userId + 1 = ledger.supply := standing.supply
      rw [next, if_pos (standing.stored todo)]
      exact ⟨_, standing.settle rfl todo ground.distinct rfl (by simp [EnrichedColumns.fill])
        (by omega) some.symm (Ledger.forecast_settle_enriched some reveals rfl)⟩
  | readAccessToRefund target charged =>
      refine ⟨ledger, ?_⟩
      rw [next, if_neg (ground.limited ▸ Bool.false_ne_true)]
      cases target with
      | row result rest => exact standing.move rfl rfl standing.faces
      | direct personName => exact absurd standing.faces id
  | refund target charged =>
      refine ⟨ledger, ?_⟩
      have known : world.hasUser plan.data.userId = true := account Int.one_pos
      have present : (world.users.find? fun user => user.id = plan.data.userId).isSome = true :=
        hasUser_eq_isSome.symm.trans known
      dsimp only
      rw [next, if_pos present, if_pos (by rw [known]; simp)]
      cases target with
      | row result rest => exact standing.move rfl (Int.add_zero _) standing.faces
      | direct personName => exact absurd standing.faces id
  | markFailed result rest =>
      obtain ⟨todo, left, unmatched⟩ := standing.faces
      have balance : world.creditsOf plan.data.userId = ledger.supply :=
        (Int.add_zero _).symm.trans standing.supply
      rw [next, if_pos (standing.stored todo)]
      exact ⟨_, standing.settle rfl todo ground.distinct rfl (by simp) balance rfl
        (Ledger.forecast_settle_failed left unmatched rfl)⟩
  | complete audited =>
      refine ⟨ledger, ?_⟩
      rw [next, if_pos ground.known]
      cases audited with
      | true => exact standing.move rfl rfl standing.faces
      | false => exact standing.move rfl rfl ⟨standing.faces, rfl⟩
  | audit => exact ⟨ledger, standing.move rfl rfl ⟨standing.faces, rfl⟩⟩
  | finished outcome => exact ⟨ledger, standing⟩
  | _ => exact absurd standing.faces id

variable {after : SearchStage} {ledger reached : Ledger} {answer : Option Bool}

/-- A search that goes on has not come upon a cancellation, and one that is over has
completed its job. -/
theorem records_next
    (known : (world.findSearchJob data.jobId).isSome = true)
    (records : stage.Records ((world.findSearchJob data.jobId).map (·.status)))
    (here : stage.Faces ledger answer)
    {later : Option Bool}
    (there : after.Faces reached later)
    (leads : Leads stage after) :
    after.Records (((write data stage world).findSearchJob data.jobId).map (·.status)) := by
  have completed : ((world.setJobStatus data.jobId .completed).findSearchJob data.jobId).map
      (·.status) = some .completed := by
    obtain ⟨job, found⟩ := Option.isSome_iff_exists.mp known
    have owner : job.id = data.jobId := by
      unfold World.findSearchJob at found
      simpa using List.find?_some found
    rw [findSearchJob_setJobStatus, found, Option.map_some, if_pos owner]
    rfl
  have loops : ∀ rows, (loop rows).Records
      ((world.findSearchJob data.jobId).map (·.status)) ↔
        (world.findSearchJob data.jobId).map (·.status) ≠ some .cancelled := by
    intro rows
    cases rows <;> exact Iff.rfl
  rw [findSearchJob_write]
  cases leads with
  | failed => exact absurd there id
  | created candidate rest made outcome =>
      cases rest with
      | cons candidate rest => exact records
      | nil =>
          revert there
          rw [afterCreate]
          cases collect made outcome with
          | error error => exact fun there => absurd there id
          | ok rows => exact fun _ => (loops rows).mpr records
  | cancelled result rest => exact absurd there id
  | skipped => exact absurd here id
  | refused target =>
      cases target with
      | row result rest => exact records
      | direct personName => exact absurd here id
  | revealed target charged columns =>
      cases target with
      | row result rest => exact records
      | direct personName => exact absurd here id
  | stored result rest columns => exact (loops rest).mpr records
  | free target charged =>
      cases target with
      | row result rest => exact records
      | direct personName => exact absurd here id
  | paidBack target charged =>
      cases target with
      | row result rest => exact records
      | direct personName => exact absurd here id
  | marked result rest => exact (loops rest).mpr records
  | recorded personName matched => exact absurd here id
  | completed => exact completed
  | endedEarly => exact completed
  | handled => exact absurd here id
  | unhandled error => exact absurd here id
  | _ => exact records

theorem faces_loop {rows : List LeadSearchResult} (faces : (loop rows).Faces ledger answer) :
    ledger.todo = rows := by
  cases rows <;> exact faces

/-- Every call brings a search closer to its end. -/
theorem ahead_next
    {rows later : List LeadSearchResult}
    {balance left : Int}
    (here : Standing plan stage rows balance ledger)
    (there : Standing plan after later left reached)
    (leads : Leads stage after)
    (started : stage.isOver = false) :
    after.ahead plan.wanted < stage.ahead plan.wanted := by
  have lengths := congrArg List.length there.candidates
  simp only [List.length_append, List.length_map] at lengths
  have loops : ∀ rows : List LeadSearchResult,
      (loop rows).ahead plan.wanted = 7 * rows.length + 2 := by
    intro rows
    cases rows <;> rfl
  have here := here.faces
  have there := there.faces
  cases leads with
  | failed => exact absurd there id
  | found candidate rest =>
      simp only [unmade, List.length_cons] at lengths
      simp only [ahead]
      have nothing : reached.todo = [] := (Except.ok.inj there.2).symm
      rw [there.1, nothing] at lengths
      simp only [List.length_nil] at lengths
      omega
  | foundNobody =>
      simp only [ahead]
      omega
  | created candidate rest made outcome =>
      cases rest with
      | cons candidate rest =>
          simp only [afterCreate, ahead, List.length_cons]
          omega
      | nil =>
          rw [afterCreate] at there ⊢
          cases all : collect made outcome with
          | error error =>
              rw [all] at there
              exact absurd there id
          | ok rows =>
              rw [all] at there
              have todo : reached.todo = rows := faces_loop there
              rw [created, loops, ← todo]
              simp only [ahead]
              omega
  | cancelled result rest => exact absurd there id
  | skipped => exact absurd here id
  | stored result rest columns =>
      rw [loops]
      simp only [ahead]
      omega
  | marked result rest =>
      rw [loops]
      simp only [ahead]
      omega
  | completed =>
      simp only [ahead]
      omega
  | endedEarly =>
      simp only [ahead]
      omega
  | handled => exact absurd here id
  | unhandled error => exact absurd here id
  | stays outcome => cases started
  | recorded personName matched => exact absurd here id
  | refused target =>
      simp only [ahead]
      cases target <;> simp only [unreserved] <;> omega
  | revealed target charged columns =>
      simp only [ahead]
      cases target <;> simp only [matched, Target.later] <;> omega
  | free target charged =>
      simp only [ahead]
      cases target <;> simp only [refunded, Target.later] <;> omega
  | paidBack target charged =>
      simp only [ahead]
      cases target <;> simp only [refunded, Target.later] <;> omega
  | checked result rest =>
      simp only [ahead, Target.later]
      omega
  | _ =>
      simp only [ahead]
      omega

/-- A search with no call ahead is over. -/
theorem over_of_ahead
    {wanted : List ApolloCandidate}
    (faces : stage.Faces ledger answer)
    (exhausted : stage.ahead wanted = 0) :
    ∃ outcome, stage = finished outcome := by
  cases stage with
  | finished outcome => exact ⟨outcome, rfl⟩
  | skipCancelled => exact absurd faces id
  | createDirect personName matched => exact absurd faces id
  | fail => exact absurd faces id
  | _ =>
      simp only [ahead] at exhausted
      omega

end SearchStage

namespace Underway

variable {plan : SearchPlan} {stage : SearchStage} {input : Input} {world : World}

/-- A call of the execution. -/
theorem next
    (underway : Underway plan stage world)
    (unthrown : stage.throws input = false)
    (answered : stage.Answered plan input) :
    Underway plan (stage.next plan.data input world) (stage.write plan.data world) := by
  obtain ⟨ledger, standing⟩ := underway.standing
  obtain ⟨reached, stands⟩ := SearchStage.standing_next underway unthrown answered
  have users : (stage.write plan.data world).users.map (·.id) = world.users.map (·.id) :=
    SearchStage.accounts_write
  refine ⟨underway.ground.write, ?_, ?_, ⟨reached, stands⟩, ?_⟩
  · rw [users]
    exact underway.accounts
  · exact SearchStage.account_next underway.ground.limited underway.account
  · exact SearchStage.records_next underway.ground.known underway.records standing.faces
      stands.faces (SearchStage.leads_next plan.data stage input world)

/-- A call of another request that leaves the execution undisturbed. -/
theorem undisturbed
    {after : World}
    (underway : Underway plan stage world)
    (apart : Undisturbed plan.data world after) :
    Underway plan stage after := by
  obtain ⟨ground, accounts, account, standing, records⟩ := underway
  refine ⟨ground.beside apart.toBeside, apart.accounts accounts,
    fun holds => apart.account (account holds), ?_, ?_⟩
  · unfold World.created
    rw [apart.results, apart.balance]
    exact standing
  · rw [apart.status]
    exact records

end Underway

namespace LeadFinder

/-- An execution that is not disturbed, among the other requests. -/
structure Settling
    (plan : SearchPlan)
    (crew : Crew (SearchRun ⊕ Service Unit) World)
    (stage : SearchStage) : Prop where
  members : ∃ others, crew.members = .inl ⟨plan.data, stage⟩ :: others ∧
    ∀ other ∈ others, ∃ service : Service Unit,
      other = .inr service ∧ service.Respects (Undisturbed plan.data)
  underway : Underway plan stage crew.state

/-- A call of the execution neither fails nor is answered against the plan. -/
def Follows (plan : SearchPlan) (run : SearchRun) (turn : CrewTurn Input ApiError) : Prop :=
  run.stage.fails turn = false ∧ run.stage.Answered plan turn.input

namespace Settling

variable {plan : SearchPlan} {crew : Crew (SearchRun ⊕ Service Unit) World}
  {stage : SearchStage} {turn : CrewTurn Input ApiError}

/-- Every turn leaves the execution undisturbed, and its own turns bring it closer to its
end. -/
theorem step
    (settling : Settling plan crew stage)
    (follows : OnTurn 0 (Follows plan) crew turn) :
    ∃ after, Settling plan (machine.step crew turn) after ∧
      (after.ahead plan.wanted ≤ stage.ahead plan.wanted - if turn.member = 0 then 1 else 0) := by
  obtain ⟨⟨others, members, apart⟩, underway⟩ := settling
  by_cases mine : turn.member = 0
  · have follows := follows mine
    rw [members] at follows
    obtain ⟨unfailing, answered⟩ := follows
    rw [if_pos mine]
    cases finished : stage.isOver with
    | true =>
        -- The execution has ended, and its turns do nothing.
        obtain ⟨outcome, rfl⟩ : ∃ outcome, stage = .finished outcome := by
          cases stage with
          | finished outcome => exact ⟨outcome, rfl⟩
          | _ => cases finished
        have stays : machine.step crew turn =
            ⟨crew.state, .inl ⟨plan.data, .finished outcome⟩ :: others⟩ := by
          cases rejected : turn.rejected with
          | none => exact step_first_call members mine rejected
          | some error => exact step_first_rejected members mine rejected
        rw [stays]
        exact ⟨_, ⟨⟨others, rfl, apart⟩, underway⟩, Nat.zero_le _⟩
    | false =>
        unfold SearchStage.fails at unfailing
        rw [finished, Bool.not_false, Bool.true_and, Bool.or_eq_false_iff] at unfailing
        have taken : turn.rejected = none :=
          Option.not_isSome_iff_eq_none.mp (by rw [unfailing.1]; exact Bool.false_ne_true)
        have moved := underway.next unfailing.2 answered
        obtain ⟨ledger, here⟩ := underway.standing
        obtain ⟨reached, there⟩ := moved.standing
        have closer := SearchStage.ahead_next here there
          (SearchStage.leads_next plan.data stage turn.input crew.state) finished
        rw [step_first_call members mine taken]
        exact ⟨_, ⟨⟨others, rfl, apart⟩, moved⟩, Nat.le_sub_one_of_lt closer⟩
  · obtain ⟨others, stays, respect, change⟩ := step_beside members apart mine
    rw [if_neg mine]
    exact ⟨stage, ⟨⟨others, stays, respect⟩, underway.undisturbed change⟩, Nat.le_refl _⟩

/-- An execution that makes enough turns comes to its end. -/
theorem run
    (settling : Settling plan crew stage)
    {schedule : List (CrewTurn Input ApiError)}
    (follows : Along machine.step (OnTurn 0 (Follows plan)) crew schedule)
    (enough : stage.ahead plan.wanted ≤ schedule.countP fun turn => turn.member = 0) :
    ∃ outcome, Settling plan (machine.run crew schedule) (.finished outcome) := by
  induction schedule generalizing crew stage with
  | nil =>
      obtain ⟨ledger, standing⟩ := settling.underway.standing
      obtain ⟨outcome, rfl⟩ := SearchStage.over_of_ahead standing.faces (Nat.le_zero.mp enough)
      exact ⟨outcome, settling⟩
  | cons turn schedule inductionHypothesis =>
      obtain ⟨now, later⟩ := follows
      obtain ⟨after, moved, closer⟩ := settling.step now
      refine inductionHypothesis moved later ?_
      rw [List.countP_cons] at enough
      simp only [decide_eq_true_eq] at enough
      omega

end Settling

/-- A call of an execution neither fails nor comes upon anything but the people found and
the outcomes of their matches: the match for a row is answered by the outcome at the
position of the row among all `count` of them. -/
def Unfailing
    (found : List ApolloSearchPerson)
    (outcomes : Nat → ApolloMatchResponse)
    (count : Nat)
    (run : SearchRun)
    (turn : CrewTurn Input ApiError) : Prop :=
  run.stage.fails turn = false ∧
    match run.stage with
    | .search => turn.input.apolloSearch = some found
    | .enrich (.row _ rest) _ => turn.input.apolloMatch = outcomes (count - (rest.length + 1))
    | _ => True

instance
    (found : List ApolloSearchPerson)
    (outcomes : Nat → ApolloMatchResponse)
    (count : Nat)
    (run : SearchRun)
    (turn : CrewTurn Input ApiError) :
    Decidable (Unfailing found outcomes count run turn) := by
  unfold Unfailing
  match run.stage with
  | .search => exact inferInstanceAs (Decidable (_ ∧ turn.input.apolloSearch = some found))
  | .enrich (.row _ _) _ => exact instDecidableAnd
  | .enrich (.direct _) _ | .create .. | .check .. | .skipCancelled | .readAccess _
  | .takeCredit _ | .skipUnreserved | .store .. | .readAccessToRefund .. | .refund ..
  | .markFailed .. | .createDirect .. | .complete _ | .audit | .fail | .finished _ =>
      exact inferInstanceAs (Decidable (_ ∧ True))

/-- The plan of an execution. -/
def planOf
    (data : ApolloSearchJobData)
    (base : Nat)
    (found : List ApolloSearchPerson)
    (outcomes : Nat → ApolloMatchResponse)
    (budget : Nat) : SearchPlan where
  data
  base
  wanted := candidates data (found.map ApolloService.candidate)
  answers :=
    (List.range (candidates data (found.map ApolloService.candidate)).length).map
      fun position => (outcomes position).succeeds
  budget
  answered := by rw [List.length_map, List.length_range]

section

variable {data : ApolloSearchJobData} {base : Nat} {found : List ApolloSearchPerson}
  {outcomes : Nat → ApolloMatchResponse} {budget : Nat}
  {crew : Crew (SearchRun ⊕ Service Unit) World} {stage : SearchStage}
  {turn : CrewTurn Input ApiError}

/-- A turn with these outcomes follows the plan. -/
theorem Settling.follows
    (settling : Settling (planOf data base found outcomes budget) crew stage)
    (unfailing : OnTurn 0
      (Unfailing found outcomes (candidates data (found.map ApolloService.candidate)).length)
      crew turn) :
    OnTurn 0 (Follows (planOf data base found outcomes budget)) crew turn := by
  intro mine
  obtain ⟨others, members, -⟩ := settling.members
  obtain ⟨ledger, standing⟩ := settling.underway.standing
  have unfailing := unfailing mine
  rw [members] at unfailing ⊢
  refine ⟨unfailing.1, ?_⟩
  have answer := unfailing.2
  have faces := standing.faces
  cases stage with
  | search => exact ⟨found, answer, rfl⟩
  | enrich target charged =>
      cases target with
      | direct personName => trivial
      | row result rest =>
          have position := standing.position rfl faces.1
          have within : (planOf data base found outcomes budget).wanted.length =
              ledger.settled.length + (rest.length + 1) := by
            have lengths := congrArg List.length standing.candidates
            rw [faces.1] at lengths
            simpa [SearchStage.unmade] using lengths.symm
          have counted : (candidates data (found.map ApolloService.candidate)).length -
              (rest.length + 1) = ledger.settled.length := position
          have answer : turn.input.apolloMatch = outcomes ((candidates data
            (found.map ApolloService.candidate)).length - (rest.length + 1)) := answer
          unfold SearchStage.Answered
          dsimp only
          rw [position, answer, counted]
          unfold planOf
          rw [List.getElem?_map, List.getElem?_range (by
            show _ < (planOf data base found outcomes budget).wanted.length
            omega)]
          rfl
  | _ => trivial

/-- What an execution leaves behind that has come to its end. -/
theorem Settling.statuses
    {outcome : Except ApiError Unit}
    (settling : Settling (planOf data base found outcomes budget) crew (.finished outcome)) :
    ∃ ledger, Standing (planOf data base found outcomes budget) (.finished (.ok ()))
        (crew.state.created data.jobId base) (crew.state.creditsOf data.userId) ledger ∧
      outcome = .ok () ∧
      ledger.settled = (crew.state.created data.jobId base).reverse ∧
      ledger.settled.map (·.status) =
        (ration budget (planOf data base found outcomes budget).answers).map .settled := by
  obtain ⟨ledger, standing⟩ := settling.underway.standing
  obtain ⟨todo, rfl⟩ := standing.faces
  have rows := standing.rows
  have lengths := congrArg List.length standing.candidates
  have forecast := standing.forecast
  rw [todo] at rows lengths
  simp only [SearchStage.unmade, List.map_nil, List.append_nil, List.length_map] at lengths
  unfold Ledger.forecast at forecast
  rw [lengths, ← (planOf data base found outcomes budget).answered, List.drop_length, ration_nil,
    List.map_nil, List.append_nil] at forecast
  refine ⟨ledger, standing, rfl, ?_, forecast⟩
  have rows : crew.state.created data.jobId base = (ledger.settled ++ []).reverse := rows
  rw [rows, List.append_nil, List.reverse_reverse]

/-- The enriched rows are those whose requests succeed. -/
theorem countP_enriched
    {rows : List LeadSearchResult}
    {granted : List (Option Bool)}
    (statuses : rows.map (·.status) = granted.map .settled) :
    (rows.countP fun row => row.status = .enriched) = granted.count (some true) := by
  have counted := congrArg (List.countP fun status => status = .enriched) statuses
  rw [List.countP_map, List.countP_map] at counted
  refine counted.trans (List.countP_congr fun grant _ => ?_)
  obtain _ | _ | _ := grant <;> simp [LeadSearchResultStatus.settled]

/-- The status of a row is told by the rows before it and the outcome of its own match. -/
theorem status_of_ration
    {rows : List LeadSearchResult}
    {count : Nat}
    (statuses : rows.map (·.status) =
      (ration budget ((List.range count).map fun position =>
        (outcomes position).succeeds)).map .settled)
    {position : Nat}
    {row : LeadSearchResult}
    (present : rows[position]? = some row) :
    row.status =
      if ((rows.take position).countP fun row => row.status = .enriched) < budget then
        if (outcomes position).succeeds then .enriched else .failed
      else .skipped := by
  have within : position < count := by
    have lengths := congrArg List.length statuses
    rw [List.length_map, List.length_map, length_ration, List.length_map,
      List.length_range] at lengths
    exact lengths ▸ (List.getElem?_eq_some_iff.mp present).1
  have taken : ((rows.take position).countP fun row => row.status = .enriched) =
      ((ration budget ((List.range count).map fun position =>
        (outcomes position).succeeds)).take position).count (some true) := by
    refine countP_enriched ?_
    rw [List.map_take, List.map_take, statuses]
  have status : some row.status =
      (ration budget ((List.range count).map fun position =>
        (outcomes position).succeeds))[position]?.map .settled := by
    rw [← List.getElem?_map, ← statuses, List.getElem?_map, present]
    rfl
  rw [getElem?_ration, List.getElem?_map, List.getElem?_range within, Option.map_some,
    Option.map_some, Option.map_some, ← taken] at status
  rw [Option.some.inj status]
  split
  · cases (outcomes position).succeeds <;> rfl
  · rfl

theorem count_outcomes (count : Nat) :
    ((List.range count).map fun position => (outcomes position).succeeds).count true =
      (List.range count).countP fun position => (outcomes position).succeeds := by
  rw [List.count, List.countP_map]
  exact List.countP_congr fun position _ => by simp

/-- An execution that has created nothing yet stands at the beginning of its plan. -/
theorem Settling.start
    {world : World}
    {others : List (Service Unit)}
    (apart : ∀ service ∈ others, service.Respects (Undisturbed data))
    (criteria : directName data.filters = none)
    (known : (world.findSearchJob data.jobId).isSome = true)
    (uncancelled : (world.findSearchJob data.jobId).map (·.status) ≠ some .cancelled)
    (limited : world.unlimited data.userId = false)
    (fresh : ∀ row ∈ world.resultsOf data.jobId, row.id < world.nextId)
    (accounts : (world.users.map (·.id)).Nodup)
    (balance : world.creditsOf data.userId = budget) :
    Settling (planOf data world.nextId found outcomes budget) (execution data world others)
      .search := by
  have empty : world.created data.jobId world.nextId = [] := by
    refine List.filter_eq_nil_iff.mpr fun row present recent => ?_
    exact absurd (fresh row present) (Nat.not_lt.mpr (of_decide_eq_true recent))
  refine ⟨⟨others.map .inr, ?_, ?_⟩, ⟨?_, accounts, nofun, ⟨⟨[], [], budget⟩, ?_⟩, uncancelled⟩⟩
  · unfold execution SearchRun.start SearchStage.start
    rw [criteria]
    rfl
  · intro other present
    obtain ⟨service, inOthers, rfl⟩ := List.mem_map.mp present
    exact ⟨service, rfl, apart service inOthers⟩
  · refine ⟨known, limited, Nat.le_refl _, fresh, ?_⟩
    exact (congrArg (List.map (·.id)) empty).symm ▸ List.nodup_nil
  · exact ⟨empty, List.forall_mem_nil _, List.forall_mem_nil _, rfl,
      (Int.add_zero _).trans balance, rfl, rfl, rfl, rfl⟩

end

/-- A search for up to three people beside one who is known already. -/
def sampleFurtherJob : ApolloSearchJobData :=
  { sampleJob with cap := 3, excludeApolloPersonIds := some ["known"] }

/-- Apollo finds five people, and of those who are asked for reveals all but the first. -/
def sampleFurtherSearch : List (CrewTurn Input ApiError) :=
  (List.range 30).map fun position =>
    { member := 0
      input :=
        { now := 0
          apolloSearch := some
            [{ id := "known" }, { id := "p" }, { id := "q" }, { id := "r" }, { id := "beyond" }]
          apolloMatch := if position < 9 then .noPerson else .person {} } }

end LeadFinder
end ConferenceContact
