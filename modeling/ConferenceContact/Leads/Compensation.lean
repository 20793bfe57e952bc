import ConferenceContact.Leads.Balance
import ConferenceContact.Leads.Cancellation

/-!
# What an execution leaves behind

An execution that meets one failure ends in its handler, which only writes the
status of the job.  The rows the execution has created, and the credits it has
reserved, are settled exactly where the failure leaves nothing to undo: before
any row is created or credit taken, or once all are accounted for.
-/

namespace ConferenceContact

open Process ApolloSearchProcessor

/-! ## The rows of an execution -/

/-- The results of a job with ids from a base on: the rows an execution has created
since the supply of ids stood there. -/
def World.created (world : World) (jobId base : Nat) : List LeadSearchResult :=
  (world.resultsOf jobId).filter fun row => base ≤ row.id

/-- The number of enriched rows. -/
def enrichedCount (rows : List LeadSearchResult) : Int :=
  rows.countP fun row => row.status = .enriched

/-- The pending rows are those that are still to do. -/
structure Todo (todo rows : List LeadSearchResult) : Prop where
  distinct : (todo.map (·.id)).Nodup
  present : ∀ row ∈ todo, row.id ∈ rows.map (·.id)
  pending : ∀ row ∈ rows, row.status = .pending ↔ row.id ∈ todo.map (·.id)

section

variable {jobId base : Nat}

/-- A row an execution creates. -/
theorem created_insertResult
    {world : World}
    {row : Nat → LeadSearchResult}
    (owner : (row world.nextId).jobId = jobId)
    (id : (row world.nextId).id = world.nextId)
    (known : (world.findSearchJob jobId).isSome = true)
    (supply : base ≤ world.nextId) :
    (world.insertResult row).created jobId base =
      row world.nextId :: world.created jobId base := by
  unfold World.insertResult World.created World.resultsOf
  rw [owner, if_pos known, List.filter_cons_of_pos (by simp [owner]),
    List.filter_cons_of_pos (by simp [id, supply])]

/-- A rewriting that keeps ids and jobs rewrites the created rows. -/
theorem created_rewriteResults
    (world : World)
    (condition : LeadSearchResult → Bool)
    (rewrite : LeadSearchResult → LeadSearchResult)
    (kept : ∀ row, (rewrite row).id = row.id ∧ (rewrite row).jobId = row.jobId) :
    (world.rewriteResults condition rewrite).created jobId base =
      Table.updateWhere condition rewrite (world.created jobId base) := by
  unfold World.rewriteResults World.created World.resultsOf Table.updateWhere
  dsimp only
  rw [List.filter_map, List.filter_map]
  have sameJob : ((fun row : LeadSearchResult => decide (row.jobId = jobId)) ∘ fun row =>
      if condition row = true then rewrite row else row) =
      fun row => decide (row.jobId = jobId) := by
    funext row
    dsimp only [Function.comp]
    split
    · rw [(kept row).2]
    · rfl
  have sameId : ((fun row : LeadSearchResult => decide (base ≤ row.id)) ∘ fun row =>
      if condition row = true then rewrite row else row) =
      fun row => decide (base ≤ row.id) := by
    funext row
    dsimp only [Function.comp]
    split
    · rw [(kept row).1]
    · rfl
  rw [sameJob, sameId]

/-- Settling the first row that is to do. -/
theorem Todo.settle
    {result : LeadSearchResult}
    {rest rows : List LeadSearchResult}
    (todo : Todo (result :: rest) rows)
    {rewrite : LeadSearchResult → LeadSearchResult}
    (kept : ∀ row, (rewrite row).id = row.id)
    (settled : ∀ row, (rewrite row).status ≠ .pending) :
    Todo rest (Table.updateWhere (fun row => row.id = result.id) rewrite rows) := by
  obtain ⟨distinct, present, pending⟩ := todo
  rw [List.map_cons, List.nodup_cons] at distinct
  refine ⟨distinct.2, ?_, ?_⟩
  · intro row inRest
    rw [Table.map_updateWhere _ _ _ _ kept]
    exact present row (List.mem_cons_of_mem _ inRest)
  · intro row inRows
    obtain ⟨before, inBefore, rewritten⟩ := Table.mem_updateWhere.mp inRows
    have status := pending before inBefore
    rw [List.map_cons, List.mem_cons] at status
    by_cases chosen : before.id = result.id
    · rw [if_pos (decide_eq_true chosen)] at rewritten
      rw [← rewritten, kept, chosen]
      exact iff_of_false (settled before) distinct.1
    · rw [if_neg (by simpa using chosen)] at rewritten
      rw [← rewritten, status]
      exact ⟨fun either => either.resolve_left chosen, Or.inr⟩

/-- Skipping what is pending leaves nothing to do. -/
theorem Todo.skip
    {rows : List LeadSearchResult}
    (owned : ∀ row ∈ rows, row.jobId = jobId) :
    Todo [] (Table.updateWhere (fun row => row.jobId = jobId && row.status = .pending)
      (fun row => { row with status := .skipped }) rows) := by
  refine ⟨List.nodup_nil, List.forall_mem_nil _, ?_⟩
  intro row inRows
  obtain ⟨before, inBefore, rewritten⟩ := Table.mem_updateWhere.mp inRows
  refine iff_of_false (fun pending => ?_) List.not_mem_nil
  split at rewritten
  · rw [← rewritten] at pending
    cases pending
  · rename_i unchosen
    rw [owned before inBefore, rewritten, pending] at unchosen
    exact absurd (by simp) unchosen

/-- A new pending row is one more to do. -/
theorem Todo.add
    {row : LeadSearchResult}
    {todo rows : List LeadSearchResult}
    (left : Todo todo rows)
    (pending : row.status = .pending)
    (fresh : ∀ other ∈ rows, other.id ≠ row.id) :
    Todo (todo ++ [row]) (row :: rows) := by
  refine ⟨?_, ?_, ?_⟩
  · rw [List.map_append, List.nodup_append]
    refine ⟨left.distinct, List.nodup_singleton _, ?_⟩
    intro id inTodo other single
    obtain ⟨before, inBefore, rfl⟩ := List.mem_map.mp inTodo
    obtain ⟨stored, inRows, sameId⟩ := List.mem_map.mp (left.present before inBefore)
    rw [List.mem_singleton.mp single, ← sameId]
    exact fresh stored inRows
  · intro other inTodo
    rcases List.mem_append.mp inTodo with old | single
    · exact List.mem_cons_of_mem _ (left.present other old)
    · rw [List.mem_singleton.mp single]
      exact List.mem_cons_self
  · intro other inRows
    rw [List.map_append, List.mem_append]
    rcases List.mem_cons.mp inRows with rfl | old
    · exact iff_of_true pending (.inr List.mem_cons_self)
    · rw [left.pending other old]
      refine ⟨.inl, fun either => either.resolve_right fun single => ?_⟩
      exact fresh other old (List.mem_singleton.mp single)

/-- With nothing to do, nothing is pending. -/
theorem todo_nil_iff {rows : List LeadSearchResult} :
    Todo [] rows ↔ ∀ row ∈ rows, row.status ≠ .pending := by
  constructor
  · intro todo row present pending
    exact List.not_mem_nil ((todo.pending row present).mp pending)
  · intro settled
    refine ⟨List.nodup_nil, List.forall_mem_nil _, fun row present => ?_⟩
    exact iff_of_false (settled row present) List.not_mem_nil

/-- What is to do is pending. -/
theorem Todo.exists_pending
    {result : LeadSearchResult}
    {rest rows : List LeadSearchResult}
    (todo : Todo (result :: rest) rows) :
    ∃ row ∈ rows, row.status = .pending := by
  obtain ⟨row, inRows, sameId⟩ := List.mem_map.mp (todo.present result List.mem_cons_self)
  exact ⟨row, inRows, (todo.pending row inRows).mpr (sameId ▸ List.mem_cons_self)⟩

theorem enrichedCount_cons (row : LeadSearchResult) (rows : List LeadSearchResult) :
    enrichedCount (row :: rows) =
      enrichedCount rows + if row.status = .enriched then 1 else 0 := by
  unfold enrichedCount
  rw [List.countP_cons]
  by_cases enriched : row.status = .enriched <;> simp [enriched]

/-- Rewriting rows that are not enriched to rows that are not enriched keeps the
count. -/
theorem enrichedCount_updateWhere
    {condition : LeadSearchResult → Bool}
    {rewrite : LeadSearchResult → LeadSearchResult}
    {rows : List LeadSearchResult}
    (before : ∀ row ∈ rows, condition row = true → row.status ≠ .enriched)
    (after : ∀ row, (rewrite row).status ≠ .enriched) :
    enrichedCount (Table.updateWhere condition rewrite rows) = enrichedCount rows := by
  induction rows with
  | nil => rfl
  | cons head rows inductionHypothesis =>
      rw [Table.updateWhere_cons, enrichedCount_cons, enrichedCount_cons,
        inductionHypothesis fun row present => before row (List.mem_cons_of_mem _ present)]
      split
      · rename_i chosen
        rw [if_neg (after head), if_neg (before head List.mem_cons_self chosen)]
      · rfl

/-- Settling a pending row adds it to the count if that enriches it. -/
theorem enrichedCount_settle
    {id : Nat}
    {rows : List LeadSearchResult}
    (distinct : (rows.map (·.id)).Nodup)
    (present : id ∈ rows.map (·.id))
    (pending : ∀ row ∈ rows, row.id = id → row.status = .pending)
    {rewrite : LeadSearchResult → LeadSearchResult}
    (enriches : ∀ row, (rewrite row).status = .enriched) :
    enrichedCount (Table.updateWhere (fun row => row.id = id) rewrite rows) =
      enrichedCount rows + 1 := by
  induction rows with
  | nil => cases present
  | cons head rows inductionHypothesis =>
      rw [List.map_cons, List.nodup_cons] at distinct
      rw [Table.updateWhere_cons, enrichedCount_cons, enrichedCount_cons]
      by_cases chosen : head.id = id
      · have others : Table.updateWhere (fun row => row.id = id) rewrite rows = rows := by
          refine Table.updateWhere_eq_self fun row inRows same => ?_
          have sameId : row.id = head.id := (of_decide_eq_true same).trans chosen.symm
          exact absurd (sameId ▸ List.mem_map_of_mem inRows) distinct.1
        have unenriched : head.status ≠ .enriched := by
          rw [pending head List.mem_cons_self chosen]
          exact nofun
        rw [others, if_pos (decide_eq_true chosen), if_pos (enriches head), if_neg unenriched]
        omega
      · have inRows : id ∈ rows.map (·.id) := by
          rcases List.mem_cons.mp present with same | inRows
          · exact absurd same.symm chosen
          · exact inRows
        have kept : (if decide (head.id = id) = true then rewrite head else head) = head :=
          if_neg (by simpa using chosen)
        rw [kept, inductionHypothesis distinct.2 inRows
          fun row present => pending row (List.mem_cons_of_mem _ present)]
        exact Int.add_right_comm _ _ _

end

/-! ## What is accounted for at a stage -/

/-- What is still to do while a credit is reserved. -/
def Target.Awaits (target : Target) (todo rows : List LeadSearchResult) : Prop :=
  match target with
  | row result rest => todo = result :: rest
  | direct _ => rows = []

namespace SearchStage

/-- What is still to do at a stage of an execution that has met no failure. -/
def Awaits (stage : SearchStage) (todo rows : List LeadSearchResult) : Prop :=
  match stage with
  | search => rows = []
  | create _ _ made => made = .ok todo ∧ ∀ row ∈ rows, row.status = .pending
  | check result rest => todo = result :: rest
  | skipCancelled => todo ≠ []
  | readAccess target => target.Awaits todo rows
  | takeCredit target => target.Awaits todo rows
  | skipUnreserved => todo ≠ []
  | enrich target _ => target.Awaits todo rows
  | store result rest _ => todo = result :: rest
  | readAccessToRefund target _ => target.Awaits todo rows
  | refund target _ => target.Awaits todo rows
  | markFailed result rest => todo = result :: rest
  | createDirect _ _ => rows = []
  | complete _ => todo = []
  | audit => todo = []
  | fail => False
  | finished _ => todo = []

/-- The credit reserved for the row or the match in progress. -/
def held : SearchStage → Int
  | enrich _ _ => 1
  | store _ _ _ => 1
  | readAccessToRefund _ _ => 1
  | refund _ _ => 1
  | createDirect _ matched => if matched.isSome then 1 else 0
  | _ => 0

/-- The pending rows are those still to do, and every credit that is not given back
is held or spent on an enriched row. -/
def Accounted (stage : SearchStage) (rows : List LeadSearchResult) (net : Int) : Prop :=
  ∃ todo, Todo todo rows ∧ stage.Awaits todo rows ∧ net = enrichedCount rows + stage.held

/-- The call gives a credit back. -/
def refundsCredit (data : ApolloSearchJobData) (stage : SearchStage) (world : World) : Bool :=
  match stage with
  | refund _ _ => world.hasUser data.userId
  | _ => false

/-- The credits a call reserves, less those it gives back. -/
def spends (data : ApolloSearchJobData) (stage : SearchStage) (world : World) : Int :=
  (if reservesCredit data stage world then 1 else 0) -
    if refundsCredit data stage world then 1 else 0

/-- The call throws, though it is not rejected. -/
def throws (stage : SearchStage) (input : Input) : Bool :=
  match stage with
  | search => input.apolloSearch.isNone
  | enrich _ _ =>
      match ApolloService.outcome input.apolloMatch with
      | .error _ => true
      | .ok none => false
      | .ok (some person) =>
          match person.columns with
          | .error _ => true
          | .ok _ => false
  | _ => false

/-- The call skips the pending rows. -/
def skips : SearchStage → Bool
  | skipCancelled => true
  | skipUnreserved => true
  | _ => false

/-- A failure of the call leaves nothing to undo. -/
def harmless : SearchStage → Bool
  | search => true
  | create _ [] (.ok []) => true
  | readAccess (.direct _) => true
  | takeCredit (.direct _) => true
  | createDirect _ none => true
  | complete _ => true
  | audit => true
  | _ => false

variable {data : ApolloSearchJobData} {stage : SearchStage} {input : Input} {world : World}
  {base : Nat} {net : Int}

/-- The rows of the execution after a call. -/
theorem created_write
    (known : (world.findSearchJob data.jobId).isSome = true)
    (supply : base ≤ world.nextId) :
    (write data stage world).created data.jobId base =
      match stage with
      | create candidate _ _ =>
          pendingRow data.jobId candidate world.nextId :: world.created data.jobId base
      | createDirect personName matched =>
          directRow data personName matched world.nextId :: world.created data.jobId base
      | skipCancelled =>
          Table.updateWhere (fun row => row.jobId = data.jobId && row.status = .pending)
            (fun row => { row with status := .skipped }) (world.created data.jobId base)
      | skipUnreserved =>
          Table.updateWhere (fun row => row.jobId = data.jobId && row.status = .pending)
            (fun row => { row with status := .skipped }) (world.created data.jobId base)
      | store result _ columns =>
          Table.updateWhere (fun row => row.id = result.id) columns.fill
            (world.created data.jobId base)
      | markFailed result _ =>
          Table.updateWhere (fun row => row.id = result.id)
            (fun row => { row with status := .failed }) (world.created data.jobId base)
      | _ => world.created data.jobId base := by
  cases stage with
  | create candidate rest made => exact created_insertResult rfl rfl known supply
  | createDirect personName matched =>
      refine created_insertResult ?_ ?_ known supply <;> (cases matched <;> rfl)
  | skipCancelled => exact created_rewriteResults _ _ _ fun _ => ⟨rfl, rfl⟩
  | skipUnreserved => exact created_rewriteResults _ _ _ fun _ => ⟨rfl, rfl⟩
  | store result rest columns => exact created_rewriteResults _ _ _ fun _ => ⟨rfl, rfl⟩
  | markFailed result rest => exact created_rewriteResults _ _ _ fun _ => ⟨rfl, rfl⟩
  | _ => rfl

end SearchStage

/-- What every call of an execution can rely on: the job is there, its user pays for
enrichments, and its rows carry distinct ids, older than the supply. -/
structure Ground (data : ApolloSearchJobData) (base : Nat) (world : World) : Prop where
  known : (world.findSearchJob data.jobId).isSome = true
  limited : world.unlimited data.userId = false
  supply : base ≤ world.nextId
  fresh : ∀ row ∈ world.resultsOf data.jobId, row.id < world.nextId
  distinct : ((world.created data.jobId base).map (·.id)).Nodup

theorem mem_created
    {world : World}
    {jobId base : Nat}
    {row : LeadSearchResult} :
    row ∈ world.created jobId base ↔
      row ∈ world.leadSearchResults ∧ row.jobId = jobId ∧ base ≤ row.id := by
  unfold World.created World.resultsOf
  rw [List.mem_filter, List.mem_filter, decide_eq_true_eq, decide_eq_true_eq, and_assoc]

namespace Ground

variable {data : ApolloSearchJobData} {base : Nat} {world : World}

/-- The next id is the id of no row of the execution. -/
theorem fresh_created (ground : Ground data base world) :
    ∀ row ∈ world.created data.jobId base, row.id < world.nextId :=
  fun row present => ground.fresh row (List.mem_of_mem_filter present)

/-- A row that is to do is in the table. -/
theorem stored
    {result : LeadSearchResult}
    {rest : List LeadSearchResult}
    (todo : Todo (result :: rest) (world.created data.jobId base)) :
    (world.leadSearchResults.any fun row => row.id = result.id) = true := by
  obtain ⟨row, present, sameId⟩ :=
    List.mem_map.mp (todo.present result List.mem_cons_self)
  exact List.any_eq_true.mpr ⟨row, (mem_created.mp present).1, by simpa using sameId⟩

end Ground

namespace SearchStage

variable {data : ApolloSearchJobData} {stage : SearchStage} {input : Input} {world : World}
  {base : Nat} {net : Int}

theorem accounted_loop
    {todo rows : List LeadSearchResult}
    (left : Todo todo rows)
    (spent : net = enrichedCount rows) :
    Accounted (loop todo) rows net := by
  refine ⟨todo, left, ?_, ?_⟩
  · cases todo <;> rfl
  · cases todo <;> exact spent.trans (Int.add_zero _).symm

/-- After a creation that takes place. -/
theorem accounted_afterCreate
    {rest : List ApolloCandidate}
    {todo rows : List LeadSearchResult}
    (left : Todo todo rows)
    (pending : ∀ row ∈ rows, row.status = .pending)
    (spent : net = enrichedCount rows) :
    Accounted (afterCreate rest (.ok todo)) rows net := by
  cases rest with
  | nil => exact accounted_loop left spent
  | cons candidate rest =>
      exact ⟨todo, left, ⟨rfl, pending⟩, spent.trans (Int.add_zero _).symm⟩

/-- After a row is settled without being enriched. -/
theorem accounted_markFailed
    {result : LeadSearchResult}
    {rest rows : List LeadSearchResult}
    (left : Todo (result :: rest) rows)
    (spent : net = enrichedCount rows) :
    Accounted (loop rest)
      (Table.updateWhere (fun row => row.id = result.id)
        (fun row => { row with status := .failed }) rows) net := by
  refine accounted_loop (left.settle (fun _ => rfl) fun _ => nofun) ?_
  rw [spent, enrichedCount_updateWhere ?_ fun _ => by exact nofun]
  intro row present chosen
  have sameId : row.id = result.id := of_decide_eq_true chosen
  rw [(left.pending row present).mpr (by rw [sameId]; exact List.mem_cons_self)]
  exact nofun

/-- After a row is enriched on the credit held for it. -/
theorem accounted_store
    {result : LeadSearchResult}
    {rest rows : List LeadSearchResult}
    (distinct : (rows.map (·.id)).Nodup)
    (left : Todo (result :: rest) rows)
    (spent : net = enrichedCount rows + 1)
    (columns : EnrichedColumns) :
    Accounted (loop rest)
      (Table.updateWhere (fun row => row.id = result.id) columns.fill rows) net := by
  refine accounted_loop (left.settle (fun _ => rfl) fun _ => nofun) ?_
  rw [spent, enrichedCount_settle distinct (left.present result List.mem_cons_self) ?_
    fun _ => rfl]
  intro row present sameId
  exact (left.pending row present).mpr (by rw [sameId]; exact List.mem_cons_self)

/-- After the pending rows are skipped. -/
theorem accounted_skip
    {rows : List LeadSearchResult}
    (owned : ∀ row ∈ rows, row.jobId = data.jobId)
    (spent : net = enrichedCount rows)
    {after : SearchStage}
    (awaits : ∀ rows, after.Awaits [] rows)
    (free : after.held = 0) :
    Accounted after
      (Table.updateWhere (fun row => row.jobId = data.jobId && row.status = .pending)
        (fun row => { row with status := .skipped }) rows) net := by
  refine ⟨[], Todo.skip owned, awaits _, ?_⟩
  rw [free, spent, enrichedCount_updateWhere ?_ fun _ => by exact nofun, Int.add_zero]
  intro row _ chosen
  rw [Bool.and_eq_true, decide_eq_true_eq, decide_eq_true_eq] at chosen
  rw [chosen.2]
  exact nofun

/-- A call that does not fail leaves everything accounted for. -/
theorem accounted_next
    (ground : Ground data base world)
    (accounted : Accounted stage (world.created data.jobId base) net)
    (account : 0 < stage.held → world.hasUser data.userId = true)
    (succeeds : stage.throws input = false) :
    Accounted (next data stage input world)
      ((write data stage world).created data.jobId base) (net + spends data stage world) := by
  have owned : ∀ row ∈ world.created data.jobId base, row.jobId = data.jobId :=
    fun row present => (mem_created.mp present).2.1
  have quiet : reservesCredit data stage world = false →
      refundsCredit data stage world = false → net + spends data stage world = net := by
    intro unreserved unrefunded
    rw [spends, unreserved, unrefunded]
    exact Int.add_zero net
  obtain ⟨todo, left, awaits, spent⟩ := accounted
  rw [created_write ground.known ground.supply]
  cases stage with
  | search =>
      rw [quiet rfl rfl]
      have empty : world.created data.jobId base = [] := awaits
      rw [empty] at left spent ⊢
      have nothing : todo = [] := by
        cases todo with
        | nil => rfl
        | cons result rest => cases left.present result List.mem_cons_self
      rw [nothing] at left
      rw [next]
      cases found : input.apolloSearch with
      | none =>
          rw [throws, found] at succeeds
          cases succeeds
      | some people =>
          dsimp only
          cases candidates data (people.map ApolloService.candidate) with
          | nil => exact ⟨[], left, rfl, spent⟩
          | cons candidate rest => exact ⟨[], left, ⟨rfl, List.forall_mem_nil _⟩, spent⟩
  | create candidate rest made =>
      obtain ⟨rfl, pending⟩ := awaits
      rw [quiet rfl rfl, next, if_pos ground.known]
      refine accounted_afterCreate (left.add rfl fun other present => ?_) ?_ ?_
      · exact Nat.ne_of_lt (ground.fresh_created other present)
      · exact List.forall_mem_cons.mpr ⟨rfl, pending⟩
      · rw [enrichedCount_cons, if_neg (by simp [ApolloSearchProcessor.pendingRow])]
        exact spent
  | check result rest =>
      obtain rfl : todo = result :: rest := awaits
      rw [quiet rfl rfl, next]
      split
      · exact ⟨_, left, List.cons_ne_nil _ _, spent⟩
      · exact ⟨_, left, rfl, spent⟩
  | skipCancelled =>
      rw [quiet rfl rfl]
      exact accounted_skip owned (spent.trans (Int.add_zero _)) (fun _ => by exact rfl) rfl
  | skipUnreserved =>
      rw [quiet rfl rfl]
      exact accounted_skip owned (spent.trans (Int.add_zero _)) (fun _ => by exact rfl) rfl
  | readAccess target =>
      rw [quiet ground.limited rfl, next, ground.limited, if_neg Bool.false_ne_true]
      exact ⟨todo, left, awaits, spent⟩
  | takeCredit target =>
      rw [next]
      cases affords : world.users.any fun user =>
          user.id = data.userId && 0 < user.leadFinderCredits with
      | true =>
          refine ⟨todo, left, awaits, ?_⟩
          rw [spends, reservesCredit, affords, spent]
          exact Int.add_right_comm _ _ _
      | false =>
          rw [quiet affords rfl]
          cases target with
          | row result rest =>
              obtain rfl : todo = result :: rest := awaits
              exact ⟨_, left, List.cons_ne_nil _ _, spent⟩
          | direct personName =>
              have empty : world.created data.jobId base = [] := awaits
              dsimp only
              rw [empty] at spent ⊢
              exact ⟨[], todo_nil_iff.mpr (List.forall_mem_nil _), rfl, spent⟩
  | enrich target charged =>
      rw [quiet rfl rfl, next]
      rw [throws] at succeeds
      cases found : ApolloService.outcome input.apolloMatch with
      | error error =>
          rw [found] at succeeds
          cases succeeds
      | ok outcome =>
          rw [found] at succeeds
          cases outcome with
          | none => exact ⟨todo, left, awaits, spent⟩
          | some person =>
              dsimp only at succeeds ⊢
              cases accepted : person.columns with
              | error error =>
                  rw [accepted] at succeeds
                  cases succeeds
              | ok columns => cases target <;> exact ⟨todo, left, awaits, spent⟩
  | store result rest columns =>
      obtain rfl : todo = result :: rest := awaits
      rw [quiet rfl rfl, next, if_pos (Ground.stored left)]
      exact accounted_store ground.distinct left spent columns
  | readAccessToRefund target charged =>
      rw [quiet rfl rfl, next, ground.limited, if_neg Bool.false_ne_true]
      exact ⟨todo, left, awaits, spent⟩
  | refund target charged =>
      have known : world.hasUser data.userId = true := account Int.one_pos
      have repaid : net + spends data (refund target charged) world =
          enrichedCount (world.created data.jobId base) := by
        simp [spends, refundsCredit, reservesCredit, held, known, spent]
      rw [repaid, next, if_pos (hasUser_eq_isSome ▸ known)]
      cases target <;> exact ⟨todo, left, awaits, (Int.add_zero _).symm⟩
  | markFailed result rest =>
      obtain rfl : todo = result :: rest := awaits
      rw [quiet rfl rfl, next, if_pos (Ground.stored left)]
      exact accounted_markFailed left (spent.trans (Int.add_zero _))
  | createDirect personName matched =>
      have empty : world.created data.jobId base = [] := awaits
      rw [quiet rfl rfl, next, if_pos ground.known]
      dsimp only
      rw [empty] at spent ⊢
      refine ⟨[], todo_nil_iff.mpr ?_, rfl, ?_⟩
      · cases matched <;> simp [ApolloSearchProcessor.directRow, EnrichedColumns.fill]
      · rw [enrichedCount_cons]
        cases matched <;> exact spent
  | complete audited =>
      rw [quiet rfl rfl, next, if_pos ground.known]
      cases audited <;> exact ⟨todo, left, awaits, spent⟩
  | audit =>
      rw [quiet rfl rfl]
      exact ⟨todo, left, awaits, spent⟩
  | fail => exact absurd awaits id
  | finished outcome =>
      rw [quiet rfl rfl]
      exact ⟨todo, left, awaits, spent⟩

end SearchStage
end ConferenceContact
