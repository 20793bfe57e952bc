import ConferenceContact.Leads.Compensation

/-!
# The failure of a call

A call of an execution may fail: it is rejected, or Apollo's answer makes it
throw.  What is accounted for before the failure decides whether anything is
left to undo after it, which the handler does not do.
-/

namespace ConferenceContact

open Process ApolloSearchProcessor

/-! ## Requests beside an execution -/

/-- What the requests beside an execution leave to it: its results, its user, and the
status of its job, which they may only set to `CANCELLED`. -/
structure Beside (data : ApolloSearchJobData) (before after : World) : Prop where
  results : after.resultsOf data.jobId = before.resultsOf data.jobId
  supply : before.nextId ≤ after.nextId
  job : ∀ job, before.findSearchJob data.jobId = some job →
    ∃ current, after.findSearchJob data.jobId = some current ∧
      (current.status = job.status ∨ current.status = .cancelled)
  limited : before.unlimited data.userId = false → after.unlimited data.userId = false
  account : before.hasUser data.userId = true → after.hasUser data.userId = true

instance (data : ApolloSearchJobData) : Std.Refl (Beside data) where
  refl _ := ⟨rfl, Nat.le_refl _, fun job found => ⟨job, found, .inl rfl⟩, id, id⟩

theorem findSearchJob_setJobStatus
    (world : World)
    (id other : Nat)
    (status : LeadSearchJobStatus) :
    (world.setJobStatus id status).findSearchJob other =
      (world.findSearchJob other).map fun job =>
        if job.id = id then { job with status } else job := by
  unfold World.setJobStatus World.findSearchJob
  dsimp only
  rw [Table.find?_updateWhere LeadSearchJob.id]
  · simp only [decide_eq_true_eq]
  · exact fun _ => rfl

/-- A cancellation leaves an execution what it needs. -/
theorem beside_cancelled
    (data : ApolloSearchJobData)
    (world : World)
    (id : Nat) :
    Beside data world (world.setJobStatus id .cancelled) := by
  refine ⟨rfl, Nat.le_refl _, ?_, fun limited => limited, fun account => account⟩
  intro job found
  rw [findSearchJob_setJobStatus, found, Option.map_some]
  refine ⟨_, rfl, ?_⟩
  split
  · exact .inr rfl
  · exact .inl rfl

theorem beside_cancelSearchJob
    (data : ApolloSearchJobData)
    (userId : UserId)
    (jobId : Nat) :
    (LeadsService.cancelSearchJob userId jobId).Respects (Beside data) := by
  have reads : ∀ before after : World, after = before → Beside data before after := by
    intro before after same
    rw [same]
    exact Std.Refl.refl before
  refine Respects.bind ((readOnly_ownSearchJob userId jobId).mono reads) fun job => ?_
  refine Respects.ite (Respects.pure job) (Respects.attempt ?_)
  intro input world value after updated
  split at updated
  · cases updated
    exact beside_cancelled data world jobId
  · cases updated

/-! ## What the calls of an execution keep -/

/-- The pending rows of a job from before an execution. -/
def World.leftover (world : World) (jobId base : Nat) : List LeadSearchResult :=
  (world.resultsOf jobId).filter fun row => row.id < base ∧ row.status = .pending

namespace SearchStage

/-- The call creates a row. -/
def creates : SearchStage → Bool
  | create _ _ _ => true
  | createDirect _ _ => true
  | _ => false

variable {data : ApolloSearchJobData} {stage : SearchStage} {input : Input} {world : World}
  {base : Nat} {net : Int}

theorem nextId_write (known : (world.findSearchJob data.jobId).isSome = true) :
    (write data stage world).nextId =
      if stage.creates then world.nextId + 1 else world.nextId := by
  cases stage with
  | create candidate rest made =>
      rw [write, World.insertResult]
      exact congrArg World.nextId (if_pos known)
  | createDirect personName matched =>
      have owner : (directRow data personName matched world.nextId).jobId = data.jobId := by
        cases matched <;> rfl
      rw [write, World.insertResult, owner]
      exact congrArg World.nextId (if_pos known)
  | _ => rfl

/-- The ids of the rows of an execution after a call. -/
theorem ids_write
    (known : (world.findSearchJob data.jobId).isSome = true)
    (supply : base ≤ world.nextId) :
    ((write data stage world).created data.jobId base).map (·.id) =
      if stage.creates then world.nextId :: (world.created data.jobId base).map (·.id)
      else (world.created data.jobId base).map (·.id) := by
  rw [created_write known supply]
  cases stage with
  | createDirect personName matched => cases matched <;> rfl
  | skipCancelled => exact Table.map_updateWhere _ _ _ _ fun _ => rfl
  | skipUnreserved => exact Table.map_updateWhere _ _ _ _ fun _ => rfl
  | store result rest columns => exact Table.map_updateWhere _ _ _ _ fun _ => rfl
  | markFailed result rest => exact Table.map_updateWhere _ _ _ _ fun _ => rfl
  | _ => rfl

theorem findSearchJob_write (id : Nat) :
    (write data stage world).findSearchJob id =
      match stage with
      | complete _ => (world.setJobStatus data.jobId .completed).findSearchJob id
      | fail => (world.setJobStatus data.jobId .failed).findSearchJob id
      | _ => world.findSearchJob id := by
  unfold World.findSearchJob
  rw [leadSearchJobs_write]
  cases stage <;> rfl

end SearchStage

theorem created_zero (world : World) (jobId : Nat) :
    world.created jobId 0 = world.resultsOf jobId :=
  List.filter_eq_self.mpr fun _ _ => rfl

namespace Ground

variable {data : ApolloSearchJobData} {stage : SearchStage} {base : Nat} {world after : World}

theorem write (ground : Ground data base world) :
    Ground data base (stage.write data world) := by
  obtain ⟨known, limited, supply, fresh, distinct⟩ := ground
  have grows : world.nextId ≤ (stage.write data world).nextId := by
    rw [SearchStage.nextId_write known]
    split <;> omega
  refine ⟨?_, SearchStage.unlimited_write.trans limited, Nat.le_trans supply grows, ?_, ?_⟩
  · rw [SearchStage.findSearchJob_write]
    split
    · rw [findSearchJob_setJobStatus, Option.isSome_map, known]
    · rw [findSearchJob_setJobStatus, Option.isSome_map, known]
    · exact known
  · intro row present
    rw [← created_zero] at present
    have inIds := List.mem_map_of_mem (f := LeadSearchResult.id) present
    rw [SearchStage.ids_write known (Nat.zero_le _), created_zero] at inIds
    rw [SearchStage.nextId_write known]
    have older : row.id ∈ (world.resultsOf data.jobId).map (·.id) → row.id < world.nextId := by
      intro inOld
      obtain ⟨old, inResults, sameId⟩ := List.mem_map.mp inOld
      exact sameId ▸ fresh old inResults
    split at inIds
    · rename_i creates
      rw [if_pos creates]
      rcases List.mem_cons.mp inIds with newest | inOld
      · omega
      · exact Nat.lt_succ_of_lt (older inOld)
    · rename_i creates
      rw [if_neg creates]
      exact older inIds
  · rw [SearchStage.ids_write known supply]
    split
    · refine List.nodup_cons.mpr ⟨fun inIds => ?_, distinct⟩
      obtain ⟨old, inCreated, sameId⟩ := List.mem_map.mp inIds
      exact absurd (fresh old (List.mem_of_mem_filter inCreated)) (by omega)
    · exact distinct

theorem beside (ground : Ground data base world) (beside : Beside data world after) :
    Ground data base after := by
  obtain ⟨known, limited, supply, fresh, distinct⟩ := ground
  refine ⟨?_, beside.limited limited, Nat.le_trans supply beside.supply, ?_, ?_⟩
  · obtain ⟨job, found⟩ := Option.isSome_iff_exists.mp known
    obtain ⟨current, stays, -⟩ := beside.job job found
    rw [stays]
    rfl
  · rw [beside.results]
    exact fun row present => Nat.lt_of_lt_of_le (fresh row present) beside.supply
  · unfold World.created
    rw [beside.results]
    exact distinct

end Ground

/-! ## The failure and its aftermath -/

/-- Nothing is pending, and the credits spent are those of the enriched rows. -/
def SettledRows (rows : List LeadSearchResult) (net : Int) : Prop :=
  (∀ row ∈ rows, row.status ≠ .pending) ∧ net = enrichedCount rows

namespace SearchStage

/-- Where an execution stands after its failure: it still creates rows that nothing
will settle, or it is in its handler or past it, and nothing changes any more. -/
def Aftermath
    (stage : SearchStage)
    (rows : List LeadSearchResult)
    (net : Int)
    (settles : Prop) : Prop :=
  match stage with
  | create _ _ made => (∃ error, made = .error error) ∧ ¬settles
  | fail => SettledRows rows net ↔ settles
  | finished _ => SettledRows rows net ↔ settles
  | _ => False

variable {data : ApolloSearchJobData} {stage : SearchStage} {input : Input} {world : World}
  {base : Nat} {net : Int} {settles : Prop}

/-- Where nothing is to do and no credit is held, everything is settled. -/
theorem settled_of_done
    {rows : List LeadSearchResult}
    (left : Todo [] rows)
    (spent : net = enrichedCount rows) :
    SettledRows rows net :=
  ⟨todo_nil_iff.mp left, spent⟩

/-- With a row still to do, something is pending. -/
theorem not_settled_of_todo
    {result : LeadSearchResult}
    {rest rows : List LeadSearchResult}
    (left : Todo (result :: rest) rows) :
    ¬SettledRows rows net := by
  obtain ⟨row, present, pending⟩ := left.exists_pending
  exact fun settled => settled.1 row present pending

/-- An execution without rows has settled all but the credit it holds. -/
theorem settled_nil_iff : SettledRows [] net ↔ net = 0 :=
  and_iff_right (List.forall_mem_nil _)

/-- A failure settles what the execution has started where it is harmless, and
nowhere else. -/
theorem aftermath_abort
    {rows : List LeadSearchResult}
    (accounted : Accounted stage rows net)
    (started : stage.isOver = false)
    (error : ApiError) :
    Aftermath (abort stage error) rows net (stage.harmless = true) := by
  obtain ⟨todo, left, awaits, spent⟩ := accounted
  have unsettled : ∀ result rest, todo = result :: rest →
      (SettledRows rows net ↔ false = true) := by
    rintro result rest rfl
    exact iff_of_false (not_settled_of_todo left) Bool.false_ne_true
  have unfinished : todo ≠ [] → (SettledRows rows net ↔ false = true) := by
    intro some
    obtain ⟨result, rest, same⟩ := List.exists_cons_of_ne_nil some
    exact unsettled result rest same
  have free : rows = [] → stage.held = 0 → (SettledRows rows net ↔ true = true) := by
    rintro rfl unheld
    rw [unheld] at spent
    exact iff_of_true (settled_nil_iff.mpr spent) rfl
  have owing : rows = [] → stage.held = 1 → (SettledRows rows net ↔ false = true) := by
    rintro rfl held
    rw [held] at spent
    refine iff_of_false (fun settled => ?_) Bool.false_ne_true
    rw [settled_nil_iff.mp settled] at spent
    exact absurd spent (by decide)
  have done : todo = [] → stage.held = 0 → (SettledRows rows net ↔ true = true) := by
    rintro rfl unheld
    rw [unheld, Int.add_zero] at spent
    exact iff_of_true (settled_of_done left spent) rfl
  cases stage with
  | search => exact free awaits rfl
  | create candidate rest made =>
      obtain ⟨rfl, pending⟩ := awaits
      cases rest with
      | cons candidate rest => exact ⟨⟨error, rfl⟩, Bool.false_ne_true⟩
      | nil =>
          cases todo with
          | nil => exact iff_of_true (settled_of_done left (spent.trans (Int.add_zero _))) rfl
          | cons result others => exact unsettled result others rfl
  | check result rest => exact unsettled result rest awaits
  | skipCancelled => exact unfinished awaits
  | skipUnreserved => exact unfinished awaits
  | readAccess target =>
      cases target with
      | row result rest => exact unsettled result rest awaits
      | direct personName => exact free awaits rfl
  | takeCredit target =>
      cases target with
      | row result rest => exact unsettled result rest awaits
      | direct personName => exact free awaits rfl
  | enrich target charged =>
      cases target with
      | row result rest => exact unsettled result rest awaits
      | direct personName => exact owing awaits rfl
  | store result rest columns => exact unsettled result rest awaits
  | readAccessToRefund target charged =>
      cases target with
      | row result rest => exact unsettled result rest awaits
      | direct personName => exact owing awaits rfl
  | refund target charged =>
      cases target with
      | row result rest => exact unsettled result rest awaits
      | direct personName => exact owing awaits rfl
  | markFailed result rest => exact unsettled result rest awaits
  | createDirect personName matched =>
      cases matched with
      | none => exact free awaits rfl
      | some columns => exact owing awaits rfl
  | complete audited => exact done awaits rfl
  | audit => exact done awaits rfl
  | fail => exact absurd awaits id
  | finished outcome => cases started

/-- A call that throws changes nothing, and is handled like a rejected one. -/
theorem of_throws
    (throwing : stage.throws input = true)
    (error : ApiError)
    (data : ApolloSearchJobData)
    (world : World) :
    write data stage world = world ∧ next data stage input world = abort stage error ∧
      spends data stage world = 0 ∧ stage.skips = false := by
  cases stage with
  | search =>
      refine ⟨rfl, ?_, rfl, rfl⟩
      rw [next]
      cases found : input.apolloSearch with
      | none => rfl
      | some people =>
          rw [throws, found] at throwing
          cases throwing
  | enrich target charged =>
      refine ⟨rfl, ?_, rfl, rfl⟩
      rw [next]
      rw [throws] at throwing
      cases found : ApolloService.outcome input.apolloMatch with
      | error error => rfl
      | ok outcome =>
          rw [found] at throwing
          cases outcome with
          | none => cases throwing
          | some person =>
              dsimp only at throwing ⊢
              cases accepted : person.columns with
              | error error => rfl
              | ok columns =>
                  rw [accepted] at throwing
                  cases throwing
  | _ => cases throwing

/-- After the failure the handler settles nothing and spends nothing. -/
theorem aftermath_next
    (ground : Ground data base world)
    (aftermath : Aftermath stage (world.created data.jobId base) net settles) :
    Aftermath (next data stage input world)
      ((write data stage world).created data.jobId base) (net + spends data stage world)
      settles := by
  have quiet : net + 0 = net := Int.add_zero net
  rw [created_write ground.known ground.supply]
  cases stage with
  | create candidate rest made =>
      obtain ⟨⟨error, rfl⟩, unsettled⟩ := aftermath
      rw [next, if_pos ground.known]
      cases rest with
      | cons candidate rest => exact ⟨⟨error, rfl⟩, unsettled⟩
      | nil => exact iff_of_false (fun settled => settled.1 _ List.mem_cons_self rfl) unsettled
  | fail =>
      rw [next, if_pos ground.known]
      exact (quiet.symm ▸ aftermath :)
  | finished outcome => exact (quiet.symm ▸ aftermath :)
  | _ => exact absurd aftermath id

/-! ## The status of the job -/

/-- The status a stage has come upon or written. -/
def Concluded (data : ApolloSearchJobData) (stage : SearchStage) (world : World) : Prop :=
  match stage with
  | skipCancelled =>
      ((world.findSearchJob data.jobId).any fun job => job.status = .cancelled) = true
  | audit => ((world.findSearchJob data.jobId).any fun job => job.status ≠ .running) = true
  | finished _ => ((world.findSearchJob data.jobId).any fun job => job.status ≠ .running) = true
  | _ => True

theorem concluded_loop (rows : List LeadSearchResult) (after : World) :
    Concluded data (loop rows) after := by
  cases rows <;> trivial

theorem concluded_afterCreate
    (rest : List ApolloCandidate)
    (made : Except ApiError (List LeadSearchResult))
    (after : World) :
    Concluded data (afterCreate rest made) after := by
  cases rest with
  | cons candidate rest => trivial
  | nil =>
      cases made with
      | error error => trivial
      | ok rows => exact concluded_loop rows after

/-- The status written by a run's last update. -/
theorem concluded_setJobStatus
    (known : (world.findSearchJob data.jobId).isSome = true)
    {status : LeadSearchJobStatus}
    (terminal : status ≠ .running) :
    (((world.setJobStatus data.jobId status).findSearchJob data.jobId).any fun job =>
      job.status ≠ .running) = true := by
  obtain ⟨job, found⟩ := Option.isSome_iff_exists.mp known
  have owner : job.id = data.jobId := by
    unfold World.findSearchJob at found
    simpa using List.find?_some found
  rw [findSearchJob_setJobStatus, found, Option.map_some, if_pos owner]
  simpa using terminal

theorem concluded_next
    (known : (world.findSearchJob data.jobId).isSome = true)
    (concluded : Concluded data stage world) :
    Concluded data (next data stage input world) (write data stage world) := by
  cases stage with
  | search =>
      rw [next]
      cases input.apolloSearch with
      | none => trivial
      | some people =>
          dsimp only
          cases candidates data (people.map ApolloService.candidate) <;> trivial
  | create candidate rest made => exact concluded_afterCreate _ _ _
  | check result rest =>
      rw [next]
      split
      · assumption
      · trivial
  | skipCancelled =>
      show ((world.findSearchJob data.jobId).any fun job => job.status ≠ .running) = true
      have cancelled : ((world.findSearchJob data.jobId).any fun job =>
        job.status = .cancelled) = true := concluded
      rw [Option.any_eq_true] at cancelled ⊢
      obtain ⟨job, found, status⟩ := cancelled
      rw [decide_eq_true_eq] at status
      exact ⟨job, found, by rw [status]; rfl⟩
  | readAccess target =>
      rw [next]
      split <;> trivial
  | takeCredit target =>
      rw [next]
      split
      · trivial
      · cases target <;> trivial
  | skipUnreserved => trivial
  | enrich target charged =>
      rw [next]
      cases ApolloService.outcome input.apolloMatch with
      | error error => trivial
      | ok outcome =>
          cases outcome with
          | none => trivial
          | some person =>
              dsimp only
              cases person.columns with
              | error error => trivial
              | ok columns => cases target <;> trivial
  | store result rest columns =>
      rw [next]
      split
      · exact concluded_loop _ _
      · trivial
  | readAccessToRefund target charged =>
      rw [next]
      split
      · cases target <;> trivial
      · trivial
  | refund target charged =>
      rw [next]
      split
      · cases target <;> trivial
      · trivial
  | markFailed result rest =>
      rw [next]
      split
      · exact concluded_loop _ _
      · trivial
  | createDirect personName matched =>
      rw [next]
      split <;> trivial
  | complete audited =>
      rw [next, if_pos known]
      cases audited <;> exact concluded_setJobStatus known (by simp)
  | audit => exact concluded
  | fail =>
      rw [next, if_pos known]
      exact concluded_setJobStatus known (by simp)
  | finished outcome => exact concluded

/-- A failure leads to the handler, or on to the other creations. -/
theorem concluded_abort
    (started : stage.isOver = false)
    (handled : stage ≠ fail)
    (error : ApiError) :
    Concluded data (abort stage error) world := by
  cases stage with
  | create candidate rest made => exact concluded_afterCreate _ _ _
  | fail => exact absurd rfl handled
  | finished outcome => cases started
  | _ => trivial

theorem concluded_beside
    {after : World}
    (known : (world.findSearchJob data.jobId).isSome = true)
    (beside : Beside data world after)
    (concluded : Concluded data stage world) :
    Concluded data stage after := by
  obtain ⟨job, found⟩ := Option.isSome_iff_exists.mp known
  obtain ⟨current, stays, status⟩ := beside.job job found
  have terminal : ((world.findSearchJob data.jobId).any fun job =>
        job.status ≠ .running) = true →
      ((after.findSearchJob data.jobId).any fun job => job.status ≠ .running) = true := by
    rw [found, stays, Option.any_some, Option.any_some, decide_eq_true_eq, decide_eq_true_eq]
    intro ended
    rcases status with same | cancelled
    · rwa [same]
    · rw [cancelled]
      exact nofun
  cases stage with
  | skipCancelled =>
      have cancelled : ((world.findSearchJob data.jobId).any fun job =>
        job.status = .cancelled) = true := concluded
      rw [found, Option.any_some, decide_eq_true_eq] at cancelled
      show ((after.findSearchJob data.jobId).any fun job => job.status = .cancelled) = true
      rw [stays, Option.any_some, decide_eq_true_eq]
      exact status.elim (fun same => same.trans cancelled) id
  | audit => exact terminal concluded
  | finished outcome => exact terminal concluded
  | _ => trivial

/-! ## The user of a reservation -/

theorem hasUser_write :
    (write data stage world).hasUser data.userId = world.hasUser data.userId := by
  have sameIds : (write data stage world).users.map (·.id) = world.users.map (·.id) :=
    accounts_write
  have ofIds : ∀ world : World, world.hasUser data.userId =
      (world.users.map (·.id)).any fun id => id = data.userId := by
    intro world
    unfold World.hasUser
    rw [List.any_map]
    rfl
  rw [ofIds, ofIds, sameIds]

/-- A credit is held only for a user who exists. -/
theorem account_next
    (limited : world.unlimited data.userId = false)
    (account : 0 < stage.held → world.hasUser data.userId = true)
    (holds : 0 < (next data stage input world).held) :
    (write data stage world).hasUser data.userId = true := by
  rw [hasUser_write]
  have free : ∀ after : SearchStage, after.held = 0 → next data stage input world = after →
      world.hasUser data.userId = true := by
    intro after unheld leads
    rw [leads, unheld] at holds
    exact absurd holds (Int.lt_irrefl 0)
  have loops : ∀ rows, (loop rows).held = 0 := by
    intro rows
    cases rows <;> rfl
  cases stage with
  | search =>
      refine free _ ?_ rfl
      rw [next]
      cases input.apolloSearch with
      | none => rfl
      | some people =>
          dsimp only
          cases candidates data (people.map ApolloService.candidate) <;> rfl
  | create candidate rest made =>
      refine free _ ?_ rfl
      rw [next]
      cases rest with
      | cons candidate rest => rfl
      | nil =>
          rw [afterCreate]
          unfold created
          split
          · exact loops _
          · rfl
  | check result rest =>
      refine free _ ?_ rfl
      rw [next]
      split <;> rfl
  | readAccess target =>
      refine free _ ?_ rfl
      rw [next, limited]
      rfl
  | takeCredit target =>
      cases affords : world.users.any fun user =>
          user.id = data.userId && 0 < user.leadFinderCredits with
      | true =>
          obtain ⟨user, present, both⟩ := List.any_eq_true.mp affords
          rw [Bool.and_eq_true] at both
          exact List.any_eq_true.mpr ⟨user, present, both.1⟩
      | false =>
          refine free _ ?_ rfl
          rw [next, affords]
          cases target <;> rfl
  | enrich target charged => exact account Int.one_pos
  | store result rest columns => exact account Int.one_pos
  | readAccessToRefund target charged => exact account Int.one_pos
  | refund target charged => exact account Int.one_pos
  | markFailed result rest =>
      refine free _ ?_ rfl
      rw [next]
      split
      · exact loops _
      · rfl
  | createDirect personName matched =>
      refine free _ ?_ rfl
      rw [next]
      split <;> rfl
  | complete audited =>
      refine free _ ?_ rfl
      rw [next]
      split
      · cases audited <;> rfl
      · rfl
  | fail =>
      refine free _ ?_ rfl
      rw [next]
      split <;> rfl
  | _ => exact free _ rfl rfl

/-- A failure gives up the credit that is held. -/
theorem held_abort (stage : SearchStage) (error : ApiError) : (abort stage error).held = 0 := by
  cases stage with
  | create candidate rest made =>
      cases rest with
      | cons candidate rest => rfl
      | nil =>
          cases made <;> rfl
  | _ => rfl

/-! ## Pending rows from before -/

/-- An execution changes the pending rows from before it by skipping them, and not
otherwise. -/
theorem leftover_write
    (ground : Ground data base world)
    (phase : Accounted stage (world.created data.jobId base) net ∨
      Aftermath stage (world.created data.jobId base) net settles) :
    (write data stage world).leftover data.jobId base =
      if stage.skips then [] else world.leftover data.jobId base := by
  have shape : ∀ after : World, after.leftover data.jobId base =
      (after.created data.jobId 0).filter fun row => row.id < base ∧ row.status = .pending := by
    intro after
    rw [created_zero]
    rfl
  have skipped : ((Table.updateWhere (fun row => row.jobId = data.jobId && row.status = .pending)
      (fun row => { row with status := .skipped }) (world.created data.jobId 0)).filter
        fun row => row.id < base ∧ row.status = .pending) = [] := by
    refine List.filter_eq_nil_iff.mpr fun row present selected => ?_
    have owned : ∀ row ∈ world.created data.jobId 0, row.jobId = data.jobId :=
      fun row present => (mem_created.mp present).2.1
    exact todo_nil_iff.mp (Todo.skip owned) row present (of_decide_eq_true selected).2
  have own : ∀ result rest rewrite, Todo (result :: rest) (world.created data.jobId base) →
      (∀ row, (rewrite row).id = row.id) →
      ((Table.updateWhere (fun row : LeadSearchResult => row.id = result.id) rewrite
        (world.created data.jobId 0)).filter fun row => row.id < base ∧ row.status = .pending) =
        (world.created data.jobId 0).filter fun row => row.id < base ∧ row.status = .pending := by
    intro result rest rewrite left kept
    obtain ⟨stored, present, sameId⟩ := List.mem_map.mp (left.present result List.mem_cons_self)
    have recent : ¬result.id < base := sameId ▸ Nat.not_lt.mpr (mem_created.mp present).2.2
    refine Table.filter_updateWhere fun row _ chosen => ?_
    have same : row.id = result.id := of_decide_eq_true chosen
    refine ⟨decide_eq_false fun both => ?_, decide_eq_false fun both => ?_⟩
    · exact recent (same ▸ both.1)
    · exact recent (same ▸ kept row ▸ both.1)
  have newest : ∀ row : LeadSearchResult, row.id = world.nextId →
      ((row :: world.created data.jobId 0).filter fun row =>
        row.id < base ∧ row.status = .pending) =
        (world.created data.jobId 0).filter fun row => row.id < base ∧ row.status = .pending := by
    intro row same
    refine List.filter_cons_of_neg fun selected => ?_
    have older := (of_decide_eq_true selected).1
    exact absurd ground.supply (by omega)
  have todoOf : ∀ result rest, (Accounted stage (world.created data.jobId base) net →
      ∀ todo, stage.Awaits todo (world.created data.jobId base) → todo = result :: rest) →
      (¬Aftermath stage (world.created data.jobId base) net settles) →
      Todo (result :: rest) (world.created data.jobId base) := by
    intro result rest waits clean
    obtain accounted | aftermath := phase
    · obtain ⟨todo, left, awaits, spent⟩ := accounted
      rw [← waits ⟨todo, left, awaits, spent⟩ todo awaits]
      exact left
    · exact absurd aftermath clean
  rw [shape, shape, created_write ground.known (Nat.zero_le _)]
  cases stage with
  | create candidate rest made => exact newest _ rfl
  | createDirect personName matched => exact newest _ (by cases matched <;> rfl)
  | skipCancelled => exact skipped
  | skipUnreserved => exact skipped
  | store result rest columns =>
      exact own result rest _ (todoOf result rest (fun _ _ awaits => awaits) id) fun _ => rfl
  | markFailed result rest =>
      exact own result rest _ (todoOf result rest (fun _ _ awaits => awaits) id) fun _ => rfl
  | _ => rfl

/-- The call of a turn fails. -/
def fails (stage : SearchStage) (turn : CrewTurn Input ApiError) : Bool :=
  !stage.isOver && (turn.rejected.isSome || stage.throws turn.input)

end SearchStage

end ConferenceContact
