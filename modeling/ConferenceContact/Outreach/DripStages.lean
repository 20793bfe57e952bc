import ConferenceContact.Foundation.Machine
import ConferenceContact.Model.Campaign
import ConferenceContact.Model.Leads

/-!
# The control points of a drip

A run of `runDailyDrip` is cut at its awaited calls.  The jobs of a batch are
offered to the queue chunk by chunk, and the rows are marked as sent, whether or
not the queue has accepted the chunks.
-/

namespace ConferenceContact

open Process ProspectCampaignService

/-- The call a drip is about to make.  From the loop over the candidates on, a stage
carries the size of the batch. -/
inductive DripStage
  | settings
  | find (dailyCap : Nat)
  | users (batch : List ProspectInviteQueue)
  | suppressions (batch : List ProspectInviteQueue) (existing : List String)
  | skip
      (size : Nat)
      (existing suppressed : List String)
      (candidate : ProspectInviteQueue)
      (status : ProspectInviteQueueStatus)
      (rest : List ProspectInviteQueue)
      (decisions : Decisions)
  | enqueue
      (size : Nat)
      (decisions : Decisions)
      (chunk : List EmailJob)
      (rest : List (List EmailJob))
  | mark (size : Nat) (decisions : Decisions)
  | record (size : Nat) (decisions : Decisions)
  | finished (outcome : Except ApiError DripResult)

namespace DripStage

/-! ## The code left at a stage -/

/-- What a drip returns. -/
def result (size : Nat) (decisions : Decisions) : DripResult where
  sent := decisions.toSend.length
  skippedExisting := decisions.skippedExisting
  skippedUnsubscribed := decisions.skippedUnsubscribed
  batchSize := size

/-- What is left of a drip that has sent what it has decided to send. -/
def conclude (size : Nat) (decisions : Decisions) : Service DripResult := do
  AuditService.record none .adminProspectCampaignDailyDrip
  return result size decisions

/-- What is left of a drip that has chunks to offer. -/
def send
    (size : Nat)
    (decisions : Decisions)
    (chunks : List (List EmailJob)) : Service DripResult := do
  EmailService.enqueueChunks chunks
  markSent decisions.toSend
  conclude size decisions

/-- What is left of a drip that has decided its candidates. -/
def carryOut (size : Nat) (decisions : Decisions) : Service DripResult := do
  if 0 < decisions.toSend.length then
    EmailService.sendProspectInviteBulk decisions.toSend
    markSent decisions.toSend
  conclude size decisions

/-- What is left of a drip that has candidates to decide. -/
def remaining
    (size : Nat)
    (existing suppressed : List String)
    (rest : List ProspectInviteQueue)
    (decisions : Decisions) : Service DripResult := do
  let decisions ← decideCandidates existing suppressed rest decisions
  carryOut size decisions

/-- The code left of a drip. -/
def code : DripStage → Service DripResult
  | settings => runDailyDrip
  | find dailyCap => do
      let candidates ← query fun input world =>
        (pendingRows input.tiedOrder world).take dailyCap
      if candidates.length = 0 then
        return {}
      else
        processBatch candidates
  | users batch => processBatch batch
  | suppressions batch existing => do
      let suppressions ← query fun _ world =>
        (world.emailSuppressions.map (·.email)).filter (· ∈ batch.map (·.email))
      remaining batch.length existing suppressions batch {}
  | skip size existing suppressed candidate status rest decisions => do
      updateStatus candidate.id status
      remaining size existing suppressed rest decisions
  | enqueue size decisions chunk rest => send size decisions (chunk :: rest)
  | mark size decisions => send size decisions []
  | record size decisions => conclude size decisions
  | finished outcome => orThrow outcome

/-! ## The machine -/

/-- The next chunk is offered, or the rows are marked. -/
def offer (size : Nat) (decisions : Decisions) : List (List EmailJob) → DripStage
  | [] => mark size decisions
  | chunk :: rest => enqueue size decisions chunk rest

/-- After the loop over the candidates. -/
def decided (size : Nat) (decisions : Decisions) : DripStage :=
  if 0 < decisions.toSend.length then
    offer size decisions (slices 500 (decisions.toSend.map .prospectColdInvite))
  else record size decisions

/-- The head of the loop over the candidates. -/
def loop
    (size : Nat)
    (existing suppressed : List String) :
    List ProspectInviteQueue → Decisions → DripStage
  | [], decisions => decided size decisions
  | candidate :: rest, decisions =>
      if candidate.email ∈ existing then
        skip size existing suppressed candidate .skippedExistingUser rest
          { decisions with skippedExisting := decisions.skippedExisting + 1 }
      else if candidate.email ∈ suppressed then
        skip size existing suppressed candidate .skippedUnsubscribed rest
          { decisions with skippedUnsubscribed := decisions.skippedUnsubscribed + 1 }
      else
        loop size existing suppressed rest
          { decisions with toSend := decisions.toSend ++ [candidate.email] }

/-- Whether a row is there to be skipped. -/
def skips (candidate : ProspectInviteQueue) (world : World) : Bool :=
  world.prospectInviteQueue.any fun row => row.id = candidate.id

/-- What a drip does call by call. -/
def machine : Machine DripStage Input ApiError World where
  effect
    | settings, _, world =>
        { world with
          prospectInviteCampaignSettings :=
            some (world.prospectInviteCampaignSettings.getD {}) }
    | skip _ _ _ candidate status _ _, _, world =>
        if skips candidate world then
          { world with
            prospectInviteQueue := Table.updateWhere (fun row => row.id = candidate.id)
              (fun row => { row with status }) world.prospectInviteQueue }
        else world
    | enqueue _ _ chunk _, input, world =>
        if input.queueAvailable then { world with outbox := chunk.reverse ++ world.outbox }
        else world
    | mark _ decisions, input, world =>
        { world with
          prospectInviteQueue := Table.updateWhere (fun row => row.email ∈ decisions.toSend)
            (fun row => { row with status := .sent, sentAt := some input.now })
            world.prospectInviteQueue }
    | record _ _, _, world =>
        { world with auditLogs := ⟨none, .adminProspectCampaignDailyDrip⟩ :: world.auditLogs }
    | _, _, world => world
  next
    | settings, _, world =>
        let settings := world.prospectInviteCampaignSettings.getD {}
        if settings.paused then finished (.ok {}) else find settings.dailyCap
    | find dailyCap, input, world =>
        let batch := (pendingRows input.tiedOrder world).take dailyCap
        if batch.length = 0 then finished (.ok {}) else users batch
    | users batch, _, world =>
        suppressions batch ((world.users.map (·.email)).filter (· ∈ batch.map (·.email)))
    | suppressions batch existing, _, world =>
        loop batch.length existing
          ((world.emailSuppressions.map (·.email)).filter (· ∈ batch.map (·.email))) batch {}
    | skip size existing suppressed candidate _ rest decisions, _, world =>
        if skips candidate world then loop size existing suppressed rest decisions
        else finished (.error .recordNotFound)
    | enqueue size decisions _ rest, _, _ => offer size decisions rest
    | mark size decisions, _, _ => record size decisions
    | record size decisions, _, _ => finished (.ok (result size decisions))
    | finished outcome, _, _ => finished outcome
  abort
    | enqueue size decisions _ rest, _ => offer size decisions rest
    | finished outcome, _ => finished outcome
    | _, error => finished (.error error)

/-! ## The stages move as the code does -/

variable {size : Nat} {existing suppressed : List String} {decisions : Decisions}

theorem code_offer (chunks : List (List EmailJob)) :
    code (offer size decisions chunks) = send size decisions chunks := by
  cases chunks <;> rfl

/-- The code left after the loop. -/
theorem code_decided : code (decided size decisions) = carryOut size decisions := by
  unfold decided carryOut
  by_cases some : 0 < decisions.toSend.length
  · rw [if_pos some, if_pos some, code_offer]
    rfl
  · rw [if_neg some, if_neg some]
    rfl

/-- The code left at the head of the loop. -/
theorem code_loop (rest : List ProspectInviteQueue) :
    code (loop size existing suppressed rest decisions) =
      remaining size existing suppressed rest decisions := by
  induction rest generalizing decisions with
  | nil => exact code_decided
  | cons candidate rest inductionHypothesis =>
      rw [loop, remaining, decideCandidates]
      by_cases account : candidate.email ∈ existing
      · rw [if_pos account, if_pos account, bind_assoc]
        rfl
      · rw [if_neg account, if_neg account]
        by_cases suppression : candidate.email ∈ suppressed
        · rw [if_pos suppression, if_pos suppression, bind_assoc]
          rfl
        · rw [if_neg suppression, if_neg suppression, inductionHypothesis]
          rfl

theorem implements : machine.Implements code where
  effect stage input world := by
    cases stage with
    | skip size existing suppressed candidate status rest decisions =>
        rw [code, updateStatus, effect_attempt_bind]
        dsimp only [machine]
        unfold skips
        by_cases stored :
            (world.prospectInviteQueue.any fun row => row.id = candidate.id) = true
        · rw [if_pos stored, if_pos stored]
        · rw [if_neg stored, if_neg stored]
    | finished outcome => cases outcome <;> rfl
    | _ => rfl
  next stage input world := by
    cases stage with
    | settings =>
        show (if (world.prospectInviteCampaignSettings.getD {}).paused = true then _ else _) =
          code (if (world.prospectInviteCampaignSettings.getD {}).paused = true then _ else _)
        by_cases paused : (world.prospectInviteCampaignSettings.getD {}).paused = true
        · rw [if_pos paused, if_pos paused]
          rfl
        · rw [if_neg paused, if_neg paused]
          rfl
    | find dailyCap =>
        show (if ((pendingRows input.tiedOrder world).take dailyCap).length = 0 then _ else _) =
          code (if ((pendingRows input.tiedOrder world).take dailyCap).length = 0 then _ else _)
        by_cases empty : ((pendingRows input.tiedOrder world).take dailyCap).length = 0
        · rw [if_pos empty, if_pos empty]
          rfl
        · rw [if_neg empty, if_neg empty]
          rfl
    | users batch => rfl
    | suppressions batch existing => exact (code_loop batch).symm
    | skip size existing suppressed candidate status rest decisions =>
        rw [code, updateStatus, residual_attempt_bind]
        dsimp only [machine]
        unfold skips
        by_cases stored :
            (world.prospectInviteQueue.any fun row => row.id = candidate.id) = true
        · rw [if_pos stored, if_pos stored, code_loop]
        · rw [if_neg stored, if_neg stored]
          rfl
    | enqueue size decisions chunk rest => exact (code_offer rest).symm
    | mark size decisions => rfl
    | record size decisions => rfl
    | finished outcome => cases outcome <;> rfl
  abort stage error := by
    cases stage with
    | enqueue size decisions chunk rest => exact (code_offer rest).symm
    | finished outcome => cases outcome <;> rfl
    | _ => rfl

/-! ## What a call does to the rows -/

/-- What a call makes of a row of the queue. -/
def rewrites : DripStage → Input → ProspectInviteQueue → ProspectInviteQueue
  | skip _ _ _ candidate status _ _, _, row =>
      if row.id = candidate.id then { row with status } else row
  | mark _ decisions, input, row =>
      if row.email ∈ decisions.toSend then
        { row with status := .sent, sentAt := some input.now }
      else row
  | _, _, row => row

theorem rows_effect (stage : DripStage) (input : Input) (world : World) :
    (machine.effect stage input world).prospectInviteQueue =
      world.prospectInviteQueue.map (stage.rewrites input) := by
  cases stage with
  | skip size existing suppressed candidate status rest decisions =>
      show (ite (skips candidate world = true) _ world : World).prospectInviteQueue = _
      split
      · refine List.map_congr_left fun row _ => ?_
        simp only [rewrites, decide_eq_true_eq]
      · rename_i absent
        have same : world.prospectInviteQueue.map
            ((skip size existing suppressed candidate status rest decisions).rewrites input) =
              world.prospectInviteQueue.map id := by
          refine List.map_congr_left fun row present => if_neg fun equal => absent ?_
          exact List.any_eq_true.mpr ⟨row, present, decide_eq_true equal⟩
        rw [same, List.map_id]
  | mark size decisions =>
      refine List.map_congr_left fun row _ => ?_
      simp only [rewrites, decide_eq_true_eq]
  | enqueue size decisions chunk rest =>
      show (ite (input.queueAvailable = true) _ world : World).prospectInviteQueue = _
      split <;> exact (List.map_id _).symm
  | _ => exact (List.map_id _).symm

/-- A call keeps the address of every row. -/
theorem email_rewrites (stage : DripStage) (input : Input) (row : ProspectInviteQueue) :
    (stage.rewrites input row).email = row.email := by
  cases stage <;> simp only [rewrites] <;> split <;> rfl

/-! ## What a drip finds -/

/-- A batch is of pending rows of the queue. -/
theorem mem_batch
    {tiedOrder : List Nat}
    {world : World}
    {dailyCap : Nat}
    {row : ProspectInviteQueue}
    (present : row ∈ (pendingRows tiedOrder world).take dailyCap) :
    row ∈ world.prospectInviteQueue ∧ row.status = .pending := by
  have pending := List.mem_of_mem_take present
  rw [pendingRows, List.mem_insertionSort, List.mem_filter] at pending
  exact ⟨pending.1, of_decide_eq_true pending.2⟩

/-- The addresses of a batch are distinct, as those of the queue are. -/
theorem nodup_batch
    {world : World}
    (emails : (world.prospectInviteQueue.map (·.email)).Nodup)
    (tiedOrder : List Nat)
    (dailyCap : Nat) :
    (((pendingRows tiedOrder world).take dailyCap).map (·.email)).Nodup := by
  have pending : ((pendingRows tiedOrder world).map (·.email)).Nodup :=
    ((List.perm_insertionSort _ _).map _).nodup_iff.mpr
      (emails.sublist (List.filter_sublist.map _))
  exact pending.sublist ((List.take_sublist _ _).map _)

end DripStage
end ConferenceContact
