import ConferenceContact.Outreach.OutreachRequests

/-!
# What a drip decides

A drip takes the oldest pending rows, looks all their addresses up, and decides each row
from that: it is skipped, or its address is invited and it is marked as sent.
-/

namespace ConferenceContact

open Process ProspectCampaignService

/-! ## Addresses that may be invited -/

/-- Neither an account nor a suppression has the address, in whatever spelling. -/
structure Deployment.IsOutsider (app : Deployment) (world : World) (email : String) : Prop where
  account : ∀ user ∈ world.users, app.normalize user.email ≠ app.normalize email
  suppression : ∀ suppression ∈ world.emailSuppressions,
    app.normalize suppression.email ≠ app.normalize email

/-- Cold invites are enqueued to outsiders only. -/
def Deployment.Offers (app : Deployment) (before after : World) : Prop :=
  ∀ email, before.coldInvites email < after.coldInvites email → app.IsOutsider before email

instance (app : Deployment) : Std.Refl app.Offers where
  refl _ _ more := absurd more (Nat.lt_irrefl _)

section

variable {app : Deployment} {before after : World}

theorem offers_of_outbox (same : after.outbox = before.outbox) : app.Offers before after := by
  intro email more
  unfold World.coldInvites at more
  rw [same] at more
  exact absurd more (Nat.lt_irrefl _)

theorem offers_of_stores (stores : app.Stores before after) : app.Offers before after :=
  fun email more => absurd (stores.invites email) (Nat.ne_of_gt more)

/-- An address in normal form that no stored address equals is an outsider's. -/
theorem isOutsider_of_not_mem
    (normal : before.Normal app)
    {email : String}
    (isNormal : app.IsNormal email)
    (account : email ∉ before.users.map (·.email))
    (suppression : email ∉ before.emailSuppressions.map (·.email)) :
    app.IsOutsider before email where
  account user present same := by
    refine account (List.mem_map.mpr ⟨user, present, ?_⟩)
    calc user.email = app.normalize user.email := (normal.users user present).symm
      _ = app.normalize email := same
      _ = email := isNormal
  suppression row present same := by
    refine suppression (List.mem_map.mpr ⟨row, present, ?_⟩)
    calc row.email = app.normalize row.email := (normal.suppressions row present).symm
      _ = app.normalize email := same
      _ = email := isNormal

end

/-! ## Verdicts -/

namespace ProspectCampaignService

/-- What becomes of a row whose address may have an account or be suppressed. -/
def verdict (existing suppressed : List String) (email : String) : ProspectInviteQueueStatus :=
  if email ∈ existing then .skippedExistingUser
  else if email ∈ suppressed then .skippedUnsubscribed
  else .sent

/-- What the loop over the candidates makes of the decisions. -/
def decisionsAfter
    (existing suppressed : List String)
    (candidates : List ProspectInviteQueue)
    (decisions : Decisions) : Decisions where
  toSend := decisions.toSend ++
    (candidates.map (·.email)).filter fun email => verdict existing suppressed email = .sent
  skippedExisting := decisions.skippedExisting +
    (candidates.map (·.email)).countP fun email =>
      verdict existing suppressed email = .skippedExistingUser
  skippedUnsubscribed := decisions.skippedUnsubscribed +
    (candidates.map (·.email)).countP fun email =>
      verdict existing suppressed email = .skippedUnsubscribed

/-- What it makes of the rows. -/
def skipRows
    (existing suppressed : List String)
    (ids : List Nat)
    (rows : List ProspectInviteQueue) : List ProspectInviteQueue :=
  Table.updateWhere
    (fun row => row.id ∈ ids ∧ verdict existing suppressed row.email ≠ .sent)
    (fun row => { row with status := verdict existing suppressed row.email })
    rows

end ProspectCampaignService

section

variable {app : Deployment} {faulty : Bool} {world : World}

/-- A row that is there is updated. -/
theorem performs_updateStatus
    {id : Nat}
    (stored : ∃ row ∈ world.prospectInviteQueue, row.id = id)
    (status : ProspectInviteQueueStatus) :
    (updateStatus id status).Performs app.Offers faulty world
      (Returns fun _ after => after =
        { world with
          prospectInviteQueue := Table.updateWhere (fun row => row.id = id)
            (fun row => { row with status }) world.prospectInviteQueue }) := by
  obtain ⟨row, present, same⟩ := stored
  have found : (world.prospectInviteQueue.any fun row => row.id = id) = true :=
    List.any_eq_true.mpr ⟨row, present, decide_eq_true same⟩
  refine Performs.attempt (fun input value after updated => ?_) (fun input error failed => ?_)
    fun _ => rfl
  · rw [if_pos found] at updated
    cases updated
    exact ⟨offers_of_outbox rfl, rfl⟩
  · rw [if_pos found] at failed
    cases failed

variable {existing suppressed : List String}

/-- Skipping a row, and then others. -/
theorem skipRows_cons
    {candidate : ProspectInviteQueue}
    {ids : List Nat}
    {rows : List ProspectInviteQueue}
    (skipped : verdict existing suppressed candidate.email ≠ .sent)
    (matching : ∀ row ∈ rows, row.id = candidate.id → row.email = candidate.email) :
    skipRows existing suppressed ids
        (Table.updateWhere (fun row => row.id = candidate.id)
          (fun row => { row with status := verdict existing suppressed candidate.email }) rows) =
      skipRows existing suppressed (candidate.id :: ids) rows := by
  unfold skipRows Table.updateWhere
  rw [List.map_map]
  refine List.map_congr_left fun row present => ?_
  dsimp only [Function.comp_apply]
  by_cases same : row.id = candidate.id
  · have email := matching row present same
    by_cases again : candidate.id ∈ ids <;> simp [same, email, skipped, again]
  · simp [same]

theorem skipRows_cons_sent
    {candidate : ProspectInviteQueue}
    {ids : List Nat}
    {rows : List ProspectInviteQueue}
    (sent : verdict existing suppressed candidate.email = .sent)
    (matching : ∀ row ∈ rows, row.id = candidate.id → row.email = candidate.email) :
    skipRows existing suppressed (candidate.id :: ids) rows =
      skipRows existing suppressed ids rows := by
  unfold skipRows Table.updateWhere
  refine List.map_congr_left fun row present => ?_
  by_cases same : row.id = candidate.id
  · have email := matching row present same
    simp [same, email, sent]
  · simp [same]

/-- The loop decides every candidate. -/
theorem performs_decideCandidates
    {candidates : List ProspectInviteQueue}
    (stored : ∀ candidate ∈ candidates, ∃ row ∈ world.prospectInviteQueue, row.id = candidate.id)
    (matching : ∀ candidate ∈ candidates, ∀ row ∈ world.prospectInviteQueue,
      row.id = candidate.id → row.email = candidate.email)
    (decisions : Decisions) :
    (decideCandidates existing suppressed candidates decisions).Performs app.Offers faulty world
      (Returns fun decided after =>
        decided = decisionsAfter existing suppressed candidates decisions ∧
          after =
            { world with
              prospectInviteQueue := skipRows existing suppressed (candidates.map (·.id))
                world.prospectInviteQueue }) := by
  induction candidates generalizing decisions world faulty with
  | nil =>
      refine Performs.pure ⟨?_, ?_⟩
      · simp [decisionsAfter]
      · simp [skipRows, Table.updateWhere]
  | cons candidate rest inductionHypothesis =>
      obtain ⟨here, elsewhere⟩ := List.forall_mem_cons.mp stored
      obtain ⟨own, others⟩ := List.forall_mem_cons.mp matching
      have skip (status : ProspectInviteQueueStatus) (more : Decisions)
          (same : verdict existing suppressed candidate.email = status)
          (skipped : status ≠ .sent)
          (counts : decisionsAfter existing suppressed rest more =
            decisionsAfter existing suppressed (candidate :: rest) decisions) :
          (updateStatus candidate.id status >>= fun _ =>
            decideCandidates existing suppressed rest more).Performs app.Offers faulty world
            (Returns fun decided after =>
              decided = decisionsAfter existing suppressed (candidate :: rest) decisions ∧
                after =
                  { world with
                    prospectInviteQueue :=
                      skipRows existing suppressed ((candidate :: rest).map (·.id))
                        world.prospectInviteQueue }) := by
        refine Performs.bind_returns (performs_updateStatus here status) ?_
        rintro faulty _ _ rfl
        refine (inductionHypothesis ?_ ?_ more).weaken ?_
        · intro other present
          obtain ⟨row, listed, sameId⟩ := elsewhere other present
          refine ⟨_, List.mem_map.mpr ⟨row, listed, rfl⟩, ?_⟩
          split <;> exact sameId
        · intro other present row listed sameId
          obtain ⟨row, earlier, rfl⟩ := List.mem_map.mp listed
          by_cases rewritten : decide (row.id = candidate.id) = true
          · rw [if_pos rewritten] at sameId ⊢
            exact others other present row earlier sameId
          · rw [if_neg rewritten] at sameId ⊢
            exact others other present row earlier sameId
        · rintro faulty (error | decided) after holds
          · exact holds
          · obtain ⟨decided, after⟩ := holds
            refine ⟨decided.trans counts, after.trans ?_⟩
            rw [List.map_cons, ← skipRows_cons (same ▸ skipped) own, same]
      rw [decideCandidates]
      by_cases account : candidate.email ∈ existing
      · rw [if_pos account]
        have same : verdict existing suppressed candidate.email = .skippedExistingUser :=
          if_pos account
        refine skip _ _ same nofun ?_
        simp [decisionsAfter, same, Nat.add_assoc, Nat.add_comm 1]
      · rw [if_neg account]
        by_cases suppression : candidate.email ∈ suppressed
        · rw [if_pos suppression]
          have same : verdict existing suppressed candidate.email = .skippedUnsubscribed := by
            rw [verdict, if_neg account, if_pos suppression]
          refine skip _ _ same nofun ?_
          simp [decisionsAfter, same, Nat.add_assoc, Nat.add_comm 1]
        · rw [if_neg suppression]
          have same : verdict existing suppressed candidate.email = .sent := by
            rw [verdict, if_neg account, if_neg suppression]
          refine (inductionHypothesis elsewhere others _).weaken ?_
          rintro faulty (error | decided) after holds
          · exact holds
          · obtain ⟨decided, after⟩ := holds
            refine ⟨decided.trans ?_, after.trans ?_⟩
            · simp [decisionsAfter, same]
            · rw [List.map_cons, skipRows_cons_sent same own]

/-- The queue takes the jobs of a chunk or leaves them. -/
theorem performs_offerChunk
    {chunk : List EmailJob}
    (outsiders : ∀ email, .prospectColdInvite email ∈ chunk → app.IsOutsider world email) :
    (Process.command fun input world =>
        if input.queueAvailable then { world with outbox := chunk.reverse ++ world.outbox }
        else world : Service Unit).Performs app.Offers faulty world
      fun _ _ after => ∃ outbox, after = { world with outbox } := by
  refine Performs.command (fun input => ?_) (fun input => ?_) fun _ => ⟨world.outbox, rfl⟩
  · split
    · intro email more
      refine outsiders email ?_
      by_contra absent
      have none : chunk.reverse.count (.prospectColdInvite email) = 0 :=
        List.count_eq_zero.mpr (by rwa [List.mem_reverse])
      unfold World.coldInvites at more
      rw [List.count_append, none, Nat.zero_add] at more
      exact absurd more (Nat.lt_irrefl _)
    · exact refl_of app.Offers world
  · split
    · exact ⟨_, rfl⟩
    · exact ⟨world.outbox, rfl⟩

/-- The chunks of a batch are offered one by one; only outsiders may be among them. -/
theorem performs_enqueueChunks
    {chunks : List (List EmailJob)}
    (outsiders : ∀ chunk ∈ chunks, ∀ email, .prospectColdInvite email ∈ chunk →
      app.IsOutsider world email) :
    (EmailService.enqueueChunks chunks).Performs app.Offers faulty world
      (Returns fun _ after => ∃ outbox, after = { world with outbox }) := by
  induction chunks generalizing faulty world with
  | nil => exact Performs.pure ⟨world.outbox, rfl⟩
  | cons chunk rest inductionHypothesis =>
      obtain ⟨here, elsewhere⟩ := List.forall_mem_cons.mp outsiders
      have offered : (tryCatch
          (Process.command fun input world =>
            if input.queueAvailable then { world with outbox := chunk.reverse ++ world.outbox }
            else world)
          fun _ => pure () : Service Unit).Performs app.Offers faulty world
          (Returns fun _ after => ∃ outbox, after = { world with outbox }) :=
        Performs.tryCatch (performs_offerChunk here) (fun _ _ _ kept => kept)
          fun _ _ _ kept => Performs.pure kept
      refine Performs.bind_returns offered ?_
      rintro faulty _ _ ⟨outbox, rfl⟩
      have outsiders : ∀ chunk ∈ rest, ∀ email, .prospectColdInvite email ∈ chunk →
          app.IsOutsider { world with outbox } email := fun chunk listed email present =>
        ⟨(elsewhere chunk listed email present).account,
          (elsewhere chunk listed email present).suppression⟩
      refine (inductionHypothesis outsiders).weaken ?_
      rintro faulty (error | ⟨⟩) after holds
      · exact holds
      · obtain ⟨outbox, rfl⟩ := holds
        exact ⟨outbox, rfl⟩

/-- The chunks hold nothing but the jobs of the batch. -/
theorem mem_of_mem_slices
    {α : Type}
    {size : Nat}
    {items : List α}
    {chunk : List α}
    (listed : chunk ∈ slices size items)
    {item : α}
    (present : item ∈ chunk) :
    item ∈ items := by
  obtain ⟨position, -, rfl⟩ := List.mem_map.mp listed
  exact List.mem_of_mem_drop (List.mem_of_mem_take present)

/-- The first slices of a list hold its first items. -/
theorem flatten_firstSlices {α : Type} (size count : Nat) (items : List α) :
    ((List.range count).map fun i => (items.drop (i * size)).take size).flatten =
      items.take (count * size) := by
  induction count with
  | zero => simp
  | succ count inductionHypothesis =>
      rw [List.range_succ, List.map_append, List.flatten_append, inductionHypothesis,
        Nat.succ_mul, List.take_add]
      simp

/-- The slices of a list make it up. -/
theorem flatten_slices {α : Type} {size : Nat} (positive : 0 < size) (items : List α) :
    (slices size items).flatten = items := by
  have enough := Nat.lt_mul_div_succ (items.length + size - 1) positive
  rw [Nat.mul_succ, Nat.mul_comm] at enough
  rw [slices, flatten_firstSlices]
  exact List.take_of_length_le (by omega)

theorem performs_sendProspectInviteBulk
    {emails : List String}
    (outsiders : ∀ email ∈ emails, app.IsOutsider world email) :
    (EmailService.sendProspectInviteBulk emails).Performs app.Offers faulty world
      (Returns fun _ after => ∃ outbox, after = { world with outbox }) := by
  refine performs_enqueueChunks fun chunk listed email present => outsiders email ?_
  obtain ⟨other, member, same⟩ := List.mem_map.mp (mem_of_mem_slices listed present)
  cases same
  exact member

end

/-! ## Batches -/

/-- What becomes of a row whose address has an account or is suppressed in the world. -/
def World.verdict (world : World) (email : String) : ProspectInviteQueueStatus :=
  ProspectCampaignService.verdict (world.users.map (·.email))
    (world.emailSuppressions.map (·.email)) email

/-- A row without the time at which it was sent. -/
def ProspectInviteQueue.standing (row : ProspectInviteQueue) :
    Nat × String × ProspectInviteQueueStatus :=
  (row.id, row.email, row.status)

/-- What a drip has done: it has decided a batch of the pending rows, and no others. -/
structure Decided
    (before after : World)
    (result : DripResult)
    (batch rest : List ProspectInviteQueue) : Prop where
  pending : (batch ++ rest).Perm
    (before.prospectInviteQueue.filter fun row => row.status = .pending)
  oldest : ∀ older ∈ batch, ∀ younger ∈ rest, older.createdAt ≤ younger.createdAt
  size : batch.length =
    min (before.prospectInviteCampaignSettings.getD {}).dailyCap
      (before.prospectInviteQueue.countP fun row => row.status = .pending)
  rows : after.prospectInviteQueue.map ProspectInviteQueue.standing =
    before.prospectInviteQueue.map fun row =>
      (row.id, row.email, if row ∈ batch then before.verdict row.email else row.status)
  sent : result.sent = batch.countP fun row => before.verdict row.email = .sent
  skippedExisting : result.skippedExisting =
    batch.countP fun row => before.verdict row.email = .skippedExistingUser
  skippedUnsubscribed : result.skippedUnsubscribed =
    batch.countP fun row => before.verdict row.email = .skippedUnsubscribed
  batchSize : result.batchSize = batch.length

/-- A verdict is one of three. -/
theorem verdict_cases (existing suppressed : List String) (email : String) :
    verdict existing suppressed email = .sent ∨
      verdict existing suppressed email = .skippedExistingUser ∨
      verdict existing suppressed email = .skippedUnsubscribed := by
  unfold verdict
  split
  · exact .inr (.inl rfl)
  · split
    · exact .inr (.inr rfl)
    · exact .inl rfl

/-- The counts of a drip add up to the size of its batch. -/
theorem Decided.adds_up
    {before after : World}
    {result : DripResult}
    {batch rest : List ProspectInviteQueue}
    (decided : Decided before after result batch rest) :
    result.sent + result.skippedExisting + result.skippedUnsubscribed = result.batchSize := by
  rw [decided.sent, decided.skippedExisting, decided.skippedUnsubscribed, decided.batchSize]
  clear decided
  induction batch with
  | nil => rfl
  | cons row batch inductionHypothesis =>
      simp only [List.countP_cons, List.length_cons]
      have cases := verdict_cases (before.users.map (·.email))
        (before.emailSuppressions.map (·.email)) row.email
      have same : before.verdict row.email = verdict (before.users.map (·.email))
        (before.emailSuppressions.map (·.email)) row.email := rfl
      rw [← same] at cases
      rcases cases with verdict | verdict | verdict
      · simp only [verdict, decide_true, reduceCtorEq, decide_false, if_true, if_false]
        omega
      · simp only [verdict, decide_true, reduceCtorEq, decide_false, if_true, if_false]
        omega
      · simp only [verdict, decide_true, reduceCtorEq, decide_false, if_true, if_false]
        omega

section

variable {app : Deployment} {faulty : Bool} {world : World}
  {candidates : List ProspectInviteQueue}

/-- Looking up the addresses of the batch is as good as looking all of them up. -/
theorem verdict_of_batch
    {emails : List String}
    {email : String}
    (listed : email ∈ emails) :
    verdict ((world.users.map (·.email)).filter (· ∈ emails))
        ((world.emailSuppressions.map (·.email)).filter (· ∈ emails)) email =
      world.verdict email := by
  simp only [World.verdict, verdict, List.mem_filter, decide_eq_true_eq, listed, and_true]

/-- The rows after a batch was decided. -/
theorem standing_of_batch
    (normal : world.Normal app)
    (listed : candidates ⊆ world.prospectInviteQueue)
    {existing suppressed : List String}
    (same : ∀ row ∈ candidates, verdict existing suppressed row.email = world.verdict row.email)
    (rewrite : ProspectInviteQueue → ProspectInviteQueue)
    (sent : ∀ row, (rewrite row).standing = (row.id, row.email, .sent)) :
    (Table.updateWhere
        (fun row => row.email ∈
          (candidates.map (·.email)).filter fun email => verdict existing suppressed email = .sent)
        rewrite
        (skipRows existing suppressed (candidates.map (·.id)) world.prospectInviteQueue)).map
        ProspectInviteQueue.standing =
      world.prospectInviteQueue.map fun row =>
        (row.id, row.email, if row ∈ candidates then world.verdict row.email else row.status) := by
  unfold skipRows Table.updateWhere
  rw [List.map_map, List.map_map]
  refine List.map_congr_left fun row present => ?_
  by_cases chosen : row ∈ candidates
  · have own := same row chosen
    have id : row.id ∈ candidates.map (·.id) := List.mem_map.mpr ⟨row, chosen, rfl⟩
    have email : row.email ∈ candidates.map (·.email) := List.mem_map.mpr ⟨row, chosen, rfl⟩
    by_cases invited : world.verdict row.email = .sent
    · simp only [Function.comp_apply, own, id, email, invited, chosen, ne_eq, not_true,
        and_false, decide_false, Bool.false_eq_true, if_false, if_true, List.mem_filter,
        decide_true, and_true, sent]
    · simp only [Function.comp_apply, own, id, email, invited, chosen, ne_eq, not_false_eq_true,
        and_true, decide_true, if_true, List.mem_filter, decide_false, Bool.false_eq_true,
        and_false, if_false]
      rfl
  · have id : row.id ∉ candidates.map (·.id) := by
      intro member
      obtain ⟨candidate, found, equal⟩ := List.mem_map.mp member
      exact chosen (Table.eq_of_key_eq normal.ids (listed found) present equal ▸ found)
    have email : row.email ∉ candidates.map (·.email) := by
      intro member
      obtain ⟨candidate, found, equal⟩ := List.mem_map.mp member
      exact chosen (Table.eq_of_key_eq normal.emails (listed found) present equal ▸ found)
    simp only [Function.comp_apply, id, email, chosen, false_and, decide_false,
      Bool.false_eq_true, if_false, List.mem_filter]
    rfl

theorem performs_record (actor : Option UserId) (action : AuditAction) :
    (AuditService.record actor action).Performs app.Offers faulty world
      (Returns fun _ after => after.prospectInviteQueue = world.prospectInviteQueue) :=
  Performs.command (fun _ => offers_of_outbox rfl) (fun _ => rfl) fun _ => rfl

/-- A batch of rows that are there is decided. -/
theorem performs_processBatch
    (normal : world.Normal app)
    (listed : candidates ⊆ world.prospectInviteQueue) :
    (processBatch candidates).Performs app.Offers faulty world
      (Returns fun result after =>
        after.prospectInviteQueue.map ProspectInviteQueue.standing =
            world.prospectInviteQueue.map (fun row =>
              (row.id, row.email,
                if row ∈ candidates then world.verdict row.email else row.status)) ∧
          result.sent = candidates.countP (fun row => world.verdict row.email = .sent) ∧
          result.skippedExisting =
            candidates.countP (fun row => world.verdict row.email = .skippedExistingUser) ∧
          result.skippedUnsubscribed =
            candidates.countP (fun row => world.verdict row.email = .skippedUnsubscribed) ∧
          result.batchSize = candidates.length) := by
  refine Performs.query_bind_returns fun input => Performs.query_bind_returns fun input => ?_
  have same (row : ProspectInviteQueue) (chosen : row ∈ candidates) :
      verdict ((world.users.map (·.email)).filter (· ∈ candidates.map (·.email)))
          ((world.emailSuppressions.map (·.email)).filter (· ∈ candidates.map (·.email)))
          row.email =
        world.verdict row.email :=
    verdict_of_batch (List.mem_map.mpr ⟨row, chosen, rfl⟩)
  generalize (world.users.map (·.email)).filter (· ∈ candidates.map (·.email)) = existing at same ⊢
  generalize (world.emailSuppressions.map (·.email)).filter
    (· ∈ candidates.map (·.email)) = suppressed at same ⊢
  have stored : ∀ candidate ∈ candidates, ∃ row ∈ world.prospectInviteQueue,
      row.id = candidate.id := fun candidate chosen => ⟨candidate, listed chosen, rfl⟩
  have matching : ∀ candidate ∈ candidates, ∀ row ∈ world.prospectInviteQueue,
      row.id = candidate.id → row.email = candidate.email := fun candidate chosen row present id =>
    congrArg (·.email) (Table.eq_of_key_eq normal.ids present (listed chosen) id)
  refine Performs.bind_returns (performs_decideCandidates stored matching {}) ?_
  rintro faulty _ _ ⟨rfl, rfl⟩
  have counted (status : ProspectInviteQueueStatus) :
      (candidates.map (·.email)).countP
          (fun email => verdict existing suppressed email = status) =
        candidates.countP fun row => world.verdict row.email = status := by
    rw [List.countP_map]
    refine List.countP_congr fun row chosen => ?_
    rw [Function.comp_apply, same row chosen]
  have finish (faulty : Bool) (after : World)
      (rows : after.prospectInviteQueue.map ProspectInviteQueue.standing =
        world.prospectInviteQueue.map fun row =>
          (row.id, row.email,
            if row ∈ candidates then world.verdict row.email else row.status)) :
      (do
        AuditService.record none .adminProspectCampaignDailyDrip
        return {
          sent := (decisionsAfter existing suppressed candidates {}).toSend.length
          skippedExisting := (decisionsAfter existing suppressed candidates {}).skippedExisting
          skippedUnsubscribed :=
            (decisionsAfter existing suppressed candidates {}).skippedUnsubscribed
          batchSize := candidates.length } : Service DripResult).Performs app.Offers faulty after
        (Returns fun result after =>
          after.prospectInviteQueue.map ProspectInviteQueue.standing =
              world.prospectInviteQueue.map (fun row =>
                (row.id, row.email,
                  if row ∈ candidates then world.verdict row.email else row.status)) ∧
            result.sent = candidates.countP (fun row => world.verdict row.email = .sent) ∧
            result.skippedExisting =
              candidates.countP (fun row => world.verdict row.email = .skippedExistingUser) ∧
            result.skippedUnsubscribed =
              candidates.countP (fun row => world.verdict row.email = .skippedUnsubscribed) ∧
            result.batchSize = candidates.length) := by
    refine Performs.bind_returns (performs_record _ _) fun faulty _ last kept => ?_
    refine Performs.pure ⟨kept ▸ rows, ?_, ?_, ?_, rfl⟩
    · exact (List.countP_eq_length_filter).symm.trans (counted .sent)
    · exact (Nat.zero_add _).trans (counted .skippedExistingUser)
    · exact (Nat.zero_add _).trans (counted .skippedUnsubscribed)
  split
  · have outsiders : ∀ email ∈ (decisionsAfter existing suppressed candidates {}).toSend,
        app.IsOutsider
          { world with
            prospectInviteQueue := skipRows existing suppressed (candidates.map (·.id))
              world.prospectInviteQueue } email := by
      intro email present
      obtain ⟨member, sent⟩ := List.mem_filter.mp present
      obtain ⟨row, chosen, rfl⟩ := List.mem_map.mp member
      rw [decide_eq_true_eq, same row chosen, World.verdict, verdict] at sent
      split at sent
      · cases sent
      · split at sent
        · cases sent
        · have outsider := isOutsider_of_not_mem normal (normal.queue row (listed chosen)) ‹_› ‹_›
          exact ⟨outsider.account, outsider.suppression⟩
    refine Performs.bind_returns (performs_sendProspectInviteBulk outsiders) ?_
    rintro faulty _ _ ⟨outbox, rfl⟩
    have marked (input : Input) := standing_of_batch normal listed same
      (fun row => { row with status := .sent, sentAt := some input.now }) fun _ => rfl
    exact ⟨fun input => ⟨offers_of_outbox rfl, finish _ _ (marked input)⟩, fun _ => rfl⟩
  · rename_i nobody
    refine finish _ _ ?_
    have none : (candidates.map (·.email)).filter
        (fun email => verdict existing suppressed email = .sent) = [] :=
      List.eq_nil_of_length_eq_zero (Nat.eq_zero_of_not_pos nobody)
    have marked := standing_of_batch normal listed same
      (fun row => { row with status := .sent }) fun _ => rfl
    rw [none] at marked
    simpa [Table.updateWhere] using marked

instance (tiedOrder : List Nat) : Std.Total (precedes tiedOrder) where
  total left right := by
    rcases Nat.lt_trichotomy left.createdAt right.createdAt with earlier | same | later
    · exact .inl (.inl earlier)
    · rcases Nat.le_total (tiedOrder.idxOf left.id) (tiedOrder.idxOf right.id) with first | last
      · exact .inl (.inr ⟨same, first⟩)
      · exact .inr (.inr ⟨same.symm, last⟩)
    · exact .inr (.inl later)

instance (tiedOrder : List Nat) : IsTrans ProspectInviteQueue (precedes tiedOrder) where
  trans first second third := by
    rintro (earlier | ⟨same, earlier⟩) (later | ⟨equal, later⟩)
    · exact .inl (Nat.lt_trans earlier later)
    · exact .inl (Nat.lt_of_lt_of_eq earlier equal)
    · exact .inl ((same ▸ later))
    · exact .inr ⟨same.trans equal, Nat.le_trans earlier later⟩

/-- The pending rows are ordered by their age. -/
theorem pairwise_pendingRows (tiedOrder : List Nat) (world : World) :
    (pendingRows tiedOrder world).Pairwise fun older younger =>
      older.createdAt ≤ younger.createdAt := by
  refine (List.pairwise_insertionSort (precedes tiedOrder) _).imp fun before => ?_
  rcases before with earlier | ⟨same, -⟩
  · exact Nat.le_of_lt earlier
  · exact Nat.le_of_eq same

/-- A drip that is not paused decides the oldest pending rows, as many as it may. -/
theorem performs_runDailyDrip
    (normal : world.Normal app) :
    ProspectCampaignService.runDailyDrip.Performs app.Offers faulty world
      (Returns fun result after =>
        (world.prospectInviteCampaignSettings.getD {}).paused = false →
          ∃ batch rest, Decided world after result batch rest) := by
  have settled : getOrCreateSettings.Performs app.Offers faulty world
      (Returns fun settings after =>
        settings = world.prospectInviteCampaignSettings.getD {} ∧
          after = { world with prospectInviteCampaignSettings := some settings }) := by
    refine Performs.attempt (fun input value after found => ?_) (fun input error failed => ?_)
      fun _ => rfl
    · cases found
      exact ⟨offers_of_outbox rfl, rfl, rfl⟩
    · cases failed
  refine Performs.bind_returns settled ?_
  rintro faulty _ _ ⟨rfl, rfl⟩
  by_cases paused : (world.prospectInviteCampaignSettings.getD {}).paused = true
  · rw [if_pos paused]
    refine Performs.pure fun running => ?_
    rw [running] at paused
    cases paused
  rw [if_neg paused]
  refine Performs.query_bind_returns fun input => ?_
  have pending : (pendingRows input.tiedOrder world).Perm
      (world.prospectInviteQueue.filter fun row => row.status = .pending) :=
    List.perm_insertionSort _ _
  have size : ((pendingRows input.tiedOrder world).take
        (world.prospectInviteCampaignSettings.getD {}).dailyCap).length =
      min (world.prospectInviteCampaignSettings.getD {}).dailyCap
        (world.prospectInviteQueue.countP fun row => row.status = .pending) := by
    rw [List.length_take, pending.length_eq, List.countP_eq_length_filter]
  have split := List.take_append_drop (world.prospectInviteCampaignSettings.getD {}).dailyCap
    (pendingRows input.tiedOrder world)
  have oldest := pairwise_pendingRows input.tiedOrder world
  rw [← split] at pending oldest
  have ages := (List.pairwise_append.mp oldest).2.2
  show ((if ((pendingRows input.tiedOrder world).take _).length = 0 then _
    else processBatch ((pendingRows input.tiedOrder world).take _)) : Service _).Performs _ _ _ _
  generalize (pendingRows input.tiedOrder world).take
    (world.prospectInviteCampaignSettings.getD {}).dailyCap = batch at *
  generalize (pendingRows input.tiedOrder world).drop
    (world.prospectInviteCampaignSettings.getD {}).dailyCap = rest at *
  split
  · rename_i nobody
    obtain rfl := List.eq_nil_of_length_eq_zero nobody
    refine Performs.pure fun _ => ⟨[], rest, ?_⟩
    exact
      { pending, oldest := ages, size
        rows := List.map_congr_left fun row _ => by simp [ProspectInviteQueue.standing]
        sent := rfl, skippedExisting := rfl, skippedUnsubscribed := rfl, batchSize := rfl }
  · have listed : batch ⊆ world.prospectInviteQueue := fun row chosen =>
      (List.mem_filter.mp (pending.subset (List.mem_append_left rest chosen))).1
    have same : World.Normal app
        { world with
          prospectInviteCampaignSettings :=
            some (world.prospectInviteCampaignSettings.getD {}) } :=
      normal.of_same rfl rfl rfl rfl (Nat.le_refl _)
    refine (performs_processBatch same listed).weaken ?_
    rintro faulty (error | result) after holds
    · exact holds
    · obtain ⟨rows, sent, skippedExisting, skippedUnsubscribed, batchSize⟩ := holds
      exact fun _ => ⟨batch, rest,
        { pending, oldest := ages, size, rows, sent, skippedExisting, skippedUnsubscribed
          batchSize }⟩

end
end ConferenceContact
