import ConferenceContact.Outreach.DailyDrip
import Mathlib.Data.Finset.Card

/-!
# Uploads into the outreach queue

An upload adds one pending row for every valid address that neither an account nor a
suppression nor the queue has.  Which rows these are does not depend on how the upload is
cut into chunks, nor on the order and the repetition of its addresses; only the counts of
all and of the invalid entries count repeated ones.
-/

namespace ConferenceContact

open Process

/-! ## Values without repetition -/

theorem nodup_eraseDups {α : Type} [BEq α] [LawfulBEq α] (values : List α) :
    values.eraseDups.Nodup := by
  induction h : values.length using Nat.strongRecOn generalizing values with
  | _ length inductionHypothesis =>
      cases values with
      | nil => exact List.nodup_nil
      | cons value rest =>
          rw [List.eraseDups_cons, List.nodup_cons, List.mem_eraseDups]
          subst h
          refine ⟨by simp, inductionHypothesis _ ?_ _ rfl⟩
          exact Nat.lt_succ_of_le (List.length_filter_le _ _)

theorem length_eraseDups {α : Type} [DecidableEq α] (values : List α) :
    values.eraseDups.length = values.toFinset.card := by
  rw [← List.toFinset_card_of_nodup (nodup_eraseDups values)]
  congr 1
  ext value
  simp

namespace ProspectCampaignService

variable (app : Deployment)

/-! ## What is uploaded -/

/-- The upload with chunks of another size. -/
def enqueueInChunks
    (size : Nat)
    (uploadedByUserId : UserId)
    (rawEmails : List String) : Service UploadResult := do
  let normalized := rawEmails.map fun raw => app.toLowerCase (jsTrim raw)
  let valid := (normalized.filter app.isEmail).eraseDups
  let invalid := (normalized.filter fun email => !app.isEmail email).length
  let known ← findKnown (slices size valid) {}
  let toQueue := valid.filter fun email =>
    email ∉ known.existingUsers ∧ email ∉ known.suppressed ∧ email ∉ known.alreadyQueued
  if 0 < toQueue.length then
    createMany uploadedByUserId toQueue
  AuditService.record (some uploadedByUserId) .adminProspectCampaignUploaded
  return {
    queued := toQueue.length
    alreadyQueued := known.alreadyQueued.eraseDups.length
    alreadyHasAccount := known.existingUsers.eraseDups.length
    unsubscribed := known.suppressed.eraseDups.length
    invalid
    total := rawEmails.length }

theorem enqueueUploadedEmails_eq (uploadedByUserId : UserId) (rawEmails : List String) :
    enqueueUploadedEmails app uploadedByUserId rawEmails =
      enqueueInChunks app 1000 uploadedByUserId rawEmails := rfl

/-- The normal form of an uploaded text is a valid address. -/
def Uploads (rawEmails : List String) (email : String) : Prop :=
  (∃ raw ∈ rawEmails, app.toLowerCase (jsTrim raw) = email) ∧ app.isEmail email = true

/-- The valid addresses of an upload. -/
def validEmails (rawEmails : List String) : List String :=
  ((rawEmails.map fun raw => app.toLowerCase (jsTrim raw)).filter app.isEmail).eraseDups

/-- The valid addresses of an upload that no table has. -/
def newEmails (world : World) (rawEmails : List String) : List String :=
  (validEmails app rawEmails).filter fun email =>
    email ∉ world.users.map (·.email) ∧ email ∉ world.emailSuppressions.map (·.email) ∧
      email ∉ world.prospectInviteQueue.map (·.email)

/-- How many valid addresses of an upload are in a column. -/
def knownCount (column rawEmails : List String) : Nat :=
  (column.filter (· ∈ validEmails app rawEmails)).toFinset.card

/-- A row as it is added. -/
def newRow (uploadedByUserId : UserId) (now : Time) (id : Nat) (email : String) :
    ProspectInviteQueue where
  id := id
  email := email
  uploadedByUserId := some uploadedByUserId
  createdAt := now

variable {app}

theorem mem_validEmails {rawEmails : List String} {email : String} :
    email ∈ validEmails app rawEmails ↔ Uploads app rawEmails email := by
  unfold validEmails Uploads
  rw [List.mem_eraseDups, List.mem_filter, List.mem_map]

theorem nodup_newEmails (world : World) (rawEmails : List String) :
    (newEmails app world rawEmails).Nodup :=
  (nodup_eraseDups _).filter _

/-! ## The calls of an upload -/

/-- The lookups of all chunks. -/
theorem run_findKnown
    (chunks : List (List String))
    (known : KnownAddresses)
    (input : Input)
    (world : World) :
    (findKnown chunks known).run input world =
      (.ok
        { existingUsers := known.existingUsers ++
            chunks.flatMap fun chunk => (world.users.map (·.email)).filter (· ∈ chunk)
          suppressed := known.suppressed ++
            chunks.flatMap fun chunk => (world.emailSuppressions.map (·.email)).filter (· ∈ chunk)
          alreadyQueued := known.alreadyQueued ++
            chunks.flatMap fun chunk =>
              (world.prospectInviteQueue.map (·.email)).filter (· ∈ chunk) },
        world) := by
  induction chunks generalizing known with
  | nil => simp [findKnown]
  | cons chunk rest inductionHypothesis =>
      simp only [findKnown, run_bind, run_query, inductionHypothesis, List.flatMap_cons,
        List.append_assoc]

/-- An address is looked up in the chunk it is in. -/
theorem mem_lookups
    {column : List String}
    {size : Nat}
    (positive : 0 < size)
    {emails : List String}
    {email : String} :
    (email ∈ (slices size emails).flatMap fun chunk => column.filter (· ∈ chunk)) ↔
      email ∈ column ∧ email ∈ emails := by
  conv_rhs => rw [← flatten_slices positive emails]
  simp only [List.mem_flatMap, List.mem_filter, decide_eq_true_eq, List.mem_flatten]
  constructor
  · rintro ⟨chunk, listed, stored, present⟩
    exact ⟨stored, chunk, listed, present⟩
  · rintro ⟨stored, chunk, listed, present⟩
    exact ⟨chunk, listed, stored, present⟩

/-- Rows are added for addresses that are not there, each only once. -/
theorem run_createMany
    {uploadedByUserId : UserId}
    {world : World}
    (uploader : ∃ user ∈ world.users, user.id = uploadedByUserId)
    {emails : List String}
    (nodup : emails.Nodup)
    (absent : ∀ email ∈ emails, email ∉ world.prospectInviteQueue.map (·.email))
    (input : Input) :
    (createMany uploadedByUserId emails).run input world =
      (.ok (),
        { world with
          prospectInviteQueue :=
            ((emails.zipIdx world.nextId).map fun entry =>
              newRow uploadedByUserId input.now entry.2 entry.1).reverse ++
              world.prospectInviteQueue
          nextId := world.nextId + emails.length }) := by
  obtain ⟨user, stored, same⟩ := uploader
  have known : (world.users.any fun user => user.id = uploadedByUserId) = true :=
    List.any_eq_true.mpr ⟨user, stored, decide_eq_true same⟩
  rw [createMany, run_attempt, if_pos known]
  dsimp only
  congr 1
  clear known stored same
  induction emails generalizing world with
  | nil => rfl
  | cons email rest inductionHypothesis =>
      rw [List.nodup_cons] at nodup
      have fresh : ¬ (world.prospectInviteQueue.any fun row => row.email = email) = true := by
        simpa using absent email List.mem_cons_self
      have others : ∀ other ∈ rest, other ∉ email :: world.prospectInviteQueue.map (·.email) := by
        intro other listed
        rw [List.mem_cons, not_or]
        refine ⟨?_, absent other (List.mem_cons_of_mem _ listed)⟩
        rintro rfl
        exact nodup.1 listed
      rw [List.foldl_cons, if_neg fresh, inductionHypothesis nodup.2]
      · have length : world.nextId + (email :: rest).length = world.nextId + 1 + rest.length := by
          rw [List.length_cons]
          omega
        rw [length]
        simp only [List.zipIdx_cons, List.map_cons, List.reverse_cons, List.append_assoc,
          List.singleton_append, newRow]
      · exact others

/-- What an upload does once it knows which addresses are new. -/
def queueNew
    (uploadedByUserId : UserId)
    (toQueue : List String)
    (result : UploadResult) : Service UploadResult := do
  if 0 < toQueue.length then
    createMany uploadedByUserId toQueue
  AuditService.record (some uploadedByUserId) .adminProspectCampaignUploaded
  return result

theorem run_queueNew
    {uploadedByUserId : UserId}
    {world : World}
    (uploader : ∃ user ∈ world.users, user.id = uploadedByUserId)
    {emails : List String}
    (nodup : emails.Nodup)
    (absent : ∀ email ∈ emails, email ∉ world.prospectInviteQueue.map (·.email))
    (result : UploadResult)
    (input : Input) :
    (queueNew uploadedByUserId emails result).run input world =
      (.ok result,
        { world with
          prospectInviteQueue :=
            ((emails.zipIdx world.nextId).map fun entry =>
              newRow uploadedByUserId input.now entry.2 entry.1).reverse ++
              world.prospectInviteQueue
          nextId := world.nextId + emails.length
          auditLogs := ⟨some uploadedByUserId, .adminProspectCampaignUploaded⟩ ::
            world.auditLogs }) := by
  unfold queueNew
  split
  · simp only [run_bind, run_createMany uploader nodup absent, AuditService.run_record, run_pure]
  · rename_i none
    have empty := List.eq_nil_of_length_eq_zero (Nat.eq_zero_of_not_pos none)
    simp [empty, run_bind]

/-- Without their uploader, new rows are refused. -/
theorem run_queueNew_of_unknown
    {uploadedByUserId : UserId}
    {world : World}
    (unknown : ¬∃ user ∈ world.users, user.id = uploadedByUserId)
    (emails : List String)
    (result : UploadResult)
    (input : Input) :
    (queueNew uploadedByUserId emails result).run input world =
      if 0 < emails.length then (.error .foreignKeyViolation, world)
      else (.ok result, { world with
        auditLogs := ⟨some uploadedByUserId, .adminProspectCampaignUploaded⟩ ::
          world.auditLogs }) := by
  have refused : ¬(world.users.any fun user => user.id = uploadedByUserId) = true := by
    simpa using unknown
  unfold queueNew
  split
  · rw [run_bind, createMany, run_attempt, if_neg refused]
  · rfl

/-- The rows that an upload adds, the last one first. -/
def newRows
    (app : Deployment)
    (uploadedByUserId : UserId)
    (now : Time)
    (world : World)
    (rawEmails : List String) : List ProspectInviteQueue :=
  (((newEmails app world rawEmails).zipIdx world.nextId).map fun entry =>
    newRow uploadedByUserId now entry.2 entry.1).reverse

/-- What an upload returns. -/
def uploadResult (app : Deployment) (world : World) (rawEmails : List String) : UploadResult where
  queued := (newEmails app world rawEmails).length
  alreadyQueued := knownCount app (world.prospectInviteQueue.map (·.email)) rawEmails
  alreadyHasAccount := knownCount app (world.users.map (·.email)) rawEmails
  unsubscribed := knownCount app (world.emailSuppressions.map (·.email)) rawEmails
  invalid := rawEmails.countP fun raw => !app.isEmail (app.toLowerCase (jsTrim raw))
  total := rawEmails.length

/-- The lookups of a column by chunks find as many addresses as are in it. -/
theorem length_lookups
    {size : Nat}
    (positive : 0 < size)
    (column rawEmails : List String) :
    ((slices size (validEmails app rawEmails)).flatMap fun chunk =>
        column.filter (· ∈ chunk)).eraseDups.length =
      knownCount app column rawEmails := by
  rw [length_eraseDups, knownCount]
  congr 1
  ext email
  rw [List.mem_toFinset, mem_lookups positive, List.mem_toFinset, List.mem_filter,
    decide_eq_true_eq]

/-- An upload looks its addresses up, in chunks of any size, and queues the new ones. -/
theorem run_enqueueInChunks_eq
    {size : Nat}
    (positive : 0 < size)
    (uploadedByUserId : UserId)
    (rawEmails : List String)
    (input : Input)
    (world : World) :
    (enqueueInChunks app size uploadedByUserId rawEmails).run input world =
      (queueNew uploadedByUserId (newEmails app world rawEmails)
        (uploadResult app world rawEmails)).run input world := by
  let lookups (column : List String) :=
    (slices size (validEmails app rawEmails)).flatMap fun chunk => column.filter (· ∈ chunk)
  have toQueue : ((validEmails app rawEmails).filter fun email =>
      email ∉ lookups (world.users.map (·.email)) ∧
        email ∉ lookups (world.emailSuppressions.map (·.email)) ∧
          email ∉ lookups (world.prospectInviteQueue.map (·.email))) =
      newEmails app world rawEmails := by
    refine List.filter_congr fun email valid => ?_
    simp only [lookups, mem_lookups positive, valid, and_true]
  have invalid : ((rawEmails.map fun raw => app.toLowerCase (jsTrim raw)).filter fun email =>
      !app.isEmail email).length =
        rawEmails.countP fun raw => !app.isEmail (app.toLowerCase (jsTrim raw)) := by
    rw [← List.countP_eq_length_filter, List.countP_map]
    rfl
  rw [← toQueue, uploadResult, ← toQueue, ← length_lookups positive, ← length_lookups positive,
    ← length_lookups positive, ← invalid]
  change (findKnown (slices size (validEmails app rawEmails)) {} >>= _).run input world = _
  rw [run_bind, run_findKnown]
  rfl

/-- A whole upload, in chunks of any size. -/
theorem run_enqueueInChunks
    {size : Nat}
    (positive : 0 < size)
    {uploadedByUserId : UserId}
    {world : World}
    (uploader : ∃ user ∈ world.users, user.id = uploadedByUserId)
    (rawEmails : List String)
    (input : Input) :
    (enqueueInChunks app size uploadedByUserId rawEmails).run input world =
      (.ok (uploadResult app world rawEmails),
        { world with
          prospectInviteQueue :=
            newRows app uploadedByUserId input.now world rawEmails ++ world.prospectInviteQueue
          nextId := world.nextId + (newEmails app world rawEmails).length
          auditLogs := ⟨some uploadedByUserId, .adminProspectCampaignUploaded⟩ ::
            world.auditLogs }) := by
  have absent : ∀ email ∈ newEmails app world rawEmails,
      email ∉ world.prospectInviteQueue.map (·.email) := fun email listed =>
    (of_decide_eq_true (List.mem_filter.mp listed).2).2.2
  rw [run_enqueueInChunks_eq positive, run_queueNew uploader (nodup_newEmails _ _) absent]
  rfl

/-! ## What an upload comes to -/

/-- The old rows stay as they are, and one pending row is added for every valid address
that no table has. -/
structure AddsNew
    (app : Deployment)
    (rawEmails : List String)
    (before : World)
    (result : UploadResult)
    (after : World) : Prop where
  added : ∃ created, after.prospectInviteQueue = created ++ before.prospectInviteQueue ∧
    created.length = result.queued ∧
    (∀ row ∈ created, row.status = .pending) ∧
    (created.map (·.email)).Nodup ∧
    ∀ email, email ∈ created.map (·.email) ↔
      Uploads app rawEmails email ∧ email ∉ before.users.map (·.email) ∧
        email ∉ before.emailSuppressions.map (·.email) ∧
          email ∉ before.prospectInviteQueue.map (·.email)

theorem mem_newEmails {world : World} {rawEmails : List String} {email : String} :
    email ∈ newEmails app world rawEmails ↔
      Uploads app rawEmails email ∧ email ∉ world.users.map (·.email) ∧
        email ∉ world.emailSuppressions.map (·.email) ∧
          email ∉ world.prospectInviteQueue.map (·.email) := by
  rw [newEmails, List.mem_filter, mem_validEmails, decide_eq_true_eq]

theorem emails_newRows
    (uploadedByUserId : UserId)
    (now : Time)
    (world : World)
    (rawEmails : List String) :
    (newRows app uploadedByUserId now world rawEmails).map (·.email) =
      (newEmails app world rawEmails).reverse := by
  rw [newRows, List.map_reverse, List.map_map]
  congr 1
  exact List.zipIdx_map_fst _ _

theorem addsNew_newRows
    (uploadedByUserId : UserId)
    (rawEmails : List String)
    (input : Input)
    (before : World)
    {after : World}
    (queue : after.prospectInviteQueue =
      newRows app uploadedByUserId input.now before rawEmails ++ before.prospectInviteQueue) :
    AddsNew app rawEmails before (uploadResult app before rawEmails) after where
  added := by
    refine ⟨_, queue, ?_, ?_, ?_, ?_⟩
    · simp [newRows, uploadResult]
    · intro row present
      obtain ⟨entry, -, rfl⟩ := List.mem_map.mp (List.mem_reverse.mp present)
      rfl
    · rw [emails_newRows, List.nodup_reverse]
      exact nodup_newEmails before rawEmails
    · intro email
      rw [emails_newRows, List.mem_reverse, mem_newEmails]

/-! ## Other uploads of the same addresses -/

/-- The counts of addresses, apart from those of entries. -/
def UploadResult.addresses (result : UploadResult) : Nat × Nat × Nat × Nat :=
  (result.queued, result.alreadyQueued, result.alreadyHasAccount, result.unsubscribed)

/-- A row but for its id, which is generated. -/
def content (row : ProspectInviteQueue) : ProspectInviteQueue := { row with id := 0 }

section

variable {others rawEmails : List String}

theorem newEmails_perm
    (same : ∀ raw, raw ∈ others ↔ raw ∈ rawEmails)
    (world : World) :
    (newEmails app world others).Perm (newEmails app world rawEmails) := by
  refine (List.perm_ext_iff_of_nodup (nodup_newEmails _ _) (nodup_newEmails _ _)).mpr ?_
  intro email
  simp only [mem_newEmails, Uploads, same]

theorem addresses_uploadResult
    (same : ∀ raw, raw ∈ others ↔ raw ∈ rawEmails)
    (world : World) :
    (uploadResult app world others).addresses = (uploadResult app world rawEmails).addresses := by
  have counts (column : List String) :
      knownCount app column others = knownCount app column rawEmails := by
    unfold knownCount
    congr 2
    refine List.filter_congr fun email _ => ?_
    simp only [mem_validEmails, Uploads, same]
  unfold UploadResult.addresses uploadResult
  simp only [counts, (newEmails_perm same world).length_eq]

theorem contents_perm
    (same : ∀ raw, raw ∈ others ↔ raw ∈ rawEmails)
    (uploadedByUserId : UserId)
    (now : Time)
    (world : World) :
    ((newRows app uploadedByUserId now world others).map content).Perm
      ((newRows app uploadedByUserId now world rawEmails).map content) := by
  have contents (rawEmails : List String) :
      (newRows app uploadedByUserId now world rawEmails).map content =
        ((newEmails app world rawEmails).map (newRow uploadedByUserId now 0)).reverse := by
    have entries := congrArg (List.map (newRow uploadedByUserId now 0))
      (List.zipIdx_map_fst world.nextId (newEmails app world rawEmails))
    rw [List.map_map] at entries
    rw [newRows, List.map_reverse, List.map_map, ← entries]
    rfl
  rw [contents, contents]
  exact ((List.reverse_perm _).trans ((newEmails_perm same world).map _)).trans
    (List.reverse_perm _).symm

/-- In another order, the entries are as many too. -/
theorem uploadResult_of_perm
    (perm : others.Perm rawEmails)
    (world : World) :
    uploadResult app world others = uploadResult app world rawEmails := by
  have addresses : (uploadResult app world others).addresses =
      (uploadResult app world rawEmails).addresses :=
    addresses_uploadResult (fun _ => perm.mem_iff) world
  simp only [UploadResult.addresses, Prod.mk.injEq] at addresses
  obtain ⟨queued, alreadyQueued, alreadyHasAccount, unsubscribed⟩ := addresses
  rw [UploadResult.mk.injEq]
  exact ⟨queued, alreadyQueued, alreadyHasAccount, unsubscribed, perm.countP_eq _,
    perm.length_eq⟩

end

/-- An upload adds one pending row for every valid address that no table has, and says how
many.  An upload of the same texts in chunks of another size, in another order or more
often adds the same rows and counts the same addresses; if only the order is another, it
returns the same. -/
theorem upload_adds_new
    (app : Deployment)
    {uploadedByUserId : UserId}
    {world : World}
    (uploader : ∃ user ∈ world.users, user.id = uploadedByUserId)
    (rawEmails : List String)
    (input : Input) :
    ∃ result after,
      (enqueueUploadedEmails app uploadedByUserId rawEmails).run input world =
        (.ok result, after) ∧
      AddsNew app rawEmails world result after ∧
      ∀ size, 0 < size → ∀ others, (∀ raw, raw ∈ others ↔ raw ∈ rawEmails) →
        ∃ otherResult otherAfter,
          (enqueueInChunks app size uploadedByUserId others).run input world =
            (.ok otherResult, otherAfter) ∧
          otherResult.addresses = result.addresses ∧
          (otherAfter.prospectInviteQueue.map content).Perm
            (after.prospectInviteQueue.map content) ∧
          (others.Perm rawEmails → otherResult = result) := by
  refine ⟨_, _, run_enqueueInChunks (by decide) uploader rawEmails input,
    addsNew_newRows uploadedByUserId rawEmails input world rfl, ?_⟩
  intro size positive others same
  refine ⟨_, _, run_enqueueInChunks positive uploader others input,
    addresses_uploadResult same world, ?_, fun perm => uploadResult_of_perm perm world⟩
  rw [List.map_append, List.map_append]
  exact (contents_perm same uploadedByUserId input.now world).append_right _

/-- An administrator, and an account, a queued address and one that has unsubscribed. -/
def uploadersWorld : World :=
  { users :=
      [{ id := 5, email := "admin@example.com", passwordHash := "secret" },
        { id := 6, email := "bob@example.com", passwordHash := "secret" }]
    prospectInviteQueue := [{ id := 0, email := "cyd@example.com", createdAt := 0 }]
    emailSuppressions := [{ email := "dee@example.com" }]
    nextId := 7 }

theorem uploader_known : ∃ user ∈ uploadersWorld.users, user.id = 5 :=
  ⟨_, List.mem_cons_self, rfl⟩

/-- Every text with an at sign passes for an address. -/
def uploadersDeployment : Deployment :=
  { Deployment.defaults with
    toLowerCase := asciiLowercase
    isEmail := fun text => '@' ∈ text.toList }

/-- An upload of the administrator. -/
def sampleUpload (rawEmails : List String) : Except ApiError UploadResult × World :=
  (enqueueUploadedEmails uploadersDeployment 5 rawEmails).run { now := 0 } uploadersWorld

/-- One new address in two spellings, three that are known, and one that is none. -/
def mixedEmails : List String :=
  ["ann@example.com", "bob@example.com", "nobody", " Ann@Example.COM ", "CYD@example.com",
    "dee@example.com"]

/-- The new address is added once, also where the upload is cut into chunks of two, in
another order. -/
theorem upload_adds_new_mixed :
    ∃ result after,
      sampleUpload mixedEmails = (.ok result, after) ∧
      AddsNew uploadersDeployment mixedEmails uploadersWorld result after ∧
      result =
        { queued := 1, alreadyQueued := 1, alreadyHasAccount := 1, unsubscribed := 1,
          invalid := 1, total := 6 } ∧
      ∃ otherAfter,
        (enqueueInChunks uploadersDeployment 2 5 mixedEmails.reverse).run { now := 0 }
            uploadersWorld = (.ok result, otherAfter) ∧
          (otherAfter.prospectInviteQueue.map content).Perm
            (after.prospectInviteQueue.map content) := by
  obtain ⟨result, after, returns, adds, cuts⟩ := upload_adds_new uploadersDeployment
    uploader_known mixedEmails { now := 0 }
  obtain ⟨otherResult, otherAfter, otherReturns, -, sameRows, alike⟩ :=
    cuts 2 (by decide) mixedEmails.reverse fun raw => List.mem_reverse
  refine ⟨result, after, returns, adds, ?_, otherAfter, ?_, sameRows⟩
  · rw [enqueueUploadedEmails_eq, run_enqueueInChunks (by decide) uploader_known] at returns
    cases returns
    decide +kernel
  · rw [otherReturns, alike (List.reverse_perm _)]

/-- Entries that are repeated are counted again. -/
theorem repeated_entries_are_counted :
    (sampleUpload ["ann@example.com"]).1 =
        .ok { queued := 1, alreadyQueued := 0, alreadyHasAccount := 0, unsubscribed := 0,
              invalid := 0, total := 1 } ∧
      (sampleUpload ["ann@example.com", "ann@example.com"]).1 =
        .ok { queued := 1, alreadyQueued := 0, alreadyHasAccount := 0, unsubscribed := 0,
              invalid := 0, total := 2 } := by
  unfold sampleUpload
  rw [enqueueUploadedEmails_eq, enqueueUploadedEmails_eq,
    run_enqueueInChunks (by decide) uploader_known,
    run_enqueueInChunks (by decide) uploader_known]
  constructor
  · refine congrArg Except.ok ?_
    decide +kernel
  · refine congrArg Except.ok ?_
    decide +kernel

end ProspectCampaignService
end ConferenceContact
