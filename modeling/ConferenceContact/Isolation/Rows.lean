import ConferenceContact.Foundation.Advances
import ConferenceContact.Isolation.Reachable

/-!
# The rows of one user

What a user owns in a world, and why the requests of a user leave the rows of every
other user alone: each of them writes one row, or the rows that refer to it, after
finding it to be the user's.
-/

namespace ConferenceContact

open Process

/-- What belongs to one user; the balance is a column of the account. -/
structure OwnedRows where
  account : List User
  devices : List Device
  sessions : List Session
  leadFinderSubscriptions : List SubscriptionRow
  creditGrants : List CreditGrant
  leadSearchJobs : List LeadSearchJob
  /-- The results of these jobs. -/
  leadSearchResults : List LeadSearchResult

/-- Whether a job is a user's. -/
def World.ownsJob (world : World) (userId : UserId) (jobId : Nat) : Bool :=
  (world.findSearchJob jobId).any fun job => job.userId = userId

/-- The rows a user owns. -/
def World.rowsOf (world : World) (userId : UserId) : OwnedRows where
  account := world.users.filter fun user => user.id = userId
  devices := world.devices.filter fun device => device.userId = userId
  sessions := world.sessions.filter fun session => session.userId = userId
  leadFinderSubscriptions :=
    world.leadFinderSubscriptions.filter fun row => row.userId = userId
  creditGrants := world.creditGrants.filter fun grant => grant.userId = userId
  leadSearchJobs := world.leadSearchJobs.filter fun job => job.userId = userId
  leadSearchResults :=
    world.leadSearchResults.filter fun row => world.ownsJob userId row.jobId

/-- Nothing that another user owns has changed. -/
def SameForOthers (userId : UserId) (before after : World) : Prop :=
  ∀ other, other ≠ userId → after.rowsOf other = before.rowsOf other

instance : IsPreorder World (SameForOthers userId) where
  refl _ := fun _ _ => rfl
  trans _ _ _ first second := fun other distinct =>
    (second other distinct).trans (first other distinct)

variable {world : World} {userId : UserId}

/-! ## Stored rows and their users -/

theorem World.Owned.deviceIds (owned : world.Owned) : (world.devices.map (·.id)).Nodup := by
  have distinct := owned.devicesDistinct
  rwa [World.owners, List.map_map] at distinct

theorem World.Owned.jobIds (owned : world.Owned) :
    (world.leadSearchJobs.map (·.id)).Nodup :=
  owned.jobsDistinct

theorem World.Owned.resultIds (owned : world.Owned) :
    (world.leadSearchResults.map (·.id)).Nodup :=
  owned.resultsDistinct

/-- A session that refers to a device is its user's. -/
theorem World.Owned.sessionUser
    (owned : world.Owned)
    {session : Session}
    {device : Device}
    (present : session ∈ world.sessions)
    (stored : device ∈ world.devices)
    (refers : session.deviceId = some device.id) :
    session.userId = device.userId := by
  have held := owned.holds (List.mem_map_of_mem stored)
  exact held.2 _ (owned.sessions _ (List.mem_map_of_mem present) device.id refers)

theorem ownsJob_eq_false
    {jobId : Nat}
    {job : LeadSearchJob}
    (found : world.findSearchJob jobId = some job)
    {other : UserId}
    (distinct : other ≠ job.userId) :
    world.ownsJob other jobId = false := by
  rw [World.ownsJob, found, Option.any_some]
  exact decide_eq_false (Ne.symm distinct)

/-! ## Writes -/

/-- A change of one's own searches' status. -/
theorem sameForOthers_setJobStatus
    (owned : world.Owned)
    {jobId : Nat}
    {job : LeadSearchJob}
    (found : world.findSearchJob jobId = some job)
    (own : job.userId = userId)
    (status : LeadSearchJobStatus) :
    SameForOthers userId world (world.setJobStatus jobId status) := by
  intro other distinct
  have stored := List.mem_of_find?_eq_some found
  have named : job.id = jobId := by simpa using List.find?_some found
  have jobs : (world.setJobStatus jobId status).leadSearchJobs.filter
      (fun job => job.userId = other) =
      world.leadSearchJobs.filter fun job => job.userId = other := by
    refine Table.filter_updateWhere fun row present chosen => ?_
    have same : row = job := Table.eq_of_key_eq owned.jobIds present stored
      ((of_decide_eq_true chosen).trans named.symm)
    rw [same, own]
    exact ⟨decide_eq_false (Ne.symm distinct), decide_eq_false (Ne.symm distinct)⟩
  have owners : ∀ id, (world.setJobStatus jobId status).ownsJob other id =
      world.ownsJob other id := by
    intro id
    unfold World.ownsJob World.findSearchJob World.setJobStatus
    dsimp only
    rw [Table.find?_updateWhere LeadSearchJob.id, Option.any_map]
    · congr 1
      funext row
      split <;> rfl
    · exact fun _ => rfl
  unfold World.rowsOf
  simp only [jobs, owners]
  rfl

/-- A change of results of one's own searches. -/
theorem sameForOthers_updateResults
    {condition : LeadSearchResult → Bool}
    {rewrite : LeadSearchResult → LeadSearchResult}
    (kept : ∀ row, (rewrite row).jobId = row.jobId)
    (own : ∀ row ∈ world.leadSearchResults, condition row = true →
      ∀ other, other ≠ userId → world.ownsJob other row.jobId = false) :
    SameForOthers userId world
      { world with
        leadSearchResults := Table.updateWhere condition rewrite world.leadSearchResults } := by
  intro other distinct
  have results : (Table.updateWhere condition rewrite world.leadSearchResults).filter
      (fun row => world.ownsJob other row.jobId) =
      world.leadSearchResults.filter fun row => world.ownsJob other row.jobId := by
    refine Table.filter_updateWhere fun row present chosen => ?_
    rw [kept]
    exact ⟨own row present chosen other distinct, own row present chosen other distinct⟩
  show OwnedRows.mk _ _ _ _ _ _ ((Table.updateWhere condition rewrite
    world.leadSearchResults).filter fun row => world.ownsJob other row.jobId) = _
  rw [results]
  rfl

/-- A change of one's own device. -/
theorem sameForOthers_updateDevice
    (owned : world.Owned)
    {device : Device}
    (stored : device ∈ world.devices)
    (own : device.userId = userId)
    {rewrite : Device → Device}
    (kept : ∀ device, (rewrite device).userId = device.userId) :
    SameForOthers userId world
      { world with
        devices := Table.updateWhere (fun other => other.id = device.id) rewrite
          world.devices } := by
  intro other distinct
  have devices : (Table.updateWhere (fun row => row.id = device.id) rewrite
      world.devices).filter (fun device => device.userId = other) =
      world.devices.filter fun device => device.userId = other := by
    refine Table.filter_updateWhere fun row present chosen => ?_
    have same : row = device := Table.eq_of_key_eq owned.deviceIds present stored
      (of_decide_eq_true chosen)
    rw [kept, same, own]
    exact ⟨decide_eq_false (Ne.symm distinct), decide_eq_false (Ne.symm distinct)⟩
  unfold World.rowsOf
  simp only [devices]
  rfl

/-- The end of one's own device and of the sessions that refer to it. -/
theorem sameForOthers_remove
    (owned : world.Owned)
    {device : Device}
    (stored : device ∈ world.devices)
    (own : device.userId = userId)
    (now : Time) :
    SameForOthers userId world
      { world with
        sessions :=
          (Table.updateWhere
            (fun session =>
              session.deviceId = some device.id ∧ session.revokedAt = none)
            (fun session => { session with revokedAt := some now })
            world.sessions).map fun session =>
              if session.deviceId = some device.id then { session with deviceId := none }
              else session
        devices := world.devices.filter fun other => other.id ≠ device.id } := by
  intro other distinct
  have devices : (world.devices.filter fun row => row.id ≠ device.id).filter
      (fun row => row.userId = other) =
      world.devices.filter fun row => row.userId = other := by
    rw [List.filter_filter]
    refine List.filter_congr fun row present => ?_
    by_cases same : row.id = device.id
    · have equal : row = device := Table.eq_of_key_eq owned.deviceIds present stored same
      have foreign : ¬device.userId = other := fun equal => distinct (equal.symm.trans own)
      simp [equal, foreign]
    · simp [same]
  have users : ∀ session ∈ world.sessions, session.deviceId = some device.id →
      session.userId ≠ other := by
    intro session present refers equal
    exact distinct (equal.symm.trans ((owned.sessionUser present stored refers).trans own))
  have sessions : ((Table.updateWhere
      (fun session => session.deviceId = some device.id ∧ session.revokedAt = none)
      (fun session => { session with revokedAt := some now })
      world.sessions).map fun session =>
        if session.deviceId = some device.id then { session with deviceId := none }
        else session).filter (fun session => session.userId = other) =
      world.sessions.filter fun session => session.userId = other := by
    rw [Table.updateWhere, List.map_map]
    refine Table.filter_map fun session present => ?_
    by_cases refers : session.deviceId = some device.id
    · have foreign := users session present refers
      refine .inr ⟨decide_eq_false foreign, decide_eq_false ?_⟩
      simp only [Function.comp_apply]
      split <;> simpa [refers] using foreign
    · simp [refers]
  unfold World.rowsOf
  simp only [devices, sessions]
  rfl

/-! ## Requests -/

/-- Whichever of its calls are rejected, the process changes nothing that another user
owns. -/
abbrev SparesOthers
    (userId : UserId)
    (input : Input)
    (process : Service α)
    (world : World)
    (post : α → World → Prop) : Prop :=
  Advances (SameForOthers userId) input (fun _ => True) process world post

variable {input : Input}

/-- A process that only reads leaves its world as it was. -/
theorem spares_readOnly {service : Service α} (reads : ReadOnly service) :
    SparesOthers userId input service world fun _ after => after = world := by
  have : IsPreorder World fun before after => after = before :=
    { refl := fun _ => rfl, trans := fun _ _ _ first second => second.trans first }
  refine (Ensures.of_respects reads).weaken fun _ after same => ?_
  rw [same]
  exact ⟨refl_of (SameForOthers userId) world, fun _ _ => rfl⟩

theorem spares_record (actor : Option UserId) (action : AuditAction) :
    SparesOthers userId input (AuditService.record actor action) world fun _ _ => True :=
  Advances.command fun _ _ => rfl

theorem spares_updateJobStatus
    (owned : world.Owned)
    {jobId : Nat}
    (own : ∀ job, world.findSearchJob jobId = some job → job.userId = userId)
    (status : LeadSearchJobStatus) :
    SparesOthers userId input (LeadSearchTables.updateJobStatus jobId status) world
      fun _ _ => True := by
  refine Advances.attempt _ fun value after updated => ?_
  split at updated
  · rename_i job found
    cases updated
    exact ⟨sameForOthers_setJobStatus owned found (own job found) status, trivial⟩
  · cases updated

/-- Only a user's own job is returned. -/
theorem spares_ownSearchJob (jobId : Nat) :
    SparesOthers userId input (LeadsService.ownSearchJob userId jobId) world
      fun _ after => after = world ∧
        ∀ job, world.findSearchJob jobId = some job → job.userId = userId := by
  unfold LeadsService.ownSearchJob
  refine Advances.bind (Advances.query (fun found after =>
    after = world ∧ found = world.findSearchJob jobId) ⟨rfl, rfl⟩) ?_
  rintro found after - ⟨rfl, rfl⟩
  cases found : after.findSearchJob jobId with
  | none => exact Advances.throw _ _
  | some job =>
      refine Advances.ite (fun _ => Advances.throw _ _) fun own => ?_
      refine Advances.pure ⟨rfl, ?_⟩
      rintro _ ⟨⟩
      exact not_not.mp own

/-- Only a user's own search is extended. -/
theorem spares_extension (app : Deployment) (jobId : Nat) (count : Option Nat) :
    SparesOthers userId input (LeadsService.extension app userId jobId count) world
      fun _ after => after = world ∧
        ∀ job, world.findSearchJob jobId = some job → job.userId = userId := by
  unfold LeadsService.extension
  refine Advances.bind (Advances.query (fun found after => after = world ∧
    found = (world.findSearchJob jobId).map fun job =>
      (job, (world.resultsOf jobId).map (·.apolloPersonId))) ⟨rfl, rfl⟩) ?_
  rintro found after - ⟨rfl, rfl⟩
  cases found : after.findSearchJob jobId with
  | none => exact Advances.throw _ _
  | some job =>
      refine Advances.ite (fun _ => Advances.throw _ _) fun own => ?_
      have kept : ∀ other, some job = some other → other.userId = userId := by
        rintro _ ⟨⟩
        exact not_not.mp own
      refine Advances.ite (fun _ => Advances.throw _ _) fun _ => ?_
      split
      · refine Advances.bind (spares_readOnly (readOnly_hasPaidLeadFinderAccess app userId)) ?_
        rintro paid _ - rfl
        refine Advances.ite (fun _ => Advances.throw _ _) fun _ => ?_
        refine Advances.bind (spares_readOnly (readOnly_creditsOrThrow userId)) ?_
        rintro credits _ - rfl
        refine Advances.bind
          (spares_readOnly (readOnly_hasUnlimitedLeadFinderAccess userId)) ?_
        rintro unlimited _ - rfl
        exact Advances.ite (fun _ => Advances.throw _ _) fun _ => Advances.pure ⟨rfl, kept⟩
      · exact Advances.throw _ _

theorem spares_updateResultReviewStatus
    (owned : world.Owned)
    (jobId resultId : Nat)
    (reviewStatus : LeadReviewStatus) :
    SparesOthers userId input
      (LeadsService.updateResultReviewStatus userId jobId resultId reviewStatus) world
      fun _ _ => True := by
  unfold LeadsService.updateResultReviewStatus
  refine Advances.bind (Advances.query (fun owner after => after = world ∧
    owner = (world.findSearchJob jobId).map (·.userId)) ⟨rfl, rfl⟩) ?_
  rintro _ after - ⟨rfl, rfl⟩
  refine Advances.ite (fun _ => Advances.throw _ _) fun own => ?_
  refine Advances.bind (Advances.query (fun job later => later = after ∧ job =
    (after.leadSearchResults.find? fun row => row.id = resultId).map (·.jobId))
    ⟨rfl, rfl⟩) ?_
  rintro _ later - ⟨rfl, rfl⟩
  refine Advances.ite (fun _ => Advances.throw _ _) fun ofJob => ?_
  obtain ⟨job, found, user⟩ := Option.map_eq_some_iff.mp (not_not.mp own)
  obtain ⟨result, listed, belongs⟩ := Option.map_eq_some_iff.mp (not_not.mp ofJob)
  refine Advances.attempt _ fun value next updated => ?_
  rw [listed] at updated
  cases updated
  refine ⟨sameForOthers_updateResults (fun _ => rfl) ?_, trivial⟩
  intro row present chosen other distinct
  have named : result.id = resultId := by simpa using List.find?_some listed
  have same : row = result :=
    Table.eq_of_key_eq owned.resultIds present (List.mem_of_find?_eq_some listed)
      ((of_decide_eq_true chosen).trans named.symm)
  rw [same, belongs]
  exact ownsJob_eq_false found (user.symm ▸ distinct)

theorem spares_trust (app : Deployment) (owned : world.Owned) (deviceId : DeviceId) :
    SparesOthers userId input (DevicesService.trust app userId deviceId) world
      fun _ _ => True := by
  unfold DevicesService.trust
  refine Advances.bind (Advances.query (fun found after => after = world ∧
    found = world.devices.find? fun device => device.id = deviceId) ⟨rfl, rfl⟩) ?_
  rintro _ after - ⟨rfl, rfl⟩
  cases found : after.devices.find? fun device => device.id = deviceId with
  | none => exact Advances.throw _ _
  | some device =>
      refine Advances.ite (fun _ => Advances.throw _ _) fun own => ?_
      refine Advances.bind (Advances.query (fun _ later => later = after) rfl) ?_
      rintro trustedCount _ - rfl
      refine Advances.ite (fun _ => Advances.throw _ _) fun _ => ?_
      refine Advances.attempt _ fun value next trusted => ?_
      dsimp only at trusted
      rw [found] at trusted
      cases trusted
      have named : device.id = deviceId := by simpa using List.find?_some found
      rw [← named]
      exact ⟨sameForOthers_updateDevice owned (List.mem_of_find?_eq_some found)
        (not_not.mp own) fun _ => rfl, trivial⟩

theorem spares_remove (owned : world.Owned) (deviceId : DeviceId) :
    SparesOthers userId input (DevicesService.remove userId deviceId) world
      fun _ _ => True := by
  unfold DevicesService.remove
  refine Advances.bind (Advances.query (fun found after => after = world ∧
    found = world.devices.find? fun device => device.id = deviceId) ⟨rfl, rfl⟩) ?_
  rintro _ after - ⟨rfl, rfl⟩
  cases found : after.devices.find? fun device => device.id = deviceId with
  | none => exact Advances.throw _ _
  | some device =>
      refine Advances.ite (fun _ => Advances.throw _ _) fun own => Advances.command ?_
      have named : device.id = deviceId := by simpa using List.find?_some found
      rw [← named]
      exact sameForOthers_remove owned (List.mem_of_find?_eq_some found) (not_not.mp own)
        input.now

/-- No request of a user changes what another user owns. -/
theorem spares_own (app : Deployment) (owned : world.Owned) (request : OwnRequest) :
    SparesOthers userId input (request.handle app userId) world fun _ _ => True := by
  cases request with
  | getSearchJob jobId =>
      have reads : ReadOnly (LeadsService.getSearchJob userId jobId) := by
        refine Respects.bind (Respects.query _) fun found => ?_
        split
        · exact Respects.ite (Respects.throw _) (Respects.pure _)
        · exact Respects.throw _
      exact (spares_readOnly reads).weaken fun _ _ _ _ => trivial
  | cancelSearchJob jobId =>
      refine Advances.bind (spares_ownSearchJob jobId) ?_
      rintro job _ - ⟨rfl, own⟩
      exact Advances.ite (fun _ => Advances.pure trivial) fun _ =>
        spares_updateJobStatus owned own _
  | getMoreLeads jobId count =>
      refine Advances.bind (spares_extension app jobId count) ?_
      rintro data _ - ⟨rfl, own⟩
      refine Advances.bind (spares_updateJobStatus owned own _) fun _ _ _ _ => ?_
      exact Advances.command fun _ _ => rfl
  | updateResultReviewStatus jobId resultId reviewStatus =>
      exact spares_updateResultReviewStatus owned jobId resultId reviewStatus
  | trustDevice deviceId =>
      refine Advances.bind (spares_trust app owned deviceId) fun device _ _ _ => ?_
      exact Advances.bind (spares_record _ _) fun _ _ _ _ => Advances.pure trivial
  | removeDevice deviceId =>
      exact Advances.bind (spares_remove owned deviceId) fun _ _ _ _ => spares_record _ _

end ConferenceContact
