import ConferenceContact.Foundation.Alike
import ConferenceContact.Foundation.Queries
import ConferenceContact.Isolation.Rows

/-!
# What a user is answered

A request of a user is answered alike in any two reachable states in which the user
owns the same rows.  With distinct ids, a lookup that discards the rows of others is a
lookup among the user's own, and every request throws the same error for a row of
somebody else as for no row.
-/

namespace ConferenceContact

open Process

/-! ## Lookups among one's own rows -/

/-- The user owns the same rows in two worlds with distinct ids. -/
structure AgreeOn (userId : UserId) (left right : World) : Prop where
  leftOwned : left.Owned
  rightOwned : right.Owned
  rows : left.rowsOf userId = right.rowsOf userId

section

variable {userId : UserId} {left right : World}

theorem AgreeOn.job (agree : AgreeOn userId left right) (jobId : Nat) :
    (left.findSearchJob jobId).filter (fun job => job.userId = userId) =
      (right.findSearchJob jobId).filter fun job => job.userId = userId := by
  have same := congrArg OwnedRows.leadSearchJobs agree.rows
  unfold World.findSearchJob
  rw [Table.filter_find? agree.leftOwned.jobIds, Table.filter_find? agree.rightOwned.jobIds]
  exact congrArg _ same

/-- A job of the user in the one world is there in the other. -/
theorem AgreeOn.job_eq_some
    (agree : AgreeOn userId left right)
    {jobId : Nat}
    {job : LeadSearchJob}
    (found : left.findSearchJob jobId = some job)
    (own : job.userId = userId) :
    right.findSearchJob jobId = some job := by
  have same := agree.job jobId
  rw [found, Option.filter_some_pos (by simpa using own)] at same
  exact Option.eq_some_of_filter_eq_some same.symm

theorem resultsOf_eq
    {world : World}
    {jobId : Nat}
    {job : LeadSearchJob}
    (found : world.findSearchJob jobId = some job)
    (own : job.userId = userId) :
    world.resultsOf jobId =
      (world.rowsOf userId).leadSearchResults.filter fun row => row.jobId = jobId := by
  unfold World.resultsOf World.rowsOf
  rw [List.filter_filter]
  refine List.filter_congr fun row _ => ?_
  by_cases ofJob : row.jobId = jobId
  · simp [ofJob, World.ownsJob, found, own]
  · simp [ofJob]

theorem AgreeOn.results
    (agree : AgreeOn userId left right)
    {jobId : Nat}
    {job : LeadSearchJob}
    (found : left.findSearchJob jobId = some job)
    (own : job.userId = userId) :
    left.resultsOf jobId = right.resultsOf jobId := by
  rw [resultsOf_eq found own, resultsOf_eq (agree.job_eq_some found own) own, agree.rows]

/-- What is read of a user's own jobs and their results. -/
theorem AgreeOn.jobAndResults
    (agree : AgreeOn userId left right)
    (jobId : Nat)
    (read : List LeadSearchResult → α) :
    (((left.findSearchJob jobId).map fun job => (job, read (left.resultsOf jobId))).filter
        fun found => found.1.userId = userId) =
      ((right.findSearchJob jobId).map fun job => (job, read (right.resultsOf jobId))).filter
        fun found => found.1.userId = userId := by
  have mapped : ∀ world : World,
      (((world.findSearchJob jobId).map fun job => (job, read (world.resultsOf jobId))).filter
        fun found => found.1.userId = userId) =
      ((world.findSearchJob jobId).filter fun job => job.userId = userId).map
        fun job => (job, read (world.resultsOf jobId)) := by
    intro world
    cases world.findSearchJob jobId with
    | none => rfl
    | some job => by_cases own : job.userId = userId <;> simp [Option.filter, own]
  rw [mapped, mapped, ← agree.job]
  cases found : left.findSearchJob jobId with
  | none => rfl
  | some job =>
      by_cases own : job.userId = userId
      · rw [agree.results found own]
      · simp [Option.filter, own]

/-- A result of the user's own search is found in both worlds. -/
theorem AgreeOn.result
    (agree : AgreeOn userId left right)
    {jobId : Nat}
    {job : LeadSearchJob}
    (found : left.findSearchJob jobId = some job)
    (own : job.userId = userId)
    (resultId : Nat) :
    (left.leadSearchResults.find? fun row => row.id = resultId).filter
        (fun row => row.jobId = jobId) =
      (right.leadSearchResults.find? fun row => row.id = resultId).filter
        fun row => row.jobId = jobId := by
  rw [Table.filter_find? agree.leftOwned.resultIds, Table.filter_find? agree.rightOwned.resultIds]
  exact congrArg (List.find? _) (agree.results found own)

theorem AgreeOn.device (agree : AgreeOn userId left right) (deviceId : DeviceId) :
    (left.devices.find? fun device => device.id = deviceId).filter
        (fun device => device.userId = userId) =
      (right.devices.find? fun device => device.id = deviceId).filter
        fun device => device.userId = userId := by
  have same := congrArg OwnedRows.devices agree.rows
  rw [Table.filter_find? agree.leftOwned.deviceIds, Table.filter_find? agree.rightOwned.deviceIds]
  exact congrArg _ same

/-! ## Checks of access -/

variable {input : Input} {app : Deployment}

/-- The two runs return one value from where they started. -/
abbrev ReadsAlike (input : Input) (service : Service α) (left right : World) : Prop :=
  Alike input service service left right fun _ after after' => after = left ∧ after' = right

theorem AgreeOn.account (agree : AgreeOn userId left right) :
    (left.users.find? fun user => user.id = userId) =
      right.users.find? fun user => user.id = userId :=
  SeesOnly.find? (fun _ own => own) _ _ (congrArg OwnedRows.account agree.rows)

theorem AgreeOn.hasUnlimitedLeadFinderAccess (agree : AgreeOn userId left right) :
    ReadsAlike input (LeadsService.hasUnlimitedLeadFinderAccess userId) left right := by
  refine Alike.query _ ?_ ⟨rfl, rfl⟩
  unfold World.unlimited
  rw [agree.account]

theorem AgreeOn.creditsOrThrow (agree : AgreeOn userId left right) :
    ReadsAlike input (LeadsService.creditsOrThrow userId) left right := by
  refine Alike.attempt ?_ ?_
  · rw [agree.account]
    cases right.users.find? fun user => user.id = userId <;> rfl
  · rw [agree.account]
    intro credits after after' found found'
    cases account : right.users.find? fun user => user.id = userId with
    | none => simp [account] at found
    | some user =>
        simp only [account, Except.ok.injEq, Prod.mk.injEq] at found found'
        exact ⟨found.2.symm, found'.2.symm⟩

theorem AgreeOn.hasPaidLeadFinderAccess (agree : AgreeOn userId left right) :
    ReadsAlike input (LeadsService.hasPaidLeadFinderAccess app userId) left right := by
  unfold LeadsService.hasPaidLeadFinderAccess
  refine Alike.bind agree.hasUnlimitedLeadFinderAccess ?_
  rintro unlimited _ _ ⟨rfl, rfl⟩
  refine Alike.ite (fun _ => Alike.pure ⟨rfl, rfl⟩) fun _ => ?_
  refine Alike.bind (Alike.query (fun _ later later' =>
    later = _ ∧ later' = _) ?_ ⟨rfl, rfl⟩) ?_
  · refine SeesOnly.find? ?_ _ _ (congrArg OwnedRows.leadFinderSubscriptions agree.rows)
    intro row chosen
    simp only [decide_eq_true_eq] at chosen ⊢
    exact chosen.1
  rintro subscription _ _ ⟨rfl, rfl⟩
  refine Alike.bind (Alike.query (fun _ later later' =>
    later = _ ∧ later' = _) ?_ ⟨rfl, rfl⟩) ?_
  · refine SeesOnly.any ?_ _ _ (congrArg OwnedRows.creditGrants agree.rows)
    intro grant chosen
    simp only [Bool.and_eq_true] at chosen
    exact chosen.1
  rintro creditPurchase _ _ ⟨rfl, rfl⟩
  refine Alike.bind (Alike.query (fun _ later later' =>
    later = _ ∧ later' = _) rfl ⟨rfl, rfl⟩) ?_
  rintro now _ _ ⟨rfl, rfl⟩
  exact Alike.pure ⟨rfl, rfl⟩

/-! ## Requests -/

theorem AgreeOn.getSearchJob (agree : AgreeOn userId left right) (jobId : Nat) :
    Alike input (LeadsService.getSearchJob userId jobId)
      (LeadsService.getSearchJob userId jobId) left right fun _ _ _ => True := by
  unfold LeadsService.getSearchJob
  refine Alike.query_bind (Option.filter fun found => found.1.userId = userId) ?_
    (agree.jobAndResults jobId List.reverse) ?_
  · intro found
    cases found with
    | none => rfl
    | some found => by_cases own : found.1.userId = userId <;> simp [Option.filter, own, throw_bind]
  · split
    · exact Alike.ite (fun _ => Alike.throw _ _) fun _ => Alike.pure trivial
    · exact Alike.throw _ _

/-- A user's own job is returned from both. -/
theorem AgreeOn.ownSearchJob (agree : AgreeOn userId left right) (jobId : Nat) :
    Alike input (LeadsService.ownSearchJob userId jobId)
      (LeadsService.ownSearchJob userId jobId) left right fun job after after' =>
        after = left ∧ after' = right ∧ left.findSearchJob jobId = some job ∧
          job.userId = userId := by
  unfold LeadsService.ownSearchJob
  refine Alike.query_bind (Option.filter fun job => job.userId = userId) ?_ (agree.job jobId) ?_
  · intro found
    cases found with
    | none => rfl
    | some job => by_cases own : job.userId = userId <;> simp [Option.filter, own, throw_bind]
  · split
    · rename_i job found
      refine Alike.ite (fun _ => Alike.throw _ _) fun own => Alike.pure ?_
      exact ⟨rfl, rfl, Option.eq_some_of_filter_eq_some found, not_not.mp own⟩
    · exact Alike.throw _ _

/-- The status of a user's own job is set in both. -/
theorem AgreeOn.updateJobStatus
    (agree : AgreeOn userId left right)
    {jobId : Nat}
    {job : LeadSearchJob}
    (found : left.findSearchJob jobId = some job)
    (own : job.userId = userId)
    (status : LeadSearchJobStatus) :
    Alike input (LeadSearchTables.updateJobStatus jobId status)
      (LeadSearchTables.updateJobStatus jobId status) left right fun _ _ _ => True := by
  refine Alike.attempt ?_ fun _ _ _ _ _ => trivial
  rw [found, agree.job_eq_some found own]
  rfl

theorem AgreeOn.extension (agree : AgreeOn userId left right) (jobId : Nat)
    (count : Option Nat) :
    Alike input (LeadsService.extension app userId jobId count)
      (LeadsService.extension app userId jobId count) left right fun _ after after' =>
        after = left ∧ after' = right ∧
          ∃ job, left.findSearchJob jobId = some job ∧ job.userId = userId := by
  unfold LeadsService.extension
  refine Alike.query_bind (Option.filter fun found => found.1.userId = userId) ?_
    (agree.jobAndResults jobId (List.map (·.apolloPersonId))) ?_
  · intro found
    cases found with
    | none => rfl
    | some found => by_cases own : found.1.userId = userId <;> simp [Option.filter, own, throw_bind]
  split
  · rename_i job results found
    refine Alike.ite (fun _ => Alike.throw _ _) fun own => ?_
    have stored : ∃ job, left.findSearchJob jobId = some job ∧ job.userId = userId := by
      obtain ⟨other, listed, equal⟩ :=
        Option.map_eq_some_iff.mp (Option.eq_some_of_filter_eq_some found)
      rw [Prod.mk.injEq] at equal
      exact ⟨other, listed, equal.1 ▸ not_not.mp own⟩
    refine Alike.ite (fun _ => Alike.throw _ _) fun _ => ?_
    split
    · refine Alike.bind agree.hasPaidLeadFinderAccess ?_
      rintro paid _ _ ⟨rfl, rfl⟩
      refine Alike.ite (fun _ => Alike.throw _ _) fun _ => ?_
      refine Alike.bind agree.creditsOrThrow ?_
      rintro credits _ _ ⟨rfl, rfl⟩
      refine Alike.bind agree.hasUnlimitedLeadFinderAccess ?_
      rintro unlimited _ _ ⟨rfl, rfl⟩
      exact Alike.ite (fun _ => Alike.throw _ _) fun _ => Alike.pure ⟨rfl, rfl, stored⟩
    · exact Alike.throw _ _
  · exact Alike.throw _ _

theorem AgreeOn.updateResultReviewStatus
    (agree : AgreeOn userId left right)
    (jobId resultId : Nat)
    (reviewStatus : LeadReviewStatus) :
    Alike input (LeadsService.updateResultReviewStatus userId jobId resultId reviewStatus)
      (LeadsService.updateResultReviewStatus userId jobId resultId reviewStatus) left right
      fun _ _ _ => True := by
  have owners : ((left.findSearchJob jobId).map (·.userId)).filter (· = userId) =
      ((right.findSearchJob jobId).map (·.userId)).filter (· = userId) := by
    have mapped : ∀ world : World,
        ((world.findSearchJob jobId).map (·.userId)).filter (· = userId) =
          ((world.findSearchJob jobId).filter fun job => job.userId = userId).map
            (·.userId) := by
      intro world
      cases world.findSearchJob jobId with
      | none => rfl
      | some job => by_cases own : job.userId = userId <;> simp [Option.filter, own]
    rw [mapped, mapped, agree.job]
  unfold LeadsService.updateResultReviewStatus
  refine Alike.query_bind (Option.filter (· = userId)) ?_ owners ?_
  · intro owner
    cases owner with
    | none => rfl
    | some owner => by_cases own : owner = userId <;> simp [Option.filter, own]
  refine Alike.ite (fun _ => Alike.throw _ _) fun own => ?_
  obtain ⟨job, found, user⟩ := Option.map_eq_some_iff.mp
    (Option.eq_some_of_filter_eq_some (not_not.mp own))
  have sameResult := agree.result found user resultId
  have jobs : ((left.leadSearchResults.find? fun row => row.id = resultId).map
        (·.jobId)).filter (· = jobId) =
      ((right.leadSearchResults.find? fun row => row.id = resultId).map
        (·.jobId)).filter (· = jobId) := by
    have mapped : ∀ row : Option LeadSearchResult,
        (row.map (·.jobId)).filter (· = jobId) =
          (row.filter fun row => row.jobId = jobId).map (·.jobId) := by
      intro row
      cases row with
      | none => rfl
      | some row => by_cases ofJob : row.jobId = jobId <;> simp [Option.filter, ofJob]
    rw [mapped, mapped, sameResult]
  refine Alike.query_bind (Option.filter (· = jobId)) ?_ jobs ?_
  · intro job
    cases job with
    | none => rfl
    | some job => by_cases ofJob : job = jobId <;> simp [Option.filter, ofJob]
  refine Alike.ite (fun _ => Alike.throw _ _) fun ofJob => ?_
  obtain ⟨result, listed, belongs⟩ := Option.map_eq_some_iff.mp
    (Option.eq_some_of_filter_eq_some (not_not.mp ofJob))
  rw [listed, Option.filter_some_pos (by simpa using belongs)] at sameResult
  refine Alike.attempt ?_ fun _ _ _ _ _ => trivial
  rw [listed, Option.eq_some_of_filter_eq_some sameResult.symm]
  rfl

theorem AgreeOn.trust (agree : AgreeOn userId left right) (deviceId : DeviceId) :
    Alike input (DevicesService.trust app userId deviceId)
      (DevicesService.trust app userId deviceId) left right fun _ _ _ => True := by
  unfold DevicesService.trust
  have sameDevice := agree.device deviceId
  refine Alike.query_bind (Option.filter fun device => device.userId = userId) ?_
    sameDevice ?_
  · intro found
    cases found with
    | none => rfl
    | some device => by_cases own : device.userId = userId <;> simp [Option.filter, own, throw_bind]
  split
  · exact Alike.throw _ _
  rename_i device found
  refine Alike.ite (fun _ => Alike.throw _ _) fun own => ?_
  refine Alike.bind (Alike.query (fun _ later later' =>
    later = left ∧ later' = right) ?_ ⟨rfl, rfl⟩) ?_
  · refine SeesOnly.countP ?_ _ _ (congrArg OwnedRows.devices agree.rows)
    intro other chosen
    simp only [decide_eq_true_eq] at chosen ⊢
    exact chosen.1
  rintro trustedCount _ _ ⟨rfl, rfl⟩
  refine Alike.ite (fun _ => Alike.throw _ _) fun _ => ?_
  refine Alike.attempt ?_ fun _ _ _ _ _ => trivial
  dsimp only at found ⊢
  rw [found] at sameDevice
  rw [Option.eq_some_of_filter_eq_some found,
    Option.eq_some_of_filter_eq_some sameDevice.symm]
  rfl

theorem AgreeOn.remove (agree : AgreeOn userId left right) (deviceId : DeviceId) :
    Alike input (DevicesService.remove userId deviceId)
      (DevicesService.remove userId deviceId) left right fun _ _ _ => True := by
  unfold DevicesService.remove
  refine Alike.query_bind (Option.filter fun device => device.userId = userId) ?_
    (agree.device deviceId) ?_
  · intro found
    cases found with
    | none => rfl
    | some device => by_cases own : device.userId = userId <;> simp [Option.filter, own, throw_bind]
  split
  · exact Alike.throw _ _
  · exact Alike.ite (fun _ => Alike.throw _ _) fun _ => Alike.command _

/-- A user is answered from the user's own rows. -/
theorem AgreeOn.own (agree : AgreeOn userId left right) (request : OwnRequest) :
    Alike input (request.handle app userId) (request.handle app userId) left right
      fun _ _ _ => True := by
  cases request with
  | getSearchJob jobId => exact agree.getSearchJob jobId
  | cancelSearchJob jobId =>
      refine Alike.bind (agree.ownSearchJob jobId) ?_
      rintro job _ _ ⟨rfl, rfl, found, own⟩
      exact Alike.ite (fun _ => Alike.pure trivial) fun _ =>
        agree.updateJobStatus found own _
  | getMoreLeads jobId count =>
      refine Alike.bind (agree.extension jobId count) ?_
      rintro data _ _ ⟨rfl, rfl, job, found, own⟩
      refine Alike.bind (agree.updateJobStatus found own _) fun _ _ _ _ => ?_
      exact Alike.command _
  | updateResultReviewStatus jobId resultId reviewStatus =>
      exact agree.updateResultReviewStatus jobId resultId reviewStatus
  | trustDevice deviceId =>
      refine Alike.bind (agree.trust deviceId) fun device _ _ _ => ?_
      exact Alike.bind (Alike.command _) fun _ _ _ _ => Alike.pure trivial
  | removeDevice deviceId =>
      exact Alike.bind (agree.remove deviceId) fun _ _ _ _ => Alike.command _

end

/-! ## Isolation -/

/-- In every reachable state, a request of a user, with arbitrary ids and whichever of its
calls is rejected, changes nothing that another user owns, and is answered as in every
reachable state in which the user owns the same rows. -/
theorem own_requests_isolated
    (app : Deployment)
    {world : World}
    (reached : world.Reached app)
    (userId : UserId)
    (request : OwnRequest)
    (input : Input)
    (fault : Option (Nat × ApiError)) :
    (∀ other, other ≠ userId →
      ((request.handle app userId).runWithFault input fault world).2.rowsOf other =
        world.rowsOf other) ∧
    ∀ twin : World, twin.Reached app → twin.rowsOf userId = world.rowsOf userId →
      ((request.handle app userId).runWithFault input fault twin).1 =
        ((request.handle app userId).runWithFault input fault world).1 := by
  refine ⟨(spares_own app reached.owned request).runWithFault fault, ?_⟩
  intro twin twinReached same
  have agree : AgreeOn userId twin world := ⟨twinReached.owned, reached.owned, same⟩
  exact (agree.own request).runWithFault fault

/-- Two accounts, neither of which has signed in yet. -/
def neighbours : World :=
  { users := [sampleUser, { id := 1, email := "bob@example.com", passwordHash := "secret" }] }

/-- The login of each of them from a new device. -/
def neighbourLogins : List (Service Unit) :=
  [ TenantRequest.handle .defaults (.account (.auth (sampleLogin "laptop"))),
    TenantRequest.handle .defaults (.account (.auth (.login
      { email := "bob@example.com", password := "secret" } { rawDeviceId := "phone" }))) ]

/-- The backend after the logins of some of them. -/
def afterLogins (members : List Nat) : World :=
  (Process.machine.run { state := neighbours, members := neighbourLogins }
    (members.flatMap fun member =>
      List.replicate 9 { member, input := { now := 0 } })).state

theorem afterLogins_reached (members : List Nat) : (afterLogins members).Reached {} := by
  refine ⟨neighbours, neighbourLogins, _, ⟨rfl, rfl, rfl, rfl, rfl⟩, ?_, rfl⟩
  intro service present
  simp only [neighbourLogins, List.mem_cons, List.not_mem_nil, or_false] at present
  rcases present with rfl | rfl
  · exact .inl ⟨_, rfl⟩
  · exact .inl ⟨_, rfl⟩

/-- The removal of a neighbour's device. -/
theorem own_requests_isolated_foreignDevice :
    (((OwnRequest.removeDevice 1).handle {} 0).runWithFault { now := 0 } none
        (afterLogins [0, 1])).2.rowsOf 1 = (afterLogins [0, 1]).rowsOf 1 ∧
      (((OwnRequest.removeDevice 1).handle {} 0).runWithFault { now := 0 } none
          (afterLogins [0])).1 =
        (((OwnRequest.removeDevice 1).handle {} 0).runWithFault { now := 0 } none
          (afterLogins [0, 1])).1 := by
  have isolated := own_requests_isolated {} (afterLogins_reached [0, 1]) 0 (.removeDevice 1)
    { now := 0 } none
  exact ⟨isolated.1 1 (by decide), isolated.2 _ (afterLogins_reached [0]) (by rfl)⟩

/-- Both devices are there. -/
example : (afterLogins [0, 1]).devices.map (fun device => (device.id, device.userId)) =
    [(1, 1), (0, 0)] := by decide

end ConferenceContact
