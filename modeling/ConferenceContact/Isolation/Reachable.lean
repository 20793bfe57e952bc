import ConferenceContact.Isolation.Requests

/-!
# Reachable states

The states that the requests of all users, the runs of the worker and the rest of the
backend lead to, their calls interleaved and any of them rejected.  Ids and
references are as they should be in each of them.
-/

namespace ConferenceContact

open Process

/-! ## Requests of one user -/

/-- The requests of a signed-in user about searches and devices, with arbitrary ids. -/
inductive OwnRequest
  | getSearchJob (jobId : Nat)
  | cancelSearchJob (jobId : Nat)
  | getMoreLeads (jobId : Nat) (count : Option Nat)
  | updateResultReviewStatus (jobId resultId : Nat) (reviewStatus : LeadReviewStatus)
  | trustDevice (deviceId : DeviceId)
  | removeDevice (deviceId : DeviceId)

namespace OwnRequest

/-- What a request is answered with. -/
def Response : OwnRequest → Type
  | getSearchJob _ => LeadSearchJob × List LeadSearchResult
  | cancelSearchJob _ => LeadSearchJob
  | getMoreLeads _ _ => Unit
  | updateResultReviewStatus _ _ _ => LeadSearchResult
  | trustDevice _ => Device
  | removeDevice _ => Unit

/-- The method behind a request. -/
def handle (app : Deployment) (userId : UserId) : (request : OwnRequest) → Service request.Response
  | getSearchJob jobId => LeadsService.getSearchJob userId jobId
  | cancelSearchJob jobId => LeadsService.cancelSearchJob userId jobId
  | getMoreLeads jobId count => LeadsService.getMoreLeads app userId jobId count
  | updateResultReviewStatus jobId resultId reviewStatus =>
      LeadsService.updateResultReviewStatus userId jobId resultId reviewStatus
  | trustDevice deviceId => AuthService.trustDevice app userId deviceId
  | removeDevice deviceId => AuthService.removeDevice userId deviceId

end OwnRequest

/-! ## The backend -/

/-- What reads or writes devices, sessions, challenges and searches. -/
inductive TenantRequest
  | account (request : AccountRequest)
  | own (userId : UserId) (request : OwnRequest)
  | aiSearch (userId : UserId) (dto : AiSearchDto)
  /-- A run of the worker. -/
  | search (data : ApolloSearchJobData)

/-- The code behind a request. -/
def TenantRequest.handle (app : Deployment) : TenantRequest → Service Unit
  | account request => request.handle app
  | own userId request => do
      let _ ← request.handle app userId
  | aiSearch userId dto => do
      let _ ← LeadsService.aiSearch app userId dto
  | search data => ApolloSearchProcessor.process data

/-- What the rest of the backend may do. -/
structure Elsewhere (before after : World) : Prop where
  devices : after.devices = before.devices
  sessions : after.sessions = before.sessions
  signed : after.signed = before.signed
  leadSearchJobs : after.leadSearchJobs = before.leadSearchJobs
  leadSearchResults : after.leadSearchResults = before.leadSearchResults
  nextId : before.nextId ≤ after.nextId

/-- The code that may be running. -/
def Serves (app : Deployment) (service : Service Unit) : Prop :=
  (∃ request : TenantRequest, service = request.handle app) ∨ service.Respects Elsewhere

/-- A backend nobody has signed in to yet; everything else is arbitrary. -/
structure World.Untouched (world : World) : Prop where
  devices : world.devices = []
  sessions : world.sessions = []
  signed : world.signed = []
  leadSearchJobs : world.leadSearchJobs = []
  leadSearchResults : world.leadSearchResults = []

/-- A state that some interleaving leads to. -/
def World.Reached (app : Deployment) (world : World) : Prop :=
  ∃ start services schedule, World.Untouched start ∧
    (∀ service ∈ services, Serves app service) ∧
    (Process.machine.run { state := start, members := services } schedule).state = world

variable {app : Deployment} {world : World}

/-! ## Accounts -/

theorem sameOwners_elsewhere
    (before after : World)
    (elsewhere : Elsewhere before after) :
    SameOwners before after := by
  obtain ⟨amount, supply⟩ := Nat.exists_eq_add_of_le elsewhere.nextId
  refine ⟨amount, ?_⟩
  simp only [World.owners, elsewhere.devices, elsewhere.sessions, elsewhere.signed,
    elsewhere.leadSearchJobs, elsewhere.leadSearchResults, supply]

theorem sameOwners_impersonateUser (adminUserId targetUserId : UserId) :
    (AdminService.impersonateUser adminUserId targetUserId).Respects SameOwners := by
  refine Respects.ite (Respects.throw _) (Respects.bind (Respects.query _) fun target => ?_)
  cases target with
  | none => exact Respects.throw _
  | some target =>
      refine Respects.ite (Respects.throw _) (Respects.ite (Respects.throw _) ?_)
      refine Respects.bind (sameOwners_signAccess _ _) fun token => ?_
      exact sameOwners_of_incidental
        (Respects.bind (incidental_record _ _) fun _ => Respects.pure _)

theorem keeps_removeDevice (userId : UserId) (deviceId : DeviceId) :
    KeepsOwners (AuthService.removeDevice userId deviceId) world fun _ _ => True :=
  Sustains.bind (keeps_remove _ _) fun _ _ _ _ => keeps_of_incidental (incidental_record _ _)

/-- A result that nobody reads. -/
theorem keeps_discard
    {process : Service α}
    (keeps : KeepsOwners process world fun _ _ => True) :
    KeepsOwners (do let _ ← process) world fun _ _ => True :=
  Sustains.bind keeps fun _ _ _ _ => Sustains.pure trivial

theorem keeps_auth (request : AuthRequest) :
    KeepsOwners (request.handle app) world fun _ _ => True := by
  cases request with
  | login dto requestMeta => exact keeps_discard (keeps_login dto requestMeta)
  | verifyLogin dto requestMeta => exact keeps_discard (keeps_verifyLogin dto requestMeta)
  | refresh rawToken => exact keeps_discard (keeps_refresh rawToken)
  | logout rawToken => exact keeps_of_incidental (incidental_logout rawToken)
  | logoutAll userId => exact keeps_of_incidental (incidental_revokeEverything _ _ _)
  | forgotPassword email => exact keeps_of_incidental (incidental_forgotPassword email)
  | resetPassword rawToken newPassword =>
      exact keeps_of_incidental (incidental_resetPassword rawToken newPassword)
  | removeDevice userId deviceId => exact keeps_removeDevice userId deviceId
  | suspendUser adminUserId targetUserId =>
      exact keeps_of_incidental (incidental_suspendUser _ _)
  | reactivateUser adminUserId targetUserId =>
      exact keeps_of_incidental (incidental_reactivateUser _ _)
  | deleteUser adminUserId targetUserId => exact keeps_of_incidental (incidental_deleteUser _ _)
  | forceLogout adminUserId targetUserId =>
      exact keeps_of_incidental (incidental_forceLogout _ _)

theorem keeps_account (request : AccountRequest) :
    KeepsOwners (request.handle app) world fun _ _ => True := by
  cases request with
  | auth request => exact keeps_auth request
  | impersonateUser adminUserId targetUserId =>
      exact keeps_discard (keeps_of_same (sameOwners_impersonateUser _ _))
  | deleteAccount userId password =>
      exact keeps_of_incidental (incidental_deleteAccount userId password)

/-! ## Searches -/

theorem keeps_own (userId : UserId) (request : OwnRequest) :
    KeepsOwners (request.handle app userId) world fun _ _ => True := by
  cases request with
  | getSearchJob jobId => exact keeps_of_incidental (incidental_getSearchJob _ _)
  | cancelSearchJob jobId => exact keeps_of_incidental (incidental_cancelSearchJob _ _)
  | getMoreLeads jobId count => exact keeps_of_incidental (incidental_getMoreLeads _ _ _)
  | updateResultReviewStatus jobId resultId reviewStatus =>
      exact keeps_of_incidental (incidental_updateResultReviewStatus _ _ _ _)
  | trustDevice deviceId =>
      refine keeps_of_incidental (Respects.bind (incidental_trust _ _) fun device => ?_)
      exact Respects.bind (incidental_record _ _) fun _ => Respects.pure _
  | removeDevice deviceId => exact keeps_removeDevice _ _

theorem keeps_aiSearch (userId : UserId) (dto : AiSearchDto) :
    KeepsOwners (LeadsService.aiSearch app userId dto) world fun _ _ => True := by
  unfold LeadsService.aiSearch
  refine Sustains.bind (keeps_of_incidental (incidental_readOnly (readOnly_searchCap app userId)))
    fun cap _ _ _ => ?_
  refine Sustains.bind (keeps_attempt (fun _ _ => True) ?_) fun jobId _ _ _ => ?_
  · intro input later value after _ _ created
    split at created
    · cases created
      exact ⟨Owners.Step.search later.owners, trivial⟩
    · cases created
  · exact keeps_of_same (Respects.bind (Respects.command fun _ _ => ⟨0, rfl⟩)
      fun _ => Respects.pure _)

/-! ## The worker -/

/-- A new result is given the next id. -/
theorem keeps_createResult
    {row : Nat → LeadSearchResult}
    (named : ∀ id, (row id).id = id) :
    KeepsOwners (LeadSearchTables.createResult row) world fun _ _ => True := by
  refine keeps_attempt _ fun input later value after _ _ created => ?_
  split at created
  · cases created
    have finds := Owners.Step.find later.owners
    have results : (row later.nextId :: later.leadSearchResults).map (·.id) =
        later.owners.nextId :: later.owners.results := by
      rw [List.map_cons, named]
      rfl
    rw [← results] at finds
    exact ⟨finds, trivial⟩
  · cases created

theorem keeps_createPending
    (jobId : Nat)
    (candidates : List ApolloCandidate)
    (made : Except ApiError (List LeadSearchResult)) :
    KeepsOwners (ApolloSearchProcessor.createPending jobId candidates made) world
      fun _ _ => True := by
  induction candidates generalizing made world with
  | nil => exact keeps_of_incidental (incidental_orThrow made)
  | cons candidate rest inductionHypothesis =>
      refine Sustains.bind (?_ : KeepsOwners _ world fun _ _ => True)
        fun outcome _ _ _ => inductionHypothesis _
      refine Sustains.tryCatch ?_ fun error _ _ => Sustains.pure trivial
      exact Sustains.bind (keeps_createResult fun _ => rfl) fun _ _ _ _ => Sustains.pure trivial

theorem keeps_recordDirect
    (data : ApolloSearchJobData)
    (personName : String)
    (matched : Option EnrichedColumns) :
    KeepsOwners (ApolloSearchProcessor.recordDirect data personName matched) world
      fun _ _ => True := by
  unfold ApolloSearchProcessor.recordDirect
  refine Sustains.bind (keeps_createResult ?_) fun _ _ _ _ =>
    keeps_of_incidental (incidental_finishSearch data)
  intro id
  cases matched <;> rfl

theorem keeps_process (data : ApolloSearchJobData) :
    KeepsOwners (ApolloSearchProcessor.process data) world fun _ _ => True := by
  unfold ApolloSearchProcessor.process
  refine Sustains.tryCatch ?_ fun error _ _ => keeps_of_incidental
    (Respects.bind (incidental_updateJobStatus _ _) fun _ => Respects.pure ())
  split
  · refine Sustains.bind (keeps_of_incidental (incidental_tryReserveCredit _))
      fun reserved _ _ _ => ?_
    refine Sustains.ite (fun _ => ?_) fun _ => keeps_of_incidental
      (Respects.bind (incidental_updateJobStatus _ _) fun _ => Respects.pure ())
    refine Sustains.bind (keeps_of_incidental incidental_matchPerson) fun matched _ _ _ => ?_
    cases matched with
    | some matched =>
        exact Sustains.bind (keeps_of_incidental (incidental_orThrow _))
          fun columns _ _ _ => keeps_recordDirect _ _ _
    | none =>
        exact Sustains.bind (keeps_of_incidental (incidental_refundCredit _))
          fun _ _ _ _ => keeps_recordDirect _ _ _
  · refine Sustains.bind (keeps_of_incidental (incidental_searchPeople _ _)) fun found _ _ _ => ?_
    split
    · exact keeps_of_incidental
        (Respects.bind (incidental_updateJobStatus _ _) fun _ => Respects.pure ())
    · exact Sustains.bind (keeps_createPending _ _ _)
        fun pending _ _ _ => keeps_of_incidental (incidental_enrichAll data pending)

/-! ## Every reachable state -/

theorem keeps_tenantRequest (request : TenantRequest) :
    KeepsOwners (request.handle app) world fun _ _ => True := by
  cases request with
  | account request => exact keeps_account request
  | own userId request => exact keeps_discard (keeps_own userId request)
  | aiSearch userId dto => exact keeps_discard (keeps_aiSearch userId dto)
  | search data => exact keeps_process data

theorem Serves.keeps {service : Service Unit} (serves : Serves app service) :
    KeepsOwners service world fun _ _ => True := by
  rcases serves with ⟨request, rfl⟩ | respects
  · exact keeps_tenantRequest request
  · exact keeps_of_same (respects.mono sameOwners_elsewhere)

theorem World.Untouched.owned (untouched : world.Untouched) : world.Owned := by
  unfold World.Owned World.owners
  rw [untouched.devices, untouched.sessions, untouched.signed, untouched.leadSearchJobs,
    untouched.leadSearchResults]
  constructor <;> simp

/-- Ids and references are as they should be in every reachable state. -/
theorem World.Reached.owned (reached : world.Reached app) : world.Owned := by
  obtain ⟨start, services, schedule, untouched, serve, rfl⟩ := reached
  exact Sustains.crew untouched.owned (fun service present => (serve service present).keeps)
    schedule

end ConferenceContact
