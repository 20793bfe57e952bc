import ConferenceContact.Billing.Grants
import ConferenceContact.Leads.SearchEffects

/-!
# The requests around a search

The requests that start, extend and cancel a search, grant credits, or change
the access of a user, and the crews in which they interleave with the runs of
the worker.
-/

namespace ConferenceContact

open Process

/-! ## Checks that only read -/

/-- Every call leaves the world as it is. -/
def ReadOnly (service : Service α) : Prop :=
  service.Respects fun before after => after = before

instance : Std.Refl fun before after : World => after = before where
  refl _ := rfl

theorem readOnly_findFirstLive (product : Product) (userId : UserId) :
    ReadOnly (SubscriptionTable.findFirstLive product userId) :=
  Respects.query _

theorem readOnly_hasUnlimitedLeadFinderAccess (userId : UserId) :
    ReadOnly (LeadsService.hasUnlimitedLeadFinderAccess userId) :=
  Respects.query _

theorem readOnly_hasPaidLeadFinderAccess (app : Deployment) (userId : UserId) :
    ReadOnly (LeadsService.hasPaidLeadFinderAccess app userId) := by
  refine Respects.bind (readOnly_hasUnlimitedLeadFinderAccess userId) fun unlimited => ?_
  refine Respects.ite (Respects.pure true) ?_
  refine Respects.bind (readOnly_findFirstLive _ _) fun subscription => ?_
  refine Respects.bind (Respects.query _) fun creditPurchase => ?_
  exact Respects.bind (Respects.query _) fun now => Respects.pure _

theorem readOnly_getFreeTierStatus (app : Deployment) (userId : UserId) :
    ReadOnly (LeadsService.getFreeTierStatus app userId) := by
  refine Respects.bind (readOnly_hasPaidLeadFinderAccess app userId) fun isPaidTier => ?_
  refine Respects.ite (Respects.pure _) ?_
  exact Respects.bind (Respects.query _) fun searchesUsedToday => Respects.pure _

theorem readOnly_creditsOrThrow (userId : UserId) :
    ReadOnly (LeadsService.creditsOrThrow userId) := by
  refine Respects.attempt fun input world value after found => ?_
  split at found
  · cases found
    rfl
  · cases found

theorem readOnly_searchCap (app : Deployment) (userId : UserId) :
    ReadOnly (LeadsService.searchCap app userId) := by
  refine Respects.bind (readOnly_creditsOrThrow userId) fun credits => ?_
  refine Respects.bind (readOnly_hasUnlimitedLeadFinderAccess userId) fun hasUnlimited => ?_
  refine Respects.ite (Respects.throw _) ?_
  refine Respects.bind (readOnly_getFreeTierStatus app userId) fun freeTier => ?_
  exact Respects.ite (Respects.throw _) (Respects.pure _)

theorem readOnly_extension
    (app : Deployment)
    (userId : UserId)
    (jobId : Nat)
    (count : Option Nat) :
    ReadOnly (LeadsService.extension app userId jobId count) := by
  refine Respects.bind (Respects.query _) fun found => ?_
  split
  · refine Respects.ite (Respects.throw _) ?_
    refine Respects.ite (Respects.throw _) ?_
    split
    · refine Respects.bind (readOnly_hasPaidLeadFinderAccess app userId) fun paid => ?_
      refine Respects.ite (Respects.throw _) ?_
      refine Respects.bind (readOnly_creditsOrThrow userId) fun credits => ?_
      refine Respects.bind (readOnly_hasUnlimitedLeadFinderAccess userId) fun unlimited => ?_
      exact Respects.ite (Respects.throw _) (Respects.pure _)
    · exact Respects.throw _
  · exact Respects.throw _

theorem readOnly_ownSearchJob (userId : UserId) (jobId : Nat) :
    ReadOnly (LeadsService.ownSearchJob userId jobId) := by
  refine Respects.bind (Respects.query _) fun found => ?_
  split
  · exact Respects.ite (Respects.throw _) (Respects.pure _)
  · exact Respects.throw _

/-! ## Requests -/

/-- The requests that meet the runs of the worker. -/
inductive LeadRequest
  | aiSearch (userId : UserId) (dto : AiSearchDto)
  | getMoreLeads (userId : UserId) (jobId : Nat) (count : Option Nat)
  | cancelSearchJob (userId : UserId) (jobId : Nat)
  | webhook (event : StripeEvent)
  | setLeadFinderAccess (adminUserId targetUserId : UserId) (granted : Bool)

namespace LeadRequest

/-- The method behind a request. -/
def handle (app : Deployment) : LeadRequest → Service Unit
  | aiSearch userId dto => do
      let _ ← LeadsService.aiSearch app userId dto
  | getMoreLeads userId jobId count => LeadsService.getMoreLeads app userId jobId count
  | cancelSearchJob userId jobId => do
      let _ ← LeadsService.cancelSearchJob userId jobId
  | webhook event => StripeWebhookProcessor.process app event
  | setLeadFinderAccess adminUserId targetUserId granted =>
      AdminService.setLeadFinderAccess adminUserId targetUserId granted

/-- The world with a comp flag of Lead Finder set or cleared. -/
def comped (world : World) (userId : UserId) (granted : Bool) : World :=
  { world with
    users := Table.updateWhere (fun user => user.id = userId)
      (fun user => { user with adminGrantedLeadFinderAccess := granted }) world.users }

section

variable {R : World → World → Prop} [Std.Refl R]

theorem respects_updateJobStatus
    (sameUsers : ∀ before after : World, after.users = before.users → R before after)
    (id : Nat)
    (status : LeadSearchJobStatus) :
    (LeadSearchTables.updateJobStatus id status).Respects R := by
  refine Respects.attempt fun input world value after updated => ?_
  split at updated
  · cases updated
    exact sameUsers _ _ rfl
  · cases updated

/-- A request respects what leaves the users alone, what only adds credits, and its
own change of a comp flag. -/
theorem respects
    (sameUsers : ∀ before after : World, after.users = before.users → R before after)
    (onlyGrants : ∀ before after : World, OnlyGrants before after → R before after)
    (app : Deployment)
    (request : LeadRequest)
    (comps : ∀ adminUserId targetUserId granted,
      request = .setLeadFinderAccess adminUserId targetUserId granted →
      ∀ world, R world (comped world targetUserId granted)) :
    (request.handle app).Respects R := by
  have reads : ∀ before after : World, after = before → R before after := by
    intro before after same
    rw [same]
    exact Std.Refl.refl before
  have enqueues : ∀ data, (LeadSearchTables.enqueue data).Respects R :=
    fun data => Respects.command fun _ _ => sameUsers _ _ rfl
  cases request with
  | aiSearch userId dto =>
      refine Respects.bind ?_ fun _ => Respects.pure ()
      refine Respects.bind ((readOnly_searchCap app userId).mono reads) fun cap => ?_
      refine Respects.bind (Respects.attempt fun input world value after created => ?_)
        fun jobId => Respects.bind (enqueues _) fun _ => Respects.pure jobId
      split at created
      · cases created
        exact sameUsers _ _ rfl
      · cases created
  | getMoreLeads userId jobId count =>
      refine Respects.bind ((readOnly_extension app userId jobId count).mono reads)
        fun data => ?_
      exact Respects.bind (respects_updateJobStatus sameUsers _ _) fun _ => enqueues data
  | cancelSearchJob userId jobId =>
      refine Respects.bind ?_ fun _ => Respects.pure ()
      refine Respects.bind ((readOnly_ownSearchJob userId jobId).mono reads) fun job => ?_
      exact Respects.ite (Respects.pure job) (respects_updateJobStatus sameUsers _ _)
  | webhook event => exact (onlyGrants_webhook app event).mono onlyGrants
  | setLeadFinderAccess adminUserId targetUserId granted =>
      refine Respects.bind (Respects.query _) fun target => ?_
      split
      · refine Respects.bind (Respects.attempt fun input world value after updated => ?_)
          fun _ => Respects.command fun _ _ => sameUsers _ _ rfl
        split at updated
        · cases updated
        · cases updated
          exact comps adminUserId targetUserId granted rfl world
      · exact Respects.throw _

end
end LeadRequest

/-! ## Crews -/

namespace LeadFinder

/-- The runs of the worker and the requests in progress. -/
def machine : Machine (SearchRun ⊕ Service Unit) Input ApiError World :=
  SearchRun.machine.sum Process.machine

/-- Runs and requests that are about to start. -/
def crew
    (app : Deployment)
    (world : World)
    (jobs : List ApolloSearchJobData)
    (requests : List LeadRequest) : Crew (SearchRun ⊕ Service Unit) World where
  state := world
  members :=
    jobs.map (fun data => .inl (SearchRun.start data)) ++
      requests.map fun request => .inr (request.handle app)

/-- A user with one credit and a search of theirs. -/
def sampleWorld : World :=
  { users := [{ id := 0, email := "user@example.com", passwordHash := "", leadFinderCredits := 1 }]
    leadSearchJobs := [{ id := 1, userId := 0, filters := some {}, createdAt := 0 }]
    nextId := 2 }

/-- The user has credits for two people. -/
def fundedWorld : World :=
  { sampleWorld with
    users :=
      [{ id := 0, email := "user@example.com", passwordHash := "", leadFinderCredits := 2 }] }

/-- The queue job of that search. -/
def sampleJob : ApolloSearchJobData where
  jobId := 1
  userId := 0
  filters := {}
  cap := 2

/-- Apollo finds two people and reveals each of them. -/
def sampleInput : Input where
  now := 0
  apolloSearch := some [{ id := "p" }, { id := "q" }]
  apolloMatch := .person {}

/-- Turns of the members in this order. -/
def sampleTurns (members : List Nat) : List (CrewTurn Input ApiError) :=
  members.map fun member => { member, input := sampleInput }

end LeadFinder
end ConferenceContact
