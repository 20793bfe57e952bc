import ConferenceContact.Foundation.Ensures
import ConferenceContact.Foundation.Runs
import ConferenceContact.Model.Billing

/-!
# Runs of the billing services

A run is a sequence of requests handled one at a time, each delivery of a Stripe
event being a request of its own, so that events may be delayed, repeated and
reordered at will.  Between two requests Stripe's own subscriptions become
whatever Stripe makes of them, and in every request one call may be rejected.
-/

namespace ConferenceContact

open Process

/-- The requests and jobs that reach the billing services, the directory guard
and the account operations tied to them. -/
inductive BillingRequest
  | webhook (event : StripeEvent)
  | createCheckoutSession (userId : UserId) (planSlug : String)
  | cancel (userId : UserId)
  | resume (userId : UserId)
  | createLeadFinderCheckoutSession (userId : UserId) (tierSlug : String)
  | cancelLeadFinder (userId : UserId)
  | directoryAccess (user : Option AccessTokenPayload)
  | deleteAccount (userId : UserId) (password : String)
  | setDirectoryAccess (adminUserId targetUserId : UserId) (granted : Bool)

namespace BillingRequest

/-- The method behind a request. -/
def handle (app : Deployment) : BillingRequest → Service Unit
  | webhook event => StripeWebhookProcessor.process app event
  | createCheckoutSession userId planSlug => do
      let _ ← SubscriptionsService.createCheckoutSession app userId planSlug
  | cancel userId => SubscriptionsService.cancel userId
  | resume userId => SubscriptionsService.resume userId
  | createLeadFinderCheckoutSession userId tierSlug => do
      let _ ← LeadFinderBillingService.createCheckoutSession userId tierSlug
  | cancelLeadFinder userId => LeadFinderBillingService.cancel userId
  | directoryAccess user => do
      let _ ← DirectoryAccessGuard.canActivate app user
  | deleteAccount userId password => AuthService.deleteAccount app userId password
  | setDirectoryAccess adminUserId targetUserId granted =>
      AdminService.setDirectoryAccess adminUserId targetUserId granted

end BillingRequest

/-- One request of a run: what its calls read, Stripe's subscriptions at that
moment, and the position of the call that is rejected, if one is. -/
structure Occurrence where
  input : Input
  stripe : List StripeSubscription := []
  rejected : Option Nat := none
  request : BillingRequest

namespace Occurrence

/-- The world a request is handled in. -/
def arrive (occurrence : Occurrence) (world : World) : World :=
  { world with stripe := occurrence.stripe }

@[simp] theorem arrive_rows (occurrence : Occurrence) (world : World) (product : Product) :
    (occurrence.arrive world).rows product = world.rows product := by
  cases product <;> rfl

/-- The result of a request and the world it leaves. -/
def perform
    (app : Deployment)
    (world : World)
    (occurrence : Occurrence) : Except ApiError Unit × World :=
  (occurrence.request.handle app).runWithFault occurrence.input
    (occurrence.rejected.map fun position => (position, ApiError.database))
    (occurrence.arrive world)

/-- The world after a request. -/
def step (app : Deployment) (world : World) (occurrence : Occurrence) : World :=
  (perform app world occurrence).2

/-- Every occurrence ends as its request ensures. -/
theorem ensured
    {app : Deployment}
    {world : World}
    {occurrence : Occurrence}
    {post : Except ApiError Unit → World → Prop}
    (ensures : (occurrence.request.handle app).Ensures occurrence.input
      (· = ApiError.database) (occurrence.arrive world) post) :
    post (perform app world occurrence).1 (step app world occurrence) := by
  refine ensures.runWithFault _ ?_
  intro position error fault
  obtain ⟨_, -, same⟩ := Option.map_eq_some_iff.mp fault
  exact (congrArg Prod.snd same).symm

/-- Every occurrence moves the world along what its request respects, Stripe's
own changes aside. -/
theorem respected
    {R : World → World → Prop}
    [IsPreorder World R]
    {app : Deployment}
    {occurrence : Occurrence}
    (respects : (occurrence.request.handle app).Respects R)
    (world : World) :
    R (occurrence.arrive world) (step app world occurrence) :=
  respects.runWithFault _ _ _

end Occurrence

/-! ## Sample runs -/

/-- The environment's defaults. -/
def sampleDeployment : Deployment := .defaults

/-- A backend with one account, one plan and one tier. -/
def sampleBackend : World :=
  { users := [{ id := 0, email := "ann@example.com", passwordHash := "correct horse" }]
    plans := [{ id := 1, slug := "pro", name := "Pro", amountCents := 4900 }]
    leadFinderTiers :=
      [{ id := 2, slug := "starter", name := "Starter", credits := 500
         stripePriceId := some 3, amountCents := 2900 }] }

/-- A subscription of the sample account to the sample plan. -/
def sampleSubscription
    (id : StripeSubscriptionId)
    (status : StripeStatus) : StripeSubscription :=
  { id
    status
    currentPeriodStart := 0
    currentPeriodEnd := 2592000
    cancelAtPeriodEnd := false
    metadata := { userId := some 0, planId := some 1 } }

/-- An undisturbed delivery, with Stripe's subscriptions at that time. -/
def sampleDelivery
    (now : Time)
    (event : StripeEvent)
    (stripe : List StripeSubscription) : Occurrence :=
  { input := { now }, stripe, request := .webhook event }

end ConferenceContact
