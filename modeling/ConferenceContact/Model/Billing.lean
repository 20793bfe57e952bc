import ConferenceContact.Model.Auth
import Mathlib.Algebra.GroupWithZero.Nat

/-!
# Billing

`SubscriptionsService`, `LeadFinderBillingService` and the webhook processor
that calls both, over the two subscription tables and the subscriptions as
Stripe has them; the directory guard; and the account operations that touch a
subscription or the comp flag.
-/

namespace ConferenceContact

open Process Service

/-! ## Subscription rows -/

/-- The two products, each with a table of subscriptions of its own. -/
inductive Product
  | directory
  | leadFinder
  deriving DecidableEq

/-- The table of a product's subscriptions. -/
def World.rows (world : World) : Product → List SubscriptionRow
  | .directory => world.subscriptions
  | .leadFinder => world.leadFinderSubscriptions

/-- The tables with the rows of one product replaced. -/
def World.setRows (world : World) (rows : List SubscriptionRow) : Product → World
  | .directory => { world with subscriptions := rows }
  | .leadFinder => { world with leadFinderSubscriptions := rows }

/-- `status: { in: ['ACTIVE', 'TRIALING', 'PAST_DUE'] }`. -/
def SubscriptionStatus.live : SubscriptionStatus → Bool
  | trialing => true
  | active => true
  | pastDue => true
  | canceled => false
  | expired => false

/-- The partial unique index refuses a row: it is live, and so is another row
of its user. -/
def conflicts (rows : List SubscriptionRow) (row : SubscriptionRow) : Bool :=
  row.status.live && rows.any fun other =>
    other.id ≠ row.id && other.userId = row.userId && other.status.live

/-- The row of a Stripe subscription. -/
def findByStripeId
    (stripeSubscriptionId : StripeSubscriptionId)
    (rows : List SubscriptionRow) : Option SubscriptionRow :=
  rows.find? fun row => row.stripeSubscriptionId = stripeSubscriptionId

/-- The newest live row of a user. -/
def findLive (userId : UserId) (rows : List SubscriptionRow) : Option SubscriptionRow :=
  rows.find? fun row => row.userId = userId ∧ row.status.live

/-- Rewrite the row with an id, unless the index refuses the result. -/
def rewriteRow
    (id : Nat)
    (rewrite : SubscriptionRow → SubscriptionRow)
    (rows : List SubscriptionRow) : Except ApiError (List SubscriptionRow) :=
  match rows.find? fun row => row.id = id with
  | none => .error .recordNotFound
  | some row =>
      if conflicts rows (rewrite row) then .error .uniqueViolation
      else .ok (Table.updateWhere (fun other => other.id = id) rewrite rows)

namespace SubscriptionTable

variable (product : Product)

/-- `findUnique({ where: { stripeSubscriptionId } })`. -/
def findUnique
    (stripeSubscriptionId : StripeSubscriptionId) : Service (Option SubscriptionRow) :=
  query fun _ world => findByStripeId stripeSubscriptionId (world.rows product)

/-- `findFirst` of the live rows of a user, newest first. -/
def findFirstLive (userId : UserId) : Service (Option SubscriptionRow) :=
  query fun _ world => findLive userId (world.rows product)

/-- `update({ where: { id }, data })`. -/
def update
    (id : Nat)
    (rewrite : Time → SubscriptionRow → SubscriptionRow) : Service Unit :=
  attempt fun input world =>
    match rewriteRow id (rewrite input.now) (world.rows product) with
    | .ok rows => .ok ((), world.setRows rows product)
    | .error error => .error error

/-- Whether a row may refer to a user and to a plan or tier. -/
def referencesExist (world : World) (userId : UserId) (productId : PlanId) : Bool :=
  (world.users.any fun user => user.id = userId) &&
    match product with
    | .directory => world.plans.any fun plan => plan.id = productId
    | .leadFinder => world.leadFinderTiers.any fun tier => tier.id = productId

/-- `upsert({ where: { stripeSubscriptionId }, create, update })`; the new row
is given its id. -/
def upsert
    (stripeSubscriptionId : StripeSubscriptionId)
    (create : Time → Nat → SubscriptionRow)
    (rewrite : Time → SubscriptionRow → SubscriptionRow) : Service Unit :=
  attempt fun input world =>
    match findByStripeId stripeSubscriptionId (world.rows product) with
    | some row =>
        match rewriteRow row.id (rewrite input.now) (world.rows product) with
        | .ok rows => .ok ((), world.setRows rows product)
        | .error error => .error error
    | none =>
        let row := create input.now world.nextId
        if conflicts (world.rows product) row then .error .uniqueViolation
        else if referencesExist product world row.userId row.productId then
          .ok ((),
            { world.setRows (row :: world.rows product) product with
              nextId := world.nextId + 1 })
        else .error .foreignKeyViolation

/-- `updateMany({ where: { stripeSubscriptionId }, data: { status: 'CANCELED' } })`. -/
def cancelMany (stripeSubscriptionId : StripeSubscriptionId) : Service Unit :=
  command fun _ world =>
    world.setRows
      (Table.updateWhere
        (fun row => row.stripeSubscriptionId = stripeSubscriptionId)
        (fun row => { row with status := .canceled })
        (world.rows product))
      product

end SubscriptionTable

/-! ## Stripe -/

/-- `Stripe.Checkout.Session.Mode`. -/
inductive CheckoutMode
  | payment
  | subscription
  | setup
  deriving DecidableEq

/-- `Stripe.Checkout.Session`. -/
structure CheckoutSession where
  id : StripeReference
  mode : CheckoutMode
  subscription : Option StripeSubscriptionId := none
  metadata : StripeMetadata := {}
  amountTotal : Option Nat := none
  deriving DecidableEq

/-- `Stripe.Invoice`; `subscription` and `metadata` are those of
`parent.subscription_details`. -/
structure StripeInvoice where
  id : StripeReference
  subscription : Option StripeSubscriptionId := none
  metadata : StripeMetadata := {}
  amountPaid : Nat := 0
  amountDue : Nat := 0
  currency : String := "usd"
  deriving DecidableEq

/-- `Stripe.Event`, by its type. -/
inductive StripeEvent
  | checkoutSessionCompleted (session : CheckoutSession)
  | subscriptionCreated (stripeSub : StripeSubscription)
  | subscriptionUpdated (stripeSub : StripeSubscription)
  | subscriptionResumed (stripeSub : StripeSubscription)
  | subscriptionDeleted (stripeSub : StripeSubscription)
  | invoicePaid (invoice : StripeInvoice)
  | invoicePaymentFailed (invoice : StripeInvoice)
  | other
  deriving DecidableEq

/-- Stripe no longer changes such a subscription. -/
def StripeStatus.terminal : StripeStatus → Bool
  | canceled => true
  | incompleteExpired => true
  | _ => false

/-- A subscription is active, trialing or past due. -/
def StripeStatus.live : StripeStatus → Bool
  | active => true
  | trialing => true
  | pastDue => true
  | _ => false

/-- A subscription as Stripe has it. -/
def findStripe
    (id : StripeSubscriptionId)
    (subscriptions : List StripeSubscription) : Option StripeSubscription :=
  subscriptions.find? fun stripeSub => stripeSub.id = id

namespace StripeService

/-- `subscriptions.retrieve`. -/
def retrieve (id : StripeSubscriptionId) : Service StripeSubscription :=
  attempt fun _ world =>
    match findStripe id world.stripe with
    | some stripeSub => .ok (stripeSub, world)
    | none => .error .stripe

/-- A change to a subscription that has not ended. -/
def modify
    (id : StripeSubscriptionId)
    (change : StripeSubscription → StripeSubscription) : Service Unit :=
  attempt fun _ world =>
    match findStripe id world.stripe with
    | some stripeSub =>
        if stripeSub.status.terminal then .error .stripe
        else
          .ok ((),
            { world with
              stripe := Table.updateWhere (fun other => other.id = id) change
                world.stripe })
    | none => .error .stripe

/-- `subscriptions.cancel`, which ends the subscription at once. -/
def cancel (id : StripeSubscriptionId) : Service Unit :=
  modify id fun stripeSub => { stripeSub with status := .canceled }

/-- `subscriptions.update` of `cancel_at_period_end`. -/
def setCancelAtPeriodEnd (id : StripeSubscriptionId) (value : Bool) : Service Unit :=
  modify id fun stripeSub => { stripeSub with cancelAtPeriodEnd := value }

/-- `customers.create`. -/
def createCustomer : Service Nat :=
  attempt fun _ world =>
    .ok (world.nextId, { world with nextId := world.nextId + 1 })

/-- The `url` of `checkout.sessions.create`. -/
def createCheckoutSession : Service (Option String) :=
  query fun input _ => input.checkoutUrl

end StripeService

namespace StripeCustomerService

/-- `user.updateMany` of a customer id that is not set yet; whether it was set. -/
def claimStripeCustomerId (userId : UserId) (customer : Nat) : Service Bool :=
  attempt fun _ world =>
    .ok (world.users.any fun user =>
        user.id = userId ∧ user.stripeCustomerId = none,
      { world with
        users := Table.updateWhere
          (fun user => user.id = userId ∧ user.stripeCustomerId = none)
          (fun user => { user with stripeCustomerId := some customer })
          world.users })

/-- The Stripe customer of an account; of two created at once the first to be stored is
kept. -/
def getOrCreateStripeCustomer (userId : UserId) : Service Nat := do
  let user ← UsersService.findById userId
  match user.bind (·.stripeCustomerId) with
  | some customer => return customer
  | none =>
      let customer ← StripeService.createCustomer
      let claimed ← claimStripeCustomerId userId customer
      if claimed then
        return customer
      else
        let winner ← UsersService.findById userId
        return (winner.bind (·.stripeCustomerId)).getD customer

end StripeCustomerService

/-! ## Access -/

/-- The milliseconds of a day. -/
def millisecondsPerDay : Nat := 24 * 60 * 60 * 1000

/-- Whether a subscription currently grants product access. -/
def hasActiveAccess
    (app : Deployment)
    (now : Time)
    (status : SubscriptionStatus)
    (pastDueSince : Option Time) : Bool :=
  match status with
  | .active => true
  | .trialing => true
  | .pastDue =>
      match pastDueSince with
      | none => true
      | some since => now < since + app.paymentGracePeriodDays * millisecondsPerDay
  | .canceled => false
  | .expired => false

/-- Whether a subscription grants the Lead Directory. -/
def hasDirectoryAccess
    (app : Deployment)
    (now : Time)
    (status : SubscriptionStatus)
    (pastDueSince : Option Time) : Bool :=
  hasActiveAccess app now status pastDueSince || status = .canceled

namespace DirectoryAccessGuard

/-- `status: { in: ['ACTIVE', 'TRIALING', 'PAST_DUE', 'CANCELED'] }`. -/
def considers (userId : UserId) (row : SubscriptionRow) : Bool :=
  row.userId = userId ∧ row.status ≠ .expired

/-- Whether a role is that of a staff account. -/
def staff (role : Role) : Bool :=
  role = .admin ∨ role = .superAdmin

/-- Admit staff, users with comped access, and subscribers. -/
def canActivate
    (app : Deployment)
    (user : Option AccessTokenPayload) : Service Bool := do
  let some user := user | throw (.unauthorized "Unauthorized")
  if staff user.role then
    return true
  else
    let subscription ← query fun _ world =>
      world.subscriptions.find? (considers user.sub)
    let dbUser ← UsersService.findById user.sub
    let now ← dateNow
    if dbUser.any (·.adminGrantedDirectoryAccess) then
      return true
    else if subscription.any fun row =>
        hasDirectoryAccess app now row.status row.pastDueSince then
      return true
    else
      throw (.forbidden
        "An active or previous subscription is required for this feature")

end DirectoryAccessGuard

/-! ## Stripe to local rows -/

/-- The local status for a status of Stripe. -/
def mapStripeStatus : StripeStatus → SubscriptionStatus
  | .trialing => .trialing
  | .active => .active
  | .pastDue => .pastDue
  | .unpaid => .pastDue
  | .paused => .pastDue
  | .canceled => .canceled
  | .incomplete => .expired
  | .incompleteExpired => .expired

/-- `parseInt(text, 10)`, none where that is `NaN` or infinite. -/
def parseInt (text : String) : Option Int :=
  let trimmed := text.toList.dropWhile isJsWhitespace
  let (negative, unsigned) :=
    match trimmed with
    | '-' :: rest => (true, rest)
    | '+' :: rest => (false, rest)
    | _ => (false, trimmed)
  let digits := unsigned.takeWhile Char.isDigit
  let value : Nat := digits.foldl (fun value digit => 10 * value + (digit.toNat - 48)) 0
  if digits.isEmpty || 2 ^ 1024 - 2 ^ 970 ≤ value then none
  else if negative then some (-(value : Int))
  else some value

/-- `user.update` adding to the credit balance. -/
def incrementCredits (userId : UserId) (credits : Int) : Service User :=
  UsersService.update userId fun _ user =>
    { user with leadFinderCredits := user.leadFinderCredits + credits }

/-- `creditGrant.create`. -/
def createCreditGrant
    (userId : UserId)
    (credits : Int)
    (source : CreditGrantSource)
    (amountPaidCents : Option Nat)
    (stripeReference : StripeReference) : Service Unit :=
  command fun input world =>
    { world with
      creditGrants :=
        { id := world.nextId
          userId
          credits
          source
          amountPaidCents
          stripeReference := some stripeReference
          createdAt := input.now } :: world.creditGrants
      nextId := world.nextId + 1 }

namespace SubscriptionsService

variable (app : Deployment)

/-- Credit the account of a paid session with the credits in its metadata. -/
def handleCreditsCheckoutCompleted (session : CheckoutSession) : Service Unit := do
  match session.metadata.userId, session.metadata.credits.bind parseInt with
  | some userId, some credits =>
      if credits ≤ 0 then
        return ()
      else
        let _ ← incrementCredits userId credits
        createCreditGrant userId credits .creditPackPurchase session.amountTotal
          session.id
        AuditService.record (some userId) .billingCreditsPurchased
  | _, _ => return ()

/-- The columns of a Stripe subscription over those of a row. -/
def mapStripeSubToUpdate
    (stripeSub : StripeSubscription)
    (currentPastDueSince : Option Time)
    (now : Time)
    (row : SubscriptionRow) : SubscriptionRow :=
  let status := mapStripeStatus stripeSub.status
  { row with
    status
    currentPeriodStart := stripeSub.currentPeriodStart * 1000
    currentPeriodEnd := stripeSub.currentPeriodEnd * 1000
    cancelAtPeriodEnd := stripeSub.cancelAtPeriodEnd
    pastDueSince :=
      if status = .pastDue then some (currentPastDueSince.getD now) else none }

/-- The row of a subscription that has none yet. -/
def newRow
    (stripeSub : StripeSubscription)
    (userId : UserId)
    (productId : PlanId)
    (now : Time)
    (id : Nat) : SubscriptionRow :=
  let status := mapStripeStatus stripeSub.status
  { id
    userId
    productId
    stripeSubscriptionId := stripeSub.id
    status
    currentPeriodStart := stripeSub.currentPeriodStart * 1000
    currentPeriodEnd := stripeSub.currentPeriodEnd * 1000
    cancelAtPeriodEnd := stripeSub.cancelAtPeriodEnd
    pastDueSince := if status = .pastDue then some now else none }

/-- End a subscription in Stripe that the unique index refused; other errors
are thrown on. -/
def cancelDuplicate
    (stripeSubscriptionId : StripeSubscriptionId)
    (userId : UserId)
    (action : AuditAction)
    (error : ApiError) : Service Bool := do
  if error = .uniqueViolation then
    StripeService.cancel stripeSubscriptionId
    AuditService.record (some userId) action
    return false
  else
    throw error

/-- Write what an event says about a subscription into its row; a second live one of its
user is cancelled instead. -/
def syncSubscriptionFromStripe (stripeSub : StripeSubscription) : Service Unit := do
  if stripeSub.metadata.isLeadFinderTier then
    return ()
  else
    let existing ← SubscriptionTable.findUnique .directory stripeSub.id
    match stripeSub.metadata.userId, stripeSub.metadata.planId with
    | some userId, some planId =>
        let written ← tryCatch
          (do
            SubscriptionTable.upsert .directory stripeSub.id
              (newRow stripeSub userId planId)
              (mapStripeSubToUpdate stripeSub (existing.bind (·.pastDueSince)))
            return true)
          (cancelDuplicate stripeSub.id userId
            .billingDuplicateSubscriptionPrevented)
        if written then
          AuditService.record (some userId) .billingSubscriptionSynced
    | _, _ =>
        match existing with
        | none => return ()
        | some existing =>
            SubscriptionTable.update .directory existing.id
              (mapStripeSubToUpdate stripeSub existing.pastDueSince)

/-- Confirm a directory subscription by email. -/
def sendSubscriptionConfirmedEmail (stripeSub : StripeSubscription) : Service Unit := do
  if stripeSub.metadata.isLeadFinderTier then
    return ()
  else
    match stripeSub.metadata.userId, stripeSub.metadata.planId with
    | some userId, some planId =>
        let user ← UsersService.findById userId
        let plan ← query fun _ world => world.plans.find? fun plan => plan.id = planId
        match user, plan with
        | some user, some plan =>
            EmailService.enqueue (.subscriptionConfirmed user.email plan.name
              plan.amountCents (stripeSub.currentPeriodEnd * 1000))
        | _, _ => return ()
    | _, _ => return ()

/-- Whole days since a past-due streak began. -/
def daysPastDue (now : Time) (pastDueSince : Option Time) : Option Nat :=
  pastDueSince.map fun since => (now - since) / millisecondsPerDay

/-- The current subscription of a status report. -/
structure CurrentSubscription where
  status : SubscriptionStatus
  /-- The plan's name. -/
  plan : Option String
  currentPeriodEnd : Time
  cancelAtPeriodEnd : Bool
  daysPastDue : Option Nat
  deriving DecidableEq

/-- What `getStatus` reports; the status of a user without a subscription is
`NONE`. -/
structure StatusReport where
  current : Option CurrentSubscription
  hasDirectoryAccess : Bool
  deriving DecidableEq

/-- What the billing page shows: the newest subscription, and whether the directory is
open. -/
def getStatus (userId : UserId) : Service StatusReport := do
  let subscription ← query fun _ world =>
    (world.subscriptions.find? fun row => row.userId = userId).map fun row =>
      (row, world.plans.find? fun plan => plan.id = row.productId)
  let user ← UsersService.findById userId
  let now ← dateNow
  let isAdmin := user.any fun user => DirectoryAccessGuard.staff user.role
  let isComped := user.any (·.adminGrantedDirectoryAccess)
  match subscription with
  | none => return { current := none, hasDirectoryAccess := isAdmin || isComped }
  | some (row, plan) =>
      return {
        current := some
          { status := row.status
            plan := plan.map (·.name)
            currentPeriodEnd := row.currentPeriodEnd
            cancelAtPeriodEnd := row.cancelAtPeriodEnd
            daysPastDue := daysPastDue now row.pastDueSince }
        hasDirectoryAccess := isAdmin || isComped ||
          ConferenceContact.hasDirectoryAccess app now row.status row.pastDueSince }

/-- A row with its user and its plan. -/
def withUserAndPlan
    (world : World)
    (row : SubscriptionRow) : SubscriptionRow × Option User × Option Plan :=
  (row,
    world.users.find? fun user => user.id = row.userId,
    world.plans.find? fun plan => plan.id = row.productId)

/-- The columns of a failed payment over those of a row. -/
def pastDueUpdate
    (currentPastDueSince : Option Time)
    (now : Time)
    (row : SubscriptionRow) : SubscriptionRow :=
  { row with
    status := .pastDue
    pastDueSince := some (currentPastDueSince.getD now) }

/-- Start or keep a past-due streak; only its first failure is mailed. -/
def markPastDue (stripeSubscriptionId : StripeSubscriptionId) : Service Unit := do
  let existing ← query fun _ world =>
    (findByStripeId stripeSubscriptionId world.subscriptions).map
      (withUserAndPlan world)
  match existing with
  | none => return ()
  | some (existing, owner, plan) =>
      SubscriptionTable.update .directory existing.id
        (pastDueUpdate existing.pastDueSince)
      match existing.pastDueSince, owner, plan with
      | none, some owner, some plan =>
          EmailService.enqueue
            (.paymentFailed owner.email plan.name app.paymentGracePeriodDays)
      | _, _, _ => return ()

/-- `invoice.upsert` by its Stripe id. -/
def upsertInvoice
    (invoice : StripeInvoice)
    (subscriptionId : Nat)
    (status : InvoiceStatus) : Service Unit :=
  command fun input world =>
    let amountCents :=
      if invoice.amountPaid = 0 then invoice.amountDue else invoice.amountPaid
    let paidAt := if status = .paid then some input.now else none
    if world.invoices.any fun other => other.stripeInvoiceId = invoice.id then
      { world with
        invoices := Table.updateWhere
          (fun other => other.stripeInvoiceId = invoice.id)
          (fun other => { other with status, amountCents, paidAt })
          world.invoices }
    else
      { world with
        invoices :=
          { id := world.nextId
            subscriptionId
            stripeInvoiceId := invoice.id
            amountCents
            currency := invoice.currency
            status
            paidAt } :: world.invoices
        nextId := world.nextId + 1 }

/-- Write an invoice of a directory subscription; one of a Lead Finder subscription is
left alone. -/
def syncInvoiceFromStripe
    (invoice : StripeInvoice)
    (status : InvoiceStatus) : Service Unit := do
  match invoice.subscription with
  | none => return ()
  | some stripeSubscriptionId =>
      let localSub ← SubscriptionTable.findUnique .directory stripeSubscriptionId
      match localSub with
      | none =>
          let _ ← SubscriptionTable.findUnique .leadFinder stripeSubscriptionId
          return ()
      | some localSub => upsertInvoice invoice localSub.id status

/-- What an event does to the directory's subscriptions. -/
def handleWebhookEvent : StripeEvent → Service Unit
  | .checkoutSessionCompleted session => do
      match session.mode, session.subscription with
      | .payment, _ => handleCreditsCheckoutCompleted session
      | .subscription, some stripeSubscriptionId =>
          let stripeSub ← StripeService.retrieve stripeSubscriptionId
          syncSubscriptionFromStripe stripeSub
          sendSubscriptionConfirmedEmail stripeSub
      | _, _ => return ()
  | .subscriptionCreated stripeSub => syncSubscriptionFromStripe stripeSub
  | .subscriptionUpdated stripeSub => syncSubscriptionFromStripe stripeSub
  | .subscriptionResumed stripeSub => syncSubscriptionFromStripe stripeSub
  | .subscriptionDeleted stripeSub =>
      SubscriptionTable.cancelMany .directory stripeSub.id
  | .invoicePaid invoice => syncInvoiceFromStripe invoice .paid
  | .invoicePaymentFailed invoice => do
      syncInvoiceFromStripe invoice .open
      match invoice.subscription with
      | none => return ()
      | some stripeSubscriptionId => markPastDue app stripeSubscriptionId
  | .other => return ()

/-- End a lapsed subscription that a new one is to replace. -/
def replaceLapsed (existing : Option SubscriptionRow) : Service Unit := do
  match existing with
  | none => return ()
  | some existing =>
      StripeService.cancel existing.stripeSubscriptionId
      SubscriptionTable.update .directory existing.id fun _ row =>
        { row with status := .canceled, cancelAtPeriodEnd := false }

/-- Open a Checkout Session for a user and log it. -/
def openCheckout (user : User) (action : AuditAction) : Service String := do
  let _ ← StripeCustomerService.getOrCreateStripeCustomer user.id
  let some url ← StripeService.createCheckoutSession
    | throw (.badRequest "Stripe did not return a checkout URL")
  AuditService.record (some user.id) action
  return url

/-- Open a checkout for a plan, unless a subscription gives access already. -/
def createCheckoutSession (userId : UserId) (planSlug : String) : Service String := do
  let some user ← UsersService.findById userId
    | throw (.notFound "Account not found")
  let plan ← query fun _ world =>
    world.plans.find? fun plan => plan.slug = planSlug
  let some _ := plan.filter (·.isActive)
    | throw (.notFound "Plan not found")
  let existing ← SubscriptionTable.findFirstLive .directory userId
  let now ← dateNow
  if existing.any fun row => hasActiveAccess app now row.status row.pastDueSince then
    throw (.badRequest
      "You already have a subscription. Use the billing portal to change or cancel it.")
  else
    replaceLapsed existing
    openCheckout user .billingCheckoutStarted

/-- Let the live directory subscription run out. -/
def cancel (userId : UserId) : Service Unit := do
  let found ← query fun _ world =>
    (findLive userId world.subscriptions).map (withUserAndPlan world)
  let some (subscription, owner, plan) := found
    | throw (.notFound "No active subscription to cancel")
  StripeService.setCancelAtPeriodEnd subscription.stripeSubscriptionId true
  SubscriptionTable.update .directory subscription.id fun _ row =>
    { row with cancelAtPeriodEnd := true }
  AuditService.record (some userId) .billingSubscriptionCancelRequested
  match owner, plan with
  | some owner, some plan =>
      EmailService.enqueue (.cancellationScheduled owner.email plan.name
        subscription.currentPeriodEnd)
  | _, _ => return ()

/-- Undo a cancellation that has not taken effect. -/
def resume (userId : UserId) : Service Unit := do
  let subscription ← query fun _ world =>
    world.subscriptions.find? fun row =>
      row.userId = userId ∧ row.status.live ∧ row.cancelAtPeriodEnd
  let some subscription := subscription
    | throw (.notFound "No pending cancellation to undo")
  StripeService.setCancelAtPeriodEnd subscription.stripeSubscriptionId false
  SubscriptionTable.update .directory subscription.id fun _ row =>
    { row with cancelAtPeriodEnd := false }
  AuditService.record (some userId) .billingSubscriptionResumed

end SubscriptionsService

/-! ## Lead Finder tiers -/

namespace LeadFinderBillingService

variable (app : Deployment)

/-- `leadFinderTier.findUnique({ where: { id } })`. -/
def findTier (tierId : PlanId) : Service (Option LeadFinderTier) :=
  query fun _ world => world.leadFinderTiers.find? fun tier => tier.id = tierId

/-- The row of a subscription that has none yet, in a past-due streak since
`currentPastDueSince` or now. -/
def newRow
    (stripeSub : StripeSubscription)
    (userId : UserId)
    (tierId : PlanId)
    (currentPastDueSince : Option Time)
    (now : Time)
    (id : Nat) : SubscriptionRow :=
  { SubscriptionsService.newRow stripeSub userId tierId now id with
    pastDueSince :=
      if mapStripeStatus stripeSub.status = .pastDue then
        some (currentPastDueSince.getD now)
      else none }

/-- Mail the first failure of a past-due streak. -/
def mailFirstFailure
    (isFirstFailure : Bool)
    (userId : UserId)
    (tierId : PlanId) : Service Unit := do
  if isFirstFailure then
    let user ← UsersService.findById userId
    let tier ← findTier tierId
    match user, tier with
    | some user, some tier =>
        EmailService.enqueue (.paymentFailed user.email ("Lead Finder " ++ tier.name)
          app.paymentGracePeriodDays)
    | _, _ => return ()

/-- Write what an event says about a Lead Finder subscription into its row. -/
def syncFromStripe (stripeSub : StripeSubscription) : Service Unit := do
  match stripeSub.metadata.userId, stripeSub.metadata.tierId with
  | some userId, some tierId =>
      let existing ← SubscriptionTable.findUnique .leadFinder stripeSub.id
      let pastDueSince := existing.bind (·.pastDueSince)
      let isFirstFailure :=
        decide (mapStripeStatus stripeSub.status = .pastDue) && pastDueSince.isNone
      let _ ← tryCatch
        (do
          SubscriptionTable.upsert .leadFinder stripeSub.id
            (newRow stripeSub userId tierId pastDueSince)
            (SubscriptionsService.mapStripeSubToUpdate stripeSub pastDueSince)
          mailFirstFailure app isFirstFailure userId tierId
          return true)
        (SubscriptionsService.cancelDuplicate stripeSub.id userId
          .billingDuplicateLeadFinderSubscriptionPrevented)
      return ()
  | _, _ => return ()

/-- Confirm a Lead Finder subscription by email. -/
def sendSubscriptionConfirmedEmail (stripeSub : StripeSubscription) : Service Unit := do
  match stripeSub.metadata.userId, stripeSub.metadata.tierId with
  | some userId, some tierId =>
      let user ← UsersService.findById userId
      let tier ← findTier tierId
      match user, tier with
      | some user, some tier =>
          EmailService.enqueue (.subscriptionConfirmed user.email
            ("AI Lead Finder — " ++ tier.name) tier.amountCents
            (stripeSub.currentPeriodEnd * 1000))
      | _, _ => return ()
  | _, _ => return ()

/-- The monthly top-up of a paid Lead Finder invoice. -/
def grantMonthlyCredits (invoice : StripeInvoice) : Service Unit := do
  if !invoice.metadata.isLeadFinderTier then
    return ()
  else
    match invoice.metadata.userId, invoice.metadata.tierId with
    | some userId, some tierId =>
        let tier ← findTier tierId
        match tier with
        | none => return ()
        | some tier =>
            let _ ← incrementCredits userId tier.credits
            createCreditGrant userId tier.credits .leadFinderTierGrant
              (some invoice.amountPaid) invoice.id
            AuditService.record (some userId) .billingLeadFinderCreditsGranted
    | _, _ => return ()

/-- A subscription event of a Lead Finder tier; others are ignored. -/
def syncIfLeadFinder (stripeSub : StripeSubscription) : Service Unit :=
  if stripeSub.metadata.isLeadFinderTier then syncFromStripe app stripeSub
  else return ()

/-- What an event does to the Lead Finder's subscriptions. -/
def handleWebhookEvent : StripeEvent → Service Unit
  | .checkoutSessionCompleted session => do
      match session.mode, session.subscription with
      | .subscription, some stripeSubscriptionId =>
          if session.metadata.isLeadFinderTier then
            let stripeSub ← StripeService.retrieve stripeSubscriptionId
            syncFromStripe app stripeSub
            sendSubscriptionConfirmedEmail stripeSub
      | _, _ => return ()
  | .subscriptionCreated stripeSub => syncIfLeadFinder app stripeSub
  | .subscriptionUpdated stripeSub => syncIfLeadFinder app stripeSub
  | .subscriptionResumed stripeSub => syncIfLeadFinder app stripeSub
  | .subscriptionDeleted stripeSub =>
      SubscriptionTable.cancelMany .leadFinder stripeSub.id
  | .invoicePaid invoice => grantMonthlyCredits invoice
  | .invoicePaymentFailed _ => return ()
  | .other => return ()

/-- Open a checkout for a tier, unless a subscription is live already. -/
def createCheckoutSession (userId : UserId) (tierSlug : String) : Service String := do
  let some user ← UsersService.findById userId
    | throw (.notFound "Account not found")
  let tier ← query fun _ world =>
    world.leadFinderTiers.find? fun tier => tier.slug = tierSlug
  let some _ := tier.filter fun tier =>
      tier.isActive && tier.recurring && tier.stripePriceId.isSome
    | throw (.badRequest "This plan is not available for checkout")
  let existing ← SubscriptionTable.findFirstLive .leadFinder userId
  if existing.isSome then
    throw (.badRequest
      "You already have a Lead Finder plan. Use the billing portal to change or cancel it.")
  else
    SubscriptionsService.openCheckout user .billingLeadFinderCheckoutStarted

/-- Let the live Lead Finder subscription run out. -/
def cancel (userId : UserId) : Service Unit := do
  let some subscription ← SubscriptionTable.findFirstLive .leadFinder userId
    | throw (.notFound "No active Lead Finder plan to cancel")
  StripeService.setCancelAtPeriodEnd subscription.stripeSubscriptionId true
  SubscriptionTable.update .leadFinder subscription.id fun _ row =>
    { row with cancelAtPeriodEnd := true }
  AuditService.record (some userId) .billingLeadFinderCancelRequested

end LeadFinderBillingService

namespace StripeWebhookProcessor

/-- Both services see every event. -/
def process (app : Deployment) (event : StripeEvent) : Service Unit := do
  SubscriptionsService.handleWebhookEvent app event
  LeadFinderBillingService.handleWebhookEvent app event

end StripeWebhookProcessor

/-! ## Accounts -/

namespace AuthService

/-- End the subscription of an account in Stripe. -/
def endSubscription (activeSubscription : Option SubscriptionRow) : Service Unit :=
  match activeSubscription with
  | none => return ()
  | some subscription => StripeService.cancel subscription.stripeSubscriptionId

/-- The subscription rows an account deletion leaves. -/
def rowsAfterDeletion
    (activeSubscription : Option SubscriptionRow)
    (rows : List SubscriptionRow) : Except ApiError (List SubscriptionRow) :=
  match activeSubscription with
  | none => .ok rows
  | some subscription =>
      rewriteRow subscription.id
        (fun row => { row with status := .canceled, cancelAtPeriodEnd := false })
        rows

/-- The transaction of an account deletion. -/
def eraseAccount
    (userId : UserId)
    (activeSubscription : Option SubscriptionRow) : Service Unit :=
  attempt fun input world =>
    match rowsAfterDeletion activeSubscription world.subscriptions with
    | .error error => .error error
    | .ok subscriptions =>
        if world.users.any fun user => user.id = userId then
          .ok ((),
            { world with
              subscriptions
              sessions := Table.updateWhere
                (fun session => session.userId = userId ∧ session.revokedAt = none)
                (fun session => { session with revokedAt := some input.now })
                world.sessions
              users := Table.updateWhere (fun user => user.id = userId)
                (fun user =>
                  { user with
                    status := .deleted
                    deletedAt := some input.now
                    email := AdminService.deletedEmail userId })
                world.users })
        else .error .recordNotFound

/-- An account's own deletion, after its password has been checked. -/
def eraseSubscriber (app : Deployment) (userId : UserId) : Service Unit := do
  let activeSubscription ← SubscriptionTable.findFirstLive .directory userId
  endSubscription activeSubscription
  eraseAccount userId activeSubscription
  TokenRevocationService.revokeUser app userId
  AuditService.record (some userId) .authAccountDeletionRequested

/-- Erase the account of the user, for the password. -/
def deleteAccount
    (app : Deployment)
    (userId : UserId)
    (password : String) : Service Unit := do
  let some user ← UsersService.findById userId
    | throw (.unauthorized "Unauthorized")
  if app.argon2Verify user.passwordHash password then
    eraseSubscriber app userId
  else
    throw (.unauthorized "Incorrect password")

end AuthService

namespace AdminService

/-- Grant or take away access to the directory without a subscription. -/
def setDirectoryAccess
    (adminUserId targetUserId : UserId)
    (granted : Bool) : Service Unit := do
  let some _ ← UsersService.findById targetUserId
    | throw (.notFound "User not found")
  let _ ← UsersService.update targetUserId fun _ user =>
    { user with adminGrantedDirectoryAccess := granted }
  AuditService.record (some adminUserId)
    (if granted then .adminDirectoryAccessGranted
      else .adminDirectoryAccessRevoked)

end AdminService
end ConferenceContact
