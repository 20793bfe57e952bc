import ConferenceContact.Billing.Frames

/-!
# What one call of a request changes

`Change` lists every change that a call of a request makes to the world: which
requests enqueue which emails, write which invoice, and add credits.  Whatever
holds of each of these changes holds of the request.
-/

namespace ConferenceContact

open Process

/-! ## Emails, invoices and credits of an event -/

/-- The emails an event may enqueue. -/
def StripeEvent.mails : StripeEvent → EmailJob → Bool
  | checkoutSessionCompleted session, .subscriptionConfirmed _ _ _ _ =>
      session.mode = .subscription
  | checkoutSessionCompleted session, .paymentFailed _ _ _ =>
      session.metadata.isLeadFinderTier
  | subscriptionCreated stripeSub, .paymentFailed _ _ _ =>
      stripeSub.metadata.isLeadFinderTier
  | subscriptionUpdated stripeSub, .paymentFailed _ _ _ =>
      stripeSub.metadata.isLeadFinderTier
  | subscriptionResumed stripeSub, .paymentFailed _ _ _ =>
      stripeSub.metadata.isLeadFinderTier
  | invoicePaymentFailed _, .paymentFailed _ _ _ => true
  | _, _ => false

/-- The invoice an event reports, and the status it gives its row. -/
def StripeEvent.bills : StripeEvent → Option (StripeInvoice × InvoiceStatus)
  | invoicePaid invoice => some (invoice, .paid)
  | invoicePaymentFailed invoice => some (invoice, .open)
  | _ => none

/-- The world with an invoice as `invoice.upsert` leaves it. -/
def World.billed
    (world : World)
    (now : Time)
    (invoice : StripeInvoice)
    (subscriptionId : Nat)
    (status : InvoiceStatus) : World :=
  ((SubscriptionsService.upsertInvoice invoice subscriptionId status).run { now } world).2

/-- The world with credits added to the balance of a user. -/
def World.credited (world : World) (userId : UserId) (credits : Int) : World :=
  { world with
    users := Table.updateWhere (fun user => user.id = userId)
      (fun user => { user with leadFinderCredits := user.leadFinderCredits + credits })
      world.users }

/-! ## Changes -/

/-- What a request may do besides changing Stripe's subscriptions and the audit log. -/
structure Allowance where
  /-- The products whose rows may be written. -/
  writes : Product → Bool := fun _ => true
  mails : EmailJob → Bool := fun _ => false
  bills : Option (StripeInvoice × InvoiceStatus) := none
  creditReference : Option StripeReference := none
  /-- Whether accounts and sessions may change. -/
  accounts : Bool := false

/-- What a call may do to the world. -/
inductive Change (allowed : Allowance) : World → World → Prop
  | stay (world : World) : Change allowed world world
  | rows
      (world : World)
      {product : Product}
      (writes : allowed.writes product = true)
      (rows : List SubscriptionRow)
      {nextId : Nat}
      (supply : world.nextId ≤ nextId) :
      Change allowed world { world.setRows rows product with nextId }
  | fresh (world : World) {nextId : Nat} (supply : world.nextId ≤ nextId) :
      Change allowed world { world with nextId }
  | stripe (world : World) (stripe : List StripeSubscription) :
      Change allowed world { world with stripe }
  | audit (world : World) (entry : AuditEntry) :
      Change allowed world { world with auditLogs := entry :: world.auditLogs }
  | mail (world : World) {job : EmailJob} (mails : allowed.mails job = true) :
      Change allowed world { world with outbox := job :: world.outbox }
  | invoice
      (world : World)
      {invoice : StripeInvoice}
      {status : InvoiceStatus}
      (bills : allowed.bills = some (invoice, status))
      (now : Time)
      (subscriptionId : Nat) :
      Change allowed world (world.billed now invoice subscriptionId status)
  | credit
      (world : World)
      (creditable : allowed.creditReference.isSome = true)
      (userId : UserId)
      {credits : Int}
      (nonneg : 0 ≤ credits) :
      Change allowed world (world.credited userId credits)
  | grant
      (world : World)
      (grant : CreditGrant)
      (creditable : allowed.creditReference = grant.stripeReference) :
      Change allowed world (world.granted grant)
  /-- A change of accounts, with the sessions, rows and keys that go with it. -/
  | account
      (world : World)
      (own : allowed.accounts = true)
      (users : List User)
      (sessions : List Session)
      (subscriptions : List SubscriptionRow)
      (redis : List RedisEntry) :
      Change allowed world { world with users, sessions, subscriptions, redis }

/-- What an event may do in the hands of the services that write some tables. -/
def StripeEvent.allowance
    (writes : Product → Bool)
    (event : StripeEvent) : Allowance where
  writes
  mails := event.mails
  bills := event.bills
  creditReference := event.creditReference

/-- What a request may change besides the rows of subscriptions. -/
def BillingRequest.allowance : BillingRequest → Allowance
  | webhook event => event.allowance fun _ => true
  | cancel _ =>
      { mails := fun job =>
          match job with
          | .cancellationScheduled _ _ _ => true
          | _ => false
        accounts := true }
  | _ => { accounts := true }

/-! ## The calls of the services -/

section

variable {allowed : Allowance}

/-- A call may always leave the world alone. -/
instance : Std.Refl (Change allowed) where
  refl := .stay

/-- Rows may be rewritten without taking a fresh id. -/
theorem Change.setRows
    (world : World)
    (rows : List SubscriptionRow)
    {product : Product}
    (writes : allowed.writes product = true) :
    Change allowed world (world.setRows rows product) := by
  cases product with
  | directory => exact .rows world writes rows (Nat.le_refl _)
  | leadFinder => exact .rows world writes rows (Nat.le_refl _)

/-- A service that writes some tables makes no other changes than one that writes all. -/
theorem Change.anyTable
    {writes : Product → Bool}
    {event : StripeEvent}
    {before after : World}
    (change : Change (event.allowance writes) before after) :
    Change (event.allowance fun _ => true) before after := by
  cases change with
  | stay => exact .stay before
  | rows _ rows supply => exact .rows before rfl rows supply
  | fresh supply => exact .fresh before supply
  | stripe stripe => exact .stripe before stripe
  | audit entry => exact .audit before entry
  | mail mails => exact .mail before mails
  | invoice bills now subscriptionId =>
      have bills : (event.allowance fun _ => true).bills = _ := bills
      exact .invoice before bills now subscriptionId
  | credit creditable userId nonneg =>
      have creditable : (event.allowance fun _ => true).creditReference.isSome = true := creditable
      exact .credit before creditable userId nonneg
  | grant grant creditable => exact .grant before grant creditable
  | account own => cases own

theorem changes_record (actor : Option UserId) (action : AuditAction) :
    (AuditService.record actor action).Respects (Change allowed) :=
  Respects.command fun _ world => .audit world _

theorem changes_enqueue {job : EmailJob} (mails : allowed.mails job = true) :
    (EmailService.enqueue job).Respects (Change allowed) := by
  refine Respects.tryCatch (Respects.command fun input world => ?_) fun _ => Respects.pure ()
  split
  · exact .mail world mails
  · exact .stay world

theorem changes_update
    {product : Product}
    (writes : allowed.writes product = true)
    (id : Nat)
    (rewrite : Time → SubscriptionRow → SubscriptionRow) :
    (SubscriptionTable.update product id rewrite).Respects (Change allowed) := by
  refine Respects.attempt fun input world value after updated => ?_
  split at updated
  · cases updated
    exact .setRows world _ writes
  · cases updated

theorem changes_upsert
    {product : Product}
    (writes : allowed.writes product = true)
    (stripeSubscriptionId : StripeSubscriptionId)
    (create : Time → Nat → SubscriptionRow)
    (rewrite : Time → SubscriptionRow → SubscriptionRow) :
    (SubscriptionTable.upsert product stripeSubscriptionId create rewrite).Respects
      (Change allowed) := by
  refine Respects.attempt fun input world value after updated => ?_
  split at updated
  · split at updated
    · cases updated
      exact .setRows world _ writes
    · cases updated
  · dsimp only at updated
    split at updated
    · cases updated
    · split at updated
      · cases updated
        exact .rows world writes _ (Nat.le_succ _)
      · cases updated

theorem changes_cancelMany
    {product : Product}
    (writes : allowed.writes product = true)
    (stripeSubscriptionId : StripeSubscriptionId) :
    (SubscriptionTable.cancelMany product stripeSubscriptionId).Respects (Change allowed) :=
  Respects.command fun _ world => .setRows world _ writes

theorem changes_modifyStripe
    (id : StripeSubscriptionId)
    (change : StripeSubscription → StripeSubscription) :
    (StripeService.modify id change).Respects (Change allowed) :=
  Footprint.modify (fun world _ => .stripe world _) id change

theorem changes_cancelDuplicate
    (id : StripeSubscriptionId)
    (userId : UserId)
    (action : AuditAction)
    (error : ApiError) :
    (SubscriptionsService.cancelDuplicate id userId action error).Respects
      (Change allowed) := by
  refine Respects.ite ?_ (Respects.throw error)
  refine Respects.bind (changes_modifyStripe _ _) fun _ => ?_
  exact Respects.bind (changes_record _ _) fun _ => Respects.pure false

theorem changes_syncSubscriptionFromStripe
    (writes : allowed.writes .directory = true)
    (stripeSub : StripeSubscription) :
    (SubscriptionsService.syncSubscriptionFromStripe stripeSub).Respects (Change allowed) := by
  refine Respects.ite (Respects.pure ()) ?_
  refine Respects.bind (Respects.query _) fun existing => ?_
  split
  · refine Respects.bind (Respects.tryCatch ?_ (changes_cancelDuplicate _ _ _)) fun written => ?_
    · exact Respects.bind (changes_upsert writes _ _ _) fun _ => Respects.pure true
    · exact Respects.ite (changes_record _ _) (Respects.pure ())
  · split
    · exact Respects.pure ()
    · exact changes_update writes _ _

/-- The confirmation of either product. -/
theorem changes_sendSubscriptionConfirmedEmail
    (mails : ∀ recipient productLabel amountCents renewsAt, allowed.mails
      (.subscriptionConfirmed recipient productLabel amountCents renewsAt) = true)
    (stripeSub : StripeSubscription) :
    (SubscriptionsService.sendSubscriptionConfirmedEmail stripeSub).Respects
        (Change allowed) ∧
      (LeadFinderBillingService.sendSubscriptionConfirmedEmail stripeSub).Respects
        (Change allowed) := by
  constructor
  · refine Respects.ite (Respects.pure ()) ?_
    split
    · refine Respects.bind (Respects.query _) fun user => ?_
      refine Respects.bind (Respects.query _) fun plan => ?_
      split
      · exact changes_enqueue (mails _ _ _ _)
      · exact Respects.pure ()
    · exact Respects.pure ()
  · unfold LeadFinderBillingService.sendSubscriptionConfirmedEmail
    split
    · refine Respects.bind (Respects.query _) fun user => ?_
      refine Respects.bind (Respects.query _) fun tier => ?_
      split
      · exact changes_enqueue (mails _ _ _ _)
      · exact Respects.pure ()
    · exact Respects.pure ()

theorem changes_markPastDue
    (writes : allowed.writes .directory = true)
    (mails : ∀ recipient productLabel gracePeriodDays,
      allowed.mails (.paymentFailed recipient productLabel gracePeriodDays) = true)
    (app : Deployment)
    (stripeSubscriptionId : StripeSubscriptionId) :
    (SubscriptionsService.markPastDue app stripeSubscriptionId).Respects (Change allowed) := by
  refine Respects.bind (Respects.query _) fun existing => ?_
  split
  · exact Respects.pure ()
  · refine Respects.bind (changes_update writes _ _) fun _ => ?_
    split
    · exact changes_enqueue (mails _ _ _)
    · exact Respects.pure ()

theorem changes_syncFromStripe
    (writes : allowed.writes .leadFinder = true)
    (mails : ∀ recipient productLabel gracePeriodDays,
      allowed.mails (.paymentFailed recipient productLabel gracePeriodDays) = true)
    (app : Deployment)
    (stripeSub : StripeSubscription) :
    (LeadFinderBillingService.syncFromStripe app stripeSub).Respects (Change allowed) := by
  unfold LeadFinderBillingService.syncFromStripe
  split
  · refine Respects.bind (Respects.query _) fun existing => ?_
    refine Respects.bind (Respects.tryCatch ?_ (changes_cancelDuplicate _ _ _)) fun _ =>
      Respects.pure ()
    refine Respects.bind (changes_upsert writes _ _ _) fun _ => ?_
    refine Respects.bind (Respects.ite ?_ (Respects.pure ())) fun _ => Respects.pure true
    refine Respects.bind (Respects.query _) fun user => ?_
    refine Respects.bind (Respects.query _) fun tier => ?_
    split
    · exact changes_enqueue (mails _ _ _)
    · exact Respects.pure ()
  · exact Respects.pure ()

theorem changes_syncInvoiceFromStripe
    {invoice : StripeInvoice}
    {status : InvoiceStatus}
    (bills : allowed.bills = some (invoice, status)) :
    (SubscriptionsService.syncInvoiceFromStripe invoice status).Respects (Change allowed) := by
  unfold SubscriptionsService.syncInvoiceFromStripe
  split
  · exact Respects.pure ()
  · refine Respects.bind (Respects.query _) fun localSub => ?_
    split
    · exact Respects.bind (Respects.query _) fun _ => Respects.pure ()
    · exact Respects.command fun input world => .invoice world bills input.now _

/-- A credited amount, its grant and its audit entry. -/
theorem changes_creditAndGrant
    {reference : StripeReference}
    (creditable : allowed.creditReference = some reference)
    (userId : UserId)
    {credits : Int}
    (nonneg : 0 ≤ credits)
    (source : CreditGrantSource)
    (amountPaidCents : Option Nat)
    (action : AuditAction) :
    (do
      let _ ← incrementCredits userId credits
      createCreditGrant userId credits source amountPaidCents reference
      AuditService.record (some userId) action : Service Unit).Respects (Change allowed) := by
  refine Respects.bind (Respects.attempt fun input world value after updated => ?_) fun _ => ?_
  · split at updated
    · cases updated
    · cases updated
      exact .credit world (by rw [creditable]; rfl) userId nonneg
  · refine Respects.bind (Respects.command fun input world => ?_) fun _ => changes_record _ _
    exact .grant world _ creditable

/-! ## Webhook events -/

theorem changes_handleWebhookEvent (app : Deployment) (event : StripeEvent) :
    (SubscriptionsService.handleWebhookEvent app event).Respects
      (Change (event.allowance (· = .directory))) := by
  cases event with
  | checkoutSessionCompleted session =>
      unfold SubscriptionsService.handleWebhookEvent
      dsimp only
      split
      · rename_i _ _ payment
        unfold SubscriptionsService.handleCreditsCheckoutCompleted
        split
        · rename_i userId credits _ _
          split
          · exact Respects.pure ()
          · rename_i positive
            exact changes_creditAndGrant (if_pos payment) userId
              (Int.le_of_lt (Int.not_le.mp positive)) _ _ _
        · exact Respects.pure ()
      · rename_i _ _ _ subscription _
        refine Respects.bind (Footprint.retrieve _) fun stripeSub => ?_
        refine Respects.bind (changes_syncSubscriptionFromStripe rfl _) fun _ => ?_
        refine (changes_sendSubscriptionConfirmedEmail ?_ stripeSub).1
        exact fun _ _ _ _ => decide_eq_true subscription
      · exact Respects.pure ()
  | subscriptionCreated stripeSub => exact changes_syncSubscriptionFromStripe rfl stripeSub
  | subscriptionUpdated stripeSub => exact changes_syncSubscriptionFromStripe rfl stripeSub
  | subscriptionResumed stripeSub => exact changes_syncSubscriptionFromStripe rfl stripeSub
  | subscriptionDeleted stripeSub => exact changes_cancelMany rfl _
  | invoicePaid invoice => exact changes_syncInvoiceFromStripe rfl
  | invoicePaymentFailed invoice =>
      refine Respects.bind (changes_syncInvoiceFromStripe rfl) fun _ => ?_
      cases invoice.subscription with
      | none => exact Respects.pure ()
      | some stripeSubscriptionId => exact changes_markPastDue rfl (fun _ _ _ => rfl) _ _
  | other => exact Respects.pure ()

theorem changes_syncIfLeadFinder
    (writes : allowed.writes .leadFinder = true)
    {stripeSub : StripeSubscription}
    (mails : ∀ recipient productLabel gracePeriodDays,
      stripeSub.metadata.isLeadFinderTier = true →
        allowed.mails (.paymentFailed recipient productLabel gracePeriodDays) = true)
    (app : Deployment) :
    (LeadFinderBillingService.syncIfLeadFinder app stripeSub).Respects (Change allowed) := by
  unfold LeadFinderBillingService.syncIfLeadFinder
  split
  · rename_i isLeadFinder
    exact changes_syncFromStripe writes (fun _ _ _ => mails _ _ _ isLeadFinder) app stripeSub
  · exact Respects.pure ()

theorem changes_grantMonthlyCredits
    {invoice : StripeInvoice}
    (creditable : invoice.metadata.isLeadFinderTier = true →
      allowed.creditReference = some invoice.id) :
    (LeadFinderBillingService.grantMonthlyCredits invoice).Respects (Change allowed) := by
  unfold LeadFinderBillingService.grantMonthlyCredits
  split
  · exact Respects.pure ()
  · rename_i isLeadFinder
    rw [Bool.not_eq_true, Bool.not_eq_false'] at isLeadFinder
    split
    · refine Respects.bind (Respects.query _) fun tier => ?_
      split
      · exact Respects.pure ()
      · exact changes_creditAndGrant (creditable isLeadFinder) _ (Int.natCast_nonneg _) _ _ _
    · exact Respects.pure ()

theorem changes_handleLeadFinderWebhookEvent (app : Deployment) (event : StripeEvent) :
    (LeadFinderBillingService.handleWebhookEvent app event).Respects
      (Change (event.allowance (· = .leadFinder))) := by
  cases event with
  | checkoutSessionCompleted session =>
      unfold LeadFinderBillingService.handleWebhookEvent
      dsimp only
      split
      · rename_i _ _ _ subscription _
        split
        · rename_i isLeadFinder
          refine Respects.bind (Footprint.retrieve _) fun stripeSub => ?_
          refine Respects.bind (changes_syncFromStripe rfl ?_ _ _) fun _ => ?_
          · exact fun _ _ _ => isLeadFinder
          · refine (changes_sendSubscriptionConfirmedEmail ?_ stripeSub).2
            exact fun _ _ _ _ => decide_eq_true subscription
        · exact Respects.pure ()
      · exact Respects.pure ()
  | subscriptionCreated stripeSub =>
      exact changes_syncIfLeadFinder rfl (fun _ _ _ isLeadFinder => isLeadFinder) app
  | subscriptionUpdated stripeSub =>
      exact changes_syncIfLeadFinder rfl (fun _ _ _ isLeadFinder => isLeadFinder) app
  | subscriptionResumed stripeSub =>
      exact changes_syncIfLeadFinder rfl (fun _ _ _ isLeadFinder => isLeadFinder) app
  | subscriptionDeleted stripeSub => exact changes_cancelMany rfl _
  | invoicePaid invoice => exact changes_grantMonthlyCredits fun isLeadFinder => if_pos isLeadFinder
  | invoicePaymentFailed invoice => exact Respects.pure ()
  | other => exact Respects.pure ()

/-! ## Other requests -/

theorem changes_updateUser
    (own : allowed.accounts = true)
    (id : UserId)
    (rewrite : Time → User → User) :
    (UsersService.update id rewrite).Respects (Change allowed) :=
  Footprint.updateUser fun _ world =>
    .account world own _ world.sessions world.subscriptions world.redis

theorem changes_getOrCreateStripeCustomer
    (own : allowed.accounts = true)
    (userId : UserId) :
    (StripeCustomerService.getOrCreateStripeCustomer userId).Respects (Change allowed) := by
  refine Respects.bind (Respects.query _) fun user => ?_
  split
  · exact Respects.pure _
  · refine Respects.bind (Respects.attempt ?_) fun customer => ?_
    · rintro input world value after ⟨⟩
      exact .fresh world (Nat.le_succ _)
    · refine Respects.bind (Respects.attempt ?_) fun claimed => ?_
      · rintro input world value after ⟨⟩
        exact .account world own _ world.sessions world.subscriptions world.redis
      · refine Respects.ite (Respects.pure customer) ?_
        exact Respects.bind (Respects.query _) fun _ => Respects.pure _

theorem changes_openCheckout
    (own : allowed.accounts = true)
    (user : User)
    (action : AuditAction) :
    (SubscriptionsService.openCheckout user action).Respects (Change allowed) := by
  refine Respects.bind (changes_getOrCreateStripeCustomer own _) fun _ => ?_
  refine Respects.bind (Respects.query _) fun url => ?_
  split
  · exact Respects.bind (changes_record _ _) fun _ => Respects.pure _
  · exact Respects.throw _

theorem changes_createCheckoutSession
    (writes : allowed.writes .directory = true)
    (own : allowed.accounts = true)
    (app : Deployment)
    (userId : UserId)
    (planSlug : String) :
    (SubscriptionsService.createCheckoutSession app userId planSlug).Respects
      (Change allowed) := by
  refine Respects.bind (Respects.query _) fun user => ?_
  split
  · refine Respects.bind (Respects.query _) fun plan => ?_
    split
    · refine Respects.bind (Respects.query _) fun existing => ?_
      refine Respects.bind (Respects.query _) fun now => ?_
      split
      · exact Respects.throw _
      · refine Respects.bind ?_ fun _ => changes_openCheckout own _ _
        cases existing with
        | none => exact Respects.pure ()
        | some row =>
            exact Respects.bind (changes_modifyStripe _ _) fun _ => changes_update writes _ _
    · exact Respects.throw _
  · exact Respects.throw _

theorem changes_createLeadFinderCheckoutSession
    (own : allowed.accounts = true)
    (userId : UserId)
    (tierSlug : String) :
    (LeadFinderBillingService.createCheckoutSession userId tierSlug).Respects
      (Change allowed) := by
  refine Respects.bind (Respects.query _) fun user => ?_
  split
  · refine Respects.bind (Respects.query _) fun tier => ?_
    split
    · refine Respects.bind (Respects.query _) fun existing => ?_
      exact Respects.ite (Respects.throw _) (changes_openCheckout own _ _)
    · exact Respects.throw _
  · exact Respects.throw _

/-- A scheduled cancellation or its end, in Stripe and in the table. -/
theorem changes_schedule
    {product : Product}
    (writes : allowed.writes product = true)
    (row : SubscriptionRow)
    (value : Bool)
    (rewrite : Time → SubscriptionRow → SubscriptionRow)
    {rest : Service Unit}
    (respects : rest.Respects (Change allowed)) :
    (do
      StripeService.setCancelAtPeriodEnd row.stripeSubscriptionId value
      SubscriptionTable.update product row.id rewrite
      rest : Service Unit).Respects (Change allowed) :=
  Respects.bind (changes_modifyStripe _ _) fun _ =>
    Respects.bind (changes_update writes _ _) fun _ => respects

theorem changes_deleteAccount
    (own : allowed.accounts = true)
    (app : Deployment)
    (userId : UserId)
    (password : String) :
    (AuthService.deleteAccount app userId password).Respects (Change allowed) := by
  refine Footprint.deleteAccount (fun world _ => .stripe world _) (fun activeSubscription => ?_)
    (Footprint.revokeUser (fun world redis => ?_) app userId) changes_record password
  · exact Footprint.eraseAccount fun _ world _ _ => .account world own _ _ _ world.redis
  · exact .account world own world.users world.sessions world.subscriptions redis

/-! ## Every request -/

/-- A request makes only its own changes. -/
theorem BillingRequest.changes (app : Deployment) (request : BillingRequest) :
    (request.handle app).Respects (Change request.allowance) := by
  cases request with
  | webhook event =>
      have directory := (changes_handleWebhookEvent app event).mono
        fun _ _ change => change.anyTable
      have leadFinder := (changes_handleLeadFinderWebhookEvent app event).mono
        fun _ _ change => change.anyTable
      exact Respects.bind directory fun _ => leadFinder
  | createCheckoutSession userId planSlug =>
      exact Respects.bind (changes_createCheckoutSession rfl rfl app userId planSlug) fun _ =>
        Respects.pure ()
  | cancel userId =>
      refine Respects.bind (Respects.query _) fun found => ?_
      split
      · refine changes_schedule rfl _ _ _ (Respects.bind (changes_record _ _) fun _ => ?_)
        split
        · exact changes_enqueue rfl
        · exact Respects.pure ()
      · exact Respects.throw _
  | resume userId =>
      refine Respects.bind (Respects.query _) fun subscription => ?_
      split
      · exact changes_schedule rfl _ _ _ (changes_record _ _)
      · exact Respects.throw _
  | createLeadFinderCheckoutSession userId tierSlug =>
      exact Respects.bind (changes_createLeadFinderCheckoutSession rfl userId tierSlug)
        fun _ => Respects.pure ()
  | cancelLeadFinder userId =>
      refine Respects.bind (Respects.query _) fun subscription => ?_
      split
      · exact changes_schedule rfl _ _ _ (changes_record _ _)
      · exact Respects.throw _
  | directoryAccess user =>
      refine Respects.bind ?_ fun _ => Respects.pure ()
      unfold DirectoryAccessGuard.canActivate
      split
      · refine Respects.ite (Respects.pure true) ?_
        refine Respects.bind (Respects.query _) fun subscription => ?_
        refine Respects.bind (Respects.query _) fun dbUser => ?_
        refine Respects.bind (Respects.query _) fun now => ?_
        exact Respects.ite (Respects.pure true)
          (Respects.ite (Respects.pure true) (Respects.throw _))
      · exact Respects.throw _
  | deleteAccount userId password => exact changes_deleteAccount rfl app userId password
  | setDirectoryAccess adminUserId targetUserId granted =>
      refine Respects.bind (Respects.query _) fun target => ?_
      split
      · exact Respects.bind (changes_updateUser rfl _ _) fun _ => changes_record _ _
      · exact Respects.throw _

end

/-- What every change of a request moves along, the request does. -/
theorem Occurrence.changed
    {R : World → World → Prop}
    [IsPreorder World R]
    {app : Deployment}
    {occurrence : Occurrence}
    (moves : ∀ before after, Change occurrence.request.allowance before after → R before after)
    (world : World) :
    R (occurrence.arrive world) (step app world occurrence) :=
  respected ((BillingRequest.changes app occurrence.request).mono moves) world

/-! ## Mails -/

/-- The mails of a sort that have been enqueued. -/
def World.mails (sort : EmailJob → Bool) (world : World) : List EmailJob :=
  world.outbox.filter sort

/-- The mails of a sort are the same. -/
def SameMails (sort : EmailJob → Bool) (before after : World) : Prop :=
  after.mails sort = before.mails sort

instance (sort : EmailJob → Bool) : IsPreorder World (SameMails sort) where
  refl _ := rfl
  trans _ _ _ first second := Eq.trans second first

/-- Where no mail of a sort may be enqueued, none is. -/
theorem Change.sameMails
    {allowed : Allowance}
    {sort : EmailJob → Bool}
    (silent : ∀ job, allowed.mails job = true → sort job = false)
    {before after : World}
    (change : Change allowed before after) :
    SameMails sort before after := by
  cases change with
  | @rows product _ _ _ => cases product <;> rfl
  | @mail job mails =>
      refine List.filter_cons_of_neg ?_
      rw [silent job mails]
      exact Bool.false_ne_true
  | invoice bills now subscriptionId =>
      unfold SameMails World.billed SubscriptionsService.upsertInvoice
      rw [Process.run_command]
      dsimp only
      split <;> rfl
  | _ => rfl

end ConferenceContact
