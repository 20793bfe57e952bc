import ConferenceContact.Billing.Footprints
import ConferenceContact.Billing.Requests

/-!
# What billing requests leave alone

Most calls of the billing services touch neither a subscription table nor
Stripe, neither the plans and tiers nor the credit grants, and of an account
neither its id nor its comp flag: they are quiet.  Table and Stripe calls leave
the account book alone.  Only a creditable event adds a credit grant, and only
an administrator sets a comp flag.
-/

namespace ConferenceContact

open Process

/-! ## The account book -/

/-- What the billing services know of accounts and products, and the credit
grants. -/
structure AccountBook where
  plans : List Plan
  leadFinderTiers : List LeadFinderTier
  accounts : List (UserId × Bool)
  creditGrants : List CreditGrant

/-- The book of a world: an account is its id and its comp flag. -/
def World.book (world : World) : AccountBook where
  plans := world.plans
  leadFinderTiers := world.leadFinderTiers
  accounts := world.users.map fun user => (user.id, user.adminGrantedDirectoryAccess)
  creditGrants := world.creditGrants

/-- The account book is as it was. -/
def SameBook (before after : World) : Prop :=
  after.book = before.book

instance : IsPreorder World SameBook where
  refl _ := rfl
  trans _ _ _ first second := second.trans first

theorem SameBook.accounts
    {before after : World}
    (book : SameBook before after) :
    after.users.map (·.id) = before.users.map (·.id) := by
  have ids : ∀ world : World, world.users.map (·.id) = world.book.accounts.map (·.1) := by
    intro world
    unfold World.book
    rw [List.map_map]
    rfl
  rw [ids, ids, book]

/-- Neither the subscription tables, nor Stripe, nor the account book has
changed. -/
structure Quiet (before after : World) : Prop where
  rows : ∀ product, after.rows product = before.rows product
  stripe : after.stripe = before.stripe
  book : SameBook before after
  nextId : before.nextId ≤ after.nextId

instance : IsPreorder World Quiet where
  refl world :=
    { rows := fun _ => rfl
      stripe := rfl
      book := refl world
      nextId := Nat.le_refl _ }
  trans _ _ _ first second :=
    { rows := fun product => (second.rows product).trans (first.rows product)
      stripe := second.stripe.trans first.stripe
      book := IsTrans.trans _ _ _ first.book second.book
      nextId := Nat.le_trans first.nextId second.nextId }

/-- Rewriting users without changing their ids and comp flags is quiet. -/
theorem quiet_updateUsers
    (world : World)
    (condition : User → Bool)
    (rewrite : User → User)
    (kept : ∀ user, ((rewrite user).id, (rewrite user).adminGrantedDirectoryAccess) =
      (user.id, user.adminGrantedDirectoryAccess)) :
    Quiet world { world with users := Table.updateWhere condition rewrite world.users } where
  rows product := by cases product <;> rfl
  stripe := rfl
  book := by
    unfold SameBook World.book
    rw [Table.map_updateWhere _ _ _ _ kept]
  nextId := Nat.le_refl _

/-- A change of what no part of the ledger and of the book is read from. -/
theorem quiet_of_eq
    {before after : World}
    (subscriptions : after.subscriptions = before.subscriptions)
    (leadFinderSubscriptions :
      after.leadFinderSubscriptions = before.leadFinderSubscriptions)
    (stripe : after.stripe = before.stripe)
    (book : after.book = before.book)
    (nextId : before.nextId ≤ after.nextId) :
    Quiet before after where
  rows product := by
    cases product
    · exact subscriptions
    · exact leadFinderSubscriptions
  stripe := stripe
  book := book
  nextId := nextId

/-! ## Quiet services -/

theorem quiet_record (actor : Option UserId) (action : AuditAction) :
    (AuditService.record actor action).Respects Quiet :=
  Respects.command fun _ _ => quiet_of_eq rfl rfl rfl rfl (Nat.le_refl _)

theorem quiet_enqueue (job : EmailJob) :
    (EmailService.enqueue job).Respects Quiet :=
  Footprint.enqueue (fun _ _ => quiet_of_eq rfl rfl rfl rfl (Nat.le_refl _)) job

theorem quiet_updateUser
    (id : UserId)
    {rewrite : Time → User → User}
    (kept : ∀ now user,
      ((rewrite now user).id, (rewrite now user).adminGrantedDirectoryAccess) =
        (user.id, user.adminGrantedDirectoryAccess)) :
    (UsersService.update id rewrite).Respects Quiet :=
  Footprint.updateUser fun now world => quiet_updateUsers world _ _ (kept now)

theorem quiet_revokeUser (app : Deployment) (userId : UserId) :
    (TokenRevocationService.revokeUser app userId).Respects Quiet :=
  Footprint.revokeUser (fun _ _ => quiet_of_eq rfl rfl rfl rfl (Nat.le_refl _)) app userId

theorem quiet_createCustomer : StripeService.createCustomer.Respects Quiet := by
  refine Respects.attempt ?_
  rintro input world value after ⟨⟩
  exact quiet_of_eq rfl rfl rfl rfl (Nat.le_succ _)

theorem quiet_claimStripeCustomerId (userId : UserId) (customer : Nat) :
    (StripeCustomerService.claimStripeCustomerId userId customer).Respects Quiet := by
  refine Respects.attempt ?_
  rintro input world value after ⟨⟩
  exact quiet_updateUsers world _ _ fun _ => rfl

theorem quiet_getOrCreateStripeCustomer (userId : UserId) :
    (StripeCustomerService.getOrCreateStripeCustomer userId).Respects Quiet := by
  refine Respects.bind (Respects.query _) fun user => ?_
  split
  · exact Respects.pure _
  · refine Respects.bind quiet_createCustomer fun customer => ?_
    refine Respects.bind (quiet_claimStripeCustomerId userId customer) fun claimed => ?_
    refine Respects.ite (Respects.pure customer) ?_
    exact Respects.bind (Respects.query _) fun _ => Respects.pure _

theorem quiet_sendSubscriptionConfirmedEmail (stripeSub : StripeSubscription) :
    (SubscriptionsService.sendSubscriptionConfirmedEmail stripeSub).Respects Quiet := by
  refine Respects.ite (Respects.pure ()) ?_
  split
  · refine Respects.bind (Respects.query _) fun user => ?_
    refine Respects.bind (Respects.query _) fun plan => ?_
    split
    · exact quiet_enqueue _
    · exact Respects.pure ()
  · exact Respects.pure ()

theorem quiet_sendLeadFinderConfirmedEmail (stripeSub : StripeSubscription) :
    (LeadFinderBillingService.sendSubscriptionConfirmedEmail stripeSub).Respects Quiet := by
  unfold LeadFinderBillingService.sendSubscriptionConfirmedEmail
  split
  · refine Respects.bind (Respects.query _) fun user => ?_
    refine Respects.bind (Respects.query _) fun tier => ?_
    split
    · exact quiet_enqueue _
    · exact Respects.pure ()
  · exact Respects.pure ()

theorem quiet_mailFirstFailure
    (app : Deployment)
    (isFirstFailure : Bool)
    (userId : UserId)
    (tierId : PlanId) :
    (LeadFinderBillingService.mailFirstFailure app isFirstFailure userId tierId).Respects
      Quiet := by
  refine Respects.ite ?_ (Respects.pure ())
  refine Respects.bind (Respects.query _) fun user => ?_
  refine Respects.bind (Respects.query _) fun tier => ?_
  split
  · exact quiet_enqueue _
  · exact Respects.pure ()

theorem quiet_upsertInvoice
    (invoice : StripeInvoice)
    (subscriptionId : Nat)
    (status : InvoiceStatus) :
    (SubscriptionsService.upsertInvoice invoice subscriptionId status).Respects Quiet := by
  refine Respects.command fun input world => ?_
  dsimp only
  split
  · exact quiet_of_eq rfl rfl rfl rfl (Nat.le_refl _)
  · exact quiet_of_eq rfl rfl rfl rfl (Nat.le_succ _)

theorem quiet_syncInvoiceFromStripe (invoice : StripeInvoice) (status : InvoiceStatus) :
    (SubscriptionsService.syncInvoiceFromStripe invoice status).Respects Quiet := by
  unfold SubscriptionsService.syncInvoiceFromStripe
  split
  · exact Respects.pure ()
  · refine Respects.bind (Respects.query _) fun localSub => ?_
    split
    · exact Respects.bind (Respects.query _) fun _ => Respects.pure ()
    · exact quiet_upsertInvoice _ _ _

theorem quiet_incrementCredits (userId : UserId) (credits : Int) :
    (incrementCredits userId credits).Respects Quiet :=
  quiet_updateUser userId fun _ _ => rfl

theorem quiet_canActivate (app : Deployment) (user : Option AccessTokenPayload) :
    (DirectoryAccessGuard.canActivate app user).Respects Quiet := by
  unfold DirectoryAccessGuard.canActivate
  split
  · refine Respects.ite (Respects.pure true) ?_
    refine Respects.bind (Respects.query _) fun subscription => ?_
    refine Respects.bind (Respects.query _) fun dbUser => ?_
    refine Respects.bind (Respects.query _) fun now => ?_
    exact Respects.ite (Respects.pure true)
      (Respects.ite (Respects.pure true) (Respects.throw _))
  · exact Respects.throw _

theorem quiet_openCheckout (user : User) (action : AuditAction) :
    (SubscriptionsService.openCheckout user action).Respects Quiet := by
  refine Respects.bind (quiet_getOrCreateStripeCustomer _) fun _ => ?_
  refine Respects.bind (Respects.query _) fun url => ?_
  split
  · exact Respects.bind (quiet_record _ _) fun _ => Respects.pure _
  · exact Respects.throw _

theorem quiet_createLeadFinderCheckoutSession (userId : UserId) (tierSlug : String) :
    (LeadFinderBillingService.createCheckoutSession userId tierSlug).Respects Quiet := by
  refine Respects.bind (Respects.query _) fun user => ?_
  split
  · refine Respects.bind (Respects.query _) fun tier => ?_
    split
    · refine Respects.bind (Respects.query _) fun existing => ?_
      exact Respects.ite (Respects.throw _) (quiet_openCheckout _ _)
    · exact Respects.throw _
  · exact Respects.throw _

/-! ## What leaves the account book alone -/

theorem book_setRows
    (world : World)
    (rows : List SubscriptionRow)
    (product : Product) :
    (world.setRows rows product).book = world.book := by
  cases product <;> rfl

theorem book_update
    (product : Product)
    (id : Nat)
    (rewrite : Time → SubscriptionRow → SubscriptionRow) :
    (SubscriptionTable.update product id rewrite).Respects SameBook := by
  refine Respects.attempt fun input world value after updated => ?_
  split at updated
  · cases updated
    exact book_setRows _ _ _
  · cases updated

theorem book_upsert
    (product : Product)
    (stripeSubscriptionId : StripeSubscriptionId)
    (create : Time → Nat → SubscriptionRow)
    (rewrite : Time → SubscriptionRow → SubscriptionRow) :
    (SubscriptionTable.upsert product stripeSubscriptionId create rewrite).Respects
      SameBook := by
  refine Respects.attempt fun input world value after updated => ?_
  split at updated
  · split at updated
    · cases updated
      exact book_setRows _ _ _
    · cases updated
  · dsimp only at updated
    split at updated
    · cases updated
    · split at updated
      · cases updated
        exact book_setRows _ _ _
      · cases updated

theorem book_cancelMany (product : Product) (stripeSubscriptionId : StripeSubscriptionId) :
    (SubscriptionTable.cancelMany product stripeSubscriptionId).Respects SameBook :=
  Respects.command fun _ _ => book_setRows _ _ _

theorem book_modifyStripe
    (id : StripeSubscriptionId)
    (change : StripeSubscription → StripeSubscription) :
    (StripeService.modify id change).Respects SameBook :=
  Footprint.modify (fun _ _ => rfl) id change

theorem book_retrieve (id : StripeSubscriptionId) :
    (StripeService.retrieve id).Respects SameBook :=
  Footprint.retrieve id

theorem book_cancelDuplicate
    (stripeSubscriptionId : StripeSubscriptionId)
    (userId : UserId)
    (action : AuditAction)
    (error : ApiError) :
    (SubscriptionsService.cancelDuplicate stripeSubscriptionId userId action error).Respects
      SameBook := by
  refine Respects.ite ?_ (Respects.throw error)
  refine Respects.bind (book_modifyStripe _ _) fun _ => ?_
  exact Respects.bind ((quiet_record _ _).mono fun _ _ quiet => quiet.book)
    fun _ => Respects.pure false

theorem book_syncSubscriptionFromStripe (stripeSub : StripeSubscription) :
    (SubscriptionsService.syncSubscriptionFromStripe stripeSub).Respects SameBook := by
  refine Respects.ite (Respects.pure ()) ?_
  refine Respects.bind (Respects.query _) fun existing => ?_
  split
  · refine Respects.bind (Respects.tryCatch ?_ (book_cancelDuplicate _ _ _)) fun written => ?_
    · exact Respects.bind (book_upsert _ _ _ _) fun _ => Respects.pure true
    · exact Respects.ite ((quiet_record _ _).mono fun _ _ quiet => quiet.book)
        (Respects.pure ())
  · split
    · exact Respects.pure ()
    · exact book_update _ _ _

theorem book_markPastDue (app : Deployment) (stripeSubscriptionId : StripeSubscriptionId) :
    (SubscriptionsService.markPastDue app stripeSubscriptionId).Respects SameBook := by
  refine Respects.bind (Respects.query _) fun existing => ?_
  split
  · exact Respects.pure ()
  · refine Respects.bind (book_update _ _ _) fun _ => ?_
    split
    · exact (quiet_enqueue _).mono fun _ _ quiet => quiet.book
    · exact Respects.pure ()

theorem book_syncFromStripe (app : Deployment) (stripeSub : StripeSubscription) :
    (LeadFinderBillingService.syncFromStripe app stripeSub).Respects SameBook := by
  unfold LeadFinderBillingService.syncFromStripe
  split
  · refine Respects.bind (Respects.query _) fun existing => ?_
    refine Respects.bind (Respects.tryCatch ?_ (book_cancelDuplicate _ _ _))
      fun _ => Respects.pure ()
    refine Respects.bind (book_upsert _ _ _ _) fun _ => ?_
    exact Respects.bind ((quiet_mailFirstFailure _ _ _ _).mono fun _ _ quiet => quiet.book)
      fun _ => Respects.pure true
  · exact Respects.pure ()

theorem book_replaceLapsed (existing : Option SubscriptionRow) :
    (SubscriptionsService.replaceLapsed existing).Respects SameBook := by
  unfold SubscriptionsService.replaceLapsed
  split
  · exact Respects.pure ()
  · exact Respects.bind (book_modifyStripe _ _) fun _ => book_update _ _ _

theorem book_createCheckoutSession (app : Deployment) (userId : UserId) (planSlug : String) :
    (SubscriptionsService.createCheckoutSession app userId planSlug).Respects SameBook := by
  refine Respects.bind (Respects.query _) fun user => ?_
  split
  · refine Respects.bind (Respects.query _) fun plan => ?_
    split
    · refine Respects.bind (Respects.query _) fun existing => ?_
      refine Respects.bind (Respects.query _) fun now => ?_
      refine Respects.ite (Respects.throw _) ?_
      refine Respects.bind (book_replaceLapsed existing) fun _ => ?_
      exact (quiet_openCheckout _ _).mono fun _ _ quiet => quiet.book
    · exact Respects.throw _
  · exact Respects.throw _

theorem book_cancel (userId : UserId) :
    (SubscriptionsService.cancel userId).Respects SameBook := by
  refine Respects.bind (Respects.query _) fun found => ?_
  split
  · refine Respects.bind (book_modifyStripe _ _) fun _ => ?_
    refine Respects.bind (book_update _ _ _) fun _ => ?_
    refine Respects.bind ((quiet_record _ _).mono fun _ _ quiet => quiet.book) fun _ => ?_
    split
    · exact (quiet_enqueue _).mono fun _ _ quiet => quiet.book
    · exact Respects.pure ()
  · exact Respects.throw _

theorem book_resume (userId : UserId) :
    (SubscriptionsService.resume userId).Respects SameBook := by
  refine Respects.bind (Respects.query _) fun found => ?_
  split
  · refine Respects.bind (book_modifyStripe _ _) fun _ => ?_
    refine Respects.bind (book_update _ _ _) fun _ => ?_
    exact (quiet_record _ _).mono fun _ _ quiet => quiet.book
  · exact Respects.throw _

theorem book_cancelLeadFinder (userId : UserId) :
    (LeadFinderBillingService.cancel userId).Respects SameBook := by
  refine Respects.bind (Respects.query _) fun found => ?_
  split
  · refine Respects.bind (book_modifyStripe _ _) fun _ => ?_
    refine Respects.bind (book_update _ _ _) fun _ => ?_
    exact (quiet_record _ _).mono fun _ _ quiet => quiet.book
  · exact Respects.throw _

theorem book_eraseAccount (userId : UserId) (activeSubscription : Option SubscriptionRow) :
    (AuthService.eraseAccount userId activeSubscription).Respects SameBook := by
  refine Footprint.eraseAccount fun now world subscriptions _ => ?_
  unfold SameBook World.book
  dsimp only
  rw [Table.map_updateWhere]
  exact fun _ => rfl

theorem book_deleteAccount (app : Deployment) (userId : UserId) (password : String) :
    (AuthService.deleteAccount app userId password).Respects SameBook :=
  Footprint.deleteAccount (fun _ _ => rfl) (book_eraseAccount userId)
    ((quiet_revokeUser _ _).mono fun _ _ quiet => quiet.book)
    (fun _ _ => (quiet_record _ _).mono fun _ _ quiet => quiet.book) password

/-! ## Every request -/

/-- The session or invoice id under which an event grants credits. -/
def StripeEvent.creditReference : StripeEvent → Option StripeReference
  | checkoutSessionCompleted session =>
      if session.mode = .payment then some session.id else none
  | invoicePaid invoice =>
      if invoice.metadata.isLeadFinderTier then some invoice.id else none
  | _ => none

/-- The world with one more credit grant. -/
def World.granted (world : World) (grant : CreditGrant) : World :=
  { world with
    creditGrants := grant :: world.creditGrants
    nextId := world.nextId + 1 }

/-- The world with a comp flag set or cleared. -/
def World.comped (world : World) (userId : UserId) (granted : Bool) : World :=
  { world with
    users := Table.updateWhere (fun user => user.id = userId)
      (fun user => { user with adminGrantedDirectoryAccess := granted }) world.users }

section

variable {R : World → World → Prop} [IsPreorder World R]

omit [IsPreorder World R] in
/-- A credited amount, its grant and its audit entry. -/
theorem respects_creditAndGrant
    (sameBook : ∀ before after, SameBook before after → R before after)
    {reference : StripeReference}
    (grants : ∀ world grant, grant.stripeReference = some reference →
      R world (world.granted grant))
    (userId : UserId)
    (credits : Int)
    (source : CreditGrantSource)
    (amountPaidCents : Option Nat)
    (action : AuditAction) :
    (do
      let _ ← incrementCredits userId credits
      createCreditGrant userId credits source amountPaidCents reference
      AuditService.record (some userId) action : Service Unit).Respects R := by
  have fromQuiet : ∀ before after, Quiet before after → R before after :=
    fun _ _ quiet => sameBook _ _ quiet.book
  refine Respects.bind ((quiet_incrementCredits _ _).mono fromQuiet) fun _ => ?_
  refine Respects.bind (Respects.command fun input world => ?_) fun _ => ?_
  · exact grants world _ rfl
  · exact (quiet_record _ _).mono fromQuiet

omit [IsPreorder World R] in
theorem respects_handleWebhookEvent
    (sameBook : ∀ before after, SameBook before after → R before after)
    (app : Deployment)
    (event : StripeEvent)
    (grants : ∀ reference, event.creditReference = some reference →
      ∀ world grant, grant.stripeReference = some reference →
        R world (world.granted grant)) :
    (SubscriptionsService.handleWebhookEvent app event).Respects R := by
  have fromQuiet : ∀ before after, Quiet before after → R before after :=
    fun _ _ quiet => sameBook _ _ quiet.book
  cases event with
  | checkoutSessionCompleted session =>
      unfold SubscriptionsService.handleWebhookEvent
      dsimp only
      split
      · rename_i _ _ payment
        have grants := grants session.id (by simp [StripeEvent.creditReference, payment])
        unfold SubscriptionsService.handleCreditsCheckoutCompleted
        split
        · exact Respects.ite (Respects.pure ())
            (respects_creditAndGrant sameBook grants _ _ _ _ _)
        · exact Respects.pure ()
      · refine Respects.bind ((book_retrieve _).mono sameBook) fun stripeSub => ?_
        refine Respects.bind
          ((book_syncSubscriptionFromStripe _).mono sameBook) fun _ => ?_
        exact (quiet_sendSubscriptionConfirmedEmail _).mono fromQuiet
      · exact Respects.pure ()
  | subscriptionCreated stripeSub =>
      exact (book_syncSubscriptionFromStripe stripeSub).mono sameBook
  | subscriptionUpdated stripeSub =>
      exact (book_syncSubscriptionFromStripe stripeSub).mono sameBook
  | subscriptionResumed stripeSub =>
      exact (book_syncSubscriptionFromStripe stripeSub).mono sameBook
  | subscriptionDeleted stripeSub => exact (book_cancelMany _ _).mono sameBook
  | invoicePaid invoice => exact (quiet_syncInvoiceFromStripe _ _).mono fromQuiet
  | invoicePaymentFailed invoice =>
      refine Respects.bind ((quiet_syncInvoiceFromStripe _ _).mono fromQuiet) fun _ => ?_
      cases invoice.subscription with
      | none => exact Respects.pure ()
      | some stripeSubscriptionId => exact (book_markPastDue _ _).mono sameBook
  | other => exact Respects.pure ()

omit [IsPreorder World R] in
theorem respects_syncIfLeadFinder
    (sameBook : ∀ before after, SameBook before after → R before after)
    (app : Deployment)
    (stripeSub : StripeSubscription) :
    (LeadFinderBillingService.syncIfLeadFinder app stripeSub).Respects R :=
  Respects.ite ((book_syncFromStripe app stripeSub).mono sameBook) (Respects.pure ())

theorem respects_handleLeadFinderWebhookEvent
    (sameBook : ∀ before after, SameBook before after → R before after)
    (app : Deployment)
    (event : StripeEvent)
    (grants : ∀ reference, event.creditReference = some reference →
      ∀ world grant, grant.stripeReference = some reference →
        R world (world.granted grant)) :
    (LeadFinderBillingService.handleWebhookEvent app event).Respects R := by
  have fromQuiet : ∀ before after, Quiet before after → R before after :=
    fun _ _ quiet => sameBook _ _ quiet.book
  cases event with
  | checkoutSessionCompleted session =>
      unfold LeadFinderBillingService.handleWebhookEvent
      dsimp only
      split
      · refine Respects.ite ?_ (Respects.pure ())
        refine Respects.bind ((book_retrieve _).mono sameBook) fun stripeSub => ?_
        refine Respects.bind ((book_syncFromStripe _ _).mono sameBook) fun _ => ?_
        exact (quiet_sendLeadFinderConfirmedEmail _).mono fromQuiet
      · exact Respects.pure ()
  | subscriptionCreated stripeSub => exact respects_syncIfLeadFinder sameBook app stripeSub
  | subscriptionUpdated stripeSub => exact respects_syncIfLeadFinder sameBook app stripeSub
  | subscriptionResumed stripeSub => exact respects_syncIfLeadFinder sameBook app stripeSub
  | subscriptionDeleted stripeSub => exact (book_cancelMany _ _).mono sameBook
  | invoicePaid invoice =>
      show (LeadFinderBillingService.grantMonthlyCredits invoice).Respects R
      unfold LeadFinderBillingService.grantMonthlyCredits
      split
      · exact Respects.pure ()
      · rename_i isLeadFinder
        have grants := grants invoice.id
          (by simp_all [StripeEvent.creditReference])
        split
        · refine Respects.bind (Respects.query _) fun tier => ?_
          split
          · exact Respects.pure ()
          · exact respects_creditAndGrant sameBook grants _ _ _ _ _
        · exact Respects.pure ()
  | invoicePaymentFailed invoice => exact Respects.pure ()
  | other => exact Respects.pure ()

/-- A request respects what the quiet changes of the book, its own credit
grants and its own change of a comp flag respect. -/
theorem BillingRequest.respects
    (sameBook : ∀ before after, SameBook before after → R before after)
    (app : Deployment)
    (request : BillingRequest)
    (grants : ∀ event reference, request = .webhook event →
      event.creditReference = some reference →
      ∀ world grant, grant.stripeReference = some reference →
        R world (world.granted grant))
    (comps : ∀ adminUserId targetUserId granted,
      request = .setDirectoryAccess adminUserId targetUserId granted →
      ∀ world, R world (world.comped targetUserId granted)) :
    (request.handle app).Respects R := by
  have fromQuiet : ∀ before after, Quiet before after → R before after :=
    fun _ _ quiet => sameBook _ _ quiet.book
  cases request with
  | webhook event =>
      have grants := fun reference => grants event reference rfl
      exact Respects.bind (respects_handleWebhookEvent sameBook app event grants)
        fun _ => respects_handleLeadFinderWebhookEvent sameBook app event grants
  | createCheckoutSession userId planSlug =>
      exact Respects.bind ((book_createCheckoutSession _ _ _).mono sameBook)
        fun _ => Respects.pure ()
  | cancel userId => exact (book_cancel userId).mono sameBook
  | resume userId => exact (book_resume userId).mono sameBook
  | createLeadFinderCheckoutSession userId tierSlug =>
      exact Respects.bind ((quiet_createLeadFinderCheckoutSession _ _).mono fromQuiet)
        fun _ => Respects.pure ()
  | cancelLeadFinder userId => exact (book_cancelLeadFinder userId).mono sameBook
  | directoryAccess user =>
      exact Respects.bind ((quiet_canActivate _ _).mono fromQuiet)
        fun _ => Respects.pure ()
  | deleteAccount userId password =>
      exact (book_deleteAccount _ _ _).mono sameBook
  | setDirectoryAccess adminUserId targetUserId granted =>
      refine Respects.bind (Respects.query _) fun target => ?_
      split
      · refine Respects.bind (Respects.attempt fun input world value after updated => ?_)
          fun _ => (quiet_record _ _).mono fromQuiet
        split at updated
        · cases updated
        · cases updated
          exact comps adminUserId targetUserId granted rfl world
      · exact Respects.throw _

end
end ConferenceContact
