import ConferenceContact.Billing.RevenueRecords

/-!
# Requests and the records of revenue

Every call of every request is a step of `RevenueRecords.Step`, whatever the calls of other
requests have done since it read the subscription or the account it refers to.
-/

namespace ConferenceContact

open Process

/-! ## Keeping records -/

/-- Ids and references are as they should be. -/
def World.Booked (world : World) : Prop :=
  world.revenueRecords.Sound

/-- What may be referred to stays. -/
def SameBasis (before after : World) : Prop :=
  before.revenueRecords.Extends after.revenueRecords

instance : IsPreorder World SameBasis where
  refl world := refl_of RevenueRecords.Extends world.revenueRecords
  trans _ _ _ first second := trans_of RevenueRecords.Extends first second

/-- The process takes only steps of the records, among others that do so too. -/
abbrev KeepsRecords
    (process : Service α)
    (world : World)
    (post : α → World → Prop) : Prop :=
  Sustains World.Booked SameBasis process world post

/-- The records are left alone, the supply of ids aside. -/
def SameRecords (before after : World) : Prop :=
  ∃ amount, after.revenueRecords =
    { before.revenueRecords with nextId := before.revenueRecords.nextId + amount }

instance : IsPreorder World SameRecords where
  refl _ := ⟨0, rfl⟩
  trans first second third := by
    rintro ⟨earlier, middle⟩ ⟨later, last⟩
    refine ⟨earlier + later, ?_⟩
    rw [last, middle]
    simp only [Nat.add_assoc]

/-- A step of the records keeps them as they should be. -/
theorem RevenueRecords.Step.keeps
    {before after : World}
    (step : RevenueRecords.Step before.revenueRecords after.revenueRecords)
    (booked : before.Booked) :
    after.Booked ∧ SameBasis before after :=
  ⟨step.sound booked, step.extends⟩

theorem SameRecords.keeps
    (before after : World)
    (same : SameRecords before after)
    (booked : before.Booked) :
    after.Booked ∧ SameBasis before after := by
  obtain ⟨amount, equal⟩ := same
  have step : RevenueRecords.Step before.revenueRecords after.revenueRecords :=
    equal ▸ .reserve before.revenueRecords amount
  exact step.keeps booked

/-- Tables with the same records. -/
theorem sameRecords_of_columns
    {before after : World}
    (accounts : after.users.map (·.id) = before.users.map (·.id))
    (subscriptions : after.subscriptions.map SubscriptionRow.owned =
      before.subscriptions.map SubscriptionRow.owned)
    (invoices : after.invoices = before.invoices)
    (creditGrants : after.creditGrants = before.creditGrants)
    (nextId : before.nextId ≤ after.nextId) :
    SameRecords before after := by
  obtain ⟨amount, supply⟩ := Nat.exists_eq_add_of_le nextId
  refine ⟨amount, ?_⟩
  simp only [World.revenueRecords, accounts, subscriptions, invoices, creditGrants, supply]

section

variable {app : Deployment} {world : World}

theorem records_of_same
    {process : Service α}
    (same : process.Respects SameRecords) :
    KeepsRecords process world fun _ _ => True :=
  Sustains.of_respects same SameRecords.keeps

/-- An update whose successes are steps of the records. -/
theorem records_attempt
    {act : Input → World → Except ApiError (α × World)}
    (post : α → World → Prop)
    (steps : ∀ input later value after, SameBasis world later →
      act input later = .ok (value, after) →
      RevenueRecords.Step later.revenueRecords after.revenueRecords ∧ post value after) :
    KeepsRecords (Process.attempt act) world post := by
  refine Sustains.attempt post fun input later value after moved booked outcome => ?_
  obtain ⟨step, holds⟩ := steps input later value after moved outcome
  obtain ⟨still, extended⟩ := step.keeps booked
  exact ⟨still, extended, holds⟩

/-! ## Quiet calls -/

/-- A request without an invoice. -/
def unbilled : Allowance where
  mails := fun _ => true
  accounts := true

/-- What is quiet and writes no invoice leaves the records alone. -/
theorem sameRecords_of_quiet
    {process : Service α}
    {allowed : Allowance}
    (quiet : process.Respects Quiet)
    (changes : process.Respects (Change allowed))
    (silent : allowed.bills = none) :
    process.Respects SameRecords := by
  refine (quiet.and changes).mono fun before after ⟨same, change⟩ => ?_
  exact sameRecords_of_columns same.book.accounts
    (congrArg (List.map SubscriptionRow.owned) (same.rows .directory))
    (change.sameInvoices silent) (congrArg AccountBook.creditGrants same.book) same.nextId

theorem sameRecords_record (actor : Option UserId) (action : AuditAction) :
    (AuditService.record actor action).Respects SameRecords :=
  Respects.command fun _ _ => ⟨0, rfl⟩

theorem sameRecords_enqueue (job : EmailJob) :
    (EmailService.enqueue job).Respects SameRecords := by
  have mails : unbilled.mails job = true := rfl
  exact sameRecords_of_quiet (quiet_enqueue job) (changes_enqueue mails) rfl

theorem sameRecords_updateUser
    (id : UserId)
    {rewrite : Time → User → User}
    (kept : ∀ now user, (rewrite now user).id = user.id) :
    (UsersService.update id rewrite).Respects SameRecords :=
  Footprint.updateUser fun now _ =>
    sameRecords_of_columns (Table.map_updateWhere _ _ _ _ (kept now)) rfl rfl rfl (Nat.le_refl _)

theorem sameRecords_revokeUser (app : Deployment) (userId : UserId) :
    (TokenRevocationService.revokeUser app userId).Respects SameRecords :=
  Footprint.revokeUser (fun _ _ => ⟨0, rfl⟩) app userId

theorem sameRecords_openCheckout (user : User) (action : AuditAction) :
    (SubscriptionsService.openCheckout user action).Respects SameRecords := by
  have own : unbilled.accounts = true := rfl
  exact sameRecords_of_quiet (quiet_openCheckout user action)
    (changes_openCheckout own user action) rfl

theorem sameRecords_sendSubscriptionConfirmedEmail (stripeSub : StripeSubscription) :
    (SubscriptionsService.sendSubscriptionConfirmedEmail stripeSub).Respects SameRecords ∧
      (LeadFinderBillingService.sendSubscriptionConfirmedEmail stripeSub).Respects
        SameRecords := by
  have mails : ∀ recipient productLabel amountCents renewsAt, unbilled.mails
      (.subscriptionConfirmed recipient productLabel amountCents renewsAt) = true :=
    fun _ _ _ _ => rfl
  have changes := changes_sendSubscriptionConfirmedEmail mails stripeSub
  exact ⟨sameRecords_of_quiet (quiet_sendSubscriptionConfirmedEmail stripeSub) changes.1 rfl,
    sameRecords_of_quiet (quiet_sendLeadFinderConfirmedEmail stripeSub) changes.2 rfl⟩

theorem sameRecords_mailFirstFailure
    (isFirstFailure : Bool)
    (userId : UserId)
    (tierId : PlanId) :
    (LeadFinderBillingService.mailFirstFailure app isFirstFailure userId tierId).Respects
      SameRecords := by
  refine Respects.ite ?_ (Respects.pure ())
  refine Respects.bind (Respects.query _) fun user => ?_
  refine Respects.bind (Respects.query _) fun tier => ?_
  split
  · exact sameRecords_enqueue _
  · exact Respects.pure ()

/-! ## Calls of the tables and of Stripe -/

/-- Rows that keep their ids and users. -/
theorem sameRecords_setRows
    (world : World)
    {rows : List SubscriptionRow}
    {product : Product}
    (owned : rows.map SubscriptionRow.owned =
      (world.rows product).map SubscriptionRow.owned) :
    SameRecords world (world.setRows rows product) := by
  cases product with
  | directory => exact sameRecords_of_columns rfl owned rfl rfl (Nat.le_refl _)
  | leadFinder => exact ⟨0, rfl⟩

/-- A rewriting that succeeds keeps ids and users. -/
theorem owned_rewriteRow
    {id : Nat}
    {rewrite : SubscriptionRow → SubscriptionRow}
    {rows rewritten : List SubscriptionRow}
    (kept : ∀ row, (rewrite row).owned = row.owned)
    (succeeds : rewriteRow id rewrite rows = .ok rewritten) :
    rewritten.map SubscriptionRow.owned = rows.map SubscriptionRow.owned := by
  unfold rewriteRow at succeeds
  split at succeeds
  · cases succeeds
  · split at succeeds
    · cases succeeds
    · cases succeeds
      exact Table.map_updateWhere _ _ _ _ kept

theorem sameRecords_update
    (product : Product)
    (id : Nat)
    {rewrite : Time → SubscriptionRow → SubscriptionRow}
    (kept : ∀ now row, (rewrite now row).owned = row.owned) :
    (SubscriptionTable.update product id rewrite).Respects SameRecords := by
  refine Respects.attempt fun input world value after updated => ?_
  split at updated
  · rename_i rows succeeds
    cases updated
    exact sameRecords_setRows world (owned_rewriteRow (kept input.now) succeeds)
  · cases updated

theorem sameRecords_cancelMany (product : Product) (id : StripeSubscriptionId) :
    (SubscriptionTable.cancelMany product id).Respects SameRecords := by
  refine Respects.command fun input world => sameRecords_setRows world ?_
  exact Table.map_updateWhere _ _ _ _ fun _ => rfl

/-- A new row of a tier refers to no plan's subscription. -/
theorem sameRecords_upsertLeadFinder
    (id : StripeSubscriptionId)
    (create : Time → Nat → SubscriptionRow)
    {rewrite : Time → SubscriptionRow → SubscriptionRow}
    (kept : ∀ now row, (rewrite now row).owned = row.owned) :
    (SubscriptionTable.upsert .leadFinder id create rewrite).Respects SameRecords := by
  refine Respects.attempt fun input world value after updated => ?_
  split at updated
  · split at updated
    · rename_i rows succeeds
      cases updated
      exact sameRecords_setRows world (owned_rewriteRow (kept input.now) succeeds)
    · cases updated
  · dsimp only at updated
    split at updated
    · cases updated
    · split at updated
      · cases updated
        exact ⟨1, rfl⟩
      · cases updated

theorem sameRecords_modifyStripe
    (id : StripeSubscriptionId)
    (change : StripeSubscription → StripeSubscription) :
    (StripeService.modify id change).Respects SameRecords :=
  Footprint.modify (fun _ _ => ⟨0, rfl⟩) id change

theorem sameRecords_cancelDuplicate
    (id : StripeSubscriptionId)
    (userId : UserId)
    (action : AuditAction)
    (error : ApiError) :
    (SubscriptionsService.cancelDuplicate id userId action error).Respects SameRecords := by
  refine Respects.ite ?_ (Respects.throw error)
  refine Respects.bind (sameRecords_modifyStripe _ _) fun _ => ?_
  exact Respects.bind (sameRecords_record _ _) fun _ => Respects.pure false

theorem sameRecords_markPastDue (id : StripeSubscriptionId) :
    (SubscriptionsService.markPastDue app id).Respects SameRecords := by
  refine Respects.bind (Respects.query _) fun existing => ?_
  split
  · exact Respects.pure ()
  · refine Respects.bind (sameRecords_update _ _ fun _ _ => rfl) fun _ => ?_
    split
    · exact sameRecords_enqueue _
    · exact Respects.pure ()

theorem sameRecords_syncFromStripe (stripeSub : StripeSubscription) :
    (LeadFinderBillingService.syncFromStripe app stripeSub).Respects SameRecords := by
  unfold LeadFinderBillingService.syncFromStripe
  split
  · refine Respects.bind (Respects.query _) fun existing => ?_
    refine Respects.bind (Respects.tryCatch ?_ (sameRecords_cancelDuplicate _ _ _)) fun _ =>
      Respects.pure ()
    refine Respects.bind (sameRecords_upsertLeadFinder _ _ fun _ _ => rfl) fun _ => ?_
    exact Respects.bind (sameRecords_mailFirstFailure _ _ _) fun _ => Respects.pure true
  · exact Respects.pure ()

/-! ## Requests of users -/

theorem sameRecords_replaceLapsed (existing : Option SubscriptionRow) :
    (SubscriptionsService.replaceLapsed existing).Respects SameRecords := by
  cases existing with
  | none => exact Respects.pure ()
  | some row =>
      exact Respects.bind (sameRecords_modifyStripe _ _) fun _ =>
        sameRecords_update _ _ fun _ _ => rfl

theorem sameRecords_createCheckoutSession (userId : UserId) (planSlug : String) :
    (SubscriptionsService.createCheckoutSession app userId planSlug).Respects
      SameRecords := by
  refine Respects.bind (Respects.query _) fun user => ?_
  split
  · refine Respects.bind (Respects.query _) fun plan => ?_
    split
    · refine Respects.bind (Respects.query _) fun existing => ?_
      refine Respects.bind (Respects.query _) fun now => ?_
      refine Respects.ite (Respects.throw _) ?_
      exact Respects.bind (sameRecords_replaceLapsed existing) fun _ =>
        sameRecords_openCheckout _ _
    · exact Respects.throw _
  · exact Respects.throw _

/-- A scheduled cancellation or its end, in Stripe and in the table. -/
theorem sameRecords_schedule
    {product : Product}
    (row : SubscriptionRow)
    (value : Bool)
    {rewrite : Time → SubscriptionRow → SubscriptionRow}
    (kept : ∀ now row, (rewrite now row).owned = row.owned)
    {rest : Service Unit}
    (respects : rest.Respects SameRecords) :
    (do
      StripeService.setCancelAtPeriodEnd row.stripeSubscriptionId value
      SubscriptionTable.update product row.id rewrite
      rest : Service Unit).Respects SameRecords :=
  Respects.bind (sameRecords_modifyStripe _ _) fun _ =>
    Respects.bind (sameRecords_update _ _ kept) fun _ => respects

theorem owned_rowsAfterDeletion
    {activeSubscription : Option SubscriptionRow}
    {rows rewritten : List SubscriptionRow}
    (succeeds : AuthService.rowsAfterDeletion activeSubscription rows = .ok rewritten) :
    rewritten.map SubscriptionRow.owned = rows.map SubscriptionRow.owned := by
  cases activeSubscription with
  | none =>
      cases succeeds
      rfl
  | some row =>
      refine owned_rewriteRow ?_ succeeds
      exact fun _ => rfl

theorem sameRecords_eraseAccount
    (userId : UserId)
    (activeSubscription : Option SubscriptionRow) :
    (AuthService.eraseAccount userId activeSubscription).Respects SameRecords :=
  Footprint.eraseAccount fun _ _ _ succeeds =>
    sameRecords_of_columns (Table.map_updateWhere _ _ _ _ fun _ => rfl)
      (owned_rowsAfterDeletion succeeds) rfl rfl (Nat.le_refl _)

theorem sameRecords_deleteAccount (userId : UserId) (password : String) :
    (AuthService.deleteAccount app userId password).Respects SameRecords :=
  Footprint.deleteAccount (fun _ _ => ⟨0, rfl⟩) (sameRecords_eraseAccount userId)
    (sameRecords_revokeUser _ _) sameRecords_record password

theorem sameRecords_deleteUser (adminUserId targetUserId : UserId) :
    (AdminService.deleteUser app adminUserId targetUserId).Respects SameRecords :=
  Footprint.deleteUser (sameRecords_updateUser _ fun _ _ => rfl)
    (Respects.command fun _ _ => ⟨0, rfl⟩) (fun _ _ => ⟨0, rfl⟩) sameRecords_record app adminUserId

/-- A request of a user changes no record. -/
theorem BillingRequest.sameRecords
    (request : BillingRequest)
    (byUser : ∀ event, request ≠ .webhook event) :
    (request.handle app).Respects SameRecords := by
  cases request with
  | webhook event => exact absurd rfl (byUser event)
  | createCheckoutSession userId planSlug =>
      exact Respects.bind (sameRecords_createCheckoutSession _ _) fun _ => Respects.pure ()
  | cancel userId =>
      refine Respects.bind (Respects.query _) fun found => ?_
      split
      · refine sameRecords_schedule _ _ ?_ (Respects.bind (sameRecords_record _ _) fun _ => ?_)
        · exact fun _ _ => rfl
        · split
          · exact sameRecords_enqueue _
          · exact Respects.pure ()
      · exact Respects.throw _
  | resume userId =>
      refine Respects.bind (Respects.query _) fun subscription => ?_
      split
      · refine sameRecords_schedule _ _ ?_ (sameRecords_record _ _)
        exact fun _ _ => rfl
      · exact Respects.throw _
  | createLeadFinderCheckoutSession userId tierSlug =>
      refine sameRecords_of_quiet ?_ (BillingRequest.changes app _) rfl
      exact Respects.bind (quiet_createLeadFinderCheckoutSession _ _) fun _ => Respects.pure ()
  | cancelLeadFinder userId =>
      refine Respects.bind (Respects.query _) fun subscription => ?_
      split
      · refine sameRecords_schedule _ _ ?_ (sameRecords_record _ _)
        exact fun _ _ => rfl
      · exact Respects.throw _
  | directoryAccess user =>
      refine sameRecords_of_quiet ?_ (BillingRequest.changes app _) rfl
      exact Respects.bind (quiet_canActivate _ _) fun _ => Respects.pure ()
  | deleteAccount userId password => exact sameRecords_deleteAccount userId password
  | setDirectoryAccess adminUserId targetUserId granted =>
      refine Respects.bind (Respects.query _) fun target => ?_
      split
      · exact Respects.bind (sameRecords_updateUser _ fun _ _ => rfl) fun _ =>
          sameRecords_record _ _
      · exact Respects.throw _

/-! ## Deliveries -/

/-- The account that a new row refers to is there. -/
theorem known_of_referencesExist
    {product : Product}
    {userId : UserId}
    {productId : PlanId}
    (exist : SubscriptionTable.referencesExist product world userId productId = true) :
    userId ∈ world.revenueRecords.accounts := by
  unfold SubscriptionTable.referencesExist at exist
  rw [Bool.and_eq_true, List.any_eq_true] at exist
  obtain ⟨⟨user, present, same⟩, -⟩ := exist
  exact List.mem_map.mpr ⟨user, present, of_decide_eq_true same⟩

theorem RevenueRecords.Step.subscribed
    {row : SubscriptionRow}
    (named : row.id = world.nextId)
    (known : row.userId ∈ world.revenueRecords.accounts) :
    RevenueRecords.Step world.revenueRecords
      { world.setRows (row :: world.rows .directory) .directory with
        nextId := world.nextId + 1 : World }.revenueRecords := by
  have step := RevenueRecords.Step.subscribe world.revenueRecords row.userId known
  have owned : (row :: world.subscriptions).map SubscriptionRow.owned =
      (world.revenueRecords.nextId, row.userId) :: world.revenueRecords.subscriptions := by
    rw [List.map_cons, SubscriptionRow.owned, named]
    rfl
  rw [← owned] at step
  exact step

/-- A subscription that is reported has its row, which is of an account. -/
theorem records_upsert
    (id : StripeSubscriptionId)
    {create : Time → Nat → SubscriptionRow}
    {rewrite : Time → SubscriptionRow → SubscriptionRow}
    (named : ∀ now id, (create now id).id = id)
    (kept : ∀ now row, (rewrite now row).owned = row.owned) :
    KeepsRecords (SubscriptionTable.upsert .directory id create rewrite) world
      fun _ _ => True := by
  refine Sustains.attempt _ fun input later value after _ booked updated => ?_
  split at updated
  · split at updated
    · rename_i rows succeeds
      cases updated
      have same := sameRecords_setRows later (owned_rewriteRow (kept input.now) succeeds)
      obtain ⟨still, basis⟩ := same.keeps later _ booked
      exact ⟨still, basis, trivial⟩
    · cases updated
  · dsimp only at updated
    split at updated
    · cases updated
    · split at updated
      · rename_i exist
        cases updated
        have step := RevenueRecords.Step.subscribed (named input.now later.nextId)
          (known_of_referencesExist exist)
        obtain ⟨still, basis⟩ := step.keeps booked
        exact ⟨still, basis, trivial⟩
      · cases updated

theorem records_syncSubscriptionFromStripe (stripeSub : StripeSubscription) :
    KeepsRecords (SubscriptionsService.syncSubscriptionFromStripe stripeSub) world
      fun _ _ => True := by
  refine Sustains.ite (fun _ => Sustains.pure trivial) fun _ => ?_
  refine Sustains.bind (Sustains.query (fun _ _ => True) fun _ _ _ _ => trivial)
    fun existing _ _ _ => ?_
  split
  · refine Sustains.bind (Sustains.tryCatch ?_ fun error _ _ =>
      (records_of_same (sameRecords_cancelDuplicate _ _ _ error))) fun written _ _ _ => ?_
    · exact Sustains.bind (records_upsert _ (fun _ _ => rfl) fun _ _ => rfl)
        fun _ _ _ _ => Sustains.pure trivial
    · exact Sustains.ite (fun _ => records_of_same (sameRecords_record _ _))
        fun _ => Sustains.pure trivial
  · split
    · exact Sustains.pure trivial
    · exact records_of_same (sameRecords_update _ _ fun _ _ => rfl)

theorem RevenueRecords.Step.settled
    {reference : StripeReference}
    {amountCents : Nat}
    {status : InvoiceStatus}
    {paidAt : Option Time}
    (dated : status = .paid → paidAt.isSome) :
    RevenueRecords.Step world.revenueRecords
      { world with
        invoices := Table.updateWhere (fun other => other.stripeInvoiceId = reference)
          (fun other => { other with status, amountCents, paidAt })
          world.invoices : World }.revenueRecords := by
  have step := RevenueRecords.Step.settle world.revenueRecords reference status paidAt dated
  have condition : ∀ invoice : Invoice,
      (fun bill : Bill => decide (bill.reference = reference)) invoice.bill =
        decide (invoice.stripeInvoiceId = reference) := fun _ => rfl
  have rewrites : ∀ invoice : Invoice,
      ({ invoice with status, amountCents, paidAt } : Invoice).bill =
        invoice.bill.settled status paidAt := fun _ => rfl
  rw [World.revenueRecords, ← Table.map_updateWhere_view condition rewrites] at step
  exact step

/-- An invoice of a subscription that is there. -/
theorem records_upsertInvoice
    {invoice : StripeInvoice}
    {subscriptionId : Nat}
    {status : InvoiceStatus}
    (known : subscriptionId ∈ world.revenueRecords.subscriptions.map Prod.fst) :
    KeepsRecords (SubscriptionsService.upsertInvoice invoice subscriptionId status) world
      fun _ _ => True := by
  refine Sustains.command fun input later moved booked => ?_
  have dated : status = .paid →
      (if status = .paid then some input.now else none : Option Time).isSome := by
    intro paid
    rw [if_pos paid]
    rfl
  dsimp only
  split
  · exact (RevenueRecords.Step.settled dated).keeps booked
  · have step := RevenueRecords.Step.bill later.revenueRecords
      { reference := invoice.id
        subscriptionId
        status
        paidAt := if status = .paid then some input.now else none }
      (moved.subscriptions _ known) dated
    exact RevenueRecords.Step.keeps step booked

theorem records_syncInvoiceFromStripe (invoice : StripeInvoice) (status : InvoiceStatus) :
    KeepsRecords (SubscriptionsService.syncInvoiceFromStripe invoice status) world
      fun _ _ => True := by
  unfold SubscriptionsService.syncInvoiceFromStripe
  split
  · exact Sustains.pure trivial
  · refine Sustains.bind (Sustains.query (fun (localSub : Option SubscriptionRow) later =>
      ∀ row, localSub = some row →
        row.id ∈ later.revenueRecords.subscriptions.map Prod.fst) ?_) ?_
    · intro input later _ _ row found
      have present : row ∈ later.subscriptions := List.mem_of_find?_eq_some found
      exact List.mem_map_of_mem (List.mem_map_of_mem present)
    · intro localSub after _ known
      split
      · exact Sustains.bind (Sustains.query (fun _ _ => True) fun _ _ _ _ => trivial)
          fun _ _ _ _ => Sustains.pure trivial
      · exact records_upsertInvoice (known _ rfl)

/-- Credits are given to an account that is there. -/
theorem records_creditAndGrant
    (userId : UserId)
    (credits : Int)
    (source : CreditGrantSource)
    (amountPaidCents : Option Nat)
    (reference : StripeReference)
    (action : AuditAction) :
    KeepsRecords
      (do
        let _ ← incrementCredits userId credits
        createCreditGrant userId credits source amountPaidCents reference
        AuditService.record (some userId) action : Service Unit) world fun _ _ => True := by
  refine Sustains.bind (Sustains.attempt
    (fun _ after => userId ∈ after.revenueRecords.accounts) ?_) ?_
  · intro input later value after _ booked updated
    split at updated
    · cases updated
    · rename_i user found
      cases updated
      have ids : (Table.updateWhere (fun other => other.id = userId)
          (fun user => { user with leadFinderCredits := user.leadFinderCredits + credits })
          later.users).map (·.id) = later.users.map (·.id) :=
        Table.map_updateWhere _ _ _ _ fun _ => rfl
      have same : SameRecords later
          { later with
            users := Table.updateWhere (fun other => other.id = userId)
              (fun user => { user with leadFinderCredits := user.leadFinderCredits + credits })
              later.users } :=
        sameRecords_of_columns ids rfl rfl rfl (Nat.le_refl _)
      obtain ⟨still, basis⟩ := same.keeps later _ booked
      refine ⟨still, basis, ?_⟩
      have named : user.id = userId := by simpa using List.find?_some found
      refine basis.accounts _ (List.mem_map.mpr ⟨user, List.mem_of_find?_eq_some found, named⟩)
  · intro _ after _ known
    refine Sustains.bind (Sustains.command fun input later moved booked => ?_)
      fun _ _ _ _ => records_of_same (sameRecords_record _ _)
    have step := RevenueRecords.Step.grant later.revenueRecords userId (moved.accounts _ known)
    exact RevenueRecords.Step.keeps step booked

theorem records_handleWebhookEvent (event : StripeEvent) :
    KeepsRecords (SubscriptionsService.handleWebhookEvent app event) world
      fun _ _ => True := by
  cases event with
  | checkoutSessionCompleted session =>
      unfold SubscriptionsService.handleWebhookEvent
      dsimp only
      split
      · unfold SubscriptionsService.handleCreditsCheckoutCompleted
        split
        · exact Sustains.ite (fun _ => Sustains.pure trivial)
            fun _ => records_creditAndGrant _ _ _ _ _ _
        · exact Sustains.pure trivial
      · refine Sustains.bind (records_of_same (Footprint.retrieve _))
          fun stripeSub _ _ _ => ?_
        refine Sustains.bind (records_syncSubscriptionFromStripe _) fun _ _ _ _ => ?_
        exact records_of_same (sameRecords_sendSubscriptionConfirmedEmail _).1
      · exact Sustains.pure trivial
  | subscriptionCreated stripeSub => exact records_syncSubscriptionFromStripe stripeSub
  | subscriptionUpdated stripeSub => exact records_syncSubscriptionFromStripe stripeSub
  | subscriptionResumed stripeSub => exact records_syncSubscriptionFromStripe stripeSub
  | subscriptionDeleted stripeSub =>
      exact records_of_same (sameRecords_cancelMany .directory stripeSub.id)
  | invoicePaid invoice => exact records_syncInvoiceFromStripe invoice .paid
  | invoicePaymentFailed invoice =>
      refine Sustains.bind (records_syncInvoiceFromStripe invoice .open) fun _ _ _ _ => ?_
      cases invoice.subscription with
      | none => exact Sustains.pure trivial
      | some stripeSubscriptionId => exact records_of_same (sameRecords_markPastDue _)
  | other => exact Sustains.pure trivial

theorem sameRecords_syncIfLeadFinder (stripeSub : StripeSubscription) :
    (LeadFinderBillingService.syncIfLeadFinder app stripeSub).Respects SameRecords :=
  Respects.ite (sameRecords_syncFromStripe stripeSub) (Respects.pure ())

theorem records_handleLeadFinderWebhookEvent (event : StripeEvent) :
    KeepsRecords (LeadFinderBillingService.handleWebhookEvent app event) world
      fun _ _ => True := by
  cases event with
  | checkoutSessionCompleted session =>
      unfold LeadFinderBillingService.handleWebhookEvent
      dsimp only
      split
      · refine Sustains.ite (fun _ => records_of_same ?_) fun _ => Sustains.pure trivial
        refine Respects.bind (Footprint.retrieve _) fun stripeSub => ?_
        refine Respects.bind (sameRecords_syncFromStripe _) fun _ => ?_
        exact (sameRecords_sendSubscriptionConfirmedEmail stripeSub).2
      · exact Sustains.pure trivial
  | subscriptionCreated stripeSub =>
      exact records_of_same (sameRecords_syncIfLeadFinder stripeSub)
  | subscriptionUpdated stripeSub =>
      exact records_of_same (sameRecords_syncIfLeadFinder stripeSub)
  | subscriptionResumed stripeSub =>
      exact records_of_same (sameRecords_syncIfLeadFinder stripeSub)
  | subscriptionDeleted stripeSub =>
      exact records_of_same (sameRecords_cancelMany .leadFinder stripeSub.id)
  | invoicePaid invoice =>
      show KeepsRecords (LeadFinderBillingService.grantMonthlyCredits invoice) world _
      unfold LeadFinderBillingService.grantMonthlyCredits
      refine Sustains.ite (fun _ => Sustains.pure trivial) fun _ => ?_
      split
      · refine Sustains.bind (Sustains.query (fun _ _ => True) fun _ _ _ _ => trivial)
          fun tier _ _ _ => ?_
        cases tier with
        | none => exact Sustains.pure trivial
        | some tier => exact records_creditAndGrant _ _ _ _ _ _
      · exact Sustains.pure trivial
  | invoicePaymentFailed invoice => exact Sustains.pure trivial
  | other => exact Sustains.pure trivial

theorem BillingRequest.keepsRecords (request : BillingRequest) :
    KeepsRecords (request.handle app) world fun _ _ => True := by
  by_cases delivery : ∃ event, request = .webhook event
  · obtain ⟨event, rfl⟩ := delivery
    exact Sustains.bind (records_handleWebhookEvent event) fun _ _ _ _ =>
      records_handleLeadFinderWebhookEvent event
  · exact records_of_same (request.sameRecords fun event same => delivery ⟨event, same⟩)

/-! ## Registration -/

theorem records_register (dto : RegisterDto) :
    KeepsRecords (AuthService.register app dto) world fun _ _ => True := by
  unfold AuthService.register
  refine Sustains.bind (Sustains.query (fun _ _ => True) fun _ _ _ _ => trivial)
    fun existing _ _ _ => ?_
  refine Sustains.ite (fun _ => Sustains.throw _ _) fun _ => ?_
  refine Sustains.bind (records_attempt (fun _ _ => True) ?_) fun user _ _ _ =>
    records_of_same (sameRecords_record _ _)
  intro input later value after _ created
  have step := RevenueRecords.Step.register later.revenueRecords
  split at created
  · cases created
  · dsimp only at created
    split at created
    · cases created
      exact ⟨step, trivial⟩
    · cases created
      exact ⟨step, trivial⟩

end
end ConferenceContact
