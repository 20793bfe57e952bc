import ConferenceContact.Billing.Frames
import Mathlib.Tactic.Linarith
import Mathlib.Tactic.Ring

/-!
# Purchased and monthly credits

A creditable event increments the balance of its user, and then records the
grant, in two separate writes of which neither looks for an earlier grant of the
event.  Every delivery that gets past both grants the credits again, and one that
is cut between them has incremented the balance without a grant.
-/

namespace ConferenceContact

open Process

/-! ## Balances and grants -/

/-- The credit balance of a user. -/
def World.creditsOf (world : World) (userId : UserId) : Int :=
  ((world.users.find? fun user => user.id = userId).map (·.leadFinderCredits)).getD 0

/-- The number of grants that carry a session or invoice id. -/
def World.grantCount (world : World) (reference : StripeReference) : Nat :=
  world.creditGrants.countP fun grant => grant.stripeReference = some reference

/-- Whether an account is in the table. -/
def World.hasUser (world : World) (userId : UserId) : Bool :=
  world.users.any fun user => user.id = userId

/-- The user an event credits and the amount: the metadata is complete, the
amount is positive in the case of a credit pack, and the user and the tier
exist. -/
def StripeEvent.credits (world : World) : StripeEvent → Option (UserId × Int)
  | checkoutSessionCompleted session =>
      if session.mode = .payment then
        match session.metadata.userId, session.metadata.credits.bind parseInt with
        | some userId, some credits =>
            if 0 < credits ∧ world.hasUser userId = true then some (userId, credits)
            else none
        | _, _ => none
      else none
  | invoicePaid invoice =>
      if invoice.metadata.isLeadFinderTier then
        match invoice.metadata.userId, invoice.metadata.tierId with
        | some userId, some tierId =>
            (world.leadFinderTiers.find? fun tier => tier.id = tierId).bind fun tier =>
              if world.hasUser userId = true then some (userId, tier.credits) else none
        | _, _ => none
      else none
  | _ => none

/-- The position of the increment among the calls of a delivery. -/
def StripeEvent.incrementCall : StripeEvent → Nat
  | invoicePaid invoice => if invoice.subscription.isSome then 3 else 1
  | _ => 0

/-- The call at a position takes place, if the calls before it do not stop. -/
def reaches (fault : Option (Nat × ApiError)) (position : Nat) : Bool :=
  fault.all fun rejected => position < rejected.1

/-- Neither the balance of a user nor the grants of a reference have changed, and
neither have the accounts and the tiers. -/
structure SameCredits
    (userId : UserId)
    (reference : StripeReference)
    (before after : World) : Prop where
  credits : after.creditsOf userId = before.creditsOf userId
  grants : after.grantCount reference = before.grantCount reference
  accounts : after.users.map (·.id) = before.users.map (·.id)
  tiers : after.leadFinderTiers = before.leadFinderTiers

instance (userId : UserId) (reference : StripeReference) :
    IsPreorder World (SameCredits userId reference) where
  refl _ := ⟨rfl, rfl, rfl, rfl⟩
  trans _ _ _ first second :=
    ⟨second.credits.trans first.credits, second.grants.trans first.grants,
      second.accounts.trans first.accounts, second.tiers.trans first.tiers⟩

theorem World.hasUser_eq (world : World) (userId : UserId) :
    world.hasUser userId = (world.users.map (·.id)).any fun id => id = userId := by
  unfold World.hasUser
  rw [List.any_map]
  rfl

/-- The amount an event credits is read from the accounts and the tiers. -/
theorem StripeEvent.credits_congr
    {before after : World}
    (accounts : after.users.map (·.id) = before.users.map (·.id))
    (tiers : after.leadFinderTiers = before.leadFinderTiers)
    (event : StripeEvent) :
    event.credits after = event.credits before := by
  have users : ∀ userId, after.hasUser userId = before.hasUser userId := by
    intro userId
    rw [World.hasUser_eq, World.hasUser_eq, accounts]
  cases event <;> simp only [StripeEvent.credits, users, tiers]

/-- A call that is rejected later is reached later. -/
theorem reaches_later
    (calls position later : Nat)
    (error : ApiError) :
    reaches (Process.later calls (some (later + calls, error))) position =
      reaches (some (later + calls, error)) (position + calls) := by
  simp [reaches, Process.later]

/-! ## The two writes -/

section

variable {input : Input} {world : World} {userId : UserId} {reference : StripeReference}

theorem sameCredits_record (actor : Option UserId) (action : AuditAction) :
    (AuditService.record actor action).Respects (SameCredits userId reference) :=
  Respects.command fun _ _ => ⟨rfl, rfl, rfl, rfl⟩

theorem World.exists_of_hasUser
    (known : world.hasUser userId = true) :
    ∃ user, (world.users.find? fun user => user.id = userId) = some user ∧
      user.id = userId := by
  cases found : world.users.find? fun user => user.id = userId with
  | some user => exact ⟨user, rfl, by simpa using List.find?_some found⟩
  | none =>
      obtain ⟨user, present, same⟩ := List.any_eq_true.mp known
      exact absurd same (List.find?_eq_none.mp found user present)

/-- The world with an increment of a user's balance. -/
def World.incremented (world : World) (userId : UserId) (credits : Int) : World :=
  { world with
    users := Table.updateWhere (fun other => other.id = userId)
      (fun user => { user with leadFinderCredits := user.leadFinderCredits + credits })
      world.users }

theorem sameCredits_upsertInvoice
    (invoice : StripeInvoice)
    (subscriptionId : Nat)
    (status : InvoiceStatus) :
    (SubscriptionsService.upsertInvoice invoice subscriptionId status).Respects
      (SameCredits userId reference) := by
  refine Respects.command fun input world => ?_
  dsimp only
  split
  · exact ⟨rfl, rfl, rfl, rfl⟩
  · exact ⟨rfl, rfl, rfl, rfl⟩

/-- The balance of a user after an increment. -/
theorem creditsOf_incremented
    (known : world.hasUser userId = true)
    (credits : Int) :
    (world.incremented userId credits).creditsOf userId =
      world.creditsOf userId + credits := by
  obtain ⟨user, found, isUser⟩ := World.exists_of_hasUser known
  unfold World.creditsOf World.incremented
  dsimp only
  rw [Table.find?_updateWhere User.id]
  · rw [found, Option.map_some, Option.map_some, Option.map_some,
      if_pos (decide_eq_true isUser)]
    rfl
  · exact fun _ => rfl

/-- The increment, the grant and the audit entry, with one call perhaps rejected. -/
theorem runWithFault_creditAndGrant
    (known : world.hasUser userId = true)
    (credits : Int)
    (source : CreditGrantSource)
    (amountPaidCents : Option Nat)
    (action : AuditAction)
    (fault : Option (Nat × ApiError)) :
    ((do
      let _ ← incrementCredits userId credits
      createCreditGrant userId credits source amountPaidCents reference
      AuditService.record (some userId) action : Service Unit).runWithFault input fault
        world).2 =
      match fault with
      | some (0, _) => world
      | some (1, _) => world.incremented userId credits
      | fault =>
          ((AuditService.record (some userId) action).runWithFault input (later 2 fault)
            ((world.incremented userId credits).granted
              { id := world.nextId
                userId
                credits
                source
                amountPaidCents
                stripeReference := some reference
                createdAt := input.now })).2 := by
  obtain ⟨user, found, -⟩ := World.exists_of_hasUser known
  unfold incrementCredits UsersService.update createCreditGrant
  rw [runWithFault_attempt_bind, found]
  dsimp only
  match fault with
  | none => rfl
  | some (0, error) => rfl
  | some (1, error) => rfl
  | some (position + 2, error) => rfl

/-- What the increment and the grant leave, with one call perhaps rejected. -/
theorem credited_creditAndGrant
    (known : world.hasUser userId = true)
    (credits : Int)
    (source : CreditGrantSource)
    (amountPaidCents : Option Nat)
    (action : AuditAction)
    (fault : Option (Nat × ApiError))
    {after : World}
    (ends : after = ((do
      let _ ← incrementCredits userId credits
      createCreditGrant userId credits source amountPaidCents reference
      AuditService.record (some userId) action : Service Unit).runWithFault input fault
        world).2) :
    after.creditsOf userId =
        world.creditsOf userId + (if reaches fault 0 then credits else 0) ∧
      after.grantCount reference =
        world.grantCount reference + (if reaches fault 1 then 1 else 0) := by
  rw [runWithFault_creditAndGrant known] at ends
  have credited := creditsOf_incremented known credits
  have audited : ∀ fault middle, SameCredits userId reference middle
      ((AuditService.record (some userId) action).runWithFault input fault middle).2 :=
    fun fault middle => (sameCredits_record _ _).runWithFault input fault middle
  have granted : ∀ grant : CreditGrant, grant.stripeReference = some reference →
      ((world.incremented userId credits).granted grant).grantCount reference =
        world.grantCount reference + 1 := by
    intro grant carries
    unfold World.grantCount World.granted
    dsimp only
    rw [List.countP_cons_of_pos (by simpa using carries)]
    rfl
  match fault with
  | some (0, error) =>
      have stopped : after = world := ends
      rw [stopped]
      simp [reaches]
  | some (1, error) =>
      have cut : after = world.incremented userId credits := ends
      rw [cut, credited]
      exact ⟨rfl, rfl⟩
  | some (position + 2, error) =>
      have kept := audited (later 2 (some (position + 2, error)))
      change after = ((AuditService.record (some userId) action).runWithFault input
        (later 2 (some (position + 2, error))) _).2 at ends
      rw [ends, (kept _).credits, (kept _).grants, granted _ rfl]
      refine ⟨?_, by simp [reaches]⟩
      rw [show reaches (some (position + 2, error)) 0 = true by simp [reaches], if_pos rfl]
      exact credited
  | none =>
      have kept := audited (later 2 none)
      dsimp only at ends
      rw [ends, (kept _).credits, (kept _).grants, granted _ rfl]
      exact ⟨credited, rfl⟩

/-- The increment of the balance of an unknown user stops. -/
theorem runWithFault_creditAndGrant_of_unknown
    (unknown : world.hasUser userId = false)
    (credits : Int)
    (next : User → Service Unit)
    (fault : Option (Nat × ApiError)) :
    ((incrementCredits userId credits >>= next).runWithFault input fault world).2 = world := by
  have missing : (world.users.find? fun user => user.id = userId) = none := by
    refine List.find?_eq_none.mpr fun user present same => ?_
    have known : world.hasUser userId = true := List.any_eq_true.mpr ⟨user, present, same⟩
    rw [unknown] at known
    cases known
  unfold incrementCredits UsersService.update
  rw [runWithFault_attempt_bind, missing]
  match fault with
  | none => rfl
  | some (0, error) => rfl
  | some (position + 1, error) => rfl

/-! ## Deliveries -/

/-- What a delivery of a creditable event does to the balance of its user and to
its grants. -/
def Credited
    (event : StripeEvent)
    (reference : StripeReference)
    (fault : Option (Nat × ApiError))
    (before after : World) : Prop :=
  match event.credits before with
  | some (userId, credits) =>
      after.creditsOf userId = before.creditsOf userId +
          (if reaches fault event.incrementCall then credits else 0) ∧
        after.grantCount reference = before.grantCount reference +
          (if reaches fault (event.incrementCall + 1) then 1 else 0)
  | none => after.grantCount reference = before.grantCount reference

/-- A credit pack: the increment is the first call. -/
theorem credited_payment
    (app : Deployment)
    {session : CheckoutSession}
    (payment : session.mode = .payment)
    (fault : Option (Nat × ApiError)) :
    Credited (.checkoutSessionCompleted session) session.id fault world
      ((StripeWebhookProcessor.process app (.checkoutSessionCompleted session)).runWithFault
        input fault world).2 := by
  have only : StripeWebhookProcessor.process app (.checkoutSessionCompleted session) =
      SubscriptionsService.handleCreditsCheckoutCompleted session := by
    unfold StripeWebhookProcessor.process SubscriptionsService.handleWebhookEvent
      LeadFinderBillingService.handleWebhookEvent
    dsimp only
    rw [payment]
    exact Process.bind_pure _
  rw [only]
  unfold Credited StripeEvent.credits SubscriptionsService.handleCreditsCheckoutCompleted
  dsimp only
  rw [if_pos payment]
  cases user : session.metadata.userId with
  | none => cases fault <;> rfl
  | some userId =>
      cases parsed : session.metadata.credits.bind parseInt with
      | none => cases fault <;> rfl
      | some credits =>
          dsimp only
          by_cases positive : 0 < credits
          · rw [if_neg (show ¬ credits ≤ 0 by omega)]
            cases known : world.hasUser userId with
            | true =>
                rw [if_pos ⟨positive, rfl⟩]
                exact credited_creditAndGrant known credits _ _ _ fault rfl
            | false =>
                rw [if_neg (by simp)]
                dsimp only
                rw [runWithFault_creditAndGrant_of_unknown known]
          · rw [if_pos (show credits ≤ 0 by omega), if_neg (by simp [positive])]
            cases fault <;> rfl

/-- The bookkeeping of an invoice of a subscription is two calls. -/
theorem runWithFault_syncInvoice_bind
    {invoice : StripeInvoice}
    (refers : invoice.subscription.isSome = true)
    (status : InvoiceStatus)
    (next : Unit → Service Unit)
    (fault : Option (Nat × ApiError)) :
    ∃ middle, (∀ userId reference, SameCredits userId reference world middle) ∧
      ((SubscriptionsService.syncInvoiceFromStripe invoice status >>= next).runWithFault
          input fault world).2 =
        match fault with
        | some (0, _) => world
        | some (1, _) => world
        | fault => ((next ()).runWithFault input (later 2 fault) middle).2 := by
  obtain ⟨id, refers⟩ := Option.isSome_iff_exists.mp refers
  unfold SubscriptionsService.syncInvoiceFromStripe SubscriptionTable.findUnique
  rw [refers]
  dsimp only
  rw [Process.bind_assoc, runWithFault_query_bind]
  cases found : findByStripeId id (world.rows .directory) with
  | none =>
      refine ⟨world, fun _ _ => Std.Refl.refl world, ?_⟩
      match fault with
      | none => rfl
      | some (0, error) => rfl
      | some (1, error) => rfl
      | some (position + 2, error) => rfl
  | some localSub =>
      refine ⟨((SubscriptionsService.upsertInvoice invoice localSub.id status).run input
        world).2, ?_, ?_⟩
      · intro userId reference
        exact (sameCredits_upsertInvoice invoice localSub.id status).run input world
      · match fault with
        | none => rfl
        | some (0, error) => rfl
        | some (1, error) => rfl
        | some (position + 2, error) => rfl

/-- A grant of a monthly allowance: the tier is read first. -/
theorem credited_grantMonthlyCredits
    {invoice : StripeInvoice}
    (isLeadFinder : invoice.metadata.isLeadFinderTier = true)
    (fault : Option (Nat × ApiError)) :
    let after := ((LeadFinderBillingService.grantMonthlyCredits invoice).runWithFault input
      fault world).2
    match (StripeEvent.invoicePaid invoice).credits world with
    | some (userId, credits) =>
        after.creditsOf userId =
            world.creditsOf userId + (if reaches fault 1 then credits else 0) ∧
          after.grantCount invoice.id =
            world.grantCount invoice.id + (if reaches fault 2 then 1 else 0)
    | none => after.grantCount invoice.id = world.grantCount invoice.id := by
  intro after
  have ends : after = ((LeadFinderBillingService.grantMonthlyCredits invoice).runWithFault
    input fault world).2 := rfl
  clear_value after
  have skipped : (!invoice.metadata.isLeadFinderTier) = false := by rw [isLeadFinder]; rfl
  unfold LeadFinderBillingService.grantMonthlyCredits LeadFinderBillingService.findTier at ends
  rw [skipped, if_neg Bool.false_ne_true] at ends
  unfold StripeEvent.credits
  dsimp only
  rw [if_pos isLeadFinder]
  cases user : invoice.metadata.userId with
  | none =>
      rw [user] at ends
      rw [show after = world from ends.trans (by cases fault <;> rfl)]
  | some userId =>
      cases named : invoice.metadata.tierId with
      | none =>
          rw [user, named] at ends
          rw [show after = world from ends.trans (by cases fault <;> rfl)]
      | some tierId =>
          rw [user, named] at ends
          dsimp only at ends ⊢
          rw [runWithFault_query_bind] at ends
          cases found : world.leadFinderTiers.find? fun tier => tier.id = tierId with
          | none =>
              rw [found] at ends
              rw [show after = world from ends.trans (by
                match fault with
                | none => rfl
                | some (0, error) => rfl
                | some (position + 1, error) => rfl)]
              rfl
          | some tier =>
              rw [found] at ends
              dsimp only [Option.bind_some] at ends ⊢
              cases known : world.hasUser userId with
              | true =>
                  rw [if_pos rfl]
                  match fault with
                  | some (0, error) =>
                      rw [show after = world from ends]
                      simp [reaches]
                  | some (position + 1, error) =>
                      have credited := credited_creditAndGrant known _ _ _ _ _ ends
                      rw [reaches_later, reaches_later] at credited
                      exact credited
                  | none => exact credited_creditAndGrant known _ _ _ _ _ ends
              | false =>
                  rw [if_neg Bool.false_ne_true]
                  match fault with
                  | some (0, error) => rw [show after = world from ends]
                  | some (position + 1, error) =>
                      rw [show after = world from ends.trans
                        (runWithFault_creditAndGrant_of_unknown known _ _ _)]
                  | none =>
                      rw [show after = world from ends.trans
                        (runWithFault_creditAndGrant_of_unknown known _ _ _)]

/-- A paid invoice of a tier: the grant follows the bookkeeping. -/
theorem credited_invoicePaid
    (app : Deployment)
    {invoice : StripeInvoice}
    (isLeadFinder : invoice.metadata.isLeadFinderTier = true)
    (fault : Option (Nat × ApiError)) :
    Credited (.invoicePaid invoice) invoice.id fault world
      ((StripeWebhookProcessor.process app (.invoicePaid invoice)).runWithFault
        input fault world).2 := by
  have only : StripeWebhookProcessor.process app (.invoicePaid invoice) =
      (SubscriptionsService.syncInvoiceFromStripe invoice .paid >>= fun _ =>
        LeadFinderBillingService.grantMonthlyCredits invoice) := rfl
  rw [only]
  unfold Credited
  cases refers : invoice.subscription.isSome with
  | false =>
      have unbilled : SubscriptionsService.syncInvoiceFromStripe invoice .paid = pure () := by
        have without : invoice.subscription = none := by simpa using refers
        unfold SubscriptionsService.syncInvoiceFromStripe
        rw [without]
      have first : (StripeEvent.invoicePaid invoice).incrementCall = 1 := by
        simp [StripeEvent.incrementCall, refers]
      rw [unbilled, first]
      exact credited_grantMonthlyCredits isLeadFinder fault
  | true =>
      have third : (StripeEvent.invoicePaid invoice).incrementCall = 3 := by
        simp [StripeEvent.incrementCall, refers]
      obtain ⟨middle, same, ran⟩ := runWithFault_syncInvoice_bind refers .paid
        (fun _ => LeadFinderBillingService.grantMonthlyCredits invoice) fault
      rw [ran, third]
      have sameAmount := StripeEvent.credits_congr (same 0 0).accounts (same 0 0).tiers
        (.invoicePaid invoice)
      -- The second service starts two calls later, from the same balances.
      have granted : ∀ fault, match (StripeEvent.invoicePaid invoice).credits world with
          | some (userId, credits) =>
              ((LeadFinderBillingService.grantMonthlyCredits invoice).runWithFault input fault
                  middle).2.creditsOf userId =
                world.creditsOf userId + (if reaches fault 1 then credits else 0) ∧
              ((LeadFinderBillingService.grantMonthlyCredits invoice).runWithFault input fault
                  middle).2.grantCount invoice.id =
                world.grantCount invoice.id + (if reaches fault 2 then 1 else 0)
          | none =>
              ((LeadFinderBillingService.grantMonthlyCredits invoice).runWithFault input fault
                  middle).2.grantCount invoice.id = world.grantCount invoice.id := by
        intro fault
        have credited := @credited_grantMonthlyCredits input middle invoice isLeadFinder fault
        rw [sameAmount] at credited
        cases amount : (StripeEvent.invoicePaid invoice).credits world with
        | none =>
            rw [amount] at credited
            exact credited.trans (same 0 invoice.id).grants
        | some granted =>
            obtain ⟨userId, credits⟩ := granted
            rw [amount] at credited
            have kept := same userId invoice.id
            dsimp only at credited ⊢
            rw [← kept.credits, ← kept.grants]
            exact credited
      match fault with
      | some (0, error) => cases (StripeEvent.invoicePaid invoice).credits world <;> simp [reaches]
      | some (1, error) => cases (StripeEvent.invoicePaid invoice).credits world <;> simp [reaches]
      | some (position + 2, error) =>
          have credited := granted (later 2 (some (position + 2, error)))
          rw [reaches_later, reaches_later] at credited
          exact credited
      | none => exact granted none

end

/-! ## Runs -/

namespace Occurrence

variable (event : StripeEvent) (occurrence : Occurrence)

/-- A delivery of an event. -/
def executes : Bool :=
  match occurrence.request with
  | .webhook delivered => delivered = event
  | _ => false

/-- A delivery of an event in which the call at a position takes place. -/
def makesCall (position : Nat) : Bool :=
  occurrence.executes event && occurrence.rejected.all (position < ·)

/-- A delivery of an event that gets past the increment and the grant. -/
def grants : Bool :=
  occurrence.makesCall event (event.incrementCall + 1)

/-- A delivery of an event whose grant is rejected, after the increment. -/
def cutAtGrant : Bool :=
  occurrence.executes event && occurrence.rejected = some (event.incrementCall + 1)

end Occurrence

/-- By how much the deliveries of an event in a run change a user's balance. -/
def creditedBy
    (app : Deployment)
    (event : StripeEvent)
    (userId : UserId) : World → List Occurrence → Int
  | _, [] => 0
  | world, occurrence :: later =>
      (if occurrence.executes event then
        (Occurrence.step app world occurrence).creditsOf userId - world.creditsOf userId
      else 0) + creditedBy app event userId (Occurrence.step app world occurrence) later

/-- An event is credited exactly once in a run: its deliveries add the amount to
the balance of its user in all, and one grant carries its session or invoice id. -/
structure CreditedOnce
    (app : Deployment)
    (event : StripeEvent)
    (reference : StripeReference)
    (start : World)
    (occurrences : List Occurrence) : Prop where
  granted : (occurrences.foldl (Occurrence.step app) start).grantCount reference = 1
  credited : ∀ userId credits, event.credits start = some (userId, credits) →
    creditedBy app event userId start occurrences = credits

/-- The accounts and the tiers are as they were, and so are the grants of a
reference. -/
structure SameGrants (reference : StripeReference) (before after : World) : Prop where
  grants : after.grantCount reference = before.grantCount reference
  accounts : after.users.map (·.id) = before.users.map (·.id)
  tiers : after.leadFinderTiers = before.leadFinderTiers

instance (reference : StripeReference) : IsPreorder World (SameGrants reference) where
  refl _ := ⟨rfl, rfl, rfl⟩
  trans _ _ _ first second :=
    ⟨second.grants.trans first.grants, second.accounts.trans first.accounts,
      second.tiers.trans first.tiers⟩

theorem SameBook.sameGrants
    {before after : World}
    (book : SameBook before after)
    (reference : StripeReference) :
    SameGrants reference before after where
  grants := congrArg (fun book => book.creditGrants.countP fun grant =>
    grant.stripeReference = some reference) book
  accounts := book.accounts
  tiers := congrArg AccountBook.leadFinderTiers book

section

variable {app : Deployment} {world : World} {occurrence : Occurrence} {event : StripeEvent}
  {reference : StripeReference}

/-- No request changes the accounts or the tiers. -/
theorem Occurrence.sameCatalog
    (app : Deployment)
    (world : World)
    (occurrence : Occurrence) :
    (step app world occurrence).users.map (·.id) = world.users.map (·.id) ∧
      (step app world occurrence).leadFinderTiers = world.leadFinderTiers := by
  let R : World → World → Prop := fun before after =>
    after.users.map (·.id) = before.users.map (·.id) ∧
      after.leadFinderTiers = before.leadFinderTiers
  have preorder : IsPreorder World R :=
    { refl := fun _ => ⟨rfl, rfl⟩
      trans := fun _ _ _ first second =>
        ⟨second.1.trans first.1, second.2.trans first.2⟩ }
  refine respected (R := R) (BillingRequest.respects
    (fun _ _ book => ⟨book.accounts, congrArg AccountBook.leadFinderTiers book⟩)
    app occurrence.request (fun _ _ _ _ world grant _ => ⟨rfl, rfl⟩) ?_) world
  intro adminUserId targetUserId granted _ world
  refine ⟨?_, rfl⟩
  exact Table.map_updateWhere _ _ _ _ fun _ => rfl

/-- A request that does not deliver the event leaves its grants alone. -/
theorem Occurrence.grantCount_of_other
    (app : Deployment)
    (world : World)
    (unique : ∀ delivered, occurrence.request = .webhook delivered →
      delivered.creditReference = some reference → delivered = event)
    (otherwise : occurrence.executes event = false) :
    (step app world occurrence).grantCount reference = world.grantCount reference := by
  refine (respected (R := SameGrants reference) (BillingRequest.respects
    (fun _ _ book => book.sameGrants reference) app occurrence.request ?_ ?_) world).grants
  · intro delivered carried delivery carries world grant granted
    refine ⟨?_, rfl, rfl⟩
    have different : carried ≠ reference := by
      rintro rfl
      unfold executes at otherwise
      rw [delivery] at otherwise
      exact of_decide_eq_false otherwise (unique delivered delivery carries)
    unfold World.grantCount World.granted
    dsimp only
    rw [List.countP_cons_of_neg]
    rw [granted]
    simpa using different
  · intro adminUserId targetUserId granted _ world
    exact ⟨rfl, Table.map_updateWhere _ _ _ _ fun _ => rfl, rfl⟩

/-- A delivery of the event credits its user and adds a grant, as far as it gets. -/
theorem Occurrence.credited_of_executes
    (app : Deployment)
    (world : World)
    (carries : event.creditReference = some reference)
    (executes : occurrence.executes event = true) :
    Credited event reference (occurrence.rejected.map fun position =>
      (position, ApiError.database)) (occurrence.arrive world) (step app world occurrence) := by
  have delivery : occurrence.request = .webhook event := by
    unfold Occurrence.executes at executes
    split at executes
    · rename_i delivered request
      rw [request, of_decide_eq_true executes]
    · cases executes
  unfold step perform
  rw [delivery]
  unfold BillingRequest.handle
  cases event with
  | checkoutSessionCompleted session =>
      unfold StripeEvent.creditReference at carries
      dsimp only at carries
      split at carries
      · rename_i payment
        cases carries
        exact credited_payment app payment _
      · cases carries
  | invoicePaid invoice =>
      unfold StripeEvent.creditReference at carries
      dsimp only at carries
      split at carries
      · rename_i isLeadFinder
        cases carries
        exact credited_invoicePaid app isLeadFinder _
      · cases carries
  | _ => cases carries

/-- An event that gets as far as its grant has got past its increment. -/
theorem Occurrence.makesCall_incrementCall
    (event : StripeEvent)
    (occurrence : Occurrence) :
    occurrence.makesCall event event.incrementCall =
      (occurrence.grants event || occurrence.cutAtGrant event) := by
  unfold grants cutAtGrant makesCall
  cases occurrence.executes event with
  | false => rfl
  | true =>
      cases occurrence.rejected with
      | none => rfl
      | some position =>
          simp only [Option.all_some, Bool.true_and, Option.some.injEq]
          rw [Bool.eq_iff_iff, Bool.or_eq_true, decide_eq_true_eq, decide_eq_true_eq,
            decide_eq_true_eq]
          omega

/-- A delivery that gets past its grant is not cut at it. -/
theorem Occurrence.cutAtGrant_of_grants
    (event : StripeEvent)
    (occurrence : Occurrence)
    (granted : occurrence.grants event = true) :
    occurrence.cutAtGrant event = false := by
  unfold grants makesCall at granted
  unfold cutAtGrant
  rw [Bool.and_eq_true] at granted
  rw [granted.1, Bool.true_and, decide_eq_false_iff_not]
  intro cut
  rw [cut] at granted
  simp at granted

/-- A request adds the grants and the increments of its own delivery only. -/
theorem Occurrence.credited_step
    (app : Deployment)
    (carries : event.creditReference = some reference)
    (unique : ∀ delivered, occurrence.request = .webhook delivered →
      delivered.creditReference = some reference → delivered = event)
    {userId : UserId}
    {credits : Int}
    (amount : event.credits world = some (userId, credits)) :
    (step app world occurrence).grantCount reference =
        world.grantCount reference + (if occurrence.grants event then 1 else 0) ∧
      (if occurrence.executes event then
          (step app world occurrence).creditsOf userId - world.creditsOf userId
        else 0) =
        if occurrence.makesCall event event.incrementCall then credits else 0 := by
  cases executes : occurrence.executes event with
  | false =>
      have kept := grantCount_of_other app world unique executes
      simp [kept, grants, makesCall, executes]
  | true =>
      have credited := credited_of_executes app world carries executes
      unfold Credited at credited
      rw [show event.credits (occurrence.arrive world) = some (userId, credits) from
        amount] at credited
      obtain ⟨balance, grants⟩ := credited
      have reach : ∀ position, reaches (occurrence.rejected.map fun position =>
          (position, ApiError.database)) position =
          occurrence.makesCall event position := by
        intro position
        unfold reaches makesCall
        rw [executes, Option.all_map]
        rfl
      rw [reach] at balance grants
      refine ⟨grants, ?_⟩
      rw [if_pos rfl, balance]
      show world.creditsOf userId + _ - world.creditsOf userId = _
      omega

/-- A request adds no grant for an event without an amount to credit. -/
theorem Occurrence.uncredited_step
    (app : Deployment)
    (carries : event.creditReference = some reference)
    (unique : ∀ delivered, occurrence.request = .webhook delivered →
      delivered.creditReference = some reference → delivered = event)
    (amount : event.credits world = none) :
    (step app world occurrence).grantCount reference = world.grantCount reference := by
  cases executes : occurrence.executes event with
  | false => exact grantCount_of_other app world unique executes
  | true =>
      have credited := credited_of_executes app world carries executes
      unfold Credited at credited
      rw [show event.credits (occurrence.arrive world) = none from amount] at credited
      exact credited

/-- The grants and the increments of an event in a run are those of the deliveries
that get as far. -/
theorem credited_run
    (app : Deployment)
    (carries : event.creditReference = some reference)
    {userId : UserId}
    {credits : Int}
    (amount : event.credits world = some (userId, credits))
    (occurrences : List Occurrence)
    (unique : ∀ occurrence ∈ occurrences, ∀ delivered,
      occurrence.request = .webhook delivered →
      delivered.creditReference = some reference → delivered = event) :
    (occurrences.foldl (Occurrence.step app) world).grantCount reference =
        world.grantCount reference + occurrences.countP (·.grants event) ∧
      creditedBy app event userId world occurrences =
        ((occurrences.countP (·.grants event) +
          occurrences.countP (·.cutAtGrant event) : Nat) : Int) * credits := by
  induction occurrences generalizing world with
  | nil => simp [creditedBy]
  | cons occurrence later inductionHypothesis =>
      obtain ⟨accounts, tiers⟩ := occurrence.sameCatalog app world
      have laterAmount : event.credits (Occurrence.step app world occurrence) =
          some (userId, credits) := by
        rw [StripeEvent.credits_congr accounts tiers]
        exact amount
      obtain ⟨laterGrants, laterCredits⟩ := inductionHypothesis laterAmount
        fun other present => unique other (List.mem_cons_of_mem _ present)
      obtain ⟨grants, balance⟩ := Occurrence.credited_step app carries
        (unique occurrence List.mem_cons_self) amount
      rw [Occurrence.makesCall_incrementCall] at balance
      have apart := occurrence.cutAtGrant_of_grants event
      rw [List.foldl_cons, laterGrants, grants, creditedBy, balance, laterCredits,
        List.countP_cons, List.countP_cons]
      refine ⟨by omega, ?_⟩
      cases granted : occurrence.grants event with
      | true =>
          rw [apart granted, Bool.or_false, if_pos rfl, if_pos rfl, if_neg Bool.false_ne_true]
          push_cast
          ring
      | false =>
          rw [Bool.false_or, if_neg Bool.false_ne_true]
          cases occurrence.cutAtGrant event with
          | true =>
              rw [if_pos rfl, if_pos rfl]
              push_cast
              ring
          | false =>
              rw [if_neg Bool.false_ne_true, if_neg Bool.false_ne_true]
              push_cast
              ring

/-- An event without an amount to credit is granted by no delivery. -/
theorem uncredited_run
    (app : Deployment)
    (carries : event.creditReference = some reference)
    (amount : event.credits world = none)
    (occurrences : List Occurrence)
    (unique : ∀ occurrence ∈ occurrences, ∀ delivered,
      occurrence.request = .webhook delivered →
      delivered.creditReference = some reference → delivered = event) :
    (occurrences.foldl (Occurrence.step app) world).grantCount reference =
      world.grantCount reference := by
  induction occurrences generalizing world with
  | nil => rfl
  | cons occurrence later inductionHypothesis =>
      obtain ⟨accounts, tiers⟩ := occurrence.sameCatalog app world
      have laterAmount : event.credits (Occurrence.step app world occurrence) = none := by
        rw [StripeEvent.credits_congr accounts tiers]
        exact amount
      rw [List.foldl_cons, inductionHypothesis laterAmount
        fun other present => unique other (List.mem_cons_of_mem _ present)]
      exact Occurrence.uncredited_step app carries (unique occurrence List.mem_cons_self)
        amount

end

/-- An event is credited exactly once if and only if it names an amount, exactly
one of its deliveries gets past the grant, and none is cut between the increment
and the grant, unless the amount is zero. -/
theorem credited_once_iff
    (app : Deployment)
    {event : StripeEvent}
    {reference : StripeReference}
    (carries : event.creditReference = some reference)
    {start : World}
    (ungranted : start.grantCount reference = 0)
    (occurrences : List Occurrence)
    (unique : ∀ occurrence ∈ occurrences, ∀ delivered,
      occurrence.request = .webhook delivered →
      delivered.creditReference = some reference → delivered = event) :
    CreditedOnce app event reference start occurrences ↔
      ∃ userId credits, event.credits start = some (userId, credits) ∧
        occurrences.countP (·.grants event) = 1 ∧
        (credits = 0 ∨ ∀ occurrence ∈ occurrences, occurrence.cutAtGrant event = false) := by
  cases amount : event.credits start with
  | none =>
      constructor
      · rintro ⟨granted, -⟩
        rw [uncredited_run app carries amount occurrences unique, ungranted] at granted
        cases granted
      · rintro ⟨userId, credits, impossible, -⟩
        cases impossible
  | some named =>
      obtain ⟨userId, credits⟩ := named
      obtain ⟨grants, total⟩ := credited_run app carries amount occurrences unique
      rw [ungranted, Nat.zero_add] at grants
      have uncut : occurrences.countP (·.cutAtGrant event) = 0 ↔
          ∀ occurrence ∈ occurrences, occurrence.cutAtGrant event = false := by
        simp [List.countP_eq_zero]
      constructor
      · rintro ⟨granted, credited⟩
        have once := grants.symm.trans granted
        refine ⟨userId, credits, rfl, once, ?_⟩
        have sum := total.symm.trans (credited userId credits amount)
        rw [once] at sum
        have surplus : (occurrences.countP (·.cutAtGrant event) : Int) * credits = 0 := by
          push_cast at sum
          linarith
        rcases mul_eq_zero.mp surplus with none_ | zero
        · exact .inr (uncut.mp (by exact_mod_cast none_))
        · exact .inl zero
      · rintro ⟨_, _, same, once, whole⟩
        cases same
        refine ⟨grants.trans once, ?_⟩
        rintro userId credits named
        rw [amount] at named
        cases named
        rw [total, once]
        rcases whole with rfl | whole
        · simp
        · rw [uncut.mpr whole]
          simp

/-- The paid invoice of the sample account's monthly tier. -/
def sampleInvoice : StripeEvent :=
  .invoicePaid
    { id := 30
      metadata := { isLeadFinderTier := true, userId := some 0, tierId := some 2 } }

/-- An invoice whose first delivery is cut at the increment and then retried. -/
theorem credited_once_retried :
    CreditedOnce sampleDeployment sampleInvoice 30 sampleBackend
      [{ sampleDelivery 1000 sampleInvoice [] with rejected := some 1 },
        sampleDelivery 2000 sampleInvoice []] := by
  refine (credited_once_iff sampleDeployment rfl rfl _ ?_).mpr
    ⟨0, 500, by decide, by decide, .inr (by decide)⟩
  intro occurrence present delivered delivery _
  rcases List.mem_cons.mp present with rfl | present
  · cases delivery
    rfl
  · rw [List.mem_singleton.mp present] at delivery
    cases delivery
    rfl

/-- An invoice that is delivered twice is credited twice, and so is one whose
first delivery is cut at its grant. -/
theorem redelivered_invoice_credited_twice :
    (((sampleDelivery 1000 sampleInvoice []).perform sampleDeployment sampleBackend).1 =
        .ok () ∧
      ¬ CreditedOnce sampleDeployment sampleInvoice 30 sampleBackend
        [sampleDelivery 1000 sampleInvoice [], sampleDelivery 2000 sampleInvoice []]) ∧
    ((sampleDelivery 2000 sampleInvoice []).perform sampleDeployment
        (Occurrence.step sampleDeployment sampleBackend
          { sampleDelivery 1000 sampleInvoice [] with rejected := some 2 })).1 = .ok () ∧
      ¬ CreditedOnce sampleDeployment sampleInvoice 30 sampleBackend
        [{ sampleDelivery 1000 sampleInvoice [] with rejected := some 2 },
          sampleDelivery 2000 sampleInvoice []] := by
  refine ⟨⟨by decide, ?_⟩, by decide, ?_⟩
  · rintro ⟨granted, -⟩
    exact absurd granted (by decide)
  · rintro ⟨-, credited⟩
    exact absurd (credited 0 500 (by decide)) (by decide)

end ConferenceContact
