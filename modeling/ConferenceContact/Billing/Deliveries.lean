import ConferenceContact.Billing.Ledger

/-!
# What a delivery does

Each of the two services records its own write of a delivered event, and leaves
Stripe alone unless the unique index refuses that write.  The two together, and
every other request, record the write that `BillingRequest.write` names.
-/

namespace ConferenceContact

open Process

/-! ## Synchronised subscriptions -/

/-- Stripe's subscriptions with one of them ended. -/
def canceledIn
    (id : StripeSubscriptionId)
    (stripe : List StripeSubscription) : List StripeSubscription :=
  Table.updateWhere (fun other => other.id = id)
    (fun stripeSub => { stripeSub with status := .canceled }) stripe

theorem findStripe_id
    {id : StripeSubscriptionId}
    {stripe : List StripeSubscription}
    {stripeSub : StripeSubscription}
    (found : findStripe id stripe = some stripeSub) :
    stripeSub.id = id := by
  simpa using List.find?_some found

theorem findStripe_canceledIn
    (other id : StripeSubscriptionId)
    (stripe : List StripeSubscription) :
    findStripe other (canceledIn id stripe) =
      (findStripe other stripe).map fun stripeSub =>
        if stripeSub.id = id then { stripeSub with status := .canceled } else stripeSub := by
  unfold findStripe canceledIn
  rw [Table.find?_updateWhere StripeSubscription.id]
  · simp only [decide_eq_true_eq]
  · exact fun _ => rfl

/-- Ending one subscription leaves the others. -/
theorem findStripe_canceledIn_of_ne
    {other id : StripeSubscriptionId}
    (different : other ≠ id)
    (stripe : List StripeSubscription) :
    findStripe other (canceledIn id stripe) = findStripe other stripe := by
  rw [findStripe_canceledIn]
  cases found : findStripe other stripe with
  | none => rfl
  | some stripeSub =>
      have notEnded : stripeSub.id ≠ id := by
        rw [findStripe_id found]
        exact different
      rw [Option.map_some, if_neg notEnded]

/-- A service has dealt with a reported subscription: it has recorded its
write, and ended the subscription in Stripe only where the index refused the
write. -/
structure Synced
    (product : Product)
    (now : Time)
    (lossy : Prop)
    (write : Option RowWrite)
    (id : StripeSubscriptionId)
    (before after : World) : Prop where
  recorded : Recorded product now lossy write before after
  others : ∀ other, other ≠ product → after.rows other = before.rows other
  stripe : after.stripe = before.stripe ∨
    ∃ taken, write = some taken ∧ taken.refused (before.rows product) = true ∧
      after.stripe = canceledIn id before.stripe

namespace Synced

variable {product : Product} {now : Time} {lossy : Prop} {write : Option RowWrite}
  {id : StripeSubscriptionId} {before middle after : World}

theorem kept
    (same : SameLedger before after)
    (reason : lossy ∨ ∀ taken, write = some taken →
      taken.accepted product before = false) :
    Synced product now lossy write id before after where
  recorded := Recorded.kept same.toKeepsRows reason
  others other _ := same.rows other
  stripe := .inl same.stripe

theorem none
    (same : SameLedger before after) :
    Synced product now lossy Option.none id before after where
  recorded := Recorded.none same.toKeepsRows
  others other _ := same.rows other
  stripe := .inl same.stripe

theorem andThen
    (synced : Synced product now lossy write id before middle)
    (same : SameLedger middle after) :
    Synced product now lossy write id before after where
  recorded := synced.recorded.andThen same.toKeepsRows
  others other different := (same.rows other).trans (synced.others other different)
  stripe := by
    rw [same.stripe]
    exact synced.stripe

end Synced

section

variable {input : Input} {rejections : ApiError → Prop} {world : World} {product : Product}

/-- Ending a subscription in Stripe keeps the rows. -/
theorem ensures_cancelInStripe (id : StripeSubscriptionId) :
    (StripeService.cancel id).Ensures input rejections world fun _ after =>
      KeepsRows world after ∧
        (after.stripe = world.stripe ∨ after.stripe = canceledIn id world.stripe) := by
  have unchanged : KeepsRows world world := Std.Refl.refl world
  unfold StripeService.cancel StripeService.modify
  rw [Ensures.attempt_iff]
  refine ⟨?_, fun _ _ => ⟨unchanged, .inl rfl⟩⟩
  split
  · rename_i value after outcome
    split at outcome
    · split at outcome
      · cases outcome
      · cases outcome
        exact ⟨⟨fun product => by cases product <;> rfl, Nat.le_refl _⟩, .inr rfl⟩
    · cases outcome
  · exact ⟨unchanged, .inl rfl⟩

/-- Ending a duplicate keeps the rows, and ends it only for a refused write. -/
theorem ensures_cancelDuplicate
    (id : StripeSubscriptionId)
    (userId : UserId)
    (action : AuditAction)
    (error : ApiError) :
    (SubscriptionsService.cancelDuplicate id userId action error).Ensures input rejections
      world fun _ after => KeepsRows world after ∧
        (after.stripe = world.stripe ∨
          error = .uniqueViolation ∧ after.stripe = canceledIn id world.stripe) := by
  unfold SubscriptionsService.cancelDuplicate
  split
  · rename_i isUnique
    refine Ensures.bind (ensures_cancelInStripe id) ?_ ?_
    · rintro _ after ⟨keeps, stripe⟩
      refine Ensures.bind (Ensures.of_respects (quiet_record _ _)) ?_ ?_
      · intro _ later quiet
        refine ⟨IsTrans.trans _ _ _ keeps quiet.sameLedger.toKeepsRows, ?_⟩
        rw [quiet.stripe]
        exact stripe.imp_right fun canceled => ⟨isUnique, canceled⟩
      · intro _ later quiet
        refine ⟨IsTrans.trans _ _ _ keeps quiet.sameLedger.toKeepsRows, ?_⟩
        rw [quiet.stripe]
        exact stripe.imp_right fun canceled => ⟨isUnique, canceled⟩
    · rintro _ after ⟨keeps, stripe⟩
      exact ⟨keeps, stripe.imp_right fun canceled => ⟨isUnique, canceled⟩⟩
  · exact ⟨Std.Refl.refl world, .inl rfl⟩

/-- An upsert, what follows it, and the ending of a duplicate. -/
theorem ensures_upsertOrCancel
    (reliable : ¬ rejections .uniqueViolation)
    {write : RowWrite}
    {upsert : Service Unit}
    {rest : Service Bool}
    (upserts : upsert.Ensures input rejections world
      (TableCall product input.now rejections write world))
    (quiet : ∀ after, rest.Ensures input rejections after fun result later =>
      Quiet after later ∧ ∀ error, result = .error error → rejections error)
    (id : StripeSubscriptionId)
    (userId : UserId)
    (action : AuditAction) :
    (tryCatch
      (do
        upsert
        rest)
      (SubscriptionsService.cancelDuplicate id userId action)).Ensures input rejections
      world fun _ after =>
        Synced product input.now (∃ error, rejections error) (some write) id world after := by
  rw [Ensures.tryCatch_iff, Ensures.bind_iff]
  refine upserts.weaken ?_
  intro result after call
  -- Where nothing has been written, only the ending of the duplicate is left.
  have unwritten : ∀ error,
      ((∃ error, rejections error) ∨ write.accepted product world = false) →
      (error = .uniqueViolation → write.refused (world.rows product) = true) →
      (SubscriptionsService.cancelDuplicate id userId action error).Ensures input rejections
        world fun _ after =>
          Synced product input.now (∃ error, rejections error) (some write) id world
            after := by
    intro error reason refused
    refine (ensures_cancelDuplicate id userId action error).weaken ?_
    rintro _ after ⟨keeps, stripe⟩
    refine ⟨Recorded.kept keeps (reason.imp_right ?_), fun other _ => keeps.rows other,
      stripe.imp_right ?_⟩
    · rintro notAccepted taken ⟨⟩
      exact notAccepted
    · rintro ⟨isUnique, canceled⟩
      exact ⟨write, rfl, refused isUnique, canceled⟩
  cases result with
  | ok value =>
      obtain ⟨recorded, others, stripe⟩ := call
      refine (quiet after).weaken ?_
      rintro result later ⟨quiet, rejected⟩
      have synced : Synced product input.now (∃ error, rejections error) (some write) id
          world later :=
        Synced.andThen ⟨recorded.mono False.elim, others, .inl stripe⟩ quiet.sameLedger
      cases result with
      | ok value => exact synced
      | error error =>
          refine (ensures_cancelDuplicate id userId action error).weaken ?_
          rintro _ last ⟨keeps, unchanged | ⟨isUnique, -⟩⟩
          · exact synced.andThen ⟨keeps, unchanged⟩
          · exact absurd (isUnique ▸ rejected error rfl) reliable
  | error error =>
      obtain ⟨rfl, allowed | ⟨rfl, refused⟩ | ⟨rfl, refers⟩⟩ := call
      · refine unwritten error (.inl ⟨error, allowed⟩) ?_
        rintro rfl
        exact absurd allowed reliable
      · refine unwritten _ (.inr ?_) fun _ => refused
        rw [RowWrite.accepted, refused]
        rfl
      · refine unwritten _ (.inr ?_) (by simp)
        rw [RowWrite.accepted, refers, Bool.and_false]

/-- The update of a row without metadata, or nothing if there is no row. -/
theorem ensures_updateExisting
    (consistent : world.Consistent)
    (stripeSub : StripeSubscription) :
    (match findByStripeId stripeSub.id world.subscriptions with
      | none => pure ()
      | some existing =>
          SubscriptionTable.update .directory existing.id
            (SubscriptionsService.mapStripeSubToUpdate stripeSub existing.pastDueSince) :
      Service Unit).Ensures input rejections world fun _ after =>
        Synced .directory input.now (∃ error, rejections error)
          ((findByStripeId stripeSub.id world.subscriptions).map fun _ => .sync stripeSub)
          stripeSub.id world after := by
  have unchanged : SameLedger world world := Std.Refl.refl world
  cases found : findByStripeId stripeSub.id world.subscriptions with
  | none => exact Synced.none unchanged
  | some existing =>
      obtain ⟨present, sameStripeId⟩ := mem_of_findByStripeId found
      have updates : (SubscriptionTable.update .directory existing.id
          (SubscriptionsService.mapStripeSubToUpdate stripeSub
            existing.pastDueSince)).Ensures input rejections world
          (TableCall .directory input.now rejections (.sync stripeSub) world) :=
        ensures_update consistent present rfl sameStripeId.symm rfl nofun
      refine updates.weaken ?_
      intro result after call
      cases result with
      | ok value => exact ⟨call.1.mono False.elim, call.2.1, .inl call.2.2⟩
      | error error =>
          obtain ⟨rfl, allowed | ⟨-, refused⟩ | ⟨-, refers⟩⟩ := call
          · exact .kept unchanged (.inl ⟨error, allowed⟩)
          · refine .kept unchanged (.inr ?_)
            rintro taken ⟨⟩
            rw [RowWrite.accepted, refused]
            rfl
          · cases refers

/-- The Directory's write of a subscription with its metadata. -/
theorem syncWrite_directory
    {rows : List SubscriptionRow}
    {stripeSub : StripeSubscription}
    (kind : ¬ stripeSub.metadata.isLeadFinderTier = true)
    {userId : UserId}
    {planId : PlanId}
    (user : stripeSub.metadata.userId = some userId)
    (plan : stripeSub.metadata.planId = some planId) :
    syncWrite .directory rows stripeSub = some (upsertWrite rows stripeSub userId planId) := by
  simp only [syncWrite, kind, if_false, user, plan, Bool.false_eq_true]

/-- The Directory's write of a subscription without all of its metadata. -/
theorem syncWrite_directory_of_missing
    {rows : List SubscriptionRow}
    {stripeSub : StripeSubscription}
    (kind : ¬ stripeSub.metadata.isLeadFinderTier = true)
    (missing : ∀ userId planId, stripeSub.metadata.userId = some userId →
      stripeSub.metadata.planId = some planId → False) :
    syncWrite .directory rows stripeSub =
      (findByStripeId stripeSub.id rows).map fun _ => .sync stripeSub := by
  simp only [syncWrite, kind, if_false, Bool.false_eq_true]

theorem ensures_syncSubscriptionFromStripe
    (reliable : ¬ rejections .uniqueViolation)
    (consistent : world.Consistent)
    (stripeSub : StripeSubscription) :
    (SubscriptionsService.syncSubscriptionFromStripe stripeSub).Ensures input rejections
      world fun _ after =>
        Synced .directory input.now (∃ error, rejections error)
          (syncWrite .directory world.subscriptions stripeSub) stripeSub.id world after := by
  have unchanged : SameLedger world world := Std.Refl.refl world
  unfold SubscriptionsService.syncSubscriptionFromStripe
  split
  · rename_i isLeadFinder
    rw [Ensures.pure_iff, syncWrite, if_pos isLeadFinder]
    exact Synced.none unchanged
  · rename_i notLeadFinder
    unfold SubscriptionTable.findUnique
    rw [Ensures.bind_iff, Ensures.query_iff]
    refine ⟨?_, fun error allowed => .kept unchanged (.inl ⟨error, allowed⟩)⟩
    simp only [World.rows]
    split
    · rename_i userId planId user plan
      have upserts : (SubscriptionTable.upsert .directory stripeSub.id
          (SubscriptionsService.newRow stripeSub userId planId)
          (SubscriptionsService.mapStripeSubToUpdate stripeSub
            ((findByStripeId stripeSub.id world.subscriptions).bind
              (·.pastDueSince)))).Ensures input rejections world
          (TableCall .directory input.now rejections
            (upsertWrite world.subscriptions stripeSub userId planId) world) := by
        refine ensures_upsert consistent (fun _ => rfl) fun row found => ?_
        have found : findByStripeId stripeSub.id world.subscriptions = some row := found
        rw [found]
        rfl
      rw [syncWrite_directory notLeadFinder user plan]
      refine Ensures.bind (ensures_upsertOrCancel reliable upserts ?_ _ _ _) ?_ ?_
      · intro after
        exact ⟨Std.Refl.refl after, by simp⟩
      · intro written after synced
        split
        · refine (Ensures.of_respects (quiet_record _ _)).weaken fun _ later quiet => ?_
          exact synced.andThen quiet.sameLedger
        · exact synced
      · intro error after synced
        exact synced
    · rename_i missing
      rw [syncWrite_directory_of_missing notLeadFinder missing]
      exact ensures_updateExisting consistent stripeSub

/-- Enqueueing a job is quiet and never stops. -/
theorem ensures_enqueue (job : EmailJob) :
    (EmailService.enqueue job).Ensures input rejections world fun result after =>
      Quiet world after ∧ result = .ok () := by
  have unchanged : Quiet world world := Std.Refl.refl world
  unfold EmailService.enqueue
  rw [Ensures.tryCatch_iff, Ensures.command_iff]
  refine ⟨?_, fun _ _ => ⟨unchanged, rfl⟩⟩
  dsimp only
  split
  · exact ⟨quiet_of_eq rfl rfl rfl rfl (Nat.le_refl _), rfl⟩
  · exact ⟨unchanged, rfl⟩

/-- The mail of a first failure is quiet, and stops only where a call is
rejected. -/
theorem ensures_mailFirstFailure
    (app : Deployment)
    (isFirstFailure : Bool)
    (userId : UserId)
    (tierId : PlanId) :
    (LeadFinderBillingService.mailFirstFailure app isFirstFailure userId tierId).Ensures
      input rejections world fun result after =>
        Quiet world after ∧ ∀ error, result = .error error → rejections error := by
  have unchanged : Quiet world world := Std.Refl.refl world
  have rejected : ∀ error, rejections error →
      Quiet world world ∧
        ∀ other, (Except.error error : Except ApiError Unit) = .error other →
          rejections other := by
    rintro error allowed
    refine ⟨unchanged, ?_⟩
    rintro other ⟨⟩
    exact allowed
  unfold LeadFinderBillingService.mailFirstFailure
  split
  · unfold UsersService.findById LeadFinderBillingService.findTier
    rw [Ensures.bind_iff, Ensures.query_iff]
    refine ⟨?_, rejected⟩
    dsimp only
    rw [Ensures.bind_iff, Ensures.query_iff]
    refine ⟨?_, rejected⟩
    dsimp only
    split
    · refine (ensures_enqueue _).weaken ?_
      rintro _ after ⟨quiet, rfl⟩
      exact ⟨quiet, nofun⟩
    · exact ⟨unchanged, nofun⟩
  · exact ⟨unchanged, nofun⟩

theorem ensures_syncFromStripe
    (app : Deployment)
    (reliable : ¬ rejections .uniqueViolation)
    (consistent : world.Consistent)
    (stripeSub : StripeSubscription) :
    (LeadFinderBillingService.syncFromStripe app stripeSub).Ensures input rejections
      world fun _ after =>
        Synced .leadFinder input.now (∃ error, rejections error)
          (syncWrite .leadFinder world.leadFinderSubscriptions stripeSub) stripeSub.id
          world after := by
  have unchanged : SameLedger world world := Std.Refl.refl world
  unfold LeadFinderBillingService.syncFromStripe
  split
  · rename_i userId tierId user tier
    unfold SubscriptionTable.findUnique
    rw [Ensures.bind_iff, Ensures.query_iff]
    refine ⟨?_, fun error allowed => .kept unchanged (.inl ⟨error, allowed⟩)⟩
    simp only [World.rows, syncWrite, user, tier]
    have upserts : (SubscriptionTable.upsert .leadFinder stripeSub.id
        (LeadFinderBillingService.newRow stripeSub userId tierId
          ((findByStripeId stripeSub.id world.leadFinderSubscriptions).bind
            (·.pastDueSince)))
        (SubscriptionsService.mapStripeSubToUpdate stripeSub
          ((findByStripeId stripeSub.id world.leadFinderSubscriptions).bind
            (·.pastDueSince)))).Ensures input rejections world
        (TableCall .leadFinder input.now rejections
          (upsertWrite world.leadFinderSubscriptions stripeSub userId tierId) world) := by
      refine ensures_upsert consistent ?_ ?_
      · intro absent
        have absent : findByStripeId stripeSub.id world.leadFinderSubscriptions = none :=
          absent
        rw [absent]
        rfl
      · intro row found
        have found : findByStripeId stripeSub.id world.leadFinderSubscriptions = some row :=
          found
        rw [found]
        rfl
    refine Ensures.bind (ensures_upsertOrCancel reliable upserts ?_ _ _ _) ?_ ?_
    · intro after
      refine Ensures.bind (ensures_mailFirstFailure app _ _ _) ?_ ?_
      · rintro _ later ⟨quiet, -⟩
        exact ⟨quiet, by simp⟩
      · rintro error later ⟨quiet, rejected⟩
        refine ⟨quiet, ?_⟩
        rintro other ⟨⟩
        exact rejected error rfl
    · intro _ after synced
      exact synced
    · intro error after synced
      exact synced
  · rename_i missing
    have nothing : syncWrite .leadFinder world.leadFinderSubscriptions stripeSub = none := by
      simp only [syncWrite]
    rw [Ensures.pure_iff, nothing]
    exact Synced.none unchanged

end

/-! ## The two handlers -/

/-- A service has dealt with an event. -/
structure Handled
    (product : Product)
    (now : Time)
    (lossy : Prop)
    (event : StripeEvent)
    (before after : World) : Prop where
  recorded : Recorded product now lossy (event.write product before) before after
  others : ∀ other, other ≠ product → after.rows other = before.rows other
  stripe : after.stripe = before.stripe ∨
    ∃ report taken, event.reported before.stripe = some report ∧
      event.write product before = some taken ∧
      taken.refused (before.rows product) = true ∧
      after.stripe = canceledIn report.2.id before.stripe

section

variable {product : Product} {now : Time} {lossy : Prop} {event : StripeEvent}
  {before after : World}

theorem StripeEvent.write_of_reported
    {report : StripeMetadata × StripeSubscription}
    (reported : event.reported before.stripe = some report) :
    event.write product before =
      if product.owns report.1 then syncWrite product (before.rows product) report.2
      else none := by
  cases event with
  | checkoutSessionCompleted session =>
      simp only [StripeEvent.write, reported, Option.bind_some]
  | subscriptionCreated stripeSub => cases reported; rfl
  | subscriptionUpdated stripeSub => cases reported; rfl
  | subscriptionResumed stripeSub => cases reported; rfl
  | _ => cases reported

/-- The handling of a reported subscription the service takes for its own. -/
theorem Handled.of_synced
    {report : StripeMetadata × StripeSubscription}
    (reported : event.reported before.stripe = some report)
    (owns : product.owns report.1 = true)
    (synced : Synced product now lossy
      (syncWrite product (before.rows product) report.2) report.2.id before after) :
    Handled product now lossy event before after := by
  have write : event.write product before =
      syncWrite product (before.rows product) report.2 := by
    rw [StripeEvent.write_of_reported reported, if_pos owns]
  refine ⟨?_, synced.others, ?_⟩
  · rw [write]
    exact synced.recorded
  · refine synced.stripe.imp_right ?_
    rintro ⟨taken, same, refused, canceled⟩
    exact ⟨report, taken, reported, write.trans same, refused, canceled⟩

/-- An event that writes nothing, or whose handling is cut short. -/
theorem Handled.of_sameLedger
    (same : SameLedger before after)
    (reason : lossy ∨ event.write product before = none) :
    Handled product now lossy event before after where
  recorded := by
    refine Recorded.kept same.toKeepsRows (reason.imp_right ?_)
    rintro nothing taken written
    rw [nothing] at written
    cases written
  others other _ := same.rows other
  stripe := .inl same.stripe

theorem Handled.mono
    (handled : Handled product now lossy event before after)
    {lossier : Prop}
    (implies : lossy → lossier) :
    Handled product now lossier event before after :=
  { handled with recorded := handled.recorded.mono implies }

theorem Handled.andThen
    {middle : World}
    (handled : Handled product now lossy event before middle)
    (same : SameLedger middle after) :
    Handled product now lossy event before after where
  recorded := handled.recorded.andThen same.toKeepsRows
  others other different := (same.rows other).trans (handled.others other different)
  stripe := by
    rw [same.stripe]
    exact handled.stripe

end

/-- A credited amount leaves the tables and Stripe alone. -/
theorem ledger_creditAndGrant
    (userId : UserId)
    (credits : Int)
    (source : CreditGrantSource)
    (amountPaidCents : Option Nat)
    (reference : StripeReference)
    (action : AuditAction) :
    (do
      let _ ← incrementCredits userId credits
      createCreditGrant userId credits source amountPaidCents reference
      AuditService.record (some userId) action : Service Unit).Respects SameLedger := by
  have fromQuiet : ∀ before after, Quiet before after → SameLedger before after :=
    fun _ _ quiet => quiet.sameLedger
  refine Respects.bind ((quiet_incrementCredits _ _).mono fromQuiet) fun _ => ?_
  refine Respects.bind (Respects.command fun input world => ?_) fun _ => ?_
  · exact ⟨⟨fun product => by cases product <;> rfl, Nat.le_succ _⟩, rfl⟩
  · exact (quiet_record _ _).mono fromQuiet

theorem ledger_handleCreditsCheckoutCompleted (session : CheckoutSession) :
    (SubscriptionsService.handleCreditsCheckoutCompleted session).Respects SameLedger := by
  unfold SubscriptionsService.handleCreditsCheckoutCompleted
  split
  · exact Respects.ite (Respects.pure ()) (ledger_creditAndGrant _ _ _ _ _ _)
  · exact Respects.pure ()

theorem ledger_grantMonthlyCredits (invoice : StripeInvoice) :
    (LeadFinderBillingService.grantMonthlyCredits invoice).Respects SameLedger := by
  refine Respects.ite (Respects.pure ()) ?_
  split
  · refine Respects.bind (Respects.query _) fun tier => ?_
    split
    · exact Respects.pure ()
    · exact ledger_creditAndGrant _ _ _ _ _ _
  · exact Respects.pure ()

section

variable {input : Input} {rejections : ApiError → Prop} {world : World}

/-- Looking a subscription up in Stripe changes nothing. -/
theorem ensures_retrieve (id : StripeSubscriptionId) :
    (StripeService.retrieve id).Ensures input rejections world fun result after =>
      after = world ∧
        match result with
        | .ok stripeSub => findStripe id world.stripe = some stripeSub
        | .error error => rejections error ∨ findStripe id world.stripe = none := by
  unfold StripeService.retrieve
  rw [Ensures.attempt_iff]
  refine ⟨?_, fun error allowed => ⟨rfl, .inl allowed⟩⟩
  cases found : findStripe id world.stripe with
  | none => exact ⟨rfl, .inr rfl⟩
  | some stripeSub => exact ⟨rfl, rfl⟩

theorem ensures_cancelMany
    (product : Product)
    (id : StripeSubscriptionId) :
    (SubscriptionTable.cancelMany product id).Ensures input rejections world
      fun _ after =>
        Recorded product input.now (∃ error, rejections error) (some (.terminate id)) world
          after ∧
        (∀ other, other ≠ product → after.rows other = world.rows other) ∧
        after.stripe = world.stripe := by
  unfold SubscriptionTable.cancelMany
  rw [Ensures.command_iff]
  refine ⟨⟨⟨?_, .inl ⟨_, world.nextId, rfl, ?_, Nat.le_refl _, nofun, ?_⟩⟩, ?_, ?_⟩, ?_⟩
  · exact Nat.le_of_eq (World.nextId_setRows _ _ _).symm
  · rfl
  · exact World.rows_setRows _ _ _
  · intro other different
    exact World.rows_setRows_of_ne _ _ different
  · exact World.stripe_setRows _ _ _
  · intro error allowed
    exact ⟨Recorded.kept (Std.Refl.refl world) (.inl ⟨error, allowed⟩),
      fun _ _ => rfl, rfl⟩

theorem ensures_markPastDue
    (app : Deployment)
    (consistent : world.Consistent)
    (id : StripeSubscriptionId) :
    (SubscriptionsService.markPastDue app id).Ensures input rejections world
      fun _ after =>
        Recorded .directory input.now (∃ error, rejections error)
          ((findByStripeId id world.subscriptions).map fun _ => .fail id) world after ∧
        (∀ other, other ≠ .directory → after.rows other = world.rows other) ∧
        after.stripe = world.stripe := by
  have unchanged : SameLedger world world := Std.Refl.refl world
  unfold SubscriptionsService.markPastDue
  rw [Ensures.bind_iff, Ensures.query_iff]
  refine ⟨?_, fun error allowed =>
    ⟨Recorded.kept unchanged.toKeepsRows (.inl ⟨error, allowed⟩), fun _ _ => rfl, rfl⟩⟩
  cases found : findByStripeId id world.subscriptions with
  | none => exact ⟨Recorded.none unchanged.toKeepsRows, fun _ _ => rfl, rfl⟩
  | some existing =>
      obtain ⟨present, sameStripeId⟩ := mem_of_findByStripeId found
      have updates : (SubscriptionTable.update .directory existing.id
          (SubscriptionsService.pastDueUpdate existing.pastDueSince)).Ensures input
          rejections world
          (TableCall .directory input.now rejections (.fail id) world) :=
        ensures_update consistent present rfl sameStripeId.symm rfl nofun
      refine Ensures.bind updates ?_ ?_
      · rintro value after ⟨recorded, others, stripe⟩
        have recorded : Recorded .directory input.now (∃ error, rejections error)
            (some (.fail id)) world after := recorded.mono False.elim
        split
        · refine (ensures_enqueue _).weaken ?_
          rintro _ later ⟨quiet, -⟩
          have same := quiet.sameLedger
          exact ⟨recorded.andThen same.toKeepsRows,
            fun other different => (same.rows other).trans (others other different),
            same.stripe.trans stripe⟩
        · exact ⟨recorded, others, stripe⟩
      · rintro error after ⟨rfl, reason⟩
        refine ⟨Recorded.kept unchanged.toKeepsRows ?_, fun _ _ => rfl, rfl⟩
        rcases reason with allowed | ⟨-, refused⟩ | ⟨-, refers⟩
        · exact .inl ⟨error, allowed⟩
        · refine .inr ?_
          rintro taken ⟨⟩
          rw [RowWrite.accepted, refused]
          rfl
        · cases refers

/-- The bookkeeping of an invoice is quiet, and stops only where a call is
rejected. -/
theorem ensures_syncInvoiceFromStripe (invoice : StripeInvoice) (status : InvoiceStatus) :
    (SubscriptionsService.syncInvoiceFromStripe invoice status).Ensures input rejections
      world fun result after =>
        Quiet world after ∧ ∀ error, result = .error error → rejections error := by
  refine (Ensures.of_respects (quiet_syncInvoiceFromStripe invoice status)).and ?_
  have rejected : ∀ error, rejections error →
      ∀ other, (Except.error error : Except ApiError Unit) = .error other →
        rejections other := by
    rintro error allowed other ⟨⟩
    exact allowed
  unfold SubscriptionsService.syncInvoiceFromStripe
  split
  · exact nofun
  · unfold SubscriptionTable.findUnique
    rw [Ensures.bind_iff, Ensures.query_iff]
    refine ⟨?_, rejected⟩
    dsimp only
    split
    · rw [Ensures.bind_iff, Ensures.query_iff]
      exact ⟨nofun, rejected⟩
    · exact ⟨nofun, rejected⟩

/-- A reported subscription in the hands of `SubscriptionsService`. -/
theorem ensures_handleReported
    (reliable : ¬ rejections .uniqueViolation)
    (consistent : world.Consistent)
    {event : StripeEvent}
    {stripeMeta : StripeMetadata}
    {stripeSub : StripeSubscription}
    (reported : event.reported world.stripe = some (stripeMeta, stripeSub)) :
    (SubscriptionsService.syncSubscriptionFromStripe stripeSub).Ensures input rejections
      world fun _ after =>
        Handled .directory input.now (∃ error, rejections error) event world after :=
  (ensures_syncSubscriptionFromStripe reliable consistent stripeSub).weaken
    fun _ _ synced => Handled.of_synced reported rfl synced

theorem ensures_handleWebhookEvent
    (app : Deployment)
    (reliable : ¬ rejections .uniqueViolation)
    (consistent : world.Consistent)
    (event : StripeEvent) :
    (SubscriptionsService.handleWebhookEvent app event).Ensures input rejections world
      fun _ after =>
        Handled .directory input.now (∃ error, rejections error) event world after := by
  have unchanged : SameLedger world world := Std.Refl.refl world
  cases event with
  | checkoutSessionCompleted session =>
      unfold SubscriptionsService.handleWebhookEvent
      dsimp only
      split
      · rename_i payment
        have nothing : (StripeEvent.checkoutSessionCompleted session).write .directory
            world = none := by
          simp [StripeEvent.write, StripeEvent.reported, payment]
        refine (Ensures.of_respects
          (ledger_handleCreditsCheckoutCompleted session)).weaken fun _ after same => ?_
        exact .of_sameLedger same (.inr nothing)
      · rename_i stripeSubscriptionId isSubscription refers
        refine Ensures.bind (ensures_retrieve stripeSubscriptionId) ?_ ?_
        · rintro stripeSub after ⟨rfl, found⟩
          have reported : (StripeEvent.checkoutSessionCompleted session).reported
              after.stripe = some (session.metadata, stripeSub) := by
            simp [StripeEvent.reported, isSubscription, refers, found]
          refine Ensures.bind (ensures_handleReported reliable consistent reported) ?_ ?_
          · intro _ middle handled
            refine (Ensures.of_respects
              (quiet_sendSubscriptionConfirmedEmail stripeSub)).weaken fun _ last quiet => ?_
            exact handled.andThen quiet.sameLedger
          · intro _ middle handled
            exact handled
        · rintro error after ⟨rfl, reason⟩
          refine .of_sameLedger unchanged (reason.imp (fun allowed => ⟨error, allowed⟩) ?_)
          intro missing
          simp [StripeEvent.write, StripeEvent.reported, isSubscription, refers, missing]
      · rename_i notPayment notSubscription
        have nothing : (StripeEvent.checkoutSessionCompleted session).write .directory
            world = none := by
          have unreported : (StripeEvent.checkoutSessionCompleted session).reported
              world.stripe = none := by
            simp only [StripeEvent.reported]
          simp only [StripeEvent.write, unreported, Option.bind_none]
        exact .of_sameLedger unchanged (.inr nothing)
  | subscriptionCreated stripeSub => exact ensures_handleReported reliable consistent rfl
  | subscriptionUpdated stripeSub => exact ensures_handleReported reliable consistent rfl
  | subscriptionResumed stripeSub => exact ensures_handleReported reliable consistent rfl
  | subscriptionDeleted stripeSub =>
      refine (ensures_cancelMany .directory stripeSub.id).weaken ?_
      rintro _ after ⟨recorded, others, stripe⟩
      exact ⟨recorded, others, .inl stripe⟩
  | invoicePaid invoice =>
      refine (Ensures.of_respects (quiet_syncInvoiceFromStripe _ _)).weaken
        fun _ after quiet => ?_
      exact .of_sameLedger quiet.sameLedger (.inr rfl)
  | invoicePaymentFailed invoice =>
      refine Ensures.bind (ensures_syncInvoiceFromStripe invoice .open) ?_ ?_
      · rintro _ middle ⟨quiet, -⟩
        cases refers : invoice.subscription with
        | none =>
            have nothing : (StripeEvent.invoicePaymentFailed invoice).write .directory
                world = none := by
              simp [StripeEvent.write, refers]
            exact .of_sameLedger quiet.sameLedger (.inr nothing)
        | some stripeSubscriptionId =>
            have write : (StripeEvent.invoicePaymentFailed invoice).write .directory world =
                (findByStripeId stripeSubscriptionId middle.subscriptions).map
                  fun _ => .fail stripeSubscriptionId := by
              have rows : middle.subscriptions = world.subscriptions := quiet.rows .directory
              simp [StripeEvent.write, refers, rows, World.rows]
            refine (ensures_markPastDue app (quiet.consistent consistent)
              stripeSubscriptionId).weaken ?_
            rintro _ after ⟨recorded, others, stripe⟩
            refine ⟨?_, fun other different =>
              (others other different).trans (quiet.rows other),
              .inl (stripe.trans quiet.stripe)⟩
            rw [write]
            exact recorded.precede (quiet.rows .directory) quiet.book.sameReferences
              quiet.nextId
      · rintro error after ⟨quiet, rejected⟩
        exact .of_sameLedger quiet.sameLedger (.inl ⟨error, rejected error rfl⟩)
  | other => exact .of_sameLedger unchanged (.inr rfl)

/-- A reported subscription in the hands of `LeadFinderBillingService`. -/
theorem ensures_handleLeadFinderReported
    (app : Deployment)
    (reliable : ¬ rejections .uniqueViolation)
    (consistent : world.Consistent)
    {event : StripeEvent}
    {stripeMeta : StripeMetadata}
    {stripeSub : StripeSubscription}
    (reported : event.reported world.stripe = some (stripeMeta, stripeSub))
    (owns : stripeMeta.isLeadFinderTier = true) :
    (LeadFinderBillingService.syncFromStripe app stripeSub).Ensures input rejections
      world fun _ after =>
        Handled .leadFinder input.now (∃ error, rejections error) event world after :=
  (ensures_syncFromStripe app reliable consistent stripeSub).weaken
    fun _ _ synced => Handled.of_synced reported owns synced

/-- A subscription event in the hands of `LeadFinderBillingService`. -/
theorem ensures_syncIfLeadFinder
    (app : Deployment)
    (reliable : ¬ rejections .uniqueViolation)
    (consistent : world.Consistent)
    {event : StripeEvent}
    {stripeSub : StripeSubscription}
    (reported : event.reported world.stripe = some (stripeSub.metadata, stripeSub)) :
    (LeadFinderBillingService.syncIfLeadFinder app stripeSub).Ensures input rejections
      world fun _ after =>
        Handled .leadFinder input.now (∃ error, rejections error) event world after := by
  unfold LeadFinderBillingService.syncIfLeadFinder
  split
  · rename_i owns
    exact ensures_handleLeadFinderReported app reliable consistent reported owns
  · rename_i disowns
    refine .of_sameLedger (Std.Refl.refl world) (.inr ?_)
    rw [StripeEvent.write_of_reported reported]
    simp [Product.owns, disowns]

theorem ensures_handleLeadFinderWebhookEvent
    (app : Deployment)
    (reliable : ¬ rejections .uniqueViolation)
    (consistent : world.Consistent)
    (event : StripeEvent) :
    (LeadFinderBillingService.handleWebhookEvent app event).Ensures input rejections world
      fun _ after =>
        Handled .leadFinder input.now (∃ error, rejections error) event world after := by
  have unchanged : SameLedger world world := Std.Refl.refl world
  cases event with
  | checkoutSessionCompleted session =>
      unfold LeadFinderBillingService.handleWebhookEvent
      dsimp only
      split
      · rename_i stripeSubscriptionId isSubscription refers
        have reported : ∀ stripeSub,
            findStripe stripeSubscriptionId world.stripe = some stripeSub →
            (StripeEvent.checkoutSessionCompleted session).reported world.stripe =
              some (session.metadata, stripeSub) := by
          intro stripeSub found
          simp [StripeEvent.reported, isSubscription, refers, found]
        have unreported : findStripe stripeSubscriptionId world.stripe = none →
            (StripeEvent.checkoutSessionCompleted session).write .leadFinder world = none := by
          intro missing
          simp [StripeEvent.write, StripeEvent.reported, isSubscription, refers, missing]
        split
        · rename_i owns
          refine Ensures.bind (ensures_retrieve stripeSubscriptionId) ?_ ?_
          · rintro stripeSub after ⟨rfl, found⟩
            refine Ensures.bind (ensures_handleLeadFinderReported app reliable consistent
              (reported stripeSub found) owns) ?_ ?_
            · intro _ middle handled
              refine (Ensures.of_respects
                (quiet_sendLeadFinderConfirmedEmail stripeSub)).weaken fun _ last quiet => ?_
              exact handled.andThen quiet.sameLedger
            · intro _ middle handled
              exact handled
          · rintro error after ⟨rfl, reason⟩
            exact .of_sameLedger unchanged
              (reason.imp (fun allowed => ⟨error, allowed⟩) unreported)
        · rename_i disowns
          refine .of_sameLedger unchanged (.inr ?_)
          cases found : findStripe stripeSubscriptionId world.stripe with
          | none => exact unreported found
          | some stripeSub =>
              rw [StripeEvent.write_of_reported (reported stripeSub found)]
              simp [Product.owns, disowns]
      · rename_i notSubscription
        have nothing : (StripeEvent.checkoutSessionCompleted session).write .leadFinder
            world = none := by
          have unreported : (StripeEvent.checkoutSessionCompleted session).reported
              world.stripe = none := by
            simp only [StripeEvent.reported]
          simp only [StripeEvent.write, unreported, Option.bind_none]
        exact .of_sameLedger unchanged (.inr nothing)
  | subscriptionCreated stripeSub =>
      exact ensures_syncIfLeadFinder app reliable consistent rfl
  | subscriptionUpdated stripeSub =>
      exact ensures_syncIfLeadFinder app reliable consistent rfl
  | subscriptionResumed stripeSub =>
      exact ensures_syncIfLeadFinder app reliable consistent rfl
  | subscriptionDeleted stripeSub =>
      refine (ensures_cancelMany .leadFinder stripeSub.id).weaken ?_
      rintro _ after ⟨recorded, others, stripe⟩
      exact ⟨recorded, others, .inl stripe⟩
  | invoicePaid invoice =>
      refine (Ensures.of_respects (ledger_grantMonthlyCredits invoice)).weaken
        fun _ after same => ?_
      exact .of_sameLedger same (.inr rfl)
  | invoicePaymentFailed invoice => exact .of_sameLedger unchanged (.inr rfl)
  | other => exact .of_sameLedger unchanged (.inr rfl)

end
end ConferenceContact
