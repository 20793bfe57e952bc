import ConferenceContact.Billing.Deliveries

/-!
# Every request records its write

Each request, with or without a rejected call, records the write that
`BillingRequest.write` names in the Directory's table, and keeps both tables
consistent.
-/

namespace ConferenceContact

open Process

/-! ## Which write it can be -/

/-- What a table takes over of a reported subscription: its state if it has a
row, and a row of its user otherwise. -/
theorem syncWrite_cases
    {product : Product}
    {rows : List SubscriptionRow}
    {stripeSub : StripeSubscription}
    {write : RowWrite}
    (written : syncWrite product rows stripeSub = some write) :
    (write = .sync stripeSub ∧ ∃ row, findByStripeId stripeSub.id rows = some row) ∨
      ∃ userId productId, write = .insert stripeSub userId productId ∧
        findByStripeId stripeSub.id rows = none ∧
        stripeSub.metadata.userId = some userId := by
  have upserted : ∀ userId productId, stripeSub.metadata.userId = some userId →
      some (upsertWrite rows stripeSub userId productId) = some write →
      (write = .sync stripeSub ∧ ∃ row, findByStripeId stripeSub.id rows = some row) ∨
        ∃ userId productId, write = .insert stripeSub userId productId ∧
          findByStripeId stripeSub.id rows = none ∧
          stripeSub.metadata.userId = some userId := by
    rintro userId productId user ⟨⟩
    unfold upsertWrite
    cases found : findByStripeId stripeSub.id rows with
    | none => exact .inr ⟨userId, productId, rfl, rfl, user⟩
    | some row => exact .inl ⟨rfl, row, rfl⟩
  unfold syncWrite at written
  split at written
  · split at written
    · cases written
    · split at written
      · exact upserted _ _ (by assumption) written
      · obtain ⟨row, found, rfl⟩ := Option.map_eq_some_iff.mp written
        exact .inl ⟨rfl, row, found⟩
  · split at written
    · exact upserted _ _ (by assumption) written
    · cases written

/-- The writes of an event. -/
theorem StripeEvent.write_cases
    {product : Product}
    {world : World}
    {event : StripeEvent}
    {write : RowWrite}
    (written : event.write product world = some write) :
    (∃ report, event.reported world.stripe = some report ∧
        product.owns report.1 = true ∧
        syncWrite product (world.rows product) report.2 = some write) ∨
      (∃ stripeSub, event = .subscriptionDeleted stripeSub ∧
        write = .terminate stripeSub.id) ∨
      ∃ invoice stripeSubscriptionId, event = .invoicePaymentFailed invoice ∧
        invoice.subscription = some stripeSubscriptionId ∧ product = .directory ∧
        write = .fail stripeSubscriptionId := by
  cases reported : event.reported world.stripe with
  | some report =>
      rw [StripeEvent.write_of_reported reported] at written
      split at written
      · exact .inl ⟨report, rfl, by assumption, written⟩
      · cases written
  | none =>
      cases event with
      | subscriptionDeleted stripeSub =>
          cases written
          exact .inr (.inl ⟨stripeSub, rfl, rfl⟩)
      | invoicePaymentFailed invoice =>
          simp only [StripeEvent.write] at written
          split at written
          · obtain ⟨stripeSubscriptionId, refers, found⟩ :=
              Option.bind_eq_some_iff.mp written
            obtain ⟨row, -, rfl⟩ := Option.map_eq_some_iff.mp found
            exact .inr (.inr ⟨invoice, stripeSubscriptionId, rfl, refers, by assumption, rfl⟩)
          · cases written
      | _ =>
          simp only [StripeEvent.write, reported, Option.bind_none] at written
          cases written

/-- The writes of a request: those of an event, or of a live row. -/
theorem BillingRequest.write_cases
    {app : Deployment}
    {now : Time}
    {product : Product}
    {world : World}
    {request : BillingRequest}
    {write : RowWrite}
    (written : request.write app now product world = some write) :
    (∃ event, request = .webhook event ∧ event.write product world = some write) ∨
      ∃ row ∈ world.rows product, row.status.live = true ∧
        (write = .replace row.stripeSubscriptionId ∨
          ∃ cancelAtPeriodEnd,
            write = .schedule row.stripeSubscriptionId cancelAtPeriodEnd) := by
  cases request with
  | webhook event => exact .inl ⟨event, rfl, written⟩
  | createCheckoutSession userId planSlug =>
      simp only [BillingRequest.write] at written
      split at written
      · rename_i row found
        obtain ⟨present, -, live⟩ := mem_of_findLive found
        split at written
        · cases written
        · cases written
          exact .inr ⟨row, present, live, .inl rfl⟩
      · cases written
  | deleteAccount userId password =>
      simp only [BillingRequest.write] at written
      split at written
      · rename_i row found
        obtain ⟨present, -, live⟩ := mem_of_findLive found
        cases written
        exact .inr ⟨row, present, live, .inl rfl⟩
      · cases written
  | resume userId =>
      simp only [BillingRequest.write] at written
      split at written
      · rename_i row found
        have selected := List.find?_some found
        simp only [decide_eq_true_eq] at selected
        cases written
        exact .inr ⟨row, List.mem_of_find?_eq_some found, selected.2.1, .inr ⟨_, rfl⟩⟩
      · cases written
  | cancel userId =>
      simp only [BillingRequest.write] at written
      split at written
      · rename_i row found
        obtain ⟨present, -, live⟩ := mem_of_findLive found
        cases written
        exact .inr ⟨row, present, live, .inr ⟨_, rfl⟩⟩
      · cases written
  | cancelLeadFinder userId =>
      simp only [BillingRequest.write] at written
      split at written
      · rename_i row found
        obtain ⟨present, -, live⟩ := mem_of_findLive found
        cases written
        exact .inr ⟨row, present, live, .inr ⟨_, rfl⟩⟩
      · cases written
  | createLeadFinderCheckoutSession userId tierSlug => cases written
  | directoryAccess user => cases written
  | setDirectoryAccess adminUserId targetUserId granted => cases written

/-- An event inserts a row only for a subscription without one. -/
theorem StripeEvent.write_fits
    {product : Product}
    {world : World}
    {event : StripeEvent}
    {write : RowWrite}
    (written : event.write product world = some write) :
    write.Fits (world.rows product) := by
  rcases StripeEvent.write_cases written with
    ⟨report, -, -, synced⟩ | ⟨stripeSub, -, rfl⟩ | ⟨invoice, id, -, -, -, rfl⟩
  · rcases syncWrite_cases synced with ⟨rfl, -⟩ | ⟨userId, productId, rfl, absent, -⟩
    · exact nofun
    · exact fun _ => absent
  · exact nofun
  · exact nofun

/-! ## Consistency -/

/-- Recording a write that fits keeps the table consistent. -/
theorem Recorded.tableConsistent
    {product : Product}
    {now : Time}
    {lossy : Prop}
    {write : Option RowWrite}
    {before after : World}
    (recorded : Recorded product now lossy write before after)
    (fits : ∀ taken, write = some taken → taken.Fits (before.rows product))
    (consistent : TableConsistent before.nextId (before.rows product)) :
    TableConsistent after.nextId (after.rows product) := by
  rcases recorded.row with ⟨taken, id, same, accepted, fresh, below, rows⟩ | ⟨rows, -⟩
  · rw [rows]
    have allowed : taken.refused (before.rows product) = false := by
      rw [RowWrite.accepted, Bool.and_eq_true] at accepted
      simpa using accepted.1
    exact consistent.apply (fits taken same) allowed now fresh recorded.nextId below
  · rw [rows]
    exact consistent.mono recorded.nextId

theorem Handled.consistent
    {product : Product}
    {now : Time}
    {lossy : Prop}
    {event : StripeEvent}
    {before after : World}
    (handled : Handled product now lossy event before after)
    (consistent : before.Consistent) :
    after.Consistent := by
  intro other
  by_cases same : other = product
  · subst same
    exact handled.recorded.tableConsistent (fun _ => StripeEvent.write_fits)
      (consistent other)
  · rw [handled.others other same]
    exact (consistent other).mono handled.recorded.nextId

/-! ## Deliveries -/

/-- The new credit grant of an event does not change what rows may refer to. -/
theorem sameReferences_granted (world : World) (grant : CreditGrant) :
    SameReferences world (world.granted grant) :=
  .of_catalog rfl rfl rfl

/-- The two services have dealt with an event one after the other, unless the
first one stopped. -/
def Processed
    (now : Time)
    (lossy : Prop)
    (event : StripeEvent)
    (before : World)
    (result : Except ApiError Unit)
    (after : World) : Prop :=
  ∃ middle, Handled .directory now lossy event before middle ∧
    SameReferences before middle ∧ middle.Consistent ∧
    (((∃ error, result = .error error) ∧ after = middle) ∨
      Handled .leadFinder now lossy event middle after)

section

variable {input : Input} {rejections : ApiError → Prop} {world : World}

theorem ensures_process
    (app : Deployment)
    (reliable : ¬ rejections .uniqueViolation)
    (consistent : world.Consistent)
    (event : StripeEvent) :
    (StripeWebhookProcessor.process app event).Ensures input rejections world
      (Processed input.now (∃ error, rejections error) event world) := by
  have references := respects_handleWebhookEvent (R := SameReferences)
    (fun _ _ book => book.sameReferences) app event
    (fun _ _ world grant _ => sameReferences_granted world grant)
  refine Ensures.bind ((ensures_handleWebhookEvent app reliable consistent event).and
    (Ensures.of_respects references)) ?_ ?_
  · rintro _ middle ⟨handled, references⟩
    have middleConsistent := handled.consistent consistent
    refine (ensures_handleLeadFinderWebhookEvent app reliable middleConsistent
      event).weaken fun result after second => ?_
    exact ⟨middle, handled, references, middleConsistent, .inr second⟩
  · rintro error middle ⟨handled, references⟩
    exact ⟨middle, handled, references, handled.consistent consistent,
      .inl ⟨⟨error, rfl⟩, rfl⟩⟩

end

namespace Processed

variable {now : Time} {lossy : Prop} {event : StripeEvent} {before after : World}
  {result : Except ApiError Unit}

/-- What a delivery does to the Directory's table. -/
theorem directory
    (processed : Processed now lossy event before result after) :
    Recorded .directory now lossy (event.write .directory before) before after := by
  obtain ⟨middle, first, -, -, ⟨-, rfl⟩ | second⟩ := processed
  · exact first.recorded
  · have rows := second.others .directory nofun
    refine ⟨Nat.le_trans first.recorded.nextId second.recorded.nextId, ?_⟩
    rw [rows]
    refine first.recorded.row.imp_left ?_
    rintro ⟨taken, id, same, accepted, fresh, below, table⟩
    exact ⟨taken, id, same, accepted, fresh,
      fun inserts => Nat.lt_of_lt_of_le (below inserts) second.recorded.nextId, table⟩

theorem consistent
    (processed : Processed now lossy event before result after) :
    after.Consistent := by
  obtain ⟨middle, -, -, middleConsistent, ⟨-, rfl⟩ | second⟩ := processed
  · exact middleConsistent
  · exact second.consistent middleConsistent

end Processed

/-! ## Other requests -/

/-- A request other than a delivery has recorded its writes, or stopped before
them. -/
def Records
    (now : Time)
    (write : Product → Option RowWrite)
    (before after : World) : Prop :=
  ∀ product, Recorded product now True (write product) before after

section

variable {input : Input} {rejections : ApiError → Prop} {world middle after : World}
  {write : Product → Option RowWrite}

theorem Records.kept
    {now : Time}
    (keeps : KeepsRows world after) :
    Records now write world after :=
  fun _ => Recorded.kept keeps (.inl trivial)

theorem Records.andThen
    {now : Time}
    (records : Records now write world middle)
    (keeps : KeepsRows middle after) :
    Records now write world after :=
  fun product => (records product).andThen keeps

/-- A table call is all that a request writes. -/
theorem Records.of_tableCall
    {product : Product}
    {now : Time}
    {taken : RowWrite}
    {result : Except ApiError Unit}
    (keeps : KeepsRows world middle)
    (references : SameReferences world middle)
    (written : write product = some taken)
    (call : TableCall product now rejections taken middle result after) :
    Records now write world after := by
  cases result with
  | error error =>
      obtain ⟨rfl, -⟩ := call
      exact .kept keeps
  | ok value =>
      obtain ⟨recorded, others, -⟩ := call
      intro other
      by_cases same : other = product
      · subst same
        rw [written]
        exact (recorded.mono False.elim).precede (keeps.rows other) references keeps.nextId
      · refine ⟨Nat.le_trans keeps.nextId recorded.nextId, .inr ⟨?_, .inl trivial⟩⟩
        exact (others other same).trans (keeps.rows other)

/-- A change to a subscription in Stripe keeps the rows and the references. -/
theorem ensures_modifyStripe
    (id : StripeSubscriptionId)
    (change : StripeSubscription → StripeSubscription) :
    (StripeService.modify id change).Ensures input rejections world fun _ after =>
      KeepsRows world after ∧ SameReferences world after := by
  refine Ensures.and ?_ ((Ensures.of_respects (book_modifyStripe id change)).weaken
    fun _ _ book => book.sameReferences)
  have unchanged : KeepsRows world world := Std.Refl.refl world
  unfold StripeService.modify
  rw [Ensures.attempt_iff]
  refine ⟨?_, fun _ _ => unchanged⟩
  split
  · rename_i value after outcome
    split at outcome
    · split at outcome
      · cases outcome
      · cases outcome
        exact ⟨fun product => by cases product <;> rfl, Nat.le_refl _⟩
    · cases outcome
  · exact unchanged

/-- Quiet calls write nothing. -/
theorem Records.of_quiet
    {process : Service α}
    (quiet : process.Respects Quiet) :
    process.Ensures input rejections world fun _ after =>
      Records input.now write world after :=
  (Ensures.of_respects quiet).weaken fun _ _ quiet =>
    .kept quiet.sameLedger.toKeepsRows

/-- A change in Stripe, the same change of a live row, and quiet calls. -/
theorem records_modifyAndUpdate
    (consistent : world.Consistent)
    {product : Product}
    {row : SubscriptionRow}
    (present : row ∈ world.rows product)
    (live : row.status.live = true)
    {change : SubscriptionRow → SubscriptionRow}
    (taken : RowWrite)
    (written : write product = some taken)
    (existing : taken.inserts = false)
    (target : taken.target = row.stripeSubscriptionId)
    (same : change row = taken.rewrite input.now row)
    (modification : StripeSubscription → StripeSubscription)
    {rest : Service α}
    (quiet : rest.Respects Quiet) :
    (do
      StripeService.modify row.stripeSubscriptionId modification
      SubscriptionTable.update product row.id fun _ row => change row
      rest).Ensures input rejections world fun _ after =>
        Records input.now write world after := by
  refine Ensures.bind (ensures_modifyStripe _ _) ?_ ?_
  · rintro _ middle ⟨keeps, references⟩
    have stored : row ∈ middle.rows product := by rwa [keeps.rows product]
    have updates : (SubscriptionTable.update product row.id fun _ row => change row).Ensures
        input rejections middle (TableCall product input.now rejections taken middle) :=
      ensures_update (keeps.consistent consistent) stored existing target same fun _ => live
    refine Ensures.bind updates ?_ ?_
    · intro _ later call
      refine (Ensures.of_respects quiet).weaken fun _ last quiet => ?_
      exact (Records.of_tableCall keeps references written call).andThen
        quiet.sameLedger.toKeepsRows
    · intro error later call
      exact Records.of_tableCall keeps references written call
  · rintro _ middle ⟨keeps, -⟩
    exact .kept keeps

theorem records_createCheckoutSession
    (app : Deployment)
    (consistent : world.Consistent)
    (userId : UserId)
    (planSlug : String) :
    (SubscriptionsService.createCheckoutSession app userId planSlug).Ensures input
      rejections world fun _ after =>
        Records input.now (fun product =>
          (BillingRequest.createCheckoutSession userId planSlug).write app input.now product
            world) world after := by
  have unchanged : KeepsRows world world := Std.Refl.refl world
  unfold SubscriptionsService.createCheckoutSession UsersService.findById
    SubscriptionTable.findFirstLive Service.dateNow
  rw [Ensures.bind_iff, Ensures.query_iff]
  refine ⟨?_, fun _ _ => .kept unchanged⟩
  dsimp only
  split
  · rw [Ensures.bind_iff, Ensures.query_iff]
    refine ⟨?_, fun _ _ => .kept unchanged⟩
    dsimp only
    split
    · rename_i user _ _ _ _
      rw [Ensures.bind_iff, Ensures.query_iff]
      refine ⟨?_, fun _ _ => .kept unchanged⟩
      dsimp only
      rw [Ensures.bind_iff, Ensures.query_iff]
      refine ⟨?_, fun _ _ => .kept unchanged⟩
      dsimp only
      split
      · exact .kept unchanged
      · rename_i lapsed
        cases found : findLive userId (world.rows .directory) with
        | none => exact Records.of_quiet (quiet_openCheckout _ _)
        | some row =>
            rw [found] at lapsed
            have written : (BillingRequest.createCheckoutSession userId planSlug).write app
                input.now .directory world = some (.replace row.stripeSubscriptionId) := by
              simp only [BillingRequest.write, found]
              exact if_neg (by simpa using lapsed)
            obtain ⟨present, -, live⟩ := mem_of_findLive found
            have regrouped : (do
                SubscriptionsService.replaceLapsed (some row)
                SubscriptionsService.openCheckout user .billingCheckoutStarted :
                Service String) = (do
                StripeService.cancel row.stripeSubscriptionId
                SubscriptionTable.update .directory row.id fun _ row =>
                  { row with status := .canceled, cancelAtPeriodEnd := false }
                SubscriptionsService.openCheckout user .billingCheckoutStarted) := by
              unfold SubscriptionsService.replaceLapsed
              rw [Process.bind_assoc]
            rw [regrouped]
            exact records_modifyAndUpdate consistent present live
              (.replace row.stripeSubscriptionId) written rfl rfl rfl _
              (quiet_openCheckout _ _)
    · exact .kept unchanged
  · exact .kept unchanged

theorem records_cancel
    (app : Deployment)
    (consistent : world.Consistent)
    (userId : UserId) :
    (SubscriptionsService.cancel userId).Ensures input rejections world fun _ after =>
      Records input.now
        (fun product => (BillingRequest.cancel userId).write app input.now product world)
        world after := by
  have unchanged : KeepsRows world world := Std.Refl.refl world
  unfold SubscriptionsService.cancel
  rw [Ensures.bind_iff, Ensures.query_iff]
  refine ⟨?_, fun _ _ => .kept unchanged⟩
  cases found : findLive userId world.subscriptions with
  | none => exact .kept unchanged
  | some row =>
      obtain ⟨present, -, live⟩ := mem_of_findLive found
      have written : (BillingRequest.cancel userId).write app input.now .directory world =
          some (.schedule row.stripeSubscriptionId true) := by
        simp only [BillingRequest.write, World.rows, found]
      refine records_modifyAndUpdate consistent present live
        (.schedule row.stripeSubscriptionId true) written rfl rfl rfl _ ?_
      refine Respects.bind (quiet_record _ _) fun _ => ?_
      split
      · exact quiet_enqueue _
      · exact Respects.pure ()

theorem records_resume
    (app : Deployment)
    (consistent : world.Consistent)
    (userId : UserId) :
    (SubscriptionsService.resume userId).Ensures input rejections world fun _ after =>
      Records input.now
        (fun product => (BillingRequest.resume userId).write app input.now product world)
        world after := by
  have unchanged : KeepsRows world world := Std.Refl.refl world
  unfold SubscriptionsService.resume
  rw [Ensures.bind_iff, Ensures.query_iff]
  refine ⟨?_, fun _ _ => .kept unchanged⟩
  dsimp only
  split
  · rename_i row found
    have present : row ∈ world.rows .directory := List.mem_of_find?_eq_some found
    have selected := List.find?_some found
    have live : row.status.live = true := by
      simp only [decide_eq_true_eq] at selected
      exact selected.2.1
    have written : (BillingRequest.resume userId).write app input.now .directory world =
        some (.schedule row.stripeSubscriptionId false) := by
      simp only [BillingRequest.write, found]
    exact records_modifyAndUpdate consistent present live
      (.schedule row.stripeSubscriptionId false) written rfl rfl rfl _
      (quiet_record _ _)
  · exact .kept unchanged

theorem records_cancelLeadFinder
    (app : Deployment)
    (consistent : world.Consistent)
    (userId : UserId) :
    (LeadFinderBillingService.cancel userId).Ensures input rejections world fun _ after =>
      Records input.now
        (fun product =>
          (BillingRequest.cancelLeadFinder userId).write app input.now product world)
        world after := by
  have unchanged : KeepsRows world world := Std.Refl.refl world
  unfold LeadFinderBillingService.cancel SubscriptionTable.findFirstLive
  rw [Ensures.bind_iff, Ensures.query_iff]
  refine ⟨?_, fun _ _ => .kept unchanged⟩
  cases found : findLive userId (world.rows .leadFinder) with
  | none => exact .kept unchanged
  | some row =>
      obtain ⟨present, -, live⟩ := mem_of_findLive found
      have written : (BillingRequest.cancelLeadFinder userId).write app input.now
          .leadFinder world = some (.schedule row.stripeSubscriptionId true) := by
        simp only [BillingRequest.write, found]
      exact records_modifyAndUpdate consistent present live
        (.schedule row.stripeSubscriptionId true) written rfl rfl rfl _
        (quiet_record _ _)

/-- Calls before the writes that keep the rows and the references. -/
theorem Records.precede
    {now : Time}
    (records : Records now write middle after)
    (keeps : KeepsRows world middle)
    (references : SameReferences world middle) :
    Records now write world after :=
  fun product => (records product).precede (keeps.rows product) references keeps.nextId

/-- The write of an account deletion. -/
def deletionWrite (activeSubscription : Option SubscriptionRow) : Product → Option RowWrite
  | .directory => activeSubscription.map fun row => .replace row.stripeSubscriptionId
  | .leadFinder => none

/-- The rows an account deletion leaves are those of its write. -/
theorem rowsAfterDeletion_eq
    (now : Time)
    (consistent : world.Consistent)
    {activeSubscription : Option SubscriptionRow}
    (stored : ∀ row, activeSubscription = some row → row ∈ world.subscriptions) :
    AuthService.rowsAfterDeletion activeSubscription world.subscriptions =
      .ok (match activeSubscription with
        | none => world.subscriptions
        | some row =>
            (RowWrite.replace row.stripeSubscriptionId).apply now world.nextId
              world.subscriptions) := by
  unfold AuthService.rowsAfterDeletion
  cases activeSubscription with
  | none => rfl
  | some row =>
      have rewritten : rewriteRow row.id
          (fun row => { row with status := .canceled, cancelAtPeriodEnd := false })
          world.subscriptions =
          if (RowWrite.replace row.stripeSubscriptionId).refused world.subscriptions then
            .error .uniqueViolation
          else
            .ok ((RowWrite.replace row.stripeSubscriptionId).apply now world.nextId
              world.subscriptions) :=
        rewriteRow_eq (consistent .directory) (stored row rfl) rfl rfl rfl nofun
      exact rewritten

theorem records_eraseAccount
    (consistent : world.Consistent)
    (userId : UserId)
    {activeSubscription : Option SubscriptionRow}
    (stored : ∀ row, activeSubscription = some row → row ∈ world.subscriptions) :
    (AuthService.eraseAccount userId activeSubscription).Ensures input rejections world
      fun _ after => Records input.now (deletionWrite activeSubscription) world after := by
  have unchanged : KeepsRows world world := Std.Refl.refl world
  unfold AuthService.eraseAccount
  rw [Ensures.attempt_iff, rowsAfterDeletion_eq input.now consistent stored]
  refine ⟨?_, fun _ _ => .kept unchanged⟩
  dsimp only
  split
  · rename_i value after outcome
    split at outcome
    · cases outcome
      intro product
      cases product with
      | leadFinder => exact ⟨Nat.le_refl _, .inr ⟨rfl, .inl trivial⟩⟩
      | directory =>
          refine ⟨Nat.le_refl _, ?_⟩
          cases activeSubscription with
          | none => exact .inr ⟨rfl, .inl trivial⟩
          | some row =>
              exact .inl ⟨_, world.nextId, rfl, rfl, Nat.le_refl _, nofun, rfl⟩
    · cases outcome
  · exact .kept unchanged

theorem records_deleteAccount
    (app : Deployment)
    (consistent : world.Consistent)
    (userId : UserId)
    (password : String) :
    (AuthService.deleteAccount app userId password).Ensures input rejections world
      fun _ after =>
        Records input.now (fun product =>
          (BillingRequest.deleteAccount userId password).write app input.now product world)
          world after := by
  have unchanged : KeepsRows world world := Std.Refl.refl world
  have written : (fun product =>
      (BillingRequest.deleteAccount userId password).write app input.now product world) =
      deletionWrite (findLive userId world.subscriptions) := by
    funext product
    cases product with
    | leadFinder => rfl
    | directory =>
        simp only [BillingRequest.write, deletionWrite, World.rows]
        cases findLive userId world.subscriptions <;> rfl
  rw [written]
  have quiet : (do
      TokenRevocationService.revokeUser app userId
      AuditService.record (some userId) .authAccountDeletionRequested :
      Service Unit).Respects Quiet :=
    Respects.bind (quiet_revokeUser _ _) fun _ => quiet_record _ _
  unfold AuthService.deleteAccount UsersService.findById
  rw [Ensures.bind_iff, Ensures.query_iff]
  refine ⟨?_, fun _ _ => .kept unchanged⟩
  dsimp only
  split
  · split
    · unfold AuthService.eraseSubscriber SubscriptionTable.findFirstLive
      rw [Ensures.bind_iff, Ensures.query_iff]
      refine ⟨?_, fun _ _ => .kept unchanged⟩
      have stored : ∀ row, findLive userId world.subscriptions = some row →
          row ∈ world.subscriptions := fun row found => (mem_of_findLive found).1
      have ends : (AuthService.endSubscription
          (findLive userId world.subscriptions)).Ensures input rejections world
          fun _ after => KeepsRows world after ∧ SameReferences world after := by
        unfold AuthService.endSubscription
        split
        · exact ⟨unchanged, Std.Refl.refl world⟩
        · exact ensures_modifyStripe _ _
      refine Ensures.bind ends ?_ ?_
      · rintro _ middle ⟨keeps, references⟩
        have rows : middle.subscriptions = world.subscriptions := keeps.rows .directory
        have storedThere : ∀ row, findLive userId world.subscriptions = some row →
            row ∈ middle.subscriptions := by
          rw [rows]
          exact stored
        refine Ensures.bind
          (records_eraseAccount (keeps.consistent consistent) userId storedThere) ?_ ?_
        · intro _ later records
          refine (Ensures.of_respects quiet).weaken fun _ last quiet => ?_
          exact (records.precede keeps references).andThen quiet.sameLedger.toKeepsRows
        · intro error later records
          exact records.precede keeps references
      · rintro error middle ⟨keeps, -⟩
        exact .kept keeps
    · exact .kept unchanged
  · exact .kept unchanged

/-- Setting a comp flag writes no row. -/
theorem records_setDirectoryAccess
    (adminUserId targetUserId : UserId)
    (granted : Bool) :
    (AdminService.setDirectoryAccess adminUserId targetUserId granted).Ensures input
      rejections world fun _ after => Records input.now write world after := by
  have respects : (AdminService.setDirectoryAccess adminUserId targetUserId granted).Respects
      SameLedger := by
    refine Respects.bind (Respects.query _) fun target => ?_
    split
    · refine Respects.bind (Respects.attempt fun input world value after updated => ?_)
        fun _ => (quiet_record _ _).mono fun _ _ quiet => quiet.sameLedger
      split at updated
      · cases updated
      · cases updated
        exact ⟨⟨fun product => by cases product <;> rfl, Nat.le_refl _⟩, rfl⟩
    · exact Respects.throw _
  exact (Ensures.of_respects respects).weaken fun _ _ same => .kept same.toKeepsRows

/-- A request whose result is dropped records what the request records. -/
theorem records_dropped
    {process : Service α}
    (records : process.Ensures input rejections world fun _ after =>
      Records input.now write world after) :
    (do let _ ← process : Service Unit).Ensures input rejections world fun _ after =>
      Records input.now write world after :=
  Ensures.bind records (fun _ _ recorded => recorded) fun _ _ recorded => recorded

/-- Every request but a delivery records its writes. -/
theorem BillingRequest.records
    (app : Deployment)
    (consistent : world.Consistent)
    (request : BillingRequest)
    (notDelivery : ∀ event, request ≠ .webhook event) :
    (request.handle app).Ensures input rejections world fun _ after =>
      Records input.now (fun product => request.write app input.now product world)
        world after := by
  cases request with
  | webhook event => exact absurd rfl (notDelivery event)
  | createCheckoutSession userId planSlug =>
      exact records_dropped (records_createCheckoutSession app consistent userId planSlug)
  | cancel userId => exact records_cancel app consistent userId
  | resume userId => exact records_resume app consistent userId
  | createLeadFinderCheckoutSession userId tierSlug =>
      exact records_dropped
        (Records.of_quiet (quiet_createLeadFinderCheckoutSession userId tierSlug))
  | cancelLeadFinder userId => exact records_cancelLeadFinder app consistent userId
  | directoryAccess user =>
      exact records_dropped (Records.of_quiet (quiet_canActivate app user))
  | deleteAccount userId password =>
      exact records_deleteAccount app consistent userId password
  | setDirectoryAccess adminUserId targetUserId granted =>
      exact records_setDirectoryAccess adminUserId targetUserId granted

end

/-! ## Occurrences -/

/-- A request inserts a row only for a subscription without one. -/
theorem BillingRequest.write_fits
    {app : Deployment}
    {now : Time}
    {product : Product}
    {world : World}
    {request : BillingRequest}
    {write : RowWrite}
    (written : request.write app now product world = some write) :
    write.Fits (world.rows product) := by
  rcases BillingRequest.write_cases written with
    ⟨event, -, written⟩ | ⟨row, -, -, rfl | ⟨cancelAtPeriodEnd, rfl⟩⟩
  · exact StripeEvent.write_fits written
  · exact nofun
  · exact nofun

namespace Occurrence

variable {world : World} {occurrence : Occurrence}

theorem arrive_consistent
    (occurrence : Occurrence)
    (consistent : world.Consistent) :
    (occurrence.arrive world).Consistent := by
  intro product
  rw [occurrence.arrive_rows world product]
  exact consistent product

/-- A delivery has been processed, perhaps with a call rejected. -/
theorem processed
    (app : Deployment)
    (consistent : world.Consistent)
    {event : StripeEvent}
    (delivery : occurrence.request = .webhook event) :
    Processed occurrence.input.now True event (occurrence.arrive world)
      (perform app world occurrence).1 (step app world occurrence) := by
  have ensures : (occurrence.request.handle app).Ensures occurrence.input
      (· = ApiError.database) (occurrence.arrive world)
      (Processed occurrence.input.now (∃ error, error = ApiError.database) event
        (occurrence.arrive world)) := by
    rw [delivery]
    exact ensures_process app nofun (occurrence.arrive_consistent consistent) event
  obtain ⟨middle, first, references, middleConsistent, second⟩ := ensured ensures
  refine ⟨middle, first.mono fun _ => trivial, references, middleConsistent, ?_⟩
  exact second.imp_right fun second => second.mono fun _ => trivial

/-- Any other request has recorded its writes. -/
theorem records
    (app : Deployment)
    (consistent : world.Consistent)
    (notDelivery : ∀ event, occurrence.request ≠ .webhook event) :
    Records occurrence.input.now
      (fun product => occurrence.request.write app occurrence.input.now product
        (occurrence.arrive world))
      (occurrence.arrive world) (step app world occurrence) :=
  ensured (BillingRequest.records app (occurrence.arrive_consistent consistent)
    occurrence.request notDelivery)

/-- Every occurrence records its write in the Directory's table. -/
theorem recorded
    (app : Deployment)
    (consistent : world.Consistent) :
    Recorded .directory occurrence.input.now True
      (occurrence.request.write app occurrence.input.now .directory
        (occurrence.arrive world))
      (occurrence.arrive world) (step app world occurrence) := by
  by_cases delivery : ∃ event, occurrence.request = .webhook event
  · obtain ⟨event, delivery⟩ := delivery
    have processed := processed app consistent delivery
    rw [delivery]
    exact processed.directory
  · exact records app consistent (fun event same => delivery ⟨event, same⟩) .directory

/-- Every occurrence keeps the tables consistent. -/
theorem step_consistent
    (app : Deployment)
    (consistent : world.Consistent) :
    (step app world occurrence).Consistent := by
  have arrived := occurrence.arrive_consistent consistent
  by_cases delivery : ∃ event, occurrence.request = .webhook event
  · obtain ⟨event, delivery⟩ := delivery
    exact (processed app consistent delivery).consistent
  · have records := records app consistent fun event same => delivery ⟨event, same⟩
    intro product
    exact (records product).tableConsistent (fun _ => BillingRequest.write_fits)
      (arrived product)

end Occurrence

/-- Every run keeps the tables consistent. -/
theorem run_consistent
    (app : Deployment)
    {world : World}
    (consistent : world.Consistent)
    (occurrences : List Occurrence) :
    (occurrences.foldl (Occurrence.step app) world).Consistent := by
  induction occurrences generalizing world with
  | nil => exact consistent
  | cons occurrence later inductionHypothesis =>
      exact inductionHypothesis (Occurrence.step_consistent app consistent)

end ConferenceContact
