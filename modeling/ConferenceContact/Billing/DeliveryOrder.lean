import ConferenceContact.Billing.Duplicates
import ConferenceContact.Foundation.LastWriter

/-!
# Deliveries about one subscription

Events about one subscription are applied in the order in which they are
processed: its row ends with the status of the last one, and with the period and
the flag of the last one that carries the whole subscription, however old these
events are.  Reports the unique index refuses do not count.
-/

namespace ConferenceContact

open Process LastWriter

/-! ## Reports -/

/-- The period of a subscription and its scheduled end. -/
structure Terms where
  currentPeriodStart : Time
  currentPeriodEnd : Time
  cancelAtPeriodEnd : Bool
  deriving DecidableEq

/-- The terms that a row records. -/
def SubscriptionRow.terms (row : SubscriptionRow) : Terms :=
  ⟨row.currentPeriodStart, row.currentPeriodEnd, row.cancelAtPeriodEnd⟩

/-- The terms that an event states, in milliseconds. -/
def StripeSubscription.terms (stripeSub : StripeSubscription) : Terms :=
  ⟨stripeSub.currentPeriodStart * 1000, stripeSub.currentPeriodEnd * 1000,
    stripeSub.cancelAtPeriodEnd⟩

/-- What the row of a subscription shows. -/
def World.rowState
    (world : World)
    (product : Product)
    (id : StripeSubscriptionId) : Option (SubscriptionStatus × Terms) :=
  (findByStripeId id (world.rows product)).map fun row => (row.status, row.terms)

/-- The plan or the tier a subscription is to. -/
def StripeMetadata.productId (stripeMeta : StripeMetadata) : Product → Option PlanId
  | .directory => stripeMeta.planId
  | .leadFinder => stripeMeta.tierId

/-- The user and the plan or tier of a new row for a subscription, if its
metadata names both. -/
def StripeMetadata.rowKeys
    (stripeMeta : StripeMetadata)
    (product : Product) : Option (UserId × PlanId) :=
  stripeMeta.userId.bind fun userId =>
    (stripeMeta.productId product).map fun productId => (userId, productId)

/-- What an event says of the row of its subscription: the whole state, or that
the subscription has ended or a payment has failed.  `LeadFinderBillingService`
leaves failed payments, and subscriptions without their metadata, alone. -/
def StripeEvent.report
    (product : Product)
    (stripe : List StripeSubscription)
    (event : StripeEvent) : Option (Report SubscriptionStatus Terms) :=
  match event with
  | subscriptionDeleted _ => some ⟨.canceled, none⟩
  | invoicePaymentFailed _ => if product = .directory then some ⟨.pastDue, none⟩ else none
  | event =>
      (event.reported stripe).bind fun (_, stripeSub) =>
        if product = .leadFinder ∧ stripeSub.metadata.rowKeys .leadFinder = none then none
        else some ⟨mapStripeStatus stripeSub.status, some stripeSub.terms⟩

/-- The report of a delivery. -/
def Occurrence.report
    (product : Product)
    (occurrence : Occurrence) : Option (Report SubscriptionStatus Terms) :=
  match occurrence.request with
  | .webhook event => event.report product occurrence.stripe
  | _ => none

/-- An event is about a subscription. -/
def StripeEvent.About (id : StripeSubscriptionId) : StripeEvent → Prop
  | checkoutSessionCompleted session =>
      session.mode = .subscription ∧ session.subscription = some id
  | subscriptionCreated stripeSub => stripeSub.id = id
  | subscriptionUpdated stripeSub => stripeSub.id = id
  | subscriptionResumed stripeSub => stripeSub.id = id
  | subscriptionDeleted stripeSub => stripeSub.id = id
  | invoicePaid invoice => invoice.subscription = some id
  | invoicePaymentFailed invoice => invoice.subscription = some id
  | other => False

/-- An undisturbed delivery of an event about a subscription. -/
structure Occurrence.Delivers
    (owner : StripeSubscriptionId → StripeMetadata)
    (id : StripeSubscriptionId)
    (occurrence : Occurrence) : Prop where
  event : ∃ event, occurrence.request = .webhook event ∧ event.About id
  coherent : occurrence.Coherent owner
  undisturbed : occurrence.rejected = none

theorem StripeEvent.About.reported_id
    {id : StripeSubscriptionId}
    {event : StripeEvent}
    (about : event.About id)
    {stripe : List StripeSubscription}
    {report : StripeMetadata × StripeSubscription}
    (reported : event.reported stripe = some report) :
    report.2.id = id := by
  cases event with
  | checkoutSessionCompleted session =>
      obtain ⟨isSubscription, refers⟩ := about
      simp only [StripeEvent.reported, isSubscription, refers] at reported
      obtain ⟨stripeSub, found, rfl⟩ := Option.map_eq_some_iff.mp reported
      exact findStripe_id found
  | subscriptionCreated stripeSub =>
      cases reported
      exact about
  | subscriptionUpdated stripeSub =>
      cases reported
      exact about
  | subscriptionResumed stripeSub =>
      cases reported
      exact about
  | _ => cases reported

/-! ## Undisturbed deliveries -/

section

variable {input : Input} {world : World}

/-- A subscription of a Lead Finder tier stops `SubscriptionsService` only where
it leaves `LeadFinderBillingService` nothing to write either. -/
theorem ensures_leadFinder_undisturbed
    {owner : StripeSubscriptionId → StripeMetadata}
    (app : Deployment)
    {event : StripeEvent}
    (coherent : event.Coherent owner)
    (inStripe : StripeCoherent owner world.stripe)
    {id : StripeSubscriptionId}
    (about : event.About id)
    (isLeadFinder : (owner id).isLeadFinderTier = true) :
    (SubscriptionsService.handleWebhookEvent app event).Ensures input
      (fun _ => False) world fun result _ =>
        ∀ error, result = .error error → event.write .leadFinder world = none := by
  have ignored : ∀ stripeSub : StripeSubscription,
      stripeSub.metadata = owner stripeSub.id → stripeSub.id = id →
      SubscriptionsService.syncSubscriptionFromStripe stripeSub = pure () := by
    rintro stripeSub sameMeta rfl
    unfold SubscriptionsService.syncSubscriptionFromStripe
    rw [sameMeta, if_pos isLeadFinder]
  cases event with
  | subscriptionCreated stripeSub =>
      unfold SubscriptionsService.handleWebhookEvent
      dsimp only
      rw [ignored stripeSub coherent about]
      exact nofun
  | subscriptionUpdated stripeSub =>
      unfold SubscriptionsService.handleWebhookEvent
      dsimp only
      rw [ignored stripeSub coherent about]
      exact nofun
  | subscriptionResumed stripeSub =>
      unfold SubscriptionsService.handleWebhookEvent
      dsimp only
      rw [ignored stripeSub coherent about]
      exact nofun
  | subscriptionDeleted stripeSub =>
      unfold SubscriptionsService.handleWebhookEvent SubscriptionTable.cancelMany
      dsimp only
      rw [Ensures.command_iff]
      exact ⟨nofun, nofun⟩
  | checkoutSessionCompleted session =>
      obtain ⟨isSubscription, refers⟩ := about
      unfold SubscriptionsService.handleWebhookEvent StripeService.retrieve
      dsimp only
      rw [isSubscription, refers]
      dsimp only
      rw [Ensures.bind_iff, Ensures.attempt_iff]
      refine ⟨?_, nofun⟩
      cases found : findStripe id world.stripe with
      | none =>
          rintro error -
          simp only [StripeEvent.write, StripeEvent.reported, isSubscription, refers, found,
            Option.map_none, Option.bind_none]
      | some stripeSub =>
          have sameId := findStripe_id found
          have sameMeta := inStripe stripeSub (List.mem_of_find?_eq_some found)
          dsimp only
          rw [ignored stripeSub sameMeta sameId]
          unfold SubscriptionsService.sendSubscriptionConfirmedEmail
          rw [sameMeta, sameId, if_pos isLeadFinder]
          exact nofun
  | invoicePaid invoice => exact Ensures.of_forall fun _ _ _ _ => rfl
  | invoicePaymentFailed invoice => exact Ensures.of_forall fun _ _ _ _ => rfl
  | other => exact about.elim

/-- The Lead Finder write of an event is read from its table and from Stripe. -/
theorem StripeEvent.write_congr
    {product : Product}
    {before after : World}
    (event : StripeEvent)
    (rows : after.rows product = before.rows product)
    (stripe : after.stripe = before.stripe) :
    event.write product after = event.write product before := by
  unfold StripeEvent.write
  rw [rows, stripe]

theorem ensures_process_leadFinder
    {owner : StripeSubscriptionId → StripeMetadata}
    (app : Deployment)
    (consistent : world.Consistent)
    {event : StripeEvent}
    (coherent : event.Coherent owner)
    (inStripe : StripeCoherent owner world.stripe)
    {id : StripeSubscriptionId}
    (about : event.About id)
    (isLeadFinder : (owner id).isLeadFinderTier = true) :
    (StripeWebhookProcessor.process app event).Ensures input (fun _ => False) world
      fun _ after => Recorded .leadFinder input.now (∃ _ : ApiError, False)
        (event.write .leadFinder world) world after := by
  have references := respects_handleWebhookEvent (R := SameReferences)
    (fun _ _ book => book.sameReferences) app event
    (fun _ _ world grant _ => sameReferences_granted world grant)
  have handles : (SubscriptionsService.handleWebhookEvent app event).Ensures input
      (fun _ => False) world fun _ after =>
        Handled .directory input.now (∃ _ : ApiError, False) event world after :=
    ensures_handleWebhookEvent app not_false consistent event
  refine Ensures.bind ((handles.and (Ensures.of_respects references)).and
    (ensures_leadFinder_undisturbed app coherent inStripe about isLeadFinder)) ?_ ?_
  · rintro _ middle ⟨⟨handled, references⟩, -⟩
    have rows := handled.others .leadFinder nofun
    have stripe : middle.stripe = world.stripe := by
      rcases handled.stripe with same | ⟨report, taken, reported, written, -, -⟩
      · exact same
      · have sameMeta := (coherent.of_reported inStripe reported).1
        have ignores : syncWrite .directory (world.rows .directory) report.2 = none := by
          rw [syncWrite, sameMeta, about.reported_id reported, if_pos isLeadFinder]
        rw [StripeEvent.write_of_reported reported, ignores, ite_self] at written
        cases written
    refine (ensures_handleLeadFinderWebhookEvent app not_false (handled.consistent consistent)
      event).weaken fun _ after second => ?_
    have recorded := second.recorded
    rw [event.write_congr rows stripe] at recorded
    exact recorded.precede rows references handled.recorded.nextId
  · rintro error middle ⟨⟨handled, -⟩, stops⟩
    rw [stops error rfl]
    refine ⟨handled.recorded.nextId, .inr ⟨handled.others .leadFinder nofun, .inr ?_⟩⟩
    rintro taken ⟨⟩

end

/-- An undisturbed delivery about a subscription makes its write in the table of
that subscription's product, unless the database refuses it. -/
theorem Occurrence.delivered
    {owner : StripeSubscriptionId → StripeMetadata}
    {id : StripeSubscriptionId}
    {world : World}
    {occurrence : Occurrence}
    (app : Deployment)
    (consistent : world.Consistent)
    (delivers : occurrence.Delivers owner id)
    {event : StripeEvent}
    (delivery : occurrence.request = .webhook event)
    (about : event.About id) :
    Recorded (owner id).product occurrence.input.now False
      (event.write (owner id).product (occurrence.arrive world)) (occurrence.arrive world)
      (step app world occurrence) := by
  have arrived := occurrence.arrive_consistent consistent
  have sameStep : step app world occurrence =
      ((StripeWebhookProcessor.process app event).run occurrence.input
        (occurrence.arrive world)).2 := by
    unfold step perform
    rw [delivery, delivers.undisturbed, Option.map_none, runWithFault_none]
    rfl
  rw [sameStep]
  have exact_ : (∃ _ : ApiError, False) → False := fun ⟨_, impossible⟩ => impossible
  by_cases isLeadFinder : (owner id).isLeadFinderTier = true
  · rw [show (owner id).product = .leadFinder from if_pos isLeadFinder]
    exact ((ensures_process_leadFinder app arrived (delivers.coherent.event event delivery)
      delivers.coherent.stripe about isLeadFinder).run).mono exact_
  · rw [show (owner id).product = .directory from if_neg isLeadFinder]
    have processes : (StripeWebhookProcessor.process app event).Ensures occurrence.input
        (fun _ => False) (occurrence.arrive world)
        (Processed occurrence.input.now (∃ _ : ApiError, False) event
          (occurrence.arrive world)) :=
      ensures_process app not_false arrived event
    exact (Processed.directory processes.run).mono exact_

/-! ## The row of a subscription -/

/-- The row a write is about, after the write. -/
theorem findByStripeId_apply
    (write : RowWrite)
    (existing : write.inserts = false)
    (now : Time)
    (rowId : Nat)
    (rows : List SubscriptionRow) :
    findByStripeId write.target (write.apply now rowId rows) =
      (findByStripeId write.target rows).map (write.rewrite now) := by
  rw [RowWrite.apply_of_existing existing]
  unfold findByStripeId
  rw [Table.find?_updateWhere (fun row : SubscriptionRow => row.stripeSubscriptionId) _ _ _ _
    (write.rewrite_stripeSubscriptionId now)]
  cases found : rows.find? fun row => row.stripeSubscriptionId = write.target with
  | none => rfl
  | some row =>
      rw [Option.map_some, Option.map_some, if_pos (List.find?_some found)]

/-- A write of one subscription's row does not block or unblock it. -/
theorem blocked_apply
    (write : RowWrite)
    (now : Time)
    (rowId : Nat)
    (rows : List SubscriptionRow)
    (userId : UserId) :
    blocked (write.apply now rowId rows) write.target userId =
      blocked rows write.target userId := by
  cases inserts : write.inserts with
  | true =>
      cases write with
      | insert stripeSub owner productId =>
          unfold blocked RowWrite.apply
          rw [List.any_cons]
          simp [RowWrite.target, SubscriptionsService.newRow]
      | _ => cases inserts
  | false =>
      rw [RowWrite.apply_of_existing inserts]
      unfold blocked Table.updateWhere
      rw [List.any_map]
      congr 1
      funext row
      dsimp only [Function.comp]
      split
      · rename_i chosen
        simp [of_decide_eq_true chosen]
      · rfl

/-- Another subscription has the live row of the user. -/
def World.userBlocked
    (world : World)
    (product : Product)
    (id : StripeSubscriptionId)
    (stripeMeta : StripeMetadata) : Bool :=
  stripeMeta.userId.any (blocked (world.rows product) id)

/-- The metadata names a user and a plan or tier that exist. -/
def World.canCreate
    (world : World)
    (product : Product)
    (stripeMeta : StripeMetadata) : Bool :=
  (stripeMeta.rowKeys product).any fun keys =>
    SubscriptionTable.referencesExist product world keys.1 keys.2

/-- The unique index lets a report through. -/
def counts (userBlocked : Bool) (report : Report SubscriptionStatus Terms) : Bool :=
  !(report.status.live && userBlocked)

/-- The row of a subscription after a report of it, if there is one. -/
def reportedState
    (world : World)
    (product : Product)
    (id : StripeSubscriptionId)
    (stripeMeta : StripeMetadata)
    (report : Option (Report SubscriptionStatus Terms)) :
    Option (SubscriptionStatus × Terms) :=
  match report with
  | none => world.rowState product id
  | some report =>
      if counts (world.userBlocked product id stripeMeta) report then
        LastWriter.write (world.canCreate product stripeMeta) (world.rowState product id)
          report
      else world.rowState product id

section

variable {product : Product} {now : Time} {before after : World}

theorem Recorded.rows_none
    (recorded : Recorded product now False Option.none before after) :
    after.rows product = before.rows product := by
  rcases recorded.row with ⟨taken, _, impossible, -⟩ | ⟨rows, -⟩
  · cases impossible
  · exact rows

/-- Without a rejected call a write takes place if the database accepts it. -/
theorem Recorded.rows_some
    {taken : RowWrite}
    (recorded : Recorded product now False (some taken) before after) :
    ∃ rowId, after.rows product =
      if taken.accepted product before then taken.apply now rowId (before.rows product)
      else before.rows product := by
  rcases recorded.row with ⟨_, rowId, same, accepted, -, -, rows⟩ | ⟨rows, lossy | refused⟩
  · cases same
    exact ⟨rowId, by rw [rows, if_pos accepted]⟩
  · exact lossy.elim
  · refine ⟨0, ?_⟩
    rw [rows, if_neg]
    rw [refused taken rfl]
    exact Bool.false_ne_true

theorem rowState_of_rows
    (rows : after.rows product = before.rows product)
    (id : StripeSubscriptionId) :
    after.rowState product id = before.rowState product id := by
  unfold World.rowState
  rw [rows]

variable {owner : StripeSubscriptionId → StripeMetadata} {stripeSub : StripeSubscription}

/-- The row of a subscription is its metadata's user's. -/
theorem userBlocked_eq
    (owned : RowsOwned owner before)
    {id : StripeSubscriptionId}
    {row : SubscriptionRow}
    (found : findByStripeId id (before.rows product) = some row) :
    before.userBlocked product id (owner id) =
      blocked (before.rows product) id row.userId := by
  obtain ⟨present, rfl⟩ := mem_of_findByStripeId found
  unfold World.userBlocked
  rw [(owned product row present).1]
  rfl

/-- A rewritten row shows what its write reports. -/
theorem rowState_rewritten
    (owned : RowsOwned owner before)
    {row : SubscriptionRow}
    (taken : RowWrite)
    {status : SubscriptionStatus}
    {terms : Option Terms}
    (existing : taken.inserts = false)
    (found : findByStripeId taken.target (before.rows product) = some row)
    (recorded : Recorded product now False (some taken) before after)
    (written : taken.status = some status)
    (shows : (taken.rewrite now row).terms = terms.getD row.terms) :
    after.rowState product taken.target =
      reportedState before product taken.target (owner taken.target)
        (some ⟨status, terms⟩) := by
  have accepted : taken.accepted product before =
      counts (before.userBlocked product taken.target (owner taken.target))
        ⟨status, terms⟩ := by
    rw [userBlocked_eq owned found, counts, RowWrite.accepted, RowWrite.refused,
      RowWrite.owner_of_existing existing, found, written]
    cases taken with
    | insert stripeSub userId productId => cases existing
    | _ => exact Bool.and_true _
  have newStatus : (taken.rewrite now row).status = status := by
    rw [RowWrite.rewrite_status existing, written]
    rfl
  obtain ⟨rowId, rows⟩ := recorded.rows_some
  unfold reportedState
  rw [accepted] at rows
  split at rows
  · rename_i counted
    have shown : after.rowState product taken.target =
        some (status, terms.getD row.terms) := by
      unfold World.rowState
      rw [rows, findByStripeId_apply taken existing, found, Option.map_some, Option.map_some,
        newStatus, shows]
    dsimp only
    rw [if_pos counted, shown]
    unfold World.rowState
    rw [found]
    cases terms <;> rfl
  · rename_i uncounted
    dsimp only
    rw [if_neg uncounted]
    exact rowState_of_rows rows _

/-- Where there is no row, a status alone changes nothing. -/
theorem reportedState_of_absent
    {id : StripeSubscriptionId}
    (absent : findByStripeId id (before.rows product) = none)
    (stripeMeta : StripeMetadata)
    (status : SubscriptionStatus) :
    reportedState before product id stripeMeta (some ⟨status, none⟩) = none := by
  have missing : before.rowState product id = none := by
    unfold World.rowState
    rw [absent]
    rfl
  unfold reportedState
  dsimp only
  rw [missing]
  split <;> rfl

/-- A new row shows what its subscription reports. -/
theorem rowState_inserted
    {userId : UserId}
    {productId : PlanId}
    (absent : findByStripeId stripeSub.id (before.rows product) = none)
    (keys : stripeSub.metadata.rowKeys product = some (userId, productId))
    (named : stripeSub.metadata.userId = some userId)
    (recorded : Recorded product now False (some (.insert stripeSub userId productId))
      before after) :
    after.rowState product stripeSub.id =
      reportedState before product stripeSub.id stripeSub.metadata
        (some ⟨mapStripeStatus stripeSub.status, some stripeSub.terms⟩) := by
  have missing : before.rowState product stripeSub.id = none := by
    unfold World.rowState
    rw [absent]
    rfl
  have accepted : (RowWrite.insert stripeSub userId productId).accepted product before =
      (counts (before.userBlocked product stripeSub.id stripeSub.metadata)
          ⟨mapStripeStatus stripeSub.status, some stripeSub.terms⟩ &&
        before.canCreate product stripeSub.metadata) := by
    unfold World.userBlocked World.canCreate
    rw [keys, named]
    rfl
  obtain ⟨rowId, rows⟩ := recorded.rows_some
  rw [accepted] at rows
  unfold reportedState
  dsimp only
  rw [missing]
  cases counted : counts (before.userBlocked product stripeSub.id stripeSub.metadata)
      ⟨mapStripeStatus stripeSub.status, some stripeSub.terms⟩ with
  | false =>
      rw [counted, Bool.false_and, if_neg Bool.false_ne_true] at rows
      rw [if_neg Bool.false_ne_true, rowState_of_rows rows, missing]
  | true =>
      rw [if_pos rfl]
      cases creatable : before.canCreate product stripeSub.metadata with
      | false =>
          rw [counted, creatable, Bool.and_false, if_neg Bool.false_ne_true] at rows
          rw [rowState_of_rows rows, missing]
          rfl
      | true =>
          rw [counted, creatable, Bool.and_true, if_pos rfl] at rows
          unfold World.rowState
          rw [rows]
          unfold RowWrite.apply findByStripeId
          rw [List.find?_cons_of_pos (by simp [SubscriptionsService.newRow])]
          rfl

/-- A row of a subscription is synchronised with what Stripe reports. -/
theorem syncWrite_of_found
    {row : SubscriptionRow}
    (found : findByStripeId stripeSub.id (before.rows product) = some row)
    (sameProduct : stripeSub.metadata.product = product)
    (applies : ¬ (product = .leadFinder ∧ stripeSub.metadata.rowKeys .leadFinder = none)) :
    syncWrite product (before.rows product) stripeSub = some (.sync stripeSub) := by
  have upserted : ∀ userId productId,
      upsertWrite (before.rows product) stripeSub userId productId = .sync stripeSub := by
    intro userId productId
    unfold upsertWrite
    rw [found]
  cases product with
  | directory =>
      have notLeadFinder : ¬ stripeSub.metadata.isLeadFinderTier = true := by
        intro isLeadFinder
        rw [StripeMetadata.product, if_pos isLeadFinder] at sameProduct
        cases sameProduct
      unfold syncWrite
      dsimp only
      rw [if_neg notLeadFinder, found]
      split
      · rw [upserted]
      · rfl
  | leadFinder =>
      unfold syncWrite
      dsimp only
      split
      · rw [upserted]
      · rename_i missing
        refine absurd ⟨rfl, ?_⟩ applies
        unfold StripeMetadata.rowKeys StripeMetadata.productId
        cases user : stripeSub.metadata.userId with
        | none => rfl
        | some userId =>
            cases tier : stripeSub.metadata.tierId with
            | none => rfl
            | some tierId => exact (missing userId tierId user tier).elim

/-- A first row is written for a subscription whose metadata is complete. -/
theorem syncWrite_of_absent
    (absent : findByStripeId stripeSub.id (before.rows product) = none)
    (sameProduct : stripeSub.metadata.product = product) :
    syncWrite product (before.rows product) stripeSub =
      (stripeSub.metadata.rowKeys product).map fun keys =>
        .insert stripeSub keys.1 keys.2 := by
  have upserted : ∀ userId productId,
      upsertWrite (before.rows product) stripeSub userId productId =
        .insert stripeSub userId productId := by
    intro userId productId
    unfold upsertWrite
    rw [absent]
  unfold StripeMetadata.rowKeys StripeMetadata.productId
  cases product with
  | directory =>
      have notLeadFinder : ¬ stripeSub.metadata.isLeadFinderTier = true := by
        intro isLeadFinder
        rw [StripeMetadata.product, if_pos isLeadFinder] at sameProduct
        cases sameProduct
      unfold syncWrite
      dsimp only
      rw [if_neg notLeadFinder, absent]
      cases user : stripeSub.metadata.userId with
      | none => rfl
      | some userId =>
          cases plan : stripeSub.metadata.planId with
          | none => rfl
          | some planId =>
              dsimp only
              rw [upserted]
              rfl
  | leadFinder =>
      unfold syncWrite
      dsimp only
      cases user : stripeSub.metadata.userId with
      | none => rfl
      | some userId =>
          cases tier : stripeSub.metadata.tierId with
          | none => rfl
          | some tierId =>
              dsimp only
              rw [upserted]
              rfl

/-- `LeadFinderBillingService` ignores a subscription without its metadata. -/
theorem syncWrite_of_incomplete
    (missing : stripeSub.metadata.rowKeys .leadFinder = none)
    (rows : List SubscriptionRow) :
    syncWrite .leadFinder rows stripeSub = none := by
  unfold StripeMetadata.rowKeys StripeMetadata.productId at missing
  unfold syncWrite
  dsimp only
  cases user : stripeSub.metadata.userId with
  | none => rfl
  | some userId =>
      cases tier : stripeSub.metadata.tierId with
      | none => rfl
      | some tierId =>
          rw [user, tier] at missing
          cases missing

theorem StripeMetadata.userId_of_rowKeys
    {stripeMeta : StripeMetadata}
    {userId : UserId}
    {productId : PlanId}
    (keys : stripeMeta.rowKeys product = some (userId, productId)) :
    stripeMeta.userId = some userId := by
  obtain ⟨user, named, keys⟩ := Option.bind_eq_some_iff.mp keys
  obtain ⟨_, -, same⟩ := Option.map_eq_some_iff.mp keys
  rw [named, (Prod.mk.inj same).1]

/-- The row of a subscription that an event reports as a whole. -/
theorem rowState_synced
    (owned : RowsOwned owner before)
    (sameMeta : stripeSub.metadata = owner stripeSub.id)
    (sameProduct : stripeSub.metadata.product = product)
    (recorded : Recorded product now False
      (syncWrite product (before.rows product) stripeSub) before after) :
    after.rowState product stripeSub.id =
      reportedState before product stripeSub.id (owner stripeSub.id)
        (if product = .leadFinder ∧ stripeSub.metadata.rowKeys .leadFinder = none then none
          else some ⟨mapStripeStatus stripeSub.status, some stripeSub.terms⟩) := by
  cases found : findByStripeId stripeSub.id (before.rows product) with
  | some row =>
      by_cases ignored :
          product = .leadFinder ∧ stripeSub.metadata.rowKeys .leadFinder = none
      · rw [if_pos ignored]
        obtain ⟨rfl, missing⟩ := ignored
        rw [syncWrite_of_incomplete missing] at recorded
        exact rowState_of_rows recorded.rows_none _
      · rw [if_neg ignored]
        rw [syncWrite_of_found found sameProduct ignored] at recorded
        exact rowState_rewritten owned (.sync stripeSub) rfl found recorded rfl rfl
  | none =>
      rw [syncWrite_of_absent found sameProduct] at recorded
      cases keys : stripeSub.metadata.rowKeys product with
      | some both =>
          obtain ⟨userId, productId⟩ := both
          have applies :
              ¬ (product = .leadFinder ∧ stripeSub.metadata.rowKeys .leadFinder = none) := by
            rintro ⟨rfl, missing⟩
            rw [keys] at missing
            cases missing
          rw [keys] at recorded
          rw [if_neg applies, ← sameMeta]
          exact rowState_inserted found keys (StripeMetadata.userId_of_rowKeys keys) recorded
      | none =>
          rw [keys] at recorded
          have missing : before.rowState product stripeSub.id = none := by
            unfold World.rowState
            rw [found]
            rfl
          have uncreatable : before.canCreate product (owner stripeSub.id) = false := by
            unfold World.canCreate
            rw [← sameMeta, keys]
            rfl
          rw [rowState_of_rows recorded.rows_none, missing]
          unfold reportedState
          rw [missing, uncreatable]
          split
          · rfl
          · rw [write_false_none, ite_self]

end

section

variable {owner : StripeSubscriptionId → StripeMetadata} {id : StripeSubscriptionId}
  {now : Time} {before after : World} {event : StripeEvent}

/-- The row of a subscription that has ended. -/
theorem rowState_terminated
    (owned : RowsOwned owner before)
    {product : Product}
    (recorded : Recorded product now False (some (.terminate id)) before after) :
    after.rowState product id =
      reportedState before product id (owner id) (some ⟨.canceled, none⟩) := by
  cases found : findByStripeId id (before.rows product) with
  | some row => exact rowState_rewritten owned (.terminate id) rfl found recorded rfl rfl
  | none =>
      obtain ⟨rowId, rows⟩ := recorded.rows_some
      rw [reportedState_of_absent found]
      unfold World.rowState
      have accepted : (RowWrite.terminate id).accepted product before = true := rfl
      rw [rows, if_pos accepted]
      have unwritten := findByStripeId_apply (.terminate id) rfl now rowId
        (before.rows product)
      rw [show findByStripeId (RowWrite.terminate id).target (before.rows product) = none from
        found] at unwritten
      exact congrArg (Option.map _) unwritten

/-- The row of a subscription a payment of which has failed. -/
theorem rowState_failed
    (owned : RowsOwned owner before)
    (recorded : Recorded .directory now False
      ((findByStripeId id (before.rows .directory)).map fun _ => .fail id) before after) :
    after.rowState .directory id =
      reportedState before .directory id (owner id) (some ⟨.pastDue, none⟩) := by
  cases found : findByStripeId id (before.rows .directory) with
  | some row =>
      rw [found] at recorded
      exact rowState_rewritten owned (.fail id) rfl found recorded rfl rfl
  | none =>
      rw [found] at recorded
      rw [reportedState_of_absent found, rowState_of_rows recorded.rows_none]
      unfold World.rowState
      rw [found]
      rfl

/-- The row of a subscription after the write of an event about it. -/
theorem rowState_delivered
    (coherent : event.Coherent owner)
    (inStripe : StripeCoherent owner before.stripe)
    (about : event.About id)
    (owned : RowsOwned owner before)
    (recorded : Recorded (owner id).product now False
      (event.write (owner id).product before) before after) :
    after.rowState (owner id).product id =
      reportedState before (owner id).product id (owner id)
        (event.report (owner id).product before.stripe) := by
  cases reported : event.reported before.stripe with
  | some report =>
      obtain ⟨stripeMeta, stripeSub⟩ := report
      obtain ⟨sameMeta, sameProduct⟩ := coherent.of_reported inStripe reported
      have sameId : stripeSub.id = id := about.reported_id reported
      subst sameId
      dsimp only at sameMeta sameProduct
      have owns : (owner stripeSub.id).product.owns stripeMeta = true := by
        rw [← sameProduct]
        unfold Product.owns StripeMetadata.product
        cases stripeMeta.isLeadFinderTier <;> rfl
      rw [StripeEvent.write_of_reported reported, if_pos owns] at recorded
      rw [rowState_synced owned sameMeta (congrArg StripeMetadata.product sameMeta) recorded]
      congr 1
      cases event with
      | subscriptionDeleted stripeSub => cases reported
      | invoicePaymentFailed invoice => cases reported
      | _ => simp only [StripeEvent.report, reported, Option.bind_some]
  | none =>
      cases event with
      | subscriptionDeleted stripeSub =>
          obtain rfl : stripeSub.id = id := about
          exact rowState_terminated owned recorded
      | invoicePaymentFailed invoice =>
          have refers : invoice.subscription = some id := about
          simp only [StripeEvent.write, StripeEvent.report, refers, Option.bind_some]
            at recorded ⊢
          cases isProduct : (owner id).product with
          | directory =>
              rw [isProduct] at recorded
              exact rowState_failed owned recorded
          | leadFinder =>
              rw [isProduct] at recorded
              exact rowState_of_rows (Recorded.rows_none recorded) id
      | _ =>
          simp only [StripeEvent.write, StripeEvent.report, reported, Option.bind_none]
            at recorded ⊢
          exact rowState_of_rows recorded.rows_none id

end

/-! ## Runs of deliveries -/

/-- The write of an event is of the row of its subscription. -/
theorem StripeEvent.About.write_target
    {id : StripeSubscriptionId}
    {event : StripeEvent}
    (about : event.About id)
    {product : Product}
    {world : World}
    {taken : RowWrite}
    (written : event.write product world = some taken) :
    taken.target = id := by
  rcases StripeEvent.write_cases written with
    ⟨report, reported, -, synced⟩ | ⟨stripeSub, rfl, rfl⟩ | ⟨invoice, other, rfl, refers, -, rfl⟩
  · have sameId := about.reported_id reported
    rcases syncWrite_cases synced with ⟨rfl, -⟩ | ⟨userId, productId, rfl, -, -⟩
    · exact sameId
    · exact sameId
  · exact about
  · have sameInvoice : invoice.subscription = some id := about
    rw [sameInvoice] at refers
    exact (Option.some.inj refers).symm

/-- What a run of deliveries about a subscription preserves. -/
structure Steady
    (owner : StripeSubscriptionId → StripeMetadata)
    (id : StripeSubscriptionId)
    (userBlocked canCreate : Bool)
    (world : World) : Prop where
  consistent : world.Consistent
  owned : RowsOwned owner world
  blocks : world.userBlocked (owner id).product id (owner id) = userBlocked
  creates : world.canCreate (owner id).product (owner id) = canCreate

section

variable {owner : StripeSubscriptionId → StripeMetadata} {id : StripeSubscriptionId}
  {userBlocked canCreate : Bool} {world : World} {occurrence : Occurrence}

/-- Stripe's own changes do not matter. -/
theorem Steady.arrive
    (steady : Steady owner id userBlocked canCreate world)
    (occurrence : Occurrence) :
    Steady owner id userBlocked canCreate (occurrence.arrive world) where
  consistent := occurrence.arrive_consistent steady.consistent
  owned product := by
    rw [occurrence.arrive_rows world product]
    exact steady.owned product
  blocks := by
    unfold World.userBlocked
    rw [occurrence.arrive_rows]
    exact steady.blocks
  creates := steady.creates

theorem Steady.step
    (app : Deployment)
    (steady : Steady owner id userBlocked canCreate world)
    (delivers : occurrence.Delivers owner id) :
    Steady owner id userBlocked canCreate (Occurrence.step app world occurrence) := by
  have arrived := steady.arrive occurrence
  obtain ⟨event, delivery, about⟩ := delivers.event
  have recorded := Occurrence.delivered app steady.consistent delivers delivery about
  have references : SameReferences (occurrence.arrive world)
      (Occurrence.step app world occurrence) := by
    refine Occurrence.respected (BillingRequest.respects
      (fun _ _ book => book.sameReferences) app occurrence.request
      (fun _ _ _ _ world grant _ => sameReferences_granted world grant) ?_) world
    intro adminUserId targetUserId granted comps
    rw [delivery] at comps
    cases comps
  refine ⟨Occurrence.step_consistent app steady.consistent,
    steady.owned.step app steady.consistent delivers.coherent, ?_, ?_⟩
  · rw [← arrived.blocks]
    unfold World.userBlocked
    congr 1
    funext userId
    rcases recorded.row with ⟨taken, rowId, written, -, -, -, rows⟩ | ⟨rows, -⟩
    · rw [rows, ← about.write_target written, blocked_apply]
    · rw [rows]
  · rw [← arrived.creates]
    unfold World.canCreate
    congr 1
    funext keys
    exact references _ _ _

/-- The row of a subscription after an undisturbed delivery about it. -/
theorem Steady.rowState_step
    (app : Deployment)
    (steady : Steady owner id userBlocked canCreate world)
    (delivers : occurrence.Delivers owner id) :
    (Occurrence.step app world occurrence).rowState (owner id).product id =
      (((occurrence.report (owner id).product).toList.filter (counts userBlocked)).foldl
        (LastWriter.write canCreate) (world.rowState (owner id).product id)) := by
  have arrived := steady.arrive occurrence
  obtain ⟨event, delivery, about⟩ := delivers.event
  have recorded := Occurrence.delivered app steady.consistent delivers delivery about
  have sameReport : occurrence.report (owner id).product =
      event.report (owner id).product (occurrence.arrive world).stripe := by
    unfold Occurrence.report
    rw [delivery]
    rfl
  have sameState : (occurrence.arrive world).rowState (owner id).product id =
      world.rowState (owner id).product id := by
    unfold World.rowState
    rw [occurrence.arrive_rows]
  rw [rowState_delivered (delivers.coherent.event event delivery) delivers.coherent.stripe
    about arrived.owned recorded, ← sameReport]
  unfold reportedState
  rw [arrived.blocks, arrived.creates, sameState]
  cases occurrence.report (owner id).product with
  | none => rfl
  | some report =>
      cases counted : counts userBlocked report with
      | true => simp [counted]
      | false => simp [counted]

/-- A run of deliveries writes the reports that count, in their order. -/
theorem Steady.rowState_run
    (app : Deployment)
    (steady : Steady owner id userBlocked canCreate world)
    (deliveries : List Occurrence)
    (delivers : ∀ occurrence ∈ deliveries, occurrence.Delivers owner id) :
    (deliveries.foldl (Occurrence.step app) world).rowState (owner id).product id =
      (((deliveries.filterMap (·.report (owner id).product)).filter
        (counts userBlocked)).foldl (LastWriter.write canCreate)
          (world.rowState (owner id).product id)) := by
  induction deliveries generalizing world with
  | nil => rfl
  | cons occurrence later inductionHypothesis =>
      have delivered := delivers occurrence List.mem_cons_self
      have rest : ∀ occurrence ∈ later, occurrence.Delivers owner id :=
        fun other present => delivers other (List.mem_cons_of_mem _ present)
      have reports : (occurrence :: later).filterMap (·.report (owner id).product) =
          (occurrence.report (owner id).product).toList ++
            later.filterMap (·.report (owner id).product) := by
        cases given : occurrence.report (owner id).product with
        | none => rw [List.filterMap_cons_none given]; rfl
        | some report => rw [List.filterMap_cons_some given]; rfl
      rw [List.foldl_cons, inductionHypothesis (steady.step app delivered) rest,
        steady.rowState_step app delivered, reports, List.filter_append, List.foldl_append]

end

/-- However the events about a subscription are ordered and repeated, its row
ends with the status of the last delivery that counts, and with the period and
the flag of the last one that carries the subscription. -/
theorem row_follows_last_deliveries
    (app : Deployment)
    {start : World}
    (empty : ∀ product, start.rows product = [])
    (owner : StripeSubscriptionId → StripeMetadata)
    (earlier : List Occurrence)
    (coherent : ∀ occurrence ∈ earlier, occurrence.Coherent owner)
    (id : StripeSubscriptionId)
    (deliveries : List Occurrence)
    (delivers : ∀ occurrence ∈ deliveries, occurrence.Delivers owner id) :
    let before := earlier.foldl (Occurrence.step app) start
    let product := (owner id).product
    let reports := (deliveries.filterMap (·.report product)).filter
      (counts (before.userBlocked product id (owner id)))
    (deliveries.foldl (Occurrence.step app) before).rowState product id =
      if (before.rowState product id).isSome || before.canCreate product (owner id) then
        settled (before.rowState product id) reports
      else none := by
  intro before product reports
  have initial := World.consistent_of_no_rows empty
  have steady : Steady owner id (before.userBlocked product id (owner id))
      (before.canCreate product (owner id)) before :=
    ⟨run_consistent app initial earlier,
      run_rowsOwned app initial (rowsOwned_of_no_rows empty owner) earlier coherent, rfl, rfl⟩
  rw [steady.rowState_run app deliveries delivers, foldl_write]

/-- A subscription that starts, fails to renew and recovers. -/
def sampleRecovery : List Occurrence :=
  [sampleDelivery 1000 (.subscriptionCreated (sampleSubscription 7 .active))
      [sampleSubscription 7 .active],
    sampleDelivery 2000 (.invoicePaymentFailed { id := 20, subscription := some 7 })
      [sampleSubscription 7 .pastDue],
    sampleDelivery 3000 (.subscriptionUpdated (sampleSubscription 7 .active))
      [sampleSubscription 7 .active]]

theorem row_follows_last_deliveries_recovery :
    (sampleRecovery.foldl (Occurrence.step sampleDeployment) sampleBackend).rowState
        .directory 7 =
      some (.active, (sampleSubscription 7 .active).terms) := by
  have delivers : ∀ occurrence ∈ sampleRecovery, occurrence.Delivers sampleOwner 7 := by
    intro occurrence present
    simp only [sampleRecovery, List.mem_cons, List.not_mem_nil, or_false] at present
    rcases present with rfl | rfl | rfl
    · exact ⟨⟨_, rfl, rfl⟩, sampleDelivery_coherent (by decide) rfl, rfl⟩
    · exact ⟨⟨_, rfl, rfl⟩, sampleDelivery_coherent (by decide) trivial, rfl⟩
    · exact ⟨⟨_, rfl, rfl⟩, sampleDelivery_coherent (by decide) rfl, rfl⟩
  exact row_follows_last_deliveries sampleDeployment
    (fun product => by cases product <;> rfl) sampleOwner [] (by simp) 7 sampleRecovery
    delivers

/-- An older update, processed after the subscription has ended, makes its row
active again; in the order of their creation the same events leave it cancelled. -/
theorem late_update_revives_row :
    ([sampleDelivery 1000 (.subscriptionCreated (sampleSubscription 7 .active))
          [sampleSubscription 7 .active],
        sampleDelivery 2000 (.subscriptionUpdated (sampleSubscription 7 .active))
          [sampleSubscription 7 .active],
        sampleDelivery 3000 (.subscriptionDeleted (sampleSubscription 7 .canceled))
          [sampleSubscription 7 .canceled]].foldl (Occurrence.step sampleDeployment)
        sampleBackend).rowState .directory 7 =
      some (.canceled, (sampleSubscription 7 .active).terms) ∧
    ([sampleDelivery 1000 (.subscriptionCreated (sampleSubscription 7 .active))
          [sampleSubscription 7 .active],
        sampleDelivery 3000 (.subscriptionDeleted (sampleSubscription 7 .canceled))
          [sampleSubscription 7 .canceled],
        sampleDelivery 4000 (.subscriptionUpdated (sampleSubscription 7 .active))
          [sampleSubscription 7 .canceled]].foldl (Occurrence.step sampleDeployment)
        sampleBackend).rowState .directory 7 =
      some (.active, (sampleSubscription 7 .active).terms) := by
  decide

end ConferenceContact
