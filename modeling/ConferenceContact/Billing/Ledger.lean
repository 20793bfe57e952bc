import ConferenceContact.Billing.Frames
import ConferenceContact.Billing.RowWrites

/-!
# The write of a request

`write` says which row write a request attempts, as a function of the request
and of the world it finds.  Every request records its write: the table is
afterwards as the write makes it, or as it was, and it stays as it was only if
the database refuses the write or a call is rejected.
-/

namespace ConferenceContact

open Process

/-! ## Which write -/

/-- The upsert of a reported subscription. -/
def upsertWrite
    (rows : List SubscriptionRow)
    (stripeSub : StripeSubscription)
    (userId : UserId)
    (productId : PlanId) : RowWrite :=
  match findByStripeId stripeSub.id rows with
  | some _ => .sync stripeSub
  | none => .insert stripeSub userId productId

/-- The write by which a table takes over a reported subscription. -/
def syncWrite
    (product : Product)
    (rows : List SubscriptionRow)
    (stripeSub : StripeSubscription) : Option RowWrite :=
  match product with
  | .directory =>
      if stripeSub.metadata.isLeadFinderTier then none
      else
        match stripeSub.metadata.userId, stripeSub.metadata.planId with
        | some userId, some planId => some (upsertWrite rows stripeSub userId planId)
        | _, _ => (findByStripeId stripeSub.id rows).map fun _ => .sync stripeSub
  | .leadFinder =>
      match stripeSub.metadata.userId, stripeSub.metadata.tierId with
      | some userId, some tierId => some (upsertWrite rows stripeSub userId tierId)
      | _, _ => none

/-- Whether a service takes an event with this metadata for its own. -/
def Product.owns (product : Product) (metadata : StripeMetadata) : Bool :=
  product = .directory || metadata.isLeadFinderTier

/-- The subscription whose state an event carries, or makes the services look
up, and the metadata of the object it reports. -/
def StripeEvent.reported
    (stripe : List StripeSubscription) :
    StripeEvent → Option (StripeMetadata × StripeSubscription)
  | checkoutSessionCompleted session =>
      match session.mode, session.subscription with
      | .subscription, some stripeSubscriptionId =>
          (findStripe stripeSubscriptionId stripe).map fun stripeSub =>
            (session.metadata, stripeSub)
      | _, _ => none
  | subscriptionCreated stripeSub => some (stripeSub.metadata, stripeSub)
  | subscriptionUpdated stripeSub => some (stripeSub.metadata, stripeSub)
  | subscriptionResumed stripeSub => some (stripeSub.metadata, stripeSub)
  | _ => none

/-- The write an event makes in the table of a product. -/
def StripeEvent.write
    (product : Product)
    (world : World)
    (event : StripeEvent) : Option RowWrite :=
  match event with
  | subscriptionDeleted stripeSub => some (.terminate stripeSub.id)
  | invoicePaymentFailed invoice =>
      if product = .directory then
        invoice.subscription.bind fun stripeSubscriptionId =>
          (findByStripeId stripeSubscriptionId (world.rows product)).map fun _ =>
            .fail stripeSubscriptionId
      else none
  | event =>
      (event.reported world.stripe).bind fun report =>
        if product.owns report.1 then
          syncWrite product (world.rows product) report.2
        else none

/-- The write a request makes in the table of a product. -/
def BillingRequest.write
    (app : Deployment)
    (now : Time)
    (product : Product)
    (world : World) : BillingRequest → Option RowWrite
  | webhook event => event.write product world
  | createCheckoutSession userId _ =>
      match product, findLive userId (world.rows product) with
      | .directory, some row =>
          if hasActiveAccess app now row.status row.pastDueSince then none
          else some (.replace row.stripeSubscriptionId)
      | _, _ => none
  | cancel userId =>
      match product, findLive userId (world.rows product) with
      | .directory, some row => some (.schedule row.stripeSubscriptionId true)
      | _, _ => none
  | resume userId =>
      match product, world.subscriptions.find? fun row =>
          row.userId = userId ∧ row.status.live ∧ row.cancelAtPeriodEnd with
      | .directory, some row => some (.schedule row.stripeSubscriptionId false)
      | _, _ => none
  | cancelLeadFinder userId =>
      match product, findLive userId (world.rows product) with
      | .leadFinder, some row => some (.schedule row.stripeSubscriptionId true)
      | _, _ => none
  | deleteAccount userId _ =>
      match product, findLive userId (world.rows product) with
      | .directory, some row => some (.replace row.stripeSubscriptionId)
      | _, _ => none
  | createLeadFinderCheckoutSession _ _ => none
  | directoryAccess _ => none
  | setDirectoryAccess _ _ _ => none

/-! ## What is recorded -/

/-- The write has taken place, or it has not, which a lossy run may always
leave it at. -/
structure Recorded
    (product : Product)
    (now : Time)
    (lossy : Prop)
    (write : Option RowWrite)
    (before after : World) : Prop where
  nextId : before.nextId ≤ after.nextId
  row :
    (∃ taken id, write = some taken ∧ taken.accepted product before = true ∧
      before.nextId ≤ id ∧ (taken.inserts = true → id < after.nextId) ∧
      after.rows product = taken.apply now id (before.rows product)) ∨
    (after.rows product = before.rows product ∧
      (lossy ∨ ∀ taken, write = some taken → taken.accepted product before = false))

/-- The subscription tables are as they were. -/
structure KeepsRows (before after : World) : Prop where
  rows : ∀ product, after.rows product = before.rows product
  nextId : before.nextId ≤ after.nextId

instance : IsPreorder World KeepsRows where
  refl _ := ⟨fun _ => rfl, Nat.le_refl _⟩
  trans _ _ _ first second :=
    ⟨fun product => (second.rows product).trans (first.rows product),
      Nat.le_trans first.nextId second.nextId⟩

/-- The subscription tables and Stripe are as they were. -/
structure SameLedger (before after : World) : Prop extends KeepsRows before after where
  stripe : after.stripe = before.stripe

instance : IsPreorder World SameLedger where
  refl world := ⟨Std.Refl.refl world, rfl⟩
  trans _ _ _ first second :=
    ⟨IsTrans.trans _ _ _ first.toKeepsRows second.toKeepsRows,
      second.stripe.trans first.stripe⟩

theorem Quiet.sameLedger {before after : World} (quiet : Quiet before after) :
    SameLedger before after :=
  ⟨⟨quiet.rows, quiet.nextId⟩, quiet.stripe⟩

/-- New rows may refer to the same users, plans and tiers as before. -/
def SameReferences (before after : World) : Prop :=
  ∀ product userId productId,
    SubscriptionTable.referencesExist product after userId productId =
      SubscriptionTable.referencesExist product before userId productId

instance : IsPreorder World SameReferences where
  refl _ _ _ _ := rfl
  trans _ _ _ first second product userId productId :=
    (second product userId productId).trans (first product userId productId)

/-- What a row may refer to is read from the accounts, the plans and the tiers. -/
theorem SameReferences.of_catalog
    {before after : World}
    (users : after.users.map (·.id) = before.users.map (·.id))
    (plans : after.plans = before.plans)
    (tiers : after.leadFinderTiers = before.leadFinderTiers) :
    SameReferences before after := by
  intro product userId productId
  have inIds : ∀ world : World, (world.users.any fun user => user.id = userId) =
      (world.users.map (·.id)).any fun id => id = userId := by
    intro world
    rw [List.any_map]
    rfl
  unfold SubscriptionTable.referencesExist
  rw [inIds after, inIds before, users, plans, tiers]

theorem SameBook.sameReferences
    {before after : World}
    (book : SameBook before after) :
    SameReferences before after :=
  .of_catalog book.accounts (congrArg AccountBook.plans book)
    (congrArg AccountBook.leadFinderTiers book)

theorem RowWrite.accepted_congr
    {product : Product}
    {before after : World}
    {write : RowWrite}
    (rows : after.rows product = before.rows product)
    (references : SameReferences before after) :
    write.accepted product after = write.accepted product before := by
  unfold accepted refers
  rw [rows]
  cases write with
  | insert stripeSub userId productId =>
      exact congrArg _ (references product userId productId)
  | _ => rfl

theorem KeepsRows.consistent
    {before after : World}
    (keeps : KeepsRows before after)
    (consistent : before.Consistent) :
    after.Consistent := by
  intro product
  rw [keeps.rows product]
  exact (consistent product).mono keeps.nextId

theorem Quiet.consistent
    {before after : World}
    (quiet : Quiet before after)
    (consistent : before.Consistent) :
    after.Consistent :=
  quiet.sameLedger.toKeepsRows.consistent consistent

namespace Recorded

variable {product : Product} {now : Time} {lossy : Prop} {write : Option RowWrite}
  {before middle after : World}

/-- Nothing has been written. -/
theorem kept
    (keeps : KeepsRows before after)
    (reason : lossy ∨ ∀ taken, write = some taken →
      taken.accepted product before = false) :
    Recorded product now lossy write before after where
  nextId := keeps.nextId
  row := .inr ⟨keeps.rows product, reason⟩

theorem none
    (keeps : KeepsRows before after) :
    Recorded product now lossy Option.none before after := by
  refine kept keeps (.inr ?_)
  rintro taken ⟨⟩

/-- Calls after the write that keep the rows do not matter. -/
theorem andThen
    (recorded : Recorded product now lossy write before middle)
    (keeps : KeepsRows middle after) :
    Recorded product now lossy write before after where
  nextId := Nat.le_trans recorded.nextId keeps.nextId
  row := by
    rcases recorded.row with ⟨taken, id, same, accepted, fresh, below, rows⟩ | ⟨rows, reason⟩
    · exact .inl ⟨taken, id, same, accepted, fresh,
        fun inserts => Nat.lt_of_lt_of_le (below inserts) keeps.nextId,
        (keeps.rows product).trans rows⟩
    · exact .inr ⟨(keeps.rows product).trans rows, reason⟩

/-- Calls before the write that leave its table and what it may refer to alone
do not matter. -/
theorem precede
    (recorded : Recorded product now lossy write middle after)
    (rows : middle.rows product = before.rows product)
    (references : SameReferences before middle)
    (nextId : before.nextId ≤ middle.nextId) :
    Recorded product now lossy write before after where
  nextId := Nat.le_trans nextId recorded.nextId
  row := by
    have accepted : ∀ taken : RowWrite,
        taken.accepted product middle = taken.accepted product before :=
      fun taken => RowWrite.accepted_congr rows references
    rcases recorded.row with ⟨taken, id, same, isAccepted, fresh, below, table⟩ |
      ⟨table, reason⟩
    · rw [accepted] at isAccepted
      rw [rows] at table
      exact .inl ⟨taken, id, same, isAccepted, Nat.le_trans nextId fresh, below, table⟩
    · rw [rows] at table
      refine .inr ⟨table, reason.imp_right fun refused taken same => ?_⟩
      rw [← accepted]
      exact refused taken same

/-- What a run records a lossy run may record. -/
theorem mono
    (recorded : Recorded product now lossy write before after)
    {lossier : Prop}
    (implies : lossy → lossier) :
    Recorded product now lossier write before after :=
  { recorded with
    row := recorded.row.imp id fun ⟨rows, reason⟩ => ⟨rows, reason.imp implies id⟩ }

end Recorded

/-! ## Table calls -/

section

variable {nextId : Nat} {rows : List SubscriptionRow} {now : Time} {write : RowWrite}

/-- Whether the write of a row that is there is refused. -/
theorem RowWrite.refused_of_existing
    (consistent : TableConsistent nextId rows)
    {row : SubscriptionRow}
    (present : row ∈ rows)
    (existing : write.inserts = false)
    (target : write.target = row.stripeSubscriptionId) :
    write.refused rows =
      (write.status.any (·.live) &&
        blocked rows row.stripeSubscriptionId row.userId) := by
  rw [refused, owner_of_existing existing, target, consistent.findByStripeId_eq present]
  rfl

/-- A live row is not blocked by another one. -/
theorem TableConsistent.not_blocked_of_live
    (consistent : TableConsistent nextId rows)
    {row : SubscriptionRow}
    (present : row ∈ rows)
    (live : row.status.live = true) :
    blocked rows row.stripeSubscriptionId row.userId = false := by
  refine Bool.eq_false_iff.mpr fun isBlocked => ?_
  obtain ⟨other, stored, different, sameUser, otherLive⟩ := blocked_eq_true.mp isBlocked
  have same := consistent.oneLive other stored row present sameUser otherLive live
  exact different (congrArg SubscriptionRow.stripeSubscriptionId same)

/-- Rewriting a row of a consistent table by its id; a write that does not set
the status is of a live row. -/
theorem rewriteRow_eq
    (consistent : TableConsistent nextId rows)
    {row : SubscriptionRow}
    (present : row ∈ rows)
    {change : SubscriptionRow → SubscriptionRow}
    (existing : write.inserts = false)
    (target : write.target = row.stripeSubscriptionId)
    (same : change row = write.rewrite now row)
    (unscheduled : write.status = none → row.status.live = true) :
    rewriteRow row.id change rows =
      if write.refused rows then .error .uniqueViolation
      else .ok (write.apply now nextId rows) := by
  have conflict : conflicts rows (change row) = write.refused rows := by
    rw [consistent.conflicts_eq present (by rw [same, RowWrite.rewrite_id])
      (by rw [same, RowWrite.rewrite_userId]), same, RowWrite.rewrite_status existing,
      RowWrite.refused_of_existing consistent present existing target]
    cases given : write.status with
    | some status => rfl
    | none => simp [consistent.not_blocked_of_live present (unscheduled given)]
  unfold rewriteRow
  rw [consistent.find?_id present]
  dsimp only
  rw [conflict, RowWrite.apply_of_existing existing, consistent.updateWhere_eq present same,
    target]

end

@[simp] theorem World.rows_setRows
    (world : World)
    (rows : List SubscriptionRow)
    (product : Product) :
    (world.setRows rows product).rows product = rows := by
  cases product <;> rfl

theorem World.rows_setRows_of_ne
    (world : World)
    (rows : List SubscriptionRow)
    {product other : Product}
    (different : other ≠ product) :
    (world.setRows rows product).rows other = world.rows other := by
  cases product <;> cases other <;> first | rfl | exact absurd rfl different

@[simp] theorem World.stripe_setRows
    (world : World)
    (rows : List SubscriptionRow)
    (product : Product) :
    (world.setRows rows product).stripe = world.stripe := by
  cases product <;> rfl

@[simp] theorem World.nextId_setRows
    (world : World)
    (rows : List SubscriptionRow)
    (product : Product) :
    (world.setRows rows product).nextId = world.nextId := by
  cases product <;> rfl

/-- The world in which a row has been written. -/
def World.wrote
    (world : World)
    (product : Product)
    (now : Time)
    (write : RowWrite) : World :=
  { world.setRows (write.apply now world.nextId (world.rows product)) product with
    nextId := if write.inserts then world.nextId + 1 else world.nextId }

theorem World.wrote_of_existing
    {write : RowWrite}
    (existing : write.inserts = false)
    {world : World}
    {product : Product}
    {now : Time} :
    world.wrote product now write =
      world.setRows (write.apply now world.nextId (world.rows product)) product := by
  unfold World.wrote
  rw [existing]
  cases product <;> rfl

/-- How a table call ends: the write has taken place, or nothing has happened
and the error says why. -/
def TableCall
    (product : Product)
    (now : Time)
    (rejections : ApiError → Prop)
    (write : RowWrite)
    (before : World)
    (result : Except ApiError Unit)
    (after : World) : Prop :=
  match result with
  | .ok () =>
      Recorded product now False (some write) before after ∧
        (∀ other, other ≠ product → after.rows other = before.rows other) ∧
        after.stripe = before.stripe
  | .error error =>
      after = before ∧
        (rejections error ∨
          error = .uniqueViolation ∧ write.refused (before.rows product) = true ∨
          error = .foreignKeyViolation ∧ write.refers product before = false)

section TableCalls

variable {input : Input} {rejections : ApiError → Prop} {world : World} {product : Product}
  {write : RowWrite}

/-- A write that has taken place. -/
theorem TableCall.written (accepted : write.accepted product world = true) :
    TableCall product input.now rejections write world (.ok ())
      (world.wrote product input.now write) := by
  refine ⟨⟨?_, ?_⟩, fun other different => World.rows_setRows_of_ne world _ different,
    World.stripe_setRows world _ product⟩
  · unfold World.wrote
    dsimp only
    split
    · exact Nat.le_succ _
    · exact Nat.le_refl _
  · refine .inl ⟨write, world.nextId, rfl, accepted, Nat.le_refl _, ?_, ?_⟩
    · intro inserts
      unfold World.wrote
      rw [inserts]
      exact Nat.lt_succ_self _
    · exact World.rows_setRows world _ product

/-- The result of the update of a row that is there. -/
theorem run_update
    (consistent : world.Consistent)
    {row : SubscriptionRow}
    (present : row ∈ world.rows product)
    {change : Time → SubscriptionRow → SubscriptionRow}
    (existing : write.inserts = false)
    (target : write.target = row.stripeSubscriptionId)
    (same : change input.now row = write.rewrite input.now row)
    (unscheduled : write.status = none → row.status.live = true) :
    (SubscriptionTable.update product row.id change).run input world =
      if write.refused (world.rows product) then (.error .uniqueViolation, world)
      else (.ok (), world.wrote product input.now write) := by
  unfold SubscriptionTable.update
  rw [run_attempt, rewriteRow_eq (consistent product) present existing target same unscheduled,
    World.wrote_of_existing existing]
  cases write.refused (world.rows product) <;> rfl

theorem ensures_update
    (consistent : world.Consistent)
    {row : SubscriptionRow}
    (present : row ∈ world.rows product)
    {change : Time → SubscriptionRow → SubscriptionRow}
    (existing : write.inserts = false)
    (target : write.target = row.stripeSubscriptionId)
    (same : change input.now row = write.rewrite input.now row)
    (unscheduled : write.status = none → row.status.live = true) :
    (SubscriptionTable.update product row.id change).Ensures input rejections world
      (TableCall product input.now rejections write world) := by
  refine Ensures.attempt_run_iff.mpr ⟨?_, fun error allowed => ⟨rfl, .inl allowed⟩⟩
  have outcome := run_update consistent present existing target same unscheduled
  unfold SubscriptionTable.update at outcome
  rw [outcome]
  cases isRefused : write.refused (world.rows product) with
  | true => exact ⟨rfl, .inr (.inl ⟨rfl, isRefused⟩)⟩
  | false =>
      have accepted : write.accepted product world = true := by
        rw [RowWrite.accepted, isRefused, RowWrite.refers_of_existing existing]
        rfl
      exact TableCall.written accepted

/-- The result of the upsert of a reported subscription. -/
theorem run_upsert
    (consistent : world.Consistent)
    {stripeSub : StripeSubscription}
    {userId : UserId}
    {productId : PlanId}
    {create : Time → Nat → SubscriptionRow}
    {change : Time → SubscriptionRow → SubscriptionRow}
    (creates : findByStripeId stripeSub.id (world.rows product) = none →
      create input.now world.nextId =
        SubscriptionsService.newRow stripeSub userId productId input.now world.nextId)
    (changes : ∀ row, findByStripeId stripeSub.id (world.rows product) = some row →
      change input.now row = (RowWrite.sync stripeSub).rewrite input.now row) :
    (SubscriptionTable.upsert product stripeSub.id create change).run input world =
      if (upsertWrite (world.rows product) stripeSub userId productId).refused
          (world.rows product) then
        (.error .uniqueViolation, world)
      else if (upsertWrite (world.rows product) stripeSub userId productId).refers
          product world then
        (.ok (), world.wrote product input.now
          (upsertWrite (world.rows product) stripeSub userId productId))
      else (.error .foreignKeyViolation, world) := by
  unfold SubscriptionTable.upsert upsertWrite
  rw [run_attempt]
  cases found : findByStripeId stripeSub.id (world.rows product) with
  | some row =>
      obtain ⟨present, sameStripeId⟩ := mem_of_findByStripeId found
      have rewritten : rewriteRow row.id (change input.now) (world.rows product) =
          if (RowWrite.sync stripeSub).refused (world.rows product) then
            .error .uniqueViolation
          else
            .ok ((RowWrite.sync stripeSub).apply input.now world.nextId
              (world.rows product)) :=
        rewriteRow_eq (consistent product) present rfl sameStripeId.symm
          (changes row found) nofun
      dsimp only
      rw [rewritten]
      cases (RowWrite.sync stripeSub).refused (world.rows product) with
      | true => rfl
      | false => rw [World.wrote_of_existing rfl]; rfl
  | none =>
      dsimp only
      rw [creates found]
      have conflict : conflicts (world.rows product)
          (SubscriptionsService.newRow stripeSub userId productId input.now world.nextId) =
          (RowWrite.insert stripeSub userId productId).refused (world.rows product) :=
        (consistent product).conflicts_fresh rfl found
      rw [conflict]
      cases (RowWrite.insert stripeSub userId productId).refused (world.rows product) with
      | true => rfl
      | false =>
          have references : SubscriptionTable.referencesExist product world userId productId =
              (RowWrite.insert stripeSub userId productId).refers product world := rfl
          simp only [SubscriptionsService.newRow, references, Bool.false_eq_true, if_false]
          cases (RowWrite.insert stripeSub userId productId).refers product world <;> rfl

/-- The upsert of a reported subscription. -/
theorem ensures_upsert
    (consistent : world.Consistent)
    {stripeSub : StripeSubscription}
    {userId : UserId}
    {productId : PlanId}
    {create : Time → Nat → SubscriptionRow}
    {change : Time → SubscriptionRow → SubscriptionRow}
    (creates : findByStripeId stripeSub.id (world.rows product) = none →
      create input.now world.nextId =
        SubscriptionsService.newRow stripeSub userId productId input.now world.nextId)
    (changes : ∀ row, findByStripeId stripeSub.id (world.rows product) = some row →
      change input.now row = (RowWrite.sync stripeSub).rewrite input.now row) :
    (SubscriptionTable.upsert product stripeSub.id create change).Ensures input rejections
      world (TableCall product input.now rejections
        (upsertWrite (world.rows product) stripeSub userId productId) world) := by
  refine Ensures.attempt_run_iff.mpr ⟨?_, fun error allowed => ⟨rfl, .inl allowed⟩⟩
  have outcome := run_upsert consistent creates changes
  unfold SubscriptionTable.upsert at outcome
  rw [outcome]
  cases isRefused : (upsertWrite (world.rows product) stripeSub userId productId).refused
      (world.rows product) with
  | true => exact ⟨rfl, .inr (.inl ⟨rfl, isRefused⟩)⟩
  | false =>
      rw [if_neg Bool.false_ne_true]
      cases refers : (upsertWrite (world.rows product) stripeSub userId productId).refers
          product world with
      | true =>
          have accepted : (upsertWrite (world.rows product) stripeSub userId
              productId).accepted product world = true := by
            rw [RowWrite.accepted, isRefused, refers]
            rfl
          exact TableCall.written accepted
      | false => exact ⟨rfl, .inr (.inr ⟨rfl, refers⟩)⟩

end TableCalls
end ConferenceContact
