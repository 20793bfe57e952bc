import ConferenceContact.Billing.Records

/-!
# Past-due streaks

A row is past due from the write that gives it that status until one that takes
it away, and `pastDueSince` is the clock of such a streak.  Every write of a
streak keeps the clock, so the grace period ends in time.  A row that is ended
while it is past due keeps its clock as well, which its next streak then inherits.
-/

namespace ConferenceContact

open Process

/-! ## One write for each table -/

/-- The table of a product is as it was. -/
def SameRows (product : Product) (before after : World) : Prop :=
  after.rows product = before.rows product

instance (product : Product) : IsPreorder World (SameRows product) where
  refl _ := rfl
  trans _ _ _ first second := second.trans first

namespace Occurrence

/-- A write that a request attempts in a table and the database lets happen; what
the request finds has the table of `world`. -/
def Takes
    (app : Deployment)
    (world : World)
    (occurrence : Occurrence)
    (product : Product)
    (write : RowWrite) : Prop :=
  ∃ found : World, found.rows product = world.rows product ∧
    occurrence.request.write app occurrence.input.now product found = some write ∧
    write.accepted product found = true

section

variable {app : Deployment} {world : World} {occurrence : Occurrence} {product : Product}

/-- A request leaves a table alone or makes one write in it. -/
theorem rows_step
    (app : Deployment)
    (occurrence : Occurrence)
    (consistent : world.Consistent)
    (product : Product) :
    (step app world occurrence).rows product = world.rows product ∨
      ∃ write id, occurrence.Takes app world product write ∧ world.nextId ≤ id ∧
        (step app world occurrence).rows product =
          write.apply occurrence.input.now id (world.rows product) := by
  have ofRecorded : ∀ found after : World, found.rows product = world.rows product →
      world.nextId ≤ found.nextId →
      Recorded product occurrence.input.now True
        (occurrence.request.write app occurrence.input.now product found) found after →
      after.rows product = world.rows product ∨
        ∃ write id, occurrence.Takes app world product write ∧ world.nextId ≤ id ∧
          after.rows product = write.apply occurrence.input.now id (world.rows product) := by
    intro found after same nextId recorded
    rcases recorded.row with ⟨write, id, written, accepted, fresh, -, rows⟩ | ⟨rows, -⟩
    · rw [same] at rows
      exact .inr ⟨write, id, ⟨found, same, written, accepted⟩, Nat.le_trans nextId fresh, rows⟩
    · exact .inl (rows.trans same)
  have arrived := occurrence.arrive_rows world product
  by_cases delivery : ∃ event, occurrence.request = .webhook event
  · obtain ⟨event, delivery⟩ := delivery
    cases product with
    | directory => exact ofRecorded _ _ arrived (Nat.le_refl _) (occurrence.recorded app consistent)
    | leadFinder =>
        obtain ⟨middle, first, -, -, ⟨-, stopped⟩ | second⟩ :=
          occurrence.processed app consistent delivery
        · rw [stopped]
          exact .inl ((first.others .leadFinder nofun).trans arrived)
        · refine ofRecorded middle _ ((first.others .leadFinder nofun).trans arrived)
            first.recorded.nextId ?_
          rw [delivery]
          exact second.recorded
  · have others : ∀ event, occurrence.request ≠ .webhook event :=
      fun event same => delivery ⟨event, same⟩
    exact ofRecorded _ _ arrived (Nat.le_refl _)
      (occurrence.records app consistent others product)

end
end Occurrence

/-! ## Rows that are ended -/

/-- Stripe ends a subscription that it knows and that has not ended. -/
def cancellable (stripe : List StripeSubscription) (id : StripeSubscriptionId) : Bool :=
  (findStripe id stripe).any fun stripeSub => !stripeSub.status.terminal

namespace Occurrence

/-- The call at a position of a request and those before it are not rejected. -/
def getsPast (occurrence : Occurrence) (position : Nat) : Bool :=
  occurrence.rejected.all (position < ·)

/-- The subscription whose row a request ends: one whose deletion Stripe reports, a
lapsed one that a new checkout replaces, or that of a deleted account. -/
def ended
    (app : Deployment)
    (world : World)
    (occurrence : Occurrence)
    (product : Product) : Option StripeSubscriptionId :=
  match occurrence.request, product with
  | .webhook (.subscriptionDeleted stripeSub), .directory =>
      if occurrence.getsPast 0 then some stripeSub.id else none
  | .webhook (.subscriptionDeleted stripeSub), .leadFinder =>
      if occurrence.getsPast 1 then some stripeSub.id else none
  | .createCheckoutSession userId planSlug, .directory =>
      if (world.users.find? fun user => user.id = userId).isSome ∧
          (world.plans.find? fun plan => plan.slug = planSlug).any (·.isActive) ∧
          occurrence.getsPast 5 then
        ((findLive userId world.subscriptions).filter fun row =>
          !hasActiveAccess app occurrence.input.now row.status row.pastDueSince &&
            cancellable occurrence.stripe row.stripeSubscriptionId).map
          (·.stripeSubscriptionId)
      else none
  | .deleteAccount userId password, .directory =>
      if ((world.users.find? fun user => user.id = userId).any fun user =>
            app.argon2Verify user.passwordHash password) ∧
          occurrence.getsPast 3 then
        ((findLive userId world.subscriptions).filter fun row =>
          cancellable occurrence.stripe row.stripeSubscriptionId).map
          (·.stripeSubscriptionId)
      else none
  | _, _ => none

section

variable {app : Deployment} {world : World} {occurrence : Occurrence} {product : Product}

/-- A request that is rejected before it writes leaves the table alone. -/
theorem sameRows_of_rejected
    {calls : Nat}
    (through : (occurrence.request.handle app).RespectsThrough (SameRows product) calls)
    (early : occurrence.getsPast calls = false) :
    SameRows product (occurrence.arrive world) (step app world occurrence) := by
  unfold getsPast at early
  unfold step perform
  cases rejection : occurrence.rejected with
  | none =>
      rw [rejection] at early
      cases early
  | some position =>
      rw [rejection, Option.all_some, decide_eq_false_iff_not, Nat.not_lt] at early
      exact through.runWithFault early _ _ _

theorem sameRows_of_quiet {before after : World} (quiet : Quiet before after) :
    SameRows product before after :=
  quiet.rows product

/-- A call to Stripe leaves the tables alone. -/
theorem sameRows_modifyStripe
    (id : StripeSubscriptionId)
    (change : StripeSubscription → StripeSubscription) :
    (StripeService.modify id change).Respects (SameRows product) :=
  Footprint.modify (fun _ _ => by cases product <;> rfl) id change

/-- A checkout that is rejected before it replaces a row leaves it. -/
theorem createCheckoutSession_through (userId : UserId) (planSlug : String) :
    ((BillingRequest.createCheckoutSession userId planSlug).handle app).RespectsThrough
      (SameRows product) 5 := by
  refine RespectsThrough.bind ?_ fun _ => Respects.pure ()
  refine RespectsThrough.query_bind fun user => ?_
  split
  · refine RespectsThrough.query_bind fun plan => ?_
    split
    · refine RespectsThrough.query_bind fun existing => ?_
      refine RespectsThrough.query_bind fun now => ?_
      split
      · exact RespectsThrough.throw _ _
      · cases existing with
        | none => exact .of_respects ((quiet_openCheckout _ _).mono fun _ _ => sameRows_of_quiet) _
        | some row =>
            unfold SubscriptionsService.replaceLapsed
            dsimp only
            rw [Process.bind_assoc]
            refine RespectsThrough.attempt_bind (sameRows_modifyStripe _ _) fun _ => ?_
            exact RespectsThrough.attempt_zero
    · exact RespectsThrough.throw _ _
  · exact RespectsThrough.throw _ _

/-- The deletion of an account without a live subscription leaves the rows. -/
theorem sameRows_eraseWithoutRow (app : Deployment) (userId : UserId) :
    (do
      AuthService.endSubscription none
      AuthService.eraseAccount userId none
      TokenRevocationService.revokeUser app userId
      AuditService.record (some userId) .authAccountDeletionRequested :
      Service Unit).Respects (SameRows product) := by
  refine Respects.bind (Respects.pure ()) fun _ => ?_
  refine Respects.bind (Respects.attempt fun input world value after erased => ?_) fun _ => ?_
  · unfold AuthService.rowsAfterDeletion at erased
    dsimp only at erased
    split at erased
    · cases erased
      cases product <;> rfl
    · cases erased
  · refine Respects.bind ((quiet_revokeUser _ _).mono fun _ _ => sameRows_of_quiet) fun _ => ?_
    exact (quiet_record _ _).mono fun _ _ => sameRows_of_quiet

/-- A deletion that is rejected before it erases the account leaves the rows. -/
theorem deleteAccount_through (userId : UserId) (password : String) :
    ((BillingRequest.deleteAccount userId password).handle app).RespectsThrough
      (SameRows product) 3 := by
  refine RespectsThrough.query_bind fun user => ?_
  split
  · split
    · refine RespectsThrough.query_bind fun activeSubscription => ?_
      cases activeSubscription with
      | none => exact .of_respects (sameRows_eraseWithoutRow app userId) _
      | some row =>
          refine RespectsThrough.attempt_bind (sameRows_modifyStripe _ _) fun _ => ?_
          exact RespectsThrough.attempt_zero
    · exact RespectsThrough.throw _ _
  · exact RespectsThrough.throw _ _

/-- A change that Stripe refuses ends the request. -/
theorem ensures_modifyStripe_of_not_cancellable
    {input : Input}
    {rejections : ApiError → Prop}
    {id : StripeSubscriptionId}
    (refused : cancellable world.stripe id = false)
    (change : StripeSubscription → StripeSubscription) :
    (StripeService.modify id change).Ensures input rejections world fun result after =>
      after = world ∧ ∃ error, result = .error error := by
  unfold StripeService.modify
  rw [Ensures.attempt_iff]
  refine ⟨?_, fun error _ => ⟨rfl, error, rfl⟩⟩
  unfold cancellable at refused
  cases found : findStripe id world.stripe with
  | none => exact ⟨rfl, _, rfl⟩
  | some stripeSub =>
      rw [found, Option.any_some, Bool.not_eq_false'] at refused
      dsimp only
      rw [if_pos refused]
      exact ⟨rfl, _, rfl⟩

/-- A checkout of an unknown account or plan, or whose lapsed subscription Stripe does
not end, writes nothing. -/
theorem ensures_refusedCheckout
    {input : Input}
    {rejections : ApiError → Prop}
    (userId : UserId)
    (planSlug : String)
    {row : SubscriptionRow}
    (found : findLive userId world.subscriptions = some row)
    (lapsed : hasActiveAccess app input.now row.status row.pastDueSince = false)
    (refused : ¬((world.users.find? fun user => user.id = userId).isSome ∧
      (world.plans.find? fun plan => plan.slug = planSlug).any (·.isActive) ∧
      cancellable world.stripe row.stripeSubscriptionId)) :
    (SubscriptionsService.createCheckoutSession app userId planSlug).Ensures input rejections
      world fun _ after => SameRows .directory world after := by
  have unchanged : SameRows .directory world world := rfl
  unfold SubscriptionsService.createCheckoutSession UsersService.findById
    SubscriptionTable.findFirstLive Service.dateNow
  rw [Ensures.bind_iff, Ensures.query_iff]
  refine ⟨?_, fun _ _ => unchanged⟩
  dsimp only
  split
  · rename_i user known
    rw [Ensures.bind_iff, Ensures.query_iff]
    refine ⟨?_, fun _ _ => unchanged⟩
    dsimp only
    split
    · rename_i plan active
      rw [Ensures.bind_iff, Ensures.query_iff]
      refine ⟨?_, fun _ _ => unchanged⟩
      dsimp only
      rw [Ensures.bind_iff, Ensures.query_iff]
      refine ⟨?_, fun _ _ => unchanged⟩
      have live : findLive userId (world.rows .directory) = some row := found
      dsimp only
      rw [live, Option.any_some, lapsed, if_neg Bool.false_ne_true]
      have uncancellable : cancellable world.stripe row.stripeSubscriptionId = false := by
        refine Bool.eq_false_iff.mpr fun cancels => refused ⟨?_, ?_, cancels⟩
        · rw [known]
          rfl
        · obtain ⟨sold, isActive⟩ := Option.filter_eq_some_iff.mp active
          rw [sold, Option.any_some]
          exact isActive
      unfold SubscriptionsService.replaceLapsed
      rw [Process.bind_assoc]
      refine Ensures.bind (ensures_modifyStripe_of_not_cancellable uncancellable _) ?_ ?_
      · rintro _ after ⟨-, error, stopped⟩
        cases stopped
      · rintro error after ⟨rfl, -⟩
        exact unchanged
    · exact unchanged
  · exact unchanged

/-- The row that a new checkout replaces is ended, or the table stays. -/
theorem createCheckoutSession_ended
    (userId : UserId)
    (planSlug : String)
    (asked : occurrence.request = .createCheckoutSession userId planSlug)
    {row : SubscriptionRow}
    (found : findLive userId world.subscriptions = some row)
    (lapsed : hasActiveAccess app occurrence.input.now row.status row.pastDueSince = false) :
    occurrence.ended app world .directory = some row.stripeSubscriptionId ∨
      SameRows .directory (occurrence.arrive world) (step app world occurrence) := by
  have unchanged : SameRows .directory (occurrence.arrive world) (occurrence.arrive world) := rfl
  by_cases reached : occurrence.getsPast 5 = true
  · by_cases allowed : (world.users.find? fun user => user.id = userId).isSome ∧
        (world.plans.find? fun plan => plan.slug = planSlug).any (·.isActive) ∧
        cancellable occurrence.stripe row.stripeSubscriptionId
    · left
      obtain ⟨known, active, cancels⟩ := allowed
      unfold ended
      rw [asked]
      dsimp only
      rw [if_pos ⟨known, active, reached⟩, found, Option.filter_some, lapsed, cancels]
      rfl
    · right
      have keeps : (occurrence.request.handle app).Ensures occurrence.input
          (· = ApiError.database) (occurrence.arrive world) fun _ after =>
            SameRows .directory (occurrence.arrive world) after := by
        rw [asked]
        exact Ensures.bind (ensures_refusedCheckout userId planSlug found lapsed allowed)
          (fun _ _ same => same) fun _ _ same => same
      exact ensured keeps
  · right
    refine sameRows_of_rejected ?_ (Bool.eq_false_iff.mpr reached)
    rw [asked]
    exact createCheckoutSession_through userId planSlug

/-- A deletion without the right password, or whose subscription Stripe does not end,
writes nothing. -/
theorem ensures_refusedDeletion
    {input : Input}
    {rejections : ApiError → Prop}
    (userId : UserId)
    (password : String)
    {row : SubscriptionRow}
    (found : findLive userId world.subscriptions = some row)
    (refused : ¬(((world.users.find? fun user => user.id = userId).any fun user =>
        app.argon2Verify user.passwordHash password) ∧
      cancellable world.stripe row.stripeSubscriptionId)) :
    (AuthService.deleteAccount app userId password).Ensures input rejections
      world fun _ after => SameRows .directory world after := by
  have unchanged : SameRows .directory world world := rfl
  unfold AuthService.deleteAccount UsersService.findById
  rw [Ensures.bind_iff, Ensures.query_iff]
  refine ⟨?_, fun _ _ => unchanged⟩
  dsimp only
  split
  · rename_i user known
    split
    · rename_i verified
      unfold AuthService.eraseSubscriber SubscriptionTable.findFirstLive
      rw [Ensures.bind_iff, Ensures.query_iff]
      refine ⟨?_, fun _ _ => unchanged⟩
      have live : findLive userId (world.rows .directory) = some row := found
      dsimp only
      rw [live]
      have uncancellable : cancellable world.stripe row.stripeSubscriptionId = false := by
        refine Bool.eq_false_iff.mpr fun cancels => refused ⟨?_, cancels⟩
        rw [known]
        exact verified
      refine Ensures.bind (ensures_modifyStripe_of_not_cancellable uncancellable _) ?_ ?_
      · rintro _ after ⟨-, error, stopped⟩
        cases stopped
      · rintro error after ⟨rfl, -⟩
        exact unchanged
    · exact unchanged
  · exact unchanged

/-- The row of a deleted account is ended, or the table stays. -/
theorem deleteAccount_ended
    (userId : UserId)
    (password : String)
    (asked : occurrence.request = .deleteAccount userId password)
    {row : SubscriptionRow}
    (found : findLive userId world.subscriptions = some row) :
    occurrence.ended app world .directory = some row.stripeSubscriptionId ∨
      SameRows .directory (occurrence.arrive world) (step app world occurrence) := by
  by_cases reached : occurrence.getsPast 3 = true
  · by_cases allowed : ((world.users.find? fun user => user.id = userId).any fun user =>
          app.argon2Verify user.passwordHash password) ∧
        cancellable occurrence.stripe row.stripeSubscriptionId
    · left
      obtain ⟨verified, cancels⟩ := allowed
      unfold ended
      rw [asked]
      dsimp only
      rw [if_pos ⟨verified, reached⟩, found, Option.filter_some, cancels]
      rfl
    · right
      have keeps : (occurrence.request.handle app).Ensures occurrence.input
          (· = ApiError.database) (occurrence.arrive world) fun _ after =>
            SameRows .directory (occurrence.arrive world) after := by
        rw [asked]
        exact ensures_refusedDeletion userId password found allowed
      exact ensured keeps
  · right
    refine sameRows_of_rejected ?_ (Bool.eq_false_iff.mpr reached)
    rw [asked]
    exact deleteAccount_through userId password

/-- The row of a deleted subscription is ended, or the table stays. -/
theorem subscriptionDeleted_ended
    (stripeSub : StripeSubscription)
    (asked : occurrence.request = .webhook (.subscriptionDeleted stripeSub)) :
    occurrence.ended app world product = some stripeSub.id ∨
      SameRows product (occurrence.arrive world) (step app world occurrence) := by
  cases product with
  | directory =>
      by_cases reached : occurrence.getsPast 0 = true
      · left
        unfold ended
        rw [asked]
        exact if_pos reached
      · right
        refine sameRows_of_rejected ?_ (Bool.eq_false_iff.mpr reached)
        rw [asked]
        exact fun _ => trivial
  | leadFinder =>
      by_cases reached : occurrence.getsPast 1 = true
      · left
        unfold ended
        rw [asked]
        exact if_pos reached
      · right
        refine sameRows_of_rejected ?_ (Bool.eq_false_iff.mpr reached)
        rw [asked]
        exact ⟨fun _ _ => rfl, fun _ _ _ => trivial, fun _ => trivial⟩

end
end Occurrence

/-- Whether a write ends a row. -/
def RowWrite.ends : RowWrite → Bool
  | .terminate _ => true
  | .replace _ => true
  | _ => false

/-- Where a request takes a write that ends a row, it ends that row or leaves the
table alone. -/
theorem Occurrence.ended_of_ends
    {app : Deployment}
    {world : World}
    {occurrence : Occurrence}
    {product : Product}
    {write : RowWrite}
    (takes : occurrence.Takes app world product write)
    (ends : write.ends = true) :
    occurrence.ended app world product = some write.target ∨
      SameRows product (occurrence.arrive world) (step app world occurrence) := by
  obtain ⟨found, same, written, -⟩ := takes
  cases asked : occurrence.request with
  | webhook event =>
      rw [asked] at written
      rcases StripeEvent.write_cases written with
        ⟨report, -, -, synced⟩ | ⟨stripeSub, rfl, rfl⟩ | ⟨invoice, id, -, -, -, rfl⟩
      · rcases syncWrite_cases synced with ⟨rfl, -⟩ | ⟨userId, productId, rfl, -⟩
        · cases ends
        · cases ends
      · exact subscriptionDeleted_ended stripeSub asked
      · cases ends
  | createCheckoutSession userId planSlug =>
      rw [asked] at written
      simp only [BillingRequest.write] at written
      split at written
      · rename_i row live
        split at written
        · cases written
        · rename_i lapsed
          cases written
          have live : findLive userId world.subscriptions = some row := by
            rw [same] at live
            exact live
          exact createCheckoutSession_ended userId planSlug asked live
            (Bool.eq_false_iff.mpr lapsed)
      · cases written
  | deleteAccount userId password =>
      rw [asked] at written
      simp only [BillingRequest.write] at written
      split at written
      · rename_i row live
        cases written
        have live : findLive userId world.subscriptions = some row := by
          rw [same] at live
          exact live
        exact deleteAccount_ended userId password asked live
      · cases written
  | cancel userId =>
      rw [asked] at written
      simp only [BillingRequest.write] at written
      split at written <;> cases written
      cases ends
  | resume userId =>
      rw [asked] at written
      simp only [BillingRequest.write] at written
      split at written <;> cases written
      cases ends
  | cancelLeadFinder userId =>
      rw [asked] at written
      simp only [BillingRequest.write] at written
      split at written <;> cases written
      cases ends
  | createLeadFinderCheckoutSession userId tierSlug =>
      rw [asked] at written
      cases written
  | directoryAccess user =>
      rw [asked] at written
      cases written
  | setDirectoryAccess adminUserId targetUserId granted =>
      rw [asked] at written
      cases written

/-! ## Clocks -/

/-- The clock of a row is set exactly while the row is past due. -/
def SubscriptionRow.Paired (row : SubscriptionRow) : Prop :=
  row.pastDueSince.isSome = true ↔ row.status = .pastDue

instance (row : SubscriptionRow) : Decidable row.Paired :=
  inferInstanceAs (Decidable (_ ↔ _))

/-- The clock of every row of either product is set exactly while it is past due. -/
def World.Paired (world : World) : Prop :=
  ∀ product, ∀ row ∈ world.rows product, row.Paired

/-- A status that is not past due goes with no clock. -/
theorem SubscriptionRow.Paired.clock_eq_none
    {row : SubscriptionRow}
    (paired : row.Paired)
    (current : row.status ≠ .pastDue) :
    row.pastDueSince = none := by
  cases clock : row.pastDueSince with
  | none => rfl
  | some since =>
      have set : row.pastDueSince.isSome = true := by
        rw [clock]
        rfl
      exact absurd (paired.mp set) current

section

variable {now : Time}

/-- What is reported for a row pairs its status with its clock. -/
theorem paired_mapStripeSubToUpdate
    (stripeSub : StripeSubscription)
    (currentPastDueSince : Option Time)
    (row : SubscriptionRow) :
    (SubscriptionsService.mapStripeSubToUpdate stripeSub currentPastDueSince now row).Paired := by
  unfold SubscriptionRow.Paired SubscriptionsService.mapStripeSubToUpdate
  dsimp only
  by_cases pastDue : mapStripeStatus stripeSub.status = .pastDue
  · rw [if_pos pastDue]
    exact iff_of_true rfl pastDue
  · rw [if_neg pastDue]
    exact iff_of_false nofun pastDue

theorem paired_newRow
    (stripeSub : StripeSubscription)
    (userId : UserId)
    (productId : PlanId)
    (id : Nat) :
    (SubscriptionsService.newRow stripeSub userId productId now id).Paired := by
  unfold SubscriptionRow.Paired SubscriptionsService.newRow
  dsimp only
  by_cases pastDue : mapStripeStatus stripeSub.status = .pastDue
  · rw [if_pos pastDue]
    exact iff_of_true rfl pastDue
  · rw [if_neg pastDue]
    exact iff_of_false nofun pastDue

namespace RowWrite

/-- A write keeps status and clock together, unless it ends a past-due row. -/
theorem paired_rewrite
    {write : RowWrite}
    {row : SubscriptionRow}
    (paired : row.Paired)
    (lasts : write.ends = true → row.status ≠ .pastDue) :
    (write.rewrite now row).Paired := by
  cases write with
  | sync stripeSub => exact paired_mapStripeSubToUpdate _ _ _
  | insert stripeSub userId productId => exact paired
  | terminate id =>
      refine iff_of_false ?_ nofun
      rw [show ((terminate id).rewrite now row).pastDueSince = row.pastDueSince from rfl,
        paired.clock_eq_none (lasts rfl)]
      exact nofun
  | replace id =>
      refine iff_of_false ?_ nofun
      rw [show ((replace id).rewrite now row).pastDueSince = row.pastDueSince from rfl,
        paired.clock_eq_none (lasts rfl)]
      exact nofun
  | fail id => exact iff_of_true rfl rfl
  | schedule id cancelAtPeriodEnd => exact paired

/-- A row after a write is a new one, or a row there was, rewritten if it is that of
the subscription. -/
theorem mem_apply
    {write : RowWrite}
    {id : Nat}
    {rows : List SubscriptionRow}
    {row : SubscriptionRow}
    (present : row ∈ write.apply now id rows) :
    (∃ stripeSub userId productId, write = .insert stripeSub userId productId ∧
        row = SubscriptionsService.newRow stripeSub userId productId now id) ∨
      ∃ before ∈ rows,
        row = before ∨
          write.inserts = false ∧ before.stripeSubscriptionId = write.target ∧
            row = write.rewrite now before := by
  cases inserts : write.inserts with
  | true =>
      cases write with
      | insert stripeSub userId productId =>
          rcases List.mem_cons.mp present with rfl | stored
          · exact .inl ⟨stripeSub, userId, productId, rfl, rfl⟩
          · exact .inr ⟨row, stored, .inl rfl⟩
      | _ => cases inserts
  | false =>
      rw [apply_of_existing inserts] at present
      obtain ⟨before, stored, rfl⟩ := Table.mem_updateWhere.mp present
      refine .inr ⟨before, stored, ?_⟩
      by_cases chosen : before.stripeSubscriptionId = write.target
      · rw [if_pos (decide_eq_true chosen)]
        exact .inr ⟨rfl, chosen, rfl⟩
      · rw [decide_eq_false chosen]
        exact .inl rfl

end RowWrite
end

/-- A request ends no row that is past due. -/
def Occurrence.EndsNoStreak
    (app : Deployment)
    (world : World)
    (occurrence : Occurrence) : Prop :=
  ∀ product id, occurrence.ended app world product = some id →
    ∀ row ∈ world.rows product, row.stripeSubscriptionId = id → row.status ≠ .pastDue

/-- A request that ends no past-due row keeps the clocks. -/
theorem World.Paired.step
    {world : World}
    (paired : world.Paired)
    (app : Deployment)
    (consistent : world.Consistent)
    {occurrence : Occurrence}
    (endsNone : occurrence.EndsNoStreak app world) :
    (Occurrence.step app world occurrence).Paired := by
  intro product row present
  have kept : SameRows product (occurrence.arrive world)
      (Occurrence.step app world occurrence) → row.Paired := by
    intro same
    rw [same, occurrence.arrive_rows] at present
    exact paired product row present
  rcases occurrence.rows_step app consistent product with same | ⟨write, id, takes, -, rows⟩
  · exact kept (same.trans (occurrence.arrive_rows world product).symm)
  · by_cases spared : ∀ before ∈ world.rows product,
        before.stripeSubscriptionId = write.target → write.ends = true →
          before.status ≠ .pastDue
    · rw [rows] at present
      rcases RowWrite.mem_apply present with
        ⟨stripeSub, userId, productId, -, rfl⟩ | ⟨before, stored, rfl | ⟨-, chosen, rfl⟩⟩
      · exact paired_newRow stripeSub userId productId id
      · exact paired product row stored
      · exact RowWrite.paired_rewrite (paired product before stored)
          (spared before stored chosen)
    · push Not at spared
      obtain ⟨before, stored, chosen, ends, pastDue⟩ := spared
      rcases Occurrence.ended_of_ends takes ends with ended | same
      · exact absurd pastDue (endsNone product _ ended before stored chosen)
      · exact kept same

/-- A row that becomes past due starts its clock. -/
theorem Occurrence.clock_of_streak_start
    {app : Deployment}
    {world : World}
    {occurrence : Occurrence}
    (consistent : world.Consistent)
    (paired : world.Paired)
    {product : Product}
    {row : SubscriptionRow}
    (present : row ∈ (step app world occurrence).rows product)
    (pastDue : row.status = .pastDue)
    (current : ∀ before ∈ world.rows product, before.id = row.id →
      before.status ≠ .pastDue) :
    row.pastDueSince = some occurrence.input.now := by
  rcases occurrence.rows_step app consistent product with same | ⟨write, id, -, -, rows⟩
  · rw [same] at present
    exact absurd pastDue (current row present rfl)
  · rw [rows] at present
    rcases RowWrite.mem_apply present with
      ⟨stripeSub, userId, productId, -, rfl⟩ | ⟨before, stored, rfl | ⟨-, -, rfl⟩⟩
    · exact if_pos pastDue
    · exact absurd pastDue (current row stored rfl)
    · have stopped := (paired product before stored).clock_eq_none
        (current before stored (RowWrite.rewrite_id _ _ _).symm)
      cases write with
      | sync stripeSub =>
          have mapped : mapStripeStatus stripeSub.status = .pastDue := pastDue
          show (if mapStripeStatus stripeSub.status = .pastDue then
            some (before.pastDueSince.getD occurrence.input.now) else none) = _
          rw [if_pos mapped, stopped]
          rfl
      | fail id =>
          show some (before.pastDueSince.getD _) = _
          rw [stopped]
          rfl
      | insert stripeSub userId productId =>
          exact absurd pastDue (current before stored rfl)
      | terminate id => cases pastDue
      | replace id => cases pastDue
      | schedule id cancelAtPeriodEnd =>
          exact absurd pastDue (current before stored rfl)

/-- In every run whose requests end no past-due row, the clock of every row is set
exactly while the row is past due, and every streak starts its clock itself. -/
theorem clocks_paired
    (app : Deployment)
    {start : World}
    (empty : ∀ product, start.rows product = [])
    (occurrences : List Occurrence)
    (endsNone : Along (Occurrence.step app)
      (fun world occurrence => occurrence.EndsNoStreak app world) start occurrences) :
    (occurrences.foldl (Occurrence.step app) start).Paired ∧
      ∀ next : Occurrence, ∀ product,
        ∀ row ∈ (Occurrence.step app
            (occurrences.foldl (Occurrence.step app) start) next).rows product,
          row.status = .pastDue →
          (∀ before ∈ (occurrences.foldl (Occurrence.step app) start).rows product,
            before.id = row.id → before.status ≠ .pastDue) →
          row.pastDueSince = some next.input.now := by
  have initial : start.Paired := fun product => World.forall_rows_of_no_rows empty product
  have consistent := run_consistent app (World.consistent_of_no_rows empty) occurrences
  have paired : (occurrences.foldl (Occurrence.step app) start).Paired := by
    have both := Along.preserves
      (fun world occurrence (holds : world.Consistent ∧ world.Paired) endsNone =>
        ⟨Occurrence.step_consistent app holds.1, holds.2.step app holds.1 endsNone⟩)
      ⟨World.consistent_of_no_rows empty, initial⟩ endsNone
    exact both.2
  refine ⟨paired, ?_⟩
  intro next product row present pastDue current
  exact Occurrence.clock_of_streak_start consistent paired present pastDue current

/-- A failed renewal of a subscription. -/
def sampleFailure (now : Time) : Occurrence :=
  sampleDelivery now (.invoicePaymentFailed { id := 20, subscription := some 7 })
    [sampleSubscription 7 .pastDue]

/-- A subscription that starts, fails to renew and recovers. -/
def sampleRecovered : List Occurrence :=
  [sampleDelivery 1000 (.subscriptionCreated (sampleSubscription 7 .active))
      [sampleSubscription 7 .active],
    sampleFailure 2000,
    sampleDelivery 3000 (.subscriptionUpdated (sampleSubscription 7 .active))
      [sampleSubscription 7 .active]]

/-- The next failure after the recovery starts a clock of its own. -/
theorem clocks_paired_recovered :
    (sampleRecovered.foldl (Occurrence.step sampleDeployment) sampleBackend).Paired ∧
      ∀ row ∈ (Occurrence.step sampleDeployment
          (sampleRecovered.foldl (Occurrence.step sampleDeployment) sampleBackend)
          (sampleFailure 4000)).rows .directory,
        row.pastDueSince = some 4000 := by
  have endsNone : Along (Occurrence.step sampleDeployment)
      (fun world occurrence => occurrence.EndsNoStreak sampleDeployment world) sampleBackend
      sampleRecovered := by
    refine ⟨?_, ?_, ?_, trivial⟩ <;> rintro ⟨⟩ id ⟨⟩
  obtain ⟨paired, starts⟩ := clocks_paired sampleDeployment
    (fun product => by cases product <;> rfl) sampleRecovered endsNone
  refine ⟨paired, fun row present => starts (sampleFailure 4000) .directory row present ?_ ?_⟩
  · revert row
    decide
  · revert row
    decide

/-- A subscription that is deleted while it is past due. -/
def sampleEndedPastDue : List Occurrence :=
  [sampleDelivery 1000 (.subscriptionCreated (sampleSubscription 7 .active))
      [sampleSubscription 7 .active],
    sampleFailure 2000,
    sampleDelivery 3000 (.subscriptionDeleted (sampleSubscription 7 .canceled))
      [sampleSubscription 7 .canceled]]

/-- The cancelled row keeps its clock, and a streak that an update opens later starts
at the failure of the one before. -/
theorem canceled_row_keeps_clock :
    ¬(sampleEndedPastDue.foldl (Occurrence.step sampleDeployment) sampleBackend).Paired ∧
      ((sampleEndedPastDue.foldl (Occurrence.step sampleDeployment) sampleBackend).rows
        .directory).map (fun row => (row.status, row.pastDueSince)) =
        [(.canceled, some 2000)] ∧
      ((Occurrence.step sampleDeployment
          (sampleEndedPastDue.foldl (Occurrence.step sampleDeployment) sampleBackend)
          (sampleDelivery 9000 (.subscriptionUpdated (sampleSubscription 7 .pastDue))
            [sampleSubscription 7 .pastDue])).rows .directory).map
          (fun row => (row.status, row.pastDueSince)) =
        [(.pastDue, some 2000)] := by
  refine ⟨fun paired => absurd (paired .directory) ?_, ?_, ?_⟩ <;> decide

/-! ## Bounded grace -/

/-- Every past-due row has a clock, and no clock was set after a moment. -/
def World.ClockedBy (moment : Time) (world : World) : Prop :=
  ∀ product, ∀ row ∈ world.rows product,
    (row.status = .pastDue → row.pastDueSince.isSome = true) ∧
      ∀ since, row.pastDueSince = some since → since ≤ moment

/-- A write leaves the clock of a row, clears it, or has it run from where it was
started or from now; only the last makes a row past due. -/
theorem RowWrite.clock_rewrite
    (now : Time)
    (write : RowWrite)
    (row : SubscriptionRow) :
    (write.rewrite now row).pastDueSince = row.pastDueSince ∧
        ((write.rewrite now row).status = .pastDue → row.status = .pastDue) ∨
      (write.rewrite now row).pastDueSince = none ∧
        (write.rewrite now row).status ≠ .pastDue ∨
      (write.rewrite now row).pastDueSince = some (row.pastDueSince.getD now) := by
  cases write with
  | sync stripeSub =>
      by_cases pastDue : mapStripeStatus stripeSub.status = .pastDue
      · exact .inr (.inr (if_pos pastDue))
      · exact .inr (.inl ⟨if_neg pastDue, pastDue⟩)
  | fail id => exact .inr (.inr rfl)
  | insert stripeSub userId productId => exact .inl ⟨rfl, id⟩
  | terminate id => exact .inl ⟨rfl, nofun⟩
  | replace id => exact .inl ⟨rfl, nofun⟩
  | schedule stripeSubscriptionId cancelAtPeriodEnd => exact .inl ⟨rfl, id⟩

theorem World.ClockedBy.step
    {moment : Time}
    {world : World}
    (clocked : world.ClockedBy moment)
    (app : Deployment)
    (consistent : world.Consistent)
    {occurrence : Occurrence}
    (early : occurrence.input.now ≤ moment) :
    (Occurrence.step app world occurrence).ClockedBy moment := by
  intro product row present
  rcases occurrence.rows_step app consistent product with same | ⟨write, id, -, -, rows⟩
  · rw [same] at present
    exact clocked product row present
  · rw [rows] at present
    rcases RowWrite.mem_apply present with
      ⟨stripeSub, userId, productId, -, rfl⟩ | ⟨before, stored, rfl | ⟨-, -, rfl⟩⟩
    · refine ⟨(paired_newRow stripeSub userId productId id).mpr, ?_⟩
      intro since set
      unfold SubscriptionsService.newRow at set
      dsimp only at set
      split at set <;> cases set
      exact early
    · exact clocked product row stored
    · obtain ⟨runs, old⟩ := clocked product before stored
      rcases write.clock_rewrite occurrence.input.now before with
        ⟨clock, sameStreak⟩ | ⟨clock, current⟩ | clock
      · rw [clock]
        exact ⟨fun pastDue => runs (sameStreak pastDue), old⟩
      · rw [clock]
        exact ⟨fun pastDue => absurd pastDue current, nofun⟩
      · rw [clock]
        refine ⟨fun _ => rfl, ?_⟩
        rintro since ⟨⟩
        cases earlier : before.pastDueSince with
        | none => exact early
        | some since => exact old since earlier

/-- The row with an id is past due. -/
def World.HasPastDue (world : World) (product : Product) (id : Nat) : Prop :=
  ∃ row ∈ world.rows product, row.id = id ∧ row.status = .pastDue

instance (world : World) (product : Product) (id : Nat) :
    Decidable (world.HasPastDue product id) :=
  inferInstanceAs (Decidable (∃ row ∈ world.rows product, row.id = id ∧ row.status = .pastDue))

/-- The row with an id is past due since a moment at the latest. -/
def World.PastDueBy (moment : Time) (world : World) (product : Product) (id : Nat) : Prop :=
  ∀ row ∈ world.rows product, row.id = id →
    row.status = .pastDue ∧ ∃ since ≤ moment, row.pastDueSince = some since

/-- While the row stays past due, its clock stays. -/
theorem World.PastDueBy.step
    {moment : Time}
    {world : World}
    {product : Product}
    {id : Nat}
    (pastDue : world.PastDueBy moment product id)
    (app : Deployment)
    (consistent : world.Consistent)
    {occurrence : Occurrence}
    (before : world.HasPastDue product id)
    (after : (Occurrence.step app world occurrence).HasPastDue product id) :
    (Occurrence.step app world occurrence).PastDueBy moment product id := by
  obtain ⟨there, thereStored, thereId, -⟩ := before
  obtain ⟨still, stillStored, stillId, stillDue⟩ := after
  intro row present rowId
  have isStill : row = still :=
    (Occurrence.step_consistent app consistent product).eq_of_id_eq present stillStored
      (rowId.trans stillId.symm)
  refine ⟨isStill ▸ stillDue, ?_⟩
  rcases occurrence.rows_step app consistent product with same | ⟨write, fresh, -, isFresh, rows⟩
  · rw [same] at present
    exact (pastDue row present rowId).2
  · rw [rows] at present
    rcases RowWrite.mem_apply present with
      ⟨stripeSub, userId, productId, -, inserted⟩ | ⟨old, stored, rfl | ⟨-, -, rewritten⟩⟩
    · have sameId : fresh = id := by
        rw [← rowId, inserted]
        rfl
      have known := (consistent product).fresh there thereStored
      omega
    · exact (pastDue row stored rowId).2
    · rw [rewritten, RowWrite.rewrite_id] at rowId
      obtain ⟨-, since, early, clock⟩ := pastDue old stored rowId
      refine ⟨since, early, ?_⟩
      rw [isStill] at rewritten
      rcases write.clock_rewrite occurrence.input.now old with
        ⟨kept, -⟩ | ⟨-, current⟩ | kept
      · rw [isStill, rewritten, kept, clock]
      · exact absurd (rewritten ▸ stillDue) current
      · rw [isStill, rewritten, kept, clock]
        rfl

/-- Once the grace period has passed since a row is past due, the row grants no access. -/
theorem hasActiveAccess_of_pastDueBy
    {app : Deployment}
    {moment time : Time}
    {row : SubscriptionRow}
    (status : row.status = .pastDue)
    (clock : ∃ since ≤ moment, row.pastDueSince = some since)
    (late : moment + app.paymentGracePeriodDays * millisecondsPerDay ≤ time) :
    hasActiveAccess app time row.status row.pastDueSince = false := by
  obtain ⟨since, early, set⟩ := clock
  rw [status, set]
  exact decide_eq_false (Nat.not_lt.mpr
    (Nat.le_trans (Nat.add_le_add_right early _) late))

/-- No clock of a run is set after the last of its requests. -/
theorem clockedBy_run
    (app : Deployment)
    {moment : Time}
    {world : World}
    (consistent : world.Consistent)
    (clocked : world.ClockedBy moment)
    (occurrences : List Occurrence)
    (early : ∀ occurrence ∈ occurrences, occurrence.input.now ≤ moment) :
    (occurrences.foldl (Occurrence.step app) world).ClockedBy moment := by
  induction occurrences generalizing world with
  | nil => exact clocked
  | cons occurrence later inductionHypothesis =>
      refine inductionHypothesis (Occurrence.step_consistent app consistent)
        (clocked.step app consistent (early occurrence List.mem_cons_self)) ?_
      exact fun other present => early other (List.mem_cons_of_mem _ present)

/-- The clock of a row stays over a run that keeps the row past due. -/
theorem pastDueBy_run
    (app : Deployment)
    {moment : Time}
    {world : World}
    {product : Product}
    {id : Nat}
    (consistent : world.Consistent)
    (pastDueBy : world.PastDueBy moment product id)
    (occurrences : List Occurrence)
    (pastDue : ∀ reached, reached <+: occurrences →
      (reached.foldl (Occurrence.step app) world).HasPastDue product id) :
    (occurrences.foldl (Occurrence.step app) world).PastDueBy moment product id := by
  induction occurrences generalizing world with
  | nil => exact pastDueBy
  | cons occurrence later inductionHypothesis =>
      have first := pastDue [] List.nil_prefix
      have second := pastDue [occurrence] (List.prefix_append [occurrence] later)
      refine inductionHypothesis (Occurrence.step_consistent app consistent)
        (pastDueBy.step app consistent first second) fun reached isPrefix => ?_
      exact pastDue (occurrence :: reached) (List.cons_prefix_cons.mpr ⟨rfl, isPrefix⟩)

/-- However requests and deliveries are ordered and repeated, a row that has been past
due without interruption since a moment grants no access from the end of the grace
period on. -/
theorem grace_period_bounded
    (app : Deployment)
    {start : World}
    (empty : ∀ product, start.rows product = [])
    (earlier : List Occurrence)
    (moment : Time)
    (early : ∀ occurrence ∈ earlier, occurrence.input.now ≤ moment)
    (later : List Occurrence)
    (product : Product)
    (id : Nat)
    (pastDue : ∀ reached, reached <+: later →
      (reached.foldl (Occurrence.step app)
        (earlier.foldl (Occurrence.step app) start)).HasPastDue product id)
    (time : Time)
    (late : moment + app.paymentGracePeriodDays * millisecondsPerDay ≤ time) :
    ∀ row ∈ (later.foldl (Occurrence.step app)
        (earlier.foldl (Occurrence.step app) start)).rows product,
      row.id = id → hasActiveAccess app time row.status row.pastDueSince = false := by
  have initial : start.ClockedBy moment := fun product => World.forall_rows_of_no_rows empty product
  have consistent := run_consistent app (World.consistent_of_no_rows empty) earlier
  have clocked := clockedBy_run app (World.consistent_of_no_rows empty) initial earlier early
  have opened : (earlier.foldl (Occurrence.step app) start).PastDueBy moment product id := by
    obtain ⟨due, stored, dueId, status⟩ := pastDue [] List.nil_prefix
    intro row present rowId
    have same : row = due :=
      (consistent product).eq_of_id_eq present stored (rowId.trans dueId.symm)
    obtain ⟨runs, old⟩ := clocked product row present
    have rowStatus : row.status = .pastDue := same ▸ status
    obtain ⟨since, clock⟩ := Option.isSome_iff_exists.mp (runs rowStatus)
    exact ⟨rowStatus, since, old since clock, clock⟩
  intro row present rowId
  obtain ⟨status, clock⟩ := pastDueBy_run app consistent opened later pastDue row present rowId
  exact hasActiveAccess_of_pastDueBy status clock late

/-- Two more failures do not extend the grace period of the first one. -/
theorem grace_period_bounded_repeated :
    ([sampleFailure 500000000, sampleFailure 600000000].foldl
          (Occurrence.step sampleDeployment)
          ([sampleDelivery 1000 (.subscriptionCreated (sampleSubscription 7 .active))
              [sampleSubscription 7 .active],
            sampleFailure 2000].foldl (Occurrence.step sampleDeployment) sampleBackend)).rows
        .directory ≠ [] ∧
      ∀ row ∈ ([sampleFailure 500000000, sampleFailure 600000000].foldl
          (Occurrence.step sampleDeployment)
          ([sampleDelivery 1000 (.subscriptionCreated (sampleSubscription 7 .active))
              [sampleSubscription 7 .active],
            sampleFailure 2000].foldl (Occurrence.step sampleDeployment) sampleBackend)).rows
          .directory,
        row.id = 0 →
          hasActiveAccess sampleDeployment 604802000 row.status row.pastDueSince = false := by
  refine ⟨by decide, grace_period_bounded sampleDeployment
    (fun product => by cases product <;> rfl) _ 2000 (by decide) _ .directory 0 ?_ 604802000
    (by decide)⟩
  intro reached isPrefix
  rcases List.prefix_cons_iff.mp isPrefix with rfl | ⟨afterOne, rfl, more⟩
  · decide
  rcases List.prefix_cons_iff.mp more with rfl | ⟨afterTwo, rfl, most⟩
  · decide
  rw [List.prefix_nil.mp most]
  decide

end ConferenceContact
