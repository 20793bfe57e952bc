import ConferenceContact.Billing.Duplicates
import ConferenceContact.Billing.Invoices

/-!
# Which product an event is for

Both services see every event.  Where a subscription is for one product for ever,
and Stripe says so in every event that reports it, the rows of the two tables are of
different subscriptions, and an event changes the rows of at most one product.
-/

namespace ConferenceContact

open Process

/-! ## Subscriptions of one product -/

/-- The subscription an event is about. -/
def StripeEvent.subscriptionId : StripeEvent → Option StripeSubscriptionId
  | checkoutSessionCompleted session => session.subscription
  | subscriptionCreated stripeSub => some stripeSub.id
  | subscriptionUpdated stripeSub => some stripeSub.id
  | subscriptionResumed stripeSub => some stripeSub.id
  | subscriptionDeleted stripeSub => some stripeSub.id
  | invoicePaid invoice => invoice.subscription
  | invoicePaymentFailed invoice => invoice.subscription
  | other => none

section

variable (kind : StripeSubscriptionId → Product)

/-- An event is about a subscription for a product. -/
def StripeEvent.IsOf (product : Product) (event : StripeEvent) : Prop :=
  ∃ id, event.subscriptionId = some id ∧ kind id = product

/-- Stripe's subscriptions carry the kind they were created with. -/
def StripeKinds (stripe : List StripeSubscription) : Prop :=
  ∀ stripeSub ∈ stripe, stripeSub.metadata.product = kind stripeSub.id

/-- So does the subscription an event reports, and the Checkout Session that created
one. -/
def StripeEvent.Carries : StripeEvent → Prop
  | checkoutSessionCompleted session =>
      ∀ id, session.subscription = some id → session.metadata.product = kind id
  | subscriptionCreated stripeSub => stripeSub.metadata.product = kind stripeSub.id
  | subscriptionUpdated stripeSub => stripeSub.metadata.product = kind stripeSub.id
  | subscriptionResumed stripeSub => stripeSub.metadata.product = kind stripeSub.id
  | _ => True

/-- What a request of a run finds in Stripe and carries is of its kind. -/
structure Occurrence.Carries (occurrence : Occurrence) : Prop where
  stripe : StripeKinds kind occurrence.stripe
  event : ∀ event, occurrence.request = .webhook event → event.Carries kind

/-- Every row is of a subscription for the product of its table. -/
def RowsOfKind (world : World) : Prop :=
  ∀ product, ∀ row ∈ world.rows product, kind row.stripeSubscriptionId = product

end

section

variable {kind : StripeSubscriptionId → Product}

/-- The kind of a reported subscription, and of the object that reports it. -/
theorem StripeEvent.Carries.of_reported
    {event : StripeEvent}
    (carries : event.Carries kind)
    {stripe : List StripeSubscription}
    (inStripe : StripeKinds kind stripe)
    {report : StripeMetadata × StripeSubscription}
    (reported : event.reported stripe = some report) :
    event.subscriptionId = some report.2.id ∧
      report.2.metadata.product = kind report.2.id ∧
      report.1.product = kind report.2.id := by
  cases event with
  | checkoutSessionCompleted session =>
      simp only [StripeEvent.reported] at reported
      split at reported
      · rename_i id _ refers
        obtain ⟨stripeSub, found, rfl⟩ := Option.map_eq_some_iff.mp reported
        have sameId : stripeSub.id = id := findStripe_id found
        refine ⟨?_, inStripe stripeSub (List.mem_of_find?_eq_some found), ?_⟩
        · rw [sameId]
          exact refers
        · rw [sameId]
          exact carries id refers
      · cases reported
  | subscriptionCreated stripeSub =>
      cases reported
      exact ⟨rfl, carries, carries⟩
  | subscriptionUpdated stripeSub =>
      cases reported
      exact ⟨rfl, carries, carries⟩
  | subscriptionResumed stripeSub =>
      cases reported
      exact ⟨rfl, carries, carries⟩
  | _ => cases reported

section

variable {product : Product} {now : Time} {lossy : Prop} {event : StripeEvent}
  {before after : World}

/-- A service that writes for a reported subscription writes in the table of its
product. -/
theorem kind_of_synced
    (carries : event.Carries kind)
    {stripe : List StripeSubscription}
    (inStripe : StripeKinds kind stripe)
    {report : StripeMetadata × StripeSubscription}
    (reported : event.reported stripe = some report)
    (owns : product.owns report.1 = true)
    {rows : List SubscriptionRow}
    {write : RowWrite}
    (written : syncWrite product rows report.2 = some write) :
    kind report.2.id = product := by
  obtain ⟨-, subscription, reporter⟩ := carries.of_reported inStripe reported
  rw [← subscription]
  exact product_of_syncWrite (reporter.trans subscription.symm) owns written

/-- A handled event adds a row only to the table of its subscription's product. -/
theorem rowsOfKind_of_handled
    (handled : Handled product now lossy event before after)
    (carries : event.Carries kind)
    (inStripe : StripeKinds kind before.stripe)
    (apart : RowsOfKind kind before) :
    RowsOfKind kind after := by
  intro other
  by_cases same : other = product
  · subst same
    refine handled.recorded.forall_rows (fun id _ => kind id = other) (apart other) ?_
    intro stripeSub userId productId written
    rcases StripeEvent.write_cases written with
      ⟨report, reported, owns, synced⟩ | ⟨_, -, impossible⟩ | ⟨_, _, -, -, -, impossible⟩
    · rcases syncWrite_cases synced with ⟨impossible, -⟩ | ⟨user, plan, inserts, -, -⟩
      · cases impossible
      · cases inserts
        exact kind_of_synced carries inStripe reported owns synced
    · cases impossible
    · cases impossible
  · intro row present
    rw [handled.others other same] at present
    exact apart other row present

theorem stripeKinds_of_handled
    (handled : Handled product now lossy event before after)
    (inStripe : StripeKinds kind before.stripe) :
    StripeKinds kind after.stripe := by
  rcases handled.stripe with same | ⟨report, taken, -, -, -, canceled⟩
  · rw [same]
    exact inStripe
  · rw [canceled]
    intro stripeSub present
    obtain ⟨active, stored, rfl⟩ := Table.mem_updateWhere.mp present
    have known := inStripe active stored
    split
    · exact known
    · exact known

/-- A service leaves its table alone where the event is about no subscription for its
product. -/
theorem Handled.untouched
    (handled : Handled product now lossy event before after)
    (carries : event.Carries kind)
    (inStripe : StripeKinds kind before.stripe)
    (apart : RowsOfKind kind before)
    (foreign : ¬event.IsOf kind product) :
    after.rows product = before.rows product := by
  have absent : ∀ id, event.subscriptionId = some id →
      ∀ row ∈ before.rows product, row.stripeSubscriptionId ≠ id := by
    intro id about row present same
    exact foreign ⟨id, about, by rw [← same, apart product row present]⟩
  have unwritten : ∀ write : RowWrite, write.inserts = false →
      event.subscriptionId = some write.target → ∀ id,
      write.apply now id (before.rows product) = before.rows product := by
    intro write existing about id
    rw [RowWrite.apply_of_existing existing]
    refine Table.updateWhere_eq_self fun row present chosen => ?_
    exact absurd (of_decide_eq_true chosen) (absent _ about row present)
  rcases handled.recorded.row with ⟨taken, id, written, -, -, -, rows⟩ | ⟨rows, -⟩
  · rcases StripeEvent.write_cases written with
      ⟨report, reported, owns, synced⟩ | ⟨stripeSub, rfl, rfl⟩ |
        ⟨invoice, stripeSubscriptionId, rfl, refers, -, rfl⟩
    · have about := (carries.of_reported inStripe reported).1
      exact absurd ⟨_, about, kind_of_synced carries inStripe reported owns synced⟩ foreign
    · exact rows.trans (unwritten _ rfl rfl id)
    · exact rows.trans (unwritten (.fail stripeSubscriptionId) rfl refers id)
  · exact rows

end

/-! ## Runs -/

section

variable {world : World} {occurrence : Occurrence}

theorem rowsOfKind_arrive
    (apart : RowsOfKind kind world) :
    RowsOfKind kind (occurrence.arrive world) := by
  intro product
  rw [occurrence.arrive_rows world product]
  exact apart product

theorem RowsOfKind.step
    (app : Deployment)
    (consistent : world.Consistent)
    (apart : RowsOfKind kind world)
    (carries : occurrence.Carries kind) :
    RowsOfKind kind (Occurrence.step app world occurrence) := by
  have arrived : RowsOfKind kind (occurrence.arrive world) := rowsOfKind_arrive apart
  by_cases delivery : ∃ event, occurrence.request = .webhook event
  · obtain ⟨event, delivery⟩ := delivery
    have eventCarries := carries.event event delivery
    obtain ⟨middle, first, -, -, second⟩ := Occurrence.processed app consistent delivery
    have middleApart := rowsOfKind_of_handled first eventCarries carries.stripe arrived
    rcases second with ⟨-, stopped⟩ | second
    · rw [stopped]
      exact middleApart
    · exact rowsOfKind_of_handled second eventCarries
        (stripeKinds_of_handled first carries.stripe) middleApart
  · have records := Occurrence.records app consistent fun event same => delivery ⟨event, same⟩
    intro product
    refine (records product).forall_rows (fun id _ => kind id = product) (arrived product) ?_
    intro stripeSub userId productId written
    rcases BillingRequest.write_cases written with
      ⟨event, same, -⟩ | ⟨row, -, -, impossible | ⟨flag, impossible⟩⟩
    · exact absurd ⟨event, same⟩ delivery
    · cases impossible
    · cases impossible

/-- The rows of a run are in the table of their subscription's product. -/
theorem run_rowsOfKind
    (app : Deployment)
    (consistent : world.Consistent)
    (apart : RowsOfKind kind world)
    (occurrences : List Occurrence)
    (carried : ∀ occurrence ∈ occurrences, occurrence.Carries kind) :
    RowsOfKind kind (occurrences.foldl (Occurrence.step app) world) := by
  induction occurrences generalizing world with
  | nil => exact apart
  | cons occurrence later inductionHypothesis =>
      exact inductionHypothesis (Occurrence.step_consistent app consistent)
        (apart.step app consistent (carried occurrence List.mem_cons_self))
        fun other present => carried other (List.mem_cons_of_mem _ present)

/-- A delivery leaves the table of a product alone that its event is not about. -/
theorem Occurrence.rows_untouched
    (app : Deployment)
    (consistent : world.Consistent)
    (apart : RowsOfKind kind world)
    (carries : occurrence.Carries kind)
    {event : StripeEvent}
    (delivers : occurrence.request = .webhook event)
    (product : Product)
    (foreign : ¬event.IsOf kind product) :
    (step app world occurrence).rows product = world.rows product := by
  have arrived : RowsOfKind kind (occurrence.arrive world) := rowsOfKind_arrive apart
  have eventCarries := carries.event event delivers
  rw [← occurrence.arrive_rows world product]
  obtain ⟨middle, first, -, -, second⟩ := Occurrence.processed app consistent delivers
  have middleApart := rowsOfKind_of_handled first eventCarries carries.stripe arrived
  cases product with
  | directory =>
      have untouched := first.untouched eventCarries carries.stripe arrived foreign
      rcases second with ⟨-, stopped⟩ | second
      · rw [stopped]
        exact untouched
      · exact (second.others .directory nofun).trans untouched
  | leadFinder =>
      have untouched := first.others .leadFinder nofun
      rcases second with ⟨-, stopped⟩ | second
      · rw [stopped]
        exact untouched
      · exact (second.untouched eventCarries (stripeKinds_of_handled first carries.stripe)
          middleApart foreign).trans untouched

/-- An event of a Lead Finder tier writes no invoice. -/
theorem Occurrence.invoices_untouched
    (app : Deployment)
    (apart : RowsOfKind kind world)
    {event : StripeEvent}
    (delivers : occurrence.request = .webhook event)
    (isLeadFinder : event.IsOf kind .leadFinder) :
    (step app world occurrence).invoices = world.invoices := by
  obtain ⟨id, about, ofLeadFinder⟩ := isLeadFinder
  have missing : findByStripeId id world.subscriptions = none := by
    refine findByStripeId_eq_none.mpr fun row present same => ?_
    have ofDirectory := apart .directory row present
    rw [same, ofLeadFinder] at ofDirectory
    cases ofDirectory
  have unbilled : ∀ invoice status, event.bills = some (invoice, status) →
      invoice.billed world = none := by
    intro invoice status bills
    have refers : invoice.subscription = some id := by
      cases event with
      | invoicePaid paid =>
          cases bills
          exact about
      | invoicePaymentFailed failed =>
          cases bills
          exact about
      | _ => cases bills
    unfold StripeInvoice.billed
    rw [refers, Option.bind_some, missing]
  have written : occurrence.bills world = none := by
    unfold bills
    rw [delivers]
    dsimp only
    split
    · refine Option.bind_eq_none_iff.mpr ?_
      rintro ⟨invoice, status⟩ bills
      dsimp only
      rw [unbilled invoice status bills, Option.map_none]
    · rfl
  rw [occurrence.invoices_step app world, written]
  rfl

/-- Accounts and their balances are as they were. -/
def SameUsers (before after : World) : Prop :=
  after.users = before.users

instance : IsPreorder World SameUsers where
  refl _ := rfl
  trans _ _ _ first second := second.trans first

/-- Only a payment or an invoice of a tier changes an account. -/
theorem Change.sameUsers
    {event : StripeEvent}
    (uncredited : event.creditReference = none)
    {before after : World}
    (change : Change (event.allowance fun _ => true) before after) :
    SameUsers before after := by
  cases change with
  | @rows product _ _ _ => cases product <;> rfl
  | invoice bills now subscriptionId =>
      unfold SameUsers World.billed SubscriptionsService.upsertInvoice
      rw [Process.run_command]
      dsimp only
      split <;> rfl
  | credit creditable userId nonneg =>
      have granted : event.creditReference.isSome = true := creditable
      rw [uncredited] at granted
      cases granted
  | account own users sessions subscriptions redis => cases own
  | _ => rfl

end
end

/-- Where a subscription is for one product for ever, no subscription has a row in both
tables; an event of a Lead Finder tier leaves the Directory's rows and its invoices
alone, every other event leaves the Lead Finder's rows alone, and balances change only
with a one-off payment or a paid invoice of a tier. -/
theorem events_touch_one_product
    (app : Deployment)
    {kind : StripeSubscriptionId → Product}
    {start : World}
    (empty : ∀ product, start.rows product = [])
    (occurrences : List Occurrence)
    (carried : ∀ occurrence ∈ occurrences, occurrence.Carries kind) :
    let world := occurrences.foldl (Occurrence.step app) start
    (∀ left ∈ world.subscriptions, ∀ right ∈ world.leadFinderSubscriptions,
        left.stripeSubscriptionId ≠ right.stripeSubscriptionId) ∧
      ∀ next : Occurrence, next.Carries kind →
        ∀ event, next.request = .webhook event →
          let after := Occurrence.step app world next
          (event.IsOf kind .leadFinder →
            after.subscriptions = world.subscriptions ∧ after.invoices = world.invoices) ∧
          (¬event.IsOf kind .leadFinder →
            after.leadFinderSubscriptions = world.leadFinderSubscriptions) ∧
          (event.creditReference = none → after.users = world.users) := by
  intro world
  have consistent : world.Consistent :=
    run_consistent app (World.consistent_of_no_rows empty) occurrences
  have initial : RowsOfKind kind start := fun product => World.forall_rows_of_no_rows empty product
  have apart : RowsOfKind kind world :=
    run_rowsOfKind app (World.consistent_of_no_rows empty) initial occurrences carried
  refine ⟨?_, ?_⟩
  · intro left leftStored right rightStored same
    have ofDirectory := apart .directory left leftStored
    rw [same, apart .leadFinder right rightStored] at ofDirectory
    cases ofDirectory
  · intro next carries event delivers after
    refine ⟨fun isLeadFinder => ⟨?_, ?_⟩, fun foreign => ?_, fun uncredited => ?_⟩
    · refine Occurrence.rows_untouched app consistent apart carries delivers .directory ?_
      rintro ⟨id, about, ofDirectory⟩
      obtain ⟨same, sameAbout, ofLeadFinder⟩ := isLeadFinder
      rw [about] at sameAbout
      cases sameAbout
      rw [ofDirectory] at ofLeadFinder
      cases ofLeadFinder
    · exact Occurrence.invoices_untouched app apart delivers isLeadFinder
    · exact Occurrence.rows_untouched app consistent apart carries delivers .leadFinder foreign
    · have moves : ∀ before after, Change next.request.allowance before after →
          SameUsers before after := by
        rw [delivers]
        exact fun _ _ change => change.sameUsers uncredited
      exact Occurrence.changed moves world

/-- The subscription of a sample tier that an event carries. -/
def sampleTier (status : StripeStatus) : StripeSubscription :=
  { sampleSubscription 8 status with
    metadata := { isLeadFinderTier := true, userId := some 0, tierId := some 2 } }

/-- The subscription 8 is for a tier, every other for the Directory. -/
def sampleKind (id : StripeSubscriptionId) : Product :=
  if id = 8 then .leadFinder else .directory

/-- A subscription of either product. -/
def sampleBothProducts : List Occurrence :=
  [sampleDelivery 1000 (.subscriptionCreated (sampleSubscription 7 .active)) [],
    sampleDelivery 2000 (.subscriptionCreated (sampleTier .active)) []]

/-- The end of the tier's subscription leaves the Directory's row. -/
theorem events_touch_one_product_deletion :
    (sampleBothProducts.foldl (Occurrence.step sampleDeployment)
        sampleBackend).subscriptions ≠ [] ∧
      (Occurrence.step sampleDeployment
          (sampleBothProducts.foldl (Occurrence.step sampleDeployment) sampleBackend)
          (sampleDelivery 3000 (.subscriptionDeleted (sampleTier .canceled)) [])).subscriptions =
        (sampleBothProducts.foldl (Occurrence.step sampleDeployment)
          sampleBackend).subscriptions := by
  refine ⟨by decide, ?_⟩
  have carried : ∀ occurrence ∈ sampleBothProducts, occurrence.Carries sampleKind := by
    intro occurrence present
    simp only [sampleBothProducts, List.mem_cons, List.not_mem_nil, or_false] at present
    rcases present with rfl | rfl
    · exact ⟨List.forall_mem_nil _, fun event delivers => by cases delivers; rfl⟩
    · exact ⟨List.forall_mem_nil _, fun event delivers => by cases delivers; rfl⟩
  have empty : ∀ product, sampleBackend.rows product = [] := by
    intro product
    cases product <;> rfl
  obtain ⟨-, touches⟩ :=
    events_touch_one_product sampleDeployment empty sampleBothProducts carried
  have deleted := touches
    (sampleDelivery 3000 (.subscriptionDeleted (sampleTier .canceled)) [])
    ⟨List.forall_mem_nil _, fun event delivers => by cases delivers; trivial⟩ _ rfl
  exact (deleted.1 ⟨8, rfl, rfl⟩).1

end ConferenceContact
