import ConferenceContact.Billing.Ownership
import ConferenceContact.Billing.WriteCalls
import ConferenceContact.Foundation.Landing

/-!
# Mails of failed payments

A failed payment is mailed where it finds the clock of the row not started, but the clock
is started by whichever event makes the row past due.  So a past-due streak is mailed at
most once, and it is mailed only if it is a failed payment that opens it.
-/

namespace ConferenceContact

open Process

/-! ## Streaks and their mails -/

/-- A mail that reports a failed payment. -/
def EmailJob.reportsFailure : EmailJob → Bool
  | paymentFailed _ _ _ => true
  | _ => false

/-- The row of a subscription is past due. -/
def World.pastDue (world : World) (id : StripeSubscriptionId) : Bool :=
  (findByStripeId id world.subscriptions).any fun row => row.status = .pastDue

/-- The row of a subscription has no clock. -/
def World.unclocked (world : World) (id : StripeSubscriptionId) : Bool :=
  (findByStripeId id world.subscriptions).any fun row => row.pastDueSince = none

namespace Occurrence

/-- A delivery of an event about a subscription. -/
def concerns (id : StripeSubscriptionId) (occurrence : Occurrence) : Bool :=
  match occurrence.request with
  | .webhook event => event.subscriptionId = some id
  | _ => false

/-- A failed payment of a subscription that has a row without a clock. -/
def firstFailure (id : StripeSubscriptionId) (world : World) (occurrence : Occurrence) : Bool :=
  match occurrence.request with
  | .webhook (.invoicePaymentFailed invoice) =>
      invoice.subscription = some id && world.unclocked id
  | _ => false

/-- How many failed payments a request mails, if it delivers an event about a
subscription. -/
def failureMails
    (app : Deployment)
    (id : StripeSubscriptionId)
    (world : World)
    (occurrence : Occurrence) : Nat :=
  if occurrence.concerns id then
    ((step app world occurrence).mails EmailJob.reportsFailure).length -
      (world.mails EmailJob.reportsFailure).length
  else 0

/-- The mail of a failed payment is neither refused by the queue nor rejected. -/
def Enqueues (occurrence : Occurrence) : Prop :=
  ∀ invoice, occurrence.request = .webhook (.invoicePaymentFailed invoice) →
    occurrence.input.queueAvailable = true ∧ occurrence.rejected ≠ some 4

end Occurrence

/-- How many failed payments the deliveries of a run about a subscription mail. -/
def failuresMailed
    (app : Deployment)
    (id : StripeSubscriptionId) : World → List Occurrence → Nat
  | _, [] => 0
  | world, occurrence :: later =>
      occurrence.failureMails app id world +
        failuresMailed app id (Occurrence.step app world occurrence) later

/-- The row of a subscription is not past due before a request, and is past due from then
on through a run. -/
structure Streak
    (app : Deployment)
    (id : StripeSubscriptionId)
    (before : World)
    (opening : Occurrence)
    (rest : List Occurrence) : Prop where
  opens : before.pastDue id = false
  lasts : ∀ reached, reached <+: rest →
    (reached.foldl (Occurrence.step app) (Occurrence.step app before opening)).pastDue id = true

/-- The parts of a streak can be gone through by their number of requests. -/
theorem Streak.of_take
    {app : Deployment}
    {id : StripeSubscriptionId}
    {before : World}
    {opening : Occurrence}
    {rest : List Occurrence}
    (opens : before.pastDue id = false)
    (lasts : ∀ count ≤ rest.length,
      ((rest.take count).foldl (Occurrence.step app)
        (Occurrence.step app before opening)).pastDue id = true) :
    Streak app id before opening rest := by
  refine ⟨opens, fun reached isPrefix => ?_⟩
  rw [List.prefix_iff_eq_take.mp isPrefix]
  exact lasts reached.length isPrefix.length_le

/-! ## What rows refer to -/

/-- The user and the plan of every row of the Directory exist. -/
def World.Referenced (world : World) : Prop :=
  ∀ row ∈ world.subscriptions,
    SubscriptionTable.referencesExist .directory world row.userId row.productId = true

section

variable {app : Deployment} {world : World} {occurrence : Occurrence}

/-- No request takes an account, a plan or a tier away. -/
theorem sameReferences_step (app : Deployment) (world : World) (occurrence : Occurrence) :
    SameReferences world (Occurrence.step app world occurrence) := by
  have same : SameReferences (occurrence.arrive world)
      (Occurrence.step app world occurrence) := by
    refine Occurrence.respected (BillingRequest.respects
      (fun _ _ book => book.sameReferences) app occurrence.request
      (fun _ _ _ _ world grant _ => sameReferences_granted world grant) ?_) world
    intro adminUserId targetUserId granted _ world
    refine .of_catalog ?_ rfl rfl
    exact Table.map_updateWhere _ _ _ _ fun _ => rfl
  exact same

theorem World.Referenced.step
    (app : Deployment)
    (consistent : world.Consistent)
    (referenced : world.Referenced) :
    (Occurrence.step app world occurrence).Referenced := by
  intro row present
  rw [sameReferences_step app world occurrence .directory row.userId row.productId]
  rcases (occurrence.recorded app consistent).row with
    ⟨write, id, -, accepted, -, -, rows⟩ | ⟨rows, -⟩
  · have rows : (Occurrence.step app world occurrence).subscriptions =
        write.apply occurrence.input.now id world.subscriptions := rows
    rw [rows] at present
    rcases RowWrite.mem_apply present with
      ⟨stripeSub, userId, productId, rfl, rfl⟩ | ⟨before, stored, rfl | ⟨-, -, rfl⟩⟩
    · unfold RowWrite.accepted at accepted
      rw [Bool.and_eq_true] at accepted
      exact accepted.2
    · exact referenced row stored
    · rw [RowWrite.rewrite_userId, RowWrite.rewrite_productId]
      exact referenced before stored
  · have rows : (Occurrence.step app world occurrence).subscriptions = world.subscriptions := rows
    rw [rows] at present
    exact referenced row present

/-- The rows of a run refer to users and plans that exist. -/
theorem run_referenced
    (app : Deployment)
    (consistent : world.Consistent)
    (referenced : world.Referenced)
    (occurrences : List Occurrence) :
    (occurrences.foldl (Occurrence.step app) world).Referenced := by
  induction occurrences generalizing world with
  | nil => exact referenced
  | cons occurrence later inductionHypothesis =>
      exact inductionHypothesis (Occurrence.step_consistent app consistent)
        (referenced.step app consistent)

end

/-! ## Events that mail no failure -/

section

variable {app : Deployment} {world : World} {occurrence : Occurrence}
  {kind : StripeSubscriptionId → Product} {id : StripeSubscriptionId}

/-- No other event about a subscription of the Directory mails a failed payment. -/
theorem StripeEvent.silent
    {event : StripeEvent}
    (carries : event.Carries kind)
    (about : event.subscriptionId = some id)
    (directory : kind id = .directory)
    (other : ∀ invoice, event ≠ .invoicePaymentFailed invoice)
    (job : EmailJob)
    (mails : event.mails job = true) :
    job.reportsFailure = false := by
  have own : ∀ {stripeMeta : StripeMetadata}, stripeMeta.product = kind id →
      stripeMeta.isLeadFinderTier = false :=
    fun same => StripeMetadata.not_isLeadFinderTier (same.trans directory)
  cases job with
  | paymentFailed recipient productLabel gracePeriodDays =>
      have tier : ∀ {stripeMeta : StripeMetadata}, stripeMeta.product = kind id →
          stripeMeta.isLeadFinderTier = true → False := by
        intro stripeMeta same isLeadFinder
        rw [own same] at isLeadFinder
        cases isLeadFinder
      cases event with
      | checkoutSessionCompleted session => exact (tier (carries id about) mails).elim
      | subscriptionCreated stripeSub =>
          cases about
          exact (tier carries mails).elim
      | subscriptionUpdated stripeSub =>
          cases about
          exact (tier carries mails).elim
      | subscriptionResumed stripeSub =>
          cases about
          exact (tier carries mails).elim
      | invoicePaymentFailed invoice => exact absurd rfl (other invoice)
      | _ => cases mails
  | _ => rfl

namespace Occurrence

theorem failureMails_of_sameMails
    (same : SameMails EmailJob.reportsFailure world (step app world occurrence)) :
    occurrence.failureMails app id world = 0 := by
  unfold failureMails
  rw [same, Nat.sub_self, ite_self]

/-- A delivery that is not of a failed payment mails none. -/
theorem failureMails_of_other
    (carries : occurrence.Carries kind)
    (directory : kind id = .directory)
    (other : ∀ invoice, occurrence.request ≠ .webhook (.invoicePaymentFailed invoice)) :
    occurrence.failureMails app id world = 0 := by
  cases asked : occurrence.request with
  | webhook event =>
      by_cases about : event.subscriptionId = some id
      · have moved : SameMails EmailJob.reportsFailure (occurrence.arrive world)
            (step app world occurrence) := by
          refine changed (fun _ _ change => change.sameMails ?_) world
          rw [asked]
          refine StripeEvent.silent (carries.event event asked) about directory
            fun invoice same => other invoice ?_
          rw [asked, same]
        exact failureMails_of_sameMails moved
      · unfold failureMails concerns
        rw [asked]
        exact if_neg (by simpa using about)
  | _ =>
      unfold failureMails concerns
      rw [asked]
      rfl

/-- A failed payment of a row whose clock runs is not mailed. -/
theorem sameMails_of_clocked
    {invoice : StripeInvoice}
    (delivers : occurrence.request = .webhook (.invoicePaymentFailed invoice))
    (refers : invoice.subscription = some id)
    (clocked : world.unclocked id = false) :
    SameMails EmailJob.reportsFailure world (step app world occurrence) := by
  have invoiced : (SubscriptionsService.syncInvoiceFromStripe invoice .open).Respects
      (SameMails EmailJob.reportsFailure) := by
    let allowed : Allowance := { bills := some (invoice, .open) }
    have changes : (SubscriptionsService.syncInvoiceFromStripe invoice .open).Respects
        (Change allowed) := changes_syncInvoiceFromStripe rfl
    exact changes.mono fun _ _ change => change.sameMails fun _ mails =>
      absurd mails Bool.false_ne_true
  have handles : (SubscriptionsService.handleWebhookEvent app
      (.invoicePaymentFailed invoice)).Ensures occurrence.input (· = ApiError.database)
      (occurrence.arrive world) fun _ after =>
        SameMails EmailJob.reportsFailure (occurrence.arrive world) after := by
    refine Ensures.bind ((Ensures.of_respects invoiced).and
      (Ensures.of_respects (quiet_syncInvoiceFromStripe invoice .open))) ?_
      fun _ _ both => both.1
    rintro _ middle ⟨same, quiet⟩
    rw [refers]
    dsimp only
    unfold SubscriptionsService.markPastDue
    rw [Ensures.bind_iff, Ensures.query_iff]
    refine ⟨?_, fun _ _ => same⟩
    have rows : middle.subscriptions = world.subscriptions := quiet.rows .directory
    rw [rows]
    unfold World.unclocked at clocked
    cases found : findByStripeId id world.subscriptions with
    | none => exact same
    | some row =>
        rw [found, Option.any_some, decide_eq_false_iff_not] at clocked
        obtain ⟨since, clock⟩ := Option.ne_none_iff_exists'.mp clocked
        dsimp only [Option.map_some, SubscriptionsService.withUserAndPlan]
        rw [clock]
        dsimp only
        have updates : (SubscriptionTable.update .directory row.id
            (SubscriptionsService.pastDueUpdate (some since))).Respects
            (SameMails EmailJob.reportsFailure) := by
          have changes : (SubscriptionTable.update .directory row.id
            (SubscriptionsService.pastDueUpdate (some since))).Respects (Change {}) :=
            changes_update rfl _ _
          exact changes.mono fun _ _ change => change.sameMails fun _ mails =>
      absurd mails Bool.false_ne_true
        refine (Ensures.of_respects (Respects.bind updates fun _ => Respects.pure ())).weaken ?_
        exact fun _ _ later => IsTrans.trans _ _ _ same later
  have ensures : (occurrence.request.handle app).Ensures occurrence.input
      (· = ApiError.database) (occurrence.arrive world) fun _ after =>
        SameMails EmailJob.reportsFailure (occurrence.arrive world) after := by
    rw [delivers]
    exact Ensures.bind handles (fun _ _ same => same) fun _ _ same => same
  exact ensured ensures

end Occurrence

/-! ## The first failure of a streak -/

/-- The invoice of a failed payment is all that is written for it. -/
theorem run_upsertInvoice
    (invoice : StripeInvoice)
    (subscriptionId : Nat)
    (status : InvoiceStatus)
    (input : Input)
    (world : World) :
    ∃ invoices nextId, world.nextId ≤ nextId ∧
      (SubscriptionsService.upsertInvoice invoice subscriptionId status).run input world =
        (.ok (), { world with invoices, nextId }) := by
  unfold SubscriptionsService.upsertInvoice
  rw [run_command]
  dsimp only
  split
  · exact ⟨_, world.nextId, Nat.le_refl _, rfl⟩
  · exact ⟨_, world.nextId + 1, Nat.le_succ _, rfl⟩

/-- The mail of a failed payment is enqueued with the fifth call, unless the row's clock
runs. -/
theorem landsAt_firstFailure
    (app : Deployment)
    (consistent : world.Consistent)
    (input : Input)
    {invoice : StripeInvoice}
    (refers : invoice.subscription = some id)
    {row : SubscriptionRow}
    (found : findByStripeId id world.subscriptions = some row)
    (unclocked : row.pastDueSince = none)
    (allowed : (RowWrite.fail id).refused world.subscriptions = false)
    {owner : User}
    (user : (world.users.find? fun user => user.id = row.userId) = some owner)
    {plan : Plan}
    (ofPlan : (world.plans.find? fun plan => plan.id = row.productId) = some plan) :
    LandsAt (World.mails EmailJob.reportsFailure) input ApiError.database 4
      (StripeWebhookProcessor.process app (.invoicePaymentFailed invoice)) world
      (if input.queueAvailable then
        .paymentFailed owner.email plan.name app.paymentGracePeriodDays ::
          world.mails EmailJob.reportsFailure
      else world.mails EmailJob.reportsFailure) := by
  obtain ⟨present, isTarget⟩ := mem_of_findByStripeId found
  refine LandsAt.bind (R := SameMails EmailJob.reportsFailure) ?_ (fun _ => Respects.pure ())
    fun _ _ same => same
  unfold SubscriptionsService.handleWebhookEvent SubscriptionsService.syncInvoiceFromStripe
  dsimp only
  rw [refers]
  dsimp only
  rw [Process.bind_assoc]
  refine LandsAt.query_bind ?_
  have rows : world.rows .directory = world.subscriptions := rfl
  rw [rows, found]
  dsimp only
  obtain ⟨invoices, nextId, grows, invoiced⟩ :=
    run_upsertInvoice invoice row.id .open input world
  refine LandsAt.command_bind invoiced rfl ?_
  refine LandsAt.query_bind ?_
  dsimp only
  rw [found]
  dsimp only [Option.map_some, SubscriptionsService.withUserAndPlan]
  rw [user, ofPlan, unclocked]
  dsimp only
  have invoicedConsistent : ({ world with invoices, nextId } : World).Consistent :=
    fun product => by
      have kept := (consistent product).mono grows
      cases product <;> exact kept
  have stored : row ∈ ({ world with invoices, nextId } : World).rows .directory := present
  have existing : (RowWrite.fail id).inserts = false := rfl
  have same : SubscriptionsService.pastDueUpdate none input.now row =
      (RowWrite.fail id).rewrite input.now row := by
    rw [RowWrite.rewrite, unclocked]
  have updated := run_update invoicedConsistent stored existing isTarget.symm same nofun
  rw [show (RowWrite.fail id).refused (({ world with invoices, nextId } : World).rows
    .directory) = false from allowed, if_neg Bool.false_ne_true] at updated
  refine LandsAt.attempt_bind updated rfl ?_
  rw [show (if input.queueAvailable then
        .paymentFailed owner.email plan.name app.paymentGracePeriodDays ::
          world.mails EmailJob.reportsFailure
      else world.mails EmailJob.reportsFailure) =
    World.mails EmailJob.reportsFailure (if input.queueAvailable then
      { ({ world with invoices, nextId } : World).wrote .directory input.now (.fail id) with
        outbox := .paymentFailed owner.email plan.name app.paymentGracePeriodDays ::
          world.outbox }
    else ({ world with invoices, nextId } : World).wrote .directory input.now (.fail id)) by
      split
      · exact (List.filter_cons_of_pos rfl).symm
      · rfl]
  exact LandsAt.caught_command

namespace Occurrence

/-- A delivered failed payment that finds no clock is mailed once, if it gets to its
mail. -/
theorem failureMails_of_first
    (consistent : world.Consistent)
    (referenced : world.Referenced)
    {invoice : StripeInvoice}
    (delivers : occurrence.request = .webhook (.invoicePaymentFailed invoice))
    (refers : invoice.subscription = some id)
    (unclocked : world.unclocked id = true)
    (allowed : (RowWrite.fail id).refused world.subscriptions = false)
    (queue : occurrence.input.queueAvailable = true)
    (reached : occurrence.getsPast 4 = true) :
    occurrence.failureMails app id world = 1 := by
  obtain ⟨row, found, noClock⟩ := (Option.any_eq_true _ _).mp unclocked
  have arrived := occurrence.arrive_consistent consistent
  have exist := referenced row (mem_of_findByStripeId found).1
  unfold SubscriptionTable.referencesExist at exist
  rw [Bool.and_eq_true] at exist
  obtain ⟨owner, user⟩ := Option.isSome_iff_exists.mp (List.find?_isSome.mpr
    (List.any_eq_true.mp exist.1))
  obtain ⟨plan, ofPlan⟩ := Option.isSome_iff_exists.mp (List.find?_isSome.mpr
    (List.any_eq_true.mp exist.2))
  have lands := landsAt_firstFailure app arrived occurrence.input refers found
    (of_decide_eq_true noClock) allowed user ofPlan occurrence.rejected
  have mailed : (step app world occurrence).mails EmailJob.reportsFailure =
      .paymentFailed owner.email plan.name app.paymentGracePeriodDays ::
        world.mails EmailJob.reportsFailure := by
    unfold getsPast at reached
    unfold step perform
    rw [delivers]
    refine lands.trans ?_
    rw [reached, queue]
    rfl
  unfold failureMails concerns
  rw [mailed, delivers]
  have about : (StripeEvent.invoicePaymentFailed invoice).subscriptionId = some id := refers
  dsimp only
  rw [if_pos (decide_eq_true about), List.length_cons, Nat.add_sub_cancel_left]

/-- Only a first failure is mailed. -/
theorem failureMails_of_not_first
    (carries : occurrence.Carries kind)
    (directory : kind id = .directory)
    (later : occurrence.firstFailure id world = false) :
    occurrence.failureMails app id world = 0 := by
  by_cases failure : ∃ invoice, occurrence.request = .webhook (.invoicePaymentFailed invoice)
  · obtain ⟨invoice, delivers⟩ := failure
    by_cases refers : invoice.subscription = some id
    · refine failureMails_of_sameMails (sameMails_of_clocked delivers refers ?_)
      unfold firstFailure at later
      rw [delivers] at later
      dsimp only at later
      rw [decide_eq_true refers, Bool.true_and] at later
      exact later
    · unfold failureMails concerns
      rw [delivers]
      exact if_neg fun about => refers (of_decide_eq_true about)
  · exact failureMails_of_other carries directory fun invoice delivers =>
      failure ⟨invoice, delivers⟩

/-- The request that opens a streak mails a failed payment exactly if it delivers one that
finds no clock. -/
theorem failureMails_opening
    (consistent : world.Consistent)
    (referenced : world.Referenced)
    (carries : occurrence.Carries kind)
    (directory : kind id = .directory)
    (enqueues : occurrence.Enqueues)
    (opens : world.pastDue id = false)
    (opened : (step app world occurrence).pastDue id = true) :
    occurrence.failureMails app id world = if occurrence.firstFailure id world then 1 else 0 := by
  cases first : occurrence.firstFailure id world with
  | true =>
      unfold firstFailure at first
      split at first
      · rename_i invoice delivers
        rw [Bool.and_eq_true, decide_eq_true_eq] at first
        obtain ⟨refers, unclocked⟩ := first
        obtain ⟨queue, kept⟩ := enqueues invoice delivers
        obtain ⟨written, -, rows⟩ := subscriptions_delivered app consistent delivers
        cases writes : occurrence.written world with
        | none =>
            rw [writes] at rows
            unfold World.pastDue at opened opens
            rw [rows, opens] at opened
            cases opened
        | some write =>
            obtain ⟨reached, isWrite, accepted⟩ := written_eq_some delivers writes
            have target : write = .fail id := by
              rcases StripeEvent.write_cases isWrite with
                ⟨report, impossible, -⟩ | ⟨stripeSub, impossible, -⟩ |
                  ⟨other, otherId, same, otherRefers, -, rfl⟩
              · cases impossible
              · cases impossible
              · cases same
                rw [refers] at otherRefers
                cases otherRefers
                rfl
            subst target
            unfold RowWrite.accepted at accepted
            rw [Bool.and_eq_true, Bool.not_eq_true'] at accepted
            refine failureMails_of_first consistent referenced delivers refers unclocked
              accepted.1 queue ?_
            unfold getsPast at reached ⊢
            cases rejected : occurrence.rejected with
            | none => rfl
            | some position =>
                rw [rejected] at reached kept
                have late : 3 < position := of_decide_eq_true reached
                have other : position ≠ 4 := fun same => kept (congrArg some same)
                exact decide_eq_true (by omega)
      · cases first
  | false =>
      exact failureMails_of_not_first carries directory first

end Occurrence

/-! ## Runs -/

/-- While a row stays past due, no delivery about its subscription mails a failed
payment. -/
theorem failuresMailed_of_pastDue
    (app : Deployment)
    {moment : Time}
    (consistent : world.Consistent)
    (clocked : world.ClockedBy moment)
    (directory : kind id = .directory)
    (occurrences : List Occurrence)
    (carried : ∀ occurrence ∈ occurrences, occurrence.Carries kind)
    (early : ∀ occurrence ∈ occurrences, occurrence.input.now ≤ moment)
    (pastDue : ∀ reached, reached <+: occurrences →
      (reached.foldl (Occurrence.step app) world).pastDue id = true) :
    failuresMailed app id world occurrences = 0 := by
  induction occurrences generalizing world with
  | nil => rfl
  | cons occurrence later inductionHypothesis =>
      have runs : world.unclocked id = false := by
        have first : world.pastDue id = true := pastDue [] List.nil_prefix
        obtain ⟨row, found, status⟩ := (Option.any_eq_true _ _).mp first
        have stored : row ∈ world.rows .directory := (mem_of_findByStripeId found).1
        have clock := (clocked .directory row stored).1 (of_decide_eq_true status)
        unfold World.unclocked
        rw [found, Option.any_some, decide_eq_false_iff_not]
        exact Option.isSome_iff_ne_none.mp clock
      have notFirst : occurrence.firstFailure id world = false := by
        unfold Occurrence.firstFailure
        split
        · rw [runs, Bool.and_false]
        · rfl
      unfold failuresMailed
      rw [Occurrence.failureMails_of_not_first (carried occurrence List.mem_cons_self)
        directory notFirst, Nat.zero_add]
      refine inductionHypothesis (Occurrence.step_consistent app consistent)
        (clocked.step app consistent (early occurrence List.mem_cons_self))
        (fun other present => carried other (List.mem_cons_of_mem _ present))
        (fun other present => early other (List.mem_cons_of_mem _ present)) ?_
      intro reached isPrefix
      exact pastDue (occurrence :: reached) (List.cons_prefix_cons.mpr ⟨rfl, isPrefix⟩)

/-- Some moment is not before any request of a run. -/
theorem exists_latest (occurrences : List Occurrence) :
    ∃ moment, ∀ occurrence ∈ occurrences, occurrence.input.now ≤ moment := by
  induction occurrences with
  | nil => exact ⟨0, List.forall_mem_nil _⟩
  | cons occurrence later inductionHypothesis =>
      obtain ⟨moment, early⟩ := inductionHypothesis
      refine ⟨max occurrence.input.now moment, ?_⟩
      intro other present
      rcases List.mem_cons.mp present with rfl | present
      · exact Nat.le_max_left _ _
      · exact Nat.le_trans (early other present) (Nat.le_max_right _ _)

/-- Where no mail of a failed payment is lost, exactly one is enqueued over a past-due
streak of a subscription of the Directory, in whichever order and however often its events
are delivered, if and only if a failed payment that finds no clock opens the streak. -/
theorem failure_mailed_once_iff
    (app : Deployment)
    {start : World}
    (empty : ∀ product, start.rows product = [])
    (earlier : List Occurrence)
    {kind : StripeSubscriptionId → Product}
    {id : StripeSubscriptionId}
    (directory : kind id = .directory)
    {opening : Occurrence}
    {rest : List Occurrence}
    (carried : ∀ occurrence ∈ opening :: rest, occurrence.Carries kind)
    (enqueues : ∀ occurrence ∈ opening :: rest, occurrence.Enqueues)
    (streak : Streak app id (earlier.foldl (Occurrence.step app) start) opening rest) :
    let before := earlier.foldl (Occurrence.step app) start
    failuresMailed app id before (opening :: rest) = 1 ↔
      opening.firstFailure id before = true := by
  intro before
  obtain ⟨moment, early⟩ := exists_latest (earlier ++ opening :: rest)
  have initial := World.consistent_of_no_rows empty
  have consistent : before.Consistent := run_consistent app initial earlier
  have unreferenced : start.Referenced := World.forall_rows_of_no_rows empty .directory
  have unclocked : start.ClockedBy moment :=
    fun product => World.forall_rows_of_no_rows empty product
  have clocked : before.ClockedBy moment := clockedBy_run app initial unclocked earlier
    fun occurrence present => early occurrence (List.mem_append_left _ present)
  have carriedOpening := carried opening List.mem_cons_self
  have first := Occurrence.failureMails_opening consistent
    (run_referenced app initial unreferenced earlier) carriedOpening directory
    (enqueues opening List.mem_cons_self) streak.opens (streak.lasts [] List.nil_prefix)
  have earlyOpening : opening.input.now ≤ moment :=
    early opening (List.mem_append_right _ List.mem_cons_self)
  have others := failuresMailed_of_pastDue app
    (Occurrence.step_consistent app consistent) (clocked.step app consistent earlyOpening)
    directory rest (fun occurrence present => carried occurrence (List.mem_cons_of_mem _ present))
    (fun occurrence present =>
      early occurrence (List.mem_append_right _ (List.mem_cons_of_mem _ present)))
    streak.lasts
  unfold failuresMailed
  rw [first, others]
  cases opening.firstFailure id before with
  | true => exact iff_of_true rfl rfl
  | false => exact iff_of_false Nat.zero_ne_one Bool.false_ne_true

end

/-- The report of Stripe that a subscription is past due. -/
def samplePastDue (now : Time) : Occurrence :=
  sampleDelivery now (.subscriptionUpdated (sampleSubscription 7 .pastDue))
    [sampleSubscription 7 .pastDue]

/-- The failed payment is delivered first, and once more. -/
theorem failure_mailed_once_repeated :
    failuresMailed sampleDeployment 7
      ([sampleCreation 1000].foldl (Occurrence.step sampleDeployment) sampleBackend)
      [sampleFailure 2000, samplePastDue 3000, sampleFailure 4000] = 1 := by
  have empty : ∀ product, sampleBackend.rows product = [] := by
    intro product
    cases product <;> rfl
  have directory : sampleKind 7 = .directory := rfl
  have inStripe : StripeKinds sampleKind [sampleSubscription 7 .pastDue] := by
    intro stripeSub present
    rw [List.mem_singleton.mp present]
    rfl
  refine (failure_mailed_once_iff sampleDeployment empty [sampleCreation 1000] directory ?_ ?_
    (Streak.of_take (by decide) (by decide))).mpr (by decide)
  · intro occurrence present
    simp only [List.mem_cons, List.not_mem_nil, or_false] at present
    rcases present with rfl | rfl | rfl
    · exact ⟨inStripe, fun event delivers => by cases delivers; trivial⟩
    · exact ⟨inStripe, fun event delivers => by cases delivers; rfl⟩
    · exact ⟨inStripe, fun event delivers => by cases delivers; trivial⟩
  · intro occurrence present invoice delivers
    simp only [List.mem_cons, List.not_mem_nil, or_false] at present
    rcases present with rfl | rfl | rfl
    · exact ⟨rfl, nofun⟩
    · cases delivers
    · exact ⟨rfl, nofun⟩

/-- Stripe's report that the subscription is past due is delivered first: the streak that
it opens is not mailed at all. -/
theorem failure_unmailed_after_report :
    Streak sampleDeployment 7
        ([sampleCreation 1000].foldl (Occurrence.step sampleDeployment) sampleBackend)
        (samplePastDue 2000) [sampleFailure 3000] ∧
      (∀ occurrence ∈ [samplePastDue 2000, sampleFailure 3000],
        occurrence.input.queueAvailable = true ∧ occurrence.rejected = none) ∧
      failuresMailed sampleDeployment 7
        ([sampleCreation 1000].foldl (Occurrence.step sampleDeployment) sampleBackend)
        [samplePastDue 2000, sampleFailure 3000] = 0 := by
  refine ⟨Streak.of_take (by decide) (by decide), ?_, by decide⟩
  intro occurrence present
  simp only [List.mem_cons, List.not_mem_nil, or_false] at present
  rcases present with rfl | rfl <;> exact ⟨rfl, rfl⟩

end ConferenceContact
