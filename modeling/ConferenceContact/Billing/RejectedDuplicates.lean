import ConferenceContact.Billing.CurrentRow
import ConferenceContact.Billing.DeliveryOrder
import ConferenceContact.Foundation.Landing

/-!
# Traces of a duplicate subscription

A subscription that is redundant beside a live one of its user may be refused its row, and
is then canceled in Stripe.  Later events about it know nothing of that: once it is no
longer live its row is not refused any more and becomes the newest of the user, and a
completed checkout mails its confirmation whether or not its row has been refused.
-/

namespace ConferenceContact

open Process

/-! ## Confirmations -/

/-- A mail that confirms a subscription. -/
def EmailJob.confirms : EmailJob → Bool
  | subscriptionConfirmed _ _ _ _ => true
  | _ => false

/-- The confirmations that have been enqueued. -/
def World.confirmations (world : World) : List EmailJob :=
  world.mails EmailJob.confirms

/-- The confirmation of a subscription of the Directory, if its user and its plan exist. -/
def World.confirmation (world : World) (stripeSub : StripeSubscription) : Option EmailJob :=
  match stripeSub.metadata.userId, stripeSub.metadata.planId with
  | some userId, some planId =>
      match world.users.find? fun user => user.id = userId,
        world.plans.find? fun plan => plan.id = planId with
      | some user, some plan =>
          some (.subscriptionConfirmed user.email plan.name plan.amountCents
            (stripeSub.currentPeriodEnd * 1000))
      | _, _ => none
  | _, _ => none

/-- The position of the call of a completed checkout that mails the confirmation, unless a
call before it fails: the row has been written, or it has been refused and the
subscription ended in Stripe. -/
def World.confirmCall (world : World) (stripeSub : StripeSubscription) : Option Nat :=
  (syncWrite .directory world.subscriptions stripeSub).bind fun write =>
    if write.accepted .directory world then some 6
    else if write.refused world.subscriptions && !stripeSub.status.terminal then some 7
    else none

namespace Occurrence

/-- A completed checkout gets to the mail of its confirmation. -/
def confirms (world : World) (occurrence : Occurrence) : Bool :=
  match occurrence.request with
  | .webhook (.checkoutSessionCompleted session) =>
      ((StripeEvent.checkoutSessionCompleted session).reported occurrence.stripe).any
        fun report =>
          (world.confirmation report.2).isSome && occurrence.input.queueAvailable &&
            (world.confirmCall report.2).any occurrence.getsPast
  | _ => false

/-- A delivery adds a row, or mails a confirmation. -/
def leavesTrace (world : World) (occurrence : Occurrence) : Bool :=
  (occurrence.written world).any (·.inserts) || occurrence.confirms world

end Occurrence

section

variable {input : Input} {world : World} {stripeSub : StripeSubscription}

/-- The world with the confirmation of a subscription enqueued. -/
def World.confirmed (world : World) (input : Input) (stripeSub : StripeSubscription) :
    List EmailJob :=
  if input.queueAvailable then (world.confirmation stripeSub).toList ++ world.confirmations
  else world.confirmations

/-- The mail of a confirmation is enqueued with the third call. -/
theorem landsAt_sendSubscriptionConfirmedEmail
    (kind : stripeSub.metadata.isLeadFinderTier = false)
    {userId : UserId}
    {planId : PlanId}
    (user : stripeSub.metadata.userId = some userId)
    (plan : stripeSub.metadata.planId = some planId) :
    LandsAt World.confirmations input ApiError.database 2
      (SubscriptionsService.sendSubscriptionConfirmedEmail stripeSub) world
      (world.confirmed input stripeSub) := by
  unfold SubscriptionsService.sendSubscriptionConfirmedEmail World.confirmed World.confirmation
  rw [kind, if_neg Bool.false_ne_true, user, plan]
  refine LandsAt.query_bind (LandsAt.query_bind ?_)
  dsimp only
  cases world.users.find? fun user => user.id = userId with
  | none =>
      dsimp only
      rw [Option.toList_none, List.nil_append, ite_self]
      exact LandsAt.of_respects (R := SameMails EmailJob.confirms) (Respects.pure ())
        fun _ _ same => same
  | some owner =>
      cases world.plans.find? fun plan => plan.id = planId with
      | none =>
          dsimp only
          rw [Option.toList_none, List.nil_append, ite_self]
          exact LandsAt.of_respects (R := SameMails EmailJob.confirms) (Respects.pure ())
            fun _ _ same => same
      | some plan =>
          dsimp only
          have mailed : (if input.queueAvailable then
                (some (EmailJob.subscriptionConfirmed owner.email plan.name plan.amountCents
                  (stripeSub.currentPeriodEnd * 1000))).toList ++ world.confirmations
              else world.confirmations) =
              World.confirmations (if input.queueAvailable then
                { world with
                  outbox := EmailJob.subscriptionConfirmed owner.email plan.name
                    plan.amountCents (stripeSub.currentPeriodEnd * 1000) :: world.outbox }
              else world) := by
            split
            · exact (List.filter_cons_of_pos rfl).symm
            · rfl
          rw [mailed]
          exact LandsAt.caught_command

theorem sameConfirmations_wrote (input : Input) (write : RowWrite) :
    World.confirmations (world.wrote .directory input.now write) = world.confirmations := rfl

section

variable {userId : UserId} {planId : PlanId}

/-- The outcome of the upsert in the row's service. -/
theorem run_upsertSubscription
    (consistent : world.Consistent)
    (input : Input)
    (stripeSub : StripeSubscription)
    (userId : UserId)
    (planId : PlanId) :
    (SubscriptionTable.upsert .directory stripeSub.id
        (SubscriptionsService.newRow stripeSub userId planId)
        (SubscriptionsService.mapStripeSubToUpdate stripeSub
          ((findByStripeId stripeSub.id world.subscriptions).bind (·.pastDueSince)))).run
          input world =
      if (upsertWrite world.subscriptions stripeSub userId planId).refused
          world.subscriptions then
        (.error .uniqueViolation, world)
      else if (upsertWrite world.subscriptions stripeSub userId planId).refers
          .directory world then
        (.ok (), world.wrote .directory input.now
          (upsertWrite world.subscriptions stripeSub userId planId))
      else (.error .foreignKeyViolation, world) := by
  refine run_upsert consistent (fun _ => rfl) fun row found => ?_
  have found : findByStripeId stripeSub.id world.subscriptions = some row := found
  rw [found]
  rfl

variable (kind : stripeSub.metadata.isLeadFinderTier = false)
  (user : stripeSub.metadata.userId = some userId)
  (plan : stripeSub.metadata.planId = some planId)
  (consistent : world.Consistent)

include kind user plan consistent

/-- A subscription whose row is written is confirmed. -/
theorem landsAt_confirmation_of_accepted
    (accepted : (upsertWrite world.subscriptions stripeSub userId planId).accepted
      .directory world = true) :
    LandsAt World.confirmations input ApiError.database 5
      (do
        SubscriptionsService.syncSubscriptionFromStripe stripeSub
        SubscriptionsService.sendSubscriptionConfirmedEmail stripeSub)
      world (world.confirmed input stripeSub) := by
  unfold RowWrite.accepted at accepted
  rw [Bool.and_eq_true, Bool.not_eq_true'] at accepted
  have upserted := run_upsertSubscription consistent input stripeSub userId planId
  rw [show (upsertWrite world.subscriptions stripeSub userId planId).refused
    world.subscriptions = false from accepted.1, if_neg Bool.false_ne_true, accepted.2,
    if_pos rfl] at upserted
  unfold SubscriptionsService.syncSubscriptionFromStripe
  rw [kind, if_neg Bool.false_ne_true, user, plan, Process.bind_assoc]
  refine LandsAt.query_bind ?_
  dsimp only
  rw [Process.bind_assoc]
  refine LandsAt.caught_attempt_bind (R := SameMails EmailJob.confirms) upserted
    (sameConfirmations_wrote input _) trivial (fun _ _ same => same) ?_
  rw [if_pos rfl]
  refine LandsAt.command_bind rfl rfl ?_
  exact landsAt_sendSubscriptionConfirmedEmail kind user plan

/-- A subscription whose row is refused is confirmed once it has been ended. -/
theorem landsAt_confirmation_of_refused
    (refused : (upsertWrite world.subscriptions stripeSub userId planId).refused
      world.subscriptions = true)
    (inStripe : findStripe stripeSub.id world.stripe = some stripeSub)
    (running : stripeSub.status.terminal = false) :
    LandsAt World.confirmations input ApiError.database 6
      (do
        SubscriptionsService.syncSubscriptionFromStripe stripeSub
        SubscriptionsService.sendSubscriptionConfirmedEmail stripeSub)
      world (world.confirmed input stripeSub) := by
  have upserted := run_upsertSubscription consistent input stripeSub userId planId
  rw [refused, if_pos rfl] at upserted
  have ends : (StripeService.cancel stripeSub.id).run input world =
      (.ok (), { world with stripe := canceledIn stripeSub.id world.stripe }) := by
    unfold StripeService.cancel StripeService.modify
    rw [run_attempt, inStripe]
    dsimp only
    rw [running, if_neg Bool.false_ne_true]
    rfl
  unfold SubscriptionsService.syncSubscriptionFromStripe
  rw [kind, if_neg Bool.false_ne_true, user, plan, Process.bind_assoc]
  refine LandsAt.query_bind ?_
  dsimp only
  rw [Process.bind_assoc]
  refine LandsAt.caught_attempt_bind_of_error (R := SameMails EmailJob.confirms) upserted trivial
    (fun _ _ same => same) ?_
  unfold SubscriptionsService.cancelDuplicate
  rw [if_pos rfl, Process.bind_assoc]
  refine LandsAt.attempt_bind ends rfl ?_
  rw [Process.bind_assoc]
  refine LandsAt.command_bind rfl rfl ?_
  exact landsAt_sendSubscriptionConfirmedEmail kind user plan

/-- A subscription whose row is neither written nor ended is not confirmed. -/
theorem landsAt_unconfirmed
    (input : Input)
    (unwritten : (upsertWrite world.subscriptions stripeSub userId planId).accepted
      .directory world = false)
    (inStripe : findStripe stripeSub.id world.stripe = some stripeSub)
    (stuck : (upsertWrite world.subscriptions stripeSub userId planId).refused
      world.subscriptions = true → stripeSub.status.terminal = true) :
    ∃ position, LandsAt World.confirmations input ApiError.database position
      (do
        SubscriptionsService.syncSubscriptionFromStripe stripeSub
        SubscriptionsService.sendSubscriptionConfirmedEmail stripeSub)
      world world.confirmations := by
  have upserted := run_upsertSubscription consistent input stripeSub userId planId
  unfold SubscriptionsService.syncSubscriptionFromStripe
  rw [kind, if_neg Bool.false_ne_true, user, plan, Process.bind_assoc]
  cases refused : (upsertWrite world.subscriptions stripeSub userId planId).refused
      world.subscriptions with
  | true =>
      rw [refused, if_pos rfl] at upserted
      have fails : (StripeService.cancel stripeSub.id).run input world =
          (.error .stripe, world) := by
        unfold StripeService.cancel StripeService.modify
        rw [run_attempt, inStripe]
        dsimp only
        rw [stuck refused, if_pos rfl]
      refine ⟨2, LandsAt.query_bind ?_⟩
      dsimp only
      rw [Process.bind_assoc]
      refine LandsAt.caught_attempt_bind_of_error (R := SameMails EmailJob.confirms) upserted
        trivial (fun _ _ same => same) ?_
      unfold SubscriptionsService.cancelDuplicate
      rw [if_pos rfl, Process.bind_assoc]
      exact LandsAt.attempt_bind_of_error fails
  | false =>
      unfold RowWrite.accepted at unwritten
      have allowed : (upsertWrite world.subscriptions stripeSub userId planId).refused
          (world.rows .directory) = false := refused
      rw [allowed, Bool.not_false, Bool.true_and] at unwritten
      rw [refused, if_neg Bool.false_ne_true, unwritten, if_neg Bool.false_ne_true] at upserted
      refine ⟨2, LandsAt.query_bind ?_⟩
      dsimp only
      rw [Process.bind_assoc]
      refine LandsAt.caught_attempt_bind_of_error (R := SameMails EmailJob.confirms) upserted
        trivial (fun _ _ same => same) ?_
      exact LandsAt.of_respects (R := SameMails EmailJob.confirms) trivial fun _ _ same => same

end

/-- A confirmation is enqueued if there is one and its mail is reached. -/
theorem confirmed_eq_iff (reached : Bool) :
    (if reached then world.confirmed input stripeSub else world.confirmations) =
        world.confirmations ↔
      ((world.confirmation stripeSub).isSome && input.queueAvailable && reached) = false := by
  unfold World.confirmed
  cases reached with
  | false => exact iff_of_true rfl (Bool.and_false _)
  | true =>
      rw [if_pos rfl, Bool.and_true]
      cases input.queueAvailable with
      | false => exact iff_of_true rfl (Bool.and_false _)
      | true =>
          rw [if_pos rfl, Bool.and_true]
          cases world.confirmation stripeSub with
          | none => exact iff_of_true rfl rfl
          | some job => exact iff_of_false (List.cons_ne_self job _) Bool.true_eq_false.mp

end

namespace Occurrence

section

variable {app : Deployment} {world : World} {occurrence : Occurrence}
  {owner : StripeSubscriptionId → StripeMetadata} {duplicate : StripeSubscriptionId}
  {userId : UserId} {planId : PlanId}

/-- Where a delivery's mail lands decides whether it is enqueued. -/
theorem confirmations_of_landsAt
    {event : StripeEvent}
    (delivers : occurrence.request = .webhook event)
    {position : Nat}
    {result : List EmailJob}
    (lands : LandsAt World.confirmations occurrence.input ApiError.database position
      (StripeWebhookProcessor.process app event) (occurrence.arrive world) result) :
    (step app world occurrence).confirmations =
      if occurrence.getsPast position then result else world.confirmations := by
  unfold step perform
  rw [delivers]
  exact lands occurrence.rejected

section

variable {session : CheckoutSession}
  (delivers : occurrence.request = .webhook (.checkoutSessionCompleted session))
  (mode : session.mode = .subscription)
  (refers : session.subscription = some duplicate)
  (ownSession : session.metadata.isLeadFinderTier = false)

include delivers mode refers

include ownSession in
/-- The Lead Finder has no part in the mail of a completed checkout. -/
theorem confirmations_checkout_of_landsAt
    (position : Nat)
    {result : List EmailJob}
    (lands : LandsAt World.confirmations occurrence.input ApiError.database position
      (do
        let stripeSub ← StripeService.retrieve duplicate
        SubscriptionsService.syncSubscriptionFromStripe stripeSub
        SubscriptionsService.sendSubscriptionConfirmedEmail stripeSub)
      (occurrence.arrive world) result) :
    (step app world occurrence).confirmations =
      if occurrence.getsPast position then result else world.confirmations := by
  refine confirmations_of_landsAt delivers ?_
  unfold StripeWebhookProcessor.process SubscriptionsService.handleWebhookEvent
    LeadFinderBillingService.handleWebhookEvent
  dsimp only
  rw [mode, refers]
  dsimp only
  rw [ownSession, if_neg Bool.false_ne_true]
  exact lands.bind (R := SameMails EmailJob.confirms) (fun _ => Respects.pure ())
    fun _ _ same => same

/-- What a completed checkout finds in Stripe decides whether it gets to its mail. -/
theorem confirms_checkout :
    occurrence.confirms world = (findStripe duplicate occurrence.stripe).any fun stripeSub =>
      (world.confirmation stripeSub).isSome && occurrence.input.queueAvailable &&
        (world.confirmCall stripeSub).any occurrence.getsPast := by
  unfold confirms
  rw [delivers]
  dsimp only [StripeEvent.reported]
  rw [mode, refers]
  exact Option.any_map

include ownSession

/-- A completed checkout whose subscription is not in Stripe mails nothing. -/
theorem confirmations_checkout_of_missing
    (missing : findStripe duplicate occurrence.stripe = none) :
    (step app world occurrence).confirmations = world.confirmations := by
  have fails : (StripeService.retrieve duplicate).run occurrence.input
      (occurrence.arrive world) = (.error .stripe, occurrence.arrive world) := by
    unfold StripeService.retrieve
    rw [run_attempt, show (occurrence.arrive world).stripe = occurrence.stripe from rfl,
      missing]
  rw [confirmations_checkout_of_landsAt delivers mode refers ownSession 0
    (LandsAt.attempt_bind_of_error fails)]
  exact ite_self _

/-- A completed checkout of a subscription in Stripe mails a confirmation exactly if it has
one and its call is made. -/
theorem confirmations_checkout_of_found
    (consistent : world.Consistent)
    {stripeSub : StripeSubscription}
    (found : findStripe duplicate occurrence.stripe = some stripeSub)
    (kind : stripeSub.metadata.isLeadFinderTier = false)
    (user : stripeSub.metadata.userId = some userId)
    (plan : stripeSub.metadata.planId = some planId) :
    (step app world occurrence).confirmations = world.confirmations ↔
      ((world.confirmation stripeSub).isSome && occurrence.input.queueAvailable &&
        (world.confirmCall stripeSub).any occurrence.getsPast) = false := by
  have arrived := occurrence.arrive_consistent consistent
  have retrieved : (StripeService.retrieve duplicate).run occurrence.input
      (occurrence.arrive world) = (.ok stripeSub, occurrence.arrive world) := by
    unfold StripeService.retrieve
    rw [run_attempt, show (occurrence.arrive world).stripe = occurrence.stripe from rfl,
      found]
  have inStripe : findStripe stripeSub.id (occurrence.arrive world).stripe =
      some stripeSub := by
    rw [findStripe_id found]
    exact found
  have mailed {position : Nat} {result : List EmailJob}
      (lands : LandsAt World.confirmations occurrence.input ApiError.database position
        (do
          SubscriptionsService.syncSubscriptionFromStripe stripeSub
          SubscriptionsService.sendSubscriptionConfirmedEmail stripeSub)
        (occurrence.arrive world) result) :
      (step app world occurrence).confirmations =
        if occurrence.getsPast (position + 1) then result else world.confirmations :=
    confirmations_checkout_of_landsAt delivers mode refers ownSession _
      (LandsAt.attempt_bind retrieved rfl lands)
  unfold World.confirmCall
  rw [syncWrite_directory (Bool.eq_false_iff.mp kind) user plan, Option.bind_some]
  cases accepted : (upsertWrite world.subscriptions stripeSub userId planId).accepted
      .directory world with
  | true =>
      rw [if_pos rfl, Option.any_some]
      rw [mailed (landsAt_confirmation_of_accepted kind user plan arrived accepted)]
      exact confirmed_eq_iff _
  | false =>
      rw [if_neg Bool.false_ne_true]
      by_cases ends : ((upsertWrite world.subscriptions stripeSub userId planId).refused
          world.subscriptions && !stripeSub.status.terminal) = true
      · rw [if_pos ends, Option.any_some]
        rw [Bool.and_eq_true, Bool.not_eq_true'] at ends
        rw [mailed (landsAt_confirmation_of_refused kind user plan arrived ends.1 inStripe
          ends.2)]
        exact confirmed_eq_iff _
      · rw [if_neg ends, Option.any_none, Bool.and_false]
        obtain ⟨position, lands⟩ := landsAt_unconfirmed kind user plan
          arrived occurrence.input accepted inStripe fun refused => by
            have refused : (upsertWrite world.subscriptions stripeSub userId planId).refused
              world.subscriptions = true := refused
            rw [refused, Bool.true_and, Bool.not_eq_true', Bool.not_eq_false] at ends
            exact ends
        rw [mailed lands]
        exact iff_of_true (ite_self _) rfl

end

/-- A completed checkout mails a confirmation exactly if it gets to it. -/
theorem confirmations_checkout
    (consistent : world.Consistent)
    (coherent : occurrence.Coherent owner)
    (directory : (owner duplicate).product = .directory)
    (user : (owner duplicate).userId = some userId)
    (plan : (owner duplicate).planId = some planId)
    {session : CheckoutSession}
    (delivers : occurrence.request = .webhook (.checkoutSessionCompleted session))
    (mode : session.mode = .subscription)
    (refers : session.subscription = some duplicate) :
    (step app world occurrence).confirmations = world.confirmations ↔
      occurrence.confirms world = false := by
  have ownSession : session.metadata.isLeadFinderTier = false :=
    StripeMetadata.not_isLeadFinderTier
      ((coherent.event _ delivers duplicate refers).trans directory)
  rw [confirms_checkout delivers mode refers]
  cases found : findStripe duplicate occurrence.stripe with
  | none =>
      exact iff_of_true
        (confirmations_checkout_of_missing delivers mode refers ownSession found) rfl
  | some stripeSub =>
      have sameMeta : stripeSub.metadata = owner duplicate := by
        rw [← findStripe_id found]
        exact coherent.stripe stripeSub (List.mem_of_find?_eq_some found)
      rw [← sameMeta] at directory user plan
      rw [Option.any_some]
      exact confirmations_checkout_of_found delivers mode refers ownSession consistent found
        (StripeMetadata.not_isLeadFinderTier directory) user plan

/-- A delivery about a subscription mails a confirmation exactly if it completes a checkout
and gets to the mail. -/
theorem confirmations_step
    (app : Deployment)
    (consistent : world.Consistent)
    (coherent : occurrence.Coherent owner)
    (directory : (owner duplicate).product = .directory)
    (user : (owner duplicate).userId = some userId)
    (plan : (owner duplicate).planId = some planId)
    {event : StripeEvent}
    (delivers : occurrence.request = .webhook event)
    (about : event.About duplicate) :
    (step app world occurrence).confirmations = world.confirmations ↔
      occurrence.confirms world = false := by
  have silent : (∀ job, event.mails job = true → job.confirms = false) →
      (step app world occurrence).confirmations = world.confirmations := by
    intro silent
    have moved : SameMails EmailJob.confirms (occurrence.arrive world)
        (step app world occurrence) := by
      refine changed (fun _ _ change => change.sameMails ?_) world
      rw [delivers]
      exact silent
    exact moved
  cases event with
  | checkoutSessionCompleted session =>
      obtain ⟨mode, refers⟩ := about
      exact confirmations_checkout consistent coherent directory user plan delivers mode refers
  | _ =>
      unfold confirms
      rw [delivers]
      refine iff_of_true (silent fun job mails => ?_) rfl
      cases job with
      | subscriptionConfirmed recipient productLabel amountCents renewsAt => cases mails
      | _ => rfl

/-- A delivery about another subscription leaves a user's current row exactly if it adds
no row. -/
theorem currentRow_step
    (app : Deployment)
    (consistent : world.Consistent)
    (coherent : occurrence.Coherent owner)
    (user : (owner duplicate).userId = some userId)
    {row : SubscriptionRow}
    (other : row.stripeSubscriptionId ≠ duplicate)
    (current : world.currentRow userId = some row)
    {event : StripeEvent}
    (delivers : occurrence.request = .webhook event)
    (about : event.About duplicate) :
    (step app world occurrence).currentRow userId = some row ↔
      (occurrence.written world).any (·.inserts) = false := by
  obtain ⟨id, fresh, rows⟩ := subscriptions_delivered app consistent delivers
  unfold World.currentRow at current ⊢
  rw [rows]
  cases written : occurrence.written world with
  | none => exact iff_of_true current rfl
  | some write =>
      rw [Option.any_some]
      dsimp only
      obtain ⟨-, isWrite, -⟩ := written_eq_some delivers written
      have target : write.target = duplicate := about.write_target isWrite
      cases inserts : write.inserts with
      | false =>
          refine iff_of_true ?_ rfl
          rw [RowWrite.apply_of_existing inserts,
            Table.find?_updateWhere (fun row : SubscriptionRow => row.userId) _ _ _ _
              (write.rewrite_userId _), current, Option.map_some, target,
            if_neg (by simpa using other)]
      | true =>
          refine iff_of_false ?_ Bool.true_eq_false.mp
          rcases StripeEvent.write_cases isWrite with
            ⟨report, reported, -, synced⟩ | ⟨stripeSub, -, rfl⟩ | ⟨invoice, _, -, -, -, rfl⟩
          · rcases syncWrite_cases synced with ⟨rfl, -⟩ | ⟨writtenUser, productId, rfl, -, ofUser⟩
            · cases inserts
            · obtain ⟨sameMeta, -⟩ :=
                (coherent.event event delivers).of_reported coherent.stripe reported
              have sameId : report.2.id = duplicate := about.reported_id reported
              rw [sameMeta, sameId, user] at ofUser
              intro inserted
              have newest : ((RowWrite.insert report.2 writtenUser productId).apply
                  occurrence.input.now id world.subscriptions).find?
                  (fun row => row.userId = userId) =
                    some (SubscriptionsService.newRow report.2 writtenUser productId
                      occurrence.input.now id) :=
                List.find?_cons_of_pos (decide_eq_true (Option.some.inj ofUser).symm)
              rw [newest] at inserted
              have sameRow := congrArg SubscriptionRow.stripeSubscriptionId
                (Option.some.inj inserted)
              exact other (sameRow.symm.trans sameId)
          · cases inserts
          · cases inserts

end
end Occurrence

/-- A delivery of an event about a subscription, whichever of its calls is rejected. -/
structure Occurrence.Concerns
    (owner : StripeSubscriptionId → StripeMetadata)
    (id : StripeSubscriptionId)
    (occurrence : Occurrence) : Prop where
  event : ∃ event, occurrence.request = .webhook event ∧ event.About id
  coherent : occurrence.Coherent owner

/-- Whatever is delivered about another subscription of a user, the row that is reported
stays the same and no confirmation is mailed, exactly if that row is the user's newest at
first and no delivery adds a row or gets to its mail. -/
theorem duplicate_leaves_no_trace_iff
    (app : Deployment)
    {start : World}
    (empty : ∀ product, start.rows product = [])
    (earlier : List Occurrence)
    {owner : StripeSubscriptionId → StripeMetadata}
    {duplicate : StripeSubscriptionId}
    {userId : UserId}
    {planId : PlanId}
    (directory : (owner duplicate).product = .directory)
    (user : (owner duplicate).userId = some userId)
    (plan : (owner duplicate).planId = some planId)
    {row : SubscriptionRow}
    (other : row.stripeSubscriptionId ≠ duplicate)
    (deliveries : List Occurrence)
    (concern : ∀ occurrence ∈ deliveries, occurrence.Concerns owner duplicate) :
    let before := earlier.foldl (Occurrence.step app) start
    (∀ reached, reached <+: deliveries →
        (reached.foldl (Occurrence.step app) before).currentRow userId = some row ∧
          (reached.foldl (Occurrence.step app) before).confirmations =
            before.confirmations) ↔
      before.currentRow userId = some row ∧
        Along (Occurrence.step app) (fun world occurrence => occurrence.leavesTrace world = false)
          before deliveries := by
  intro before
  have consistent : before.Consistent :=
    run_consistent app (World.consistent_of_no_rows empty) earlier
  have prefixes : before.currentRow userId = some row →
      ((∀ reached, reached <+: deliveries →
          (reached.foldl (Occurrence.step app) before).currentRow userId = some row ∧
            (reached.foldl (Occurrence.step app) before).confirmations =
              before.confirmations) ↔
        Along (Occurrence.step app) (fun world occurrence => occurrence.leavesTrace world = false)
          before deliveries) := by
    intro first
    have decides : ∀ world, ∀ occurrence ∈ deliveries, world.Consistent →
        (world.currentRow userId = some row ∧ world.confirmations = before.confirmations) →
        ((Occurrence.step app world occurrence).currentRow userId = some row ∧
            (Occurrence.step app world occurrence).confirmations = before.confirmations ↔
          occurrence.leavesTrace world = false) := by
      intro world occurrence present consistent holds
      obtain ⟨current, unconfirmed⟩ := holds
      obtain ⟨⟨event, delivers, about⟩, coherent⟩ := concern occurrence present
      unfold Occurrence.leavesTrace
      rw [Bool.or_eq_false_iff, ← unconfirmed]
      exact and_congr
        (Occurrence.currentRow_step app consistent coherent user other current delivers about)
        (Occurrence.confirmations_step app consistent coherent directory user plan delivers
          about)
    exact Along.iff_prefixes (fun _ _ _ consistent => Occurrence.step_consistent app consistent)
      decides consistent ⟨first, rfl⟩
  constructor
  · intro kept
    have first := (kept [] List.nil_prefix).1
    exact ⟨first, (prefixes first).mp kept⟩
  · rintro ⟨first, along⟩
    exact (prefixes first).mpr along

/-- The row of the first of two subscriptions. -/
def sampleFirstRow : SubscriptionRow :=
  SubscriptionsService.newRow (sampleSubscription 7 .active) 0 1 1000 0

/-- Stripe reports the end of the second subscription, whose row has been refused. -/
theorem duplicate_leaves_no_trace_deletion :
    ([sampleDelivery 3000 (.subscriptionDeleted (sampleSubscription 8 .canceled))
          [sampleSubscription 7 .active, sampleSubscription 8 .canceled]].foldl
        (Occurrence.step sampleDeployment)
        (sampleDoubleCheckout.foldl (Occurrence.step sampleDeployment)
          sampleBackend)).currentRow 0 = some sampleFirstRow ∧
      ([sampleDelivery 3000 (.subscriptionDeleted (sampleSubscription 8 .canceled))
          [sampleSubscription 7 .active, sampleSubscription 8 .canceled]].foldl
        (Occurrence.step sampleDeployment)
        (sampleDoubleCheckout.foldl (Occurrence.step sampleDeployment)
          sampleBackend)).confirmations =
        (sampleDoubleCheckout.foldl (Occurrence.step sampleDeployment)
          sampleBackend).confirmations := by
  have empty : ∀ product, sampleBackend.rows product = [] := by
    intro product
    cases product <;> rfl
  have directory : (sampleOwner 8).product = .directory := rfl
  have user : (sampleOwner 8).userId = some 0 := rfl
  have plan : (sampleOwner 8).planId = some 1 := rfl
  have other : sampleFirstRow.stripeSubscriptionId ≠ 8 := by decide
  refine (duplicate_leaves_no_trace_iff sampleDeployment empty sampleDoubleCheckout directory
    user plan other _ ?_).mpr ⟨by decide, by decide⟩ _ List.prefix_rfl
  intro occurrence present
  rw [List.mem_singleton.mp present]
  exact ⟨⟨_, rfl, rfl⟩, sampleDelivery_coherent (by decide) trivial⟩

/-- The checkout of the second subscription is completed after it has been ended. -/
def sampleLateCheckout : Occurrence :=
  sampleDelivery 3000
    (.checkoutSessionCompleted
      { id := 5, mode := .subscription, subscription := some 8
        metadata := { userId := some 0, planId := some 1 } })
    [sampleSubscription 7 .active, sampleSubscription 8 .canceled]

/-- The canceled subscription is reported, and its confirmation mailed. -/
theorem rejected_duplicate_confirmed :
    let before := sampleDoubleCheckout.foldl (Occurrence.step sampleDeployment) sampleBackend
    let after := Occurrence.step sampleDeployment before sampleLateCheckout
    before.stripe = [sampleSubscription 7 .active, sampleSubscription 8 .canceled] ∧
      sampleLateCheckout.Concerns sampleOwner 8 ∧
      (before.currentRow 0).map (·.stripeSubscriptionId) = some 7 ∧
      before.confirmations = [] ∧
      (after.currentRow 0).map (fun row => (row.stripeSubscriptionId, row.status)) =
        some (8, .canceled) ∧
      after.confirmations =
        [.subscriptionConfirmed "ann@example.com" "Pro" 4900 2592000000] := by
  refine ⟨by decide, ⟨⟨_, rfl, rfl, rfl⟩, ?_⟩, by decide, by decide, by decide, by decide⟩
  refine sampleDelivery_coherent (by decide) ?_
  rintro id ⟨⟩
  rfl

end ConferenceContact
