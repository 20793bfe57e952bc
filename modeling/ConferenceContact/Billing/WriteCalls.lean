import ConferenceContact.Billing.Changes
import ConferenceContact.Billing.PastDueStreaks

/-!
# Which call of a delivery writes

A delivery writes its row in the Directory's table with one of its calls.  If a call
is rejected, the write takes place exactly if the rejected call comes after that one.
So the table after a delivery is known from what is delivered, from the table before,
and from the call that is rejected.
-/

namespace ConferenceContact

open Process

/-- A change of one product's rows leaves those of the other. -/
theorem Change.sameRows
    {allowed : Allowance}
    {product : Product}
    (silent : allowed.writes product = false)
    (own : allowed.accounts = false)
    {before after : World}
    (change : Change allowed before after) :
    SameRows product before after := by
  cases change with
  | @rows written writes _ _ =>
      cases product <;> cases written
      · rw [silent] at writes
        cases writes
      · rfl
      · rfl
      · rw [silent] at writes
        cases writes
  | invoice bills now subscriptionId =>
      unfold SameRows World.billed SubscriptionsService.upsertInvoice
      rw [Process.run_command]
      dsimp only
      split <;> cases product <;> rfl
  | account allows users sessions subscriptions redis =>
      rw [own] at allows
      cases allows
  | _ => cases product <;> rfl

namespace StripeEvent

/-- The position of the call that writes the row of the Directory's table. -/
def writeCall : StripeEvent → Nat
  | checkoutSessionCompleted _ => 2
  | subscriptionCreated _ => 1
  | subscriptionUpdated _ => 1
  | subscriptionResumed _ => 1
  | invoicePaymentFailed _ => 3
  | _ => 0

end StripeEvent

/-! ## The calls around the write -/

section

theorem sameRows_leadFinder (app : Deployment) (event : StripeEvent) :
    (LeadFinderBillingService.handleWebhookEvent app event).Respects (SameRows .directory) :=
  (changes_handleLeadFinderWebhookEvent app event).mono fun _ _ change =>
    change.sameRows rfl rfl

theorem sameRows_record (actor : Option UserId) (action : AuditAction) :
    (AuditService.record actor action).Respects (SameRows .directory) :=
  (quiet_record actor action).mono fun _ _ => Occurrence.sameRows_of_quiet

theorem sameRows_cancelDuplicate
    (id : StripeSubscriptionId)
    (userId : UserId)
    (action : AuditAction)
    (error : ApiError) :
    (SubscriptionsService.cancelDuplicate id userId action error).Respects
      (SameRows .directory) := by
  refine Respects.ite ?_ (Respects.throw error)
  refine Respects.bind (Occurrence.sameRows_modifyStripe _ _) fun _ => ?_
  exact Respects.bind (sameRows_record _ _) fun _ => Respects.pure false

/-- A reported subscription is written with the second call. -/
theorem syncSubscriptionFromStripe_through (stripeSub : StripeSubscription) :
    (SubscriptionsService.syncSubscriptionFromStripe stripeSub).RespectsThrough
      (SameRows .directory) 1 := by
  unfold SubscriptionsService.syncSubscriptionFromStripe
  split
  · exact .of_respects (Respects.pure ()) 1
  · refine RespectsThrough.query_bind fun existing => ?_
    split
    · refine RespectsThrough.bind (RespectsThrough.tryCatch RespectsThrough.attempt_zero
        (sameRows_cancelDuplicate _ _ _)) fun written => ?_
      exact Respects.ite (sameRows_record _ _) (Respects.pure ())
    · split
      · exact .of_respects (Respects.pure ()) 0
      · exact fun _ => trivial

theorem syncSubscriptionFromStripe_after (stripeSub : StripeSubscription) :
    (SubscriptionsService.syncSubscriptionFromStripe stripeSub).RespectsAfter
      (SameRows .directory) 2 := by
  unfold SubscriptionsService.syncSubscriptionFromStripe
  split
  · exact .of_respects (Respects.pure ()) 2
  · refine RespectsAfter.query_bind fun existing => ?_
    split
    · refine RespectsAfter.bind (RespectsAfter.tryCatch (RespectsAfter.attempt_bind fun _ => ?_)
        (sameRows_cancelDuplicate _ _ _)) fun written => ?_
      · exact Respects.pure true
      · exact Respects.ite (sameRows_record _ _) (Respects.pure ())
    · split
      · exact .of_respects (Respects.pure ()) 1
      · exact RespectsAfter.attempt _

theorem sameRows_sendSubscriptionConfirmedEmail (stripeSub : StripeSubscription) :
    (SubscriptionsService.sendSubscriptionConfirmedEmail stripeSub).Respects
      (SameRows .directory) :=
  (quiet_sendSubscriptionConfirmedEmail stripeSub).mono fun _ _ => Occurrence.sameRows_of_quiet

theorem sameRows_handleCreditsCheckoutCompleted (session : CheckoutSession) :
    (SubscriptionsService.handleCreditsCheckoutCompleted session).Respects
      (SameRows .directory) :=
  (ledger_handleCreditsCheckoutCompleted session).mono fun _ _ same => same.rows .directory

theorem sameRows_upsertInvoice
    (invoice : StripeInvoice)
    (subscriptionId : Nat)
    (status : InvoiceStatus) :
    (SubscriptionsService.upsertInvoice invoice subscriptionId status).Respects
      (SameRows .directory) :=
  (quiet_upsertInvoice invoice subscriptionId status).mono fun _ _ =>
    Occurrence.sameRows_of_quiet

theorem sameRows_syncInvoiceFromStripe (invoice : StripeInvoice) (status : InvoiceStatus) :
    (SubscriptionsService.syncInvoiceFromStripe invoice status).Respects
      (SameRows .directory) :=
  (quiet_syncInvoiceFromStripe invoice status).mono fun _ _ => Occurrence.sameRows_of_quiet

/-- What precedes the write of a delivery leaves the table alone. -/
theorem process_through (app : Deployment) (event : StripeEvent) :
    (StripeWebhookProcessor.process app event).RespectsThrough (SameRows .directory)
      event.writeCall := by
  refine RespectsThrough.bind ?_ fun _ => sameRows_leadFinder app event
  cases event with
  | checkoutSessionCompleted session =>
      unfold SubscriptionsService.handleWebhookEvent
      dsimp only
      split
      · exact .of_respects (sameRows_handleCreditsCheckoutCompleted session) _
      · refine RespectsThrough.attempt_bind (Footprint.retrieve _) fun stripeSub => ?_
        exact RespectsThrough.bind (syncSubscriptionFromStripe_through stripeSub) fun _ =>
          sameRows_sendSubscriptionConfirmedEmail stripeSub
      · exact .of_respects (Respects.pure ()) _
  | subscriptionCreated stripeSub => exact syncSubscriptionFromStripe_through stripeSub
  | subscriptionUpdated stripeSub => exact syncSubscriptionFromStripe_through stripeSub
  | subscriptionResumed stripeSub => exact syncSubscriptionFromStripe_through stripeSub
  | subscriptionDeleted stripeSub => exact fun _ => trivial
  | invoicePaid invoice => exact .of_respects (sameRows_syncInvoiceFromStripe invoice .paid) _
  | invoicePaymentFailed invoice =>
      unfold SubscriptionsService.handleWebhookEvent SubscriptionsService.syncInvoiceFromStripe
        SubscriptionTable.findUnique
      dsimp only
      cases invoice.subscription with
      | none => exact .of_respects (Respects.pure ()) _
      | some id =>
          dsimp only
          rw [Process.bind_assoc]
          refine RespectsThrough.query_bind fun localSub => ?_
          have marks : (SubscriptionsService.markPastDue app id).RespectsThrough
              (SameRows .directory) 1 := by
            refine RespectsThrough.query_bind fun existing => ?_
            split
            · exact .of_respects (Respects.pure ()) 0
            · exact RespectsThrough.attempt_zero
          cases localSub with
          | none =>
              dsimp only
              rw [Process.bind_assoc]
              exact RespectsThrough.query_bind fun _ => marks
          | some localSub =>
              exact RespectsThrough.command_bind (sameRows_upsertInvoice _ _ _) marks
  | other => exact .of_respects (Respects.pure ()) _

/-- What follows the write of a delivery leaves the table alone. -/
theorem process_after (app : Deployment) (event : StripeEvent) :
    (StripeWebhookProcessor.process app event).RespectsAfter (SameRows .directory)
      (event.writeCall + 1) := by
  refine RespectsAfter.bind ?_ fun _ => sameRows_leadFinder app event
  cases event with
  | checkoutSessionCompleted session =>
      unfold SubscriptionsService.handleWebhookEvent
      dsimp only
      split
      · exact .of_respects (sameRows_handleCreditsCheckoutCompleted session) _
      · refine RespectsAfter.attempt_bind fun stripeSub => ?_
        exact RespectsAfter.bind (syncSubscriptionFromStripe_after stripeSub) fun _ =>
          sameRows_sendSubscriptionConfirmedEmail stripeSub
      · exact .of_respects (Respects.pure ()) _
  | subscriptionCreated stripeSub => exact syncSubscriptionFromStripe_after stripeSub
  | subscriptionUpdated stripeSub => exact syncSubscriptionFromStripe_after stripeSub
  | subscriptionResumed stripeSub => exact syncSubscriptionFromStripe_after stripeSub
  | subscriptionDeleted stripeSub => exact RespectsAfter.command _
  | invoicePaid invoice => exact .of_respects (sameRows_syncInvoiceFromStripe invoice .paid) _
  | invoicePaymentFailed invoice =>
      unfold SubscriptionsService.handleWebhookEvent SubscriptionsService.syncInvoiceFromStripe
        SubscriptionTable.findUnique
      dsimp only
      cases invoice.subscription with
      | none => exact .of_respects (Respects.pure ()) _
      | some id =>
          dsimp only
          rw [Process.bind_assoc]
          refine RespectsAfter.query_bind fun localSub => ?_
          have marks : (SubscriptionsService.markPastDue app id).RespectsAfter
              (SameRows .directory) 2 := by
            refine RespectsAfter.query_bind fun existing => ?_
            split
            · exact .of_respects (Respects.pure ()) 1
            · refine RespectsAfter.attempt_bind fun _ => ?_
              split
              · exact (quiet_enqueue _).mono fun _ _ => Occurrence.sameRows_of_quiet
              · exact Respects.pure ()
          cases localSub with
          | none =>
              dsimp only
              rw [Process.bind_assoc]
              exact RespectsAfter.query_bind fun _ => marks
          | some localSub => exact RespectsAfter.command_bind marks
  | other => exact .of_respects (Respects.pure ()) _

end

/-! ## The write of a delivery -/

namespace Occurrence

/-- The write that a request's delivery makes in the Directory's table: its call is not
rejected, and the database lets it happen. -/
def written (world : World) (occurrence : Occurrence) : Option RowWrite :=
  match occurrence.request with
  | .webhook event =>
      if occurrence.getsPast event.writeCall then
        (event.write .directory (occurrence.arrive world)).filter
          (·.accepted .directory (occurrence.arrive world))
      else none
  | _ => none

/-- What has been written was to be written, its call was not rejected, and the database
let it happen. -/
theorem written_eq_some
    {world : World}
    {occurrence : Occurrence}
    {event : StripeEvent}
    (delivers : occurrence.request = .webhook event)
    {write : RowWrite}
    (written : occurrence.written world = some write) :
    occurrence.getsPast event.writeCall = true ∧
      event.write .directory (occurrence.arrive world) = some write ∧
      write.accepted .directory (occurrence.arrive world) = true := by
  unfold Occurrence.written at written
  rw [delivers] at written
  dsimp only at written
  split at written
  · rename_i reached
    exact ⟨reached, Option.filter_eq_some_iff.mp written⟩
  · cases written

/-- The Directory's table after a delivery. -/
theorem subscriptions_delivered
    (app : Deployment)
    {world : World}
    {occurrence : Occurrence}
    (consistent : world.Consistent)
    {event : StripeEvent}
    (delivers : occurrence.request = .webhook event) :
    ∃ id, world.nextId ≤ id ∧
      (step app world occurrence).subscriptions =
        match occurrence.written world with
        | some write => write.apply occurrence.input.now id world.subscriptions
        | none => world.subscriptions := by
  have arrived := occurrence.arrive_consistent consistent
  unfold written
  rw [delivers]
  dsimp only
  by_cases reached : occurrence.getsPast event.writeCall = true
  · rw [if_pos reached]
    have alone : (step app world occurrence).rows .directory =
        ((StripeWebhookProcessor.process app event).run occurrence.input
          (occurrence.arrive world)).2.rows .directory := by
      unfold step perform
      rw [delivers]
      unfold getsPast at reached
      cases rejection : occurrence.rejected with
      | none =>
          rw [Option.map_none, runWithFault_none]
          rfl
      | some position =>
          rw [rejection, Option.all_some, decide_eq_true_eq] at reached
          have directory : ∀ before after, SameRows .directory before after →
              after.rows .directory = before.rows .directory := fun _ _ same => same
          exact RespectsAfter.view_eq (fun world : World => world.rows .directory) directory
            (process_after app event) reached _ _ _
    have processes : (StripeWebhookProcessor.process app event).Ensures occurrence.input
        (fun _ => False) (occurrence.arrive world)
        (Processed occurrence.input.now (∃ _ : ApiError, False) event
          (occurrence.arrive world)) :=
      ensures_process app not_false arrived event
    rcases (Processed.directory processes.run).row with
      ⟨taken, id, same, accepted, fresh, -, rows⟩ | ⟨rows, ⟨_, impossible⟩ | refused⟩
    · refine ⟨id, fresh, ?_⟩
      rw [same, Option.filter_some, if_pos accepted]
      exact alone.trans rows
    · cases impossible
    · refine ⟨world.nextId, Nat.le_refl _, ?_⟩
      have unwritten : (event.write .directory (occurrence.arrive world)).filter
          (·.accepted .directory (occurrence.arrive world)) = none := by
        rw [Option.filter_eq_none_iff]
        intro taken same accepted
        rw [refused taken same] at accepted
        cases accepted
      rw [unwritten]
      exact alone.trans rows
  · rw [if_neg reached]
    refine ⟨world.nextId, Nat.le_refl _, ?_⟩
    have through : (occurrence.request.handle app).RespectsThrough (SameRows .directory)
        event.writeCall := by
      rw [delivers]
      exact process_through app event
    exact sameRows_of_rejected through (Bool.eq_false_iff.mpr reached)

end Occurrence
end ConferenceContact
