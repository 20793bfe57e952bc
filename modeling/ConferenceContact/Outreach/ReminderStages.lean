import ConferenceContact.Foundation.Machine
import ConferenceContact.Model.Campaign
import ConferenceContact.Model.Leads

/-!
# The control points of a scan for renewals

A run of `sendDueReminders` is cut at its awaited calls.  A reminder takes two of
them: its job is offered to the queue, and its subscription is marked, whether or
not the queue has accepted the job.
-/

namespace ConferenceContact

open Process RenewalReminderService

/-- The reminder of a renewal was sent already. -/
def RenewalReminderService.Reminder.done (reminder : Reminder) : Bool :=
  reminder.subscription.renewalReminderSentForPeriodEnd =
    some reminder.subscription.currentPeriodEnd

/-- The job of a reminder. -/
def RenewalReminderService.Reminder.job (reminder : Reminder) : EmailJob :=
  .renewalReminder reminder.recipient reminder.productLabel
    reminder.subscription.currentPeriodEnd reminder.amountCents

/-- The update that marks the subscription of a reminder. -/
def RenewalReminderService.Reminder.markSent
    (product : Product)
    (reminder : Reminder) : Service Unit :=
  SubscriptionTable.update product reminder.subscription.id fun _ stored =>
    { stored with
      renewalReminderSentForPeriodEnd := some reminder.subscription.currentPeriodEnd }

/-- The call a scan is about to make. -/
inductive ReminderStage
  | readClock
  | find (now : Time) (product : Product) (sent : Nat)
  | enqueue
      (now : Time)
      (product : Product)
      (reminder : Reminder)
      (rest : List Reminder)
      (sent : Nat)
  | mark
      (now : Time)
      (product : Product)
      (reminder : Reminder)
      (rest : List Reminder)
      (sent : Nat)
  | finished (outcome : Except ApiError Nat)

namespace ReminderStage

/-! ## The code left at a stage -/

/-- What is left of a scan that has subscriptions of a product to remind of. -/
def remaining (now : Time) : Product → List Reminder → Nat → Service Nat
  | .directory, directorySubs, sent => do
      let sent ← remindAll .directory directorySubs sent
      let leadFinderSubs ← findRenewals now .leadFinder
      remindAll .leadFinder leadFinderSubs sent
  | .leadFinder, leadFinderSubs, sent => remindAll .leadFinder leadFinderSubs sent

/-- The handler of the `try` block. -/
def handler (_error : ApiError) : Service Nat := pure 0

/-- The code left of a scan. -/
def code : ReminderStage → Service Nat
  | readClock => sendDueReminders
  | find now product sent => do
      let subs ← findRenewals now product
      remaining now product subs sent
  | enqueue now product reminder rest sent => do
      let made ← tryCatch
        (do
          EmailService.enqueue reminder.job
          reminder.markSent product
          return 1)
        handler
      remaining now product rest (sent + made)
  | mark now product reminder rest sent => do
      let made ← tryCatch
        (do
          reminder.markSent product
          return 1)
        handler
      remaining now product rest (sent + made)
  | finished outcome => orThrow outcome

/-! ## The machine -/

/-- After the subscriptions of a product. -/
def afterProduct (now : Time) : Product → Nat → ReminderStage
  | .directory, sent => find now .leadFinder sent
  | .leadFinder, sent => finished (.ok sent)

/-- The head of the loop over the subscriptions of a product. -/
def loop (now : Time) (product : Product) : List Reminder → Nat → ReminderStage
  | [], sent => afterProduct now product sent
  | reminder :: rest, sent =>
      if reminder.done then loop now product rest sent
      else enqueue now product reminder rest sent

/-- The world after the marking of a subscription. -/
def marked (product : Product) (reminder : Reminder) (world : World) : World :=
  match rewriteRow reminder.subscription.id
      (fun stored =>
        { stored with
          renewalReminderSentForPeriodEnd := some reminder.subscription.currentPeriodEnd })
      (world.rows product) with
  | .ok rows => world.setRows rows product
  | .error _ => world

/-- Whether the marking of a subscription takes place. -/
def marks (product : Product) (reminder : Reminder) (world : World) : Bool :=
  match rewriteRow reminder.subscription.id
      (fun stored =>
        { stored with
          renewalReminderSentForPeriodEnd := some reminder.subscription.currentPeriodEnd })
      (world.rows product) with
  | .ok _ => true
  | .error _ => false

/-- What a scan does call by call. -/
def machine : Machine ReminderStage Input ApiError World where
  effect
    | enqueue _ _ reminder _ _, input, world =>
        if input.queueAvailable then { world with outbox := reminder.job :: world.outbox }
        else world
    | mark _ product reminder _ _, _, world => marked product reminder world
    | _, _, world => world
  next
    | readClock, input, _ => find input.now .directory 0
    | find now product sent, _, world => loop now product (renewals now product world) sent
    | enqueue now product reminder rest sent, _, _ => mark now product reminder rest sent
    | mark now product reminder rest sent, _, world =>
        loop now product rest (if marks product reminder world then sent + 1 else sent)
    | finished outcome, _, _ => finished outcome
  abort
    | readClock, error => finished (.error error)
    | find _ _ _, error => finished (.error error)
    | enqueue now product reminder rest sent, _ => mark now product reminder rest sent
    | mark now product _ rest sent, _ => loop now product rest sent
    | finished outcome, _ => finished outcome

/-! ## The stages move as the code does -/

theorem code_readClock :
    code readClock = Service.dateNow >>= fun now => code (find now .directory 0) := rfl

/-- A reminder that was sent already is passed over. -/
theorem remindAll_cons
    (product : Product)
    (reminder : Reminder)
    (rest : List Reminder)
    (sent : Nat) :
    remindAll product (reminder :: rest) sent =
      if reminder.done then remindAll product rest sent
      else
        tryCatch
          (do
            EmailService.enqueue reminder.job
            reminder.markSent product
            return 1)
          handler >>= fun made => remindAll product rest (sent + made) := by
  rw [remindAll, remind]
  unfold Reminder.done
  by_cases done : reminder.subscription.renewalReminderSentForPeriodEnd =
      some reminder.subscription.currentPeriodEnd
  · rw [if_pos done, if_pos (decide_eq_true done), pure_bind, Nat.add_zero]
  · rw [if_neg done, if_neg (by simpa using done)]
    rfl

/-- The code left at the head of the loop. -/
theorem code_loop (now : Time) (product : Product) (rest : List Reminder) (sent : Nat) :
    code (loop now product rest sent) = remaining now product rest sent := by
  induction rest generalizing sent with
  | nil => cases product <;> rfl
  | cons reminder rest inductionHypothesis =>
      rw [loop]
      by_cases done : reminder.done = true
      · rw [if_pos done, inductionHypothesis]
        cases product with
        | directory => rw [remaining, remaining, remindAll_cons, if_pos done]
        | leadFinder => rw [remaining, remaining, remindAll_cons, if_pos done]
      · rw [if_neg done]
        cases product with
        | directory =>
            rw [remaining, remindAll_cons, if_neg done, bind_assoc]
            rfl
        | leadFinder =>
            rw [remaining, remindAll_cons, if_neg done]
            rfl

theorem implements : machine.Implements code where
  effect stage input world := by
    cases stage with
    | readClock => rfl
    | find now product sent => rfl
    | enqueue now product reminder rest sent => rfl
    | mark now product reminder rest sent =>
        rw [code, effect_bind rfl, effect_tryCatch _ _ rfl, Reminder.markSent,
          SubscriptionTable.update, effect_attempt_bind]
        show _ = marked product reminder world
        unfold marked
        cases rewriteRow reminder.subscription.id _ (world.rows product) <;> rfl
    | finished outcome => cases outcome <;> rfl
  next stage input world := by
    cases stage with
    | readClock => rfl
    | find now product sent => exact (code_loop now product _ sent).symm
    | enqueue now product reminder rest sent => rfl
    | mark now product reminder rest sent =>
        rw [code, residual_bind rfl, residual_tryCatch _ _ rfl, Reminder.markSent,
          SubscriptionTable.update, residual_attempt_bind]
        show _ = code (loop now product rest
          (if marks product reminder world then sent + 1 else sent))
        rw [code_loop]
        unfold marks
        cases rewriteRow reminder.subscription.id _ (world.rows product) <;> rfl
    | finished outcome => cases outcome <;> rfl
  abort stage error := by
    cases stage with
    | readClock => rfl
    | find now product sent => rfl
    | enqueue now product reminder rest sent => rfl
    | mark now product reminder rest sent => exact (code_loop now product rest sent).symm
    | finished outcome => cases outcome <;> rfl

end ReminderStage
end ConferenceContact
