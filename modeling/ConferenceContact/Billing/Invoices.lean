import ConferenceContact.Billing.Changes
import ConferenceContact.Billing.PastDueStreaks
import Mathlib.Data.List.Induction

/-!
# The row of an invoice

An invoice event writes the row of its invoice if it finds the row of the
subscription that is billed, and writes it as if no event had come before.  So the
row is as the last event leaves it that was not dropped: a late failure reopens a
paid invoice, a repeated payment dates it anew, and a payment that comes before the
subscription's row is lost.
-/

namespace ConferenceContact

open Process

/-! ## Which event writes which invoice -/

/-- The invoices are as they were. -/
def SameInvoices (before after : World) : Prop :=
  after.invoices = before.invoices

instance : IsPreorder World SameInvoices where
  refl _ := rfl
  trans _ _ _ first second := second.trans first

/-- Only an invoice event changes invoices. -/
theorem Change.sameInvoices
    {allowed : Allowance}
    (silent : allowed.bills = none)
    {before after : World}
    (change : Change allowed before after) :
    SameInvoices before after := by
  cases change with
  | @rows product _ _ _ => cases product <;> rfl
  | invoice bills now subscriptionId =>
      rw [silent] at bills
      cases bills
  | _ => rfl

/-- The row of the subscription an invoice is for. -/
def StripeInvoice.billed (world : World) (invoice : StripeInvoice) : Option SubscriptionRow :=
  invoice.subscription.bind fun id => findByStripeId id world.subscriptions

/-- The invoice a request writes to the table, with the row that is billed and the
status; a call that is rejected before the upsert prevents it. -/
def Occurrence.bills
    (world : World)
    (occurrence : Occurrence) : Option (StripeInvoice × SubscriptionRow × InvoiceStatus) :=
  match occurrence.request with
  | .webhook event =>
      if occurrence.getsPast 1 then
        event.bills.bind fun (invoice, status) =>
          (invoice.billed world).map fun row => (invoice, row, status)
      else none
  | _ => none

/-- The invoices after one has been written, or none. -/
def World.invoicesWith
    (world : World)
    (now : Time)
    (written : Option (StripeInvoice × SubscriptionRow × InvoiceStatus)) : List Invoice :=
  match written with
  | some (invoice, row, status) => (world.billed now invoice row.id status).invoices
  | none => world.invoices

section

variable {input : Input} {world : World}

/-- The bookkeeping of an invoice, and what follows it without writing another. -/
theorem invoices_syncInvoice_bind
    (invoice : StripeInvoice)
    (status : InvoiceStatus)
    {next : Unit → Service Unit}
    (silent : ∀ value, (next value).Respects SameInvoices)
    (rejected : Option Nat) :
    ((SubscriptionsService.syncInvoiceFromStripe invoice status >>= next).runWithFault input
        (rejected.map fun position => (position, ApiError.database)) world).2.invoices =
      world.invoicesWith input.now
        (if rejected.all (1 < ·) then
          (invoice.billed world).map fun row => (invoice, row, status)
        else none) := by
  have silent : ∀ fault world,
      ((next ()).runWithFault input fault world).2.invoices = world.invoices :=
    fun fault world => (silent ()).runWithFault input fault world
  unfold SubscriptionsService.syncInvoiceFromStripe SubscriptionTable.findUnique
    StripeInvoice.billed
  cases invoice.subscription with
  | none =>
      have dropped : (if rejected.all (1 < ·) then
          Option.map (fun row => (invoice, row, status))
            (Option.bind none fun id => findByStripeId id world.subscriptions)
          else none) = none := by
        split <;> rfl
      rw [dropped]
      exact silent _ world
  | some id =>
      dsimp only
      rw [Process.bind_assoc, runWithFault_query_bind, Option.bind_some]
      have rows : world.rows .directory = world.subscriptions := rfl
      rw [rows]
      cases findByStripeId id world.subscriptions with
      | none =>
          match rejected with
          | none => exact silent none world
          | some 0 => rfl
          | some 1 => rfl
          | some (position + 2) => exact silent _ world
      | some row =>
          match rejected with
          | none => exact silent none _
          | some 0 => rfl
          | some 1 => rfl
          | some (position + 2) => exact silent _ _

end

/-- The row of an invoice that is new, or the row there is, rewritten. -/
theorem World.invoices_billed
    (world : World)
    (now : Time)
    (invoice : StripeInvoice)
    (subscriptionId : Nat)
    (status : InvoiceStatus) :
    (world.billed now invoice subscriptionId status).invoices =
      let amountCents :=
        if invoice.amountPaid = 0 then invoice.amountDue else invoice.amountPaid
      let paidAt := if status = .paid then some now else none
      if world.invoices.any fun other => other.stripeInvoiceId = invoice.id then
        Table.updateWhere (fun other => other.stripeInvoiceId = invoice.id)
          (fun other => { other with status, amountCents, paidAt }) world.invoices
      else
        { id := world.nextId
          subscriptionId
          stripeInvoiceId := invoice.id
          amountCents
          currency := invoice.currency
          status
          paidAt } :: world.invoices := by
  unfold World.billed SubscriptionsService.upsertInvoice
  rw [Process.run_command]
  dsimp only
  split <;> rfl

/-- Stripe's own changes show in no invoice. -/
theorem Occurrence.invoicesWith_arrive
    (occurrence : Occurrence)
    (world : World)
    (now : Time)
    (written : Option (StripeInvoice × SubscriptionRow × InvoiceStatus)) :
    (occurrence.arrive world).invoicesWith now written = world.invoicesWith now written := by
  cases written with
  | none => rfl
  | some write =>
      obtain ⟨invoice, row, status⟩ := write
      unfold World.invoicesWith
      dsimp only
      rw [World.invoices_billed, World.invoices_billed]
      rfl

/-- The invoices after a request. -/
theorem Occurrence.invoices_step
    (app : Deployment)
    (world : World)
    (occurrence : Occurrence) :
    (step app world occurrence).invoices =
      world.invoicesWith occurrence.input.now (occurrence.bills world) := by
  have unchanged : occurrence.request.allowance.bills = none →
      (step app world occurrence).invoices = world.invoices :=
    fun silent => changed (fun _ _ change => change.sameInvoices silent) world
  have granted : ∀ invoice, (LeadFinderBillingService.grantMonthlyCredits invoice).Respects
      SameInvoices := by
    intro invoice
    have respects : (LeadFinderBillingService.grantMonthlyCredits invoice).Respects
        (Change { creditReference := some invoice.id }) :=
      changes_grantMonthlyCredits fun _ => rfl
    exact respects.mono fun _ _ change => change.sameInvoices rfl
  have marked : ∀ id, (SubscriptionsService.markPastDue app id).Respects SameInvoices := by
    intro id
    have respects : (SubscriptionsService.markPastDue app id).Respects
        (Change { mails := fun _ => true }) :=
      changes_markPastDue rfl (fun _ _ _ => rfl) app id
    exact respects.mono fun _ _ change => change.sameInvoices rfl
  unfold bills
  cases asked : occurrence.request with
  | webhook event =>
      cases event with
      | invoicePaid invoice =>
          unfold step perform
          rw [asked, ← invoicesWith_arrive]
          exact invoices_syncInvoice_bind invoice .paid (fun _ => granted invoice) _
      | invoicePaymentFailed invoice =>
          unfold step perform
          rw [asked, ← invoicesWith_arrive]
          unfold BillingRequest.handle StripeWebhookProcessor.process
            SubscriptionsService.handleWebhookEvent
          dsimp only
          rw [Process.bind_assoc]
          refine invoices_syncInvoice_bind invoice .open (fun _ => ?_) _
          refine Respects.bind ?_ fun _ => Respects.pure ()
          cases invoice.subscription with
          | none => exact Respects.pure ()
          | some id => exact marked id
      | _ =>
          rw [unchanged (by rw [asked]; rfl)]
          dsimp only [StripeEvent.bills]
          rw [Option.bind_none]
          split <;> rfl
  | cancel userId => exact unchanged (by rw [asked]; rfl)
  | _ => exact unchanged (by rw [asked]; rfl)

/-! ## The row of one invoice -/

/-- The status and the payment time of every row of an invoice. -/
def World.invoiceState
    (world : World)
    (reference : StripeReference) : List (InvoiceStatus × Option Time) :=
  (world.invoices.filter (·.stripeInvoiceId = reference)).map fun invoice =>
    (invoice.status, invoice.paidAt)

/-- The status and the payment time an event gives an invoice. -/
def reportedAt (now : Time) (status : InvoiceStatus) : InvoiceStatus × Option Time :=
  (status, if status = .paid then some now else none)

theorem invoiceState_billed_of_other
    (world : World)
    (now : Time)
    {invoice : StripeInvoice}
    (subscriptionId : Nat)
    (status : InvoiceStatus)
    {reference : StripeReference}
    (other : invoice.id ≠ reference) :
    (world.billed now invoice subscriptionId status).invoiceState reference =
      world.invoiceState reference := by
  unfold World.invoiceState
  rw [World.invoices_billed]
  dsimp only
  split
  · rw [Table.filter_updateWhere]
    intro row _ chosen
    have hidden : decide (row.stripeInvoiceId = reference) = false :=
      decide_eq_false ((of_decide_eq_true chosen).trans_ne other)
    exact ⟨hidden, hidden⟩
  · rw [List.filter_cons_of_neg (by simpa using other)]

/-- Once its event has been processed, an invoice has one row, as the event left it. -/
theorem invoiceState_billed
    {world : World}
    (now : Time)
    (invoice : StripeInvoice)
    (subscriptionId : Nat)
    (status : InvoiceStatus)
    (single : (world.invoiceState invoice.id).length ≤ 1) :
    (world.billed now invoice subscriptionId status).invoiceState invoice.id =
      [reportedAt now status] := by
  unfold World.invoiceState at single ⊢
  rw [List.length_map] at single
  rw [World.invoices_billed]
  dsimp only
  split
  · rename_i present
    rw [Table.filter_updateWhere_self (by exact fun _ => rfl), List.map_map]
    obtain ⟨row, stored, same⟩ := List.any_eq_true.mp present
    cases rows : world.invoices.filter (·.stripeInvoiceId = invoice.id) with
    | nil =>
        have missing := List.filter_eq_nil_iff.mp rows row stored
        exact absurd same missing
    | cons first others =>
        rw [rows, List.length_cons] at single
        have none : others = [] := List.length_eq_zero_iff.mp (by omega)
        rw [none]
        rfl
  · rename_i absent
    rw [List.filter_cons_of_pos (by simp)]
    have empty : world.invoices.filter (·.stripeInvoiceId = invoice.id) = [] := by
      rw [List.filter_eq_nil_iff]
      intro row stored same
      exact absent (List.any_eq_true.mpr ⟨row, stored, same⟩)
    rw [empty]
    rfl

/-! ## Runs -/

/-- The status that a processed delivery reports for an invoice. -/
def Occurrence.reports
    (reference : StripeReference)
    (occurrence : Occurrence) : Option InvoiceStatus :=
  match occurrence.request with
  | .webhook event =>
      if occurrence.getsPast 1 then
        event.bills.bind fun (invoice, status) =>
          if invoice.id = reference then some status else none
      else none
  | _ => none

/-- When an invoice is first reported as paid. -/
def firstPaid (reference : StripeReference) (occurrences : List Occurrence) : Option Time :=
  (occurrences.find? fun occurrence => occurrence.reports reference = some .paid).map
    (·.input.now)

/-- The events of an invoice name the subscription it is for. -/
def Occurrence.Bills
    (id : StripeSubscriptionId)
    (reference : StripeReference)
    (occurrence : Occurrence) : Prop :=
  ∀ event invoice status, occurrence.request = .webhook event →
    event.bills = some (invoice, status) → invoice.id = reference →
    invoice.subscription = some id

/-- A subscription has a row. -/
def World.hasSubscription (world : World) (id : StripeSubscriptionId) : Bool :=
  (findByStripeId id world.subscriptions).isSome

/-- The last processed delivery of an invoice reports it as paid at a moment and finds
the row of the subscription. -/
def PaidLast
    (app : Deployment)
    (start : World)
    (id : StripeSubscriptionId)
    (reference : StripeReference)
    (moment : Option Time)
    (occurrences : List Occurrence) : Prop :=
  ∃ earlier last later, occurrences = earlier ++ last :: later ∧
    last.reports reference = some .paid ∧ some last.input.now = moment ∧
    (earlier.foldl (Occurrence.step app) start).hasSubscription id = true ∧
    ∀ other ∈ later, other.reports reference = none

section

variable {app : Deployment} {world : World} {occurrence : Occurrence}
  {id : StripeSubscriptionId} {reference : StripeReference}

/-- A subscription that has a row goes on having one. -/
theorem World.hasSubscription_step
    (app : Deployment)
    (occurrence : Occurrence)
    (consistent : world.Consistent)
    (stored : world.hasSubscription id = true) :
    (Occurrence.step app world occurrence).hasSubscription id = true := by
  unfold hasSubscription at stored ⊢
  obtain ⟨row, found⟩ := Option.isSome_iff_exists.mp stored
  obtain ⟨present, named⟩ := mem_of_findByStripeId found
  have kept : ∃ after ∈ (Occurrence.step app world occurrence).rows .directory,
      after.stripeSubscriptionId = id := by
    rcases occurrence.rows_step app consistent .directory with
      same | ⟨write, fresh, -, -, rows⟩
    · rw [same]
      exact ⟨row, present, named⟩
    · rw [rows]
      cases inserts : write.inserts with
      | true =>
          cases write with
          | insert stripeSub userId productId =>
              exact ⟨row, List.mem_cons_of_mem _ present, named⟩
          | _ => cases inserts
      | false =>
          rw [RowWrite.apply_of_existing inserts]
          refine ⟨_, Table.mem_updateWhere.mpr ⟨row, present, rfl⟩, ?_⟩
          split
          · rw [RowWrite.rewrite_stripeSubscriptionId, named]
          · exact named
  obtain ⟨after, stillPresent, stillNamed⟩ := kept
  cases lookup : findByStripeId id (Occurrence.step app world occurrence).subscriptions with
  | some found => rfl
  | none => exact absurd stillNamed (findByStripeId_eq_none.mp lookup after stillPresent)

/-- A request that reports nothing about an invoice leaves its row. -/
theorem Occurrence.invoiceState_of_silent
    (app : Deployment)
    (world : World)
    (silent : occurrence.reports reference = none) :
    (step app world occurrence).invoiceState reference = world.invoiceState reference := by
  have invoices := occurrence.invoices_step app world
  unfold Occurrence.bills at invoices
  unfold Occurrence.reports at silent
  have same : (step app world occurrence).invoices = world.invoices →
      (step app world occurrence).invoiceState reference = world.invoiceState reference := by
    intro same
    unfold World.invoiceState
    rw [same]
  split at invoices
  · rename_i event asked
    rw [asked] at silent
    dsimp only at silent
    split at invoices
    · rename_i reached
      rw [if_pos reached] at silent
      cases reported : event.bills with
      | none =>
          rw [reported, Option.bind_none] at invoices
          exact same invoices
      | some report =>
          obtain ⟨invoice, status⟩ := report
          rw [reported, Option.bind_some] at invoices silent
          dsimp only at silent invoices
          split at silent
          · cases silent
          · rename_i other
            cases found : invoice.billed world with
            | none =>
                rw [found, Option.map_none] at invoices
                exact same invoices
            | some row =>
                rw [found, Option.map_some] at invoices
                refine Eq.trans ?_ (invoiceState_billed_of_other world occurrence.input.now
                  row.id status other)
                unfold World.invoiceState
                rw [invoices]
                rfl
    · exact same invoices
  · exact same invoices

/-- A delivery that reports an invoice writes its row if the subscription has one. -/
theorem Occurrence.invoiceState_of_reports
    (app : Deployment)
    (names : occurrence.Bills id reference)
    (single : (world.invoiceState reference).length ≤ 1)
    {status : InvoiceStatus}
    (reports : occurrence.reports reference = some status) :
    (step app world occurrence).invoiceState reference =
      if world.hasSubscription id then [reportedAt occurrence.input.now status]
      else world.invoiceState reference := by
  have invoices := occurrence.invoices_step app world
  unfold Occurrence.bills at invoices
  unfold Occurrence.reports at reports
  split at reports
  · rename_i event asked
    rw [asked] at invoices
    dsimp only at invoices
    split at reports
    · rename_i reached
      rw [if_pos reached] at invoices
      obtain ⟨⟨invoice, reportedStatus⟩, reported, about⟩ := Option.bind_eq_some_iff.mp reports
      dsimp only at about
      split at about
      · rename_i isReference
        cases about
        rw [reported, Option.bind_some] at invoices
        dsimp only at invoices
        have named : invoice.billed world = findByStripeId id world.subscriptions := by
          unfold StripeInvoice.billed
          rw [names event invoice status asked reported isReference, Option.bind_some]
        rw [named] at invoices
        unfold World.hasSubscription
        cases found : findByStripeId id world.subscriptions with
        | none =>
            rw [found, Option.map_none] at invoices
            rw [Option.isSome_none, if_neg Bool.false_ne_true]
            unfold World.invoiceState
            rw [invoices]
            rfl
        | some row =>
            rw [found, Option.map_some] at invoices
            rw [Option.isSome_some, if_pos rfl]
            subst isReference
            rw [← invoiceState_billed occurrence.input.now invoice row.id status single]
            unfold World.invoiceState
            rw [invoices]
            rfl
      · cases about
    · cases reports
  · cases reports

/-- An invoice has at most one row, and none before its subscription has one. -/
structure World.Accounted
    (world : World)
    (id : StripeSubscriptionId)
    (reference : StripeReference) : Prop where
  single : (world.invoiceState reference).length ≤ 1
  owned : world.hasSubscription id = false → world.invoiceState reference = []

theorem World.Accounted.step
    (app : Deployment)
    (accounted : world.Accounted id reference)
    (consistent : world.Consistent)
    (names : occurrence.Bills id reference) :
    (Occurrence.step app world occurrence).Accounted id reference := by
  have lacked : (Occurrence.step app world occurrence).hasSubscription id = false →
      world.hasSubscription id = false := by
    intro lacks
    cases stored : world.hasSubscription id with
    | false => rfl
    | true =>
        have kept := World.hasSubscription_step app occurrence consistent stored
        rw [lacks] at kept
        cases kept
  cases reports : occurrence.reports reference with
  | none =>
      have same := occurrence.invoiceState_of_silent app world reports
      refine ⟨?_, fun lacks => ?_⟩
      · rw [same]
        exact accounted.single
      · rw [same]
        exact accounted.owned (lacked lacks)
  | some status =>
      have written := Occurrence.invoiceState_of_reports app names accounted.single reports
      refine ⟨?_, fun lacks => ?_⟩
      · rw [written]
        split
        · exact Nat.le_refl 1
        · exact accounted.single
      · rw [written, lacked lacks, if_neg Bool.false_ne_true]
        exact accounted.owned (lacked lacks)

/-- The events of an invoice leave at most one row for it. -/
theorem accounted_run
    (app : Deployment)
    (consistent : world.Consistent)
    (accounted : world.Accounted id reference)
    (occurrences : List Occurrence)
    (names : ∀ occurrence ∈ occurrences, occurrence.Bills id reference) :
    (occurrences.foldl (Occurrence.step app) world).Accounted id reference := by
  induction occurrences generalizing world with
  | nil => exact accounted
  | cons occurrence later inductionHypothesis =>
      exact inductionHypothesis (Occurrence.step_consistent app consistent)
        (accounted.step app consistent (names occurrence List.mem_cons_self))
        fun other present => names other (List.mem_cons_of_mem _ present)

/-- A run that ends with a request that reports nothing about the invoice. -/
theorem paidLast_concat_of_silent
    {moment : Option Time}
    {occurrences : List Occurrence}
    (silent : occurrence.reports reference = none) :
    PaidLast app world id reference moment (occurrences ++ [occurrence]) ↔
      PaidLast app world id reference moment occurrences := by
  constructor
  · rintro ⟨earlier, last, later, split, paid, when, stored, quiet⟩
    rcases List.eq_nil_or_concat' later with rfl | ⟨others, final, rfl⟩
    · obtain ⟨-, isLast⟩ := List.append_inj' split rfl
      cases isLast
      rw [silent] at paid
      cases paid
    · rw [← List.cons_append, ← List.append_assoc] at split
      obtain ⟨rfl, -⟩ := List.append_inj' split rfl
      exact ⟨earlier, last, others, rfl, paid, when, stored,
        fun other present => quiet other (List.mem_append_left _ present)⟩
  · rintro ⟨earlier, last, later, rfl, paid, when, stored, quiet⟩
    refine ⟨earlier, last, later ++ [occurrence], ?_, paid, when, stored, ?_⟩
    · rw [List.append_assoc, List.cons_append]
    · intro other present
      rcases List.mem_append.mp present with inLater | isFinal
      · exact quiet other inLater
      · rw [List.mem_singleton.mp isFinal]
        exact silent

/-- A run that ends with a request that reports the invoice. -/
theorem paidLast_concat_of_reports
    {moment : Option Time}
    {occurrences : List Occurrence}
    {status : InvoiceStatus}
    (reports : occurrence.reports reference = some status) :
    PaidLast app world id reference moment (occurrences ++ [occurrence]) ↔
      status = .paid ∧ some occurrence.input.now = moment ∧
        (occurrences.foldl (Occurrence.step app) world).hasSubscription id = true := by
  constructor
  · rintro ⟨earlier, last, later, split, paid, when, stored, quiet⟩
    rcases List.eq_nil_or_concat' later with rfl | ⟨others, final, rfl⟩
    · obtain ⟨rfl, isLast⟩ := List.append_inj' split rfl
      cases isLast
      rw [reports] at paid
      cases paid
      exact ⟨rfl, when, stored⟩
    · rw [← List.cons_append, ← List.append_assoc] at split
      obtain ⟨-, isFinal⟩ := List.append_inj' split rfl
      cases isFinal
      have silent := quiet occurrence (List.mem_append_right _ List.mem_cons_self)
      rw [reports] at silent
      cases silent
  · rintro ⟨rfl, when, stored⟩
    exact ⟨occurrences, occurrence, [], rfl, reports, when, stored, List.forall_mem_nil _⟩

end

/-- However the events of an invoice are ordered and repeated, its row is in the end
the one of its first processed payment exactly if the last delivery processed is such a
payment, and finds the row of the subscription. -/
theorem invoice_settled_iff
    (app : Deployment)
    {start : World}
    (consistent : start.Consistent)
    {id : StripeSubscriptionId}
    {reference : StripeReference}
    (unbilled : start.invoiceState reference = [])
    (occurrences : List Occurrence)
    (names : ∀ occurrence ∈ occurrences, occurrence.Bills id reference) :
    (occurrences.foldl (Occurrence.step app) start).invoiceState reference =
        [(.paid, firstPaid reference occurrences)] ↔
      PaidLast app start id reference (firstPaid reference occurrences) occurrences := by
  have initial : start.Accounted id reference := by
    refine ⟨?_, fun _ => unbilled⟩
    rw [unbilled]
    exact Nat.zero_le 1
  generalize firstPaid reference occurrences = moment
  induction occurrences using List.reverseRecOn with
  | nil =>
      rw [List.foldl_nil, unbilled]
      refine iff_of_false nofun ?_
      rintro ⟨earlier, last, later, split, -⟩
      exact absurd split (by simp)
  | append_singleton occurrences occurrence inductionHypothesis =>
      have earlierNames : ∀ other ∈ occurrences, other.Bills id reference :=
        fun other present => names other (List.mem_append_left _ present)
      have accounted := accounted_run app consistent initial occurrences earlierNames
      rw [List.foldl_append, List.foldl_cons, List.foldl_nil]
      cases reports : occurrence.reports reference with
      | none =>
          rw [occurrence.invoiceState_of_silent app _ reports, paidLast_concat_of_silent reports]
          exact inductionHypothesis earlierNames
      | some status =>
          have named := names occurrence (List.mem_append_right _ List.mem_cons_self)
          rw [paidLast_concat_of_reports reports,
            Occurrence.invoiceState_of_reports app named accounted.single reports]
          cases stored : (occurrences.foldl (Occurrence.step app) start).hasSubscription id with
          | false =>
              rw [if_neg Bool.false_ne_true, accounted.owned stored]
              exact iff_of_false nofun fun holds => Bool.false_ne_true holds.2.2
          | true =>
              rw [if_pos rfl, List.singleton_inj, reportedAt, Prod.mk.injEq]
              refine and_congr_right fun isPaid => ?_
              rw [if_pos isPaid]
              exact (and_iff_left rfl).symm

/-- A payment of the sample subscription. -/
def samplePayment (now : Time) : Occurrence :=
  sampleDelivery now
    (.invoicePaid { id := 20, subscription := some 7, amountPaid := 4900 })
    [sampleSubscription 7 .active]

/-- The creation of the sample subscription. -/
def sampleCreation (now : Time) : Occurrence :=
  sampleDelivery now (.subscriptionCreated (sampleSubscription 7 .active))
    [sampleSubscription 7 .active]

/-- A payment after a failed attempt and the creation of the row. -/
theorem invoice_settled_iff_retried :
    ([sampleCreation 1000, sampleFailure 2000, samplePayment 3000].foldl
        (Occurrence.step sampleDeployment) sampleBackend).invoiceState 20 =
      [(.paid, some 3000)] := by
  have names : ∀ occurrence ∈ [sampleCreation 1000, sampleFailure 2000, samplePayment 3000],
      occurrence.Bills 7 20 := by
    intro occurrence present event invoice status asked reported isReference
    simp only [List.mem_cons, List.not_mem_nil, or_false] at present
    rcases present with rfl | rfl | rfl <;> cases asked <;> cases reported
    · rfl
    · rfl
  exact (invoice_settled_iff sampleDeployment
    (World.consistent_of_no_rows fun product => by cases product <;> rfl) (by rfl)
    [sampleCreation 1000, sampleFailure 2000, samplePayment 3000] names).mpr
    ⟨[sampleCreation 1000, sampleFailure 2000], samplePayment 3000, [], rfl, rfl, rfl,
      by decide, List.forall_mem_nil _⟩

/-- A payment that comes before the row of the subscription is lost, one that a late
failure follows is reopened, and one that is delivered again is dated anew. -/
theorem paid_invoice_lost_reopened_redated :
    ([samplePayment 1000, sampleCreation 2000].foldl
        (Occurrence.step sampleDeployment) sampleBackend).invoiceState 20 = [] ∧
      ([sampleCreation 1000, samplePayment 2000, sampleFailure 3000].foldl
        (Occurrence.step sampleDeployment) sampleBackend).invoiceState 20 = [(.open, none)] ∧
      ([sampleCreation 1000, samplePayment 2000, samplePayment 3000].foldl
        (Occurrence.step sampleDeployment) sampleBackend).invoiceState 20 =
          [(.paid, some 3000)] := by
  decide

end ConferenceContact
