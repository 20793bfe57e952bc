import ConferenceContact.Foundation.Crews
import ConferenceContact.Foundation.Respects
import ConferenceContact.Billing.Ledger
import ConferenceContact.Outreach.ReminderStages

/-!
# One reminder for each renewal

Scans that follow each other at most two days apart cannot miss the two days in
which a renewal is between six and eight days away.  The scan that comes upon it
first sends its reminder and marks the subscription before the next one starts.
-/

namespace ConferenceContact

open Process RenewalReminderService

/-! ## Runs of scans -/

/-- What happens next: a scan starts by reading the clock, or the scan in progress makes
its next call, or another request does. -/
inductive ReminderAction
  | start
  | scan (turn : CrewTurn Input ApiError)
  | other (turn : CrewTurn Input ApiError)

/-- An action, and the time since the one before. -/
structure ReminderEvent where
  elapsed : Nat
  action : ReminderAction

/-- The scan in progress or the last one, when it started, the requests beside it, and the
reminders that the queue has accepted, the latest first. -/
structure ReminderRun where
  world : World
  clock : Time
  started : Option Time := none
  scan : ReminderStage := .finished (.ok 0)
  others : List (Service Unit) := []
  sent : List (Product × Reminder) := []

/-- The reminder whose job the queue accepts in a call. -/
def ReminderStage.sends : ReminderStage → Input → List (Product × Reminder)
  | enqueue _ product reminder _ _, input =>
      if input.queueAvailable then [(product, reminder)] else []
  | _, _ => []

namespace ReminderRun

/-- A run after one event more. -/
def step (run : ReminderRun) (event : ReminderEvent) : ReminderRun :=
  let clock := run.clock + event.elapsed
  match event.action with
  | .start => { run with clock, started := some clock, scan := .find clock .directory 0 }
  | .scan turn =>
      match turn.rejected with
      | none =>
          { run with
            clock
            world := ReminderStage.machine.effect run.scan turn.input run.world
            scan := ReminderStage.machine.next run.scan turn.input run.world
            sent := run.scan.sends turn.input ++ run.sent }
      | some error => { run with clock, scan := ReminderStage.machine.abort run.scan error }
  | .other turn =>
      let crew := Process.machine.step ⟨run.world, run.others⟩ turn
      { run with clock, world := crew.state, others := crew.members }

end ReminderRun

/-- A run in which a scan is the code that is left of `sendDueReminders`, with the jobs that
the queue has accepted from scans, the latest first. -/
structure ScanRun where
  world : World
  clock : Time
  scan : Service Nat := pure 0
  others : List (Service Unit) := []
  accepted : List EmailJob := []

/-- A run of the code after one event more. -/
def ScanRun.step (run : ScanRun) (event : ReminderEvent) : ScanRun :=
  let clock := run.clock + event.elapsed
  match event.action with
  | .start =>
      { run with clock, scan := sendDueReminders.residual { now := clock } run.world }
  | .scan turn =>
      match turn.rejected with
      | none =>
          let world := run.scan.effect turn.input run.world
          { run with
            clock
            world
            scan := run.scan.residual turn.input run.world
            accepted :=
              world.outbox.take (world.outbox.length - run.world.outbox.length) ++
                run.accepted }
      | some error => { run with clock, scan := run.scan.rejected error }
  | .other turn =>
      let crew := Process.machine.step ⟨run.world, run.others⟩ turn
      { run with clock, world := crew.state, others := crew.members }

/-- The marking of a subscription adds no job to the queue. -/
theorem ReminderStage.marked_outbox
    (product : Product)
    (reminder : Reminder)
    (world : World) : (marked product reminder world).outbox = world.outbox := by
  unfold marked
  cases rewriteRow reminder.subscription.id _ (world.rows product) with
  | ok rows => cases product <;> rfl
  | error error => rfl

/-- The jobs that a call of a scan adds to the queue are those of the reminders it sends. -/
theorem ReminderStage.outbox_effect
    (stage : ReminderStage)
    (input : Input)
    (world : World) :
    (machine.effect stage input world).outbox =
      (stage.sends input).map (·.2.job) ++ world.outbox := by
  cases stage with
  | enqueue now product reminder rest sent =>
      dsimp only [machine, sends]
      cases input.queueAvailable <;> rfl
  | mark now product reminder rest sent => exact marked_outbox product reminder world
  | readClock => rfl
  | find now product sent => rfl
  | finished outcome => rfl

namespace ReminderRun

/-- What a run is of the code. -/
def code (run : ReminderRun) : ScanRun where
  world := run.world
  clock := run.clock
  scan := run.scan.code
  others := run.others
  accepted := run.sent.map (·.2.job)

/-- An event moves a run as it moves the code. -/
theorem code_step (run : ReminderRun) (event : ReminderEvent) :
    run.code.step event = (run.step event).code := by
  obtain ⟨elapsed, action⟩ := event
  cases action with
  | start => rfl
  | other turn => rfl
  | scan turn =>
      unfold step ScanRun.step code
      dsimp only
      cases rejected : turn.rejected with
      | some error =>
          dsimp only
          rw [ReminderStage.implements.abort]
      | none =>
          dsimp only
          rw [ReminderStage.implements.effect, ReminderStage.implements.next,
            ReminderStage.outbox_effect, List.length_append, Nat.add_sub_cancel,
            List.take_left, List.map_append]

/-- A run is what the code makes of its events. -/
theorem code_run (run : ReminderRun) (events : List ReminderEvent) :
    (events.foldl step run).code = events.foldl ScanRun.step run.code :=
  (List.foldl_hom code code_step).symm

end ReminderRun

/-! ## A renewal and its reminder -/

/-- The renewal of a subscription at the end of a period. -/
structure Renewal where
  product : Product
  id : Nat
  periodEnd : Time

namespace Renewal

variable (renewal : Renewal)

/-- A reminder is for the subscription. -/
def concerns (entry : Product × Reminder) : Bool :=
  entry.1 = renewal.product && entry.2.subscription.id = renewal.id

/-- A reminder is for the renewal. -/
def about (entry : Product × Reminder) : Bool :=
  renewal.concerns entry && entry.2.subscription.currentPeriodEnd = renewal.periodEnd

/-- The renewal is between six and eight days away. -/
def InWindow (now : Time) : Prop :=
  now + reminderWindowStartDays * 86400000 ≤ renewal.periodEnd ∧
    renewal.periodEnd ≤ now + reminderWindowEndDays * 86400000

/-- The renewal is more than eight days away. -/
def IsAhead (now : Time) : Prop := now + reminderWindowEndDays * 86400000 < renewal.periodEnd

/-- The renewal is less than six days away. -/
def IsPast (now : Time) : Prop := renewal.periodEnd < now + reminderWindowStartDays * 86400000

/-- The row of the subscription. -/
def row (world : World) : Option SubscriptionRow :=
  (world.rows renewal.product).find? fun row => row.id = renewal.id

/-- The period for which a reminder was sent. -/
def marker (world : World) : Option Time :=
  (renewal.row world).bind (·.renewalReminderSentForPeriodEnd)

/-- The subscription is active and is to renew at the end of its period; its user and its
plan or tier exist. -/
def IsDue (world : World) : Prop :=
  ∃ row, renewal.row world = some row ∧ (row.status = .active ∨ row.status = .trialing) ∧
    row.cancelAtPeriodEnd = false ∧ row.currentPeriodEnd = renewal.periodEnd ∧
    SubscriptionTable.referencesExist renewal.product world row.userId row.productId = true

/-- What the other requests leave alone: the ids of rows stay distinct, and the marker of
the subscription is not set. -/
structure Spares (before after : World) : Prop where
  distinct : ((before.rows renewal.product).map (·.id)).Nodup →
    ((after.rows renewal.product).map (·.id)).Nodup
  unmarked : ∀ row, renewal.row after = some row →
    row.renewalReminderSentForPeriodEnd = renewal.marker before

instance : Std.Refl renewal.Spares where
  refl world := by
    refine ⟨fun distinct => distinct, fun row found => ?_⟩
    rw [marker, found]
    rfl

/-- In the window, and until the scan that has started in it is over, the subscription is
due. -/
def Stays (run : ReminderRun) : Prop :=
  (renewal.InWindow run.clock ∨
      ∃ started, run.started = some started ∧ renewal.InWindow started ∧
        ∀ outcome, run.scan ≠ .finished outcome) →
    renewal.IsDue run.world

/-- A scan starts when the last one is over and at most two days after that one started,
the first one when the renewal is more than eight days away. -/
def Allows (run : ReminderRun) (event : ReminderEvent) : Prop :=
  match event.action with
  | .start =>
      (∃ outcome, run.scan = .finished outcome) ∧
        match run.started with
        | none => renewal.IsAhead (run.clock + event.elapsed)
        | some started => run.clock + event.elapsed ≤ started + 2 * 86400000
  | .scan turn =>
      turn.rejected = none ∧ turn.input.queueAvailable = true ∧
        match run.scan with
        | .mark _ product reminder _ _ =>
            ReminderStage.marks product reminder run.world = true
        | _ => True
  | .other _ => True

instance (world : World) : Decidable (renewal.IsDue world) :=
  match found : renewal.row world with
  | none => isFalse fun ⟨row, present, _⟩ => by
      rw [found] at present
      cases present
  | some row =>
      decidable_of_iff
        ((row.status = .active ∨ row.status = .trialing) ∧ row.cancelAtPeriodEnd = false ∧
          row.currentPeriodEnd = renewal.periodEnd ∧
          SubscriptionTable.referencesExist renewal.product world row.userId row.productId = true)
        ⟨fun due => ⟨row, found, due⟩, fun ⟨other, present, due⟩ => by
          obtain rfl := Option.some.inj (found.symm.trans present)
          exact due⟩

instance (now : Time) : Decidable (renewal.InWindow now) :=
  inferInstanceAs (Decidable (_ ∧ _))

instance (now : Time) : Decidable (renewal.IsAhead now) :=
  inferInstanceAs (Decidable (_ < _))

instance (now : Time) : Decidable (renewal.IsPast now) :=
  inferInstanceAs (Decidable (_ < _))

instance (stage : ReminderStage) : Decidable (∃ outcome, stage = .finished outcome) :=
  match stage with
  | .finished outcome => isTrue ⟨outcome, rfl⟩
  | .readClock => isFalse nofun
  | .find _ _ _ => isFalse nofun
  | .enqueue _ _ _ _ _ => isFalse nofun
  | .mark _ _ _ _ _ => isFalse nofun

instance (run : ReminderRun) : Decidable (renewal.Stays run) :=
  have : Decidable (∃ started, run.started = some started ∧ renewal.InWindow started ∧
      ∀ outcome, run.scan ≠ .finished outcome) :=
    match run.started with
    | none => isFalse nofun
    | some started =>
        decidable_of_iff
          (renewal.InWindow started ∧ ¬∃ outcome, run.scan = .finished outcome)
          ⟨fun ⟨window, running⟩ => ⟨started, rfl, window, not_exists.mp running⟩,
            fun ⟨_, equal, window, running⟩ =>
              ⟨Option.some.inj equal ▸ window, not_exists.mpr running⟩⟩
  inferInstanceAs (Decidable (_ ∨ _ → _))

instance (run : ReminderRun) (event : ReminderEvent) : Decidable (renewal.Allows run event) :=
  match event with
  | ⟨elapsed, .start⟩ =>
      match same : run.started with
      | none =>
          decidable_of_iff
            ((∃ outcome, run.scan = .finished outcome) ∧
              renewal.IsAhead (run.clock + elapsed))
            (by unfold Allows; rw [same])
      | some started =>
          decidable_of_iff
            ((∃ outcome, run.scan = .finished outcome) ∧
              run.clock + elapsed ≤ started + 2 * 86400000)
            (by unfold Allows; rw [same])
  | ⟨_, .scan turn⟩ =>
      match stage : run.scan with
      | .mark _ product reminder _ _ =>
          decidable_of_iff
            (turn.rejected = none ∧ turn.input.queueAvailable = true ∧
              ReminderStage.marks product reminder run.world = true)
            (by unfold Allows; rw [stage])
      | .readClock | .find _ _ _ | .enqueue _ _ _ _ _ | .finished _ =>
          decidable_of_iff (turn.rejected = none ∧ turn.input.queueAvailable = true)
            (by unfold Allows; rw [stage]; simp)
  | ⟨_, .other _⟩ => isTrue trivial

/-- The reminders for the renewal that the queue has accepted. -/
def count (run : ReminderRun) : Nat := run.sent.countP renewal.about

end Renewal

/-! ## What a scan has still to look at -/

namespace ReminderStage

/-- The subscriptions that are found and still to be looked at. -/
def snapshots : ReminderStage → List (Product × Reminder)
  | enqueue _ product reminder rest _ => (reminder :: rest).map (product, ·)
  | mark _ product _ rest _ => rest.map (product, ·)
  | _ => []

/-- The reminder whose subscription is to be marked. -/
def marking : ReminderStage → Option (Product × Reminder)
  | mark _ product reminder _ _ => some (product, reminder)
  | _ => none

/-- The subscriptions of a product are still to be found. -/
def queries (product : Product) : ReminderStage → Bool
  | readClock => true
  | find _ current _ => current = product || current = .directory
  | enqueue _ current _ _ _ => current = .directory && product = .leadFinder
  | mark _ current _ _ _ => current = .directory && product = .leadFinder
  | finished _ => false

/-- The stages of a scan that has started at a moment. -/
def OfScan (started : Time) : ReminderStage → Prop
  | readClock => False
  | find now _ _ => now = started
  | enqueue now _ reminder _ _ => now = started ∧ reminder.done = false
  | mark now _ _ _ _ => now = started
  | finished _ => True

variable {now : Time} {product : Product} {rest : List Reminder} {sent : Nat}

theorem ofScan_loop : (loop now product rest sent).OfScan now := by
  induction rest generalizing sent with
  | nil => cases product <;> trivial
  | cons reminder rest inductionHypothesis =>
      rw [loop]
      split
      · exact inductionHypothesis
      · rename_i undone
        exact ⟨rfl, eq_false_of_ne_true undone⟩

theorem marking_loop : (loop now product rest sent).marking = none := by
  induction rest generalizing sent with
  | nil => cases product <;> rfl
  | cons reminder rest inductionHypothesis =>
      rw [loop]
      split
      · exact inductionHypothesis
      · rfl

theorem queries_loop (other : Product) :
    (loop now product rest sent).queries other =
      (decide (product = .directory) && decide (other = .leadFinder)) := by
  induction rest generalizing sent with
  | nil => cases product <;> cases other <;> rfl
  | cons reminder rest inductionHypothesis =>
      rw [loop]
      split
      · exact inductionHypothesis
      · rfl

/-- The loop looks at nothing but the subscriptions found. -/
theorem snapshots_loop_subset :
    (loop now product rest sent).snapshots ⊆ rest.map (product, ·) := by
  induction rest generalizing sent with
  | nil => cases product <;> exact List.nil_subset _
  | cons reminder rest inductionHypothesis =>
      rw [loop]
      split
      · exact List.subset_cons_of_subset _ inductionHypothesis
      · exact List.Subset.refl _

/-- The loop passes over the reminders that were sent, and over no others. -/
theorem countP_snapshots_loop (condition : Product × Reminder → Bool) :
    ((loop now product rest sent).snapshots.countP fun entry =>
        condition entry && !entry.2.done) =
      (rest.map (product, ·)).countP fun entry => condition entry && !entry.2.done := by
  induction rest generalizing sent with
  | nil => cases product <;> rfl
  | cons reminder rest inductionHypothesis =>
      rw [loop]
      by_cases done : reminder.done = true
      · rw [if_pos done, inductionHypothesis, List.map_cons,
          List.countP_cons_of_neg (by simp [done])]
      · rw [if_neg done]
        rfl

end ReminderStage

/-! ## The subscriptions found -/

/-- The reminder of a row, if the row refers to a user and to a plan or tier. -/
def reminderOf (world : World) (product : Product) (row : SubscriptionRow) : Option Reminder := do
  let user ← world.users.find? fun user => user.id = row.userId
  let (productLabel, amountCents) ← productLabel world row.productId product
  return { subscription := row, recipient := user.email, productLabel, amountCents }

section

variable {world : World} {product : Product} {row : SubscriptionRow} {reminder : Reminder}
  {now : Time}

theorem subscription_reminderOf (joined : reminderOf world product row = some reminder) :
    reminder.subscription = row := by
  unfold reminderOf at joined
  cases user : world.users.find? fun user => user.id = row.userId with
  | none =>
      rw [user] at joined
      cases joined
  | some user =>
      rw [user] at joined
      cases label : productLabel world row.productId product with
      | none =>
          rw [label] at joined
          cases joined
      | some label =>
          rw [label] at joined
          cases joined
          rfl

/-- A row whose references exist has a reminder. -/
theorem isSome_reminderOf
    (exist : SubscriptionTable.referencesExist product world row.userId row.productId = true) :
    (reminderOf world product row).isSome = true := by
  unfold SubscriptionTable.referencesExist at exist
  rw [Bool.and_eq_true] at exist
  obtain ⟨account, plan⟩ := exist
  obtain ⟨user, found⟩ : ∃ user, (world.users.find? fun user => user.id = row.userId) =
      some user := by
    rwa [← Option.isSome_iff_exists, List.find?_isSome, ← List.any_eq_true]
  unfold reminderOf
  rw [found]
  cases product with
  | directory =>
      obtain ⟨plan, found⟩ : ∃ plan, (world.plans.find? fun plan => plan.id = row.productId) =
          some plan := by
        rwa [← Option.isSome_iff_exists, List.find?_isSome, ← List.any_eq_true]
      rw [productLabel, found]
      rfl
  | leadFinder =>
      obtain ⟨tier, found⟩ : ∃ tier,
          (world.leadFinderTiers.find? fun tier => tier.id = row.productId) = some tier := by
        rwa [← Option.isSome_iff_exists, List.find?_isSome, ← List.any_eq_true]
      rw [productLabel, found]
      rfl

theorem mem_renewals (found : reminder ∈ renewals now product world) :
    reminder.subscription ∈ world.rows product ∧ renewsSoon now reminder.subscription = true := by
  obtain ⟨row, present, joined⟩ := List.mem_filterMap.mp found
  rw [subscription_reminderOf joined]
  exact List.mem_filter.mp present

/-- Reminders are counted by their rows. -/
theorem countP_renewals
    (now : Time)
    (product : Product)
    (world : World)
    (condition : SubscriptionRow → Bool) :
    ((renewals now product world).countP fun reminder => condition reminder.subscription) =
      (world.rows product).countP fun row =>
        renewsSoon now row && (condition row && (reminderOf world product row).isSome) := by
  show (((world.rows product).filter (renewsSoon now)).filterMap
    (reminderOf world product)).countP _ = _
  rw [List.countP_filterMap, List.countP_filter]
  refine List.countP_congr fun row _ => ?_
  cases joined : reminderOf world product row with
  | none => simp
  | some reminder => simp [subscription_reminderOf joined, and_comm]

end

namespace Renewal

variable {renewal : Renewal} {world : World} {now : Time}

/-- In the window, the subscription is found by a scan, which has to remind of it unless that
was done. -/
theorem countP_renewals_about
    (distinct : ((world.rows renewal.product).map (·.id)).Nodup)
    (due : renewal.IsDue world)
    (window : renewal.InWindow now) :
    (((renewals now renewal.product world).map (renewal.product, ·)).countP fun entry =>
        renewal.about entry && !entry.2.done) =
      if renewal.marker world = some renewal.periodEnd then 0 else 1 := by
  obtain ⟨row, found, status, uncancelled, periodEnd, exist⟩ := due
  have joined := isSome_reminderOf exist
  have soon : renewsSoon now row = true := by
    have window : now + reminderWindowStartDays * 86400000 ≤ row.currentPeriodEnd ∧
        row.currentPeriodEnd ≤ now + reminderWindowEndDays * 86400000 := periodEnd ▸ window
    unfold renewsSoon
    rw [uncancelled, decide_eq_true window.1, decide_eq_true window.2]
    rcases status with active | trialing
    · rw [active]
      rfl
    · rw [trialing]
      rfl
  calc ((renewals now renewal.product world).map (renewal.product, ·)).countP
        (fun entry => renewal.about entry && !entry.2.done)
      = (renewals now renewal.product world).countP fun reminder =>
          reminder.subscription.id = renewal.id &&
            (reminder.subscription.currentPeriodEnd = renewal.periodEnd &&
              reminder.subscription.renewalReminderSentForPeriodEnd ≠ some renewal.periodEnd) := by
        rw [List.countP_map]
        refine List.countP_congr fun reminder _ => ?_
        unfold Renewal.about Renewal.concerns Reminder.done
        simp only [Function.comp_apply, decide_true, Bool.true_and, Bool.and_eq_true,
          decide_eq_true_eq, Bool.not_eq_true', decide_eq_false_iff_not, ne_eq, and_assoc]
        refine and_congr_right fun _ => and_congr_right fun same => ?_
        rw [same]
    _ = (world.rows renewal.product).countP fun row =>
          row.id = renewal.id &&
            (renewsSoon now row && (row.currentPeriodEnd = renewal.periodEnd &&
              row.renewalReminderSentForPeriodEnd ≠ some renewal.periodEnd &&
              (reminderOf world renewal.product row).isSome)) := by
        rw [countP_renewals now renewal.product world fun row =>
          row.id = renewal.id && (row.currentPeriodEnd = renewal.periodEnd &&
            row.renewalReminderSentForPeriodEnd ≠ some renewal.periodEnd)]
        refine List.countP_congr fun row _ => ?_
        simp only [Bool.and_eq_true]
        tauto
    _ = if renewal.marker world = some renewal.periodEnd then 0 else 1 := by
        rw [Table.countP_key_and distinct (fun row => renewsSoon now row &&
          (row.currentPeriodEnd = renewal.periodEnd &&
            row.renewalReminderSentForPeriodEnd ≠ some renewal.periodEnd &&
            (reminderOf world renewal.product row).isSome)) renewal.id]
        have stored : ((world.rows renewal.product).find? fun row => row.id = renewal.id) =
            some row := found
        rw [stored, Renewal.marker, found, Option.any_some, Option.bind_some, soon, periodEnd,
          joined]
        by_cases marked : row.renewalReminderSentForPeriodEnd = some renewal.periodEnd
        · simp [marked]
        · simp [marked]

/-- The renewals that are found are in the window. -/
theorem inWindow_of_found
    {product : Product}
    {reminder : Reminder}
    (found : reminder ∈ renewals now product world)
    (about : renewal.about (product, reminder) = true) :
    renewal.InWindow now := by
  have soon := (mem_renewals found).2
  unfold Renewal.about at about
  unfold renewsSoon at soon
  simp only [Bool.and_eq_true, decide_eq_true_eq] at about soon
  rw [about.2] at soon
  exact ⟨soon.1.2, soon.2⟩

/-- While the subscription is due, it is found for this renewal only. -/
theorem about_of_found
    {reminder : Reminder}
    (distinct : ((world.rows renewal.product).map (·.id)).Nodup)
    (due : renewal.IsDue world)
    (found : reminder ∈ renewals now renewal.product world)
    (concerns : reminder.subscription.id = renewal.id) :
    reminder.subscription.currentPeriodEnd = renewal.periodEnd := by
  obtain ⟨row, stored, -, -, periodEnd, -⟩ := due
  have present := (mem_renewals found).1
  have rowId : row.id = renewal.id := by simpa using List.find?_some stored
  have same : reminder.subscription = row :=
    Table.eq_of_key_eq distinct present (List.mem_of_find?_eq_some stored)
      (concerns.trans rowId.symm)
  rw [same, periodEnd]

/-- The rows after the marking of a subscription. -/
def markedRows
    (reminder : Reminder)
    (rows : List SubscriptionRow) : List SubscriptionRow :=
  Table.updateWhere (fun row => row.id = reminder.subscription.id)
    (fun stored =>
      { stored with
        renewalReminderSentForPeriodEnd := some reminder.subscription.currentPeriodEnd })
    rows

/-- The marking of a subscription takes place on a row that is there, or changes nothing. -/
theorem marked_cases (product : Product) (reminder : Reminder) (world : World) :
    (ReminderStage.marks product reminder world = true ∧
        (∃ row, ((world.rows product).find? fun row =>
          row.id = reminder.subscription.id) = some row) ∧
        ReminderStage.marked product reminder world =
          world.setRows (markedRows reminder (world.rows product)) product) ∨
      (ReminderStage.marks product reminder world = false ∧
        ReminderStage.marked product reminder world = world) := by
  unfold ReminderStage.marks ReminderStage.marked rewriteRow
  cases found : (world.rows product).find? fun row => row.id = reminder.subscription.id with
  | none => exact .inr ⟨rfl, rfl⟩
  | some row =>
      dsimp only
      cases conflicts (world.rows product)
          { row with
            renewalReminderSentForPeriodEnd := some reminder.subscription.currentPeriodEnd } with
      | true => exact .inr ⟨rfl, rfl⟩
      | false => exact .inl ⟨rfl, ⟨row, rfl⟩, rfl⟩

/-- The row of a subscription after a marking. -/
theorem row_marked
    {product : Product}
    {reminder : Reminder}
    (marks : ReminderStage.marks product reminder world = true) :
    renewal.row (ReminderStage.marked product reminder world) =
      (renewal.row world).map fun row =>
        if renewal.concerns (product, reminder) then
          { row with
            renewalReminderSentForPeriodEnd := some reminder.subscription.currentPeriodEnd }
        else row := by
  obtain ⟨-, -, after⟩ | ⟨unmarked, -⟩ := marked_cases product reminder world
  · rw [after]
    unfold Renewal.row concerns
    by_cases here : product = renewal.product
    · subst here
      rw [World.rows_setRows, markedRows,
        Table.find?_updateWhere SubscriptionRow.id _ _ _ _ (by exact fun _ => rfl)]
      cases found : (world.rows renewal.product).find? fun row => row.id = renewal.id with
      | none => rfl
      | some row =>
          have rowId : row.id = renewal.id := by simpa using List.find?_some found
          simp [rowId, eq_comm]
    · rw [World.rows_setRows_of_ne _ _ (Ne.symm here)]
      simp [here]
  · rw [marks] at unmarked
    cases unmarked

/-- The marking of a subscription. -/
theorem marker_marked
    {product : Product}
    {reminder : Reminder}
    (marks : ReminderStage.marks product reminder world = true) :
    renewal.marker (ReminderStage.marked product reminder world) =
      if renewal.concerns (product, reminder) then
        some reminder.subscription.currentPeriodEnd
      else renewal.marker world := by
  unfold marker
  rw [row_marked marks]
  cases concerned : renewal.concerns (product, reminder) with
  | false => simp
  | true =>
      obtain ⟨-, ⟨row, stored⟩, -⟩ | ⟨unmarked, -⟩ := marked_cases product reminder world
      · unfold concerns at concerned
        simp only [Bool.and_eq_true, decide_eq_true_eq] at concerned
        obtain ⟨rfl, same⟩ := concerned
        rw [same] at stored
        rw [Renewal.row, stored]
        rfl
      · rw [marks] at unmarked
        cases unmarked

/-- The marking of a subscription keeps all ids. -/
theorem ids_marked (product other : Product) (reminder : Reminder) (world : World) :
    ((ReminderStage.marked product reminder world).rows other).map (·.id) =
      (world.rows other).map (·.id) := by
  obtain ⟨-, -, after⟩ | ⟨-, after⟩ := marked_cases product reminder world
  · rw [after]
    by_cases here : other = product
    · subst here
      rw [World.rows_setRows, markedRows]
      exact Table.map_updateWhere SubscriptionRow.id _ _ _ fun _ => rfl
    · rw [World.rows_setRows_of_ne _ _ here]
  · rw [after]

/-! ## What holds of a run -/

/-- The reminders for the renewal that a scan is still to send. -/
def unsent (renewal : Renewal) (stage : ReminderStage) : Nat :=
  stage.snapshots.countP fun entry => renewal.about entry && !entry.2.done

/-- The scan is about to mark the subscription for the renewal. -/
def Marks (renewal : Renewal) (stage : ReminderStage) : Prop :=
  ∃ entry, stage.marking = some entry ∧ renewal.about entry = true

/-- What a scan has found of the subscription is its renewal at the end of this period. -/
def Exact (renewal : Renewal) (stage : ReminderStage) : Prop :=
  ∀ entry, entry ∈ stage.snapshots ∨ stage.marking = some entry →
    renewal.concerns entry = true → renewal.about entry = true

/-- The last scan has started in the window. -/
def Entered (renewal : Renewal) (run : ReminderRun) : Prop :=
  ∃ started, run.started = some started ∧ renewal.InWindow started

/-- How far a run has got with the reminder for the renewal. -/
inductive Phase (renewal : Renewal) (run : ReminderRun) : Prop
  | ahead
      (early : ∀ started, run.started = some started → renewal.IsAhead started)
      (count : renewal.count run = 0)
      (unmarked : renewal.marker run.world ≠ some renewal.periodEnd)
      (calm : renewal.unsent run.scan = 0)
      (unmarking : ¬renewal.Marks run.scan)
  | due
      (entered : renewal.Entered run)
      (exactly : renewal.Exact run.scan)
      (count : renewal.count run = 0)
      (unmarked : renewal.marker run.world ≠ some renewal.periodEnd)
      (unmarking : ¬renewal.Marks run.scan)
      (faces : renewal.unsent run.scan +
        (if run.scan.queries renewal.product then 1 else 0) = 1)
  | sending
      (entered : renewal.Entered run)
      (exactly : renewal.Exact run.scan)
      (count : renewal.count run = 1)
      (calm : renewal.unsent run.scan = 0)
      (found : run.scan.queries renewal.product = false)
      (marking : renewal.Marks run.scan)
  | reminded
      (entered : renewal.Entered run)
      (exactly : renewal.Exact run.scan)
      (count : renewal.count run = 1)
      (calm : renewal.unsent run.scan = 0)
      (unmarking : ¬renewal.Marks run.scan)
      (marked : renewal.marker run.world = some renewal.periodEnd ∨
        (∃ outcome, run.scan = .finished outcome) ∧ renewal.IsPast run.clock)
  | past
      (late : ∃ started, run.started = some started ∧ renewal.IsPast started)
      (count : renewal.count run = 1)
      (calm : renewal.unsent run.scan = 0)
      (unmarking : ¬renewal.Marks run.scan)

/-- What holds of the renewal all along. -/
structure Watched (renewal : Renewal) (run : ReminderRun) : Prop where
  distinct : ((run.world.rows renewal.product).map (·.id)).Nodup
  others : ∀ service ∈ run.others, service.Respects renewal.Spares
  begun : ∀ started, run.started = some started → started ≤ run.clock ∧ run.scan.OfScan started
  idle : run.started = none → ∃ outcome, run.scan = .finished outcome
  stays : renewal.Stays run
  phase : renewal.Phase run

/-- Other requests leave the marker of a subscription that is due. -/
theorem Spares.marker_eq
    {before after : World}
    (spares : renewal.Spares before after)
    (due : renewal.IsDue after) :
    renewal.marker after = renewal.marker before := by
  obtain ⟨row, found, -⟩ := due
  rw [Renewal.marker, found]
  exact spares.unmarked row found

theorem Spares.unmarked_of
    {before after : World}
    (spares : renewal.Spares before after)
    (unmarked : renewal.marker before ≠ some renewal.periodEnd) :
    renewal.marker after ≠ some renewal.periodEnd := by
  rw [Renewal.marker]
  cases found : renewal.row after with
  | none => exact nofun
  | some row =>
      rw [Option.bind_some, spares.unmarked row found]
      exact unmarked

/-- A moment after one in the window is in it or past it. -/
theorem isPast_of_not_inWindow
    {earlier later : Time}
    (window : renewal.InWindow earlier)
    (order : earlier ≤ later)
    (left : ¬renewal.InWindow later) :
    renewal.IsPast later := by
  have closed : renewal.periodEnd ≤ later + reminderWindowEndDays * 86400000 :=
    Nat.le_trans window.2 (Nat.add_le_add_right order _)
  exact Nat.lt_of_not_le fun opened => left ⟨opened, closed⟩

/-- A scan that is over has nothing to send. -/
theorem not_faces_finished {outcome : Except ApiError Nat} {stage : ReminderStage}
    (finished : stage = .finished outcome) :
    renewal.unsent stage + (if stage.queries renewal.product then 1 else 0) ≠ 1 := by
  rw [finished]
  exact Nat.zero_ne_one

/-- A call of another request. -/
theorem Watched.other
    {run : ReminderRun}
    (watched : renewal.Watched run)
    {clock : Time}
    (later : run.clock ≤ clock)
    {world : World}
    (spares : renewal.Spares run.world world)
    {others : List (Service Unit)}
    (respect : ∀ service ∈ others, service.Respects renewal.Spares)
    (stays : renewal.Stays { run with clock, world, others }) :
    renewal.Watched { run with clock, world, others } := by
  refine ⟨spares.distinct watched.distinct, respect, ?_, watched.idle, stays, ?_⟩
  · intro started same
    obtain ⟨order, ofScan⟩ := watched.begun started same
    exact ⟨Nat.le_trans order later, ofScan⟩
  · cases watched.phase with
    | ahead early count unmarked calm unmarking =>
        exact .ahead early count (spares.unmarked_of unmarked) calm unmarking
    | due entered exactly count unmarked unmarking faces =>
        exact .due entered exactly count (spares.unmarked_of unmarked) unmarking faces
    | sending entered exactly count calm found marking =>
        exact .sending entered exactly count calm found marking
    | reminded entered exactly count calm unmarking marked =>
        refine .reminded entered exactly count calm unmarking ?_
        obtain ⟨started, same, window⟩ := entered
        have order := Nat.le_trans (watched.begun started same).1 later
        by_cases due : renewal.IsDue world
        · rcases marked with marked | ⟨finished, past⟩
          · exact .inl ((spares.marker_eq due).trans marked)
          · exact .inr ⟨finished, Nat.lt_of_lt_of_le past (Nat.add_le_add_right later _)⟩
        · have elapsed : ¬(renewal.InWindow clock ∨ ∃ started, run.started = some started ∧
              renewal.InWindow started ∧ ∀ outcome, run.scan ≠ .finished outcome) :=
            fun premise => due (stays premise)
          rw [not_or] at elapsed
          refine .inr ⟨?_, isPast_of_not_inWindow window order elapsed.1⟩
          by_contra running
          exact elapsed.2 ⟨started, same, window, fun outcome equal => running ⟨outcome, equal⟩⟩
    | past late count calm unmarking => exact .past late count calm unmarking

/-- Two days later, the renewal is still six days away. -/
theorem IsAhead.opened
    {earlier later : Time}
    (ahead : renewal.IsAhead earlier)
    (near : later ≤ earlier + 2 * 86400000) :
    later + reminderWindowStartDays * 86400000 ≤ renewal.periodEnd :=
  calc later + reminderWindowStartDays * 86400000
      ≤ earlier + 2 * 86400000 + reminderWindowStartDays * 86400000 :=
        Nat.add_le_add_right near _
    _ = earlier + reminderWindowEndDays * 86400000 := Nat.add_assoc _ _ _
    _ ≤ renewal.periodEnd := Nat.le_of_lt ahead

/-- A scan that starts has everything to find, and nothing at hand. -/
theorem Watched.start
    {run : ReminderRun}
    (watched : renewal.Watched run)
    {clock : Time}
    (later : run.clock ≤ clock)
    (ended : ∃ outcome, run.scan = .finished outcome)
    (near : match run.started with
      | none => renewal.IsAhead clock
      | some started => clock ≤ started + 2 * 86400000)
    (stays : renewal.Stays
      { run with clock, started := some clock, scan := .find clock .directory 0 }) :
    renewal.Watched
      { run with clock, started := some clock, scan := .find clock .directory 0 } := by
  have unmarking : ¬renewal.Marks (.find clock .directory 0) := by
    rintro ⟨entry, marking, -⟩
    cases marking
  have exactly : renewal.Exact (.find clock .directory 0) := by
    rintro entry (found | marking)
    · cases found
    · cases marking
  refine ⟨watched.distinct, watched.others, ?_, nofun, stays, ?_⟩
  · rintro started ⟨⟩
    exact ⟨Nat.le_refl _, rfl⟩
  · have faces : renewal.unsent (.find clock .directory 0) +
        (if (ReminderStage.find clock .directory 0).queries renewal.product then 1 else 0) = 1 := by
      simp [unsent, ReminderStage.snapshots, ReminderStage.queries]
    obtain ⟨outcome, finished⟩ := ended
    cases watched.phase with
    | ahead early count unmarked calm _ =>
        by_cases ahead : renewal.IsAhead clock
        · exact .ahead (by rintro started ⟨⟩; exact ahead) count unmarked rfl unmarking
        · have closed : renewal.periodEnd ≤ clock + reminderWindowEndDays * 86400000 :=
            Nat.le_of_not_lt ahead
          have opened : clock + reminderWindowStartDays * 86400000 ≤ renewal.periodEnd := by
            cases started : run.started with
            | none =>
                rw [started] at near
                exact absurd near ahead
            | some started' =>
                rw [started] at near
                exact (early started' started).opened near
          exact .due ⟨clock, rfl, opened, closed⟩ exactly count unmarked unmarking faces
    | due entered _ count unmarked _ before =>
        exact absurd before (not_faces_finished finished)
    | sending entered _ count calm found marking =>
        obtain ⟨entry, marking, -⟩ := marking
        rw [finished] at marking
        cases marking
    | reminded entered _ count calm _ marked =>
        obtain ⟨started, same, window⟩ := entered
        have order := Nat.le_trans (watched.begun started same).1 later
        by_cases inside : renewal.InWindow clock
        · rcases marked with marked | ⟨-, past⟩
          · exact .reminded ⟨clock, rfl, inside⟩ exactly count rfl unmarking (.inl marked)
          · have past : renewal.IsPast clock :=
              Nat.lt_of_lt_of_le past (Nat.add_le_add_right later _)
            exact absurd inside.1 (Nat.not_le_of_lt past)
        · exact .past ⟨clock, rfl, isPast_of_not_inWindow window order inside⟩ count rfl
            unmarking
    | past late count calm _ =>
        obtain ⟨started, same, past⟩ := late
        have order := Nat.le_trans (watched.begun started same).1 later
        exact .past ⟨clock, rfl, Nat.lt_of_lt_of_le past (Nat.add_le_add_right order _)⟩ count
          rfl unmarking

/-- A scan in progress has started. -/
theorem Watched.started_of_running
    {run : ReminderRun}
    (watched : renewal.Watched run)
    (running : ∀ outcome, run.scan ≠ .finished outcome) :
    ∃ started, run.started = some started ∧ run.scan.OfScan started := by
  cases same : run.started with
  | none =>
      obtain ⟨outcome, finished⟩ := watched.idle same
      exact absurd finished (running outcome)
  | some started => exact ⟨started, rfl, (watched.begun started same).2⟩

/-- A scan that has started in the window works on a subscription that is due. -/
theorem Watched.isDue
    {run : ReminderRun}
    (watched : renewal.Watched run)
    (running : ∀ outcome, run.scan ≠ .finished outcome)
    (entered : renewal.Entered run) :
    renewal.IsDue run.world := by
  obtain ⟨started, same, window⟩ := entered
  exact watched.stays (.inr ⟨started, same, window, running⟩)

section

variable {product : Product} {rest : List Reminder} {sent : Nat}

theorem not_marks_loop : ¬renewal.Marks (.loop now product rest sent) := by
  rintro ⟨entry, marking, -⟩
  rw [ReminderStage.marking_loop] at marking
  cases marking

theorem unsent_loop :
    renewal.unsent (.loop now product rest sent) =
      (rest.map (product, ·)).countP fun entry => renewal.about entry && !entry.2.done :=
  ReminderStage.countP_snapshots_loop renewal.about

/-- The subscriptions of the other product are of no interest. -/
theorem unsent_loop_of_ne (apart : product ≠ renewal.product) :
    renewal.unsent (.loop now product rest sent) = 0 := by
  rw [unsent_loop, List.countP_eq_zero]
  intro entry listed
  obtain ⟨reminder, -, rfl⟩ := List.mem_map.mp listed
  simp [about, concerns, apart]

/-- Outside the window, the renewal is not found. -/
theorem unsent_found_of_not_inWindow (outside : ¬renewal.InWindow now) :
    renewal.unsent (.loop now product (renewals now product world) sent) = 0 := by
  rw [unsent_loop, List.countP_eq_zero]
  intro entry listed
  obtain ⟨reminder, found, rfl⟩ := List.mem_map.mp listed
  intro holds
  exact outside (inWindow_of_found found (Bool.and_eq_true _ _ ▸ holds).1)

/-- While the subscription is due, nothing else is found of it. -/
theorem exact_found
    (distinct : ((world.rows renewal.product).map (·.id)).Nodup)
    (due : renewal.IsDue world) :
    renewal.Exact (.loop now product (renewals now product world) sent) := by
  rintro entry (listed | marking) concerned
  · obtain ⟨reminder, found, rfl⟩ := List.mem_map.mp (ReminderStage.snapshots_loop_subset listed)
    have same : product = renewal.product ∧ reminder.subscription.id = renewal.id := by
      simpa [concerns] using concerned
    obtain ⟨rfl, sameId⟩ := same
    rw [about, concerned, about_of_found distinct due found sameId]
    simp
  · rw [ReminderStage.marking_loop] at marking
    cases marking

/-- The scan finds the subscriptions of a product. -/
theorem Watched.find
    {run : ReminderRun}
    (watched : renewal.Watched run)
    (scan : run.scan = .find now product sent)
    {clock : Time}
    (later : run.clock ≤ clock)
    (stays : renewal.Stays
      { run with clock, scan := .loop now product (renewals now product run.world) sent }) :
    renewal.Watched
      { run with clock, scan := .loop now product (renewals now product run.world) sent } := by
  have running : ∀ outcome, run.scan ≠ .finished outcome := by
    rw [scan]
    exact nofun
  obtain ⟨started, same, ofScan⟩ := watched.started_of_running running
  rw [scan] at ofScan
  obtain rfl : now = started := ofScan
  have unmarking : ¬renewal.Marks (.loop now product (renewals now product run.world) sent) :=
    not_marks_loop
  refine ⟨watched.distinct, watched.others, ?_, ?_, stays, ?_⟩
  · intro started' same'
    obtain rfl : now = started' := Option.some.inj (same.symm.trans same')
    exact ⟨Nat.le_trans (watched.begun now same).1 later, ReminderStage.ofScan_loop⟩
  · intro none
    rw [same] at none
    cases none
  · cases watched.phase with
    | ahead early count unmarked _ _ =>
        have outside : ¬renewal.InWindow now :=
          fun window => absurd window.2 (Nat.not_le_of_lt (early now same))
        exact .ahead early count unmarked (unsent_found_of_not_inWindow outside) unmarking
    | due entered _ count unmarked _ faces =>
        have isDue := watched.isDue running entered
        obtain ⟨started', same', window⟩ := entered
        obtain rfl : now = started' := Option.some.inj (same.symm.trans same')
        refine .due ⟨now, same, window⟩ (exact_found watched.distinct isDue) count unmarked
          unmarking ?_
        dsimp only
        rw [ReminderStage.queries_loop]
        by_cases here : product = renewal.product
        · subst here
          rw [unsent_loop, countP_renewals_about watched.distinct isDue window, if_neg unmarked]
          cases renewal.product <;> rfl
        · rw [unsent_loop_of_ne here]
          rw [scan] at faces
          revert here faces
          cases product <;> cases renewal.product <;>
            simp [unsent, ReminderStage.snapshots, ReminderStage.queries]
    | sending _ _ _ _ _ marking =>
        obtain ⟨entry, marking, -⟩ := marking
        rw [scan] at marking
        cases marking
    | reminded entered _ count _ _ marked =>
        have isDue := watched.isDue running entered
        obtain ⟨started', same', window⟩ := entered
        obtain rfl : now = started' := Option.some.inj (same.symm.trans same')
        rcases marked with marked | ⟨⟨outcome, finished⟩, -⟩
        · refine .reminded ⟨now, same, window⟩ (exact_found watched.distinct isDue) count ?_
            unmarking (.inl marked)
          by_cases here : product = renewal.product
          · subst here
            dsimp only
            rw [unsent_loop, countP_renewals_about watched.distinct isDue window, if_pos marked]
          · exact unsent_loop_of_ne here
        · exact absurd finished (running outcome)
    | past late count _ _ =>
        obtain ⟨started', same', past⟩ := late
        obtain rfl : now = started' := Option.some.inj (same.symm.trans same')
        have outside : ¬renewal.InWindow now :=
          fun window => absurd window.1 (Nat.not_le_of_lt past)
        exact .past ⟨now, same, past⟩ count (unsent_found_of_not_inWindow outside) unmarking

/-! ### Offering and marking -/

theorem unsent_enqueue
    {reminder : Reminder}
    (undone : reminder.done = false) :
    renewal.unsent (.enqueue now product reminder rest sent) =
      renewal.unsent (.mark now product reminder rest sent) +
        if renewal.about (product, reminder) then 1 else 0 := by
  unfold unsent
  rw [ReminderStage.snapshots, List.map_cons, List.countP_cons, undone, Bool.not_false,
    Bool.and_true]
  rfl

theorem marks_mark {reminder : Reminder} :
    renewal.Marks (.mark now product reminder rest sent) ↔
      renewal.about (product, reminder) = true := by
  constructor
  · rintro ⟨entry, ⟨⟩, about⟩
    exact about
  · exact fun about => ⟨_, rfl, about⟩

/-- What is known of a subscription that is offered is known of it when it is marked. -/
theorem Exact.mark
    {reminder : Reminder}
    (exactly : renewal.Exact (.enqueue now product reminder rest sent)) :
    renewal.Exact (.mark now product reminder rest sent) := by
  rintro entry (listed | marking)
  · exact exactly entry (.inl (List.mem_cons_of_mem _ listed))
  · cases marking
    exact exactly _ (.inl List.mem_cons_self)

theorem Exact.loop
    {reminder : Reminder}
    {made : Nat}
    (exactly : renewal.Exact (.mark now product reminder rest sent)) :
    renewal.Exact (.loop now product rest made) := by
  rintro entry (listed | marking)
  · exact exactly entry (.inl (ReminderStage.snapshots_loop_subset listed))
  · rw [ReminderStage.marking_loop] at marking
    cases marking

/-- The queue accepts the job of a reminder. -/
theorem Watched.enqueue
    {run : ReminderRun}
    (watched : renewal.Watched run)
    {reminder : Reminder}
    (scan : run.scan = .enqueue now product reminder rest sent)
    {clock : Time}
    (later : run.clock ≤ clock)
    {world : World}
    (rows : world.rows renewal.product = run.world.rows renewal.product)
    (stays : renewal.Stays
      { run with
        clock, world, scan := .mark now product reminder rest sent
        sent := (product, reminder) :: run.sent }) :
    renewal.Watched
      { run with
        clock, world, scan := .mark now product reminder rest sent
        sent := (product, reminder) :: run.sent } := by
  have running : ∀ outcome, run.scan ≠ .finished outcome := by
    rw [scan]
    exact nofun
  obtain ⟨started, same, ofScan⟩ := watched.started_of_running running
  rw [scan] at ofScan
  obtain ⟨rfl, undone⟩ := ofScan
  have marker : renewal.marker world = renewal.marker run.world := by
    unfold Renewal.marker Renewal.row
    rw [rows]
  have split : renewal.unsent run.scan =
      renewal.unsent (.mark now product reminder rest sent) +
        if renewal.about (product, reminder) then 1 else 0 := by
    rw [scan]
    exact unsent_enqueue undone
  have queries : (ReminderStage.mark now product reminder rest sent).queries renewal.product =
      run.scan.queries renewal.product := by
    rw [scan]
    rfl
  have spared (calm : renewal.unsent run.scan = 0) :
      renewal.about (product, reminder) = false := by
    cases about : renewal.about (product, reminder) with
    | false => rfl
    | true =>
        rw [about, calm] at split
        cases split
  have counted : renewal.count
      { run with
        clock, world, scan := .mark now product reminder rest sent
        sent := (product, reminder) :: run.sent } =
      renewal.count run + if renewal.about (product, reminder) then 1 else 0 :=
    List.countP_cons
  refine ⟨rows ▸ watched.distinct, watched.others, ?_, ?_, stays, ?_⟩
  · intro started' same'
    obtain rfl : now = started' := Option.some.inj (same.symm.trans same')
    exact ⟨Nat.le_trans (watched.begun now same).1 later, rfl⟩
  · intro none
    rw [same] at none
    cases none
  · cases watched.phase with
    | ahead early count unmarked calm _ =>
        have other := spared calm
        rw [other] at split counted
        exact .ahead early (counted.trans count) (marker ▸ unmarked) (split.symm.trans calm)
          (by rw [marks_mark, other]; exact Bool.false_ne_true)
    | due entered exactly count unmarked _ faces =>
        rw [split] at faces
        cases about : renewal.about (product, reminder) with
        | true =>
            rw [about, if_pos rfl] at faces counted
            have calm : renewal.unsent (.mark now product reminder rest sent) = 0 := by omega
            have found : run.scan.queries renewal.product = false := by
              cases left : run.scan.queries renewal.product with
              | false => rfl
              | true =>
                  rw [left, calm] at faces
                  cases faces
            exact .sending entered (scan ▸ exactly).mark (by rw [counted, count]) calm
              (queries.trans found) (marks_mark.mpr about)
        | false =>
            rw [about] at faces counted
            exact .due entered (scan ▸ exactly).mark (counted.trans count) (marker ▸ unmarked)
              (by rw [marks_mark, about]; exact Bool.false_ne_true) (queries ▸ faces)
    | sending _ _ _ _ _ marking =>
        obtain ⟨entry, marking, -⟩ := marking
        rw [scan] at marking
        cases marking
    | reminded entered exactly count calm _ marked =>
        have other := spared calm
        rw [other] at split counted
        rcases marked with marked | ⟨⟨outcome, finished⟩, -⟩
        · exact .reminded entered (scan ▸ exactly).mark (counted.trans count)
            (split.symm.trans calm) (by rw [marks_mark, other]; exact Bool.false_ne_true)
            (.inl (marker.trans marked))
        · exact absurd finished (running outcome)
    | past late count calm _ =>
        have other := spared calm
        rw [other] at split counted
        exact .past late (counted.trans count) (split.symm.trans calm)
          (by rw [marks_mark, other]; exact Bool.false_ne_true)

/-- The subscription of a reminder is marked. -/
theorem Watched.mark
    {run : ReminderRun}
    (watched : renewal.Watched run)
    {reminder : Reminder}
    (scan : run.scan = .mark now product reminder rest sent)
    (marks : ReminderStage.marks product reminder run.world = true)
    {clock : Time}
    (later : run.clock ≤ clock)
    {made : Nat}
    (stays : renewal.Stays
      { run with
        clock, scan := .loop now product rest made
        world := ReminderStage.marked product reminder run.world }) :
    renewal.Watched
      { run with
        clock, scan := .loop now product rest made
        world := ReminderStage.marked product reminder run.world } := by
  have running : ∀ outcome, run.scan ≠ .finished outcome := by
    rw [scan]
    exact nofun
  obtain ⟨started, same, ofScan⟩ := watched.started_of_running running
  rw [scan] at ofScan
  obtain rfl : now = started := ofScan
  have unmarking : ¬renewal.Marks (.loop now product rest made) := not_marks_loop
  have unsent : renewal.unsent (.loop now product rest made) = renewal.unsent run.scan := by
    rw [scan, unsent_loop]
    rfl
  have queries : (ReminderStage.loop now product rest made).queries renewal.product =
      run.scan.queries renewal.product := by
    rw [scan, ReminderStage.queries_loop]
    rfl
  have marker : renewal.marker (ReminderStage.marked product reminder run.world) =
      if renewal.concerns (product, reminder) then
        some reminder.subscription.currentPeriodEnd
      else renewal.marker run.world := marker_marked marks
  -- A subscription that is not the one of the renewal, or only at the end of another period.
  have other (unmarking : ¬renewal.Marks run.scan) :
      renewal.about (product, reminder) = false := by
    rw [scan, marks_mark] at unmarking
    exact eq_false_of_ne_true unmarking
  have kept (exactly : renewal.Exact run.scan) (unmarking : ¬renewal.Marks run.scan) :
      renewal.marker (ReminderStage.marked product reminder run.world) =
        renewal.marker run.world := by
    rw [marker, if_neg]
    intro concerned
    have about := (scan ▸ exactly) (product, reminder) (.inr rfl) concerned
    rw [other unmarking] at about
    cases about
  refine ⟨(ids_marked product renewal.product reminder run.world).symm ▸ watched.distinct,
    watched.others, ?_, ?_, stays, ?_⟩
  · intro started' same'
    obtain rfl : now = started' := Option.some.inj (same.symm.trans same')
    exact ⟨Nat.le_trans (watched.begun now same).1 later, ReminderStage.ofScan_loop⟩
  · intro none
    rw [same] at none
    cases none
  · cases watched.phase with
    | ahead early count unmarked calm before =>
        refine .ahead early count ?_ (unsent.trans calm) unmarking
        dsimp only
        rw [marker]
        split
        · rename_i concerned
          have about := other before
          unfold Renewal.about at about
          rw [concerned, Bool.true_and] at about
          simpa using about
        · exact unmarked
    | due entered exactly count unmarked before faces =>
        exact .due entered (scan ▸ exactly).loop count
          (by dsimp only; rw [kept exactly before]; exact unmarked) unmarking
          (by dsimp only; rw [unsent, queries]; exact faces)
    | sending entered exactly count calm found marking =>
        refine .reminded entered (scan ▸ exactly).loop count (unsent.trans calm) unmarking
          (.inl ?_)
        rw [scan, marks_mark] at marking
        unfold Renewal.about at marking
        rw [Bool.and_eq_true, decide_eq_true_eq] at marking
        dsimp only
        rw [marker, if_pos marking.1, marking.2]
    | reminded entered exactly count calm before marked =>
        rcases marked with marked | ⟨⟨outcome, finished⟩, -⟩
        · exact .reminded entered (scan ▸ exactly).loop count (unsent.trans calm) unmarking
            (.inl ((kept exactly before).trans marked))
        · exact absurd finished (running outcome)
    | past late count calm _ => exact .past late count (unsent.trans calm) unmarking

end

/-! ### Whole runs -/

/-- The queue leaves the subscriptions alone. -/
theorem rows_offered (product : Product) (world : World) (outbox : List EmailJob) :
    ({ world with outbox } : World).rows product = world.rows product := by
  cases product <;> rfl

theorem Watched.step
    {run : ReminderRun}
    (watched : renewal.Watched run)
    (event : ReminderEvent)
    (allowed : renewal.Allows run event)
    (stays : renewal.Stays (run.step event)) :
    renewal.Watched (run.step event) := by
  obtain ⟨elapsed, action⟩ := event
  have later : run.clock ≤ run.clock + elapsed := Nat.le_add_right _ _
  cases action with
  | start => exact watched.start later allowed.1 allowed.2 stays
  | scan turn =>
      obtain ⟨accepted, available, marks⟩ := allowed
      unfold ReminderRun.step at stays ⊢
      dsimp only at stays marks ⊢
      rw [accepted] at stays ⊢
      cases scan : run.scan with
      | readClock =>
          obtain ⟨started, -, ofScan⟩ := watched.started_of_running (by rw [scan]; exact nofun)
          rw [scan] at ofScan
          exact ofScan.elim
      | find now product sent =>
          rw [scan] at stays
          exact watched.find scan later stays
      | enqueue now product reminder rest sent =>
          rw [scan] at stays
          dsimp only [ReminderStage.machine, ReminderStage.sends] at stays ⊢
          rw [if_pos available, if_pos available] at stays ⊢
          exact watched.enqueue scan later (rows_offered _ _ _) stays
      | mark now product reminder rest sent =>
          rw [scan] at stays marks
          exact watched.mark scan marks later stays
      | finished outcome =>
          rw [scan] at stays
          have same : run = { run with scan := .finished outcome } := by
            rw [← scan]
          rw [same] at watched
          exact watched.other later (Std.Refl.refl _) watched.others stays
  | other turn =>
      have respects (member : Service Unit)
          (chosen : run.others[turn.member]? = some member) : member.Respects renewal.Spares :=
        watched.others member (List.mem_of_getElem? chosen)
      have kept : renewal.Spares run.world
            (Process.machine.step ⟨run.world, run.others⟩ turn).state ∧
          ∀ service ∈ (Process.machine.step ⟨run.world, run.others⟩ turn).members,
            service.Respects renewal.Spares := by
        refine Machine.step_preserves (renewal.Spares run.world)
          (fun (service : Service Unit) _ => service.Respects renewal.Spares)
          (Std.Refl.refl _) watched.others
          ?_ ?_ ?_
        · intro member chosen _
          exact ⟨(respects member chosen).effect _ _, (respects member chosen).residual _ _⟩
        · intro member error chosen _
          exact (respects member chosen).rejected error
        · intro _ other _ _ present
          exact watched.others other present
      exact watched.other later kept.1 kept.2 stays

/-- A run that no scan has started in yet. -/
def initialRun (world : World) (clock : Time) (others : List (Service Unit)) : ReminderRun :=
  { world, clock, others }

/-- Before the first scan. -/
theorem Watched.initial
    {clock : Time}
    {others : List (Service Unit)}
    (distinct : ((world.rows renewal.product).map (·.id)).Nodup)
    (respect : ∀ service ∈ others, service.Respects renewal.Spares)
    (markers : ∀ periodEnd, renewal.marker world = some periodEnd →
      periodEnd ≤ clock + reminderWindowEndDays * 86400000)
    (early : renewal.IsAhead clock) :
    renewal.Watched (initialRun world clock others) := by
  refine ⟨distinct, respect, nofun, fun _ => ⟨_, rfl⟩, ?_, ?_⟩
  · rintro (window | ⟨started, same, -⟩)
    · exact absurd window.2 (Nat.not_le_of_lt early)
    · cases same
  · refine .ahead nofun rfl (fun marked => ?_) rfl ?_
    · exact absurd (markers _ marked) (Nat.not_le_of_lt early)
    · rintro ⟨entry, marking, -⟩
      cases marking

/-- Scans that start before the window of a renewal, follow each other at most two days
apart and go on after the window send exactly one reminder for a renewal that is due
throughout, whatever else happens in the meantime; they are runs of the code of
`sendDueReminders`, whose jobs are those of the reminders sent. -/
theorem scans_remind_once
    {clock : Time}
    {others : List (Service Unit)}
    {events : List ReminderEvent}
    {last : Time}
    (distinct : ((world.rows renewal.product).map (·.id)).Nodup)
    (respect : ∀ service ∈ others, service.Respects renewal.Spares)
    (markers : ∀ periodEnd, renewal.marker world = some periodEnd →
      periodEnd ≤ clock + reminderWindowEndDays * 86400000)
    (early : renewal.IsAhead clock)
    (met : Along ReminderRun.step
      (fun run event => renewal.Allows run event ∧ renewal.Stays (run.step event))
      (initialRun world clock others) events)
    (started : (events.foldl ReminderRun.step (initialRun world clock others)).started =
      some last)
    (late : renewal.IsPast last) :
    renewal.count (events.foldl ReminderRun.step (initialRun world clock others)) = 1 ∧
      (events.foldl ReminderRun.step (initialRun world clock others)).code =
        events.foldl ScanRun.step { world, clock, others } := by
  refine ⟨?_, ReminderRun.code_run _ events⟩
  have watched := Along.preserves
    (fun run event (watched : renewal.Watched run) met => watched.step event met.1 met.2)
    (Watched.initial distinct respect markers early) met
  have outside (entered : renewal.Entered
      (events.foldl ReminderRun.step (initialRun world clock others))) : False := by
    obtain ⟨started', same, window⟩ := entered
    obtain rfl : last = started' := Option.some.inj (started.symm.trans same)
    exact absurd window.1 (Nat.not_le_of_lt late)
  cases watched.phase with
  | ahead early _ _ _ _ =>
      have closed : renewal.periodEnd < last + reminderWindowEndDays * 86400000 :=
        Nat.lt_of_lt_of_le late (Nat.add_le_add_left (by decide) _)
      exact absurd (early last started) (Nat.not_lt_of_lt closed)
  | due entered _ _ _ _ _ => exact (outside entered).elim
  | sending _ _ count _ _ _ => exact count
  | reminded _ _ count _ _ _ => exact count
  | past _ count _ _ => exact count

/-- A subscription that renews on the thirtieth day. -/
def renewingBackend : World :=
  { users := [{ id := 0, email := "ann@example.com", passwordHash := "correct horse" }]
    plans := [{ id := 1, slug := "pro", name := "Pro", amountCents := 4900 }]
    subscriptions :=
      [{ id := 5, userId := 0, productId := 1, stripeSubscriptionId := 7, status := .active
         currentPeriodStart := 0, currentPeriodEnd := 30 * 86400000
         cancelAtPeriodEnd := false, pastDueSince := none }] }

/-- A scan that starts some days after the event before and makes some calls. -/
def sampleScan (days calls : Nat) : List ReminderEvent :=
  ⟨days * 86400000, .start⟩ ::
    List.replicate calls ⟨1000, .scan { member := 0, input := { now := 0 } }⟩

/-- A scan on each of the days 21 to 24: the one on the day 22 reminds of the renewal. -/
def sampleScans : List ReminderEvent :=
  sampleScan 1 2 ++ sampleScan 1 4 ++ sampleScan 1 2 ++ sampleScan 1 2

/-- Four scans, one reminder, whose job is the only one that the code enqueues. -/
theorem scans_remind_once_thirtieth :
    (Renewal.mk .directory 5 (30 * 86400000)).count
        (sampleScans.foldl ReminderRun.step
          (initialRun renewingBackend (20 * 86400000) [])) = 1 ∧
      (sampleScans.foldl ScanRun.step
        { world := renewingBackend, clock := 20 * 86400000 }).accepted =
          [.renewalReminder "ann@example.com" "Pro" (30 * 86400000) 4900] := by
  have started : (sampleScans.foldl ReminderRun.step
      (initialRun renewingBackend (20 * 86400000) [])).started =
        some (24 * 86400000 + 8000) := by
    decide +kernel
  have sent : ((sampleScans.foldl ReminderRun.step
      (initialRun renewingBackend (20 * 86400000) [])).sent.map (·.2.job)) =
        [.renewalReminder "ann@example.com" "Pro" (30 * 86400000) 4900] := by
    decide +kernel
  refine And.imp_right (fun code => ?_) (scans_remind_once (by decide) nofun (by decide)
    (by decide) (by decide +kernel) started (by decide))
  exact (congrArg ScanRun.accepted code).symm.trans sent

end Renewal
end ConferenceContact
