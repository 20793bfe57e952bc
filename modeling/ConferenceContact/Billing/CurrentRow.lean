import ConferenceContact.Billing.AccountErasure
import ConferenceContact.Billing.Invoices
import ConferenceContact.Billing.WriteCalls

/-!
# The current subscription of a user

`getStatus` reports the newest row of a user whatever its status, while `cancel` and
`resume` look for the newest live one.  They mean the same row as long as a live row is
always its user's newest, which a delivery ends that adds a row that is not live over a
live one, or brings an older row back to life.
-/

namespace ConferenceContact

open Process

/-! ## What is reported and what is changed -/

/-- The row that `getStatus` reports: the newest of a user. -/
def World.currentRow (world : World) (userId : UserId) : Option SubscriptionRow :=
  world.subscriptions.find? fun row => row.userId = userId

/-- The status report tells the state of the current row. -/
theorem getStatus_reports
    (app : Deployment)
    (userId : UserId)
    (input : Input)
    (world : World) :
    ∃ report, (SubscriptionsService.getStatus app userId).run input world =
        (.ok report, world) ∧
      report.current.map (fun current =>
          (current.status, current.currentPeriodEnd, current.cancelAtPeriodEnd)) =
        (world.currentRow userId).map fun row =>
          (row.status, row.currentPeriodEnd, row.cancelAtPeriodEnd) := by
  unfold SubscriptionsService.getStatus UsersService.findById World.currentRow
  simp only [run_bind, run_query, Service.run_dateNow]
  cases world.subscriptions.find? fun row => row.userId = userId with
  | none => exact ⟨_, rfl, rfl⟩
  | some row => exact ⟨_, rfl, rfl⟩

/-- Of the Directory's rows and of Stripe's subscriptions, at most those of one row have
changed. -/
structure ActsOn (row : Option SubscriptionRow) (before after : World) : Prop where
  rows :
    after.subscriptions.filter (fun other => row.all fun row => row.id ≠ other.id) =
      before.subscriptions.filter fun other => row.all fun row => row.id ≠ other.id
  stripe :
    after.stripe.filter
        (fun stripeSub => row.all fun row => row.stripeSubscriptionId ≠ stripeSub.id) =
      before.stripe.filter
        fun stripeSub => row.all fun row => row.stripeSubscriptionId ≠ stripeSub.id

instance (row : Option SubscriptionRow) : IsPreorder World (ActsOn row) where
  refl _ := ⟨rfl, rfl⟩
  trans _ _ _ first second :=
    ⟨second.rows.trans first.rows, second.stripe.trans first.stripe⟩

/-- Whatever Stripe has and whichever call is rejected, `cancel` and `resume` act on the
row that is reported. -/
def World.ActsOnCurrent (app : Deployment) (world : World) (userId : UserId) : Prop :=
  ∀ occurrence : Occurrence,
    (occurrence.request = .cancel userId ∨ occurrence.request = .resume userId) →
    ActsOn (world.currentRow userId) (occurrence.arrive world)
      (Occurrence.step app world occurrence)

theorem actsOn_of_quiet
    (row : Option SubscriptionRow)
    {before after : World}
    (quiet : Quiet before after) :
    ActsOn row before after := by
  have rows : after.subscriptions = before.subscriptions := quiet.rows .directory
  refine ⟨?_, ?_⟩
  · rw [rows]
  · rw [quiet.stripe]

section

variable (row : SubscriptionRow)

theorem actsOn_setCancelAtPeriodEnd (value : Bool) :
    (StripeService.setCancelAtPeriodEnd row.stripeSubscriptionId value).Respects
      (ActsOn (some row)) := by
  refine Respects.attempt fun input world result after modified => ?_
  split at modified
  · split at modified
    · cases modified
    · cases modified
      refine ⟨rfl, Table.filter_updateWhere fun stripeSub _ chosen => ?_⟩
      have same : row.stripeSubscriptionId = stripeSub.id := (of_decide_eq_true chosen).symm
      exact ⟨decide_eq_false fun different => different same,
        decide_eq_false fun different => different same⟩
  · cases modified

theorem actsOn_update
    {rewrite : Time → SubscriptionRow → SubscriptionRow}
    (kept : ∀ now other, (rewrite now other).id = other.id) :
    (SubscriptionTable.update .directory row.id rewrite).Respects (ActsOn (some row)) := by
  refine Respects.attempt fun input world result after updated => ?_
  split at updated
  · rename_i rows rewritten
    cases updated
    refine ⟨?_, rfl⟩
    unfold rewriteRow at rewritten
    split at rewritten
    · cases rewritten
    · split at rewritten
      · cases rewritten
      · cases rewritten
        refine Table.filter_updateWhere fun other _ chosen => ?_
        have same : row.id = other.id := (of_decide_eq_true chosen).symm
        refine ⟨decide_eq_false fun different => different same, ?_⟩
        refine decide_eq_false fun different => different ?_
        rw [kept]
        exact same
  · cases updated

/-- A scheduled cancellation of a row, or the end of one, acts on that row. -/
theorem actsOn_schedule
    (value : Bool)
    {rest : Service Unit}
    (quiet : rest.Respects Quiet) :
    (do
      StripeService.setCancelAtPeriodEnd row.stripeSubscriptionId value
      SubscriptionTable.update .directory row.id fun _ row =>
        { row with cancelAtPeriodEnd := value }
      rest : Service Unit).Respects (ActsOn (some row)) := by
  refine Respects.bind (actsOn_setCancelAtPeriodEnd row value) fun _ => ?_
  refine Respects.bind (actsOn_update row fun _ _ => rfl) fun _ => ?_
  exact quiet.mono fun _ _ => actsOn_of_quiet _

end

/-! ## Live rows that are the newest -/

/-- Every live row is its user's newest. -/
def LiveNewest (rows : List SubscriptionRow) : Prop :=
  ∀ row ∈ rows, row.status.live = true →
    (rows.find? fun other => other.userId = row.userId) = some row

section

variable {app : Deployment} {world : World} {userId : UserId}

/-- `cancel` and `resume` act on a live row, if they find one. -/
theorem actsOnCurrent_of_newest
    (newest : ∀ row ∈ world.subscriptions, row.userId = userId → row.status.live = true →
      world.currentRow userId = some row) :
    world.ActsOnCurrent app userId := by
  have quietRecord : ∀ action, (AuditService.record (some userId) action).Respects Quiet :=
    fun action => quiet_record _ _
  rintro occurrence (asked | asked)
  · have acts : (SubscriptionsService.cancel userId).Ensures occurrence.input
        (· = ApiError.database) (occurrence.arrive world) fun _ after =>
          ActsOn (world.currentRow userId) (occurrence.arrive world) after := by
      unfold SubscriptionsService.cancel
      rw [Ensures.bind_iff, Ensures.query_iff]
      refine ⟨?_, fun _ _ => Std.Refl.refl _⟩
      have rows : (occurrence.arrive world).subscriptions = world.subscriptions := rfl
      rw [rows]
      cases found : findLive userId world.subscriptions with
      | none => exact Std.Refl.refl _
      | some row =>
          obtain ⟨present, ofUser, live⟩ := mem_of_findLive found
          rw [newest row present ofUser live]
          refine Ensures.of_respects (actsOn_schedule row true ?_)
          refine Respects.bind (quietRecord _) fun _ => ?_
          split
          · exact quiet_enqueue _
          · exact Respects.pure ()
    have ensures : (occurrence.request.handle app).Ensures occurrence.input
        (· = ApiError.database) (occurrence.arrive world) fun _ after =>
          ActsOn (world.currentRow userId) (occurrence.arrive world) after := by
      rw [asked]
      exact acts
    exact Occurrence.ensured ensures
  · have acts : (SubscriptionsService.resume userId).Ensures occurrence.input
        (· = ApiError.database) (occurrence.arrive world) fun _ after =>
          ActsOn (world.currentRow userId) (occurrence.arrive world) after := by
      unfold SubscriptionsService.resume
      rw [Ensures.bind_iff, Ensures.query_iff]
      refine ⟨?_, fun _ _ => Std.Refl.refl _⟩
      have rows : (occurrence.arrive world).subscriptions = world.subscriptions := rfl
      rw [rows]
      cases found : world.subscriptions.find? fun row =>
          row.userId = userId ∧ row.status.live ∧ row.cancelAtPeriodEnd with
      | none => exact Std.Refl.refl _
      | some row =>
          have selected := List.find?_some found
          rw [decide_eq_true_eq] at selected
          obtain ⟨ofUser, live, -⟩ := selected
          rw [newest row (List.mem_of_find?_eq_some found) ofUser live]
          exact Ensures.of_respects (actsOn_schedule row false (quietRecord _))
    have ensures : (occurrence.request.handle app).Ensures occurrence.input
        (· = ApiError.database) (occurrence.arrive world) fun _ after =>
          ActsOn (world.currentRow userId) (occurrence.arrive world) after := by
      rw [asked]
      exact acts
    exact Occurrence.ensured ensures

/-- A scheduled cancellation shows in Stripe, whatever becomes of the row. -/
theorem stripe_cancel
    {input : Input}
    {row : SubscriptionRow}
    (found : findLive userId world.subscriptions = some row)
    {stripeSub : StripeSubscription}
    (known : world.stripe = [stripeSub])
    (isRow : stripeSub.id = row.stripeSubscriptionId)
    (running : stripeSub.status.terminal = false) :
    ((SubscriptionsService.cancel userId).run input world).2.stripe =
      [{ stripeSub with cancelAtPeriodEnd := true }] := by
  have cancels : (SubscriptionsService.cancel userId).Ensures input (fun _ => False) world
      fun _ after => after.stripe = [{ stripeSub with cancelAtPeriodEnd := true }] := by
    unfold SubscriptionsService.cancel
    rw [Ensures.bind_iff, Ensures.query_iff]
    refine ⟨?_, nofun⟩
    rw [found]
    unfold StripeService.setCancelAtPeriodEnd StripeService.modify
    dsimp only [Option.map_some, SubscriptionsService.withUserAndPlan]
    rw [Ensures.bind_iff, Ensures.attempt_iff]
    refine ⟨?_, nofun⟩
    have lookup : findStripe row.stripeSubscriptionId world.stripe = some stripeSub := by
      rw [known]
      exact List.find?_cons_of_pos (decide_eq_true isRow)
    rw [lookup]
    dsimp only
    rw [running, if_neg Bool.false_ne_true, known]
    dsimp only
    rw [Table.updateWhere_cons, if_pos (decide_eq_true isRow)]
    refine (Ensures.of_respects (R := SameStripe) ?_).weaken fun _ after same => same
    refine Respects.bind (Respects.attempt fun input world value after updated => ?_)
      fun _ => ?_
    · split at updated
      · cases updated
        rfl
      · cases updated
    · refine Respects.bind (sameStripe_of_quiet (quiet_record _ _)) fun _ => ?_
      split
      · exact sameStripe_of_quiet (quiet_enqueue _)
      · exact Respects.pure ()
  exact cancels.run

/-- They do so for every user exactly if every live row is its user's newest. -/
theorem actsOnCurrent_iff
    (consistent : world.Consistent) :
    (∀ userId, world.ActsOnCurrent app userId) ↔ LiveNewest world.subscriptions := by
  constructor
  · intro acts row present live
    cases current : world.subscriptions.find? fun other => other.userId = row.userId with
    | none =>
        have absent := List.find?_eq_none.mp current row present
        exact absurd (decide_eq_true rfl) absent
    | some newest =>
        by_cases same : newest = row
        · rw [same]
        · exfalso
          obtain ⟨liveRow, found⟩ : ∃ liveRow,
              findLive row.userId world.subscriptions = some liveRow := by
            refine Option.isSome_iff_exists.mp (List.find?_isSome.mpr ⟨row, present, ?_⟩)
            exact decide_eq_true ⟨rfl, live⟩
          obtain ⟨stored, ofUser, isLive⟩ := mem_of_findLive found
          have isRow : liveRow = row :=
            (consistent .directory).oneLive liveRow stored row present ofUser isLive live
          let stripeSub : StripeSubscription :=
            { id := row.stripeSubscriptionId
              status := .active
              currentPeriodStart := 0
              currentPeriodEnd := 0
              cancelAtPeriodEnd := false
              metadata := {} }
          let occurrence : Occurrence :=
            { input := { now := 0 }
              stripe := [stripeSub]
              request := .cancel row.userId }
          have changed : (Occurrence.step app world occurrence).stripe =
              [{ stripeSub with cancelAtPeriodEnd := true }] := by
            unfold Occurrence.step Occurrence.perform
            rw [Option.map_none, runWithFault_none]
            have known : (occurrence.arrive world).stripe = [stripeSub] := rfl
            have found : findLive row.userId (occurrence.arrive world).subscriptions =
                some liveRow := found
            have named : stripeSub.id = liveRow.stripeSubscriptionId := by rw [isRow]
            exact stripe_cancel found known named rfl
          have kept := (acts row.userId occurrence (.inl rfl)).stripe
          have other : newest.stripeSubscriptionId ≠ stripeSub.id := fun equal =>
            same ((consistent .directory).eq_of_stripeId_eq
              (List.mem_of_find?_eq_some current) present equal)
          rw [show world.currentRow row.userId = some newest from current, changed,
            show (occurrence.arrive world).stripe = [stripeSub] from rfl,
            List.filter_cons_of_pos (by simpa using other),
            List.filter_cons_of_pos (by simpa using other)] at kept
          have scheduled : true = false :=
            congrArg StripeSubscription.cancelAtPeriodEnd (List.cons.inj kept).1
          cases scheduled
  · intro newest userId
    refine actsOnCurrent_of_newest fun row present ofUser live => ?_
    rw [← ofUser]
    exact newest row present live

end

/-! ## Deliveries that hide a live row -/

section

variable {nextId : Nat} {rows : List SubscriptionRow}

/-- A new row leaves live rows the newest if its user has no other. -/
theorem liveNewest_inserted
    (newest : LiveNewest rows)
    {row : SubscriptionRow}
    (fresh : ∀ other ∈ rows, other.id ≠ row.id) :
    LiveNewest (row :: rows) ↔
      ∀ other ∈ rows, other.userId = row.userId → other.status.live = false := by
  constructor
  · intro after other present sameUser
    cases live : other.status.live with
    | false => rfl
    | true =>
        have hidden := after other (List.mem_cons_of_mem _ present) live
        rw [List.find?_cons_of_pos (by simpa using sameUser.symm)] at hidden
        cases hidden
        exact absurd rfl (fresh row present)
  · intro alone other present live
    rcases List.mem_cons.mp present with rfl | stored
    · exact List.find?_cons_of_pos (decide_eq_true rfl)
    · have otherUser : row.userId ≠ other.userId := by
        intro same
        rw [alone other stored same.symm] at live
        cases live
      rw [List.find?_cons_of_neg (by simpa using otherUser)]
      exact newest other stored live

/-- A rewritten row is live only as its user's newest. -/
theorem liveNewest_rewritten
    (consistent : TableConsistent nextId rows)
    (newest : LiveNewest rows)
    {write : RowWrite}
    (existing : write.inserts = false)
    (now : Time)
    (id : Nat) :
    LiveNewest (write.apply now id rows) ↔
      ∀ row ∈ rows, row.stripeSubscriptionId = write.target →
        (write.status.any (·.live)) = true →
        (rows.find? fun other => other.userId = row.userId) = some row := by
  rw [RowWrite.apply_of_existing existing]
  let chosen : SubscriptionRow → Bool := fun row => row.stripeSubscriptionId = write.target
  have sameUser : ∀ row, (if chosen row then write.rewrite now row else row).userId =
      row.userId :=
    Table.column_rewritten chosen (write.rewrite_userId now)
  -- The newest row of a user is the same one, rewritten.
  have lookup {row : SubscriptionRow} (present : row ∈ rows) :=
    Table.find?_updateWhere_eq_some chosen (write.rewrite_userId now) (write.rewrite_id now)
      consistent.ids present row.userId
  constructor
  · intro after row present isTarget given
    rw [← lookup present, ← sameUser row]
    refine after _ (Table.mem_updateWhere.mpr ⟨row, present, rfl⟩) ?_
    rw [if_pos (decide_eq_true isTarget), RowWrite.rewrite_status existing]
    cases status : write.status with
    | none =>
        rw [status] at given
        cases given
    | some becomes =>
        rw [status] at given
        exact given
  · intro spared after present live
    obtain ⟨row, stored, rfl⟩ := Table.mem_updateWhere.mp present
    rw [sameUser row]
    refine (lookup stored).mpr ?_
    by_cases isTarget : row.stripeSubscriptionId = write.target
    · rw [if_pos (decide_eq_true isTarget), RowWrite.rewrite_status existing] at live
      cases status : write.status with
      | none =>
          rw [status] at live
          exact newest row stored live
      | some given =>
          rw [status] at live spared
          exact spared row stored isTarget live
    · rw [decide_eq_false isTarget, if_neg Bool.false_ne_true] at live
      exact newest row stored live

end

namespace Occurrence

/-- A delivery adds a row that is not live for a user who has a live one, or makes a row
live that is not its user's newest. -/
def displaces (world : World) (occurrence : Occurrence) : Bool :=
  (occurrence.written world).any fun write =>
    match write with
    | .insert stripeSub userId _ =>
        !(mapStripeStatus stripeSub.status).live &&
          (findLive userId world.subscriptions).isSome
    | write =>
        write.status.any (·.live) &&
          (findByStripeId write.target world.subscriptions).any fun row =>
            world.currentRow row.userId ≠ some row

section

variable {app : Deployment} {world : World} {occurrence : Occurrence}

/-- A delivery that adds a row. -/
theorem liveNewest_of_insert
    (consistent : world.Consistent)
    (newest : LiveNewest world.subscriptions)
    {stripeSub : StripeSubscription}
    {userId : UserId}
    {productId : PlanId}
    (fits : findByStripeId stripeSub.id world.subscriptions = none)
    (written : occurrence.written world = some (.insert stripeSub userId productId))
    (allowed : RowWrite.refused world.subscriptions (.insert stripeSub userId productId) =
      false)
    {id : Nat}
    (fresh : world.nextId ≤ id) :
    LiveNewest ((RowWrite.insert stripeSub userId productId).apply occurrence.input.now id
        world.subscriptions) ↔
      occurrence.displaces world = false := by
  have freshId : ∀ other ∈ world.subscriptions, other.id ≠ id := by
    intro other present
    have known := (consistent .directory).fresh other present
    omega
  unfold displaces
  rw [written, Option.any_some]
  refine (liveNewest_inserted newest freshId).trans ?_
  show (∀ other ∈ world.subscriptions, other.userId = userId → other.status.live = false) ↔ _
  dsimp only
  cases live : (mapStripeStatus stripeSub.status).live with
  | true =>
      refine iff_of_true ?_ rfl
      intro other present sameUser
      cases otherLive : other.status.live with
      | false => rfl
      | true =>
          have isBlocked : blocked world.subscriptions stripeSub.id userId = true :=
            blocked_eq_true.mpr ⟨other, present,
              findByStripeId_eq_none.mp fits other present, sameUser, otherLive⟩
          have isRefused : RowWrite.refused world.subscriptions
              (.insert stripeSub userId productId) = true := by
            unfold RowWrite.refused RowWrite.status RowWrite.owner RowWrite.target
            dsimp only
            rw [Option.any_some, Option.any_some, live, isBlocked]
            rfl
          rw [allowed] at isRefused
          cases isRefused
  | false =>
      rw [Bool.not_false, Bool.true_and]
      constructor
      · intro alone
        refine Option.isSome_eq_false_iff.mpr (Option.isNone_iff_eq_none.mpr ?_)
        refine List.find?_eq_none.mpr fun other present selected => ?_
        obtain ⟨sameUser, otherLive⟩ := of_decide_eq_true selected
        rw [alone other present sameUser] at otherLive
        cases otherLive
      · intro none other present sameUser
        cases otherLive : other.status.live with
        | false => rfl
        | true =>
            have found : (findLive userId world.subscriptions).isSome = true :=
              List.find?_isSome.mpr ⟨other, present, decide_eq_true ⟨sameUser, otherLive⟩⟩
            rw [none] at found
            cases found

/-- A delivery that rewrites a row. -/
theorem liveNewest_of_existing
    (consistent : world.Consistent)
    (newest : LiveNewest world.subscriptions)
    {write : RowWrite}
    (existing : write.inserts = false)
    (written : occurrence.written world = some write)
    (id : Nat) :
    LiveNewest (write.apply occurrence.input.now id world.subscriptions) ↔
      occurrence.displaces world = false := by
  have displaced : occurrence.displaces world =
      (write.status.any (·.live) &&
        (findByStripeId write.target world.subscriptions).any fun row =>
          world.currentRow row.userId ≠ some row) := by
    unfold displaces
    rw [written, Option.any_some]
    cases write with
    | insert stripeSub userId productId => cases existing
    | _ => rfl
  rw [displaced]
  refine (liveNewest_rewritten (consistent .directory) newest existing _ id).trans ?_
  cases given : write.status.any (·.live) with
  | false => exact iff_of_true nofun rfl
  | true =>
      rw [Bool.true_and]
      constructor
      · intro spared
        cases found : findByStripeId write.target world.subscriptions with
        | none => rfl
        | some row =>
            obtain ⟨present, isTarget⟩ := mem_of_findByStripeId found
            rw [Option.any_some, decide_eq_false_iff_not, not_not]
            exact spared row present isTarget rfl
      · intro spared row present isTarget _
        have found := (consistent .directory).findByStripeId_eq present
        rw [isTarget] at found
        have found : findByStripeId write.target world.subscriptions = some row := found
        rw [found, Option.any_some, decide_eq_false_iff_not, not_not] at spared
        exact spared

/-- A request keeps live rows the newest exactly if it displaces none. -/
theorem liveNewest_step
    (app : Deployment)
    (consistent : world.Consistent)
    (newest : LiveNewest world.subscriptions) :
    LiveNewest (step app world occurrence).subscriptions ↔
      occurrence.displaces world = false := by
  by_cases delivery : ∃ event, occurrence.request = .webhook event
  · obtain ⟨event, delivers⟩ := delivery
    obtain ⟨id, fresh, rows⟩ := subscriptions_delivered app consistent delivers
    rw [rows]
    cases written : occurrence.written world with
    | none =>
        refine iff_of_true newest ?_
        unfold displaces
        rw [written]
        rfl
    | some write =>
        dsimp only
        cases inserts : write.inserts with
        | false => exact liveNewest_of_existing consistent newest inserts written id
        | true =>
            obtain ⟨-, isWrite, accepted⟩ := written_eq_some delivers written
            unfold RowWrite.accepted at accepted
            rw [Bool.and_eq_true, Bool.not_eq_true'] at accepted
            cases write with
            | insert stripeSub userId productId =>
                exact liveNewest_of_insert consistent newest
                  (StripeEvent.write_fits isWrite inserts) written accepted.1 fresh
            | _ => cases inserts
  · refine iff_of_true ?_ ?_
    · rcases occurrence.rows_step app consistent .directory with
        same | ⟨write, id, ⟨found, -, isWrite, -⟩, -, rows⟩
      · have same : (step app world occurrence).subscriptions = world.subscriptions := same
        rw [same]
        exact newest
      · have rows : (step app world occurrence).subscriptions =
            write.apply occurrence.input.now id world.subscriptions := rows
        rw [rows]
        rcases BillingRequest.write_cases isWrite with
          ⟨event, same, -⟩ | ⟨row, -, -, rfl | ⟨flag, rfl⟩⟩
        · exact absurd ⟨event, same⟩ delivery
        · exact (liveNewest_rewritten (consistent .directory) newest rfl _ id).mpr nofun
        · exact (liveNewest_rewritten (consistent .directory) newest rfl _ id).mpr nofun
    · unfold displaces Occurrence.written
      cases asked : occurrence.request with
      | webhook event => exact absurd ⟨event, asked⟩ delivery
      | _ => rfl

end
end Occurrence

/-! ## Runs -/

/-- In every state of a run `cancel` and `resume` act on the row that `getStatus` reports,
for every user, exactly if no delivery of the run hides a live row. -/
theorem cancel_acts_on_current_iff
    (app : Deployment)
    {start : World}
    (empty : ∀ product, start.rows product = [])
    (occurrences : List Occurrence) :
    (∀ reached, reached <+: occurrences → ∀ userId,
        (reached.foldl (Occurrence.step app) start).ActsOnCurrent app userId) ↔
      Along (Occurrence.step app) (fun world occurrence => occurrence.displaces world = false)
        start occurrences := by
  have consistent := World.consistent_of_no_rows empty
  have first : LiveNewest start.subscriptions :=
    World.forall_rows_of_no_rows empty .directory
  have prefixes :
      (∀ reached, reached <+: occurrences →
          LiveNewest (reached.foldl (Occurrence.step app) start).subscriptions) ↔
        Along (Occurrence.step app) (fun world occurrence => occurrence.displaces world = false)
          start occurrences :=
    Along.iff_prefixes (fun _ _ _ consistent => Occurrence.step_consistent app consistent)
      (fun _ _ _ consistent newest => Occurrence.liveNewest_step app consistent newest)
      consistent first
  refine Iff.trans ?_ prefixes
  refine forall_congr' fun reached => imp_congr_right fun _ => ?_
  exact actsOnCurrent_iff (run_consistent app consistent reached)

/-- A subscription that is created and ends, and a second one that is created, to be canceled
at the end of its period, and resumed again. -/
def sampleResubscribed : List Occurrence :=
  [sampleCreation 1000,
    sampleDelivery 2000 (.subscriptionDeleted (sampleSubscription 7 .canceled))
      [sampleSubscription 7 .canceled],
    sampleDelivery 3000 (.subscriptionCreated (sampleSubscription 9 .active))
      [sampleSubscription 7 .canceled, sampleSubscription 9 .active],
    { input := { now := 4000 }
      stripe := [sampleSubscription 7 .canceled, sampleSubscription 9 .active]
      request := .cancel 0 },
    { input := { now := 5000 }
      stripe := [sampleSubscription 7 .canceled, sampleSubscription 9 .active]
      request := .resume 0 }]

/-- A user with an older subscription that has ended and a newer one. -/
theorem cancel_acts_on_current_resubscribed :
    ((sampleResubscribed.foldl (Occurrence.step sampleDeployment)
        sampleBackend).subscriptions.map fun row => (row.stripeSubscriptionId, row.status)) =
      [(9, .active), (7, .canceled)] ∧
    ∀ reached, reached <+: sampleResubscribed → ∀ userId,
      (reached.foldl (Occurrence.step sampleDeployment) sampleBackend).ActsOnCurrent
        sampleDeployment userId := by
  have empty : ∀ product, sampleBackend.rows product = [] := by
    intro product
    cases product <;> rfl
  refine ⟨by decide, ?_⟩
  exact (cancel_acts_on_current_iff sampleDeployment empty sampleResubscribed).mpr (by decide)

/-- A subscription whose first payment fails while the user has another one. -/
def sampleAbandonedCheckout : List Occurrence :=
  [sampleCreation 1000,
    sampleDelivery 2000 (.subscriptionCreated (sampleSubscription 9 .incomplete))
      [sampleSubscription 7 .active, sampleSubscription 9 .incomplete]]

/-- The report is about the abandoned subscription, while a cancellation ends the other
one. -/
theorem abandoned_checkout_reported :
    ((sampleAbandonedCheckout.foldl (Occurrence.step sampleDeployment)
        sampleBackend).currentRow 0).map (·.stripeSubscriptionId) = some 9 ∧
      ((Occurrence.step sampleDeployment
          (sampleAbandonedCheckout.foldl (Occurrence.step sampleDeployment) sampleBackend)
          { input := { now := 3000 }, stripe := [sampleSubscription 7 .active]
            request := .cancel 0 }).subscriptions.map fun row =>
          (row.stripeSubscriptionId, row.cancelAtPeriodEnd)) = [(9, false), (7, true)] ∧
      ¬(sampleAbandonedCheckout.foldl (Occurrence.step sampleDeployment)
        sampleBackend).ActsOnCurrent sampleDeployment 0 := by
  refine ⟨by decide, by decide, fun acts => ?_⟩
  have kept := (acts
    { input := { now := 3000 }, stripe := [sampleSubscription 7 .active]
      request := .cancel 0 } (.inl rfl)).stripe
  revert kept
  decide

end ConferenceContact
