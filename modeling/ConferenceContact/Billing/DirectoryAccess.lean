import ConferenceContact.Billing.DirectoryGuard

/-!
# Access to the Directory over runs

Whether a user who has not paid stays out of the Directory, and whether a user
whom a cancelled subscription lets in stays in.  Neither holds of every run: the
guard reads `CANCELED` off rows that were never paid for, and it looks at the
newest row alone, so that a later subscription hides the cancelled one.
-/

namespace ConferenceContact

open Process Deciding DirectoryAccessGuard

/-! ## One request -/

namespace Occurrence

/-- A write of the Directory's table that a request attempts and the database
lets happen. -/
def Writes
    (app : Deployment)
    (world : World)
    (occurrence : Occurrence)
    (write : RowWrite) : Prop :=
  occurrence.request.write app occurrence.input.now .directory (occurrence.arrive world) =
      some write ∧
    write.accepted .directory (occurrence.arrive world) = true

section

variable {app : Deployment} {world : World} {occurrence : Occurrence} {userId : UserId}

/-- A request leaves the Directory's table alone or makes its write. -/
theorem subscriptions_step
    (app : Deployment)
    (occurrence : Occurrence)
    (consistent : world.Consistent) :
    (step app world occurrence).subscriptions = world.subscriptions ∨
      ∃ write id, occurrence.Writes app world write ∧
        (step app world occurrence).subscriptions =
          write.apply occurrence.input.now id world.subscriptions := by
  rcases (occurrence.recorded app consistent).row with
    ⟨write, id, written, accepted, -, -, rows⟩ | ⟨rows, -⟩
  · exact .inr ⟨write, id, ⟨written, accepted⟩, rows⟩
  · exact .inl rows

/-- The answer of the guard survives a request whose write does not change it. -/
theorem grants_step
    {verdict : Bool}
    (consistent : world.Consistent)
    (holds : DirectoryAccessGuard.grants app occurrence.input.now userId world.subscriptions =
      verdict)
    (decides : ∀ write before older status, occurrence.Writes app world write →
      write.Decides userId world.subscriptions before older →
      write.status = some status → status ≠ .expired →
      hasDirectoryAccess app occurrence.input.now status
        (some (pastDueStart occurrence.input.now before)) = verdict)
    (givesWay : ∀ write row older, occurrence.Writes app world write →
      write.Decides userId world.subscriptions (some row) older →
      considers userId row = true → write.status = some .expired →
      DirectoryAccessGuard.grants app occurrence.input.now userId older = verdict) :
    DirectoryAccessGuard.grants app occurrence.input.now userId
        (step app world occurrence).subscriptions =
      verdict := by
  rcases subscriptions_step app occurrence consistent with
    rows | ⟨write, id, writes, rows⟩
  · rw [rows]
    exact holds
  · rw [rows]
    refine grants_apply (consistent .directory) holds ?_ ?_ id
    · intro before older status
      exact decides write before older status writes
    · intro row older
      exact givesWay write row older writes

/-- Setting the comp flag of another user, or clearing one, comps nobody. -/
theorem isComped_comped
    (uncomped : world.isComped userId = false)
    {targetUserId : UserId}
    {granted : Bool}
    (harmless : targetUserId = userId → granted = true → False) :
    (world.comped targetUserId granted).isComped userId = false := by
  unfold World.isComped World.comped at *
  dsimp only
  rw [Table.find?_updateWhere User.id]
  case kept => exact fun _ => rfl
  cases found : world.users.find? fun user => user.id = userId with
  | none => rfl
  | some user =>
      have isUser : user.id = userId := by simpa using List.find?_some found
      rw [found, Option.any_some] at uncomped
      rw [Option.map_some, Option.any_some]
      split
      · rename_i isTarget
        have sameTarget : targetUserId = userId := (of_decide_eq_true isTarget).symm.trans isUser
        exact Bool.eq_false_iff.mpr (harmless sameTarget)
      · exact uncomped

/-- A user who is not comped is comped by an administrator only. -/
theorem isComped_step
    (uncomped : world.isComped userId = false)
    (notComped : ∀ adminUserId, occurrence.request ≠ .setDirectoryAccess adminUserId userId
      true) :
    (step app world occurrence).isComped userId = false := by
  let R : World → World → Prop := fun before after =>
    before.isComped userId = false → after.isComped userId = false
  have preorder : IsPreorder World R :=
    { refl := fun _ kept => kept
      trans := fun _ _ _ first second kept => second (first kept) }
  have ofBook : ∀ world : World, world.isComped userId =
      (world.book.accounts.find? fun account => account.1 = userId).any (·.2) := by
    intro world
    unfold World.isComped World.book
    rw [List.find?_map, Option.any_map]
    rfl
  have sameBook : ∀ before after, SameBook before after → R before after := by
    intro before after same kept
    rw [ofBook, same, ← ofBook]
    exact kept
  refine respected (R := R) (BillingRequest.respects sameBook app occurrence.request
    (fun _ _ _ _ world grant _ kept => kept) ?_) world uncomped
  intro adminUserId targetUserId granted same world kept
  exact isComped_comped kept fun equal comped =>
    notComped adminUserId (by rw [same, equal, comped])

end
end Occurrence

/-! ## Without payment -/

/-- A moment of a run: the world, and the time of the last request. -/
structure Moment where
  world : World
  now : Time

/-- The moment after a request. -/
def Moment.next (app : Deployment) (moment : Moment) (occurrence : Occurrence) : Moment :=
  ⟨Occurrence.step app moment.world occurrence, occurrence.input.now⟩

/-- A user has the row of a Stripe subscription in one of the tables. -/
def World.hasRow (world : World) (userId : UserId) (id : StripeSubscriptionId) : Bool :=
  [Product.directory, .leadFinder].any fun product =>
    (world.rows product).any fun row =>
      row.stripeSubscriptionId = id && row.userId = userId

/-- A request reports a subscription of a user as active or trialing, or a paid
invoice of the user, or comps the user. -/
def BillingRequest.pays (userId : UserId) (world : World) : BillingRequest → Bool
  | webhook (.invoicePaid invoice) =>
      invoice.metadata.userId = some userId ||
        invoice.subscription.any (world.hasRow userId)
  | webhook event =>
      (event.reported world.stripe).any fun report =>
        (report.2.status = .active || report.2.status = .trialing) &&
          (report.2.metadata.userId = some userId || world.hasRow userId report.2.id)
  | setDirectoryAccess _ targetUserId granted => targetUserId = userId && granted
  | _ => false

/-- The clock does not go back, and the request is no payment of the user. -/
structure Moment.Unpaid (userId : UserId) (moment : Moment) (occurrence : Occurrence) :
    Prop where
  clock : moment.now ≤ occurrence.input.now
  pays : occurrence.request.pays userId (occurrence.arrive moment.world) = false

/-- A request gives no access to the Directory away: it writes a row the guard
decides from neither as `CANCELED`, nor as `PAST_DUE` within the grace period of
its streak, nor as `EXPIRED` while the next older row grants access. -/
structure Occurrence.GivesNothingAway
    (app : Deployment)
    (userId : UserId)
    (world : World)
    (occurrence : Occurrence) : Prop where
  notCanceled : ∀ write before older, occurrence.Writes app world write →
    write.Decides userId world.subscriptions before older → write.status ≠ some .canceled
  outOfGrace : ∀ write before older, occurrence.Writes app world write →
    write.Decides userId world.subscriptions before older →
    write.status = some .pastDue →
    hasActiveAccess app occurrence.input.now .pastDue
      (some (pastDueStart occurrence.input.now before)) = false
  notUncovering : ∀ write row older, occurrence.Writes app world write →
    write.Decides userId world.subscriptions (some row) older →
    considers userId row = true → write.status = some .expired →
    DirectoryAccessGuard.grants app occurrence.input.now userId older = false

/-- A reported subscription of a user who has its row, or whom its metadata
names. -/
theorem BillingRequest.pays_of_reported
    {userId : UserId}
    {world : World}
    {event : StripeEvent}
    {report : StripeMetadata × StripeSubscription}
    (reported : event.reported world.stripe = some report)
    (paid : report.2.status = .active ∨ report.2.status = .trialing)
    (owned : report.2.metadata.userId = some userId ∨
      world.hasRow userId report.2.id = true) :
    (BillingRequest.webhook event).pays userId world = true := by
  have shown : (event.reported world.stripe).any (fun report =>
      (report.2.status = .active || report.2.status = .trialing) &&
        (report.2.metadata.userId = some userId || world.hasRow userId report.2.id)) =
      true := by
    rw [reported, Option.any_some]
    simpa using ⟨paid, owned⟩
  cases event with
  | invoicePaid invoice => cases reported
  | _ => exact shown

theorem World.hasRow_of_mem
    (world : World)
    {row : SubscriptionRow}
    (present : row ∈ world.subscriptions) :
    world.hasRow row.userId row.stripeSubscriptionId = true := by
  refine List.any_eq_true.mpr ⟨.directory, List.mem_cons_self, ?_⟩
  refine List.any_eq_true.mpr ⟨row, present, ?_⟩
  simp

theorem paid_of_mapStripeStatus
    {status : StripeStatus}
    (paid : some (mapStripeStatus status) = some .active ∨
      some (mapStripeStatus status) = some .trialing) :
    status = .active ∨ status = .trialing := by
  cases status with
  | active => exact .inl rfl
  | trialing => exact .inr rfl
  | _ => rcases paid with paid | paid <;> cases paid

/-- Only Stripe's report of a paid subscription makes a row active or trialing. -/
theorem Occurrence.pays_of_decides
    {app : Deployment}
    {userId : UserId}
    {world : World}
    {occurrence : Occurrence}
    {write : RowWrite}
    (writes : occurrence.Writes app world write)
    {before : Option SubscriptionRow}
    {older : List SubscriptionRow}
    (decides : write.Decides userId world.subscriptions before older)
    (paid : write.status = some .active ∨ write.status = some .trialing) :
    occurrence.request.pays userId (occurrence.arrive world) = true := by
  rcases BillingRequest.write_cases writes.1 with
    ⟨event, isDelivery, written⟩ | ⟨row, -, -, rfl | ⟨flag, rfl⟩⟩
  · rcases StripeEvent.write_cases written with
      ⟨report, reported, -, synced⟩ | ⟨stripeSub, -, rfl⟩ | ⟨invoice, id, -, -, -, rfl⟩
    · rw [isDelivery]
      rcases syncWrite_cases synced with ⟨rfl, -⟩ | ⟨owner, planId, rfl, -, user⟩
      · cases before with
        | none => exact absurd decides.1 nofun
        | some row =>
            obtain ⟨-, sameStripeId, sameUser, exposed⟩ := decides
            refine BillingRequest.pays_of_reported reported
              (paid_of_mapStripeStatus paid) (.inr ?_)
            have holds := World.hasRow_of_mem (occurrence.arrive world) exposed.mem
            rwa [sameUser, sameStripeId] at holds
      · cases before with
        | none =>
            obtain ⟨-, sameOwner, -⟩ := decides
            exact BillingRequest.pays_of_reported reported
              (paid_of_mapStripeStatus paid) (.inl (user.trans sameOwner))
        | some row => exact absurd decides.1 nofun
    · rcases paid with paid | paid <;> cases paid
    · rcases paid with paid | paid <;> cases paid
  · rcases paid with paid | paid <;> cases paid
  · rcases paid with paid | paid <;> cases paid

/-- What keeps the guard from letting a user through. -/
structure Moment.Denies
    (app : Deployment)
    (user : AccessTokenPayload)
    (moment : Moment) : Prop where
  consistent : moment.world.Consistent
  staff : staff user.role = false
  uncomped : moment.world.isComped user.sub = false
  ungranted : grants app moment.now user.sub moment.world.subscriptions = false

theorem Moment.Denies.next
    {app : Deployment}
    {user : AccessTokenPayload}
    {moment : Moment}
    {occurrence : Occurrence}
    (denies : moment.Denies app user)
    (unpaid : moment.Unpaid user.sub occurrence)
    (withholds : occurrence.GivesNothingAway app user.sub moment.world) :
    (moment.next app occurrence).Denies app user where
  consistent := Occurrence.step_consistent app denies.consistent
  staff := denies.staff
  uncomped := by
    refine Occurrence.isComped_step denies.uncomped fun adminUserId comps => ?_
    have pays := unpaid.pays
    rw [comps] at pays
    simp [BillingRequest.pays] at pays
  ungranted := by
    refine Occurrence.grants_step denies.consistent
      (grants_mono unpaid.clock denies.ungranted) ?_ withholds.notUncovering
    intro write before older status writes decides written notExpired
    have notPaid : ¬ (write.status = some .active ∨ write.status = some .trialing) := by
      intro paid
      have pays := Occurrence.pays_of_decides writes decides paid
      rw [unpaid.pays] at pays
      cases pays
    cases status with
    | trialing => exact absurd (.inr written) notPaid
    | active => exact absurd (.inl written) notPaid
    | pastDue =>
        have outOfGrace := withholds.outOfGrace write before older writes decides written
        unfold hasDirectoryAccess
        rw [outOfGrace]
        rfl
    | canceled => exact absurd written (withholds.notCanceled write before older writes decides)
    | expired => exact absurd rfl notExpired

/-- In a run without a payment, all of whose requests give nothing away, a user
whom the guard denies stays out of the Directory. -/
theorem directory_stays_denied
    (app : Deployment)
    (user : AccessTokenPayload)
    {start : World}
    (empty : ∀ product, start.rows product = [])
    (earlier : List Occurrence)
    (input : Input)
    (denied : admits app user input (earlier.foldl (Occurrence.step app) start) = false)
    (later : List Occurrence)
    (unpaid : Along (Moment.next app) (Moment.Unpaid user.sub)
      ⟨earlier.foldl (Occurrence.step app) start, input.now⟩ later)
    (withheld : Along (Moment.next app)
      (fun moment occurrence => occurrence.GivesNothingAway app user.sub moment.world)
      ⟨earlier.foldl (Occurrence.step app) start, input.now⟩ later)
    (asked : Input)
    (afterwards : (later.foldl (Moment.next app)
      ⟨earlier.foldl (Occurrence.step app) start, input.now⟩).now ≤ asked.now) :
    admits app user asked (later.foldl (Moment.next app)
      ⟨earlier.foldl (Occurrence.step app) start, input.now⟩).world = false := by
  rw [admits_eq, Bool.or_eq_false_iff, Bool.or_eq_false_iff] at denied
  have initial : Moment.Denies app user
      ⟨earlier.foldl (Occurrence.step app) start, input.now⟩ :=
    ⟨run_consistent app (World.consistent_of_no_rows empty) earlier, denied.1.1, denied.1.2,
      denied.2⟩
  have final := Along.preserves
    (fun _ _ denies met => Moment.Denies.next denies met.1 met.2) initial
    (unpaid.and withheld)
  rw [admits_eq, final.staff, final.uncomped, grants_mono afterwards final.ungranted]
  rfl

/-- A checkout whose first payment has not gone through. -/
def sampleUnpaidRun : List Occurrence :=
  [sampleDelivery 1000 (.subscriptionCreated (sampleSubscription 7 .incomplete))
    [sampleSubscription 7 .incomplete]]

/-- The token of the subscriber. -/
def sampleSubscriber : AccessTokenPayload := { sub := 0, role := .user }

/-- A first payment that never goes through leaves the user out. -/
theorem directory_stays_denied_incompleteExpired :
    admits sampleDeployment sampleSubscriber { now := 90000000 }
      ([sampleDelivery 83000000
          (.subscriptionUpdated (sampleSubscription 7 .incompleteExpired))
          [sampleSubscription 7 .incompleteExpired]].foldl
        (Moment.next sampleDeployment)
        ⟨sampleUnpaidRun.foldl (Occurrence.step sampleDeployment) sampleBackend,
          1000⟩).world = false := by
  refine directory_stays_denied sampleDeployment sampleSubscriber
    (fun product => by cases product <;> rfl) sampleUnpaidRun { now := 1000 } (by decide)
    [sampleDelivery 83000000
      (.subscriptionUpdated (sampleSubscription 7 .incompleteExpired))
      [sampleSubscription 7 .incompleteExpired]] ⟨⟨by decide, by decide⟩, trivial⟩
    ⟨?_, trivial⟩ { now := 90000000 } (by decide)
  have only : ∀ write, Occurrence.Writes sampleDeployment
      (sampleUnpaidRun.foldl (Occurrence.step sampleDeployment) sampleBackend)
      (sampleDelivery 83000000
        (.subscriptionUpdated (sampleSubscription 7 .incompleteExpired))
        [sampleSubscription 7 .incompleteExpired]) write → write.status = some .expired := by
    rintro write ⟨written, -⟩
    have same : RowWrite.sync (sampleSubscription 7 .incompleteExpired) = write :=
      Option.some.inj written
    rw [← same]
    rfl
  refine ⟨?_, ?_, ?_⟩
  · intro write before older writes decides canceled
    rw [only write writes] at canceled
    cases canceled
  · intro write before older writes decides pastDue
    rw [only write writes] at pastDue
    cases pastDue
  · rintro write row older - ⟨-, -, -, exposed⟩ counts -
    have uncounted : ∀ row ∈ (sampleUnpaidRun.foldl (Occurrence.step sampleDeployment)
        sampleBackend).subscriptions, considers 0 row = false := by decide
    rw [show considers sampleSubscriber.sub row = false from uncounted row exposed.mem] at counts
    cases counts

/-- The end of a subscription that was never paid opens the Directory. -/
theorem unpaid_subscription_opens_directory :
    (∀ product, sampleBackend.rows product = []) ∧
      admits sampleDeployment sampleSubscriber { now := 1000 }
        (sampleUnpaidRun.foldl (Occurrence.step sampleDeployment) sampleBackend) = false ∧
      Along (Moment.next sampleDeployment) (Moment.Unpaid sampleSubscriber.sub)
        ⟨sampleUnpaidRun.foldl (Occurrence.step sampleDeployment) sampleBackend, 1000⟩
        [sampleDelivery 2000 (.subscriptionDeleted (sampleSubscription 7 .canceled))
          [sampleSubscription 7 .canceled]] ∧
      admits sampleDeployment sampleSubscriber { now := 3000 }
        ([sampleDelivery 2000 (.subscriptionDeleted (sampleSubscription 7 .canceled))
            [sampleSubscription 7 .canceled]].foldl (Moment.next sampleDeployment)
          ⟨sampleUnpaidRun.foldl (Occurrence.step sampleDeployment) sampleBackend,
            1000⟩).world = true := by
  refine ⟨fun product => by cases product <;> rfl, by decide, ⟨⟨by decide, by decide⟩, trivial⟩,
    by decide⟩

/-! ## After a cancellation -/

/-- A request keeps the permanent perk: it arrives before a payment that has failed for
the newest row is overdue by the grace period, and it expires a row the guard decides from
only if an older one is left to decide. -/
structure Occurrence.KeepsPerk
    (app : Deployment)
    (userId : UserId)
    (world : World)
    (occurrence : Occurrence) : Prop where
  inGrace : ∀ row, world.subscriptions.find? (considers userId) = some row →
    row.status = .pastDue → ∀ failed ∈ row.pastDueSince,
      occurrence.input.now < failed + app.paymentGracePeriodDays * millisecondsPerDay
  covered : ∀ write row older, occurrence.Writes app world write →
    write.Decides userId world.subscriptions (some row) older →
    considers userId row = true → write.status = some .expired →
    (older.find? (considers userId)).isSome = true

/-- Some row decides about a user. -/
structure World.Decided (userId : UserId) (world : World) : Prop where
  consistent : world.Consistent
  row : (world.subscriptions.find? (considers userId)).isSome = true

/-- Some row goes on deciding about a user. -/
theorem World.Decided.step
    {app : Deployment}
    {userId : UserId}
    {world : World}
    {occurrence : Occurrence}
    (decided : world.Decided userId)
    (keeps : occurrence.KeepsPerk app userId world) :
    (Occurrence.step app world occurrence).Decided userId := by
  refine ⟨Occurrence.step_consistent app decided.consistent, ?_⟩
  rcases Occurrence.subscriptions_step app occurrence decided.consistent with
    rows | ⟨write, id, writes, rows⟩
  · rw [rows]
    exact decided.row
  · rw [rows]
    refine decided_apply (decided.consistent .directory) decided.row ?_ id
    intro row older
    exact keeps.covered write row older writes

/-- A deciding row grants access unless it is past due for too long. -/
theorem grants_of_decided
    {app : Deployment}
    {now : Time}
    {userId : UserId}
    {rows : List SubscriptionRow}
    (decided : (rows.find? (considers userId)).isSome = true)
    (inGrace : ∀ row, rows.find? (considers userId) = some row → row.status = .pastDue →
      ∀ failed ∈ row.pastDueSince,
        now < failed + app.paymentGracePeriodDays * millisecondsPerDay) :
    grants app now userId rows = true := by
  obtain ⟨row, found⟩ := Option.isSome_iff_exists.mp decided
  have notExpired := (considers_eq_true.mp (List.find?_some found)).2
  unfold grants
  rw [found, rowGrants_some]
  cases status : row.status with
  | expired => exact absurd status notExpired
  | pastDue =>
      have recent := inGrace row found status
      unfold hasDirectoryAccess hasActiveAccess
      rw [Bool.or_eq_true]
      refine .inl ?_
      cases since : row.pastDueSince with
      | none => rfl
      | some failed => exact decide_eq_true (recent failed since)
  | _ => rfl

/-- The answer of the guard to a request of its own. -/
theorem Occurrence.perform_directoryAccess
    (app : Deployment)
    (world : World)
    {check : Occurrence}
    {user : AccessTokenPayload}
    (asks : check.request = .directoryAccess (some user))
    (reliable : check.rejected = none)
    (admitted : admits app user check.input (check.arrive world) = true) :
    (check.perform app world).1 = .ok () := by
  unfold admits at admitted
  unfold perform
  rw [asks, reliable, Option.map_none, runWithFault_none]
  unfold BillingRequest.handle
  rw [run_bind]
  cases answer : ((canActivate app (some user)).run check.input (check.arrive world)) with
  | mk result after =>
      rw [answer] at admitted
      cases result with
      | ok allowed => rfl
      | error error => cases admitted

/-- Once a cancelled subscription decides about a user, the guard admits the user
at every later request, while all requests keep the perk. -/
theorem directory_perk_kept
    (app : Deployment)
    (user : AccessTokenPayload)
    {start : World}
    (empty : ∀ product, start.rows product = [])
    (earlier : List Occurrence)
    (perk : ((earlier.foldl (Occurrence.step app) start).subscriptions.find?
      (considers user.sub)).any (·.status = .canceled) = true)
    (later : List Occurrence)
    {check : Occurrence}
    (asks : check.request = .directoryAccess (some user))
    (reliable : check.rejected = none)
    (kept : Along (Occurrence.step app) (fun world occurrence =>
        occurrence.KeepsPerk app user.sub world)
      (earlier.foldl (Occurrence.step app) start) (later ++ [check])) :
    (check.perform app
      (later.foldl (Occurrence.step app) (earlier.foldl (Occurrence.step app) start))).1 =
        .ok () := by
  have decided : (earlier.foldl (Occurrence.step app) start).Decided user.sub := by
    refine ⟨run_consistent app (World.consistent_of_no_rows empty) earlier, ?_⟩
    cases found : (earlier.foldl (Occurrence.step app) start).subscriptions.find?
        (considers user.sub) with
    | none =>
        rw [found] at perk
        cases perk
    | some row => rfl
  obtain ⟨before, ⟨inGrace, -⟩, -⟩ := Along.append_iff.mp kept
  have final : (later.foldl (Occurrence.step app)
      (earlier.foldl (Occurrence.step app) start)).Decided user.sub :=
    Along.preserves (fun _ _ decided keeps => World.Decided.step decided keeps) decided before
  refine Occurrence.perform_directoryAccess app _ asks reliable ?_
  rw [admits_eq, Bool.or_eq_true]
  exact .inr (grants_of_decided final.row inGrace)

/-- A subscription that is paid for and then ends. -/
def sampleCanceledRun : List Occurrence :=
  [sampleDelivery 1000 (.subscriptionCreated (sampleSubscription 7 .active))
      [sampleSubscription 7 .active],
    sampleDelivery 2000 (.subscriptionDeleted (sampleSubscription 7 .canceled))
      [sampleSubscription 7 .canceled]]

/-- The sample account asks for the Directory. -/
def sampleCheck (now : Time) : Occurrence :=
  { input := { now }, request := .directoryAccess (some sampleSubscriber) }

/-- A failed payment of the next subscription, seen within its grace period. -/
theorem directory_perk_kept_inGrace :
    ((sampleCheck 5000).perform sampleDeployment
      ([sampleDelivery 3000 (.subscriptionCreated (sampleSubscription 8 .pastDue))
          [sampleSubscription 8 .pastDue]].foldl (Occurrence.step sampleDeployment)
        (sampleCanceledRun.foldl (Occurrence.step sampleDeployment) sampleBackend))).1 =
      .ok () := by
  have alive : ∀ {world occurrence write},
      (occurrence.request.write sampleDeployment occurrence.input.now .directory
        (occurrence.arrive world)).all (·.status ≠ some .expired) = true →
      Occurrence.Writes sampleDeployment world occurrence write →
      write.status ≠ some .expired := by
    intro world occurrence write lives writes
    rw [writes.1] at lives
    simpa using lives
  have decides : ∀ {world : World} {p : SubscriptionRow → Bool} {row},
      (world.subscriptions.find? (considers sampleSubscriber.sub)).all p = true →
      world.subscriptions.find? (considers sampleSubscriber.sub) = some row →
      p row = true := by
    intro world p row all found
    rwa [found] at all
  refine directory_perk_kept sampleDeployment sampleSubscriber
    (fun product => by cases product <;> rfl) sampleCanceledRun (by decide)
    [sampleDelivery 3000 (.subscriptionCreated (sampleSubscription 8 .pastDue))
      [sampleSubscription 8 .pastDue]] rfl rfl ⟨⟨?_, ?_⟩, ⟨?_, ?_⟩, trivial⟩
  · intro row found pastDue
    have canceled := decides (p := fun row => row.status = .canceled) (by decide) found
    rw [pastDue] at canceled
    cases of_decide_eq_true canceled
  · intro write row older writes _ _ expired
    exact absurd expired (alive (by decide) writes)
  · intro row found _ failed since
    have first := decides (p := fun row => row.pastDueSince = some 3000) (by decide) found
    rw [of_decide_eq_true first] at since
    cases since
    decide
  · intro write row older writes _ _ expired
    exact absurd expired (alive (by decide) writes)

/-- The next subscription's failed payment hides the cancelled one, once its grace
period is over. -/
theorem failed_payment_hides_perk :
    (∀ product, sampleBackend.rows product = []) ∧
      ((sampleCanceledRun.foldl (Occurrence.step sampleDeployment)
        sampleBackend).subscriptions.find? (considers sampleSubscriber.sub)).any
          (·.status = .canceled) = true ∧
      ((sampleCheck 3000).perform sampleDeployment
        (sampleCanceledRun.foldl (Occurrence.step sampleDeployment) sampleBackend)).1 =
          .ok () ∧
      ((sampleCheck 700000000).perform sampleDeployment
        ([sampleDelivery 4000 (.subscriptionCreated (sampleSubscription 8 .active))
              [sampleSubscription 8 .active],
            sampleDelivery 5000
              (.invoicePaymentFailed { id := 20, subscription := some 8 })
              [sampleSubscription 8 .pastDue]].foldl (Occurrence.step sampleDeployment)
          (sampleCanceledRun.foldl (Occurrence.step sampleDeployment) sampleBackend))).1 =
        .error (.forbidden
          "An active or previous subscription is required for this feature") := by
  refine ⟨fun product => by cases product <;> rfl, ?_, ?_, ?_⟩
  · decide
  · decide
  · decide

end ConferenceContact
