import ConferenceContact.Billing.Records

/-!
# Ending duplicates in Stripe

A delivery ends the subscription it reports where the unique index refuses its
row.  That subscription is then a duplicate of the one behind the live row of
its user, provided that row is not out of date: the branch trusts the table, and
a late event can bring a row back to life whose subscription has ended.
-/

namespace ConferenceContact

open Process

/-! ## Subscriptions in Stripe -/

/-- The product a subscription is for. -/
def StripeMetadata.product (stripeMeta : StripeMetadata) : Product :=
  if stripeMeta.isLeadFinderTier then .leadFinder else .directory

theorem StripeMetadata.not_isLeadFinderTier
    {stripeMeta : StripeMetadata}
    (directory : stripeMeta.product = .directory) :
    stripeMeta.isLeadFinderTier = false := by
  unfold product at directory
  split at directory
  · cases directory
  · rename_i other
    exact Bool.eq_false_iff.mpr other

/-- An event still reports the same subscription once one has been ended. -/
theorem StripeEvent.reported_canceledIn
    {event : StripeEvent}
    {id : StripeSubscriptionId}
    {stripe : List StripeSubscription}
    {report : StripeMetadata × StripeSubscription}
    (reported : event.reported (canceledIn id stripe) = some report) :
    ∃ before, event.reported stripe = some before ∧ before.2.id = report.2.id := by
  cases event with
  | checkoutSessionCompleted session =>
      simp only [StripeEvent.reported] at reported ⊢
      split at reported
      · rw [findStripe_canceledIn] at reported
        obtain ⟨_, endedFound, rfl⟩ := Option.map_eq_some_iff.mp reported
        obtain ⟨stripeSub, found, rfl⟩ := Option.map_eq_some_iff.mp endedFound
        refine ⟨(session.metadata, stripeSub), Option.map_eq_some_iff.mpr ⟨_, found, rfl⟩, ?_⟩
        dsimp only
        split <;> rfl
      · cases reported
  | subscriptionCreated stripeSub => exact ⟨report, reported, rfl⟩
  | subscriptionUpdated stripeSub => exact ⟨report, reported, rfl⟩
  | subscriptionResumed stripeSub => exact ⟨report, reported, rfl⟩
  | _ => cases reported

/-! ## Metadata that does not change -/

section

variable (owner : StripeSubscriptionId → StripeMetadata)

/-- Stripe's subscriptions carry the metadata they were created with. -/
def StripeCoherent (stripe : List StripeSubscription) : Prop :=
  ∀ stripeSub ∈ stripe, stripeSub.metadata = owner stripeSub.id

/-- So does the subscription an event carries, and the Checkout Session that
created a subscription is for the same product. -/
def StripeEvent.Coherent : StripeEvent → Prop
  | checkoutSessionCompleted session =>
      ∀ stripeSubscriptionId, session.subscription = some stripeSubscriptionId →
        session.metadata.product = (owner stripeSubscriptionId).product
  | subscriptionCreated stripeSub => stripeSub.metadata = owner stripeSub.id
  | subscriptionUpdated stripeSub => stripeSub.metadata = owner stripeSub.id
  | subscriptionResumed stripeSub => stripeSub.metadata = owner stripeSub.id
  | _ => True

/-- What a request of a run finds in Stripe and carries is coherent. -/
structure Occurrence.Coherent (occurrence : Occurrence) : Prop where
  stripe : StripeCoherent owner occurrence.stripe
  event : ∀ event, occurrence.request = .webhook event → event.Coherent owner

/-- Every row belongs to the user and to the product of its subscription. -/
def RowsOwned (world : World) : Prop :=
  ∀ product, ∀ row ∈ world.rows product,
    (owner row.stripeSubscriptionId).userId = some row.userId ∧
      (owner row.stripeSubscriptionId).product = product

end

section

variable {owner : StripeSubscriptionId → StripeMetadata}

theorem StripeCoherent.canceledIn
    {stripe : List StripeSubscription}
    (coherent : StripeCoherent owner stripe)
    (id : StripeSubscriptionId) :
    StripeCoherent owner (canceledIn id stripe) := by
  intro stripeSub present
  obtain ⟨before, stored, rfl⟩ := Table.mem_updateWhere.mp present
  have same := coherent before stored
  split
  · exact same
  · exact same

/-- The subscription an event reports, and the object that reports it. -/
theorem StripeEvent.Coherent.of_reported
    {event : StripeEvent}
    (coherent : event.Coherent owner)
    {stripe : List StripeSubscription}
    (inStripe : StripeCoherent owner stripe)
    {report : StripeMetadata × StripeSubscription}
    (reported : event.reported stripe = some report) :
    report.2.metadata = owner report.2.id ∧
      report.1.product = (owner report.2.id).product := by
  cases event with
  | checkoutSessionCompleted session =>
      simp only [StripeEvent.reported] at reported
      split at reported
      · rename_i stripeSubscriptionId _ refers
        obtain ⟨stripeSub, found, rfl⟩ := Option.map_eq_some_iff.mp reported
        have sameId := findStripe_id found
        refine ⟨inStripe stripeSub (List.mem_of_find?_eq_some found), ?_⟩
        rw [show (session.metadata, stripeSub).2.id = stripeSubscriptionId from sameId]
        exact coherent stripeSubscriptionId refers
      · cases reported
  | subscriptionCreated stripeSub =>
      cases reported
      exact ⟨coherent, congrArg StripeMetadata.product coherent⟩
  | subscriptionUpdated stripeSub =>
      cases reported
      exact ⟨coherent, congrArg StripeMetadata.product coherent⟩
  | subscriptionResumed stripeSub =>
      cases reported
      exact ⟨coherent, congrArg StripeMetadata.product coherent⟩
  | _ => cases reported

/-- A service that writes a row for a reported subscription does so for its own
product. -/
theorem product_of_syncWrite
    {product : Product}
    {rows : List SubscriptionRow}
    {report : StripeMetadata × StripeSubscription}
    (sameProduct : report.1.product = report.2.metadata.product)
    (owns : product.owns report.1 = true)
    {write : RowWrite}
    (written : syncWrite product rows report.2 = some write) :
    report.2.metadata.product = product := by
  cases product with
  | directory =>
      by_cases isLeadFinder : report.2.metadata.isLeadFinderTier = true
      · rw [syncWrite, if_pos isLeadFinder] at written
        cases written
      · exact if_neg isLeadFinder
  | leadFinder =>
      have isLeadFinder : report.1.isLeadFinderTier = true := by
        simpa [Product.owns] using owns
      rw [← sameProduct]
      exact if_pos isLeadFinder

/-! ## Rows belong to their subscriptions -/

/-- What holds of the keys of every row of a table holds after a recorded write, where
it holds of a new row. -/
theorem Recorded.forall_rows
    (holds : StripeSubscriptionId → UserId → Prop)
    {product : Product}
    {now : Time}
    {lossy : Prop}
    {write : Option RowWrite}
    {before after : World}
    (recorded : Recorded product now lossy write before after)
    (stored : ∀ row ∈ before.rows product, holds row.stripeSubscriptionId row.userId)
    (inserted : ∀ stripeSub userId productId,
      write = some (.insert stripeSub userId productId) → holds stripeSub.id userId) :
    ∀ row ∈ after.rows product, holds row.stripeSubscriptionId row.userId := by
  intro row present
  rcases recorded.row with ⟨taken, id, same, -, -, -, rows⟩ | ⟨rows, -⟩
  · rw [rows] at present
    cases inserts : taken.inserts with
    | true =>
        cases taken with
        | insert stripeSub userId productId =>
            rcases List.mem_cons.mp present with rfl | old
            · exact inserted stripeSub userId productId same
            · exact stored row old
        | _ => cases inserts
    | false =>
        rw [RowWrite.apply_of_existing inserts] at present
        obtain ⟨before, old, rfl⟩ := Table.mem_updateWhere.mp present
        split
        · rw [RowWrite.rewrite_stripeSubscriptionId, RowWrite.rewrite_userId]
          exact stored before old
        · exact stored before old
  · rw [rows] at present
    exact stored row present

/-- A handled event keeps the rows of its table with their owners. -/
theorem rowsOwned_of_handled
    {product : Product}
    {now : Time}
    {lossy : Prop}
    {event : StripeEvent}
    {before after : World}
    (handled : Handled product now lossy event before after)
    (coherent : event.Coherent owner)
    (inStripe : StripeCoherent owner before.stripe)
    (owned : RowsOwned owner before) :
    RowsOwned owner after := by
  intro other
  by_cases same : other = product
  · subst same
    refine handled.recorded.forall_rows (fun id userId => (owner id).userId = some userId ∧
      (owner id).product = other) (owned other) ?_
    intro stripeSub userId productId written
    rcases StripeEvent.write_cases written with
      ⟨report, reported, owns, synced⟩ | ⟨_, -, impossible⟩ | ⟨_, _, -, -, -, impossible⟩
    · obtain ⟨sameMeta, sameProduct⟩ := coherent.of_reported inStripe reported
      have isProduct := product_of_syncWrite (by rw [sameProduct, sameMeta]) owns synced
      rcases syncWrite_cases synced with ⟨impossible, -⟩ | ⟨user, plan, inserts, -, named⟩
      · cases impossible
      · cases inserts
        rw [sameMeta] at named isProduct
        exact ⟨named, isProduct⟩
    · cases impossible
    · cases impossible
  · intro row present
    rw [handled.others other same] at present
    exact owned other row present

/-- A handled event leaves Stripe coherent. -/
theorem stripeCoherent_of_handled
    {product : Product}
    {now : Time}
    {lossy : Prop}
    {event : StripeEvent}
    {before after : World}
    (handled : Handled product now lossy event before after)
    (inStripe : StripeCoherent owner before.stripe) :
    StripeCoherent owner after.stripe := by
  rcases handled.stripe with same | ⟨report, taken, -, -, -, canceled⟩
  · rw [same]
    exact inStripe
  · rw [canceled]
    exact inStripe.canceledIn report.2.id

theorem RowsOwned.step
    {world : World}
    {occurrence : Occurrence}
    (app : Deployment)
    (consistent : world.Consistent)
    (owned : RowsOwned owner world)
    (coherent : occurrence.Coherent owner) :
    RowsOwned owner (Occurrence.step app world occurrence) := by
  have arrived : RowsOwned owner (occurrence.arrive world) := by
    intro product
    rw [occurrence.arrive_rows world product]
    exact owned product
  by_cases delivery : ∃ event, occurrence.request = .webhook event
  · obtain ⟨event, delivery⟩ := delivery
    have eventCoherent := coherent.event event delivery
    obtain ⟨middle, first, -, -, second⟩ := Occurrence.processed app consistent delivery
    have middleOwned := rowsOwned_of_handled first eventCoherent coherent.stripe arrived
    rcases second with ⟨-, stopped⟩ | second
    · rw [stopped]
      exact middleOwned
    · exact rowsOwned_of_handled second eventCoherent
        (stripeCoherent_of_handled first coherent.stripe) middleOwned
  · have records := Occurrence.records app consistent fun event same => delivery ⟨event, same⟩
    intro product
    refine (records product).forall_rows (fun id userId => (owner id).userId = some userId ∧
      (owner id).product = product) (arrived product) ?_
    intro stripeSub userId productId written
    rcases BillingRequest.write_cases written with
      ⟨event, same, -⟩ | ⟨row, -, -, impossible | ⟨flag, impossible⟩⟩
    · exact absurd ⟨event, same⟩ delivery
    · cases impossible
    · cases impossible

end

theorem rowsOwned_of_no_rows
    {world : World}
    (empty : ∀ product, world.rows product = [])
    (owner : StripeSubscriptionId → StripeMetadata) :
    RowsOwned owner world :=
  fun product => World.forall_rows_of_no_rows empty product

/-- In a run with unchanging metadata the rows belong to their subscriptions. -/
theorem run_rowsOwned
    (app : Deployment)
    {owner : StripeSubscriptionId → StripeMetadata}
    {world : World}
    (consistent : world.Consistent)
    (owned : RowsOwned owner world)
    (occurrences : List Occurrence)
    (coherent : ∀ occurrence ∈ occurrences, occurrence.Coherent owner) :
    RowsOwned owner (occurrences.foldl (Occurrence.step app) world) := by
  induction occurrences generalizing world with
  | nil => exact owned
  | cons occurrence later inductionHypothesis =>
      exact inductionHypothesis (Occurrence.step_consistent app consistent)
        (owned.step app consistent (coherent occurrence List.mem_cons_self))
        fun other present => coherent other (List.mem_cons_of_mem _ present)

/-! ## Duplicates -/

/-- A delivery that ends a subscription in Stripe leaves its user another live
one of the same product. -/
def Occurrence.EndsOnlyDuplicates
    (app : Deployment)
    (world : World)
    (occurrence : Occurrence) : Prop :=
  ∀ event id stripeSub, occurrence.request = .webhook event →
    findStripe id occurrence.stripe = some stripeSub →
    stripeSub.status.terminal = false →
    (findStripe id (step app world occurrence).stripe).any (·.status.terminal) = true →
    ∃ other, findStripe other.id occurrence.stripe = some other ∧ other.id ≠ id ∧
      other.metadata.userId = stripeSub.metadata.userId ∧
      other.metadata.product = stripeSub.metadata.product ∧
      other.status.live = true

/-- When a subscription is reported in a live status, the live rows that its
user has of the same product for other subscriptions name subscriptions that are
live in Stripe. -/
def Occurrence.Backed (world : World) (occurrence : Occurrence) : Prop :=
  ∀ event report, occurrence.request = .webhook event →
    event.reported occurrence.stripe = some report →
    (mapStripeStatus report.2.status).live = true →
    ∀ row ∈ world.rows report.2.metadata.product,
      report.2.metadata.userId = some row.userId → row.status.live = true →
      row.stripeSubscriptionId ≠ report.2.id →
      (findStripe row.stripeSubscriptionId occurrence.stripe).any (·.status.live) = true

section

variable {owner : StripeSubscriptionId → StripeMetadata}

/-- A refused write of an event leaves a live row of the reported subscription's
user and product for another subscription. -/
theorem blocking_row
    {product : Product}
    {event : StripeEvent}
    {world : World}
    (coherent : event.Coherent owner)
    (inStripe : StripeCoherent owner world.stripe)
    (owned : RowsOwned owner world)
    {report : StripeMetadata × StripeSubscription}
    (reported : event.reported world.stripe = some report)
    {taken : RowWrite}
    (written : event.write product world = some taken)
    (refused : taken.refused (world.rows product) = true) :
    report.2.metadata.product = product ∧
      (mapStripeStatus report.2.status).live = true ∧
      ∃ row ∈ world.rows product, report.2.metadata.userId = some row.userId ∧
        row.status.live = true ∧ row.stripeSubscriptionId ≠ report.2.id := by
  obtain ⟨sameMeta, sameProduct⟩ := coherent.of_reported inStripe reported
  rw [StripeEvent.write_of_reported reported] at written
  split at written
  · rename_i owns
    have isProduct := product_of_syncWrite (by rw [sameProduct, sameMeta]) owns written
    refine ⟨isProduct, ?_⟩
    rw [RowWrite.refused, Bool.and_eq_true] at refused
    obtain ⟨live, isBlocked⟩ := refused
    rcases syncWrite_cases written with
      ⟨rfl, row, found⟩ | ⟨userId, productId, rfl, -, named⟩
    · refine ⟨live, ?_⟩
      obtain ⟨present, sameId⟩ := mem_of_findByStripeId found
      rw [RowWrite.owner_of_existing rfl, show
        findByStripeId (RowWrite.sync report.2).target (world.rows product) = some row from
          found, Option.map_some, Option.any_some] at isBlocked
      obtain ⟨other, stored, different, sameUser, otherLive⟩ := blocked_eq_true.mp isBlocked
      refine ⟨other, stored, ?_, otherLive, different⟩
      rw [sameMeta, sameUser, ← sameId]
      exact (owned product row present).1
    · refine ⟨live, ?_⟩
      obtain ⟨other, stored, different, sameUser, otherLive⟩ := blocked_eq_true.mp isBlocked
      exact ⟨other, stored, by rw [named, sameUser], otherLive, different⟩
  · cases written

/-- The subscription behind a live row is another one of the same user and
product. -/
theorem other_of_backed
    {world : World}
    {occurrence : Occurrence}
    (coherent : occurrence.Coherent owner)
    (backed : occurrence.Backed world)
    (owned : RowsOwned owner world)
    {event : StripeEvent}
    (delivery : occurrence.request = .webhook event)
    {report : StripeMetadata × StripeSubscription}
    (reported : event.reported occurrence.stripe = some report)
    (live : (mapStripeStatus report.2.status).live = true)
    {row : SubscriptionRow}
    (stored : row ∈ world.rows report.2.metadata.product)
    (sameUser : report.2.metadata.userId = some row.userId)
    (rowLive : row.status.live = true)
    (different : row.stripeSubscriptionId ≠ report.2.id)
    {stripeSub : StripeSubscription}
    (found : findStripe report.2.id occurrence.stripe = some stripeSub) :
    ∃ other, findStripe other.id occurrence.stripe = some other ∧ other.id ≠ report.2.id ∧
      other.metadata.userId = stripeSub.metadata.userId ∧
      other.metadata.product = stripeSub.metadata.product ∧
      other.status.live = true := by
  have inStripe := backed event report delivery reported live row stored sameUser rowLive
    different
  obtain ⟨sameMeta, -⟩ := (coherent.event event delivery).of_reported coherent.stripe reported
  cases otherFound : findStripe row.stripeSubscriptionId occurrence.stripe with
  | none =>
      rw [otherFound] at inStripe
      cases inStripe
  | some other =>
      rw [otherFound, Option.any_some] at inStripe
      have otherId := findStripe_id otherFound
      have otherMeta := coherent.stripe other (List.mem_of_find?_eq_some otherFound)
      have subMeta := coherent.stripe stripeSub (List.mem_of_find?_eq_some found)
      obtain ⟨rowUser, rowProduct⟩ := owned _ row stored
      rw [otherId] at otherMeta
      rw [findStripe_id found, ← sameMeta] at subMeta
      refine ⟨other, by rw [otherId]; exact otherFound, by rw [otherId]; exact different,
        ?_, ?_, inStripe⟩
      · rw [otherMeta, rowUser, subMeta, sameUser]
      · rw [otherMeta, rowProduct, subMeta]

/-- A handled event ends only the subscription it reports, and only where the
index refuses its write. -/
theorem Handled.ended
    {product : Product}
    {now : Time}
    {lossy : Prop}
    {event : StripeEvent}
    {before after : World}
    (handled : Handled product now lossy event before after)
    {id : StripeSubscriptionId}
    (unended : (findStripe id before.stripe).any (·.status.terminal) = false)
    (ended : (findStripe id after.stripe).any (·.status.terminal) = true) :
    ∃ report taken, event.reported before.stripe = some report ∧ report.2.id = id ∧
      event.write product before = some taken ∧
      taken.refused (before.rows product) = true ∧
      after.stripe = canceledIn id before.stripe := by
  rcases handled.stripe with same | ⟨report, taken, reported, written, refused, canceled⟩
  · rw [same, unended] at ended
    cases ended
  · by_cases sameId : report.2.id = id
    · subst sameId
      exact ⟨report, taken, reported, rfl, written, refused, canceled⟩
    · rw [canceled, findStripe_canceledIn_of_ne (fun equal => sameId equal.symm),
        unended] at ended
      cases ended

theorem Occurrence.endsOnlyDuplicates
    {world : World}
    {occurrence : Occurrence}
    (app : Deployment)
    (consistent : world.Consistent)
    (owned : RowsOwned owner world)
    (coherent : occurrence.Coherent owner)
    (backed : occurrence.Backed world) :
    occurrence.EndsOnlyDuplicates app world := by
  intro event id stripeSub delivery found unended ended
  have arrivedOwned : RowsOwned owner (occurrence.arrive world) := by
    intro product
    rw [occurrence.arrive_rows world product]
    exact owned product
  have eventCoherent := coherent.event event delivery
  obtain ⟨middle, first, -, -, second⟩ := Occurrence.processed app consistent delivery
  have unended : (findStripe id (occurrence.arrive world).stripe).any (·.status.terminal) =
      false := by
    rw [show findStripe id (occurrence.arrive world).stripe = some stripeSub from found]
    exact unended
  cases midway : (findStripe id middle.stripe).any (·.status.terminal) with
  | true =>
      -- The first service has ended it.
      obtain ⟨report, taken, reported, rfl, written, refused, -⟩ := first.ended unended midway
      obtain ⟨sameProduct, live, row, stored, sameUser, rowLive, different⟩ :=
        blocking_row eventCoherent coherent.stripe arrivedOwned reported written refused
      rw [occurrence.arrive_rows, ← sameProduct] at stored
      exact other_of_backed coherent backed owned delivery reported live stored sameUser
        rowLive different found
  | false =>
      -- The second service has ended it, and Stripe is as it was before.
      rcases second with ⟨-, stopped⟩ | second
      · rw [stopped, midway] at ended
        cases ended
      · obtain ⟨report, taken, reported, rfl, written, refused, -⟩ := second.ended midway ended
        have unchanged : middle.stripe = occurrence.stripe := by
          rcases first.stripe with same | ⟨reportBefore, -, reportedBefore, -, -, canceled⟩
          · exact same
          · rw [canceled] at reported
            obtain ⟨other, otherReported, sameId⟩ := StripeEvent.reported_canceledIn reported
            rw [reportedBefore] at otherReported
            cases otherReported
            rw [canceled, ← sameId, findStripe_canceledIn, show
              findStripe reportBefore.2.id (occurrence.arrive world).stripe = some stripeSub from
                sameId ▸ found, Option.map_some, if_pos (findStripe_id (sameId ▸ found))]
              at midway
            cases midway
        have middleOwned := rowsOwned_of_handled first eventCoherent coherent.stripe
          arrivedOwned
        have middleCoherent := stripeCoherent_of_handled first coherent.stripe
        obtain ⟨sameProduct, live, row, stored, sameUser, rowLive, different⟩ :=
          blocking_row eventCoherent middleCoherent middleOwned reported written refused
        rw [first.others .leadFinder nofun, occurrence.arrive_rows, ← sameProduct] at stored
        rw [unchanged] at reported
        exact other_of_backed coherent backed owned delivery reported live stored sameUser
          rowLive different found

/-- In a run whose deliveries find every live row that stands in the way of a
reported subscription backed by Stripe, a subscription is ended as a duplicate
only while its user has another live one of the same product. -/
theorem duplicates_ended_while_other_live
    (app : Deployment)
    {start : World}
    (empty : ∀ product, start.rows product = [])
    (owner : StripeSubscriptionId → StripeMetadata)
    (occurrences : List Occurrence)
    (coherent : ∀ occurrence ∈ occurrences, occurrence.Coherent owner)
    (backed : Along (Occurrence.step app) (fun world occurrence => occurrence.Backed world)
      start occurrences) :
    Along (Occurrence.step app)
      (fun world occurrence => occurrence.EndsOnlyDuplicates app world)
      start occurrences := by
  have coherentAlong : Along (Occurrence.step app)
      (fun _ occurrence => occurrence.Coherent owner) start occurrences :=
    Along.of_forall fun occurrence present _ => coherent occurrence present
  refine Along.weaken (fun world => world.Consistent ∧ RowsOwned owner world) ?_ ?_
    ⟨World.consistent_of_no_rows empty, rowsOwned_of_no_rows empty owner⟩
    (coherentAlong.and backed)
  · rintro world occurrence ⟨consistent, owned⟩ ⟨coherent, -⟩
    exact ⟨Occurrence.step_consistent app consistent, owned.step app consistent coherent⟩
  · rintro world occurrence ⟨consistent, owned⟩ ⟨coherent, backed⟩
    exact Occurrence.endsOnlyDuplicates app consistent owned coherent backed

end

/-- Two subscriptions of one account reach Stripe, and the second one is ended. -/
def sampleDoubleCheckout : List Occurrence :=
  [sampleDelivery 1000 (.subscriptionCreated (sampleSubscription 7 .active))
      [sampleSubscription 7 .active],
    sampleDelivery 2000 (.subscriptionCreated (sampleSubscription 8 .active))
      [sampleSubscription 7 .active, sampleSubscription 8 .active]]

/-- The metadata of every sample subscription. -/
def sampleOwner (_ : StripeSubscriptionId) : StripeMetadata :=
  { userId := some 0, planId := some 1 }

/-- Every sample delivery whose subscriptions are the sample account's. -/
theorem sampleDelivery_coherent
    {now : Time}
    {event : StripeEvent}
    {stripe : List StripeSubscription}
    (inStripe : ∀ stripeSub ∈ stripe, stripeSub.metadata = sampleOwner stripeSub.id)
    (coherent : event.Coherent sampleOwner) :
    (sampleDelivery now event stripe).Coherent sampleOwner where
  stripe := inStripe
  event := by
    rintro event ⟨⟩
    exact coherent

theorem duplicates_ended_while_other_live_doubleCheckout :
    Along (Occurrence.step sampleDeployment)
      (fun world occurrence => occurrence.EndsOnlyDuplicates sampleDeployment world)
      sampleBackend sampleDoubleCheckout := by
  refine duplicates_ended_while_other_live sampleDeployment
    (fun product => by cases product <;> rfl) sampleOwner sampleDoubleCheckout ?_
    ⟨?_, ?_, trivial⟩
  · intro occurrence present
    rcases List.mem_cons.mp present with rfl | present
    · exact sampleDelivery_coherent (by decide) rfl
    · rcases List.mem_singleton.mp present with rfl
      exact sampleDelivery_coherent (by decide) rfl
  · rintro event report ⟨⟩ ⟨⟩ -
    decide
  · rintro event report ⟨⟩ ⟨⟩ -
    decide

/-- An account replaces its lapsed subscription; the last failed payment of the
old one is delivered late, and the new one is ended as its duplicate. -/
def sampleLateFailure : List Occurrence :=
  [sampleDelivery 1000 (.subscriptionCreated (sampleSubscription 7 .active))
      [sampleSubscription 7 .active],
    sampleDelivery 2000 (.invoicePaymentFailed { id := 20, subscription := some 7 })
      [sampleSubscription 7 .pastDue],
    { input := { now := 700000000 }, stripe := [sampleSubscription 7 .pastDue]
      request := .createCheckoutSession 0 "pro" },
    sampleDelivery 700001000 (.invoicePaymentFailed { id := 21, subscription := some 7 })
      [sampleSubscription 7 .canceled],
    sampleDelivery 700002000 (.subscriptionCreated (sampleSubscription 8 .active))
      [sampleSubscription 7 .canceled, sampleSubscription 8 .active]]

theorem only_subscription_ended_as_duplicate :
    (∀ product, sampleBackend.rows product = []) ∧
      (∀ occurrence ∈ sampleLateFailure, occurrence.Coherent sampleOwner) ∧
      (sampleLateFailure.foldl (Occurrence.step sampleDeployment) sampleBackend).stripe =
        [sampleSubscription 7 .canceled, sampleSubscription 8 .canceled] ∧
      ¬ Along (Occurrence.step sampleDeployment)
        (fun world occurrence => occurrence.EndsOnlyDuplicates sampleDeployment world)
        sampleBackend sampleLateFailure := by
  refine ⟨fun product => by cases product <;> rfl, ?_, by decide, ?_⟩
  · intro occurrence present
    simp only [sampleLateFailure, List.mem_cons, List.not_mem_nil, or_false] at present
    rcases present with rfl | rfl | rfl | rfl | rfl
    · exact sampleDelivery_coherent (by decide) rfl
    · exact sampleDelivery_coherent (by decide) trivial
    · refine ⟨fun _ present => by rw [List.mem_singleton.mp present]; rfl, ?_⟩
      rintro event ⟨⟩
    · exact sampleDelivery_coherent (by decide) trivial
    · exact sampleDelivery_coherent (by decide) rfl
  · rintro ⟨-, -, -, -, onlyDuplicates, -⟩
    obtain ⟨other, found, different, -, -, live⟩ :=
      onlyDuplicates _ 8 (sampleSubscription 8 .active)
      rfl rfl rfl (by decide)
    have noneLive : ∀ stripeSub ∈ [sampleSubscription 7 .canceled,
        sampleSubscription 8 .active], stripeSub.id ≠ 8 → stripeSub.status.live = false := by
      decide
    have ended := noneLive other (List.mem_of_find?_eq_some found) different
    rw [live] at ended
    cases ended

end ConferenceContact
