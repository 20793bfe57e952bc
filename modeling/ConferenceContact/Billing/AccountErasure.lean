import ConferenceContact.Billing.Deliveries

/-!
# Erasing an account

An account is erased by its user or by an administrator.  Its own erasure ends
the Directory subscription behind its live row in Stripe and looks at no other
table; an administrator's erasure never calls Stripe.  So either one leaves a
live subscription behind exactly where there was one out of its reach.
-/

namespace ConferenceContact

open Process

/-- The two ways in which an account is erased. -/
inductive ErasureRequest
  | deleteAccount (userId : UserId) (password : String)
  | deleteUser (adminUserId targetUserId : UserId)

namespace ErasureRequest

/-- The account that is erased. -/
def erased : ErasureRequest → UserId
  | deleteAccount userId _ => userId
  | deleteUser _ targetUserId => targetUserId

/-- The method behind a request. -/
def handle (app : Deployment) : ErasureRequest → Service Unit
  | deleteAccount userId password => AuthService.deleteAccount app userId password
  | deleteUser adminUserId targetUserId =>
      AdminService.deleteUser app adminUserId targetUserId

end ErasureRequest

/-- A live row of a user. -/
structure World.HasLive
    (world : World)
    (product : Product)
    (userId : UserId)
    (row : SubscriptionRow) : Prop where
  stored : row ∈ world.rows product
  owned : row.userId = userId
  live : row.status.live = true

/-- Whether Stripe has a live subscription with an id. -/
def World.billedIn (world : World) (id : StripeSubscriptionId) : Bool :=
  (findStripe id world.stripe).any (·.status.live)

/-- No subscription behind a live row that a user had before is still live in
Stripe. -/
def StopsBilling (before after : World) (userId : UserId) : Prop :=
  ∀ product row, before.HasLive product userId row →
    after.billedIn row.stripeSubscriptionId = false

/-- Every subscription behind a live row of the account that Stripe has as live
is within the reach of a request: an account's own erasure reaches the one
behind its live Directory row, an administrator's reaches none. -/
def ErasureRequest.Reaches (world : World) : ErasureRequest → Prop
  | deleteAccount userId _ =>
      ∀ row, world.HasLive .leadFinder userId row →
        world.billedIn row.stripeSubscriptionId = true →
          ∃ other, world.HasLive .directory userId other ∧
            other.stripeSubscriptionId = row.stripeSubscriptionId
  | deleteUser _ targetUserId =>
      ∀ product row, world.HasLive product targetUserId row →
        world.billedIn row.stripeSubscriptionId = false

/-! ## What an erasure does to Stripe -/

section

variable {input : Input} {rejections : ApiError → Prop} {world : World}

/-- The subscriptions in Stripe after the erasure of an account with a live
Directory row, if it has one. -/
def stripeAfterErasure
    (activeSubscription : Option SubscriptionRow)
    (stripe : List StripeSubscription) : List StripeSubscription :=
  match activeSubscription with
  | none => stripe
  | some subscription => canceledIn subscription.stripeSubscriptionId stripe

theorem ensures_endSubscription (activeSubscription : Option SubscriptionRow) :
    (AuthService.endSubscription activeSubscription).Ensures input rejections world
      fun result after => result = .ok () →
        after.stripe = stripeAfterErasure activeSubscription world.stripe := by
  cases activeSubscription with
  | none => exact fun _ => rfl
  | some subscription =>
      unfold AuthService.endSubscription StripeService.cancel StripeService.modify
      rw [Ensures.attempt_iff]
      refine ⟨?_, fun _ _ => nofun⟩
      split
      · rename_i outcome
        split at outcome
        · split at outcome
          · cases outcome
          · cases outcome
            exact fun _ => rfl
        · cases outcome
      · exact nofun

/-- Stripe's subscriptions are as they were. -/
def SameStripe (before after : World) : Prop :=
  after.stripe = before.stripe

instance : IsPreorder World SameStripe where
  refl _ := rfl
  trans _ _ _ first second := second.trans first

theorem sameStripe_eraseAccount
    (userId : UserId)
    (activeSubscription : Option SubscriptionRow) :
    (AuthService.eraseAccount userId activeSubscription).Respects SameStripe :=
  Footprint.eraseAccount fun _ _ _ _ => rfl

theorem sameStripe_of_quiet
    {process : Service α}
    (quiet : process.Respects Quiet) :
    process.Respects SameStripe :=
  quiet.mono fun _ _ quiet => quiet.stripe

theorem ensures_deleteAccount
    (app : Deployment)
    (userId : UserId)
    (password : String) :
    (AuthService.deleteAccount app userId password).Ensures input rejections world
      fun result after => result = .ok () →
        after.stripe =
          stripeAfterErasure (findLive userId world.subscriptions) world.stripe := by
  unfold AuthService.deleteAccount UsersService.findById
  rw [Ensures.bind_iff, Ensures.query_iff]
  refine ⟨?_, fun _ _ => nofun⟩
  dsimp only
  split
  · split
    · unfold AuthService.eraseSubscriber SubscriptionTable.findFirstLive
      rw [Ensures.bind_iff, Ensures.query_iff]
      refine ⟨?_, fun _ _ => nofun⟩
      refine Ensures.bind (ensures_endSubscription _) ?_ (fun _ _ _ => nofun)
      intro _ middle ended
      have rest : (do
          AuthService.eraseAccount userId (findLive userId (world.rows .directory))
          TokenRevocationService.revokeUser app userId
          AuditService.record (some userId) .authAccountDeletionRequested :
          Service Unit).Respects SameStripe := by
        refine Respects.bind (sameStripe_eraseAccount _ _) fun _ => ?_
        refine Respects.bind (sameStripe_of_quiet (quiet_revokeUser _ _)) fun _ => ?_
        exact sameStripe_of_quiet (quiet_record _ _)
      refine (Ensures.of_respects rest).weaken fun _ after same _ => ?_
      exact Eq.trans same (ended rfl)
    · exact nofun
  · exact nofun

theorem quiet_revokeAllForUser (userId : UserId) :
    (SessionsService.revokeAllForUser userId).Respects Quiet :=
  Respects.command fun _ _ => quiet_of_eq rfl rfl rfl rfl (Nat.le_refl _)

theorem quiet_deleteUser (app : Deployment) (adminUserId targetUserId : UserId) :
    (AdminService.deleteUser app adminUserId targetUserId).Respects Quiet :=
  Footprint.deleteUser (quiet_updateUser _ fun _ _ => rfl) (quiet_revokeAllForUser _)
    (fun _ _ => quiet_of_eq rfl rfl rfl rfl (Nat.le_refl _)) quiet_record app adminUserId

end

/-! ## What is left -/

section

variable {before after : World} {userId : UserId}

/-- The live Directory row of a user, if it has one, is the one an erasure ends. -/
theorem findLive_of_hasLive
    (consistent : before.Consistent)
    {row : SubscriptionRow}
    (live : before.HasLive .directory userId row) :
    findLive userId before.subscriptions = some row := by
  cases found : findLive userId before.subscriptions with
  | none =>
      unfold findLive at found
      rw [List.find?_eq_none] at found
      have absent := found row live.stored
      simp only [live.owned, live.live, and_self, decide_true, not_true_eq_false] at absent
  | some other =>
      obtain ⟨stored, owned, otherLive⟩ := mem_of_findLive found
      have sameUser : other.userId = row.userId := owned.trans live.owned.symm
      exact congrArg some ((consistent .directory).oneLive other stored row live.stored
        sameUser otherLive live.live)

theorem hasLive_of_findLive
    {row : SubscriptionRow}
    (found : findLive userId before.subscriptions = some row) :
    before.HasLive .directory userId row := by
  obtain ⟨stored, owned, live⟩ := mem_of_findLive found
  exact ⟨stored, owned, live⟩

/-- A subscription that has been ended is not live. -/
theorem billedIn_ended
    (id : StripeSubscriptionId)
    (stripe : List StripeSubscription) :
    (findStripe id (canceledIn id stripe)).any (·.status.live) = false := by
  rw [findStripe_canceledIn]
  cases found : findStripe id stripe with
  | none => rfl
  | some stripeSub =>
      rw [Option.map_some, if_pos (findStripe_id found)]
      rfl

/-- An account's own erasure stops the billing of the account exactly where every
live Lead Finder subscription is also the one behind its Directory row. -/
theorem stopsBilling_deleteAccount_iff
    (consistent : before.Consistent)
    (password : String)
    (stripe : after.stripe =
      stripeAfterErasure (findLive userId before.subscriptions) before.stripe) :
    StopsBilling before after userId ↔
      (ErasureRequest.deleteAccount userId password).Reaches before := by
  unfold StopsBilling ErasureRequest.Reaches
  constructor
  · intro stopped row live billed
    have ended := stopped .leadFinder row live
    unfold World.billedIn at ended
    rw [stripe] at ended
    cases found : findLive userId before.subscriptions with
    | none =>
        rw [found] at ended
        exact absurd (billed.symm.trans ended) nofun
    | some other =>
        refine ⟨other, hasLive_of_findLive found, ?_⟩
        by_contra different
        rw [found, stripeAfterErasure, findStripe_canceledIn_of_ne (Ne.symm different)]
          at ended
        exact absurd (billed.symm.trans ended) nofun
  · intro reaches product row live
    unfold World.billedIn
    rw [stripe]
    cases found : findLive userId before.subscriptions with
    | none =>
        cases product with
        | directory =>
            rw [findLive_of_hasLive consistent live] at found
            cases found
        | leadFinder =>
            refine Bool.eq_false_iff.mpr fun billed => ?_
            obtain ⟨other, otherLive, -⟩ := reaches row live billed
            rw [findLive_of_hasLive consistent otherLive] at found
            cases found
    | some other =>
        unfold stripeAfterErasure
        dsimp only
        by_cases same : row.stripeSubscriptionId = other.stripeSubscriptionId
        · rw [same]
          exact billedIn_ended _ _
        · rw [findStripe_canceledIn_of_ne same]
          cases product with
          | directory =>
              rw [findLive_of_hasLive consistent live] at found
              cases found
              exact absurd rfl same
          | leadFinder =>
              refine Bool.eq_false_iff.mpr fun billed => ?_
              obtain ⟨directoryRow, directoryLive, sameId⟩ := reaches row live billed
              rw [findLive_of_hasLive consistent directoryLive] at found
              cases found
              exact same sameId.symm

/-- An administrator's erasure stops the billing of the account exactly where no
subscription behind a live row was live. -/
theorem stopsBilling_deleteUser_iff
    (adminUserId : UserId)
    (stripe : after.stripe = before.stripe) :
    StopsBilling before after userId ↔
      (ErasureRequest.deleteUser adminUserId userId).Reaches before := by
  have same : ∀ id, after.billedIn id = before.billedIn id := by
    intro id
    unfold World.billedIn
    rw [stripe]
  unfold StopsBilling ErasureRequest.Reaches
  simp only [same]

end

/-- The outcome of an erasure of which at most one call is rejected. -/
def ErasureRequest.perform
    (app : Deployment)
    (request : ErasureRequest)
    (input : Input)
    (fault : Option (Nat × ApiError))
    (world : World) : Except ApiError Unit × World :=
  (request.handle app).runWithFault input fault world

/-- An erasure that succeeds stops the billing of the account exactly where every
live subscription of the account is within its reach. -/
theorem erasure_stops_billing_iff
    (app : Deployment)
    (request : ErasureRequest)
    (input : Input)
    (fault : Option (Nat × ApiError))
    {world : World}
    (consistent : world.Consistent)
    (succeeds : (request.perform app input fault world).1 = .ok ()) :
    StopsBilling world (request.perform app input fault world).2 request.erased ↔
      request.Reaches world := by
  have allowed : ∀ position error, fault = some (position, error) → True :=
    fun _ _ _ => trivial
  cases request with
  | deleteAccount userId password =>
      have ensures : (AuthService.deleteAccount app userId password).Ensures input
          (fun _ => True) world _ :=
        ensures_deleteAccount app userId password
      exact stopsBilling_deleteAccount_iff consistent password
        (ensures.runWithFault fault allowed succeeds)
  | deleteUser adminUserId targetUserId =>
      have quiet := (quiet_deleteUser app adminUserId targetUserId).runWithFault input
        fault world
      exact stopsBilling_deleteUser_iff adminUserId quiet.stripe

/-! ## Samples -/

/-- The subscription of the sample account to the sample tier. -/
def sampleTierSubscription : StripeSubscription :=
  { sampleSubscription 9 .active with
    metadata := { isLeadFinderTier := true, userId := some 0, tierId := some 2 } }

/-- The sample account holds a Directory subscription. -/
def sampleSubscribed : World :=
  Occurrence.step sampleDeployment sampleBackend
    (sampleDelivery 1000 (.subscriptionCreated (sampleSubscription 7 .active))
      [sampleSubscription 7 .active])

/-- It then also subscribes to a Lead Finder tier. -/
def sampleDoublySubscribed : World :=
  Occurrence.step sampleDeployment sampleSubscribed
    (sampleDelivery 2000 (.subscriptionCreated sampleTierSubscription)
      [sampleTierSubscription, sampleSubscription 7 .active])

/-- Without a Lead Finder subscription an account's own erasure stops its billing. -/
theorem erasure_stops_billing_iff_directoryOnly :
    StopsBilling sampleSubscribed
      ((ErasureRequest.deleteAccount 0 "correct horse").perform sampleDeployment
        { now := 3000 } none sampleSubscribed).2 0 := by
  have consistent : sampleSubscribed.Consistent := by
    refine fun product => ⟨?_, ?_, ?_, ?_⟩
    · cases product <;> decide
    · cases product <;> decide
    · cases product <;> decide
    · cases product <;> decide
  refine (erasure_stops_billing_iff sampleDeployment (.deleteAccount 0 "correct horse")
    { now := 3000 } none consistent (by decide)).mpr ?_
  intro row live
  have none : sampleSubscribed.rows .leadFinder = [] := by decide
  have stored := live.stored
  rw [none] at stored
  cases stored

/-- The Lead Finder subscription of an erased account stays live, and so does every
subscription of an account an administrator erases. -/
theorem erased_account_still_billed :
    ((ErasureRequest.deleteAccount 0 "correct horse").perform sampleDeployment
        { now := 3000 } none sampleDoublySubscribed).1 = .ok () ∧
      ¬StopsBilling sampleDoublySubscribed
        ((ErasureRequest.deleteAccount 0 "correct horse").perform sampleDeployment
          { now := 3000 } none sampleDoublySubscribed).2 0 ∧
      ((ErasureRequest.deleteUser 1 0).perform sampleDeployment
        { now := 3000 } none sampleDoublySubscribed).1 = .ok () ∧
      ¬StopsBilling sampleDoublySubscribed
        ((ErasureRequest.deleteUser 1 0).perform sampleDeployment
          { now := 3000 } none sampleDoublySubscribed).2 0 := by
  have tierRow : ∃ row ∈ sampleDoublySubscribed.rows .leadFinder,
      row.userId = 0 ∧ row.status.live = true ∧ row.stripeSubscriptionId = 9 := by
    decide
  have planRow : ∃ row ∈ sampleDoublySubscribed.rows .directory,
      row.userId = 0 ∧ row.status.live = true ∧ row.stripeSubscriptionId = 7 := by
    decide
  refine ⟨by decide, ?_, by decide, ?_⟩
  · intro stops
    obtain ⟨row, stored, owned, live, id⟩ := tierRow
    have ended := stops .leadFinder row ⟨stored, owned, live⟩
    rw [id] at ended
    revert ended
    decide
  · intro stops
    obtain ⟨row, stored, owned, live, id⟩ := planRow
    have ended := stops .directory row ⟨stored, owned, live⟩
    rw [id] at ended
    revert ended
    decide

end ConferenceContact
