import ConferenceContact.Billing.Records
import ConferenceContact.Foundation.Deciding

/-!
# What decides about the Directory

The guard lets staff and comped users through, and any other user whose newest
row that is not `EXPIRED` grants access.  Only a write of a row without a newer
such row of its user can change the answer, and the status it writes says how.
-/

namespace ConferenceContact

open Process Deciding

/-! ## The answer of the guard -/

/-- Whether a user has been comped by an administrator. -/
def World.isComped (world : World) (userId : UserId) : Bool :=
  (world.users.find? fun user => user.id = userId).any (·.adminGrantedDirectoryAccess)

namespace DirectoryAccessGuard

/-- Whether the guard lets a user through. -/
def admits
    (app : Deployment)
    (user : AccessTokenPayload)
    (input : Input)
    (world : World) : Bool :=
  match ((canActivate app (some user)).run input world).1 with
  | .ok allowed => allowed
  | .error _ => false

/-- Whether a deciding row, if there is one, grants access. -/
def rowGrants
    (app : Deployment)
    (now : Time)
    (deciding : Option SubscriptionRow) : Bool :=
  deciding.any fun row => hasDirectoryAccess app now row.status row.pastDueSince

/-- Whether the newest row of a user that is not `EXPIRED` grants access. -/
def grants
    (app : Deployment)
    (now : Time)
    (userId : UserId)
    (rows : List SubscriptionRow) : Bool :=
  rowGrants app now (rows.find? (considers userId))

theorem rowGrants_some
    (app : Deployment)
    (now : Time)
    (row : SubscriptionRow) :
    rowGrants app now (some row) =
      hasDirectoryAccess app now row.status row.pastDueSince := rfl

theorem admits_eq
    (app : Deployment)
    (user : AccessTokenPayload)
    (input : Input)
    (world : World) :
    admits app user input world =
      (staff user.role || world.isComped user.sub ||
        grants app input.now user.sub world.subscriptions) := by
  unfold admits canActivate
  dsimp only
  cases isStaff : staff user.role with
  | true => rfl
  | false =>
      simp only [Bool.false_eq_true, if_false, run_bind, run_query,
        UsersService.findById, Service.run_dateNow, Bool.false_or]
      cases comped : world.isComped user.sub with
      | true =>
          unfold World.isComped at comped
          rw [if_pos comped]
          rfl
      | false =>
          unfold World.isComped at comped
          rw [if_neg (by rw [comped]; exact Bool.false_ne_true), Bool.false_or]
          cases granted : grants app input.now user.sub world.subscriptions with
          | true =>
              unfold grants rowGrants at granted
              rw [if_pos granted]
              rfl
          | false =>
              unfold grants rowGrants at granted
              rw [if_neg (by rw [granted]; exact Bool.false_ne_true)]
              rfl

end DirectoryAccessGuard

/-! ## Access over time -/

section

variable {app : Deployment} {now later : Time}

/-- Only of a past-due row does access depend on the streak. -/
theorem hasDirectoryAccess_of_ne_pastDue
    {status : SubscriptionStatus}
    (different : status ≠ .pastDue)
    (left right : Option Time) :
    hasDirectoryAccess app now status left = hasDirectoryAccess app now status right := by
  cases status with
  | pastDue => exact absurd rfl different
  | _ => rfl

/-- Time alone takes access away and never gives it. -/
theorem hasDirectoryAccess_mono
    (passes : now ≤ later)
    {status : SubscriptionStatus}
    {pastDueSince : Option Time}
    (granted : hasDirectoryAccess app later status pastDueSince = true) :
    hasDirectoryAccess app now status pastDueSince = true := by
  cases status with
  | pastDue =>
      cases pastDueSince with
      | none => rfl
      | some since =>
          simp only [hasDirectoryAccess, hasActiveAccess, Bool.or_eq_true,
            decide_eq_true_eq] at granted ⊢
          rcases granted with early | different
          · exact .inl (Nat.lt_of_le_of_lt passes early)
          · cases different
  | _ => exact granted

theorem DirectoryAccessGuard.grants_mono
    (passes : now ≤ later)
    {userId : UserId}
    {rows : List SubscriptionRow}
    (denied : grants app now userId rows = false) :
    grants app later userId rows = false := by
  unfold grants at denied ⊢
  cases found : rows.find? (considers userId) with
  | none => rfl
  | some row =>
      rw [found] at denied
      refine Bool.eq_false_iff.mpr fun granted => ?_
      have before := hasDirectoryAccess_mono passes granted
      rw [rowGrants_some, before] at denied
      cases denied

end

/-! ## Writes that decide -/

/-- When the past-due streak of a row began that is written as past due: `before`
is the row as it was, if there was one. -/
def pastDueStart (now : Time) (before : Option SubscriptionRow) : Time :=
  (before.bind (·.pastDueSince)).getD now

namespace RowWrite

/-- The row a write leaves has no newer row of its user that counts: it is the
row `before` if it is not new, and the rows below it are `older`. -/
def Decides
    (userId : UserId)
    (rows : List SubscriptionRow)
    (write : RowWrite)
    (before : Option SubscriptionRow)
    (older : List SubscriptionRow) : Prop :=
  match before with
  | none => write.inserts = true ∧ write.owner rows = some userId ∧ older = rows
  | some row =>
      write.inserts = false ∧ row.stripeSubscriptionId = write.target ∧
        row.userId = userId ∧
        Exposed (DirectoryAccessGuard.considers userId) rows row older

section

variable {app : Deployment} {now : Time} {write : RowWrite} {status : SubscriptionStatus}

/-- What a rewritten row grants is read from the status written. -/
theorem hasDirectoryAccess_rewrite
    (existing : write.inserts = false)
    (written : write.status = some status)
    (row : SubscriptionRow) :
    hasDirectoryAccess app now (write.rewrite now row).status
        (write.rewrite now row).pastDueSince =
      hasDirectoryAccess app now status (some (pastDueStart now (some row))) := by
  have sameStatus : (write.rewrite now row).status = status := by
    rw [rewrite_status existing, written]
    rfl
  rw [sameStatus]
  by_cases pastDue : status = .pastDue
  · subst pastDue
    cases write with
    | sync stripeSub =>
        have mapped : mapStripeStatus stripeSub.status = .pastDue := sameStatus
        simp only [rewrite, SubscriptionsService.mapStripeSubToUpdate, mapped, if_true]
        rfl
    | fail stripeSubscriptionId => rfl
    | insert stripeSub userId productId => cases existing
    | terminate stripeSubscriptionId => cases written
    | replace stripeSubscriptionId => cases written
    | schedule stripeSubscriptionId cancelAtPeriodEnd => cases written
  · exact hasDirectoryAccess_of_ne_pastDue pastDue _ _

/-- What a new row grants is read from the status written. -/
theorem hasDirectoryAccess_newRow
    (stripeSub : StripeSubscription)
    (userId : UserId)
    (productId : PlanId)
    (id : Nat) :
    hasDirectoryAccess app now
        (SubscriptionsService.newRow stripeSub userId productId now id).status
        (SubscriptionsService.newRow stripeSub userId productId now id).pastDueSince =
      hasDirectoryAccess app now (mapStripeStatus stripeSub.status)
        (some (pastDueStart now none)) := by
  by_cases pastDue : mapStripeStatus stripeSub.status = .pastDue
  · simp only [SubscriptionsService.newRow, pastDue, if_true]
    rfl
  · exact hasDirectoryAccess_of_ne_pastDue pastDue _ _

/-- A write without a status leaves what a row grants. -/
theorem rewrite_of_status_none
    (now : Time)
    (unset : write.status = none)
    (row : SubscriptionRow) :
    (write.rewrite now row).status = row.status ∧
      (write.rewrite now row).pastDueSince = row.pastDueSince := by
  cases write with
  | schedule stripeSubscriptionId cancelAtPeriodEnd => exact ⟨rfl, rfl⟩
  | _ => cases unset

end
end RowWrite

namespace DirectoryAccessGuard

/-- A row counts for a user, read off its two columns. -/
theorem considers_eq_true
    {userId : UserId}
    {row : SubscriptionRow} :
    considers userId row = true ↔ row.userId = userId ∧ row.status ≠ .expired := by
  simp [considers]

section

variable {app : Deployment} {now : Time} {userId : UserId} {rows : List SubscriptionRow}
  {write : RowWrite}

/-- A row stops counting only where it is written as `EXPIRED`. -/
theorem expires_of_uncounted
    (existing : write.inserts = false)
    {row : SubscriptionRow}
    (counted : considers userId row = true)
    (uncounted : considers userId (write.rewrite now row) = false) :
    write.status = some .expired := by
  obtain ⟨sameUser, notExpired⟩ := considers_eq_true.mp counted
  have expired : (write.rewrite now row).status = .expired := by
    by_contra alive
    have counts := considers_eq_true.mpr ⟨(write.rewrite_userId now row).trans sameUser, alive⟩
    rw [uncounted] at counts
    cases counts
  rw [RowWrite.rewrite_status existing] at expired
  cases given : write.status with
  | none =>
      rw [given] at expired
      exact absurd expired notExpired
  | some status =>
      rw [given] at expired
      exact congrArg some expired

/-- At most one row belongs to a subscription. -/
theorem single_of_consistent
    {nextId : Nat}
    (consistent : TableConsistent nextId rows)
    (target : StripeSubscriptionId) :
    rows.Pairwise fun left right =>
      ¬ (decide (left.stripeSubscriptionId = target) = true ∧
        decide (right.stripeSubscriptionId = target) = true) := by
  refine List.Pairwise.imp ?_ (List.pairwise_map.mp consistent.stripeIds)
  rintro left right different ⟨leftChosen, rightChosen⟩
  exact different ((of_decide_eq_true leftChosen).trans (of_decide_eq_true rightChosen).symm)

/-- Some row still decides after a write, if there is one below a deciding row
that expires. -/
theorem decided_apply
    {nextId : Nat}
    (consistent : TableConsistent nextId rows)
    (holds : (rows.find? (considers userId)).isSome = true)
    (givesWay : ∀ row older, write.Decides userId rows (some row) older →
      considers userId row = true → write.status = some .expired →
      (older.find? (considers userId)).isSome = true)
    (id : Nat) :
    ((write.apply now id rows).find? (considers userId)).isSome = true := by
  cases inserts : write.inserts with
  | true =>
      cases write with
      | insert stripeSub owner productId =>
          exact verdict_cons (·.isSome = true) holds fun _ => rfl
      | _ => cases inserts
  | false =>
      rw [RowWrite.apply_of_existing inserts]
      refine verdict_updateWhere (·.isSome = true)
        (single_of_consistent consistent write.target) holds (fun _ _ _ _ _ => rfl) ?_
      intro row older exposed chosen counted uncounted
      obtain ⟨sameUser, -⟩ := considers_eq_true.mp counted
      exact givesWay row older ⟨inserts, of_decide_eq_true chosen, sameUser, exposed⟩
        counted (expires_of_uncounted inserts counted uncounted)

/-- The answer survives a write if the status it gives a deciding row grants as
much, and if the rows below a deciding row that expires do. -/
theorem grants_apply
    {verdict : Bool}
    {nextId : Nat}
    (consistent : TableConsistent nextId rows)
    (holds : grants app now userId rows = verdict)
    (decides : ∀ before older status, write.Decides userId rows before older →
      write.status = some status → status ≠ .expired →
      hasDirectoryAccess app now status (some (pastDueStart now before)) = verdict)
    (givesWay : ∀ row older, write.Decides userId rows (some row) older →
      considers userId row = true → write.status = some .expired →
      grants app now userId older = verdict)
    (id : Nat) :
    grants app now userId (write.apply now id rows) = verdict := by
  cases inserts : write.inserts with
  | true =>
      cases write with
      | insert stripeSub owner productId =>
          refine verdict_cons (rowGrants app now · = verdict) holds ?_
          intro counts
          obtain ⟨sameUser, notExpired⟩ := considers_eq_true.mp counts
          rw [rowGrants_some, RowWrite.hasDirectoryAccess_newRow]
          exact decides none rows _ ⟨rfl, congrArg some sameUser, rfl⟩ rfl notExpired
      | _ => cases inserts
  | false =>
      rw [RowWrite.apply_of_existing inserts]
      refine verdict_updateWhere (rowGrants app now · = verdict)
        (single_of_consistent consistent write.target) holds ?_ ?_
      · intro row older exposed chosen counts
        obtain ⟨sameUser, notExpired⟩ := considers_eq_true.mp counts
        rw [RowWrite.rewrite_userId] at sameUser
        cases given : write.status with
        | none =>
            obtain ⟨sameStatus, sameStreak⟩ := RowWrite.rewrite_of_status_none now given row
            rw [sameStatus] at notExpired
            have found := exposed.find? (considers_eq_true.mpr ⟨sameUser, notExpired⟩)
            unfold grants at holds
            rw [found] at holds
            rw [rowGrants_some, sameStatus, sameStreak]
            exact holds
        | some status =>
            rw [RowWrite.rewrite_status inserts, given] at notExpired
            rw [rowGrants_some, RowWrite.hasDirectoryAccess_rewrite inserts given]
            exact decides (some row) older status
              ⟨inserts, of_decide_eq_true chosen, sameUser, exposed⟩ given notExpired
      · intro row older exposed chosen counted uncounted
        obtain ⟨sameUser, -⟩ := considers_eq_true.mp counted
        exact givesWay row older ⟨inserts, of_decide_eq_true chosen, sameUser, exposed⟩
          counted (expires_of_uncounted inserts counted uncounted)

end
end DirectoryAccessGuard
end ConferenceContact
