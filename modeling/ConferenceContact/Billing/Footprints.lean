import ConferenceContact.Auth.Footprints
import ConferenceContact.Model.Billing

/-!
# What the deletion of an account leaves alone

The calls to Stripe and the deletion of an account by its owner, followed once for any
relation, as the calls of a login are.
-/

namespace ConferenceContact

open Process

namespace Footprint

variable {R : World → World → Prop} [Std.Refl R] {app : Deployment}

/-! ## Stripe -/

theorem modify
    (writes : ∀ world stripe, R world { world with stripe })
    (id : StripeSubscriptionId)
    (change : StripeSubscription → StripeSubscription) :
    (StripeService.modify id change).Respects R := by
  refine Respects.attempt fun input world value after modified => ?_
  split at modified
  · split at modified
    · cases modified
    · cases modified
      exact writes world _
  · cases modified

/-- A subscription is retrieved without any write. -/
theorem retrieve (id : StripeSubscriptionId) :
    (StripeService.retrieve id).Respects R := by
  refine Respects.attempt fun input world value after retrieved => ?_
  split at retrieved
  · cases retrieved
    exact Std.Refl.refl world
  · cases retrieved

/-! ## Deletions -/

theorem endSubscription
    (writes : ∀ world stripe, R world { world with stripe })
    (activeSubscription : Option SubscriptionRow) :
    (AuthService.endSubscription activeSubscription).Respects R := by
  cases activeSubscription with
  | none => exact Respects.pure ()
  | some subscription => exact modify writes _ _

theorem eraseAccount
    {userId : UserId}
    {activeSubscription : Option SubscriptionRow}
    (erases : ∀ now world subscriptions,
      AuthService.rowsAfterDeletion activeSubscription world.subscriptions = .ok subscriptions →
      R world
        { world with
          subscriptions
          sessions := Table.updateWhere
            (fun session => session.userId = userId ∧ session.revokedAt = none)
            (fun session => { session with revokedAt := some now })
            world.sessions
          users := Table.updateWhere (fun user => user.id = userId)
            (fun user =>
              { user with
                status := .deleted
                deletedAt := some now
                email := AdminService.deletedEmail userId })
            world.users }) :
    (AuthService.eraseAccount userId activeSubscription).Respects R := by
  refine Respects.attempt fun input world value after erased => ?_
  split at erased
  · cases erased
  · rename_i subscriptions succeeds
    split at erased
    · cases erased
      exact erases input.now world subscriptions succeeds
    · cases erased

theorem deleteAccount
    {userId : UserId}
    (ends : ∀ world stripe, R world { world with stripe })
    (erases : ∀ activeSubscription,
      (AuthService.eraseAccount userId activeSubscription).Respects R)
    (revokes : (TokenRevocationService.revokeUser app userId).Respects R)
    (records : ∀ actor action, (AuditService.record actor action).Respects R)
    (password : String) :
    (AuthService.deleteAccount app userId password).Respects R := by
  refine Respects.bind (Respects.query _) fun found => ?_
  cases found with
  | none => exact Respects.throw _
  | some user =>
      refine Respects.ite ?_ (Respects.throw _)
      refine Respects.bind (Respects.query _) fun activeSubscription => ?_
      refine Respects.bind (endSubscription ends activeSubscription) fun _ => ?_
      refine Respects.bind (erases activeSubscription) fun _ => ?_
      refine Respects.bind revokes fun _ => ?_
      exact records _ _

end Footprint
end ConferenceContact
