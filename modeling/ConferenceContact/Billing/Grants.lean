import ConferenceContact.Billing.Changes
import ConferenceContact.Billing.Credits

/-!
# What webhook events do to the accounts

The only change a webhook event makes to the accounts is to add credits to some
of them.
-/

namespace ConferenceContact

open Process

/-- An account to which credits may have been added. -/
def User.CreditedTo (before after : User) : Prop :=
  before.leadFinderCredits ≤ after.leadFinderCredits ∧
    after = { before with leadFinderCredits := after.leadFinderCredits }

/-- The accounts are the same, but for credits added to some of them. -/
def OnlyGrants (before after : World) : Prop :=
  List.Forall₂ User.CreditedTo before.users after.users

theorem User.CreditedTo.trans
    {before middle after : User}
    (first : before.CreditedTo middle)
    (second : middle.CreditedTo after) :
    before.CreditedTo after := by
  obtain ⟨firstMore, firstSame⟩ := first
  obtain ⟨secondMore, secondSame⟩ := second
  refine ⟨Int.le_trans firstMore secondMore, ?_⟩
  rw [secondSame, firstSame]

/-- Related lists compose. -/
theorem forall₂_trans
    {R : α → α → Prop}
    (composes : ∀ first second third, R first second → R second third → R first third)
    {first second third : List α}
    (left : List.Forall₂ R first second)
    (right : List.Forall₂ R second third) :
    List.Forall₂ R first third := by
  induction left generalizing third with
  | nil => exact right
  | cons related _ inductionHypothesis =>
      cases right with
      | cons next later =>
          exact .cons (composes _ _ _ related next) (inductionHypothesis later)

instance : IsPreorder World OnlyGrants where
  refl _ := List.forall₂_same.mpr fun _ _ => ⟨Int.le_refl _, rfl⟩
  trans _ _ _ first second :=
    forall₂_trans (R := User.CreditedTo)
      (fun _ _ _ left right => left.trans right) first second

theorem onlyGrants_of_users
    {before after : World}
    (users : after.users = before.users) :
    OnlyGrants before after := by
  unfold OnlyGrants
  rw [users]
  exact Std.Refl.refl (r := OnlyGrants) before

/-- Credits added to accounts show in every lookup. -/
theorem OnlyGrants.find?
    {before after : List User}
    (grants : List.Forall₂ User.CreditedTo before after)
    (userId : UserId) :
    (before.find? fun user => user.id = userId) = none ∧
        (after.find? fun user => user.id = userId) = none ∨
      ∃ user credited, (before.find? fun user => user.id = userId) = some user ∧
        (after.find? fun user => user.id = userId) = some credited ∧
        user.CreditedTo credited := by
  induction grants with
  | nil => exact .inl ⟨rfl, rfl⟩
  | @cons user credited _ _ related _ inductionHypothesis =>
      have sameId : credited.id = user.id := by rw [related.2]
      by_cases found : user.id = userId
      · refine .inr ⟨user, credited, ?_, ?_, related⟩
        · rw [List.find?_cons_of_pos (by simpa using found)]
        · rw [List.find?_cons_of_pos (by simpa [sameId] using found)]
      · rw [List.find?_cons_of_neg (by simpa using found),
          List.find?_cons_of_neg (by simpa [sameId] using found)]
        exact inductionHypothesis

theorem OnlyGrants.accounts
    {before after : World}
    (grants : OnlyGrants before after) :
    after.users.map (·.id) = before.users.map (·.id) := by
  have related : List.Forall₂ (fun credited user : User => credited.id = user.id)
      after.users before.users :=
    (List.Forall₂.flip grants).imp fun credited user related => by rw [related.2]
  rw [← List.forall₂_eq_eq_eq, List.forall₂_map_left_iff, List.forall₂_map_right_iff]
  exact related

/-! ## The changes of an event -/

/-- Adding credits to a balance. -/
theorem onlyGrants_credited
    (world : World)
    (userId : UserId)
    {credits : Int}
    (nonneg : 0 ≤ credits) :
    OnlyGrants world (world.credited userId credits) := by
  show List.Forall₂ _ _ (List.map _ _)
  rw [List.forall₂_map_right_iff, List.forall₂_same]
  intro user _
  split
  · exact ⟨Int.le_add_of_nonneg_right nonneg, rfl⟩
  · exact ⟨Int.le_refl _, rfl⟩

/-- The changes of an event only add credits. -/
theorem Change.onlyGrants
    {event : StripeEvent}
    {before after : World}
    (change : Change (event.allowance fun _ => true) before after) :
    OnlyGrants before after := by
  cases change with
  | credit _ userId nonneg => exact onlyGrants_credited before userId nonneg
  | @rows product _ _ _ => cases product <;> exact onlyGrants_of_users rfl
  | invoice bills now subscriptionId =>
      refine onlyGrants_of_users ?_
      unfold World.billed SubscriptionsService.upsertInvoice
      rw [Process.run_command]
      dsimp only
      split <;> rfl
  | account own users sessions subscriptions redis => cases own
  | _ => exact onlyGrants_of_users rfl

/-- A webhook event only adds credits. -/
theorem onlyGrants_webhook (app : Deployment) (event : StripeEvent) :
    (StripeWebhookProcessor.process app event).Respects OnlyGrants :=
  ((BillingRequest.webhook event).changes app).mono fun _ _ change => change.onlyGrants

end ConferenceContact
