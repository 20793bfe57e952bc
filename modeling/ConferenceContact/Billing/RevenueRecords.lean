import ConferenceContact.Foundation.Reliance
import ConferenceContact.Billing.Invoices

/-!
# What revenue is recorded of

A paid invoice is of one subscription, the subscription is of one account, and a grant
of credits is of one account too; an invoice that is paid says when.  Invoices, grants,
subscriptions and accounts are added by the steps of `RevenueRecords.Step`, and no request does
anything else to them.
-/

namespace ConferenceContact

open Process

/-! ## Records -/

/-- An invoice with the id of its subscription. -/
structure Bill where
  reference : StripeReference
  subscriptionId : Nat
  status : InvoiceStatus
  paidAt : Option Time

/-- What payments are recorded of, with the supply of fresh ids. -/
structure RevenueRecords where
  accounts : List UserId
  /-- The subscriptions with their users. -/
  subscriptions : List (Nat × UserId)
  invoices : List Bill
  /-- The users of the credit grants. -/
  grants : List UserId
  nextId : Nat

/-- An invoice as a bill. -/
def Invoice.bill (invoice : Invoice) : Bill where
  reference := invoice.stripeInvoiceId
  subscriptionId := invoice.subscriptionId
  status := invoice.status
  paidAt := invoice.paidAt

/-- The row of a subscription as its id and its user. -/
def SubscriptionRow.owned (row : SubscriptionRow) : Nat × UserId :=
  (row.id, row.userId)

/-- What the reports of the revenue rest on. -/
def World.revenueRecords (world : World) : RevenueRecords where
  accounts := world.users.map (·.id)
  subscriptions := world.subscriptions.map SubscriptionRow.owned
  invoices := world.invoices.map Invoice.bill
  grants := world.creditGrants.map (·.userId)
  nextId := world.nextId

/-- An invoice with a new status. -/
def Bill.settled (status : InvoiceStatus) (paidAt : Option Time) (bill : Bill) : Bill :=
  { bill with status, paidAt }

/-- A paid invoice says when it was paid. -/
def Bill.Dated (bill : Bill) : Prop :=
  bill.status = .paid → bill.paidAt.isSome

namespace RevenueRecords

/-- Ids are distinct and were all given out, every reference leads somewhere, and paid
invoices say when. -/
structure Sound (records : RevenueRecords) : Prop where
  accountsDistinct : records.accounts.Nodup
  accountsFresh : ∀ account ∈ records.accounts, account < records.nextId
  subscriptionsDistinct : (records.subscriptions.map Prod.fst).Nodup
  subscriptionsFresh : ∀ id ∈ records.subscriptions.map Prod.fst, id < records.nextId
  owners : ∀ subscription ∈ records.subscriptions, subscription.2 ∈ records.accounts
  billed : ∀ bill ∈ records.invoices,
    bill.subscriptionId ∈ records.subscriptions.map Prod.fst
  dated : ∀ bill ∈ records.invoices, bill.Dated
  granted : ∀ grant ∈ records.grants, grant ∈ records.accounts

/-- What may be referred to stays. -/
structure Extends (before after : RevenueRecords) : Prop where
  accounts : ∀ account ∈ before.accounts, account ∈ after.accounts
  subscriptions : ∀ id ∈ before.subscriptions.map Prod.fst,
    id ∈ after.subscriptions.map Prod.fst

instance : IsPreorder RevenueRecords Extends where
  refl _ := ⟨fun _ present => present, fun _ present => present⟩
  trans _ _ _ earlier later :=
    { accounts := fun account present => later.accounts _ (earlier.accounts account present)
      subscriptions := fun id present =>
        later.subscriptions _ (earlier.subscriptions id present) }

/-! ## Steps -/

/-- One change of the records. -/
inductive Step : RevenueRecords → RevenueRecords → Prop
  | reserve (records : RevenueRecords) (amount : Nat) :
      Step records { records with nextId := records.nextId + amount }
  | register (records : RevenueRecords) :
      Step records
        { records with
          accounts := records.nextId :: records.accounts
          nextId := records.nextId + 1 }
  | subscribe (records : RevenueRecords) (account : UserId) :
      account ∈ records.accounts →
      Step records
        { records with
          subscriptions := (records.nextId, account) :: records.subscriptions
          nextId := records.nextId + 1 }
  | bill (records : RevenueRecords) (bill : Bill) :
      bill.subscriptionId ∈ records.subscriptions.map Prod.fst → bill.Dated →
      Step records
        { records with
          invoices := bill :: records.invoices
          nextId := records.nextId + 1 }
  /-- A status of an invoice that is known already. -/
  | settle (records : RevenueRecords) (reference : StripeReference) (status : InvoiceStatus)
      (paidAt : Option Time) :
      (status = .paid → paidAt.isSome) →
      Step records
        { records with
          invoices := Table.updateWhere (fun bill => bill.reference = reference)
            (Bill.settled status paidAt) records.invoices }
  | grant (records : RevenueRecords) (account : UserId) :
      account ∈ records.accounts →
      Step records
        { records with
          grants := account :: records.grants
          nextId := records.nextId + 1 }

variable {before after : RevenueRecords}

/-- Nothing that may be referred to goes in a step. -/
theorem Step.extends (step : Step before after) : before.Extends after := by
  cases step with
  | register => exact ⟨fun _ present => List.mem_cons_of_mem _ present, fun _ present => present⟩
  | subscribe account known =>
      refine ⟨fun _ present => present, fun id present => ?_⟩
      rw [List.map_cons]
      exact List.mem_cons_of_mem _ present
  | _ => exact ⟨fun _ present => present, fun _ present => present⟩

/-- With the next id, ids are still distinct, and all were given out. -/
theorem fresh_ids
    {ids : List Nat}
    {next : Nat}
    (distinct : ids.Nodup)
    (given : ∀ id ∈ ids, id < next) :
    (next :: ids).Nodup ∧ ∀ id ∈ next :: ids, id < next + 1 := by
  refine ⟨List.nodup_cons.mpr ⟨fun present => Nat.lt_irrefl _ (given next present), distinct⟩, ?_⟩
  intro id present
  rcases List.mem_cons.mp present with rfl | old
  · exact Nat.lt_succ_self _
  · exact Nat.lt_succ_of_lt (given id old)

/-- Every step keeps the records sound. -/
theorem Step.sound (step : Step before after) (sound : before.Sound) : after.Sound := by
  have extended := step.extends
  have owners : ∀ subscription ∈ before.subscriptions, subscription.2 ∈ after.accounts :=
    fun subscription present => extended.accounts _ (sound.owners subscription present)
  have granted : ∀ grant ∈ before.grants, grant ∈ after.accounts :=
    fun grant present => extended.accounts _ (sound.granted grant present)
  have billed : ∀ bill ∈ before.invoices,
      bill.subscriptionId ∈ after.subscriptions.map Prod.fst :=
    fun bill present => extended.subscriptions _ (sound.billed bill present)
  cases step with
  | reserve amount =>
      exact { sound with
        accountsFresh := fun account present =>
          Nat.lt_add_right _ (sound.accountsFresh account present)
        subscriptionsFresh := fun id present =>
          Nat.lt_add_right _ (sound.subscriptionsFresh id present) }
  | register =>
      obtain ⟨distinct, given⟩ := fresh_ids sound.accountsDistinct sound.accountsFresh
      exact { sound with
        accountsDistinct := distinct
        accountsFresh := given
        subscriptionsFresh := fun id present =>
          Nat.lt_succ_of_lt (sound.subscriptionsFresh id present)
        owners
        granted }
  | subscribe account known =>
      obtain ⟨distinct, given⟩ := fresh_ids sound.subscriptionsDistinct sound.subscriptionsFresh
      refine { sound with
        accountsFresh := fun account present =>
          Nat.lt_succ_of_lt (sound.accountsFresh account present)
        subscriptionsDistinct := distinct
        subscriptionsFresh := given
        owners := fun subscription present => ?_
        billed }
      rcases List.mem_cons.mp present with rfl | old
      · exact known
      · exact owners subscription old
  | bill bill known dated =>
      refine { sound with
        accountsFresh := fun account present =>
          Nat.lt_succ_of_lt (sound.accountsFresh account present)
        subscriptionsFresh := fun id present =>
          Nat.lt_succ_of_lt (sound.subscriptionsFresh id present)
        billed := fun other present => ?_
        dated := fun other present => ?_ }
      · rcases List.mem_cons.mp present with rfl | old
        · exact known
        · exact billed other old
      · rcases List.mem_cons.mp present with rfl | old
        · exact dated
        · exact sound.dated other old
  | settle reference status paidAt dated =>
      refine { sound with
        billed := fun bill present => ?_
        dated := fun bill present => ?_ }
      · obtain ⟨old, stored, rfl⟩ := Table.mem_updateWhere.mp present
        split
        · exact billed old stored
        · exact billed old stored
      · obtain ⟨old, stored, rfl⟩ := Table.mem_updateWhere.mp present
        split
        · exact dated
        · exact sound.dated old stored
  | grant account known =>
      refine { sound with
        accountsFresh := fun account present =>
          Nat.lt_succ_of_lt (sound.accountsFresh account present)
        subscriptionsFresh := fun id present =>
          Nat.lt_succ_of_lt (sound.subscriptionsFresh id present)
        granted := fun grant present => ?_ }
      rcases List.mem_cons.mp present with rfl | old
      · exact known
      · exact granted grant old

end RevenueRecords
end ConferenceContact
