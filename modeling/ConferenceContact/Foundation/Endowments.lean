import ConferenceContact.Foundation.Table

/-!
# Accounts endowed through offers

A registry keeps accounts, each with an endowment, and offers of endowments to
addresses.  An account is opened with the default endowment, or with that of a pending
offer to its address, which is settled thereby.  Whatever an endowment confers beyond
the default was offered or set; and an offer, once settled, is never open again.
-/

namespace ConferenceContact

/-- An endowment offered to an address. -/
structure Offer (α ε : Type) where
  id : Nat
  address : α
  endowment : ε
  pending : Bool
  deriving DecidableEq

/-- Accounts and the offers that have been made. -/
structure Registry (α ε : Type) where
  /-- The accounts by their id. -/
  accounts : List (Nat × ε)
  offers : List (Offer α ε)
  nextId : Nat

/-- What a step does, for whom. -/
inductive Deed (α ε : Type)
  | idle
  | offer (address : α) (endowment : ε)
  | open (address : α)
  | alter (account : Nat) (change : ε → ε)

namespace Registry

variable {α ε : Type} [Inhabited ε]

/-- One step of a registry; ids are given out in order, and some may be left out. -/
inductive Step : Deed α ε → Registry α ε → Registry α ε → Prop
  | idle (registry : Registry α ε) {nextId : Nat} (supply : registry.nextId ≤ nextId) :
      Step .idle registry { registry with nextId }
  | offer
      (registry : Registry α ε)
      (address : α)
      (endowment : ε)
      {id nextId : Nat}
      (fresh : registry.nextId ≤ id)
      (supply : id < nextId) :
      Step (.offer address endowment) registry
        { registry with
          offers := { id, address, endowment, pending := true } :: registry.offers
          nextId }
  | amend
      (registry : Registry α ε)
      {offer : Offer α ε}
      (present : offer ∈ registry.offers)
      (pending : offer.pending = true)
      (endowment : ε)
      {nextId : Nat}
      (supply : registry.nextId ≤ nextId) :
      Step (.offer offer.address endowment) registry
        { registry with
          offers := Table.updateWhere (fun other => other.id = offer.id)
            (fun other => { other with endowment }) registry.offers
          nextId }
  | open
      (registry : Registry α ε)
      (address : α)
      {id nextId : Nat}
      (fresh : registry.nextId ≤ id)
      (supply : id < nextId) :
      Step (.open address) registry
        { registry with accounts := (id, default) :: registry.accounts, nextId }
  | redeem
      (registry : Registry α ε)
      {offer : Offer α ε}
      (present : offer ∈ registry.offers)
      (pending : offer.pending = true)
      {id nextId : Nat}
      (fresh : registry.nextId ≤ id)
      (supply : id < nextId) :
      Step (.open offer.address) registry
        { accounts := (id, offer.endowment) :: registry.accounts
          offers := Table.updateWhere (fun other => other.id = offer.id)
            (fun other => { other with pending := false }) registry.offers
          nextId }
  | alter
      (registry : Registry α ε)
      (account : Nat)
      (change : ε → ε)
      {nextId : Nat}
      (supply : registry.nextId ≤ nextId) :
      Step (.alter account change) registry
        { registry with
          accounts := Table.updateWhere (fun other => other.1 = account)
            (fun other => (other.1, change other.2)) registry.accounts
          nextId }

/-- Ids are distinct and were all given out. -/
structure Sound (registry : Registry α ε) : Prop where
  accountsDistinct : (registry.accounts.map (·.1)).Nodup
  accountsFresh : ∀ account ∈ registry.accounts, account.1 < registry.nextId
  offersDistinct : (registry.offers.map (·.id)).Nodup
  offersFresh : ∀ offer ∈ registry.offers, offer.id < registry.nextId

/-- The account was opened, with the endowment of an offer that was settled thereby. -/
structure Redeems (before after : Registry α ε) (offer : Nat) (account : Nat) : Prop where
  pending : ∃ open_ ∈ before.offers, open_.id = offer ∧ open_.pending = true
  settled : ∃ closed ∈ after.offers, closed.id = offer ∧ closed.pending = false
  absent : account ∉ before.accounts.map (·.1)
  opened : account ∈ after.accounts.map (·.1)

variable {deed : Deed α ε} {before after : Registry α ε}

/-! ## What a step keeps -/

/-- A fresh id is none of the smaller ones. -/
theorem not_mem_of_fresh
    {rows : List ρ}
    {key : ρ → Nat}
    {bound id : Nat}
    (below : ∀ row ∈ rows, key row < bound)
    (fresh : bound ≤ id) :
    id ∉ rows.map key := by
  intro listed
  obtain ⟨row, present, same⟩ := List.mem_map.mp listed
  have := below row present
  omega

theorem below_updateWhere
    {rows : List ρ}
    {key : ρ → Nat}
    {bound supply : Nat}
    (condition : ρ → Bool)
    {rewrite : ρ → ρ}
    (kept : ∀ row, key (rewrite row) = key row)
    (below : ∀ row ∈ rows, key row < bound)
    (more : bound ≤ supply) :
    ∀ row ∈ Table.updateWhere condition rewrite rows, key row < supply := by
  intro row present
  obtain ⟨original, stored, rfl⟩ := Table.mem_updateWhere.mp present
  rw [Table.column_rewritten condition kept]
  exact Nat.lt_of_lt_of_le (below original stored) more

theorem distinct_updateWhere
    {rows : List ρ}
    {key : ρ → Nat}
    (condition : ρ → Bool)
    {rewrite : ρ → ρ}
    (kept : ∀ row, key (rewrite row) = key row)
    (distinct : (rows.map key).Nodup) :
    ((Table.updateWhere condition rewrite rows).map key).Nodup := by
  rwa [Table.map_updateWhere key condition rewrite rows kept]

theorem below_cons
    {rows : List ρ}
    {key : ρ → Nat}
    {bound supply : Nat}
    {head : ρ}
    (first : key head < supply)
    (below : ∀ row ∈ rows, key row < bound)
    (more : bound ≤ supply) :
    ∀ row ∈ head :: rows, key row < supply := by
  intro row present
  rcases List.mem_cons.mp present with rfl | stored
  · exact first
  · exact Nat.lt_of_lt_of_le (below row stored) more

theorem Step.sound (step : Step deed before after) (sound : before.Sound) : after.Sound := by
  obtain ⟨accountsDistinct, accountsFresh, offersDistinct, offersFresh⟩ := sound
  have accounts : ∀ {supply}, before.nextId ≤ supply →
      ∀ account ∈ before.accounts, account.1 < supply :=
    fun more account present => Nat.lt_of_lt_of_le (accountsFresh account present) more
  have offers : ∀ {supply}, before.nextId ≤ supply →
      ∀ offer ∈ before.offers, offer.id < supply :=
    fun more offer present => Nat.lt_of_lt_of_le (offersFresh offer present) more
  cases step with
  | idle _ supply => exact ⟨accountsDistinct, accounts supply, offersDistinct, offers supply⟩
  | offer _ address endowment fresh supply =>
      have more := Nat.le_of_lt (Nat.lt_of_le_of_lt fresh supply)
      refine ⟨accountsDistinct, accounts more, ?_, below_cons supply offersFresh more⟩
      exact List.nodup_cons.mpr ⟨not_mem_of_fresh offersFresh fresh, offersDistinct⟩
  | amend _ present pending endowment supply =>
      refine ⟨accountsDistinct, accounts supply, ?_, ?_⟩
      · exact distinct_updateWhere _ (fun _ => rfl) offersDistinct
      · exact below_updateWhere _ (fun _ => rfl) offersFresh supply
  | «open» _ address fresh supply =>
      have more := Nat.le_of_lt (Nat.lt_of_le_of_lt fresh supply)
      refine ⟨?_, below_cons supply accountsFresh more, offersDistinct, offers more⟩
      exact List.nodup_cons.mpr ⟨not_mem_of_fresh accountsFresh fresh, accountsDistinct⟩
  | redeem _ present pending fresh supply =>
      have more := Nat.le_of_lt (Nat.lt_of_le_of_lt fresh supply)
      refine ⟨?_, below_cons supply accountsFresh more, ?_, ?_⟩
      · exact List.nodup_cons.mpr ⟨not_mem_of_fresh accountsFresh fresh, accountsDistinct⟩
      · exact distinct_updateWhere _ (fun _ => rfl) offersDistinct
      · exact below_updateWhere _ (fun _ => rfl) offersFresh more
  | alter _ account change supply =>
      refine ⟨?_, ?_, offersDistinct, offers supply⟩
      · exact distinct_updateWhere _ (fun _ => rfl) accountsDistinct
      · exact below_updateWhere _ (fun _ => rfl) accountsFresh supply

/-- A step may wait, before it is taken and after. -/
theorem Step.later
    {earlier last : Registry α ε}
    (waits : Step .idle earlier before)
    (step : Step deed before after)
    (rests : Step .idle after last) :
    Step deed earlier last := by
  cases waits with
  | idle _ first =>
      cases rests with
      | idle _ second =>
          cases step with
          | idle _ supply => exact .idle earlier (by dsimp only at *; omega)
          | offer _ address endowment fresh supply =>
              exact .offer earlier address endowment (Nat.le_trans first fresh)
                (Nat.lt_of_lt_of_le supply second)
          | amend _ present pending endowment supply =>
              exact .amend earlier present pending endowment (by dsimp only at *; omega)
          | «open» _ address fresh supply =>
              exact .open earlier address (Nat.le_trans first fresh)
                (Nat.lt_of_lt_of_le supply second)
          | redeem _ present pending fresh supply =>
              exact .redeem earlier present pending (Nat.le_trans first fresh)
                (Nat.lt_of_lt_of_le supply second)
          | alter _ account change supply =>
              exact .alter earlier account change (by dsimp only at *; omega)

/-! ## Accounts -/

/-- What no alteration takes away stays with an account. -/
theorem Step.keeps
    {property : ε → Prop}
    (step : Step deed before after)
    (kept : ∀ account change, deed = .alter account change →
      ∀ endowment, property endowment → property (change endowment))
    {account : Nat}
    (holds : ∃ endowment, (account, endowment) ∈ before.accounts ∧ property endowment) :
    ∃ endowment, (account, endowment) ∈ after.accounts ∧ property endowment := by
  obtain ⟨endowment, present, has⟩ := holds
  cases step with
  | idle => exact ⟨endowment, present, has⟩
  | offer => exact ⟨endowment, present, has⟩
  | amend => exact ⟨endowment, present, has⟩
  | «open» => exact ⟨endowment, List.mem_cons_of_mem _ present, has⟩
  | redeem => exact ⟨endowment, List.mem_cons_of_mem _ present, has⟩
  | alter _ altered change =>
      by_cases same : account = altered
      · refine ⟨change endowment, ?_, kept altered change rfl endowment has⟩
        exact Table.mem_updateWhere.mpr ⟨(account, endowment), present, by simp [same]⟩
      · refine ⟨endowment, ?_, has⟩
        exact Table.mem_updateWhere.mpr ⟨(account, endowment), present, by simp [same]⟩

/-- A step opens one account at most. -/
theorem Step.opens_one
    (step : Step deed before after)
    {first second : Nat}
    (firstAbsent : first ∉ before.accounts.map (·.1))
    (firstOpened : first ∈ after.accounts.map (·.1))
    (secondAbsent : second ∉ before.accounts.map (·.1))
    (secondOpened : second ∈ after.accounts.map (·.1)) :
    first = second := by
  cases step with
  | idle => exact absurd firstOpened firstAbsent
  | offer => exact absurd firstOpened firstAbsent
  | amend => exact absurd firstOpened firstAbsent
  | «open» => simp_all
  | redeem => simp_all
  | alter _ account change =>
      have same := Table.map_updateWhere (·.1) (fun other => decide (other.1 = account))
        (fun other => (other.1, change other.2)) before.accounts fun _ => rfl
      exact absurd (same ▸ firstOpened) firstAbsent

/-- Where an account has what the default does not confer from. -/
theorem Step.endowed
    {confers : ε → Prop}
    (plain : ¬ confers default)
    (step : Step deed before after)
    (sound : before.Sound)
    {account : Nat}
    {endowment : ε}
    (present : (account, endowment) ∈ after.accounts)
    (has : confers endowment) :
    (∃ earlier, (account, earlier) ∈ before.accounts ∧ confers earlier) ∨
      (∃ offer ∈ before.offers, offer.pending = true ∧ confers offer.endowment ∧
        deed = .open offer.address ∧ Redeems before after offer.id account) ∨
      ∃ change earlier, deed = .alter account change ∧ (account, earlier) ∈ before.accounts ∧
        confers (change earlier) := by
  cases step with
  | idle => exact .inl ⟨endowment, present, has⟩
  | offer => exact .inl ⟨endowment, present, has⟩
  | amend => exact .inl ⟨endowment, present, has⟩
  | «open» =>
      rcases List.mem_cons.mp present with opened | present
      · cases opened
        exact absurd has plain
      · exact .inl ⟨endowment, present, has⟩
  | @redeem _ offer stored pending id _ fresh _ =>
      rcases List.mem_cons.mp present with opened | present
      · cases opened
        refine .inr (.inl ⟨offer, stored, pending, has, rfl, ?_⟩)
        exact
          { pending := ⟨offer, stored, rfl, pending⟩
            settled := ⟨{ offer with pending := false },
              Table.mem_updateWhere.mpr ⟨offer, stored, by simp⟩, rfl, rfl⟩
            absent := not_mem_of_fresh sound.accountsFresh fresh
            opened := List.mem_cons_self }
      · exact .inl ⟨endowment, present, has⟩
  | alter _ altered change =>
      obtain ⟨⟨id, earlier⟩, stored, result⟩ := Table.mem_updateWhere.mp present
      split at result
      · rename_i same
        cases result
        have same : id = altered := by simpa using same
        subst same
        exact .inr (.inr ⟨change, earlier, rfl, stored, has⟩)
      · cases result
        exact .inl ⟨endowment, stored, has⟩

/-! ## Offers -/

/-- Where a pending offer is from. -/
theorem Step.offered
    (step : Step deed before after)
    (sound : before.Sound)
    {offer : Offer α ε}
    (present : offer ∈ after.offers)
    (pending : offer.pending = true) :
    offer ∈ before.offers ∨ deed = .offer offer.address offer.endowment := by
  cases step with
  | idle => exact .inl present
  | «open» => exact .inl present
  | alter => exact .inl present
  | offer =>
      rcases List.mem_cons.mp present with rfl | present
      · exact .inr rfl
      · exact .inl present
  | @amend _ amended stored open_ endowment =>
      obtain ⟨original, present, result⟩ := Table.mem_updateWhere.mp present
      split at result
      · rename_i same
        have same : original = amended :=
          Table.eq_of_key_eq sound.offersDistinct present stored (by simpa using same)
        subst same result
        exact .inr rfl
      · exact .inl (result ▸ present)
  | redeem =>
      obtain ⟨original, present, result⟩ := Table.mem_updateWhere.mp present
      split at result
      · rw [← result] at pending
        cases pending
      · exact .inl (result ▸ present)

/-- The offer was settled. -/
def Settled (registry : Registry α ε) (id : Nat) : Prop :=
  ∃ offer ∈ registry.offers, offer.id = id ∧ offer.pending = false

/-- A settled offer stays settled. -/
theorem Step.settled
    (step : Step deed before after)
    {id : Nat}
    (settled : before.Settled id) :
    after.Settled id := by
  obtain ⟨offer, present, named, closed⟩ := settled
  have rewritten : ∀ {condition : Offer α ε → Bool} {rewrite : Offer α ε → Offer α ε},
      (∀ offer, (rewrite offer).id = offer.id) →
      (∀ offer, offer.pending = false → (rewrite offer).pending = false) →
      ∃ offer ∈ Table.updateWhere condition rewrite before.offers,
        offer.id = id ∧ offer.pending = false := by
    intro condition rewrite sameId stays
    refine ⟨_, Table.mem_updateWhere.mpr ⟨offer, present, rfl⟩, ?_⟩
    rw [Table.column_rewritten condition sameId]
    refine ⟨named, ?_⟩
    split
    · exact stays offer closed
    · exact closed
  cases step with
  | idle => exact ⟨offer, present, named, closed⟩
  | «open» => exact ⟨offer, present, named, closed⟩
  | alter => exact ⟨offer, present, named, closed⟩
  | offer => exact ⟨offer, List.mem_cons_of_mem _ present, named, closed⟩
  | amend => exact rewritten (fun _ => rfl) fun _ closed => closed
  | redeem => exact rewritten (fun _ => rfl) fun _ _ => rfl

omit [Inhabited ε] in
/-- A settled offer is redeemed by no one. -/
theorem Settled.not_redeems
    {id account : Nat}
    (settled : before.Settled id)
    (sound : before.Sound) :
    ¬ Redeems before after id account := by
  intro redeems
  obtain ⟨closed, closedPresent, closedNamed, isClosed⟩ := settled
  obtain ⟨open_, openPresent, openNamed, isOpen⟩ := redeems.pending
  have same := Table.eq_of_key_eq sound.offersDistinct closedPresent openPresent
    (closedNamed.trans openNamed.symm)
  rw [same, isOpen] at isClosed
  cases isClosed

end Registry
end ConferenceContact
