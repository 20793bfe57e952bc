import ConferenceContact.Billing.Credits
import ConferenceContact.Billing.Changes
import ConferenceContact.Billing.CustomerIds
import ConferenceContact.Foundation.Reliance
import ConferenceContact.Model.CreditPacks
import Mathlib.Data.List.TakeWhile

/-!
# Purchases of credit packs

Checkouts for credit packs and Stripe's events about them, their calls interleaved and
any of them rejected.  What Stripe charges for a session and what its event credits are
the same order, of the account whose customer is charged; and no account is credited,
and no grant recorded, for anything else.
-/

namespace ConferenceContact

open Process

/-! ## Decimal texts -/

/-- A digit is neither white space nor a sign. -/
theorem digit_ne_sign {digit : Char} (isDigit : digit.isDigit = true) :
    isJsWhitespace digit = false ∧ digit ≠ '-' ∧ digit ≠ '+' := by
  have code : 48 ≤ digit.toNat ∧ digit.toNat ≤ 57 := Char.isDigit_iff_toNat.mp isDigit
  refine ⟨?_, ?_, ?_⟩
  · unfold isJsWhitespace
    generalize digit.toNat = code at code
    simp
    omega
  · rintro rfl
    exact absurd code (by decide)
  · rintro rfl
    exact absurd code (by decide)

/-- Digits are read as the number they denote, and with a minus sign as its negative. -/
theorem parseInt_digits
    {digits : List Char}
    (nonempty : digits ≠ [])
    (areDigits : ∀ digit ∈ digits, digit.isDigit = true)
    {value : Nat}
    (denotes : Nat.ofDigitChars 10 digits 0 = value)
    (finite : value < 2 ^ 1024 - 2 ^ 970) :
    parseInt (String.ofList digits) = some (value : Int) ∧
      parseInt (String.ofList ('-' :: digits)) = some (-(value : Int)) := by
  have taken : digits.takeWhile Char.isDigit = digits :=
    List.takeWhile_eq_self_iff.mpr areDigits
  have folded : digits.foldl (fun value digit => 10 * value + (digit.toNat - 48)) 0 = value :=
    denotes
  have counts : (digits.isEmpty || decide (2 ^ 1024 - 2 ^ 970 ≤ value)) = false := by
    rw [Bool.or_eq_false_iff, decide_eq_false_iff_not]
    exact ⟨List.isEmpty_eq_false_iff.mpr nonempty, Nat.not_le.mpr finite⟩
  constructor
  · obtain ⟨first, rest, rfl⟩ := List.exists_cons_of_ne_nil nonempty
    obtain ⟨visible, unsigned⟩ := digit_ne_sign (areDigits first List.mem_cons_self)
    have trimmed : (String.ofList (first :: rest)).toList.dropWhile isJsWhitespace =
        first :: rest := by
      rw [String.toList_ofList, List.dropWhile_cons_of_neg (by simp [visible])]
    unfold parseInt
    simp only [trimmed]
    split
    · rename_i negative
      exact absurd (List.cons.inj negative).1 unsigned.1
    · rename_i positive
      exact absurd (List.cons.inj positive).1 unsigned.2
    · simp only [taken, folded, counts, Bool.false_eq_true, if_false]
  · have trimmed : (String.ofList ('-' :: digits)).toList.dropWhile isJsWhitespace =
        '-' :: digits := by
      rw [String.toList_ofList]
      rfl
    unfold parseInt
    simp only [trimmed, taken, folded, counts, Bool.false_eq_true, if_false, if_true]

/-- A decimal text is read as the number that was written. -/
theorem parseInt_toString
    {value : Int}
    (finite : value.natAbs < 2 ^ 1024 - 2 ^ 970) :
    parseInt (toString value) = some value := by
  have digits : ∀ value, ∀ digit ∈ Nat.toDigits 10 value, digit.isDigit = true :=
    fun value digit present => Nat.isDigit_of_mem_toDigits (by decide) (by decide) present
  cases value with
  | ofNat value =>
      have text : toString (Int.ofNat value) = String.ofList (Nat.toDigits 10 value) :=
        Nat.repr_eq_ofList_toDigits
      rw [text]
      exact (parseInt_digits Nat.toDigits_ne_nil (digits value) Nat.ofDigitChars_ten_toDigits
        finite).1
  | negSucc value =>
      have text : toString (Int.negSucc value) =
          String.ofList ('-' :: Nat.toDigits 10 (value + 1)) := by
        show "-" ++ (value + 1).repr = _
        rw [Nat.repr_eq_ofList_toDigits]
        have signed : String.ofList (['-'] ++ Nat.toDigits 10 (value + 1)) =
            String.ofList ['-'] ++ String.ofList (Nat.toDigits 10 (value + 1)) :=
          String.ofList_append
        exact signed.symm
      rw [text]
      exact (parseInt_digits Nat.toDigits_ne_nil (digits _) Nat.ofDigitChars_ten_toDigits
        finite).2

/-! ## Orders -/

/-- Packs of credits that a user buys. -/
structure PackOrder where
  buyer : UserId
  pack : CreditPack
  quantity : Nat
  deriving DecidableEq

/-- The credits an order is for. -/
def PackOrder.credits (order : PackOrder) : Int := order.pack.credits.toInt * order.quantity

/-- What Stripe charges for a session, and what its event credits, is an order. -/
structure Checkout.IsFor (checkout : Checkout) (order : PackOrder) : Prop where
  mode : checkout.session.mode = .payment
  buyer : checkout.session.metadata.userId = some order.buyer
  credits : checkout.session.metadata.credits = some (toString order.credits)
  charged : checkout.lineItems =
    [{ price := order.pack.stripePriceId, quantity := order.quantity }]

/-- The order is one that its buyer asked for, of a pack on sale, and its buyer's
customer is charged. -/
structure Checkout.Ordered
    (requests : List ShopRequest)
    (shop : CreditShop)
    (checkout : Checkout)
    (order : PackOrder) : Prop where
  isFor : checkout.IsFor order
  asked : ∃ dto, ShopRequest.createCreditsCheckoutSession order.buyer dto ∈ requests ∧
    dto.packSlug = order.pack.slug ∧ dto.quantity = order.quantity
  onSale : order.pack ∈ shop.creditPacks ∧ order.pack.isActive = true
  customer : storedCustomer order.buyer shop.world = some checkout.customer

/-! ## Receipts -/

/-- What an account is credited for: a session that has been paid, or an invoice of its
Lead Finder tier. -/
inductive Receipt
  | purchase (checkout : Checkout) (order : PackOrder)
  | renewal (userId : UserId) (tier : LeadFinderTier) (invoice : StripeReference)

namespace Receipt

/-- Whom a receipt credits. -/
def userId : Receipt → UserId
  | purchase _ order => order.buyer
  | renewal userId _ _ => userId

/-- How much a receipt credits. -/
def credits : Receipt → Int
  | purchase _ order => order.credits
  | renewal _ tier _ => tier.credits

/-- The grant that belongs to a receipt. -/
def Records (receipt : Receipt) (grant : CreditGrant) : Prop :=
  grant.userId = receipt.userId ∧ grant.credits = receipt.credits ∧
    match receipt with
    | purchase checkout _ =>
        grant.source = .creditPackPurchase ∧ grant.stripeReference = some checkout.session.id
    | renewal _ _ invoice =>
        grant.source = .leadFinderTierGrant ∧ grant.stripeReference = some invoice

/-- The session is one of the shop's for the order, and the tier one of its tiers. -/
def Genuine (shop : CreditShop) : Receipt → Prop
  | purchase checkout order =>
      checkout ∈ shop.checkouts ∧ checkout.IsFor order ∧ 0 < order.credits
  | renewal _ tier _ => tier ∈ shop.world.leadFinderTiers

/-- What an account is credited for some receipts. -/
def total (receipts : List Receipt) (userId : UserId) : Int :=
  ((receipts.filter fun receipt => receipt.userId = userId).map credits).sum

end Receipt

/-! ## The shop as its calls move it -/

/-- Sessions, packs, tiers, accounts and the customers of accounts stay. -/
structure CreditShop.Onwards (before after : CreditShop) : Prop where
  checkouts : ∀ checkout ∈ before.checkouts, checkout ∈ after.checkouts
  packs : after.creditPacks = before.creditPacks
  tiers : after.world.leadFinderTiers = before.world.leadFinderTiers
  accounts : after.world.users.map (·.id) = before.world.users.map (·.id)
  customers : ∀ userId customer, storedCustomer userId before.world = some customer →
    storedCustomer userId after.world = some customer

instance : IsPreorder CreditShop CreditShop.Onwards where
  refl _ := ⟨fun _ present => present, rfl, rfl, rfl, fun _ _ stored => stored⟩
  trans _ _ _ first second :=
    { checkouts := fun _ present => second.checkouts _ (first.checkouts _ present)
      packs := second.packs.trans first.packs
      tiers := second.tiers.trans first.tiers
      accounts := second.accounts.trans first.accounts
      customers := fun _ _ stored =>
        second.customers _ _ (first.customers _ _ stored) }

/-- The sessions are ordered ones, and receipts account for the grants and for the
balances since `start`. -/
structure CreditShop.Booked
    (requests : List ShopRequest)
    (start : World)
    (shop : CreditShop) : Prop where
  distinct : (shop.world.users.map (·.id)).Nodup
  ordered : ∀ checkout ∈ shop.checkouts, ∃ order, checkout.Ordered requests shop order
  grants : ∀ grant ∈ shop.world.creditGrants, grant ∈ start.creditGrants ∨
    ∃ receipt : Receipt, receipt.Genuine shop ∧ receipt.Records grant
  balances : ∃ receipts : List Receipt, (∀ receipt ∈ receipts, receipt.Genuine shop) ∧
    ∀ userId, shop.world.creditsOf userId =
      start.creditsOf userId + Receipt.total receipts userId

variable {requests : List ShopRequest} {start : World}

theorem Receipt.Genuine.onwards
    {before after : CreditShop}
    {receipt : Receipt}
    (genuine : receipt.Genuine before)
    (moved : before.Onwards after) :
    receipt.Genuine after := by
  cases receipt with
  | purchase checkout order => exact ⟨moved.checkouts _ genuine.1, genuine.2⟩
  | renewal userId tier invoice =>
      unfold Receipt.Genuine
      rw [moved.tiers]
      exact genuine

theorem Checkout.Ordered.onwards
    {before after : CreditShop}
    {checkout : Checkout}
    {order : PackOrder}
    (ordered : checkout.Ordered requests before order)
    (moved : before.Onwards after) :
    checkout.Ordered requests after order where
  isFor := ordered.isFor
  asked := ordered.asked
  onSale := by
    rw [moved.packs]
    exact ordered.onSale
  customer := moved.customers _ _ ordered.customer

namespace CreditShop.Booked

variable {before after : CreditShop}

/-- The sessions and the grants of the book stay explained as the shop goes on. -/
theorem ordered_onwards
    (booked : before.Booked requests start)
    (moved : before.Onwards after) :
    ∀ checkout ∈ before.checkouts, ∃ order, checkout.Ordered requests after order := by
  intro checkout present
  obtain ⟨order, ordered⟩ := booked.ordered checkout present
  exact ⟨order, ordered.onwards moved⟩

theorem grants_onwards
    (booked : before.Booked requests start)
    (moved : before.Onwards after) :
    ∀ grant ∈ before.world.creditGrants, grant ∈ start.creditGrants ∨
      ∃ receipt : Receipt, receipt.Genuine after ∧ receipt.Records grant := by
  intro grant present
  rcases booked.grants grant present with old | ⟨receipt, genuine, records⟩
  · exact .inl old
  · exact .inr ⟨receipt, genuine.onwards moved, records⟩

/-- A call that leaves the sessions, the balances and the grants alone keeps the book. -/
theorem onwards
    (booked : before.Booked requests start)
    (moved : before.Onwards after)
    (checkouts : after.checkouts = before.checkouts)
    (grants : after.world.creditGrants = before.world.creditGrants)
    (balances : ∀ userId, after.world.creditsOf userId = before.world.creditsOf userId) :
    after.Booked requests start where
  distinct := by
    rw [moved.accounts]
    exact booked.distinct
  ordered := by
    rw [checkouts]
    exact booked.ordered_onwards moved
  grants := by
    rw [grants]
    exact booked.grants_onwards moved
  balances := by
    obtain ⟨receipts, genuine, accounted⟩ := booked.balances
    refine ⟨receipts, fun receipt present => (genuine receipt present).onwards moved, ?_⟩
    intro userId
    rw [balances, accounted]

end CreditShop.Booked

/-! ## Credits and grants -/

/-- What a call of the webhook processor may do to the balances and to the grants: what
is due to a receipt. -/
inductive CreditMove (due : Receipt → Prop) (before : World) : World → Prop
  | quiet {after : World} :
      after.users = before.users → after.creditGrants = before.creditGrants →
      after.leadFinderTiers = before.leadFinderTiers → CreditMove due before after
  | credited {receipt : Receipt} :
      due receipt → before.hasUser receipt.userId = true →
      CreditMove due before (before.credited receipt.userId receipt.credits)
  | granted {receipt : Receipt} {grant : CreditGrant} :
      due receipt → receipt.Records grant → CreditMove due before (before.granted grant)

instance (due : Receipt → Prop) : Std.Refl (CreditMove due) where
  refl _ := .quiet rfl rfl rfl

/-- The balances after some credits. -/
theorem creditsOf_credited
    {world : World}
    {userId : UserId}
    (known : world.hasUser userId = true)
    (credits : Int)
    (other : UserId) :
    (world.credited userId credits).creditsOf other =
      world.creditsOf other + if userId = other then credits else 0 := by
  by_cases same : userId = other
  · subst same
    rw [if_pos rfl]
    exact creditsOf_incremented known credits
  · unfold World.creditsOf World.credited
    dsimp only
    rw [if_neg same, Int.add_zero, Table.find?_updateWhere User.id _ _ _ _ (by simp)]
    cases found : world.users.find? fun user => user.id = other with
    | none => rfl
    | some user =>
        have isOther : user.id = other := by simpa using List.find?_some found
        simp [isOther, Ne.symm same]

theorem Receipt.total_cons (receipt : Receipt) (receipts : List Receipt) (userId : UserId) :
    Receipt.total (receipt :: receipts) userId =
      Receipt.total receipts userId + if receipt.userId = userId then receipt.credits else 0 := by
  unfold Receipt.total
  rw [List.filter_cons]
  by_cases own : receipt.userId = userId
  · simp [own, Int.add_comm]
  · simp [own]

/-- Accounts that are credited stay, with their customers. -/
theorem onwards_credited (shop : CreditShop) (userId : UserId) (credits : Int) :
    shop.Onwards { shop with world := shop.world.credited userId credits } where
  checkouts _ present := present
  packs := rfl
  tiers := rfl
  accounts := Table.map_updateWhere User.id _ _ _ fun _ => rfl
  customers other customer stored := by
    unfold storedCustomer World.credited at *
    dsimp only
    rw [Table.find?_updateWhere User.id _ _ _ _ (by simp), Option.bind_map]
    obtain ⟨user, found, held⟩ := Option.bind_eq_some_iff.mp stored
    rw [found, Option.bind_some, Function.comp_apply]
    split <;> exact held

/-- What is due to genuine receipts keeps the book. -/
theorem booked_creditMove
    {due : Receipt → Prop}
    {shop : CreditShop}
    {after : World}
    (booked : shop.Booked requests start)
    (move : CreditMove due shop.world after)
    (genuine : ∀ receipt, due receipt → receipt.Genuine shop) :
    CreditShop.Booked requests start { shop with world := after } ∧
      shop.Onwards { shop with world := after } := by
  cases move with
  | quiet users grants tiers =>
      have moved : shop.Onwards { shop with world := after } :=
        { checkouts := fun _ present => present
          packs := rfl
          tiers := tiers
          accounts := congrArg (List.map User.id) users
          customers := fun userId customer stored => by
            unfold storedCustomer
            rw [users]
            exact stored }
      refine ⟨booked.onwards moved rfl grants fun userId => ?_, moved⟩
      unfold World.creditsOf
      rw [users]
  | @credited receipt isDue known =>
      have moved := onwards_credited shop receipt.userId receipt.credits
      obtain ⟨receipts, earlier, accounted⟩ := booked.balances
      refine ⟨⟨?_, booked.ordered_onwards moved, booked.grants_onwards moved,
        receipt :: receipts, ?_, fun userId => ?_⟩, moved⟩
      · rw [moved.accounts]
        exact booked.distinct
      · exact List.forall_mem_cons.mpr ⟨(genuine receipt isDue).onwards moved,
          fun other present => (earlier other present).onwards moved⟩
      · rw [creditsOf_credited known, accounted, Receipt.total_cons]
        omega
  | @granted receipt grant isDue records =>
      have moved : shop.Onwards { shop with world := shop.world.granted grant } :=
        ⟨fun _ present => present, rfl, rfl, rfl, fun _ _ stored => stored⟩
      obtain ⟨receipts, earlier, accounted⟩ := booked.balances
      refine ⟨⟨booked.distinct, booked.ordered_onwards moved, ?_, receipts, ?_, accounted⟩, moved⟩
      · intro other present
        rcases List.mem_cons.mp present with rfl | old
        · exact .inr ⟨receipt, (genuine receipt isDue).onwards moved, records⟩
        · exact booked.grants_onwards moved other old
      · exact fun other present => (earlier other present).onwards moved

/-! ## The webhook processor -/

section

variable {due : Receipt → Prop}

/-- Where nothing is to be credited and no account may change, the users stay. -/
theorem Change.users_of_uncredited
    {allowed : Allowance}
    {before after : World}
    (change : Change allowed before after)
    (uncredited : allowed.creditReference = none)
    (accounts : allowed.accounts = false) :
    after.users = before.users := by
  cases change with
  | @rows product _ _ _ => cases product <;> rfl
  | invoice bills now subscriptionId =>
      unfold World.billed SubscriptionsService.upsertInvoice
      rw [Process.run_command]
      dsimp only
      split <;> rfl
  | credit creditable =>
      rw [uncredited] at creditable
      cases creditable
  | account own =>
      rw [accounts] at own
      cases own
  | _ => rfl

/-- A service that keeps the account book and credits nothing is quiet. -/
theorem creditMoves_of_sameBook
    {process : Service α}
    {allowed : Allowance}
    (book : process.Respects SameBook)
    (changes : process.Respects (Change allowed))
    (uncredited : allowed.creditReference = none)
    (accounts : allowed.accounts = false) :
    process.Respects (CreditMove due) :=
  (book.and changes).mono fun _ _ ⟨sameBook, change⟩ =>
    .quiet (change.users_of_uncredited uncredited accounts)
      (congrArg AccountBook.creditGrants sameBook)
      (congrArg AccountBook.leadFinderTiers sameBook)

/-- An event without credits is quiet. -/
theorem creditMoves_uncredited
    (app : Deployment)
    {event : StripeEvent}
    (uncredited : event.creditReference = none) :
    (StripeWebhookProcessor.process app event).Respects (CreditMove due) := by
  refine creditMoves_of_sameBook ?_ ((BillingRequest.webhook event).changes app) uncredited rfl
  refine BillingRequest.respects (fun _ _ book => book) app (.webhook event) ?_ ?_
  · intro delivered reference same credited
    cases same
    rw [uncredited] at credited
    cases credited
  · intro adminUserId targetUserId granted same
    cases same

/-- The credits of a receipt and its grant. -/
theorem creditMoves_creditAndGrant
    {receipt : Receipt}
    (isDue : due receipt)
    {source : CreditGrantSource}
    {amountPaidCents : Option Nat}
    {reference : StripeReference}
    (records : ∀ id createdAt, receipt.Records
      { id, userId := receipt.userId, credits := receipt.credits, source, amountPaidCents
        stripeReference := some reference, createdAt })
    (action : AuditAction) :
    (do
      let _ ← incrementCredits receipt.userId receipt.credits
      createCreditGrant receipt.userId receipt.credits source amountPaidCents reference
      AuditService.record (some receipt.userId) action : Service Unit).Respects
        (CreditMove due) := by
  refine Respects.bind (Respects.attempt fun input world value after updated => ?_) fun _ => ?_
  · split at updated
    · cases updated
    · rename_i user found
      have isUser := List.find?_some found
      cases updated
      exact .credited isDue
        (List.any_eq_true.mpr ⟨user, List.mem_of_find?_eq_some found, isUser⟩)
  · refine Respects.bind (Respects.command fun input world => ?_) fun _ => ?_
    · exact .granted isDue (records _ _)
    · exact Respects.command fun _ _ => .quiet rfl rfl rfl

/-- The credits of an order are within what `parseInt` reads. -/
theorem PackOrder.credits_finite {order : PackOrder} (few : order.quantity ≤ 20) :
    order.credits.natAbs < 2 ^ 1024 - 2 ^ 970 := by
  have magnitude : order.pack.credits.toInt.natAbs ≤ 2 ^ 31 := by
    have below := order.pack.credits.toInt_lt
    have above := order.pack.credits.le_toInt
    omega
  have product : order.credits.natAbs = order.pack.credits.toInt.natAbs * order.quantity := by
    unfold PackOrder.credits
    rw [Int.natAbs_mul, Int.natAbs_natCast]
  calc order.credits.natAbs
      ≤ 2 ^ 31 * 20 := product ▸ Nat.mul_le_mul magnitude few
    _ < 2 ^ 1024 - 2 ^ 970 := by decide +kernel

/-- The event of a session that has been paid credits the order it is for. -/
theorem creditMoves_completed
    (app : Deployment)
    {checkout : Checkout}
    {order : PackOrder}
    (isFor : checkout.IsFor order)
    (few : order.quantity ≤ 20)
    (amountTotal : Option Nat) :
    (StripeWebhookProcessor.process app (checkout.completed amountTotal)).Respects
      (CreditMove fun receipt => receipt = .purchase checkout order ∧ 0 < order.credits) := by
  unfold StripeWebhookProcessor.process Checkout.completed
    SubscriptionsService.handleWebhookEvent LeadFinderBillingService.handleWebhookEvent
  dsimp only
  rw [isFor.mode]
  refine Respects.bind ?_ fun _ => Respects.pure ()
  unfold SubscriptionsService.handleCreditsCheckoutCompleted
  dsimp only
  rw [isFor.buyer, isFor.credits, Option.bind_some,
    parseInt_toString (PackOrder.credits_finite few)]
  dsimp only
  split
  · exact Respects.pure ()
  · rename_i positive
    have isDue : Receipt.purchase checkout order = .purchase checkout order ∧
        0 < order.credits := ⟨rfl, Int.not_le.mp positive⟩
    have records : ∀ id createdAt, (Receipt.purchase checkout order).Records
        { id, userId := order.buyer, credits := order.credits, source := .creditPackPurchase
          amountPaidCents := amountTotal, stripeReference := some checkout.session.id
          createdAt } := fun _ _ => ⟨rfl, rfl, rfl, rfl⟩
    exact creditMoves_creditAndGrant isDue records .billingCreditsPurchased

end

/-! ## Requests among others -/

/-- A call of the webhook processor moves the shop's world. -/
def CreditShop.MovesBy (due : Receipt → Prop) (before after : CreditShop) : Prop :=
  ∃ world, CreditMove due before.world world ∧ after = { before with world }

/-- A service that credits only what is due, among others. -/
theorem sustains_onWorld
    {service : Service α}
    {due : Receipt → Prop}
    {shop : CreditShop}
    (moves : service.Respects (CreditMove due))
    (assertion : CreditShop → Prop)
    (holds : assertion shop)
    (stable : ∀ before after : CreditShop, before.Onwards after → assertion before →
      assertion after)
    (genuine : ∀ shop : CreditShop, assertion shop → ∀ receipt, due receipt →
      receipt.Genuine shop) :
    Sustains (CreditShop.Booked requests start) CreditShop.Onwards
      (CreditShopService.onWorld service) shop fun _ _ => True := by
  have inside : (CreditShopService.onWorld service).Respects (CreditShop.MovesBy due) :=
    moves.within fun _ after move => ⟨after, move, rfl⟩
  refine Sustains.of_respects_while inside holds stable ?_
  rintro before after ⟨world, move, rfl⟩ booked asserted
  exact booked_creditMove booked move (genuine before asserted)

theorem sustains_completed
    (app : Deployment)
    (session : StripeReference)
    (amountTotal : Option Nat)
    (shop : CreditShop) :
    Sustains (CreditShop.Booked requests start) CreditShop.Onwards
      ((ShopRequest.completed session amountTotal).handle app) shop fun _ _ => True := by
  refine Sustains.bind (Sustains.query
    (fun found later => ∀ checkout ∈ found, checkout ∈ later.checkouts ∧
      ∃ order, checkout.Ordered requests later order) ?_) ?_
  · intro input later _ booked checkout found
    have present := List.mem_of_find?_eq_some found
    exact ⟨present, booked.ordered checkout present⟩
  · intro found after _ known
    cases found with
    | none => trivial
    | some checkout =>
        obtain ⟨present, order, ordered⟩ := known checkout rfl
        obtain ⟨dto, -, -, quantity⟩ := ordered.asked
        have few : order.quantity ≤ 20 := quantity ▸ dto.quantity_le_twenty
        refine sustains_onWorld (creditMoves_completed app ordered.isFor few amountTotal)
          (fun shop => checkout ∈ shop.checkouts) present
          (fun _ _ moved asserted => moved.checkouts _ asserted) ?_
        rintro shop asserted receipt ⟨rfl, positive⟩
        exact ⟨asserted, ordered.isFor, positive⟩

/-- The monthly credits of a Lead Finder tier. -/
theorem sustains_grantMonthlyCredits (invoice : StripeInvoice) (shop : CreditShop) :
    Sustains (CreditShop.Booked requests start) CreditShop.Onwards
      (CreditShopService.onWorld (LeadFinderBillingService.grantMonthlyCredits invoice)) shop
      fun _ _ => True := by
  unfold CreditShopService.onWorld LeadFinderBillingService.grantMonthlyCredits
  split
  · trivial
  · split
    · rename_i userId tierId _ _
      rw [LeadFinderBillingService.findTier, within_bind, within_query]
      refine Sustains.bind (Sustains.query
        (fun found later => ∀ tier ∈ found, tier ∈ later.world.leadFinderTiers) ?_) ?_
      · intro input later _ _ tier found
        exact List.mem_of_find?_eq_some found
      · intro found after _ known
        cases found with
        | none => trivial
        | some tier =>
            have isDue : (· = Receipt.renewal userId tier invoice.id)
                (Receipt.renewal userId tier invoice.id) := rfl
            have records : ∀ id createdAt, (Receipt.renewal userId tier invoice.id).Records
                { id, userId, credits := tier.credits, source := .leadFinderTierGrant
                  amountPaidCents := some invoice.amountPaid
                  stripeReference := some invoice.id, createdAt } :=
              fun _ _ => ⟨rfl, rfl, rfl, rfl⟩
            have moves := creditMoves_creditAndGrant isDue records .billingLeadFinderCreditsGranted
            refine sustains_onWorld moves (fun shop => tier ∈ shop.world.leadFinderTiers)
              (known tier rfl) (fun _ _ moved asserted => ?_) ?_
            · rw [moved.tiers]
              exact asserted
            · rintro shop asserted receipt rfl
              exact asserted
    · trivial

/-- Any other event credits an invoice's tier, if anything. -/
theorem sustains_webhook
    (app : Deployment)
    {event : StripeEvent}
    (unpaid : event.isPayment = false)
    (shop : CreditShop) :
    Sustains (CreditShop.Booked requests start) CreditShop.Onwards
      ((ShopRequest.webhook event unpaid).handle app) shop fun _ _ => True := by
  cases credited : event.creditReference with
  | none =>
      exact sustains_onWorld (creditMoves_uncredited app credited) (fun _ => True) trivial
        (fun _ _ _ _ => trivial) fun _ _ _ isDue => False.elim isDue
  | some reference =>
      cases event with
      | invoicePaid invoice =>
          have changes : (SubscriptionsService.syncInvoiceFromStripe invoice .paid).Respects
              (Change { bills := some (invoice, .paid) }) := changes_syncInvoiceFromStripe rfl
          have quiet : (SubscriptionsService.syncInvoiceFromStripe invoice .paid).Respects
              (CreditMove fun _ => False) :=
            creditMoves_of_sameBook
              ((quiet_syncInvoiceFromStripe invoice .paid).mono fun _ _ quiet => quiet.book)
              changes rfl rfl
          show Sustains _ _ (CreditShopService.onWorld
            (SubscriptionsService.syncInvoiceFromStripe invoice .paid >>= fun _ =>
              LeadFinderBillingService.grantMonthlyCredits invoice)) shop _
          rw [CreditShopService.onWorld, within_bind]
          refine Sustains.bind (sustains_onWorld quiet (fun _ => True) trivial
            (fun _ _ _ _ => trivial) fun _ _ _ isDue => False.elim isDue) fun _ after _ _ => ?_
          exact sustains_grantMonthlyCredits invoice after
      | checkoutSessionCompleted session =>
          have otherwise : session.mode ≠ .payment := of_decide_eq_false unpaid
          simp [StripeEvent.creditReference, otherwise] at credited
      | _ => cases credited

/-- A claim stores a customer for a user that has none. -/
theorem onwards_claimed (shop : CreditShop) (userId : UserId) (customer : Nat) :
    shop.Onwards
        { shop with
          world := CustomerStage.write userId (.claim customer) shop.world } ∧
      ∀ other, (CustomerStage.write userId (.claim customer) shop.world).creditsOf other =
        shop.world.creditsOf other := by
  have kept : ∀ user : User, ({ user with stripeCustomerId := some customer } : User).id =
      user.id := fun _ => rfl
  have accounts := Table.map_updateWhere User.id (CustomerStage.unclaimed userId) _
    shop.world.users kept
  refine ⟨⟨fun _ present => present, rfl, rfl, accounts, ?_⟩, ?_⟩
  · intro other stored held
    obtain ⟨user, found, isStored⟩ := Option.bind_eq_some_iff.mp held
    unfold storedCustomer CustomerStage.write
    dsimp only
    rw [Table.find?_updateWhere User.id _ _ _ _ kept, found]
    simp [CustomerStage.unclaimed, isStored]
  · intro other
    unfold World.creditsOf CustomerStage.write
    dsimp only
    rw [Table.find?_updateWhere User.id _ _ _ _ kept, Option.map_map]
    congr 2
    funext user
    rw [Function.comp_apply]
    split <;> rfl

/-- After a claim that succeeds its customer is stored, and after any other some customer. -/
theorem claim_stores
    {userId : UserId}
    {world : World}
    (onFile : HasUser userId world)
    (customer : Nat) :
    if world.users.any (CustomerStage.unclaimed userId) then
      storedCustomer userId (CustomerStage.write userId (.claim customer) world) = some customer
    else
      (storedCustomer userId (CustomerStage.write userId (.claim customer) world)).isSome
        = true := by
  rw [CustomerStage.storedCustomer_claim userId onFile, CustomerStage.any_unclaimed userId onFile]
  cases storedCustomer userId world with
  | none => rfl
  | some winner => rfl

/-- The search for a customer returns the one that is stored for the user. -/
theorem sustains_getOrCreateStripeCustomer
    {userId : UserId}
    {shop : CreditShop}
    (known : userId ∈ shop.world.users.map (·.id)) :
    Sustains (CreditShop.Booked requests start) CreditShop.Onwards
      (CreditShopService.onWorld (StripeCustomerService.getOrCreateStripeCustomer userId)) shop
      fun customer after => storedCustomer userId after.world = some customer := by
  unfold CreditShopService.onWorld StripeCustomerService.getOrCreateStripeCustomer
    UsersService.findById
  rw [within_bind, within_query]
  refine Sustains.bind (Sustains.query (fun user later =>
    ∀ customer, user.bind (·.stripeCustomerId) = some customer →
      storedCustomer userId later.world = some customer)
    fun input later _ _ customer stored => stored) fun user found foundOnwards isStored => ?_
  cases held : user.bind (·.stripeCustomerId) with
  | some customer => exact isStored customer held
  | none =>
      dsimp only
      unfold StripeService.createCustomer StripeCustomerService.claimStripeCustomerId
      rw [within_bind, within_attempt]
      refine Sustains.bind (Sustains.attempt (fun _ _ => True) ?_)
        fun customer created createdOnwards _ => ?_
      · intro input later value after _ booked created
        cases created
        have moved : later.Onwards
            { later with world := { later.world with nextId := later.world.nextId + 1 } } :=
          ⟨fun _ present => present, rfl, rfl, rfl, fun _ _ stored => stored⟩
        exact ⟨booked.onwards moved rfl rfl fun _ => rfl, moved, trivial⟩
      · rw [within_bind, within_attempt]
        refine Sustains.bind (Sustains.attempt (fun claimed after =>
          if claimed then storedCustomer userId after.world = some customer
          else (storedCustomer userId after.world).isSome = true) ?_)
          fun claimed after _ outcome => ?_
        · intro input later claimed after laterOnwards booked stored
          cases stored
          have present : userId ∈ later.world.users.map (·.id) := by
            rw [laterOnwards.accounts, createdOnwards.accounts, foundOnwards.accounts]
            exact known
          obtain ⟨moved, balances⟩ := onwards_claimed later userId customer
          exact ⟨booked.onwards moved rfl rfl balances, moved,
            claim_stores (HasUser.of_mem booked.distinct present) customer⟩
        · cases claimed with
          | true => exact outcome
          | false =>
              obtain ⟨winner, stored⟩ := Option.isSome_iff_exists.mp outcome
              rw [if_neg Bool.false_ne_true, within_bind, within_query]
              refine Sustains.bind (Sustains.query (fun user later =>
                user.bind (·.stripeCustomerId) = some winner ∧
                  storedCustomer userId later.world = some winner) ?_) fun user last _ won => ?_
              · intro input later moved _
                have still := moved.customers _ _ stored
                exact ⟨still, still⟩
              · rw [won.1]
                exact won.2

/-- A session that Stripe opens for an order adds it to the book. -/
theorem booked_createSession
    {shop : CreditShop}
    (booked : shop.Booked requests start)
    {checkout : Checkout}
    {order : PackOrder}
    (ordered : checkout.Ordered requests shop order)
    {nextSession : StripeReference} :
    CreditShop.Booked requests start
        { shop with checkouts := checkout :: shop.checkouts, nextSession } ∧
      shop.Onwards { shop with checkouts := checkout :: shop.checkouts, nextSession } := by
  have moved : shop.Onwards { shop with checkouts := checkout :: shop.checkouts, nextSession } :=
    ⟨fun _ present => List.mem_cons_of_mem _ present, rfl, rfl, rfl, fun _ _ stored => stored⟩
  obtain ⟨receipts, genuine, accounted⟩ := booked.balances
  refine ⟨⟨booked.distinct, ?_, booked.grants_onwards moved, receipts, ?_, accounted⟩, moved⟩
  · intro other present
    rcases List.mem_cons.mp present with rfl | old
    · exact ⟨order, ordered.onwards moved⟩
    · exact booked.ordered_onwards moved other old
  · exact fun receipt present => (genuine receipt present).onwards moved

theorem sustains_createCreditsCheckoutSession
    (app : Deployment)
    {userId : UserId}
    {dto : CreateCreditsCheckoutDto}
    (asked : .createCreditsCheckoutSession userId dto ∈ requests)
    (shop : CreditShop) :
    Sustains (CreditShop.Booked requests start) CreditShop.Onwards
      (SubscriptionsService.createCreditsCheckoutSession app userId dto.packSlug dto.quantity)
      shop fun _ _ => True := by
  unfold SubscriptionsService.createCreditsCheckoutSession CreditShopService.onWorld
  rw [UsersService.findById, within_query]
  refine Sustains.bind (Sustains.query (fun found later => ∀ user ∈ found,
    user.id = userId ∧ userId ∈ later.world.users.map (·.id)) ?_) fun found _ _ account => ?_
  · intro input later _ _ user found
    have isUser := List.find?_some found
    have same : user.id = userId := of_decide_eq_true isUser
    exact ⟨same, List.mem_map.mpr ⟨user, List.mem_of_find?_eq_some found, same⟩⟩
  cases found with
  | none => trivial
  | some user =>
      obtain ⟨rfl, known⟩ := account user rfl
      refine Sustains.bind (Sustains.query (fun found later => ∀ pack ∈ found,
        pack ∈ later.creditPacks ∧ pack.slug = dto.packSlug) ?_)
        fun found atSale saleOnwards sold => ?_
      · intro input later _ _ pack found
        have isPack := List.find?_some found
        exact ⟨List.mem_of_find?_eq_some found, of_decide_eq_true isPack⟩
      cases active : found.filter (·.isActive) with
      | none => trivial
      | some pack =>
          obtain ⟨isFound, isActive⟩ := Option.filter_eq_some_iff.mp active
          obtain ⟨onSale, slug⟩ := sold pack isFound
          rw [← saleOnwards.accounts] at known
          refine Sustains.bind (sustains_getOrCreateStripeCustomer known)
            fun customer stored storedOnwards isStored => ?_
          refine Sustains.bind (Sustains.attempt (fun _ _ => True) ?_) fun url _ _ _ => ?_
          · intro input later url after laterOnwards booked opened
            cases opened
            have ordered : (SubscriptionsService.creditsCheckout app user.id customer pack
                dto.quantity later.nextSession).Ordered requests later
                { buyer := user.id, pack, quantity := dto.quantity } :=
              { isFor := ⟨rfl, rfl, rfl, rfl⟩
                asked := ⟨dto, asked, slug.symm, rfl⟩
                onSale := by
                  rw [laterOnwards.packs, storedOnwards.packs]
                  exact ⟨onSale, isActive⟩
                customer := laterOnwards.customers _ _ isStored }
            obtain ⟨kept, moved⟩ := booked_createSession booked ordered
            exact ⟨kept, moved, trivial⟩
          · cases url with
            | none => trivial
            | some url =>
                refine Sustains.bind (Sustains.command fun input later _ booked => ?_)
                  fun _ _ _ _ => Sustains.pure trivial
                have moved : later.Onwards { later with
                    auditLogs := ⟨user.id, pack.id, pack.slug, dto.quantity⟩ ::
                      later.auditLogs } :=
                  ⟨fun _ present => present, rfl, rfl, rfl, fun _ _ stored => stored⟩
                exact ⟨booked.onwards moved rfl rfl fun _ => rfl, moved⟩

/-- Every request of the run, among the others. -/
theorem sustains_handle
    (app : Deployment)
    {request : ShopRequest}
    (present : request ∈ requests)
    (shop : CreditShop) :
    Sustains (CreditShop.Booked requests start) CreditShop.Onwards (request.handle app) shop
      fun _ _ => True := by
  cases request with
  | createCreditsCheckoutSession userId dto =>
      exact Sustains.bind (sustains_createCreditsCheckoutSession app present shop)
        fun _ _ _ _ => Sustains.pure trivial
  | completed session amountTotal => exact sustains_completed app session amountTotal shop
  | webhook event unpaid => exact sustains_webhook app unpaid shop

/-! ## Undisturbed events -/

/-- The outcome of the event of a session that has been paid, processed undisturbed, and
the world it leaves. -/
def Checkout.settle
    (app : Deployment)
    (checkout : Checkout)
    (amountTotal : Option Nat)
    (input : Input)
    (world : World) : Except ApiError Unit × World :=
  (StripeWebhookProcessor.process app (checkout.completed amountTotal)).run input world

/-- The event of a session, undisturbed, credits the order it is for in full. -/
theorem settle_credits
    (app : Deployment)
    {checkout : Checkout}
    {order : PackOrder}
    (isFor : checkout.IsFor order)
    (few : order.quantity ≤ 20)
    {world : World}
    (known : world.hasUser order.buyer = true)
    (amountTotal : Option Nat)
    (input : Input) :
    (checkout.settle app amountTotal input world).1 = .ok () ∧
      ∀ userId, (checkout.settle app amountTotal input world).2.creditsOf userId =
        world.creditsOf userId + if order.buyer = userId then max 0 order.credits else 0 := by
  unfold Checkout.settle StripeWebhookProcessor.process Checkout.completed
    SubscriptionsService.handleWebhookEvent LeadFinderBillingService.handleWebhookEvent
    SubscriptionsService.handleCreditsCheckoutCompleted
  dsimp only
  rw [isFor.mode, isFor.buyer, isFor.credits, Option.bind_some,
    parseInt_toString (PackOrder.credits_finite few)]
  dsimp only
  by_cases positive : 0 < order.credits
  · obtain ⟨user, found, -⟩ := World.exists_of_hasUser known
    rw [if_neg (Int.not_le.mpr positive), max_eq_right (Int.le_of_lt positive)]
    unfold incrementCredits UsersService.update createCreditGrant
    simp only [run_bind, run_attempt, found, run_command, AuditService.run_record, run_pure]
    exact ⟨trivial, creditsOf_credited known order.credits⟩
  · rw [if_pos (Int.not_lt.mp positive), max_eq_left (Int.not_lt.mp positive)]
    refine ⟨rfl, fun userId => ?_⟩
    rw [ite_self, Int.add_zero]
    rfl

/-! ## Runs -/

/-- The requests, at the same time. -/
def ShopRequest.crew
    (app : Deployment)
    (requests : List ShopRequest)
    (shop : CreditShop) : Crew (CreditShopService Unit) CreditShop where
  state := shop
  members := requests.map (·.handle app)

/-- A shop that has sold nothing yet is in order. -/
theorem booked_opening
    {shop : CreditShop}
    (distinct : (shop.world.users.map (·.id)).Nodup)
    (opening : shop.checkouts = []) :
    shop.Booked requests shop.world where
  distinct := distinct
  ordered checkout present := by
    rw [opening] at present
    cases present
  grants _ present := .inl present
  balances := ⟨[], List.forall_mem_nil _, fun _ => (Int.add_zero _).symm⟩

/-- A shop with one account, and five hundred credits in a pack. -/
def sampleShop : CreditShop where
  world := sampleBackend
  creditPacks := [{ id := 7, slug := "credits-500", credits := 500, stripePriceId := 8 }]

/-- The account goes to the checkout for four packs and for one. -/
def samplePurchases : List ShopRequest :=
  [.createCreditsCheckoutSession 0 { packSlug := "credits-500", quantity := 4 },
    .createCreditsCheckoutSession 0 { packSlug := "credits-500", one_le_quantity := le_rfl },
    .completed 0 (some 6000)]

/-- Both checkouts at the same time, and the event that the four packs have been paid, in
the middle of which the session for the other one is opened. -/
def sampleShopping : List (CrewTurn Input ApiError) :=
  ((List.replicate 6 [0, 1]).flatten ++ [0, 2, 2, 1, 2, 2, 1]).map fun member =>
    { member, input := { now := 0 } }

/-- The shop after that. -/
def sampleSold : CreditShop :=
  (Process.machine.run (ShopRequest.crew sampleDeployment samplePurchases sampleShop)
    sampleShopping).state

end ConferenceContact
