import ConferenceContact.Foundation.Parts
import ConferenceContact.Model.Billing

/-!
# Credit packs

`createCreditsCheckoutSession`, which has Stripe open a Checkout Session for some packs
of credits, with the packs on sale and the sessions as Stripe has them.
-/

namespace ConferenceContact

open Process

/-- A credit pack; `credits` is a 32-bit column. -/
structure CreditPack where
  id : Nat
  slug : String
  credits : Int32
  stripePriceId : Nat
  isActive : Bool := true
  deriving DecidableEq

/-- `CreateCreditsCheckoutDto`. -/
structure CreateCreditsCheckoutDto where
  packSlug : String
  quantity : Nat := 1
  one_le_quantity : 1 ≤ quantity := by decide
  quantity_le_twenty : quantity ≤ 20 := by decide
  deriving DecidableEq

/-- `line_items` has a price and how many of it are bought. -/
structure LineItem where
  price : Nat
  quantity : Nat
  deriving DecidableEq

/-- A Checkout Session as Stripe has it, with what it charges and whom. -/
structure Checkout where
  session : CheckoutSession
  customer : Nat
  lineItems : List LineItem
  /-- `metadata.packId`. -/
  packId : Nat
  successUrl : String
  cancelUrl : String
  deriving DecidableEq

/-- The event that tells of a session that has been paid. -/
def Checkout.completed (checkout : Checkout) (amountTotal : Option Nat) : StripeEvent :=
  .checkoutSessionCompleted { checkout.session with amountTotal }

/-- An audit row `billing.credits_checkout_started`. -/
structure CreditsCheckoutStarted where
  actorUserId : UserId
  packId : Nat
  packSlug : String
  quantity : Nat
  deriving DecidableEq

/-- The world, the packs on sale, Stripe's Checkout Sessions for them with the id of its
next one, and the audit rows about them. -/
structure CreditShop where
  world : World
  creditPacks : List CreditPack
  checkouts : List Checkout := []
  nextSession : StripeReference := 0
  auditLogs : List CreditsCheckoutStarted := []

/-- What the other services see of the shop. -/
def CreditShop.worldPart : Part CreditShop World where
  get := world
  set world shop := { shop with world }
  set_get _ := rfl
  get_set _ _ := rfl

@[simp] theorem CreditShop.worldPart_get (shop : CreditShop) :
    worldPart.get shop = shop.world := rfl

@[simp] theorem CreditShop.worldPart_set (world : World) (shop : CreditShop) :
    worldPart.set world shop = { shop with world } := rfl

/-- A method that sells credits. -/
abbrev CreditShopService := Process Input ApiError CreditShop

namespace CreditShopService

/-- A call of one of the other services. -/
abbrev onWorld (service : Service α) : CreditShopService α :=
  service.within CreditShop.worldPart

/-- `creditPack.findUnique({ where: { slug } })`. -/
def findPack (packSlug : String) : CreditShopService (Option CreditPack) :=
  query fun _ shop => shop.creditPacks.find? fun pack => pack.slug = packSlug

/-- `checkout.sessions.create` of a payment, and its `url`. -/
def createSession (checkout : StripeReference → Checkout) : CreditShopService (Option String) :=
  attempt fun input shop =>
    .ok (input.checkoutUrl,
      { shop with
        checkouts := checkout shop.nextSession :: shop.checkouts
        nextSession := shop.nextSession + 1 })

/-- `audit.record` of a checkout for credits. -/
def record (entry : CreditsCheckoutStarted) : CreditShopService Unit :=
  command fun _ shop => { shop with auditLogs := entry :: shop.auditLogs }

end CreditShopService

namespace SubscriptionsService

open CreditShopService

variable (app : Deployment)

/-- The session that is opened for a number of packs. -/
def creditsCheckout
    (userId : UserId)
    (customer : Nat)
    (pack : CreditPack)
    (quantity : Nat)
    (id : StripeReference) : Checkout where
  session :=
    { id
      mode := .payment
      metadata :=
        { userId := some userId
          -- The product is an exact double: at most 20 times a 32-bit integer.
          credits := some (toString (pack.credits.toInt * quantity)) } }
  customer
  lineItems := [{ price := pack.stripePriceId, quantity }]
  packId := pack.id
  successUrl := app.frontendUrl ++ "/leads-finder?credits=success"
  cancelUrl := app.frontendUrl ++ "/leads-finder?credits=cancelled"

/-- Open a session in which the user pays for a number of packs. -/
def createCreditsCheckoutSession
    (userId : UserId)
    (packSlug : String)
    (quantity : Nat) : CreditShopService String := do
  let some user ← onWorld (UsersService.findById userId)
    | throw (.notFound "Account not found")
  let pack ← findPack packSlug
  let some pack := pack.filter (·.isActive)
    | throw (.notFound "Credit pack not found")
  let customerId ← onWorld (StripeCustomerService.getOrCreateStripeCustomer user.id)
  let url ← createSession (creditsCheckout app user.id customerId pack quantity)
  let some url := url
    | throw (.badRequest "Stripe did not return a checkout URL")
  record ⟨userId, pack.id, pack.slug, quantity⟩
  return url

end SubscriptionsService

/-- Whether an event tells of a payment that is not for a subscription. -/
def StripeEvent.isPayment : StripeEvent → Bool
  | checkoutSessionCompleted session => session.mode = .payment
  | _ => false

/-- What happens to the shop: a user goes to the checkout, or an event of Stripe's is
processed, for a session that has been paid or of any other kind. -/
inductive ShopRequest
  | createCreditsCheckoutSession (userId : UserId) (dto : CreateCreditsCheckoutDto)
  | completed (session : StripeReference) (amountTotal : Option Nat)
  | webhook (event : StripeEvent) (other : event.isPayment = false)

/-- The code behind a request. -/
def ShopRequest.handle (app : Deployment) : ShopRequest → CreditShopService Unit
  | createCreditsCheckoutSession userId dto => do
      let _ ← SubscriptionsService.createCreditsCheckoutSession app userId dto.packSlug
        dto.quantity
  | completed session amountTotal => do
      -- Stripe sends the event of a session it has.
      let some checkout ← query fun _ shop =>
          shop.checkouts.find? fun checkout => checkout.session.id = session
        | return ()
      CreditShopService.onWorld
        (StripeWebhookProcessor.process app (checkout.completed amountTotal))
  | webhook event _ => CreditShopService.onWorld (StripeWebhookProcessor.process app event)

end ConferenceContact
