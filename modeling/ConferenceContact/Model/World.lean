import Mathlib.Data.List.Basic

/-!
# The data of the backend

Everything the services read and write: the database tables, the Redis keys,
the JSON Web Tokens signed so far, the queued emails and the subscriptions as
Stripe itself has them.  A table is the list of its rows, newest first, so that
list order is `orderBy: { createdAt: 'desc' }`.
-/

namespace ConferenceContact

/-- Milliseconds since the epoch. -/
abbrev Time := Nat

/-- The identifier of an account. -/
abbrev UserId := Nat

/-- The identifier of a remembered device. -/
abbrev DeviceId := Nat

/-- The identifier of a session. -/
abbrev SessionId := Nat

/-- A random token as its bearer holds it, before it is hashed. -/
abbrev RawToken := Nat

/-- The identifier of a plan or of a Lead Finder tier. -/
abbrev PlanId := Nat

/-- The identifier Stripe has given to a subscription. -/
abbrev StripeSubscriptionId := Nat

/-- The identifier of an invoice or of a Checkout Session at Stripe. -/
abbrev StripeReference := Nat

/-- A SHA-256 digest, treated as an injective function of its preimage. -/
structure Sha256 (α : Type) where
  /-- The hashed value. -/
  preimage : α
  deriving DecidableEq

/-! ## Identity -/

/-- What an account may do. -/
inductive Role
  | user
  | premium
  | admin
  | superAdmin
  deriving DecidableEq

/-- Whether an account may be used. -/
inductive AccountStatus
  | active
  | suspended
  | deleted
  deriving DecidableEq

/-- The enumeration's text in the database and in error messages. -/
def AccountStatus.text : AccountStatus → String
  | active => "ACTIVE"
  | suspended => "SUSPENDED"
  | deleted => "DELETED"

/-- A row of `User`: an account with its privileges, its second factor and its credits. -/
structure User where
  id : UserId
  email : String
  passwordHash : String
  role : Role := .user
  status : AccountStatus := .active
  adminGrantedDirectoryAccess : Bool := false
  adminGrantedLeadFinderAccess : Bool := false
  stripeCustomerId : Option Nat := none
  emailVerifiedAt : Option Time := none
  twoFactorEnabled : Bool := false
  twoFactorSecret : Option String := none
  failedLoginCount : Nat := 0
  lockedUntil : Option Time := none
  lastLoginAt : Option Time := none
  deletedAt : Option Time := none
  leadFinderCredits : Int := 100
  deriving DecidableEq

/-- Whether an arranged access has been taken up. -/
inductive AdminAccessInviteStatus
  | pending
  | accepted
  deriving DecidableEq

/-- What an administrator has arranged for an address that has no account yet. -/
structure AdminAccessInvite where
  id : Nat
  invitedByUserId : UserId
  email : String
  role : Role := .user
  grantDirectoryAccess : Bool := true
  grantLeadFinderAccess : Bool := false
  status : AdminAccessInviteStatus := .pending
  acceptedAt : Option Time := none
  deriving DecidableEq

/-- What an emailed token is good for. -/
inductive VerificationTokenPurpose
  | emailVerification
  | passwordReset
  deriving DecidableEq

/-- A row of `VerificationToken`: the hash of an emailed token, which is used once. -/
structure VerificationToken where
  id : Nat
  userId : UserId
  tokenHash : Sha256 RawToken
  purpose : VerificationTokenPurpose
  expiresAt : Time
  usedAt : Option Time := none
  deriving DecidableEq

/-- A row of `Device`: a browser a user has logged in from, by the hash of its cookie. -/
structure Device where
  id : DeviceId
  userId : UserId
  fingerprint : Sha256 String
  isTrusted : Bool := false
  trustedAt : Option Time := none
  lastSeenAt : Time
  deriving DecidableEq

/-- `RiskAssessment.signals`, one field per key the service may set. -/
structure RiskSignals where
  newDevice : Bool := false
  newCountry : Option (String × List String) := none
  impossibleTravel : Option (String × String × Nat) := none
  recentFailedLogins : Option Nat := none
  deriving DecidableEq

/-- A row of `Session`: a login, or the rotation of an earlier session. -/
structure Session where
  id : SessionId
  userId : UserId
  deviceId : Option DeviceId
  tokenHash : Sha256 RawToken
  country : Option String := none
  riskScore : Nat := 0
  riskSignals : Option RiskSignals := none
  replacedByTokenId : Option SessionId := none
  createdAt : Time
  expiresAt : Time
  revokedAt : Option Time := none
  deriving DecidableEq

/-! ## Signed tokens, Redis and email -/

/-- Where the code of a login challenge comes from. -/
inductive LoginChallengeMethod
  | emailCode
  | totp
  deriving DecidableEq

/-- The claims of a login challenge; an authenticator's code has no hash. -/
structure LoginChallengePayload where
  sub : UserId
  deviceId : DeviceId
  method : LoginChallengeMethod
  codeHash : Option (Sha256 String)
  deriving DecidableEq

/-- The claims of an access token, with the administrator behind an impersonation. -/
structure AccessTokenPayload where
  sub : UserId
  role : Role
  impersonatedBy : Option UserId := none
  deriving DecidableEq

/-- The payloads this backend signs, told apart by their `type` claim. -/
inductive JwtPayload
  | access (payload : AccessTokenPayload)
  | loginChallenge (payload : LoginChallengePayload)
  deriving DecidableEq

/-- A signed token with its `iat` and `exp` claims, in whole seconds. -/
structure Jwt where
  payload : JwtPayload
  iat : Nat
  exp : Nat
  deriving DecidableEq

/-- The keys the services use in Redis. -/
inductive RedisKey
  | revokedUser (user : UserId)
  | challengeAttempts (token : Sha256 Jwt)
  /-- `anon-ai-search:` and the address. -/
  | anonymousSearch (ip : String)
  deriving DecidableEq

/-- A key of Redis with its value and the time it expires, if any. -/
structure RedisEntry where
  key : RedisKey
  value : Nat
  expiresAt : Option Time := none
  deriving DecidableEq

/-- The email jobs enqueued by the modelled services. -/
inductive EmailJob
  | welcome (recipient : String)
  | deviceCode (recipient code : String)
  | verification (recipient : String) (token : RawToken)
  | passwordReset (recipient : String) (token : RawToken)
  | subscriptionConfirmed
      (recipient productLabel : String) (amountCents : Nat) (renewsAt : Time)
  | paymentFailed (recipient productLabel : String) (gracePeriodDays : Nat)
  | cancellationScheduled (recipient productLabel : String) (accessUntil : Time)
  | adminAccessInvite (recipient : String) (grantsDirectoryAccess grantsLeadFinderAccess : Bool)
  | prospectColdInvite (recipient : String)
  | renewalReminder
      (recipient productLabel : String) (renewalDate : Time) (amountCents : Nat)
  deriving DecidableEq

/-- The `action` of an audit row, named after its text. -/
inductive AuditAction
  | authRegister
  | authEmailVerified
  | authLogin
  | authLoginFailed
  | authNewDeviceChallenge
  | authDeviceVerificationFailed
  | authHighRiskLogin
  | authRefreshTokenReuseDetected
  | authLogout
  | authLogoutAll
  | authPasswordResetRequested
  | authPasswordResetCompleted
  | auth2faEnabled
  | auth2faDisabled
  | authDeviceTrusted
  | authDeviceRemoved
  | authAccountDeletionRequested
  | adminUserSuspended
  | adminUserReactivated
  | adminUserDeleted
  | adminUserForceLogout
  | adminDirectoryAccessGranted
  | adminDirectoryAccessRevoked
  | billingCheckoutStarted
  | billingSubscriptionCancelRequested
  | billingSubscriptionResumed
  | billingSubscriptionSynced
  | billingDuplicateSubscriptionPrevented
  | billingDuplicateLeadFinderSubscriptionPrevented
  | billingLeadFinderCheckoutStarted
  | billingLeadFinderCancelRequested
  | billingCreditsPurchased
  | billingLeadFinderCreditsGranted
  | adminUserImpersonated
  | adminLeadFinderAccessGranted
  | adminLeadFinderAccessRevoked
  | adminUserInvited
  | adminProspectInvited
  | adminProspectCampaignUploaded
  | adminProspectCampaignSettingsUpdated
  | adminProspectCampaignDailyDrip
  | leadsAiSearch
  deriving DecidableEq

/-- A row of `AuditLog`: what was done, and by whom. -/
structure AuditEntry where
  actorUserId : Option UserId
  action : AuditAction
  deriving DecidableEq

/-! ## Billing -/

/-- A row of `Plan`: a subscription to the directory that is on sale. -/
structure Plan where
  id : PlanId
  slug : String
  name : String
  amountCents : Nat
  isActive : Bool := true
  deriving DecidableEq

/-- A row of `LeadFinderTier`: a number of credits for a price, recurring or once. -/
structure LeadFinderTier where
  id : PlanId
  slug : String
  name : String
  credits : Nat
  stripePriceId : Option Nat
  amountCents : Nat
  recurring : Bool := true
  isActive : Bool := true
  deriving DecidableEq

/-- The status a local subscription row records. -/
inductive SubscriptionStatus
  | trialing
  | active
  | pastDue
  | canceled
  | expired
  deriving DecidableEq

/-- A row of `Subscription` or of `LeadFinderSubscription`; `productId` is the
`planId` of the one and the `tierId` of the other. -/
structure SubscriptionRow where
  id : Nat
  userId : UserId
  productId : PlanId
  stripeSubscriptionId : StripeSubscriptionId
  status : SubscriptionStatus
  currentPeriodStart : Time
  currentPeriodEnd : Time
  cancelAtPeriodEnd : Bool
  pastDueSince : Option Time
  renewalReminderSentForPeriodEnd : Option Time := none
  deriving DecidableEq

/-- The status of an invoice row. -/
inductive InvoiceStatus
  | paid
  | «open»
  | void
  | uncollectible
  deriving DecidableEq

/-- A row of `Invoice`: a payment of a subscription, made or failed. -/
structure Invoice where
  id : Nat
  subscriptionId : Nat
  stripeInvoiceId : StripeReference
  amountCents : Nat
  currency : String
  status : InvoiceStatus
  paidAt : Option Time
  deriving DecidableEq

/-- Why credits were added to a balance. -/
inductive CreditGrantSource
  | creditPackPurchase
  | leadFinderTierGrant
  | adminAdjustment
  deriving DecidableEq

/-- A row of `CreditGrant`: credits added to a balance, and what was paid for them. -/
structure CreditGrant where
  id : Nat
  userId : UserId
  credits : Int
  source : CreditGrantSource
  amountPaidCents : Option Nat
  stripeReference : Option StripeReference
  createdAt : Time
  deriving DecidableEq

/-! ## Stripe -/

/-- `Stripe.Subscription.Status`. -/
inductive StripeStatus
  | incomplete
  | incompleteExpired
  | trialing
  | active
  | pastDue
  | canceled
  | unpaid
  | paused
  deriving DecidableEq

/-- The metadata the checkouts stamp; `isLeadFinderTier` is
`kind === 'lead_finder_tier'`. -/
structure StripeMetadata where
  isLeadFinderTier : Bool := false
  userId : Option UserId := none
  planId : Option PlanId := none
  tierId : Option PlanId := none
  credits : Option String := none
  deriving DecidableEq

/-- A Stripe subscription object; the period bounds are in seconds. -/
structure StripeSubscription where
  id : StripeSubscriptionId
  status : StripeStatus
  currentPeriodStart : Nat
  currentPeriodEnd : Nat
  cancelAtPeriodEnd : Bool
  metadata : StripeMetadata
  deriving DecidableEq

/-! ## Lead Finder -/

/-- How far a search has come. -/
inductive LeadSearchJobStatus
  | running
  | completed
  | failed
  | cancelled
  deriving DecidableEq

/-- What a search asks Apollo for; a `personName` makes it a direct lookup. -/
structure ApolloSearchFilters where
  organizationKeywordTags : List String := []
  excludeOrganizationKeywordTags : Option (List String) := none
  personTitles : Option (List String) := none
  personSeniorities : Option (List String) := none
  personFunctions : Option (List String) := none
  organizationLocations : Option (List String) := none
  organizationNumEmployeesRanges : Option (List String) := none
  revenueMin : Option Nat := none
  revenueMax : Option Nat := none
  personName : Option String := none
  personOrganization : Option String := none
  deriving DecidableEq

/-- A row of `LeadSearchJob`: a search; an old one has kept no filters. -/
structure LeadSearchJob where
  id : Nat
  userId : UserId
  filters : Option ApolloSearchFilters
  status : LeadSearchJobStatus := .running
  createdAt : Time
  deriving DecidableEq

/-- What has become of the enrichment of a person found. -/
inductive LeadSearchResultStatus
  | pending
  | enriched
  | failed
  | skipped
  deriving DecidableEq

/-- The user's own triage of a result. -/
inductive LeadReviewStatus
  | new
  | approved
  | skipped
  deriving DecidableEq

/-- A row of `LeadSearchResult`: a person that a search has found. -/
structure LeadSearchResult where
  id : Nat
  jobId : Nat
  apolloPersonId : String
  name : Option String
  title : Option String
  company : Option String
  linkedin : Option String := none
  email : Option String := none
  status : LeadSearchResultStatus := .pending
  reviewStatus : LeadReviewStatus := .new
  deriving DecidableEq

/-- The data of a job of the Apollo search queue. -/
structure ApolloSearchJobData where
  jobId : Nat
  userId : UserId
  filters : ApolloSearchFilters
  cap : Nat
  excludeApolloPersonIds : Option (List String) := none
  deriving DecidableEq

/-! ## Cold outreach -/

/-- An address that must not be written to unasked. -/
structure EmailSuppression where
  email : String
  deriving DecidableEq

/-- What has become of an address in the outreach queue. -/
inductive ProspectInviteQueueStatus
  | pending
  | sent
  | skippedExistingUser
  | skippedUnsubscribed
  | bounced
  | complained
  deriving DecidableEq

/-- A row of the outreach queue; the table has one for an address at most. -/
structure ProspectInviteQueue where
  id : Nat
  email : String
  status : ProspectInviteQueueStatus := .pending
  uploadedByUserId : Option UserId := none
  createdAt : Time
  sentAt : Option Time := none
  deriving DecidableEq

/-- The row of `ProspectInviteCampaignSettings`: the daily cap and the pause. -/
structure ProspectInviteCampaignSettings where
  dailyCap : Nat := 25
  paused : Bool := false
  deriving DecidableEq

/-! ## The whole state -/

/-- Everything the services read and write. -/
structure World where
  users : List User := []
  adminAccessInvites : List AdminAccessInvite := []
  verificationTokens : List VerificationToken := []
  devices : List Device := []
  sessions : List Session := []
  plans : List Plan := []
  leadFinderTiers : List LeadFinderTier := []
  subscriptions : List SubscriptionRow := []
  leadFinderSubscriptions : List SubscriptionRow := []
  invoices : List Invoice := []
  creditGrants : List CreditGrant := []
  leadSearchJobs : List LeadSearchJob := []
  leadSearchResults : List LeadSearchResult := []
  emailSuppressions : List EmailSuppression := []
  prospectInviteQueue : List ProspectInviteQueue := []
  prospectInviteCampaignSettings : Option ProspectInviteCampaignSettings := none
  auditLogs : List AuditEntry := []
  redis : List RedisEntry := []
  /-- Every token signed with the server's secret so far. -/
  signed : List Jwt := []
  /-- The email jobs accepted by their queue. -/
  outbox : List EmailJob := []
  /-- The waiting jobs of the Apollo search queue, the oldest first. -/
  apolloQueue : List ApolloSearchJobData := []
  /-- The subscriptions as Stripe has them. -/
  stripe : List StripeSubscription := []
  /-- The supply of fresh identifiers and random tokens. -/
  nextId : Nat := 0
  deriving DecidableEq

end ConferenceContact
