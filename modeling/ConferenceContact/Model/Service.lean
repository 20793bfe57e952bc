import ConferenceContact.Foundation.Process
import ConferenceContact.Model.World

/-!
# Services

A service method is a process over the world.  This module fixes what one call
reads besides the world, the errors a call raises, the deployment a service is
configured with, and the calls that several services share: the clock, the
audit log, the email queue, Redis and the signing of tokens.
-/

namespace ConferenceContact

/-! ## Apollo's answers -/

/-- A JSON value where a string or null is expected. -/
inductive Json
  | null
  | boolean (value : Bool)
  | number (value : Int)
  | text (value : String)
  | array (items : List String)
  | object
  deriving DecidableEq

/-- A person of a search response. -/
structure ApolloSearchPerson where
  id : String
  firstName : Option String := none
  lastNameObfuscated : Option String := none
  title : Option String := none
  organizationName : Option String := none
  deriving DecidableEq

/-- The fields read off the person of a match response, none where absent;
`organizationName` is `organization?.name`. -/
structure ApolloMatchPerson where
  name : Option Json := none
  title : Option Json := none
  organizationName : Option Json := none
  organizationNameField : Option Json := none
  linkedinUrl : Option Json := none
  email : Option Json := none
  deriving DecidableEq

/-- The outcome of the HTTP request to `/people/match`. -/
inductive ApolloMatchResponse
  | unreachable
  | notOk
  | malformed
  /-- The body is the JSON value `null`. -/
  | nullBody
  /-- Any other body whose `person` is absent or falsy. -/
  | noPerson
  | person (person : ApolloMatchPerson)
  deriving DecidableEq

/-- What Claude makes of a query. -/
structure ParsedSearchFilters where
  searchKeywords : List String := []
  targetIndustries : List String := []
  personTitles : List String := []
  personSeniorities : List String := []
  location : String := ""
  personName : String := ""
  personOrganization : String := ""
  deriving DecidableEq

/-- What one call reads besides the world. -/
structure Input where
  /-- `Date.now()`. -/
  now : Time
  /-- The next `generateNumericCode()`. -/
  numericCode : String := "000000"
  /-- The next `generateSecret()` of `otplib`. -/
  totpSecret : String := "JBSWY3DPEHPK3PXP"
  /-- The base64 text of the next initialization vector. -/
  initializationVector : String := "AAAAAAAAAAAAAAAA"
  /-- Whether Redis answers commands. -/
  redisAvailable : Bool := true
  /-- Which of the rows that match an unordered `findFirst` returns, modulo their number. -/
  anyRow : Nat := 0
  /-- The ids of rows that tie in an `orderBy`, in the order in which they are returned. -/
  tiedOrder : List Nat := []
  /-- Whether the email queue accepts a job in time. -/
  queueAvailable : Bool := true
  /-- The `url` of the next Checkout Session, if Stripe returns one. -/
  checkoutUrl : Option String := some "https://checkout.stripe.com/"
  /-- The people of the next search response, none where the search throws. -/
  apolloSearch : Option (List ApolloSearchPerson) := some []
  /-- The next match response. -/
  apolloMatch : ApolloMatchResponse := .noPerson
  /-- The next `parseApolloQuery`, none where it throws. -/
  claude : Option ParsedSearchFilters := some {}
  deriving DecidableEq

/-- The exceptions of NestJS with their messages, those of Prisma by meaning,
and errors of Stripe. -/
inductive ApiError
  | unauthorized (message : String)
  | badRequest (message : String)
  | forbidden (message : String)
  | notFound (message : String)
  | conflict (message : String)
  | serviceUnavailable (message : String)
  /-- Prisma's `P2002`. -/
  | uniqueViolation
  /-- Prisma's `P2003`. -/
  | foreignKeyViolation
  /-- Prisma's `P2025`. -/
  | recordNotFound
  | stripe
  | database
  /-- A command that Redis does not answer. -/
  | redis
  | malformedPayload
  /-- A failed or malformed search response of Apollo. -/
  | apollo
  /-- A failed request to Claude. -/
  | claude
  /-- JavaScript's `TypeError`. -/
  | typeError
  /-- Prisma's validation of a column's type. -/
  | invalidColumn
  deriving DecidableEq

/-- The environment variables, as `envValidationSchema` accepts them, and the
third-party functions the services call. -/
structure Deployment where
  jwtAccessExpirySeconds : Nat := 900
  refreshTokenExpiryDays : Nat := 30
  loginMaxAttempts : Nat := 5
  loginLockoutMinutes : Nat := 15
  maxTrustedDevices : Nat := 3
  riskHighThreshold : Nat := 50
  paymentGracePeriodDays : Nat := 7
  leadSearchMaxResults : Nat := 50
  one_le_refreshTokenExpiryDays : 1 ≤ refreshTokenExpiryDays := by decide
  one_le_loginMaxAttempts : 1 ≤ loginMaxAttempts := by decide
  one_le_maxTrustedDevices : 1 ≤ maxTrustedDevices := by decide
  one_le_leadSearchMaxResults : 1 ≤ leadSearchMaxResults := by decide
  /-- The midnight before a moment, in the server's time zone. -/
  startOfDay : Time → Time := fun now => now - now % 86400000
  /-- The midnight after a moment, in the server's time zone. -/
  nextMidnight : Time → Time := fun now => now - now % 86400000 + 86400000
  /-- `argon2.verify`, false where it throws. -/
  argon2Verify : String → String → Bool := fun hash password => hash == password
  /-- `argon2.hash`. -/
  argon2Hash : String → String := fun password => password
  /-- `otplib`'s `verify` of a code against a secret. -/
  verifyTotp : String → String → Time → Bool := fun _ _ _ => false
  /-- AES-256-GCM encryption under the configured key, from a base64 initialization
  vector to the base64 tag and ciphertext. -/
  aesGcmEncrypt : String → String → String × String :=
    fun _ plaintext => ("AAAAAAAAAAAAAAAAAAAAAA==", plaintext)
  /-- AES-256-GCM decryption of the base64 initialization vector, tag and
  ciphertext under the configured key. -/
  aesGcmDecrypt : String → String → String → Option String :=
    fun _ _ ciphertext => some ciphertext
  /-- `otplib`'s `generateURI` for an issuer, a label and a secret. -/
  generateTotpUri : String → String → String → String :=
    fun issuer label secret => "otpauth://totp/" ++ issuer ++ ":" ++ label ++ "?secret=" ++ secret
  /-- `qrcode.toDataURL`. -/
  qrcodeToDataUrl : String → String := fun text => "data:image/png;base64," ++ text
  /-- The country `geoip-lite` resolves an address to. -/
  geoipCountry : String → Option String := fun _ => none
  /-- `String.prototype.toLowerCase`. -/
  toLowerCase : String → String := id
  /-- `FRONTEND_URL`. -/
  frontendUrl : String := "https://conference.contact"
  /-- `isEmail` of `class-validator`. -/
  isEmail : String → Bool := fun text => text.contains '@'
  /-- `maxLength` of `class-validator`. -/
  maxLength : String → Nat → Bool := fun text limit => decide (text.length ≤ limit)
  /-- The HMAC-SHA256 of a text under `UNSUBSCRIBE_SECRET`, in base64url. -/
  unsubscribeHmac : String → String := id

/-- A deployment whose environment sets nothing: every default passes its own check. -/
def Deployment.defaults : Deployment := {}

/-- A service method. -/
abbrev Service := Process Input ApiError World

namespace Service

/-- `Date.now()`. -/
def dateNow : Service Time :=
  Process.query fun input _ => input.now

@[simp] theorem run_dateNow (input : Input) (world : World) :
    dateNow.run input world = (.ok input.now, world) := rfl

/-- A fresh random token. -/
def generateOpaqueToken : Service RawToken :=
  Process.attempt fun _ world =>
    .ok (world.nextId, { world with nextId := world.nextId + 1 })

@[simp] theorem run_generateOpaqueToken (input : Input) (world : World) :
    generateOpaqueToken.run input world =
      (.ok world.nextId, { world with nextId := world.nextId + 1 }) := rfl

end Service

namespace AuditService

/-- Append a row to the audit log. -/
def record (actorUserId : Option UserId) (action : AuditAction) : Service Unit :=
  Process.command fun _ world =>
    { world with auditLogs := ⟨actorUserId, action⟩ :: world.auditLogs }

@[simp] theorem run_record
    (actorUserId : Option UserId)
    (action : AuditAction)
    (input : Input)
    (world : World) :
    (record actorUserId action).run input world =
      (.ok (),
        { world with auditLogs := ⟨actorUserId, action⟩ :: world.auditLogs }) := rfl

end AuditService

namespace EmailService

/-- Enqueue a job; a queue that rejects it or does not accept it in time is only
logged. -/
def enqueue (job : EmailJob) : Service Unit :=
  tryCatch
    (Process.command fun input world =>
      if input.queueAvailable then { world with outbox := job :: world.outbox }
      else world)
    fun _ => pure ()

@[simp] theorem run_enqueue (job : EmailJob) (input : Input) (world : World) :
    (enqueue job).run input world =
      (.ok (),
        if input.queueAvailable then { world with outbox := job :: world.outbox }
        else world) := rfl

end EmailService

/-! ## JSON Web Tokens -/

namespace JwtService

/-- Sign a payload for a number of seconds. -/
def signAsync (payload : JwtPayload) (expiresIn : Nat) : Service Jwt :=
  Process.attempt fun input world =>
    let token : Jwt :=
      { payload, iat := input.now / 1000, exp := input.now / 1000 + expiresIn }
    .ok (token, { world with signed := token :: world.signed })

/-- The payload of a token this server has signed and which has not expired. -/
def verifyAsync (token : Jwt) : Service (Option JwtPayload) :=
  Process.query fun input world =>
    if token ∈ world.signed ∧ input.now / 1000 < token.exp then
      some token.payload
    else none

@[simp] theorem run_signAsync
    (payload : JwtPayload)
    (expiresIn : Nat)
    (input : Input)
    (world : World) :
    (signAsync payload expiresIn).run input world =
      (.ok ⟨payload, input.now / 1000, input.now / 1000 + expiresIn⟩,
        { world with
          signed :=
            ⟨payload, input.now / 1000, input.now / 1000 + expiresIn⟩ ::
              world.signed }) := rfl

end JwtService

/-! ## Redis -/

namespace Redis

/-- A key is there until its expiry. -/
def RedisEntry.present (now : Time) (entry : RedisEntry) : Bool :=
  match entry.expiresAt with
  | none => true
  | some expiresAt => now < expiresAt

/-- The entry of a key, if it has not expired. -/
def lookup (now : Time) (key : RedisKey) (entries : List RedisEntry) :
    Option RedisEntry :=
  entries.find? fun entry => entry.key = key ∧ RedisEntry.present now entry

/-- Store an entry in place of whatever its key held. -/
def put (entry : RedisEntry) (entries : List RedisEntry) : List RedisEntry :=
  entry :: entries.filter fun other => other.key ≠ entry.key

/-- Commands that throw where Redis does not answer. -/
def answered (commands : Service α) : Service α := do
  let input ← Process.ask
  if input.redisAvailable then commands else throw .redis

/-- `SET key value EX seconds`. -/
def setEx (key : RedisKey) (value seconds : Nat) : Service Unit :=
  Process.command fun input world =>
    { world with
      redis := put ⟨key, value, some (input.now + seconds * 1000)⟩ world.redis }

/-- `EXISTS key`. -/
def existsKey (key : RedisKey) : Service Bool :=
  Process.query fun input world => (lookup input.now key world.redis).isSome

/-- `GET key`; a counter is kept as the digits that `parseInt` reads. -/
def get (key : RedisKey) : Service (Option Nat) :=
  Process.query fun input world => (lookup input.now key world.redis).map (·.value)

/-- `INCR key`, which keeps the expiry of a key that is there. -/
def incr (key : RedisKey) : Service Nat :=
  Process.attempt fun input world =>
    let entry : RedisEntry :=
      match lookup input.now key world.redis with
      | some entry => { entry with value := entry.value + 1 }
      | none => { key, value := 1 }
    .ok (entry.value, { world with redis := put entry world.redis })

/-- `EXPIRE key seconds`. -/
def expire (key : RedisKey) (seconds : Nat) : Service Unit :=
  Process.command fun input world =>
    match lookup input.now key world.redis with
    | some entry =>
        { world with
          redis := put
            { entry with expiresAt := some (input.now + seconds * 1000) }
            world.redis }
    | none => world

end Redis

namespace TokenRevocationService

/-- How many codes may be tried for a challenge. -/
def maxChallengeAttempts : Nat := 5

/-- Reject every outstanding access token of a user; a Redis outage is only
logged. -/
def revokeUser (app : Deployment) (userId : UserId) : Service Unit :=
  tryCatch
    (Redis.answered (Redis.setEx (.revokedUser userId) 1 app.jwtAccessExpirySeconds))
    fun _ => pure ()

/-- Whether a user's access tokens are rejected; a Redis outage fails open. -/
def isRevoked (userId : UserId) : Service Bool :=
  tryCatch (Redis.answered (Redis.existsKey (.revokedUser userId))) fun _ => pure false

theorem run_isRevoked
    {input : Input}
    (available : input.redisAvailable = true)
    (userId : UserId)
    (world : World) :
    (isRevoked userId).run input world =
      (.ok (Redis.lookup input.now (.revokedUser userId) world.redis).isSome, world) := by
  unfold isRevoked Redis.answered
  rw [Process.run_tryCatch, Process.run_bind, Process.run_ask]
  dsimp only
  rw [if_pos available]
  rfl

/-- Count one more code submitted for a challenge; a Redis outage fails open. -/
def registerChallengeAttempt
    (challengeToken : Jwt)
    (ttlSeconds : Nat) : Service Bool :=
  tryCatch
    (Redis.answered do
      let key : RedisKey := .challengeAttempts ⟨challengeToken⟩
      let count ← Redis.incr key
      if count = 1 then
        Redis.expire key ttlSeconds
      return decide (count ≤ maxChallengeAttempts))
    fun _ => pure true

end TokenRevocationService
end ConferenceContact
