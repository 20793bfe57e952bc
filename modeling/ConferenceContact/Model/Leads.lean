import ConferenceContact.Model.Billing
import Mathlib.Data.List.Infix

/-!
# Lead Finder

Apollo's people search and enrichment, the credit balance enrichments spend,
the requests that start, extend and cancel a search, and the worker that runs
it.
-/

namespace ConferenceContact

open Process Service

/-! ## Apollo -/

/-- A person as a search names it, before the enrichment. -/
structure ApolloCandidate where
  apolloPersonId : String
  name : String
  title : Option String
  company : Option String
  deriving DecidableEq

/-- What a match reveals; Apollo's values reach the database unchecked. -/
structure ApolloEnrichedPerson where
  name : Option Json
  title : Option Json
  company : Option Json
  linkedin : Option Json
  email : Option Json
  deriving DecidableEq

/-- Whether JavaScript counts a value as false. -/
def Json.falsy : Json → Bool
  | null => true
  | boolean value => !value
  | number value => value = 0
  | text value => value = ""
  | array _ => false
  | object => false

/-- `value ?? null`. -/
def Json.orNull : Option Json → Option Json
  | some .null => none
  | value => value

/-- The value of a nullable text column; Prisma rejects anything else. -/
def Json.column : Option Json → Except ApiError (Option String)
  | none => .ok none
  | some .null => .ok none
  | some (.text value) => .ok (some value)
  | some _ => .error .invalidColumn

namespace ApolloService

/-- A person of a search response as a candidate. -/
def candidate (person : ApolloSearchPerson) : ApolloCandidate where
  apolloPersonId := person.id
  name :=
    match [person.firstName, person.lastNameObfuscated].filterMap
        (Option.filter (· ≠ "")) with
    | [] => "Unknown"
    | names => " ".intercalate names
  title := person.title
  company := person.organizationName

/-- Ask Apollo for the people that match, none of whom costs a credit yet. -/
def searchPeople
    (_filters : ApolloSearchFilters)
    (_perPage : Nat) : Service (List ApolloCandidate) :=
  attempt fun input world =>
    match input.apolloSearch with
    | some people => .ok (people.map candidate, world)
    | none => .error .apollo

/-- The email of a match unless it is the placeholder of a locked one. -/
def revealedEmail : Option Json → Except ApiError (Option Json)
  | none => .ok none
  | some email =>
      if email.falsy then .ok none
      else
        match email with
        | .text text =>
            .ok (if "not_unlocked".toList <:+: text.toList then none else email)
        | .array items => .ok (if "not_unlocked" ∈ items then none else email)
        | _ => .error .typeError

/-- What `match` makes of Apollo's response. -/
def outcome : ApolloMatchResponse → Except ApiError (Option ApolloEnrichedPerson)
  | .unreachable => .ok none
  | .notOk => .ok none
  | .malformed => .ok none
  | .nullBody => .error .typeError
  | .noPerson => .ok none
  | .person person =>
      match revealedEmail person.email with
      | .error error => .error error
      | .ok email =>
          .ok (some
            { name := Json.orNull person.name
              title := Json.orNull person.title
              company := Json.orNull
                ((Json.orNull person.organizationName).or person.organizationNameField)
              linkedin := Json.orNull person.linkedinUrl
              email })

/-- `match`, a request to `/people/match`. -/
def matchPerson : Service (Option ApolloEnrichedPerson) :=
  attempt fun input world =>
    match outcome input.apolloMatch with
    | .ok matched => .ok (matched, world)
    | .error error => .error error

/-- Ask Apollo for the contact data of a person found. -/
def enrichPerson (_apolloPersonId : String) : Service (Option ApolloEnrichedPerson) :=
  matchPerson

/-- Ask Apollo for the contact data of a person by name. -/
def matchByName
    (_name : String)
    (_organizationName : Option String) : Service (Option ApolloEnrichedPerson) :=
  matchPerson

end ApolloService

/-! ## The tables and the queue -/

/-- The job with an id. -/
def World.findSearchJob (world : World) (id : Nat) : Option LeadSearchJob :=
  world.leadSearchJobs.find? fun job => job.id = id

/-- The results of a job. -/
def World.resultsOf (world : World) (jobId : Nat) : List LeadSearchResult :=
  world.leadSearchResults.filter fun row => row.jobId = jobId

/-- The world with the status of a job's row set. -/
def World.setJobStatus (world : World) (id : Nat) (status : LeadSearchJobStatus) : World :=
  { world with
    leadSearchJobs := Table.updateWhere (fun job => job.id = id)
      (fun job => { job with status }) world.leadSearchJobs }

namespace LeadSearchTables

/-- `leadSearchJob.create`; the job is given its id. -/
def createJob (userId : UserId) (filters : ApolloSearchFilters) : Service Nat :=
  attempt fun input world =>
    if world.users.any fun user => user.id = userId then
      .ok (world.nextId,
        { world with
          leadSearchJobs :=
            { id := world.nextId
              userId
              filters := some filters
              createdAt := input.now } :: world.leadSearchJobs
          nextId := world.nextId + 1 })
    else .error .foreignKeyViolation

/-- `leadSearchJob.update({ where: { id }, data: { status } })`. -/
def updateJobStatus (id : Nat) (status : LeadSearchJobStatus) : Service LeadSearchJob :=
  attempt fun _ world =>
    match world.findSearchJob id with
    | some job => .ok ({ job with status }, world.setJobStatus id status)
    | none => .error .recordNotFound

/-- `leadSearchResult.create`; the row is given its id. -/
def createResult (row : Nat → LeadSearchResult) : Service LeadSearchResult :=
  attempt fun _ world =>
    if (world.findSearchJob (row world.nextId).jobId).isSome then
      .ok (row world.nextId,
        { world with
          leadSearchResults := row world.nextId :: world.leadSearchResults
          nextId := world.nextId + 1 })
    else .error .foreignKeyViolation

/-- `leadSearchResult.update({ where: { id }, data })`. -/
def updateResult
    (id : Nat)
    (rewrite : LeadSearchResult → LeadSearchResult) : Service Unit :=
  attempt fun _ world =>
    if world.leadSearchResults.any fun row => row.id = id then
      .ok ((),
        { world with
          leadSearchResults :=
            Table.updateWhere (fun row => row.id = id) rewrite world.leadSearchResults })
    else .error .recordNotFound

/-- `leadSearchResult.update({ where: { id }, data: { reviewStatus } })`. -/
def setReviewStatus (id : Nat) (reviewStatus : LeadReviewStatus) : Service LeadSearchResult :=
  attempt fun _ world =>
    match world.leadSearchResults.find? fun row => row.id = id with
    | some row =>
        .ok ({ row with reviewStatus },
          { world with
            leadSearchResults := Table.updateWhere (fun row => row.id = id)
              (fun row => { row with reviewStatus }) world.leadSearchResults })
    | none => .error .recordNotFound

/-- `leadSearchResult.updateMany` of the pending rows of a job to `skipped`. -/
def skipPending (jobId : Nat) : Service Unit :=
  command fun _ world =>
    { world with
      leadSearchResults := Table.updateWhere
        (fun row => row.jobId = jobId && row.status = .pending)
        (fun row => { row with status := .skipped }) world.leadSearchResults }

/-- `apolloQueue.add`. -/
def enqueue (data : ApolloSearchJobData) : Service Unit :=
  command fun _ world => { world with apolloQueue := world.apolloQueue ++ [data] }

end LeadSearchTables

/-! ## Requests -/

/-- The fields of an `AiSearchDto` that reach a search. -/
structure AiSearchDto where
  searchKeywords : Option (List String) := none
  targetIndustries : Option (List String) := none
  exclusions : Option (List String) := none
  personTitles : Option (List String) := none
  personSeniorities : Option (List String) := none
  personFunctions : Option (List String) := none
  location : Option String := none
  companySizeRanges : Option (List String) := none
  revenueMin : Option Nat := none
  revenueMax : Option Nat := none
  personName : Option String := none
  personOrganization : Option String := none

/-- What a user may search for today. -/
structure FreeTierStatus where
  isPaidTier : Bool
  maxResultsPerSearch : Nat
  searchesUsedToday : Nat
  maxSearchesPerDay : Nat
  searchesRemainingToday : Option Nat

/-- Whether a user is exempt from every Lead Finder limit. -/
def World.unlimited (world : World) (userId : UserId) : Bool :=
  (world.users.find? fun user => user.id = userId).any fun user =>
    user.role = .admin || user.role = .superAdmin || user.adminGrantedLeadFinderAccess

namespace LeadsService

/-- How many searches a day are free. -/
def freeTierMaxSearchesPerDay : Nat := 4

/-- How many results a free search enriches at most. -/
def freeTierMaxResultsPerSearch : Nat := 25

/-- The error of a balance that is used up. -/
def outOfCredits : ApiError :=
  .forbidden "You're out of Lead Finder credits. Buy more to keep searching."

variable (app : Deployment)

/-- Whether searches cost the user no credits. -/
def hasUnlimitedLeadFinderAccess (userId : UserId) : Service Bool :=
  query fun _ world => world.unlimited userId

/-- Whether the user is beyond the free tier: by privilege, by a subscription or by a pack
of credits. -/
def hasPaidLeadFinderAccess (userId : UserId) : Service Bool := do
  let unlimited ← hasUnlimitedLeadFinderAccess userId
  if unlimited then
    return true
  else
    let subscription ← SubscriptionTable.findFirstLive .leadFinder userId
    let creditPurchase ← query fun _ world =>
      world.creditGrants.any fun grant =>
        grant.userId = userId && grant.source = .creditPackPurchase
    let now ← dateNow
    return creditPurchase || subscription.any fun row =>
      hasActiveAccess app now row.status row.pastDueSince

/-- What the user may search for today, and how often it has. -/
def getFreeTierStatus (userId : UserId) : Service FreeTierStatus := do
  let isPaidTier ← hasPaidLeadFinderAccess app userId
  if isPaidTier then
    return {
      isPaidTier := true
      maxResultsPerSearch := app.leadSearchMaxResults
      searchesUsedToday := 0
      maxSearchesPerDay := freeTierMaxSearchesPerDay
      searchesRemainingToday := none }
  else
    let searchesUsedToday ← query fun input world =>
      world.leadSearchJobs.countP fun job =>
        job.userId = userId && app.startOfDay input.now ≤ job.createdAt
    return {
      isPaidTier := false
      maxResultsPerSearch := freeTierMaxResultsPerSearch
      searchesUsedToday
      maxSearchesPerDay := freeTierMaxSearchesPerDay
      searchesRemainingToday := some (freeTierMaxSearchesPerDay - searchesUsedToday) }

/-- The guarded `updateMany` of a reservation. -/
def takeCredit (userId : UserId) : Service Bool :=
  attempt fun _ world =>
    .ok (world.users.any fun user => user.id = userId && 0 < user.leadFinderCredits,
      { world with
        users := Table.updateWhere
          (fun user => user.id = userId && 0 < user.leadFinderCredits)
          (fun user => { user with leadFinderCredits := user.leadFinderCredits - 1 })
          world.users })

/-- Take a credit for an enrichment, unless searches cost the user none. -/
def tryReserveCredit (userId : UserId) : Service Bool := do
  let unlimited ← hasUnlimitedLeadFinderAccess userId
  if unlimited then
    return true
  else
    takeCredit userId

/-- Give a reserved credit back, unless searches cost the user none. -/
def refundCredit (userId : UserId) : Service Unit := do
  let unlimited ← hasUnlimitedLeadFinderAccess userId
  if unlimited then
    return ()
  else
    let _ ← incrementCredits userId 1

/-- What to ask Apollo for; the keywords and the industries are one list. -/
def buildApolloFilters (dto : AiSearchDto) : ApolloSearchFilters where
  organizationKeywordTags := dto.searchKeywords.getD [] ++ dto.targetIndustries.getD []
  excludeOrganizationKeywordTags := dto.exclusions
  personTitles := dto.personTitles
  personSeniorities := dto.personSeniorities
  personFunctions := dto.personFunctions
  organizationLocations := (dto.location.filter (· ≠ "")).map fun location => [location]
  organizationNumEmployeesRanges := dto.companySizeRanges
  revenueMin := dto.revenueMin
  revenueMax := dto.revenueMax
  personName := dto.personName
  personOrganization := dto.personOrganization

/-- `user.findUniqueOrThrow`, for its balance. -/
def creditsOrThrow (userId : UserId) : Service Int :=
  attempt fun _ world =>
    match world.users.find? fun user => user.id = userId with
    | some user => .ok (user.leadFinderCredits, world)
    | none => .error .recordNotFound

/-- The checks of `aiSearch`; the result is the number of candidates to enrich. -/
def searchCap (userId : UserId) : Service Nat := do
  let credits ← creditsOrThrow userId
  let hasUnlimited ← hasUnlimitedLeadFinderAccess userId
  if !hasUnlimited && credits ≤ 0 then
    throw outOfCredits
  let freeTier ← getFreeTierStatus app userId
  if !freeTier.isPaidTier && freeTier.searchesRemainingToday = some 0 then
    throw (.forbidden
      ("You've used all " ++ toString freeTier.maxSearchesPerDay ++
        " free searches today (" ++ toString freeTier.maxResultsPerSearch ++
        " results each). Upgrade for unlimited searches, or come back tomorrow for " ++
        toString freeTier.maxSearchesPerDay ++ " more free searches."))
  return if hasUnlimited then freeTier.maxResultsPerSearch
    else min credits.toNat freeTier.maxResultsPerSearch

/-- Create a search and enqueue its job. -/
def aiSearch (userId : UserId) (dto : AiSearchDto) : Service Nat := do
  let cap ← searchCap app userId
  let filters := buildApolloFilters dto
  let jobId ← LeadSearchTables.createJob userId filters
  LeadSearchTables.enqueue { jobId, userId, filters, cap }
  return jobId

/-- The checks of `getMoreLeads`; the result is the queue job to add. -/
def extension
    (userId : UserId)
    (jobId : Nat)
    (count : Option Nat) : Service ApolloSearchJobData := do
  let found ← query fun _ world =>
    (world.findSearchJob jobId).map fun job =>
      (job, (world.resultsOf jobId).map (·.apolloPersonId))
  let some (job, results) := found
    | throw (.notFound "Search not found")
  if job.userId ≠ userId then
    throw (.notFound "Search not found")
  if job.status = .running then
    throw (.forbidden "This search is still running.")
  let some filters := job.filters
    | throw (.forbidden
        "This search predates structured filters and cannot be extended — start a new search.")
  let hasPaidAccess ← hasPaidLeadFinderAccess app userId
  if !hasPaidAccess then
    throw (.forbidden
      "Buy a credit pack or upgrade to a paid plan to get more leads per search — the free plan is capped at 3 results per search.")
  let credits ← creditsOrThrow userId
  let hasUnlimited ← hasUnlimitedLeadFinderAccess userId
  if !hasUnlimited && credits ≤ 0 then
    throw outOfCredits
  let requested := count.getD app.leadSearchMaxResults
  return {
    jobId
    userId
    filters
    cap :=
      if hasUnlimited then min requested app.leadSearchMaxResults
      else min (min requested credits.toNat) app.leadSearchMaxResults
    excludeApolloPersonIds := some results }

/-- Set an old search running again, for people it has not found yet. -/
def getMoreLeads
    (userId : UserId)
    (jobId : Nat)
    (count : Option Nat) : Service Unit := do
  let data ← extension app userId jobId count
  let _ ← LeadSearchTables.updateJobStatus jobId .running
  LeadSearchTables.enqueue data

/-- The checks of `cancelSearchJob`. -/
def ownSearchJob (userId : UserId) (jobId : Nat) : Service LeadSearchJob := do
  let found ← query fun _ world => world.findSearchJob jobId
  let some job := found
    | throw (.notFound "Search not found")
  if job.userId ≠ userId then
    throw (.notFound "Search not found")
  return job

/-- A job with its results, the oldest first. -/
def getSearchJob
    (userId : UserId)
    (jobId : Nat) : Service (LeadSearchJob × List LeadSearchResult) := do
  let found ← query fun _ world =>
    (world.findSearchJob jobId).map fun job => (job, (world.resultsOf jobId).reverse)
  let some (job, results) := found
    | throw (.notFound "Search not found")
  if job.userId ≠ userId then
    throw (.notFound "Search not found")
  return (job, results)

/-- Cancel a search of the user, unless it has ended. -/
def cancelSearchJob (userId : UserId) (jobId : Nat) : Service LeadSearchJob := do
  let job ← ownSearchJob userId jobId
  if job.status ≠ .running then
    return job
  else
    LeadSearchTables.updateJobStatus jobId .cancelled

/-- The user's own triage of a result of its job. -/
def updateResultReviewStatus
    (userId : UserId)
    (jobId resultId : Nat)
    (reviewStatus : LeadReviewStatus) : Service LeadSearchResult := do
  let jobOwner ← query fun _ world => (world.findSearchJob jobId).map (·.userId)
  if jobOwner ≠ some userId then
    throw (.notFound "Search not found")
  let resultJob ← query fun _ world =>
    (world.leadSearchResults.find? fun row => row.id = resultId).map (·.jobId)
  if resultJob ≠ some jobId then
    throw (.notFound "Lead not found")
  LeadSearchTables.setReviewStatus resultId reviewStatus

end LeadsService

/-! ## The worker -/

/-- How the body of the enrichment loop ends. -/
inductive IterationEnd
  /-- `return`. -/
  | cancelled
  /-- `break`. -/
  | outOfCredits
  | next
  deriving DecidableEq

/-- The columns an enrichment fills. -/
structure EnrichedColumns where
  name : Option String
  title : Option String
  company : Option String
  linkedin : Option String
  email : Option String
  deriving DecidableEq

/-- The enriched row: what Apollo leaves out keeps its value. -/
def EnrichedColumns.fill
    (columns : EnrichedColumns)
    (row : LeadSearchResult) : LeadSearchResult :=
  { row with
    name := columns.name.or row.name
    title := columns.title.or row.title
    company := columns.company.or row.company
    linkedin := columns.linkedin
    email := columns.email
    status := .enriched }

/-- The columns of an enriched person, as Prisma accepts them. -/
def ApolloEnrichedPerson.columns
    (enriched : ApolloEnrichedPerson) : Except ApiError EnrichedColumns := do
  let name ← Json.column enriched.name
  let title ← Json.column enriched.title
  let company ← Json.column enriched.company
  let linkedin ← Json.column enriched.linkedin
  let email ← Json.column enriched.email
  return { name, title, company, linkedin, email }

/-- A result of an update Prisma may reject before it reaches the database. -/
def orThrow (outcome : Except ApiError α) : Service α :=
  match outcome with
  | .ok value => pure value
  | .error error => throw error

namespace ApolloSearchProcessor

open LeadSearchTables

/-- `filters.personName`, where it is truthy. -/
def directName (filters : ApolloSearchFilters) : Option String :=
  filters.personName.filter (· ≠ "")

/-- The row of a candidate before its enrichment. -/
def pendingRow (jobId : Nat) (candidate : ApolloCandidate) (id : Nat) : LeadSearchResult where
  id
  jobId
  apolloPersonId := candidate.apolloPersonId
  name := some candidate.name
  title := candidate.title
  company := candidate.company

/-- One more outcome of `Promise.all`, which rejects with the first error. -/
def collect
    (made : Except ApiError (List LeadSearchResult))
    (outcome : Except ApiError LeadSearchResult) : Except ApiError (List LeadSearchResult) :=
  match made, outcome with
  | .ok rows, .ok row => .ok (rows ++ [row])
  | .ok _, .error error => .error error
  | .error error, _ => .error error

/-- `Promise.all` of the creations: a rejected one does not keep the others from
taking place. -/
def createPending
    (jobId : Nat) :
    List ApolloCandidate → Except ApiError (List LeadSearchResult) →
      Service (List LeadSearchResult)
  | [], made => orThrow made
  | candidate :: rest, made => do
      let outcome ← tryCatch
        (do
          let row ← createResult (pendingRow jobId candidate)
          return Except.ok row)
        (fun error => return .error error)
      createPending jobId rest (collect made outcome)

/-- The enrichment of a row whose credit is reserved. -/
def spendReserved
    (data : ApolloSearchJobData)
    (result : LeadSearchResult) : Service IterationEnd := do
  let enriched ← ApolloService.enrichPerson result.apolloPersonId
  match enriched with
  | some enriched =>
      let columns ← orThrow enriched.columns
      updateResult result.id columns.fill
      return .next
  | none =>
      LeadsService.refundCredit data.userId
      updateResult result.id fun row => { row with status := .failed }
      return .next

/-- The body of the enrichment loop. -/
def attemptEnrichment
    (data : ApolloSearchJobData)
    (result : LeadSearchResult) : Service IterationEnd := do
  let current ← query fun _ world => world.findSearchJob data.jobId
  if current.any fun job => job.status = .cancelled then
    skipPending data.jobId
    return .cancelled
  else
    let reserved ← LeadsService.tryReserveCredit data.userId
    if reserved then
      spendReserved data result
    else
      skipPending data.jobId
      return .outOfCredits

/-- What follows the loop. -/
def finishSearch (data : ApolloSearchJobData) : Service Unit := do
  let _ ← updateJobStatus data.jobId .completed
  AuditService.record (some data.userId) .leadsAiSearch

/-- The enrichment loop, and what follows it unless it returns. -/
def enrichAll (data : ApolloSearchJobData) : List LeadSearchResult → Service Unit
  | [] => finishSearch data
  | result :: rest => do
      let iterationEnd ← attemptEnrichment data result
      match iterationEnd with
      | .cancelled => return ()
      | .outOfCredits => finishSearch data
      | .next => enrichAll data rest

/-- The candidates of a search that are not excluded, up to the cap. -/
def candidates
    (data : ApolloSearchJobData)
    (found : List ApolloCandidate) : List ApolloCandidate :=
  (found.filter fun candidate =>
    candidate.apolloPersonId ∉ data.excludeApolloPersonIds.getD []).take data.cap

/-- The search by criteria. -/
def searchAndEnrich (data : ApolloSearchJobData) : Service Unit := do
  let excluded := (data.excludeApolloPersonIds.getD []).eraseDups
  let found ← ApolloService.searchPeople data.filters (min (data.cap + excluded.length) 100)
  match candidates data found with
  | [] =>
      let _ ← updateJobStatus data.jobId .completed
  | candidates =>
      let pendingResults ← createPending data.jobId candidates (.ok [])
      enrichAll data pendingResults

/-- The row of a direct match, enriched or not. -/
def directRow
    (data : ApolloSearchJobData)
    (personName : String)
    (matched : Option EnrichedColumns)
    (id : Nat) : LeadSearchResult :=
  let unmatched : LeadSearchResult :=
    { id
      jobId := data.jobId
      apolloPersonId := "name:" ++ personName
      name := some personName
      title := none
      company := data.filters.personOrganization
      status := .failed }
  match matched with
  | none => unmatched
  | some columns => columns.fill unmatched

/-- What follows the match of a named person. -/
def recordDirect
    (data : ApolloSearchJobData)
    (personName : String)
    (matched : Option EnrichedColumns) : Service Unit := do
  let _ ← createResult (directRow data personName matched)
  finishSearch data

/-- Look a named person up for a credit, which is given back if there is no match. -/
def processDirectMatch (data : ApolloSearchJobData) (personName : String) : Service Unit := do
  let reserved ← LeadsService.tryReserveCredit data.userId
  if reserved then
    let matched ← ApolloService.matchByName personName data.filters.personOrganization
    match matched with
    | some matched =>
        let columns ← orThrow matched.columns
        recordDirect data personName (some columns)
    | none =>
        LeadsService.refundCredit data.userId
        recordDirect data personName none
  else
    let _ ← updateJobStatus data.jobId .completed

/-- Run a job of the queue; an error marks its search failed. -/
def process (data : ApolloSearchJobData) : Service Unit :=
  tryCatch
    (match directName data.filters with
      | some personName => processDirectMatch data personName
      | none => searchAndEnrich data)
    fun _ => do
      let _ ← updateJobStatus data.jobId .failed

end ApolloSearchProcessor

/-! ## Searches without an account -/

/-- `parseApolloQuery`. -/
def ClaudeService.parseApolloQuery (_query : String) : Service ParsedSearchFilters :=
  attempt fun input world =>
    match input.claude with
    | some parsed => .ok (parsed, world)
    | none => .error .claude

/-- Parsed filters as the argument of `buildApolloFilters`. -/
def ParsedSearchFilters.dto (parsed : ParsedSearchFilters) : AiSearchDto where
  searchKeywords := some parsed.searchKeywords
  targetIndustries := some parsed.targetIndustries
  personTitles := some parsed.personTitles
  personSeniorities := some parsed.personSeniorities
  location := some parsed.location
  personName := some parsed.personName
  personOrganization := some parsed.personOrganization

/-- A result of a search without an account. -/
structure AnonymousResult where
  name : Option Json
  title : Option Json
  company : Option Json
  email : Option Json
  linkedin : Option Json

/-- How many searches an address has made today, and how many are left. -/
structure AnonymousSearchLimit where
  searchesUsedToday : Nat
  searchesRemainingToday : Nat
  deriving DecidableEq

/-- How many searches are left to an address today. -/
structure AnonymousSearchStatus where
  maxSearchesPerDay : Nat
  searchesRemainingToday : Nat
  deriving DecidableEq

namespace LeadsService

/-- How many searches a day an address may make without an account. -/
def anonymousMaxSearchesPerDay : Nat := 3

/-- How many results a search without an account shows. -/
def anonymousMaxResultsPerSearch : Nat := 3

variable (app : Deployment)

/-- The seconds left at a moment until the next midnight, rounded up. -/
def secondsUntilMidnight (now : Time) : Nat := (app.nextMidnight now - now + 999) / 1000

/-- `redis.expire(key, this.secondsUntilMidnight())`, at the moment for which the seconds
are computed. -/
def expireAtMidnight (key : RedisKey) : Service Unit :=
  command fun input world =>
    match Redis.lookup input.now key world.redis with
    | some entry =>
        { world with
          redis := Redis.put
            { entry with
              expiresAt := some (input.now + secondsUntilMidnight app input.now * 1000) }
            world.redis }
    | none => world

/-- The body of the `try` block of `checkAnonymousSearchLimit`. -/
def countAnonymousSearch (ip : String) : Service Nat := do
  let count ← Redis.incr (.anonymousSearch ip)
  if count = 1 then
    expireAtMidnight app (.anonymousSearch ip)
  return count

/-- What becomes of a search that is counted. -/
def admitAnonymousSearch (count : Nat) : Service AnonymousSearchLimit :=
  if count > anonymousMaxSearchesPerDay then
    throw (.forbidden
      ("You've used your " ++ toString anonymousMaxSearchesPerDay ++
        " free searches today. Sign up to get up to 1,000 enriched leads every month, " ++
        "unlimited database searches, and full CSV export — or come back tomorrow for " ++
        toString anonymousMaxSearchesPerDay ++ " more free searches."))
  else
    return {
      searchesUsedToday := count
      searchesRemainingToday := anonymousMaxSearchesPerDay - count }

/-- The error of a search whose counter Redis does not keep. -/
def anonymousSearchUnavailable : ApiError :=
  .serviceUnavailable
    ("The free search demo is temporarily unavailable — please try again in a moment, " ++
      "or sign up for full access.")

/-- Count a search of an address; without Redis it is refused. -/
def checkAnonymousSearchLimit (ip : String) : Service AnonymousSearchLimit := do
  let count ← tryCatch (countAnonymousSearch app ip) fun _ => throw anonymousSearchUnavailable
  admitAnonymousSearch count

/-- What a visitor is told before a search. -/
def getAnonymousSearchStatus (ip : String) : Service AnonymousSearchStatus :=
  tryCatch
    (do
      let raw ← Redis.get (.anonymousSearch ip)
      let count := raw.getD 0
      return {
        maxSearchesPerDay := anonymousMaxSearchesPerDay
        searchesRemainingToday := anonymousMaxSearchesPerDay - count })
    fun _ =>
      return {
        maxSearchesPerDay := anonymousMaxSearchesPerDay
        searchesRemainingToday := anonymousMaxSearchesPerDay }

/-- The loop over the candidates of a search without an account. -/
def enrichAnonymously : List ApolloCandidate → Service (List AnonymousResult)
  | [] => return []
  | candidate :: rest => do
      let enriched ← ApolloService.enrichPerson candidate.apolloPersonId
      let results ← enrichAnonymously rest
      match enriched with
      | some enriched =>
          return {
            name := enriched.name.or (some (.text candidate.name))
            title := enriched.title.or (candidate.title.map .text)
            company := enriched.company.or (candidate.company.map .text)
            email := enriched.email
            linkedin := enriched.linkedin } :: results
      | none => return results

/-- The results of a search without an account. -/
def anonymousResults (query : String) : Service (List AnonymousResult) := do
  let parsed ← ClaudeService.parseApolloQuery query
  let filters := buildApolloFilters parsed.dto
  match ApolloSearchProcessor.directName filters with
  | some personName =>
      let enriched ← ApolloService.matchByName personName filters.personOrganization
      match enriched with
      | some enriched =>
          return [
            { name := enriched.name.or (some (.text personName))
              title := enriched.title
              company := enriched.company
              email := enriched.email
              linkedin := enriched.linkedin }]
      | none => return []
  | none =>
      let candidates ← ApolloService.searchPeople filters anonymousMaxResultsPerSearch
      enrichAnonymously (candidates.take anonymousMaxResultsPerSearch)

/-- The results of a search without an account, and the searches left today. -/
def anonymousSearch
    (ip : String)
    (query : String) : Service (List AnonymousResult × Nat) := do
  let limit ← checkAnonymousSearchLimit app ip
  let results ← tryCatch (anonymousResults query) fun _ =>
    throw (.serviceUnavailable
      "AI search is temporarily unavailable — please try again in a moment.")
  return (results, limit.searchesRemainingToday)

end LeadsService

namespace AdminService

/-- Grant or take away free use of the Lead Finder. -/
def setLeadFinderAccess
    (adminUserId targetUserId : UserId)
    (granted : Bool) : Service Unit := do
  let some _ ← UsersService.findById targetUserId
    | throw (.notFound "User not found")
  let _ ← UsersService.update targetUserId fun _ user =>
    { user with adminGrantedLeadFinderAccess := granted }
  AuditService.record (some adminUserId)
    (if granted then .adminLeadFinderAccessGranted
      else .adminLeadFinderAccessRevoked)

end AdminService
end ConferenceContact
