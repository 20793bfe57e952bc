import ConferenceContact.Model.Billing
import ConferenceContact.Model.Directory

/-!
# Prospects

`AdminService.listProspects`, the accounts that administrators may pitch a subscription to.
-/

namespace ConferenceContact

/-- What the list of prospects selects of an account beside the modelled columns. -/
structure UserDetails where
  fullName : String
  createdAt : Time
  deriving DecidableEq

/-- `ListProspectsQueryDto`, with the bounds of `PaginationQueryDto`. -/
structure ListProspectsQueryDto where
  page : Nat := 1
  pageSize : Nat := 25
  search : Option String := none
  page_pos : 1 ≤ page := by decide
  pageSize_pos : 1 ≤ pageSize := by decide
  pageSize_le : pageSize ≤ 100 := by decide

/-- A row of the list. -/
structure Prospect where
  id : UserId
  email : String
  fullName : String
  createdAt : Time
  lastLoginAt : Option Time
  daysSinceSignup : Int
  canceled : Bool
  overdue : Bool
  paid : Bool
  deriving DecidableEq

namespace AdminService

/-- The filter for `listProspects` without a search. -/
def isProspect (world : World) (user : User) : Bool :=
  user.status = .active && (user.role = .user || user.role = .premium) &&
    !user.adminGrantedDirectoryAccess &&
    !world.subscriptions.any fun row =>
      row.userId = user.id && (row.status = .active || row.status = .trialing)

/-- Whether `listProspects` matches an account; `contains` is that of a text, without
regard to case. -/
def matchesProspect
    (contains : String → String → Bool)
    (details : User → UserDetails)
    (query : ListProspectsQueryDto)
    (world : World)
    (user : User) : Bool :=
  isProspect world user && (query.search.filter (· ≠ "")).all fun search =>
    contains user.email search || contains (details user).fullName search

/-- An account with what its subscriptions say of it, of which the newest stands first. -/
def enrich (details : User → UserDetails) (now : Time) (world : World) (user : User) : Prospect :=
  let subscriptions := world.subscriptions.filter fun row => row.userId = user.id
  let mostRecent := subscriptions.head?
  { id := user.id
    email := user.email
    fullName := (details user).fullName
    createdAt := (details user).createdAt
    lastLoginAt := user.lastLoginAt
    daysSinceSignup := ((now : Int) - (details user).createdAt) / (24 * 60 * 60 * 1000)
    canceled := mostRecent.any fun row => row.status = .canceled
    overdue := mostRecent.any fun row => row.status = .pastDue
    paid := subscriptions.any fun row =>
      world.invoices.any fun invoice => invoice.subscriptionId = row.id && invoice.status = .paid }

/-- `arrange` is `ORDER BY created_at`. -/
def listProspects
    (contains : String → String → Bool)
    (details : User → UserDetails)
    (arrange : List User → List User)
    (now : Time)
    (query : ListProspectsQueryDto)
    (world : World) : Page Prospect :=
  let matching := world.users.filter (matchesProspect contains details query world)
  { data :=
      (((arrange matching).drop ((query.page - 1) * query.pageSize)).take
        query.pageSize).map (enrich details now world)
    page := query.page
    pageSize := query.pageSize
    total := matching.length }

end AdminService
end ConferenceContact
