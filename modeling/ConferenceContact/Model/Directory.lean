import ConferenceContact.Foundation.Queries
import ConferenceContact.Model.World

/-!
# The Lead Directory

The table `leads`, the self-submission that adds to it, and what subscribers and visitors
read from it through `LeadsService`.
-/

namespace ConferenceContact

/-! ## Leads -/

/-- What kind of company a lead belongs to. -/
inductive CompanyType
  | advertiser
  | adNetwork
  | affiliate
  | affiliateNetwork
  | agency
  | solutionProvider
  deriving DecidableEq

namespace CompanyType

/-- The position in the database's enumeration, which orders its values. -/
def rank : CompanyType → Nat
  | advertiser => 0
  | adNetwork => 1
  | affiliate => 2
  | affiliateNetwork => 3
  | agency => 4
  | solutionProvider => 5

/-- The order of the database for the enumeration, which is that of its declaration. -/
def collation : Collation CompanyType :=
  .ofRank rank fun left right => by cases left <;> cases right <;> first | exact fun _ => rfl | nofun

/-- The enumeration's text in the database and in files. -/
def text : CompanyType → String
  | advertiser => "ADVERTISER"
  | adNetwork => "AD_NETWORK"
  | affiliate => "AFFILIATE"
  | affiliateNetwork => "AFFILIATE_NETWORK"
  | agency => "AGENCY"
  | solutionProvider => "SOLUTION_PROVIDER"

end CompanyType

/-- The columns of `LEAD_SELECT`. -/
structure LeadRecord where
  id : Nat
  name : String
  title : Option String := none
  company : Option String := none
  website : Option String := none
  linkedin : Option String := none
  appLink : Option String := none
  email : Option String := none
  phone : Option String := none
  companyType : Option CompanyType := none
  likelyToAttend : String
  deriving DecidableEq

/-- A row of `leads`. -/
structure Lead extends LeadRecord where
  approved : Bool := true
  submittedByUserId : Option UserId := none
  deriving DecidableEq

/-- What the reads rely on of Postgres and of `csv-stringify`: how text is ordered and
matched, in which order rows with equal keys are returned, and how a table is written
out. -/
structure LeadStore where
  collation : Collation String
  /-- `contains` of a text, without regard to case. -/
  contains : String → String → Bool
  /-- `ILIKE` of a text and a pattern. -/
  ilike : String → String → Bool
  /-- `ORDER BY name`. -/
  arrange : List Lead → List Lead
  arrange_perm : ∀ leads, (arrange leads).Perm leads
  arrange_sorted : ∀ leads,
    (arrange leads).Pairwise fun left right => collation.le left.name right.name = true
  /-- `ORDER BY n DESC`. -/
  arrangeGroups : List (String × Nat) → List (String × Nat)
  arrangeGroups_perm : ∀ groups, (arrangeGroups groups).Perm groups
  arrangeGroups_sorted : ∀ groups,
    (arrangeGroups groups).Pairwise fun left right => right.2 ≤ left.2
  /-- A header and the rows below it. -/
  stringify : List String → List (List (Option String)) → String

/-! ## Requests -/

/-- A company type of a query: one of the enumeration, or `UNCLASSIFIED`. -/
inductive CompanyTypeQuery
  | is (companyType : CompanyType)
  | unclassified
  deriving DecidableEq

/-- The filters of a request for leads. -/
structure LeadFilters where
  companyType : Option CompanyTypeQuery := none
  likelyToAttend : Option String := none
  search : Option String := none
  hasEmail : Option Bool := none

/-- `ListLeadsQueryDto`, with the bounds of `PaginationQueryDto`. -/
structure ListLeadsQueryDto extends LeadFilters where
  page : Nat := 1
  pageSize : Nat := 25
  approved : Option Bool := none
  /-- `new Date(fromDate)`. -/
  fromDate : Option Time := none
  /-- `new Date(toDate)`. -/
  toDate : Option Time := none
  page_pos : 1 ≤ page := by decide
  pageSize_pos : 1 ≤ pageSize := by decide
  pageSize_le : pageSize ≤ 100 := by decide

/-- The query of a request without parameters. -/
def ListLeadsQueryDto.defaults : ListLeadsQueryDto := {}

/-- The columns from which a search is completed. -/
inductive SuggestField
  | title
  | company
  deriving DecidableEq

/-- What has been typed so far, and the column it is for. -/
structure SuggestQueryDto where
  field : SuggestField
  q : String

/-- The body of a submission to the directory. -/
structure SelfSubmitLeadDto where
  name : String
  companyType : CompanyType
  likelyToAttend : String
  title : Option String := none
  company : Option String := none
  website : Option String := none
  linkedin : Option String := none
  email : Option String := none
  phone : Option String := none

/-- A page of a list, with the length of the whole list. -/
structure Page (α : Type) where
  data : List α
  page : Nat
  pageSize : Nat
  total : Nat
  deriving DecidableEq

/-- The values that the filters of the Directory offer. -/
structure LeadFilterOptions where
  companyTypes : List CompanyTypeQuery
  events : List String
  deriving DecidableEq

/-- What the homepage preview selects. -/
structure LeadPreview where
  name : String
  title : Option String
  company : Option String
  companyType : Option CompanyType
  likelyToAttend : String
  deriving DecidableEq

/-! ## Reads -/

/-- `Prisma.LeadWhereInput`; a column that is not given is not compared. -/
structure LeadWhere where
  approved : Option Bool
  companyType : Option (Option CompanyType)
  likelyToAttend : Option String
  /-- `email: { not: null }`. -/
  hasEmail : Bool
  search : Option String
  /-- The columns of which one contains the searched text. -/
  searched : List (LeadRecord → Option String)

/-- Whether a row is selected. -/
def LeadWhere.selects (store : LeadStore) (condition : LeadWhere) (lead : Lead) : Bool :=
  condition.approved.all (lead.approved = ·) &&
    condition.companyType.all (lead.companyType = ·) &&
    condition.likelyToAttend.all (lead.likelyToAttend = ·) &&
    (!condition.hasEmail || lead.email.isSome) &&
    condition.search.all fun search =>
      condition.searched.any fun column =>
        (column lead.toLeadRecord).any fun text => store.contains text search

/-- The selected rows by name. -/
def findMany (store : LeadStore) (condition : LeadWhere) (leads : List Lead) : List Lead :=
  store.arrange (leads.filter (condition.selects store))

/-- `UNCLASSIFIED` asks for rows without a company type. -/
def resolveCompanyTypeFilter :
    Option CompanyTypeQuery → Option (Option CompanyType)
  | none => none
  | some .unclassified => some none
  | some (.is companyType) => some (some companyType)

/-- The values of a column, each with the number of its rows. -/
def groupBy (values : List String) : List (String × Nat) :=
  values.dedup.map fun value => (value, values.count value)

/-- `CSV_COLUMNS`. -/
def csvColumns : List (String × (LeadRecord → Option String)) :=
  [("Name", fun lead => some lead.name),
    ("Title", (·.title)),
    ("Company", (·.company)),
    ("Type of Company", fun lead => lead.companyType.map (·.text)),
    ("Likely to Attend", fun lead => some lead.likelyToAttend),
    ("Website", (·.website)),
    ("LinkedIn", (·.linkedin)),
    ("Email", (·.email)),
    ("Phone", (·.phone))]

namespace LeadsService

variable (store : LeadStore)

/-- The condition of a request; only approved leads meet it. -/
def buildWhere (filters : LeadFilters) : LeadWhere where
  approved := some true
  companyType := resolveCompanyTypeFilter filters.companyType
  likelyToAttend := filters.likelyToAttend
  hasEmail := filters.hasEmail = some true
  search := filters.search.filter (· ≠ "")
  searched :=
    [fun lead => some lead.name, (·.company), (·.title), (·.email),
      fun lead => some lead.likelyToAttend]

/-- A page of the leads that meet a request. -/
def list (query : ListLeadsQueryDto) (leads : List Lead) : Page LeadRecord :=
  let condition := buildWhere query.toLeadFilters
  { data :=
      (((findMany store condition leads).drop ((query.page - 1) * query.pageSize)).take
        query.pageSize).map (·.toLeadRecord)
    page := query.page
    pageSize := query.pageSize
    total := (leads.filter (condition.selects store)).length }

/-- How many leads meet a request. -/
def count (filters : LeadFilters) (leads : List Lead) : Nat :=
  (leads.filter ((buildWhere filters).selects store)).length

/-- The leads that meet a request, as a file. -/
def exportCsv (filters : LeadFilters) (leads : List Lead) : String :=
  store.stringify (csvColumns.map (·.1))
    ((findMany store (buildWhere filters) leads).map fun lead =>
      csvColumns.map fun column => column.2 lead.toLeadRecord)

/-- The first matches, without contact details. -/
def preview (search : String) (leads : List Lead) : List LeadPreview :=
  ((findMany store (buildWhere { search := some search }) leads).take 5).map fun lead =>
    { name := lead.name
      title := lead.title
      company := lead.company
      companyType := lead.companyType
      likelyToAttend := lead.likelyToAttend }

/-- The column that is suggested from. -/
def suggested : SuggestField → Lead → Option String
  | .title, lead => lead.title
  | .company, lead => lead.company

/-- The commonest values of a column that contain what has been typed. -/
def suggest (dto : SuggestQueryDto) (leads : List Lead) : List (String × Nat) :=
  let pattern := "%" ++ dto.q ++ "%"
  let selected := leads.filter fun lead =>
    lead.approved && (suggested dto.field lead).any fun text => store.ilike text pattern
  (store.arrangeGroups (groupBy (selected.filterMap (suggested dto.field)))).take 8

/-- The values that the directory can be filtered by. -/
def getFilters (leads : List Lead) : LeadFilterOptions :=
  let companyTypes := CompanyType.collation.nullsLast.distinct (leads.map (·.companyType))
  let events := store.collation.distinct (leads.map (·.likelyToAttend))
  let realTypes := companyTypes.filterMap id
  let hasUnclassified := realTypes.length < companyTypes.length
  { companyTypes :=
      if hasUnclassified then realTypes.map .is ++ [.unclassified] else realTypes.map .is
    events }

/-- A self-submission waits for its approval; the record that is returned and the table. -/
def submitSelf
    (id : Nat)
    (userId : UserId)
    (dto : SelfSubmitLeadDto)
    (leads : List Lead) : LeadRecord × List Lead :=
  let lead : LeadRecord :=
    { id
      name := dto.name
      title := dto.title
      company := dto.company
      website := dto.website
      linkedin := dto.linkedin
      email := dto.email
      phone := dto.phone
      companyType := some dto.companyType
      likelyToAttend := dto.likelyToAttend }
  (lead, leads ++ [{ lead with approved := false, submittedByUserId := some userId }])

end LeadsService

/-- `PublicLeadsController.getEventOptions`. -/
def PublicLeadsController.getEventOptions (store : LeadStore) (leads : List Lead) : List String :=
  (LeadsService.getFilters store leads).events

/-! ## The list of the administrators -/

/-- The user who submitted a lead. -/
structure LeadSubmitter where
  id : UserId
  email : String
  fullName : String
  deriving DecidableEq

/-- What the list of the administrators selects beside a lead. -/
structure LeadDetails where
  submittedBy : Option LeadSubmitter
  createdAt : Time
  updatedAt : Time
  deriving DecidableEq

namespace AdminService

/-- The filter for `listLeads`, without its dates. -/
def leadWhere (query : ListLeadsQueryDto) : LeadWhere where
  approved := query.approved
  companyType := resolveCompanyTypeFilter query.companyType
  likelyToAttend := query.likelyToAttend
  hasEmail := query.hasEmail = some true
  search := query.search.filter (· ≠ "")
  searched := [fun lead => some lead.name, (·.company), (·.title), (·.email)]

/-- The day of `toDate` is included. -/
def createdAtFilter (query : ListLeadsQueryDto) (createdAt : Time) : Bool :=
  query.fromDate.all (· ≤ createdAt) && query.toDate.all (createdAt < · + 86400000)

/-- Whether `listLeads` matches a lead. -/
def matchesLead
    (store : LeadStore)
    (details : Lead → LeadDetails)
    (query : ListLeadsQueryDto)
    (lead : Lead) : Bool :=
  (leadWhere query).selects store lead && createdAtFilter query (details lead).createdAt

/-- A page of the leads that meet a request of an administrator. -/
def listLeads
    (store : LeadStore)
    (details : Lead → LeadDetails)
    (query : ListLeadsQueryDto)
    (leads : List Lead) : Page (Lead × LeadDetails) :=
  let matching := leads.filter (matchesLead store details query)
  { data :=
      (((store.arrange matching).drop ((query.page - 1) * query.pageSize)).take
        query.pageSize).map fun lead => (lead, details lead)
    page := query.page
    pageSize := query.pageSize
    total := matching.length }

end AdminService

/-! ## Every read of a subscriber or a visitor -/

/-- The reads of `leads` that no administrator is needed for. -/
inductive LeadsRead
  | list (query : ListLeadsQueryDto)
  | count (filters : LeadFilters)
  | exportCsv (filters : LeadFilters)
  | preview (search : String)
  | suggest (dto : SuggestQueryDto)
  | getFilters
  | getEventOptions

/-- What a read returns. -/
inductive LeadsAnswer
  | page (page : Page LeadRecord)
  | number (count : Nat)
  | csv (text : String)
  | previews (previews : List LeadPreview)
  | suggestions (suggestions : List (String × Nat))
  | filters (options : LeadFilterOptions)
  | events (events : List String)
  deriving DecidableEq

/-- What a route that reads leads answers. -/
def LeadsRead.answer (store : LeadStore) (read : LeadsRead) (leads : List Lead) : LeadsAnswer :=
  match read with
  | list query => .page (LeadsService.list store query leads)
  | count filters => .number (LeadsService.count store filters leads)
  | exportCsv filters => .csv (LeadsService.exportCsv store filters leads)
  | preview search => .previews (LeadsService.preview store search leads)
  | suggest dto => .suggestions (LeadsService.suggest store dto leads)
  | getFilters => .filters (LeadsService.getFilters store leads)
  | getEventOptions => .events (PublicLeadsController.getEventOptions store leads)

end ConferenceContact
