import ConferenceContact.Foundation.Table
import ConferenceContact.Model.Directory
import ConferenceContact.Model.Service

/-!
# The moderation of the Lead Directory

The requests that write the table `leads`: the self-submission of a user, and what
administrators create, approve, update and delete.
-/

namespace ConferenceContact

open Process

/-! ## The tables -/

/-- The actions of the audit rows about leads. -/
inductive LeadAuditAction
  | leadsSelfSubmitted
  | adminLeadCreated
  | adminLeadApproved
  | adminLeadUpdated
  | adminLeadDeleted
  deriving DecidableEq

/-- A row of `AuditLog` about a lead. -/
structure LeadAuditEntry where
  actorUserId : UserId
  action : LeadAuditAction
  targetId : Nat
  deriving DecidableEq

/-- The leads, the ids of the users, who are never deleted, and the audit rows about leads. -/
structure DirectoryWorld where
  leads : List Lead := []
  users : List UserId := []
  auditLogs : List LeadAuditEntry := []
  deriving DecidableEq

/-- A method that reads or writes leads; the input of a call is the next `uuid()`. -/
abbrev DirectoryService := Process Nat ApiError DirectoryWorld

/-! ## Bodies -/

/-- `CreateLeadDto`; a field that is left out is stored as null. -/
structure CreateLeadDto where
  name : String
  likelyToAttend : String
  companyType : Option CompanyType := none
  title : Option String := none
  company : Option String := none
  website : Option String := none
  linkedin : Option String := none
  appLink : Option String := none
  email : Option String := none
  phone : Option String := none
  deriving DecidableEq

/-- `UpdateLeadDto`: a field that is left out is `none`, one that is null `some none`. -/
structure UpdateLeadDto where
  name : Option (Option String) := none
  likelyToAttend : Option (Option String) := none
  companyType : Option (Option CompanyType) := none
  title : Option (Option String) := none
  company : Option (Option String) := none
  website : Option (Option String) := none
  linkedin : Option (Option String) := none
  appLink : Option (Option String) := none
  email : Option (Option String) := none
  phone : Option (Option String) := none
  deriving DecidableEq

/-- The lead that a body creates. -/
def CreateLeadDto.lead (dto : CreateLeadDto) (id : Nat) : Lead where
  id
  name := dto.name
  title := dto.title
  company := dto.company
  website := dto.website
  linkedin := dto.linkedin
  appLink := dto.appLink
  email := dto.email
  phone := dto.phone
  companyType := dto.companyType
  likelyToAttend := dto.likelyToAttend

/-- The lead that a self-submission creates. -/
def SelfSubmitLeadDto.lead (dto : SelfSubmitLeadDto) (userId : UserId) (id : Nat) : Lead where
  id
  name := dto.name
  title := dto.title
  company := dto.company
  website := dto.website
  linkedin := dto.linkedin
  email := dto.email
  phone := dto.phone
  companyType := some dto.companyType
  likelyToAttend := dto.likelyToAttend
  approved := false
  submittedByUserId := some userId

/-- The data for a column that must not be null. -/
def requiredColumn : Option (Option String) → Except ApiError (Option String)
  | some none => .error .invalidColumn
  | some (some value) => .ok (some value)
  | none => .ok none

/-- What the data of an update makes of a lead; Prisma refuses null where the column must
not be null. -/
def UpdateLeadDto.rewrite (dto : UpdateLeadDto) : Except ApiError (Lead → Lead) := do
  let name ← requiredColumn dto.name
  let likelyToAttend ← requiredColumn dto.likelyToAttend
  return fun lead =>
    { lead with
      name := name.getD lead.name
      likelyToAttend := likelyToAttend.getD lead.likelyToAttend
      companyType := dto.companyType.getD lead.companyType
      title := dto.title.getD lead.title
      company := dto.company.getD lead.company
      website := dto.website.getD lead.website
      linkedin := dto.linkedin.getD lead.linkedin
      appLink := dto.appLink.getD lead.appLink
      email := dto.email.getD lead.email
      phone := dto.phone.getD lead.phone }

/-! ## Calls -/

namespace LeadTable

/-- `findUnique({ where: { id } })`. -/
def findUnique (id : Nat) : DirectoryService (Option Lead) :=
  query fun _ world => world.leads.find? fun lead => lead.id = id

/-- `create`, with the next `uuid()` as the id. -/
def create (lead : Nat → Lead) : DirectoryService Lead :=
  attempt fun uuid world =>
    if world.leads.any fun other => other.id = uuid then .error .uniqueViolation
    else if (lead uuid).submittedByUserId.all (· ∈ world.users) then
      .ok (lead uuid, { world with leads := world.leads ++ [lead uuid] })
    else .error .foreignKeyViolation

/-- `update({ where: { id }, data })`. -/
def update (id : Nat) (data : Except ApiError (Lead → Lead)) : DirectoryService Lead :=
  attempt fun _ world =>
    match data with
    | .error error => .error error
    | .ok rewrite =>
        match world.leads.find? fun lead => lead.id = id with
        | none => .error .recordNotFound
        | some lead =>
            .ok (rewrite lead,
              { world with
                leads := Table.updateWhere (fun other => other.id = id) rewrite world.leads })

/-- `delete({ where: { id } })`. -/
def delete (id : Nat) : DirectoryService Unit :=
  attempt fun _ world =>
    if world.leads.any fun lead => lead.id = id then
      .ok ((), { world with leads := world.leads.filter fun lead => lead.id ≠ id })
    else .error .recordNotFound

/-- `audit.record`. -/
def record
    (actorUserId : UserId)
    (action : LeadAuditAction)
    (targetId : Nat) : DirectoryService Unit :=
  command fun _ world =>
    { world with auditLogs := ⟨actorUserId, action, targetId⟩ :: world.auditLogs }

end LeadTable

/-! ## Requests -/

/-- `LeadsService.submitSelf`, behind the route of a signed-in user. -/
def PublicLeadsController.submitSelf
    (userId : UserId)
    (dto : SelfSubmitLeadDto) : DirectoryService LeadRecord := do
  let lead ← LeadTable.create (dto.lead userId)
  LeadTable.record userId .leadsSelfSubmitted lead.id
  return lead.toLeadRecord

namespace AdminService

/-- Add a lead by hand, which is approved at once. -/
def createLead (adminUserId : UserId) (dto : CreateLeadDto) : DirectoryService Lead := do
  let lead ← LeadTable.create dto.lead
  LeadTable.record adminUserId .adminLeadCreated lead.id
  return lead

/-- Publish a self-submitted lead. -/
def approveLead (adminUserId : UserId) (leadId : Nat) : DirectoryService Lead := do
  let some existing ← LeadTable.findUnique leadId
    | throw (.notFound "Lead not found")
  if existing.approved then
    throw (.badRequest "This lead is already approved")
  let lead ← LeadTable.update leadId (.ok fun lead => { lead with approved := true })
  LeadTable.record adminUserId .adminLeadApproved leadId
  return lead

/-- Change the columns of a lead that a request names. -/
def updateLead
    (adminUserId : UserId)
    (leadId : Nat)
    (dto : UpdateLeadDto) : DirectoryService Lead := do
  let some _ ← LeadTable.findUnique leadId
    | throw (.notFound "Lead not found")
  let lead ← LeadTable.update leadId dto.rewrite
  LeadTable.record adminUserId .adminLeadUpdated leadId
  return lead

/-- Remove a lead. -/
def deleteLead (adminUserId : UserId) (leadId : Nat) : DirectoryService Unit := do
  let some _ ← LeadTable.findUnique leadId
    | throw (.notFound "Lead not found")
  LeadTable.delete leadId
  LeadTable.record adminUserId .adminLeadDeleted leadId

/-- The values that the filters of the administrators offer. -/
def getLeadFilters (store : LeadStore) (leads : List Lead) : LeadFilterOptions :=
  let companyTypes := CompanyType.collation.nullsLast.distinct (leads.map (·.companyType))
  let events := store.collation.distinct (leads.map (·.likelyToAttend))
  let realTypes := companyTypes.filterMap id
  let hasUnclassified := realTypes.length < companyTypes.length
  { companyTypes :=
      if hasUnclassified then realTypes.map .is ++ [.unclassified] else realTypes.map .is
    events }

end AdminService

/-- A request that may write the table. -/
inductive ModerationRequest
  | submitSelf (userId : UserId) (dto : SelfSubmitLeadDto)
  | createLead (adminUserId : UserId) (dto : CreateLeadDto)
  | approveLead (adminUserId : UserId) (leadId : Nat)
  | updateLead (adminUserId : UserId) (leadId : Nat) (dto : UpdateLeadDto)
  | deleteLead (adminUserId : UserId) (leadId : Nat)

/-- The code behind a request. -/
def ModerationRequest.handle : ModerationRequest → DirectoryService Unit
  | submitSelf userId dto => do
      let _ ← PublicLeadsController.submitSelf userId dto
  | createLead adminUserId dto => do
      let _ ← AdminService.createLead adminUserId dto
  | approveLead adminUserId leadId => do
      let _ ← AdminService.approveLead adminUserId leadId
  | updateLead adminUserId leadId dto => do
      let _ ← AdminService.updateLead adminUserId leadId dto
  | deleteLead adminUserId leadId => AdminService.deleteLead adminUserId leadId

end ConferenceContact
