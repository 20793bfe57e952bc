import ConferenceContact.Foundation.Parts
import ConferenceContact.Model.Auth
import Mathlib.Data.List.Sort
import Mathlib.Logic.Function.Basic

/-!
# Invitations and consents

`InvitesService`, and the registration in full: its transaction also records what the new
account has consented to, and accepts the invitations that were sent to its address.
-/

namespace ConferenceContact

open Process

/-- Whether an invitation has been accepted. -/
inductive InviteStatus
  | pending
  | accepted
  deriving DecidableEq

/-- A colleague invited by a user to an account of their own. -/
structure Invite where
  id : Nat
  inviterId : UserId
  email : String
  status : InviteStatus := .pending
  createdAt : Time
  acceptedAt : Option Time := none
  deriving DecidableEq

/-- What a user has agreed to. -/
inductive ConsentDocumentType
  | terms
  | privacy
  deriving DecidableEq

/-- `LEGAL_DOCUMENT_VERSIONS`. -/
def legalDocumentVersion : ConsentDocumentType → String
  | .terms => "2026-08-01"
  | .privacy => "2026-08-01"

/-- A row of `ConsentRecord`: a document a user has agreed to, and its version. -/
structure ConsentRecord where
  userId : UserId
  documentType : ConsentDocumentType
  version : String
  ipAddress : Option String
  acceptedAt : Time
  deriving DecidableEq

/-- A job `invite` of the email queue. -/
structure InviteEmail where
  recipient : String
  inviterName : String
  deriving DecidableEq

/-- The world with the column `fullName` of its accounts, the invitations, the consents and
the emails that tell of invitations. -/
structure InviteBook where
  world : World
  fullName : UserId → String
  invites : List Invite := []
  consentRecords : List ConsentRecord := []
  outbox : List InviteEmail := []

/-- What the other services see of the book. -/
def InviteBook.worldPart : Part InviteBook World where
  get := world
  set world book := { book with world }
  set_get _ := rfl
  get_set _ _ := rfl

@[simp] theorem InviteBook.worldPart_get (book : InviteBook) :
    worldPart.get book = book.world := rfl

@[simp] theorem InviteBook.worldPart_set (world : World) (book : InviteBook) :
    worldPart.set world book = { book with world } := rfl

/-- A method that reads or writes invitations. -/
abbrev InviteService := Process Input ApiError InviteBook

/-- A call of one of the other services. -/
abbrev InviteService.onWorld (service : Service α) : InviteService α :=
  service.within InviteBook.worldPart

open InviteService

variable (app : Deployment)

/-! ## Invitations -/

namespace InvitesService

/-- The row of the inviter with its name. -/
def findInviter (inviterId : UserId) : InviteService (Option (User × String)) :=
  query fun _ book =>
    (book.world.users.find? fun user => user.id = inviterId).map fun user =>
      (user, book.fullName user.id)

/-- `invite.findFirst`, of which only the existence matters. -/
def hasInvited (inviterId : UserId) (email : String) : InviteService Bool :=
  query fun _ book =>
    book.invites.any fun invite => invite.inviterId = inviterId ∧ invite.email = email

/-- `invite.create`. -/
def create (inviterId : UserId) (email : String) : InviteService Unit :=
  attempt fun input book =>
    if book.world.users.any fun user => user.id = inviterId then
      .ok ((),
        { book with
          world := { book.world with nextId := book.world.nextId + 1 }
          invites :=
            { id := book.world.nextId, inviterId, email, createdAt := input.now } ::
              book.invites })
    else .error .foreignKeyViolation

/-- Enqueue the email; a queue that rejects it or does not accept it in time is only
logged. -/
def sendInviteEmail (recipient inviterName : String) : InviteService Unit :=
  tryCatch
    (command fun input book =>
      if input.queueAvailable then
        { book with outbox := ⟨recipient, inviterName⟩ :: book.outbox }
      else book)
    fun _ => pure ()

/-- Invite an address that has no account, once in the table and as often by email as
asked. -/
def createInvite (inviterId : UserId) (rawEmail : String) : InviteService Unit := do
  let email := UsersService.normalizeEmail app rawEmail
  let some (inviter, fullName) ← findInviter inviterId
    | throw (.notFound "Inviter not found")
  if email = inviter.email then
    throw (.badRequest "You can't invite yourself.")
  let existingUser ← onWorld (UsersService.findByEmail app email)
  if existingUser.isSome then
    throw (.badRequest "This person already has an account.")
  let existingInvite ← hasInvited inviterId email
  if !existingInvite then
    create inviterId email
  sendInviteEmail email fullName

/-- The columns that an inviter is shown. -/
structure InviteSummary where
  id : Nat
  email : String
  status : InviteStatus
  createdAt : Time
  acceptedAt : Option Time
  deriving DecidableEq

/-- The columns of an invitation that its inviter sees. -/
def select (invite : Invite) : InviteSummary where
  id := invite.id
  email := invite.email
  status := invite.status
  createdAt := invite.createdAt
  acceptedAt := invite.acceptedAt

/-- `orderBy: { createdAt: 'desc' }`. -/
def precedes (tiedOrder : List Nat) (left right : Invite) : Prop :=
  right.createdAt < left.createdAt ∨
    left.createdAt = right.createdAt ∧ tiedOrder.idxOf left.id ≤ tiedOrder.idxOf right.id

instance (tiedOrder : List Nat) : DecidableRel (precedes tiedOrder) :=
  fun _ _ => inferInstanceAs (Decidable (_ ∨ _))

/-- The invitations of a user, the newest first. -/
def listInvites (inviterId : UserId) : InviteService (List InviteSummary) :=
  query fun input book =>
    ((book.invites.filter fun invite => invite.inviterId = inviterId).insertionSort
      (precedes input.tiedOrder)).map select

end InvitesService

/-- `user.update` with the `fullName` of an `UpdateProfileDto`, if it has one. -/
def UsersService.updateProfile (id : UserId) (fullName : Option String) : InviteService Unit :=
  attempt fun _ book =>
    if book.world.users.any fun user => user.id = id then
      .ok ((),
        { book with
          fullName :=
            match fullName with
            | some fullName => Function.update book.fullName id fullName
            | none => book.fullName })
    else .error .recordNotFound

/-! ## Registration -/

/-- A `RegisterDto` with the name of the account. -/
structure RegisterForm extends RegisterDto where
  fullName : String

namespace AuthService

/-- What a new account consents to. -/
def consents (userId : UserId) (requestMeta : RequestMeta) (now : Time) : List ConsentRecord :=
  [.terms, .privacy].map fun documentType =>
    { userId
      documentType
      version := legalDocumentVersion documentType
      ipAddress := requestMeta.ipAddress
      acceptedAt := now }

/-- The transaction of a registration with all that it writes. -/
def createAccountFrom
    (form : RegisterForm)
    (normalizedEmail passwordHash : String)
    (requestMeta : RequestMeta) : InviteService User :=
  attempt fun input book =>
    match (createAccount normalizedEmail passwordHash).run input book.world with
    | (.error error, _) => .error error
    | (.ok created, world) =>
        .ok (created,
          { book with
            world
            fullName := Function.update book.fullName created.id form.fullName
            consentRecords := consents created.id requestMeta input.now ++ book.consentRecords
            invites := Table.updateWhere
              (fun invite => invite.email = created.email ∧ invite.status = .pending)
              (fun invite => { invite with status := .accepted, acceptedAt := some input.now })
              book.invites })

/-- Create an account with its consents, and accept the invitations to its address. -/
def registerFrom (form : RegisterForm) (requestMeta : RequestMeta) : InviteService Unit := do
  let existing ← onWorld (UsersService.findByEmail app form.email)
  if existing.isSome then
    throw (.conflict "An account with this email already exists")
  let passwordHash := app.argon2Hash form.password
  let user ← createAccountFrom form (UsersService.normalizeEmail app form.email) passwordHash
    requestMeta
  onWorld (AuditService.record (some user.id) .authRegister)

end AuthService

end ConferenceContact
