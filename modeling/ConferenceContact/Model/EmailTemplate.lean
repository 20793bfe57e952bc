import ConferenceContact.Model.Campaign
import ConferenceContact.Model.Mail

/-!
# The template of the cold invites

The requests by which administrators read and edit the copy of the cold invites, and
`BulkEmailProcessor`, which makes the mails of it.
-/

namespace ConferenceContact

open Process

/-! ## The copy -/

/-- The subject of an invitation while none is set. -/
def defaultSubject : String := "You've been invited to check out conference.contact"

/-- The heading of an invitation while none is set. -/
def defaultHeading : String := "Thought this might be useful"

/-- The text of an invitation while none is set. -/
def defaultBody : String :=
  "A hand-verified directory of B2B conference contacts, with an AI tool that finds and " ++
    "enriches new leads live — take a look and see what’s inside."

/-- The label of the button of an invitation while none is set. -/
def defaultCtaLabel : String := "Take a look →"

/-- The footnote of an invitation while none is set. -/
def defaultFootnote : String := "No obligation — you can create a free account just to browse."

/-- The columns of the row of the campaign's settings that hold its copy; null stands for
the default. -/
structure EmailColumns where
  emailSubject : Option String := none
  emailHeading : Option String := none
  emailBody : Option String := none
  emailCtaLabel : Option String := none
  emailFootnote : Option String := none
  emailMailingAddress : Option String := none
  deriving DecidableEq

/-- The copy of the cold invitations. -/
structure EmailTemplate where
  subject : String
  heading : String
  body : String
  ctaLabel : String
  footnote : String
  mailingAddress : String
  deriving DecidableEq

/-- `length`, in UTF-16 code units. -/
def utf16Length (text : String) : Nat :=
  (text.toList.map fun character => if character.toNat < 0x10000 then 1 else 2).sum

/-- The environment variables that the mails of the campaign are made with. -/
structure MailConfig where
  resendFromEmail : String
  supportEmail : String
  /-- `COMPANY_MAILING_ADDRESS`. -/
  defaultMailingAddress : String
  ten_le_defaultMailingAddress : 10 ≤ utf16Length defaultMailingAddress := by decide

/-! ## Mails -/

/-- What is passed to Resend for a cold invite. -/
structure ColdMail where
  sender : String
  recipient : String
  subject : String
  html : String
  replyTo : String
  /-- The header `List-Unsubscribe`. -/
  listUnsubscribe : String
  /-- The header `List-Unsubscribe-Post`. -/
  listUnsubscribePost : String
  deriving DecidableEq

/-- The settings row, if there is one, the mails that Resend has accepted, newest first, and
the administrators of the audit rows `admin.prospect_campaign_template_updated`. -/
structure CampaignDesk where
  settings : Option EmailColumns := none
  sent : List ColdMail := []
  auditLogs : List UserId := []
  deriving DecidableEq

/-- A method that works on the campaign and its mails. -/
abbrev CampaignDeskService := Process Input ApiError CampaignDesk

namespace CampaignDeskService

/-- `prospectInviteCampaignSettings.upsert` that changes nothing. -/
def getOrCreateSettings : CampaignDeskService EmailColumns :=
  attempt fun _ desk =>
    .ok (desk.settings.getD {}, { desk with settings := some (desk.settings.getD {}) })

/-- `prospectInviteCampaignSettings.upsert`. -/
def upsertSettings (data : EmailColumns → EmailColumns) : CampaignDeskService Unit :=
  command fun _ desk => { desk with settings := some (data (desk.settings.getD {})) }

/-- `audit.record` of a change of the template. -/
def recordUpdate (adminUserId : UserId) : CampaignDeskService Unit :=
  command fun _ desk => { desk with auditLogs := adminUserId :: desk.auditLogs }

end CampaignDeskService

namespace BulkEmailProcessor

variable (app : Deployment) (config : MailConfig)

/-- `/invited`, with the address of the recipient. -/
def link (recipient : String) : String :=
  app.frontendUrl ++ "/invited?email=" ++ QueryStrings.encodeURIComponent recipient

/-- The link with which a recipient asks for no more mails. -/
def unsubscribeLink (recipient : String) : String :=
  app.frontendUrl ++ "/unsubscribe?email=" ++ QueryStrings.encodeURIComponent recipient ++
    "&token=" ++ QueryStrings.encodeURIComponent (signUnsubscribeToken app recipient)

/-- The opt-out link and the physical address in the body of a mail. -/
def complianceFooter (unsubscribeLink mailingAddress : String) : String :=
  "<p style=\"text-align:center;margin-top:12px;font-size:12px;color:#9395a6;\">" ++
    "\n               <a href=\"" ++ unsubscribeLink ++
    "\" style=\"color:#9395a6;text-decoration:underline;\">Unsubscribe</a> from emails like " ++
    "this." ++
    "\n             </p>" ++
    "\n             <p style=\"text-align:center;margin-top:8px;font-size:11px;color:#b3b5c2;\">" ++
    escapeHtml mailingAddress ++ "</p>"

/-- `resend.emails.send`. -/
def send (recipient subject html replyTo unsubscribeLink : String) : CampaignDeskService Unit :=
  command fun _ desk =>
    { desk with
      sent :=
        { sender := config.resendFromEmail
          recipient
          subject
          html
          replyTo
          listUnsubscribe := "<" ++ unsubscribeLink ++ ">"
          listUnsubscribePost := "List-Unsubscribe=One-Click" } :: desk.sent }

/-- Send an invitation in the copy that is set at this moment. -/
def process : EmailJob → CampaignDeskService Unit
  | .prospectColdInvite recipient => do
      let settings ← query fun _ desk => desk.settings
      send config recipient
        (sanitizeForSubject ((settings.bind (·.emailSubject)).getD defaultSubject))
        (renderEmail
          (heading (escapeHtml ((settings.bind (·.emailHeading)).getD defaultHeading)) ++
            paragraph (escapeHtml ((settings.bind (·.emailBody)).getD defaultBody)) ++
            ctaButton (link app recipient)
              (escapeHtml ((settings.bind (·.emailCtaLabel)).getD defaultCtaLabel)) ++
            footnote (escapeHtml ((settings.bind (·.emailFootnote)).getD defaultFootnote)))
          (some (complianceFooter (unsubscribeLink app recipient)
            ((settings.bind (·.emailMailingAddress)).getD config.defaultMailingAddress))))
        config.supportEmail
        (unsubscribeLink app recipient)
  | _ => return ()

end BulkEmailProcessor

/-! ## The editor -/

/-- `UpdateEmailTemplateDto`: a field that is left out is `none`, one that is null `some none`. -/
structure UpdateEmailTemplateDto where
  subject : Option (Option String) := none
  heading : Option (Option String) := none
  body : Option (Option String) := none
  ctaLabel : Option (Option String) := none
  footnote : Option (Option String) := none
  mailingAddress : Option (Option String) := none
  deriving DecidableEq

namespace UpdateEmailTemplateDto

/-- `@IsOptional()` and `@MaxLength(limit)`. -/
def fits (app : Deployment) (limit : Nat) (field : Option (Option String)) : Bool :=
  field.join.all fun text => app.maxLength text limit

/-- The decorators of the body. -/
def isValid (app : Deployment) (dto : UpdateEmailTemplateDto) : Bool :=
  fits app 200 dto.subject && fits app 200 dto.heading && fits app 2000 dto.body &&
    fits app 60 dto.ctaLabel && fits app 300 dto.footnote && fits app 300 dto.mailingAddress

/-- `value || null`. -/
def orNull (value : Option String) : Option String := value.filter (· ≠ "")

/-- What the data of an update makes of the columns. -/
def data (dto : UpdateEmailTemplateDto) (columns : EmailColumns) : EmailColumns where
  emailSubject := (dto.subject.map orNull).getD columns.emailSubject
  emailHeading := (dto.heading.map orNull).getD columns.emailHeading
  emailBody := (dto.body.map orNull).getD columns.emailBody
  emailCtaLabel := (dto.ctaLabel.map orNull).getD columns.emailCtaLabel
  emailFootnote := (dto.footnote.map orNull).getD columns.emailFootnote
  emailMailingAddress := (dto.mailingAddress.map orNull).getD columns.emailMailingAddress

end UpdateEmailTemplateDto

namespace ProspectCampaignService

open CampaignDeskService

variable (config : MailConfig)

/-- The copy that an administrator sees. -/
def getEmailTemplate : CampaignDeskService EmailTemplate := do
  let settings ← CampaignDeskService.getOrCreateSettings
  return {
    subject := settings.emailSubject.getD defaultSubject
    heading := settings.emailHeading.getD defaultHeading
    body := settings.emailBody.getD defaultBody
    ctaLabel := settings.emailCtaLabel.getD defaultCtaLabel
    footnote := settings.emailFootnote.getD defaultFootnote
    mailingAddress := settings.emailMailingAddress.getD config.defaultMailingAddress }

/-- Refuse an address that is too short to be one; `trim` of null throws. -/
def checkMailingAddress : Option (Option String) → CampaignDeskService Unit
  | none => return ()
  | some none => throw .typeError
  | some (some address) =>
      if address ≠ "" ∧ utf16Length (jsTrim address) < 10 then
        throw (.badRequest
          ("Mailing address looks too short to be real — leave it blank to use the default, " ++
            "or enter the full address."))
      else return ()

/-- Change the parts of the copy that a request names. -/
def updateEmailTemplate
    (adminUserId : UserId)
    (dto : UpdateEmailTemplateDto) : CampaignDeskService EmailTemplate := do
  checkMailingAddress dto.mailingAddress
  upsertSettings dto.data
  recordUpdate adminUserId
  getEmailTemplate config

end ProspectCampaignService

/-- The requests and jobs that read or change the template. -/
inductive TemplateRequest
  | getCampaignEmailTemplate
  | updateCampaignEmailTemplate (adminUserId : UserId) (dto : UpdateEmailTemplateDto)
  | process (job : EmailJob)

/-- The code behind a request, the validation pipe included. -/
def TemplateRequest.handle
    (app : Deployment)
    (config : MailConfig) : TemplateRequest → CampaignDeskService Unit
  | getCampaignEmailTemplate => do
      let _ ← ProspectCampaignService.getEmailTemplate config
  | updateCampaignEmailTemplate adminUserId dto =>
      if dto.isValid app then do
        let _ ← ProspectCampaignService.updateEmailTemplate config adminUserId dto
      else throw (.badRequest "Bad Request Exception")
  | process job => BulkEmailProcessor.process app config job

end ConferenceContact
