import ConferenceContact.Foundation.Grouping
import ConferenceContact.Foundation.QueryStrings
import ConferenceContact.Model.Billing
import Mathlib.Data.List.Sort
import Mathlib.Data.Rat.Defs

/-!
# Cold outreach and reminders

`ProspectCampaignService` with what feeds it and what stops it: uploads, the webhook of
the email provider, the unsubscribe link and the invitation of a single prospect; and
`RenewalReminderService`.
-/

namespace ConferenceContact

open Process Service

/-- The slices `slice(i, i + size)` of a loop over `i += size`. -/
def slices (size : Nat) (items : List α) : List (List α) :=
  (List.range ((items.length + size - 1) / size)).map fun i =>
    (items.drop (i * size)).take size

namespace EmailService

/-- Enqueue the chunks of a batch; a chunk that the queue rejects or does not accept in
time is only logged. -/
def enqueueChunks : List (List EmailJob) → Service Unit
  | [] => return ()
  | chunk :: rest => do
      tryCatch
        (Process.command fun input world =>
          if input.queueAvailable then
            { world with outbox := chunk.reverse ++ world.outbox }
          else world)
        fun _ => pure ()
      enqueueChunks rest

/-- Enqueue many mails, five hundred at a time. -/
def enqueueBulk (jobs : List EmailJob) : Service Unit :=
  enqueueChunks (slices 500 jobs)

/-- Enqueue the cold invitation of one address. -/
def sendProspectInvite (recipient : String) : Service Unit :=
  enqueueBulk [.prospectColdInvite recipient]

/-- Enqueue the cold invitations of a batch. -/
def sendProspectInviteBulk (emails : List String) : Service Unit :=
  enqueueBulk (emails.map .prospectColdInvite)

end EmailService

/-- `emailSuppression.upsert`. -/
def suppress (email : String) : Service Unit :=
  command fun _ world =>
    if world.emailSuppressions.any fun suppression => suppression.email = email then world
    else { world with emailSuppressions := ⟨email⟩ :: world.emailSuppressions }

namespace ProspectCampaignService

variable (app : Deployment)

/-! ## Uploads -/

/-- What has become of the entries of an uploaded list. -/
structure UploadResult where
  queued : Nat
  alreadyQueued : Nat
  alreadyHasAccount : Nat
  unsubscribed : Nat
  invalid : Nat
  total : Nat
  deriving DecidableEq

/-- The addresses that are known already, as a loop over chunks collects them. -/
structure KnownAddresses where
  existingUsers : List String := []
  suppressed : List String := []
  alreadyQueued : List String := []

/-- Look the addresses of every chunk up. -/
def findKnown : List (List String) → KnownAddresses → Service KnownAddresses
  | [], known => return known
  | chunk :: rest, known => do
      let users ← query fun _ world => (world.users.map (·.email)).filter (· ∈ chunk)
      let suppressions ← query fun _ world =>
        (world.emailSuppressions.map (·.email)).filter (· ∈ chunk)
      let queued ← query fun _ world =>
        (world.prospectInviteQueue.map (·.email)).filter (· ∈ chunk)
      findKnown rest
        { existingUsers := known.existingUsers ++ users
          suppressed := known.suppressed ++ suppressions
          alreadyQueued := known.alreadyQueued ++ queued }

/-- `createMany` with `skipDuplicates`. -/
def createMany (uploadedByUserId : UserId) (emails : List String) : Service Unit :=
  attempt fun input world =>
    if world.users.any fun user => user.id = uploadedByUserId then
      .ok ((), emails.foldl
        (fun world email =>
          if world.prospectInviteQueue.any fun row => row.email = email then world
          else
            { world with
              prospectInviteQueue :=
                { id := world.nextId
                  email
                  uploadedByUserId := some uploadedByUserId
                  createdAt := input.now } :: world.prospectInviteQueue
              nextId := world.nextId + 1 })
        world)
    else .error .foreignKeyViolation

/-- Queue the addresses of a list that are new and may be written to. -/
def enqueueUploadedEmails
    (uploadedByUserId : UserId)
    (rawEmails : List String) : Service UploadResult := do
  let normalized := rawEmails.map fun raw => app.toLowerCase (jsTrim raw)
  let valid := (normalized.filter app.isEmail).eraseDups
  let invalid := (normalized.filter fun email => !app.isEmail email).length
  let known ← findKnown (slices 1000 valid) {}
  let toQueue := valid.filter fun email =>
    email ∉ known.existingUsers ∧ email ∉ known.suppressed ∧ email ∉ known.alreadyQueued
  if 0 < toQueue.length then
    createMany uploadedByUserId toQueue
  AuditService.record (some uploadedByUserId) .adminProspectCampaignUploaded
  return {
    queued := toQueue.length
    alreadyQueued := known.alreadyQueued.eraseDups.length
    alreadyHasAccount := known.existingUsers.eraseDups.length
    unsubscribed := known.suppressed.eraseDups.length
    invalid
    total := rawEmails.length }

/-! ## Settings -/

/-- The settings of the campaign, created with their defaults when missing. -/
def getOrCreateSettings : Service ProspectInviteCampaignSettings :=
  attempt fun _ world =>
    let settings := world.prospectInviteCampaignSettings.getD {}
    .ok (settings, { world with prospectInviteCampaignSettings := some settings })

/-- `UpdateCampaignSettingsDto`. -/
structure UpdateCampaignSettingsDto where
  dailyCap : Option Nat := none
  paused : Option Bool := none
  dailyCap_pos : ∀ cap, dailyCap = some cap → 1 ≤ cap ∧ cap ≤ 1000 := by simp

/-- Change the settings that the request names. -/
def updateSettings
    (adminUserId : UserId)
    (dto : UpdateCampaignSettingsDto) : Service ProspectInviteCampaignSettings := do
  let updated ← attempt fun _ world =>
    let settings := world.prospectInviteCampaignSettings.getD {}
    let settings : ProspectInviteCampaignSettings :=
      { dailyCap := dto.dailyCap.getD settings.dailyCap
        paused := dto.paused.getD settings.paused }
    .ok (settings, { world with prospectInviteCampaignSettings := some settings })
  AuditService.record (some adminUserId) .adminProspectCampaignSettingsUpdated
  return updated

/-! ## Statistics -/

/-- What the administrators' dashboard shows of the campaign. -/
structure CampaignStats where
  pending : Nat
  sent : Nat
  skippedExistingUser : Nat
  skippedUnsubscribed : Nat
  bounced : Nat
  complained : Nat
  total : Nat
  /-- The exact quotient, which the code rounds to a floating-point number. -/
  bounceComplaintRate : Rat
  dailyCap : Nat
  paused : Bool
  deriving DecidableEq

/-- `groupBy({ by: ['status'], _count: true })`. -/
def groupByStatus (rows : List ProspectInviteQueue) : List (ProspectInviteQueueStatus × Nat) :=
  Grouping.group 0 (·.status) (fun _ count => count + 1) rows []

/-- The rows of the queue counted by status, and the settings. -/
def getStats : Service CampaignStats := do
  let byStatus ← query fun _ world => groupByStatus world.prospectInviteQueue
  let settings ← getOrCreateSettings
  let count (status : ProspectInviteQueueStatus) := (byStatus.lookup status).getD 0
  let sent := count .sent
  let bounced := count .bounced
  let complained := count .complained
  let attempted := sent + bounced + complained
  return {
    pending := count .pending
    sent
    skippedExistingUser := count .skippedExistingUser
    skippedUnsubscribed := count .skippedUnsubscribed
    bounced
    complained
    total := (byStatus.map Prod.snd).sum
    bounceComplaintRate := if 0 < attempted then (bounced + complained : Nat) / attempted else 0
    dailyCap := settings.dailyCap
    paused := settings.paused }

/-! ## The daily drip -/

/-- What a drip has done. -/
structure DripResult where
  sent : Nat := 0
  skippedExisting : Nat := 0
  skippedUnsubscribed : Nat := 0
  batchSize : Nat := 0
  deriving DecidableEq

/-- One row is returned before another. -/
def precedes (tiedOrder : List Nat) (left right : ProspectInviteQueue) : Prop :=
  left.createdAt < right.createdAt ∨
    left.createdAt = right.createdAt ∧ tiedOrder.idxOf left.id ≤ tiedOrder.idxOf right.id

instance (tiedOrder : List Nat) : DecidableRel (precedes tiedOrder) :=
  fun _ _ => inferInstanceAs (Decidable (_ ∨ _))

/-- The pending rows, the oldest first. -/
def pendingRows (tiedOrder : List Nat) (world : World) : List ProspectInviteQueue :=
  (world.prospectInviteQueue.filter fun row => row.status = .pending).insertionSort
    (precedes tiedOrder)

/-- `update({ where: { id }, data: { status } })`. -/
def updateStatus (id : Nat) (status : ProspectInviteQueueStatus) : Service Unit :=
  attempt fun _ world =>
    if world.prospectInviteQueue.any fun row => row.id = id then
      .ok ((),
        { world with
          prospectInviteQueue := Table.updateWhere (fun row => row.id = id)
            (fun row => { row with status }) world.prospectInviteQueue })
    else .error .recordNotFound

/-- What a drip has decided of its candidates. -/
structure Decisions where
  toSend : List String := []
  skippedExisting : Nat := 0
  skippedUnsubscribed : Nat := 0
  deriving DecidableEq

/-- The loop over the candidates. -/
def decideCandidates
    (existing suppressed : List String) :
    List ProspectInviteQueue → Decisions → Service Decisions
  | [], decisions => return decisions
  | candidate :: rest, decisions => do
      if candidate.email ∈ existing then
        updateStatus candidate.id .skippedExistingUser
        decideCandidates existing suppressed rest
          { decisions with skippedExisting := decisions.skippedExisting + 1 }
      else if candidate.email ∈ suppressed then
        updateStatus candidate.id .skippedUnsubscribed
        decideCandidates existing suppressed rest
          { decisions with skippedUnsubscribed := decisions.skippedUnsubscribed + 1 }
      else
        decideCandidates existing suppressed rest
          { decisions with toSend := decisions.toSend ++ [candidate.email] }

/-- `updateMany({ where: { email: { in: emails } }, data: { status: 'SENT', sentAt } })`. -/
def markSent (emails : List String) : Service Unit :=
  command fun input world =>
    { world with
      prospectInviteQueue := Table.updateWhere (fun row => row.email ∈ emails)
        (fun row => { row with status := .sent, sentAt := some input.now })
        world.prospectInviteQueue }

/-- What a drip does with a batch. -/
def processBatch (candidates : List ProspectInviteQueue) : Service DripResult := do
  let emails := candidates.map (·.email)
  let existingUsers ← query fun _ world => (world.users.map (·.email)).filter (· ∈ emails)
  let suppressions ← query fun _ world =>
    (world.emailSuppressions.map (·.email)).filter (· ∈ emails)
  let decisions ← decideCandidates existingUsers suppressions candidates {}
  if 0 < decisions.toSend.length then
    EmailService.sendProspectInviteBulk decisions.toSend
    markSent decisions.toSend
  AuditService.record none .adminProspectCampaignDailyDrip
  return {
    sent := decisions.toSend.length
    skippedExisting := decisions.skippedExisting
    skippedUnsubscribed := decisions.skippedUnsubscribed
    batchSize := candidates.length }

/-- Write to the oldest waiting addresses, up to the daily cap, unless the campaign is
paused. -/
def runDailyDrip : Service DripResult := do
  let settings ← getOrCreateSettings
  if settings.paused then
    return {}
  else
    let candidates ← query fun input world =>
      (pendingRows input.tiedOrder world).take settings.dailyCap
    if candidates.length = 0 then
      return {}
    else
      processBatch candidates

/-! ## Bounces and complaints -/

/-- Suppress an address, and put down why where an invitation was sent. -/
def suppressAndUpdateStatus
    (rawEmail : String)
    (status : ProspectInviteQueueStatus) : Service Unit := do
  let email := app.toLowerCase (jsTrim rawEmail)
  suppress email
  command fun _ world =>
    { world with
      prospectInviteQueue := Table.updateWhere
        (fun row => row.email = email ∧ row.status = .sent)
        (fun row => { row with status }) world.prospectInviteQueue }

/-- What a report of a bounce does. -/
def markBounced (email : String) : Service Unit :=
  suppressAndUpdateStatus app email .bounced

/-- What a report of a complaint does. -/
def markComplained (email : String) : Service Unit :=
  suppressAndUpdateStatus app email .complained

end ProspectCampaignService

/-! ## The webhook of the email provider -/

/-- The `type` of an event, as far as it matters. -/
inductive ResendEventType
  | bounced
  | complained
  | other
  deriving DecidableEq

/-- A verified event: its type and the list `data.to`. -/
structure ResendWebhookEvent where
  type : ResendEventType
  recipients : List String := []

/-- `ResendWebhookController.handleResendWebhook`, after the signature of the event has
been verified. -/
def ResendWebhookController.handleResendWebhook
    (app : Deployment)
    (event : ResendWebhookEvent) : Service Unit :=
  match event.recipients.head?.filter (· ≠ "") with
  | some recipient =>
      match event.type with
      | .bounced => ProspectCampaignService.markBounced app recipient
      | .complained => ProspectCampaignService.markComplained app recipient
      | .other => pure ()
  | none => pure ()

/-! ## Unsubscribing and single invitations -/

/-- The address and the token of an unsubscribe link. -/
structure UnsubscribeDto where
  email : String
  token : String
  deriving DecidableEq

/-- The decorators of `UnsubscribeDto`. -/
def UnsubscribeDto.isValid (app : Deployment) (dto : UnsubscribeDto) : Bool :=
  app.isEmail dto.email && app.maxLength dto.email 200 && app.maxLength dto.token 200

/-- The signature of an address. -/
def signUnsubscribeToken (app : Deployment) (email : String) : String :=
  app.unsubscribeHmac (app.toLowerCase (jsTrim email))

/-- Suppress an address for the token that its link carries. -/
def UnsubscribeController.unsubscribe (app : Deployment) (dto : UnsubscribeDto) : Service Unit := do
  let email := app.toLowerCase (jsTrim dto.email)
  if signUnsubscribeToken app email ≠ dto.token then
    throw (.badRequest "Invalid or expired unsubscribe link.")
  suppress email

/-- `POST /unsubscribe`, behind the validation pipe. -/
def UnsubscribeController.post (app : Deployment) (dto : UnsubscribeDto) : Service Unit :=
  if dto.isValid app then unsubscribe app dto
  else throw (.badRequest "Bad Request Exception")

/-- A cold invite, as far as its texts are not those of the template. -/
structure ColdInviteMail where
  recipient : String
  unsubscribeLink : String

/-- The mail that `BulkEmailProcessor` sends for a job. -/
def BulkEmailProcessor.mail (app : Deployment) : EmailJob → Option ColdInviteMail
  | .prospectColdInvite recipient =>
      some {
        recipient
        unsubscribeLink :=
          app.frontendUrl ++ "/unsubscribe?email=" ++ QueryStrings.encodeURIComponent recipient ++
            "&token=" ++
            QueryStrings.encodeURIComponent (signUnsubscribeToken app recipient) }
  | _ => none

/-- Invite one address by hand. -/
def AdminService.inviteProspect
    (app : Deployment)
    (adminUserId : UserId)
    (email : String) : Service Unit := do
  let email := app.toLowerCase (jsTrim email)
  let existingUser ← query fun _ world => world.users.find? fun user => user.email = email
  let suppressed ← query fun _ world =>
    world.emailSuppressions.find? fun suppression => suppression.email = email
  if existingUser.isSome then
    throw (.badRequest
      ("This email already has an account — pitch them directly from the Prospects list " ++
        "instead."))
  if suppressed.isSome then
    throw (.badRequest
      "This email unsubscribed from prospect invites and cannot be re-invited.")
  EmailService.sendProspectInvite email
  AuditService.record (some adminUserId) .adminProspectInvited

/-! ## Renewal reminders -/

namespace RenewalReminderService

/-- A renewal is reminded of no fewer days ahead than these. -/
def reminderWindowStartDays : Nat := 6

/-- A renewal is reminded of no more days ahead than these. -/
def reminderWindowEndDays : Nat := 8

/-- A subscription with what its reminder says. -/
structure Reminder where
  subscription : SubscriptionRow
  recipient : String
  productLabel : String
  amountCents : Nat
  deriving DecidableEq

/-- A subscription that renews in the window. -/
def renewsSoon (now : Time) (row : SubscriptionRow) : Bool :=
  (row.status = .active || row.status = .trialing) && !row.cancelAtPeriodEnd &&
    decide (now + reminderWindowStartDays * 86400000 ≤ row.currentPeriodEnd) &&
    decide (row.currentPeriodEnd ≤ now + reminderWindowEndDays * 86400000)

/-- The name and the price of what a subscription of a product is to. -/
def productLabel (world : World) (productId : PlanId) : Product → Option (String × Nat)
  | .directory =>
      (world.plans.find? fun plan => plan.id = productId).map fun plan =>
        (plan.name, plan.amountCents)
  | .leadFinder =>
      (world.leadFinderTiers.find? fun tier => tier.id = productId).map fun tier =>
        ("Lead Finder " ++ tier.name, tier.amountCents)

/-- The subscriptions of a product that renew in the window, each joined with its user and
with its plan or tier, to which its foreign keys refer. -/
def renewals (now : Time) (product : Product) (world : World) : List Reminder :=
  ((world.rows product).filter (renewsSoon now)).filterMap fun row => do
    let user ← world.users.find? fun user => user.id = row.userId
    let (productLabel, amountCents) ← productLabel world row.productId product
    return { subscription := row, recipient := user.email, productLabel, amountCents }

/-- `findMany` of the renewals of a product. -/
def findRenewals (now : Time) (product : Product) : Service (List Reminder) :=
  query fun _ world => renewals now product world

/-- Remind of one renewal, unless that was done; how many reminders that makes. -/
def remind (product : Product) (reminder : Reminder) : Service Nat := do
  let row := reminder.subscription
  if row.renewalReminderSentForPeriodEnd = some row.currentPeriodEnd then
    return 0
  else
    tryCatch
      (do
        EmailService.enqueue
          (.renewalReminder reminder.recipient reminder.productLabel row.currentPeriodEnd
            reminder.amountCents)
        SubscriptionTable.update product row.id fun _ stored =>
          { stored with renewalReminderSentForPeriodEnd := some row.currentPeriodEnd }
        return 1)
      fun _ => pure 0

/-- The loop over the subscriptions of a product. -/
def remindAll (product : Product) : List Reminder → Nat → Service Nat
  | [], sent => return sent
  | reminder :: rest, sent => do
      let made ← remind product reminder
      remindAll product rest (sent + made)

/-- Remind of the renewals of both products; how many reminders that makes. -/
def sendDueReminders : Service Nat := do
  let now ← dateNow
  let directorySubs ← findRenewals now .directory
  let sent ← remindAll .directory directorySubs 0
  let leadFinderSubs ← findRenewals now .leadFinder
  remindAll .leadFinder leadFinderSubs sent

end RenewalReminderService
end ConferenceContact
