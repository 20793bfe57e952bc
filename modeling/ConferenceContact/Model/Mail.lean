import ConferenceContact.Foundation.QueryStrings
import ConferenceContact.Foundation.Substitution
import ConferenceContact.Model.Sessions

/-!
# Mails

`email-template.util` and `EmailProcessor`, which makes a mail of every job of the email
queue.
-/

namespace ConferenceContact

/-! ## Templates -/

/-- The characters `[\x00-\x1f\x7f]`. -/
def isControl (character : Char) : Bool :=
  character.toNat ≤ 0x1F || character.toNat = 0x7F

/-- A text without the characters that could end a header. -/
def sanitizeForSubject (value : String) : String :=
  jsTrim (String.ofList
    (value.toList.map fun character => if isControl character then ' ' else character))

/-- `value.replace(/c/g, replacement)`. -/
def replaceAll (character : Char) (replacement value : String) : String :=
  String.ofList (Substitution.replaceAll character replacement.toList value.toList)

/-- A text as HTML shows it. -/
def escapeHtml (value : String) : String :=
  replaceAll '\'' "&#39;" <|
    replaceAll '"' "&quot;" <|
      replaceAll '>' "&gt;" <|
        replaceAll '<' "&lt;" <|
          replaceAll '&' "&amp;" value

/-- The icon at the head of every mail. -/
def logoIconUrl : String := "https://www.conference.contact/icons/icon-64.png"

/-- A mail around its body, with the footer that a cold mail must have. -/
def renderEmail (body : String) (complianceFooter : Option String := none) : String :=
  "<div style=\"background-color:#eeeef0;padding:40px 20px;font-family:-apple-system," ++
    "BlinkMacSystemFont,'Segoe UI',Roboto,Helvetica,Arial,sans-serif;\">" ++
    "\n    <div style=\"max-width:480px;margin:0 auto;\">" ++
    "\n      <table role=\"presentation\" style=\"margin:0 auto 28px;\" cellpadding=\"0\" " ++
    "cellspacing=\"0\">" ++
    "\n        <tr>" ++
    "\n          <td style=\"width:28px;height:28px;vertical-align:middle;\">" ++
    "\n            <img src=\"" ++ logoIconUrl ++ "\" width=\"28\" height=\"28\" " ++
    "alt=\"conference.contact\" style=\"display:block;border-radius:7px;\" />" ++
    "\n          </td>" ++
    "\n          <td style=\"padding-left:9px;font-size:17px;font-weight:800;color:#12152b;\">" ++
    "conference<span style=\"color:#a9c022;\">.</span>contact</td>" ++
    "\n        </tr>" ++
    "\n      </table>" ++
    "\n      <div style=\"background-color:#ffffff;border:1px solid #e2e2e7;" ++
    "border-radius:16px;padding:40px 32px;text-align:center;\">" ++
    "\n        " ++ body ++
    "\n      </div>" ++
    "\n      <p style=\"text-align:center;margin-top:24px;font-size:12px;color:#9395a6;\">" ++
    "conference.contact — the verified conference contact directory</p>" ++
    "\n      " ++ complianceFooter.getD "" ++
    "\n    </div>" ++
    "\n  </div>"

/-- The heading of a mail. -/
def heading (text : String) : String :=
  "<h1 style=\"margin:0;font-size:21px;font-weight:800;color:#12152b;line-height:1.35;\">" ++
    text ++ "</h1>"

/-- A paragraph of a mail. -/
def paragraph (text : String) : String :=
  "<p style=\"margin:16px 0 0;font-size:15px;color:#5b5f73;line-height:1.6;\">" ++ text ++ "</p>"

/-- The small print of a mail. -/
def footnote (text : String) : String :=
  "<p style=\"margin:22px 0 0;font-size:13px;color:#9395a6;\">" ++ text ++ "</p>"

/-- The button of a mail. -/
def ctaButton (href label : String) : String :=
  "<a href=\"" ++ href ++ "\" style=\"display:inline-block;margin-top:28px;" ++
    "background-color:#c6e02e;color:#0b1454;font-weight:700;font-size:15px;" ++
    "text-decoration:none;padding:14px 34px;border-radius:999px;\">" ++ label ++ "</a>"

/-! ## Jobs and mails -/

/-- The jobs of the email queue, with their data. -/
inductive MailJob
  | welcome (recipient fullName : String)
  | verification (recipient token : String)
  | passwordReset (recipient token : String)
  | deviceCode (recipient code : String)
  | contactForm (name fromEmail reason message : String)
  | contactReply (recipient name originalMessage replyMessage : String)
  | invite (recipient inviterName : String)
  | adminAccessInvite (recipient grantsDirectoryAccess grantsLeadFinderAccess : String)
  | prospectPitchIntro (recipient fullName : String)
  | prospectPitchValue (recipient fullName : String)
  | prospectPitchUrgency (recipient fullName : String)
  | subscriptionConfirmed (recipient productLabel : String) (amountCents : Nat) (renewsAt : String)
  | renewalReminder (recipient productLabel renewalDate : String) (amountCents : Nat)
  | paymentFailed (recipient productLabel : String) (gracePeriodDays : Nat)
  | cancellationScheduled (recipient productLabel accessUntil : String)

/-- What is passed to Resend. -/
structure ResendMail where
  sender : String
  recipient : String
  subject : String
  html : String
  replyTo : Option String
  deriving DecidableEq

/-- `CONTACT_REASON_LABELS`. -/
def contactReasonLabels : List (String × String) :=
  [("BILLING", "Billing question"),
    ("ACCOUNT_ISSUE", "Account issue"),
    ("REMOVE_RECORD", "Remove my directory record"),
    ("OTHER", "Other")]

/-- What every object literal inherits, so that a lookup by such a name finds no text. -/
def inheritedNames : List String :=
  ["constructor", "__defineGetter__", "__defineSetter__", "hasOwnProperty",
    "__lookupGetter__", "__lookupSetter__", "isPrototypeOf", "propertyIsEnumerable",
    "toString", "valueOf", "__proto__", "toLocaleString"]

/-- `CONTACT_REASON_LABELS[reason] ?? reason`, none where that is not a text. -/
def reasonLabel (reason : String) : Option String :=
  match contactReasonLabels.lookup reason with
  | some label => some label
  | none => if reason ∈ inheritedNames then none else some reason

/-- `fullName.trim().split(/\s+/)[0] || 'there'`. -/
def firstName (fullName : String) : String :=
  let first := (jsTrim fullName).toList.takeWhile fun character => !isJsWhitespace character
  if first = [] then "there" else String.ofList first

/-- The dollars and cents of `(cents / 100).toFixed(2)`, the cents only if there are any. -/
def amountLabel (amountCents : Nat) : String :=
  let cents := amountCents % 100
  "$" ++ toString (amountCents / 100) ++
    if cents = 0 then ""
    else if cents < 10 then ".0" ++ toString cents
    else "." ++ toString cents

/-- The configuration, and the English long form of a date. -/
structure EmailProcessor where
  sender : String
  frontendUrl : String
  supportEmail : String
  toLocaleDateString : String → String

namespace EmailProcessor

variable (processor : EmailProcessor)

/-- The mail that `send` passes on. -/
def send (recipient subject html : String) (replyTo : Option String := none) :
    Except ApiError ResendMail :=
  .ok
    { sender := processor.sender
      recipient
      subject
      html
      replyTo := replyTo.filter (· ≠ "") }

/-- The items of a pitch. -/
def features : List String :=
  ["Unlimited directory searches", "Full contact details — email, phone, LinkedIn",
    "CSV export", "AI Lead Finder credits included"]

/-- An entry of a list of features. -/
def featureItem (item : String) : String :=
  "<li style=\"margin-top:10px;padding-left:24px;position:relative;font-size:14px;" ++
    "color:#5b5f73;line-height:1.5;\">" ++
    "\n                          <span style=\"position:absolute;left:0;color:#0b1454;" ++
    "font-weight:700;\">✓</span>" ++ escapeHtml item ++
    "\n                        </li>"

/-- What the admin has granted. -/
def perksText (grantsDirectoryAccess grantsLeadFinderAccess : String) : String :=
  let perks :=
    (if grantsDirectoryAccess = "true" then ["full access to the Lead Directory"] else []) ++
      if grantsLeadFinderAccess = "true" then ["unlimited AI Lead Finder searches"] else []
  if 0 < perks.length then
    "You've been given " ++ String.intercalate " and " perks ++
      " — no subscription needed. Create your account to get started."
  else "An account has been set up for you. Create your account to get started."

/-- The text of a contact form. -/
def contactFormHtml (name fromEmail reasonLabel message : String) : String :=
  renderEmail
    (heading "New contact form message" ++
      ("<div style=\"margin-top:20px;text-align:left;font-size:14px;color:#5b5f73;" ++
        "line-height:1.6;\">" ++
        "\n                 <p style=\"margin:0;\"><strong>From:</strong> " ++
        escapeHtml name ++ " (" ++ escapeHtml fromEmail ++ ")</p>" ++
        "\n                 <p style=\"margin:8px 0 0;\"><strong>Reason:</strong> " ++
        escapeHtml reasonLabel ++ "</p>" ++
        "\n                 <p style=\"margin:16px 0 0;white-space:pre-wrap;\">" ++
        escapeHtml message ++ "</p>" ++
        "\n               </div>"))

/-- The mail of a job, or the error of the job. -/
def process : MailJob → Except ApiError ResendMail
  | .welcome recipient fullName =>
      let firstName := escapeHtml (firstName fullName)
      let link := processor.frontendUrl ++ "/account"
      processor.send recipient "Welcome to conference.contact"
        (renderEmail
          (heading ("Welcome, " ++ firstName) ++
            paragraph
              ("Your account is ready. You've got 100 free credits to try AI Lead Finder " ++
                "right away — no subscription needed to start.") ++
            ctaButton link "Go to your account →" ++
            footnote "Questions about getting started? Just reply to this email."))
        (some processor.supportEmail)
  | .verification recipient token =>
      let link := processor.frontendUrl ++ "/verify-email?token=" ++
        QueryStrings.encodeURIComponent token
      processor.send recipient "Verify your email — conference.contact"
        (renderEmail
          (heading "Verify your email" ++
            paragraph
              "Confirm your email to finish setting up your conference.contact account." ++
            ctaButton link "Verify email →" ++
            footnote
              ("This link expires in 24 hours. If you didn't create an account, you can " ++
                "ignore this email.")))
  | .passwordReset recipient token =>
      let link := processor.frontendUrl ++ "/reset-password?token=" ++
        QueryStrings.encodeURIComponent token
      processor.send recipient "Reset your password — conference.contact"
        (renderEmail
          (heading "Reset your password" ++
            paragraph "We received a request to reset your conference.contact password." ++
            ctaButton link "Reset password →" ++
            footnote
              ("This link expires in 1 hour. If you didn't request this, you can ignore this " ++
                "email — your password won't change.")))
  | .deviceCode recipient code =>
      processor.send recipient "Confirm it's you — conference.contact"
        (renderEmail
          (heading "Confirm it's you" ++
            paragraph "We noticed a login from a device we don't recognize." ++
            ("<p style=\"margin:24px 0 0;font-size:32px;font-weight:800;letter-spacing:6px;" ++
              "color:#0b1454;\">" ++ code ++ "</p>") ++
            footnote
              ("Enter this code to finish signing in. It expires in 10 minutes. If this wasn't " ++
                "you, change your password immediately.")))
  | .contactForm name fromEmail reason message =>
      match reasonLabel reason with
      | none => .error .typeError
      | some reasonLabel =>
          processor.send processor.supportEmail
            ("Contact form (" ++ reasonLabel ++ "): " ++ sanitizeForSubject name)
            (contactFormHtml name fromEmail reasonLabel message)
            (some fromEmail)
  | .contactReply recipient name originalMessage replyMessage =>
      let firstName := escapeHtml (firstName name)
      processor.send recipient "Re: your message to conference.contact"
        (renderEmail
          (heading ("Hi " ++ firstName ++ ",") ++
            ("<div style=\"margin-top:16px;text-align:left;font-size:15px;color:#5b5f73;" ++
              "line-height:1.6;white-space:pre-wrap;\">" ++ escapeHtml replyMessage ++
              "</div>") ++
            ("<div style=\"margin-top:28px;padding-top:20px;border-top:1px solid #e2e2e7;" ++
              "text-align:left;\">" ++
              "\n                 <p style=\"margin:0;font-size:12px;font-weight:700;" ++
              "color:#9395a6;text-transform:uppercase;letter-spacing:0.03em;\">" ++
              "Your original message</p>" ++
              "\n                 <p style=\"margin:8px 0 0;font-size:13px;color:#9395a6;" ++
              "line-height:1.6;white-space:pre-wrap;\">" ++ escapeHtml originalMessage ++
              "</p>" ++
              "\n               </div>") ++
            footnote "Questions? Just reply to this email."))
        (some processor.supportEmail)
  | .invite recipient inviterName =>
      let link := processor.frontendUrl ++ "/signup?email=" ++
        QueryStrings.encodeURIComponent recipient
      let name := escapeHtml inviterName
      processor.send recipient (name ++ " invited you to conference.contact")
        (renderEmail
          (heading (name ++ " invited you to conference.contact") ++
            paragraph
              ("A hand-verified directory of B2B conference contacts, with an AI tool that " ++
                "finds and enriches new leads live.") ++
            ctaButton link "Create your account →" ++
            footnote
              ("Full Access is $50 every 6 months, rate locked in, whenever you're ready to " ++
                "subscribe.")))
  | .adminAccessInvite recipient grantsDirectoryAccess grantsLeadFinderAccess =>
      let link := processor.frontendUrl ++ "/signup?email=" ++
        QueryStrings.encodeURIComponent recipient
      processor.send recipient "You've been invited to conference.contact"
        (renderEmail
          (heading "You've been invited to conference.contact" ++
            paragraph (perksText grantsDirectoryAccess grantsLeadFinderAccess) ++
            ctaButton link "Create your account →" ++
            footnote "Questions? Just reply to this email."))
        (some processor.supportEmail)
  | .prospectPitchIntro recipient fullName =>
      let firstName := escapeHtml (firstName fullName)
      let link := processor.frontendUrl ++ "/account/billing"
      processor.send recipient "Still there? Your conference.contact directory is ready"
        (renderEmail
          (heading (firstName ++ ", here's what's waiting for you") ++
            paragraph
              ("You created a conference.contact account but haven't unlocked the full Lead " ++
                "Directory yet — a hand-verified list of who actually shows up to the B2B " ++
                "conference circuit, with real emails, phone numbers, and LinkedIn profiles.") ++
            ctaButton link "Unlock full access →" ++
            footnote
              ("$50 every 6 months, rate locked in for as long as you stay subscribed. Cancel " ++
                "anytime.")))
        (some processor.supportEmail)
  | .prospectPitchValue recipient fullName =>
      let firstName := escapeHtml (firstName fullName)
      let link := processor.frontendUrl ++ "/account/billing"
      processor.send recipient "What you get with full Directory access"
        (renderEmail
          (heading (firstName ++ ", here's exactly what unlocks") ++
            ("<ul style=\"margin:20px 0 0;padding:0;list-style:none;text-align:left;\">" ++
              "\n                 " ++ String.join (features.map featureItem) ++
              "\n               </ul>") ++
            ctaButton link "See full access →" ++
            footnote "$50 every 6 months. No sales calls, no tiers to compare."))
        (some processor.supportEmail)
  | .prospectPitchUrgency recipient fullName =>
      let firstName := escapeHtml (firstName fullName)
      let link := processor.frontendUrl ++ "/account/billing"
      processor.send recipient "Lock in your rate before it changes"
        (renderEmail
          (heading (firstName ++ ", your price locks in the moment you subscribe") ++
            paragraph
              ("conference.contact is still $50 every 6 months today. If we ever raise the " ++
                "price, everyone already subscribed keeps the rate they signed up at — so " ++
                "there's no upside to waiting, only downside if pricing changes later.") ++
            ctaButton link "Lock in $50/6mo →" ++
            footnote "No long-term contract — cancel anytime."))
        (some processor.supportEmail)
  | .subscriptionConfirmed recipient productLabel amountCents renewsAt =>
      let dateLabel := processor.toLocaleDateString renewsAt
      let link := processor.frontendUrl ++ "/account/billing"
      processor.send recipient ("You're subscribed — " ++ productLabel ++ " confirmed")
        (renderEmail
          (heading "You're all set" ++
            paragraph
              ("Your payment went through and your " ++ escapeHtml productLabel ++
                " plan is active. You were charged " ++ amountLabel amountCents ++
                " — it renews on <strong>" ++ dateLabel ++ "</strong>.") ++
            ctaButton link "Manage your plan →" ++
            footnote "Questions about your subscription? Just reply to this email."))
        (some processor.supportEmail)
  | .renewalReminder recipient productLabel renewalDate amountCents =>
      let dateLabel := processor.toLocaleDateString renewalDate
      processor.send recipient
        ("Your " ++ productLabel ++ " renews in 7 days — conference.contact")
        (renderEmail
          (heading "Your subscription renews soon" ++
            paragraph
              ("Your " ++ escapeHtml productLabel ++ " plan renews on <strong>" ++ dateLabel ++
                "</strong> — you'll be charged " ++ amountLabel amountCents ++ ".") ++
            footnote
              ("No action needed to continue. Want to stop future billing instead? You can " ++
                "cancel anytime from your account — access stays active through the end of " ++
                "the period you've already paid for.")))
  | .paymentFailed recipient productLabel gracePeriodDays =>
      let link := processor.frontendUrl ++ "/account/billing"
      processor.send recipient
        ("Payment failed on your " ++ productLabel ++ " plan — conference.contact")
        (renderEmail
          (heading "We couldn’t process your payment" ++
            paragraph
              ("Your card was declined for your " ++ escapeHtml productLabel ++
                " plan. You have <strong>" ++ toString gracePeriodDays ++
                " days</strong> to update your payment method before access pauses.") ++
            ctaButton link "Update payment method →" ++
            footnote
              ("We'll retry the charge automatically in the meantime — if it goes through, " ++
                "there's nothing else to do.")))
  | .cancellationScheduled recipient productLabel accessUntil =>
      let dateLabel := processor.toLocaleDateString accessUntil
      let link := processor.frontendUrl ++ "/account/billing"
      processor.send recipient
        ("Your " ++ productLabel ++ " plan is set to cancel — conference.contact")
        (renderEmail
          (heading "Your cancellation is scheduled" ++
            paragraph
              ("We've turned off future billing for your " ++ escapeHtml productLabel ++
                " plan. Your access stays active through <strong>" ++ dateLabel ++
                "</strong> — you won't be charged again after that.") ++
            ctaButton link "Manage your plan →" ++
            footnote
              ("Changed your mind? You can resume anytime before that date and keep your " ++
                "access uninterrupted.")))
        (some processor.supportEmail)

end EmailProcessor
end ConferenceContact
