import ConferenceContact.Mail.Escaping

/-!
# What users write into mails

The body of every mail is put together from fixed texts and from escaped ones, so that
nothing a user writes adds markup to it.  Subjects are not alike in that: the contact form
takes the control characters out of a name, but the invite escapes the name of the
inviter as for a body and leaves them in.
-/

namespace ConferenceContact

open Substitution

/-! ## Texts that are put together from escaped ones -/

/-- The values of some texts occur in a text only in what `escapeHtml` returns. -/
inductive Escaped {α : Type} : (α → String) → Prop
  | text (constant : String) : Escaped fun _ => constant
  | escapeHtml (part : α → String) : Escaped fun values => escapeHtml (part values)
  | append
      {left right : α → String}
      (first : Escaped left)
      (second : Escaped right) : Escaped fun values => left values ++ right values

/-- The characters of tags and attributes. -/
def markup (text : String) : List Char :=
  text.toList.filter (· ∈ ['<', '>', '"', '\''])

theorem markup_append (left right : String) :
    markup (left ++ right) = markup left ++ markup right := by
  simp [markup]

theorem markup_escapeHtml (text : String) : markup (escapeHtml text) = [] := by
  refine List.filter_eq_nil_iff.mpr fun character present special => ?_
  exact not_mem_escapeHtml present (of_decide_eq_true special)

namespace Escaped

variable {α : Type} {text body : α → String}

/-- Escaped values add no markup. -/
theorem markup_eq (escaped : Escaped text) (values others : α) :
    markup (text values) = markup (text others) := by
  induction escaped with
  | text constant => rfl
  | escapeHtml part => rw [markup_escapeHtml, markup_escapeHtml]
  | append first second firstHypothesis secondHypothesis =>
      rw [markup_append, markup_append, firstHypothesis, secondHypothesis]

/-- A fixed text follows. -/
theorem andText (escaped : Escaped text) (constant : String) :
    Escaped fun values => text values ++ constant :=
  .append escaped (.text constant)

/-- An escaped one follows. -/
theorem andEscaped (escaped : Escaped text) (part : α → String) :
    Escaped fun values => text values ++ ConferenceContact.escapeHtml (part values) :=
  .append escaped (.escapeHtml part)

theorem heading (escaped : Escaped text) :
    Escaped fun values => heading (text values) :=
  ((Escaped.text _).append escaped).andText _

theorem renderEmail (escaped : Escaped body) :
    Escaped fun values => renderEmail (body values) := by
  unfold ConferenceContact.renderEmail
  repeat' first
    | exact .text _
    | exact escaped
    | apply Escaped.append

theorem contactForm (name fromEmail reasonLabel message : α → String) :
    Escaped fun values =>
      EmailProcessor.contactFormHtml (name values) (fromEmail values) (reasonLabel values)
        (message values) :=
  .renderEmail (.append (.text _) <|
    (Escaped.text _).andEscaped name |>.andText _ |>.andEscaped fromEmail |>.andText _ |>.andText _
      |>.andEscaped reasonLabel |>.andText _ |>.andText _ |>.andEscaped message |>.andText _
      |>.andText _)

end Escaped

/-! ## The texts of a job -/

/-- What users write into mails. -/
structure MailTexts where
  fullName : String
  inviterName : String
  name : String
  fromEmail : String
  reason : String
  message : String
  originalMessage : String
  replyMessage : String

/-- A job with other texts of users. -/
def MailJob.withTexts (texts : MailTexts) : MailJob → MailJob
  | .welcome recipient _ => .welcome recipient texts.fullName
  | .contactForm _ _ _ _ =>
      .contactForm texts.name texts.fromEmail texts.reason texts.message
  | .contactReply recipient _ _ _ =>
      .contactReply recipient texts.name texts.originalMessage texts.replyMessage
  | .invite recipient _ => .invite recipient texts.inviterName
  | .prospectPitchIntro recipient _ => .prospectPitchIntro recipient texts.fullName
  | .prospectPitchValue recipient _ => .prospectPitchValue recipient texts.fullName
  | .prospectPitchUrgency recipient _ => .prospectPitchUrgency recipient texts.fullName
  | job => job

/-- The text of a job from which its subject is made, if any. -/
def MailJob.subjectText : MailJob → String
  | .contactForm _ _ reason _ => reason
  | .invite _ inviterName => inviterName
  | .subscriptionConfirmed _ productLabel _ _ => productLabel
  | .renewalReminder _ productLabel _ _ => productLabel
  | .paymentFailed _ productLabel _ => productLabel
  | .cancellationScheduled _ productLabel _ => productLabel
  | _ => ""

/-- A text has a control character. -/
def hasControl (text : String) : Bool := text.toList.any isControl

/-- The jobs with the texts of a job include the job itself. -/
theorem MailJob.exists_withTexts (job : MailJob) : ∃ texts, job.withTexts texts = job := by
  cases job with
  | welcome recipient fullName => exact ⟨⟨fullName, "", "", "", "", "", "", ""⟩, rfl⟩
  | contactForm name fromEmail reason message =>
      exact ⟨⟨"", "", name, fromEmail, reason, message, "", ""⟩, rfl⟩
  | contactReply recipient name originalMessage replyMessage =>
      exact ⟨⟨"", "", name, "", "", "", originalMessage, replyMessage⟩, rfl⟩
  | invite recipient inviterName => exact ⟨⟨"", inviterName, "", "", "", "", "", ""⟩, rfl⟩
  | prospectPitchIntro recipient fullName =>
      exact ⟨⟨fullName, "", "", "", "", "", "", ""⟩, rfl⟩
  | prospectPitchValue recipient fullName =>
      exact ⟨⟨fullName, "", "", "", "", "", "", ""⟩, rfl⟩
  | prospectPitchUrgency recipient fullName =>
      exact ⟨⟨fullName, "", "", "", "", "", "", ""⟩, rfl⟩
  | _ => exact ⟨⟨"", "", "", "", "", "", "", ""⟩, rfl⟩

/-- The mail of a job has no control character in its subject, and what users have
written occurs in its body only escaped, so that it adds no markup. -/
structure EmailProcessor.Safe (processor : EmailProcessor) (job : MailJob) : Prop where
  subject : ∀ mail, processor.process job = .ok mail → hasControl mail.subject = false
  body : ∃ html : MailTexts → String, Escaped html ∧
    ∀ texts mail, processor.process (job.withTexts texts) = .ok mail → mail.html = html texts
  markup : ∀ texts others mail other,
    processor.process (job.withTexts texts) = .ok mail →
    processor.process (job.withTexts others) = .ok other →
      markup mail.html = markup other.html

/-! ## Bodies -/

namespace EmailProcessor

variable (processor : EmailProcessor)

/-- The mail of a contact form, unless its reason is not one that the form offers but the
name of something that every object inherits. -/
theorem process_contactForm
    (name fromEmail reason message : String)
    {mail : ResendMail} :
    processor.process (.contactForm name fromEmail reason message) = .ok mail ↔
      ∃ label, reasonLabel reason = some label ∧
        processor.send processor.supportEmail
          ("Contact form (" ++ label ++ "): " ++ sanitizeForSubject name)
          (contactFormHtml name fromEmail label message) (some fromEmail) = .ok mail := by
  cases labelled : reasonLabel reason with
  | none => simp [process, labelled]
  | some label => simp [process, labelled]

/-- What users have written occurs in a body only escaped. -/
theorem body_escaped (job : MailJob) :
    ∃ html : MailTexts → String, Escaped html ∧
      ∀ texts mail, processor.process (job.withTexts texts) = .ok mail →
        mail.html = html texts := by
  have made {html : MailTexts → String}
      {recipient : String}
      {subject : MailTexts → String}
      {replyTo : Option String}
      (escaped : Escaped html)
      (sent : ∀ texts, processor.process (job.withTexts texts) =
        processor.send recipient (subject texts) (html texts) replyTo) :
      ∃ html : MailTexts → String, Escaped html ∧
        ∀ texts mail, processor.process (job.withTexts texts) = .ok mail →
          mail.html = html texts := by
    refine ⟨html, escaped, fun texts mail processed => ?_⟩
    rw [sent] at processed
    cases processed
    rfl
  -- A greeting, over three parts that are the same for everybody.
  have greets {greeting : MailTexts → String} (escaped : Escaped greeting) (a b c : String) :
      Escaped fun texts =>
        ConferenceContact.renderEmail (ConferenceContact.heading (greeting texts) ++ a ++ b ++ c) :=
    .renderEmail (((escaped.heading.andText a).andText b).andText c)
  cases job with
  | welcome recipient fullName =>
      exact made (greets (.append (.text _) (.escapeHtml _)) _ _ _) fun texts => rfl
  | invite recipient inviterName =>
      exact made (greets (.append (.escapeHtml _) (.text _)) _ _ _) fun texts => rfl
  | prospectPitchIntro recipient fullName =>
      exact made (greets (.append (.escapeHtml _) (.text _)) _ _ _) fun texts => rfl
  | prospectPitchValue recipient fullName =>
      exact made (greets (.append (.escapeHtml _) (.text _)) _ _ _) fun texts => rfl
  | prospectPitchUrgency recipient fullName =>
      exact made (greets (.append (.escapeHtml _) (.text _)) _ _ _) fun texts => rfl
  | contactReply recipient name originalMessage replyMessage =>
      refine made (.renderEmail (.append (.append (.append (.heading ?_) ?_) ?_) (.text _)))
        fun texts => rfl
      · exact .append (.append (.text _) (.escapeHtml _)) (.text _)
      · exact .append (.append (.text _) (.escapeHtml _)) (.text _)
      · exact .append (.append (.append (.text _) (.escapeHtml _)) (.text _)) (.text _)
  | contactForm name fromEmail reason message =>
      refine ⟨_, .contactForm (·.name) (·.fromEmail)
        (fun texts => (reasonLabel texts.reason).getD "") (·.message),
        fun texts mail processed => ?_⟩
      obtain ⟨label, found, sent⟩ := (processor.process_contactForm _ _ _ _).mp processed
      cases sent
      rw [found]
      rfl
  | verification recipient token => exact made (.text _) fun texts => rfl
  | passwordReset recipient token => exact made (.text _) fun texts => rfl
  | deviceCode recipient code => exact made (.text _) fun texts => rfl
  | adminAccessInvite recipient directory leadFinder => exact made (.text _) fun texts => rfl
  | subscriptionConfirmed recipient productLabel amountCents renewsAt =>
      exact made (.text _) fun texts => rfl
  | renewalReminder recipient productLabel renewalDate amountCents =>
      exact made (.text _) fun texts => rfl
  | paymentFailed recipient productLabel days => exact made (.text _) fun texts => rfl
  | cancellationScheduled recipient productLabel accessUntil =>
      exact made (.text _) fun texts => rfl

/-! ## Subjects -/

theorem hasControl_append (left right : String) :
    hasControl (left ++ right) = (hasControl left || hasControl right) := by
  simp [hasControl]

/-- A text is given by its characters. -/
theorem plain_of_any
    {characters : List Char}
    (none : characters.any isControl = false) :
    hasControl (String.ofList characters) = false :=
  (congrArg (·.any isControl) String.toList_ofList).trans none

/-- Entities are made of visible characters. -/
theorem hasControl_escapeHtml (text : String) : hasControl (escapeHtml text) = hasControl text := by
  unfold hasControl
  rw [toList_escapeHtml, List.any_flatMap]
  congr 1
  funext character
  rcases substitute_cases character with entity | ⟨same, -⟩
  · have visible : ∀ entity ∈ entities, entity.2.any isControl = isControl entity.1 := by
      decide
    exact visible _ entity
  · rw [same, List.any_cons, List.any_nil, Bool.or_false]

theorem hasControl_sanitizeForSubject (text : String) :
    hasControl (sanitizeForSubject text) = false := by
  refine List.any_eq_false.mpr fun character present => ?_
  unfold sanitizeForSubject jsTrim at present
  rw [String.toList_ofList, String.toList_ofList, List.mem_reverse] at present
  have kept := (List.dropWhile_sublist isJsWhitespace).subset
    (List.mem_reverse.mp ((List.dropWhile_sublist isJsWhitespace).subset present))
  obtain ⟨source, -, rfl⟩ := List.mem_map.mp kept
  split
  · decide
  · assumption

/-- The label of a reason has no control character exactly if the reason has none. -/
theorem reasonLabel_plain_iff (reason : String) :
    (∀ label, reasonLabel reason = some label → hasControl label = false) ↔
      hasControl reason = false := by
  have labels : ∀ entry ∈ contactReasonLabels,
      hasControl entry.1 = false ∧ hasControl entry.2 = false := by decide
  have inherited : ∀ name ∈ inheritedNames, hasControl name = false := by decide
  unfold reasonLabel
  cases found : contactReasonLabels.lookup reason with
  | some label =>
      obtain ⟨before, after, split, -⟩ := List.lookup_eq_some_iff.mp found
      have listed : (reason, label) ∈ contactReasonLabels := by
        rw [split]
        exact List.mem_append_right _ List.mem_cons_self
      obtain ⟨known, plain⟩ := labels _ listed
      simp [known, plain]
  | none =>
      by_cases listed : reason ∈ inheritedNames
      · simp [listed, inherited reason listed]
      · simp [listed]

/-- A subject has no control character exactly if the text it takes from the job has
none. -/
theorem subject_plain_iff (job : MailJob) :
    (∀ mail, processor.process job = .ok mail → hasControl mail.subject = false) ↔
      hasControl job.subjectText = false := by
  have made {recipient subject html : String}
      {replyTo : Option String}
      (sent : processor.process job = processor.send recipient subject html replyTo)
      (same : hasControl subject = hasControl job.subjectText) :
      (∀ mail, processor.process job = .ok mail → hasControl mail.subject = false) ↔
        hasControl job.subjectText = false := by
    rw [sent, ← same]
    constructor
    · exact fun plain => plain _ rfl
    · rintro plain mail processed
      cases processed
      exact plain
  -- A label between two texts without control characters.
  have between {before after : String}
      (text : String)
      (first : hasControl before = false)
      (second : hasControl after = false) :
      hasControl (before ++ text ++ after) = hasControl text := by
    rw [hasControl_append, hasControl_append, first, second, Bool.false_or, Bool.or_false]
  cases job with
  | contactForm name fromEmail reason message =>
      refine Iff.trans ?_ (reasonLabel_plain_iff reason)
      have subject (label : String) :
          hasControl ("Contact form (" ++ label ++ "): " ++ sanitizeForSubject name) =
            hasControl label := by
        rw [hasControl_append, hasControl_sanitizeForSubject, Bool.or_false]
        exact between label (plain_of_any rfl) (plain_of_any rfl)
      constructor
      · intro plain label found
        have sent :=
          (processor.process_contactForm name fromEmail reason message).mpr ⟨label, found, rfl⟩
        rw [← subject]
        exact plain _ sent
      · intro plain mail processed
        obtain ⟨label, found, sent⟩ := (processor.process_contactForm _ _ _ _).mp processed
        cases sent
        exact (subject label).trans (plain label found)
  | invite recipient inviterName =>
      refine made rfl ?_
      rw [hasControl_append, hasControl_escapeHtml, plain_of_any rfl, Bool.or_false]
      rfl
  | subscriptionConfirmed recipient productLabel amountCents renewsAt =>
      exact made rfl (between productLabel (plain_of_any rfl) (plain_of_any rfl))
  | renewalReminder recipient productLabel renewalDate amountCents =>
      exact made rfl (between productLabel (plain_of_any rfl) (plain_of_any rfl))
  | paymentFailed recipient productLabel days =>
      exact made rfl (between productLabel (plain_of_any rfl) (plain_of_any rfl))
  | cancellationScheduled recipient productLabel accessUntil =>
      exact made rfl (between productLabel (plain_of_any rfl) (plain_of_any rfl))
  | _ => exact made rfl ((plain_of_any rfl).trans (plain_of_any rfl).symm)

/-- The mail of a job is safe exactly if the text that its subject takes from the job has
no control character: nothing else that users write gets into a mail unescaped. -/
theorem safe_iff (job : MailJob) :
    processor.Safe job ↔ hasControl job.subjectText = false := by
  constructor
  · exact fun safe => (processor.subject_plain_iff job).mp safe.subject
  · intro plain
    obtain ⟨html, escaped, same⟩ := processor.body_escaped job
    refine ⟨(processor.subject_plain_iff job).mpr plain, ⟨html, escaped, same⟩, ?_⟩
    intro texts others mail other sent sentToo
    rw [same texts mail sent, same others other sentToo]
    exact escaped.markup_eq texts others

/-- A processor with a plain configuration. -/
def sample : EmailProcessor where
  sender := "hello@conference.contact"
  frontendUrl := "https://conference.contact"
  supportEmail := "support@conference.contact"
  toLocaleDateString := id

/-- Somebody whose name has a line break invites a colleague. -/
def forgedInvite : MailJob := .invite "bob@example.com" "Ann\r\nBcc: eve@example.com"

/-- The line break stays in the subject. -/
theorem forged_invite_subject :
    (sample.process forgedInvite).map (·.subject) =
        .ok "Ann\r\nBcc: eve@example.com invited you to conference.contact" ∧
      ¬sample.Safe forgedInvite := by
  refine ⟨rfl, fun safe => ?_⟩
  have plain := safe.subject _ rfl
  cases plain

end EmailProcessor
end ConferenceContact
