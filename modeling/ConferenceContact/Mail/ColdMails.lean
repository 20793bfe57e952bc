import ConferenceContact.Foundation.Histories
import ConferenceContact.Mail.Templates
import ConferenceContact.Model.EmailTemplate
import Mathlib.Algebra.Order.BigOperators.Group.List
import Mathlib.Algebra.Order.Group.Nat

/-!
# The copy of the cold invites

Administrators edit the copy while the worker sends.  Every cold invite is made of one
version of the copy, that which the editor showed at some moment of the run; it carries
the opt-out link of its recipient and a postal address, and what administrators write
adds no markup to it.
-/

namespace ConferenceContact

open Process

/-! ## The copy in effect -/

/-- The copy that some columns stand for. -/
def EmailColumns.template (config : MailConfig) (columns : EmailColumns) : EmailTemplate where
  subject := columns.emailSubject.getD defaultSubject
  heading := columns.emailHeading.getD defaultHeading
  body := columns.emailBody.getD defaultBody
  ctaLabel := columns.emailCtaLabel.getD defaultCtaLabel
  footnote := columns.emailFootnote.getD defaultFootnote
  mailingAddress := columns.emailMailingAddress.getD config.defaultMailingAddress

/-- The copy that is set. -/
def CampaignDesk.template (config : MailConfig) (desk : CampaignDesk) : EmailTemplate :=
  (desk.settings.getD {}).template config

namespace EmailTemplate

variable (app : Deployment) (config : MailConfig)

/-- The body of a mail with some copy. -/
def html (recipient : String) (template : EmailTemplate) : String :=
  renderEmail
    (ConferenceContact.heading (escapeHtml template.heading) ++
      paragraph (escapeHtml template.body) ++
      ctaButton (BulkEmailProcessor.link app recipient) (escapeHtml template.ctaLabel) ++
      ConferenceContact.footnote (escapeHtml template.footnote))
    (some (BulkEmailProcessor.complianceFooter (BulkEmailProcessor.unsubscribeLink app recipient)
      template.mailingAddress))

/-- The mail with some copy. -/
def mail (recipient : String) (template : EmailTemplate) : ColdMail where
  sender := config.resendFromEmail
  recipient
  subject := sanitizeForSubject template.subject
  html := template.html app recipient
  replyTo := config.supportEmail
  listUnsubscribe := "<" ++ BulkEmailProcessor.unsubscribeLink app recipient ++ ">"
  listUnsubscribePost := "List-Unsubscribe=One-Click"

end EmailTemplate

section

variable (app : Deployment) (config : MailConfig)

/-- The editor shows the copy in effect. -/
theorem run_getEmailTemplate (input : Input) (desk : CampaignDesk) :
    (ProspectCampaignService.getEmailTemplate config).run input desk =
      (.ok (desk.template config),
        { desk with settings := some (desk.settings.getD {}) }) := rfl

/-- The worker reads the copy in effect and sends the mail with it. -/
theorem process_prospectColdInvite (recipient : String) :
    BulkEmailProcessor.process app config (.prospectColdInvite recipient) =
      query (fun _ (desk : CampaignDesk) => desk.template config) >>= fun template =>
        command fun _ desk =>
          { desk with sent := template.mail app config recipient :: desk.sent } := by
  refine query_bind_congr fun input desk => ?_
  unfold CampaignDesk.template
  cases desk.settings with
  | none => rfl
  | some columns => rfl

end

/-! ## Edits -/

/-- No column holds the empty text, and an address is long enough without the white space
around it. -/
structure EmailColumns.Sound (columns : EmailColumns) : Prop where
  filled : ∀ column ∈ [columns.emailSubject, columns.emailHeading, columns.emailBody,
    columns.emailCtaLabel, columns.emailFootnote, columns.emailMailingAddress],
    column ≠ some ""
  address : ∀ address ∈ columns.emailMailingAddress, 10 ≤ utf16Length (jsTrim address)

/-- The columns that are on file are sound. -/
def CampaignDesk.Sound (desk : CampaignDesk) : Prop :=
  ∀ columns ∈ desk.settings, columns.Sound

theorem EmailColumns.sound_default : ({} : EmailColumns).Sound where
  filled := by decide
  address _ absent := by cases absent

theorem CampaignDesk.Sound.getD {desk : CampaignDesk} (sound : desk.Sound) :
    (desk.settings.getD {}).Sound := by
  cases onFile : desk.settings with
  | none => exact EmailColumns.sound_default
  | some columns => exact sound columns onFile

/-- A field of an edit never writes the empty text. -/
theorem UpdateEmailTemplateDto.orNull_ne (field : Option (Option String)) {column : Option String}
    (filled : column ≠ some "") :
    (field.map UpdateEmailTemplateDto.orNull).getD column ≠ some "" := by
  cases field with
  | none => exact filled
  | some value =>
      intro empty
      have kept := (Option.filter_eq_some_iff.mp empty).2
      cases kept

/-- An address is checked before anything is written. -/
theorem checkMailingAddress_cases (field : Option (Option String)) :
    ProspectCampaignService.checkMailingAddress field = pure () ∧
        (∀ text, field = some (some text) → text = "" ∨ 10 ≤ utf16Length (jsTrim text)) ∨
      ∃ error, ProspectCampaignService.checkMailingAddress field = throw error := by
  cases field with
  | none => exact .inl ⟨rfl, fun text absent => by cases absent⟩
  | some value =>
      cases value with
      | none => exact .inr ⟨_, rfl⟩
      | some address =>
          unfold ProspectCampaignService.checkMailingAddress
          dsimp only
          split
          · exact .inr ⟨_, rfl⟩
          · rename_i long
            refine .inl ⟨rfl, fun text given => ?_⟩
            cases given
            by_cases empty : address = ""
            · exact .inl empty
            · exact .inr (Nat.not_lt.mp fun short => long ⟨empty, short⟩)

/-- What an accepted edit makes of sound columns is sound. -/
theorem EmailColumns.Sound.data
    {columns : EmailColumns}
    (sound : columns.Sound)
    {dto : UpdateEmailTemplateDto}
    (accepted : ∀ text, dto.mailingAddress = some (some text) →
      text = "" ∨ 10 ≤ utf16Length (jsTrim text)) :
    (dto.data columns).Sound where
  filled := by
    have filled := sound.filled
    simp only [List.forall_mem_cons, List.not_mem_nil, false_implies, implies_true, and_true]
      at filled ⊢
    obtain ⟨subject, heading, body, ctaLabel, footnote, address⟩ := filled
    exact ⟨UpdateEmailTemplateDto.orNull_ne _ subject, UpdateEmailTemplateDto.orNull_ne _ heading,
      UpdateEmailTemplateDto.orNull_ne _ body, UpdateEmailTemplateDto.orNull_ne _ ctaLabel,
      UpdateEmailTemplateDto.orNull_ne _ footnote, UpdateEmailTemplateDto.orNull_ne _ address⟩
  address := by
    intro address written
    unfold UpdateEmailTemplateDto.data at written
    dsimp only at written
    cases given : dto.mailingAddress with
    | none =>
        rw [given] at written
        exact sound.address address written
    | some value =>
        rw [given] at written
        obtain ⟨isValue, nonempty⟩ := Option.filter_eq_some_iff.mp written
        rw [isValue] at given
        exact (accepted address given).resolve_left (of_decide_eq_true nonempty)

/-- An edit that is refused changes nothing. -/
theorem run_updateEmailTemplate_of_error
    {config : MailConfig}
    {adminUserId : UserId}
    {dto : UpdateEmailTemplateDto}
    {input : Input}
    {desk after : CampaignDesk}
    {error : ApiError}
    (refused : (ProspectCampaignService.updateEmailTemplate config adminUserId dto).run input
      desk = (.error error, after)) :
    after = desk := by
  unfold ProspectCampaignService.updateEmailTemplate at refused
  rcases checkMailingAddress_cases dto.mailingAddress with ⟨checked, -⟩ | ⟨reason, checked⟩
  · rw [checked, Process.pure_bind] at refused
    cases refused
  · rw [checked, throw_bind] at refused
    cases refused
    rfl

/-- What a call of the editor does: it sends nothing, and keeps sound columns sound. -/
def EditStep (before after : CampaignDesk) : Prop :=
  after.sent = before.sent ∧ (before.Sound → after.Sound)

instance : Std.Refl EditStep where
  refl _ := ⟨rfl, id⟩

theorem editSteps_getEmailTemplate (config : MailConfig) :
    (ProspectCampaignService.getEmailTemplate config).Respects EditStep := by
  refine Respects.bind (Respects.attempt fun input desk columns after created => ?_)
    fun _ => Respects.pure _
  cases created
  refine ⟨rfl, fun sound columns onFile => ?_⟩
  cases onFile
  exact sound.getD

theorem editSteps_updateEmailTemplate
    (config : MailConfig)
    (adminUserId : UserId)
    (dto : UpdateEmailTemplateDto) :
    (ProspectCampaignService.updateEmailTemplate config adminUserId dto).Respects EditStep := by
  unfold ProspectCampaignService.updateEmailTemplate
  rcases checkMailingAddress_cases dto.mailingAddress with ⟨checked, accepted⟩ | ⟨error, checked⟩
  · rw [checked, Process.pure_bind]
    refine Respects.bind (Respects.command fun input desk => ?_) fun _ => ?_
    · refine ⟨rfl, fun sound columns onFile => ?_⟩
      cases onFile
      exact sound.getD.data accepted
    · refine Respects.bind (Respects.command fun input desk => ⟨rfl, id⟩) fun _ => ?_
      exact editSteps_getEmailTemplate config
  · rw [checked, throw_bind]
    exact Respects.throw error

/-! ## What a mail carries -/

/-- A text that leaves out white space is no longer. -/
theorem utf16Length_jsTrim (text : String) : utf16Length (jsTrim text) ≤ utf16Length text := by
  have trimmed : (jsTrim text).toList.Sublist text.toList := by
    unfold jsTrim
    rw [String.toList_ofList]
    refine (List.reverse_sublist.mpr (List.dropWhile_sublist isJsWhitespace)).trans ?_
    rw [List.reverse_reverse]
    exact List.dropWhile_sublist isJsWhitespace
  unfold utf16Length
  exact (trimmed.map _).sum_le_sum fun _ _ => Nat.zero_le _

/-- No text of the copy is empty, and the postal address is not too short to be one. -/
structure EmailTemplate.Complete (template : EmailTemplate) : Prop where
  filled : ∀ text ∈ [template.subject, template.heading, template.body, template.ctaLabel,
    template.footnote], text ≠ ""
  address : 10 ≤ utf16Length template.mailingAddress

/-- Sound columns stand for a complete copy. -/
theorem EmailColumns.Sound.complete
    {columns : EmailColumns}
    (sound : columns.Sound)
    (config : MailConfig) :
    (columns.template config).Complete where
  filled := by
    have filled := sound.filled
    simp only [List.forall_mem_cons, List.not_mem_nil, false_implies, implies_true, and_true]
      at filled ⊢
    obtain ⟨subject, heading, body, ctaLabel, footnote, -⟩ := filled
    have stands {column : Option String} {text : String} (plain : text ≠ "")
        (filled : column ≠ some "") : column.getD text ≠ "" := by
      cases column with
      | none => exact plain
      | some value => exact fun empty => filled (congrArg some empty)
    exact ⟨stands (by decide) subject, stands (by decide) heading, stands (by decide) body,
      stands (by decide) ctaLabel, stands (by decide) footnote⟩
  address := by
    unfold EmailColumns.template
    cases written : columns.emailMailingAddress with
    | none => exact config.ten_le_defaultMailingAddress
    | some address => exact (sound.address address written).trans (utf16Length_jsTrim address)

/-- The mail lets its recipient opt out, names the sender's address, and has nothing in it
that the copy could break. -/
structure ColdMail.Compliant
    (app : Deployment)
    (config : MailConfig)
    (mail : ColdMail)
    (template : EmailTemplate) : Prop where
  subject : hasControl mail.subject = false
  optOut : mail.listUnsubscribe =
    "<" ++ BulkEmailProcessor.unsubscribeLink app mail.recipient ++ ">"
  footer : (BulkEmailProcessor.complianceFooter
      (BulkEmailProcessor.unsubscribeLink app mail.recipient) template.mailingAddress).toList <:+:
    mail.html.toList
  markup : ∀ other : EmailTemplate,
    ConferenceContact.markup mail.html =
      ConferenceContact.markup (other.mail app config mail.recipient).html

theorem Escaped.renderEmail_complianceFooter
    {α : Type}
    {body footer : α → String}
    (escapedBody : Escaped body)
    (escapedFooter : Escaped footer) :
    Escaped fun values => ConferenceContact.renderEmail (body values) (some (footer values)) := by
  unfold ConferenceContact.renderEmail
  dsimp only [Option.getD_some]
  repeat' first
    | exact .text _
    | exact escapedBody
    | exact escapedFooter
    | apply Escaped.append

/-- The copy occurs in a mail only escaped. -/
theorem EmailTemplate.escaped_html (app : Deployment) (recipient : String) :
    Escaped (EmailTemplate.html app recipient) := by
  have headed : Escaped fun template : EmailTemplate =>
      ConferenceContact.heading (escapeHtml template.heading) :=
    .heading (.escapeHtml _)
  have body : Escaped fun template : EmailTemplate =>
      ConferenceContact.heading (escapeHtml template.heading) ++
        paragraph (escapeHtml template.body) ++
        ctaButton (BulkEmailProcessor.link app recipient) (escapeHtml template.ctaLabel) ++
        ConferenceContact.footnote (escapeHtml template.footnote) := by
    refine .append (.append (.append headed ?_) ?_) ?_
    · exact ((Escaped.text _).andEscaped _).andText _
    · exact ((Escaped.text _).andEscaped _).andText _
    · exact ((Escaped.text _).andEscaped _).andText _
  have footer : Escaped fun template : EmailTemplate =>
      BulkEmailProcessor.complianceFooter (BulkEmailProcessor.unsubscribeLink app recipient)
        template.mailingAddress :=
    ((Escaped.text _).andEscaped _).andText _
  exact body.renderEmail_complianceFooter footer

/-- The footer is in the body. -/
theorem EmailTemplate.footer_in_html
    (app : Deployment)
    (recipient : String)
    (template : EmailTemplate) :
    (BulkEmailProcessor.complianceFooter (BulkEmailProcessor.unsubscribeLink app recipient)
      template.mailingAddress).toList <:+: (template.html app recipient).toList := by
  unfold EmailTemplate.html renderEmail
  rw [Option.getD_some, String.toList_append, String.toList_append, String.toList_append]
  exact (List.infix_append _ _ _).trans (List.prefix_append _ _).isInfix

theorem EmailTemplate.compliant_mail
    (app : Deployment)
    (config : MailConfig)
    (recipient : String)
    (template : EmailTemplate) :
    (template.mail app config recipient).Compliant app config template where
  subject := EmailProcessor.hasControl_sanitizeForSubject template.subject
  optOut := rfl
  footer := template.footer_in_html app recipient
  markup other := (EmailTemplate.escaped_html app recipient).markup_eq template other

/-! ## Edits of the copy -/

/-- What an edit makes of a text that has a default. -/
def UpdateEmailTemplateDto.edit
    (field : Option (Option String))
    (default text : String) : String :=
  (field.map fun value => (UpdateEmailTemplateDto.orNull value).getD default).getD text

/-- The copy after an edit. -/
def EmailTemplate.edited
    (config : MailConfig)
    (dto : UpdateEmailTemplateDto)
    (template : EmailTemplate) : EmailTemplate where
  subject := UpdateEmailTemplateDto.edit dto.subject defaultSubject template.subject
  heading := UpdateEmailTemplateDto.edit dto.heading defaultHeading template.heading
  body := UpdateEmailTemplateDto.edit dto.body defaultBody template.body
  ctaLabel := UpdateEmailTemplateDto.edit dto.ctaLabel defaultCtaLabel template.ctaLabel
  footnote := UpdateEmailTemplateDto.edit dto.footnote defaultFootnote template.footnote
  mailingAddress := UpdateEmailTemplateDto.edit dto.mailingAddress config.defaultMailingAddress
    template.mailingAddress

/-- A column that is written stands for the edited text. -/
theorem UpdateEmailTemplateDto.getD_edit
    (field : Option (Option String))
    (column : Option String)
    (default : String) :
    ((field.map UpdateEmailTemplateDto.orNull).getD column).getD default =
      UpdateEmailTemplateDto.edit field default (column.getD default) := by
  cases field <;> rfl

/-- The columns that are written stand for the edited copy. -/
theorem EmailColumns.template_data
    (config : MailConfig)
    (dto : UpdateEmailTemplateDto)
    (columns : EmailColumns) :
    (dto.data columns).template config = (columns.template config).edited config dto := by
  unfold EmailColumns.template EmailTemplate.edited UpdateEmailTemplateDto.data
  simp only [UpdateEmailTemplateDto.getD_edit]

/-- An edit that is answered shows the edited copy, and leaves it in effect. -/
theorem run_updateEmailTemplate_of_ok
    {config : MailConfig}
    {adminUserId : UserId}
    {dto : UpdateEmailTemplateDto}
    {input : Input}
    {desk after : CampaignDesk}
    {template : EmailTemplate}
    (answered : (ProspectCampaignService.updateEmailTemplate config adminUserId dto).run input
      desk = (.ok template, after)) :
    template = (desk.template config).edited config dto ∧ after.template config = template := by
  unfold ProspectCampaignService.updateEmailTemplate at answered
  rcases checkMailingAddress_cases dto.mailingAddress with ⟨checked, -⟩ | ⟨reason, checked⟩
  · rw [checked, Process.pure_bind] at answered
    cases answered
    exact ⟨EmailColumns.template_data config dto (desk.settings.getD {}), rfl⟩
  · rw [checked, throw_bind] at answered
    cases answered

/-! ## Runs -/

/-- The requests and jobs, at the same time. -/
def TemplateRequest.crew
    (app : Deployment)
    (config : MailConfig)
    (requests : List TemplateRequest)
    (desk : CampaignDesk) : Crew (CampaignDeskService Unit) CampaignDesk where
  state := desk
  members := requests.map (·.handle app config)

/-- Every mail since the start is made, for one of the jobs, of the copy of a state that
the run has been in; and the columns have been sound in all of them. -/
structure MadeOfCopies
    (app : Deployment)
    (config : MailConfig)
    (requests : List TemplateRequest)
    (start : CampaignDesk)
    (history : History Input CampaignDesk) : Prop where
  sound : ∀ desk ∈ history.states, desk.Sound
  made : ∀ mail ∈ history.current.sent, mail ∈ start.sent ∨
    ∃ desk ∈ history.states, ∃ recipient,
      .process (.prospectColdInvite recipient) ∈ requests ∧
        mail = (desk.template config).mail app config recipient

section

variable {app : Deployment} {config : MailConfig} {requests : List TemplateRequest}
  {start : CampaignDesk}

theorem MadeOfCopies.advance
    {history : History Input CampaignDesk}
    (madeOf : MadeOfCopies app config requests start history)
    (member : Nat)
    (input : Input)
    {next : CampaignDesk}
    (sound : history.current.Sound → next.Sound)
    (made : ∀ mail ∈ next.sent, mail ∈ history.current.sent ∨
      ∃ desk ∈ history.states, ∃ recipient,
        .process (.prospectColdInvite recipient) ∈ requests ∧
          mail = (desk.template config).mail app config recipient) :
    MadeOfCopies app config requests start (history.advance member input next) where
  sound := by
    intro desk present
    rcases List.mem_cons.mp present with rfl | old
    · exact sound (madeOf.sound history.current List.mem_cons_self)
    · exact madeOf.sound desk old
  made := by
    intro mail present
    rcases made mail present with old | ⟨desk, passed, isMade⟩
    · rcases madeOf.made mail old with initial | ⟨desk, passed, isMade⟩
      · exact .inl initial
      · exact .inr ⟨desk, List.mem_cons_of_mem next passed, isMade⟩
    · exact .inr ⟨desk, List.mem_cons_of_mem next passed, isMade⟩

/-- A call of the editor makes no mail. -/
theorem sustains_edits
    {process : CampaignDeskService α}
    (edits : process.Respects EditStep)
    (member : Nat)
    (history : History Input CampaignDesk) :
    Sustains (MadeOfCopies app config requests start) History.Extends (process.recorded member)
      history fun _ _ => True := by
  refine Sustains.of_respects edits.recorded fun before after moved madeOf => ?_
  obtain ⟨input, next, ⟨sent, sound⟩, rfl⟩ := moved
  refine ⟨madeOf.advance member input sound fun mail present => .inl ?_,
    before.extends_advance member input next⟩
  rw [sent] at present
  exact present

/-- The worker makes a mail of the copy that it has read. -/
theorem sustains_prospectColdInvite
    {recipient : String}
    (requested : .process (.prospectColdInvite recipient) ∈ requests)
    (member : Nat)
    (history : History Input CampaignDesk) :
    Sustains (MadeOfCopies app config requests start) History.Extends
      ((BulkEmailProcessor.process app config (.prospectColdInvite recipient)).recorded member)
      history fun _ _ => True := by
  rw [process_prospectColdInvite, recorded_bind]
  refine Sustains.bind (Sustains.recorded_query
    (fun template after => ∃ desk ∈ after.states, template = desk.template config) ?_) ?_
  · intro input later extended madeOf
    refine ⟨madeOf.advance member input id fun mail present => .inl present,
      later.extends_advance member input later.current, ?_⟩
    exact ⟨later.current, List.mem_cons_self, rfl⟩
  · rintro template after - ⟨desk, passed, rfl⟩
    refine Sustains.recorded_command fun input later extended madeOf => ?_
    refine ⟨madeOf.advance member input id fun mail present => ?_,
      later.extends_advance member input _⟩
    rcases List.mem_cons.mp present with rfl | old
    · exact .inr ⟨desk, extended.states passed, recipient, requested, rfl⟩
    · exact .inl old

theorem sustains_templateRequest
    {request : TemplateRequest}
    (requested : request ∈ requests)
    (member : Nat)
    (history : History Input CampaignDesk) :
    Sustains (MadeOfCopies app config requests start) History.Extends
      ((request.handle app config).recorded member) history fun _ _ => True := by
  cases request with
  | getCampaignEmailTemplate =>
      exact sustains_edits (Respects.bind (editSteps_getEmailTemplate config)
        fun _ => Respects.pure ()) member history
  | updateCampaignEmailTemplate adminUserId dto =>
      refine sustains_edits ?_ member history
      simp only [TemplateRequest.handle]
      split
      · exact Respects.bind (editSteps_updateEmailTemplate config adminUserId dto)
          fun _ => Respects.pure ()
      · exact Respects.throw _
  | process job =>
      cases job with
      | prospectColdInvite recipient => exact sustains_prospectColdInvite requested member history
      | _ => exact Sustains.pure trivial

end

/-- Whoever edits while the worker sends, every mail is made, for one of the jobs, of the
copy that the editor would have shown at some moment of the run.  From the state that is
reached, an edit that is answered takes effect with the next mail, and one that is refused
changes nothing. -/
theorem cold_mails_follow_copy
    (app : Deployment)
    (config : MailConfig)
    (requests : List TemplateRequest)
    {desk : CampaignDesk}
    (sound : desk.Sound)
    (schedule : List (CrewTurn Input ApiError)) :
    let reached := fun schedule =>
      (Process.machine.run (TemplateRequest.crew app config requests desk) schedule).state
    (∀ mail ∈ (reached schedule).sent, mail ∈ desk.sent ∨
      .process (.prospectColdInvite mail.recipient) ∈ requests ∧
        ∃ earlier template, earlier <+: schedule ∧
          (∀ input, ((ProspectCampaignService.getEmailTemplate config).run input
            (reached earlier)).1 = .ok template) ∧
          template.Complete ∧
          mail = template.mail app config mail.recipient ∧
          mail.Compliant app config template) ∧
    ∀ adminUserId dto input,
      let edit := (ProspectCampaignService.updateEmailTemplate config adminUserId dto).run input
        (reached schedule)
      (∀ template, edit.1 = .ok template →
        template = ((reached schedule).template config).edited config dto ∧
          ∀ recipient later,
            (BulkEmailProcessor.process app config (.prospectColdInvite recipient)).run later
                edit.2 =
              (.ok (), { edit.2 with
                sent := template.mail app config recipient :: edit.2.sent })) ∧
      ∀ error, edit.1 = .error error → edit.2 = reached schedule := by
  intro reached
  refine ⟨?_, fun adminUserId dto input => ⟨fun template answered => ?_, fun error refused => ?_⟩⟩
  · have opened : MadeOfCopies app config requests desk
        { current := (TemplateRequest.crew app config requests desk).state } :=
      { sound := by
          intro state present
          rw [List.mem_singleton.mp present]
          exact sound
        made := fun mail present => .inl present }
    obtain ⟨history, madeOf, current, passed, -⟩ := Sustains.crew_recorded opened
      (by
        intro member process present
        obtain ⟨request, requested, rfl⟩ := List.mem_map.mp (List.mem_of_getElem? present)
        exact sustains_templateRequest requested member _) schedule
    intro mail present
    rw [show reached schedule = history.current from current.symm] at present
    rcases madeOf.made mail present with initial | ⟨state, kept, recipient, requested, rfl⟩
    · exact .inl initial
    · obtain ⟨earlier, isEarlier, rfl⟩ := (passed state).mp kept
      refine .inr ⟨requested, earlier, _, isEarlier, fun input => ?_, ?_, rfl, ?_⟩
      · rw [run_getEmailTemplate]
      · exact (madeOf.sound _ kept).getD.complete config
      · exact EmailTemplate.compliant_mail app config recipient _
  · obtain ⟨edited, effective⟩ := run_updateEmailTemplate_of_ok (Prod.ext answered rfl)
    refine ⟨edited, fun recipient later => ?_⟩
    rw [process_prospectColdInvite, ← effective]
    rfl
  · exact run_updateEmailTemplate_of_error (Prod.ext refused rfl)

/-- The addresses of a mail. -/
def sampleMailConfig : MailConfig where
  resendFromEmail := "hello@conference.contact"
  supportEmail := "support@conference.contact"
  defaultMailingAddress := "1 Main Street, Springfield"

/-- An edit of the subject, and two invites. -/
def sampleTemplateRequests : List TemplateRequest :=
  [.updateCampaignEmailTemplate 9 { subject := some (some "Hello") },
    .process (.prospectColdInvite "ann@example.com"),
    .process (.prospectColdInvite "bob@example.com")]

/-- The first invite is read before the edit and sent after it. -/
def sampleMailing : List (CrewTurn Input ApiError) :=
  [{ member := 1, input := { now := 0 } }] ++
    List.replicate 3 { member := 0, input := { now := 0 } } ++
    [{ member := 1, input := { now := 0 } }] ++
    List.replicate 2 { member := 2, input := { now := 0 } }

/-- The first invite has the old subject, and the second one the new. -/
theorem cold_mails_follow_copy_sample :
    let crew := TemplateRequest.crew .defaults sampleMailConfig sampleTemplateRequests {}
    let after := (Process.machine.run crew sampleMailing).state
    after.sent.map (·.subject) = ["Hello", defaultSubject] ∧
      ∀ mail ∈ after.sent, mail ∈ ({} : CampaignDesk).sent ∨
        .process (.prospectColdInvite mail.recipient) ∈ sampleTemplateRequests ∧
          ∃ earlier template, earlier <+: sampleMailing ∧
            (∀ input, ((ProspectCampaignService.getEmailTemplate sampleMailConfig).run input
              (Process.machine.run crew earlier).state).1 = .ok template) ∧
            template.Complete ∧
            mail = template.mail .defaults sampleMailConfig mail.recipient ∧
            mail.Compliant .defaults sampleMailConfig template := by
  refine ⟨by decide +kernel, ?_⟩
  have sound : ({} : CampaignDesk).Sound := fun columns absent => by cases absent
  exact (cold_mails_follow_copy .defaults sampleMailConfig sampleTemplateRequests sound
    sampleMailing).1

end ConferenceContact
