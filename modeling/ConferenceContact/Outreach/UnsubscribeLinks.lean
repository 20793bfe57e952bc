import ConferenceContact.Outreach.ColdInvites

/-!
# Unsubscribe links

A cold invite carries a link with its address and the signature of that address.  What
is read back from the link is accepted whenever the body of the request passes its
validation, from then on nobody invites the address in any spelling, and no other
address is accepted with the signature.
-/

namespace ConferenceContact

open Process QueryStrings ProspectCampaignService

/-! ## Links and what is posted -/

/-- The parameters of a link, as its page posts them. -/
def UnsubscribeDto.ofLink (url : String) : Option UnsubscribeDto := do
  let parameters ← searchParams url
  let email ← parameters.lookup "email"
  let token ← parameters.lookup "token"
  return { email, token }

section

variable {app : Deployment}

/-- The link of a mail gives back its recipient and the signature. -/
theorem ofLink_mail
    (origin : ∀ character ∈ app.frontendUrl.toList, character ≠ '?' ∧ character ≠ '#')
    {recipient : String}
    {mail : ColdInviteMail}
    (sent : BulkEmailProcessor.mail app (.prospectColdInvite recipient) = some mail) :
    UnsubscribeDto.ofLink mail.unsubscribeLink =
      some ⟨recipient, signUnsubscribeToken app recipient⟩ := by
  cases sent
  have plain : ∀ character ∈ (app.frontendUrl ++ "/unsubscribe").toList,
      character ≠ '?' ∧ character ≠ '#' := by
    intro character present
    rw [String.toList_append, List.mem_append] at present
    rcases present with present | present
    · exact origin character present
    · revert character
      exact List.all_iff_forall_prop.mp (by decide)
  have shape : app.frontendUrl ++ "/unsubscribe?email=" ++ encodeURIComponent recipient ++
        "&token=" ++ encodeURIComponent (signUnsubscribeToken app recipient) =
      link (app.frontendUrl ++ "/unsubscribe")
        [("email", recipient), ("token", signUnsubscribeToken app recipient)] := by
    have email : (encodeURIComponent "email").toList = "email".toList := by decide
    have token : (encodeURIComponent "token").toList = "token".toList := by decide
    rw [← String.toList_inj]
    simp [link, field, email, token, List.intercalate_cons_cons]
  unfold UnsubscribeDto.ofLink
  dsimp only
  rw [shape, searchParams_link plain]
  rfl

theorem sign_normalize (lowercases : app.Lowercases) (email : String) :
    signUnsubscribeToken app (app.normalize email) = signUnsubscribeToken app email :=
  congrArg app.unsubscribeHmac (lowercases.isNormal_normalize email)

/-- What is accepted: a valid body whose token is the signature of its address. -/
theorem post_accepted_iff
    (lowercases : app.Lowercases)
    (dto : UnsubscribeDto)
    (input : Input)
    (world : World) :
    ((UnsubscribeController.post app dto).run input world).1 = .ok () ↔
      dto.isValid app = true ∧ signUnsubscribeToken app dto.email = dto.token := by
  have same : signUnsubscribeToken app (app.toLowerCase (jsTrim dto.email)) =
      signUnsubscribeToken app dto.email := sign_normalize lowercases dto.email
  unfold UnsubscribeController.post UnsubscribeController.unsubscribe
  dsimp only
  rw [same]
  by_cases valid : dto.isValid app = true
  · rw [if_pos valid]
    by_cases signed : signUnsubscribeToken app dto.email = dto.token
    · rw [if_neg (not_not.mpr signed)]
      exact ⟨fun _ => ⟨valid, signed⟩, fun _ => rfl⟩
    · rw [if_pos signed]
      exact ⟨nofun, fun accepted => absurd accepted.2 signed⟩
  · rw [if_neg valid]
    exact ⟨nofun, fun accepted => absurd accepted.1 valid⟩

end

/-! ## Afterwards -/

section

variable {app : Deployment} {start : World}

/-- An address is suppressed, and was so when the latest request arrived, unless that was
an unsubscription. -/
structure SuppressedSince
    (email : String)
    (run : Serial OutreachRequest Input ApiError World (Option DripResult)) : Prop where
  now : email ∈ run.state.emailSuppressions.map (·.email)
  begun : ∀ handling, run.current = some handling →
    (∃ dto, handling.request = .unsubscribe dto) ∨
      email ∈ handling.begun.emailSuppressions.map (·.email)

/-- A suppressed address stays suppressed. -/
theorem SuppressedSince.step
    {email : String}
    {run : Serial OutreachRequest Input ApiError World (Option DripResult)}
    (suppressed : SuppressedSince email run)
    (event : SerialEvent OutreachRequest Input ApiError)
    (tends : app.Tends run.state (run.step (OutreachRequest.handle app) event).state) :
    SuppressedSince email (run.step (OutreachRequest.handle app) event) := by
  refine ⟨List.map_subset _ tends.suppressed suppressed.now, ?_⟩
  unfold Serial.step
  cases event with
  | arrive request =>
      dsimp only
      split
      · rintro handling ⟨⟩
        exact .inr suppressed.now
      · exact suppressed.begun
  | call input rejected =>
      dsimp only
      cases current : run.current with
      | none =>
          intro handling same
          rw [current] at same
          cases same
      | some earlier =>
          have begun := suppressed.begun earlier current
          cases rejected with
          | none =>
              rintro handling ⟨⟩
              exact begun
          | some error =>
              rintro handling ⟨⟩
              exact begun

/-- Once an address is unsubscribed, nobody invites it, in whatever spelling. -/
theorem unsubscribed_forever
    (lowercases : app.Lowercases)
    (normal : start.Normal app)
    {events : List (SerialEvent OutreachRequest Input ApiError)}
    {unsubscription : Handling OutreachRequest Input ApiError World (Option DripResult)}
    {dto : UnsubscribeDto}
    {report : Option DripResult}
    (current : (Serial.run (OutreachRequest.handle app) start events).current =
      some unsubscription)
    (request : unsubscription.request = .unsubscribe dto)
    (accepted : unsubscription.left.result = some (.ok report))
    (later : List (SerialEvent OutreachRequest Input ApiError))
    {email : String}
    (same : app.normalize email = app.normalize dto.email) :
    (∀ event,
      ¬(Serial.run (OutreachRequest.handle app) start (events ++ later)).state.coldInvites email <
        ((Serial.run (OutreachRequest.handle app) start (events ++ later)).step
          (OutreachRequest.handle app) event).state.coldInvites email) ∧
      ∀ handling adminUserId outcome,
        (Serial.run (OutreachRequest.handle app) start (events ++ later)).current =
          some handling →
        handling.request = .inviteProspect adminUserId email →
        handling.left.result = some outcome →
        ∃ error, outcome = .error error := by
  have serves := outreach_serves lowercases
  have onTrack (events) := Serial.run_onTrack serves normal events
  have suppressed : SuppressedSince (app.normalize dto.email)
      (Serial.run (OutreachRequest.handle app) start (events ++ later)) := by
    induction later using List.reverseRecOn with
    | nil =>
        rw [List.append_nil]
        have meets := (onTrack events).outcome current accepted
        rw [request] at meets
        refine ⟨meets ⟨report, rfl⟩, fun handling found => .inl ⟨dto, ?_⟩⟩
        rw [current] at found
        cases found
        exact request
    | append_singleton later event inductionHypothesis =>
        rw [← List.append_assoc, Serial.run, List.foldl_append]
        exact inductionHypothesis.step event
          (Serial.step_onTrack serves (onTrack (events ++ later)) event).2.2
  have insider (world : World)
      (present : app.normalize dto.email ∈ world.emailSuppressions.map (·.email)) :
      ¬app.IsOutsider world email := by
    intro outsider
    obtain ⟨row, stored, equal⟩ := List.mem_map.mp present
    refine outsider.suppression row stored ?_
    rw [equal, same]
    exact lowercases.isNormal_normalize dto.email
  refine ⟨fun event more => ?_, fun handling adminUserId outcome found invitation ended => ?_⟩
  · exact insider _ suppressed.now
      ((Serial.step_onTrack serves (onTrack (events ++ later)) event).2.1 email more)
  · have meets := (onTrack (events ++ later)).outcome found ended
    rw [invitation] at meets
    rcases suppressed.begun handling found with ⟨dto, unsubscription⟩ | begun
    · rw [invitation] at unsubscription
      cases unsubscription
    · exact meets (insider _ begun)

/-- The link of the mail to an address works: what is posted from it is accepted, and from
then on the drip and single invitations refuse the address in every spelling. -/
def UnsubscribeLinkWorks (app : Deployment) (start : World) (recipient : String) : Prop :=
  ∃ mail dto,
    BulkEmailProcessor.mail app (.prospectColdInvite recipient) = some mail ∧
    UnsubscribeDto.ofLink mail.unsubscribeLink = some dto ∧
    (∀ input world, ((UnsubscribeController.post app dto).run input world).1 = .ok ()) ∧
    ∀ events unsubscription report,
      (Serial.run (OutreachRequest.handle app) start events).current = some unsubscription →
      unsubscription.request = .unsubscribe dto →
      unsubscription.left.result = some (.ok report) →
      ∀ later email, app.normalize email = app.normalize recipient →
        (∀ event,
          ¬(Serial.run (OutreachRequest.handle app) start
              (events ++ later)).state.coldInvites email <
            ((Serial.run (OutreachRequest.handle app) start (events ++ later)).step
              (OutreachRequest.handle app) event).state.coldInvites email) ∧
        ∀ handling adminUserId outcome,
          (Serial.run (OutreachRequest.handle app) start (events ++ later)).current =
            some handling →
          handling.request = .inviteProspect adminUserId email →
          handling.left.result = some outcome →
          ∃ error, outcome = .error error

/-- A link does not work where what it holds is no valid body. -/
theorem not_unsubscribeLinkWorks
    (origin : ∀ character ∈ app.frontendUrl.toList, character ≠ '?' ∧ character ≠ '#')
    {recipient : String}
    (invalid : (UnsubscribeDto.mk recipient
      (signUnsubscribeToken app recipient)).isValid app = false) :
    ¬UnsubscribeLinkWorks app start recipient := by
  rintro ⟨mail, dto, sent, posted, accepted, -⟩
  rw [ofLink_mail origin sent] at posted
  obtain rfl := Option.some.inj posted
  have refused := accepted { now := 0 } start
  unfold UnsubscribeController.post at refused
  rw [invalid] at refused
  cases refused

/-- The link works exactly for the addresses that the body of the request may hold; a
signature is accepted for no address but its own. -/
theorem unsubscribe_link_works_iff
    (lowercases : app.Lowercases)
    (origin : ∀ character ∈ app.frontendUrl.toList, character ≠ '?' ∧ character ≠ '#')
    (injective : Function.Injective app.unsubscribeHmac)
    (normal : start.Normal app)
    {recipient : String}
    (short : app.maxLength (signUnsubscribeToken app recipient) 200 = true) :
    (UnsubscribeLinkWorks app start recipient ↔
      app.isEmail recipient = true ∧ app.maxLength recipient 200 = true) ∧
      ∀ other input world,
        ((UnsubscribeController.post app
          ⟨other, signUnsubscribeToken app recipient⟩).run input world).1 = .ok () →
        app.normalize other = app.normalize recipient := by
  have valid : (UnsubscribeDto.mk recipient (signUnsubscribeToken app recipient)).isValid app =
      true ↔ app.isEmail recipient = true ∧ app.maxLength recipient 200 = true := by
    unfold UnsubscribeDto.isValid
    rw [Bool.and_eq_true, Bool.and_eq_true, and_iff_left short]
  refine ⟨⟨?_, fun holds => ?_⟩, fun other input world accepted => ?_⟩
  · rintro ⟨mail, dto, sent, posted, accepted, -⟩
    rw [ofLink_mail origin sent] at posted
    cases posted
    exact valid.mp ((post_accepted_iff lowercases _ { now := 0 } start).mp
      (accepted { now := 0 } start)).1
  · refine ⟨_, _, rfl, ofLink_mail origin rfl, fun input world => ?_, ?_⟩
    · exact (post_accepted_iff lowercases _ input world).mpr ⟨valid.mpr holds, rfl⟩
    · intro events unsubscription report current request accepted later email same
      exact unsubscribed_forever lowercases normal current request accepted later same
  · exact injective ((post_accepted_iff lowercases _ input world).mp accepted).2

end

/-- The link to an ordinary address works. -/
theorem unsubscribe_link_works_iff_ann :
    UnsubscribeLinkWorks asciiDeployment quietBackend "ann@example.com" :=
  (unsubscribe_link_works_iff lowercases_ascii (List.all_iff_forall_prop.mp (by decide))
    Function.injective_id quietBackend_normal (by decide)).1.mpr ⟨by decide, by decide⟩

/-! ## An address that grows -/

/-- `toLowerCase` makes two characters of a dotted capital I. -/
def dottedLowercase (text : String) : String :=
  String.ofList (text.toList.flatMap fun character =>
    if character = 'İ' then ['i', Char.ofNat 0x307] else [character.toLower])

/-- A deployment whose `toLowerCase` is that. -/
def dottedDeployment : Deployment := { asciiDeployment with toLowerCase := dottedLowercase }

/-- An address of 196 characters, of which 206 are stored. -/
def dottedCharacters : List Char :=
  List.replicate 10 'İ' ++ '@' :: List.replicate 60 'x' ++ '.' :: List.replicate 60 'y' ++
    '.' :: List.replicate 59 'z' ++ ".com".toList

/-- An address with the dotted capital. -/
def dottedAddress : String := String.ofList dottedCharacters

/-- An administrator invites the address. -/
def dottedInvitation : List (SerialEvent OutreachRequest Input ApiError) :=
  .arrive (.inviteProspect 0 dottedAddress) :: List.replicate 4 (.call { now := 1000 })

theorem length_dottedAddress : dottedAddress.length = 196 :=
  String.length_ofList.trans (by decide +kernel)

theorem length_normalize_dottedAddress :
    (dottedDeployment.normalize dottedAddress).length = 206 := by
  have stored : dottedDeployment.normalize dottedAddress =
      String.ofList
        (((dottedCharacters.dropWhile isJsWhitespace).reverse.dropWhile
          isJsWhitespace).reverse.flatMap fun character =>
            if character = 'İ' then ['i', Char.ofNat 0x307] else [character.toLower]) := by
    show dottedLowercase (jsTrim dottedAddress) = _
    unfold dottedLowercase jsTrim dottedAddress
    simp only [String.toList_ofList]
  rw [stored]
  exact String.length_ofList.trans (by decide +kernel)

/-- The address may be invited, but the link of its mail does not work: what is posted from
it is too long. -/
theorem dotted_address_cannot_unsubscribe :
    dottedDeployment.isEmail dottedAddress = true ∧
      dottedDeployment.maxLength dottedAddress 200 = true ∧
      (Serial.run (OutreachRequest.handle dottedDeployment) {} dottedInvitation).state.outbox =
        [.prospectColdInvite (dottedDeployment.normalize dottedAddress)] ∧
      ¬UnsubscribeLinkWorks dottedDeployment {} (dottedDeployment.normalize dottedAddress) := by
  have contains (characters : List Char) :
      dottedDeployment.isEmail (String.ofList characters) = characters.contains '@' :=
    congrArg (·.contains '@') String.toList_ofList
  have bounded (text : String) (limit : Nat) :
      dottedDeployment.maxLength text limit = decide (text.length ≤ limit) := rfl
  have long : dottedDeployment.maxLength (dottedDeployment.normalize dottedAddress) 200 =
      false := by
    rw [bounded, length_normalize_dottedAddress]
    decide
  refine ⟨?_, ?_, rfl, not_unsubscribeLinkWorks
    (List.all_iff_forall_prop.mp (by decide)) ?_⟩
  · exact (contains dottedCharacters).trans (by decide +kernel)
  · rw [bounded, length_dottedAddress]
    decide
  · unfold UnsubscribeDto.isValid
    rw [long, Bool.and_false, Bool.false_and]

end ConferenceContact
