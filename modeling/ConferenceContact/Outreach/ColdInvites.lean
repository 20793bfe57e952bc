import ConferenceContact.Outreach.DailyDrip

/-!
# Whom cold invites reach

Requests are handled one at a time.  Whatever the spelling in which an address was
uploaded, registered, unsubscribed or reported as bounced, no cold invite to it is
enqueued while an account or a suppression has it.
-/

namespace ConferenceContact

open Process ProspectCampaignService

/-! ## What is asked of the requests -/

/-- A drip that is not paused decides a batch, an invitation to anybody but an outsider is
refused, and an address that is unsubscribed is suppressed. -/
def OutreachRequest.Meets (app : Deployment) :
    OutreachRequest → World → Bool → Except ApiError (Option DripResult) → World → Prop
  | runDailyDrip, begun, faulty, result, after =>
      (begun.prospectInviteCampaignSettings.getD {}).paused = false →
        Returns
          (fun report after =>
            ∃ result batch rest, report = some result ∧ Decided begun after result batch rest)
          faulty result after
  | inviteProspect _ email, begun, _, result, _ =>
      ¬app.IsOutsider begun email → ∃ error, result = .error error
  | unsubscribe dto, _, _, result, after =>
      (∃ report, result = .ok report) →
        app.normalize dto.email ∈ after.emailSuppressions.map (·.email)
  | _, _, _, _, _ => True

/-- What every call of a request does. -/
def Deployment.Reaches (app : Deployment) (before after : World) : Prop :=
  app.Offers before after ∧ app.Tends before after

instance (app : Deployment) : Std.Refl app.Reaches where
  refl world := ⟨refl_of app.Offers world, refl_of app.Tends world⟩

section

variable {app : Deployment} {world : World}

/-- Requests that invite nobody. -/
theorem serves_of_stores
    (normal : world.Normal app)
    {process : Service α}
    (stores : process.Respects app.Stores)
    (result : α → Option DripResult) :
    (process >>= fun value => (pure (result value) : Service _)).Performs app.Reaches false world
      fun _ _ after => after.Normal app := by
  have respects : (process >>= fun value => (pure (result value) : Service _)).Respects
      app.Stores := Respects.bind stores fun value => Respects.pure _
  refine (Performs.of_respects respects fun before after stores => ?_).weaken ?_
  · exact ⟨offers_of_stores stores, stores.toTends⟩
  · exact fun _ _ after stores => stores.normal normal

/-- A single invitation. -/
theorem performs_inviteProspect
    (lowercases : app.Lowercases)
    (normal : world.Normal app)
    (adminUserId : UserId)
    (email : String) :
    (AdminService.inviteProspect app adminUserId email).Performs app.Offers false world
      fun _ result _ => ¬app.IsOutsider world email → ∃ error, result = .error error := by
  have isNormal := lowercases.isNormal_normalize email
  refine Performs.query_bind (fun input => ?_) fun error _ => ⟨error, rfl⟩
  refine Performs.query_bind (fun input => ?_) fun error _ => ⟨error, rfl⟩
  refine Performs.ite (fun _ _ => ⟨_, rfl⟩) fun account => ?_
  refine Performs.ite (fun _ _ => ⟨_, rfl⟩) fun suppression => ?_
  have outsider : app.IsOutsider world (app.normalize email) := by
    refine isOutsider_of_not_mem normal isNormal (fun present => ?_) fun present => ?_
    · obtain ⟨user, stored, same⟩ := List.mem_map.mp present
      exact account (List.find?_isSome.mpr ⟨user, stored, decide_eq_true same⟩)
    · obtain ⟨row, stored, same⟩ := List.mem_map.mp present
      exact suppression (List.find?_isSome.mpr ⟨row, stored, decide_eq_true same⟩)
  have same : app.IsOutsider world email :=
    ⟨fun user present => isNormal ▸ outsider.account user present,
      fun row present => isNormal ▸ outsider.suppression row present⟩
  have offered : (EmailService.sendProspectInvite (app.normalize email)).Performs app.Offers
      false world (Returns fun _ after => ∃ outbox, after = { world with outbox }) := by
    refine performs_enqueueChunks fun chunk listed other present => ?_
    have job := List.mem_singleton.mp (mem_of_mem_slices listed present)
    cases job
    exact outsider
  refine Performs.bind offered (fun faulty _ after _ => ?_) fun _ _ _ _ known =>
    absurd same known
  exact (performs_record _ _).weaken fun _ _ _ _ known => absurd same known

/-- An unsubscription suppresses its address, or is refused. -/
theorem performs_unsubscribe (dto : UnsubscribeDto) :
    (UnsubscribeController.post app dto).Performs app.Offers false world
      fun _ result after => (∃ value, result = .ok value) →
        app.normalize dto.email ∈ after.emailSuppressions.map (·.email) := by
  have refused (error : ApiError) (after : World) :
      (∃ value : Unit, Except.error error = .ok value) →
        app.normalize dto.email ∈ after.emailSuppressions.map (·.email) := by
    rintro ⟨value, failed⟩
    cases failed
  refine Performs.ite (fun _ => Performs.ite (fun _ => refused _ _) fun _ => ?_)
    fun _ => refused _ _
  have same : app.toLowerCase (jsTrim dto.email) = app.normalize dto.email := rfl
  rw [same]
  refine Performs.command (fun input => ?_) (fun input _ => ?_) fun error => refused error _
  · split
    · exact refl_of app.Offers world
    · exact offers_of_outbox rfl
  · split
    · rename_i stored
      obtain ⟨row, present, same⟩ := List.any_eq_true.mp stored
      exact List.mem_map.mpr ⟨row, present, of_decide_eq_true same⟩
    · exact List.mem_map.mpr ⟨_, List.mem_cons_self, rfl⟩

/-- Every request performs what is asked of it. -/
theorem outreach_serves (lowercases : app.Lowercases) :
    Serial.Serves (World.Normal app) app.Reaches (OutreachRequest.Meets app)
      (OutreachRequest.handle app) := by
  intro request state normal
  cases request with
  | upload uploadedByUserId rawEmails =>
      exact (serves_of_stores normal (stores_enqueueUploadedEmails lowercases _ _)
        fun _ => none).weaken fun _ _ _ holds => ⟨holds, trivial⟩
  | register dto =>
      exact (serves_of_stores normal (stores_register lowercases dto) fun _ => none).weaken
        fun _ _ _ holds => ⟨holds, trivial⟩
  | deleteUser adminUserId targetUserId =>
      exact (serves_of_stores normal (stores_deleteUser lowercases _ _) fun _ => none).weaken
        fun _ _ _ holds => ⟨holds, trivial⟩
  | deleteAccount userId password =>
      exact (serves_of_stores normal (stores_deleteAccount lowercases _ _) fun _ => none).weaken
        fun _ _ _ holds => ⟨holds, trivial⟩
  | unsubscribe dto =>
      have performs : (OutreachRequest.handle app (.unsubscribe dto)).Performs app.Offers false
          state fun _ result after => (∃ report, result = .ok report) →
            app.normalize dto.email ∈ after.emailSuppressions.map (·.email) := by
        refine Performs.bind (performs_unsubscribe dto)
          (fun _ value _ suppressed => Performs.pure fun _ => suppressed ⟨value, rfl⟩)
          fun _ error _ _ => ?_
        rintro ⟨report, failed⟩
        cases failed
      have respects : (OutreachRequest.handle app (.unsubscribe dto)).Respects app.Tends :=
        Respects.bind (tends_of_stores (stores_unsubscribe lowercases dto)) fun _ => Respects.pure _
      exact (performs.and_respects respects).weaken fun _ _ _ ⟨suppressed, tends⟩ =>
        ⟨tends.normal normal, suppressed⟩
  | resendWebhook event =>
      exact (serves_of_stores normal (stores_handleResendWebhook lowercases event)
        fun _ => none).weaken fun _ _ _ holds => ⟨holds, trivial⟩
  | updateSettings adminUserId dto =>
      exact (serves_of_stores normal (stores_updateSettings _ dto) fun _ => none).weaken
        fun _ _ _ holds => ⟨holds, trivial⟩
  | inviteProspect adminUserId email =>
      have performs : (OutreachRequest.handle app (.inviteProspect adminUserId email)).Performs
          app.Offers false state fun _ result _ =>
            ¬app.IsOutsider state email → ∃ error, result = .error error := by
        refine Performs.bind (performs_inviteProspect lowercases normal adminUserId email)
          (fun _ _ _ refused known => ?_) fun _ error _ _ _ => ⟨error, rfl⟩
        obtain ⟨error, failed⟩ := refused known
        cases failed
      have respects : (OutreachRequest.handle app (.inviteProspect adminUserId email)).Respects
          app.Tends := Respects.bind (tends_inviteProspect _ _) fun _ => Respects.pure _
      exact (performs.and_respects respects).weaken fun _ _ _ ⟨refused, tends⟩ =>
        ⟨tends.normal normal, refused⟩
  | runDailyDrip =>
      have performs : (OutreachRequest.handle app .runDailyDrip).Performs app.Offers false state
          (Returns fun report after =>
            (state.prospectInviteCampaignSettings.getD {}).paused = false →
              ∃ result batch rest,
                report = some result ∧ Decided state after result batch rest) := by
        refine Performs.bind_returns (performs_runDailyDrip normal) fun _ result after decided => ?_
        refine Performs.pure fun running => ?_
        obtain ⟨batch, rest, decided⟩ := decided running
        exact ⟨result, batch, rest, rfl, decided⟩
      have respects : (OutreachRequest.handle app .runDailyDrip).Respects app.Tends :=
        Respects.bind tends_runDailyDrip fun _ => Respects.pure _
      refine (performs.and_respects respects).weaken ?_
      rintro faulty (error | report) after ⟨holds, tends⟩
      · exact ⟨tends.normal normal, fun _ => holds⟩
      · exact ⟨tends.normal normal, fun running => holds running⟩

/-- Cold invites are enqueued to nobody whose address an account or a suppression has at
that moment, however it is spelled; and a drip that is not paused, if its calls take
place, decides the oldest pending rows, as many as it may, and counts every one of them
once. -/
theorem cold_invites_reach_outsiders
    (lowercases : app.Lowercases)
    {start : World}
    (normal : start.Normal app)
    (events : List (SerialEvent OutreachRequest Input ApiError)) :
    (∀ event email,
      (Serial.run (OutreachRequest.handle app) start events).state.coldInvites email <
          ((Serial.run (OutreachRequest.handle app) start events).step
            (OutreachRequest.handle app) event).state.coldInvites email →
        app.IsOutsider (Serial.run (OutreachRequest.handle app) start events).state email) ∧
      ∀ handling,
        (Serial.run (OutreachRequest.handle app) start events).current = some handling →
        handling.request = .runDailyDrip →
        (handling.begun.prospectInviteCampaignSettings.getD {}).paused = false →
        (∀ report, handling.left.result = some (.ok report) →
          ∃ result batch rest, report = some result ∧
            Decided handling.begun (Serial.run (OutreachRequest.handle app) start events).state
              result batch rest ∧
            result.sent + result.skippedExisting + result.skippedUnsubscribed =
              result.batchSize) ∧
        ∀ error, handling.left.result = some (.error error) → handling.faulty = true := by
  have onTrack := Serial.run_onTrack (outreach_serves lowercases) normal events
  refine ⟨fun event => (Serial.step_onTrack (outreach_serves lowercases) onTrack event).2.1, ?_⟩
  intro handling current drip running
  have meets (outcome : Except ApiError (Option DripResult))
      (ended : handling.left.result = some outcome) := onTrack.outcome current ended
  rw [drip] at meets
  refine ⟨fun report ended => ?_, fun error ended => meets _ ended running⟩
  obtain ⟨result, batch, rest, same, decided⟩ := meets _ ended running
  exact ⟨result, batch, rest, same, decided, decided.adds_up⟩

end

/-! ## A sample campaign -/

/-- A deployment for ASCII addresses. -/
def asciiDeployment : Deployment :=
  { Deployment.defaults with
    toLowerCase := asciiLowercase
    isEmail := fun text => text.toList.contains '@' }

theorem lowercases_ascii : asciiDeployment.Lowercases where
  idempotent text := by
    show asciiLowercase (asciiLowercase text) = asciiLowercase text
    unfold asciiLowercase
    rw [String.toList_ofList, List.map_map]
    congr 2
    funext character
    exact toLower_toLower character
  trims text := by
    show asciiLowercase (jsTrim text) = jsTrim (asciiLowercase text)
    have same : isJsWhitespace ∘ Char.toLower = isJsWhitespace :=
      funext isJsWhitespace_toLower
    unfold asciiLowercase jsTrim
    rw [String.toList_ofList, String.toList_ofList, List.dropWhile_map, same, ← List.map_reverse,
      List.dropWhile_map, same, ← List.map_reverse]
  ascii _ _ := rfl

/-- A backend with an administrator. -/
def quietBackend : World :=
  { users := [{ id := 0, email := "admin@example.com", passwordHash := "correct horse" }] }

theorem quietBackend_normal : quietBackend.Normal asciiDeployment where
  users := by decide +kernel
  suppressions := nofun
  queue := nofun
  ids := List.nodup_nil
  issued := nofun
  emails := List.nodup_nil

/-- Two addresses are uploaded, the owner of one registers, and the drip comes to its
offer. -/
def sampleCampaign : List (SerialEvent OutreachRequest Input ApiError) :=
  .arrive (.upload 0 [" Ann@Example.com ", "bob@example.com"]) ::
      List.replicate 5 (.call { now := 1000 }) ++
    .arrive (.register ⟨"BOB@example.com", "correct horse"⟩) ::
      List.replicate 3 (.call { now := 2000 }) ++
    .arrive .runDailyDrip :: List.replicate 5 (.call { now := 3000 })

/-- The one that is then invited is an outsider. -/
theorem cold_invites_reach_outsiders_sample :
    asciiDeployment.IsOutsider
      (Serial.run (OutreachRequest.handle asciiDeployment) quietBackend sampleCampaign).state
      "ann@example.com" :=
  (cold_invites_reach_outsiders lowercases_ascii quietBackend_normal sampleCampaign).1
    (.call { now := 4000 }) "ann@example.com" (by decide +kernel)

end ConferenceContact
