import ConferenceContact.Auth.Requests

/-!
# The new-device challenge

A login with the right password signs in at once when the Device row of its
cookie exists, and the row is created before the challenge is answered.  So the
challenge stands between a device and its first session exactly as long as no
login comes from a cookie whose Device row has no session yet.
-/

namespace ConferenceContact

/-- The session is new after a request. -/
def Created (before after : World) (session : Session) : Prop :=
  session ∈ after.sessions ∧ ∀ old ∈ before.sessions, old.id ≠ session.id

/-- Some verification of this user and this device has been accepted, and the
Device row has been there since. -/
def ChallengePassed (app : Deployment) (start : World) :
    List Arrival → UserId → DeviceId → Prop
  | [], _, _ => False
  | arrival :: earlier, userId, deviceId =>
      (∃ device ∈ (serve app start (arrival :: earlier)).devices,
        device.id = deviceId) ∧
      ((∃ dto requestMeta, arrival.request = .verifyLogin dto requestMeta ∧
          AcceptsChallenge app dto arrival.input (serve app start earlier)
            userId deviceId) ∨
        ChallengePassed app start earlier userId deviceId)

/-- Every login with the right password from a cookie that is on file finds a
session, of whatever age, recorded for that Device row. -/
def LoginsFindSession (app : Deployment) (start : World) : List Arrival → Prop
  | [] => True
  | arrival :: earlier =>
      (∀ dto requestMeta user device,
        arrival.request = .login dto requestMeta →
        PassesPassword app dto arrival.input.now (serve app start earlier) user →
        OnFile requestMeta (serve app start earlier) user device →
        ∃ session ∈ (serve app start earlier).sessions,
          session.userId = user.id ∧ session.deviceId = some device.id) ∧
      LoginsFindSession app start earlier

variable {app : Deployment} {start : World}

/-- Every session recorded for a device belongs to a user who has passed the
challenge of that device. -/
theorem challengePassed_of_session
    (initial : start.Initial)
    {arrivals : List Arrival}
    (reuse : LoginsFindSession app start arrivals)
    {session : Session}
    (present : session ∈ (serve app start arrivals).sessions)
    {device : DeviceId}
    (refers : session.deviceId = some device) :
    ChallengePassed app start arrivals session.userId device := by
  induction arrivals generalizing session with
  | nil =>
      rw [serve_nil, initial.1] at present
      cases present
  | cons arrival earlier inductionHypothesis =>
      have consistent := serve_consistent app initial.consistent earlier
      have moves := arrival.request.handle_moves app arrival.input consistent
      refine ⟨(moves.consistent consistent).deviceExists session present device refers, ?_⟩
      -- A row is what became of an earlier one, or this request issued it.
      rcases SessionStore.Steps.origin moves consistent present with
        ⟨before, stored, evolves⟩ | ⟨issued, allowed, evolves⟩
      · have passed := inductionHypothesis reuse.2 stored (evolves.deviceId_eq refers)
        rw [evolves.userId]
        exact .inr passed
      · have issuedFor := evolves.deviceId_eq refers
        rw [evolves.userId]
        rw [issuedFor] at allowed
        cases request : arrival.request with
        | login dto requestMeta =>
            rw [request] at allowed
            obtain ⟨user, known, passes, onFile, sameUser, sameDevice⟩ := allowed
            obtain ⟨recorded, stored, ofUser, ofDevice⟩ :=
              reuse.1 dto requestMeta user known request passes onFile
            have passed := inductionHypothesis reuse.2 stored
              (ofDevice.trans sameDevice.symm)
            rw [ofUser, sameUser] at passed
            exact .inr passed
        | verifyLogin dto requestMeta =>
            rw [request] at allowed
            obtain ⟨verified, accepted, same⟩ := allowed
            cases same
            exact .inl ⟨dto, requestMeta, rfl, accepted⟩
        | refresh rawToken =>
            rw [request] at allowed
            obtain ⟨rotated, stored, sameUser, sameDevice⟩ := allowed
            have passed := inductionHypothesis reuse.2 stored sameDevice
            rw [sameUser] at passed
            exact .inr passed
        | _ => exact (by rw [request] at allowed; exact allowed.elim)

/-- While every login from a known cookie finds a session of its device, a
session is created for a user and a device only once that user has passed the
challenge of that device. -/
theorem session_created_after_challenge
    (app : Deployment)
    (start : World)
    (initial : start.Initial)
    (arrival : Arrival)
    (earlier : List Arrival)
    (reuse : LoginsFindSession app start (arrival :: earlier))
    (session : Session)
    (created : Created (serve app start earlier)
      (serve app start (arrival :: earlier)) session)
    (device : DeviceId)
    (refers : session.deviceId = some device) :
    ChallengePassed app start (arrival :: earlier) session.userId device :=
  challengePassed_of_session initial reuse created.1 refers

/-- A login that is challenged and then answered: it creates the first session
of its device. -/
theorem session_created_after_challenge_answered :
    ∃ session,
      Created
        (serve sampleApp sampleWorld [⟨{ now := 0 }, sampleLogin "laptop"⟩])
        (serve sampleApp sampleWorld
          [⟨{ now := 1000 }, sampleVerifyLogin "laptop" 0⟩,
            ⟨{ now := 0 }, sampleLogin "laptop"⟩]) session ∧
      ChallengePassed sampleApp sampleWorld
        [⟨{ now := 1000 }, sampleVerifyLogin "laptop" 0⟩,
          ⟨{ now := 0 }, sampleLogin "laptop"⟩] session.userId 0 := by
  have created : Created
      (serve sampleApp sampleWorld [⟨{ now := 0 }, sampleLogin "laptop"⟩])
      (serve sampleApp sampleWorld
        [⟨{ now := 1000 }, sampleVerifyLogin "laptop" 0⟩,
          ⟨{ now := 0 }, sampleLogin "laptop"⟩])
      ((serve sampleApp sampleWorld
        [⟨{ now := 1000 }, sampleVerifyLogin "laptop" 0⟩,
          ⟨{ now := 0 }, sampleLogin "laptop"⟩]).sessions.head (by decide)) := by
    constructor <;> decide
  refine ⟨_, created, ?_⟩
  refine session_created_after_challenge sampleApp sampleWorld sampleWorld_initial
    ⟨{ now := 1000 }, sampleVerifyLogin "laptop" 0⟩
    [⟨{ now := 0 }, sampleLogin "laptop"⟩] ?_ _ created 0 (by decide)
  refine ⟨?_, ?_, trivial⟩
  · rintro dto requestMeta user device ⟨⟩
  · intro dto requestMeta user device _ _ onFile
    exact absurd (List.mem_of_find?_eq_some onFile) List.not_mem_nil

/-- Two logins from one new cookie, with no code submitted in between: the
second is signed in. -/
theorem abandoned_challenge_skipped :
    ∃ session,
      Created
        (serve sampleApp sampleWorld [⟨{ now := 0 }, sampleLogin "laptop"⟩])
        (serve sampleApp sampleWorld
          [⟨{ now := 1000 }, sampleLogin "laptop"⟩, ⟨{ now := 0 }, sampleLogin "laptop"⟩])
        session ∧
      session.userId = 0 ∧ session.deviceId = some 0 ∧
      ¬ ChallengePassed sampleApp sampleWorld
        [⟨{ now := 1000 }, sampleLogin "laptop"⟩, ⟨{ now := 0 }, sampleLogin "laptop"⟩]
        0 0 := by
  refine ⟨(serve sampleApp sampleWorld
    [⟨{ now := 1000 }, sampleLogin "laptop"⟩,
      ⟨{ now := 0 }, sampleLogin "laptop"⟩]).sessions.head (by decide),
    by constructor <;> decide, by decide, by decide, ?_⟩
  rintro ⟨-, ⟨_, _, ⟨⟩, _⟩ | ⟨-, ⟨_, _, ⟨⟩, _⟩ | passed⟩⟩
  exact passed

end ConferenceContact
