import ConferenceContact.Model.Leads

/-!
# Who owns what

The purpose of the ids and references in the tables, apart from any request: a
device belongs to one user for good, a session refers to a device of its own user,
a login challenge names a device of the user it challenges, and no id is given out
twice.  The tables change only by the steps of `Owners.Step`; the services are
shown to move their world along these steps in `Isolation.Requests`.
-/

namespace ConferenceContact

/-- The user and the device of a login challenge. -/
def Jwt.challenged (token : Jwt) : Option (UserId × DeviceId) :=
  match token.payload with
  | .loginChallenge payload => some (payload.sub, payload.deviceId)
  | .access _ => none

/-- The ids in the tables and the users behind them, with the supply of fresh ids. -/
structure Owners where
  /-- The devices with their users. -/
  devices : List (DeviceId × UserId)
  /-- The users of the sessions with the devices these refer to. -/
  sessions : List (UserId × Option DeviceId)
  /-- The users and devices of the login challenges signed so far. -/
  challenges : List (UserId × DeviceId)
  jobs : List Nat
  results : List Nat
  nextId : Nat

/-- Who owns what in a world. -/
def World.owners (world : World) : Owners where
  devices := world.devices.map fun device => (device.id, device.userId)
  sessions := world.sessions.map fun session => (session.userId, session.deviceId)
  challenges := world.signed.filterMap Jwt.challenged
  jobs := world.leadSearchJobs.map (·.id)
  results := world.leadSearchResults.map (·.id)
  nextId := world.nextId

namespace Owners

/-- The device is nobody else's, now or later. -/
def Holds (owners : Owners) (userId : UserId) (deviceId : DeviceId) : Prop :=
  deviceId < owners.nextId ∧ ∀ owner, (deviceId, owner) ∈ owners.devices → owner = userId

/-- Ids are distinct and were all given out, and references stay with their user. -/
structure Sound (owners : Owners) : Prop where
  devicesDistinct : (owners.devices.map Prod.fst).Nodup
  devicesFresh : ∀ device ∈ owners.devices, device.1 < owners.nextId
  sessions : ∀ session ∈ owners.sessions, ∀ deviceId, session.2 = some deviceId →
    (deviceId, session.1) ∈ owners.devices
  challenges : ∀ challenge ∈ owners.challenges, owners.Holds challenge.1 challenge.2
  jobsDistinct : owners.jobs.Nodup
  jobsFresh : ∀ job ∈ owners.jobs, job < owners.nextId
  resultsDistinct : owners.results.Nodup
  resultsFresh : ∀ result ∈ owners.results, result < owners.nextId

/-- Nothing changes hands: a device is what it was, or new. -/
structure Inherits (before after : Owners) : Prop where
  supply : before.nextId ≤ after.nextId
  devices : ∀ device ∈ after.devices, device ∈ before.devices ∨ before.nextId ≤ device.1

instance : IsPreorder Owners Inherits where
  refl owners := ⟨Nat.le_refl _, fun _ present => .inl present⟩
  trans first second third earlier later := by
    refine ⟨Nat.le_trans earlier.supply later.supply, fun device present => ?_⟩
    rcases later.devices device present with old | new
    · exact earlier.devices device old
    · exact .inr (Nat.le_trans earlier.supply new)

/-- A device stays with its user. -/
theorem Holds.inherited
    {before after : Owners}
    {userId : UserId}
    {deviceId : DeviceId}
    (holds : before.Holds userId deviceId)
    (inherits : before.Inherits after) :
    after.Holds userId deviceId := by
  refine ⟨Nat.lt_of_lt_of_le holds.1 inherits.supply, fun owner present => ?_⟩
  rcases inherits.devices _ present with old | new
  · exact holds.2 owner old
  · exact absurd holds.1 (Nat.not_lt.mpr new)

/-- With distinct ids, the user of a stored device holds it. -/
theorem Sound.holds
    {owners : Owners}
    (sound : owners.Sound)
    {deviceId : DeviceId}
    {userId : UserId}
    (present : (deviceId, userId) ∈ owners.devices) :
    owners.Holds userId deviceId := by
  refine ⟨sound.devicesFresh _ present, fun owner other => ?_⟩
  exact congrArg Prod.snd
    (List.inj_on_of_nodup_map sound.devicesDistinct other present rfl)

/-! ## Steps -/

/-- One change of the tables. -/
inductive Step : Owners → Owners → Prop
  | reserve (owners : Owners) (amount : Nat) :
      Step owners { owners with nextId := owners.nextId + amount }
  | register (owners : Owners) (userId : UserId) :
      Step owners
        { owners with
          devices := (owners.nextId, userId) :: owners.devices
          nextId := owners.nextId + 1 }
  | forget (owners : Owners) (deviceId : DeviceId) :
      Step owners
        { owners with
          devices := owners.devices.filter fun device => device.1 ≠ deviceId
          sessions := owners.sessions.map fun session =>
            if session.2 = some deviceId then (session.1, none) else session }
  | issue (owners : Owners) (userId : UserId) (deviceId : Option DeviceId) :
      (∀ id, deviceId = some id → (id, userId) ∈ owners.devices) →
      Step owners
        { owners with
          sessions := (userId, deviceId) :: owners.sessions
          nextId := owners.nextId + 2 }
  | challenge (owners : Owners) (userId : UserId) (deviceId : DeviceId) :
      owners.Holds userId deviceId →
      Step owners
        { owners with challenges := (userId, deviceId) :: owners.challenges }
  | search (owners : Owners) :
      Step owners
        { owners with jobs := owners.nextId :: owners.jobs, nextId := owners.nextId + 1 }
  | find (owners : Owners) :
      Step owners
        { owners with
          results := owners.nextId :: owners.results
          nextId := owners.nextId + 1 }

variable {before after : Owners}

/-- Nothing changes hands in a step. -/
theorem Step.inherits (step : Step before after) : before.Inherits after := by
  cases step with
  | reserve amount => exact ⟨Nat.le_add_right _ _, fun _ present => .inl present⟩
  | register userId =>
      refine ⟨Nat.le_succ _, fun device present => ?_⟩
      rcases List.mem_cons.mp present with rfl | old
      · exact .inr (Nat.le_refl _)
      · exact .inl old
  | forget deviceId =>
      exact ⟨Nat.le_refl _, fun device present => .inl (List.mem_of_mem_filter present)⟩
  | issue userId deviceId resolved =>
      exact ⟨Nat.le_add_right _ _, fun _ present => .inl present⟩
  | challenge userId deviceId held => exact ⟨Nat.le_refl _, fun _ present => .inl present⟩
  | search => exact ⟨Nat.le_succ _, fun _ present => .inl present⟩
  | find => exact ⟨Nat.le_succ _, fun _ present => .inl present⟩

/-- A fresh id is none of those given out. -/
theorem fresh_nodup
    {ids : List Nat}
    {next : Nat}
    (distinct : ids.Nodup)
    (given : ∀ id ∈ ids, id < next) :
    (next :: ids).Nodup :=
  List.nodup_cons.mpr ⟨fun present => Nat.lt_irrefl _ (given next present), distinct⟩

/-- With the next id, every id was given out. -/
theorem fresh_lt
    {ids : List Nat}
    {next : Nat}
    (given : ∀ id ∈ ids, id < next) :
    ∀ id ∈ next :: ids, id < next + 1 := by
  intro id present
  rcases List.mem_cons.mp present with rfl | old
  · exact Nat.lt_succ_self _
  · exact Nat.lt_succ_of_lt (given id old)

/-- Every step keeps references with their user. -/
theorem Step.sound (step : Step before after) (sound : before.Sound) : after.Sound := by
  have held : ∀ challenge ∈ before.challenges, after.Holds challenge.1 challenge.2 :=
    fun challenge present => (sound.challenges challenge present).inherited step.inherits
  cases step with
  | reserve amount =>
      exact { sound with
        devicesFresh := fun device present =>
          Nat.lt_add_right _ (sound.devicesFresh device present)
        challenges := held
        jobsFresh := fun job present => Nat.lt_add_right _ (sound.jobsFresh job present)
        resultsFresh := fun result present =>
          Nat.lt_add_right _ (sound.resultsFresh result present) }
  | register userId =>
      have given : ∀ id ∈ before.devices.map Prod.fst, id < before.nextId := by
        intro id present
        obtain ⟨device, stored, rfl⟩ := List.mem_map.mp present
        exact sound.devicesFresh device stored
      exact { sound with
        devicesDistinct := fresh_nodup sound.devicesDistinct given
        devicesFresh := fun device present =>
          fresh_lt given device.1 (List.mem_map_of_mem present)
        sessions := fun session present deviceId refers =>
          List.mem_cons_of_mem _ (sound.sessions session present deviceId refers)
        challenges := held
        jobsFresh := fun job present => Nat.lt_succ_of_lt (sound.jobsFresh job present)
        resultsFresh := fun result present =>
          Nat.lt_succ_of_lt (sound.resultsFresh result present) }
  | forget deviceId =>
      refine { sound with
        devicesDistinct := sound.devicesDistinct.sublist (List.filter_sublist.map _)
        devicesFresh := fun device present =>
          sound.devicesFresh device (List.mem_of_mem_filter present)
        sessions := ?_
        challenges := held }
      intro session present id refers
      obtain ⟨old, stored, rfl⟩ := List.mem_map.mp present
      split at refers
      · cases refers
      · rename_i other
        rw [if_neg other]
        refine List.mem_filter.mpr ⟨sound.sessions old stored id refers, ?_⟩
        simp only [ne_eq, decide_eq_true_eq]
        rintro rfl
        exact other refers
  | issue userId deviceId resolved =>
      refine { sound with
        devicesFresh := fun device present =>
          Nat.lt_add_right _ (sound.devicesFresh device present)
        sessions := ?_
        challenges := held
        jobsFresh := fun job present => Nat.lt_add_right _ (sound.jobsFresh job present)
        resultsFresh := fun result present =>
          Nat.lt_add_right _ (sound.resultsFresh result present) }
      intro session present id refers
      rcases List.mem_cons.mp present with rfl | old
      · exact resolved id refers
      · exact sound.sessions session old id refers
  | challenge userId deviceId holds =>
      refine { sound with challenges := ?_ }
      intro challenge present
      rcases List.mem_cons.mp present with rfl | old
      · exact holds
      · exact held challenge old
  | search =>
      exact { sound with
        devicesFresh := fun device present =>
          Nat.lt_succ_of_lt (sound.devicesFresh device present)
        challenges := held
        jobsDistinct := fresh_nodup sound.jobsDistinct sound.jobsFresh
        jobsFresh := fresh_lt sound.jobsFresh
        resultsFresh := fun result present =>
          Nat.lt_succ_of_lt (sound.resultsFresh result present) }
  | find =>
      exact { sound with
        devicesFresh := fun device present =>
          Nat.lt_succ_of_lt (sound.devicesFresh device present)
        challenges := held
        jobsFresh := fun job present => Nat.lt_succ_of_lt (sound.jobsFresh job present)
        resultsDistinct := fresh_nodup sound.resultsDistinct sound.resultsFresh
        resultsFresh := fresh_lt sound.resultsFresh }

end Owners
end ConferenceContact
