import ConferenceContact.Auth.SessionLimit

/-!
# Refreshes in the risk of a login

A rotation stores a session without a country.  The assessment of the next login takes it
for a login: it may be the latest one, and it may push a login out of the five the
assessment looks back to.  So a history with rotations is assessed as the logins alone are
exactly if what the rotations hide does not matter.
-/

namespace ConferenceContact

open Process RiskService

variable {app : Deployment} {input : Input} {world : World} {now : Time} {userId : UserId}

/-! ## What an assessment reads -/

/-- The columns of a session that an assessment reads. -/
structure Sighting where
  country : Option String
  createdAt : Time
  deriving DecidableEq

/-- What the risk of a login is judged by. -/
def Session.sighting (session : Session) : Sighting where
  country := session.country
  createdAt := session.createdAt

/-- The countries that are known, where one is not among them. -/
def unfamiliar (country : String) (known : List String) : Option (String × List String) :=
  if known = [] ∨ country ∈ known then none else some (country, known.eraseDups)

/-- The travel since a session. -/
def travel (now : Time) (country : String) (latest : Sighting) :
    Option (String × String × Nat) :=
  match latest.country with
  | none => none
  | some fromCountry =>
      if fromCountry ≠ "" ∧ fromCountry ≠ country ∧
          now - latest.createdAt < impossibleTravelWindowMs then
        some (fromCountry, country, (now - latest.createdAt + 30000) / 60000)
      else none

/-- The points and signals of the two. -/
def countryPoints
    (newCountry : Option (String × List String))
    (impossibleTravel : Option (String × String × Nat)) : Nat × RiskSignals :=
  ((if newCountry.isSome then 25 else 0) + (if impossibleTravel.isSome then 50 else 0),
    { newCountry, impossibleTravel })

theorem eraseDups_eq_nil_iff {known : List String} : known.eraseDups = [] ↔ known = [] := by
  cases known with
  | nil => simp
  | cons country known => simp [List.eraseDups_cons]

theorem countrySignals_eq (country : String) (rows : List Session) :
    countrySignals now country rows =
      countryPoints (unfamiliar country (rows.filterMap (·.country)))
        ((rows.map Session.sighting).head?.bind (travel now country)) := by
  cases rows with
  | nil => rfl
  | cons latest others =>
      unfold countrySignals unfamiliar
      dsimp only [List.map_cons, List.head?_cons, Option.bind_some]
      generalize List.filterMap (fun session : Session => session.country) (latest :: others) =
        known
      have same : (!known.eraseDups.isEmpty && !known.eraseDups.contains country) =
          !decide (known = [] ∨ country ∈ known) := by
        rw [Bool.decide_or, Bool.not_or]
        congr 2
        · rw [Bool.eq_iff_iff, List.isEmpty_iff, eraseDups_eq_nil_iff, decide_eq_true_iff]
        · rw [Bool.eq_iff_iff, List.contains_iff_mem, List.mem_eraseDups, decide_eq_true_iff]
      rw [same]
      unfold countryPoints
      by_cases familiar : known = [] ∨ country ∈ known
      · simp only [familiar, decide_true, Bool.not_true]
        rfl
      · simp only [familiar, decide_false, Bool.not_false, if_true, if_false]
        rfl

/-- A known country is missed alike in a longer list exactly if what the list adds is
known already, or either list lets the country pass. -/
theorem unfamiliar_append_iff {country : String} {known more : List String} :
    unfamiliar country known = unfamiliar country (known ++ more) ↔
      country ∈ known ∨ (∀ other ∈ more, other ∈ known) ∨ known = [] ∧ country ∈ more := by
  unfold unfamiliar
  by_cases familiar : country ∈ known
  · rw [if_pos (.inr familiar), if_pos (.inr (List.mem_append_left _ familiar))]
    exact iff_of_true rfl (.inl familiar)
  by_cases covered : ∀ other ∈ more, other ∈ known
  · refine iff_of_true ?_ (.inr (.inl covered))
    have sameNames : (known ++ more).eraseDups = known.eraseDups := by
      have nothing : more.removeAll known = [] := by
        rw [List.removeAll, List.filter_eq_nil_iff]
        intro other present
        simpa using covered other present
      rw [List.eraseDups_append, nothing, List.eraseDups_nil, List.append_nil]
    have sameGuard : (known = [] ∨ country ∈ known) ↔
        (known ++ more = [] ∨ country ∈ known ++ more) := by
      rw [List.append_eq_nil_iff, List.mem_append]
      refine or_congr ⟨fun empty => ⟨empty, ?_⟩, And.left⟩
        ⟨.inl, fun either => either.elim id (covered country)⟩
      rw [List.eq_nil_iff_forall_not_mem]
      intro other present
      exact List.not_mem_nil (empty ▸ covered other present)
    rw [sameNames]
    exact if_congr sameGuard rfl rfl
  · obtain ⟨other, added, unknown⟩ : ∃ other ∈ more, other ∉ known := by
      simpa only [not_forall, exists_prop] using covered
    have nonempty : known ++ more ≠ [] :=
      List.ne_nil_of_mem (List.mem_append_right known added)
    by_cases empty : known = []
    · subst empty
      rw [List.nil_append] at nonempty ⊢
      rw [if_pos (.inl rfl)]
      by_cases passes : country ∈ more
      · rw [if_pos (.inr passes)]
        exact iff_of_true rfl (.inr (.inr ⟨rfl, passes⟩))
      · rw [if_neg (not_or.mpr ⟨nonempty, passes⟩)]
        refine iff_of_false nofun ?_
        rintro (found | covers | ⟨-, found⟩)
        · exact familiar found
        · exact covered covers
        · exact passes found
    · rw [if_neg (not_or.mpr ⟨empty, familiar⟩)]
      refine iff_of_false ?_ ?_
      · intro same
        split at same
        · cases same
        · have sameNames := congrArg Prod.snd (Option.some.inj same)
          rw [List.eraseDups_append] at sameNames
          have nothing := List.self_eq_append_right.mp sameNames
          rw [eraseDups_eq_nil_iff, List.removeAll, List.filter_eq_nil_iff] at nothing
          exact absurd (nothing other added) (by simpa using unknown)
      · rintro (found | covers | ⟨nil, -⟩)
        · exact familiar found
        · exact covered covers
        · exact empty nil

/-! ## Histories -/

/-- A completed login, or a refresh. -/
inductive RiskEvent
  | login
      (input : Input)
      (userId : UserId)
      (deviceId : DeviceId)
      (requestMeta : RequestMeta)
      (isNewDevice : Bool)
  | refresh (input : Input) (rawToken : RawToken)

namespace RiskEvent

/-- A login, and no rotation. -/
def isLogin : RiskEvent → Bool
  | login .. => true
  | refresh .. => false

/-- The state once an event has been handled. -/
def serve (app : Deployment) (world : World) : RiskEvent → World
  | login input userId deviceId requestMeta isNewDevice =>
      ((AuthService.issueTokenPair app userId deviceId requestMeta isNewDevice).run input world).2
  | refresh input rawToken => ((AuthService.refresh app rawToken).run input world).2

end RiskEvent

/-- The sessions of a user as an assessment sees them, the newest first. -/
def sightings (userId : UserId) (sessions : List Session) : List Sighting :=
  (sessions.filter fun session => session.userId = userId).map Session.sighting

/-- The sessions an event has added. -/
def addedSessions (before after : World) : List Session :=
  after.sessions.take (after.sessions.length - before.sessions.length)

/-- The sessions a history adds for a user, the newest first, and whether each is that of
a login. -/
def sessionTrail (app : Deployment) (userId : UserId) :
    World → List RiskEvent → List (Bool × Sighting)
  | _, [] => []
  | world, event :: later =>
      sessionTrail app userId (event.serve app world) later ++
        (sightings userId (addedSessions world (event.serve app world))).map
          (event.isLogin, ·)

/-- What the rotations of a history push out of the sessions an assessment looks back to. -/
def displaced (trail : List (Bool × Sighting)) : List Sighting :=
  ((trail.filter (·.1)).take recentSessionsLookback).drop
    ((trail.take recentSessionsLookback).filter (·.1)).length |>.map (·.2)

/-- The known countries of some sessions. -/
def knownCountries (rows : List Sighting) : List String :=
  rows.filterMap (·.country)

/-- No rotation stands between the next login and the latest one, or that one gives no
travel away. -/
def TravelUndisturbed
    (now : Time)
    (country : String)
    (trail : List (Bool × Sighting)) : Prop :=
  (∀ latest, trail.head? = some latest → latest.1 = true) ∨
    ∀ login, (trail.filter (·.1)).head? = some login →
      login.2.country = none ∨ login.2.country = some "" ∨ login.2.country = some country ∨
        impossibleTravelWindowMs ≤ now - login.2.createdAt

/-- The country is one of the logins still looked back to, or those pushed out add no
country, or there is none among the former and the country is one of the latter. -/
def CountriesUndisturbed (country : String) (trail : List (Bool × Sighting)) : Prop :=
  let seen := knownCountries ((trail.take recentSessionsLookback).map (·.2))
  let hidden := knownCountries (displaced trail)
  country ∈ seen ∨ (∀ other ∈ hidden, other ∈ seen) ∨ seen = [] ∧ country ∈ hidden

/-! ## What rotations hide -/

/-- A session without a country adds none. -/
theorem knownCountries_logins
    {trail : List (Bool × Sighting)}
    (unplaced : ∀ entry ∈ trail, entry.1 = false → entry.2.country = none) :
    knownCountries ((trail.filter (·.1)).map (·.2)) = knownCountries (trail.map (·.2)) := by
  induction trail with
  | nil => rfl
  | cons entry trail inductionHypothesis =>
      obtain ⟨isLogin, row⟩ := entry
      have rest := inductionHypothesis fun other present =>
        unplaced other (List.mem_cons_of_mem _ present)
      unfold knownCountries at rest ⊢
      cases isLogin with
      | true =>
          rw [List.filter_cons_of_pos rfl, List.map_cons, List.map_cons, List.filterMap_cons,
            List.filterMap_cons, rest]
      | false =>
          have nowhere : row.country = none := unplaced (false, row) List.mem_cons_self rfl
          rw [List.filter_cons_of_neg Bool.false_ne_true, List.map_cons,
            List.filterMap_cons_none nowhere, rest]

/-- The five latest logins are those still looked back to and those pushed out. -/
theorem take_logins (trail : List (Bool × Sighting)) :
    ((trail.filter (·.1)).take recentSessionsLookback).map (·.2) =
      ((trail.take recentSessionsLookback).filter (·.1)).map (·.2) ++ displaced trail := by
  have isPrefix := (List.take_prefix recentSessionsLookback trail).filter (·.1)
  have few : ((trail.take recentSessionsLookback).filter (·.1)).length ≤
      recentSessionsLookback :=
    Nat.le_trans (List.length_filter_le _ _) (List.length_take_le _ _)
  have seen : ((trail.filter (·.1)).take recentSessionsLookback).take
      ((trail.take recentSessionsLookback).filter (·.1)).length =
        (trail.take recentSessionsLookback).filter (·.1) := by
    rw [List.take_take, Nat.min_eq_left few]
    exact (List.prefix_iff_eq_take.mp isPrefix).symm
  unfold displaced
  rw [← List.map_append]
  congr 1
  calc (trail.filter (·.1)).take recentSessionsLookback
      = ((trail.filter (·.1)).take recentSessionsLookback).take
            ((trail.take recentSessionsLookback).filter (·.1)).length ++
          ((trail.filter (·.1)).take recentSessionsLookback).drop
            ((trail.take recentSessionsLookback).filter (·.1)).length :=
        (List.take_append_drop _ _).symm
    _ = _ := by rw [seen]

theorem unfamiliar_trail_iff
    {country : String}
    {trail : List (Bool × Sighting)}
    (unplaced : ∀ entry ∈ trail, entry.1 = false → entry.2.country = none) :
    unfamiliar country (knownCountries ((trail.take recentSessionsLookback).map (·.2))) =
        unfamiliar country
          (knownCountries (((trail.filter (·.1)).take recentSessionsLookback).map (·.2))) ↔
      CountriesUndisturbed country trail := by
  have unplacedSeen : ∀ entry ∈ trail.take recentSessionsLookback,
      entry.1 = false → entry.2.country = none :=
    fun entry present => unplaced entry (List.mem_of_mem_take present)
  have looked := knownCountries_logins unplacedSeen
  have split : knownCountries (((trail.filter (·.1)).take recentSessionsLookback).map (·.2)) =
      knownCountries ((trail.take recentSessionsLookback).map (·.2)) ++
        knownCountries (displaced trail) := by
    rw [take_logins, ← looked]
    exact List.filterMap_append
  rw [split]
  exact unfamiliar_append_iff

/-- No travel is seen from such a session. -/
theorem travel_eq_none_iff {country : String} {latest : Sighting} :
    travel now country latest = none ↔
      latest.country = none ∨ latest.country = some "" ∨ latest.country = some country ∨
        impossibleTravelWindowMs ≤ now - latest.createdAt := by
  unfold travel
  cases latest.country with
  | none => simp
  | some fromCountry =>
      dsimp only
      split
      · rename_i travels
        obtain ⟨named, different, recent⟩ := travels
        simp [named, different, recent]
      · rename_i settled
        simp only [true_iff, Option.some.injEq, reduceCtorEq, false_or]
        by_contra travels
        simp only [not_or, Nat.not_le] at travels
        exact settled travels

theorem travel_trail_iff
    {country : String}
    {trail : List (Bool × Sighting)}
    (unplaced : ∀ entry ∈ trail, entry.1 = false → entry.2.country = none) :
    (trail.map (·.2)).head?.bind (travel now country) =
        (((trail.filter (·.1)).map (·.2)).head?.bind (travel now country)) ↔
      TravelUndisturbed now country trail := by
  unfold TravelUndisturbed
  cases trail with
  | nil => exact iff_of_true rfl (.inl nofun)
  | cons entry others =>
      obtain ⟨isLogin, row⟩ := entry
      cases isLogin with
      | true =>
          refine iff_of_true rfl (.inl ?_)
          rintro _ ⟨⟩
          rfl
      | false =>
          have nowhere : row.country = none := unplaced (false, row) List.mem_cons_self rfl
          have still : travel now country row = none := travel_eq_none_iff.mpr (.inl nowhere)
          rw [List.filter_cons_of_neg Bool.false_ne_true, List.map_cons, List.head?_cons,
            Option.bind_some, still, List.head?_map]
          rw [or_iff_right (fun fromLogin => Bool.false_ne_true (fromLogin _ rfl))]
          cases (others.filter (·.1)).head? with
          | none => exact iff_of_true rfl nofun
          | some login =>
              rw [Option.map_some, Option.bind_some, eq_comm, travel_eq_none_iff]
              simp only [Option.some.injEq, forall_eq']

/-! ## Runs -/

/-- Sessions that fade are seen as before. -/
theorem sightings_fade
    {before after : List Session}
    (fade : SessionsFade before after) :
    sightings userId after = sightings userId before := by
  obtain ⟨change, rfl, fades⟩ := fade
  unfold sightings
  induction before with
  | nil => rfl
  | cons session others inductionHypothesis =>
      have rest := inductionHypothesis fun other present =>
        fades other (List.mem_cons_of_mem _ present)
      have one := fades session List.mem_cons_self
      have same : (change session).sighting = session.sighting := by
        unfold Session.sighting
        rw [one.country, one.createdAt]
      rw [List.map_cons, List.filter_cons, List.filter_cons, one.userId]
      split
      · rw [List.map_cons, List.map_cons, rest, same]
      · exact rest

theorem sightings_append (first second : List Session) :
    sightings userId (first ++ second) = sightings userId first ++ sightings userId second := by
  unfold sightings
  rw [List.filter_append, List.map_append]

theorem addedSessions_eq
    {before after : World}
    {added others : List Session}
    (sessions : after.sessions = added ++ others)
    (fade : SessionsFade before.sessions others) :
    addedSessions before after = added := by
  obtain ⟨change, rfl, -⟩ := fade
  unfold addedSessions
  rw [sessions, List.length_append, List.length_map, Nat.add_sub_cancel, List.take_left']
  rfl

/-- What an event does to the sessions. -/
structure Adds (before after : World) (added : List Session) : Prop where
  exists_others : ∃ others, after.sessions = added ++ others ∧
    SessionsFade before.sessions others

theorem Adds.addedSessions
    {before after : World}
    {added : List Session}
    (adds : Adds before after added) :
    addedSessions before after = added := by
  obtain ⟨others, sessions, fade⟩ := adds.exists_others
  exact addedSessions_eq sessions fade

theorem Adds.sightings
    {before after : World}
    {added : List Session}
    (adds : Adds before after added) :
    sightings userId after.sessions =
      sightings userId added ++ sightings userId before.sessions := by
  obtain ⟨others, sessions, fade⟩ := adds.exists_others
  rw [sessions, sightings_append, sightings_fade fade]

/-- Two worlds in which a login completes alike. -/
structure SameAccess (left right : World) : Prop where
  users : left.users = right.users
  devices : left.devices = right.devices

/-- A login adds the same session to both, as far as an assessment sees it. -/
theorem login_alike
    {left right : World}
    (same : SameAccess left right)
    (input : Input)
    (owner : UserId)
    (deviceId : DeviceId)
    (requestMeta : RequestMeta)
    (isNewDevice : Bool) :
    let event := RiskEvent.login input owner deviceId requestMeta isNewDevice
    ∃ one other, Adds left (event.serve app left) one ∧ Adds right (event.serve app right) other ∧
      sightings userId one = sightings userId other ∧
      SameAccess (event.serve app left) (event.serve app right) := by
  intro event
  have sameRow : left.userRow owner = right.userRow owner := by
    unfold World.userRow
    rw [same.users]
  cases stored : right.userRow owner with
  | none =>
      have refused : ∀ world : World, world.userRow owner = none →
          event.serve app world = world := by
        intro world absent
        show ((AuthService.issueTokenPair app owner deviceId requestMeta isNewDevice).run input
          world).2 = world
        unfold AuthService.issueTokenPair UsersService.findById
        rw [run_bind, run_query]
        dsimp only
        rw [show (world.users.find? fun row => row.id = owner) = none from absent]
        rfl
      rw [refused left (sameRow.trans stored), refused right stored]
      exact ⟨[], [], ⟨_, rfl, .refl _⟩, ⟨_, rfl, .refl _⟩, rfl, same⟩
  | some user =>
      have served : ∀ world : World, world.userRow owner = some user →
          event.serve app world =
            let login : LoginCompletion := ⟨user, deviceId, requestMeta, isNewDevice⟩
            if world.devices.any fun device => device.id = deviceId then
              login.after app input world
            else
              { world with
                sessions := login.room app input world
                signed := login.accessToken app input :: world.signed } := by
        intro world isRow
        show ((AuthService.issueTokenPair app owner deviceId requestMeta isNewDevice).run input
          world).2 = _
        rw [run_issueTokenPair isRow]
        dsimp only
        split <;> rfl
      have alike : (left.devices.any fun device => device.id = deviceId) =
          right.devices.any fun device => device.id = deviceId := by rw [same.devices]
      rw [served left (sameRow.trans stored), served right stored]
      dsimp only
      rw [alike]
      by_cases registered : (right.devices.any fun device => device.id = deviceId) = true
      · rw [if_pos registered, if_pos registered]
        let login : LoginCompletion := ⟨user, deviceId, requestMeta, isNewDevice⟩
        refine ⟨[login.session app input left], [login.session app input right],
          ⟨_, rfl, fade_afterLimit _⟩, ⟨_, rfl, fade_afterLimit _⟩, ?_,
          ⟨congrArg (Table.updateWhere _ _) same.users, same.devices⟩⟩
        by_cases owned : user.id = userId
        all_goals simp [sightings, LoginCompletion.session, SessionsService.created, login,
          Session.sighting, owned]
      · rw [if_neg registered, if_neg registered]
        exact ⟨[], [], ⟨_, rfl, fade_afterLimit _⟩, ⟨_, rfl, fade_afterLimit _⟩, rfl,
          ⟨same.users, same.devices⟩⟩

/-- A refresh adds at most a session without a country, and changes nothing a login depends
on. -/
theorem refresh_adds
    (consistent : world.store.Consistent)
    (input : Input)
    (rawToken : RawToken) :
    let event := RiskEvent.refresh input rawToken
    ∃ added, Adds world (event.serve app world) added ∧
      (∀ session ∈ added, session.country = none) ∧
      SameAccess world (event.serve app world) := by
  intro event
  have unchanged : SameAccess world (event.serve app world) := by
    show SameAccess world ((AuthService.refresh app rawToken).run input world).2
    rw [run_refresh app rawToken input consistent]
    split
    · split <;> exact ⟨rfl, rfl⟩
    · exact ⟨rfl, rfl⟩
    · exact ⟨rfl, rfl⟩
  rcases @refresh_sessions app input world consistent rawToken with
    fade | ⟨session, -, -, rotated⟩
  · exact ⟨[], ⟨_, rfl, fade⟩, List.forall_mem_nil _, unchanged⟩
  · refine ⟨[successorOf app input.now world.store session],
      ⟨_, rotated, fade_supersede _ _ _⟩, ?_, unchanged⟩
    intro other present
    rw [List.mem_singleton.mp present]
    rfl

/-- An event keeps the session store consistent. -/
theorem RiskEvent.serve_consistent
    (consistent : world.store.Consistent)
    (event : RiskEvent) :
    (event.serve app world).store.Consistent := by
  cases event with
  | login input userId deviceId requestMeta isNewDevice =>
      have moves : StoreMoves input.now (fun _ _ => True) world _ :=
        (@moves_issueTokenPair (fun _ _ => True) app input world consistent userId deviceId
          requestMeta isNewDevice trivial).1
      exact moves.consistent consistent
  | refresh input rawToken => exact (moves_refresh consistent rawToken).1.consistent consistent

/-- What a history and its logins alone leave of a user's sessions. -/
theorem runs_alike
    {plain refreshed : World}
    (same : SameAccess plain refreshed)
    (consistent : refreshed.store.Consistent)
    (events : List RiskEvent) :
    sightings userId (events.foldl (RiskEvent.serve app) refreshed).sessions =
        (sessionTrail app userId refreshed events).map (·.2) ++
          sightings userId refreshed.sessions ∧
      sightings userId ((events.filter (·.isLogin)).foldl (RiskEvent.serve app) plain).sessions =
        ((sessionTrail app userId refreshed events).filter (·.1)).map (·.2) ++
          sightings userId plain.sessions ∧
      ∀ entry ∈ sessionTrail app userId refreshed events,
        entry.1 = false → entry.2.country = none := by
  induction events generalizing plain refreshed with
  | nil => exact ⟨rfl, rfl, List.forall_mem_nil _⟩
  | cons event later inductionHypothesis =>
      have consistentAfter := @RiskEvent.serve_consistent app refreshed consistent event
      cases event with
      | login input owner deviceId requestMeta isNewDevice =>
          obtain ⟨one, other, addsPlain, addsRefreshed, sameAdded, sameAfter⟩ :=
            @login_alike app userId plain refreshed same input owner deviceId requestMeta
              isNewDevice
          obtain ⟨all, logins, unplaced⟩ := inductionHypothesis sameAfter consistentAfter
          have isLogin : (RiskEvent.login input owner deviceId requestMeta isNewDevice).isLogin =
              true := rfl
          have tagged : ((sightings userId other).map fun row => (true, row)).filter (·.1) =
              (sightings userId other).map fun row => (true, row) := by
            rw [List.filter_eq_self]
            intro entry present
            obtain ⟨row, -, rfl⟩ := List.mem_map.mp present
            rfl
          rw [sessionTrail, addsRefreshed.addedSessions, isLogin, List.filter_cons_of_pos isLogin,
            List.foldl_cons, List.foldl_cons, all, logins, addsPlain.sightings,
            addsRefreshed.sightings, sameAdded]
          simp only [List.filter_append, List.map_append, tagged, List.map_map,
            Function.comp_def, List.map_id', List.append_assoc, true_and]
          intro entry present rotation
          rcases List.mem_append.mp present with early | late
          · exact unplaced entry early rotation
          · obtain ⟨row, -, rfl⟩ := List.mem_map.mp late
            cases rotation
      | refresh input rawToken =>
          obtain ⟨added, adds, nowhere, sameAfter⟩ :=
            @refresh_adds app refreshed consistent input rawToken
          have sameBoth : SameAccess plain
              ((RiskEvent.refresh input rawToken).serve app refreshed) :=
            ⟨same.users.trans sameAfter.users, same.devices.trans sameAfter.devices⟩
          obtain ⟨all, logins, unplaced⟩ := inductionHypothesis sameBoth consistentAfter
          have isRefresh : (RiskEvent.refresh input rawToken).isLogin = false := rfl
          have untagged : ((sightings userId added).map fun row => (false, row)).filter (·.1) =
              [] := by
            rw [List.filter_eq_nil_iff]
            intro entry present
            obtain ⟨row, -, rfl⟩ := List.mem_map.mp present
            exact Bool.false_ne_true
          rw [sessionTrail, adds.addedSessions, isRefresh,
            List.filter_cons_of_neg (by rw [isRefresh]; exact Bool.false_ne_true),
            List.foldl_cons, all, logins, adds.sightings]
          simp only [List.filter_append, List.map_append, untagged, List.map_map,
            Function.comp_def, List.map_id', List.append_assoc, List.append_nil, true_and]
          intro entry present rotation
          rcases List.mem_append.mp present with early | late
          · exact unplaced entry early rotation
          · obtain ⟨row, seen, rfl⟩ := List.mem_map.mp late
            obtain ⟨session, stored, rfl⟩ := List.mem_map.mp seen
            exact nowhere session (List.mem_of_mem_filter stored)

/-- An assessment tells the country's points and signals apart. -/
theorem assessment_countryPoints_inj
    {isNewDevice : Bool}
    {failedLoginCount : Nat}
    {newCountry newCountry' : Option (String × List String)}
    {impossibleTravel impossibleTravel' : Option (String × String × Nat)} :
    assessment isNewDevice (countryPoints newCountry impossibleTravel) failedLoginCount =
        assessment isNewDevice (countryPoints newCountry' impossibleTravel') failedLoginCount ↔
      newCountry = newCountry' ∧ impossibleTravel = impossibleTravel' := by
  constructor
  · intro same
    have signals := congrArg RiskAssessment.signals same
    exact ⟨congrArg RiskSignals.newCountry signals, congrArg RiskSignals.impossibleTravel signals⟩
  · rintro ⟨rfl, rfl⟩
    rfl

/-- The country's points and signals, read off what an assessment sees of a user. -/
theorem countryRisk_eq {country : String} (named : country ≠ "") (sessions : List Session) :
    countryRisk now userId (some country) sessions =
      countryPoints
        (unfamiliar country
          (knownCountries ((sightings userId sessions).take recentSessionsLookback)))
        ((sightings userId sessions).head?.bind (travel now country)) := by
  unfold countryRisk
  dsimp only
  rw [if_neg named, countrySignals_eq]
  unfold sightings knownCountries
  rw [← List.map_take, List.filterMap_map, List.head?_map, List.head?_map, List.head?_take,
    if_neg (by decide)]
  rfl

/-- The next login of a user is assessed after a history with refreshes as it is after the
logins of that history alone, exactly if its country is unknown, or what the rotations hide
from the assessment does not matter. -/
theorem risk_unaffected_by_refreshes_iff
    {start : World}
    (consistent : start.store.Consistent)
    (unused : start.sessions = [])
    (history : List RiskEvent)
    (userId : UserId)
    (isNewDevice : Bool)
    (country : Option String)
    (failedLoginCount : Nat)
    (input : Input) :
    let refreshed := history.foldl (RiskEvent.serve app) start
    let plain := (history.filter (·.isLogin)).foldl (RiskEvent.serve app) start
    let trail := sessionTrail app userId start history
    ((assess userId isNewDevice country failedLoginCount).run input refreshed).1 =
        ((assess userId isNewDevice country failedLoginCount).run input plain).1 ↔
      ∀ named, country = some named → named ≠ "" →
        TravelUndisturbed input.now named trail ∧ CountriesUndisturbed named trail := by
  intro refreshed plain trail
  obtain ⟨all, logins, unplaced⟩ := @runs_alike app userId start start ⟨rfl, rfl⟩ consistent history
  rw [unused] at all logins
  rw [run_assess, run_assess, Except.ok.injEq]
  cases country with
  | none => exact iff_of_true rfl nofun
  | some named =>
      by_cases unnamed : named = ""
      · subst unnamed
        refine iff_of_true rfl ?_
        rintro _ ⟨⟩ known
        exact absurd rfl known
      · have seen : sightings userId refreshed.sessions = trail.map (·.2) :=
          all.trans (List.append_nil _)
        have loggedIn : sightings userId plain.sessions = (trail.filter (·.1)).map (·.2) :=
          logins.trans (List.append_nil _)
        rw [countryRisk_eq unnamed, countryRisk_eq unnamed, assessment_countryPoints_inj, seen,
          loggedIn, ← List.map_take, ← List.map_take, unfamiliar_trail_iff unplaced,
          travel_trail_iff unplaced, and_comm]
        constructor
        · rintro undisturbed _ ⟨⟩ -
          exact undisturbed
        · intro all
          exact all named rfl unnamed

/-- An account with a device, in a deployment that resolves two addresses. -/
def travellingApp : Deployment :=
  { Deployment.defaults with
    geoipCountry := fun address =>
      if address = "192.0.2.1" then some "FR"
      else if address = "198.51.100.1" then some "US"
      else none }

/-- An account with one device. -/
def travellerWorld : World :=
  { users := [{ id := 1, email := "ada@example.com", passwordHash := "correct" }]
    devices := [{ id := 2, userId := 1, fingerprint := ⟨"laptop"⟩, lastSeenAt := 0 }]
    nextId := 3 }

theorem travellerWorld_consistent : travellerWorld.store.Consistent where
  idsDistinct := List.nodup_nil
  tokensDistinct := List.nodup_nil
  idsFresh := List.forall_mem_nil _
  tokensFresh := List.forall_mem_nil _
  devicesFresh := by decide
  deviceExists := List.forall_mem_nil _
  successorExists := List.forall_mem_nil _

/-- A login from France, and a refresh a minute later. -/
def refreshedLogin : List RiskEvent :=
  [.login { now := 0 } 1 2 { ipAddress := some "192.0.2.1", rawDeviceId := "laptop" } false,
    .refresh { now := 60000 } 3]

theorem risk_unaffected_by_refreshes_same_country :
    ((assess 1 false (some "FR") 0).run { now := 120000 }
        (refreshedLogin.foldl (RiskEvent.serve travellingApp) travellerWorld)).1 =
      ((assess 1 false (some "FR") 0).run { now := 120000 }
        ((refreshedLogin.filter (·.isLogin)).foldl (RiskEvent.serve travellingApp)
          travellerWorld)).1 := by
  refine (@risk_unaffected_by_refreshes_iff travellingApp travellerWorld
    travellerWorld_consistent rfl refreshedLogin 1 false (some "FR") 0 { now := 120000 }).mpr ?_
  rintro named ⟨⟩ -
  unfold TravelUndisturbed CountriesUndisturbed
  exact ⟨.inr (by decide +kernel), .inl (by decide +kernel)⟩

/-- A login from the United States two minutes after one from France is impossible travel,
but not if the session has been refreshed in between. -/
theorem risk_hidden_by_refresh :
    (match ((assess 1 false (some "US") 0).run { now := 120000 }
        (refreshedLogin.foldl (RiskEvent.serve travellingApp) travellerWorld)).1 with
      | .ok risk => risk.score = 25 ∧ risk.signals.impossibleTravel = none
      | .error _ => False) ∧
    (match ((assess 1 false (some "US") 0).run { now := 120000 }
        ((refreshedLogin.filter (·.isLogin)).foldl (RiskEvent.serve travellingApp)
          travellerWorld)).1 with
      | .ok risk => risk.score = 75 ∧ risk.signals.impossibleTravel = some ("FR", "US", 2)
      | .error _ => False) := by
  constructor
  · exact ⟨by decide +kernel, by decide +kernel⟩
  · exact ⟨by decide +kernel, by decide +kernel⟩

end ConferenceContact
