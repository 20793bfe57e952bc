import ConferenceContact.Foundation.Crews
import ConferenceContact.Auth.RedisEntries
import ConferenceContact.Auth.LaterTokens
import ConferenceContact.Leads.Requests

/-!
# The counter of searches without an account

Searches without an account are counted for each address under a key that is to
expire at the next midnight.  The request whose count creates the key sets its
expiry in a command of its own; when that command fails, or the process stops
before it, no later request sets it any more.
-/

namespace ConferenceContact

open Process

/-! ## The control points -/

/-- The point a request has come to. -/
inductive AnonymousStage
  | incr (ip query : String)
  | expire (ip query : String)
  /-- Any point after the counter. -/
  | rest (process : Service Unit)
  /-- Its process has stopped. -/
  | stopped

namespace AnonymousStage

variable (app : Deployment)

/-- What is left once a request is counted. -/
def counted (query : String) (count : Nat) : Service Unit := do
  let _ ← LeadsService.admitAnonymousSearch count
  let _ ← tryCatch (LeadsService.anonymousResults query) fun _ =>
    throw (.serviceUnavailable
      "AI search is temporarily unavailable — please try again in a moment.")
  return ()

/-- The handler of the `try` block around the counter. -/
def unavailable (_error : ApiError) : Service Nat :=
  throw LeadsService.anonymousSearchUnavailable

/-- The code left at a point. -/
def code : AnonymousStage → Service Unit
  | incr ip query => do
      let _ ← LeadsService.anonymousSearch app ip query
      return ()
  | expire ip query => do
      let count ← tryCatch
        (do
          LeadsService.expireAtMidnight app (.anonymousSearch ip)
          return 1)
        unavailable
      counted query count
  | rest process => process
  | stopped => pure ()

/-- The counter after one more request. -/
def bumped (ip : String) (now : Time) (world : World) : RedisEntry :=
  match Redis.lookup now (.anonymousSearch ip) world.redis with
  | some entry => { entry with value := entry.value + 1 }
  | none => { key := .anonymousSearch ip, value := 1 }

/-- The counter with its expiry. -/
def expiring (ip : String) (now : Time) (world : World) : World :=
  match Redis.lookup now (.anonymousSearch ip) world.redis with
  | some entry =>
      { world with
        redis := Redis.put
          { entry with
            expiresAt := some (now + LeadsService.secondsUntilMidnight app now * 1000) }
          world.redis }
  | none => world

/-- What a search does call by call. -/
def machine : Machine AnonymousStage Input ApiError World where
  effect
    | incr ip _, input, world =>
        { world with redis := Redis.put (bumped ip input.now world) world.redis }
    | expire ip _, input, world => expiring app ip input.now world
    | rest process, input, world => process.effect input world
    | stopped, _, world => world
  next
    | incr ip query, input, world =>
        if (bumped ip input.now world).value = 1 then expire ip query
        else rest (counted query (bumped ip input.now world).value)
    | expire _ query, _, _ => rest (counted query 1)
    | rest process, input, world => rest (process.residual input world)
    | stopped, _, _ => stopped
  abort
    | rest process, error => rest (process.rejected error)
    | stopped, _ => stopped
    | _, _ => rest (throw LeadsService.anonymousSearchUnavailable)

/-- The calls left from the count. -/
theorem code_incr (ip query : String) :
    code app (incr ip query) =
      tryCatch (LeadsService.countAnonymousSearch app ip) unavailable >>= counted query := by
  unfold code LeadsService.anonymousSearch LeadsService.checkAnonymousSearchLimit counted
  simp only [bind_assoc]
  rfl

theorem implements : (machine app).Implements (code app) where
  effect stage input world := by
    cases stage with
    | incr ip query =>
        rw [code_incr]
        rfl
    | _ => rfl
  next stage input world := by
    cases stage with
    | incr ip query =>
        rw [code_incr, residual_bind rfl, residual_tryCatch _ _ rfl]
        unfold LeadsService.countAnonymousSearch Redis.incr
        rw [residual_attempt_bind]
        show tryCatch
          (if (bumped ip input.now world).value = 1 then
            LeadsService.expireAtMidnight app (.anonymousSearch ip) >>= fun _ =>
              pure (bumped ip input.now world).value
          else pure (bumped ip input.now world).value) unavailable >>= counted query =
            code app (if (bumped ip input.now world).value = 1 then expire ip query
              else rest (counted query (bumped ip input.now world).value))
        split
        · rename_i first
          rw [first]
          rfl
        · rfl
    | _ => rfl
  abort stage error := by
    cases stage with
    | incr ip query =>
        rw [code_incr]
        rfl
    | _ => rfl

/-! ## What the rest of a request leaves alone -/

theorem sameRedis_matchPerson : ApolloService.matchPerson.Respects SameRedis := by
  refine Respects.attempt fun input _ _ _ matched => ?_
  split at matched <;> cases matched
  rfl

theorem sameRedis_enrichAnonymously (candidates : List ApolloCandidate) :
    (LeadsService.enrichAnonymously candidates).Respects SameRedis := by
  induction candidates with
  | nil => exact Respects.pure _
  | cons candidate rest inductionHypothesis =>
      refine Respects.bind sameRedis_matchPerson fun enriched => ?_
      refine Respects.bind inductionHypothesis fun results => ?_
      cases enriched <;> exact Respects.pure _

theorem sameRedis_anonymousResults (query : String) :
    (LeadsService.anonymousResults query).Respects SameRedis := by
  refine Respects.bind (Respects.attempt fun input _ _ _ answered => ?_) fun parsed => ?_
  · split at answered <;> cases answered
    rfl
  · dsimp only
    split
    · refine Respects.bind sameRedis_matchPerson fun enriched => ?_
      cases enriched <;> exact Respects.pure _
    · refine Respects.bind (Respects.attempt fun input _ _ _ answered => ?_) fun found => ?_
      · split at answered <;> cases answered
        rfl
      · exact sameRedis_enrichAnonymously _

theorem sameRedis_counted (query : String) (count : Nat) :
    (counted query count).Respects SameRedis := by
  refine Respects.bind (Respects.ite (Respects.throw _) (Respects.pure _)) fun _ => ?_
  refine Respects.bind ?_ fun _ => Respects.pure _
  exact Respects.tryCatch (sameRedis_anonymousResults query) fun _ => Respects.throw _

/-- What is left of a request does not reach Redis again. -/
def Harmless : AnonymousStage → Prop
  | rest process => process.Respects SameRedis
  | _ => True

variable {stage : AnonymousStage}

theorem harmless_next
    (harmless : stage.Harmless)
    (input : Input)
    (world : World) :
    ((machine app).next stage input world).Harmless := by
  cases stage with
  | incr ip query =>
      simp only [machine]
      split
      · trivial
      · exact sameRedis_counted query _
  | expire ip query => exact sameRedis_counted query 1
  | rest process => exact Respects.residual harmless input world
  | stopped => trivial

theorem harmless_abort
    (harmless : stage.Harmless)
    (error : ApiError) :
    ((machine app).abort stage error).Harmless := by
  cases stage with
  | rest process => exact Respects.rejected harmless error
  | _ => exact True.intro

/-- The request is about to set the expiry of an address's counter. -/
def Expires (ip : String) : AnonymousStage → Prop
  | expire address _ => address = ip
  | _ => False

instance (ip : String) (stage : AnonymousStage) : Decidable (stage.Expires ip) := by
  unfold Expires
  split <;> infer_instance

theorem not_expires_abort (ip : String) (error : ApiError) :
    ¬((machine app).abort stage error).Expires ip := by
  cases stage <;> exact id

end AnonymousStage

/-! ## Runs in time -/

/-- What becomes of the next call of a request. -/
inductive CallOutcome
  | taken
  | rejected (error : ApiError)
  /-- The process of the request stops before the call. -/
  | stopped

/-- A call of one of the requests, the time since the event before, and what the call
reads besides, except for the time. -/
structure AnonymousEvent where
  elapsed : Nat
  member : Nat
  input : Input
  outcome : CallOutcome

/-- The requests, and the time of the last event. -/
structure AnonymousSearches where
  crew : Crew AnonymousStage World
  clock : Time

namespace AnonymousSearches

variable (app : Deployment)

/-- The searches after one event more. -/
def step (searches : AnonymousSearches) (event : AnonymousEvent) : AnonymousSearches :=
  let clock := searches.clock + event.elapsed
  let turn : CrewTurn Input ApiError :=
    { member := event.member, input := { event.input with now := clock } }
  { clock
    crew :=
      match event.outcome with
      | .taken => (AnonymousStage.machine app).step searches.crew turn
      | .rejected error =>
          (AnonymousStage.machine app).step searches.crew { turn with rejected := some error }
      | .stopped =>
          { searches.crew with
            members := searches.crew.members.set event.member .stopped } }

/-- Requests about to start, each from an address and with a query. -/
def start (world : World) (clock : Time) (requests : List (String × String)) :
    AnonymousSearches where
  crew :=
    { state := world
      members := requests.map fun (ip, query) => .incr ip query }
  clock

/-- Unless a request is about to set its expiry, a counter that is there expires at most a
second past the next midnight, and after that a request is admitted as the first. -/
def Resets (ip : String) (searches : AnonymousSearches) : Prop :=
  (∀ stage ∈ searches.crew.members, ¬stage.Expires ip) →
    (∀ now, searches.clock ≤ now → ∀ entry,
      Redis.lookup now (.anonymousSearch ip) searches.crew.state.redis = some entry →
        ∃ expiresAt, entry.expiresAt = some expiresAt ∧
          expiresAt ≤ app.nextMidnight now + 1000) ∧
    ∀ input : Input, app.nextMidnight searches.clock + 1000 ≤ input.now →
      ((LeadsService.checkAnonymousSearchLimit app ip).run input searches.crew.state).1 =
        .ok { searchesUsedToday := 1, searchesRemainingToday := 2 }

/-- A request that is about to set the expiry of an address's counter does so, where this
is its event. -/
def SetsExpiry (ip : String) (searches : AnonymousSearches) (event : AnonymousEvent) : Prop :=
  match event.outcome with
  | .taken => True
  | _ => ∀ stage, searches.crew.members[event.member]? = some stage → ¬stage.Expires ip

/-- The counter of an address, and the requests that may still set its expiry. -/
structure Counting (ip : String) (searches : AnonymousSearches) : Prop where
  harmless : ∀ stage ∈ searches.crew.members, stage.Harmless
  single : (searches.crew.state.entriesOf (.anonymousSearch ip)).length ≤ 1
  positive : ∀ entry ∈ searches.crew.state.entriesOf (.anonymousSearch ip), 0 < entry.value
  bounded : ∀ entry ∈ searches.crew.state.entriesOf (.anonymousSearch ip),
    ∀ expiresAt, entry.expiresAt = some expiresAt →
      expiresAt ≤ app.nextMidnight searches.clock + 1000
  alone : ∀ (first second : Nat) (stage other : AnonymousStage),
    searches.crew.members[first]? = some stage → stage.Expires ip →
    searches.crew.members[second]? = some other → other.Expires ip → first = second
  created : ∀ stage ∈ searches.crew.members, stage.Expires ip →
    ∃ entry ∈ searches.crew.state.entriesOf (.anonymousSearch ip), entry.expiresAt = none

variable {app : Deployment} {ip : String} {searches : AnonymousSearches} {event : AnonymousEvent}

/-- A first request is admitted. -/
theorem run_checkAnonymousSearchLimit
    {input : Input}
    {world : World}
    (absent : Redis.lookup input.now (.anonymousSearch ip) world.redis = none) :
    ((LeadsService.checkAnonymousSearchLimit app ip).run input world).1 =
      .ok { searchesUsedToday := 1, searchesRemainingToday := 2 } := by
  have first : (Redis.incr (.anonymousSearch ip)).run input world =
      (.ok 1, { world with redis := Redis.put ⟨.anonymousSearch ip, 1, none⟩ world.redis }) := by
    rw [Redis.incr, run_attempt, absent]
  have counted : ((LeadsService.countAnonymousSearch app ip).run input world).1 = .ok 1 := by
    rw [LeadsService.countAnonymousSearch, run_bind, first]
    rfl
  rcases outcome : (LeadsService.countAnonymousSearch app ip).run input world with ⟨result, after⟩
  rw [outcome] at counted
  have counted : result = .ok 1 := counted
  rw [LeadsService.checkAnonymousSearchLimit, run_bind, run_tryCatch, outcome, counted]
  rfl

/-- A counter that is there is the only one. -/
theorem Counting.only
    (counting : Counting app ip searches)
    {entry : RedisEntry}
    (stored : entry ∈ searches.crew.state.entriesOf (.anonymousSearch ip)) :
    searches.crew.state.entriesOf (.anonymousSearch ip) = [entry] := by
  have single := counting.single
  match entries : searches.crew.state.entriesOf (.anonymousSearch ip) with
  | [] => simp [entries] at stored
  | [other] =>
      rw [entries] at stored
      rw [List.mem_singleton.mp stored]
  | first :: second :: others => simp [entries] at single

/-- A counter without an expiry is found at any time. -/
theorem Counting.lookup_permanent
    (counting : Counting app ip searches)
    {entry : RedisEntry}
    (stored : entry ∈ searches.crew.state.entriesOf (.anonymousSearch ip))
    (permanent : entry.expiresAt = none)
    (now : Time) :
    Redis.lookup now (.anonymousSearch ip) searches.crew.state.redis = some entry := by
  rw [lookup_entriesOf, counting.only stored]
  simp [Redis.RedisEntry.present, permanent]

/-- The counter is as it should be exactly where it has an expiry, unless a request is
about to set one. -/
theorem resets_iff
    (monotone : Monotone app.nextMidnight)
    (counting : Counting app ip searches) :
    Resets app ip searches ↔
      ((∀ stage ∈ searches.crew.members, ¬stage.Expires ip) →
        ∀ entry ∈ searches.crew.state.entriesOf (.anonymousSearch ip),
          entry.expiresAt ≠ none) := by
  constructor
  · intro resets quiet entry stored permanent
    have found := counting.lookup_permanent stored permanent searches.clock
    obtain ⟨expiresAt, expires, -⟩ := (resets quiet).1 _ (Nat.le_refl _) entry found
    rw [permanent] at expires
    cases expires
  · intro lasting quiet
    have lasting := lasting quiet
    refine ⟨fun now later entry found => ?_, fun input late => ?_⟩
    · have stored := (mem_entriesOf_of_lookup found).1
      obtain ⟨expiresAt, expires⟩ := Option.ne_none_iff_exists'.mp (lasting entry stored)
      refine ⟨expiresAt, expires, ?_⟩
      have bounded := counting.bounded entry stored expiresAt expires
      exact Nat.le_trans bounded (Nat.add_le_add_right (monotone later) 1000)
    · refine run_checkAnonymousSearchLimit (lookup_eq_none_iff.mpr fun entry stored => ?_)
      obtain ⟨expiresAt, expires⟩ := Option.ne_none_iff_exists'.mp (lasting entry stored)
      have bounded := counting.bounded entry stored expiresAt expires
      unfold Redis.RedisEntry.present
      rw [expires]
      exact decide_eq_false (Nat.not_lt.mpr (Nat.le_trans bounded late))

/-! ## The events of a run -/

/-- What an event reads. -/
def inputOf (searches : AnonymousSearches) (event : AnonymousEvent) : Input :=
  { event.input with now := searches.clock + event.elapsed }

/-- The requests after one of them has moved. -/
def moved
    (searches : AnonymousSearches)
    (event : AnonymousEvent)
    (world : World)
    (after : AnonymousStage) : AnonymousSearches where
  crew :=
    { state := world
      members := searches.crew.members.set event.member after }
  clock := searches.clock + event.elapsed

/-- What an event does: nothing, or the call of a request, or an end of the request. -/
theorem step_cases (app : Deployment) (searches : AnonymousSearches) (event : AnonymousEvent) :
    (searches.crew.members[event.member]? = none ∧
        step app searches event =
          { searches with clock := searches.clock + event.elapsed }) ∨
      ∃ stage, searches.crew.members[event.member]? = some stage ∧
        (event.outcome = .taken ∧
            step app searches event =
              searches.moved event
                ((AnonymousStage.machine app).effect stage (searches.inputOf event)
                  searches.crew.state)
                ((AnonymousStage.machine app).next stage (searches.inputOf event)
                  searches.crew.state) ∨
          event.outcome ≠ .taken ∧
            ∃ after : AnonymousStage, (∀ ip, ¬after.Expires ip) ∧
              (stage.Harmless → after.Harmless) ∧
              step app searches event = searches.moved event searches.crew.state after) := by
  cases chosen : searches.crew.members[event.member]? with
  | none =>
      refine .inl ⟨rfl, ?_⟩
      have beyond := List.getElem?_eq_none_iff.mp chosen
      unfold step
      cases event.outcome with
      | taken => simp only [Machine.step, chosen]
      | rejected error => simp only [Machine.step, chosen]
      | stopped => simp only [List.set_eq_of_length_le beyond]
  | some stage =>
      refine .inr ⟨stage, rfl, ?_⟩
      unfold step moved
      cases event.outcome with
      | taken =>
          refine .inl ⟨rfl, ?_⟩
          simp only [Machine.step, chosen, inputOf]
      | rejected error =>
          refine .inr ⟨by simp, (AnonymousStage.machine app).abort stage error, ?_, ?_, ?_⟩
          · exact fun ip => AnonymousStage.not_expires_abort app ip error
          · exact fun harmless => AnonymousStage.harmless_abort app harmless error
          · simp only [Machine.step, chosen]
      | stopped => exact .inr ⟨by simp, .stopped, fun _ => id, fun _ => trivial, rfl⟩

/-- The requests that are about to set an expiry, after a move to a point that is not. -/
theorem mem_of_mem_set
    {members : List AnonymousStage}
    {position other : Nat}
    {after stage : AnonymousStage}
    (found : (members.set position after)[other]? = some stage)
    (unset : ¬after.Expires ip)
    (expires : stage.Expires ip) :
    members[other]? = some stage := by
  rw [List.getElem?_set] at found
  split at found
  · split at found
    · cases found
      exact absurd expires unset
    · cases found
  · exact found

/-- A move that leaves the counter alone. -/
theorem Counting.moved
    (monotone : Monotone app.nextMidnight)
    (counting : Counting app ip searches)
    {world : World}
    {after : AnonymousStage}
    (same : world.entriesOf (.anonymousSearch ip) =
      searches.crew.state.entriesOf (.anonymousSearch ip))
    (harmless : after.Harmless)
    (unset : ¬after.Expires ip) :
    Counting app ip (searches.moved event world after) where
  harmless := by
    intro stage present
    rcases List.mem_or_eq_of_mem_set present with old | rfl
    · exact counting.harmless stage old
    · exact harmless
  single := same ▸ counting.single
  positive := same ▸ counting.positive
  bounded := by
    intro entry stored expiresAt expires
    have bounded := counting.bounded entry (same ▸ stored) expiresAt expires
    exact Nat.le_trans bounded
      (Nat.add_le_add_right (monotone (Nat.le_add_right _ _)) 1000)
  alone := by
    intro first second stage other found expires present sets
    exact counting.alone first second stage other (mem_of_mem_set found unset expires) expires
      (mem_of_mem_set present unset sets) sets
  created := by
    intro stage present expires
    obtain ⟨position, found⟩ := List.mem_iff_getElem?.mp present
    have old := mem_of_mem_set found unset expires
    exact same ▸ counting.created stage (List.mem_of_getElem? old) expires

/-- A move that stores the counter. -/
theorem Counting.stores
    (counting : Counting app ip searches)
    {world : World}
    {after : AnonymousStage}
    {entry : RedisEntry}
    (stored : world.entriesOf (.anonymousSearch ip) = [entry])
    (positive : 0 < entry.value)
    (bounded : ∀ expiresAt, entry.expiresAt = some expiresAt →
      expiresAt ≤ app.nextMidnight (searches.clock + event.elapsed) + 1000)
    (harmless : after.Harmless)
    (created : after.Expires ip → entry.expiresAt = none)
    (others : ∀ position stage, searches.crew.members[position]? = some stage →
      position ≠ event.member → stage.Expires ip →
        entry.expiresAt = none ∧ ¬after.Expires ip) :
    Counting app ip (searches.moved event world after) where
  harmless := by
    intro stage present
    rcases List.mem_or_eq_of_mem_set present with old | rfl
    · exact counting.harmless stage old
    · exact harmless
  single := Nat.le_of_eq (congrArg List.length stored)
  positive := by
    intro other present
    have same : other = entry := List.mem_singleton.mp (stored ▸ present)
    rwa [same]
  bounded := by
    intro other present
    have same : other = entry := List.mem_singleton.mp (stored ▸ present)
    rwa [same]
  alone := by
    intro first second stage other found expires present sets
    have split : ∀ position stage,
        (searches.crew.members.set event.member after)[position]? = some stage →
        position = event.member ∧ stage = after ∨
          position ≠ event.member ∧ searches.crew.members[position]? = some stage := by
      intro position stage found
      rw [List.getElem?_set] at found
      split at found
      · rename_i same
        split at found
        · cases found
          exact .inl ⟨same.symm, rfl⟩
        · cases found
      · rename_i different
        exact .inr ⟨Ne.symm different, found⟩
    rcases split first stage found with ⟨here, rfl⟩ | ⟨apart, old⟩
    · rcases split second other present with ⟨same, rfl⟩ | ⟨apart, old⟩
      · rw [here, same]
      · exact absurd expires (others second other old apart sets).2
    · rcases split second other present with ⟨same, rfl⟩ | ⟨different, older⟩
      · exact absurd sets (others first stage old apart expires).2
      · exact counting.alone first second stage other old expires older sets
  created := by
    intro stage present expires
    refine ⟨entry, stored ▸ List.mem_singleton_self entry, ?_⟩
    obtain ⟨position, found⟩ := List.mem_iff_getElem?.mp present
    have found : (searches.crew.members.set event.member after)[position]? = some stage := found
    rw [List.getElem?_set] at found
    split at found
    · split at found
      · cases found
        exact created expires
      · cases found
    · rename_i different
      exact (others position stage found (Ne.symm different) expires).1

/-- Every counter that no request is about to set an expiry for has one. -/
def Lasts (ip : String) (searches : AnonymousSearches) : Prop :=
  (∀ stage ∈ searches.crew.members, ¬stage.Expires ip) →
    ∀ entry ∈ searches.crew.state.entriesOf (.anonymousSearch ip), entry.expiresAt ≠ none

/-- Where no request is about to set an expiry after a move, none was before, the one
that moved perhaps apart. -/
theorem quiet_of_moved
    {world : World}
    {after stage : AnonymousStage}
    (chosen : searches.crew.members[event.member]? = some stage)
    (unset : ¬stage.Expires ip)
    (quiet : ∀ stage ∈ (searches.moved event world after).crew.members, ¬stage.Expires ip) :
    ∀ stage ∈ searches.crew.members, ¬stage.Expires ip := by
  intro other present
  obtain ⟨position, found⟩ := List.mem_iff_getElem?.mp present
  by_cases here : position = event.member
  · rw [here, chosen] at found
    cases found
    exact unset
  · refine quiet other (List.mem_of_getElem? (i := position) ?_)
    show (searches.crew.members.set event.member after)[position]? = _
    rw [List.getElem?_set_ne (Ne.symm here)]
    exact found

/-- A move that leaves the counter alone leaves it as lasting as it is. -/
theorem Lasts.moved
    (lasts : Lasts ip searches)
    {world : World}
    {after stage : AnonymousStage}
    (chosen : searches.crew.members[event.member]? = some stage)
    (unset : ¬stage.Expires ip)
    (same : world.entriesOf (.anonymousSearch ip) =
      searches.crew.state.entriesOf (.anonymousSearch ip)) :
    Lasts ip (searches.moved event world after) := by
  intro quiet entry stored
  exact lasts (quiet_of_moved chosen unset quiet) entry (same ▸ stored)

/-- The midnight to which a counter lasts, to the second. -/
theorem expiry_le
    (ahead : ∀ now, now ≤ app.nextMidnight now)
    (now : Time) :
    now + LeadsService.secondsUntilMidnight app now * 1000 ≤ app.nextMidnight now + 1000 := by
  have rounded : LeadsService.secondsUntilMidnight app now * 1000 ≤
      app.nextMidnight now - now + 999 := Nat.div_mul_le_self _ _
  calc now + LeadsService.secondsUntilMidnight app now * 1000
      ≤ now + (app.nextMidnight now - now + 999) := Nat.add_le_add_left rounded now
    _ = app.nextMidnight now + 999 := by rw [← Nat.add_assoc, Nat.add_sub_cancel' (ahead now)]
    _ ≤ app.nextMidnight now + 1000 := Nat.le_succ _

section

variable {query : String}

/-- The requests after one of them has made its call. -/
def called
    (app : Deployment)
    (searches : AnonymousSearches)
    (event : AnonymousEvent)
    (stage : AnonymousStage) : AnonymousSearches :=
  searches.moved event
    ((AnonymousStage.machine app).effect stage (searches.inputOf event) searches.crew.state)
    ((AnonymousStage.machine app).next stage (searches.inputOf event) searches.crew.state)

/-- A request is counted on a counter that is there. -/
theorem incr_counting
    (monotone : Monotone app.nextMidnight)
    (counting : Counting app ip searches)
    (chosen : searches.crew.members[event.member]? = some (.incr ip query))
    {entry : RedisEntry}
    (found : Redis.lookup (searches.inputOf event).now (.anonymousSearch ip)
      searches.crew.state.redis = some entry) :
    Counting app ip (searches.called app event (.incr ip query)) ∧
      (Lasts ip searches → Lasts ip (searches.called app event (.incr ip query))) := by
  obtain ⟨stored, keyed⟩ := mem_entriesOf_of_lookup found
  have bumped : AnonymousStage.bumped ip (searches.inputOf event).now searches.crew.state =
      { entry with value := entry.value + 1 } := by
    rw [AnonymousStage.bumped, found]
  have positive := counting.positive entry stored
  have leads : (AnonymousStage.machine app).next (.incr ip query) (searches.inputOf event)
      searches.crew.state = .rest (AnonymousStage.counted query (entry.value + 1)) := by
    simp only [AnonymousStage.machine, bumped]
    rw [if_neg (by omega)]
  have kept : ((AnonymousStage.machine app).effect (.incr ip query) (searches.inputOf event)
      searches.crew.state).entriesOf (.anonymousSearch ip) =
        [{ entry with value := entry.value + 1 }] := by
    simp only [AnonymousStage.machine, bumped]
    exact entriesOf_put keyed
  unfold called
  rw [leads]
  refine ⟨counting.stores kept (Nat.succ_pos _) ?_ (AnonymousStage.sameRedis_counted query _)
    (fun expires => absurd expires id) ?_, ?_⟩
  · intro expiresAt expires
    exact Nat.le_trans (counting.bounded entry stored expiresAt expires)
      (Nat.add_le_add_right (monotone (Nat.le_add_right _ _)) 1000)
  · intro position other present _ expires
    obtain ⟨same, among, permanent⟩ :=
      counting.created other (List.mem_of_getElem? present) expires
    rw [counting.only stored] at among
    rw [List.mem_singleton.mp among] at permanent
    exact ⟨permanent, id⟩
  · intro lasts quiet other present
    have same : other = { entry with value := entry.value + 1 } :=
      List.mem_singleton.mp (kept ▸ present)
    rw [same]
    exact lasts (quiet_of_moved chosen id quiet) entry stored

/-- A request creates the counter, and is about to set its expiry. -/
theorem create_counting
    (counting : Counting app ip searches)
    (chosen : searches.crew.members[event.member]? = some (.incr ip query))
    (found : Redis.lookup (searches.inputOf event).now (.anonymousSearch ip)
      searches.crew.state.redis = none) :
    Counting app ip (searches.called app event (.incr ip query)) ∧
      (Lasts ip searches → Lasts ip (searches.called app event (.incr ip query))) := by
  have bumped : AnonymousStage.bumped ip (searches.inputOf event).now searches.crew.state =
      { key := .anonymousSearch ip, value := 1 } := by
    rw [AnonymousStage.bumped, found]
  have leads : (AnonymousStage.machine app).next (.incr ip query) (searches.inputOf event)
      searches.crew.state = .expire ip query := by
    simp only [AnonymousStage.machine, bumped]
    rfl
  have kept : ((AnonymousStage.machine app).effect (.incr ip query) (searches.inputOf event)
      searches.crew.state).entriesOf (.anonymousSearch ip) =
        [{ key := .anonymousSearch ip, value := 1 }] := by
    simp only [AnonymousStage.machine, bumped]
    exact entriesOf_put rfl
  unfold called
  rw [leads]
  refine ⟨counting.stores kept Nat.one_pos nofun trivial (fun _ => rfl) ?_, fun _ quiet => ?_⟩
  · intro position other present _ expires
    obtain ⟨entry, stored, permanent⟩ :=
      counting.created other (List.mem_of_getElem? present) expires
    rw [counting.lookup_permanent stored permanent] at found
    cases found
  · have within := (List.getElem?_eq_some_iff.mp chosen).1
    exact absurd rfl (quiet _ (List.mem_of_getElem? (List.getElem?_set_self within)))

/-- A request sets the expiry of the counter it has created. -/
theorem expire_counting
    (ahead : ∀ now, now ≤ app.nextMidnight now)
    (counting : Counting app ip searches)
    (chosen : searches.crew.members[event.member]? = some (.expire ip query)) :
    Counting app ip (searches.called app event (.expire ip query)) ∧
      Lasts ip (searches.called app event (.expire ip query)) := by
  obtain ⟨entry, stored, permanent⟩ :=
    counting.created _ (List.mem_of_getElem? chosen) rfl
  have found := counting.lookup_permanent stored permanent (searches.inputOf event).now
  have kept : ((AnonymousStage.machine app).effect (.expire ip query) (searches.inputOf event)
      searches.crew.state).entriesOf (.anonymousSearch ip) =
        [{ entry with
            expiresAt := some ((searches.inputOf event).now +
              LeadsService.secondsUntilMidnight app (searches.inputOf event).now * 1000) }] := by
    simp only [AnonymousStage.machine, AnonymousStage.expiring, found]
    exact entriesOf_put (mem_entriesOf_of_lookup found).2
  refine ⟨counting.stores kept (counting.positive entry stored) ?_
    (AnonymousStage.sameRedis_counted query 1) (fun expires => absurd expires id) ?_, ?_⟩
  · rintro expiresAt ⟨⟩
    exact expiry_le ahead _
  · intro position other present apart expires
    exact absurd (counting.alone position event.member other _ present expires chosen rfl) apart
  · intro _ other present
    have same := List.mem_singleton.mp (kept ▸ present)
    rw [same]
    exact nofun

end

/-- A call leaves the counter with an expiry, or with a request about to set one. -/
theorem call_counting
    (monotone : Monotone app.nextMidnight)
    (ahead : ∀ now, now ≤ app.nextMidnight now)
    (counting : Counting app ip searches)
    {stage : AnonymousStage}
    (chosen : searches.crew.members[event.member]? = some stage) :
    Counting app ip (searches.called app event stage) ∧
      (Lasts ip searches → Lasts ip (searches.called app event stage)) := by
  have harmless := counting.harmless stage (List.mem_of_getElem? chosen)
  have onwards := AnonymousStage.harmless_next app harmless (searches.inputOf event)
    searches.crew.state
  have spares : ¬stage.Expires ip →
      ¬((AnonymousStage.machine app).next stage (searches.inputOf event)
        searches.crew.state).Expires ip →
      ((AnonymousStage.machine app).effect stage (searches.inputOf event)
        searches.crew.state).entriesOf (.anonymousSearch ip) =
          searches.crew.state.entriesOf (.anonymousSearch ip) →
      Counting app ip (searches.called app event stage) ∧
        (Lasts ip searches → Lasts ip (searches.called app event stage)) := by
    intro unset stays same
    exact ⟨counting.moved monotone same onwards stays,
      fun lasts => lasts.moved chosen unset same⟩
  cases stage with
  | rest process =>
      refine spares id id ?_
      have same : SameRedis searches.crew.state _ := Respects.effect harmless
        (searches.inputOf event) searches.crew.state
      unfold World.entriesOf
      exact congrArg (List.filter fun entry => entry.key = .anonymousSearch ip) same
  | stopped => exact spares id id rfl
  | incr address query =>
      by_cases mine : address = ip
      · subst mine
        cases found : Redis.lookup (searches.inputOf event).now (.anonymousSearch address)
            searches.crew.state.redis with
        | some entry => exact incr_counting monotone counting chosen found
        | none => exact create_counting counting chosen found
      · refine spares id ?_ ?_
        · simp only [AnonymousStage.machine]
          split
          · exact mine
          · exact id
        · refine entriesOf_put_of_ne ?_
          unfold AnonymousStage.bumped
          split
          · rename_i entry found
            rw [show ({ entry with value := entry.value + 1 } : RedisEntry).key = _ from
              (mem_entriesOf_of_lookup found).2]
            exact fun same => mine (RedisKey.anonymousSearch.inj same)
          · exact fun same => mine (RedisKey.anonymousSearch.inj same)
  | expire address query =>
      by_cases mine : address = ip
      · subst mine
        obtain ⟨kept, lasts⟩ := expire_counting ahead counting chosen
        exact ⟨kept, fun _ => lasts⟩
      · refine spares mine id ?_
        show (AnonymousStage.expiring app address _ _).entriesOf _ = _
        unfold AnonymousStage.expiring
        split
        · rename_i entry found
          refine entriesOf_put_of_ne ?_
          rw [show ({ entry with expiresAt := some _ } : RedisEntry).key = _ from
            (mem_entriesOf_of_lookup found).2]
          exact fun same => mine (RedisKey.anonymousSearch.inj same)
        · rfl

/-- An event keeps the counter lasting exactly where it does not keep a request from
setting its expiry. -/
theorem step_counting
    (monotone : Monotone app.nextMidnight)
    (ahead : ∀ now, now ≤ app.nextMidnight now)
    (counting : Counting app ip searches) :
    Counting app ip (step app searches event) ∧
      (Lasts ip searches →
        (Lasts ip (step app searches event) ↔ SetsExpiry ip searches event)) := by
  rcases step_cases app searches event with
    ⟨absent, after⟩ | ⟨stage, chosen, ⟨taken, after⟩ | ⟨ended, left, unset, harmless, after⟩⟩
  · rw [after]
    refine ⟨?_, fun lasts => iff_of_true lasts ?_⟩
    · refine { counting with bounded := ?_ }
      intro entry stored expiresAt expires
      exact Nat.le_trans (counting.bounded entry stored expiresAt expires)
        (Nat.add_le_add_right (monotone (Nat.le_add_right _ _)) 1000)
    · unfold SetsExpiry
      split
      · trivial
      · intro stage found
        rw [absent] at found
        cases found
  · rw [after]
    obtain ⟨kept, lasting⟩ := call_counting monotone ahead counting chosen
    refine ⟨kept, fun lasts => iff_of_true (lasting lasts) ?_⟩
    unfold SetsExpiry
    rw [taken]
    trivial
  · rw [after]
    have stays := harmless (counting.harmless stage (List.mem_of_getElem? chosen))
    refine ⟨counting.moved monotone rfl stays (unset ip), fun lasts => ?_⟩
    have sets : SetsExpiry ip searches event ↔ ¬stage.Expires ip := by
      unfold SetsExpiry
      split
      · rename_i taken
        exact absurd taken ended
      · rw [chosen]
        exact ⟨fun met => met stage rfl, fun met other same => Option.some.inj same ▸ met⟩
    rw [sets]
    refine ⟨fun lasting expires => ?_, fun spared => lasts.moved chosen spared rfl⟩
    -- The counter stays without an expiry, and nobody is about to set one any more.
    obtain ⟨entry, stored, permanent⟩ :=
      counting.created stage (List.mem_of_getElem? chosen) expires
    refine lasting (fun other present sets => ?_) entry stored permanent
    obtain ⟨position, found⟩ := List.mem_iff_getElem?.mp present
    have old := mem_of_mem_set found (unset ip) sets
    have here := counting.alone position event.member other stage old sets chosen expires
    have within := (List.getElem?_eq_some_iff.mp chosen).1
    have found : (searches.crew.members.set event.member left)[position]? = some other := found
    rw [here, List.getElem?_set_self within] at found
    cases found
    exact unset ip sets

/-- In a run of requests from a moment at which an address has no counter, the counter
always expires at most a second past the next midnight, and searches from the address are
admitted again after that, exactly if every request that creates the counter gets to set
its expiry. -/
theorem counter_resets_iff
    (app : Deployment)
    (monotone : Monotone app.nextMidnight)
    (ahead : ∀ now, now ≤ app.nextMidnight now)
    (ip : String)
    (world : World)
    (absent : world.entriesOf (.anonymousSearch ip) = [])
    (clock : Time)
    (requests : List (String × String))
    (events : List AnonymousEvent) :
    (∀ reached, reached <+: events →
        Resets app ip (reached.foldl (step app) (start world clock requests))) ↔
      Along (step app) (SetsExpiry ip) (start world clock requests) events := by
  have starting : ∀ stage ∈ (start world clock requests).crew.members,
      ∃ address query, stage = .incr address query := by
    intro stage present
    obtain ⟨request, -, rfl⟩ := List.mem_map.mp present
    exact ⟨request.1, request.2, rfl⟩
  have unset : ∀ stage ∈ (start world clock requests).crew.members, ¬stage.Expires ip := by
    intro stage present
    obtain ⟨address, query, rfl⟩ := starting stage present
    exact id
  have empty : (start world clock requests).crew.state.entriesOf (.anonymousSearch ip) = [] :=
    absent
  have counting : Counting app ip (start world clock requests) := by
    refine ⟨?_, ?_, ?_, ?_, ?_, ?_⟩
    · intro stage present
      obtain ⟨address, query, rfl⟩ := starting stage present
      trivial
    · rw [empty]
      exact Nat.zero_le 1
    · rw [empty]
      exact List.forall_mem_nil _
    · rw [empty]
      exact List.forall_mem_nil _
    · intro first second stage other found expires
      exact absurd expires (unset stage (List.mem_of_getElem? found))
    · intro stage present expires
      exact absurd expires (unset stage present)
  have kept : ∀ searches, ∀ event ∈ events, Counting app ip searches →
      Counting app ip (step app searches event) :=
    fun _ _ _ counting => (step_counting monotone ahead counting).1
  have decides : ∀ searches, ∀ event ∈ events, Counting app ip searches →
      Resets app ip searches →
        (Resets app ip (step app searches event) ↔ SetsExpiry ip searches event) := by
    intro searches event _ counting resets
    obtain ⟨kept, decides⟩ : Counting app ip (step app searches event) ∧ _ :=
      step_counting monotone ahead counting
    rw [resets_iff monotone kept]
    exact decides ((resets_iff monotone counting).mp resets)
  refine Along.iff_prefixes kept decides counting ((resets_iff monotone counting).mpr fun _ => ?_)
  rw [empty]
  exact List.forall_mem_nil _

/-- Four searches from an address. -/
def sampleRequests : List (String × String) :=
  List.replicate 4 ("203.0.113.9", "CTOs in Boston")

/-- A count at midnight, and what becomes of the request's next call. -/
def firstSearch (outcome : CallOutcome) : List AnonymousEvent :=
  [{ elapsed := 0, member := 0, input := { now := 0 }, outcome := .taken },
    { elapsed := 0, member := 0, input := { now := 0 }, outcome }]

/-- A count a day later. -/
def nextDay (member : Nat) : AnonymousEvent where
  elapsed := 86400000
  member
  input := { now := 0 }
  outcome := .taken

theorem monotone_nextMidnight : Monotone ({} : Deployment).nextMidnight := by
  have days : ∀ first second : Nat, first ≤ second →
      first - first % 86400000 + 86400000 ≤ second - second % 86400000 + 86400000 := by
    intro first second
    omega
  exact fun first second => days first second

theorem le_nextMidnight (now : Time) : now ≤ ({} : Deployment).nextMidnight now := by
  have days : ∀ now : Nat, now ≤ now - now % 86400000 + 86400000 := by
    intro now
    omega
  exact days now

/-- What becomes of a call of a search, some time after the last one. -/
def searchCall (elapsed member : Nat) (outcome : CallOutcome) : AnonymousEvent where
  elapsed
  member
  input := { now := 0 }
  outcome

/-- A search at eight, and one an hour later that stops once it is counted; then a search on
the next day. -/
def twoDays : List AnonymousEvent :=
  [searchCall 28800000 0 .taken, searchCall 1000 0 .taken, searchCall 3600000 1 .taken,
    searchCall 1000 1 .stopped, searchCall 86400000 2 .taken, searchCall 1000 2 .taken]

/-- The search on the next day is the first again, and the one after it the second. -/
theorem counter_resets_iff_days :
    (∀ reached, reached <+: twoDays →
      Resets {} "203.0.113.9" (reached.foldl (step {}) (start {} 0 sampleRequests))) ∧
    ((LeadsService.checkAnonymousSearchLimit {} "203.0.113.9").run { now := 118803000 }
      (twoDays.foldl (step {}) (start {} 0 sampleRequests)).crew.state).1 =
        .ok { searchesUsedToday := 2, searchesRemainingToday := 1 } := by
  refine ⟨?_, by decide⟩
  refine (counter_resets_iff {} monotone_nextMidnight le_nextMidnight "203.0.113.9" {} rfl 0
    sampleRequests twoDays).mpr ⟨trivial, trivial, trivial, ?_, trivial, trivial, trivial⟩
  intro stage found
  cases found
  exact id

/-- A rejected command, or a process that stops before it, leaves the counter without an
expiry, and the fourth search is refused three days later, as is every later one. -/
theorem lost_expiry_locks_out :
    (∀ outcome ∈ [CallOutcome.rejected .database, .stopped],
      ¬∀ reached, reached <+: firstSearch outcome →
        Resets {} "203.0.113.9" (reached.foldl (step {}) (start {} 0 sampleRequests))) ∧
      ∀ now, ∃ message,
        ((LeadsService.checkAnonymousSearchLimit {} "203.0.113.9").run { now }
          ((firstSearch (.rejected .database) ++ [nextDay 1, nextDay 2]).foldl (step {})
            (start {} 0 sampleRequests)).crew.state).1 = .error (.forbidden message) := by
  constructor
  · have lost : ∀ outcome, (∀ stage ∈ ((firstSearch outcome).foldl (step {})
          (start {} 0 sampleRequests)).crew.members, ¬stage.Expires "203.0.113.9") →
        Redis.lookup ((firstSearch outcome).foldl (step {}) (start {} 0 sampleRequests)).clock
          (.anonymousSearch "203.0.113.9")
          ((firstSearch outcome).foldl (step {}) (start {} 0 sampleRequests)).crew.state.redis =
            some ⟨.anonymousSearch "203.0.113.9", 1, none⟩ →
        ¬∀ reached, reached <+: firstSearch outcome →
          Resets {} "203.0.113.9" (reached.foldl (step {}) (start {} 0 sampleRequests)) := by
      intro outcome quiet found all
      obtain ⟨expiresAt, expires, -⟩ :=
        (all _ (List.prefix_refl _) quiet).1 _ (Nat.le_refl _) _ found
      cases expires
    intro outcome either
    rcases List.mem_cons.mp either with rfl | either
    · exact lost _ (by decide) rfl
    · rw [List.mem_singleton.mp either]
      exact lost _ (by decide) rfl
  · intro now
    exact ⟨_, rfl⟩

end AnonymousSearches
end ConferenceContact
