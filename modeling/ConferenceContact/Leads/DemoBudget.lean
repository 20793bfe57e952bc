import ConferenceContact.Foundation.CallBounds
import ConferenceContact.Leads.AnonymousSearches
import Mathlib.Algebra.BigOperators.Group.Finset.Piecewise

/-!
# What the demo without an account can spend

Every search without an account may call Claude once and Apollo four times.  Whatever the
order of the commands of the requests of an address, and whichever of them fail, the calls
that they make before midnight are at most five for each search that a visitor is told to
have left.
-/

namespace ConferenceContact

open Process

namespace AnonymousStage

/-! ## The calls of a search -/

theorem makesAtMost_enrichAnonymously (candidates : List ApolloCandidate) :
    (LeadsService.enrichAnonymously candidates).MakesAtMost candidates.length := by
  induction candidates with
  | nil => exact MakesAtMost.pure _
  | cons candidate rest inductionHypothesis =>
      rw [List.length_cons, Nat.add_comm]
      refine (MakesAtMost.attempt _).bind fun enriched => ?_
      show MakesAtMost _ (rest.length + 0)
      refine inductionHypothesis.bind fun results => ?_
      cases enriched with
      | none => exact MakesAtMost.pure _
      | some enriched => exact MakesAtMost.pure _

theorem makesAtMost_anonymousResults (query : String) :
    (LeadsService.anonymousResults query).MakesAtMost 5 := by
  show MakesAtMost _ (1 + 4)
  refine (MakesAtMost.attempt _).bind fun parsed => ?_
  show MakesAtMost _ (1 + 3)
  dsimp only
  split
  · refine (MakesAtMost.attempt _).bind fun enriched => ?_
    cases enriched with
    | none => exact MakesAtMost.pure _
    | some enriched => exact MakesAtMost.pure _
  · refine (MakesAtMost.attempt _).bind fun candidates => ?_
    exact (makesAtMost_enrichAnonymously _).mono (List.length_take_le _ _)

theorem makesAtMost_counted (query : String) (count : Nat) :
    (counted query count).MakesAtMost 5 := by
  unfold counted LeadsService.admitAnonymousSearch
  split
  · exact MakesAtMost.throw _
  · show MakesAtMost _ (0 + (5 + 0))
    refine (MakesAtMost.pure _).bind fun limit => ?_
    refine MakesAtMost.bind ?_ fun results => MakesAtMost.pure _
    show MakesAtMost _ (5 + 0)
    exact (makesAtMost_anonymousResults query).tryCatch fun error => MakesAtMost.throw _

/-- A search beyond the limit makes no call. -/
theorem makesAtMost_refused
    {count : Nat}
    (beyond : LeadsService.anonymousMaxSearchesPerDay < count)
    (query : String) :
    (counted query count).MakesAtMost 0 := by
  unfold counted LeadsService.admitAnonymousSearch
  rw [if_pos beyond]
  exact MakesAtMost.throw _

/-- The next call is one of Claude or Apollo. -/
def callsOut : AnonymousStage → Bool
  | rest process => !process.finished
  | _ => false

/-- Before it is counted again, the search makes at most so many calls. -/
def Within (budget : Nat) : AnonymousStage → Prop
  | expire _ _ => 5 ≤ budget
  | rest process => process.MakesAtMost budget
  | _ => True

/-- The search is still to be counted for an address. -/
def CountedFor (address : String) : AnonymousStage → Prop
  | incr ip _ => ip = address
  | expire ip _ => ip = address
  | _ => True

theorem CountedFor.next
    (app : Deployment)
    {address : String}
    {stage : AnonymousStage}
    (counted : stage.CountedFor address)
    (input : Input)
    (world : World) :
    ((machine app).next stage input world).CountedFor address := by
  cases stage with
  | incr ip query =>
      simp only [machine]
      split
      · exact counted
      · trivial
  | _ => trivial

end AnonymousStage

namespace AnonymousSearches

/-! ## The counter before midnight -/

/-- Until midnight the counter of an address stands at a number. -/
def Counts (ip : String) (midnight : Time) (count : Nat) (searches : AnonymousSearches) : Prop :=
  ∃ found : Option RedisEntry,
    (∀ now, searches.clock ≤ now → now < midnight →
      Redis.lookup now (.anonymousSearch ip) searches.crew.state.redis = found) ∧
    (found.map (·.value)).getD 0 = count

variable {app : Deployment} {ip : String} {midnight : Time} {count : Nat}
  {searches : AnonymousSearches} {event : AnonymousEvent}

theorem lookup_put
    {key : RedisKey}
    {entry : RedisEntry}
    (keyed : entry.key = key)
    {now : Time}
    (present : Redis.RedisEntry.present now entry = true)
    (entries : List RedisEntry) :
    Redis.lookup now key (Redis.put entry entries) = some entry := by
  unfold Redis.lookup Redis.put
  rw [List.find?_cons_of_pos (by simp [keyed, present])]

theorem lookup_put_of_ne
    {key : RedisKey}
    {entry : RedisEntry}
    (other : entry.key ≠ key)
    (now : Time)
    (world : World) :
    Redis.lookup now key (Redis.put entry world.redis) = Redis.lookup now key world.redis := by
  let after : World := { world with redis := Redis.put entry world.redis }
  have same : after.entriesOf key = world.entriesOf key := entriesOf_put_of_ne other
  show Redis.lookup now key after.redis = _
  rw [lookup_entriesOf, lookup_entriesOf, same]

/-- A counter that is found. -/
theorem keyed_of_lookup
    {now : Time}
    {entry : RedisEntry}
    {world : World}
    (found : Redis.lookup now (.anonymousSearch ip) world.redis = some entry) :
    entry.key = .anonymousSearch ip ∧ Redis.RedisEntry.present now entry = true := by
  have met := List.find?_some found
  rw [decide_eq_true_eq] at met
  exact met

/-- Nothing happens to the counter. -/
theorem Counts.moved
    (counts : Counts ip midnight count searches)
    {world : World}
    (same : ∀ now, searches.clock + event.elapsed ≤ now → now < midnight →
      Redis.lookup now (.anonymousSearch ip) world.redis =
      Redis.lookup now (.anonymousSearch ip) searches.crew.state.redis)
    (after : AnonymousStage) :
    Counts ip midnight count (searches.moved event world after) := by
  obtain ⟨found, steady, value⟩ := counts
  refine ⟨found, fun now later early => ?_, value⟩
  exact (same now later early).trans (steady now (Nat.le_trans (Nat.le_add_right _ _) later) early)

/-- The counter is counted up. -/
theorem Counts.incr
    (app : Deployment)
    (counts : Counts ip midnight count searches)
    (early : searches.clock + event.elapsed < midnight)
    (query : String)
    (after : AnonymousStage) :
    (AnonymousStage.bumped ip (searches.inputOf event).now searches.crew.state).value = count + 1 ∧
      Counts ip midnight (count + 1)
        (searches.moved event
          ((AnonymousStage.machine app).effect (.incr ip query) (searches.inputOf event)
            searches.crew.state) after) := by
  obtain ⟨found, steady, value⟩ := counts
  have here := steady (searches.inputOf event).now (Nat.le_add_right _ _) early
  have stores (entry : RedisEntry) (keyed : entry.key = .anonymousSearch ip)
      (lasts : ∀ now, searches.clock + event.elapsed ≤ now → now < midnight →
        Redis.RedisEntry.present now entry = true)
      (bumped : AnonymousStage.bumped ip (searches.inputOf event).now searches.crew.state = entry) :
      Counts ip midnight entry.value
        (searches.moved event
          ((AnonymousStage.machine app).effect (.incr ip query) (searches.inputOf event)
            searches.crew.state) after) := by
    refine ⟨some entry, fun now later early => ?_, rfl⟩
    show Redis.lookup now (.anonymousSearch ip) (Redis.put _ _) = some entry
    rw [bumped]
    exact lookup_put keyed (lasts now later early) _
  cases found with
  | none =>
      have bumped : AnonymousStage.bumped ip (searches.inputOf event).now searches.crew.state =
          { key := .anonymousSearch ip, value := 1 } := by
        rw [AnonymousStage.bumped, here]
      cases value
      exact ⟨by rw [bumped]; rfl, stores _ rfl (fun _ _ _ => rfl) bumped⟩
  | some entry =>
      have bumped : AnonymousStage.bumped ip (searches.inputOf event).now searches.crew.state =
          { entry with value := entry.value + 1 } := by
        rw [AnonymousStage.bumped, here]
      cases value
      refine ⟨by rw [bumped]; rfl, stores { entry with value := entry.value + 1 }
        (keyed_of_lookup here).1 (fun now later early => ?_) bumped⟩
      exact (keyed_of_lookup
        (steady now (Nat.le_trans (Nat.le_add_right _ _) later) early)).2

/-- An expiry that is not before midnight. -/
theorem midnight_le_expiry
    (ahead : ∀ now, now ≤ app.nextMidnight now)
    (now : Time) :
    app.nextMidnight now ≤ now + LeadsService.secondsUntilMidnight app now * 1000 := by
  have rounded : ∀ midnight now : Nat, now ≤ midnight →
      midnight ≤ now + (midnight - now + 999) / 1000 * 1000 := by
    intro midnight now before
    omega
  exact rounded _ _ (ahead now)

/-- The counter is to expire at midnight. -/
theorem Counts.expire
    (monotone : Monotone app.nextMidnight)
    (ahead : ∀ now, now ≤ app.nextMidnight now)
    {clock : Time}
    (today : midnight ≤ app.nextMidnight clock)
    (started : clock ≤ searches.clock)
    (counts : Counts ip midnight count searches)
    (early : searches.clock + event.elapsed < midnight)
    (query : String)
    (after : AnonymousStage) :
    Counts ip midnight count
      (searches.moved event
        ((AnonymousStage.machine app).effect (.expire ip query) (searches.inputOf event)
          searches.crew.state) after) := by
  obtain ⟨found, steady, value⟩ := counts
  have here := steady (searches.inputOf event).now (Nat.le_add_right _ _) early
  cases found with
  | none =>
      refine Counts.moved ⟨none, steady, value⟩ (fun now _ _ => ?_) after
      show Redis.lookup now _ (AnonymousStage.expiring app ip _ _).redis = _
      rw [AnonymousStage.expiring, here]
  | some entry =>
      let renewed : RedisEntry :=
        { entry with expiresAt := some ((searches.inputOf event).now +
            LeadsService.secondsUntilMidnight app (searches.inputOf event).now * 1000) }
      have keyed : renewed.key = .anonymousSearch ip := (keyed_of_lookup here).1
      refine ⟨some renewed, fun now later early => ?_, value⟩
      show Redis.lookup now _ (AnonymousStage.expiring app ip _ _).redis = _
      rw [AnonymousStage.expiring, here]
      refine lookup_put keyed ?_ _
      show decide (now < (searches.inputOf event).now + _) = true
      refine decide_eq_true ?_
      calc now < midnight := early
        _ ≤ app.nextMidnight clock := today
        _ ≤ app.nextMidnight (searches.inputOf event).now :=
          monotone (Nat.le_trans started (Nat.le_add_right _ _))
        _ ≤ _ := midnight_le_expiry ahead _

/-! ## What is left to spend -/

/-- The request of a position is from the address. -/
def From (requests : List (String × String)) (ip : String) (position : Nat) : Prop :=
  (requests[position]?).map Prod.fst = some ip

instance (requests : List (String × String)) (ip : String) (position : Nat) :
    Decidable (From requests ip position) :=
  inferInstanceAs (Decidable (_ = _))

/-- The call of an event is made, if only to fail. -/
def made (event : AnonymousEvent) : Bool :=
  match event.outcome with
  | .stopped => false
  | _ => true

/-- One call of Claude or Apollo, where a request from the address makes one. -/
def spends
    (requests : List (String × String))
    (ip : String)
    (searches : AnonymousSearches)
    (event : AnonymousEvent) : Nat :=
  if From requests ip event.member ∧ made event ∧
      (searches.crew.members[event.member]?).any AnonymousStage.callsOut then 1
  else 0

/-- How the requests stand with a counter: each from the address has a budget for the calls
that it may still make. -/
structure Budgeted
    (requests : List (String × String))
    (ip : String)
    (budget : Nat → Nat)
    (searches : AnonymousSearches) : Prop where
  length : searches.crew.members.length = requests.length
  harmless : ∀ stage ∈ searches.crew.members, stage.Harmless
  counted : ∀ (position : Nat) (stage : AnonymousStage),
    searches.crew.members[position]? = some stage →
      ∀ address, (requests[position]?).map Prod.fst = some address → stage.CountedFor address
  within : ∀ (position : Nat) (stage : AnonymousStage),
    searches.crew.members[position]? = some stage → From requests ip position →
      stage.Within (budget position)

/-- An allowance for the searches that the counter still admits, and for the calls of those
that it has admitted. -/
def Covers
    (requests : List (String × String))
    (ip : String)
    (clock midnight : Time)
    (allowance : Int)
    (searches : AnonymousSearches) : Prop :=
  ∃ (count : Nat) (budget : Nat → Nat),
    clock ≤ searches.clock ∧ Counts ip midnight count searches ∧
      Budgeted requests ip budget searches ∧
      ((5 * (LeadsService.anonymousMaxSearchesPerDay - count) +
        ∑ position ∈ Finset.range requests.length, budget position : Nat) : Int) ≤ allowance

variable {requests : List (String × String)} {budget : Nat → Nat}

/-- The requests once one of them has moved to a point with a budget of its own. -/
theorem Budgeted.moved
    (budgeted : Budgeted requests ip budget searches)
    {world : World}
    {after : AnonymousStage}
    {left : Nat}
    (harmless : after.Harmless)
    (counted : ∀ address, (requests[event.member]?).map Prod.fst = some address →
      after.CountedFor address)
    (within : From requests ip event.member → after.Within left) :
    Budgeted requests ip (Function.update budget event.member left)
      (searches.moved event world after) := by
  have split : ∀ position stage,
      (searches.crew.members.set event.member after)[position]? = some stage →
      position = event.member ∧ stage = after ∨
        position ≠ event.member ∧ searches.crew.members[position]? = some stage := by
    intro position stage found
    rw [List.getElem?_set] at found
    split at found
    · rename_i same
      split at found
      · cases found
        exact .inl ⟨same.symm, rfl⟩
      · cases found
    · rename_i different
      exact .inr ⟨Ne.symm different, found⟩
  refine ⟨?_, ?_, ?_, ?_⟩
  · exact (List.length_set ..).trans budgeted.length
  · intro stage present
    rcases List.mem_or_eq_of_mem_set present with old | rfl
    · exact budgeted.harmless stage old
    · exact harmless
  · intro position stage found
    rcases split position stage found with ⟨rfl, rfl⟩ | ⟨-, old⟩
    · exact counted
    · exact budgeted.counted position stage old
  · intro position stage found mine
    rcases split position stage found with ⟨rfl, rfl⟩ | ⟨apart, old⟩
    · rw [Function.update_self]
      exact within mine
    · rw [Function.update_of_ne apart]
      exact budgeted.within position stage old mine

theorem spends_of_unmade (unmade : made event = false) :
    spends requests ip searches event = 0 := by
  refine if_neg ?_
  rintro ⟨-, calls, -⟩
  rw [unmade] at calls
  cases calls

theorem spends_of_absent (absent : searches.crew.members[event.member]? = none) :
    spends requests ip searches event = 0 := by
  refine if_neg ?_
  rintro ⟨-, -, calls⟩
  rw [absent] at calls
  cases calls

theorem spends_of_quiet
    {stage : AnonymousStage}
    (chosen : searches.crew.members[event.member]? = some stage)
    (quiet : stage.callsOut = false) :
    spends requests ip searches event = 0 := by
  refine if_neg ?_
  rintro ⟨-, -, calls⟩
  rw [chosen, Option.any_some, quiet] at calls
  cases calls

/-! ## One event -/

section Event

variable {clock : Time} {allowance : Int}
  (started : clock ≤ searches.clock)
  (budgeted : Budgeted requests ip budget searches)
  (covers : ((5 * (LeadsService.anonymousMaxSearchesPerDay - count) +
    ∑ position ∈ Finset.range requests.length, budget position : Nat) : Int) ≤ allowance)

include started budgeted covers

/-- A move that is paid for. -/
theorem Covers.moved
    {stage : AnonymousStage}
    (chosen : searches.crew.members[event.member]? = some stage)
    {world : World}
    {after : AnonymousStage}
    {later left spent : Nat}
    (counts : Counts ip midnight later (searches.moved event world after))
    (harmless : after.Harmless)
    (counted : ∀ address, (requests[event.member]?).map Prod.fst = some address →
      after.CountedFor address)
    (within : From requests ip event.member → after.Within left)
    (pays : 5 * (LeadsService.anonymousMaxSearchesPerDay - later) + left + spent ≤
      5 * (LeadsService.anonymousMaxSearchesPerDay - count) + budget event.member) :
    Covers requests ip clock midnight (allowance - spent) (searches.moved event world after) := by
  refine ⟨later, Function.update budget event.member left,
    Nat.le_trans started (Nat.le_add_right _ _), counts,
    budgeted.moved harmless counted within, ?_⟩
  have listed : event.member ∈ Finset.range requests.length := by
    rw [Finset.mem_range, ← budgeted.length]
    exact (List.getElem?_eq_some_iff.mp chosen).1
  have before := Finset.sum_eq_add_sum_sdiff_singleton_of_mem listed budget
  have changed := Finset.sum_update_of_mem listed budget left
  omega

variable (counts : Counts ip midnight count searches)

include counts

/-- A request leaves the counters alone and makes no call. -/
theorem Covers.idle
    {stage : AnonymousStage}
    (chosen : searches.crew.members[event.member]? = some stage)
    {after : AnonymousStage}
    (harmless : after.Harmless)
    (counted : ∀ address, after.CountedFor address)
    (within : From requests ip event.member → after.Within (budget event.member)) :
    Covers requests ip clock midnight (allowance - (0 : Nat))
      (searches.moved event searches.crew.state after) :=
  Covers.moved started budgeted covers chosen (counts.moved (fun _ _ _ => rfl) _) harmless
    (fun address _ => counted address) within (Nat.le_refl _)

/-- A call of Claude or Apollo, where one is left, is paid for from the budget of its
request. -/
theorem Covers.called
    {process after : Service Unit}
    (chosen : searches.crew.members[event.member]? = some (.rest process))
    (calls : made event = true)
    {world : World}
    (same : SameRedis searches.crew.state world)
    (harmless : after.Respects SameRedis)
    (uses : process.MakesAtMost (budget event.member) →
      (!process.finished).toNat ≤ budget event.member ∧
        after.MakesAtMost (budget event.member - (!process.finished).toNat)) :
    Covers requests ip clock midnight (allowance - spends requests ip searches event)
      (searches.moved event world (.rest after)) := by
  have kept : Counts ip midnight count (searches.moved event world (.rest after)) := by
    refine counts.moved (fun now _ _ => ?_) _
    exact congrArg (Redis.lookup now _) same
  by_cases mine : From requests ip event.member
  · obtain ⟨enough, left⟩ := uses (budgeted.within event.member _ chosen mine)
    have spent : spends requests ip searches event = (!process.finished).toNat := by
      unfold spends
      rw [chosen, Option.any_some, AnonymousStage.callsOut]
      cases process.finished with
      | false => exact if_pos ⟨mine, calls, rfl⟩
      | true => exact if_neg fun met => Bool.false_ne_true met.2.2
    rw [spent]
    exact Covers.moved started budgeted covers chosen kept harmless (fun _ _ => trivial)
      (fun _ => left) (by omega)
  · have spent : spends requests ip searches event = 0 := if_neg fun met => mine met.1
    rw [spent]
    exact Covers.moved started budgeted covers chosen kept harmless (fun _ _ => trivial)
      (fun here => absurd here mine) (Nat.le_refl _)

/-- The request of an event is counted. -/
theorem Covers.incremented
    {address query : String}
    (chosen : searches.crew.members[event.member]? = some (.incr address query))
    (early : searches.clock + event.elapsed < midnight) :
    Covers requests ip clock midnight (allowance - (0 : Nat))
      (searches.called app event (.incr address query)) := by
  have counted := budgeted.counted event.member _ chosen
  have uncounted : (AnonymousStage.incr address query).Harmless := trivial
  have harmless : ((AnonymousStage.machine app).next (.incr address query)
      (searches.inputOf event) searches.crew.state).Harmless :=
    AnonymousStage.harmless_next app uncounted _ _
  have onwards := fun other same => (counted other same).next app (searches.inputOf event)
    searches.crew.state
  by_cases mine : address = ip
  · subst mine
    obtain ⟨bumped, counts⟩ := counts.incr app early query
      ((AnonymousStage.machine app).next (.incr address query) (searches.inputOf event)
        searches.crew.state)
    by_cases admitted : count < LeadsService.anonymousMaxSearchesPerDay
    · have within : ((AnonymousStage.machine app).next (.incr address query)
          (searches.inputOf event) searches.crew.state).Within 5 := by
        simp only [AnonymousStage.machine, bumped]
        split
        · exact Nat.le_refl 5
        · exact AnonymousStage.makesAtMost_counted query _
      exact Covers.moved started budgeted covers chosen counts harmless onwards
        (fun _ => within) (by omega)
    · have several : ¬count + 1 = 1 := by
        unfold LeadsService.anonymousMaxSearchesPerDay at admitted
        omega
      have within : ((AnonymousStage.machine app).next (.incr address query)
          (searches.inputOf event) searches.crew.state).Within (budget event.member) := by
        simp only [AnonymousStage.machine, bumped]
        rw [if_neg several]
        exact (AnonymousStage.makesAtMost_refused (by omega) query).mono (Nat.zero_le _)
      exact Covers.moved started budgeted covers chosen counts harmless onwards
        (fun _ => within) (by omega)
  · have foreign : ¬From requests ip event.member := fun here => mine (counted ip here)
    refine Covers.moved started budgeted covers chosen (counts.moved (fun now _ _ => ?_) _)
      harmless onwards (fun here => absurd here foreign) (Nat.le_refl _)
    refine lookup_put_of_ne (fun same => mine ?_) now _
    unfold AnonymousStage.bumped at same
    split at same
    · rename_i entry found
      rw [(keyed_of_lookup found).1] at same
      exact RedisKey.anonymousSearch.inj same
    · exact RedisKey.anonymousSearch.inj same

/-- The request of an event sets the expiry of the counter. -/
theorem Covers.expiring
    (monotone : Monotone app.nextMidnight)
    (ahead : ∀ now, now ≤ app.nextMidnight now)
    (today : midnight ≤ app.nextMidnight clock)
    {address query : String}
    (chosen : searches.crew.members[event.member]? = some (.expire address query))
    (early : searches.clock + event.elapsed < midnight) :
    Covers requests ip clock midnight (allowance - (0 : Nat))
      (searches.called app event (.expire address query)) := by
  have within : From requests ip event.member →
      (AnonymousStage.rest (AnonymousStage.counted query 1)).Within (budget event.member) :=
    fun mine => (AnonymousStage.makesAtMost_counted query 1).mono
      (budgeted.within event.member _ chosen mine)
  have kept : Counts ip midnight count (searches.called app event (.expire address query)) := by
    by_cases mine : address = ip
    · subst mine
      exact counts.expire monotone ahead today started early query _
    · refine counts.moved (fun now _ _ => ?_) _
      show Redis.lookup now _ (AnonymousStage.expiring app address _ _).redis = _
      unfold AnonymousStage.expiring
      split
      · rename_i entry found
        refine lookup_put_of_ne (fun same => mine ?_) now _
        exact RedisKey.anonymousSearch.inj ((keyed_of_lookup found).1.symm.trans same)
      · rfl
  exact Covers.moved started budgeted covers chosen kept (AnonymousStage.sameRedis_counted query 1)
    (fun _ _ => trivial) within (Nat.le_refl _)

/-- The command of an event fails. -/
theorem Covers.aborted
    {stage : AnonymousStage}
    (chosen : searches.crew.members[event.member]? = some stage)
    (calls : made event = true)
    (error : ApiError) :
    Covers requests ip clock midnight (allowance - spends requests ip searches event)
      (searches.moved event searches.crew.state
        ((AnonymousStage.machine app).abort stage error)) := by
  have harmless := budgeted.harmless stage (List.mem_of_getElem? chosen)
  cases stage with
  | rest process =>
      exact Covers.called started budgeted covers counts chosen calls rfl
        (Respects.rejected harmless error) fun bound => bound.rejected error
  | _ =>
      rw [spends_of_quiet chosen rfl]
      exact Covers.idle started budgeted covers counts chosen trivial (fun _ => trivial)
        fun _ => trivial

/-- The command of an event is carried out. -/
theorem Covers.taken
    (monotone : Monotone app.nextMidnight)
    (ahead : ∀ now, now ≤ app.nextMidnight now)
    (today : midnight ≤ app.nextMidnight clock)
    {stage : AnonymousStage}
    (chosen : searches.crew.members[event.member]? = some stage)
    (early : searches.clock + event.elapsed < midnight)
    (calls : made event = true) :
    Covers requests ip clock midnight (allowance - spends requests ip searches event)
      (searches.called app event stage) := by
  have harmless := budgeted.harmless stage (List.mem_of_getElem? chosen)
  cases stage with
  | incr address query =>
      rw [spends_of_quiet chosen rfl]
      exact Covers.incremented started budgeted covers counts chosen early
  | expire address query =>
      rw [spends_of_quiet chosen rfl]
      exact Covers.expiring started budgeted covers counts monotone ahead today chosen early
  | rest process =>
      have same : SameRedis searches.crew.state
          (process.effect (searches.inputOf event) searches.crew.state) :=
        Respects.effect harmless _ _
      exact Covers.called started budgeted covers counts chosen calls same
        (Respects.residual harmless _ _) fun bound => bound.residual _ _
  | stopped =>
      rw [spends_of_quiet chosen rfl]
      exact Covers.idle started budgeted covers counts chosen trivial (fun _ => trivial)
        fun _ => trivial

end Event

/-- An event before midnight is paid for. -/
theorem Covers.step
    (monotone : Monotone app.nextMidnight)
    (ahead : ∀ now, now ≤ app.nextMidnight now)
    {clock : Time}
    (today : midnight ≤ app.nextMidnight clock)
    {allowance : Int}
    (covers : Covers requests ip clock midnight allowance searches)
    (early : searches.clock + event.elapsed < midnight) :
    Covers requests ip clock midnight (allowance - spends requests ip searches event)
      (step app searches event) := by
  obtain ⟨count, budget, started, counts, budgeted, covers⟩ := covers
  cases chosen : searches.crew.members[event.member]? with
  | none =>
      rw [spends_of_absent chosen]
      rcases step_cases app searches event with ⟨-, after⟩ | ⟨stage, found, -⟩
      · rw [after]
        obtain ⟨found, steady, value⟩ := counts
        refine ⟨count, budget, Nat.le_trans started (Nat.le_add_right _ _),
          ⟨found, fun now later => steady now (Nat.le_trans (Nat.le_add_right _ _) later), value⟩,
          ⟨budgeted.length, budgeted.harmless, budgeted.counted, budgeted.within⟩, ?_⟩
        simpa using covers
      · rw [chosen] at found
        cases found
  | some stage =>
      cases outcome : event.outcome with
      | taken =>
          have moved : AnonymousSearches.step app searches event =
              searches.called app event stage := by
            unfold AnonymousSearches.step
            rw [outcome]
            simp only [Machine.step, chosen]
            rfl
          rw [moved]
          exact Covers.taken started budgeted covers counts monotone ahead today chosen early
            (by rw [made, outcome])
      | rejected error =>
          have moved : AnonymousSearches.step app searches event =
              searches.moved event searches.crew.state
                ((AnonymousStage.machine app).abort stage error) := by
            unfold AnonymousSearches.step
            rw [outcome]
            simp only [Machine.step, chosen]
            rfl
          rw [moved]
          exact Covers.aborted started budgeted covers counts chosen (by rw [made, outcome]) error
      | stopped =>
          have moved : AnonymousSearches.step app searches event =
              searches.moved event searches.crew.state .stopped := by
            unfold AnonymousSearches.step
            rw [outcome]
            rfl
          rw [moved, spends_of_unmade (by rw [made, outcome])]
          exact Covers.idle started budgeted covers counts chosen trivial (fun _ => trivial)
            fun _ => trivial

/-! ## A day -/

/-- A counter that is found and lasts until midnight is found until then, and one that is
missing stays missing. -/
theorem lookup_steady
    {key : RedisKey}
    {world : World}
    {clock : Time}
    (lasting : ∀ entry, Redis.lookup clock key world.redis = some entry →
      ∀ expiresAt, entry.expiresAt = some expiresAt → midnight ≤ expiresAt)
    {now : Time}
    (later : clock ≤ now)
    (early : now < midnight) :
    Redis.lookup now key world.redis = Redis.lookup clock key world.redis := by
  have expired : ∀ entry : RedisEntry, Redis.RedisEntry.present now entry = true →
      Redis.RedisEntry.present clock entry = true := by
    intro entry present
    unfold Redis.RedisEntry.present at present ⊢
    cases expires : entry.expiresAt with
    | none => rfl
    | some expiresAt =>
        rw [expires] at present
        exact decide_eq_true (Nat.lt_of_le_of_lt later (of_decide_eq_true present))
  cases found : Redis.lookup clock key world.redis with
  | none =>
      rw [lookup_eq_none_iff] at found ⊢
      intro entry stored
      exact Bool.eq_false_iff.mpr fun present =>
        Bool.eq_false_iff.mp (found entry stored) (expired entry present)
  | some entry =>
      have lasts : Redis.RedisEntry.present now entry = true := by
        unfold Redis.RedisEntry.present
        cases expires : entry.expiresAt with
        | none => rfl
        | some expiresAt =>
            exact decide_eq_true (Nat.lt_of_lt_of_le early (lasting entry found _ expires))
      rw [lookup_entriesOf, List.find?_eq_some_iff_append] at found ⊢
      obtain ⟨-, passed, others, entries, absent⟩ := found
      refine ⟨lasts, passed, others, entries, fun other listed => ?_⟩
      have absent := absent other listed
      cases present : Redis.RedisEntry.present now other with
      | false => rfl
      | true =>
          rw [expired other present] at absent
          cases absent

/-- A run that ends before midnight, event by event. -/
theorem along_today
    (searches : AnonymousSearches)
    (events : List AnonymousEvent)
    (today : searches.clock + (events.map (·.elapsed)).sum < midnight) :
    Along (step app) (fun searches event => searches.clock + event.elapsed < midnight)
      searches events := by
  induction events generalizing searches with
  | nil => trivial
  | cons event events inductionHypothesis =>
      rw [List.map_cons, List.sum_cons, ← Nat.add_assoc] at today
      exact ⟨Nat.lt_of_le_of_lt (Nat.le_add_right _ _) today, inductionHypothesis _ today⟩

/-- Whatever the interleaving of the commands of searches without an account, and whichever
of them fail or are never sent: before midnight the searches from an address make no more
than five calls of Claude and Apollo for each search that a visitor from there was told to
have left when they began.  A counter that is there by then must last until midnight: one
left over from the day before does not, for the second by which its expiry is rounded up. -/
theorem demo_spending_bounded
    (app : Deployment)
    (monotone : Monotone app.nextMidnight)
    (ahead : ∀ now, now ≤ app.nextMidnight now)
    (ip : String)
    (world : World)
    (input : Input)
    (lasting : ∀ entry, Redis.lookup input.now (.anonymousSearch ip) world.redis = some entry →
      ∀ expiresAt, entry.expiresAt = some expiresAt → app.nextMidnight input.now ≤ expiresAt)
    (requests : List (String × String))
    (events : List AnonymousEvent)
    (today : input.now + (events.map (·.elapsed)).sum < app.nextMidnight input.now)
    {status : AnonymousSearchStatus}
    (told : ((LeadsService.getAnonymousSearchStatus ip).run input world).1 = .ok status) :
    tally (step app) (fun searches event => (spends requests ip searches event : Int))
        (start world input.now requests) events ≤
      5 * status.searchesRemainingToday := by
  have starting : ∀ (position : Nat) (stage : AnonymousStage),
      (start world input.now requests).crew.members[position]? = some stage →
        ∃ request, requests[position]? = some request ∧ stage = .incr request.1 request.2 := by
    intro position stage found
    have stages : (start world input.now requests).crew.members =
        requests.map fun request => AnonymousStage.incr request.1 request.2 := rfl
    rw [stages, List.getElem?_map] at found
    obtain ⟨request, listed, same⟩ := Option.map_eq_some_iff.mp found
    exact ⟨request, listed, same.symm⟩
  have counts : Counts ip (app.nextMidnight input.now)
      (((Redis.lookup input.now (.anonymousSearch ip) world.redis).map (·.value)).getD 0)
      (start world input.now requests) :=
    ⟨_, fun now later early => lookup_steady lasting later early, rfl⟩
  have budgeted : Budgeted requests ip (fun _ => 0) (start world input.now requests) := by
    refine ⟨List.length_map _, fun stage present => ?_,
      fun position stage found address from_ => ?_, fun position stage found mine => ?_⟩
    · obtain ⟨position, found⟩ := List.mem_iff_getElem?.mp present
      obtain ⟨request, -, rfl⟩ := starting position stage found
      trivial
    · obtain ⟨request, listed, rfl⟩ := starting position stage found
      rw [listed] at from_
      exact Option.some.inj from_
    · obtain ⟨request, -, rfl⟩ := starting position stage found
      trivial
  have covers : Covers requests ip input.now (app.nextMidnight input.now)
      (5 * status.searchesRemainingToday) (start world input.now requests) := by
    refine ⟨_, _, Nat.le_refl _, counts, budgeted, ?_⟩
    cases told
    simp
  refine tally_le_allowance _ (Covers requests ip input.now (app.nextMidnight input.now)) ?_ ?_
    covers (along_today _ events today)
  · rintro allowance searches ⟨count, budget, -, -, -, covers⟩
    omega
  · intro allowance searches event covers early
    exact covers.step monotone ahead (Nat.le_refl _) early

/-- Two searches at once, of which one is counted before the other. -/
theorem demo_spending_bounded_sample :
    tally (step {}) (fun searches event =>
        (spends sampleRequests "203.0.113.9" searches event : Int))
        (start {} 0 sampleRequests)
        (firstSearch .taken ++ [
          { elapsed := 1000, member := 0, input := { now := 0 }, outcome := .taken },
          { elapsed := 0, member := 1, input := { now := 0 }, outcome := .taken },
          { elapsed := 0, member := 1, input := { now := 0 }, outcome := .rejected .database }]) ≤
      5 * (3 : Nat) :=
  demo_spending_bounded {} monotone_nextMidnight le_nextMidnight "203.0.113.9" {} { now := 0 }
    (by simp [Redis.lookup]) sampleRequests _ (by decide) rfl

end AnonymousSearches
end ConferenceContact
