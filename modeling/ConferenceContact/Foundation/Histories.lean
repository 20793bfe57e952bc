import ConferenceContact.Foundation.Parts
import ConferenceContact.Foundation.Reliance

/-!
# Processes and the past of their state

A recorded process does what the process does, and keeps of every call who has made it,
with which input and in which state.  A run of recorded processes is a run of the
processes, and the calls it has kept are those the run has made; so what a process does
now may be related to what it has read before.
-/

namespace ConferenceContact

/-- A call that was made: whose, with which input, and the state it found. -/
structure PastCall (ι σ : Type) where
  member : Nat
  input : ι
  state : σ

/-- A state with the calls that have led to it, newest first. -/
structure History (ι σ : Type) where
  current : σ
  past : List (PastCall ι σ) := []

namespace History

/-- The history with one call more. -/
def advance (history : History ι σ) (member : Nat) (input : ι) (next : σ) : History ι σ where
  current := next
  past := ⟨member, input, history.current⟩ :: history.past

/-- The states up to now. -/
def states (history : History ι σ) : List σ := history.current :: history.past.map (·.state)

section

variable (history : History ι σ) (member : Nat) (input : ι) (next : σ)

@[simp] theorem current_advance : (history.advance member input next).current = next := rfl

@[simp] theorem past_advance :
    (history.advance member input next).past =
      ⟨member, input, history.current⟩ :: history.past := rfl

@[simp] theorem states_advance :
    (history.advance member input next).states = next :: history.states := rfl

end

/-- Calls and states are only added. -/
structure Extends (before after : History ι σ) : Prop where
  past : before.past ⊆ after.past
  states : before.states ⊆ after.states

instance : IsPreorder (History ι σ) Extends where
  refl history := ⟨List.Subset.refl history.past, List.Subset.refl history.states⟩
  trans _ _ _ first second :=
    ⟨List.Subset.trans first.past second.past, List.Subset.trans first.states second.states⟩

theorem extends_advance
    (history : History ι σ)
    (member : Nat)
    (input : ι)
    (next : σ) : history.Extends (history.advance member input next) where
  past := List.subset_cons_self _ history.past
  states := List.subset_cons_self next history.states

end History

namespace Process

/-- The process of a member, over the state with its past. -/
def recorded (member : Nat) : Process ι ε σ α → Process ι ε (History ι σ) α
  | done value => done value
  | fail error => fail error
  | call update resume abort =>
      call
        (fun input history => history.advance member input (update input history.current))
        (fun input history => (resume input history.current).recorded member)
        (fun error => (abort error).recorded member)

section

variable {member : Nat}

@[simp] theorem recorded_pure (value : α) :
    (pure value : Process ι ε σ α).recorded member = pure value := rfl

@[simp] theorem recorded_throw (error : ε) :
    (throw error : Process ι ε σ α).recorded member = throw error := rfl

@[simp] theorem recorded_ite
    (condition : Prop)
    [Decidable condition]
    (yes no : Process ι ε σ α) :
    (if condition then yes else no).recorded member =
      if condition then yes.recorded member else no.recorded member :=
  apply_ite (recorded member) condition yes no

@[simp] theorem recorded_bind
    (process : Process ι ε σ α)
    (next : α → Process ι ε σ β) :
    (process >>= next).recorded member =
      process.recorded member >>= fun value => (next value).recorded member := by
  induction process with
  | done value => rfl
  | fail error => rfl
  | call update resume abort resumeHypothesis abortHypothesis =>
      have resumes : (fun input history =>
            ((resume input history.current).bind next).recorded member) =
          fun input (history : History ι σ) =>
            ((resume input history.current).recorded member).bind
              fun value => (next value).recorded member := by
        funext input history
        exact resumeHypothesis input history.current
      have aborts : (fun error => ((abort error).bind next).recorded member) =
          fun error => ((abort error).recorded member).bind
            fun value => (next value).recorded member := by
        funext error
        exact abortHypothesis error
      exact congrArg₂ (call _) resumes aborts

@[simp] theorem recorded_tryCatch
    (process : Process ι ε σ α)
    (handler : ε → Process ι ε σ α) :
    (tryCatch process handler).recorded member =
      tryCatch (process.recorded member) fun error => (handler error).recorded member := by
  induction process with
  | done value => rfl
  | fail error => rfl
  | call update resume abort resumeHypothesis abortHypothesis =>
      have resumes : (fun input history =>
            (tryCatch (resume input history.current) handler).recorded member) =
          fun input (history : History ι σ) =>
            tryCatch ((resume input history.current).recorded member)
              fun error => (handler error).recorded member := by
        funext input history
        exact resumeHypothesis input history.current
      have aborts : (fun error => (tryCatch (abort error) handler).recorded member) =
          fun error => tryCatch ((abort error).recorded member)
            fun error => (handler error).recorded member := by
        funext error
        exact abortHypothesis error
      exact congrArg₂ (call _) resumes aborts

/-- Every call of the recorded process moves as the call of the process does. -/
theorem Respects.recorded
    {R : σ → σ → Prop}
    {process : Process ι ε σ α}
    (respects : process.Respects R) :
    (process.recorded member).Respects fun before after =>
      ∃ input next, R before.current next ∧ after = before.advance member input next := by
  induction process with
  | done value => trivial
  | fail error => trivial
  | call update resume abort resumeHypothesis abortHypothesis =>
      obtain ⟨moves, resumes, aborts⟩ := respects
      exact ⟨fun input history => ⟨input, _, moves input history.current, rfl⟩,
        fun input history => resumeHypothesis input _ (resumes input _),
        fun error => abortHypothesis error (aborts error)⟩

namespace Sustains

variable {invariant : History ι σ → Prop} {rely : History ι σ → History ι σ → Prop}
  {history : History ι σ}

/-- What is read holds in the state it is read in, which is kept. -/
theorem recorded_query
    {read : ι → σ → α}
    (post : α → History ι σ → Prop)
    (holds : ∀ input later, rely history later → invariant later →
      invariant (later.advance member input later.current) ∧
        rely later (later.advance member input later.current) ∧
        post (read input later.current) (later.advance member input later.current)) :
    Sustains invariant rely ((Process.query read : Process ι ε σ α).recorded member) history
      post := by
  intro later moved kept
  refine ⟨fun input => ?_, fun _ => trivial⟩
  obtain ⟨stays, onwards, reads⟩ := holds input later moved kept
  exact ⟨stays, onwards, reads⟩

theorem recorded_command
    {update : ι → σ → σ}
    (acts : ∀ input later, rely history later → invariant later →
      invariant (later.advance member input (update input later.current)) ∧
        rely later (later.advance member input (update input later.current))) :
    Sustains invariant rely ((Process.command update : Process ι ε σ Unit).recorded member)
      history fun _ _ => True := by
  intro later moved kept
  refine ⟨fun input => ?_, fun _ => trivial⟩
  obtain ⟨stays, onwards⟩ := acts input later moved kept
  exact ⟨stays, onwards, trivial⟩

/-- An update that may stop: where it does, the state is kept once more. -/
theorem recorded_attempt
    {act : ι → σ → Except ε (α × σ)}
    (post : α → History ι σ → Prop)
    (fails : ∀ input later, rely history later → invariant later →
      invariant (later.advance member input later.current) ∧
        rely later (later.advance member input later.current))
    (succeeds : ∀ input later value after, rely history later → invariant later →
      act input later.current = .ok (value, after) →
      invariant (later.advance member input after) ∧
        rely later (later.advance member input after) ∧
        post value (later.advance member input after)) :
    Sustains invariant rely ((Process.attempt act).recorded member) history post := by
  intro later moved kept
  refine ⟨fun input => ?_, fun _ => trivial⟩
  cases outcome : act input later.current with
  | error error =>
      obtain ⟨stays, onwards⟩ := fails input later moved kept
      simp only [outcome]
      exact ⟨stays, onwards, trivial⟩
  | ok pair =>
      simp only [outcome]
      exact succeeds input later pair.1 pair.2 moved kept outcome

/-- What a process sustains of a part of the state it sustains of the whole with its past,
if that is kept whenever the part is. -/
theorem recorded_within
    {part : Part τ σ}
    {inner : σ → Prop}
    {moves : σ → σ → Prop}
    {invariant : History ι τ → Prop}
    {rely : History ι τ → History ι τ → Prop}
    (holds : ∀ history, invariant history → inner (part.get history.current))
    (reads : ∀ before after, rely before after →
      moves (part.get before.current) (part.get after.current))
    (acts : ∀ input history after, invariant history → inner after →
      moves (part.get history.current) after →
      invariant (history.advance member input (part.set after history.current)) ∧
        rely history (history.advance member input (part.set after history.current)))
    {process : Process ι ε σ α}
    {history : History ι τ}
    {post : α → σ → Prop}
    (sustains : Sustains inner moves process (part.get history.current) post) :
    Sustains invariant rely ((process.within part).recorded member) history
      fun value after => post value (part.get after.current) := by
  induction process generalizing history with
  | done value => exact sustains
  | fail error => trivial
  | call update resume abort resumeHypothesis abortHypothesis =>
      intro later moved kept
      obtain ⟨resumes, aborts⟩ := sustains _ (reads history later moved) (holds later kept)
      refine ⟨fun input => ?_, fun error => abortHypothesis error (aborts error)⟩
      obtain ⟨stays, onwards, rest⟩ := resumes input
      obtain ⟨keeps, moves⟩ := acts input later _ kept stays onwards
      refine ⟨keeps, moves, resumeHypothesis input _ ?_⟩
      rw [History.current_advance, part.get_set]
      exact rest

end Sustains

end

/-! ## Runs -/

/-- A process is about to make a call. -/
def Calls (process : Process ι ε σ α) : Prop :=
  ∃ update resume abort, process = call update resume abort

/-- In a schedule a member of a crew has made a call that was not rejected. -/
def Made
    (crew : Crew (Process ι ε σ α) σ)
    (schedule : List (CrewTurn ι ε))
    (call : PastCall ι σ) : Prop :=
  ∃ earlier turn, earlier ++ [turn] <+: schedule ∧ turn.member = call.member ∧
    turn.rejected = none ∧ turn.input = call.input ∧
    (Process.machine.run crew earlier).state = call.state ∧
    ∃ process, (Process.machine.run crew earlier).members[call.member]? = some process ∧
      process.Calls

theorem Made.later
    {crew : Crew (Process ι ε σ α) σ}
    {schedule : List (CrewTurn ι ε)}
    {call : PastCall ι σ}
    (made : Made crew schedule call)
    (turn : CrewTurn ι ε) : Made crew (schedule ++ [turn]) call :=
  made.imp fun _ => Exists.imp fun _ facts =>
    ⟨facts.1.trans (List.prefix_append schedule [turn]), facts.2⟩

/-- The crew whose members are recorded. -/
def recordedCrew
    (crew : Crew (Process ι ε σ α) σ) : Crew (Process ι ε (History ι σ) α) (History ι σ) where
  state := { current := crew.state }
  members := crew.members.mapIdx recorded

/-- A recorded process is where the process is, and a state it leaves is kept or the
same. -/
theorem recorded_moves
    (member : Nat)
    (process : Process ι ε σ α)
    (input : ι)
    (history : History ι σ) :
    (process.recorded member).residual input history =
        (process.residual input history.current).recorded member ∧
      (process.Calls ∧ (process.recorded member).effect input history =
          history.advance member input (process.effect input history.current) ∨
        (process.recorded member).effect input history = history ∧
          process.effect input history.current = history.current) := by
  cases process with
  | done value => exact ⟨rfl, .inr ⟨rfl, rfl⟩⟩
  | fail error => exact ⟨rfl, .inr ⟨rfl, rfl⟩⟩
  | call update resume abort => exact ⟨rfl, .inl ⟨⟨update, resume, abort, rfl⟩, rfl⟩⟩

theorem rejected_recorded (member : Nat) (process : Process ι ε σ α) (error : ε) :
    (process.recorded member).rejected error = (process.rejected error).recorded member := by
  cases process <;> rfl

/-- A turn of the recorded crew is a turn of the crew, which adds at most the call it
makes. -/
theorem step_recorded
    {crew : Crew (Process ι ε σ α) σ}
    {recordedState : History ι σ}
    (current : recordedState.current = crew.state)
    (turn : CrewTurn ι ε) :
    ∃ after : History ι σ, after.current = (Process.machine.step crew turn).state ∧
      (after = recordedState ∨
        turn.rejected = none ∧
          (∃ process, crew.members[turn.member]? = some process ∧ process.Calls) ∧
          after = recordedState.advance turn.member turn.input after.current) ∧
      Process.machine.step ⟨recordedState, crew.members.mapIdx recorded⟩ turn =
        ⟨after, (Process.machine.step crew turn).members.mapIdx recorded⟩ := by
  unfold Machine.step
  simp only [List.getElem?_mapIdx]
  cases crew.members[turn.member]? with
  | none => exact ⟨recordedState, current, .inl rfl, rfl⟩
  | some process =>
      cases rejected : turn.rejected with
      | some error =>
          refine ⟨recordedState, current, .inl rfl, ?_⟩
          simp only [Option.map_some, List.mapIdx_set]
          rw [show Process.machine.abort (process.recorded turn.member) error =
            (Process.machine.abort process error).recorded turn.member from
              rejected_recorded turn.member process error]
      | none =>
          obtain ⟨resumes, moves⟩ := recorded_moves turn.member process turn.input recordedState
          refine ⟨(process.recorded turn.member).effect turn.input recordedState, ?_, ?_, ?_⟩
          · rcases moves with ⟨-, kept⟩ | ⟨same, still⟩
            · rw [kept, History.current_advance, current]
              rfl
            · rw [same, current]
              rw [current] at still
              exact still.symm
          · rcases moves with ⟨calls, kept⟩ | ⟨same, -⟩
            · rw [kept, History.current_advance]
              exact .inr ⟨rfl, ⟨process, rfl, calls⟩, rfl⟩
            · exact .inl same
          · simp only [Option.map_some, List.mapIdx_set]
            rw [show Process.machine.next (process.recorded turn.member) turn.input
                recordedState =
              (Process.machine.next process turn.input crew.state).recorded turn.member from
                current ▸ resumes]
            rfl

/-- A run of the recorded crew is the run of the crew, and keeps the states that the run
has passed through and the calls it has made. -/
theorem run_recorded (crew : Crew (Process ι ε σ α) σ) (schedule : List (CrewTurn ι ε)) :
    ∃ after : History ι σ,
      after.current = (Process.machine.run crew schedule).state ∧
      (∀ state, state ∈ after.states ↔ ∃ earlier, earlier <+: schedule ∧
        (Process.machine.run crew earlier).state = state) ∧
      (∀ call ∈ after.past, Made crew schedule call) ∧
      Process.machine.run (recordedCrew crew) schedule =
        ⟨after, (Process.machine.run crew schedule).members.mapIdx recorded⟩ := by
  induction schedule using List.reverseRecOn with
  | nil =>
      refine ⟨{ current := crew.state }, rfl, fun state => ?_, List.forall_mem_nil _, rfl⟩
      constructor
      · intro present
        rw [List.mem_singleton.mp present]
        exact ⟨[], List.prefix_refl _, rfl⟩
      · rintro ⟨earlier, early, rfl⟩
        rw [List.prefix_nil.mp early]
        exact List.mem_singleton_self _
  | append_singleton schedule turn inductionHypothesis =>
      obtain ⟨before, current, passed, made, reached⟩ := inductionHypothesis
      obtain ⟨after, moved, added, stepped⟩ := step_recorded current turn
      have last : Process.machine.run crew (schedule ++ [turn]) =
          Process.machine.step (Process.machine.run crew schedule) turn := by
        unfold Machine.run
        rw [List.foldl_append, List.foldl_cons, List.foldl_nil]
      have ends : ∀ state, state ∈ after.states ↔
          state = after.current ∨ state ∈ before.states := by
        intro state
        rcases added with rfl | ⟨-, -, advanced⟩
        · exact ⟨.inr, fun present => present.elim (fun isLast => isLast ▸ List.mem_cons_self) id⟩
        · rw [advanced, History.states_advance, History.current_advance]
          exact List.mem_cons
      refine ⟨after, last ▸ moved, fun state => ?_, fun call present => ?_, ?_⟩
      · rw [ends state, passed state]
        constructor
        · rintro (rfl | ⟨earlier, early, isState⟩)
          · exact ⟨_, List.prefix_refl _, last ▸ moved.symm⟩
          · exact ⟨earlier, early.trans (List.prefix_append schedule [turn]), isState⟩
        · rintro ⟨earlier, early, isState⟩
          rcases List.prefix_concat_iff.mp early with whole | early
          · refine .inl ?_
            rw [← isState, whole, last]
            exact moved.symm
          · exact .inr ⟨earlier, early, isState⟩
      · rcases added with rfl | ⟨unrejected, calls, advanced⟩
        · exact (made call present).later turn
        · rw [advanced, History.past_advance] at present
          rcases List.mem_cons.mp present with rfl | earlier
          · exact ⟨schedule, turn, List.prefix_refl _, rfl, unrejected, rfl, current.symm, calls⟩
          · exact (made call earlier).later turn
      · rw [last, ← stepped, ← reached]
        unfold Machine.run
        rw [List.foldl_append, List.foldl_cons, List.foldl_nil]

/-- What recorded processes sustain holds of a run with the calls it has made. -/
theorem Sustains.crew_recorded
    {invariant : History ι σ → Prop}
    {rely : History ι σ → History ι σ → Prop}
    [IsPreorder (History ι σ) rely]
    {crew : Crew (Process ι ε σ α) σ}
    (holds : invariant { current := crew.state })
    (members : ∀ member (process : Process ι ε σ α), crew.members[member]? = some process →
      Sustains invariant rely (process.recorded member) { current := crew.state }
        fun _ _ => True)
    (schedule : List (CrewTurn ι ε)) :
    ∃ after : History ι σ, invariant after ∧
      after.current = (Process.machine.run crew schedule).state ∧
      (∀ state, state ∈ after.states ↔ ∃ earlier, earlier <+: schedule ∧
        (Process.machine.run crew earlier).state = state) ∧
      ∀ call ∈ after.past, Made crew schedule call := by
  obtain ⟨after, current, passed, made, reached⟩ := run_recorded crew schedule
  refine ⟨after, ?_, current, passed, made⟩
  have sustained : ∀ process ∈ (recordedCrew crew).members,
      Sustains invariant rely process (recordedCrew crew).state fun _ _ => True := by
    intro process present
    obtain ⟨member, inside, rfl⟩ := List.mem_mapIdx.mp present
    exact members member _ (List.getElem?_eq_getElem inside)
  have kept : invariant (recordedCrew crew).state := holds
  have ends := Sustains.crew kept sustained schedule
  rw [reached] at ends
  exact ends

end Process
end ConferenceContact
