import ConferenceContact.Foundation.Crews

/-!
# Processes among others

`Sustains invariant rely process state post` says that the process, started in
`state`, keeps an invariant and moves the state along the preorder `rely` at each
of its calls, as long as the others do so between them; a value it returns
satisfies `post` in the state it leaves.  What a call has read may be used later
where `rely` preserves it.  A crew of such processes keeps the invariant.
-/

namespace ConferenceContact
namespace Process

/-- Among others that do the same, every call of the process keeps the invariant and
moves the state along `rely`, and a value it returns satisfies `post`. -/
def Sustains
    (invariant : σ → Prop)
    (rely : σ → σ → Prop) :
    Process ι ε σ α → σ → (α → σ → Prop) → Prop
  | done value, state, post => post value state
  | fail _, _, _ => True
  | call update resume abort, state, post =>
      ∀ later, rely state later → invariant later →
        (∀ input, invariant (update input later) ∧ rely later (update input later) ∧
          (resume input later).Sustains invariant rely (update input later) post) ∧
        ∀ error, (abort error).Sustains invariant rely later post

namespace Sustains

variable {invariant : σ → Prop} {rely : σ → σ → Prop} {state : σ}

theorem pure
    {value : α}
    {post : α → σ → Prop}
    (holds : post value state) :
    Sustains invariant rely (Pure.pure value : Process ι ε σ α) state post := holds

theorem throw (error : ε) (post : α → σ → Prop) :
    Sustains invariant rely (MonadExcept.throw error : Process ι ε σ α) state post := trivial

/-- A condition on the way is a case distinction. -/
theorem ite
    {condition : Prop}
    [Decidable condition]
    {yes no : Process ι ε σ α}
    {post : α → σ → Prop}
    (ifTrue : condition → Sustains invariant rely yes state post)
    (ifFalse : ¬ condition → Sustains invariant rely no state post) :
    Sustains invariant rely (if condition then yes else no) state post := by
  split
  · exact ifTrue ‹_›
  · exact ifFalse ‹_›

/-- What matters of the start is what `rely` preserves. -/
theorem later
    [IsTrans σ rely]
    {process : Process ι ε σ α}
    {post : α → σ → Prop}
    {state' : σ}
    (sustains : Sustains invariant rely process state post)
    (moved : rely state state')
    (stable : ∀ value, post value state → post value state') :
    Sustains invariant rely process state' post := by
  cases process with
  | done value => exact stable value sustains
  | fail error => trivial
  | call update resume abort =>
      intro later moves holds
      exact sustains later (IsTrans.trans _ _ _ moved moves) holds

/-- A weaker guarantee, for the states that are reached from the start. -/
theorem weaken
    [IsPreorder σ rely]
    {process : Process ι ε σ α}
    {strong post : α → σ → Prop}
    (sustains : Sustains invariant rely process state strong)
    (implies : ∀ value after, rely state after → strong value after → post value after) :
    Sustains invariant rely process state post := by
  induction process generalizing state with
  | done value => exact implies value state (Std.Refl.refl state) sustains
  | fail error => trivial
  | call update resume abort resumeHypothesis abortHypothesis =>
      intro later moved holds
      obtain ⟨resumes, aborts⟩ := sustains later moved holds
      refine ⟨fun input => ?_, fun error => ?_⟩
      · obtain ⟨kept, moves, rest⟩ := resumes input
        refine ⟨kept, moves, resumeHypothesis input later rest fun value after onwards => ?_⟩
        exact implies value after (IsTrans.trans _ _ _ moved (IsTrans.trans _ _ _ moves onwards))
      · exact abortHypothesis error (aborts error) fun value after onwards =>
          implies value after (IsTrans.trans _ _ _ moved onwards)

/-- The continuation starts where the first process leaves the state, with what that
process guarantees. -/
theorem bind
    [IsPreorder σ rely]
    {process : Process ι ε σ α}
    {next : α → Process ι ε σ β}
    {middle : α → σ → Prop}
    {post : β → σ → Prop}
    (first : Sustains invariant rely process state middle)
    (second : ∀ value after, rely state after → middle value after →
      Sustains invariant rely (next value) after post) :
    Sustains invariant rely (process >>= next) state post := by
  induction process generalizing state with
  | done value => exact second value state (Std.Refl.refl state) first
  | fail error => trivial
  | call update resume abort resumeHypothesis abortHypothesis =>
      intro later moved holds
      obtain ⟨resumes, aborts⟩ := first later moved holds
      refine ⟨fun input => ?_, fun error => ?_⟩
      · obtain ⟨kept, moves, rest⟩ := resumes input
        refine ⟨kept, moves, resumeHypothesis input later rest fun value after onwards => ?_⟩
        exact second value after
          (IsTrans.trans _ _ _ moved (IsTrans.trans _ _ _ moves onwards))
      · exact abortHypothesis error (aborts error) fun value after onwards =>
          second value after (IsTrans.trans _ _ _ moved onwards)

/-- An error goes on with its handler. -/
theorem tryCatch
    [IsPreorder σ rely]
    {process : Process ι ε σ α}
    {handler : ε → Process ι ε σ α}
    {post : α → σ → Prop}
    (body : Sustains invariant rely process state post)
    (handles : ∀ error after, rely state after →
      Sustains invariant rely (handler error) after post) :
    Sustains invariant rely (MonadExcept.tryCatch process handler) state post := by
  induction process generalizing state with
  | done value => exact body
  | fail error => exact handles error state (Std.Refl.refl state)
  | call update resume abort resumeHypothesis abortHypothesis =>
      intro later moved holds
      obtain ⟨resumes, aborts⟩ := body later moved holds
      refine ⟨fun input => ?_, fun error => ?_⟩
      · obtain ⟨kept, moves, rest⟩ := resumes input
        refine ⟨kept, moves, resumeHypothesis input later rest fun error after onwards => ?_⟩
        exact handles error after
          (IsTrans.trans _ _ _ moved (IsTrans.trans _ _ _ moves onwards))
      · exact abortHypothesis error (aborts error) fun error after onwards =>
          handles error after (IsTrans.trans _ _ _ moved onwards)

/-- What is read holds in the state it is read in. -/
theorem query
    [Std.Refl rely]
    {read : ι → σ → α}
    (post : α → σ → Prop)
    (holds : ∀ input later, rely state later → invariant later → post (read input later) later) :
    Sustains invariant rely (Process.query read : Process ι ε σ α) state post :=
  fun later moved kept =>
    ⟨fun input => ⟨kept, Std.Refl.refl later, holds input later moved kept⟩, fun _ => trivial⟩

theorem command
    {update : ι → σ → σ}
    (acts : ∀ input later, rely state later → invariant later →
      invariant (update input later) ∧ rely later (update input later)) :
    Sustains invariant rely (Process.command update : Process ι ε σ Unit) state
      fun _ _ => True := by
  intro later moved kept
  refine ⟨fun input => ?_, fun _ => trivial⟩
  obtain ⟨holds, moves⟩ := acts input later moved kept
  exact ⟨holds, moves, trivial⟩

/-- An update that may stop: only its successful outcome has to be looked at. -/
theorem attempt
    [Std.Refl rely]
    {act : ι → σ → Except ε (α × σ)}
    (post : α → σ → Prop)
    (succeeds : ∀ input later value after, rely state later → invariant later →
      act input later = .ok (value, after) →
      invariant after ∧ rely later after ∧ post value after) :
    Sustains invariant rely (Process.attempt act) state post := by
  intro later moved kept
  refine ⟨fun input => ?_, fun _ => trivial⟩
  cases outcome : act input later with
  | error error =>
      simp only [outcome]
      exact ⟨kept, Std.Refl.refl later, trivial⟩
  | ok pair =>
      simp only [outcome]
      exact succeeds input later pair.1 pair.2 moved kept outcome

/-- A process that respects a relation along which the invariant is kept. -/
theorem of_respects
    [IsPreorder σ rely]
    {frame : σ → σ → Prop}
    {process : Process ι ε σ α}
    (respects : process.Respects frame)
    (acts : ∀ before after, frame before after → invariant before →
      invariant after ∧ rely before after) :
    Sustains invariant rely process state fun _ _ => True := by
  induction process generalizing state with
  | done value => trivial
  | fail error => trivial
  | call update resume abort resumeHypothesis abortHypothesis =>
      obtain ⟨moves, resumes, aborts⟩ := respects
      intro later moved kept
      refine ⟨fun input => ?_, fun error => abortHypothesis error (aborts error)⟩
      obtain ⟨holds, onwards⟩ := acts _ _ (moves input later) kept
      exact ⟨holds, onwards, resumeHypothesis input later (resumes input later)⟩

/-- A process that respects a relation along which the invariant is kept in the states
of an assertion that stays. -/
theorem of_respects_while
    [IsPreorder σ rely]
    {frame : σ → σ → Prop}
    {assertion : σ → Prop}
    {process : Process ι ε σ α}
    (respects : process.Respects frame)
    (holds : assertion state)
    (stable : ∀ before after, rely before after → assertion before → assertion after)
    (acts : ∀ before after, frame before after → invariant before → assertion before →
      invariant after ∧ rely before after) :
    Sustains invariant rely process state fun _ _ => True := by
  induction process generalizing state with
  | done value => trivial
  | fail error => trivial
  | call update resume abort resumeHypothesis abortHypothesis =>
      obtain ⟨moves, resumes, aborts⟩ := respects
      intro later moved kept
      have asserted := stable state later moved holds
      refine ⟨fun input => ?_, fun error => abortHypothesis error (aborts error) asserted⟩
      obtain ⟨keeps, onwards⟩ := acts _ _ (moves input later) kept asserted
      exact ⟨keeps, onwards,
        resumeHypothesis input later (resumes input later) (stable _ _ onwards asserted)⟩

/-! ## Runs -/

/-- A crew of such processes keeps the invariant, whatever their turns and whichever
calls are rejected. -/
theorem crew
    [IsPreorder σ rely]
    {crew : Crew (Process ι ε σ α) σ}
    (holds : invariant crew.state)
    (members : ∀ process ∈ crew.members,
      Sustains invariant rely process crew.state fun _ _ => True)
    (schedule : List (CrewTurn ι ε)) :
    invariant (Process.machine.run crew schedule).state := by
  refine (Machine.run_preserves invariant
    (fun process state => Sustains invariant rely process state fun _ _ => True)
    ?_ ?_ ?_ holds members (fun _ _ error _ => show (fun _ => True) error from trivial)).1
  · intro process input state kept sustains
    cases process with
    | done value => exact ⟨kept, trivial⟩
    | fail error => exact ⟨kept, trivial⟩
    | call update resume abort =>
        obtain ⟨after, -, rest⟩ := (sustains state (Std.Refl.refl state) kept).1 input
        exact ⟨after, rest⟩
  · intro process error state kept sustains _
    cases process with
    | done value => trivial
    | fail error => trivial
    | call update resume abort => exact (sustains state (Std.Refl.refl state) kept).2 error
  · intro process other input state kept sustains others
    refine others.later ?_ fun _ _ => trivial
    cases process with
    | done value => exact Std.Refl.refl state
    | fail error => exact Std.Refl.refl state
    | call update resume abort =>
        exact ((sustains state (Std.Refl.refl state) kept).1 input).2.1

/-- A crew of processes that respect a relation keeps what the relation keeps. -/
theorem crew_of_respects
    (invariant : σ → Prop)
    {frame : σ → σ → Prop}
    (acts : ∀ before after, frame before after → invariant before → invariant after)
    {crew : Crew (Process ι ε σ α) σ}
    (holds : invariant crew.state)
    (members : ∀ process ∈ crew.members, process.Respects frame)
    (schedule : List (CrewTurn ι ε)) :
    invariant (Process.machine.run crew schedule).state := by
  have any : IsPreorder σ fun _ _ => True :=
    { refl := fun _ => trivial, trans := fun _ _ _ _ _ => trivial }
  have sustained : ∀ process ∈ crew.members,
      Sustains invariant (fun _ _ => True) process crew.state fun _ _ => True := by
    intro process present
    exact of_respects (members process present) fun before after moved kept =>
      ⟨acts before after moved kept, trivial⟩
  exact Sustains.crew holds sustained schedule

end Sustains
end Process
end ConferenceContact
