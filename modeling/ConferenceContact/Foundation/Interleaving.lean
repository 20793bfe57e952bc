import ConferenceContact.Foundation.Respects

/-!
# Interleaved processes

A pool is a shared state with the processes in progress over it.  A turn lets
one of them make its next call.  `Always` says that a condition holds of a
process whatever it has read so far; a pool whose processes keep an invariant
keeps it along every schedule.
-/

namespace ConferenceContact
namespace Process

/-- What the next call makes of the state. -/
def effect (input : ι) (state : σ) : Process ι ε σ α → σ
  | done _ => state
  | fail _ => state
  | call update _ _ => update input state

/-- What is left of a process after its next call. -/
def residual (input : ι) (state : σ) : Process ι ε σ α → Process ι ε σ α
  | done value => done value
  | fail error => fail error
  | call _ resume _ => resume input state

/-- A process without a call left. -/
def finished : Process ι ε σ α → Bool
  | done _ => true
  | fail _ => true
  | call _ _ _ => false

/-- The condition holds of the process and of whatever is left of it after any
calls. -/
def Always (condition : Process ι ε σ α → Prop) : Process ι ε σ α → Prop
  | done value => condition (done value)
  | fail error => condition (fail error)
  | call update resume abort =>
      condition (call update resume abort) ∧
        ∀ input state, (resume input state).Always condition

namespace Always

variable {condition : Process ι ε σ α → Prop} {process : Process ι ε σ α}

theorem now (always : process.Always condition) : condition process := by
  cases process with
  | done value => exact always
  | fail error => exact always
  | call update resume abort => exact always.1

theorem residual
    (always : process.Always condition)
    (input : ι)
    (state : σ) :
    (process.residual input state).Always condition := by
  cases process with
  | done value => exact always
  | fail error => exact always
  | call update resume abort => exact always.2 input state

theorem weaken
    {weaker : Process ι ε σ α → Prop}
    (always : process.Always condition)
    (implies : ∀ process, condition process → weaker process) :
    process.Always weaker := by
  induction process with
  | done value => exact implies _ always
  | fail error => exact implies _ always
  | call update resume abort resumeHypothesis abortHypothesis =>
      exact ⟨implies _ always.1,
        fun input state => resumeHypothesis input state (always.2 input state)⟩

/-- A query and what follows it. -/
theorem query_bind
    {read : ι → σ → β}
    {next : β → Process ι ε σ α}
    (here : condition (query read >>= next))
    (afterwards : ∀ value, (next value).Always condition) :
    (query read >>= next).Always condition :=
  ⟨here, fun input state => afterwards (read input state)⟩

/-- An update that may stop, and what follows it. -/
theorem attempt_bind
    {act : ι → σ → Except ε (β × σ)}
    {next : β → Process ι ε σ α}
    (here : condition (attempt act >>= next))
    (stopped : ∀ error, condition (fail error))
    (afterwards : ∀ value, (next value).Always condition) :
    (attempt act >>= next).Always condition := by
  refine ⟨here, fun input state => ?_⟩
  cases outcome : act input state with
  | error error =>
      simp only [outcome]
      exact stopped error
  | ok pair =>
      simp only [outcome]
      exact afterwards pair.1

end Always

/-- What respects the preservation of an invariant always keeps the invariant. -/
theorem Respects.always_keeps
    {invariant : σ → Prop}
    {process : Process ι ε σ α}
    (respects : process.Respects fun before after =>
      invariant before → invariant after) :
    process.Always (Keeps invariant fun _ => True) := by
  induction process with
  | done value => trivial
  | fail error => trivial
  | call update resume abort resumeHypothesis abortHypothesis =>
      exact ⟨Keeps.of_respects respects,
        fun input state => resumeHypothesis input state (respects.2.1 input state)⟩

theorem Keeps.effect
    {invariant : σ → Prop}
    {post : α → Prop}
    {process : Process ι ε σ α}
    (keeps : process.Keeps invariant post)
    (input : ι)
    {state : σ}
    (holds : invariant state) :
    invariant (process.effect input state) := by
  cases process with
  | done value => exact holds
  | fail error => exact holds
  | call update resume abort => exact keeps.1 input state holds

theorem Keeps.residual
    {invariant : σ → Prop}
    {post : α → Prop}
    {process : Process ι ε σ α}
    (keeps : process.Keeps invariant post)
    (input : ι)
    {state : σ}
    (holds : invariant state) :
    (process.residual input state).Keeps invariant post := by
  cases process with
  | done value => exact keeps
  | fail error => exact keeps
  | call update resume abort => exact keeps.2.1 input state holds

end Process

/-- A shared state and the processes in progress over it. -/
structure Pool (ι ε σ : Type) where
  state : σ
  threads : List (Process ι ε σ Unit)

/-- Which process makes its next call, and the input of that call. -/
structure Turn (ι : Type) where
  thread : Nat
  input : ι

namespace Pool

/-- Let one process make its next call. -/
def step (pool : Pool ι ε σ) (turn : Turn ι) : Pool ι ε σ :=
  match pool.threads[turn.thread]? with
  | none => pool
  | some process =>
      { state := process.effect turn.input pool.state
        threads := pool.threads.set turn.thread
          (process.residual turn.input pool.state) }

/-- The pool after a schedule. -/
def run (pool : Pool ι ε σ) (schedule : List (Turn ι)) : Pool ι ε σ :=
  schedule.foldl step pool

@[simp] theorem run_nil (pool : Pool ι ε σ) : pool.run [] = pool := rfl

@[simp] theorem run_cons
    (pool : Pool ι ε σ)
    (turn : Turn ι)
    (schedule : List (Turn ι)) :
    pool.run (turn :: schedule) = (pool.step turn).run schedule := rfl

theorem run_append
    (pool : Pool ι ε σ)
    (first second : List (Turn ι)) :
    pool.run (first ++ second) = (pool.run first).run second :=
  List.foldl_append

/-- A condition that always holds of the processes holds of them throughout. -/
theorem run_always
    {condition : Process ι ε σ Unit → Prop}
    {pool : Pool ι ε σ}
    (always : ∀ process ∈ pool.threads, process.Always condition)
    (schedule : List (Turn ι)) :
    ∀ process ∈ (pool.run schedule).threads, process.Always condition := by
  induction schedule generalizing pool with
  | nil => exact always
  | cons turn schedule inductionHypothesis =>
      apply inductionHypothesis
      unfold step
      cases chosen : pool.threads[turn.thread]? with
      | none => exact always
      | some process =>
          intro other present
          rcases List.mem_or_eq_of_mem_set present with old | rfl
          · exact always other old
          · exact (always process (List.mem_of_getElem? chosen)).residual _ _

/-- One turn of a process that keeps the invariant keeps it. -/
theorem step_keeps
    {invariant : σ → Prop}
    {pool : Pool ι ε σ}
    (holds : invariant pool.state)
    (keeps : ∀ process ∈ pool.threads, process.Keeps invariant fun _ => True)
    (turn : Turn ι) :
    invariant (pool.step turn).state ∧
      ∀ process ∈ (pool.step turn).threads,
        process.Keeps invariant fun _ => True := by
  unfold step
  cases chosen : pool.threads[turn.thread]? with
  | none => exact ⟨holds, keeps⟩
  | some process =>
      have kept := keeps process (List.mem_of_getElem? chosen)
      refine ⟨kept.effect turn.input holds, ?_⟩
      intro other present
      rcases List.mem_or_eq_of_mem_set present with old | rfl
      · exact keeps other old
      · exact kept.residual turn.input holds

/-- A pool whose processes keep an invariant keeps it along every schedule. -/
theorem run_keeps
    {invariant : σ → Prop}
    {pool : Pool ι ε σ}
    (holds : invariant pool.state)
    (keeps : ∀ process ∈ pool.threads, process.Keeps invariant fun _ => True)
    (schedule : List (Turn ι)) :
    invariant (pool.run schedule).state := by
  induction schedule generalizing pool with
  | nil => exact holds
  | cons turn schedule inductionHypothesis =>
      obtain ⟨holdsNext, keepsNext⟩ := step_keeps holds keeps turn
      exact inductionHypothesis holdsNext keepsNext

end Pool
end ConferenceContact
