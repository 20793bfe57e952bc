import ConferenceContact.Foundation.Machine

/-!
# Requests handled one at a time

`Performs guarantee process faulty state post` follows a process that runs alone from
`state`.  Each of its calls reads an input of its own and takes place, which moves the
state along `guarantee`, or is rejected with any error; `post` holds of the end:
whether a call was rejected, the result, and the state.

In a serial run a request arrives when the one before is over.  What every request
performs from the states of an invariant holds all along the run.
-/

namespace ConferenceContact
namespace Process

/-- Whatever its calls read and whichever of them are rejected, the process moves the
state along `guarantee` and ends with `post`. -/
def Performs (guarantee : σ → σ → Prop) :
    Process ι ε σ α → Bool → σ → (Bool → Except ε α → σ → Prop) → Prop
  | done value, faulty, state, post => post faulty (.ok value) state
  | fail error, faulty, state, post => post faulty (.error error) state
  | call update resume abort, faulty, state, post =>
      (∀ input, guarantee state (update input state) ∧
        (resume input state).Performs guarantee faulty (update input state) post) ∧
      ∀ error, (abort error).Performs guarantee true state post

/-- Unless a call was rejected, the process returns a value, and the state is as it
should be. -/
def Returns (post : α → σ → Prop) : Bool → Except ε α → σ → Prop
  | _, .ok value, state => post value state
  | faulty, .error _, _ => faulty = true

/-- What a process without a call left has come to. -/
def result : Process ι ε σ α → Option (Except ε α)
  | done value => some (.ok value)
  | fail error => some (.error error)
  | call _ _ _ => none

theorem isSome_result (process : Process ι ε σ α) :
    process.result.isSome = process.finished := by
  cases process <;> rfl

namespace Performs

variable {guarantee : σ → σ → Prop} {faulty : Bool} {state : σ}

/-! ## Rules -/

theorem pure
    {value : α}
    {post : Bool → Except ε α → σ → Prop}
    (holds : post faulty (.ok value) state) :
    Performs guarantee (Pure.pure value : Process ι ε σ α) faulty state post := holds

theorem ite
    {condition : Prop}
    [Decidable condition]
    {yes no : Process ι ε σ α}
    {post : Bool → Except ε α → σ → Prop}
    (ifTrue : condition → yes.Performs guarantee faulty state post)
    (ifFalse : ¬condition → no.Performs guarantee faulty state post) :
    (if condition then yes else no).Performs guarantee faulty state post := by
  split
  · exact ifTrue ‹_›
  · exact ifFalse ‹_›

/-- The continuation starts where the first process ends; an error skips it. -/
theorem bind
    {process : Process ι ε σ α}
    {next : α → Process ι ε σ β}
    {middle : Bool → Except ε α → σ → Prop}
    {post : Bool → Except ε β → σ → Prop}
    (first : process.Performs guarantee faulty state middle)
    (second : ∀ faulty value after, middle faulty (.ok value) after →
      (next value).Performs guarantee faulty after post)
    (stops : ∀ faulty error after, middle faulty (.error error) after →
      post faulty (.error error) after) :
    (process >>= next).Performs guarantee faulty state post := by
  induction process generalizing faulty state with
  | done value => exact second faulty value state first
  | fail error => exact stops faulty error state first
  | call update resume abort resumeHypothesis abortHypothesis =>
      obtain ⟨resumes, aborts⟩ := first
      exact ⟨fun input => ⟨(resumes input).1, resumeHypothesis input state (resumes input).2⟩,
        fun error => abortHypothesis error (aborts error)⟩

/-- The rule for a sequence of which no part fails by itself. -/
theorem bind_returns
    {process : Process ι ε σ α}
    {next : α → Process ι ε σ β}
    {middle : α → σ → Prop}
    {post : β → σ → Prop}
    (first : process.Performs guarantee faulty state (Returns middle))
    (second : ∀ faulty value after, middle value after →
      (next value).Performs guarantee faulty after (Returns post)) :
    (process >>= next).Performs guarantee faulty state (Returns post) :=
  bind first second fun _ _ _ rejected => rejected

/-- An error goes on with its handler. -/
theorem tryCatch
    {process : Process ι ε σ α}
    {handler : ε → Process ι ε σ α}
    {middle post : Bool → Except ε α → σ → Prop}
    (body : process.Performs guarantee faulty state middle)
    (returns : ∀ faulty value after, middle faulty (.ok value) after →
      post faulty (.ok value) after)
    (handles : ∀ faulty error after, middle faulty (.error error) after →
      (handler error).Performs guarantee faulty after post) :
    (MonadExcept.tryCatch process handler).Performs guarantee faulty state post := by
  induction process generalizing faulty state with
  | done value => exact returns faulty value state body
  | fail error => exact handles faulty error state body
  | call update resume abort resumeHypothesis abortHypothesis =>
      obtain ⟨resumes, aborts⟩ := body
      exact ⟨fun input => ⟨(resumes input).1, resumeHypothesis input state (resumes input).2⟩,
        fun error => abortHypothesis error (aborts error)⟩

/-- What follows a query starts with what was read. -/
theorem query_bind
    [Std.Refl guarantee]
    {read : ι → σ → α}
    {next : α → Process ι ε σ β}
    {post : Bool → Except ε β → σ → Prop}
    (rest : ∀ input, (next (read input state)).Performs guarantee faulty state post)
    (stops : ∀ error, post true (.error error) state) :
    (Process.query read >>= next).Performs guarantee faulty state post :=
  ⟨fun input => ⟨Std.Refl.refl state, rest input⟩, stops⟩

theorem query_bind_returns
    [Std.Refl guarantee]
    {read : ι → σ → α}
    {next : α → Process ι ε σ β}
    {post : β → σ → Prop}
    (rest : ∀ input, (next (read input state)).Performs guarantee faulty state (Returns post)) :
    (Process.query read >>= next).Performs guarantee faulty state (Returns post) :=
  query_bind rest fun _ => rfl

theorem command
    {update : ι → σ → σ}
    {post : Bool → Except ε Unit → σ → Prop}
    (moves : ∀ input, guarantee state (update input state))
    (acts : ∀ input, post faulty (.ok ()) (update input state))
    (stops : ∀ error, post true (.error error) state) :
    Performs guarantee (Process.command update : Process ι ε σ Unit) faulty state post :=
  ⟨fun input => ⟨moves input, acts input⟩, stops⟩

theorem attempt
    [Std.Refl guarantee]
    {act : ι → σ → Except ε (α × σ)}
    {post : Bool → Except ε α → σ → Prop}
    (succeeds : ∀ input value after, act input state = .ok (value, after) →
      guarantee state after ∧ post faulty (.ok value) after)
    (fails : ∀ input error, act input state = .error error → post faulty (.error error) state)
    (stops : ∀ error, post true (.error error) state) :
    (Process.attempt act).Performs guarantee faulty state post := by
  refine ⟨fun input => ?_, stops⟩
  cases outcome : act input state with
  | error error =>
      simp only [outcome]
      exact ⟨Std.Refl.refl state, fails input error outcome⟩
  | ok pair =>
      simp only [outcome]
      exact succeeds input pair.1 pair.2 outcome

/-! ## Consequence -/

theorem weaken
    {process : Process ι ε σ α}
    {post weaker : Bool → Except ε α → σ → Prop}
    (performs : process.Performs guarantee faulty state post)
    (implies : ∀ faulty result after, post faulty result after → weaker faulty result after) :
    process.Performs guarantee faulty state weaker := by
  induction process generalizing faulty state with
  | done value => exact implies _ _ _ performs
  | fail error => exact implies _ _ _ performs
  | call update resume abort resumeHypothesis abortHypothesis =>
      obtain ⟨resumes, aborts⟩ := performs
      exact ⟨fun input => ⟨(resumes input).1, resumeHypothesis input state (resumes input).2⟩,
        fun error => abortHypothesis error (aborts error)⟩

/-- A process that respects a preorder ends further along it. -/
theorem of_respects
    {R : σ → σ → Prop}
    [IsPreorder σ R]
    {process : Process ι ε σ α}
    (respects : process.Respects R)
    (guarantees : ∀ before after, R before after → guarantee before after) :
    process.Performs guarantee faulty state fun _ _ after => R state after := by
  induction process generalizing faulty state with
  | done value => exact refl_of R state
  | fail error => exact refl_of R state
  | call update resume abort resumeHypothesis abortHypothesis =>
      obtain ⟨moves, resumes, aborts⟩ := respects
      refine ⟨fun input => ⟨guarantees _ _ (moves input state), ?_⟩,
        fun error => abortHypothesis error (aborts error)⟩
      exact (resumeHypothesis input state (resumes input state)).weaken
        fun _ _ _ further => trans_of R (moves input state) further

/-- What a process performs, and what it respects. -/
theorem and_respects
    {R : σ → σ → Prop}
    [IsPreorder σ R]
    {process : Process ι ε σ α}
    {post : Bool → Except ε α → σ → Prop}
    (performs : process.Performs guarantee faulty state post)
    (respects : process.Respects R) :
    process.Performs (fun before after => guarantee before after ∧ R before after) faulty state
      fun faulty result after => post faulty result after ∧ R state after := by
  induction process generalizing faulty state with
  | done value => exact ⟨performs, refl_of R state⟩
  | fail error => exact ⟨performs, refl_of R state⟩
  | call update resume abort resumeHypothesis abortHypothesis =>
      obtain ⟨moves, resumes, aborts⟩ := respects
      refine ⟨fun input => ⟨⟨(performs.1 input).1, moves input state⟩, ?_⟩,
        fun error => abortHypothesis error (performs.2 error) (aborts error)⟩
      refine (resumeHypothesis input state (performs.1 input).2 (resumes input state)).weaken ?_
      exact fun _ _ _ ⟨holds, further⟩ => ⟨holds, trans_of R (moves input state) further⟩

theorem of_result
    {process : Process ι ε σ α}
    {post : Bool → Except ε α → σ → Prop}
    (performs : process.Performs guarantee faulty state post)
    {outcome : Except ε α}
    (ended : process.result = some outcome) :
    post faulty outcome state := by
  cases process with
  | done value =>
      cases ended
      exact performs
  | fail error =>
      cases ended
      exact performs
  | call update resume abort => cases ended

/-- Where no call is rejected. -/
theorem run
    {process : Process ι ε σ α}
    {post : Bool → Except ε α → σ → Prop}
    (performs : process.Performs guarantee faulty state post)
    (input : ι) :
    post faulty (process.run input state).1 (process.run input state).2 := by
  induction process generalizing state with
  | done value => exact performs
  | fail error => exact performs
  | call update resume abort resumeHypothesis abortHypothesis =>
      exact resumeHypothesis input state (performs.1 input).2

end Performs
end Process

/-! ## Serial runs -/

/-- A request, the state in which it arrived, what is left of its handler, and whether a
call of it was rejected. -/
structure Handling (ρ ι ε σ α : Type) where
  request : ρ
  begun : σ
  left : Process ι ε σ α
  faulty : Bool := false

/-- The state and the latest request. -/
structure Serial (ρ ι ε σ α : Type) where
  state : σ
  current : Option (Handling ρ ι ε σ α) := none

/-- A request arrives, or the one in progress makes its next call. -/
inductive SerialEvent (ρ ι ε : Type)
  | arrive (request : ρ)
  | call (input : ι) (rejected : Option ε := none)

namespace Serial

variable {ρ ι ε σ α : Type}

/-- The latest request is over. -/
def idle (run : Serial ρ ι ε σ α) : Bool :=
  run.current.all fun handling => handling.left.finished

/-- A request that arrives while another is in progress waits. -/
def step (handle : ρ → Process ι ε σ α) (run : Serial ρ ι ε σ α) :
    SerialEvent ρ ι ε → Serial ρ ι ε σ α
  | .arrive request =>
      if run.idle then
        { run with current := some { request, begun := run.state, left := handle request } }
      else run
  | .call input rejected =>
      match run.current, rejected with
      | none, _ => run
      | some handling, none =>
          { state := handling.left.effect input run.state
            current := some { handling with left := handling.left.residual input run.state } }
      | some handling, some error =>
          { run with
            current := some
              { handling with
                left := handling.left.rejected error
                faulty := handling.faulty || !handling.left.finished } }

/-- The run of a sequence of events. -/
def run
    (handle : ρ → Process ι ε σ α)
    (start : σ)
    (events : List (SerialEvent ρ ι ε)) : Serial ρ ι ε σ α :=
  events.foldl (step handle) { state := start }

section

variable
  (invariant : σ → Prop)
  (guarantee : σ → σ → Prop)
  (meets : ρ → σ → Bool → Except ε α → σ → Prop)

/-- The handler performs what is asked of its request. -/
def Serves (handle : ρ → Process ι ε σ α) : Prop :=
  ∀ request state, invariant state →
    (handle request).Performs guarantee false state fun faulty result after =>
      invariant after ∧ meets request state faulty result after

/-- The invariant, or what is left to perform. -/
def OnTrack (run : Serial ρ ι ε σ α) : Prop :=
  match run.current with
  | none => invariant run.state
  | some handling =>
      handling.left.Performs guarantee handling.faulty run.state fun faulty result after =>
        invariant after ∧ meets handling.request handling.begun faulty result after

end

variable
  {invariant : σ → Prop}
  {guarantee : σ → σ → Prop}
  {meets : ρ → σ → Bool → Except ε α → σ → Prop}
  {handle : ρ → Process ι ε σ α}
  {serial : Serial ρ ι ε σ α}

/-- Between two requests the invariant holds. -/
theorem OnTrack.holds
    (onTrack : serial.OnTrack invariant guarantee meets)
    (idle : serial.idle = true) :
    invariant serial.state := by
  unfold OnTrack at onTrack
  unfold Serial.idle at idle
  cases current : serial.current with
  | none =>
      rw [current] at onTrack
      exact onTrack
  | some handling =>
      rw [current] at onTrack idle
      obtain ⟨result, ended⟩ : ∃ result, handling.left.result = some result := by
        rw [← Option.isSome_iff_exists, Process.isSome_result]
        exact idle
      exact (onTrack.of_result ended).1

/-- A request that is over has come to what is asked of it. -/
theorem OnTrack.outcome
    (onTrack : serial.OnTrack invariant guarantee meets)
    {handling : Handling ρ ι ε σ α}
    (current : serial.current = some handling)
    {result : Except ε α}
    (ended : handling.left.result = some result) :
    meets handling.request handling.begun handling.faulty result serial.state := by
  unfold OnTrack at onTrack
  rw [current] at onTrack
  exact (onTrack.of_result ended).2

/-- What the calls of a process guarantee, and what is left to perform after one. -/
theorem step_onTrack
    [Std.Refl guarantee]
    (serves : Serves invariant guarantee meets handle)
    (onTrack : serial.OnTrack invariant guarantee meets)
    (event : SerialEvent ρ ι ε) :
    (serial.step handle event).OnTrack invariant guarantee meets ∧
      guarantee serial.state (serial.step handle event).state := by
  cases event with
  | arrive request =>
      rw [step]
      split
      · exact ⟨serves request _ (onTrack.holds ‹_›), Std.Refl.refl _⟩
      · exact ⟨onTrack, Std.Refl.refl _⟩
  | call input rejected =>
      unfold OnTrack at onTrack
      unfold step
      dsimp only
      cases current : serial.current with
      | none =>
          rw [current] at onTrack
          refine ⟨?_, Std.Refl.refl _⟩
          unfold OnTrack
          rw [current]
          exact onTrack
      | some handling =>
          rw [current] at onTrack
          obtain ⟨request, begun, left, faulty⟩ := handling
          cases rejected with
          | none =>
              cases left with
              | done value => exact ⟨onTrack, Std.Refl.refl _⟩
              | fail error => exact ⟨onTrack, Std.Refl.refl _⟩
              | call update resume abort =>
                  exact ⟨(onTrack.1 input).2, (onTrack.1 input).1⟩
          | some error =>
              refine ⟨?_, Std.Refl.refl _⟩
              cases left with
              | done value => cases faulty <;> exact onTrack
              | fail error => cases faulty <;> exact onTrack
              | call update resume abort => cases faulty <;> exact onTrack.2 error

/-- A run of requests that serve stays on track. -/
theorem run_onTrack
    [Std.Refl guarantee]
    (serves : Serves invariant guarantee meets handle)
    {start : σ}
    (holds : invariant start)
    (events : List (SerialEvent ρ ι ε)) :
    (run handle start events).OnTrack invariant guarantee meets := by
  have along : ∀ (events : List (SerialEvent ρ ι ε)) (serial : Serial ρ ι ε σ α),
      serial.OnTrack invariant guarantee meets →
      (events.foldl (step handle) serial).OnTrack invariant guarantee meets := by
    intro events
    induction events with
    | nil => exact fun _ onTrack => onTrack
    | cons event later inductionHypothesis =>
        exact fun serial onTrack =>
          inductionHypothesis _ (step_onTrack serves onTrack event).1
  exact along events { state := start } holds

end Serial
end ConferenceContact
