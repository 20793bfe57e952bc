import Mathlib.Data.List.Basic

/-!
# Processes cut at their atomic calls

A process is a request handler cut at its awaited calls.  One call atomically
updates a shared state and decides how the handler goes on, from the input of
that call and the state it finds; a call that is rejected leaves the state
alone and raises an error.  Running a process alone gives the meaning of a
request handled by itself, with or without a rejected call.
-/

namespace ConferenceContact

/-- A handler over the state `σ` whose calls read an input `ι`, and which
returns an `α` or stops with an error `ε`. -/
inductive Process (ι ε σ α : Type)
  | done (value : α)
  | fail (error : ε)
  | call
      (update : ι → σ → σ)
      (resume : ι → σ → Process ι ε σ α)
      (abort : ε → Process ι ε σ α)

namespace Process

/-- Sequential composition; an error skips the continuation. -/
def bind : Process ι ε σ α → (α → Process ι ε σ β) → Process ι ε σ β
  | done value, next => next value
  | fail error, _ => fail error
  | call update resume abort, next =>
      call update
        (fun input state => (resume input state).bind next)
        (fun error => (abort error).bind next)

/-- Continue with a handler at the call that raises an error. -/
def catchWith :
    Process ι ε σ α → (ε → Process ι ε σ α) → Process ι ε σ α
  | done value, _ => done value
  | fail error, handler => handler error
  | call update resume abort, handler =>
      call update
        (fun input state => (resume input state).catchWith handler)
        (fun error => (abort error).catchWith handler)

instance : Monad (Process ι ε σ) where
  pure := done
  bind := bind

instance : MonadExcept ε (Process ι ε σ) where
  throw := fail
  tryCatch := catchWith

theorem bind_assoc
    (process : Process ι ε σ α)
    (first : α → Process ι ε σ β)
    (second : β → Process ι ε σ γ) :
    process >>= first >>= second = process >>= fun value => first value >>= second := by
  induction process with
  | done value => rfl
  | fail error => rfl
  | call update resume abort resumeHypothesis abortHypothesis =>
      have resumes : (fun input state => ((resume input state).bind first).bind second) =
          fun input state => (resume input state).bind
            fun value => (first value).bind second := by
        funext input state
        exact resumeHypothesis input state
      have aborts : (fun error => ((abort error).bind first).bind second) =
          fun error => (abort error).bind fun value => (first value).bind second := by
        funext error
        exact abortHypothesis error
      exact congrArg₂ (call update) resumes aborts

theorem pure_bind (value : α) (next : α → Process ι ε σ β) :
    (pure value >>= next) = next value := rfl

theorem throw_bind (error : ε) (next : α → Process ι ε σ β) :
    (throw error >>= next) = throw error := rfl

theorem bind_pure (process : Process ι ε σ α) : process >>= pure = process := by
  induction process with
  | done value => rfl
  | fail error => rfl
  | call update resume abort resumeHypothesis abortHypothesis =>
      have resumes : (fun input state => (resume input state).bind done) = resume := by
        funext input state
        exact resumeHypothesis input state
      have aborts : (fun error => (abort error).bind done) = abort := by
        funext error
        exact abortHypothesis error
      exact congrArg₂ (call update) resumes aborts

/-! ## Atomic calls -/

/-- The input of a call of its own. -/
def ask : Process ι ε σ ι :=
  call (fun _ state => state) (fun input _ => done input) fail

/-- Read the state. -/
def query (read : ι → σ → α) : Process ι ε σ α :=
  call (fun _ state => state) (fun input state => done (read input state)) fail

/-- Update the state. -/
def command (update : ι → σ → σ) : Process ι ε σ Unit :=
  call update (fun _ _ => done ()) fail

/-- Update the state and return a value, or stop without any update. -/
def attempt (act : ι → σ → Except ε (α × σ)) : Process ι ε σ α :=
  call
    (fun input state =>
      match act input state with
      | .ok (_, next) => next
      | .error _ => state)
    (fun input state =>
      match act input state with
      | .ok (value, _) => done value
      | .error error => fail error)
    fail

/-- Reads go on alike if they do from every state. -/
theorem query_bind_congr
    {read : ι → σ → β}
    {read' : ι → σ → γ}
    {next : β → Process ι ε σ α}
    {next' : γ → Process ι ε σ α}
    (same : ∀ input state, next (read input state) = next' (read' input state)) :
    query read >>= next = query read' >>= next' :=
  congrArg (call _ · fail) (funext fun input => funext fun state => same input state)

/-! ## Running a process alone -/

/-- Run every call of a process with the same input. -/
def run (input : ι) : Process ι ε σ α → σ → Except ε α × σ
  | done value, state => (.ok value, state)
  | fail error, state => (.error error, state)
  | call update resume _, state =>
      (resume input state).run input (update input state)

/-- Run a process of which at most one call, given by its position, is
rejected with an error. -/
def runWithFault (input : ι) :
    Option (Nat × ε) → Process ι ε σ α → σ → Except ε α × σ
  | _, done value, state => (.ok value, state)
  | _, fail error, state => (.error error, state)
  | none, call update resume _, state =>
      (resume input state).runWithFault input none (update input state)
  | some (0, error), call _ _ abort, state =>
      (abort error).runWithFault input none state
  | some (position + 1, error), call update resume _, state =>
      (resume input state).runWithFault input (some (position, error))
        (update input state)

@[simp] theorem run_pure (input : ι) (value : α) (state : σ) :
    (pure value : Process ι ε σ α).run input state = (.ok value, state) := rfl

@[simp] theorem run_throw (input : ι) (error : ε) (state : σ) :
    (throw error : Process ι ε σ α).run input state = (.error error, state) := rfl

/-- The continuation runs from the state the first process leaves, unless that
process stopped. -/
theorem run_bind
    (input : ι)
    (process : Process ι ε σ α)
    (next : α → Process ι ε σ β)
    (state : σ) :
    (process >>= next).run input state =
      match process.run input state with
      | (.ok value, after) => (next value).run input after
      | (.error error, after) => (.error error, after) := by
  induction process generalizing state with
  | done value => rfl
  | fail error => rfl
  | call update resume abort resumeHypothesis abortHypothesis =>
      exact resumeHypothesis input state (update input state)

/-- The handler runs from the state the process leaves where it stops. -/
theorem run_tryCatch
    (input : ι)
    (process : Process ι ε σ α)
    (handler : ε → Process ι ε σ α)
    (state : σ) :
    (tryCatch process handler).run input state =
      match process.run input state with
      | (.ok value, after) => (.ok value, after)
      | (.error error, after) => (handler error).run input after := by
  induction process generalizing state with
  | done value => rfl
  | fail error => rfl
  | call update resume abort resumeHypothesis abortHypothesis =>
      exact resumeHypothesis input state (update input state)

/-- A composition returns a value exactly if both parts do. -/
theorem run_bind_eq_ok
    {input : ι}
    {process : Process ι ε σ α}
    {next : α → Process ι ε σ β}
    {state after : σ}
    {value : β} :
    (process >>= next).run input state = (.ok value, after) ↔
      ∃ middle reached, process.run input state = (.ok middle, reached) ∧
        (next middle).run input reached = (.ok value, after) := by
  rw [run_bind]
  rcases process.run input state with ⟨result, reached⟩
  cases result <;> simp

@[simp] theorem run_ask (input : ι) (state : σ) :
    (ask : Process ι ε σ ι).run input state = (.ok input, state) := rfl

@[simp] theorem run_query (input : ι) (read : ι → σ → α) (state : σ) :
    (query read : Process ι ε σ α).run input state =
      (.ok (read input state), state) := rfl

@[simp] theorem run_command (input : ι) (update : ι → σ → σ) (state : σ) :
    (command update : Process ι ε σ Unit).run input state =
      (.ok (), update input state) := rfl

theorem run_attempt
    (input : ι)
    (act : ι → σ → Except ε (α × σ))
    (state : σ) :
    (attempt act).run input state =
      match act input state with
      | .ok (value, next) => (.ok value, next)
      | .error error => (.error error, state) := by
  cases outcome : act input state <;> simp [attempt, run, outcome]

theorem run_attempt_eq_ok
    {input : ι}
    {act : ι → σ → Except ε (α × σ)}
    {state after : σ}
    {value : α} :
    (attempt act).run input state = (.ok value, after) ↔
      act input state = .ok (value, after) := by
  rw [run_attempt]
  cases act input state <;> simp [Prod.ext_iff]

theorem run_attempt_eq_error
    {input : ι}
    {act : ι → σ → Except ε (α × σ)}
    {state : σ}
    {error : ε} :
    (attempt act).run input state = (.error error, state) ↔
      act input state = .error error := by
  rw [run_attempt]
  cases act input state <;> simp [Prod.ext_iff]

/-- Without a rejected call the two ways of running a process agree. -/
@[simp] theorem runWithFault_none
    (input : ι)
    (process : Process ι ε σ α)
    (state : σ) :
    process.runWithFault input none state = process.run input state := by
  induction process generalizing state with
  | done value => rfl
  | fail error => rfl
  | call update resume abort resumeHypothesis abortHypothesis =>
      exact resumeHypothesis input state (update input state)

/-- A composition ends where its first part stops, or goes on from there. -/
theorem runWithFault_bind
    (process : Process ι ε σ α)
    (next : α → Process ι ε σ β)
    (input : ι)
    (fault : Option (Nat × ε))
    (state : σ) :
    ∃ rest, (process >>= next).runWithFault input fault state =
      match process.runWithFault input fault state with
      | (.ok value, after) => (next value).runWithFault input rest after
      | (.error error, after) => (.error error, after) := by
  induction process generalizing fault state with
  | done value => exact ⟨fault, by cases fault <;> rfl⟩
  | fail error => exact ⟨none, by cases fault <;> rfl⟩
  | call update resume abort resumeHypothesis abortHypothesis =>
      match fault with
      | none => exact resumeHypothesis input state none (update input state)
      | some (0, error) => exact abortHypothesis error none state
      | some (position + 1, error) =>
          exact resumeHypothesis input state (some (position, error)) (update input state)

/-! ## Counting calls -/

/-- The rejected call, counted from a number of calls later. -/
def later (calls : Nat) (fault : Option (Nat × ε)) : Option (Nat × ε) :=
  fault.map fun (position, error) => (position - calls, error)

/-- A query is one call. -/
theorem runWithFault_query_bind
    (input : ι)
    (read : ι → σ → α)
    (next : α → Process ι ε σ β)
    (fault : Option (Nat × ε))
    (state : σ) :
    (query read >>= next).runWithFault input fault state =
      match fault with
      | some (0, error) => (.error error, state)
      | fault => (next (read input state)).runWithFault input (later 1 fault) state := by
  match fault with
  | none => rfl
  | some (0, error) => rfl
  | some (position + 1, error) => rfl

/-- An attempt is one call. -/
theorem runWithFault_attempt_bind
    (input : ι)
    (act : ι → σ → Except ε (α × σ))
    (next : α → Process ι ε σ β)
    (fault : Option (Nat × ε))
    (state : σ) :
    (attempt act >>= next).runWithFault input fault state =
      match fault with
      | some (0, error) => (.error error, state)
      | fault =>
          match act input state with
          | .ok (value, after) => (next value).runWithFault input (later 1 fault) after
          | .error error => (.error error, state) := by
  have bound : (attempt act >>= next) =
      call
        (fun input state =>
          match act input state with
          | .ok (_, after) => after
          | .error _ => state)
        (fun input state =>
          (match act input state with
            | .ok (value, _) => done value
            | .error error => fail error : Process ι ε σ α) >>= next)
        (fun error => (fail error : Process ι ε σ α) >>= next) := rfl
  rw [bound]
  match fault with
  | some (0, error) => rfl
  | none => cases outcome : act input state <;> simp only [runWithFault, outcome] <;> rfl
  | some (position + 1, error) =>
      cases outcome : act input state <;> simp only [runWithFault, outcome] <;> rfl

/-- An attempt under a handler is one call, and the handler takes its rejection over. -/
theorem runWithFault_caught_attempt_bind
    (input : ι)
    (act : ι → σ → Except ε (α × σ))
    (kept : α → β)
    (handler : ε → Process ι ε σ β)
    (next : β → Process ι ε σ γ)
    (fault : Option (Nat × ε))
    (state : σ) :
    (tryCatch (attempt act >>= fun value => pure (kept value)) handler >>= next).runWithFault
        input fault state =
      match fault with
      | some (0, error) => (handler error >>= next).runWithFault input none state
      | fault =>
          match act input state with
          | .ok (value, after) => (next (kept value)).runWithFault input (later 1 fault) after
          | .error error => (handler error >>= next).runWithFault input (later 1 fault) state := by
  have bound : (tryCatch (attempt act >>= fun value => pure (kept value)) handler >>= next) =
      call
        (fun input state =>
          match act input state with
          | .ok (_, after) => after
          | .error _ => state)
        (fun input state =>
          tryCatch ((match act input state with
            | .ok (value, _) => done value
            | .error error => fail error : Process ι ε σ α) >>= fun value =>
              pure (kept value)) handler >>= next)
        (fun error => handler error >>= next) := rfl
  rw [bound]
  rcases fault with _ | ⟨_ | index, error⟩
  · cases outcome : act input state <;> simp only [runWithFault, outcome] <;> rfl
  · rfl
  · cases outcome : act input state <;> simp only [runWithFault, outcome] <;> rfl

end Process
end ConferenceContact
