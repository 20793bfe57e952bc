import ConferenceContact.Foundation.Respects

/-!
# Outcomes of a process some calls of which may be rejected

`Ensures input rejections process state post` explores a process call by call
from `state`: every call either takes place, or is rejected with one of the
errors in `rejections`, and `post` holds of each result and state in which the
process ends.  Without rejections this is the run of the process alone; with
them it covers every run with a rejected call.  The rules compute the
precondition of a process from those of its parts.
-/

namespace ConferenceContact
namespace Process

/-- Whichever of its calls are rejected, the process ends with `post`. -/
def Ensures (input : ι) (rejections : ε → Prop) :
    Process ι ε σ α → σ → (Except ε α → σ → Prop) → Prop
  | done value, state, post => post (.ok value) state
  | fail error, state, post => post (.error error) state
  | call update resume abort, state, post =>
      (resume input state).Ensures input rejections (update input state) post ∧
        ∀ error, rejections error →
          (abort error).Ensures input rejections state post

namespace Ensures

variable {input : ι} {rejections : ε → Prop} {state : σ}

/-! ## Rules -/

@[simp] theorem pure_iff
    {value : α}
    {post : Except ε α → σ → Prop} :
    Ensures input rejections (Pure.pure value : Process ι ε σ α) state post ↔
      post (.ok value) state := Iff.rfl

@[simp] theorem throw_iff
    {error : ε}
    {post : Except ε α → σ → Prop} :
    Ensures input rejections (throw error : Process ι ε σ α) state post ↔
      post (.error error) state := Iff.rfl

@[simp] theorem bind_iff
    {process : Process ι ε σ α}
    {next : α → Process ι ε σ β}
    {post : Except ε β → σ → Prop} :
    Ensures input rejections (process >>= next) state post ↔
      Ensures input rejections process state fun result after =>
        match result with
        | .ok value => Ensures input rejections (next value) after post
        | .error error => post (.error error) after := by
  induction process generalizing state with
  | done value => exact Iff.rfl
  | fail error => exact Iff.rfl
  | call update resume abort resumeHypothesis abortHypothesis =>
      have resumes := @resumeHypothesis input state (update input state)
      have aborts := fun error => @abortHypothesis error state
      exact and_congr resumes
        (forall_congr' fun error => imp_congr Iff.rfl (aborts error))

@[simp] theorem tryCatch_iff
    {process : Process ι ε σ α}
    {handler : ε → Process ι ε σ α}
    {post : Except ε α → σ → Prop} :
    Ensures input rejections (tryCatch process handler) state post ↔
      Ensures input rejections process state fun result after =>
        match result with
        | .ok value => post (.ok value) after
        | .error error => Ensures input rejections (handler error) after post := by
  induction process generalizing state with
  | done value => exact Iff.rfl
  | fail error => exact Iff.rfl
  | call update resume abort resumeHypothesis abortHypothesis =>
      have resumes := @resumeHypothesis input state (update input state)
      have aborts := fun error => @abortHypothesis error state
      exact and_congr resumes
        (forall_congr' fun error => imp_congr Iff.rfl (aborts error))

@[simp] theorem ask_iff {post : Except ε ι → σ → Prop} :
    Ensures input rejections (ask : Process ι ε σ ι) state post ↔
      post (.ok input) state ∧
        ∀ error, rejections error → post (.error error) state := Iff.rfl

@[simp] theorem query_iff
    {read : ι → σ → α}
    {post : Except ε α → σ → Prop} :
    Ensures input rejections (query read : Process ι ε σ α) state post ↔
      post (.ok (read input state)) state ∧
        ∀ error, rejections error → post (.error error) state := Iff.rfl

@[simp] theorem command_iff
    {update : ι → σ → σ}
    {post : Except ε Unit → σ → Prop} :
    Ensures input rejections (command update : Process ι ε σ Unit) state post ↔
      post (.ok ()) (update input state) ∧
        ∀ error, rejections error → post (.error error) state := Iff.rfl

@[simp] theorem attempt_iff
    {act : ι → σ → Except ε (α × σ)}
    {post : Except ε α → σ → Prop} :
    Ensures input rejections (attempt act) state post ↔
      (match act input state with
        | .ok (value, after) => post (.ok value) after
        | .error error => post (.error error) state) ∧
        ∀ error, rejections error → post (.error error) state := by
  cases outcome : act input state <;> simp [attempt, Ensures, outcome]

/-- An attempt ends as its run does, unless it is rejected. -/
theorem attempt_run_iff
    {act : ι → σ → Except ε (α × σ)}
    {post : Except ε α → σ → Prop} :
    Ensures input rejections (attempt act) state post ↔
      post ((attempt act).run input state).1 ((attempt act).run input state).2 ∧
        ∀ error, rejections error → post (.error error) state := by
  rw [attempt_iff, run_attempt]
  cases act input state <;> exact Iff.rfl

/-! ## Consequence -/

theorem weaken
    {process : Process ι ε σ α}
    {post weaker : Except ε α → σ → Prop}
    (ensures : Ensures input rejections process state post)
    (implies : ∀ result after, post result after → weaker result after) :
    Ensures input rejections process state weaker := by
  induction process generalizing state with
  | done value => exact implies _ _ ensures
  | fail error => exact implies _ _ ensures
  | call update resume abort resumeHypothesis abortHypothesis =>
      obtain ⟨resumes, aborts⟩ := ensures
      exact ⟨resumeHypothesis input state resumes,
        fun error rejected => abortHypothesis error (aborts error rejected)⟩

/-- A process ends with whatever always holds. -/
theorem of_forall
    {process : Process ι ε σ α}
    {post : Except ε α → σ → Prop}
    (always : ∀ result after, post result after) :
    Ensures input rejections process state post := by
  induction process generalizing state with
  | done value => exact always _ _
  | fail error => exact always _ _
  | call update resume abort resumeHypothesis abortHypothesis =>
      exact ⟨resumeHypothesis input state, fun error _ => abortHypothesis error⟩

theorem and
    {process : Process ι ε σ α}
    {left right : Except ε α → σ → Prop}
    (first : Ensures input rejections process state left)
    (second : Ensures input rejections process state right) :
    Ensures input rejections process state fun result after =>
      left result after ∧ right result after := by
  induction process generalizing state with
  | done value => exact ⟨first, second⟩
  | fail error => exact ⟨first, second⟩
  | call update resume abort resumeHypothesis abortHypothesis =>
      exact ⟨resumeHypothesis input state first.1 second.1,
        fun error rejected => abortHypothesis error
          (first.2 error rejected) (second.2 error rejected)⟩

/-- The continuation starts from what the first process ensures; a process that
stops there ends with it. -/
theorem bind
    {process : Process ι ε σ α}
    {next : α → Process ι ε σ β}
    {middle : Except ε α → σ → Prop}
    {post : Except ε β → σ → Prop}
    (first : Ensures input rejections process state middle)
    (second : ∀ value after, middle (.ok value) after →
      Ensures input rejections (next value) after post)
    (stops : ∀ error after, middle (.error error) after → post (.error error) after) :
    Ensures input rejections (process >>= next) state post := by
  rw [bind_iff]
  refine first.weaken ?_
  intro result after holds
  cases result with
  | ok value => exact second value after holds
  | error error => exact stops error after holds

/-- A process that respects a preorder ends along it. -/
theorem of_respects
    {R : σ → σ → Prop}
    [IsPreorder σ R]
    {process : Process ι ε σ α}
    (respects : process.Respects R) :
    Ensures input rejections process state fun _ after => R state after := by
  induction process generalizing state with
  | done value => exact Std.Refl.refl state
  | fail error => exact Std.Refl.refl state
  | call update resume abort resumeHypothesis abortHypothesis =>
      obtain ⟨moves, resumes, aborts⟩ := respects
      refine ⟨?_, fun error _ => abortHypothesis error (aborts error)⟩
      refine (resumeHypothesis input state (resumes input state)).weaken ?_
      intro result after moved
      exact IsTrans.trans _ _ _ (moves input state) moved

/-! ## Runs -/

/-- A run with at most one rejected call ends as the process ensures. -/
theorem runWithFault
    {process : Process ι ε σ α}
    {post : Except ε α → σ → Prop}
    (ensures : Ensures input rejections process state post)
    (fault : Option (Nat × ε))
    (allowed : ∀ position error, fault = some (position, error) → rejections error) :
    post (process.runWithFault input fault state).1
      (process.runWithFault input fault state).2 := by
  induction process generalizing fault state with
  | done value => cases fault <;> exact ensures
  | fail error => cases fault <;> exact ensures
  | call update resume abort resumeHypothesis abortHypothesis =>
      obtain ⟨resumes, aborts⟩ := ensures
      match fault with
      | none => exact resumeHypothesis input state resumes none nofun
      | some (0, error) =>
          have rejected := allowed 0 error rfl
          exact abortHypothesis error (aborts error rejected) none nofun
      | some (position + 1, error) =>
          refine resumeHypothesis input state resumes (some (position, error)) ?_
          rintro other thrown ⟨⟩
          exact allowed (position + 1) error rfl

/-- The run of a process alone ends as the process ensures. -/
theorem run
    {process : Process ι ε σ α}
    {post : Except ε α → σ → Prop}
    (ensures : Ensures input rejections process state post) :
    post (process.run input state).1 (process.run input state).2 := by
  rw [← runWithFault_none]
  exact ensures.runWithFault none nofun

end Ensures
end Process
end ConferenceContact
