import ConferenceContact.Foundation.Respects

/-!
# Two runs that answer alike

`Alike input left right leftState rightState post` runs two processes from two
states, call by call and with the same calls rejected: they go on and end alike,
and where they return a value, `post` relates it to the states they leave.  A process that is
alike with itself from two states tells its caller nothing of what sets the states
apart.
-/

namespace ConferenceContact
namespace Process

/-- From their states the two processes answer alike, whichever calls are rejected. -/
def Alike (input : ι) :
    Process ι ε σ α → Process ι ε σ α → σ → σ → (α → σ → σ → Prop) → Prop
  | done value, done value', state, state', post => value = value' ∧ post value state state'
  | fail error, fail error', _, _, _ => error = error'
  | call update resume abort, call update' resume' abort', state, state', post =>
      (resume input state).Alike input (resume' input state') (update input state)
          (update' input state') post ∧
        ∀ error, (abort error).Alike input (abort' error) state state' post
  | _, _, _, _, _ => False

namespace Alike

variable {input : ι} {state state' : σ}

theorem pure
    {value : α}
    {post : α → σ → σ → Prop}
    (related : post value state state') :
    Alike input (Pure.pure value : Process ι ε σ α) (Pure.pure value) state state' post :=
  ⟨rfl, related⟩

theorem throw (error : ε) (post : α → σ → σ → Prop) :
    Alike input (MonadExcept.throw error : Process ι ε σ α) (MonadExcept.throw error)
      state state' post := rfl

/-- The continuations of one value start where the first processes leave their states. -/
theorem bind
    {process process' : Process ι ε σ α}
    {next : α → Process ι ε σ β}
    {middle : α → σ → σ → Prop}
    {post : β → σ → σ → Prop}
    (first : Alike input process process' state state' middle)
    (second : ∀ value after after', middle value after after' →
      Alike input (next value) (next value) after after' post) :
    Alike input (process >>= next) (process' >>= next) state state' post := by
  induction process generalizing process' state state' with
  | done value =>
      cases process' with
      | done value' =>
          obtain ⟨rfl, related⟩ := first
          exact second value state state' related
      | fail error => cases first
      | call update resume abort => cases first
  | fail error =>
      cases process' with
      | done value => cases first
      | fail error' => exact first
      | call update resume abort => cases first
  | call update resume abort resumeHypothesis abortHypothesis =>
      cases process' with
      | done value => cases first
      | fail error => cases first
      | call update' resume' abort' =>
          exact ⟨resumeHypothesis input state first.1,
            fun error => abortHypothesis error (first.2 error)⟩

theorem query
    {read : ι → σ → α}
    (post : α → σ → σ → Prop)
    (same : read input state = read input state')
    (related : post (read input state) state state') :
    Alike input (Process.query read : Process ι ε σ α) (Process.query read) state state'
      post :=
  ⟨⟨same, related⟩, fun _ => rfl⟩

/-- What follows a read looks at it through a view, and the view is the same. -/
theorem query_bind
    {read : ι → σ → γ}
    {next : γ → Process ι ε σ α}
    {post : α → σ → σ → Prop}
    (view : γ → γ)
    (through : ∀ value, next value = next (view value))
    (same : view (read input state) = view (read input state'))
    (rest : Alike input (next (view (read input state))) (next (view (read input state)))
      state state' post) :
    Alike input (Process.query read >>= next) (Process.query read >>= next) state state'
      post := by
  refine ⟨?_, fun _ => rfl⟩
  show Alike input (next (read input state)) (next (read input state')) state state' post
  rw [through (read input state), through (read input state'), ← same]
  exact rest

theorem command (update : ι → σ → σ) :
    Alike input (Process.command update : Process ι ε σ Unit) (Process.command update)
      state state' fun _ _ _ => True :=
  ⟨⟨rfl, trivial⟩, fun _ => rfl⟩

/-- The two attempts stop with one error, or succeed with one value. -/
theorem attempt
    {act : ι → σ → Except ε (α × σ)}
    {post : α → σ → σ → Prop}
    (same : (act input state).map Prod.fst = (act input state').map Prod.fst)
    (related : ∀ value after after', act input state = .ok (value, after) →
      act input state' = .ok (value, after') → post value after after') :
    Alike input (Process.attempt act) (Process.attempt act) state state' post := by
  refine ⟨?_, fun _ => rfl⟩
  cases outcome : act input state <;> cases outcome' : act input state' <;>
    simp only [outcome, outcome', Except.map, reduceCtorEq, Except.ok.injEq,
      Except.error.injEq] at same ⊢
  · exact same
  · refine ⟨same, related _ _ _ outcome ?_⟩
    rw [same]
    exact outcome'

/-- A condition that reads alike in both. -/
theorem ite
    {condition : Prop}
    [Decidable condition]
    {yes no : Process ι ε σ α}
    {post : α → σ → σ → Prop}
    (ifTrue : condition → Alike input yes yes state state' post)
    (ifFalse : ¬ condition → Alike input no no state state' post) :
    Alike input (if condition then yes else no) (if condition then yes else no)
      state state' post := by
  split
  · exact ifTrue ‹_›
  · exact ifFalse ‹_›

/-- Alike processes return the same, whichever call is rejected. -/
theorem runWithFault
    {process process' : Process ι ε σ α}
    {post : α → σ → σ → Prop}
    (alike : Alike input process process' state state' post)
    (fault : Option (Nat × ε)) :
    (process.runWithFault input fault state).1 =
      (process'.runWithFault input fault state').1 := by
  induction process generalizing process' fault state state' with
  | done value =>
      cases process' with
      | done value' =>
          obtain ⟨rfl, -⟩ := alike
          cases fault <;> rfl
      | fail error => cases alike
      | call update resume abort => cases alike
  | fail error =>
      cases process' with
      | done value => cases alike
      | fail error' =>
          cases alike
          cases fault <;> rfl
      | call update resume abort => cases alike
  | call update resume abort resumeHypothesis abortHypothesis =>
      cases process' with
      | done value => cases alike
      | fail error => cases alike
      | call update' resume' abort' =>
          match fault with
          | none => exact resumeHypothesis input state alike.1 none
          | some (0, error) => exact abortHypothesis error (alike.2 error) none
          | some (position + 1, error) =>
              exact resumeHypothesis input state alike.1 (some (position, error))

end Alike
end Process
end ConferenceContact
