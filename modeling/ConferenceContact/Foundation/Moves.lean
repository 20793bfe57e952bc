import ConferenceContact.Foundation.Respects

/-!
# Moves of a process run alone

`Moves R input process state post` says that the process, run alone from
`state`, moves the state along the preorder `R`, and that a value it returns
satisfies `post` in the state it leaves.  A process that stops with an error
still has to move along `R`.
-/

namespace ConferenceContact
namespace Process

/-- The process moves `state` along `R`, and returns only values with `post`. -/
def Moves
    (R : σ → σ → Prop)
    (input : ι)
    (process : Process ι ε σ α)
    (state : σ)
    (post : α → σ → Prop) : Prop :=
  R state (process.run input state).2 ∧
    ∀ value, (process.run input state).1 = .ok value →
      post value (process.run input state).2

namespace Moves

variable {R : σ → σ → Prop} {input : ι} {state : σ}

/-- A weaker postcondition, with the move itself at hand. -/
theorem weaken
    {process : Process ι ε σ α}
    {post weaker : α → σ → Prop}
    (moves : Moves R input process state post)
    (implies : ∀ value after, R state after → post value after → weaker value after) :
    Moves R input process state weaker :=
  ⟨moves.1, fun value returned =>
    implies value _ moves.1 (moves.2 value returned)⟩

theorem pure
    [Std.Refl R]
    {value : α}
    {post : α → σ → Prop}
    (holds : post value state) :
    Moves R input (Pure.pure value : Process ι ε σ α) state post := by
  refine ⟨Std.Refl.refl state, ?_⟩
  rintro returned ⟨⟩
  exact holds

theorem throw
    [Std.Refl R]
    (error : ε)
    (post : α → σ → Prop) :
    Moves R input (MonadExcept.throw error : Process ι ε σ α) state post := by
  refine ⟨Std.Refl.refl state, ?_⟩
  rintro returned ⟨⟩

/-- The continuation starts where the first process leaves the state, with what
that process guarantees. -/
theorem bind
    [IsTrans σ R]
    {process : Process ι ε σ α}
    {next : α → Process ι ε σ β}
    {middle : α → σ → Prop}
    {post : β → σ → Prop}
    (first : Moves R input process state middle)
    (second : ∀ value after, R state after → middle value after →
      Moves R input (next value) after post) :
    Moves R input (process >>= next) state post := by
  obtain ⟨moved, returns⟩ := first
  unfold Moves
  rw [run_bind]
  rcases outcome : process.run input state with ⟨result, after⟩
  rw [outcome] at moved returns
  cases result with
  | error error => exact ⟨moved, by rintro value ⟨⟩⟩
  | ok value =>
      have onwards := second value after moved (returns value rfl)
      exact ⟨IsTrans.trans _ _ _ moved onwards.1, onwards.2⟩

theorem query
    [Std.Refl R]
    {read : ι → σ → α}
    (post : α → σ → Prop)
    (holds : post (read input state) state) :
    Moves R input (Process.query read : Process ι ε σ α) state post := by
  refine ⟨Std.Refl.refl state, ?_⟩
  rintro value ⟨⟩
  exact holds

theorem command
    {update : ι → σ → σ}
    {post : Unit → σ → Prop}
    (moved : R state (update input state))
    (holds : post () (update input state)) :
    Moves R input (Process.command update : Process ι ε σ Unit) state post :=
  ⟨moved, fun _ _ => holds⟩

/-- An update that may stop: only its successful outcome has to be looked at. -/
theorem attempt
    [Std.Refl R]
    {act : ι → σ → Except ε (α × σ)}
    (post : α → σ → Prop)
    (succeeds : ∀ value after, act input state = .ok (value, after) →
      R state after ∧ post value after) :
    Moves R input (Process.attempt act) state post := by
  unfold Moves
  rw [run_attempt]
  rcases outcome : act input state with error | ⟨value, after⟩
  · exact ⟨Std.Refl.refl state, by rintro value ⟨⟩⟩
  · obtain ⟨moved, holds⟩ := succeeds value after outcome
    refine ⟨moved, ?_⟩
    rintro returned ⟨⟩
    exact holds

/-- A condition on the way is a case distinction. -/
theorem ite
    {condition : Prop}
    [Decidable condition]
    {yes no : Process ι ε σ α}
    {post : α → σ → Prop}
    (ifTrue : condition → Moves R input yes state post)
    (ifFalse : ¬ condition → Moves R input no state post) :
    Moves R input (if condition then yes else no) state post := by
  split
  · exact ifTrue ‹_›
  · exact ifFalse ‹_›

/-- A process that respects the relation moves along it, and what it returns is
what its run returns. -/
theorem of_respects
    [IsPreorder σ R]
    {process : Process ι ε σ α}
    (respects : process.Respects R) :
    Moves R input process state fun value after =>
      process.run input state = (.ok value, after) :=
  ⟨respects.run input state, fun _ returned => Prod.ext returned rfl⟩

/-- A process known in closed form. -/
theorem of_run_eq
    {process : Process ι ε σ α}
    {result : Except ε α}
    {after : σ}
    {post : α → σ → Prop}
    (runs : process.run input state = (result, after))
    (moved : R state after)
    (returns : ∀ value, result = .ok value → post value after) :
    Moves R input process state post := by
  unfold Moves
  rw [runs]
  exact ⟨moved, returns⟩

end Moves
end Process
end ConferenceContact
