import ConferenceContact.Foundation.Ensures

/-!
# Moves of a process some calls of which may be rejected

`Advances R input rejections process state post` says that the process, run from
`state` with any of its calls rejected, moves the state along the preorder `R`
however it ends, and that a value it returns satisfies `post` in the state it
leaves.
-/

namespace ConferenceContact
namespace Process

/-- Whichever of its calls are rejected, the process moves `state` along `R`, and
returns only values with `post`. -/
def Advances
    (R : σ → σ → Prop)
    (input : ι)
    (rejections : ε → Prop)
    (process : Process ι ε σ α)
    (state : σ)
    (post : α → σ → Prop) : Prop :=
  process.Ensures input rejections state fun result after =>
    R state after ∧ ∀ value, result = .ok value → post value after

namespace Advances

variable {R : σ → σ → Prop} {input : ι} {rejections : ε → Prop} {state : σ}

/-- A weaker postcondition, with the move itself at hand. -/
theorem weaken
    {process : Process ι ε σ α}
    {post weaker : α → σ → Prop}
    (advances : Advances R input rejections process state post)
    (implies : ∀ value after, R state after → post value after → weaker value after) :
    Advances R input rejections process state weaker :=
  Ensures.weaken advances fun _ after moved =>
    ⟨moved.1, fun value returned => implies value after moved.1 (moved.2 value returned)⟩

theorem pure
    [Std.Refl R]
    {value : α}
    {post : α → σ → Prop}
    (holds : post value state) :
    Advances R input rejections (Pure.pure value : Process ι ε σ α) state post := by
  refine ⟨Std.Refl.refl state, ?_⟩
  rintro returned ⟨⟩
  exact holds

theorem throw
    [Std.Refl R]
    (error : ε)
    (post : α → σ → Prop) :
    Advances R input rejections (MonadExcept.throw error : Process ι ε σ α) state post := by
  refine ⟨Std.Refl.refl state, ?_⟩
  rintro returned ⟨⟩

/-- The continuation starts where the first process leaves the state, with what
that process guarantees. -/
theorem bind
    [IsTrans σ R]
    {process : Process ι ε σ α}
    {next : α → Process ι ε σ β}
    {middle : α → σ → Prop}
    {post : β → σ → Prop}
    (first : Advances R input rejections process state middle)
    (second : ∀ value after, R state after → middle value after →
      Advances R input rejections (next value) after post) :
    Advances R input rejections (process >>= next) state post := by
  refine Ensures.bind first ?_ ?_
  · rintro value after ⟨moved, returns⟩
    refine Ensures.weaken (second value after moved (returns value rfl)) ?_
    rintro result last ⟨onwards, holds⟩
    exact ⟨IsTrans.trans _ _ _ moved onwards, holds⟩
  · rintro error after ⟨moved, -⟩
    exact ⟨moved, nofun⟩

theorem query
    [Std.Refl R]
    {read : ι → σ → α}
    (post : α → σ → Prop)
    (holds : post (read input state) state) :
    Advances R input rejections (Process.query read : Process ι ε σ α) state post := by
  unfold Advances
  rw [Ensures.query_iff]
  refine ⟨⟨Std.Refl.refl state, ?_⟩, fun _ _ => ⟨Std.Refl.refl state, nofun⟩⟩
  rintro value ⟨⟩
  exact holds

theorem ask
    [Std.Refl R] :
    Advances R input rejections (Process.ask : Process ι ε σ ι) state
      fun value _ => value = input := by
  unfold Advances
  rw [Ensures.ask_iff]
  refine ⟨⟨Std.Refl.refl state, ?_⟩, fun _ _ => ⟨Std.Refl.refl state, nofun⟩⟩
  rintro value ⟨⟩
  rfl

theorem command
    [Std.Refl R]
    {update : ι → σ → σ}
    (moved : R state (update input state)) :
    Advances R input rejections (Process.command update : Process ι ε σ Unit) state
      fun _ _ => True := by
  unfold Advances
  rw [Ensures.command_iff]
  exact ⟨⟨moved, fun _ _ => trivial⟩, fun _ _ => ⟨Std.Refl.refl state, nofun⟩⟩

/-- An update that may stop: only its successful outcome has to be looked at. -/
theorem attempt
    [Std.Refl R]
    {act : ι → σ → Except ε (α × σ)}
    (post : α → σ → Prop)
    (succeeds : ∀ value after, act input state = .ok (value, after) →
      R state after ∧ post value after) :
    Advances R input rejections (Process.attempt act) state post := by
  unfold Advances
  rw [Ensures.attempt_iff]
  refine ⟨?_, fun _ _ => ⟨Std.Refl.refl state, nofun⟩⟩
  cases outcome : act input state with
  | error error => exact ⟨Std.Refl.refl state, nofun⟩
  | ok pair =>
      obtain ⟨moved, holds⟩ := succeeds pair.1 pair.2 outcome
      refine ⟨moved, ?_⟩
      rintro value ⟨⟩
      exact holds

/-- A handler starts where the process leaves the state. -/
theorem tryCatch
    [IsTrans σ R]
    {process : Process ι ε σ α}
    {handler : ε → Process ι ε σ α}
    {post : α → σ → Prop}
    (body : Advances R input rejections process state post)
    (handles : ∀ error after, R state after →
      Advances R input rejections (handler error) after post) :
    Advances R input rejections (MonadExcept.tryCatch process handler) state post := by
  unfold Advances
  rw [Ensures.tryCatch_iff]
  refine Ensures.weaken body ?_
  rintro (error | value) after ⟨moved, returns⟩
  · refine Ensures.weaken (handles error after moved) ?_
    rintro result last ⟨onwards, holds⟩
    exact ⟨IsTrans.trans _ _ _ moved onwards, holds⟩
  · exact ⟨moved, returns⟩

/-- A condition on the way is a case distinction. -/
theorem ite
    {condition : Prop}
    [Decidable condition]
    {yes no : Process ι ε σ α}
    {post : α → σ → Prop}
    (ifTrue : condition → Advances R input rejections yes state post)
    (ifFalse : ¬ condition → Advances R input rejections no state post) :
    Advances R input rejections (if condition then yes else no) state post := by
  split
  · exact ifTrue ‹_›
  · exact ifFalse ‹_›

/-- A process that respects the relation moves along it. -/
theorem of_respects
    [IsPreorder σ R]
    {process : Process ι ε σ α}
    (respects : process.Respects R) :
    Advances R input rejections process state fun _ _ => True :=
  (Ensures.of_respects respects).weaken fun _ _ moved => ⟨moved, fun _ _ => trivial⟩

/-- A run with at most one rejected call moves along the relation. -/
theorem runWithFault
    {process : Process ι ε σ α}
    {post : α → σ → Prop}
    (advances : Advances R input (fun _ => True) process state post)
    (fault : Option (Nat × ε)) :
    R state (process.runWithFault input fault state).2 :=
  (Ensures.runWithFault advances fault fun _ _ _ => trivial).1

end Advances
end Process
end ConferenceContact
