import ConferenceContact.Foundation.Respects

/-!
# The call with which an effect lands

What a process does to one view of the state is often the work of a single call.
`LandsAt` says which: if a call up to that one is rejected the view stays as it was,
and otherwise, whichever later call is rejected, it becomes the result.  The rules
follow the process call by call from a given state.
-/

namespace ConferenceContact
namespace Process

/-- A view of the state becomes the result with the call at a position. -/
def LandsAt
    (view : σ → τ)
    (input : ι)
    (error : ε)
    (position : Nat)
    (process : Process ι ε σ α)
    (state : σ)
    (result : τ) : Prop :=
  ∀ rejected : Option Nat,
    view (process.runWithFault input (rejected.map fun index => (index, error)) state).2 =
      if rejected.all (position < ·) then result else view state

namespace LandsAt

variable {view : σ → τ} {input : ι} {error : ε} {position : Nat} {state : σ} {result : τ}

/-- Where a view is kept by every call, it does not matter which is rejected. -/
theorem of_respects
    {R : σ → σ → Prop}
    [IsPreorder σ R]
    {process : Process ι ε σ α}
    (respects : process.Respects R)
    (same : ∀ before after, R before after → view after = view before) :
    LandsAt view input error position process state (view state) := by
  intro rejected
  rw [same _ _ (respects.runWithFault input _ state), ite_self]

theorem query_bind
    {read : ι → σ → β}
    {next : β → Process ι ε σ α}
    (rest : LandsAt view input error position (next (read input state)) state result) :
    LandsAt view input error (position + 1) (query read >>= next) state result := by
  intro rejected
  rcases rejected with _ | _ | index
  · exact rest none
  · rfl
  · have later := rest (some index)
    simp only [Option.all_some, Nat.add_lt_add_iff_right] at later ⊢
    exact later

theorem attempt_bind
    {act : ι → σ → Except ε (β × σ)}
    {next : β → Process ι ε σ α}
    {value : β}
    {after : σ}
    (succeeds : (attempt act).run input state = (.ok value, after))
    (same : view after = view state)
    (rest : LandsAt view input error position (next value) after result) :
    LandsAt view input error (position + 1) (attempt act >>= next) state result := by
  have succeeds := run_attempt_eq_ok.mp succeeds
  intro rejected
  rw [runWithFault_attempt_bind]
  rcases rejected with _ | _ | index
  · simp only [Option.map_none, succeeds]
    exact rest none
  · rfl
  · have later := rest (some index)
    rw [same] at later
    simp only [Option.map_some, succeeds, Option.all_some, Nat.add_lt_add_iff_right]
      at later ⊢
    exact later

/-- An attempt that fails leaves the view. -/
theorem attempt_bind_of_error
    {act : ι → σ → Except ε (β × σ)}
    {next : β → Process ι ε σ α}
    {failure : ε}
    (fails : (attempt act).run input state = (.error failure, state)) :
    LandsAt view input error position (attempt act >>= next) state (view state) := by
  have fails := run_attempt_eq_error.mp fails
  intro rejected
  rw [ite_self, runWithFault_attempt_bind]
  rcases rejected with _ | _ | index
  · simp only [Option.map_none, fails]
  · rfl
  · simp only [Option.map_some, fails]

theorem command_bind
    {update : ι → σ → σ}
    {next : Unit → Process ι ε σ α}
    {after : σ}
    (runs : (command update : Process ι ε σ Unit).run input state = (.ok (), after))
    (same : view after = view state)
    (rest : LandsAt view input error position (next ()) after result) :
    LandsAt view input error (position + 1) (command update >>= next) state result := by
  obtain rfl : update input state = after := congrArg Prod.snd runs
  intro rejected
  rcases rejected with _ | _ | index
  · exact rest none
  · rfl
  · have later := rest (some index)
    rw [same] at later
    simp only [Option.all_some, Nat.add_lt_add_iff_right] at later ⊢
    exact later

/-- What follows keeps the view. -/
theorem bind
    {R : σ → σ → Prop}
    [IsPreorder σ R]
    {process : Process ι ε σ α}
    {next : α → Process ι ε σ β}
    (lands : LandsAt view input error position process state result)
    (rest : ∀ value, (next value).Respects R)
    (same : ∀ before after, R before after → view after = view before) :
    LandsAt view input error position (process >>= next) state result := by
  have follows : ∀ (process : Process ι ε σ α) fault state,
      R (process.runWithFault input fault state).2
        ((process >>= next).runWithFault input fault state).2 := by
    intro process
    induction process with
    | done value =>
        intro fault state
        cases fault <;> exact (rest value).runWithFault input _ state
    | fail error =>
        intro fault state
        cases fault <;> exact Std.Refl.refl state
    | call update resume abort resumeHypothesis abortHypothesis =>
        intro fault state
        rcases fault with _ | ⟨_ | index, error⟩
        · exact resumeHypothesis input state none (update input state)
        · exact abortHypothesis error none state
        · exact resumeHypothesis input state (some (index, error)) (update input state)
  intro rejected
  rw [same _ _ (follows process _ state)]
  exact lands rejected

/-- The call that makes the change, whose rejection is caught. -/
theorem caught_command {update : ι → σ → σ} :
    LandsAt view input error 0
      (tryCatch (command update) fun _ => pure ()) state (view (update input state)) := by
  intro rejected
  rcases rejected with _ | _ | index
  · rfl
  · rfl
  · rfl

section

variable {act : ι → σ → Except ε (β × σ)} {kept : β → γ} {handler : ε → Process ι ε σ γ}
  {next : γ → Process ι ε σ α}

/-- An attempt under a handler that need not step in. -/
theorem caught_attempt_bind
    {R : σ → σ → Prop}
    [IsPreorder σ R]
    {value : β}
    {after : σ}
    (succeeds : (attempt act).run input state = (.ok value, after))
    (same : view after = view state)
    (handles : (handler error >>= next).Respects R)
    (keeps : ∀ before after, R before after → view after = view before)
    (rest : LandsAt view input error position (next (kept value)) after result) :
    LandsAt view input error (position + 1)
      (tryCatch (attempt act >>= fun value => pure (kept value)) handler >>= next) state
      result := by
  have succeeds := run_attempt_eq_ok.mp succeeds
  intro rejected
  rw [runWithFault_caught_attempt_bind]
  rcases rejected with _ | _ | index
  · simp only [Option.map_none, succeeds]
    exact rest none
  · exact keeps _ _ (handles.runWithFault input none state)
  · have later := rest (some index)
    rw [same] at later
    simp only [Option.map_some, succeeds, Option.all_some, Nat.add_lt_add_iff_right]
      at later ⊢
    exact later

/-- An attempt that fails, so that the handler steps in. -/
theorem caught_attempt_bind_of_error
    {R : σ → σ → Prop}
    [IsPreorder σ R]
    {failure : ε}
    (fails : (attempt act).run input state = (.error failure, state))
    (handles : (handler error >>= next).Respects R)
    (keeps : ∀ before after, R before after → view after = view before)
    (rest : LandsAt view input error position (handler failure >>= next) state result) :
    LandsAt view input error (position + 1)
      (tryCatch (attempt act >>= fun value => pure (kept value)) handler >>= next) state
      result := by
  have fails := run_attempt_eq_error.mp fails
  intro rejected
  rw [runWithFault_caught_attempt_bind]
  rcases rejected with _ | _ | index
  · simp only [Option.map_none, fails]
    exact rest none
  · exact keeps _ _ (handles.runWithFault input none state)
  · have later := rest (some index)
    simp only [Option.map_some, fails, Option.all_some, Nat.add_lt_add_iff_right] at later ⊢
    exact later

end
end LandsAt
end Process
end ConferenceContact
