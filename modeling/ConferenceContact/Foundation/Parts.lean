import ConferenceContact.Foundation.Respects

/-!
# Processes over a part of the state

A `Part` of a state is read and replaced without touching the rest.  A process over
the part runs inside the whole state, where its calls read and move the part only; one
over the whole may do to the part what another does, and more beside it.
-/

namespace ConferenceContact

/-- A part `σ` of a state `τ`. -/
structure Part (τ σ : Type) where
  get : τ → σ
  set : σ → τ → τ
  set_get : ∀ whole, set (get whole) whole = whole
  get_set : ∀ part whole, get (set part whole) = part

namespace Process

/-- A process over a part of the state, inside the whole. -/
def within (part : Part τ σ) : Process ι ε σ α → Process ι ε τ α
  | done value => done value
  | fail error => fail error
  | call update resume abort =>
      call
        (fun input whole => part.set (update input (part.get whole)) whole)
        (fun input whole => (resume input (part.get whole)).within part)
        (fun error => (abort error).within part)

variable {part : Part τ σ}

/-! ## The calls inside the whole -/

@[simp] theorem within_pure (value : α) :
    (pure value : Process ι ε σ α).within part = pure value := rfl

@[simp] theorem within_throw (error : ε) :
    (throw error : Process ι ε σ α).within part = throw error := rfl

@[simp] theorem within_bind
    (process : Process ι ε σ α)
    (next : α → Process ι ε σ β) :
    (process >>= next).within part =
      process.within part >>= fun value => (next value).within part := by
  induction process with
  | done value => rfl
  | fail error => rfl
  | call update resume abort resumeHypothesis abortHypothesis =>
      have resumes : (fun input whole => ((resume input (part.get whole)).bind next).within part) =
          fun input whole => ((resume input (part.get whole)).within part).bind
            fun value => (next value).within part := by
        funext input whole
        exact resumeHypothesis input (part.get whole)
      have aborts : (fun error => ((abort error).bind next).within part) =
          fun error => ((abort error).within part).bind fun value => (next value).within part := by
        funext error
        exact abortHypothesis error
      exact congrArg₂ (call _) resumes aborts

@[simp] theorem within_query (read : ι → σ → α) :
    (query read : Process ι ε σ α).within part =
      query fun input whole => read input (part.get whole) := by
  show call _ _ _ = call _ _ _
  simp only [part.set_get]
  rfl

@[simp] theorem within_command (update : ι → σ → σ) :
    (command update : Process ι ε σ Unit).within part =
      command fun input whole => part.set (update input (part.get whole)) whole := rfl

@[simp] theorem within_attempt (act : ι → σ → Except ε (α × σ)) :
    (attempt act).within part = attempt fun input whole =>
      match act input (part.get whole) with
      | .ok (value, after) => .ok (value, part.set after whole)
      | .error error => .error error := by
  have updates : (fun input whole => part.set
        (match act input (part.get whole) with
          | .ok (_, after) => after
          | .error _ => part.get whole) whole) =
      fun input whole =>
        match (match act input (part.get whole) with
          | .ok (value, after) => .ok (value, part.set after whole)
          | .error error => .error error : Except ε (α × τ)) with
        | .ok (_, after) => after
        | .error _ => whole := by
    funext input whole
    cases act input (part.get whole) with
    | ok outcome => rfl
    | error error => exact part.set_get whole
  have resumes : (fun input whole => Process.within part
        (match act input (part.get whole) with
          | .ok (value, _) => done value
          | .error error => fail error : Process ι ε σ α)) =
      fun input whole =>
        match (match act input (part.get whole) with
          | .ok (value, after) => .ok (value, part.set after whole)
          | .error error => .error error : Except ε (α × τ)) with
        | .ok (value, _) => done value
        | .error error => fail error := by
    funext input whole
    cases act input (part.get whole) with
    | ok outcome => rfl
    | error error => rfl
  exact (congrArg (call · _ _) updates).trans (congrArg (call _ · _) resumes)

/-- The whole moves as the part does. -/
theorem Respects.within
    {R : σ → σ → Prop}
    {S : τ → τ → Prop}
    {process : Process ι ε σ α}
    (respects : process.Respects R)
    (lifts : ∀ whole after, R (part.get whole) after → S whole (part.set after whole)) :
    (process.within part).Respects S := by
  induction process with
  | done value => trivial
  | fail error => trivial
  | call update resume abort resumeHypothesis abortHypothesis =>
      obtain ⟨moves, resumes, aborts⟩ := respects
      exact ⟨fun input whole => lifts whole _ (moves input _),
        fun input whole => resumeHypothesis input _ (resumes input _),
        fun error => abortHypothesis error (aborts error)⟩

/-! ## Processes that do more beside the part -/

/-- The process does to the part, call by call, what another does, and ends like it. -/
def Projects (part : Part τ σ) : Process ι ε τ α → Process ι ε σ α → Prop
  | done value, done value' => value = value'
  | fail error, fail error' => error = error'
  | call update resume abort, call update' resume' abort' =>
      (∀ input whole, part.get (update input whole) = update' input (part.get whole)) ∧
        (∀ input whole, (resume input whole).Projects part (resume' input (part.get whole))) ∧
        ∀ error, (abort error).Projects part (abort' error)
  | _, _ => False

theorem Projects.within (process : Process ι ε σ α) :
    (process.within part).Projects part process := by
  induction process with
  | done value => exact rfl
  | fail error => exact rfl
  | call update resume abort resumeHypothesis abortHypothesis =>
      exact ⟨fun input whole => part.get_set _ _,
        fun input whole => resumeHypothesis input (part.get whole), abortHypothesis⟩

theorem Projects.bind
    {outer : Process ι ε τ α}
    {inner : Process ι ε σ α}
    {next : α → Process ι ε τ β}
    {next' : α → Process ι ε σ β}
    (first : outer.Projects part inner)
    (second : ∀ value, (next value).Projects part (next' value)) :
    (outer >>= next).Projects part (inner >>= next') := by
  induction outer generalizing inner with
  | done value =>
      cases inner with
      | done value' => exact first ▸ second value
      | _ => exact first.elim
  | fail error =>
      cases inner with
      | fail error' => exact first
      | _ => exact first.elim
  | call update resume abort resumeHypothesis abortHypothesis =>
      cases inner with
      | call update' resume' abort' =>
          obtain ⟨moves, resumes, aborts⟩ := first
          exact ⟨moves, fun input whole => resumeHypothesis input whole (resumes input whole),
            fun error => abortHypothesis error (aborts error)⟩
      | _ => exact first.elim

/-- An update that succeeds and stops where another does. -/
theorem Projects.attempt
    {act : ι → τ → Except ε (α × τ)}
    {act' : ι → σ → Except ε (α × σ)}
    (same : ∀ input whole, (act input whole).map (Prod.map id part.get) =
      act' input (part.get whole)) :
    (Process.attempt act).Projects part (Process.attempt act') := by
  refine ⟨fun input whole => ?_, fun input whole => ?_, fun error => rfl⟩
  · dsimp only
    rw [← same]
    cases act input whole <;> rfl
  · dsimp only
    rw [← same]
    cases act input whole <;> exact rfl

/-- They run alike, whichever call is rejected. -/
theorem Projects.runWithFault
    {outer : Process ι ε τ α}
    {inner : Process ι ε σ α}
    (projects : outer.Projects part inner)
    (input : ι)
    (fault : Option (Nat × ε))
    (whole : τ) :
    Prod.map id part.get (outer.runWithFault input fault whole) =
      inner.runWithFault input fault (part.get whole) := by
  induction outer generalizing inner fault whole with
  | done value =>
      cases inner with
      | done value' => cases projects; cases fault <;> rfl
      | _ => exact projects.elim
  | fail error =>
      cases inner with
      | fail error' => cases projects; cases fault <;> rfl
      | _ => exact projects.elim
  | call update resume abort resumeHypothesis abortHypothesis =>
      cases inner with
      | call update' resume' abort' =>
          obtain ⟨moves, resumes, aborts⟩ := projects
          rcases fault with _ | ⟨_ | position, error⟩
          · have rest := resumeHypothesis input whole (resumes input whole) none
              (update input whole)
            rw [moves] at rest
            exact rest
          · exact abortHypothesis error (aborts error) none whole
          · have rest := resumeHypothesis input whole (resumes input whole)
              (some (position, error)) (update input whole)
            rw [moves] at rest
            exact rest
      | _ => exact projects.elim

end Process
end ConferenceContact
