import ConferenceContact.Foundation.Interleaving
import ConferenceContact.Foundation.Runs

/-!
# Machines given by their control points

A machine says what the call at each control point makes of the state, and
where it leads when it takes place and when it is rejected.  A process is a
machine of its own, whose control points are the processes left of it; a
machine implements a process when the code left at its control points moves as
it does.

A crew is a shared state with the control points of its members, one of which
moves in every turn.
-/

namespace ConferenceContact

namespace Process

/-- What is left of a process when its next call is rejected. -/
def rejected (error : ε) : Process ι ε σ α → Process ι ε σ α
  | done value => done value
  | fail error => fail error
  | call _ _ abort => abort error

section

variable {input : ι} {state : σ} {error : ε}

@[simp] theorem effect_query_bind
    (read : ι → σ → β)
    (next : β → Process ι ε σ α) :
    (query read >>= next).effect input state = state := rfl

@[simp] theorem residual_query_bind
    (read : ι → σ → β)
    (next : β → Process ι ε σ α) :
    (query read >>= next).residual input state = next (read input state) := rfl

@[simp] theorem rejected_query_bind
    (read : ι → σ → β)
    (next : β → Process ι ε σ α) :
    (query read >>= next).rejected error = throw error := rfl

@[simp] theorem effect_command_bind
    (update : ι → σ → σ)
    (next : Unit → Process ι ε σ α) :
    (command update >>= next).effect input state = update input state := rfl

@[simp] theorem residual_command_bind
    (update : ι → σ → σ)
    (next : Unit → Process ι ε σ α) :
    (command update >>= next).residual input state = next () := rfl

@[simp] theorem rejected_command_bind
    (update : ι → σ → σ)
    (next : Unit → Process ι ε σ α) :
    (command update >>= next).rejected error = throw error := rfl

@[simp] theorem effect_attempt_bind
    (act : ι → σ → Except ε (β × σ))
    (next : β → Process ι ε σ α) :
    (attempt act >>= next).effect input state =
      match act input state with
      | .ok (_, after) => after
      | .error _ => state := rfl

@[simp] theorem residual_attempt_bind
    (act : ι → σ → Except ε (β × σ))
    (next : β → Process ι ε σ α) :
    (attempt act >>= next).residual input state =
      match act input state with
      | .ok (value, _) => next value
      | .error error => throw error := by
  show Process.bind
    (match act input state with
      | .ok (value, _) => done value
      | .error error => fail error) next = _
  cases act input state <;> rfl

@[simp] theorem rejected_attempt_bind
    (act : ι → σ → Except ε (β × σ))
    (next : β → Process ι ε σ α) :
    (attempt act >>= next).rejected error = throw error := rfl

/-- A process with a call left makes that call before what follows it. -/
theorem effect_bind
    {process : Process ι ε σ β}
    (left : process.finished = false)
    (next : β → Process ι ε σ α) :
    (process >>= next).effect input state = process.effect input state := by
  cases process with
  | done value => cases left
  | fail error => cases left
  | call update resume abort => rfl

theorem residual_bind
    {process : Process ι ε σ β}
    (left : process.finished = false)
    (next : β → Process ι ε σ α) :
    (process >>= next).residual input state = process.residual input state >>= next := by
  cases process with
  | done value => cases left
  | fail error => cases left
  | call update resume abort => rfl

theorem rejected_bind
    {process : Process ι ε σ β}
    (left : process.finished = false)
    (next : β → Process ι ε σ α) :
    (process >>= next).rejected error = process.rejected error >>= next := by
  cases process with
  | done value => cases left
  | fail error => cases left
  | call update resume abort => rfl

variable (process : Process ι ε σ α) (handler : ε → Process ι ε σ α)

/-- A process with a call left makes that call inside a handler too. -/
@[simp] theorem effect_tryCatch (left : process.finished = false) :
    (tryCatch process handler).effect input state = process.effect input state := by
  cases process with
  | done value => cases left
  | fail error => cases left
  | call update resume abort => rfl

@[simp] theorem residual_tryCatch (left : process.finished = false) :
    (tryCatch process handler).residual input state =
      tryCatch (process.residual input state) handler := by
  cases process with
  | done value => cases left
  | fail error => cases left
  | call update resume abort => rfl

@[simp] theorem rejected_tryCatch (left : process.finished = false) :
    (tryCatch process handler).rejected error =
      tryCatch (process.rejected error) handler := by
  cases process with
  | done value => cases left
  | fail error => cases left
  | call update resume abort => rfl

@[simp] theorem tryCatch_pure (value : α) (handler : ε → Process ι ε σ α) :
    tryCatch (pure value : Process ι ε σ α) handler = pure value := rfl

@[simp] theorem tryCatch_throw (error : ε) (handler : ε → Process ι ε σ α) :
    tryCatch (throw error : Process ι ε σ α) handler = handler error := rfl

/-! ### Processes that respect a relation -/

variable {R : σ → σ → Prop} {process : Process ι ε σ α}

theorem Respects.effect
    [Std.Refl R]
    (respects : process.Respects R)
    (input : ι)
    (state : σ) :
    R state (process.effect input state) := by
  cases process with
  | done value => exact Std.Refl.refl state
  | fail error => exact Std.Refl.refl state
  | call update resume abort => exact respects.1 input state

theorem Respects.residual
    (respects : process.Respects R)
    (input : ι)
    (state : σ) :
    (process.residual input state).Respects R := by
  cases process with
  | done value => trivial
  | fail error => trivial
  | call update resume abort => exact respects.2.1 input state

theorem Respects.rejected
    (respects : process.Respects R)
    (error : ε) :
    (process.rejected error).Respects R := by
  cases process with
  | done value => trivial
  | fail error => trivial
  | call update resume abort => exact respects.2.2 error

end

end Process

/-- A machine with control points `κ` over the state `σ`. -/
structure Machine (κ ι ε σ : Type) where
  /-- What the call at a control point makes of the state. -/
  effect : κ → ι → σ → σ
  /-- Where that call leads. -/
  next : κ → ι → σ → κ
  /-- Where its rejection leads. -/
  abort : κ → ε → κ

/-- Processes as control points. -/
def Process.machine : Machine (Process ι ε σ α) ι ε σ where
  effect process input state := process.effect input state
  next process input state := process.residual input state
  abort process error := process.rejected error

/-- A shared state and the control points of the members. -/
structure Crew (κ σ : Type) where
  state : σ
  members : List κ

/-- Which member moves, the input of its call, and the error of that call if it
is rejected. -/
structure CrewTurn (ι ε : Type) where
  member : Nat
  input : ι
  rejected : Option ε := none

namespace Machine

variable {κ ι ε σ : Type}

/-- Let one member make its next call. -/
def step (machine : Machine κ ι ε σ) (crew : Crew κ σ) (turn : CrewTurn ι ε) : Crew κ σ :=
  match crew.members[turn.member]? with
  | none => crew
  | some member =>
      match turn.rejected with
      | none =>
          { state := machine.effect member turn.input crew.state
            members := crew.members.set turn.member
              (machine.next member turn.input crew.state) }
      | some error =>
          { crew with
            members := crew.members.set turn.member (machine.abort member error) }

/-- The crew after a schedule. -/
def run
    (machine : Machine κ ι ε σ)
    (crew : Crew κ σ)
    (schedule : List (CrewTurn ι ε)) : Crew κ σ :=
  schedule.foldl machine.step crew

/-- Members of two kinds. -/
def sum
    {κ' : Type}
    (left : Machine κ ι ε σ)
    (right : Machine κ' ι ε σ) : Machine (κ ⊕ κ') ι ε σ where
  effect
    | .inl member => left.effect member
    | .inr member => right.effect member
  next
    | .inl member => fun input state => .inl (left.next member input state)
    | .inr member => fun input state => .inr (right.next member input state)
  abort
    | .inl member => fun error => .inl (left.abort member error)
    | .inr member => fun error => .inr (right.abort member error)

/-! ## Machines that implement processes -/

/-- The code left at the control points moves as the machine does. -/
structure Implements
    {α : Type}
    (machine : Machine κ ι ε σ)
    (code : κ → Process ι ε σ α) : Prop where
  effect : ∀ point input state,
    (code point).effect input state = machine.effect point input state
  next : ∀ point input state,
    (code point).residual input state = code (machine.next point input state)
  abort : ∀ point error, (code point).rejected error = code (machine.abort point error)

/-- A crew of processes. -/
def Implements.crew
    {α : Type}
    (code : κ → Process ι ε σ α)
    (crew : Crew κ σ) : Crew (Process ι ε σ α) σ where
  state := crew.state
  members := crew.members.map code

/-- The code at the control points makes the same turns as the machine. -/
theorem Implements.step
    {α : Type}
    {machine : Machine κ ι ε σ}
    {code : κ → Process ι ε σ α}
    (implements : machine.Implements code)
    (crew : Crew κ σ)
    (turn : CrewTurn ι ε) :
    Process.machine.step (Implements.crew code crew) turn =
      Implements.crew code (machine.step crew turn) := by
  unfold Machine.step Implements.crew
  simp only [List.getElem?_map]
  cases crew.members[turn.member]? with
  | none => rfl
  | some member =>
      cases turn.rejected with
      | none =>
          simp only [Option.map_some, Process.machine, implements.effect, implements.next,
            List.map_set]
      | some error =>
          simp only [Option.map_some, Process.machine, implements.abort, List.map_set]

/-- The processes themselves reach the same states as the machine. -/
theorem Implements.run
    {α : Type}
    {machine : Machine κ ι ε σ}
    {code : κ → Process ι ε σ α}
    (implements : machine.Implements code)
    (crew : Crew κ σ)
    (schedule : List (CrewTurn ι ε)) :
    Process.machine.run (Implements.crew code crew) schedule =
      Implements.crew code (machine.run crew schedule) := by
  induction schedule generalizing crew with
  | nil => rfl
  | cons turn schedule inductionHypothesis =>
      show Process.machine.run (Process.machine.step _ turn) schedule = _
      rw [implements.step, inductionHypothesis]
      rfl

/-- A process is its own implementation. -/
theorem implements_self {α : Type} :
    (Process.machine : Machine (Process ι ε σ α) ι ε σ).Implements id :=
  ⟨fun _ _ _ => rfl, fun _ _ _ => rfl, fun _ _ => rfl⟩

/-- The same code, with its result left out. -/
theorem Implements.discard
    {α : Type}
    {machine : Machine κ ι ε σ}
    {code : κ → Process ι ε σ α}
    (implements : machine.Implements code) :
    machine.Implements fun point => (do let _ ← code point : Process ι ε σ Unit) where
  effect point input state := by
    rw [← implements.effect]
    cases code point <;> rfl
  next point input state := by
    rw [← implements.next]
    cases code point <;> rfl
  abort point error := by
    rw [← implements.abort]
    cases code point <;> rfl

/-- Members of two kinds, each with its own code. -/
theorem Implements.sum
    {α κ' : Type}
    {left : Machine κ ι ε σ}
    {right : Machine κ' ι ε σ}
    {leftCode : κ → Process ι ε σ α}
    {rightCode : κ' → Process ι ε σ α}
    (first : left.Implements leftCode)
    (second : right.Implements rightCode) :
    (left.sum right).Implements (Sum.elim leftCode rightCode) where
  effect point input state := by
    cases point with
    | inl member => exact first.effect member input state
    | inr member => exact second.effect member input state
  next point input state := by
    cases point with
    | inl member => exact first.next member input state
    | inr member => exact second.next member input state
  abort point error := by
    cases point with
    | inl member => exact first.abort member error
    | inr member => exact second.abort member error

end Machine
end ConferenceContact
