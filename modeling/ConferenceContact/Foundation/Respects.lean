import ConferenceContact.Foundation.Process
import Mathlib.Order.Defs.Unbundled

/-!
# Relations and invariants every call keeps

A process respects a relation when each of its calls, whatever it reads and
whichever calls are rejected, moves the state along that relation.  It keeps an
invariant when each call does so from states of the invariant; then what a call
reads may be used by the calls after it.  Both notions are compositional, and
both hold of runs with and without a rejected call.
-/

namespace ConferenceContact
namespace Process

/-- Every call moves the state along `R`. -/
def Respects (R : σ → σ → Prop) : Process ι ε σ α → Prop
  | done _ => True
  | fail _ => True
  | call update resume abort =>
      (∀ input state, R state (update input state)) ∧
        (∀ input state, (resume input state).Respects R) ∧
        ∀ error, (abort error).Respects R

/-- The first calls of a process, up to a number of them, move the state along
`R`, and so does what follows where one of them, or the call after them, is
rejected. -/
def RespectsThrough (R : σ → σ → Prop) : Nat → Process ι ε σ α → Prop
  | _, done _ => True
  | _, fail _ => True
  | 0, call _ _ abort => ∀ error, (abort error).Respects R
  | calls + 1, call update resume abort =>
      (∀ input state, R state (update input state)) ∧
        (∀ input state, (resume input state).RespectsThrough R calls) ∧
        ∀ error, (abort error).Respects R

/-- Every call after the first ones, up to a number of them, moves the state along
`R`. -/
def RespectsAfter (R : σ → σ → Prop) : Nat → Process ι ε σ α → Prop
  | 0, process => process.Respects R
  | _ + 1, done _ => True
  | _ + 1, fail _ => True
  | calls + 1, call _ resume _ =>
      ∀ input state, (resume input state).RespectsAfter R calls

/-- From states of the invariant every call leads to states of the invariant,
and the values returned there satisfy `post`. -/
def Keeps (invariant : σ → Prop) (post : α → Prop) : Process ι ε σ α → Prop
  | done value => post value
  | fail _ => True
  | call update resume abort =>
      (∀ input state, invariant state → invariant (update input state)) ∧
        (∀ input state, invariant state →
          (resume input state).Keeps invariant post) ∧
        ∀ error, (abort error).Keeps invariant post

/-! ## Rules for `Respects` -/

namespace Respects

variable {R : σ → σ → Prop}

theorem pure (value : α) : Respects R (Pure.pure value : Process ι ε σ α) := trivial

theorem throw (error : ε) :
    Respects R (MonadExcept.throw error : Process ι ε σ α) := trivial

theorem bind
    {process : Process ι ε σ α}
    {next : α → Process ι ε σ β}
    (first : process.Respects R)
    (second : ∀ value, (next value).Respects R) :
    (process >>= next).Respects R := by
  induction process with
  | done value => exact second value
  | fail error => trivial
  | call update resume abort resumeHypothesis abortHypothesis =>
      obtain ⟨moves, resumes, aborts⟩ := first
      exact ⟨moves,
        fun input state => resumeHypothesis input state (resumes input state),
        fun error => abortHypothesis error (aborts error)⟩

theorem tryCatch
    {process : Process ι ε σ α}
    {handler : ε → Process ι ε σ α}
    (body : process.Respects R)
    (handles : ∀ error, (handler error).Respects R) :
    Respects R (MonadExcept.tryCatch process handler) := by
  induction process with
  | done value => trivial
  | fail error => exact handles error
  | call update resume abort resumeHypothesis abortHypothesis =>
      obtain ⟨moves, resumes, aborts⟩ := body
      exact ⟨moves,
        fun input state => resumeHypothesis input state (resumes input state),
        fun error => abortHypothesis error (aborts error)⟩

theorem query [Std.Refl R] (read : ι → σ → α) :
    Respects R (Process.query read : Process ι ε σ α) :=
  ⟨fun _ state => Std.Refl.refl state, fun _ _ => trivial, fun _ => trivial⟩

theorem ask [Std.Refl R] : Respects R (Process.ask : Process ι ε σ ι) :=
  ⟨fun _ state => Std.Refl.refl state, fun _ _ => trivial, fun _ => trivial⟩

theorem command
    {update : ι → σ → σ}
    (moves : ∀ input state, R state (update input state)) :
    Respects R (Process.command update : Process ι ε σ Unit) :=
  ⟨moves, fun _ _ => trivial, fun _ => trivial⟩

theorem attempt
    [Std.Refl R]
    {act : ι → σ → Except ε (α × σ)}
    (moves : ∀ input state value after,
      act input state = .ok (value, after) → R state after) :
    Respects R (Process.attempt act) := by
  refine ⟨?_, ?_, fun _ => trivial⟩
  · intro input state
    cases outcome : act input state with
    | error error =>
        simp only [outcome]
        exact Std.Refl.refl state
    | ok pair =>
        simp only [outcome]
        exact moves input state pair.1 pair.2 outcome
  · intro input state
    cases outcome : act input state with
    | error error => simp only [outcome]; trivial
    | ok pair => simp only [outcome]; trivial

/-- What moves along a relation moves along a weaker one. -/
theorem mono
    {S : σ → σ → Prop}
    {process : Process ι ε σ α}
    (respects : process.Respects R)
    (implies : ∀ before after, R before after → S before after) :
    process.Respects S := by
  induction process with
  | done value => trivial
  | fail error => trivial
  | call update resume abort resumeHypothesis abortHypothesis =>
      obtain ⟨moves, resumes, aborts⟩ := respects
      exact ⟨fun input state => implies _ _ (moves input state),
        fun input state => resumeHypothesis input state (resumes input state),
        fun error => abortHypothesis error (aborts error)⟩

/-- What moves along two relations moves along both at once. -/
theorem and
    {S : σ → σ → Prop}
    {process : Process ι ε σ α}
    (first : process.Respects R)
    (second : process.Respects S) :
    process.Respects fun before after => R before after ∧ S before after := by
  induction process with
  | done value => trivial
  | fail error => trivial
  | call update resume abort resumeHypothesis abortHypothesis =>
      obtain ⟨moves, resumes, aborts⟩ := first
      obtain ⟨moves', resumes', aborts'⟩ := second
      exact ⟨fun input state => ⟨moves input state, moves' input state⟩,
        fun input state => resumeHypothesis input state (resumes input state)
          (resumes' input state),
        fun error => abortHypothesis error (aborts error) (aborts' error)⟩

theorem ite
    {condition : Prop}
    [Decidable condition]
    {yes no : Process ι ε σ α}
    (ifTrue : yes.Respects R)
    (ifFalse : no.Respects R) :
    (if condition then yes else no).Respects R := by
  split
  · exact ifTrue
  · exact ifFalse

/-- A run with at most one rejected call moves the state along a preorder that
the process respects. -/
theorem runWithFault
    [IsPreorder σ R]
    {process : Process ι ε σ α}
    (respects : process.Respects R)
    (input : ι)
    (fault : Option (Nat × ε))
    (state : σ) :
    R state (process.runWithFault input fault state).2 := by
  induction process generalizing fault state with
  | done value => cases fault <;> exact Std.Refl.refl state
  | fail error => cases fault <;> exact Std.Refl.refl state
  | call update resume abort resumeHypothesis abortHypothesis =>
      obtain ⟨moves, resumes, aborts⟩ := respects
      match fault with
      | none =>
          exact IsTrans.trans _ _ _ (moves input state)
            (resumeHypothesis input state (resumes input state) none _)
      | some (0, error) => exact abortHypothesis error (aborts error) none state
      | some (position + 1, error) =>
          exact IsTrans.trans _ _ _ (moves input state)
            (resumeHypothesis input state (resumes input state) _ _)

theorem run
    [IsPreorder σ R]
    {process : Process ι ε σ α}
    (respects : process.Respects R)
    (input : ι)
    (state : σ) :
    R state (process.run input state).2 := by
  rw [← runWithFault_none]
  exact respects.runWithFault input none state

/-- What the continuation leaves alone is, after a run, what the first process leaves. -/
theorem view_run_bind
    (view : σ → τ)
    {process : Process ι ε σ α}
    {next : α → Process ι ε σ β}
    (kept : ∀ value, (next value).Respects fun before after => view after = view before)
    (input : ι)
    (state : σ) :
    view ((process >>= next).run input state).2 = view (process.run input state).2 := by
  have preorder : IsPreorder σ fun before after => view after = view before :=
    { refl := fun _ => rfl, trans := fun _ _ _ first second => second.trans first }
  rw [run_bind]
  rcases process.run input state with ⟨result, after⟩
  cases result with
  | error error => rfl
  | ok value => exact (kept value).run input after

end Respects

/-! ## Rules for `RespectsThrough` -/

namespace RespectsThrough

variable {R : σ → σ → Prop}

theorem of_respects
    {process : Process ι ε σ α}
    (respects : process.Respects R)
    (calls : Nat) :
    process.RespectsThrough R calls := by
  induction process generalizing calls with
  | done value => cases calls <;> trivial
  | fail error => cases calls <;> trivial
  | call update resume abort resumeHypothesis abortHypothesis =>
      obtain ⟨moves, resumes, aborts⟩ := respects
      cases calls with
      | zero => exact aborts
      | succ calls =>
          exact ⟨moves, fun input state => resumeHypothesis input state (resumes input state) _,
            aborts⟩

theorem query_bind
    [Std.Refl R]
    {read : ι → σ → α}
    {next : α → Process ι ε σ β}
    {calls : Nat}
    (rest : ∀ value, (next value).RespectsThrough R calls) :
    (query read >>= next).RespectsThrough R (calls + 1) :=
  ⟨fun _ state => Std.Refl.refl state, fun input state => rest (read input state),
    fun _ => trivial⟩

theorem attempt_bind
    [Std.Refl R]
    {act : ι → σ → Except ε (α × σ)}
    {next : α → Process ι ε σ β}
    {calls : Nat}
    (first : (attempt act).Respects R)
    (rest : ∀ value, (next value).RespectsThrough R calls) :
    (attempt act >>= next).RespectsThrough R (calls + 1) := by
  refine ⟨first.1, fun input state => ?_, fun _ => trivial⟩
  cases outcome : act input state with
  | error error =>
      simp only [outcome]
      cases calls <;> trivial
  | ok pair =>
      simp only [outcome]
      exact rest pair.1

theorem command_bind
    {update : ι → σ → σ}
    {next : Unit → Process ι ε σ β}
    {calls : Nat}
    (first : (command update : Process ι ε σ Unit).Respects R)
    (rest : (next ()).RespectsThrough R calls) :
    (command update >>= next).RespectsThrough R (calls + 1) :=
  ⟨first.1, fun _ _ => rest, fun _ => trivial⟩

/-- The call after the counted ones may do anything. -/
theorem attempt_zero
    {act : ι → σ → Except ε (α × σ)}
    {next : α → Process ι ε σ β} :
    (attempt act >>= next).RespectsThrough R 0 :=
  fun _ => trivial

/-- What comes after a process may respect the relation as a whole. -/
theorem bind
    {process : Process ι ε σ α}
    {next : α → Process ι ε σ β}
    {calls : Nat}
    (first : process.RespectsThrough R calls)
    (second : ∀ value, (next value).Respects R) :
    (process >>= next).RespectsThrough R calls := by
  induction process generalizing calls with
  | done value => exact of_respects (second value) calls
  | fail error => cases calls <;> trivial
  | call update resume abort resumeHypothesis abortHypothesis =>
      cases calls with
      | zero => exact fun error => (first error).bind second
      | succ calls =>
          obtain ⟨moves, resumes, aborts⟩ := first
          exact ⟨moves, fun input state => resumeHypothesis input state (resumes input state),
            fun error => (aborts error).bind second⟩

theorem throw (error : ε) (calls : Nat) :
    (MonadExcept.throw error : Process ι ε σ α).RespectsThrough R calls := by
  cases calls <;> trivial

theorem tryCatch
    {process : Process ι ε σ α}
    {handler : ε → Process ι ε σ α}
    {calls : Nat}
    (body : process.RespectsThrough R calls)
    (handles : ∀ error, (handler error).Respects R) :
    (MonadExcept.tryCatch process handler).RespectsThrough R calls := by
  induction process generalizing calls with
  | done value => cases calls <;> trivial
  | fail error => exact of_respects (handles error) calls
  | call update resume abort resumeHypothesis abortHypothesis =>
      cases calls with
      | zero => exact fun error => (body error).tryCatch handles
      | succ calls =>
          obtain ⟨moves, resumes, aborts⟩ := body
          exact ⟨moves, fun input state => resumeHypothesis input state (resumes input state),
            fun error => (aborts error).tryCatch handles⟩

/-- A rejected call that is not behind the calls that move along a preorder leaves
a state further along it. -/
theorem runWithFault
    [IsPreorder σ R]
    {process : Process ι ε σ α}
    {calls position : Nat}
    (through : process.RespectsThrough R calls)
    (early : position ≤ calls)
    (input : ι)
    (error : ε)
    (state : σ) :
    R state (process.runWithFault input (some (position, error)) state).2 := by
  induction process generalizing calls position state with
  | done value => exact Std.Refl.refl state
  | fail error => exact Std.Refl.refl state
  | call update resume abort resumeHypothesis abortHypothesis =>
      match position, calls with
      | 0, 0 => exact (through error).runWithFault input none state
      | 0, calls + 1 => exact (through.2.2 error).runWithFault input none state
      | position + 1, calls + 1 =>
          obtain ⟨moves, resumes, -⟩ := through
          exact IsTrans.trans _ _ _ (moves input state)
            (resumeHypothesis input state (resumes input state) (Nat.le_of_succ_le_succ early) _)

end RespectsThrough

/-! ## Rules for `RespectsAfter` -/

namespace RespectsAfter

variable {R : σ → σ → Prop}

theorem of_respects
    {process : Process ι ε σ α}
    (respects : process.Respects R)
    (calls : Nat) :
    process.RespectsAfter R calls := by
  induction process generalizing calls with
  | done value => cases calls <;> trivial
  | fail error => cases calls <;> trivial
  | call update resume abort resumeHypothesis abortHypothesis =>
      cases calls with
      | zero => exact respects
      | succ calls =>
          exact fun input state => resumeHypothesis input state (respects.2.1 input state) calls

theorem query_bind
    {read : ι → σ → α}
    {next : α → Process ι ε σ β}
    {calls : Nat}
    (rest : ∀ value, (next value).RespectsAfter R calls) :
    (query read >>= next).RespectsAfter R (calls + 1) :=
  fun input state => rest (read input state)

theorem command_bind
    {update : ι → σ → σ}
    {next : Unit → Process ι ε σ β}
    {calls : Nat}
    (rest : (next ()).RespectsAfter R calls) :
    (command update >>= next).RespectsAfter R (calls + 1) :=
  fun _ _ => rest

theorem attempt_bind
    {act : ι → σ → Except ε (α × σ)}
    {next : α → Process ι ε σ β}
    {calls : Nat}
    (rest : ∀ value, (next value).RespectsAfter R calls) :
    (attempt act >>= next).RespectsAfter R (calls + 1) := by
  intro input state
  cases outcome : act input state with
  | error error =>
      simp only [outcome]
      cases calls <;> trivial
  | ok pair =>
      simp only [outcome]
      exact rest pair.1

theorem attempt (act : ι → σ → Except ε (α × σ)) :
    (Process.attempt act).RespectsAfter R 1 := by
  intro input state
  dsimp only
  split <;> trivial

theorem command (update : ι → σ → σ) :
    (Process.command update : Process ι ε σ Unit).RespectsAfter R 1 :=
  fun _ _ => trivial

/-- What comes after a process respects the relation as a whole. -/
theorem bind
    {process : Process ι ε σ α}
    {next : α → Process ι ε σ β}
    {calls : Nat}
    (first : process.RespectsAfter R calls)
    (second : ∀ value, (next value).Respects R) :
    (process >>= next).RespectsAfter R calls := by
  induction process generalizing calls with
  | done value => exact of_respects (second value) calls
  | fail error => cases calls <;> trivial
  | call update resume abort resumeHypothesis abortHypothesis =>
      cases calls with
      | zero => exact Respects.bind first second
      | succ calls => exact fun input state => resumeHypothesis input state (first input state)

theorem tryCatch
    {process : Process ι ε σ α}
    {handler : ε → Process ι ε σ α}
    {calls : Nat}
    (body : process.RespectsAfter R calls)
    (handles : ∀ error, (handler error).Respects R) :
    (MonadExcept.tryCatch process handler).RespectsAfter R calls := by
  induction process generalizing calls with
  | done value => cases calls <;> trivial
  | fail error => exact of_respects (handles error) calls
  | call update resume abort resumeHypothesis abortHypothesis =>
      cases calls with
      | zero => exact Respects.tryCatch body handles
      | succ calls => exact fun input state => resumeHypothesis input state (body input state)

/-- What the relation keeps is, after a run with a call rejected behind the first
ones, what the run alone leaves. -/
theorem view_eq
    [IsPreorder σ R]
    (view : σ → τ)
    (same : ∀ before after, R before after → view after = view before)
    {process : Process ι ε σ α}
    {calls position : Nat}
    (respects : process.RespectsAfter R calls)
    (late : calls ≤ position)
    (input : ι)
    (error : ε)
    (state : σ) :
    view (process.runWithFault input (some (position, error)) state).2 =
      view (process.run input state).2 := by
  induction process generalizing calls position state with
  | done value => rfl
  | fail error => rfl
  | call update resume abort resumeHypothesis abortHypothesis =>
      cases calls with
      | zero =>
          rw [same _ _ (respects.runWithFault input _ state), same _ _ (respects.run input state)]
      | succ calls =>
          obtain ⟨position, rfl⟩ := Nat.exists_eq_add_of_le' (Nat.zero_lt_of_lt late)
          exact resumeHypothesis input state (respects input state)
            (Nat.le_of_succ_le_succ late) _

end RespectsAfter

/-! ## Rules for `Keeps` -/

namespace Keeps

variable {invariant : σ → Prop}

theorem pure
    {value : α}
    {post : α → Prop}
    (holds : post value) :
    Keeps invariant post (Pure.pure value : Process ι ε σ α) := holds

theorem throw (error : ε) (post : α → Prop) :
    Keeps invariant post (MonadExcept.throw error : Process ι ε σ α) := trivial

theorem bind
    {process : Process ι ε σ α}
    {next : α → Process ι ε σ β}
    {middle : α → Prop}
    {post : β → Prop}
    (first : process.Keeps invariant middle)
    (second : ∀ value, middle value → (next value).Keeps invariant post) :
    (process >>= next).Keeps invariant post := by
  induction process with
  | done value => exact second value first
  | fail error => trivial
  | call update resume abort resumeHypothesis abortHypothesis =>
      obtain ⟨keeps, resumes, aborts⟩ := first
      exact ⟨keeps,
        fun input state holds =>
          resumeHypothesis input state (resumes input state holds),
        fun error => abortHypothesis error (aborts error)⟩

theorem query
    {read : ι → σ → α}
    {post : α → Prop}
    (holds : ∀ input state, invariant state → post (read input state)) :
    Keeps invariant post (Process.query read : Process ι ε σ α) :=
  ⟨fun _ _ kept => kept, holds, fun _ => trivial⟩

/-- What respects the preservation of an invariant keeps it. -/
theorem of_respects
    {process : Process ι ε σ α}
    (respects : process.Respects fun before after =>
      invariant before → invariant after) :
    process.Keeps invariant fun _ => True := by
  induction process with
  | done value => trivial
  | fail error => trivial
  | call update resume abort resumeHypothesis abortHypothesis =>
      obtain ⟨moves, resumes, aborts⟩ := respects
      exact ⟨moves,
        fun input state _ => resumeHypothesis input state (resumes input state),
        fun error => abortHypothesis error (aborts error)⟩

end Keeps
end Process
end ConferenceContact
