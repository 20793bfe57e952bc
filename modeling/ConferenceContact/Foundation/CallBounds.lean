import ConferenceContact.Foundation.Machine

/-!
# Bounds on the calls of a process

A process makes at most some number of calls, whatever they return and
whichever of them are rejected.  The bounds of processes that run one after the
other add up, and every call that is made uses up one.
-/

namespace ConferenceContact
namespace Process

/-- On every path, at most so many calls are left. -/
def MakesAtMost : Process ι ε σ α → Nat → Prop
  | done _, _ => True
  | fail _, _ => True
  | call _ resume abort, calls =>
      0 < calls ∧ (∀ input state, (resume input state).MakesAtMost (calls - 1)) ∧
        ∀ error, (abort error).MakesAtMost (calls - 1)

namespace MakesAtMost

variable {calls others : Nat} {process : Process ι ε σ α}

theorem mono (bound : process.MakesAtMost calls) (more : calls ≤ others) :
    process.MakesAtMost others := by
  induction process generalizing calls others with
  | done value => trivial
  | fail error => trivial
  | call update resume abort resumeHypothesis abortHypothesis =>
      obtain ⟨positive, resumes, aborts⟩ := bound
      have less : calls - 1 ≤ others - 1 := Nat.sub_le_sub_right more 1
      refine ⟨Nat.lt_of_lt_of_le positive more, fun input state => ?_, fun error => ?_⟩
      · exact resumeHypothesis input state (resumes input state) less
      · exact abortHypothesis error (aborts error) less

theorem pure (value : α) : (Pure.pure value : Process ι ε σ α).MakesAtMost calls := trivial

theorem throw (error : ε) :
    (MonadExcept.throw error : Process ι ε σ α).MakesAtMost calls := trivial

/-- One process after the other. -/
theorem bind
    {next : α → Process ι ε σ β}
    (first : process.MakesAtMost calls)
    (second : ∀ value, (next value).MakesAtMost others) :
    (process >>= next).MakesAtMost (calls + others) := by
  induction process generalizing calls with
  | done value => exact (second value).mono (Nat.le_add_left _ _)
  | fail error => trivial
  | call update resume abort resumeHypothesis abortHypothesis =>
      obtain ⟨positive, resumes, aborts⟩ := first
      have rest : calls + others - 1 = calls - 1 + others := by omega
      refine ⟨by omega, fun input state => ?_, fun error => ?_⟩
      · rw [rest]
        exact resumeHypothesis input state (resumes input state)
      · rw [rest]
        exact abortHypothesis error (aborts error)

/-- A process, and what handles its errors. -/
theorem tryCatch
    {handler : ε → Process ι ε σ α}
    (body : process.MakesAtMost calls)
    (handles : ∀ error, (handler error).MakesAtMost others) :
    MakesAtMost (MonadExcept.tryCatch process handler) (calls + others) := by
  induction process generalizing calls with
  | done value => trivial
  | fail error => exact (handles error).mono (Nat.le_add_left _ _)
  | call update resume abort resumeHypothesis abortHypothesis =>
      obtain ⟨positive, resumes, aborts⟩ := body
      have rest : calls + others - 1 = calls - 1 + others := by omega
      refine ⟨by omega, fun input state => ?_, fun error => ?_⟩
      · rw [rest]
        exact resumeHypothesis input state (resumes input state)
      · rw [rest]
        exact abortHypothesis error (aborts error)

theorem attempt (act : ι → σ → Except ε (α × σ)) : (Process.attempt act).MakesAtMost 1 := by
  refine ⟨Nat.one_pos, fun input state => ?_, fun error => trivial⟩
  dsimp only
  split
  · trivial
  · trivial

/-- A call that is made, or rejected, uses up one. -/
theorem residual
    (bound : process.MakesAtMost calls)
    (input : ι)
    (state : σ) :
    (!process.finished).toNat ≤ calls ∧
      (process.residual input state).MakesAtMost (calls - (!process.finished).toNat) := by
  cases process with
  | done value => exact ⟨Nat.zero_le _, trivial⟩
  | fail error => exact ⟨Nat.zero_le _, trivial⟩
  | call update resume abort => exact ⟨bound.1, bound.2.1 input state⟩

theorem rejected
    (bound : process.MakesAtMost calls)
    (error : ε) :
    (!process.finished).toNat ≤ calls ∧
      (process.rejected error).MakesAtMost (calls - (!process.finished).toNat) := by
  cases process with
  | done value => exact ⟨Nat.zero_le _, trivial⟩
  | fail error => exact ⟨Nat.zero_le _, trivial⟩
  | call update resume abort => exact ⟨bound.1, bound.2.2 error⟩

end MakesAtMost
end Process
end ConferenceContact
