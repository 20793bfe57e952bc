import Mathlib.Data.List.Basic
import Mathlib.Data.List.Count

/-!
# Lockout after failed attempts

A lockout counts the attempts that fail.  When they reach a limit it lets nothing
through for a while, and counts from zero again.  In any stretch of time as long as a
lock no more attempts fail than the limit, unless one succeeds.
-/

namespace ConferenceContact

/-- The failures counted so far, and when the last lock ends. -/
structure Lockout where
  failures : Nat := 0
  lockedUntil : Option Nat := none
  deriving DecidableEq

/-- An attempt, and whether it is right. -/
structure LockoutAttempt where
  now : Nat
  right : Bool
  deriving DecidableEq

namespace Lockout

/-- Nothing is let through at this moment. -/
def locked (now : Nat) (lockout : Lockout) : Bool :=
  lockout.lockedUntil.any fun lockedUntil => now < lockedUntil

/-- An attempt that is let through. -/
def settle (limit duration : Nat) (attempt : LockoutAttempt) (lockout : Lockout) : Lockout :=
  if attempt.right then {}
  else if limit ≤ lockout.failures + 1 then
    { failures := 0, lockedUntil := some (attempt.now + duration) }
  else { lockout with failures := lockout.failures + 1 }

/-- One attempt. -/
def attempt (limit duration : Nat) (attempt : LockoutAttempt) (lockout : Lockout) : Lockout :=
  if lockout.locked attempt.now then lockout else lockout.settle limit duration attempt

/-- The attempts that are let through. -/
def admitted (limit duration : Nat) : Lockout → List LockoutAttempt → List LockoutAttempt
  | _, [] => []
  | lockout, head :: later =>
      (if lockout.locked head.now then [] else [head]) ++
        admitted limit duration (lockout.attempt limit duration head) later

/-- The attempt falls into the stretch of time that starts then. -/
def during (start duration : Nat) (attempt : LockoutAttempt) : Bool :=
  start ≤ attempt.now && attempt.now < start + duration

variable {limit duration start : Nat} {lockout : Lockout} {attempts : List LockoutAttempt}

theorem mem_of_mem_admitted
    {attempt : LockoutAttempt}
    (admits : attempt ∈ admitted limit duration lockout attempts) :
    attempt ∈ attempts := by
  induction attempts generalizing lockout with
  | nil => exact admits
  | cons head later inductionHypothesis =>
      rcases List.mem_append.mp admits with first | others
      · split at first
        · cases first
        · rw [List.mem_singleton.mp first]
          exact List.mem_cons_self
      · exact List.mem_cons_of_mem _ (inductionHypothesis others)

/-- What is let through later is not counted. -/
theorem admitted_later
    (late : ∀ attempt ∈ attempts, start + duration ≤ attempt.now) :
    (admitted limit duration lockout attempts).filter (during start duration) = [] := by
  rw [List.filter_eq_nil_iff]
  intro attempt admits
  have isLate := late attempt (mem_of_mem_admitted admits)
  simp only [during, Bool.and_eq_true, decide_eq_true_eq]
  omega

/-- Within a lock nothing is let through. -/
theorem admitted_during_lock
    {lockedUntil : Nat}
    (sorted : attempts.Pairwise fun earlier later => earlier.now ≤ later.now)
    (locks : lockout.lockedUntil = some lockedUntil)
    (covers : start + duration ≤ lockedUntil) :
    (admitted limit duration lockout attempts).filter (during start duration) = [] := by
  induction attempts generalizing lockout with
  | nil => rfl
  | cons head later inductionHypothesis =>
      obtain ⟨first, rest⟩ := List.pairwise_cons.mp sorted
      by_cases within : head.now < lockedUntil
      · have refused : lockout.locked head.now = true := by simp [locked, locks, within]
        have kept : lockout.attempt limit duration head = lockout := if_pos refused
        rw [admitted, if_pos refused, kept, List.nil_append]
        exact inductionHypothesis rest locks
      · apply admitted_later
        intro attempt present
        rcases List.mem_cons.mp present with rfl | present
        · omega
        · have ordered := first attempt present
          omega

/-- From the start of the stretch on, the counter leaves room for the rest only. -/
theorem admitted_within
    (sorted : attempts.Pairwise fun earlier later => earlier.now ≤ later.now)
    (started : ∀ attempt ∈ attempts, start ≤ attempt.now)
    (fails : ∀ attempt ∈ (admitted limit duration lockout attempts).filter
      (during start duration), attempt.right = false) :
    ((admitted limit duration lockout attempts).filter (during start duration)).length ≤
      max 1 (limit - lockout.failures) := by
  induction attempts generalizing lockout with
  | nil => exact Nat.zero_le _
  | cons head later inductionHypothesis =>
      obtain ⟨first, rest⟩ := List.pairwise_cons.mp sorted
      have startedLater : ∀ attempt ∈ later, start ≤ attempt.now :=
        fun attempt present => started attempt (List.mem_cons_of_mem _ present)
      have headStarted := started head List.mem_cons_self
      by_cases refused : lockout.locked head.now = true
      · have kept : lockout.attempt limit duration head = lockout := if_pos refused
        rw [admitted, if_pos refused, kept, List.nil_append] at fails ⊢
        exact inductionHypothesis rest startedLater fails
      by_cases within : head.now < start + duration
      · have counted : during start duration head = true := by
          simp [during, headStarted, within]
        have settled : lockout.attempt limit duration head =
            lockout.settle limit duration head := if_neg refused
        rw [admitted, if_neg refused, settled, List.singleton_append,
          List.filter_cons_of_pos counted] at fails ⊢
        have wrong : head.right = false := fails head List.mem_cons_self
        have others := fun attempt present => fails attempt (List.mem_cons_of_mem _ present)
        rw [List.length_cons]
        by_cases full : limit ≤ lockout.failures + 1
        · have locks : (lockout.settle limit duration head).lockedUntil =
              some (head.now + duration) := by simp [settle, wrong, full]
          rw [admitted_during_lock rest locks (by omega), List.length_nil]
          omega
        · have next : (lockout.settle limit duration head).failures = lockout.failures + 1 := by
            simp [settle, wrong, full]
          have room := inductionHypothesis rest startedLater others
          rw [next] at room
          omega
      · rw [admitted_later]
        · exact Nat.zero_le _
        · intro attempt present
          rcases List.mem_cons.mp present with rfl | present
          · omega
          · have ordered := first attempt present
            omega

/-- In a stretch of time as long as a lock no more attempts fail than the limit. -/
theorem failures_le
    (positive : 1 ≤ limit)
    (sorted : attempts.Pairwise fun earlier later => earlier.now ≤ later.now)
    (fails : ∀ attempt ∈ (admitted limit duration lockout attempts).filter
      (during start duration), attempt.right = false) :
    ((admitted limit duration lockout attempts).filter (during start duration)).length ≤
      limit := by
  induction attempts generalizing lockout with
  | nil => exact Nat.zero_le _
  | cons head later inductionHypothesis =>
      obtain ⟨first, rest⟩ := List.pairwise_cons.mp sorted
      by_cases early : head.now < start
      · have uncounted :
            (if lockout.locked head.now then [] else [head]).filter (during start duration) =
              [] := by
          have before : during start duration head = false := by
            simp only [during, Bool.and_eq_false_iff, decide_eq_false_iff_not]
            omega
          split <;> simp [before]
        rw [admitted, List.filter_append, uncounted, List.nil_append] at fails ⊢
        exact inductionHypothesis rest fails
      · have started : ∀ attempt ∈ head :: later, start ≤ attempt.now := by
          intro attempt present
          rcases List.mem_cons.mp present with rfl | present
          · omega
          · have ordered := first attempt present
            omega
        have room := admitted_within sorted started fails
        omega

end Lockout
end ConferenceContact
