import Mathlib.Data.List.Basic

/-!
# Rationing a supply

Requests are taken in order while a supply lasts.  One that succeeds uses up a
unit of the supply, one that fails uses up nothing, and the requests that find
the supply used up are left out.
-/

namespace ConferenceContact

/-- What becomes of requests of which it is known whether they would succeed: each
succeeds or fails when it is taken, and is `none` when it is left out. -/
def ration : Nat → List Bool → List (Option Bool)
  | _, [] => []
  | 0, _ :: rest => none :: ration 0 rest
  | supply + 1, true :: rest => some true :: ration supply rest
  | supply + 1, false :: rest => some false :: ration (supply + 1) rest

@[simp] theorem ration_nil (supply : Nat) : ration supply [] = [] := by
  cases supply <;> rfl

/-- Once the supply is used up, every request is left out. -/
theorem ration_zero (requests : List Bool) :
    ration 0 requests = List.replicate requests.length none := by
  induction requests with
  | nil => rfl
  | cons request rest inductionHypothesis =>
      rw [ration, inductionHypothesis, List.length_cons, List.replicate_succ]

@[simp] theorem length_ration (supply : Nat) (requests : List Bool) :
    (ration supply requests).length = requests.length := by
  induction requests generalizing supply with
  | nil => simp
  | cons request rest inductionHypothesis =>
      cases supply with
      | zero => simp [ration, inductionHypothesis]
      | succ supply => cases request <;> simp [ration, inductionHypothesis]

/-- As many requests succeed as would succeed, up to the supply. -/
theorem count_ration (supply : Nat) (requests : List Bool) :
    (ration supply requests).count (some true) = min supply (requests.count true) := by
  induction requests generalizing supply with
  | nil => simp
  | cons request rest inductionHypothesis =>
      cases supply with
      | zero => simp [ration, inductionHypothesis]
      | succ supply =>
          cases request with
          | true =>
              rw [ration, List.count_cons_self, List.count_cons_self, inductionHypothesis]
              omega
          | false => simp [ration, inductionHypothesis]

/-- A request is taken exactly when fewer requests than the supply have succeeded
before it. -/
theorem getElem?_ration (supply : Nat) (requests : List Bool) (position : Nat) :
    (ration supply requests)[position]? =
      requests[position]?.map fun request =>
        if ((ration supply requests).take position).count (some true) < supply then
          some request
        else none := by
  induction requests generalizing supply position with
  | nil => simp
  | cons request rest inductionHypothesis =>
      cases position with
      | zero => cases supply <;> cases request <;> simp [ration]
      | succ position =>
          cases supply with
          | zero => simp [ration, inductionHypothesis]
          | succ supply => cases request <;> simp [ration, inductionHypothesis]

end ConferenceContact
