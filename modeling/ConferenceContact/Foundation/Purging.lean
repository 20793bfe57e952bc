import ConferenceContact.Foundation.Runs

/-!
# Runs from which inputs are left out

Two runs of one step function start from related states, and the second leaves
some inputs of the first out.  They stay related when a step on an input that is
kept takes related states to related states, and a step on one that is left out
leaves its state related to that of the run that does not make it.
-/

namespace ConferenceContact
namespace Along

variable
  {step : σ → ι → σ}
  {kept : ι → Bool}
  {condition : σ → ι → Prop}
  {related : σ → σ → Prop}

/-- Every prefix of a run, and what is left of it, are related. -/
theorem related_filter
    (keeps : ∀ full part input, related full part → condition full input → kept input = true →
      related (step full input) (step part input))
    (drops : ∀ full part input, related full part → condition full input → kept input = false →
      related (step full input) part)
    {full part : σ}
    {inputs : List ι}
    (start : related full part)
    (along : Along step condition full inputs) :
    related (inputs.foldl step full) ((inputs.filter kept).foldl step part) := by
  induction inputs generalizing full part with
  | nil => exact start
  | cons input later inductionHypothesis =>
      obtain ⟨met, rest⟩ := along
      cases chosen : kept input with
      | true =>
          rw [List.filter_cons_of_pos chosen]
          exact inductionHypothesis (keeps full part input start met chosen) rest
      | false =>
          rw [List.filter_cons_of_neg (by rw [chosen]; exact Bool.false_ne_true)]
          exact inductionHypothesis (drops full part input start met chosen) rest

end Along
end ConferenceContact
