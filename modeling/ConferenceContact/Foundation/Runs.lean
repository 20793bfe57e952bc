import Mathlib.Data.List.Basic

/-!
# Conditions along a run

A run is the fold of a step function over its inputs, the first one first.  A
condition on the state before a step and on the input of that step holds along
a run when every step of the run meets it.
-/

namespace ConferenceContact

/-- Every step of the run from `state` meets a condition on the state before
the step and on its input. -/
def Along (step : σ → ι → σ) (condition : σ → ι → Prop) : σ → List ι → Prop
  | _, [] => True
  | state, input :: later =>
      condition state input ∧ Along step condition (step state input) later

namespace Along

/-- A condition that can be decided step by step can be decided along a run. -/
instance decidable
    {step : σ → ι → σ}
    {condition : σ → ι → Prop}
    [∀ state input, Decidable (condition state input)]
    (state : σ)
    (inputs : List ι) :
    Decidable (Along step condition state inputs) :=
  match inputs with
  | [] => inferInstanceAs (Decidable True)
  | input :: later =>
      match decidable (step state input) later with
      | isTrue rest =>
          if met : condition state input then isTrue ⟨met, rest⟩
          else isFalse fun along => met along.1
      | isFalse stops => isFalse fun along => stops along.2

variable {step : σ → ι → σ} {condition : σ → ι → Prop}

/-- What a step that meets the condition preserves, a run does. -/
theorem preserves
    {invariant : σ → Prop}
    (kept : ∀ state input, invariant state → condition state input →
      invariant (step state input))
    {state : σ}
    {inputs : List ι}
    (holds : invariant state)
    (along : Along step condition state inputs) :
    invariant (inputs.foldl step state) := by
  induction inputs generalizing state with
  | nil => exact holds
  | cons input later inductionHypothesis =>
      obtain ⟨met, rest⟩ := along
      exact inductionHypothesis (kept state input holds met) rest

/-- A weaker condition, where the states reached satisfy an invariant. -/
theorem weaken
    (invariant : σ → Prop)
    {weaker : σ → ι → Prop}
    (kept : ∀ state input, invariant state → condition state input →
      invariant (step state input))
    (implies : ∀ state input, invariant state → condition state input →
      weaker state input)
    {state : σ}
    {inputs : List ι}
    (holds : invariant state)
    (along : Along step condition state inputs) :
    Along step weaker state inputs := by
  induction inputs generalizing state with
  | nil => trivial
  | cons input later inductionHypothesis =>
      obtain ⟨met, rest⟩ := along
      exact ⟨implies state input holds met,
        inductionHypothesis (kept state input holds met) rest⟩

/-- A condition that holds of every input of a run holds along it. -/
theorem of_forall
    {state : σ}
    {inputs : List ι}
    (met : ∀ input ∈ inputs, ∀ state, condition state input) :
    Along step condition state inputs := by
  induction inputs generalizing state with
  | nil => trivial
  | cons input later inductionHypothesis =>
      refine ⟨met input List.mem_cons_self state, inductionHypothesis ?_⟩
      intro other present
      exact met other (List.mem_cons_of_mem _ present)

/-- A run is a first part and the run of the rest from where that part ends. -/
theorem append_iff
    {state : σ}
    {earlier later : List ι} :
    Along step condition state (earlier ++ later) ↔
      Along step condition state earlier ∧
        Along step condition (earlier.foldl step state) later := by
  induction earlier generalizing state with
  | nil => simp only [List.nil_append, Along, true_and, List.foldl_nil]
  | cons input earlier inductionHypothesis =>
      rw [List.cons_append, Along, Along, List.foldl_cons, inductionHypothesis, and_assoc]

/-- Where a step from a state of a property leads to one exactly if it meets the
condition, all states of a run have the property exactly if all its steps meet it. -/
theorem iff_prefixes
    {invariant property : σ → Prop}
    {inputs : List ι}
    (kept : ∀ state, ∀ input ∈ inputs, invariant state → invariant (step state input))
    (decides : ∀ state, ∀ input ∈ inputs, invariant state → property state →
      (property (step state input) ↔ condition state input))
    {state : σ}
    (holds : invariant state)
    (first : property state) :
    (∀ reached, reached <+: inputs → property (reached.foldl step state)) ↔
      Along step condition state inputs := by
  induction inputs generalizing state with
  | nil =>
      refine iff_of_true ?_ trivial
      intro reached isPrefix
      rw [List.prefix_nil.mp isPrefix]
      exact first
  | cons input later inductionHypothesis =>
      have decided := decides state input List.mem_cons_self holds first
      have next := kept state input List.mem_cons_self holds
      have inductionHypothesis := inductionHypothesis
        (fun state other present => kept state other (List.mem_cons_of_mem _ present))
        (fun state other present => decides state other (List.mem_cons_of_mem _ present)) next
      constructor
      · intro all
        have second : property (step state input) :=
          all [input] (List.prefix_append [input] later)
        refine ⟨decided.mp second, (inductionHypothesis second).mp ?_⟩
        intro reached isPrefix
        exact all (input :: reached) (List.cons_prefix_cons.mpr ⟨rfl, isPrefix⟩)
      · rintro ⟨met, rest⟩ reached isPrefix
        rcases List.prefix_cons_iff.mp isPrefix with rfl | ⟨others, rfl, shorter⟩
        · exact first
        · exact (inductionHypothesis (decided.mpr met)).mpr rest others shorter

/-- Where a step from a state of a property leads out of it exactly if it breaks the
condition, the property is never lost exactly if every step meets the condition
while the property holds. -/
theorem absorbing_iff
    {invariant property : σ → Prop}
    (kept : ∀ state input, invariant state → invariant (step state input))
    (decides : ∀ state input, invariant state → property state →
      (property (step state input) ↔ condition state input))
    {state : σ}
    (invariantHolds : invariant state)
    {inputs : List ι} :
    (∀ earlier later, earlier ++ later <+: inputs → property (earlier.foldl step state) →
        property ((earlier ++ later).foldl step state)) ↔
      Along step (fun state input => property state → condition state input) state inputs := by
  induction inputs generalizing state with
  | nil =>
      refine iff_of_true ?_ trivial
      intro earlier later isPrefix holds
      obtain ⟨rfl, rfl⟩ := List.append_eq_nil_iff.mp (List.prefix_nil.mp isPrefix)
      exact holds
  | cons input rest inductionHypothesis =>
      have decided := decides state input invariantHolds
      rw [Along, ← inductionHypothesis (kept state input invariantHolds)]
      constructor
      · intro absorbing
        refine ⟨fun holds => (decided holds).mp ?_, ?_⟩
        · exact absorbing [] [input] (List.prefix_append [input] rest) holds
        · intro earlier later isPrefix holds
          exact absorbing (input :: earlier) later (List.cons_prefix_cons.mpr ⟨rfl, isPrefix⟩)
            holds
      · rintro ⟨first, others⟩ earlier later isPrefix holds
        cases earlier with
        | cons head earlier =>
            obtain ⟨rfl, shorter⟩ := List.cons_prefix_cons.mp isPrefix
            exact others earlier later shorter holds
        | nil =>
            cases later with
            | nil => exact holds
            | cons head later =>
                obtain ⟨rfl, shorter⟩ := List.cons_prefix_cons.mp isPrefix
                exact others [] later shorter ((decided holds).mpr (first holds))

theorem and
    {other : σ → ι → Prop}
    {state : σ}
    {inputs : List ι}
    (first : Along step condition state inputs)
    (second : Along step other state inputs) :
    Along step (fun state input => condition state input ∧ other state input)
      state inputs := by
  induction inputs generalizing state with
  | nil => trivial
  | cons input later inductionHypothesis =>
      exact ⟨⟨first.1, second.1⟩, inductionHypothesis first.2 second.2⟩

end Along
end ConferenceContact
