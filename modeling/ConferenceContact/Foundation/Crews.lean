import ConferenceContact.Foundation.Machine
import Mathlib.Algebra.Order.BigOperators.Group.List
import Mathlib.Algebra.Ring.Int.Defs
import Mathlib.Data.List.Induction

/-!
# Reasoning about crews

What one turn does to a crew, and the rules that follow: an invariant of the
state with an assertion about every member, where the turn of one member must
not disturb the assertions of the others; and a potential, a function of the
state plus a weight of every member, that bounds the total of an amount over a
run.
-/

namespace ConferenceContact

/-! ## Totals over a run -/

/-- The total of an amount over the steps of a run. -/
def tally (step : σ → ι → σ) (amount : σ → ι → Int) : σ → List ι → Int
  | _, [] => 0
  | state, input :: later =>
      amount state input + tally step amount (step state input) later

theorem tally_zero (step : σ → ι → σ) (state : σ) (inputs : List ι) :
    tally step (fun _ _ => 0) state inputs = 0 := by
  induction inputs generalizing state with
  | nil => rfl
  | cons input later inductionHypothesis =>
      rw [tally, inductionHypothesis, Int.zero_add]

theorem tally_nonneg
    {step : σ → ι → σ}
    {amount : σ → ι → Int}
    (nonneg : ∀ state input, 0 ≤ amount state input)
    (state : σ)
    (inputs : List ι) :
    0 ≤ tally step amount state inputs := by
  induction inputs generalizing state with
  | nil => exact Int.le_refl 0
  | cons input later inductionHypothesis =>
      exact Int.add_nonneg (nonneg state input) (inductionHypothesis _)

/-- Where the total of a nonnegative amount is nothing, every step has none of it. -/
theorem along_of_tally
    {step : σ → ι → σ}
    {amount : σ → ι → Int}
    (nonneg : ∀ state input, 0 ≤ amount state input)
    {state : σ}
    {inputs : List ι}
    (nothing : tally step amount state inputs ≤ 0) :
    Along step (fun state input => amount state input = 0) state inputs := by
  induction inputs generalizing state with
  | nil => trivial
  | cons input later inductionHypothesis =>
      have first := nonneg state input
      have others : 0 ≤ tally step amount (step state input) later :=
        tally_nonneg nonneg _ later
      rw [tally] at nothing
      exact ⟨by omega, inductionHypothesis (by omega)⟩

/-- A level that covers what every step spends beyond its earnings covers the whole
run. -/
theorem tally_le
    {step : σ → ι → σ}
    {condition : σ → ι → Prop}
    {invariant : σ → Prop}
    (spent earned : σ → ι → Int)
    (level : σ → Int)
    (kept : ∀ state input, invariant state → condition state input →
      invariant (step state input))
    (pays : ∀ state input, invariant state → condition state input →
      level (step state input) + spent state input ≤ level state + earned state input)
    {state : σ}
    {inputs : List ι}
    (holds : invariant state)
    (along : Along step condition state inputs) :
    level (inputs.foldl step state) + tally step spent state inputs ≤
      level state + tally step earned state inputs := by
  induction inputs generalizing state with
  | nil => simp only [List.foldl_nil, tally, le_refl]
  | cons input later inductionHypothesis =>
      obtain ⟨met, rest⟩ := along
      have first := pays state input holds met
      have others := inductionHypothesis (kept state input holds met) rest
      simp only [List.foldl_cons, tally]
      omega

/-- What every step takes from a level that stays nonnegative is in all no more
than the level at the start. -/
theorem tally_le_level
    {step : σ → ι → σ}
    {condition : σ → ι → Prop}
    {invariant : σ → Prop}
    (spent : σ → ι → Int)
    (level : σ → Int)
    (kept : ∀ state input, invariant state → condition state input →
      invariant (step state input))
    (pays : ∀ state input, invariant state → condition state input →
      level (step state input) + spent state input ≤ level state)
    (nonneg : ∀ state, 0 ≤ level state)
    {state : σ}
    {inputs : List ι}
    (holds : invariant state)
    (along : Along step condition state inputs) :
    tally step spent state inputs ≤ level state := by
  induction inputs generalizing state with
  | nil => exact nonneg state
  | cons input later inductionHypothesis =>
      obtain ⟨met, rest⟩ := along
      have first := pays state input holds met
      have others := inductionHypothesis (kept state input holds met) rest
      simp only [tally]
      omega

/-- An allowance that covers a state, and covers what is reached once a step has spent its
part of it, covers what the whole run spends. -/
theorem tally_le_allowance
    {step : σ → ι → σ}
    {condition : σ → ι → Prop}
    (spent : σ → ι → Int)
    (covers : Int → σ → Prop)
    (nonneg : ∀ allowance state, covers allowance state → 0 ≤ allowance)
    (pays : ∀ allowance state input, covers allowance state → condition state input →
      covers (allowance - spent state input) (step state input))
    {allowance : Int}
    {state : σ}
    {inputs : List ι}
    (covered : covers allowance state)
    (along : Along step condition state inputs) :
    tally step spent state inputs ≤ allowance := by
  induction inputs generalizing allowance state with
  | nil => exact nonneg allowance state covered
  | cons input later inductionHypothesis =>
      obtain ⟨met, rest⟩ := along
      have others := inductionHypothesis (pays allowance state input covered met) rest
      simp only [tally]
      omega

/-- A level that moves by what every step earns and spends accounts for the whole
run. -/
theorem tally_eq
    {step : σ → ι → σ}
    {condition : σ → ι → Prop}
    {invariant : σ → Prop}
    (spent earned : σ → ι → Int)
    (level : σ → Int)
    (kept : ∀ state input, invariant state → condition state input →
      invariant (step state input))
    (balances : ∀ state input, invariant state → condition state input →
      level (step state input) + spent state input = level state + earned state input)
    {state : σ}
    {inputs : List ι}
    (holds : invariant state)
    (along : Along step condition state inputs) :
    level (inputs.foldl step state) + tally step spent state inputs =
      level state + tally step earned state inputs := by
  have atMost := tally_le spent earned level kept
    (fun state input holds met => (balances state input holds met).le) holds along
  have atLeast := tally_le earned spent (fun state => - level state) kept
    (fun state input holds met => by have := balances state input holds met; omega) holds along
  omega

namespace Machine

variable {κ ι ε σ : Type} {machine : Machine κ ι ε σ}

/-! ## One turn -/

/-- A turn does nothing, or one member moves on, or its call is rejected. -/
theorem step_cases
    (machine : Machine κ ι ε σ)
    (crew : Crew κ σ)
    (turn : CrewTurn ι ε) :
    crew.members[turn.member]? = none ∧ machine.step crew turn = crew ∨
    ∃ member, crew.members[turn.member]? = some member ∧
      (turn.rejected = none ∧
          machine.step crew turn =
            { state := machine.effect member turn.input crew.state
              members := crew.members.set turn.member
                (machine.next member turn.input crew.state) } ∨
        ∃ error, turn.rejected = some error ∧
          machine.step crew turn =
            { crew with
              members := crew.members.set turn.member (machine.abort member error) }) := by
  cases chosen : crew.members[turn.member]? with
  | none => exact .inl ⟨rfl, by simp only [step, chosen]⟩
  | some member =>
      refine .inr ⟨member, rfl, ?_⟩
      cases outcome : turn.rejected with
      | none => exact .inl ⟨rfl, by simp only [step, chosen, outcome]⟩
      | some error => exact .inr ⟨error, rfl, by simp only [step, chosen, outcome]⟩

/-- An invariant of the state and an assertion about every member survive a turn
that keeps the invariant, the assertion of the member that moves, and the
assertions of the others. -/
theorem step_preserves
    (invariant : σ → Prop)
    (assertion : κ → σ → Prop)
    {crew : Crew κ σ}
    {turn : CrewTurn ι ε}
    (holds : invariant crew.state)
    (asserted : ∀ member ∈ crew.members, assertion member crew.state)
    (acts : ∀ member, crew.members[turn.member]? = some member → turn.rejected = none →
      invariant (machine.effect member turn.input crew.state) ∧
        assertion (machine.next member turn.input crew.state)
          (machine.effect member turn.input crew.state))
    (aborts : ∀ member error, crew.members[turn.member]? = some member →
      turn.rejected = some error → assertion (machine.abort member error) crew.state)
    (stable : ∀ member other, crew.members[turn.member]? = some member →
      turn.rejected = none → other ∈ crew.members →
      assertion other (machine.effect member turn.input crew.state)) :
    invariant (machine.step crew turn).state ∧
      ∀ member ∈ (machine.step crew turn).members,
        assertion member (machine.step crew turn).state := by
  rcases step_cases machine crew turn with
    ⟨-, same⟩ | ⟨member, chosen, ⟨taken, after⟩ | ⟨error, rejected, after⟩⟩
  · rw [same]
    exact ⟨holds, asserted⟩
  · rw [after]
    obtain ⟨kept, moved⟩ := acts member chosen taken
    refine ⟨kept, fun other present => ?_⟩
    rcases List.mem_or_eq_of_mem_set present with old | rfl
    · exact stable member other chosen taken old
    · exact moved
  · rw [after]
    refine ⟨holds, fun other present => ?_⟩
    rcases List.mem_or_eq_of_mem_set present with old | rfl
    · exact asserted other old
    · exact aborts member error chosen rejected

/-- The rule for an assertion that does not look at the state. -/
theorem step_keeps
    (invariant : σ → Prop)
    {assertion : κ → Prop}
    (acts : ∀ member input state, assertion member → invariant state →
      invariant (machine.effect member input state) ∧
        assertion (machine.next member input state))
    (aborts : ∀ member error, assertion member → assertion (machine.abort member error))
    {crew : Crew κ σ}
    (holds : invariant crew.state)
    (asserted : ∀ member ∈ crew.members, assertion member)
    (turn : CrewTurn ι ε) :
    invariant (machine.step crew turn).state ∧
      ∀ member ∈ (machine.step crew turn).members, assertion member := by
  refine step_preserves invariant (fun member _ => assertion member) holds asserted ?_ ?_ ?_
  · intro member chosen _
    exact acts member _ _ (asserted member (List.mem_of_getElem? chosen)) holds
  · intro member error chosen _
    exact aborts member error (asserted member (List.mem_of_getElem? chosen))
  · intro _ other _ _ present
    exact asserted other present

/-- The rule for a whole run whose calls are rejected with certain errors only, where an
assertion about one member is undisturbed by the moves of the others. -/
theorem run_preserves
    (invariant : σ → Prop)
    (assertion : κ → σ → Prop)
    {rejections : ε → Prop}
    (acts : ∀ member input state, invariant state → assertion member state →
      invariant (machine.effect member input state) ∧
        assertion (machine.next member input state) (machine.effect member input state))
    (aborts : ∀ member error state, invariant state → assertion member state →
      rejections error → assertion (machine.abort member error) state)
    (stable : ∀ member other input state, invariant state → assertion member state →
      assertion other state → assertion other (machine.effect member input state))
    {crew : Crew κ σ}
    (holds : invariant crew.state)
    (asserted : ∀ member ∈ crew.members, assertion member crew.state)
    {schedule : List (CrewTurn ι ε)}
    (allowed : ∀ turn ∈ schedule, ∀ error, turn.rejected = some error → rejections error) :
    invariant (machine.run crew schedule).state ∧
      ∀ member ∈ (machine.run crew schedule).members,
        assertion member (machine.run crew schedule).state := by
  induction schedule generalizing crew with
  | nil => exact ⟨holds, asserted⟩
  | cons turn schedule inductionHypothesis =>
      have moved : invariant (machine.step crew turn).state ∧
          ∀ member ∈ (machine.step crew turn).members,
            assertion member (machine.step crew turn).state := by
        refine step_preserves invariant assertion holds asserted ?_ ?_ ?_
        · intro member chosen _
          exact acts member _ _ holds (asserted member (List.mem_of_getElem? chosen))
        · intro member error chosen rejected
          exact aborts member error _ holds (asserted member (List.mem_of_getElem? chosen))
            (allowed turn List.mem_cons_self error rejected)
        · intro member other chosen _ present
          exact stable member other _ _ holds (asserted member (List.mem_of_getElem? chosen))
            (asserted other present)
      refine inductionHypothesis moved.1 moved.2 ?_
      exact fun other present => allowed other (List.mem_cons_of_mem _ present)

/-! ## Progress -/

/-- Where every move and every rejection brings a member nearer to its end, a member
has come as far as it has had turns. -/
theorem left_le
    {left : κ → Nat}
    (moves : ∀ member input state, left (machine.next member input state) ≤ left member - 1)
    (aborts : ∀ member error, left (machine.abort member error) ≤ left member - 1)
    {most : Nat}
    {crew : Crew κ σ}
    (starts : ∀ member ∈ crew.members, left member ≤ most)
    (schedule : List (CrewTurn ι ε))
    {position : Nat}
    {member : κ}
    (reached : (machine.run crew schedule).members[position]? = some member) :
    left member ≤ most - schedule.countP fun turn => turn.member = position := by
  induction schedule using List.reverseRecOn generalizing member with
  | nil => exact starts member (List.mem_of_getElem? reached)
  | append_singleton schedule turn inductionHypothesis =>
      rw [List.countP_append, List.countP_singleton]
      unfold run at reached inductionHypothesis
      rw [List.foldl_append, List.foldl_cons, List.foldl_nil] at reached
      rcases step_cases machine (schedule.foldl machine.step crew) turn with
        ⟨absent, same⟩ | ⟨mover, chosen, moved⟩
      · rw [same] at reached
        have other : turn.member ≠ position := by
          rintro rfl
          rw [absent] at reached
          exact Option.some_ne_none _ reached.symm
        have before := inductionHypothesis reached
        simp only [other, decide_false, Bool.false_eq_true, if_false]
        omega
      · obtain ⟨after, nearer, members⟩ : ∃ after, left after ≤ left mover - 1 ∧
            (machine.step (schedule.foldl machine.step crew) turn).members =
              (schedule.foldl machine.step crew).members.set turn.member after := by
          rcases moved with ⟨-, moved⟩ | ⟨error, -, moved⟩
          · exact ⟨_, moves mover _ _, by rw [moved]⟩
          · exact ⟨_, aborts mover error, by rw [moved]⟩
        rw [members, List.getElem?_set] at reached
        by_cases same : turn.member = position
        · have before := inductionHypothesis (same ▸ chosen)
          have inside : position < (schedule.foldl machine.step crew).members.length :=
            (List.getElem?_eq_some_iff.mp (same ▸ chosen)).1
          simp only [same, if_true, inside] at reached
          cases reached
          simp only [same, decide_true, if_true]
          omega
        · simp only [same, if_false] at reached
          have before := inductionHypothesis reached
          simp only [same, decide_false, Bool.false_eq_true, if_false]
          omega

/-! ## Weights -/

/-- The total weight of the members. -/
def weightOf (weight : κ → Int) (members : List κ) : Int :=
  (members.map weight).sum

theorem weightOf_nonneg
    {weight : κ → Int}
    {members : List κ}
    (nonneg : ∀ member ∈ members, 0 ≤ weight member) :
    0 ≤ weightOf weight members := by
  refine List.sum_nonneg fun value present => ?_
  obtain ⟨member, inMembers, rfl⟩ := List.mem_map.mp present
  exact nonneg member inMembers

theorem weightOf_eq_zero
    {weight : κ → Int}
    {members : List κ}
    (weightless : ∀ member ∈ members, weight member = 0) :
    weightOf weight members = 0 := by
  refine List.sum_eq_zero fun value present => ?_
  obtain ⟨member, inMembers, rfl⟩ := List.mem_map.mp present
  exact weightless member inMembers

/-- Replacing one member changes the total by the difference of their weights. -/
theorem weightOf_set
    (weight : κ → Int)
    {members : List κ}
    {position : Nat}
    {old : κ}
    (chosen : members[position]? = some old)
    (new : κ) :
    weightOf weight (members.set position new) =
      weightOf weight members - weight old + weight new := by
  unfold weightOf
  induction members generalizing position with
  | nil => cases chosen
  | cons head members inductionHypothesis =>
      cases position with
      | zero =>
          cases chosen
          simp only [List.set_cons_zero, List.map_cons, List.sum_cons]
          omega
      | succ position =>
          rw [List.set_cons_succ, List.map_cons, List.sum_cons,
            inductionHypothesis chosen, List.map_cons, List.sum_cons]
          omega

/-- Where every member of a kind weighs one and the others nothing, the weight is their
number. -/
theorem weightOf_indicator (kind : κ → Bool) (members : List κ) :
    weightOf (fun member => if kind member then 1 else 0) members = members.countP kind := by
  unfold weightOf
  induction members with
  | nil => rfl
  | cons member members inductionHypothesis =>
      rw [List.map_cons, List.sum_cons, inductionHypothesis, List.countP_cons]
      cases kind member <;> simp [Int.add_comm]

theorem weightOf_cons (weight : κ → Int) (member : κ) (members : List κ) :
    weightOf weight (member :: members) = weight member + weightOf weight members := rfl

/-- One member weighs no more than all. -/
theorem weight_le_weightOf
    {weight : κ → Int}
    {members : List κ}
    (nonneg : ∀ member, 0 ≤ weight member)
    {member : κ}
    (present : member ∈ members) :
    weight member ≤ weightOf weight members := by
  induction members with
  | nil => cases present
  | cons head members inductionHypothesis =>
      have others : 0 ≤ weightOf weight members := weightOf_nonneg fun other _ => nonneg other
      have first := nonneg head
      rw [weightOf_cons]
      rcases List.mem_cons.mp present with rfl | inMembers
      · omega
      · have rest := inductionHypothesis inMembers
        omega

/-- Two members at different positions weigh no more than all. -/
theorem add_le_weightOf
    {weight : κ → Int}
    {members : List κ}
    (nonneg : ∀ member, 0 ≤ weight member)
    {first second : Nat}
    {left right : κ}
    (chosen : members[first]? = some left)
    (found : members[second]? = some right)
    (apart : first ≠ second) :
    weight left + weight right ≤ weightOf weight members := by
  induction members generalizing first second with
  | nil => cases chosen
  | cons head members inductionHypothesis =>
      rw [weightOf_cons]
      cases first with
      | zero =>
          cases chosen
          cases second with
          | zero => exact absurd rfl apart
          | succ second =>
              have inRest : members[second]? = some right := found
              have rest := weight_le_weightOf nonneg (List.mem_of_getElem? inRest)
              omega
      | succ first =>
          cases second with
          | zero =>
              cases found
              have inRest : members[first]? = some left := chosen
              have rest := weight_le_weightOf nonneg (List.mem_of_getElem? inRest)
              omega
          | succ second =>
              have rest := inductionHypothesis chosen found fun same => apart (congrArg _ same)
              have first := nonneg head
              omega

end Machine
end ConferenceContact
