import ConferenceContact.Foundation.Machine

/-!
# Senders

A sender offers jobs to a queue, which takes them or refuses them, and marks the
recipients for whom it has offered a job.  It is honest if it marks a recipient
only with a job that the queue has taken, and leaves those alone whose job was
refused.  Where every update marks all recipients it is made for, the calls that
are not honest are the updates for a recipient whose job was refused and who is
not marked yet.  In a run in which nothing else happens, these are all the updates
that go through for a recipient whose job was refused.
-/

namespace ConferenceContact

/-- A machine that offers jobs `τ` and marks recipients `ρ`. -/
structure Sender (κ ι ε σ τ ρ : Type) where
  machine : Machine κ ι ε σ
  /-- The jobs that a call offers. -/
  offers : κ → List τ
  /-- Whether the queue takes what is offered. -/
  accepts : ι → Bool
  /-- A job is for a recipient. -/
  isFor : ρ → τ → Bool
  /-- A call marks a recipient, if there is a record of him that can be updated. -/
  updates : κ → ρ → Bool
  isStored : ρ → σ → Bool
  isMarked : ρ → σ → Bool
  /-- The next run will find the recipient. -/
  isEligible : ρ → σ → Bool

/-- An execution of a sender, and what the queue has made of its jobs. -/
structure SenderRun (κ σ τ : Type) where
  state : σ
  point : κ
  accepted : List τ := []
  refused : List τ := []

/-- The sender makes its next call, which may be rejected, or something else changes the
state. -/
inductive SenderEvent (ι ε σ : Type)
  | call (input : ι) (rejected : Option ε)
  | beside (change : σ → σ)

/-- A call of the sender. -/
def SenderEvent.IsCall {ι ε σ : Type} : SenderEvent ι ε σ → Prop
  | .call _ _ => True
  | .beside _ => False

namespace Sender

variable {κ ι ε σ τ ρ α : Type} (sender : Sender κ ι ε σ τ ρ)

/-- A run after one event more. -/
def step (run : SenderRun κ σ τ) : SenderEvent ι ε σ → SenderRun κ σ τ
  | .call input none =>
      { state := sender.machine.effect run.point input run.state
        point := sender.machine.next run.point input run.state
        accepted :=
          if sender.accepts input then sender.offers run.point ++ run.accepted else run.accepted
        refused :=
          if sender.accepts input then run.refused else sender.offers run.point ++ run.refused }
  | .call _ (some error) =>
      { run with
        point := sender.machine.abort run.point error
        refused := sender.offers run.point ++ run.refused }
  | .beside change => { run with state := change run.state }

/-- The calls of a sender are those of the code that its machine implements. -/
theorem code_step
    {code : κ → Process ι ε σ α}
    (implements : sender.machine.Implements code)
    (run : SenderRun κ σ τ)
    (input : ι)
    (rejected : Option ε) :
    Process.machine.step ⟨run.state, [code run.point]⟩ ⟨0, input, rejected⟩ =
      ⟨(sender.step run (.call input rejected)).state,
        [code (sender.step run (.call input rejected)).point]⟩ := by
  cases rejected with
  | none =>
      dsimp only [Machine.step, Process.machine, List.getElem?_cons_zero]
      rw [implements.effect, implements.next]
      rfl
  | some error =>
      dsimp only [Machine.step, Process.machine, List.getElem?_cons_zero]
      rw [implements.abort]
      rfl

/-- The queue has refused a job for a recipient. -/
def Refuses (run : SenderRun κ σ τ) (recipient : ρ) : Prop :=
  ∃ job ∈ run.refused, sender.isFor recipient job = true

/-- The queue has taken a job for a recipient. -/
def Accepts (run : SenderRun κ σ τ) (recipient : ρ) : Prop :=
  ∃ job ∈ run.accepted, sender.isFor recipient job = true

/-- From one state to another, recipients are marked whose jobs were accepted only, and
those whose jobs were refused stay as they are. -/
structure HonestTo (run : SenderRun κ σ τ) (after : σ) : Prop where
  marks : ∀ recipient, sender.isMarked recipient run.state = false →
    sender.isMarked recipient after = true → sender.Accepts run recipient
  unmarked : ∀ recipient, sender.Refuses run recipient →
    sender.isMarked recipient run.state = false → sender.isMarked recipient after = false
  eligible : ∀ recipient, sender.Refuses run recipient →
    sender.isEligible recipient run.state = true → sender.isEligible recipient after = true

/-- A call is honest. -/
def Honest (run : SenderRun κ σ τ) : SenderEvent ι ε σ → Prop
  | .call input rejected => sender.HonestTo run (sender.step run (.call input rejected)).state
  | .beside _ => True

/-- No update is made for a recipient whose job was refused, unless the mark is there
already or there is nothing to be marked. -/
def Delivers (run : SenderRun κ σ τ) : SenderEvent ι ε σ → Prop
  | .call _ none =>
      ∀ recipient, sender.updates run.point recipient = true → sender.Refuses run recipient →
        sender.isStored recipient run.state = true → sender.isMarked recipient run.state = true
  | _ => True

/-- Where a job was refused, the update for its recipient is rejected. -/
def Heeds (run : SenderRun κ σ τ) : SenderEvent ι ε σ → Prop
  | .call _ none =>
      ∀ recipient, sender.updates run.point recipient = true → ¬sender.Refuses run recipient
  | _ => True

/-- What the calls of a sender keep, by which every update is made for recipients that are
there and not marked. -/
structure KeepsDue (due : κ → σ → Prop) : Prop where
  moves : ∀ point input state, due point state →
    due (sender.machine.next point input state) (sender.machine.effect point input state)
  aborts : ∀ point error state, due point state → due (sender.machine.abort point error) state
  updates : ∀ point state recipient, due point state → sender.updates point recipient = true →
    sender.isStored recipient state = true ∧ sender.isMarked recipient state = false

/-- The queue takes or refuses what a call offers. -/
structure Disposes (point : κ) (accepted refused accepted' refused' : List τ) : Prop where
  all : ∀ job ∈ accepted ++ refused ++ sender.offers point, job ∈ accepted' ++ refused'
  idle : sender.offers point = [] → refused' = refused

/-- What the calls of a sender do, in the terms of the jobs offered so far. -/
structure Lawful (accounts : List τ → List τ → κ → Prop) : Prop where
  moves : ∀ {accepted refused accepted' refused' point} input state,
    accounts accepted refused point →
    sender.Disposes point accepted refused accepted' refused' →
      accounts accepted' refused' (sender.machine.next point input state)
  aborts : ∀ {accepted refused accepted' refused' point} error,
    accounts accepted refused point →
    sender.Disposes point accepted refused accepted' refused' →
      accounts accepted' refused' (sender.machine.abort point error)
  /-- An update is made for recipients for whom a job was offered. -/
  offered : ∀ {accepted refused point recipient}, accounts accepted refused point →
    sender.updates point recipient = true →
      ∃ job ∈ accepted ++ refused, sender.isFor recipient job = true
  /-- It marks all of them, and no other call marks anybody. -/
  marks : ∀ {accepted refused point recipient} input state, accounts accepted refused point →
    sender.isMarked recipient state = false →
      sender.isMarked recipient (sender.machine.effect point input state) =
        (sender.updates point recipient && sender.isStored recipient state)
  /-- No other call touches a recipient whose job was refused. -/
  spares : ∀ {accepted refused point recipient} input state, accounts accepted refused point →
    (∃ job ∈ refused, sender.isFor recipient job = true) →
    (sender.updates point recipient && sender.isStored recipient state) = false →
    sender.isEligible recipient state = true →
      sender.isEligible recipient (sender.machine.effect point input state) = true
  unmarked : ∀ recipient state, sender.isEligible recipient state = true →
    sender.isMarked recipient state = false

variable {sender} {accounts : List τ → List τ → κ → Prop}

theorem disposes_refused (point : κ) (accepted refused : List τ) :
    sender.Disposes point accepted refused accepted (sender.offers point ++ refused) where
  all job present := by
    simp only [List.mem_append] at present ⊢
    tauto
  idle none := by rw [none, List.nil_append]

theorem disposes_accepted (point : κ) (accepted refused : List τ) :
    sender.Disposes point accepted refused (sender.offers point ++ accepted) refused where
  all job present := by
    simp only [List.mem_append] at present ⊢
    tauto
  idle _ := rfl

namespace Lawful

/-- The account is kept. -/
theorem kept
    (lawful : sender.Lawful accounts)
    (run : SenderRun κ σ τ)
    (event : SenderEvent ι ε σ)
    (holds : accounts run.accepted run.refused run.point) :
    accounts (sender.step run event).accepted (sender.step run event).refused
      (sender.step run event).point := by
  match event with
  | .beside change => exact holds
  | .call input (some error) => exact lawful.aborts error holds (disposes_refused _ _ _)
  | .call input none =>
      refine lawful.moves input run.state holds ?_
      dsimp only [step]
      split
      · exact disposes_accepted _ _ _
      · exact disposes_refused _ _ _

/-- A call is honest exactly if it makes no update for a recipient whose job was refused
and who is not marked. -/
theorem honest_iff
    (lawful : sender.Lawful accounts)
    (run : SenderRun κ σ τ)
    (event : SenderEvent ι ε σ)
    (holds : accounts run.accepted run.refused run.point) :
    sender.Honest run event ↔ sender.Delivers run event := by
  match event with
  | .beside change => exact Iff.rfl
  | .call input (some error) =>
      refine iff_of_true ⟨fun recipient before after => ?_, fun _ _ same => same,
        fun _ _ same => same⟩ trivial
      exact absurd (before.symm.trans after) Bool.false_ne_true
  | .call input none =>
      constructor
      · intro honest recipient updates refuses stored
        by_contra marked
        have before := eq_false_of_ne_true marked
        have after := honest.unmarked recipient refuses before
        rw [step, lawful.marks input run.state holds before, updates, stored] at after
        cases after
      · intro delivers
        -- Whoever is marked by the call had a job that was not refused.
        have newly (recipient : ρ)
            (before : sender.isMarked recipient run.state = false)
            (after : sender.isMarked recipient
              (sender.machine.effect run.point input run.state) = true) :
            sender.updates run.point recipient = true ∧ ¬sender.Refuses run recipient := by
          rw [lawful.marks input run.state holds before, Bool.and_eq_true] at after
          refine ⟨after.1, fun refuses => ?_⟩
          rw [delivers recipient after.1 refuses after.2] at before
          cases before
        refine ⟨fun recipient before after => ?_, fun recipient refuses before => ?_,
          fun recipient refuses eligible => ?_⟩
        · obtain ⟨updates, unrefused⟩ := newly recipient before after
          obtain ⟨job, offered, same⟩ := lawful.offered holds updates
          rcases List.mem_append.mp offered with accepted | refused
          · exact ⟨job, accepted, same⟩
          · exact absurd ⟨job, refused, same⟩ unrefused
        · refine eq_false_of_ne_true fun after => ?_
          exact (newly recipient before after).2 refuses
        · refine lawful.spares input run.state holds refuses ?_ eligible
          refine eq_false_of_ne_true fun marks => ?_
          rw [Bool.and_eq_true] at marks
          have marked := delivers recipient marks.1 refuses marks.2
          rw [lawful.unmarked recipient run.state eligible] at marked
          cases marked

/-- A run is honest throughout exactly if no update in it is for a recipient whose job
was refused and who is not marked. -/
theorem along_honest_iff
    (lawful : sender.Lawful accounts)
    {run : SenderRun κ σ τ}
    (holds : accounts run.accepted run.refused run.point)
    (events : List (SenderEvent ι ε σ)) :
    Along sender.step sender.Honest run events ↔ Along sender.step sender.Delivers run events :=
  ⟨Along.weaken (fun run => accounts run.accepted run.refused run.point)
      (fun run event holds _ => lawful.kept run event holds)
      (fun run event holds => (lawful.honest_iff run event holds).mp) holds,
    Along.weaken (fun run => accounts run.accepted run.refused run.point)
      (fun run event holds _ => lawful.kept run event holds)
      (fun run event holds => (lawful.honest_iff run event holds).mpr) holds⟩

end Lawful

section

variable {due : κ → σ → Prop} {run : SenderRun κ σ τ} {events : List (SenderEvent ι ε σ)}

theorem KeepsDue.step
    (keeps : sender.KeepsDue due)
    {event : SenderEvent ι ε σ}
    (isCall : event.IsCall)
    (isDue : due run.point run.state) :
    due (sender.step run event).point (sender.step run event).state := by
  match event with
  | .beside change => exact isCall.elim
  | .call input none => exact keeps.moves run.point input run.state isDue
  | .call input (some error) => exact keeps.aborts run.point error run.state isDue

/-- Where every update is made for recipients that are there and not marked, it is all the
same whether one for a refused job does not go through or has no effect. -/
theorem KeepsDue.delivers_iff
    (keeps : sender.KeepsDue due)
    (isDue : due run.point run.state)
    (event : SenderEvent ι ε σ) : sender.Delivers run event ↔ sender.Heeds run event := by
  match event with
  | .beside change => exact Iff.rfl
  | .call input (some error) => exact Iff.rfl
  | .call input none =>
      refine forall_congr' fun recipient => ?_
      constructor
      · intro delivers updates refuses
        obtain ⟨stored, unmarked⟩ := keeps.updates run.point run.state recipient isDue updates
        rw [delivers updates refuses stored] at unmarked
        cases unmarked
      · exact fun heeds updates refuses _ => absurd refuses (heeds updates)

/-- A run in which nothing else happens is honest throughout exactly if no update goes
through for a recipient whose job was refused. -/
theorem Lawful.undisturbed_honest_iff
    (lawful : sender.Lawful accounts)
    (keeps : sender.KeepsDue due)
    (holds : accounts run.accepted run.refused run.point)
    (isDue : due run.point run.state)
    (undisturbed : ∀ event ∈ events, event.IsCall) :
    Along sender.step sender.Honest run events ↔ Along sender.step sender.Heeds run events := by
  have calls : Along sender.step (fun _ event => event.IsCall) run events :=
    .of_forall fun event present _ => undisturbed event present
  have kept : ∀ (run : SenderRun κ σ τ) (event : SenderEvent ι ε σ),
      due run.point run.state → event.IsCall →
        due (sender.step run event).point (sender.step run event).state :=
    fun _ _ isDue isCall => keeps.step isCall isDue
  rw [lawful.along_honest_iff holds events]
  constructor
  · intro delivers
    exact Along.weaken (fun run => due run.point run.state)
      (fun run event isDue met => kept run event isDue met.2)
      (fun run event isDue met => (keeps.delivers_iff isDue event).mp met.1) isDue
      (delivers.and calls)
  · intro heeds
    exact Along.weaken (fun run => due run.point run.state)
      (fun run event isDue met => kept run event isDue met.2)
      (fun run event isDue met => (keeps.delivers_iff isDue event).mpr met.1) isDue
      (heeds.and calls)

end

end Sender
end ConferenceContact
