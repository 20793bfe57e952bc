import ConferenceContact.Foundation.Crews
import ConferenceContact.Outreach.DripHands

/-!
# Drips that overlap

A drip reads its batch, enqueues the invites and marks the rows in calls of their own.
A second drip, be it a retry or a manual one, that reads a row in between invites the
address again, and moves the row again.  As long as no drip reads a row that is in the
hands of another drip, or left pending with its invite enqueued, an address is invited once
and its row moves as it should, whatever is reported of it in between.
-/

namespace ConferenceContact

open Process ProspectCampaignService

/-! ## Reports -/

/-- A bounce or a complaint is reported of a row that was sent, if of any. -/
structure ProspectInviteQueue.Reported (before after : ProspectInviteQueue) : Prop
    extends before.Moves after where
  pending : before.status = .pending → after.status = .pending

/-- What a call of the webhook does. -/
structure Reports (before after : World) : Prop where
  outbox : after.outbox = before.outbox
  rows : ∃ rewrite, after.prospectInviteQueue = before.prospectInviteQueue.map rewrite ∧
    ∀ row : ProspectInviteQueue, row.Reported (rewrite row)

theorem reports_of_rows
    {before after : World}
    (outbox : after.outbox = before.outbox)
    (rows : after.prospectInviteQueue = before.prospectInviteQueue) :
    Reports before after := by
  refine ⟨outbox, id, ?_, fun row => ⟨.refl row, fun pending => pending⟩⟩
  rw [rows, List.map_id]

instance : Std.Refl Reports where
  refl _ := reports_of_rows rfl rfl

theorem reports_suppressAndUpdateStatus
    (app : Deployment)
    (rawEmail : String)
    {status : ProspectInviteQueueStatus}
    (reported : ProspectInviteQueueStatus.Moves .sent status) :
    (suppressAndUpdateStatus app rawEmail status).Respects Reports := by
  refine Respects.bind (Respects.command fun input world => ?_) fun _ =>
    Respects.command fun input world => ?_
  · split <;> exact reports_of_rows rfl rfl
  · refine ⟨rfl, _, rfl, fun row => ?_⟩
    dsimp only
    split
    · rename_i matched
      have sent := (of_decide_eq_true matched).2
      refine ⟨⟨rfl, rfl, ?_⟩, fun pending => ?_⟩
      · rw [sent]
        exact reported
      · rw [sent] at pending
        cases pending
    · exact ⟨.refl row, fun pending => pending⟩

theorem reports_handleResendWebhook (app : Deployment) (event : ResendWebhookEvent) :
    (ResendWebhookController.handleResendWebhook app event).Respects Reports := by
  unfold ResendWebhookController.handleResendWebhook
  split
  · cases event.type with
    | bounced => exact reports_suppressAndUpdateStatus app _ .bounce
    | complained => exact reports_suppressAndUpdateStatus app _ .complain
    | other => exact Respects.pure ()
  · exact Respects.pure ()

/-! ## Crews of drips and webhooks -/

namespace Campaign

/-- The drips and the webhooks in progress. -/
def machine : Machine (DripStage ⊕ Service Unit) Input ApiError World :=
  DripStage.machine.sum Process.machine

/-- Drips, be they scheduled, retried or manual, and webhooks that are about to start. -/
def crew
    (app : Deployment)
    (world : World)
    (drips : Nat)
    (events : List ResendWebhookEvent) : Crew (DripStage ⊕ Service Unit) World where
  state := world
  members :=
    List.replicate drips (.inl .settings) ++
      events.map fun event => .inr (ResendWebhookController.handleResendWebhook app event)

/-- The code that is left of a member. -/
def code : DripStage ⊕ Service Unit → Service Unit :=
  Sum.elim (fun stage => do let _ ← stage.code) id

/-- A crew reaches the same states as `runDailyDrip` and the webhooks themselves. -/
theorem run_code
    (crew : Crew (DripStage ⊕ Service Unit) World)
    (schedule : List (CrewTurn Input ApiError)) :
    Process.machine.run (Machine.Implements.crew code crew) schedule =
      Machine.Implements.crew code (machine.run crew schedule) :=
  (DripStage.implements.discard.sum Machine.implements_self).run crew schedule

/-- The addresses that a member has in hand. -/
def inHand : DripStage ⊕ Service Unit → List String
  | .inl stage => stage.inHand
  | .inr _ => []

/-- The invites to an address that a member may still enqueue. -/
def toOffer (email : String) : DripStage ⊕ Service Unit → Nat
  | .inl stage => stage.toOffer email
  | .inr _ => 0

/-- The rows that a drip reads in a turn, if it is that of its query for a batch. -/
def rowsRead
    (crew : Crew (DripStage ⊕ Service Unit) World)
    (turn : CrewTurn Input ApiError) : List ProspectInviteQueue :=
  match crew.members[turn.member]?, turn.rejected with
  | some (.inl (.find dailyCap)), none =>
      (pendingRows turn.input.tiedOrder crew.state).take dailyCap
  | _, _ => []

/-- No row that a drip reads is in the hands of a member, and for none has an invite been
enqueued since the start. -/
def FindsFree
    (start : World)
    (crew : Crew (DripStage ⊕ Service Unit) World)
    (turn : CrewTurn Input ApiError) : Prop :=
  ∀ row ∈ rowsRead crew turn,
    crew.state.invitesTo row.email ≤ start.invitesTo row.email ∧
      ∀ member ∈ crew.members, row.email ∉ inHand member

instance (start : World) : DecidableRel (FindsFree start) :=
  fun crew turn => inferInstanceAs (Decidable (∀ row ∈ rowsRead crew turn, _ ∧ _))

/-- No two members have an address in hand, what is in hand is pending, and no address is
invited twice. -/
structure Apart (start : World) (crew : Crew (DripStage ⊕ Service Unit) World) : Prop where
  keys : crew.state.prospectInviteQueue.map ProspectInviteQueue.key =
    start.prospectInviteQueue.map ProspectInviteQueue.key
  single : ∀ email,
    Machine.weightOf (fun member => ((inHand member).count email : Int)) crew.members ≤ 1
  invited : ∀ email, crew.state.invitesTo email +
    Machine.weightOf (fun member => (toOffer email member : Int)) crew.members ≤
      start.invitesTo email + 1
  pending : ∀ member ∈ crew.members, ∀ row ∈ crew.state.prospectInviteQueue,
    row.email ∈ inHand member → row.status = .pending
  fits : ∀ stage, .inl stage ∈ crew.members →
    stage.Fits (start.prospectInviteQueue.map ProspectInviteQueue.key)
  reports : ∀ service, .inr service ∈ crew.members → service.Respects Reports

section

variable {start : World} {crew : Crew (DripStage ⊕ Service Unit) World} {position : Nat}
  {member next : DripStage ⊕ Service Unit} {after : World}
  {rewrite : ProspectInviteQueue → ProspectInviteQueue}

/-- What is in the hands of one member is in those of no other. -/
theorem Apart.free_of_other
    (apart : Apart start crew)
    (chosen : crew.members[position]? = some member)
    {place : Nat}
    {other : DripStage ⊕ Service Unit}
    (found : crew.members[place]? = some other)
    (differs : position ≠ place)
    {email : String}
    (held : email ∈ inHand other) :
    email ∉ inHand member := by
  intro both
  have total := Machine.add_le_weightOf
    (fun member => Int.natCast_nonneg ((inHand member).count email)) chosen found differs
  have single := apart.single email
  have first := List.count_pos_iff.mpr both
  have second := List.count_pos_iff.mpr held
  omega

/-- One member has an address in hand once at most. -/
theorem Apart.count_le
    (apart : Apart start crew)
    (chosen : crew.members[position]? = some member)
    (email : String) :
    (inHand member).count email ≤ 1 := by
  have total := Machine.weight_le_weightOf
    (fun member => Int.natCast_nonneg ((inHand member).count email))
    (List.mem_of_getElem? chosen)
  have single := apart.single email
  omega

/-- A member that gains nothing leaves no more in hand. -/
theorem weightOf_set_le
    (weight : DripStage ⊕ Service Unit → Nat)
    (chosen : crew.members[position]? = some member)
    (lighter : weight next ≤ weight member) :
    Machine.weightOf (fun member => (weight member : Int)) (crew.members.set position next) ≤
      Machine.weightOf (fun member => (weight member : Int)) crew.members := by
  rw [Machine.weightOf_set _ chosen]
  omega

/-- A member moves on, and rewrites rows that it has in hand. -/
theorem Apart.set
    (apart : Apart start crew)
    (chosen : crew.members[position]? = some member)
    (rows : after.prospectInviteQueue = crew.state.prospectInviteQueue.map rewrite)
    (moves : ∀ row ∈ crew.state.prospectInviteQueue, row.Moves (rewrite row))
    (spares : ∀ row ∈ crew.state.prospectInviteQueue, row.email ∉ inHand member →
      row.status = .pending → (rewrite row).status = .pending)
    (kept : ∀ row ∈ crew.state.prospectInviteQueue, row.email ∈ inHand next →
      (rewrite row).status = .pending)
    (single : ∀ email, Machine.weightOf (fun member => ((inHand member).count email : Int))
      (crew.members.set position next) ≤ 1)
    (invited : ∀ email, after.invitesTo email +
      Machine.weightOf (fun member => (toOffer email member : Int))
        (crew.members.set position next) ≤ start.invitesTo email + 1)
    (fits : ∀ stage, next = .inl stage →
      stage.Fits (start.prospectInviteQueue.map ProspectInviteQueue.key))
    (reports : ∀ service, next = .inr service → service.Respects Reports) :
    Apart start { state := after, members := crew.members.set position next } := by
  refine ⟨?_, single, invited, ?_, ?_, ?_⟩
  · show after.prospectInviteQueue.map _ = _
    rw [rows, List.map_map, ← apart.keys]
    exact List.map_congr_left fun row present => (moves row present).key
  · intro other present changed stored held
    have stored : changed ∈ after.prospectInviteQueue := stored
    rw [rows] at stored
    obtain ⟨row, before, rfl⟩ := List.mem_map.mp stored
    rw [(moves row before).email] at held
    obtain ⟨place, found⟩ := List.mem_iff_getElem?.mp present
    have found : (crew.members.set position next)[place]? = some other := found
    rw [List.getElem?_set] at found
    split at found
    · split at found
      · cases found
        exact kept row before held
      · cases found
    · rename_i differs
      have free := apart.free_of_other chosen found differs held
      have pending := apart.pending other (List.mem_of_getElem? found) row before held
      exact spares row before free pending
  · intro stage present
    rcases List.mem_or_eq_of_mem_set present with old | new
    · exact apart.fits stage old
    · exact fits stage new.symm
  · intro service present
    rcases List.mem_or_eq_of_mem_set present with old | new
    · exact apart.reports service old
    · exact reports service new.symm

/-- A row is stored under its key for good. -/
theorem Apart.stored
    (apart : Apart start crew)
    {row : ProspectInviteQueue}
    (present : row ∈ crew.state.prospectInviteQueue) :
    row.key ∈ start.prospectInviteQueue.map ProspectInviteQueue.key := by
  rw [← apart.keys]
  exact List.mem_map_of_mem present

theorem mem_of_count_le
    {emails others : List String}
    {email : String}
    (fewer : emails.count email ≤ others.count email)
    (held : email ∈ emails) :
    email ∈ others :=
  List.count_pos_iff.mp (Nat.lt_of_lt_of_le (List.count_pos_iff.mpr held) fewer)

/-! ### Turns -/

theorem Apart.aborted
    (apart : Apart start crew)
    (chosen : crew.members[position]? = some member)
    (error : ApiError) :
    Apart start
      { crew with members := crew.members.set position (machine.abort member error) } := by
  have hands : ∀ email, (inHand (machine.abort member error)).count email ≤
      (inHand member).count email := by
    intro email
    cases member with
    | inl stage => exact DripStage.inHand_abort stage error email
    | inr service => exact Nat.le_refl _
  have offers : ∀ email, toOffer email (machine.abort member error) ≤ toOffer email member := by
    intro email
    cases member with
    | inl stage => exact DripStage.toOffer_abort stage error email
    | inr service => exact Nat.le_refl _
  have present := List.mem_of_getElem? chosen
  refine apart.set chosen (List.map_id _).symm (fun row _ => .refl row)
    (fun row _ _ pending => pending) ?_ ?_ ?_ ?_ ?_
  · intro row stored held
    exact apart.pending member present row stored (mem_of_count_le (hands _) held)
  · intro email
    have lighter := weightOf_set_le (fun member => (inHand member).count email) chosen
      (hands email)
    have single := apart.single email
    omega
  · intro email
    have lighter := weightOf_set_le (toOffer email) chosen (offers email)
    have invited := apart.invited email
    omega
  · rintro stage same
    cases member with
    | inl before =>
        cases same
        exact (apart.fits before present).abort error
    | inr service => cases same
  · rintro service same
    cases member with
    | inl before => cases same
    | inr before =>
        cases same
        exact (apart.reports before present).rejected error

theorem Apart.reported
    (apart : Apart start crew)
    {service : Service Unit}
    (chosen : crew.members[position]? = some (.inr service))
    (input : Input) :
    RowsMove crew.state (service.effect input crew.state) ∧
      Apart start
        { state := service.effect input crew.state
          members := crew.members.set position (.inr (service.residual input crew.state)) } := by
  have respects := apart.reports service (List.mem_of_getElem? chosen)
  obtain ⟨outbox, rewrite, rows, reported⟩ := respects.effect input crew.state
  have weightless : ∀ weight : DripStage ⊕ Service Unit → Nat,
      weight (.inr (service.residual input crew.state)) = weight (.inr service) →
      Machine.weightOf (fun member => (weight member : Int))
          (crew.members.set position (.inr (service.residual input crew.state))) ≤
        Machine.weightOf (fun member => (weight member : Int)) crew.members :=
    fun weight same => weightOf_set_le weight chosen same.le
  constructor
  · unfold RowsMove
    rw [rows, List.forall₂_map_right_iff, List.forall₂_same]
    exact fun row _ => (reported row).toMoves
  · refine apart.set chosen rows (fun row _ => (reported row).toMoves)
      (fun row _ _ pending => (reported row).pending pending) nofun ?_ ?_ nofun ?_
    · intro email
      exact (weightless (fun member => (inHand member).count email) rfl).trans
        (apart.single email)
    · intro email
      have lighter := weightless (toOffer email) rfl
      have invited := apart.invited email
      have same : (service.effect input crew.state).invitesTo email =
          crew.state.invitesTo email := by rw [World.invitesTo, outbox, World.invitesTo]
      omega
    · rintro _ ⟨⟩
      exact respects.residual input crew.state

/-- Every row moves as it should in a call of a drip. -/
theorem Apart.moves
    (distinct : ((start.prospectInviteQueue.map ProspectInviteQueue.key).map Prod.fst).Nodup)
    (apart : Apart start crew)
    {stage : DripStage}
    (chosen : crew.members[position]? = some (.inl stage))
    (input : Input) :
    ∀ row ∈ crew.state.prospectInviteQueue, row.Moves (stage.rewrites input row) := by
  intro row stored
  have present := List.mem_of_getElem? chosen
  exact DripStage.rewrites_moves distinct (apart.fits stage present) (apart.stored stored)
    (apart.pending _ present row stored)

theorem Apart.rowsMove
    (distinct : ((start.prospectInviteQueue.map ProspectInviteQueue.key).map Prod.fst).Nodup)
    (apart : Apart start crew)
    {stage : DripStage}
    (chosen : crew.members[position]? = some (.inl stage))
    (input : Input) :
    RowsMove crew.state (DripStage.machine.effect stage input crew.state) := by
  unfold RowsMove
  rw [DripStage.rows_effect, List.forall₂_map_right_iff, List.forall₂_same]
  exact apart.moves distinct chosen input

/-- A call of a drip that is not its query for a batch. -/
theorem Apart.acted
    (distinct : ((start.prospectInviteQueue.map ProspectInviteQueue.key).map Prod.fst).Nodup)
    (apart : Apart start crew)
    {stage : DripStage}
    (chosen : crew.members[position]? = some (.inl stage))
    (decides : ∀ dailyCap, stage ≠ .find dailyCap)
    (input : Input) :
    Apart start
      { state := DripStage.machine.effect stage input crew.state
        members := crew.members.set position
          (.inl (DripStage.machine.next stage input crew.state)) } := by
  have present := List.mem_of_getElem? chosen
  have fits := apart.fits stage present
  have hands := DripStage.inHand_next decides input crew.state
  refine apart.set chosen (DripStage.rows_effect stage input crew.state)
    (apart.moves distinct chosen input) ?_ ?_ ?_ ?_ ?_ nofun
  · intro row stored free pending
    rw [DripStage.rewrites_spares distinct fits (apart.stored stored) free]
    exact pending
  · intro row stored held
    have single := apart.count_le chosen row.email
    rw [DripStage.rewrites_kept distinct fits (apart.stored stored) single held]
    exact apart.pending _ present row stored (mem_of_count_le (hands _) held)
  · intro email
    have fewer : (inHand (.inl (DripStage.machine.next stage input crew.state))).count email ≤
        (inHand (.inl stage)).count email := hands email
    have lighter := weightOf_set_le (fun member => (inHand member).count email) chosen fewer
    have single := apart.single email
    omega
  · intro email
    have gained := DripStage.jobs_next decides input crew.state email
    have invited := apart.invited email
    rw [Machine.weightOf_set _ chosen]
    show _ + (_ - (stage.toOffer email : Int) +
      ((DripStage.machine.next stage input crew.state).toOffer email : Int)) ≤ _
    omega
  · rintro _ ⟨⟩
    rw [← apart.keys] at fits ⊢
    exact fits.next

/-- A drip has in hand the batch that it has found. -/
theorem inHand_found
    (dailyCap : Nat)
    (input : Input)
    (world : World)
    (email : String) :
    (DripStage.machine.next (.find dailyCap) input world).inHand =
        ((pendingRows input.tiedOrder world).take dailyCap).map (·.email) ∧
      (DripStage.machine.next (.find dailyCap) input world).toOffer email =
        (((pendingRows input.tiedOrder world).take dailyCap).map (·.email)).count email := by
  show (ite _ _ _ : DripStage).inHand = _ ∧ (ite _ _ _ : DripStage).toOffer email = _
  split
  · rename_i none
    rw [List.eq_nil_of_length_eq_zero none]
    exact ⟨rfl, rfl⟩
  · exact ⟨rfl, rfl⟩

/-- Nobody offers an invite to an address that is in nobody's hands. -/
theorem Apart.weightless
    (apart : Apart start crew)
    {email : String}
    (free : ∀ member ∈ crew.members, email ∉ inHand member) :
    Machine.weightOf (fun member => ((inHand member).count email : Int)) crew.members = 0 ∧
      Machine.weightOf (fun member => (toOffer email member : Int)) crew.members = 0 := by
  have none : ∀ member ∈ crew.members, (inHand member).count email = 0 :=
    fun member present => List.count_eq_zero.mpr (free member present)
  constructor
  · refine Machine.weightOf_eq_zero fun member present => ?_
    rw [none member present]
    rfl
  · refine Machine.weightOf_eq_zero fun member present => ?_
    cases member with
    | inr service => rfl
    | inl stage =>
        have fewer := (apart.fits stage present).toOffer_le email
        have held : stage.inHand.count email = 0 := none _ present
        show (stage.toOffer email : Int) = 0
        omega

/-- Rows that are found free are in nobody's hands, and have not been invited. -/
theorem Apart.read
    (emails : (start.prospectInviteQueue.map (·.email)).Nodup)
    (apart : Apart start crew)
    {dailyCap : Nat}
    (chosen : crew.members[position]? = some (.inl (.find dailyCap)))
    (input : Input)
    (free : FindsFree start crew { member := position, input }) :
    Apart start
      { state := crew.state
        members := crew.members.set position
          (.inl (DripStage.machine.next (.find dailyCap) input crew.state)) } := by
  have distinct : (crew.state.prospectInviteQueue.map (·.email)).Nodup := by
    have same := congrArg (List.map Prod.snd) apart.keys
    rw [List.map_map, List.map_map] at same
    exact same ▸ emails
  have nodup := DripStage.nodup_batch distinct input.tiedOrder dailyCap
  have free : ∀ row ∈ (pendingRows input.tiedOrder crew.state).take dailyCap,
      crew.state.invitesTo row.email ≤ start.invitesTo row.email ∧
        ∀ member ∈ crew.members, row.email ∉ inHand member := by
    simpa only [FindsFree, rowsRead, chosen] using free
  have hands : inHand (.inl (DripStage.machine.next (.find dailyCap) input crew.state)) =
      ((pendingRows input.tiedOrder crew.state).take dailyCap).map (·.email) :=
    (inHand_found dailyCap input crew.state "").1
  refine apart.set chosen (List.map_id _).symm (fun row _ => .refl row)
    (fun row _ _ pending => pending) ?_ ?_ ?_ ?_ nofun
  · intro row stored held
    rw [hands] at held
    obtain ⟨candidate, found, same⟩ := List.mem_map.mp held
    obtain ⟨present, pending⟩ := DripStage.mem_batch found
    rw [← List.inj_on_of_nodup_map distinct present stored same]
    exact pending
  · intro email
    rw [Machine.weightOf_set _ chosen, hands]
    show _ - ((0 : Nat) : Int) + _ ≤ _
    by_cases found : email ∈ ((pendingRows input.tiedOrder crew.state).take dailyCap).map (·.email)
    · obtain ⟨candidate, present, rfl⟩ := List.mem_map.mp found
      rw [(apart.weightless (free candidate present).2).1]
      have once := List.nodup_iff_count_le_one.mp nodup candidate.email
      omega
    · rw [List.count_eq_zero.mpr found]
      have single := apart.single email
      omega
  · intro email
    have offered : toOffer email (.inl (DripStage.machine.next (.find dailyCap) input crew.state)) =
        (((pendingRows input.tiedOrder crew.state).take dailyCap).map (·.email)).count email :=
      (inHand_found dailyCap input crew.state email).2
    rw [Machine.weightOf_set _ chosen, offered]
    show _ + (_ - ((0 : Nat) : Int) + _) ≤ _
    by_cases found : email ∈ ((pendingRows input.tiedOrder crew.state).take dailyCap).map (·.email)
    · obtain ⟨candidate, present, rfl⟩ := List.mem_map.mp found
      rw [(apart.weightless (free candidate present).2).2]
      have once := List.nodup_iff_count_le_one.mp nodup candidate.email
      have uninvited := (free candidate present).1
      omega
    · rw [List.count_eq_zero.mpr found]
      have invited := apart.invited email
      omega
  · rintro _ ⟨⟩
    have fits := apart.fits _ (List.mem_of_getElem? chosen)
    rw [← apart.keys] at fits ⊢
    exact fits.next

/-- A turn in which every row found is free moves the rows as it should, and keeps what is in
hand apart. -/
theorem Apart.step
    (ids : (start.prospectInviteQueue.map (·.id)).Nodup)
    (emails : (start.prospectInviteQueue.map (·.email)).Nodup)
    (apart : Apart start crew)
    {turn : CrewTurn Input ApiError}
    (free : FindsFree start crew turn) :
    RowsMove crew.state (machine.step crew turn).state ∧
      Apart start (machine.step crew turn) := by
  have distinct : ((start.prospectInviteQueue.map ProspectInviteQueue.key).map
      Prod.fst).Nodup := by
    rw [List.map_map]
    exact ids
  have stays : RowsMove crew.state crew.state :=
    List.forall₂_same.mpr fun row _ => .refl row
  rcases Machine.step_cases machine crew turn with
    ⟨-, same⟩ | ⟨member, chosen, ⟨taken, moved⟩ | ⟨error, -, moved⟩⟩
  · rw [same]
    exact ⟨stays, apart⟩
  · rw [moved]
    cases member with
    | inr service => exact apart.reported chosen turn.input
    | inl stage =>
        refine ⟨apart.rowsMove distinct chosen turn.input, ?_⟩
        by_cases finds : ∃ dailyCap, stage = .find dailyCap
        · obtain ⟨dailyCap, rfl⟩ := finds
          obtain ⟨position, input, rejected⟩ := turn
          obtain rfl : rejected = none := taken
          exact apart.read emails chosen input free
        · exact apart.acted distinct chosen (fun dailyCap same => finds ⟨dailyCap, same⟩)
            turn.input
  · rw [moved]
    exact ⟨stays, apart.aborted chosen error⟩

end

/-! ## Runs -/

theorem apart_crew
    (app : Deployment)
    (start : World)
    (drips : Nat)
    (events : List ResendWebhookEvent) :
    Apart start (crew app start drips events) := by
  have empty : ∀ member ∈ (crew app start drips events).members, inHand member = [] := by
    intro member present
    rcases List.mem_append.mp present with drip | webhook
    · rw [List.eq_of_mem_replicate drip]
      rfl
    · obtain ⟨event, -, rfl⟩ := List.mem_map.mp webhook
      rfl
  have fits : ∀ stage, .inl stage ∈ (crew app start drips events).members →
      stage.Fits (start.prospectInviteQueue.map ProspectInviteQueue.key) := by
    intro stage present
    rcases List.mem_append.mp present with drip | webhook
    · cases List.eq_of_mem_replicate drip
      trivial
    · obtain ⟨event, -, same⟩ := List.mem_map.mp webhook
      cases same
  refine ⟨rfl, fun email => ?_, fun email => ?_, ?_, fits, ?_⟩
  · rw [Machine.weightOf_eq_zero fun member present => by rw [empty member present]; rfl]
    decide
  · have weightless : Machine.weightOf (fun member => (toOffer email member : Int))
        (crew app start drips events).members = 0 := by
      refine Machine.weightOf_eq_zero fun member present => ?_
      cases member with
      | inr service => rfl
      | inl stage =>
          have fewer := (fits stage present).toOffer_le email
          have none : stage.inHand = [] := empty _ present
          rw [none, List.count_nil] at fewer
          exact Int.natCast_eq_zero.mpr (Nat.le_zero.mp fewer)
    rw [weightless]
    exact Int.le_add_one (Int.le_refl _)
  · intro member present row _ held
    rw [empty member present] at held
    cases held
  · intro service present
    rcases List.mem_append.mp present with drip | webhook
    · cases List.eq_of_mem_replicate drip
    · obtain ⟨event, -, same⟩ := List.mem_map.mp webhook
      cases same
      exact reports_handleResendWebhook app event

/-- As long as no drip reads a row that is in the hands of another one or was invited since
the start, every address is invited once at most, and rows move as they should. -/
theorem drips_invite_once
    (app : Deployment)
    (start : World)
    (ids : (start.prospectInviteQueue.map (·.id)).Nodup)
    (emails : (start.prospectInviteQueue.map (·.email)).Nodup)
    (drips : Nat)
    (events : List ResendWebhookEvent)
    (schedule : List (CrewTurn Input ApiError))
    (free : Along machine.step (FindsFree start) (crew app start drips events) schedule) :
    Along machine.step
      (fun crew turn =>
        RowsMove crew.state (machine.step crew turn).state ∧
          ∀ email, (machine.step crew turn).state.invitesTo email ≤
            start.invitesTo email + 1)
      (crew app start drips events) schedule := by
  refine Along.weaken (Apart start) ?_ ?_ (apart_crew app start drips events) free
  · intro crew turn apart free
    exact (apart.step ids emails free).2
  · intro crew turn apart free
    obtain ⟨moves, next⟩ := apart.step ids emails free
    refine ⟨moves, fun email => ?_⟩
    have invited := next.invited email
    have offers : 0 ≤ Machine.weightOf (fun member => (toOffer email member : Int))
        (machine.step crew turn).members :=
      Machine.weightOf_nonneg fun member _ => Int.natCast_nonneg _
    omega

/-- An address waits to be invited. -/
def waiting : World :=
  { prospectInviteQueue := [{ id := 8, email := "bob@example.com", createdAt := 0 }] }

/-- A report that the mail to one of them has bounced. -/
def bounced : ResendWebhookEvent :=
  { type := .bounced, recipients := ["bob@example.com"] }

/-- Turns of members, none of whose calls is rejected. -/
def turns (members : List Nat) : List (CrewTurn Input ApiError) :=
  members.map fun member => { member, input := { now := 0 } }

/-- Two addresses wait to be invited. -/
def waitingPair : World :=
  { prospectInviteQueue :=
      [{ id := 8, email := "bob@example.com", createdAt := 0 },
        { id := 9, email := "cyd@example.com", createdAt := 0 }] }

/-- Two drips that overlap, and a bounce of the first address that is handled while the
first drip marks the rows; the second drip reads them after that. -/
def overlapped : List (CrewTurn Input ApiError) :=
  turns ([1, 0, 0, 0, 0, 0, 2, 0, 2, 1, 0] ++ List.replicate 6 1)

/-- Both addresses are invited once, and the one that bounced stays so. -/
theorem drips_invite_once_overlapped :
    Along machine.step
      (fun crew turn =>
        RowsMove crew.state (machine.step crew turn).state ∧
          ∀ email, (machine.step crew turn).state.invitesTo email ≤
            waitingPair.invitesTo email + 1)
      (crew {} waitingPair 2 [bounced]) overlapped ∧
    (∀ email ∈ ["bob@example.com", "cyd@example.com"],
      (machine.run (crew {} waitingPair 2 [bounced]) overlapped).state.invitesTo email = 1) ∧
    (machine.run (crew {} waitingPair 2 [bounced]) overlapped).state.prospectInviteQueue.map
      (·.status) = [.bounced, .sent] :=
  ⟨drips_invite_once {} waitingPair (by decide) (by decide) 2 [bounced] overlapped
      (by decide +kernel),
    by decide +kernel, by decide +kernel⟩

/-- A drip whose update of the rows is rejected is retried: the address is invited twice.
Two drips that overlap invite it twice as well, and the second makes a bounced row a sent
one. -/
theorem overlapping_drips_invite_twice :
    (machine.run (crew {} waiting 2 [])
        (turns [0, 0, 0, 0, 0] ++
          [{ member := 0, input := { now := 0 }, rejected := some .database }] ++
          turns [1, 1, 1, 1, 1])).state.invitesTo "bob@example.com" = 2 ∧
      (machine.run (crew {} waiting 2 [bounced])
        (turns ([0, 0, 1, 1] ++ [0, 0, 0, 0] ++ [1, 1, 1] ++ [2, 2]))).state.invitesTo
          "bob@example.com" = 2 ∧
      ¬RowsMove
        (machine.run (crew {} waiting 2 [bounced])
          (turns ([0, 0, 1, 1] ++ [0, 0, 0, 0] ++ [1, 1, 1] ++ [2, 2]))).state
        (machine.run (crew {} waiting 2 [bounced])
          (turns ([0, 0, 1, 1] ++ [0, 0, 0, 0] ++ [1, 1, 1] ++ [2, 2] ++ [1]))).state := by
  refine ⟨by decide +kernel, by decide +kernel, fun moves => ?_⟩
  have before : (machine.run (crew {} waiting 2 [bounced])
      (turns ([0, 0, 1, 1] ++ [0, 0, 0, 0] ++ [1, 1, 1] ++ [2, 2]))).state.prospectInviteQueue.map
        (·.status) = [.bounced] := by decide +kernel
  have after : (machine.run (crew {} waiting 2 [bounced])
      (turns ([0, 0, 1, 1] ++ [0, 0, 0, 0] ++ [1, 1, 1] ++ [2, 2] ++
        [1]))).state.prospectInviteQueue.map (·.status) = [.sent] := by decide +kernel
  have statuses := moves.statuses
  rw [before, after] at statuses
  cases statuses with
  | cons first rest => cases first

end Campaign
end ConferenceContact
