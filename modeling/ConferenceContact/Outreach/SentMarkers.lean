import ConferenceContact.Foundation.Senders
import ConferenceContact.Outreach.DailyDrip
import ConferenceContact.Outreach.DripStages
import ConferenceContact.Outreach.Reminders

/-!
# Markers and jobs

A drip marks rows as sent, and a scan for renewals marks subscriptions as reminded of,
after they have offered the jobs to the queue.  `EmailService` does not tell them what
the queue has made of the jobs, so that both mark where the queue has refused a job.
-/

namespace ConferenceContact

open Process ProspectCampaignService RenewalReminderService

/-! ## The drip -/

/-- The row of an address in the outreach queue. -/
def World.inviteRow (world : World) (email : String) : Option ProspectInviteQueue :=
  world.prospectInviteQueue.find? fun row => row.email = email

/-- The drip marks the rows of addresses. -/
def drip : Sender DripStage Input ApiError World EmailJob String where
  machine := DripStage.machine
  offers
    | .enqueue _ _ chunk _ => chunk
    | _ => []
  accepts input := input.queueAvailable
  isFor email job := job = .prospectColdInvite email
  updates
    | .mark _ decisions, email => email ∈ decisions.toSend
    | _, _ => false
  isStored email world := (world.inviteRow email).isSome
  isMarked email world := (world.inviteRow email).any fun row => row.status = .sent
  isEligible email world := (world.inviteRow email).any fun row => row.status = .pending

namespace DripStage

/-- A job was offered or is still to be offered for every address to be marked. -/
def Offered
    (accepted refused : List EmailJob)
    (decisions : Decisions)
    (left : List EmailJob) : Prop :=
  ∀ email ∈ decisions.toSend, .prospectColdInvite email ∈ accepted ++ refused ++ left

/-- What has become of the jobs that a drip has offered. -/
def Accounts (accepted refused : List EmailJob) : DripStage → Prop
  | settings | find _ | users _ | suppressions _ _ => refused = []
  | skip _ _ _ _ status _ _ => refused = [] ∧ status ≠ .sent
  | enqueue _ decisions chunk rest => Offered accepted refused decisions (chunk ++ rest.flatten)
  | mark _ decisions => Offered accepted refused decisions []
  | record _ _ | finished _ => True

variable {accepted refused : List EmailJob} {size : Nat} {existing suppressed : List String}
  {decisions : Decisions}

theorem accounts_offer
    {chunks : List (List EmailJob)}
    (offered : Offered accepted refused decisions chunks.flatten) :
    (offer size decisions chunks).Accounts accepted refused := by
  cases chunks <;> exact offered

/-- Before the first chunk is offered, no job was refused. -/
theorem accounts_loop (rest : List ProspectInviteQueue) :
    (loop size existing suppressed rest decisions).Accounts accepted [] := by
  induction rest generalizing decisions with
  | nil =>
      rw [loop, decided]
      split
      · refine accounts_offer fun email listed => List.mem_append_right _ ?_
        rw [flatten_slices (by decide)]
        exact List.mem_map_of_mem listed
      · trivial
  | cons candidate rest inductionHypothesis =>
      rw [loop]
      split
      · exact ⟨rfl, by simp⟩
      · split
        · exact ⟨rfl, by simp⟩
        · exact inductionHypothesis

theorem inviteRow_effect
    (stage : DripStage)
    (input : Input)
    (world : World)
    (email : String) :
    (machine.effect stage input world).inviteRow email =
      (world.inviteRow email).map (stage.rewrites input) := by
  unfold World.inviteRow
  rw [rows_effect, List.find?_map]
  congr 2
  funext row
  exact congrArg (decide <| · = email) (email_rewrites stage input row)

end DripStage

theorem accounts_moves
    {accepted refused accepted' refused' : List EmailJob}
    {stage : DripStage}
    (input : Input)
    (world : World)
    (holds : stage.Accounts accepted refused)
    (disposes : drip.Disposes stage accepted refused accepted' refused') :
    (DripStage.machine.next stage input world).Accounts accepted' refused' := by
  cases stage with
  | settings =>
      show DripStage.Accounts accepted' refused' (ite _ _ _)
      split
      · trivial
      · exact (disposes.idle rfl).trans holds
  | find dailyCap =>
      show DripStage.Accounts accepted' refused' (ite _ _ _)
      split
      · trivial
      · exact (disposes.idle rfl).trans holds
  | users batch => exact (disposes.idle rfl).trans holds
  | suppressions batch existing =>
      obtain rfl : refused' = [] := (disposes.idle rfl).trans holds
      exact DripStage.accounts_loop batch
  | skip size existing suppressed candidate status rest decisions =>
      obtain rfl : refused' = [] := (disposes.idle rfl).trans holds.1
      show DripStage.Accounts accepted' [] (ite _ _ _)
      split
      · exact DripStage.accounts_loop rest
      · trivial
  | enqueue size decisions chunk rest =>
      refine DripStage.accounts_offer fun email listed => ?_
      have offered := holds email listed
      rw [← List.append_assoc] at offered
      rcases List.mem_append.mp offered with earlier | later
      · exact List.mem_append_left _ (disposes.all _ earlier)
      · exact List.mem_append_right _ later
  | mark size decisions => trivial
  | record size decisions => trivial
  | finished outcome => trivial

/-- A drip marks every row whose job it has offered, and skips rows before that. -/
theorem drip_lawful : drip.Lawful DripStage.Accounts where
  moves := accounts_moves
  aborts {accepted refused accepted' refused' stage} error holds disposes := by
    cases stage with
    | enqueue size decisions chunk rest => exact accounts_moves { now := 0 } {} holds disposes
    | _ => trivial
  offered {accepted refused stage email} holds updates := by
    cases stage with
    | mark size decisions =>
        have offered := holds email (of_decide_eq_true updates)
        rw [List.append_nil] at offered
        exact ⟨_, offered, decide_eq_true rfl⟩
    | _ => cases updates
  marks {accepted refused stage email} input world holds before := by
    dsimp only [drip] at before ⊢
    rw [DripStage.inviteRow_effect]
    cases found : world.inviteRow email with
    | none => exact (Bool.and_false _).symm
    | some row =>
        have same : row.email = email := by simpa using List.find?_some found
        rw [found, Option.any_some, decide_eq_false_iff_not] at before
        rw [Option.map_some, Option.any_some, Option.isSome_some, Bool.and_true]
        cases stage with
        | skip size existing suppressed candidate status rest decisions =>
            refine decide_eq_false ?_
            dsimp only [DripStage.rewrites]
            split
            · exact holds.2
            · exact before
        | mark size decisions =>
            by_cases listed : email ∈ decisions.toSend
            · simp [DripStage.rewrites, same, listed]
            · simp [DripStage.rewrites, same, listed, before]
        | _ => exact decide_eq_false before
  spares {accepted refused stage email} input world holds refuses unmarked eligible := by
    obtain ⟨job, refusal, -⟩ := refuses
    dsimp only [drip] at unmarked eligible ⊢
    rw [DripStage.inviteRow_effect]
    cases found : world.inviteRow email with
    | none =>
        rw [found] at eligible
        cases eligible
    | some row =>
        have same : row.email = email := by simpa using List.find?_some found
        rw [found] at unmarked eligible
        cases stage with
        | skip size existing suppressed candidate status rest decisions =>
            rw [holds.1] at refusal
            cases refusal
        | mark size decisions =>
            have other : ¬row.email ∈ decisions.toSend := by simpa [same] using unmarked
            rw [Option.map_some, DripStage.rewrites, if_neg other]
            exact eligible
        | _ => exact eligible
  unmarked email world eligible := by
    dsimp only [drip] at eligible ⊢
    cases found : world.inviteRow email with
    | none => rfl
    | some row =>
        rw [found, Option.any_some, decide_eq_true_eq] at eligible
        rw [Option.any_some, eligible]
        rfl

/-! ## The scan for renewals -/

/-- A scan marks the renewals of subscriptions. -/
def scan : Sender ReminderStage Input ApiError World (Product × Reminder) Renewal where
  machine := ReminderStage.machine
  offers
    | .enqueue _ product reminder _ _ => [(product, reminder)]
    | _ => []
  accepts input := input.queueAvailable
  isFor renewal job := renewal.about job
  updates
    | .mark _ product reminder _ _, renewal => renewal.about (product, reminder)
    | _, _ => false
  isStored renewal world :=
    (renewal.row world).any fun row => !conflicts (world.rows renewal.product) row
  isMarked renewal world := renewal.marker world = some renewal.periodEnd
  isEligible renewal world :=
    (renewal.row world).any fun row =>
      (row.status = .active || row.status = .trialing) && !row.cancelAtPeriodEnd &&
        decide (row.currentPeriodEnd = renewal.periodEnd) &&
        decide (row.renewalReminderSentForPeriodEnd ≠ some renewal.periodEnd)

/-- A job was offered for the subscription that is to be marked. -/
def ReminderStage.Accounts (accepted refused : List (Product × Reminder)) : ReminderStage → Prop
  | mark _ product reminder _ _ => (product, reminder) ∈ accepted ++ refused
  | _ => True

theorem ReminderStage.accounts_loop
    {accepted refused : List (Product × Reminder)}
    {now : Time}
    {product : Product}
    {rest : List Reminder}
    {sent : Nat} :
    (loop now product rest sent).Accounts accepted refused := by
  induction rest generalizing sent with
  | nil => cases product <;> trivial
  | cons reminder rest inductionHypothesis =>
      rw [loop]
      split
      · exact inductionHypothesis
      · trivial

/-- A subscription is marked for a renewal where its row can be updated. -/
theorem marks_iff
    {renewal : Renewal}
    {product : Product}
    {reminder : Reminder}
    (about : renewal.about (product, reminder) = true)
    (world : World) :
    ReminderStage.marks product reminder world =
      (renewal.row world).any fun row => !conflicts (world.rows renewal.product) row := by
  unfold Renewal.about Renewal.concerns at about
  simp only [Bool.and_eq_true, decide_eq_true_eq] at about
  obtain ⟨⟨rfl, same⟩, -⟩ := about
  unfold ReminderStage.marks rewriteRow Renewal.row
  rw [same]
  cases (world.rows renewal.product).find? fun row => row.id = renewal.id with
  | none => rfl
  | some row =>
      have same : conflicts (world.rows renewal.product)
            { row with
              renewalReminderSentForPeriodEnd := some reminder.subscription.currentPeriodEnd } =
          conflicts (world.rows renewal.product) row := rfl
      dsimp only [Option.any_some]
      rw [same]
      cases conflicts (world.rows renewal.product) row <;> rfl

/-- A marking for another renewal of a subscription does not mark it for this one. -/
theorem ne_of_concerns
    {renewal : Renewal}
    {product : Product}
    {reminder : Reminder}
    (other : renewal.about (product, reminder) = false)
    (concerned : renewal.concerns (product, reminder) = true) :
    reminder.subscription.currentPeriodEnd ≠ renewal.periodEnd := by
  unfold Renewal.about at other
  rw [concerned, Bool.true_and] at other
  exact of_decide_eq_false other

/-- A marking is for the renewals that it is about and whose rows can be updated. -/
theorem marker_marked_iff
    {renewal : Renewal}
    {world : World}
    (before : renewal.marker world ≠ some renewal.periodEnd)
    (product : Product)
    (reminder : Reminder) :
    renewal.marker (ReminderStage.marked product reminder world) = some renewal.periodEnd ↔
      renewal.about (product, reminder) = true ∧
        ReminderStage.marks product reminder world = true := by
  cases marks : ReminderStage.marks product reminder world with
  | false =>
      obtain ⟨marked, -⟩ | ⟨-, same⟩ := Renewal.marked_cases product reminder world
      · rw [marks] at marked
        cases marked
      · rw [same]
        exact iff_of_false before fun both => Bool.false_ne_true both.2
  | true =>
      rw [Renewal.marker_marked marks, and_iff_left rfl]
      cases about : renewal.about (product, reminder) with
      | true =>
          unfold Renewal.about at about
          rw [Bool.and_eq_true, decide_eq_true_eq] at about
          rw [if_pos about.1, about.2]
          exact iff_of_true rfl rfl
      | false =>
          refine iff_of_false ?_ Bool.false_ne_true
          split
          · rename_i concerned
            exact fun same => ne_of_concerns about concerned (Option.some.inj same)
          · exact before

/-- A call that is not an update leaves the subscriptions alone. -/
theorem row_effect
    {stage : ReminderStage}
    (quiet : stage.marking = none)
    (input : Input)
    (world : World)
    (renewal : Renewal) :
    renewal.row (ReminderStage.machine.effect stage input world) = renewal.row world := by
  unfold Renewal.row
  cases stage with
  | mark now product reminder rest sent => cases quiet
  | enqueue now product reminder rest sent =>
      show List.find? _ ((ite (input.queueAvailable = true) _ world : World).rows _) = _
      split
      · rw [Renewal.rows_offered]
      · rfl
  | _ => rfl

theorem scan_lawful : scan.Lawful ReminderStage.Accounts where
  moves {accepted refused accepted' refused' stage} input world holds disposes := by
    cases stage with
    | enqueue now product reminder rest sent =>
        exact disposes.all _ (List.mem_append_right _ List.mem_cons_self)
    | find now product sent => exact ReminderStage.accounts_loop
    | mark now product reminder rest sent => exact ReminderStage.accounts_loop
    | _ => trivial
  aborts {accepted refused accepted' refused' stage} error holds disposes := by
    cases stage with
    | enqueue now product reminder rest sent =>
        exact disposes.all _ (List.mem_append_right _ List.mem_cons_self)
    | mark now product reminder rest sent => exact ReminderStage.accounts_loop
    | _ => trivial
  offered {accepted refused stage renewal} holds updates := by
    cases stage with
    | mark now product reminder rest sent => exact ⟨_, holds, updates⟩
    | _ => cases updates
  marks {accepted refused stage renewal} input world holds before := by
    have unmarked : renewal.marker world ≠ some renewal.periodEnd := of_decide_eq_false before
    cases stage with
    | mark now product reminder rest sent =>
        refine Bool.eq_iff_iff.mpr ((decide_eq_true_iff.trans
          (marker_marked_iff unmarked product reminder)).trans ?_)
        rw [Bool.and_eq_true]
        exact and_congr_right fun about => by rw [marks_iff about]; rfl
    | _ =>
        refine decide_eq_false ?_
        dsimp only [scan]
        unfold Renewal.marker at unmarked ⊢
        rw [row_effect rfl]
        exact unmarked
  spares {accepted refused stage renewal} input world holds refuses unmarked eligible := by
    dsimp only [scan] at unmarked eligible ⊢
    cases stage with
    | mark now product reminder rest sent =>
        show Option.any _ (renewal.row (ReminderStage.marked product reminder world)) = _
        cases marks : ReminderStage.marks product reminder world with
        | false =>
            obtain ⟨marked, -⟩ | ⟨-, same⟩ := Renewal.marked_cases product reminder world
            · rw [marks] at marked
              cases marked
            · rw [same]
              exact eligible
        | true =>
            have other : renewal.about (product, reminder) = false := by
              cases about : renewal.about (product, reminder) with
              | false => rfl
              | true =>
                  dsimp only at unmarked
                  rw [about, ← marks_iff about, marks] at unmarked
                  cases unmarked
            rw [Renewal.row_marked marks]
            cases found : renewal.row world with
            | none =>
                rw [found] at eligible
                cases eligible
            | some row =>
                rw [found] at eligible
                rw [Option.map_some]
                split
                · rename_i concerned
                  have apart := ne_of_concerns other concerned
                  simp only [Option.any_some, Bool.and_eq_true] at eligible ⊢
                  exact ⟨eligible.1, by simpa using apart⟩
                · exact eligible
    | _ =>
        rw [row_effect rfl]
        exact eligible
  unmarked renewal world eligible := by
    dsimp only [scan] at eligible ⊢
    unfold Renewal.marker
    cases found : renewal.row world with
    | none => rfl
    | some row =>
        rw [found, Option.any_some, Bool.and_eq_true, decide_eq_true_eq] at eligible
        exact decide_eq_false eligible.2

/-! ## Undisturbed runs -/

namespace DripStage

/-- The rows that are still to be decided are there and pending, and so are those of the
addresses to be written to; and no address is among them twice. -/
structure Undecided
    (world : World)
    (toSend : List String)
    (rest : List ProspectInviteQueue) : Prop where
  distinct : (toSend ++ rest.map (·.email)).Nodup
  stored : ∀ row ∈ rest, row ∈ world.prospectInviteQueue ∧ row.status = .pending
  waiting : ∀ email ∈ toSend, ∃ row ∈ world.prospectInviteQueue,
    row.email = email ∧ row.status = .pending

/-- The addresses that a drip is to mark wait for it, if nothing else happens. -/
def Due (world : World) : DripStage → Prop
  | users batch | suppressions batch _ => Undecided world [] batch
  | skip _ _ _ candidate _ rest decisions => Undecided world decisions.toSend (candidate :: rest)
  | enqueue _ decisions _ _ | mark _ decisions => Undecided world decisions.toSend []
  | _ => True

theorem due_offer
    {world : World}
    (undecided : Undecided world decisions.toSend [])
    (chunks : List (List EmailJob)) : (offer size decisions chunks).Due world := by
  cases chunks <;> exact undecided

theorem due_loop
    {world : World}
    {rest : List ProspectInviteQueue}
    (undecided : Undecided world decisions.toSend rest) :
    (loop size existing suppressed rest decisions).Due world := by
  induction rest generalizing decisions with
  | nil =>
      rw [loop, decided]
      split
      · exact due_offer undecided _
      · trivial
  | cons candidate rest inductionHypothesis =>
      rw [loop]
      split
      · exact undecided
      · split
        · exact undecided
        · refine inductionHypothesis ⟨?_, ?_, ?_⟩
          · rw [List.append_assoc]
            exact undecided.distinct
          · exact fun row present => undecided.stored row (List.mem_cons_of_mem _ present)
          · intro email listed
            rcases List.mem_append.mp listed with old | new
            · exact undecided.waiting email old
            · obtain rfl := List.mem_singleton.mp new
              obtain ⟨stored, pending⟩ := undecided.stored candidate List.mem_cons_self
              exact ⟨candidate, stored, rfl, pending⟩

/-- A row that is skipped has the id of none of the others. -/
theorem Undecided.skip
    {world : World}
    {toSend : List String}
    {candidate : ProspectInviteQueue}
    {rest : List ProspectInviteQueue}
    (undecided : Undecided world toSend (candidate :: rest))
    (ids : (world.prospectInviteQueue.map (·.id)).Nodup)
    (status : ProspectInviteQueueStatus)
    (input : Input) :
    Undecided
      (machine.effect (.skip size existing suppressed candidate status rest decisions) input
        world) toSend rest := by
  obtain ⟨here, -⟩ := undecided.stored candidate List.mem_cons_self
  have kept : ∀ row ∈ world.prospectInviteQueue, row.email ≠ candidate.email →
      row ∈ (machine.effect (.skip size existing suppressed candidate status rest decisions)
        input world).prospectInviteQueue := by
    intro row stored different
    rw [rows_effect]
    refine List.mem_map.mpr ⟨row, stored, if_neg fun same => different ?_⟩
    rw [Table.eq_of_key_eq ids stored here same]
  have distinct := undecided.distinct
  rw [List.map_cons, List.nodup_middle, List.nodup_cons, List.mem_append, not_or] at distinct
  obtain ⟨⟨unsent, unlisted⟩, distinct⟩ := distinct
  refine ⟨distinct, fun row present => ?_, fun email listed => ?_⟩
  · obtain ⟨stored, pending⟩ := undecided.stored row (List.mem_cons_of_mem _ present)
    exact ⟨kept row stored fun same => unlisted (same ▸ List.mem_map_of_mem present), pending⟩
  · obtain ⟨row, stored, rfl, pending⟩ := undecided.waiting email listed
    exact ⟨row, kept row stored fun same => unsent (same ▸ listed), rfl, pending⟩

end DripStage

/-- The queue has one row for an id and for an address at most. -/
structure World.InviteKeys (world : World) : Prop where
  ids : (world.prospectInviteQueue.map (·.id)).Nodup
  emails : (world.prospectInviteQueue.map (·.email)).Nodup

theorem World.InviteKeys.effect
    {world : World}
    (keys : world.InviteKeys)
    (stage : DripStage)
    (input : Input) : (DripStage.machine.effect stage input world).InviteKeys := by
  have same {κ : Type} (key : ProspectInviteQueue → κ)
      (kept : ∀ row, key (stage.rewrites input row) = key row) :
      (DripStage.machine.effect stage input world).prospectInviteQueue.map key =
        world.prospectInviteQueue.map key := by
    rw [DripStage.rows_effect, List.map_map]
    exact List.map_congr_left fun row _ => kept row
  have ids : ∀ row, (stage.rewrites input row).id = row.id := by
    intro row
    cases stage <;> simp only [DripStage.rewrites] <;> split <;> rfl
  exact ⟨same _ ids ▸ keys.ids, same _ (stage.email_rewrites input) ▸ keys.emails⟩

/-- The rows that a drip marks are there and not marked, if nothing else happens. -/
theorem drip_keepsDue :
    drip.KeepsDue fun stage world => world.InviteKeys ∧ stage.Due world where
  moves stage input world := by
    rintro ⟨keys, due⟩
    refine ⟨keys.effect stage input, ?_⟩
    cases stage with
    | settings =>
        show DripStage.Due _ (ite _ _ _)
        split <;> trivial
    | find dailyCap =>
        show DripStage.Due _ (ite _ _ _)
        split
        · trivial
        · exact ⟨DripStage.nodup_batch keys.emails input.tiedOrder dailyCap,
            fun row present => DripStage.mem_batch present, List.forall_mem_nil _⟩
    | users batch => exact due
    | suppressions batch existing => exact DripStage.due_loop due
    | skip size existing suppressed candidate status rest decisions =>
        show DripStage.Due _ (ite _ _ _)
        split
        · exact DripStage.due_loop (due.skip keys.ids status input)
        · trivial
    | enqueue size decisions chunk rest =>
        refine DripStage.due_offer ?_ rest
        show DripStage.Undecided (ite (input.queueAvailable = true) _ world : World) _ _
        split
        · exact ⟨due.distinct, due.stored, due.waiting⟩
        · exact due
    | mark size decisions => trivial
    | record size decisions => trivial
    | finished outcome => trivial
  aborts stage error world := by
    rintro ⟨keys, due⟩
    refine ⟨keys, ?_⟩
    cases stage with
    | enqueue size decisions chunk rest => exact DripStage.due_offer due rest
    | _ => trivial
  updates stage world email := by
    rintro ⟨keys, due⟩ updates
    cases stage with
    | mark size decisions =>
        obtain ⟨row, stored, rfl, pending⟩ := due.waiting email (of_decide_eq_true updates)
        have found : world.inviteRow row.email = some row :=
          Table.find?_key_eq_some keys.emails stored
        constructor
        · exact congrArg Option.isSome found
        · refine (congrArg (Option.any _) found).trans (decide_eq_false ?_)
          rw [pending]
          exact nofun
    | _ => cases updates

/-- The rows have ids of their own, and the index refuses none of them. -/
structure RowsUnblocked (rows : List SubscriptionRow) : Prop where
  ids : (rows.map (·.id)).Nodup
  unblocked : ∀ row ∈ rows, conflicts rows row = false

theorem TableConsistent.rowsUnblocked
    {nextId : Nat}
    {rows : List SubscriptionRow}
    (consistent : TableConsistent nextId rows) : RowsUnblocked rows where
  ids := consistent.ids
  unblocked row present := by
    refine eq_false_of_ne_true fun refused => ?_
    unfold conflicts at refused
    rw [Bool.and_eq_true, List.any_eq_true] at refused
    obtain ⟨live, other, otherPresent, blocks⟩ := refused
    simp only [Bool.and_eq_true, decide_eq_true_eq] at blocks
    refine blocks.1.1 (congrArg SubscriptionRow.id ?_)
    exact consistent.oneLive other otherPresent row present blocks.1.2 blocks.2 live

/-- The marking of a subscription changes nothing that the index looks at. -/
theorem RowsUnblocked.markedRows
    {rows : List SubscriptionRow}
    (keys : RowsUnblocked rows)
    (reminder : Reminder) : RowsUnblocked (Renewal.markedRows reminder rows) where
  ids := by
    have same : (Renewal.markedRows reminder rows).map (·.id) = rows.map (·.id) :=
      Table.map_updateWhere SubscriptionRow.id _ _ _ fun _ => rfl
    rw [same]
    exact keys.ids
  unblocked row present := by
    obtain ⟨old, stored, rfl⟩ := List.mem_map.mp present
    refine Eq.trans ?_ (keys.unblocked old stored)
    have same {α : Type} (column : SubscriptionRow → α)
        (kept : ∀ (row : SubscriptionRow) periodEnd,
          column { row with renewalReminderSentForPeriodEnd := periodEnd } = column row)
        (row : SubscriptionRow) :
        column (if decide (row.id = reminder.subscription.id) = true then
          { row with
            renewalReminderSentForPeriodEnd := some reminder.subscription.currentPeriodEnd }
        else row) = column row := by
      split
      · exact kept row _
      · rfl
    have status := same SubscriptionRow.status fun _ _ => rfl
    have id := same SubscriptionRow.id fun _ _ => rfl
    have userId := same SubscriptionRow.userId fun _ _ => rfl
    unfold conflicts Renewal.markedRows Table.updateWhere
    rw [List.any_map]
    simp only [Function.comp_def, status, id, userId]

namespace ReminderStage

/-- The subscriptions that are still to be reminded of are as they were found. -/
structure Untouched
    (world : World)
    (product : Product)
    (reminders : List Reminder) : Prop where
  distinct : (reminders.map (·.subscription.id)).Nodup
  stored : ∀ reminder ∈ reminders, reminder.subscription ∈ world.rows product

/-- The subscription that a scan is to mark is not marked, if nothing else happens. -/
def Due (world : World) : ReminderStage → Prop
  | enqueue _ product reminder rest _ | mark _ product reminder rest _ =>
      reminder.done = false ∧ Untouched world product (reminder :: rest)
  | _ => True

theorem due_loop
    {world : World}
    {now : Time}
    {product : Product}
    {rest : List Reminder}
    {sent : Nat}
    (untouched : Untouched world product rest) : (loop now product rest sent).Due world := by
  induction rest generalizing sent with
  | nil => cases product <;> trivial
  | cons reminder rest inductionHypothesis =>
      rw [loop]
      split
      · refine inductionHypothesis ⟨(List.nodup_cons.mp untouched.distinct).2, ?_⟩
        exact fun other present => untouched.stored other (List.mem_cons_of_mem _ present)
      · rename_i waits
        exact ⟨eq_false_of_ne_true waits, untouched⟩

/-- What a scan finds. -/
theorem untouched_renewals
    {world : World}
    {product : Product}
    (keys : RowsUnblocked (world.rows product))
    (now : Time) : Untouched world product (renewals now product world) where
  distinct := by
    have found : ((renewals now product world).map (·.subscription)).Sublist
        (world.rows product) := by
      refine List.Sublist.trans ?_ (List.filter_sublist (p := renewsSoon now))
      show ((((world.rows product).filter (renewsSoon now)).filterMap
        (reminderOf world product)).map (·.subscription)).Sublist _
      generalize (world.rows product).filter (renewsSoon now) = rows
      induction rows with
      | nil => exact List.Sublist.refl _
      | cons row rows inductionHypothesis =>
          cases joined : reminderOf world product row with
          | none =>
              rw [List.filterMap_cons_none joined]
              exact inductionHypothesis.cons row
          | some reminder =>
              rw [List.filterMap_cons_some joined, List.map_cons, subscription_reminderOf joined]
              exact inductionHypothesis.cons_cons row
    have ids : (renewals now product world).map (·.subscription.id) =
        ((renewals now product world).map (·.subscription)).map (·.id) := List.map_map.symm
    rw [ids]
    exact keys.ids.sublist (found.map _)
  stored reminder found := (mem_renewals found).1

end ReminderStage

/-- The rows of the tables after the marking of a subscription. -/
theorem rows_marked (product other : Product) (reminder : Reminder) (world : World) :
    (ReminderStage.marked product reminder world).rows other = world.rows other ∨
      other = product ∧ (ReminderStage.marked product reminder world).rows other =
        Renewal.markedRows reminder (world.rows other) := by
  obtain ⟨-, -, after⟩ | ⟨-, after⟩ := Renewal.marked_cases product reminder world
  · rw [after]
    by_cases here : other = product
    · subst here
      exact .inr ⟨rfl, World.rows_setRows _ _ _⟩
    · exact .inl (World.rows_setRows_of_ne _ _ here)
  · exact .inl (by rw [after])

/-- The marking of a subscription blocks no row of either product. -/
theorem RowsUnblocked.marked
    {other : Product}
    {world : World}
    (keys : RowsUnblocked (world.rows other))
    (product : Product)
    (reminder : Reminder) :
    RowsUnblocked ((ReminderStage.marked product reminder world).rows other) := by
  rcases rows_marked product other reminder world with same | ⟨-, after⟩
  · rw [same]
    exact keys
  · rw [after]
    exact keys.markedRows reminder

/-- The other subscriptions stay as they were found while one is marked. -/
theorem ReminderStage.Untouched.marked
    {world : World}
    {product : Product}
    {reminder : Reminder}
    {rest : List Reminder}
    (untouched : Untouched world product (reminder :: rest)) :
    Untouched (ReminderStage.marked product reminder world) product rest := by
  obtain ⟨twice, distinct⟩ := List.nodup_cons.mp untouched.distinct
  have unlisted : reminder.subscription.id ∉ rest.map (·.subscription.id) := twice
  refine ⟨distinct, fun later listed => ?_⟩
  have stored := untouched.stored later (List.mem_cons_of_mem _ listed)
  rcases rows_marked product product reminder world with same | ⟨-, after⟩
  · rw [same]
    exact stored
  · rw [after]
    refine List.mem_map.mpr ⟨later.subscription, stored, if_neg fun same => unlisted ?_⟩
    rw [← of_decide_eq_true same]
    exact List.mem_map_of_mem listed

/-- The row of a renewal that a reminder is about is the subscription the reminder has. -/
theorem Renewal.row_of_about
    {renewal : Renewal}
    {world : World}
    {product : Product}
    {reminder : Reminder}
    (ids : ((world.rows product).map (·.id)).Nodup)
    (stored : reminder.subscription ∈ world.rows product)
    (about : renewal.about (product, reminder) = true) :
    renewal.product = product ∧ renewal.row world = some reminder.subscription ∧
      reminder.subscription.currentPeriodEnd = renewal.periodEnd := by
  unfold Renewal.about Renewal.concerns at about
  simp only [Bool.and_eq_true, decide_eq_true_eq] at about
  obtain ⟨⟨rfl, sameId⟩, samePeriod⟩ := about
  refine ⟨rfl, ?_, samePeriod⟩
  unfold Renewal.row
  rw [← sameId]
  exact Table.find?_key_eq_some ids stored

/-- The subscriptions that a scan marks are there and not marked, if nothing else happens. -/
theorem scan_keepsDue :
    scan.KeepsDue fun stage world =>
      (∀ product, RowsUnblocked (world.rows product)) ∧ stage.Due world where
  moves stage input world := by
    rintro ⟨keys, due⟩
    cases stage with
    | readClock => exact ⟨keys, trivial⟩
    | find now product sent =>
        exact ⟨keys, ReminderStage.due_loop (ReminderStage.untouched_renewals (keys product) now)⟩
    | enqueue now product reminder rest sent =>
        have same (other : Product) :
            (ReminderStage.machine.effect (.enqueue now product reminder rest sent) input
              world).rows other = world.rows other := by
          show (ite (input.queueAvailable = true) _ world : World).rows other = _
          split
          · exact Renewal.rows_offered _ _ _
          · rfl
        refine ⟨fun other => same other ▸ keys other, due.1, due.2.distinct, ?_⟩
        intro other listed
        exact (congrArg (other.subscription ∈ ·) (same product)).mpr (due.2.stored other listed)
    | mark now product reminder rest sent =>
        exact ⟨fun other => (keys other).marked product reminder,
          ReminderStage.due_loop due.2.marked⟩
    | finished outcome => exact ⟨keys, trivial⟩
  aborts stage error world := by
    rintro ⟨keys, due⟩
    refine ⟨keys, ?_⟩
    cases stage with
    | enqueue now product reminder rest sent => exact due
    | mark now product reminder rest sent =>
        refine ReminderStage.due_loop ⟨(List.nodup_cons.mp due.2.distinct).2, ?_⟩
        exact fun later listed => due.2.stored later (List.mem_cons_of_mem _ listed)
    | _ => trivial
  updates stage world renewal := by
    rintro ⟨keys, due⟩ updates
    cases stage with
    | mark now product reminder rest sent =>
        obtain ⟨unmarked, untouched⟩ := due
        have stored := untouched.stored reminder List.mem_cons_self
        obtain ⟨rfl, found, samePeriod⟩ :=
          Renewal.row_of_about (keys product).ids stored updates
        constructor
        · refine (congrArg (Option.any _) found).trans ?_
          rw [Option.any_some, (keys renewal.product).unblocked _ stored]
          rfl
        · refine decide_eq_false fun marked => ?_
          unfold Renewal.marker at marked
          rw [found, Option.bind_some, ← samePeriod] at marked
          unfold Reminder.done at unmarked
          exact of_decide_eq_false unmarked marked
    | _ => cases updates

/-! ## Markers follow jobs -/

/-- A drip calls as the code left of `runDailyDrip` does. -/
theorem code_drip
    (run : SenderRun DripStage World EmailJob)
    (input : Input)
    (rejected : Option ApiError) :
    Process.machine.step ⟨run.state, [run.point.code]⟩ ⟨0, input, rejected⟩ =
      ⟨(drip.step run (.call input rejected)).state,
        [(drip.step run (.call input rejected)).point.code]⟩ :=
  drip.code_step DripStage.implements run input rejected

/-- A scan calls as the code left of `sendDueReminders` does. -/
theorem code_scan
    (run : SenderRun ReminderStage World (Product × Reminder))
    (input : Input)
    (rejected : Option ApiError) :
    Process.machine.step ⟨run.state, [run.point.code]⟩ ⟨0, input, rejected⟩ =
      ⟨(scan.step run (.call input rejected)).state,
        [(scan.step run (.call input rejected)).point.code]⟩ :=
  scan.code_step ReminderStage.implements run input rejected

/-- In the runs of a drip, and in those of a scan for renewals, a marker is set only after
the queue has accepted the job, and recipients whose jobs it has refused stay eligible,
exactly if no update is made for a recipient whose job was refused.  Where nothing else
happens, that is exactly if the update for every refused job is rejected. -/
theorem sent_markers_follow_jobs_iff
    (world : World)
    (drips : List (SenderEvent Input ApiError World))
    (scans : List (SenderEvent Input ApiError World)) :
    (Along drip.step drip.Honest { state := world, point := .settings } drips ↔
        Along drip.step drip.Delivers { state := world, point := .settings } drips) ∧
      (Along scan.step scan.Honest { state := world, point := .readClock } scans ↔
        Along scan.step scan.Delivers { state := world, point := .readClock } scans) ∧
      (world.InviteKeys → (∀ event ∈ drips, event.IsCall) →
        (Along drip.step drip.Honest { state := world, point := .settings } drips ↔
          Along drip.step drip.Heeds { state := world, point := .settings } drips)) ∧
      (world.Consistent → (∀ event ∈ scans, event.IsCall) →
        (Along scan.step scan.Honest { state := world, point := .readClock } scans ↔
          Along scan.step scan.Heeds { state := world, point := .readClock } scans)) := by
  refine ⟨?_, ?_, fun keys undisturbed => ?_, fun consistent undisturbed => ?_⟩
  · refine drip_lawful.along_honest_iff ?_ drips
    exact rfl
  · refine scan_lawful.along_honest_iff ?_ scans
    trivial
  · refine drip_lawful.undisturbed_honest_iff drip_keepsDue ?_ ⟨keys, trivial⟩ undisturbed
    exact rfl
  · refine scan_lawful.undisturbed_honest_iff scan_keepsDue ?_ ⟨fun product => ?_, trivial⟩
      undisturbed
    · trivial
    · exact (consistent product).rowsUnblocked

/-- One address waits to be invited, and one subscription renews on the thirtieth day. -/
def waitingBackend : World :=
  { Renewal.renewingBackend with
    prospectInviteQueue := [{ id := 8, email := "bob@example.com", createdAt := 0 }] }

/-- Calls on the twenty-third day, while the queue cannot be reached. -/
def callsWithoutQueue (calls : Nat) : List (SenderEvent Input ApiError World) :=
  List.replicate calls (.call { now := 23 * 86400000, queueAvailable := false } none)

/-- A drip whose job the queue refuses, and whose update is rejected. -/
def rejectedMarking : List (SenderEvent Input ApiError World) :=
  callsWithoutQueue 5 ++ [.call { now := 23 * 86400000 } (some .database)]

/-- The address waits for the next drip. -/
theorem sent_markers_follow_jobs_iff_rejected :
    Along drip.step drip.Honest { state := waitingBackend, point := .settings }
        rejectedMarking ∧
      drip.isEligible "bob@example.com"
        (rejectedMarking.foldl drip.step
          { state := waitingBackend, point := .settings }).state = true := by
  obtain ⟨-, -, undisturbed, -⟩ :=
    sent_markers_follow_jobs_iff waitingBackend rejectedMarking []
  refine ⟨(undisturbed ⟨by decide, by decide⟩ ?_).mpr ?_, by decide⟩
  · rintro event present
    obtain called | rejected := List.mem_append.mp present
    · rw [List.eq_of_mem_replicate called]
      trivial
    · rw [List.mem_singleton.mp rejected]
      trivial
  · exact ⟨nofun, nofun, nofun, nofun, nofun, trivial, trivial⟩

/-- A drip that no queue accepts a job from. -/
def dripWithoutQueue : SenderRun DripStage World EmailJob :=
  (callsWithoutQueue 7).foldl drip.step { state := waitingBackend, point := .settings }

/-- A scan that no queue accepts a job from. -/
def scanWithoutQueue : SenderRun ReminderStage World (Product × Reminder) :=
  (callsWithoutQueue 5).foldl scan.step { state := waitingBackend, point := .readClock }

/-- The row is marked as sent and the subscription as reminded of, and no job is in the
queue. -/
theorem refused_jobs_are_marked :
    (dripWithoutQueue.state.outbox = [] ∧
        drip.isMarked "bob@example.com" dripWithoutQueue.state = true ∧
        ¬Along drip.step drip.Honest { state := waitingBackend, point := .settings }
          (callsWithoutQueue 7)) ∧
      scanWithoutQueue.state.outbox = [] ∧
        scan.isMarked ⟨.directory, 5, 30 * 86400000⟩ scanWithoutQueue.state = true ∧
        ¬Along scan.step scan.Honest { state := waitingBackend, point := .readClock }
          (callsWithoutQueue 5) := by
  refine ⟨⟨by decide, by decide, fun along => ?_⟩, by decide, by decide, fun along => ?_⟩
  · obtain ⟨-, -, -, -, -, honest, -⟩ := along
    obtain ⟨job, accepted, -⟩ := honest.marks "bob@example.com" (by decide) (by decide)
    cases accepted
  · obtain ⟨-, -, -, honest, -⟩ := along
    obtain ⟨job, accepted, -⟩ :=
      honest.marks ⟨.directory, 5, 30 * 86400000⟩ (by decide) (by decide)
    cases accepted

end ConferenceContact
