import ConferenceContact.Outreach.DailyDrip
import ConferenceContact.Outreach.DripStages
import Mathlib.Data.List.Count

/-!
# What a drip has in hand

From the query for its batch until the update that marks it, a drip has addresses in hand:
those it has not decided on yet, and those it has decided to invite.  No call adds an
address but that query, every invite is one for an address in hand, and every row that a
call rewrites is in hand.
-/

namespace ConferenceContact

open Process ProspectCampaignService

/-! ## Moves of a row -/

/-- How the status of a row may change. -/
inductive ProspectInviteQueueStatus.Moves :
    ProspectInviteQueueStatus → ProspectInviteQueueStatus → Prop
  | stay (status : ProspectInviteQueueStatus) : Moves status status
  | send : Moves .pending .sent
  | skipExistingUser : Moves .pending .skippedExistingUser
  | skipUnsubscribed : Moves .pending .skippedUnsubscribed
  | bounce : Moves .sent .bounced
  | complain : Moves .sent .complained

/-- A row keeps its id and its address, and its status moves. -/
structure ProspectInviteQueue.Moves (before after : ProspectInviteQueue) : Prop where
  id : after.id = before.id
  email : after.email = before.email
  status : before.status.Moves after.status

/-- The row as its id and its address. -/
def ProspectInviteQueue.key (row : ProspectInviteQueue) : Nat × String :=
  (row.id, row.email)

/-- Every row of the queue moves, and none is added or removed. -/
def RowsMove (before after : World) : Prop :=
  List.Forall₂ ProspectInviteQueue.Moves before.prospectInviteQueue after.prospectInviteQueue

/-- The cold invites to an address that were enqueued. -/
def World.invitesTo (email : String) (world : World) : Nat :=
  world.outbox.count (.prospectColdInvite email)

/-- The statuses move with the rows. -/
theorem RowsMove.statuses
    {before after : World}
    (moves : RowsMove before after) :
    List.Forall₂ ProspectInviteQueueStatus.Moves
      (before.prospectInviteQueue.map (·.status)) (after.prospectInviteQueue.map (·.status)) := by
  rw [List.forall₂_map_left_iff, List.forall₂_map_right_iff]
  exact moves.imp fun _ _ moves => moves.status

theorem ProspectInviteQueue.Moves.refl (row : ProspectInviteQueue) : row.Moves row :=
  ⟨rfl, rfl, .stay row.status⟩

theorem ProspectInviteQueue.Moves.key
    {before after : ProspectInviteQueue}
    (moves : before.Moves after) :
    after.key = before.key :=
  Prod.ext moves.id moves.email

/-! ## What a drip has in hand -/

namespace DripStage

/-- The addresses that a drip has read and has not done with. -/
def inHand : DripStage → List String
  | users batch => batch.map (·.email)
  | suppressions batch _ => batch.map (·.email)
  | skip _ _ _ candidate _ rest decisions =>
      decisions.toSend ++ candidate.email :: rest.map (·.email)
  | enqueue _ decisions _ _ => decisions.toSend
  | mark _ decisions => decisions.toSend
  | _ => []

/-- The invites to an address that a drip may still enqueue. -/
def toOffer (email : String) : DripStage → Nat
  | enqueue _ _ chunk rest => (chunk ++ rest.flatten).count (.prospectColdInvite email)
  | mark _ _ => 0
  | stage => stage.inHand.count email

/-- What a drip has in hand are rows of the queue, and it offers no more than one invite for
each. -/
def Fits (keys : List (Nat × String)) : DripStage → Prop
  | users batch => ∀ row ∈ batch, row.key ∈ keys
  | suppressions batch _ => ∀ row ∈ batch, row.key ∈ keys
  | skip _ _ _ candidate status rest _ =>
      (∀ row ∈ candidate :: rest, row.key ∈ keys) ∧
        (status = .skippedExistingUser ∨ status = .skippedUnsubscribed)
  | enqueue _ decisions chunk rest =>
      ∀ email, (chunk ++ rest.flatten).count (.prospectColdInvite email) ≤
        decisions.toSend.count email
  | _ => True

variable {keys : List (Nat × String)} {size : Nat} {existing suppressed : List String}
  {decisions : Decisions} {email : String}

theorem inHand_offer (chunks : List (List EmailJob)) :
    (offer size decisions chunks).inHand = decisions.toSend := by
  cases chunks <;> rfl

theorem toOffer_offer (chunks : List (List EmailJob)) :
    (offer size decisions chunks).toOffer email =
      chunks.flatten.count (.prospectColdInvite email) := by
  cases chunks <;> rfl

theorem fits_offer
    {chunks : List (List EmailJob)}
    (covered : ∀ email, chunks.flatten.count (.prospectColdInvite email) ≤
      decisions.toSend.count email) :
    (offer size decisions chunks).Fits keys := by
  cases chunks with
  | nil => trivial
  | cons chunk rest => exact covered

/-- One invite is made for each address. -/
theorem count_invites (emails : List String) :
    (slices 500 (emails.map EmailJob.prospectColdInvite)).flatten.count
      (.prospectColdInvite email) = emails.count email := by
  rw [flatten_slices (by decide)]
  refine List.count_map_of_injective emails _ ?_ email
  intro left right same
  exact EmailJob.prospectColdInvite.inj same

theorem inHand_decided : (decided size decisions).inHand = decisions.toSend := by
  unfold decided
  split
  · exact inHand_offer _
  · rename_i none
    exact (List.eq_nil_of_length_eq_zero (Nat.eq_zero_of_not_pos none)).symm

theorem toOffer_decided :
    (decided size decisions).toOffer email = decisions.toSend.count email := by
  unfold decided
  split
  · rw [toOffer_offer, count_invites]
  · rename_i none
    rw [List.eq_nil_of_length_eq_zero (Nat.eq_zero_of_not_pos none)]
    rfl

theorem fits_decided : (decided size decisions).Fits keys := by
  unfold decided
  split
  · exact fits_offer fun email => (count_invites decisions.toSend).le
  · trivial

/-- In the loop, a drip has in hand what it has decided to send and what it has not decided. -/
theorem inHand_loop (rest : List ProspectInviteQueue) :
    (loop size existing suppressed rest decisions).inHand =
      decisions.toSend ++ rest.map (·.email) := by
  induction rest generalizing decisions with
  | nil => rw [loop, inHand_decided, List.map_nil, List.append_nil]
  | cons candidate rest inductionHypothesis =>
      rw [loop]
      split
      · rfl
      · split
        · rfl
        · rw [inductionHypothesis, List.append_assoc]
          rfl

theorem toOffer_loop (rest : List ProspectInviteQueue) :
    (loop size existing suppressed rest decisions).toOffer email =
      (decisions.toSend ++ rest.map (·.email)).count email := by
  induction rest generalizing decisions with
  | nil => rw [loop, toOffer_decided, List.map_nil, List.append_nil]
  | cons candidate rest inductionHypothesis =>
      rw [loop]
      split
      · rfl
      · split
        · rfl
        · rw [inductionHypothesis, List.append_assoc]
          rfl

theorem fits_loop
    {rest : List ProspectInviteQueue}
    (known : ∀ row ∈ rest, row.key ∈ keys) :
    (loop size existing suppressed rest decisions).Fits keys := by
  induction rest generalizing decisions with
  | nil => exact fits_decided
  | cons candidate rest inductionHypothesis =>
      rw [loop]
      split
      · exact ⟨known, .inl rfl⟩
      · split
        · exact ⟨known, .inr rfl⟩
        · exact inductionHypothesis fun row present => known row (List.mem_cons_of_mem _ present)

/-- A drip offers no more invites than it has addresses in hand. -/
theorem Fits.toOffer_le {stage : DripStage} (fits : stage.Fits keys) (email : String) :
    stage.toOffer email ≤ stage.inHand.count email := by
  cases stage with
  | enqueue size decisions chunk rest => exact fits email
  | mark size decisions => exact Nat.zero_le _
  | _ => exact Nat.le_refl _

/-! ## One call of a drip -/

section

variable {stage : DripStage} {input : Input} {world : World}

/-- Only the query for a batch puts addresses in hand. -/
theorem inHand_next
    (decides : ∀ dailyCap, stage ≠ find dailyCap)
    (input : Input)
    (world : World)
    (email : String) :
    (machine.next stage input world).inHand.count email ≤ stage.inHand.count email := by
  cases stage with
  | settings =>
      show (ite _ _ _ : DripStage).inHand.count email ≤ _
      split <;> exact Nat.le_refl _
  | find dailyCap => exact absurd rfl (decides dailyCap)
  | users batch => exact Nat.le_refl _
  | suppressions batch existing =>
      show (loop _ _ _ _ _).inHand.count email ≤ _
      rw [inHand_loop]
      exact Nat.le_refl _
  | skip size existing suppressed candidate status rest decisions =>
      show (ite _ _ _ : DripStage).inHand.count email ≤ _
      split
      · rw [inHand_loop]
        exact ((List.sublist_cons_self _ _).append_left _).count_le email
      · exact Nat.zero_le _
  | enqueue size decisions chunk rest =>
      show (offer _ _ _).inHand.count email ≤ _
      rw [inHand_offer]
      exact Nat.le_refl _
  | _ => exact Nat.zero_le _

theorem inHand_abort (stage : DripStage) (error : ApiError) (email : String) :
    (machine.abort stage error).inHand.count email ≤ stage.inHand.count email := by
  cases stage with
  | enqueue size decisions chunk rest =>
      show (offer _ _ _).inHand.count email ≤ _
      rw [inHand_offer]
      exact Nat.le_refl _
  | _ => exact Nat.zero_le _

/-- An invite that is enqueued was one of those to be offered. -/
theorem jobs_next
    (decides : ∀ dailyCap, stage ≠ find dailyCap)
    (input : Input)
    (world : World)
    (email : String) :
    (machine.effect stage input world).invitesTo email +
        (machine.next stage input world).toOffer email ≤
      world.invitesTo email + stage.toOffer email := by
  cases stage with
  | settings =>
      show world.invitesTo email + (ite _ _ _ : DripStage).toOffer email ≤ _
      split <;> exact Nat.le_refl _
  | find dailyCap => exact absurd rfl (decides dailyCap)
  | users batch => exact Nat.le_refl _
  | suppressions batch existing =>
      show world.invitesTo email + (loop _ _ _ _ _).toOffer email ≤ _
      rw [toOffer_loop]
      exact Nat.le_refl _
  | skip size existing suppressed candidate status rest decisions =>
      have outbox : (machine.effect (skip size existing suppressed candidate status rest decisions)
          input world).invitesTo email = world.invitesTo email := by
        show (ite _ _ _ : World).invitesTo email = _
        split <;> rfl
      rw [outbox]
      refine Nat.add_le_add_left ?_ _
      show (ite _ _ _ : DripStage).toOffer email ≤ _
      split
      · rw [toOffer_loop]
        exact ((List.sublist_cons_self _ _).append_left _).count_le email
      · exact Nat.zero_le _
  | enqueue size decisions chunk rest =>
      show (ite _ _ _ : World).invitesTo email + (offer _ _ _).toOffer email ≤
        _ + (chunk ++ rest.flatten).count _
      rw [toOffer_offer, List.count_append]
      split
      · rw [World.invitesTo, List.count_append, List.count_reverse]
        unfold World.invitesTo
        omega
      · omega
  | _ => exact Nat.le_refl _

theorem toOffer_abort (stage : DripStage) (error : ApiError) (email : String) :
    (machine.abort stage error).toOffer email ≤ stage.toOffer email := by
  cases stage with
  | enqueue size decisions chunk rest =>
      show (offer _ _ _).toOffer email ≤ (chunk ++ rest.flatten).count _
      rw [toOffer_offer, List.count_append]
      exact Nat.le_add_left _ _
  | _ => exact Nat.zero_le _

/-- What is left of the chunks covers no more than the whole. -/
theorem fits_rest
    {chunk : List EmailJob}
    {rest : List (List EmailJob)}
    (covered : ∀ email, (chunk ++ rest.flatten).count (.prospectColdInvite email) ≤
      decisions.toSend.count email) :
    (offer size decisions rest).Fits keys := by
  refine fits_offer fun email => ?_
  have both := covered email
  rw [List.count_append] at both
  omega

theorem Fits.next
    (fits : stage.Fits (world.prospectInviteQueue.map ProspectInviteQueue.key)) :
    (machine.next stage input world).Fits
      (world.prospectInviteQueue.map ProspectInviteQueue.key) := by
  cases stage with
  | settings =>
      show (ite _ _ _ : DripStage).Fits _
      split <;> trivial
  | find dailyCap =>
      show (ite _ _ _ : DripStage).Fits _
      split
      · trivial
      · intro row present
        have pending := List.mem_of_mem_take present
        rw [pendingRows, List.mem_insertionSort] at pending
        exact List.mem_map_of_mem (List.mem_of_mem_filter pending)
  | users batch => exact fits
  | suppressions batch existing => exact fits_loop fits
  | skip size existing suppressed candidate status rest decisions =>
      show (ite _ _ _ : DripStage).Fits _
      split
      · exact fits_loop fun row present => fits.1 row (List.mem_cons_of_mem _ present)
      · trivial
  | enqueue size decisions chunk rest => exact fits_rest fits
  | _ => trivial

theorem Fits.abort
    (fits : stage.Fits keys)
    (error : ApiError) :
    (machine.abort stage error).Fits keys := by
  cases stage with
  | enqueue size decisions chunk rest => exact fits_rest fits
  | _ => trivial

end

/-! ## What a call does to a row -/

section

variable {stage : DripStage} {input : Input} {row : ProspectInviteQueue}
  (distinct : (keys.map Prod.fst).Nodup)
  (fits : stage.Fits keys)
  (stored : row.key ∈ keys)

include distinct fits stored

/-- A row that is not in hand is left alone. -/
theorem rewrites_spares (free : row.email ∉ stage.inHand) : stage.rewrites input row = row := by
  cases stage with
  | skip size existing suppressed candidate status rest decisions =>
      refine if_neg fun same => free ?_
      have known := fits.1 candidate List.mem_cons_self
      have sameKey := List.inj_on_of_nodup_map distinct stored known same
      rw [show row.email = candidate.email from congrArg Prod.snd sameKey]
      exact List.mem_append_right _ List.mem_cons_self
  | mark size decisions => exact if_neg free
  | _ => rfl

/-- A pending row in hand moves as it should. -/
theorem rewrites_moves (pending : row.email ∈ stage.inHand → row.status = .pending) :
    row.Moves (stage.rewrites input row) := by
  by_cases held : row.email ∈ stage.inHand
  · have isPending := pending held
    cases stage with
    | skip size existing suppressed candidate status rest decisions =>
        show row.Moves (ite _ _ _)
        split
        · refine ⟨rfl, rfl, ?_⟩
          rw [isPending]
          rcases fits.2 with rfl | rfl
          · exact .skipExistingUser
          · exact .skipUnsubscribed
        · exact .refl row
    | mark size decisions =>
        show row.Moves (ite _ _ _)
        split
        · refine ⟨rfl, rfl, ?_⟩
          rw [isPending]
          exact .send
        · exact .refl row
    | _ => exact .refl row
  · rw [rewrites_spares distinct fits stored held]
    exact .refl row

/-- A row that stays in hand has not been touched. -/
theorem rewrites_kept
    {world : World}
    (single : stage.inHand.count row.email ≤ 1)
    (kept : row.email ∈ (machine.next stage input world).inHand) :
    stage.rewrites input row = row := by
  cases stage with
  | skip size existing suppressed candidate status rest decisions =>
      refine if_neg fun same => ?_
      have known := fits.1 candidate List.mem_cons_self
      have sameKey := List.inj_on_of_nodup_map distinct stored known same
      have sameEmail : row.email = candidate.email := congrArg Prod.snd sameKey
      have later : row.email ∈ decisions.toSend ++ rest.map (·.email) := by
        have held : row.email ∈ (ite _ _ _ : DripStage).inHand := kept
        split at held
        · rw [inHand_loop] at held
          exact held
        · cases held
      have counted : (decisions.toSend ++ candidate.email :: rest.map (·.email)).count row.email ≤
          1 := single
      have again := List.count_pos_iff.mpr later
      rw [List.count_append] at counted again
      rw [List.count_cons, sameEmail, beq_self_eq_true, if_pos rfl] at counted
      rw [sameEmail] at again
      omega
  | mark size decisions => cases kept
  | _ => rfl

end

end DripStage

end ConferenceContact
