import ConferenceContact.Billing.Requests

/-!
# Writes of subscription rows

Every request writes at most one row of each subscription table.  A `RowWrite`
says which one and how, `accepted` whether the database lets it happen, and
`apply` what the table is afterwards.  An accepted write keeps the keys of the
table distinct and at most one live row for a user.
-/

namespace ConferenceContact

/-! ## Consistent tables -/

/-- The keys of a table are distinct, and a user has at most one live row. -/
structure TableConsistent (nextId : Nat) (rows : List SubscriptionRow) : Prop where
  ids : (rows.map (·.id)).Nodup
  fresh : ∀ row ∈ rows, row.id < nextId
  stripeIds : (rows.map (·.stripeSubscriptionId)).Nodup
  oneLive : ∀ left ∈ rows, ∀ right ∈ rows, left.userId = right.userId →
    left.status.live = true → right.status.live = true → left = right

/-- Both subscription tables satisfy the constraints of the database. -/
def World.Consistent (world : World) : Prop :=
  ∀ product, TableConsistent world.nextId (world.rows product)

theorem tableConsistent_nil (nextId : Nat) : TableConsistent nextId [] where
  ids := List.nodup_nil
  fresh := nofun
  stripeIds := List.nodup_nil
  oneLive := nofun

theorem World.consistent_of_no_rows
    {world : World}
    (empty : ∀ product, world.rows product = []) :
    world.Consistent := by
  intro product
  rw [empty product]
  exact tableConsistent_nil world.nextId

/-- Whatever is said of every row holds where there are none. -/
theorem World.forall_rows_of_no_rows
    {world : World}
    (empty : ∀ product, world.rows product = [])
    {P : SubscriptionRow → Prop}
    (product : Product) :
    ∀ row ∈ world.rows product, P row := by
  rw [empty product]
  exact List.forall_mem_nil _

namespace TableConsistent

variable {nextId : Nat} {rows : List SubscriptionRow}

theorem mono
    (consistent : TableConsistent nextId rows)
    {later : Nat}
    (grows : nextId ≤ later) :
    TableConsistent later rows :=
  { consistent with
    fresh := fun row present => Nat.lt_of_lt_of_le (consistent.fresh row present) grows }

theorem eq_of_id_eq
    (consistent : TableConsistent nextId rows)
    {left right : SubscriptionRow}
    (leftPresent : left ∈ rows)
    (rightPresent : right ∈ rows)
    (equal : left.id = right.id) :
    left = right :=
  Table.eq_of_key_eq consistent.ids leftPresent rightPresent equal

theorem eq_of_stripeId_eq
    (consistent : TableConsistent nextId rows)
    {left right : SubscriptionRow}
    (leftPresent : left ∈ rows)
    (rightPresent : right ∈ rows)
    (equal : left.stripeSubscriptionId = right.stripeSubscriptionId) :
    left = right :=
  Table.eq_of_key_eq consistent.stripeIds leftPresent rightPresent equal

/-- A stored row is found by its id. -/
theorem find?_id
    (consistent : TableConsistent nextId rows)
    {row : SubscriptionRow}
    (present : row ∈ rows) :
    (rows.find? fun other => other.id = row.id) = some row := by
  rw [← Table.find?_key_eq_some consistent.ids present]

/-- A stored row is found by its Stripe subscription. -/
theorem findByStripeId_eq
    (consistent : TableConsistent nextId rows)
    {row : SubscriptionRow}
    (present : row ∈ rows) :
    findByStripeId row.stripeSubscriptionId rows = some row := by
  rw [← Table.find?_key_eq_some consistent.stripeIds present]
  rfl

end TableConsistent

theorem mem_of_findByStripeId
    {stripeSubscriptionId : StripeSubscriptionId}
    {rows : List SubscriptionRow}
    {row : SubscriptionRow}
    (found : findByStripeId stripeSubscriptionId rows = some row) :
    row ∈ rows ∧ row.stripeSubscriptionId = stripeSubscriptionId :=
  ⟨List.mem_of_find?_eq_some found, by simpa using List.find?_some found⟩

theorem findByStripeId_eq_none
    {stripeSubscriptionId : StripeSubscriptionId}
    {rows : List SubscriptionRow} :
    findByStripeId stripeSubscriptionId rows = none ↔
      ∀ row ∈ rows, row.stripeSubscriptionId ≠ stripeSubscriptionId := by
  simp [findByStripeId]

theorem mem_of_findLive
    {userId : UserId}
    {rows : List SubscriptionRow}
    {row : SubscriptionRow}
    (found : findLive userId rows = some row) :
    row ∈ rows ∧ row.userId = userId ∧ row.status.live = true := by
  refine ⟨List.mem_of_find?_eq_some found, ?_⟩
  simpa using List.find?_some found

/-! ## Writes -/

/-- The ways in which a row of a subscription table is written. -/
inductive RowWrite
  /-- The state Stripe reports for a subscription that has a row. -/
  | sync (stripeSub : StripeSubscription)
  /-- A first row for a subscription. -/
  | insert (stripeSub : StripeSubscription) (userId : UserId) (productId : PlanId)
  /-- `customer.subscription.deleted`. -/
  | terminate (stripeSubscriptionId : StripeSubscriptionId)
  /-- A subscription ended together with its row. -/
  | replace (stripeSubscriptionId : StripeSubscriptionId)
  /-- `invoice.payment_failed`. -/
  | fail (stripeSubscriptionId : StripeSubscriptionId)
  /-- A scheduled cancellation, or the end of one. -/
  | schedule (stripeSubscriptionId : StripeSubscriptionId) (cancelAtPeriodEnd : Bool)

/-- Some other subscription of the user has a live row. -/
def blocked
    (rows : List SubscriptionRow)
    (stripeSubscriptionId : StripeSubscriptionId)
    (userId : UserId) : Bool :=
  rows.any fun other =>
    other.stripeSubscriptionId ≠ stripeSubscriptionId &&
      other.userId = userId && other.status.live

theorem blocked_eq_true
    {rows : List SubscriptionRow}
    {stripeSubscriptionId : StripeSubscriptionId}
    {userId : UserId} :
    blocked rows stripeSubscriptionId userId = true ↔
      ∃ other ∈ rows, other.stripeSubscriptionId ≠ stripeSubscriptionId ∧
        other.userId = userId ∧ other.status.live = true := by
  simp [blocked, and_assoc]

namespace RowWrite

/-- The Stripe subscription whose row is written. -/
def target : RowWrite → StripeSubscriptionId
  | sync stripeSub => stripeSub.id
  | insert stripeSub _ _ => stripeSub.id
  | terminate stripeSubscriptionId => stripeSubscriptionId
  | replace stripeSubscriptionId => stripeSubscriptionId
  | fail stripeSubscriptionId => stripeSubscriptionId
  | schedule stripeSubscriptionId _ => stripeSubscriptionId

/-- The status the row is given, if any. -/
def status : RowWrite → Option SubscriptionStatus
  | sync stripeSub => some (mapStripeStatus stripeSub.status)
  | insert stripeSub _ _ => some (mapStripeStatus stripeSub.status)
  | terminate _ => some .canceled
  | replace _ => some .canceled
  | fail _ => some .pastDue
  | schedule _ _ => none

/-- What becomes of a row that is there. -/
def rewrite (now : Time) : RowWrite → SubscriptionRow → SubscriptionRow
  | sync stripeSub, row =>
      SubscriptionsService.mapStripeSubToUpdate stripeSub row.pastDueSince now row
  | insert _ _ _, row => row
  | terminate _, row => { row with status := .canceled }
  | replace _, row => { row with status := .canceled, cancelAtPeriodEnd := false }
  | fail _, row => SubscriptionsService.pastDueUpdate row.pastDueSince now row
  | schedule _ cancelAtPeriodEnd, row => { row with cancelAtPeriodEnd }

@[simp] theorem rewrite_id (now : Time) (write : RowWrite) (row : SubscriptionRow) :
    (write.rewrite now row).id = row.id := by
  cases write <;> rfl

@[simp] theorem rewrite_userId (now : Time) (write : RowWrite) (row : SubscriptionRow) :
    (write.rewrite now row).userId = row.userId := by
  cases write <;> rfl

@[simp] theorem rewrite_stripeSubscriptionId
    (now : Time)
    (write : RowWrite)
    (row : SubscriptionRow) :
    (write.rewrite now row).stripeSubscriptionId = row.stripeSubscriptionId := by
  cases write <;> rfl

@[simp] theorem rewrite_productId (now : Time) (write : RowWrite) (row : SubscriptionRow) :
    (write.rewrite now row).productId = row.productId := by
  cases write <;> rfl

/-- Whether the row is a new one. -/
def inserts : RowWrite → Bool
  | insert _ _ _ => true
  | _ => false

theorem rewrite_status
    {write : RowWrite}
    (existing : write.inserts = false)
    (now : Time)
    (row : SubscriptionRow) :
    (write.rewrite now row).status = write.status.getD row.status := by
  cases write with
  | insert stripeSub userId productId => cases existing
  | _ => rfl

/-- The user whose row is written. -/
def owner (rows : List SubscriptionRow) : RowWrite → Option UserId
  | insert _ userId _ => some userId
  | write => (findByStripeId write.target rows).map (·.userId)

/-- The unique index refuses the write. -/
def refused (rows : List SubscriptionRow) (write : RowWrite) : Bool :=
  (write.status.any (·.live)) && (write.owner rows).any (blocked rows write.target)

/-- What the new row refers to exists. -/
def refers (product : Product) (world : World) : RowWrite → Bool
  | insert _ userId productId =>
      SubscriptionTable.referencesExist product world userId productId
  | _ => true

/-- The database lets the write happen. -/
def accepted (product : Product) (world : World) (write : RowWrite) : Bool :=
  !write.refused (world.rows product) && write.refers product world

/-- The table after the write; `id` is the id of a new row. -/
def apply
    (now : Time)
    (id : Nat)
    (rows : List SubscriptionRow) : RowWrite → List SubscriptionRow
  | insert stripeSub userId productId =>
      SubscriptionsService.newRow stripeSub userId productId now id :: rows
  | write =>
      Table.updateWhere (fun row => row.stripeSubscriptionId = write.target)
        (write.rewrite now) rows

theorem apply_of_existing
    {write : RowWrite}
    (existing : write.inserts = false)
    (now : Time)
    (id : Nat)
    (rows : List SubscriptionRow) :
    write.apply now id rows =
      Table.updateWhere (fun row => row.stripeSubscriptionId = write.target)
        (write.rewrite now) rows := by
  cases write with
  | insert stripeSub userId productId => cases existing
  | _ => rfl

theorem owner_of_existing
    {write : RowWrite}
    (existing : write.inserts = false)
    (rows : List SubscriptionRow) :
    write.owner rows = (findByStripeId write.target rows).map (·.userId) := by
  cases write with
  | insert stripeSub userId productId => cases existing
  | _ => rfl

theorem refers_of_existing
    {write : RowWrite}
    (existing : write.inserts = false)
    {product : Product}
    {world : World} :
    write.refers product world = true := by
  cases write with
  | insert stripeSub userId productId => cases existing
  | _ => rfl

/-- A new row is only written for a subscription without one. -/
def Fits (rows : List SubscriptionRow) (write : RowWrite) : Prop :=
  write.inserts = true → findByStripeId write.target rows = none

end RowWrite

/-! ## Accepted writes keep tables consistent -/

namespace TableConsistent

variable {nextId : Nat} {rows : List SubscriptionRow}

/-- Rewriting the row of a subscription is rewriting the row with its id. -/
theorem updateWhere_eq
    (consistent : TableConsistent nextId rows)
    {row : SubscriptionRow}
    (present : row ∈ rows)
    {left right : SubscriptionRow → SubscriptionRow}
    (same : left row = right row) :
    Table.updateWhere (fun other => other.id = row.id) left rows =
      Table.updateWhere
        (fun other => other.stripeSubscriptionId = row.stripeSubscriptionId)
        right rows := by
  refine List.map_congr_left fun other otherPresent => ?_
  by_cases chosen : other = row
  · simp [chosen, same]
  · have differentId : other.id ≠ row.id := fun equal =>
      chosen (consistent.eq_of_id_eq otherPresent present equal)
    have differentStripeId :
        other.stripeSubscriptionId ≠ row.stripeSubscriptionId := fun equal =>
      chosen (consistent.eq_of_stripeId_eq otherPresent present equal)
    simp [differentId, differentStripeId]

/-- The index looks at ids, the ledger at subscriptions. -/
theorem conflicts_eq
    (consistent : TableConsistent nextId rows)
    {row next : SubscriptionRow}
    (present : row ∈ rows)
    (sameId : next.id = row.id)
    (sameUser : next.userId = row.userId) :
    conflicts rows next =
      (next.status.live && blocked rows row.stripeSubscriptionId row.userId) := by
  unfold conflicts blocked
  congr 1
  rw [Bool.eq_iff_iff, List.any_eq_true, List.any_eq_true]
  refine exists_congr fun other => and_congr_right fun otherPresent => ?_
  have sameRow : other.id = row.id ↔
      other.stripeSubscriptionId = row.stripeSubscriptionId :=
    ⟨fun equal => by rw [consistent.eq_of_id_eq otherPresent present equal],
      fun equal => by rw [consistent.eq_of_stripeId_eq otherPresent present equal]⟩
  simp [sameId, sameUser, sameRow]

/-- A new row of a new subscription conflicts with the live rows of its user. -/
theorem conflicts_fresh
    (consistent : TableConsistent nextId rows)
    {next : SubscriptionRow}
    (freshId : next.id = nextId)
    (absent : findByStripeId next.stripeSubscriptionId rows = none) :
    conflicts rows next =
      (next.status.live && blocked rows next.stripeSubscriptionId next.userId) := by
  unfold conflicts blocked
  congr 1
  rw [Bool.eq_iff_iff, List.any_eq_true, List.any_eq_true]
  refine exists_congr fun other => and_congr_right fun otherPresent => ?_
  have differentId : other.id ≠ next.id := by
    have bound := consistent.fresh other otherPresent
    omega
  have differentStripeId := findByStripeId_eq_none.mp absent other otherPresent
  simp [differentId, differentStripeId]

theorem insert
    (consistent : TableConsistent nextId rows)
    {row : SubscriptionRow}
    {later : Nat}
    (freshId : nextId ≤ row.id)
    (grows : row.id < later)
    (absent : findByStripeId row.stripeSubscriptionId rows = none)
    (unblocked : row.status.live = true →
      blocked rows row.stripeSubscriptionId row.userId = false) :
    TableConsistent later (row :: rows) := by
  have absent := findByStripeId_eq_none.mp absent
  have alone : row.status.live = true → ∀ other ∈ rows, other.userId = row.userId →
      other.status.live = true → False := by
    intro live other present sameUser otherLive
    have isBlocked := blocked_eq_true.mpr
      ⟨other, present, absent other present, sameUser, otherLive⟩
    rw [unblocked live] at isBlocked
    cases isBlocked
  refine ⟨?_, ?_, ?_, ?_⟩
  · refine List.nodup_cons.mpr ⟨?_, consistent.ids⟩
    rintro present
    obtain ⟨other, otherPresent, sameId⟩ := List.mem_map.mp present
    have bound := consistent.fresh other otherPresent
    simp only at sameId
    omega
  · intro other present
    rcases List.mem_cons.mp present with rfl | inRows
    · exact grows
    · have bound := consistent.fresh other inRows
      omega
  · refine List.nodup_cons.mpr ⟨?_, consistent.stripeIds⟩
    rintro present
    obtain ⟨other, otherPresent, sameStripeId⟩ := List.mem_map.mp present
    exact absent other otherPresent sameStripeId
  · intro left leftPresent right rightPresent sameUser leftLive rightLive
    rcases List.mem_cons.mp leftPresent with rfl | leftIn <;>
      rcases List.mem_cons.mp rightPresent with rfl | rightIn
    · rfl
    · exact (alone leftLive right rightIn sameUser.symm rightLive).elim
    · exact (alone rightLive left leftIn sameUser leftLive).elim
    · exact consistent.oneLive left leftIn right rightIn sameUser leftLive rightLive

/-- Rewriting the row of one subscription without changing its keys. -/
theorem rewrite
    (consistent : TableConsistent nextId rows)
    {target : StripeSubscriptionId}
    {change : SubscriptionRow → SubscriptionRow}
    (keepsId : ∀ row, (change row).id = row.id)
    (keepsUser : ∀ row, (change row).userId = row.userId)
    (keepsStripeId : ∀ row,
      (change row).stripeSubscriptionId = row.stripeSubscriptionId)
    (unblocked : ∀ row ∈ rows, row.stripeSubscriptionId = target →
      (change row).status.live = true →
        row.status.live = true ∨ blocked rows target row.userId = false) :
    TableConsistent nextId
      (Table.updateWhere (fun row => row.stripeSubscriptionId = target) change rows) := by
  have keepsIds := Table.map_updateWhere (fun row : SubscriptionRow => row.id)
    (fun row => decide (row.stripeSubscriptionId = target)) change rows keepsId
  have keepsStripeIds := Table.map_updateWhere
    (fun row : SubscriptionRow => row.stripeSubscriptionId)
    (fun row => decide (row.stripeSubscriptionId = target)) change rows keepsStripeId
  -- The rewritten row against one that is left alone.
  have alone : ∀ row ∈ rows, row.stripeSubscriptionId = target →
      (change row).status.live = true → ∀ other ∈ rows,
      other.stripeSubscriptionId ≠ target → other.userId = row.userId →
      other.status.live = true → False := by
    intro row present chosen live other otherPresent unchosen sameUser otherLive
    rcases unblocked row present chosen live with wasLive | clear
    · have same := consistent.oneLive other otherPresent row present sameUser
        otherLive wasLive
      exact unchosen (same ▸ chosen)
    · have isBlocked := blocked_eq_true.mpr
        ⟨other, otherPresent, unchosen, sameUser, otherLive⟩
      rw [clear] at isBlocked
      cases isBlocked
  refine ⟨?_, ?_, ?_, ?_⟩
  · rw [keepsIds]
    exact consistent.ids
  · intro row present
    obtain ⟨before, stored, rfl⟩ := Table.mem_updateWhere.mp present
    have bound := consistent.fresh before stored
    split
    · rw [keepsId]
      exact bound
    · exact bound
  · rw [keepsStripeIds]
    exact consistent.stripeIds
  · intro left leftPresent right rightPresent sameUser leftLive rightLive
    obtain ⟨leftBefore, leftStored, rfl⟩ := Table.mem_updateWhere.mp leftPresent
    obtain ⟨rightBefore, rightStored, rfl⟩ := Table.mem_updateWhere.mp rightPresent
    by_cases leftChosen : leftBefore.stripeSubscriptionId = target <;>
      by_cases rightChosen : rightBefore.stripeSubscriptionId = target
    · have same := consistent.eq_of_stripeId_eq leftStored rightStored
        (leftChosen.trans rightChosen.symm)
      rw [same]
    · simp only [leftChosen, rightChosen, decide_true, decide_false, if_true,
        Bool.false_eq_true, if_false, keepsUser] at sameUser leftLive rightLive ⊢
      exact (alone leftBefore leftStored leftChosen leftLive rightBefore rightStored
        rightChosen sameUser.symm rightLive).elim
    · simp only [leftChosen, rightChosen, decide_true, decide_false, if_true,
        Bool.false_eq_true, if_false, keepsUser] at sameUser leftLive rightLive ⊢
      exact (alone rightBefore rightStored rightChosen rightLive leftBefore leftStored
        leftChosen sameUser leftLive).elim
    · simp only [leftChosen, rightChosen, decide_false, Bool.false_eq_true,
        if_false] at sameUser leftLive rightLive ⊢
      exact consistent.oneLive leftBefore leftStored rightBefore rightStored sameUser
        leftLive rightLive

/-- A write that the index does not refuse keeps the table consistent. -/
theorem apply
    (consistent : TableConsistent nextId rows)
    {write : RowWrite}
    (fits : write.Fits rows)
    (allowed : write.refused rows = false)
    (now : Time)
    {id later : Nat}
    (freshId : nextId ≤ id)
    (grows : nextId ≤ later)
    (below : write.inserts = true → id < later) :
    TableConsistent later (write.apply now id rows) := by
  cases inserts : write.inserts with
  | true =>
      cases write with
      | insert stripeSub userId productId =>
          refine consistent.insert freshId (below inserts) (fits inserts) ?_
          intro live
          simpa [RowWrite.refused, RowWrite.status, RowWrite.owner, RowWrite.target,
            SubscriptionsService.newRow, show
              (mapStripeStatus stripeSub.status).live = true from live] using allowed
      | _ => cases inserts
  | false =>
      rw [RowWrite.apply_of_existing inserts]
      refine (consistent.rewrite (write.rewrite_id now) (write.rewrite_userId now)
        (write.rewrite_stripeSubscriptionId now) ?_).mono grows
      intro row present chosen live
      rw [RowWrite.rewrite_status inserts] at live
      have found := consistent.findByStripeId_eq present
      rw [chosen] at found
      rw [RowWrite.refused, RowWrite.owner_of_existing inserts, found] at allowed
      cases given : write.status with
      | none =>
          rw [given] at live
          exact .inl live
      | some status =>
          rw [given] at live allowed
          have statusLive : status.live = true := live
          exact .inr (by simpa [statusLive] using allowed)

end TableConsistent
end ConferenceContact
