import ConferenceContact.Billing.DirectoryStatus
import ConferenceContact.Foundation.Paging
import ConferenceContact.Model.Prospects

/-!
# Prospects and the Directory

The list of prospects and the guard of the Directory are about the same accounts.  In
every state that billing leads to, a customer whom nobody has comped is on one page of the
list or is let in; who is on the list is let in for a cancelled subscription, or for one
that is past due within its grace period, and for nothing else.
-/

namespace ConferenceContact

open Process DirectoryAccessGuard

namespace AdminService

/-! ## Who is on the list -/

section

variable {world : World} {user : User}

/-- An active account of a customer whom nobody has comped. -/
structure Customer (user : User) : Prop where
  active : user.status = .active
  role : user.role = .user ∨ user.role = .premium
  uncomped : user.adminGrantedDirectoryAccess = false

/-- A subscription of the user that is active or in its trial. -/
def Subscribed (world : World) (user : User) : Prop :=
  ∃ row ∈ world.subscriptions, row.userId = user.id ∧
    (row.status = .active ∨ row.status = .trialing)

theorem isProspect_iff :
    isProspect world user = true ↔ Customer user ∧ ¬ Subscribed world user := by
  have subscribed : (world.subscriptions.any fun row =>
      row.userId = user.id && (row.status = .active || row.status = .trialing)) = true ↔
        Subscribed world user := by
    simp [Subscribed]
  unfold isProspect
  rw [Bool.and_eq_true, Bool.not_eq_true', ← Bool.not_eq_true, subscribed]
  simp only [Bool.and_eq_true, Bool.or_eq_true, decide_eq_true_eq, Bool.not_eq_true']
  constructor
  · rintro ⟨⟨⟨active, role⟩, uncomped⟩, unsubscribed⟩
    exact ⟨⟨active, role, uncomped⟩, unsubscribed⟩
  · rintro ⟨⟨active, role, uncomped⟩, unsubscribed⟩
    exact ⟨⟨⟨active, role⟩, uncomped⟩, unsubscribed⟩

/-! ## Whom the guard lets in -/

/-- A customer is let in for the newest subscription that is not expired. -/
theorem admits_customer
    (app : Deployment)
    (primaryKey : (world.users.map (·.id)).Nodup)
    (onFile : user ∈ world.users)
    (customer : Customer user)
    (input : Input) :
    admits app { sub := user.id, role := user.role } input world =
      grants app input.now user.id world.subscriptions := by
  have found : (world.users.find? fun other => other.id = user.id) = some user :=
    Table.find?_key_eq_some primaryKey onFile
  have uncomped : world.isComped user.id = false := by
    unfold World.isComped
    rw [found, Option.any_some]
    exact customer.uncomped
  have isCustomer : staff user.role = false := by
    rcases customer.role with role | role
    · rw [role]
      rfl
    · rw [role]
      rfl
  rw [admits_eq, uncomped, isCustomer, Bool.false_or, Bool.false_or]

/-- A subscription that is active or in its trial lets its user in, since no newer one is
past due. -/
theorem grants_of_subscribed
    (app : Deployment)
    (consistent : world.Consistent)
    (subscribed : Subscribed world user)
    (now : Time) :
    grants app now user.id world.subscriptions = true := by
  obtain ⟨row, stored, owned, status⟩ := subscribed
  have live : row.status.live = true := by
    rcases status with status | status <;> rw [status] <;> rfl
  have counts : considers user.id row = true := by
    rcases status with status | status <;> simp [considers, owned, status]
  cases deciding : world.subscriptions.find? (considers user.id) with
  | none => exact absurd counts (List.find?_eq_none.mp deciding row stored)
  | some newest =>
      unfold grants
      rw [deciding, rowGrants_some]
      have newestCounts := List.find?_some deciding
      simp only [considers, Bool.decide_and, Bool.and_eq_true, decide_eq_true_eq,
        decide_not, Bool.not_eq_true', decide_eq_false_iff_not] at newestCounts
      cases newestStatus : newest.status with
      | pastDue =>
          have same := (consistent .directory).oneLive newest (List.mem_of_find?_eq_some deciding)
            row stored (newestCounts.1.trans owned.symm) (by rw [newestStatus]; rfl) live
          rw [same] at newestStatus
          rw [newestStatus] at status
          rcases status with status | status <;> cases status
      | expired => exact absurd newestStatus newestCounts.2
      | _ => rfl

/-- What lets a customer in who is not subscribed. -/
theorem grants_iff
    (app : Deployment)
    (unsubscribed : ¬ Subscribed world user)
    (now : Time) :
    grants app now user.id world.subscriptions = true ↔
      ∃ row, world.subscriptions.find? (considers user.id) = some row ∧
        (row.status = .canceled ∨
          row.status = .pastDue ∧ hasActiveAccess app now .pastDue row.pastDueSince = true) := by
  unfold grants
  cases deciding : world.subscriptions.find? (considers user.id) with
  | none => exact ⟨fun granted => (by cases granted), fun found => (by simp at found)⟩
  | some row =>
      rw [rowGrants_some]
      have stored := List.mem_of_find?_eq_some deciding
      have counts := List.find?_some deciding
      simp only [considers, Bool.decide_and, Bool.and_eq_true, decide_eq_true_eq] at counts
      have notLive : row.status ≠ .active ∧ row.status ≠ .trialing :=
        ⟨fun active => unsubscribed ⟨row, stored, counts.1, .inl active⟩,
          fun trialing => unsubscribed ⟨row, stored, counts.1, .inr trialing⟩⟩
      simp only [Option.some.injEq, exists_eq_left']
      unfold hasDirectoryAccess
      cases status : row.status with
      | active => exact absurd status notLive.1
      | trialing => exact absurd status notLive.2
      | pastDue => simp
      | canceled => simp
      | expired => simp [hasActiveAccess]

/-- A prospect that the list marks as cancelled keeps its access. -/
theorem grants_of_canceled
    (app : Deployment)
    {details : User → UserDetails}
    {listedAt : Time}
    (canceled : (enrich details listedAt world user).canceled = true)
    (now : Time) :
    grants app now user.id world.subscriptions = true := by
  unfold enrich at canceled
  dsimp only at canceled
  rw [List.head?_filter] at canceled
  obtain ⟨row, newest, status⟩ := Option.any_eq_true _ _ |>.mp canceled
  have status := of_decide_eq_true status
  unfold grants
  rw [find?_considers_of_newest newest (by rw [status]; exact fun same => by cases same),
    rowGrants_some, status]
  rfl

end

/-! ## The pages -/

/-- The order of the times of the database. -/
def signupOrder : Collation Time := .ofRank id fun _ _ => id

section

variable (contains : String → String → Bool) (details : User → UserDetails)
  (query : ListProspectsQueryDto) (world : World)

/-- The query for a page, the first of which is number 0 here. -/
def atPage (index : Nat) : ListProspectsQueryDto :=
  { query with
    page := index + 1
    page_pos := Nat.succ_pos index }

/-- `ceil(total / pageSize)`. -/
def prospectPages : Nat :=
  ((world.users.filter (matchesProspect contains details query world)).length +
    query.pageSize - 1) / query.pageSize

/-- All pages, each at its own time and with rows of one time in its own order. -/
def allProspects (arranging : Nat → List User → List User) (now : Nat → Time) : List Prospect :=
  (List.range (prospectPages contains details query world)).flatMap fun index =>
    (listProspects contains details (arranging index) (now index) (atPage query index) world).data

variable {contains details query world}

/-- Without a search everybody who is a prospect is listed. -/
theorem matchesProspect_unsearched (unsearched : query.search = none) :
    matchesProspect contains details query world = isProspect world := by
  funext user
  unfold matchesProspect
  rw [unsearched]
  exact Bool.and_true _

/-- Whatever the order of the rows of one time, the pages show every prospect once, if no
two of them have signed up at the same time. -/
theorem allProspects_perm
    (unsearched : query.search = none)
    {arranging : Nat → List User → List User}
    (arranges : ∀ index users, Paging.Arranges signupOrder (fun user => (details user).createdAt)
      users (arranging index users))
    (signups : (world.users.map fun user => (details user).createdAt).Nodup)
    (now : Nat → Time) :
    ((allProspects contains details query world arranging now).map (·.id)).Perm
      ((world.users.filter (isProspect world)).map (·.id)) := by
  have shown : (allProspects contains details query world arranging now).map (·.id) =
      (Paging.pages query.pageSize
        (fun index => arranging index (world.users.filter (isProspect world)))
        (prospectPages contains details query world)).map (·.id) := by
    unfold allProspects Paging.pages
    rw [List.map_flatMap, List.map_flatMap]
    congr 1
    funext index
    unfold listProspects
    dsimp only
    rw [matchesProspect_unsearched (show (atPage query index).search = none from unsearched),
      List.map_map]
    simp only [atPage, Paging.page, Nat.add_sub_cancel]
    rfl
  rw [shown]
  refine List.Perm.map _ ?_
  have distinct : ((world.users.filter (isProspect world)).map fun user =>
      (details user).createdAt).Nodup :=
    (List.filter_sublist.map _).nodup signups
  refine (Paging.pages_perm_iff distinct.of_map ?_ (arranges 0 _)).mpr
    (fun index => Paging.not_straddled_of_nodup distinct (arranges 0 _) _) _
    fun index => arranges index _
  have rounded := Nat.lt_div_mul_add (a := (world.users.filter (isProspect world)).length +
    query.pageSize - 1) query.pageSize_pos
  unfold prospectPages
  rw [matchesProspect_unsearched unsearched]
  omega

/-- Everybody on the list has an account that is a prospect. -/
theorem mem_allProspects
    {arranging : Nat → List User → List User}
    (arranges : ∀ index users, Paging.Arranges signupOrder (fun user => (details user).createdAt)
      users (arranging index users))
    {now : Nat → Time}
    {prospect : Prospect}
    (unsearched : query.search = none)
    (shown : prospect ∈ allProspects contains details query world arranging now) :
    ∃ user ∈ world.users, isProspect world user = true ∧
      ∃ listedAt, prospect = enrich details listedAt world user := by
  obtain ⟨index, -, onPage⟩ := List.mem_flatMap.mp shown
  unfold listProspects at onPage
  dsimp only at onPage
  rw [matchesProspect_unsearched (show (atPage query index).search = none from unsearched)]
    at onPage
  obtain ⟨user, listed, rfl⟩ := List.mem_map.mp onPage
  have matching := (arranges index _).perm.mem_iff.mp
    (List.mem_of_mem_drop (List.mem_of_mem_take listed))
  obtain ⟨onFile, isProspect⟩ := List.mem_filter.mp matching
  exact ⟨user, onFile, isProspect, now index, rfl⟩

end

/-- After any run of billing, a customer whom nobody has comped is on one page of the list
or is let into the Directory; who is on the list is let in exactly while the newest
subscription that counts is cancelled, or past due within its grace period, and always if
the list says that it is cancelled. -/
theorem prospects_or_admitted
    (app : Deployment)
    {start : World}
    (consistent : start.Consistent)
    (occurrences : List Occurrence)
    (contains : String → String → Bool)
    (details : User → UserDetails)
    {query : ListProspectsQueryDto}
    (unsearched : query.search = none)
    {arranging : Nat → List User → List User}
    (arranges : ∀ index users, Paging.Arranges signupOrder (fun user => (details user).createdAt)
      users (arranging index users))
    (now : Nat → Time) :
    let world := occurrences.foldl (Occurrence.step app) start
    let shown := allProspects contains details query world arranging now
    (world.users.map (·.id)).Nodup →
    (world.users.map fun user => (details user).createdAt).Nodup →
    (shown.map (·.id)).Nodup ∧
    (∀ user ∈ world.users, Customer user → user.id ∉ shown.map (·.id) →
      ∀ input, admits app { sub := user.id, role := user.role } input world = true) ∧
    ∀ prospect ∈ shown, ∃ user ∈ world.users, user.id = prospect.id ∧ Customer user ∧
      ∀ input,
        (admits app { sub := user.id, role := user.role } input world = true ↔
          ∃ row, world.subscriptions.find? (considers user.id) = some row ∧
            (row.status = .canceled ∨ row.status = .pastDue ∧
              hasActiveAccess app input.now .pastDue row.pastDueSince = true)) ∧
        (prospect.canceled = true →
          admits app { sub := user.id, role := user.role } input world = true) := by
  intro world shown primaryKey signups
  have reached : world.Consistent := run_consistent app consistent occurrences
  have perm : (shown.map (·.id)).Perm ((world.users.filter (isProspect world)).map (·.id)) :=
    allProspects_perm unsearched arranges signups now
  refine ⟨?_, fun user onFile customer absent input => ?_, fun prospect listed => ?_⟩
  · exact perm.nodup_iff.mpr ((List.filter_sublist.map _).nodup primaryKey)
  · rw [admits_customer app primaryKey onFile customer]
    refine grants_of_subscribed app reached ?_ input.now
    by_contra unsubscribed
    refine absent (perm.mem_iff.mpr (List.mem_map_of_mem (List.mem_filter.mpr ⟨onFile, ?_⟩)))
    exact isProspect_iff.mpr ⟨customer, unsubscribed⟩
  · obtain ⟨user, onFile, isProspect, listedAt, rfl⟩ :=
      mem_allProspects arranges unsearched listed
    obtain ⟨customer, unsubscribed⟩ := isProspect_iff.mp isProspect
    refine ⟨user, onFile, rfl, customer, fun input => ?_⟩
    rw [admits_customer app primaryKey onFile customer]
    exact ⟨grants_iff app unsubscribed input.now, fun canceled =>
      grants_of_canceled app canceled input.now⟩

/-- A backend with three accounts. -/
def prospectBackend : World :=
  { sampleBackend with
    users :=
      [{ id := 2, email := "cyd@example.com", passwordHash := "correct horse" },
        { id := 1, email := "bob@example.com", passwordHash := "correct horse" },
        { id := 0, email := "ann@example.com", passwordHash := "correct horse" }] }

/-- A subscription of Ann's ends, and one of Bob's begins. -/
def sampleSubscribers : List Occurrence :=
  sampleHiddenRun.take 2 ++
    [sampleDelivery 3000
      (.subscriptionCreated
        { sampleSubscription 9 .active with metadata := { userId := some 1, planId := some 1 } })
      [sampleSubscription 7 .canceled,
        { sampleSubscription 9 .active with metadata := { userId := some 1, planId := some 1 } }]]

/-- The backend after the events about both subscriptions. -/
def prospectWorld : World :=
  sampleSubscribers.foldl (Occurrence.step sampleDeployment) prospectBackend

/-- The accounts have signed up in the order of their ids. -/
def signedUp (user : User) : UserDetails := ⟨user.email, user.id⟩

/-- The guard's answer to a customer. -/
def admitsCustomer (userId : UserId) : Bool :=
  admits sampleDeployment { sub := userId, role := .user } { now := 5000 } prospectWorld

/-- Bob is on no page of the list and is let in; of those on it Ann, who has cancelled, is let
in, and Cyd, who has never subscribed, is not. -/
theorem prospects_or_admitted_sample :
    ((allProspects (fun _ _ => false) signedUp {} prospectWorld
        (fun _ users => users.insertionSort fun left right =>
          signupOrder.le (signedUp left).createdAt (signedUp right).createdAt = true)
        fun _ => 4000).map fun prospect => (prospect.id, prospect.canceled)) =
      [(0, true), (2, false)] ∧
    admitsCustomer 1 = true ∧ admitsCustomer 0 = true ∧ admitsCustomer 2 = false := by
  have empty : ∀ product, prospectBackend.rows product = [] := by
    intro product
    cases product <;> rfl
  obtain ⟨-, absent, listed⟩ := prospects_or_admitted sampleDeployment
    (World.consistent_of_no_rows empty) sampleSubscribers (fun _ _ => false) signedUp
    (show ({} : ListProspectsQueryDto).search = none from rfl)
    (fun _ users => Paging.arranges_insertionSort signupOrder _ users)
    (fun _ => 4000) (by decide) (by decide)
  have customers : ∀ user ∈ prospectWorld.users, user.role = .user := by decide
  refine ⟨by decide, ?_, ?_, ?_⟩
  · exact absent { id := 1, email := "bob@example.com", passwordHash := "correct horse" }
      (by decide) ⟨rfl, .inl rfl, rfl⟩ (by decide) { now := 5000 }
  · obtain ⟨user, stored, isAnn, -, admitted⟩ := listed
      ⟨0, "ann@example.com", "ann@example.com", 0, none, 0, true, false, false⟩ (by decide)
    have lets := (admitted { now := 5000 }).2 rfl
    rwa [isAnn, customers user stored] at lets
  · obtain ⟨user, stored, isCyd, -, admitted⟩ := listed
      ⟨2, "cyd@example.com", "cyd@example.com", 2, none, 0, false, false, false⟩ (by decide)
    have lets := (admitted { now := 5000 }).1
    rw [isCyd, customers user stored] at lets
    refine Bool.eq_false_iff.mpr fun letIn => ?_
    obtain ⟨row, found, -⟩ := lets.mp letIn
    have none : prospectWorld.subscriptions.find? (DirectoryAccessGuard.considers 2) = none := by
      decide
    cases none.symm.trans found

end AdminService
end ConferenceContact
