import ConferenceContact.Billing.DirectoryGuard

/-!
# The status report and the guard

`getStatus` reads the newest row of a user, the directory guard the newest one
that is not `EXPIRED`.  They disagree exactly where an expired row hides an
older row that still grants access.
-/

namespace ConferenceContact

open Process DirectoryAccessGuard

namespace SubscriptionsService

/-- Whether the status report of a user says that the Directory is open. -/
def reportsAccess
    (app : Deployment)
    (userId : UserId)
    (input : Input)
    (world : World) : Bool :=
  match ((getStatus app userId).run input world).1 with
  | .ok report => report.hasDirectoryAccess
  | .error _ => false

theorem reportsAccess_eq
    {app : Deployment}
    {user : User}
    {input : Input}
    {world : World}
    (found : world.users.find? (fun other => other.id = user.id) = some user) :
    reportsAccess app user.id input world =
      (staff user.role || user.adminGrantedDirectoryAccess ||
        rowGrants app input.now
          (world.subscriptions.find? fun row => row.userId = user.id)) := by
  unfold reportsAccess getStatus
  simp only [run_bind, run_query, UsersService.findById, Service.run_dateNow, found]
  cases newest : world.subscriptions.find? fun row => row.userId = user.id with
  | none =>
      simp only [Option.map_none, Option.any_some]
      exact (Bool.or_false _).symm
  | some row =>
      simp only [Option.map_some, Option.any_some]
      rfl

end SubscriptionsService

/-- The newest row of a user is expired. -/
def World.NewestExpired (world : World) (userId : UserId) : Prop :=
  ∃ row, world.subscriptions.find? (fun row => row.userId = userId) = some row ∧
    row.status = .expired

/-- A row that is not expired is what both the report and the guard read. -/
theorem find?_considers_of_newest
    {userId : UserId}
    {rows : List SubscriptionRow}
    {row : SubscriptionRow}
    (newest : rows.find? (fun row => row.userId = userId) = some row)
    (counts : row.status ≠ .expired) :
    rows.find? (considers userId) = some row := by
  obtain ⟨owned, before, after, split, others⟩ := List.find?_eq_some_iff_append.mp newest
  refine List.find?_eq_some_iff_append.mpr ⟨?_, before, after, split, ?_⟩
  · simpa [considers, counts] using owned
  · intro other present
    have foreign := others other present
    simp only [Bool.not_eq_true', decide_eq_false_iff_not] at foreign
    simp [considers, foreign]

/-- Without a row of the user neither the report nor the guard finds one. -/
theorem find?_considers_of_none
    {userId : UserId}
    {rows : List SubscriptionRow}
    (none : rows.find? (fun row => row.userId = userId) = Option.none) :
    rows.find? (considers userId) = Option.none := by
  rw [List.find?_eq_none] at none ⊢
  intro row present
  have foreign : row.userId ≠ userId := by simpa using none row present
  simp [considers, foreign]

/-- The report of an existing user agrees with the guard, whose token carries the
role on file, exactly where no expired row hides a row that grants access. -/
theorem status_agrees_iff
    (app : Deployment)
    (user : User)
    (input : Input)
    (world : World)
    (found : world.users.find? (fun other => other.id = user.id) = some user) :
    SubscriptionsService.reportsAccess app user.id input world =
        admits app { sub := user.id, role := user.role } input world ↔
      staff user.role = true ∨ user.adminGrantedDirectoryAccess = true ∨
        ¬world.NewestExpired user.id ∨
        ∀ row, world.subscriptions.find? (considers user.id) = some row →
          hasDirectoryAccess app input.now row.status row.pastDueSince = false := by
  have comped : world.isComped user.id = user.adminGrantedDirectoryAccess := by
    unfold World.isComped
    rw [found]
    rfl
  rw [SubscriptionsService.reportsAccess_eq found, admits_eq, comped]
  cases isStaff : staff user.role with
  | true => simp
  | false =>
  cases isComped : user.adminGrantedDirectoryAccess with
  | true => simp
  | false =>
  simp only [Bool.false_or, Bool.false_eq_true, false_or]
  unfold grants
  cases newest : world.subscriptions.find? fun row => row.userId = user.id with
  | none =>
      have visible : ¬world.NewestExpired user.id := by
        rintro ⟨row, other, -⟩
        rw [newest] at other
        cases other
      rw [find?_considers_of_none newest]
      exact iff_of_true rfl (.inl visible)
  | some row =>
      by_cases expired : row.status = .expired
      · have hidden : world.NewestExpired user.id := ⟨row, newest, expired⟩
        have nothing : rowGrants app input.now (some row) = false := by
          rw [rowGrants_some, expired]
          rfl
        rw [nothing]
        simp only [hidden, not_true_eq_false, false_or]
        cases deciding : world.subscriptions.find? (considers user.id) with
        | none => exact iff_of_true rfl nofun
        | some older =>
            rw [rowGrants_some]
            constructor
            · rintro agree _ ⟨⟩
              exact agree.symm
            · intro denies
              exact (denies older rfl).symm
      · have visible : ¬world.NewestExpired user.id := by
          rintro ⟨other, same, otherExpired⟩
          rw [newest] at same
          cases same
          exact expired otherExpired
        rw [find?_considers_of_newest newest expired]
        exact iff_of_true rfl (.inl visible)

/-! ## Samples -/

/-- The sample account. -/
def sampleAccount : User :=
  { id := 0, email := "ann@example.com", passwordHash := "correct horse" }

/-- A subscription ends, and a second one is opened but never paid. -/
def sampleHiddenRun : List Occurrence :=
  [sampleDelivery 1000 (.subscriptionCreated (sampleSubscription 7 .active))
      [sampleSubscription 7 .active],
    sampleDelivery 2000 (.subscriptionDeleted (sampleSubscription 7 .canceled))
      [sampleSubscription 7 .canceled],
    sampleDelivery 3000 (.subscriptionCreated (sampleSubscription 8 .incomplete))
      [sampleSubscription 8 .incomplete]]

/-- Before the second one is opened both say that the Directory is open. -/
theorem status_agrees_iff_canceled :
    SubscriptionsService.reportsAccess sampleDeployment 0 { now := 2500 }
        ((sampleHiddenRun.take 2).foldl (Occurrence.step sampleDeployment)
          sampleBackend) =
      admits sampleDeployment { sub := 0, role := .user } { now := 2500 }
        ((sampleHiddenRun.take 2).foldl (Occurrence.step sampleDeployment)
          sampleBackend) := by
  refine (status_agrees_iff sampleDeployment sampleAccount { now := 2500 }
    ((sampleHiddenRun.take 2).foldl (Occurrence.step sampleDeployment) sampleBackend)
    (by decide)).mpr (.inr (.inr (.inl ?_)))
  rintro ⟨row, newest, expired⟩
  have canceled :
      (((sampleHiddenRun.take 2).foldl (Occurrence.step sampleDeployment)
        sampleBackend).subscriptions.find? fun row => row.userId = 0).all
          (·.status = .canceled) = true := by
    decide
  rw [show sampleAccount.id = 0 from rfl] at newest
  rw [newest, Option.all_some, expired] at canceled
  cases of_decide_eq_true canceled

/-- The unpaid subscription hides the ended one from the report but not from the
guard. -/
theorem status_hides_canceled_row :
    (sampleHiddenRun.foldl (Occurrence.step sampleDeployment) sampleBackend).users.find?
        (fun user => user.id = 0) = some sampleAccount ∧
      admits sampleDeployment { sub := 0, role := sampleAccount.role } { now := 4000 }
        (sampleHiddenRun.foldl (Occurrence.step sampleDeployment) sampleBackend) =
          true ∧
      SubscriptionsService.reportsAccess sampleDeployment 0 { now := 4000 }
        (sampleHiddenRun.foldl (Occurrence.step sampleDeployment) sampleBackend) =
          false := by
  refine ⟨?_, ?_, ?_⟩
  · decide
  · decide
  · decide

end ConferenceContact
