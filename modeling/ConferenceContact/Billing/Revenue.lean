import ConferenceContact.Billing.RevenueRequests
import ConferenceContact.Model.Revenue

/-!
# Revenue by user and by month

The list of users and the report of a month add up the same payments: an invoice counts
for the user of its subscription and for the month it was paid in, a grant for its user and
for the month it was made in.  Every payment has one user and one month, so both sums are
the sum of all payments, in every state that requests lead to.
-/

namespace ConferenceContact

open Process Grouping

/-! ## Reachable states -/

/-- What adds accounts, subscriptions, invoices or grants, or ends an account. -/
inductive RevenueRequest
  | billing (request : BillingRequest)
  | register (dto : RegisterDto)
  | deleteUser (adminUserId targetUserId : UserId)

/-- What a request has the services do. -/
def RevenueRequest.handle (app : Deployment) : RevenueRequest → Service Unit
  | billing request => request.handle app
  | register dto => AuthService.register app dto
  | deleteUser adminUserId targetUserId =>
      AdminService.deleteUser app adminUserId targetUserId

/-- What the rest of the backend, and Stripe, may do. -/
structure OffTheBooks (before after : World) : Prop where
  accounts : after.users.map (·.id) = before.users.map (·.id)
  subscriptions : after.subscriptions = before.subscriptions
  invoices : after.invoices = before.invoices
  creditGrants : after.creditGrants = before.creditGrants
  nextId : before.nextId ≤ after.nextId

/-- The code that may be running. -/
def Trades (app : Deployment) (service : Service Unit) : Prop :=
  (∃ request : RevenueRequest, service = request.handle app) ∨ service.Respects OffTheBooks

/-- A backend with accounts of its own ids, which nobody has paid for yet. -/
structure World.Unpaid (world : World) : Prop where
  accountsDistinct : (world.users.map (·.id)).Nodup
  accountsFresh : ∀ account ∈ world.users.map (·.id), account < world.nextId
  subscriptions : world.subscriptions = []
  invoices : world.invoices = []
  creditGrants : world.creditGrants = []

/-- A state that some interleaving of requests leads to, any of their calls rejected. -/
def World.Traded (app : Deployment) (world : World) : Prop :=
  ∃ start services schedule, World.Unpaid start ∧
    (∀ service ∈ services, Trades app service) ∧
    (Process.machine.run { state := start, members := services } schedule).state = world

variable {app : Deployment} {world : World}

theorem Trades.keeps {service : Service Unit} (trades : Trades app service) :
    KeepsRecords service world fun _ _ => True := by
  rcases trades with ⟨request, rfl⟩ | respects
  · cases request with
    | billing request => exact request.keepsRecords
    | register dto => exact records_register dto
    | deleteUser adminUserId targetUserId =>
        exact records_of_same (sameRecords_deleteUser adminUserId targetUserId)
  · refine records_of_same (respects.mono fun before after elsewhere => ?_)
    exact sameRecords_of_columns elsewhere.accounts
      (congrArg (List.map SubscriptionRow.owned) elsewhere.subscriptions)
      elsewhere.invoices elsewhere.creditGrants elsewhere.nextId

theorem World.Unpaid.booked (unpaid : world.Unpaid) : world.Booked := by
  unfold World.Booked World.revenueRecords
  rw [unpaid.subscriptions, unpaid.invoices, unpaid.creditGrants]
  constructor
  · exact unpaid.accountsDistinct
  · exact unpaid.accountsFresh
  all_goals simp

/-- Ids and references are as they should be in every reachable state. -/
theorem World.Traded.booked (traded : world.Traded app) : world.Booked := by
  obtain ⟨start, services, schedule, unpaid, trade, rfl⟩ := traded
  exact Sustains.crew unpaid.booked (fun service present => (trade service present).keeps)
    schedule

/-! ## All payments -/

namespace World

/-- What is paid for a subscription. -/
def paidFor (world : World) (subscriptionId : Nat) : Nat :=
  ((world.invoices.filter fun invoice =>
    invoice.subscriptionId = subscriptionId ∧ invoice.status = .paid).map (·.amountCents)).sum

/-- What a user has paid: for credits, and for subscriptions. -/
def paidBy (world : World) (userId : UserId) : Nat :=
  ((world.creditGrants.filter fun grant => grant.userId = userId).map
      fun grant => grant.amountPaidCents.getD 0).sum +
    ((world.subscriptions.filter fun row => row.userId = userId).map
      fun row => world.paidFor row.id).sum

/-- The paid invoices. -/
def settled (world : World) : List Invoice :=
  world.invoices.filter fun invoice => invoice.status = .paid

/-- All that was paid. -/
def income (world : World) : Nat :=
  (world.settled.map (·.amountCents)).sum +
    (world.creditGrants.map fun grant => grant.amountPaidCents.getD 0).sum

/-- Every paid invoice is of one subscription. -/
theorem sum_paidFor (booked : world.Booked) :
    (world.subscriptions.map fun row => world.paidFor row.id).sum =
      (world.settled.map (·.amountCents)).sum := by
  have covered : ∀ invoice ∈ world.settled,
      invoice.subscriptionId ∈ world.subscriptions.map (·.id) := by
    intro invoice present
    have known := booked.billed invoice.bill (List.mem_map_of_mem (List.mem_of_mem_filter present))
    rw [World.revenueRecords, List.map_map] at known
    exact known
  have distinct : (world.subscriptions.map (·.id)).Nodup := by
    have distinct := booked.subscriptionsDistinct
    rw [World.revenueRecords, List.map_map] at distinct
    exact distinct
  rw [← sum_groups distinct (·.amountCents) covered, List.map_map]
  refine congrArg List.sum (List.map_congr_left fun row _ => ?_)
  rw [Function.comp_apply, settled, List.filter_filter, paidFor]
  simp only [Bool.decide_and]

/-- Every payment is of one user. -/
theorem sum_paidBy (booked : world.Booked) :
    (world.users.map fun user => world.paidBy user.id).sum = world.income := by
  have distinct : (world.users.map (·.id)).Nodup := booked.accountsDistinct
  have grants : ∀ grant ∈ world.creditGrants, grant.userId ∈ world.users.map (·.id) :=
    fun grant present => booked.granted _ (List.mem_map_of_mem present)
  have rows : ∀ row ∈ world.subscriptions, row.userId ∈ world.users.map (·.id) :=
    fun row present => booked.owners row.owned (List.mem_map_of_mem present)
  have byUser : (world.users.map fun user => world.paidBy user.id).sum =
      ((world.users.map (·.id)).map world.paidBy).sum := by
    rw [List.map_map]
    rfl
  rw [byUser]
  unfold paidBy
  rw [List.sum_map_add, sum_groups distinct _ grants, sum_groups distinct _ rows,
    sum_paidFor booked, income, Nat.add_comm]

end World

/-! ## By user -/

namespace AdminService

/-- What is reported of a user in a list. -/
def billingSummary (userIds : List UserId) (world : World) (user : User) : BillingSummary :=
  let sums := ((creditGrantSums userIds world).lookup user.id).getD (0, 0)
  { creditsPurchased := sums.1
    lifetimePaidCents := sums.2 +
      ((group 0 Prod.fst (fun sub paid => paid + sub.2.sum)
        (subscriptionsWithInvoices userIds world) []).lookup user.id).getD 0 }

theorem run_attachBillingSummary (users : List User) (input : Input) :
    (attachBillingSummary users).run input world =
      (.ok (users.map fun user => (user, billingSummary (users.map (·.id)) world user)),
        world) := by
  unfold attachBillingSummary
  cases users with
  | nil => rfl
  | cons user rest => rfl

/-- Each user in a list is reported what it has paid. -/
theorem lifetimePaidCents_eq
    {userIds : List UserId}
    {user : User}
    (listed : user.id ∈ userIds) :
    (billingSummary userIds world user).lifetimePaidCents = world.paidBy user.id := by
  have grants : (((creditGrantSums userIds world).lookup user.id).getD (0, 0)).2 =
      ((world.creditGrants.filter fun grant => grant.userId = user.id).map
        fun grant => grant.amountPaidCents.getD 0).sum := by
    unfold creditGrantSums
    rw [lookup_group Prod.snd (fun grant => grant.amountPaidCents.getD 0) fun _ _ => rfl,
      filter_listed listed]
    exact Nat.zero_add _
  have rows : ((group 0 Prod.fst (fun sub paid => paid + sub.2.sum)
      (subscriptionsWithInvoices userIds world) []).lookup user.id).getD 0 =
        ((world.subscriptions.filter fun row => row.userId = user.id).map
          fun row => world.paidFor row.id).sum := by
    have added (sub : UserId × List Nat) (paid : Nat) : paid + sub.2.sum = paid + sub.2.sum := rfl
    refine ((lookup_group (fun paid => paid) _ added _ _).trans (Nat.zero_add _)).trans ?_
    unfold subscriptionsWithInvoices
    rw [List.filter_map, List.map_map]
    exact congrArg (fun rows : List SubscriptionRow =>
      (rows.map fun row => world.paidFor row.id).sum) (filter_listed listed _)
  unfold billingSummary World.paidBy
  dsimp only
  rw [grants, rows]

/-- What the users of some pages have paid adds up to all that was paid, if every user is on
one page. -/
theorem sum_pages
    (booked : world.Booked)
    {pages : List (List User)}
    (divided : pages.flatten.Perm world.users) :
    ((pages.map fun page => page.map fun user =>
        (user, billingSummary (page.map (·.id)) world user)).flatten.map
          fun entry => entry.2.lifetimePaidCents).sum = world.income := by
  rw [← world.sum_paidBy booked, ← (divided.map _).sum_eq, List.map_flatten, List.map_flatten,
    List.map_map]
  congr 2
  refine List.map_congr_left fun page _ => ?_
  rw [Function.comp_apply, List.map_map]
  refine List.map_congr_left fun user present => ?_
  exact lifetimePaidCents_eq (List.mem_map_of_mem present)

/-! ## By month -/

/-- The months of the report, before they are sorted. -/
def monthsOf (world : World) : List MonthlyRevenue :=
  (byMonth (paidInvoices world) (paidCreditGrants world)).map fun entry =>
    { entry.2 with
      month := entry.1
      totalCents := entry.2.directoryCents + entry.2.leadFinderCents }

/-- Later months first. -/
def descending (left right : MonthlyRevenue) : Prop :=
  right.month ≤ left.month

instance : DecidableRel descending :=
  fun left right => inferInstanceAs (Decidable (right.month ≤ left.month))

instance : Std.Total descending :=
  ⟨fun left right => le_total right.month left.month⟩

instance : IsTrans MonthlyRevenue descending :=
  ⟨fun _ _ _ first second => le_trans second first⟩

theorem run_getMonthlyRevenue (input : Input) :
    getMonthlyRevenue.run input world =
      (.ok ((monthsOf world).insertionSort descending), world) := rfl

/-- An amount of the months is what the invoices and the grants add to it. -/
theorem sum_monthsOf
    (world : World)
    (amount : MonthRow → Nat)
    (ofInvoice : PaidInvoice → Nat)
    (ofGrant : PaidCreditGrant → Nat)
    (empty : amount {} = 0)
    (addsInvoice : ∀ invoice row,
      amount (addInvoice invoice row) = amount row + ofInvoice invoice)
    (addsGrant : ∀ grant row, amount (addGrant grant row) = amount row + ofGrant grant) :
    ((monthsOf world).map fun month => amount month.toMonthRow).sum =
      ((paidInvoices world).map ofInvoice).sum + ((paidCreditGrants world).map ofGrant).sum := by
  unfold monthsOf
  rw [List.map_map]
  refine (sum_group amount ofGrant empty addsGrant _).trans ?_
  rw [sum_group amount ofInvoice empty addsInvoice, List.map_nil, List.sum_nil, Nat.zero_add]

/-- No month is reported twice. -/
theorem nodup_monthsOf (world : World) : ((monthsOf world).map (·.month)).Nodup := by
  unfold monthsOf
  rw [List.map_map]
  exact nodup_keys_group _ (nodup_keys_group _ List.nodup_nil)

/-- The paid invoices are those that the report selects, as every one says when. -/
theorem map_paidInvoices (booked : world.Booked) :
    (paidInvoices world).map (·.amountCents) = world.settled.map (·.amountCents) := by
  unfold paidInvoices
  rw [List.map_filterMap, ← List.filterMap_eq_map]
  refine List.filterMap_congr fun invoice present => ?_
  obtain ⟨stored, paid⟩ := List.mem_filter.mp present
  have dated := booked.dated invoice.bill (List.mem_map_of_mem stored) (of_decide_eq_true paid)
  obtain ⟨paidAt, said⟩ := Option.isSome_iff_exists.mp dated
  have said : invoice.paidAt = some paidAt := said
  rw [said]
  rfl

/-- A grant that nothing was paid for adds nothing. -/
theorem sum_paidCreditGrants (grants : List CreditGrant) :
    ((grants.filterMap fun grant => grant.amountPaidCents.map fun amountPaidCents =>
        (⟨amountPaidCents, grant.createdAt⟩ : PaidCreditGrant)).map (·.amountPaidCents)).sum =
      (grants.map fun grant => grant.amountPaidCents.getD 0).sum := by
  induction grants with
  | nil => rfl
  | cons grant rest inductionHypothesis =>
      rw [List.map_cons, List.sum_cons, ← inductionHypothesis, List.filterMap_cons]
      cases grant.amountPaidCents with
      | none => exact (Nat.zero_add _).symm
      | some amountPaidCents => rfl

/-- The months add up to all that was paid. -/
theorem sum_totalCents (booked : world.Booked) :
    ((monthsOf world).map (·.totalCents)).sum = world.income := by
  have total : (monthsOf world).map (·.totalCents) =
      (monthsOf world).map fun month => month.directoryCents + month.leadFinderCents := by
    unfold monthsOf
    rw [List.map_map, List.map_map]
    rfl
  rw [total]
  rw [sum_monthsOf world (fun row => row.directoryCents + row.leadFinderCents)
    (·.amountCents) (·.amountPaidCents) rfl
    (fun _ _ => Nat.add_right_comm _ _ _) fun _ _ => (Nat.add_assoc _ _ _).symm]
  rw [map_paidInvoices booked, World.income]
  exact congrArg _ (sum_paidCreditGrants world.creditGrants)

/-- Each month counts its paid invoices. -/
theorem sum_invoiceCount (booked : world.Booked) :
    ((monthsOf world).map (·.invoiceCount)).sum =
      world.invoices.countP fun invoice => invoice.status = .paid := by
  have selected : (paidInvoices world).length = world.settled.length := by
    simpa using congrArg List.length (map_paidInvoices booked)
  rw [sum_monthsOf world (·.invoiceCount) (fun _ => 1) (fun _ => 0) rfl
    (fun _ _ => rfl) fun _ _ => rfl, List.countP_eq_length_filter]
  simpa [World.settled] using selected

/-- Each month counts the grants that were paid for. -/
theorem sum_creditGrantCount (world : World) :
    ((monthsOf world).map (·.creditGrantCount)).sum =
      world.creditGrants.countP fun grant => grant.amountPaidCents.isSome := by
  rw [sum_monthsOf world (·.creditGrantCount) (fun _ => 0) (fun _ => 1) rfl
    (fun _ _ => rfl) fun _ _ => rfl]
  have selected : (paidCreditGrants world).length =
      world.creditGrants.countP fun grant => grant.amountPaidCents.isSome := by
    unfold paidCreditGrants
    rw [List.length_filterMap_eq_countP]
    simp only [Option.isSome_map]
  simpa using selected

/-- The report is in descending order, with no month twice. -/
theorem sorted_months (world : World) :
    ((monthsOf world).insertionSort descending).Pairwise
      fun left right => right.month < left.month := by
  have sorted := List.pairwise_insertionSort descending (monthsOf world)
  have distinct : (((monthsOf world).insertionSort descending).map (·.month)).Nodup :=
    ((List.perm_insertionSort _ _).map _).nodup_iff.mpr (nodup_monthsOf world)
  rw [List.Nodup, List.pairwise_map] at distinct
  exact (sorted.and distinct).imp fun ⟨later, differs⟩ => lt_of_le_of_ne later differs.symm

/-- The sums by user, over any division of the users into pages, and by month are the same. -/
theorem revenue_agrees
    (traded : world.Traded app)
    (input : Input)
    {pages : List (List User)}
    (divided : pages.flatten.Perm world.users) :
    ∃ (lists : List (List (User × BillingSummary))) (months : List MonthlyRevenue),
      pages.map (fun page => (attachBillingSummary page).run input world) =
          lists.map (fun list => (.ok list, world)) ∧
        getMonthlyRevenue.run input world = (.ok months, world) ∧
        (lists.flatten.map fun entry => entry.2.lifetimePaidCents).sum =
          (months.map (·.totalCents)).sum ∧
        (months.map (·.month)).Nodup ∧
        months.Pairwise (fun left right => right.month < left.month) ∧
        (months.map (·.invoiceCount)).sum =
          world.invoices.countP (fun invoice => invoice.status = .paid) ∧
        (months.map (·.creditGrantCount)).sum =
          world.creditGrants.countP (fun grant => grant.amountPaidCents.isSome) := by
  have booked := traded.booked
  have sorted := List.perm_insertionSort descending (monthsOf world)
  refine ⟨pages.map fun page => page.map fun user =>
    (user, billingSummary (page.map (·.id)) world user), _, ?_, run_getMonthlyRevenue input,
    ?_, ?_, sorted_months world, ?_, ?_⟩
  · rw [List.map_map]
    exact List.map_congr_left fun page _ => run_attachBillingSummary page input
  · rw [sum_pages booked divided, (sorted.map _).sum_eq, sum_totalCents booked]
  · exact (sorted.map _).nodup_iff.mpr (nodup_monthsOf world)
  · rw [(sorted.map _).sum_eq, sum_invoiceCount booked]
  · rw [(sorted.map _).sum_eq, sum_creditGrantCount]

/-- Two accounts; the first subscribes, the second buys credits a month later. -/
def sampleTraders : World :=
  { sampleBackend with
    users := [{ id := 4, email := "ben@example.com", passwordHash := "" },
      { id := 0, email := "ann@example.com", passwordHash := "" }]
    nextId := 10 }

/-- A subscription that is paid for, and a pack of credits. -/
def sampleTrades : List (Service Unit) :=
  [ RevenueRequest.handle .defaults (.billing (.webhook (.subscriptionCreated
      (sampleSubscription 7 .active)))),
    RevenueRequest.handle .defaults (.billing (.webhook (.invoicePaid
      { id := 20, subscription := some 7, amountPaid := 4900 }))),
    RevenueRequest.handle .defaults (.billing (.webhook (.checkoutSessionCompleted
      { id := 30
        mode := .payment
        metadata := { userId := some 4, credits := some "100" }
        amountTotal := some 1900 }))) ]

/-- The backend after these deliveries. -/
def sampleTraded : World :=
  (Process.machine.run { state := sampleTraders, members := sampleTrades }
    ([0, 1, 2].flatMap fun member =>
      List.replicate 9 { member, input := { now := member * 2000000000 } })).state

/-- Every user is on a page of its own. -/
theorem revenue_agrees_single_pages :
    ∃ (lists : List (List (User × BillingSummary))) (months : List MonthlyRevenue),
      (sampleTraded.users.map fun user => [user]).map
          (fun page => (attachBillingSummary page).run { now := 0 } sampleTraded) =
            lists.map (fun list => (.ok list, sampleTraded)) ∧
        getMonthlyRevenue.run { now := 0 } sampleTraded = (.ok months, sampleTraded) ∧
        (lists.flatten.map fun entry => entry.2.lifetimePaidCents).sum =
          (months.map (·.totalCents)).sum := by
  have traded : sampleTraded.Traded {} := by
    refine ⟨sampleTraders, sampleTrades, _, ⟨by decide, by decide, rfl, rfl, rfl⟩, ?_, rfl⟩
    intro service present
    simp only [sampleTrades, List.mem_cons, List.not_mem_nil, or_false] at present
    rcases present with creation | payment | purchase
    · exact .inl ⟨_, creation⟩
    · exact .inl ⟨_, payment⟩
    · exact .inl ⟨_, purchase⟩
  have divided : (sampleTraded.users.map fun user => [user]).flatten.Perm sampleTraded.users := by
    decide +kernel
  obtain ⟨lists, months, onPages, report, agree, -⟩ :=
    revenue_agrees traded { now := 0 } divided
  exact ⟨lists, months, onPages, report, agree⟩

/-- Each payment is in the month it was made in. -/
example : ((monthsOf sampleTraded).map fun month => (month.month, month.totalCents)) =
    [("1970-01", 4900), ("1970-02", 1900)] := by decide +kernel

end AdminService
end ConferenceContact
