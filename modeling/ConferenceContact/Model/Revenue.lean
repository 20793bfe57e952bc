import ConferenceContact.Foundation.Grouping
import ConferenceContact.Model.Billing
import Mathlib.Data.List.Sort
import Mathlib.Data.String.Basic

/-!
# Revenue

What `AdminService` reports of payments: for each user in the list of users, and for each
month.
-/

namespace ConferenceContact

open Process Grouping

/-! ## Months -/

/-- A number in decimal digits, with zeros in front. -/
def padStart (width number : Nat) : List Char :=
  let digits := Nat.toDigits 10 number
  List.replicate (width - digits.length) '0' ++ digits

/-- The year and the month of a day since 1970, in the Gregorian calendar. -/
def yearAndMonth (day : Nat) : Nat × Nat :=
  -- Counted from the first of March of the year 0, in eras of 400 years.
  let shifted := day + 719468
  let dayOfEra := shifted % 146097
  let yearOfEra :=
    (dayOfEra - dayOfEra / 1460 + dayOfEra / 36524 - dayOfEra / 146096) / 365
  let dayOfYear := dayOfEra - (365 * yearOfEra + yearOfEra / 4 - yearOfEra / 100)
  let fromMarch := (5 * dayOfYear + 2) / 153
  let year := yearOfEra + shifted / 146097 * 400
  if fromMarch < 10 then (year, fromMarch + 3) else (year + 1, fromMarch - 9)

/-- `toISOString().slice(0, 7)`; years from 10000 on have six digits and a sign. -/
def isoMonth (time : Time) : String :=
  let (year, month) := yearAndMonth (time / 86400000)
  let yearText := if year ≤ 9999 then padStart 4 year else '+' :: padStart 6 year
  String.ofList ((yearText ++ '-' :: padStart 2 month).take 7)

example : (isoMonth 0, isoMonth 951782400000, isoMonth 1767225599999, isoMonth 1767225600000) =
    ("1970-01", "2000-02", "2025-12", "2026-01") := by decide +kernel

namespace AdminService

/-! ## By user -/

/-- What a user has bought and paid so far. -/
structure BillingSummary where
  creditsPurchased : Int
  lifetimePaidCents : Nat
  deriving DecidableEq

/-- `creditGrant.groupBy` the user, with the sums of credits and of amounts; the sum of no
amounts counts as 0. -/
def creditGrantSums (userIds : List UserId) (world : World) : List (UserId × Int × Nat) :=
  group (0, 0) (·.userId)
    (fun grant sums => (sums.1 + grant.credits, sums.2 + grant.amountPaidCents.getD 0))
    (world.creditGrants.filter fun grant => grant.userId ∈ userIds) []

/-- The users of the subscriptions, each with the amounts of its paid invoices. -/
def subscriptionsWithInvoices (userIds : List UserId) (world : World) : List (UserId × List Nat) :=
  (world.subscriptions.filter fun row => row.userId ∈ userIds).map fun row =>
    (row.userId,
      (world.invoices.filter fun invoice =>
        invoice.subscriptionId = row.id ∧ invoice.status = .paid).map (·.amountCents))

/-- Give every user of a page what it has bought and paid. -/
def attachBillingSummary (users : List User) : Service (List (User × BillingSummary)) := do
  let userIds := users.map (·.id)
  if userIds.length = 0 then
    return []
  else
    let creditGrantSums ← query fun _ world => creditGrantSums userIds world
    let subscriptionsWithInvoices ← query fun _ world => subscriptionsWithInvoices userIds world
    let directoryPaidCentsByUser :=
      group 0 Prod.fst (fun sub paid => paid + sub.2.sum) subscriptionsWithInvoices []
    return users.map fun user =>
      let sums := (creditGrantSums.lookup user.id).getD (0, 0)
      (user,
        { creditsPurchased := sums.1
          lifetimePaidCents :=
            sums.2 + (directoryPaidCentsByUser.lookup user.id).getD 0 })

/-! ## By month -/

/-- The entry of a month. -/
structure MonthRow where
  directoryCents : Nat := 0
  leadFinderCents : Nat := 0
  currency : String := "usd"
  invoiceCount : Nat := 0
  creditGrantCount : Nat := 0
  deriving DecidableEq

/-- The revenue of a month, with its name and its total. -/
structure MonthlyRevenue extends MonthRow where
  month : String
  totalCents : Nat
  deriving DecidableEq

/-- What is selected of a paid invoice. -/
structure PaidInvoice where
  amountCents : Nat
  currency : String
  paidAt : Time

/-- What is selected of a grant that was paid for. -/
structure PaidCreditGrant where
  amountPaidCents : Nat
  createdAt : Time

/-- `where: { status: 'PAID', paidAt: { not: null } }`. -/
def paidInvoices (world : World) : List PaidInvoice :=
  (world.invoices.filter fun invoice => invoice.status = .paid).filterMap fun invoice =>
    invoice.paidAt.map fun paidAt => ⟨invoice.amountCents, invoice.currency, paidAt⟩

/-- `where: { amountPaidCents: { not: null } }`. -/
def paidCreditGrants (world : World) : List PaidCreditGrant :=
  world.creditGrants.filterMap fun grant =>
    grant.amountPaidCents.map fun amountPaidCents => ⟨amountPaidCents, grant.createdAt⟩

/-- Count a paid invoice into its month. -/
def addInvoice (invoice : PaidInvoice) (row : MonthRow) : MonthRow :=
  { row with
    directoryCents := row.directoryCents + invoice.amountCents
    currency := invoice.currency
    invoiceCount := row.invoiceCount + 1 }

/-- Count a sale of credits into its month. -/
def addGrant (grant : PaidCreditGrant) (row : MonthRow) : MonthRow :=
  { row with
    leadFinderCents := row.leadFinderCents + grant.amountPaidCents
    creditGrantCount := row.creditGrantCount + 1 }

/-- The entries of all months, in the order in which they came. -/
def byMonth (invoices : List PaidInvoice) (grants : List PaidCreditGrant) :
    List (String × MonthRow) :=
  group {} (fun grant => isoMonth grant.createdAt) addGrant grants
    (group {} (fun invoice => isoMonth invoice.paidAt) addInvoice invoices [])

/-- The texts of months are compared as `localeCompare` does: by their digits. -/
def getMonthlyRevenue : Service (List MonthlyRevenue) := do
  let invoices ← query fun _ world => paidInvoices world
  let grants ← query fun _ world => paidCreditGrants world
  return ((byMonth invoices grants).map fun entry =>
      { entry.2 with
        month := entry.1
        totalCents := entry.2.directoryCents + entry.2.leadFinderCents }).insertionSort
    fun left right => right.month ≤ left.month

end AdminService
end ConferenceContact
