import Mathlib.Data.List.Basic

/-!
# Single-use tokens

Tokens are issued to owners and used up.  A token is good as long as it is the newest of
its owner, it has not been used up, and its time has not passed.
-/

namespace ConferenceContact

/-- A token as it was issued. -/
structure Issue (κ τ : Type) where
  token : τ
  owner : κ
  expiresAt : Nat
  deriving DecidableEq

/-- Everything that has been issued, the newest first, and what has been used up. -/
structure TokenBook (κ τ : Type) where
  issues : List (Issue κ τ) := []
  consumed : List τ := []
  deriving DecidableEq

namespace TokenBook

variable {κ τ : Type} [DecidableEq κ]

/-- A book with one token more. -/
def issue (issue : Issue κ τ) (book : TokenBook κ τ) : TokenBook κ τ :=
  { book with issues := issue :: book.issues }

/-- A book in which a token has been used. -/
def consume (token : τ) (book : TokenBook κ τ) : TokenBook κ τ :=
  { book with consumed := token :: book.consumed }

/-- The token most recently issued to an owner. -/
def newest (owner : κ) (book : TokenBook κ τ) : Option (Issue κ τ) :=
  book.issues.find? fun issue => issue.owner = owner

/-- The token is the newest of its owner and has not been used up. -/
def Unused (issue : Issue κ τ) (book : TokenBook κ τ) : Prop :=
  book.newest issue.owner = some issue ∧ issue.token ∉ book.consumed

theorem newest_issue (issue : Issue κ τ) (owner : κ) (book : TokenBook κ τ) :
    (book.issue issue).newest owner =
      if issue.owner = owner then some issue else book.newest owner := by
  unfold newest TokenBook.issue
  rw [List.find?_cons]
  split <;> simp_all

@[simp] theorem newest_consume (token : τ) (owner : κ) (book : TokenBook κ τ) :
    (book.consume token).newest owner = book.newest owner := rfl

theorem mem_of_newest
    {owner : κ}
    {issue : Issue κ τ}
    {book : TokenBook κ τ}
    (isNewest : book.newest owner = some issue) :
    issue ∈ book.issues ∧ issue.owner = owner :=
  ⟨List.mem_of_find?_eq_some isNewest, by simpa using List.find?_some isNewest⟩

/-- A new token supersedes what its owner held. -/
theorem unused_issue_iff
    {issue other : Issue κ τ}
    {book : TokenBook κ τ}
    (different : other ≠ issue) :
    (book.issue issue).Unused other ↔ issue.owner ≠ other.owner ∧ book.Unused other := by
  unfold Unused
  rw [newest_issue]
  by_cases same : issue.owner = other.owner
  · rw [if_pos same]
    refine iff_of_false ?_ fun kept => kept.1 same
    rintro ⟨isNewest, -⟩
    exact different (Option.some.inj isNewest).symm
  · rw [if_neg same]
    exact ⟨fun unused => ⟨same, unused⟩, fun kept => kept.2⟩

/-- A new token can be used. -/
theorem unused_issue_self
    {issue : Issue κ τ}
    {book : TokenBook κ τ}
    (fresh : issue.token ∉ book.consumed) :
    (book.issue issue).Unused issue :=
  ⟨by rw [newest_issue, if_pos rfl], fresh⟩

/-- A use uses one token up. -/
theorem unused_consume_iff
    {token : τ}
    {other : Issue κ τ}
    {book : TokenBook κ τ} :
    (book.consume token).Unused other ↔ other.token ≠ token ∧ book.Unused other := by
  unfold Unused consume
  rw [List.mem_cons, not_or]
  exact and_left_comm

end TokenBook
end ConferenceContact
