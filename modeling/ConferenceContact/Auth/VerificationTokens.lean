import ConferenceContact.Auth.Footprints
import ConferenceContact.Auth.UserRows
import ConferenceContact.Foundation.SingleUse

/-!
# Verification tokens

The tokens in the database are those of a register of single-use tokens, one owner for
each user and purpose: a row without `usedAt` is one that can still be used.
-/

namespace ConferenceContact

open Process

variable {app : Deployment} {input : Input} {world before after : World}

/-- A verification token belongs to a user for a purpose. -/
abbrev VerificationOwner := UserId × VerificationTokenPurpose

/-- The emailed tokens issued and used so far. -/
abbrev VerificationBook := TokenBook VerificationOwner RawToken

/-- A row as the issue of its token. -/
def VerificationToken.issue (row : VerificationToken) : Issue VerificationOwner RawToken where
  token := row.tokenHash.preimage
  owner := (row.userId, row.purpose)
  expiresAt := row.expiresAt

/-- The rows of the database are the entries of the register. -/
structure TokensRecorded (book : VerificationBook) (world : World) : Prop where
  rows : world.verificationTokens.map VerificationToken.issue = book.issues
  idsDistinct : (world.verificationTokens.map (·.id)).Nodup
  tokensDistinct : (world.verificationTokens.map (·.tokenHash)).Nodup
  idsFresh : ∀ row ∈ world.verificationTokens, row.id < world.nextId
  tokensFresh : ∀ row ∈ world.verificationTokens, row.tokenHash.preimage < world.nextId
  consumedFresh : ∀ token ∈ book.consumed, token < world.nextId
  unused : ∀ row ∈ world.verificationTokens, row.usedAt = none ↔ book.Unused row.issue

theorem tokensRecorded_empty (empty : world.verificationTokens = []) :
    TokensRecorded {} world where
  rows := by rw [empty]; rfl
  idsDistinct := by rw [empty]; exact List.nodup_nil
  tokensDistinct := by rw [empty]; exact List.nodup_nil
  idsFresh := by rw [empty]; exact List.forall_mem_nil _
  tokensFresh := by rw [empty]; exact List.forall_mem_nil _
  consumedFresh := List.forall_mem_nil _
  unused := by rw [empty]; exact List.forall_mem_nil _

/-! ## Issuing -/

/-- The row of a new token. -/
def issuedRow
    (input : Input)
    (world : World)
    (userId : UserId)
    (purpose : VerificationTokenPurpose) : VerificationToken where
  id := world.nextId + 1
  userId
  tokenHash := ⟨world.nextId⟩
  purpose
  expiresAt := input.now +
    (match purpose with
      | .emailVerification => emailVerificationExpiryHours
      | .passwordReset => passwordResetExpiryHours) * 3600000

/-- The unused rows of a user and a purpose, no longer unused. -/
def supersededRows
    (now : Time)
    (userId : UserId)
    (purpose : VerificationTokenPurpose)
    (rows : List VerificationToken) : List VerificationToken :=
  Table.updateWhere
    (fun token => token.userId = userId ∧ token.purpose = purpose ∧ token.usedAt = none)
    (fun token => { token with usedAt := some now }) rows

theorem run_issueVerificationToken
    (userId : UserId)
    (email : String)
    (purpose : VerificationTokenPurpose) :
    (AuthService.issueVerificationToken userId email purpose).run input world =
      (.ok (),
        { world with
          verificationTokens := issuedRow input world userId purpose ::
            supersededRows input.now userId purpose world.verificationTokens
          nextId := world.nextId + 2
          outbox :=
            if input.queueAvailable then
              (match purpose with
                | .emailVerification => .verification email world.nextId
                | .passwordReset => .passwordReset email world.nextId) :: world.outbox
            else world.outbox }) := by
  unfold AuthService.issueVerificationToken
  rw [run_bind, run_command]
  dsimp only
  rw [run_bind, Service.run_generateOpaqueToken]
  dsimp only
  rw [run_bind, run_command]
  dsimp only
  rw [EmailService.run_enqueue]
  cases purpose <;> cases input.queueAvailable <;> rfl

theorem map_supersededRows
    {now : Time}
    {userId : UserId}
    {purpose : VerificationTokenPurpose}
    {rows : List VerificationToken}
    (column : VerificationToken → κ)
    (kept : ∀ row usedAt, column { row with usedAt } = column row) :
    (supersededRows now userId purpose rows).map column = rows.map column :=
  Table.map_updateWhere _ _ _ _ fun row => kept row (some now)

/-- Issuing a token enters it in the register. -/
theorem TokensRecorded.issued
    {book : VerificationBook}
    (recorded : TokensRecorded book world)
    (userId : UserId)
    (purpose : VerificationTokenPurpose)
    (tokens : after.verificationTokens = issuedRow input world userId purpose ::
      supersededRows input.now userId purpose world.verificationTokens)
    (supply : after.nextId = world.nextId + 2) :
    TokensRecorded (book.issue (issuedRow input world userId purpose).issue) after where
  rows := by
    rw [tokens, List.map_cons, map_supersededRows VerificationToken.issue fun _ _ => rfl,
      recorded.rows]
    rfl
  idsDistinct := by
    rw [tokens, List.map_cons, List.nodup_cons,
      map_supersededRows VerificationToken.id fun _ _ => rfl]
    refine ⟨?_, recorded.idsDistinct⟩
    intro reused
    obtain ⟨row, stored, same⟩ := List.mem_map.mp reused
    have fresh := recorded.idsFresh row stored
    rw [show row.id = world.nextId + 1 from same] at fresh
    omega
  tokensDistinct := by
    rw [tokens, List.map_cons, List.nodup_cons,
      map_supersededRows VerificationToken.tokenHash fun _ _ => rfl]
    refine ⟨?_, recorded.tokensDistinct⟩
    intro reused
    obtain ⟨row, stored, same⟩ := List.mem_map.mp reused
    have fresh := recorded.tokensFresh row stored
    rw [show row.tokenHash = ⟨world.nextId⟩ from same] at fresh
    exact Nat.lt_irrefl _ fresh
  idsFresh := by
    rw [tokens, supply]
    intro row present
    rcases List.mem_cons.mp present with rfl | present
    · exact Nat.lt_succ_self _
    · obtain ⟨old, stored, rfl⟩ := Table.mem_updateWhere.mp present
      have fresh := recorded.idsFresh old stored
      split <;> exact Nat.lt_add_right 2 fresh
  tokensFresh := by
    rw [tokens, supply]
    intro row present
    rcases List.mem_cons.mp present with rfl | present
    · exact Nat.lt_add_of_pos_right Nat.two_pos
    · obtain ⟨old, stored, rfl⟩ := Table.mem_updateWhere.mp present
      have fresh := recorded.tokensFresh old stored
      split <;> exact Nat.lt_add_right 2 fresh
  consumedFresh := by
    rw [supply]
    intro token used
    exact Nat.lt_add_right 2 (recorded.consumedFresh token used)
  unused := by
    rw [tokens]
    intro row present
    rcases List.mem_cons.mp present with rfl | present
    · refine iff_of_true rfl (TokenBook.unused_issue_self ?_)
      intro used
      exact Nat.lt_irrefl _ (recorded.consumedFresh _ used)
    · obtain ⟨old, stored, rfl⟩ := Table.mem_updateWhere.mp present
      have different : old.issue ≠ (issuedRow input world userId purpose).issue := by
        intro same
        have fresh := recorded.tokensFresh old stored
        rw [show old.tokenHash.preimage = world.nextId from congrArg Issue.token same] at fresh
        exact Nat.lt_irrefl _ fresh
      have superseded := recorded.unused old stored
      by_cases chosen : (old.userId = userId ∧ old.purpose = purpose) ∧ old.usedAt = none
      · rw [if_pos (by simpa [and_assoc] using chosen)]
        refine iff_of_false nofun ?_
        intro unused
        obtain ⟨others, -⟩ := (TokenBook.unused_issue_iff different).mp unused
        exact others (Prod.ext chosen.1.1.symm chosen.1.2.symm)
      · rw [if_neg (by simpa [and_assoc] using chosen), TokenBook.unused_issue_iff different,
          superseded, iff_and_self]
        intro unused same
        obtain ⟨sameUser, samePurpose⟩ := Prod.mk.inj same
        exact chosen ⟨⟨sameUser.symm, samePurpose.symm⟩, superseded.mpr unused⟩

/-! ## Using up -/

/-- The row a token is looked up as. -/
def World.verificationRow (world : World) (rawToken : RawToken) : Option VerificationToken :=
  world.verificationTokens.find? fun row => row.tokenHash = ⟨rawToken⟩

/-- The rows once one is used up. -/
def usedRows
    (now : Time)
    (used : VerificationToken)
    (rows : List VerificationToken) : List VerificationToken :=
  Table.updateWhere (fun row => row.id = used.id)
    (fun row => { row with usedAt := some now }) rows

theorem map_usedRows
    {now : Time}
    {used : VerificationToken}
    {rows : List VerificationToken}
    (column : VerificationToken → κ)
    (kept : ∀ row usedAt, column { row with usedAt } = column row) :
    (usedRows now used rows).map column = rows.map column :=
  Table.map_updateWhere _ _ _ _ fun row => kept row (some now)

/-- A token is used up, or refused without any trace. -/
theorem run_consumeVerificationToken
    (rawToken : RawToken)
    (purpose : VerificationTokenPurpose) :
    (∃ row, world.verificationRow rawToken = some row ∧ row.purpose = purpose ∧
      row.usedAt = none ∧ input.now ≤ row.expiresAt ∧
      (AuthService.consumeVerificationToken rawToken purpose).run input world =
        (.ok row,
          { world with
            verificationTokens := usedRows input.now row world.verificationTokens })) ∨
    (∃ error, (¬∃ row, world.verificationRow rawToken = some row ∧ row.purpose = purpose ∧
        row.usedAt = none ∧ input.now ≤ row.expiresAt) ∧
      (AuthService.consumeVerificationToken rawToken purpose).run input world =
        (.error error, world)) := by
  unfold AuthService.consumeVerificationToken World.verificationRow
  rw [run_bind, run_query]
  dsimp only
  cases world.verificationTokens.find? fun row => row.tokenHash = ⟨rawToken⟩ with
  | none => exact .inr ⟨_, by rintro ⟨_, ⟨⟩, _⟩, rfl⟩
  | some row =>
      dsimp only
      by_cases samePurpose : row.purpose = purpose
      · rw [if_neg fun different => different samePurpose]
        by_cases used : row.usedAt.isSome = true
        · rw [if_pos used]
          refine .inr ⟨_, ?_, rfl⟩
          rintro ⟨_, ⟨⟩, -, unused, -⟩
          rw [unused] at used
          cases used
        · rw [if_neg used, run_bind, Service.run_dateNow]
          dsimp only
          by_cases expired : row.expiresAt < input.now
          · rw [if_pos expired]
            refine .inr ⟨_, ?_, rfl⟩
            rintro ⟨_, ⟨⟩, -, -, unexpired⟩
            exact absurd expired (Nat.not_lt_of_le unexpired)
          · rw [if_neg expired]
            exact .inl ⟨row, rfl, samePurpose, Option.not_isSome_iff_eq_none.mp used,
              Nat.le_of_not_lt expired, rfl⟩
      · rw [if_pos samePurpose]
        refine .inr ⟨_, ?_, rfl⟩
        rintro ⟨_, ⟨⟩, same, -⟩
        exact samePurpose same

/-- A use is entered in the register. -/
theorem TokensRecorded.consumed
    {book : VerificationBook}
    {row : VerificationToken}
    (recorded : TokensRecorded book world)
    (present : row ∈ world.verificationTokens)
    (tokens : after.verificationTokens = usedRows input.now row world.verificationTokens)
    (supply : after.nextId = world.nextId) :
    TokensRecorded (book.consume row.tokenHash.preimage) after where
  rows := by
    rw [tokens, map_usedRows VerificationToken.issue fun _ _ => rfl]
    exact recorded.rows
  idsDistinct := by
    rw [tokens, map_usedRows VerificationToken.id fun _ _ => rfl]
    exact recorded.idsDistinct
  tokensDistinct := by
    rw [tokens, map_usedRows VerificationToken.tokenHash fun _ _ => rfl]
    exact recorded.tokensDistinct
  idsFresh := by
    rw [tokens, supply]
    intro other listed
    obtain ⟨old, stored, rfl⟩ := Table.mem_updateWhere.mp listed
    have fresh := recorded.idsFresh old stored
    split <;> exact fresh
  tokensFresh := by
    rw [tokens, supply]
    intro other listed
    obtain ⟨old, stored, rfl⟩ := Table.mem_updateWhere.mp listed
    have fresh := recorded.tokensFresh old stored
    split <;> exact fresh
  consumedFresh := by
    rw [supply]
    exact List.forall_mem_cons.mpr ⟨recorded.tokensFresh row present, recorded.consumedFresh⟩
  unused := by
    rw [tokens]
    intro other listed
    obtain ⟨old, stored, rfl⟩ := Table.mem_updateWhere.mp listed
    have kept := recorded.unused old stored
    by_cases same : old.id = row.id
    · have isRow := Table.eq_of_key_eq recorded.idsDistinct stored present same
      subst isRow
      rw [if_pos (decide_eq_true rfl), TokenBook.unused_consume_iff]
      exact iff_of_false nofun fun unused => unused.1 rfl
    · have different : old.issue.token ≠ row.tokenHash.preimage := by
        intro equal
        have sameToken : old.tokenHash = row.tokenHash := congrArg Sha256.mk equal
        exact same (congrArg VerificationToken.id
          (Table.eq_of_key_eq recorded.tokensDistinct stored present sameToken))
      rw [if_neg (by simpa using same), kept, TokenBook.unused_consume_iff]
      exact (and_iff_right different).symm

/-! ## Acceptance -/

/-- The token is the newest of some user for this purpose, has not been used up, and its
time has not passed. -/
def AcceptsToken
    (book : VerificationBook)
    (rawToken : RawToken)
    (purpose : VerificationTokenPurpose)
    (now : Time) : Prop :=
  ∃ userId issue, book.newest (userId, purpose) = some issue ∧ issue.token = rawToken ∧
    rawToken ∉ book.consumed ∧ now ≤ issue.expiresAt

/-- What the register accepts is what the database accepts. -/
theorem TokensRecorded.accepts_iff
    {book : VerificationBook}
    (recorded : TokensRecorded book world)
    {rawToken : RawToken}
    {purpose : VerificationTokenPurpose}
    {now : Time} :
    AcceptsToken book rawToken purpose now ↔
      ∃ row, world.verificationRow rawToken = some row ∧ row.purpose = purpose ∧
        row.usedAt = none ∧ now ≤ row.expiresAt := by
  unfold AcceptsToken World.verificationRow
  constructor
  · rintro ⟨userId, issue, isNewest, rfl, unconsumed, unexpired⟩
    obtain ⟨issued, owned⟩ := TokenBook.mem_of_newest isNewest
    rw [← recorded.rows] at issued
    obtain ⟨row, stored, rfl⟩ := List.mem_map.mp issued
    refine ⟨row, Table.find?_key_eq_some recorded.tokensDistinct stored,
      congrArg Prod.snd owned, ?_, unexpired⟩
    refine (recorded.unused row stored).mpr ⟨?_, unconsumed⟩
    rw [owned]
    exact isNewest
  · rintro ⟨row, found, rfl, isUnused, unexpired⟩
    have stored := List.mem_of_find?_eq_some found
    have named : row.tokenHash = ⟨rawToken⟩ := by simpa using List.find?_some found
    obtain ⟨isNewest, unconsumed⟩ := (recorded.unused row stored).mp isUnused
    have sameToken : row.issue.token = rawToken := congrArg Sha256.preimage named
    exact ⟨row.userId, row.issue, isNewest, sameToken, sameToken ▸ unconsumed, unexpired⟩

/-! ## Runs -/

/-- The requests that issue and use up tokens. -/
inductive VerificationRequest
  | forgotPassword (email : String)
  | resetPassword (rawToken : RawToken) (newPassword : String)
  | verifyEmail (rawToken : RawToken)
  /-- A token issued on any other occasion. -/
  | issue (userId : UserId) (email : String) (purpose : VerificationTokenPurpose)

namespace VerificationRequest

/-- What a request has the services do. -/
def handle (app : Deployment) : VerificationRequest → Service Unit
  | forgotPassword email => AuthService.forgotPassword app email
  | resetPassword rawToken newPassword => AuthService.resetPassword app rawToken newPassword
  | verifyEmail rawToken => AuthService.verifyEmail rawToken
  | issue userId email purpose => AuthService.issueVerificationToken userId email purpose

/-- The token a request uses up, and for what. -/
def uses : VerificationRequest → Option (RawToken × VerificationTokenPurpose)
  | resetPassword rawToken _ => some (rawToken, .passwordReset)
  | verifyEmail rawToken => some (rawToken, .emailVerification)
  | _ => none

end VerificationRequest

/-- A request and the input it is handled with. -/
structure VerificationArrival where
  input : Input
  request : VerificationRequest

namespace VerificationArrival

variable (app : Deployment) (arrival : VerificationArrival)

/-- The state once a request has been handled. -/
def serve (world : World) : World :=
  ((arrival.request.handle app).run arrival.input world).2

/-- The tokens a request issues. -/
def issues (world : World) : List (Issue VerificationOwner RawToken) :=
  ((arrival.serve app world).verificationTokens.take
    ((arrival.serve app world).verificationTokens.length -
      world.verificationTokens.length)).map VerificationToken.issue

/-- The token a request has accepted. -/
def consumed (world : World) : List RawToken :=
  match arrival.request.uses with
  | none => []
  | some (rawToken, purpose) =>
      match (AuthService.consumeVerificationToken rawToken purpose).run arrival.input world with
      | (.ok _, _) => [rawToken]
      | (.error _, _) => []

/-- The world and the register after a request. -/
def enter (state : World × VerificationBook) : World × VerificationBook :=
  (arrival.serve app state.1,
    { issues := arrival.issues app state.1 ++ state.2.issues
      consumed := arrival.consumed state.1 ++ state.2.consumed })

end VerificationArrival

/-- The world after a run, and what the run has issued and accepted. -/
def verificationHistory
    (app : Deployment)
    (start : World)
    (arrivals : List VerificationArrival) : World × VerificationBook :=
  arrivals.foldl (fun state arrival => arrival.enter app state) (start, {})

/-- Neither the tokens nor the supply of fresh ones have changed. -/
def SameVerifications (before after : World) : Prop :=
  after.verificationTokens = before.verificationTokens ∧ after.nextId = before.nextId

instance : IsPreorder World SameVerifications where
  refl _ := ⟨rfl, rfl⟩
  trans _ _ _ first second := ⟨second.1.trans first.1, second.2.trans first.2⟩

theorem sameVerifications_update (id : UserId) (rewrite : Time → User → User) :
    (UsersService.update id rewrite).Respects SameVerifications :=
  Footprint.updateUser fun _ _ => ⟨rfl, rfl⟩

theorem sameVerifications_record (actor : Option UserId) (action : AuditAction) :
    (AuditService.record actor action).Respects SameVerifications :=
  Respects.command fun _ _ => ⟨rfl, rfl⟩

/-- The part of a password reset after its token is accepted. -/
theorem sameVerifications_reset (userId : UserId) (passwordHash : String) :
    (do
      let _ ← UsersService.updatePasswordHash userId passwordHash
      SessionsService.revokeAllForUser userId
      TokenRevocationService.revokeUser app userId
      AuditService.record (some userId) .authPasswordResetCompleted :
        Service Unit).Respects SameVerifications := by
  refine Respects.bind (sameVerifications_update _ _) fun _ => ?_
  refine Respects.bind (Respects.command fun _ _ => ⟨rfl, rfl⟩) fun _ => ?_
  refine Respects.bind ?_ fun _ => sameVerifications_record _ _
  exact Footprint.revokeUser (fun _ _ => ⟨rfl, rfl⟩) app userId

theorem sameVerifications_verify (userId : UserId) :
    (do
      let _ ← UsersService.markEmailVerified userId
      AuditService.record (some userId) .authEmailVerified :
        Service Unit).Respects SameVerifications :=
  Respects.bind (sameVerifications_update _ _) fun _ => sameVerifications_record _ _

/-- A register is kept by whatever leaves the tokens alone. -/
theorem TokensRecorded.same
    {book : VerificationBook}
    (recorded : TokensRecorded book before)
    (same : SameVerifications before after) :
    TokensRecorded book after where
  rows := by rw [same.1]; exact recorded.rows
  idsDistinct := by rw [same.1]; exact recorded.idsDistinct
  tokensDistinct := by rw [same.1]; exact recorded.tokensDistinct
  idsFresh := by rw [same.1, same.2]; exact recorded.idsFresh
  tokensFresh := by rw [same.1, same.2]; exact recorded.tokensFresh
  consumedFresh := by rw [same.2]; exact recorded.consumedFresh
  unused := by rw [same.1]; exact recorded.unused

/-- A request that issues one token. -/
theorem enter_issue
    {book : VerificationBook}
    {arrival : VerificationArrival}
    (recorded : TokensRecorded book world)
    (uses : arrival.request.uses = none)
    {userId : UserId}
    {purpose : VerificationTokenPurpose}
    (tokens : (arrival.serve app world).verificationTokens =
      issuedRow arrival.input world userId purpose ::
        supersededRows arrival.input.now userId purpose world.verificationTokens)
    (supply : (arrival.serve app world).nextId = world.nextId + 2) :
    TokensRecorded (arrival.enter app (world, book)).2 (arrival.serve app world) := by
  have recordedAfter := recorded.issued userId purpose tokens supply
  have one : (arrival.serve app world).verificationTokens.length -
      world.verificationTokens.length = 1 := by
    rw [tokens, List.length_cons, supersededRows, Table.updateWhere, List.length_map]
    omega
  have issued : arrival.issues app world =
      [(issuedRow arrival.input world userId purpose).issue] := by
    rw [VerificationArrival.issues, one, tokens]
    rfl
  have used : arrival.consumed world = [] := by
    rw [VerificationArrival.consumed, uses]
  unfold VerificationArrival.enter
  dsimp only
  rw [issued, used]
  exact recordedAfter

/-- A request that issues none and uses none up. -/
theorem enter_nothing
    {book : VerificationBook}
    {arrival : VerificationArrival}
    (recorded : TokensRecorded book world)
    (used : arrival.consumed world = [])
    (same : SameVerifications world (arrival.serve app world)) :
    TokensRecorded (arrival.enter app (world, book)).2 (arrival.serve app world) := by
  have issued : arrival.issues app world = [] := by
    rw [VerificationArrival.issues, same.1, Nat.sub_self]
    rfl
  unfold VerificationArrival.enter
  dsimp only
  rw [issued, used]
  exact recorded.same same

/-- A request that may use a token up. -/
theorem enter_consumption
    {book : VerificationBook}
    {arrival : VerificationArrival}
    (recorded : TokensRecorded book world)
    {rawToken : RawToken}
    {purpose : VerificationTokenPurpose}
    (uses : arrival.request.uses = some (rawToken, purpose))
    {rest : VerificationToken → Service Unit}
    (handles : arrival.request.handle app =
      AuthService.consumeVerificationToken rawToken purpose >>= rest)
    (frame : ∀ row, (rest row).Respects SameVerifications) :
    TokensRecorded (arrival.enter app (world, book)).2 (arrival.serve app world) := by
  have serves : arrival.serve app world =
      ((AuthService.consumeVerificationToken rawToken purpose >>= rest).run arrival.input
        world).2 := by
    rw [VerificationArrival.serve, handles]
  rw [run_bind] at serves
  rcases @run_consumeVerificationToken arrival.input world rawToken purpose with
    ⟨row, found, -, -, -, accepted⟩ | ⟨error, -, refused⟩
  · have used : arrival.consumed world = [rawToken] := by
      rw [VerificationArrival.consumed, uses]
      dsimp only
      rw [accepted]
    rw [accepted] at serves
    have kept := (frame row).run arrival.input
      { world with verificationTokens := usedRows arrival.input.now row world.verificationTokens }
    dsimp only at serves
    rw [← serves] at kept
    have issued : arrival.issues app world = [] := by
      rw [VerificationArrival.issues, kept.1, usedRows, Table.updateWhere, List.length_map,
        Nat.sub_self]
      rfl
    have named : row.tokenHash = ⟨rawToken⟩ := by simpa using List.find?_some found
    have recordedAfter := recorded.consumed (List.mem_of_find?_eq_some found) kept.1 kept.2
    rw [named] at recordedAfter
    unfold VerificationArrival.enter
    dsimp only
    rw [issued, used]
    exact recordedAfter
  · refine enter_nothing recorded ?_ ?_
    · rw [VerificationArrival.consumed, uses]
      dsimp only
      rw [refused]
    · rw [refused] at serves
      rw [serves]
      exact refl_of SameVerifications world

/-- Every request keeps the register. -/
theorem enter_recorded
    {book : VerificationBook}
    (recorded : TokensRecorded book world)
    (arrival : VerificationArrival) :
    TokensRecorded (arrival.enter app (world, book)).2 (arrival.enter app (world, book)).1 := by
  obtain ⟨input, request⟩ := arrival
  cases request with
  | issue userId email purpose =>
      have ran := @run_issueVerificationToken input world userId email purpose
      have serves := congrArg Prod.snd ran
      exact enter_issue recorded rfl (congrArg World.verificationTokens serves)
        (congrArg World.nextId serves)
  | forgotPassword email =>
      have serves : VerificationArrival.serve app ⟨input, .forgotPassword email⟩ world =
          ((AuthService.forgotPassword app email).run input world).2 := rfl
      unfold AuthService.forgotPassword UsersService.findByEmail at serves
      rw [run_bind, run_query] at serves
      dsimp only at serves
      split at serves
      · rw [run_bind, run_issueVerificationToken] at serves
        exact enter_issue recorded rfl (congrArg World.verificationTokens serves)
          (congrArg World.nextId serves)
      · refine enter_nothing recorded rfl ?_
        rw [serves]
        exact refl_of SameVerifications world
  | resetPassword rawToken newPassword =>
      exact enter_consumption recorded rfl rfl fun row => sameVerifications_reset _ _
  | verifyEmail rawToken =>
      exact enter_consumption recorded rfl rfl fun row => sameVerifications_verify _

/-- A run keeps the register. -/
theorem foldl_recorded
    (arrivals : List VerificationArrival)
    {state : World × VerificationBook}
    (recorded : TokensRecorded state.2 state.1) :
    TokensRecorded (arrivals.foldl (fun state arrival => arrival.enter app state) state).2
      (arrivals.foldl (fun state arrival => arrival.enter app state) state).1 := by
  induction arrivals generalizing state with
  | nil => exact recorded
  | cons arrival later inductionHypothesis =>
      exact inductionHypothesis (enter_recorded recorded arrival)

/-- After any run a token is accepted for a purpose exactly if it is the one most recently
issued to its user for that purpose, has not been accepted before, and its time has not
passed; a request whose token is refused changes nothing. -/
theorem verification_token_accepted_iff
    {start : World}
    (empty : start.verificationTokens = [])
    (arrivals : List VerificationArrival)
    (input : Input)
    (rawToken : RawToken)
    (purpose : VerificationTokenPurpose) :
    let world := (verificationHistory app start arrivals).1
    let book := (verificationHistory app start arrivals).2
    ((∃ row after, (AuthService.consumeVerificationToken rawToken purpose).run input world =
        (.ok row, after)) ↔
      AcceptsToken book rawToken purpose input.now) ∧
    (¬AcceptsToken book rawToken purpose input.now →
      (purpose = .passwordReset → ∀ newPassword, ∃ error,
        (AuthService.resetPassword app rawToken newPassword).run input world =
          (.error error, world)) ∧
      (purpose = .emailVerification → ∃ error,
        (AuthService.verifyEmail rawToken).run input world = (.error error, world))) := by
  intro world book
  have recorded : TokensRecorded book world := foldl_recorded arrivals (tokensRecorded_empty empty)
  rw [recorded.accepts_iff]
  rcases @run_consumeVerificationToken input world rawToken purpose with
    ⟨row, found, samePurpose, unused, unexpired, accepted⟩ | ⟨error, missing, refused⟩
  · have accepts : ∃ row, world.verificationRow rawToken = some row ∧ row.purpose = purpose ∧
        row.usedAt = none ∧ input.now ≤ row.expiresAt :=
      ⟨row, found, samePurpose, unused, unexpired⟩
    exact ⟨iff_of_true ⟨row, _, accepted⟩ accepts, fun refused => absurd accepts refused⟩
  · refine ⟨iff_of_false ?_ missing, fun _ => ⟨?_, ?_⟩⟩
    · rintro ⟨row, after, accepted⟩
      rw [refused] at accepted
      cases accepted
    · rintro rfl newPassword
      refine ⟨error, ?_⟩
      unfold AuthService.resetPassword
      rw [run_bind, refused]
    · rintro rfl
      refine ⟨error, ?_⟩
      unfold AuthService.verifyEmail
      rw [run_bind, refused]

/-- An account, and two reset links requested for it. -/
def forgetfulWorld : World :=
  { users := [{ id := 1, email := "ada@example.com", passwordHash := "correct" }], nextId := 2 }

/-- Two links to reset one password. -/
def twoResetLinks : List VerificationArrival :=
  [⟨{ now := 0 }, .forgotPassword "ada@example.com"⟩,
    ⟨{ now := 1000 }, .forgotPassword "ada@example.com"⟩]

theorem verification_token_accepted_newest :
    ∃ row after, (AuthService.consumeVerificationToken 4 .passwordReset).run { now := 2000 }
      (verificationHistory {} forgetfulWorld twoResetLinks).1 = (.ok row, after) :=
  (@verification_token_accepted_iff {} forgetfulWorld rfl twoResetLinks { now := 2000 } 4
    .passwordReset).1.mpr
      ⟨1, ⟨4, (1, .passwordReset), 3601000⟩, by decide +kernel, rfl, by decide +kernel,
        by decide⟩

end ConferenceContact
