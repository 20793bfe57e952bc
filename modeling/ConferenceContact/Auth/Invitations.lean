import ConferenceContact.Auth.AccountAddresses
import ConferenceContact.Foundation.Histories
import ConferenceContact.Model.Invites

/-!
# Invitations and registrations

Users invite, register, rename and delete themselves, with the calls of their requests in
any order and some of them rejected.  An inviter sees an invitation as accepted just when
an account of its address has been opened since, every email about one is about an
invitation on file, and every account has consented to the current documents.
-/

namespace ConferenceContact

open Process InviteService

/-! ## Requests -/

/-- What may happen next to accounts and invitations. -/
inductive InviteRequest
  | createInvite (inviterId : UserId) (rawEmail : String)
  | register (form : RegisterForm) (requestMeta : RequestMeta)
  | updateProfile (userId : UserId) (fullName : Option String)
  | account (request : AccountRequest)
  /-- Any other code. -/
  | elsewhere (service : Service Unit) (keeps : service.Respects KeepsAddresses)

/-- The method behind a request. -/
def InviteRequest.handle (app : Deployment) : InviteRequest → InviteService Unit
  | createInvite inviterId rawEmail => InvitesService.createInvite app inviterId rawEmail
  | register form requestMeta => AuthService.registerFrom app form requestMeta
  | updateProfile userId fullName => UsersService.updateProfile userId fullName
  | account request => onWorld (request.handle app)
  | elsewhere service _ => onWorld service

/-! ## What the tables say of each other -/

/-- No deleted account has this address. -/
def Lasting (email : String) : Prop :=
  ∀ userId, email ≠ AdminService.deletedEmail userId

/-- An account of the address has been opened after the invitation. -/
def Invite.Joined (invite : Invite) (books : List InviteBook) : Prop :=
  ∃ book ∈ books, ∃ user ∈ book.world.users, user.email = invite.email ∧ invite.id < user.id

/-- The documents that an account has consented to, newest first. -/
def InviteBook.consentsOf (book : InviteBook) (userId : UserId) :
    List (ConsentDocumentType × String) :=
  (book.consentRecords.filter fun record => record.userId = userId).map fun record =>
    (record.documentType, record.version)

/-- The current documents. -/
def currentDocuments : List (ConsentDocumentType × String) :=
  [(.terms, legalDocumentVersion .terms), (.privacy, legalDocumentVersion .privacy)]

/-- An email is about an invitation on file, and names its inviter as it was called at some
moment. -/
def InviteEmail.Justified (mail : InviteEmail) (history : History Input InviteBook) : Prop :=
  ∃ invite ∈ history.current.invites, invite.email = mail.recipient ∧
    ∃ book ∈ history.states, book.fullName invite.inviterId = mail.inviterName

/-- The ids that have been given out. -/
structure InviteBook.Numbered (history : History Input InviteBook) : Prop where
  users : ∀ book ∈ history.states, ∀ user ∈ book.world.users,
    user.id < history.current.world.nextId
  invites : ∀ invite ∈ history.current.invites, invite.id < history.current.world.nextId
  consents : ∀ record ∈ history.current.consentRecords,
    record.userId < history.current.world.nextId

/-- What holds of an invitation that has been made in the run. -/
structure Invite.Reconciled
    (app : Deployment)
    (requests : List InviteRequest)
    (books : List InviteBook)
    (invite : Invite) : Prop where
  asked : ∃ rawEmail, .createInvite invite.inviterId rawEmail ∈ requests ∧
    invite.email = UsersService.normalizeEmail app rawEmail
  dated : invite.acceptedAt.isSome ↔ invite.status = .accepted
  joined : Lasting invite.email → (invite.status = .accepted ↔ invite.Joined books)

/-- What holds all along a run. -/
structure Reconciles
    (app : Deployment)
    (requests : List InviteRequest)
    (start : InviteBook)
    (history : History Input InviteBook) : Prop where
  numbered : InviteBook.Numbered history
  invites : ∀ invite ∈ history.current.invites, start.world.nextId ≤ invite.id →
    invite.Reconciled app requests history.states
  mails : ∀ mail ∈ history.current.outbox, mail ∈ start.outbox ∨ mail.Justified history
  consents : ∀ user ∈ history.current.world.users, start.world.nextId ≤ user.id →
    history.current.consentsOf user.id = currentDocuments
  supply : start.world.nextId ≤ history.current.world.nextId

/-- The inviter and the address of an invitation. -/
def Invite.parties (invite : Invite) : UserId × String :=
  (invite.inviterId, invite.email)

/-- Invitations stay on file. -/
structure KeepsInvites (before after : History Input InviteBook) : Prop where
  past : before.Extends after
  parties : before.current.invites.map Invite.parties ⊆
    after.current.invites.map Invite.parties

instance : IsPreorder (History Input InviteBook) KeepsInvites where
  refl history := ⟨refl_of History.Extends history, List.Subset.refl _⟩
  trans _ _ _ first second :=
    ⟨trans_of History.Extends first.past second.past,
      List.Subset.trans first.parties second.parties⟩

theorem InviteEmail.Justified.later
    {mail : InviteEmail}
    {before after : History Input InviteBook}
    (justified : mail.Justified before)
    (keeps : KeepsInvites before after) :
    mail.Justified after := by
  obtain ⟨invite, onFile, address, book, seen, named⟩ := justified
  obtain ⟨kept, present, same⟩ := List.mem_map.mp (keeps.parties (List.mem_map_of_mem onFile))
  obtain ⟨sameInviter, sameAddress⟩ := Prod.mk.inj same
  refine ⟨kept, present, sameAddress.trans address, book, keeps.past.states seen, ?_⟩
  rw [sameInviter]
  exact named

section

variable {app : Deployment} {requests : List InviteRequest} {start : InviteBook}
  {history : History Input InviteBook} {member : Nat} {input : Input} {next : InviteBook}

/-! ## Steps that open no account -/

/-- Who has joined at an address that lasts is seen before a step that opens no account. -/
theorem Invite.Joined.of_keepsAddresses
    {invite : Invite}
    (lasting : Lasting invite.email)
    (keeps : KeepsAddresses history.current.world next.world)
    (joined : invite.Joined (next :: history.states)) :
    invite.Joined history.states := by
  obtain ⟨book, seen, user, onFile, address, later⟩ := joined
  rcases List.mem_cons.mp seen with rfl | seen
  · obtain ⟨earlier, stored, sameId, kept | deleted⟩ := keeps.users user onFile
    · exact ⟨history.current, List.mem_cons_self, earlier, stored, kept.trans address,
        sameId ▸ later⟩
    · exact absurd (address.symm.trans deleted) (lasting _)
  · exact ⟨book, seen, user, onFile, address, later⟩

theorem Invite.Joined.cons
    {invite : Invite}
    {books : List InviteBook}
    (joined : invite.Joined books)
    (book : InviteBook) :
    invite.Joined (book :: books) := by
  obtain ⟨other, seen, user, onFile, address, later⟩ := joined
  exact ⟨other, List.mem_cons_of_mem _ seen, user, onFile, address, later⟩

theorem Invite.Reconciled.advance
    {invite : Invite}
    (reconciled : invite.Reconciled app requests history.states)
    (keeps : KeepsAddresses history.current.world next.world) :
    invite.Reconciled app requests (history.advance member input next).states where
  asked := reconciled.asked
  dated := reconciled.dated
  joined lasting := by
    rw [reconciled.joined lasting, History.states_advance]
    exact ⟨fun joined => joined.cons next, Invite.Joined.of_keepsAddresses lasting keeps⟩

/-- A step that opens no account gives out the ids of its invitations. -/
theorem InviteBook.Numbered.advance
    (numbered : InviteBook.Numbered history)
    (keeps : KeepsAddresses history.current.world next.world)
    (consents : next.consentRecords = history.current.consentRecords)
    (invites : ∀ invite ∈ next.invites, invite ∈ history.current.invites ∨
      invite.id < next.world.nextId) :
    InviteBook.Numbered (history.advance member input next) where
  users book seen user onFile := by
    rcases List.mem_cons.mp seen with rfl | seen
    · obtain ⟨earlier, stored, sameId, -⟩ := keeps.users user onFile
      rw [← sameId]
      exact (numbered.users _ List.mem_cons_self earlier stored).trans_le keeps.nextId
    · exact (numbered.users book seen user onFile).trans_le keeps.nextId
  invites invite onFile := by
    rcases invites invite onFile with old | new
    · exact (numbered.invites invite old).trans_le keeps.nextId
    · exact new
  consents record onFile := by
    rw [History.current_advance, consents] at onFile
    exact (numbered.consents record onFile).trans_le keeps.nextId

/-- A step that opens no account and leaves the consents alone. -/
theorem Reconciles.advance
    (reconciles : Reconciles app requests start history)
    (keeps : KeepsAddresses history.current.world next.world)
    (consents : next.consentRecords = history.current.consentRecords)
    (kept : history.current.invites ⊆ next.invites)
    (invites : ∀ invite ∈ next.invites, invite ∈ history.current.invites ∨
      invite.id < next.world.nextId ∧ invite.Reconciled app requests history.states)
    (mails : ∀ mail ∈ next.outbox, mail ∈ history.current.outbox ∨ mail.Justified history) :
    Reconciles app requests start (history.advance member input next) ∧
      KeepsInvites history (history.advance member input next) := by
  have onwards : KeepsInvites history (history.advance member input next) :=
    ⟨History.extends_advance history member input next, List.map_subset _ kept⟩
  obtain ⟨numbered, reconciled, justified, consented, supply⟩ := reconciles
  have numberedNext : InviteBook.Numbered (history.advance member input next) :=
    numbered.advance keeps consents
      fun invite onFile => (invites invite onFile).imp_right And.left
  refine ⟨⟨numberedNext, ?_, ?_, ?_, supply.trans keeps.nextId⟩, onwards⟩
  · intro invite onFile recent
    rcases invites invite onFile with old | ⟨-, new⟩
    · exact (reconciled invite old recent).advance keeps
    · exact new.advance keeps
  · intro mail sent
    rcases mails mail sent with old | new
    · exact (justified mail old).imp_right fun found => found.later onwards
    · exact .inr (new.later onwards)
  · intro user onFile recent
    obtain ⟨earlier, stored, sameId, -⟩ := keeps.users user onFile
    rw [← sameId] at recent ⊢
    rw [← consented earlier stored recent]
    unfold InviteBook.consentsOf
    rw [History.current_advance, consents]

/-- A step within the world that opens no account. -/
theorem Reconciles.onWorld
    {world : World}
    (reconciles : Reconciles app requests start history)
    (keeps : KeepsAddresses history.current.world world) :
    Reconciles app requests start (history.advance member input { history.current with world }) ∧
      KeepsInvites history (history.advance member input { history.current with world }) :=
  reconciles.advance keeps rfl (List.Subset.refl _) (fun _ onFile => .inl onFile)
    fun _ sent => .inl sent

/-! ## Registrations -/

/-- What the transaction of a registration does to the accounts. -/
theorem createAccount_ok
    {normalizedEmail passwordHash : String}
    {input : Input}
    {world after : World}
    {created : User}
    (registered : (AuthService.createAccount normalizedEmail passwordHash).run input world =
      (.ok created, after)) :
    created.id = world.nextId ∧ after.users = created :: world.users ∧
      after.nextId = world.nextId + 1 := by
  unfold AuthService.createAccount at registered
  rw [run_attempt_eq_ok] at registered
  split at registered
  · cases registered
  · dsimp only at registered
    split at registered
    · cases registered
      exact ⟨rfl, rfl, rfl⟩
    · cases registered
      exact ⟨rfl, rfl, rfl⟩

/-- A registration with its consents and invitations opens the account that the
registration of the account alone does. -/
theorem projects_registerFrom (form : RegisterForm) (requestMeta : RequestMeta) :
    (AuthService.registerFrom app form requestMeta).Projects InviteBook.worldPart
      (AuthService.register app form.toRegisterDto) := by
  refine Projects.bind (Projects.within _) fun existing => ?_
  split
  · exact rfl
  refine Projects.bind (Projects.attempt fun input book => ?_) fun user => Projects.within _
  cases ran : (AuthService.createAccount (UsersService.normalizeEmail app form.email)
    (app.argon2Hash form.password)).run input book.world with
  | mk result after =>
      unfold AuthService.createAccount at ran
      cases result with
      | ok created => exact (run_attempt_eq_ok.mp ran).symm
      | error error =>
          rw [run_attempt] at ran
          split at ran
          · cases ran
          · rename_i stopped
            cases ran
            exact stopped.symm

theorem runWithFault_registerFrom
    (form : RegisterForm)
    (requestMeta : RequestMeta)
    (input : Input)
    (fault : Option (Nat × ApiError))
    (book : InviteBook) :
    Prod.map id InviteBook.world
        ((AuthService.registerFrom app form requestMeta).runWithFault input fault book) =
      (AuthService.register app form.toRegisterDto).runWithFault input fault book.world :=
  (projects_registerFrom form requestMeta).runWithFault input fault book

/-- The invitations after a registration. -/
def acceptInvites (created : User) (now : Time) (invites : List Invite) : List Invite :=
  Table.updateWhere (fun invite => invite.email = created.email ∧ invite.status = .pending)
    (fun invite => { invite with status := .accepted, acceptedAt := some now }) invites

theorem parties_acceptInvites (created : User) (now : Time) (invites : List Invite) :
    (acceptInvites created now invites).map Invite.parties = invites.map Invite.parties :=
  Table.map_updateWhere _ _ _ _ fun _ => rfl

theorem mem_acceptInvites
    {created : User}
    {now : Time}
    {invite : Invite}
    {invites : List Invite}
    (onFile : invite ∈ acceptInvites created now invites) :
    ∃ old ∈ invites,
      invite = if old.email = created.email ∧ old.status = .pending then
        { old with status := .accepted, acceptedAt := some now } else old := by
  obtain ⟨old, stored, rfl⟩ := List.mem_map.mp onFile
  exact ⟨old, stored, by simp only [decide_eq_true_eq]⟩

/-- A registration accepts the invitations of its address, and no others. -/
theorem Invite.Reconciled.register
    {invite : Invite}
    {created : User}
    (reconciled : invite.Reconciled app requests history.states)
    (numbered : invite.id < history.current.world.nextId)
    (isNew : created.id = history.current.world.nextId)
    (users : next.world.users = created :: history.current.world.users)
    (now : Time) :
    Invite.Reconciled app requests (history.advance member input next).states
      (if invite.email = created.email ∧ invite.status = .pending then
        { invite with status := .accepted, acceptedAt := some now }
      else invite) := by
  have opened : invite.email = created.email →
      invite.Joined (history.advance member input next).states := by
    intro address
    refine ⟨next, List.mem_cons_self, created, ?_, address.symm, isNew ▸ numbered⟩
    rw [users]
    exact List.mem_cons_self
  split
  · rename_i invited
    exact
      { asked := reconciled.asked
        dated := ⟨fun _ => rfl, fun _ => rfl⟩
        joined := fun _ => ⟨fun _ => opened invited.1, fun _ => rfl⟩ }
  · rename_i untouched
    refine ⟨reconciled.asked, reconciled.dated, fun lasting => ?_⟩
    constructor
    · intro accepted
      exact ((reconciled.joined lasting).mp accepted).cons next
    · rintro ⟨book, seen, user, onFile, address, later⟩
      rcases List.mem_cons.mp seen with rfl | seen
      · rw [users] at onFile
        rcases List.mem_cons.mp onFile with rfl | old
        · cases status : invite.status with
          | pending => exact absurd ⟨address.symm, status⟩ untouched
          | accepted => rfl
        · exact (reconciled.joined lasting).mpr
            ⟨history.current, List.mem_cons_self, user, old, address, later⟩
      · exact (reconciled.joined lasting).mpr ⟨book, seen, user, onFile, address, later⟩

/-- A registration adds the consents of its account, and no others. -/
theorem consentsOf_register
    {before after : InviteBook}
    {userId : UserId}
    {requestMeta : RequestMeta}
    {now : Time}
    (consents : after.consentRecords =
      AuthService.consents userId requestMeta now ++ before.consentRecords)
    (other : UserId) :
    after.consentsOf other =
      (if other = userId then currentDocuments else []) ++ before.consentsOf other := by
  unfold InviteBook.consentsOf
  rw [consents, List.filter_append, List.map_append]
  congr 1
  unfold AuthService.consents
  by_cases own : other = userId
  · simp [own, currentDocuments]
  · simp [own, Ne.symm own]

/-- An account that is still to be opened has consented to nothing. -/
theorem InviteBook.Numbered.consentsOf_eq_nil
    (numbered : InviteBook.Numbered history)
    {userId : UserId}
    (isNew : userId = history.current.world.nextId) :
    history.current.consentsOf userId = [] := by
  unfold InviteBook.consentsOf
  rw [List.filter_eq_nil_iff.mpr, List.map_nil]
  intro record stored own
  have older := numbered.consents record stored
  rw [of_decide_eq_true own, isNew] at older
  exact absurd older (Nat.lt_irrefl _)

/-- A registration gives out the next id. -/
theorem InviteBook.Numbered.register
    {created : User}
    {requestMeta : RequestMeta}
    {now : Time}
    (numbered : InviteBook.Numbered history)
    (isNew : created.id = history.current.world.nextId)
    (users : next.world.users = created :: history.current.world.users)
    (nextId : next.world.nextId = history.current.world.nextId + 1)
    (consents : next.consentRecords =
      AuthService.consents created.id requestMeta now ++ history.current.consentRecords)
    (invites : next.invites = acceptInvites created now history.current.invites) :
    InviteBook.Numbered (history.advance member input next) := by
  have supply : history.current.world.nextId ≤ next.world.nextId :=
    nextId ▸ Nat.le_succ _
  have numberedNew : created.id < next.world.nextId := by
    rw [isNew, nextId]
    exact Nat.lt_succ_self _
  refine ⟨?_, ?_, ?_⟩
  · intro book seen user onFile
    rcases List.mem_cons.mp seen with rfl | seen
    · rw [users] at onFile
      rcases List.mem_cons.mp onFile with rfl | old
      · exact numberedNew
      · exact (numbered.users _ List.mem_cons_self user old).trans_le supply
    · exact (numbered.users book seen user onFile).trans_le supply
  · intro invite onFile
    rw [History.current_advance, invites] at onFile
    obtain ⟨old, stored, rfl⟩ := mem_acceptInvites onFile
    have isOld := (numbered.invites old stored).trans_le supply
    split <;> exact isOld
  · intro record onFile
    rw [History.current_advance, consents] at onFile
    rcases List.mem_append.mp onFile with new | old
    · obtain ⟨documentType, -, rfl⟩ := List.mem_map.mp new
      exact numberedNew
    · exact (numbered.consents record old).trans_le supply

/-- A registration opens one account, with its consents, and accepts the invitations of its
address. -/
theorem Reconciles.register
    {created : User}
    {requestMeta : RequestMeta}
    {now : Time}
    (reconciles : Reconciles app requests start history)
    (isNew : created.id = history.current.world.nextId)
    (users : next.world.users = created :: history.current.world.users)
    (nextId : next.world.nextId = history.current.world.nextId + 1)
    (consents : next.consentRecords =
      AuthService.consents created.id requestMeta now ++ history.current.consentRecords)
    (invites : next.invites = acceptInvites created now history.current.invites)
    (outbox : next.outbox = history.current.outbox) :
    Reconciles app requests start (history.advance member input next) ∧
      KeepsInvites history (history.advance member input next) := by
  have onwards : KeepsInvites history (history.advance member input next) := by
    refine ⟨History.extends_advance history member input next, ?_⟩
    rw [History.current_advance, invites, parties_acceptInvites]
    exact List.Subset.refl _
  have supply : history.current.world.nextId ≤ next.world.nextId :=
    nextId ▸ Nat.le_succ _
  obtain ⟨numbered, reconciled, justified, consented, started⟩ := reconciles
  refine ⟨⟨numbered.register isNew users nextId consents invites, ?_, ?_, ?_,
    started.trans supply⟩, onwards⟩
  · intro invite onFile recent
    rw [History.current_advance, invites] at onFile
    obtain ⟨old, stored, rfl⟩ := mem_acceptInvites onFile
    refine (reconciled old stored ?_).register (numbered.invites old stored) isNew users now
    split at recent <;> exact recent
  · intro mail sent
    rw [History.current_advance, outbox] at sent
    exact (justified mail sent).imp_right fun found => found.later onwards
  · intro user onFile recent
    rw [History.current_advance] at onFile ⊢
    rw [consentsOf_register consents]
    rw [users] at onFile
    rcases List.mem_cons.mp onFile with rfl | old
    · rw [if_pos rfl, numbered.consentsOf_eq_nil isNew, List.append_nil]
    · have other : user.id ≠ created.id := by
        rw [isNew]
        exact Nat.ne_of_lt (numbered.users _ List.mem_cons_self user old)
      rw [if_neg other, List.nil_append]
      exact consented user old recent

/-! ## Services -/

/-- Among others that do the same, a service keeps the tables reconciled. -/
abbrev KeepsReconciled
    (app : Deployment)
    (requests : List InviteRequest)
    (start : InviteBook)
    (member : Nat)
    (service : InviteService α)
    (history : History Input InviteBook)
    (post : α → History Input InviteBook → Prop) : Prop :=
  Sustains (Reconciles app requests start) KeepsInvites (service.recorded member) history post

/-- A service of the world that opens no account. -/
theorem keepsReconciled_onWorld
    {service : Service α}
    (keeps : service.Respects KeepsAddresses) :
    KeepsReconciled app requests start member (onWorld service) history fun _ _ => True := by
  have moves : (onWorld service).Respects fun before after =>
      ∃ world, KeepsAddresses before.world world ∧ after = { before with world } :=
    Respects.within keeps fun whole after moved => ⟨after, moved, rfl⟩
  refine Sustains.of_respects moves.recorded fun before after step reconciles => ?_
  obtain ⟨input, next, ⟨world, moved, rfl⟩, rfl⟩ := step
  exact reconciles.onWorld moved

/-- A read that changes nothing. -/
theorem keepsReconciled_query
    {read : Input → InviteBook → α}
    (post : α → History Input InviteBook → Prop)
    (holds : ∀ input later, KeepsInvites history later → post (read input later.current)
      (later.advance member input later.current)) :
    KeepsReconciled app requests start member (query read) history post := by
  refine Sustains.recorded_query post fun input later onwards reconciles => ?_
  obtain ⟨kept, moves⟩ := reconciles.onWorld (refl_of KeepsAddresses later.current.world)
  exact ⟨kept, moves, holds input later onwards⟩

/-- The row of the inviter that has been read, and its name at that moment. -/
theorem keepsReconciled_findInviter (inviterId : UserId) :
    KeepsReconciled app requests start member (InvitesService.findInviter inviterId) history
      fun found after => ∀ inviter ∈ found, ∃ book ∈ after.states,
        book.fullName inviterId = inviter.2 := by
  refine keepsReconciled_query _ fun input later _ inviter found => ?_
  obtain ⟨user, stored, rfl⟩ := Option.map_eq_some_iff.mp found
  have isInviter := List.find?_some stored
  refine ⟨later.current, List.mem_cons_self, ?_⟩
  rw [of_decide_eq_true isInviter]

/-- An invitation of the address by the inviter is on file. -/
def HasInvited (inviterId : UserId) (email : String) (history : History Input InviteBook) : Prop :=
  (inviterId, email) ∈ history.current.invites.map Invite.parties

theorem keepsReconciled_hasInvited (inviterId : UserId) (email : String) :
    KeepsReconciled app requests start member (InvitesService.hasInvited inviterId email) history
      fun found after => found = true → HasInvited inviterId email after := by
  refine keepsReconciled_query _ fun input later _ found => ?_
  obtain ⟨invite, onFile, same⟩ := List.any_eq_true.mp found
  obtain ⟨rfl, rfl⟩ := of_decide_eq_true same
  exact List.mem_map_of_mem onFile

/-- A new invitation is pending, and nobody has joined by it. -/
theorem keepsReconciled_create
    {inviterId : UserId}
    {rawEmail : String}
    (requested : .createInvite inviterId rawEmail ∈ requests) :
    KeepsReconciled app requests start member
      (InvitesService.create inviterId (UsersService.normalizeEmail app rawEmail)) history
      fun _ after => HasInvited inviterId (UsersService.normalizeEmail app rawEmail) after := by
  refine Sustains.recorded_attempt _ (fun _ later _ reconciles =>
    reconciles.onWorld (refl_of KeepsAddresses later.current.world)) ?_
  intro input later value after _ reconciles created
  split at created
  · cases created
    refine and_assoc.mp ⟨?_, List.mem_cons_self⟩
    refine reconciles.advance (keepsAddresses_of_users rfl (Nat.le_succ _)) rfl
      (List.subset_cons_self _ _) (fun invite onFile => ?_) fun mail sent => .inl sent
    rcases List.mem_cons.mp onFile with rfl | old
    · refine .inr ⟨Nat.lt_succ_self _, ⟨rawEmail, requested, rfl⟩, ?_, fun _ => ?_⟩
      · exact ⟨fun dated => (by cases dated), fun accepted => (by cases accepted)⟩
      · constructor
        · intro accepted
          cases accepted
        · rintro ⟨book, seen, user, onFile, -, newer⟩
          have older := reconciles.numbered.users book seen user onFile
          exact absurd newer (Nat.lt_asymm older)
    · exact .inl old
  · cases created

/-- The email is about an invitation that is on file. -/
theorem keepsReconciled_sendInviteEmail
    {inviterId : UserId}
    {email inviterName : String}
    (onFile : HasInvited inviterId email history)
    (named : ∃ book ∈ history.states, book.fullName inviterId = inviterName) :
    KeepsReconciled app requests start member
      (InvitesService.sendInviteEmail email inviterName) history fun _ _ => True := by
  unfold InvitesService.sendInviteEmail KeepsReconciled
  rw [recorded_tryCatch]
  refine Sustains.tryCatch (Sustains.recorded_command fun input later onwards reconciles => ?_)
    fun _ _ _ => Sustains.pure trivial
  obtain ⟨invite, stored, same⟩ := List.mem_map.mp (onwards.parties onFile)
  obtain ⟨sameInviter, sameAddress⟩ := Prod.mk.inj same
  obtain ⟨book, seen, isName⟩ := named
  have justified : InviteEmail.Justified ⟨email, inviterName⟩ later := by
    refine ⟨invite, stored, sameAddress, book, onwards.past.states seen, ?_⟩
    rw [sameInviter]
    exact isName
  split
  · refine reconciles.advance (refl_of KeepsAddresses later.current.world) rfl
      (List.Subset.refl _) (fun _ onFile => .inl onFile) fun mail sent => ?_
    rcases List.mem_cons.mp sent with rfl | old
    · exact .inr justified
    · exact .inl old
  · exact reconciles.onWorld (refl_of KeepsAddresses later.current.world)

theorem keepsReconciled_createInvite
    {inviterId : UserId}
    {rawEmail : String}
    (requested : .createInvite inviterId rawEmail ∈ requests) :
    KeepsReconciled app requests start member (InvitesService.createInvite app inviterId rawEmail)
      history fun _ _ => True := by
  unfold InvitesService.createInvite KeepsReconciled
  rw [recorded_bind]
  refine Sustains.bind (keepsReconciled_findInviter inviterId) fun found read _ named => ?_
  cases found with
  | none => exact Sustains.throw _ _
  | some inviter =>
      obtain ⟨inviter, fullName⟩ := inviter
      have named := named _ rfl
      dsimp only
      rw [recorded_ite]
      refine Sustains.ite (fun _ => Sustains.throw _ _) fun _ => ?_
      rw [recorded_bind]
      refine Sustains.bind (keepsReconciled_onWorld (Respects.query _))
        fun existing checked first _ => ?_
      rw [recorded_ite]
      refine Sustains.ite (fun _ => Sustains.throw _ _) fun _ => ?_
      rw [recorded_bind]
      refine Sustains.bind (keepsReconciled_hasInvited _ _)
        fun existingInvite looked second invited => ?_
      have sends : ∀ {created : History Input InviteBook}, KeepsInvites looked created →
          HasInvited inviterId (UsersService.normalizeEmail app rawEmail) created →
          KeepsReconciled app requests start member
            (InvitesService.sendInviteEmail (UsersService.normalizeEmail app rawEmail) fullName)
            created fun _ _ => True := by
        intro created third onFile
        obtain ⟨book, seen, isName⟩ := named
        exact keepsReconciled_sendInviteEmail onFile
          ⟨book, third.past.states (second.past.states (first.past.states seen)), isName⟩
      rw [recorded_ite]
      refine Sustains.ite (fun _ => ?_) fun isFound => ?_
      · rw [recorded_bind]
        exact Sustains.bind (keepsReconciled_create requested)
          fun _ created third onFile => sends third onFile
      · refine sends (refl_of KeepsInvites looked) (invited ?_)
        simpa using isFound

theorem keepsReconciled_createAccountFrom
    (form : RegisterForm)
    (normalizedEmail passwordHash : String)
    (requestMeta : RequestMeta) :
    KeepsReconciled app requests start member
      (AuthService.createAccountFrom form normalizedEmail passwordHash requestMeta) history
      fun _ _ => True := by
  refine Sustains.recorded_attempt _ (fun _ later _ reconciles =>
    reconciles.onWorld (refl_of KeepsAddresses later.current.world)) ?_
  intro input later value after _ reconciles registered
  split at registered
  · cases registered
  · rename_i created world ran
    cases registered
    obtain ⟨isNew, users, nextId⟩ := createAccount_ok ran
    refine and_assoc.mp ⟨?_, trivial⟩
    exact reconciles.register isNew users nextId rfl rfl rfl

theorem keepsReconciled_registerFrom (form : RegisterForm) (requestMeta : RequestMeta) :
    KeepsReconciled app requests start member (AuthService.registerFrom app form requestMeta)
      history fun _ _ => True := by
  unfold AuthService.registerFrom KeepsReconciled
  rw [recorded_bind]
  refine Sustains.bind (keepsReconciled_onWorld (Respects.query _)) fun existing _ _ _ => ?_
  rw [recorded_ite]
  refine Sustains.ite (fun _ => Sustains.throw _ _) fun _ => ?_
  rw [recorded_bind]
  refine Sustains.bind (keepsReconciled_createAccountFrom form _ _ requestMeta)
    fun user _ _ _ => ?_
  exact keepsReconciled_onWorld (keepsAddresses_record _ _)

theorem keepsReconciled_updateProfile (userId : UserId) (fullName : Option String) :
    KeepsReconciled app requests start member (UsersService.updateProfile userId fullName) history
      fun _ _ => True := by
  refine Sustains.recorded_attempt _ (fun _ later _ reconciles =>
    reconciles.onWorld (refl_of KeepsAddresses later.current.world)) ?_
  intro input later value after _ reconciles updated
  split at updated
  · cases updated
    refine and_assoc.mp ⟨?_, trivial⟩
    exact reconciles.advance (refl_of KeepsAddresses later.current.world) rfl
      (List.Subset.refl _) (fun _ onFile => .inl onFile) fun _ sent => .inl sent
  · cases updated

theorem keepsReconciled_handle
    {request : InviteRequest}
    (requested : request ∈ requests) :
    KeepsReconciled app requests start member (request.handle app) history fun _ _ => True := by
  cases request with
  | createInvite inviterId rawEmail => exact keepsReconciled_createInvite requested
  | register form requestMeta => exact keepsReconciled_registerFrom form requestMeta
  | updateProfile userId fullName => exact keepsReconciled_updateProfile userId fullName
  | account request => exact keepsReconciled_onWorld (keepsAddresses_handle request)
  | elsewhere service keeps => exact keepsReconciled_onWorld keeps

end

/-! ## Runs -/

/-- The requests that are being served. -/
def InviteRequest.crew
    (app : Deployment)
    (requests : List InviteRequest)
    (start : InviteBook) : Crew (InviteService Unit) InviteBook where
  state := start
  members := requests.map (InviteRequest.handle app)

theorem reconciles_opening
    {app : Deployment}
    {requests : List InviteRequest}
    {start : InviteBook}
    (numbered : InviteBook.Numbered { current := start }) :
    Reconciles app requests start { current := start } where
  numbered
  invites invite onFile recent :=
    absurd (numbered.invites invite onFile) (Nat.not_lt.mpr recent)
  mails _ sent := .inl sent
  consents user onFile recent :=
    absurd (numbered.users start (List.mem_singleton_self _) user onFile) (Nat.not_lt.mpr recent)
  supply := Nat.le_refl _

/-- Whoever invites, registers, is renamed or deleted, in any order of the calls and with
any of them rejected: an inviter is shown the invitations that he has asked for, as accepted
just when an account of the address has been opened since; every email is about an
invitation on file, in the name that its inviter had at some moment; and every account that
has been opened has consented to the current documents. -/
theorem invitations_reconciled
    (app : Deployment)
    (requests : List InviteRequest)
    {start : InviteBook}
    (numbered : InviteBook.Numbered { current := start })
    (schedule : List (CrewTurn Input ApiError)) :
    let reached := fun turns =>
      (Process.machine.run (InviteRequest.crew app requests start) turns).state
    (∀ inviterId input shown,
      ((InvitesService.listInvites inviterId).run input (reached schedule)).1 = .ok shown →
      ∀ summary ∈ shown, start.world.nextId ≤ summary.id →
        (∃ rawEmail, .createInvite inviterId rawEmail ∈ requests ∧
          summary.email = UsersService.normalizeEmail app rawEmail) ∧
        (summary.acceptedAt.isSome ↔ summary.status = .accepted) ∧
        (Lasting summary.email → (summary.status = .accepted ↔
          ∃ earlier, earlier <+: schedule ∧ ∃ user ∈ (reached earlier).world.users,
            user.email = summary.email ∧ summary.id < user.id))) ∧
    (∀ mail ∈ (reached schedule).outbox, mail ∈ start.outbox ∨
      ∃ invite ∈ (reached schedule).invites, invite.email = mail.recipient ∧
        ∃ earlier, earlier <+: schedule ∧
          (reached earlier).fullName invite.inviterId = mail.inviterName) ∧
    ∀ user ∈ (reached schedule).world.users, start.world.nextId ≤ user.id →
      (reached schedule).consentsOf user.id = currentDocuments := by
  intro reached
  have opening : Reconciles app requests start
      { current := (InviteRequest.crew app requests start).state } :=
    reconciles_opening numbered
  obtain ⟨history, reconciles, current, passed, -⟩ := Sustains.crew_recorded opening
    (by
      intro member process present
      obtain ⟨request, requested, rfl⟩ := List.mem_map.mp (List.mem_of_getElem? present)
      exact keepsReconciled_handle requested) schedule
  rw [show reached schedule = history.current from current.symm]
  refine ⟨fun inviterId input shown listed summary isShown recent => ?_,
    fun mail sent => ?_, reconciles.consents⟩
  · cases listed
    obtain ⟨invite, inOrder, rfl⟩ := List.mem_map.mp isShown
    obtain ⟨onFile, isInviter⟩ := List.mem_filter.mp ((List.mem_insertionSort _).mp inOrder)
    obtain ⟨asked, dated, joined⟩ := reconciles.invites invite onFile recent
    refine ⟨of_decide_eq_true isInviter ▸ asked, dated, fun lasting => ?_⟩
    rw [show (InvitesService.select invite).status = invite.status from rfl, joined lasting]
    constructor
    · rintro ⟨book, seen, user, present, address, later⟩
      obtain ⟨earlier, isEarlier, rfl⟩ := (passed book).mp seen
      exact ⟨earlier, isEarlier, user, present, address, later⟩
    · rintro ⟨earlier, isEarlier, user, present, address, later⟩
      exact ⟨_, (passed _).mpr ⟨earlier, isEarlier, rfl⟩, user, present, address, later⟩
  · refine (reconciles.mails mail sent).imp_right ?_
    rintro ⟨invite, onFile, address, book, seen, named⟩
    obtain ⟨earlier, isEarlier, rfl⟩ := (passed book).mp seen
    exact ⟨invite, onFile, address, earlier, isEarlier, named⟩

/-- A book with the sample account, called Ann. -/
def sampleInviteBook : InviteBook where
  world := { sampleWorld with nextId := 1 }
  fullName _ := "Ann"

/-- Ann invites Bob, who registers. -/
def sampleInviteRequests : List InviteRequest :=
  [.createInvite 0 "bob@example.com",
    .register ⟨⟨"bob@example.com", "battery staple"⟩, "Bob"⟩ { rawDeviceId := "device" }]

/-- The first request is served before the second. -/
def sampleInviteSchedule : List (CrewTurn Input ApiError) :=
  List.replicate 5 { member := 0, input := { now := 0 } } ++
    List.replicate 3 { member := 1, input := { now := 1 } }

theorem invitations_reconciled_sample :
    ∃ earlier, earlier <+: sampleInviteSchedule ∧
      ∃ user ∈ (Process.machine.run
          (InviteRequest.crew sampleApp sampleInviteRequests sampleInviteBook)
            earlier).state.world.users,
        user.email = "bob@example.com" ∧ 1 < user.id := by
  have numbered : InviteBook.Numbered { current := sampleInviteBook } := by
    refine ⟨fun book seen => ?_, by decide, by decide⟩
    rw [List.mem_singleton.mp seen]
    decide
  have lasting : Lasting "bob@example.com" := by
    intro userId same
    have first := congrArg (fun text => text.toList.head?) same
    simp [AdminService.deletedEmail] at first
  exact (((invitations_reconciled sampleApp sampleInviteRequests numbered
    sampleInviteSchedule).1 0 { now := 2 } _ rfl ⟨1, "bob@example.com", .accepted, 0, some 1⟩
    (by decide) (by decide)).2.2 lasting).mp rfl

end ConferenceContact
