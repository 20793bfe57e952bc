import ConferenceContact.Privileges.Requests

/-!
# Where privileges come from

In every run of requests, a privilege of an account was there at the start, was granted
by an invite of an administrator to the address that the account was registered with, or
was set by an administrator; and an invite is accepted by one account at most.  Without
an administrator at the start and without a pending invite for one there never is one.
-/

namespace ConferenceContact

open Process

/-! ## Privileges -/

/-- A role other than `USER`, or a comp flag. -/
inductive Privilege
  | role (role : Role)
  | directoryAccess
  | leadFinderAccess
  deriving DecidableEq

/-- Which grants confer a privilege. -/
def Privilege.ConferredBy : Privilege → Grants → Prop
  | .role held, grants => held ≠ .user ∧ grants.role = held
  | .directoryAccess, grants => grants.directoryAccess = true
  | .leadFinderAccess, grants => grants.leadFinderAccess = true

/-- The role is one that the routes under `/admin` require. -/
def Grants.IsAdmin (grants : Grants) : Prop :=
  grants.role = .admin ∨ grants.role = .superAdmin

/-- Ids are distinct and were all given out, and access tokens carry the roles of their
accounts. -/
structure World.Orderly (world : World) : Prop where
  registry : world.registry.Sound
  tokens : ∀ token ∈ world.signed, world.Entitles token

/-! ## Provenance -/

section

variable (app : Deployment) (start : World)

/-- The invite with an id offers a privilege to an address: it was pending at the start, or
an administrator invited the address to it. -/
inductive Offered : List HttpOccurrence → Nat → String → Privilege → Prop
  | initially
      {invite : AdminAccessInvite}
      {privilege : Privilege}
      (present : invite ∈ start.adminAccessInvites)
      (pending : invite.status = .pending)
      (confers : privilege.ConferredBy invite.grants) :
      Offered [] invite.id invite.email privilege
  | earlier
      {run : List HttpOccurrence}
      {id : Nat}
      {email : String}
      {privilege : Privilege}
      (occurrence : HttpOccurrence)
      (offered : Offered run id email privilege) :
      Offered (occurrence :: run) id email privilege
  | invited
      {run : List HttpOccurrence}
      {occurrence : HttpOccurrence}
      {token : Option Jwt}
      {dto : AdminService.InviteUserDto}
      {invite : AdminAccessInvite}
      {privilege : Privilege}
      (request : occurrence.request = .admin token (.inviteUser dto))
      (authorised : AuthorisedAsAdmin occurrence (serveHttp app start run) token)
      (confers : privilege.ConferredBy dto.grants)
      (stored : invite ∈ (serveHttp app start (occurrence :: run)).adminAccessInvites)
      (address : invite.email = UsersService.normalizeEmail app dto.email)
      (grants : invite.grants = dto.grants) :
      Offered (occurrence :: run) invite.id invite.email privilege

/-- An account has a privilege from the start, from an invite, or from an administrator. -/
inductive Conferred : List HttpOccurrence → UserId → Privilege → Prop
  | initially
      {user : User}
      {privilege : Privilege}
      (present : user ∈ start.users)
      (confers : privilege.ConferredBy user.grants) :
      Conferred [] user.id privilege
  | earlier
      {run : List HttpOccurrence}
      {userId : UserId}
      {privilege : Privilege}
      (occurrence : HttpOccurrence)
      (conferred : Conferred run userId privilege) :
      Conferred (occurrence :: run) userId privilege
  | registered
      {run : List HttpOccurrence}
      {occurrence : HttpOccurrence}
      {dto : RegisterDto}
      {invite : AdminAccessInvite}
      {user : User}
      {privilege : Privilege}
      (request : occurrence.request = .anyone (.register dto))
      (present : invite ∈ (serveHttp app start run).adminAccessInvites)
      (pending : invite.status = .pending)
      (confers : privilege.ConferredBy invite.grants)
      (offered : Offered app start run invite.id invite.email privilege)
      (stored : user ∈ (serveHttp app start (occurrence :: run)).users)
      (address : user.email = UsersService.normalizeEmail app dto.email ∧
        invite.email = user.email)
      (redeems : (serveHttp app start run).registry.Redeems
        (serveHttp app start (occurrence :: run)).registry invite.id user.id) :
      Conferred (occurrence :: run) user.id privilege
  | setDirectoryAccess
      {run : List HttpOccurrence}
      {occurrence : HttpOccurrence}
      {token : Option Jwt}
      {userId : UserId}
      (request : occurrence.request = .admin token (.setDirectoryAccess userId true))
      (authorised : AuthorisedAsAdmin occurrence (serveHttp app start run) token) :
      Conferred (occurrence :: run) userId .directoryAccess
  | setLeadFinderAccess
      {run : List HttpOccurrence}
      {occurrence : HttpOccurrence}
      {token : Option Jwt}
      {userId : UserId}
      (request : occurrence.request = .admin token (.setLeadFinderAccess userId true))
      (authorised : AuthorisedAsAdmin occurrence (serveHttp app start run) token) :
      Conferred (occurrence :: run) userId .leadFinderAccess

/-- In some request of the run the account was registered and the invite accepted. -/
inductive Redeemed : List HttpOccurrence → Nat → UserId → Prop
  | now
      {run : List HttpOccurrence}
      {occurrence : HttpOccurrence}
      {invite : Nat}
      {userId : UserId}
      (redeems : (serveHttp app start run).registry.Redeems
        (serveHttp app start (occurrence :: run)).registry invite userId) :
      Redeemed (occurrence :: run) invite userId
  | earlier
      {run : List HttpOccurrence}
      {invite : Nat}
      {userId : UserId}
      (occurrence : HttpOccurrence)
      (redeemed : Redeemed run invite userId) :
      Redeemed (occurrence :: run) invite userId

end

variable {app : Deployment} {start world before after : World} {occurrence : HttpOccurrence}
  {run : List HttpOccurrence}

/-! ## One request -/

/-- A request does a deed that it may do, if any. -/
theorem HttpOccurrence.Does.acts
    (does : occurrence.Does app before after) :
    ∃ deed, Acts deed before after ∧ (deed = .idle ∨ occurrence.Permits app before deed) := by
  rcases does with harmless | ⟨deed, permits, acts⟩
  · exact ⟨.idle, harmless, .inl rfl⟩
  · exact ⟨deed, acts, .inr permits⟩

theorem World.Orderly.step
    {deed : Deed String Grants}
    (orderly : before.Orderly)
    (acts : Acts deed before after) :
    after.Orderly where
  registry := acts.step.sound orderly.registry
  tokens token present := by
    rcases acts.signs token present with old | entitled
    · exact acts.entitles (orderly.tokens token old)
    · exact entitled

theorem World.Orderly.serveHttp
    (orderly : start.Orderly)
    (run : List HttpOccurrence) :
    (serveHttp app start run).Orderly := by
  induction run with
  | nil => exact orderly
  | cons occurrence run inductionHypothesis =>
      obtain ⟨deed, acts, -⟩ := (occurrence.does app _).acts
      exact inductionHypothesis.step acts

/-- Nothing is conferred on an account that is registered without an invite. -/
theorem default_confers_nothing (privilege : Privilege) :
    ¬ privilege.ConferredBy default := by
  cases privilege with
  | role role =>
      rintro ⟨other, same⟩
      exact other same.symm
  | directoryAccess => exact Bool.false_ne_true
  | leadFinderAccess => exact Bool.false_ne_true

/-- Who is new has the address. -/
def Newcomers (email : String) (before after : World) : Prop :=
  ∀ user ∈ after.users, user ∈ before.users ∨ user.email = email

instance : IsPreorder World (Newcomers email) where
  refl _ _ present := .inl present
  trans _ _ _ first second user present := by
    rcases second user present with earlier | addressed
    · exact first user earlier
    · exact .inr addressed

theorem newcomers_register (dto : RegisterDto) :
    (HttpRequest.handle app (.anyone (.register dto))).Respects
      (Newcomers (UsersService.normalizeEmail app dto.email)) := by
  refine Respects.bind (Respects.pure _) fun _ => ?_
  refine Respects.bind (Respects.query _) fun existing => Respects.ite (Respects.throw _) ?_
  refine Respects.bind (Respects.attempt fun input world value after created => ?_) fun user =>
    Respects.command fun _ _ _ present => .inl present
  split at created
  · cases created
  · dsimp only at created
    split at created
    · cases created
      intro user present
      rcases List.mem_cons.mp present with rfl | present
      · exact .inr rfl
      · exact .inl present
    · cases created
      intro user present
      rcases List.mem_cons.mp present with rfl | present
      · exact .inr rfl
      · exact .inl present

/-! ## Offers and accounts of a run -/

theorem mem_registry_offers
    {world : World}
    {offer : Offer String Grants}
    (present : offer ∈ world.registry.offers) :
    ∃ invite ∈ world.adminAccessInvites, invite.offer = offer :=
  List.mem_map.mp present

theorem mem_registry_accounts
    {world : World}
    {userId : UserId}
    {grants : Grants}
    (present : (userId, grants) ∈ world.registry.accounts) :
    ∃ user ∈ world.users, user.id = userId ∧ user.grants = grants := by
  obtain ⟨user, stored, same⟩ := List.mem_map.mp present
  exact ⟨user, stored, congrArg Prod.fst same, congrArg Prod.snd same⟩

/-- Every pending invite was there or is from an administrator. -/
theorem offered_of_pending
    (orderly : start.Orderly)
    (run : List HttpOccurrence) :
    ∀ invite ∈ (serveHttp app start run).adminAccessInvites, invite.status = .pending →
      ∀ privilege, privilege.ConferredBy invite.grants →
        Offered app start run invite.id invite.email privilege := by
  induction run with
  | nil => exact fun invite present pending privilege confers => .initially present pending confers
  | cons occurrence run inductionHypothesis =>
      intro invite present pending privilege confers
      obtain ⟨deed, acts, permitted⟩ := (occurrence.does app (serveHttp app start run)).acts
      have offered := acts.step.offered (orderly.serveHttp run).registry
        (List.mem_map_of_mem present) (decide_eq_true pending)
      rcases offered with before | made
      · obtain ⟨original, stored, same⟩ := mem_registry_offers before
        have sameId : original.id = invite.id := congrArg Offer.id same
        have sameEmail : original.email = invite.email := congrArg Offer.address same
        have sameGrants : original.grants = invite.grants := congrArg Offer.endowment same
        have stillPending : original.status = .pending :=
          of_decide_eq_true ((congrArg Offer.pending same).trans (decide_eq_true pending))
        rw [← sameId, ← sameEmail]
        refine .earlier occurrence (inductionHypothesis original stored stillPending privilege ?_)
        rw [sameGrants]
        exact confers
      · rcases permitted with idle | permits
        · cases idle.symm.trans made
        · cases permits with
          | inviteUser request authorised =>
              injection made with address grants
              refine .invited request authorised ?_ present address.symm grants.symm
              rw [show _ = invite.grants from grants]
              exact confers
          | register request => cases made
          | setDirectoryAccess request authorised => cases made
          | setLeadFinderAccess request authorised => cases made

/-- An account that is registered has the address it is registered with. -/
theorem email_of_registered
    {dto : RegisterDto}
    (request : occurrence.request = .anyone (.register dto))
    {user : User}
    (present : user ∈ (occurrence.step app before).users)
    (absent : user.id ∉ before.registry.accounts.map (·.1)) :
    user.email = UsersService.normalizeEmail app dto.email := by
  have newcomers : Newcomers (UsersService.normalizeEmail app dto.email) before
      (occurrence.step app before) := by
    unfold HttpOccurrence.step
    rw [request]
    exact (newcomers_register dto).runWithFault _ _ _
  rcases newcomers user present with known | addressed
  · exact absurd (List.mem_map_of_mem (List.mem_map_of_mem known)) absent
  · exact addressed

/-- What an account has is from the start, from an invite or from an administrator. -/
theorem conferred_of_confers
    (orderly : start.Orderly)
    (run : List HttpOccurrence) :
    ∀ user ∈ (serveHttp app start run).users, ∀ privilege, privilege.ConferredBy user.grants →
      Conferred app start run user.id privilege := by
  induction run with
  | nil => exact fun user present privilege confers => .initially present confers
  | cons occurrence run inductionHypothesis =>
      intro user present privilege confers
      have sound : (serveHttp app start run).registry.Sound := (orderly.serveHttp run).registry
      have earlier : (∃ grants, (user.id, grants) ∈ (serveHttp app start run).registry.accounts ∧
          privilege.ConferredBy grants) →
          Conferred app start (occurrence :: run) user.id privilege := by
        rintro ⟨grants, listed, confers⟩
        obtain ⟨known, stored, sameId, rfl⟩ := mem_registry_accounts listed
        rw [← sameId]
        exact .earlier occurrence (inductionHypothesis known stored privilege confers)
      obtain ⟨deed, acts, permitted⟩ := (occurrence.does app (serveHttp app start run)).acts
      have endowed := acts.step.endowed (default_confers_nothing privilege) sound
        (List.mem_map_of_mem present) confers
      rcases endowed with known | ⟨offer, listed, pending, confers, opens, redeems⟩ |
        ⟨change, grants, alters, stored, confers⟩
      · exact earlier known
      · obtain ⟨invite, stored, rfl⟩ := mem_registry_offers listed
        have pending : invite.status = .pending := of_decide_eq_true pending
        rcases permitted with idle | permits
        · cases idle.symm.trans opens
        · cases permits with
          | register request =>
              injection opens with address
              have email := email_of_registered request present redeems.absent
              exact .registered request stored pending confers
                (offered_of_pending orderly run invite stored pending privilege confers)
                present ⟨email, address.symm.trans email.symm⟩ redeems
          | inviteUser request authorised => cases opens
          | setDirectoryAccess request authorised => cases opens
          | setLeadFinderAccess request authorised => cases opens
      · rcases permitted with idle | permits
        · cases idle.symm.trans alters
        · cases permits with
          | register request => cases alters
          | inviteUser request authorised => cases alters
          | @setDirectoryAccess token userId granted request authorised =>
              injection alters with same changes
              subst same changes
              cases privilege with
              | directoryAccess =>
                  have granted : granted = true := confers
                  subst granted
                  exact .setDirectoryAccess request authorised
              | role role => exact earlier ⟨grants, stored, confers⟩
              | leadFinderAccess => exact earlier ⟨grants, stored, confers⟩
          | @setLeadFinderAccess token userId granted request authorised =>
              injection alters with same changes
              subst same changes
              cases privilege with
              | leadFinderAccess =>
                  have granted : granted = true := confers
                  subst granted
                  exact .setLeadFinderAccess request authorised
              | role role => exact earlier ⟨grants, stored, confers⟩
              | directoryAccess => exact earlier ⟨grants, stored, confers⟩

/-! ## Invites are accepted once -/

theorem Redeemed.settled
    {invite : Nat}
    {userId : UserId}
    (redeemed : Redeemed app start run invite userId) :
    (serveHttp app start run).registry.Settled invite := by
  induction redeemed with
  | now redeems => exact redeems.settled
  | earlier occurrence redeemed inductionHypothesis =>
      obtain ⟨deed, acts, -⟩ := (occurrence.does app _).acts
      exact acts.step.settled inductionHypothesis

theorem Redeemed.unique
    (orderly : start.Orderly)
    {invite : Nat}
    {first second : UserId}
    (firstRedeemed : Redeemed app start run invite first)
    (secondRedeemed : Redeemed app start run invite second) :
    first = second := by
  induction firstRedeemed with
  | @now run occurrence invite userId redeems =>
      cases secondRedeemed with
      | now again =>
          obtain ⟨deed, acts, -⟩ := (occurrence.does app (serveHttp app start run)).acts
          exact acts.step.opens_one redeems.absent redeems.opened again.absent again.opened
      | earlier _ before =>
          exact absurd redeems (before.settled.not_redeems (orderly.serveHttp run).registry)
  | @earlier run invite userId occurrence redeemed inductionHypothesis =>
      cases secondRedeemed with
      | now again =>
          exact absurd again (redeemed.settled.not_redeems (orderly.serveHttp run).registry)
      | earlier _ before => exact inductionHypothesis before

/-! ## No administrator from nothing -/

/-- There is neither an administrator nor a pending invite for one. -/
structure World.WithoutAdmins (world : World) : Prop where
  users : ∀ user ∈ world.users, ¬ user.grants.IsAdmin
  invites : ∀ invite ∈ world.adminAccessInvites, invite.status = .pending →
    ¬ invite.grants.IsAdmin

theorem World.WithoutAdmins.not_authorised
    {world : World}
    {occurrence : HttpOccurrence}
    {token : Option Jwt}
    (without : world.WithoutAdmins)
    (orderly : world.Orderly) :
    ¬ AuthorisedAsAdmin occurrence world token := by
  rintro ⟨payload, passed, elevated⟩
  obtain ⟨⟨jwt, signed, carried⟩, -⟩ := authorise_passed passed
  obtain ⟨grants, present, sameRole⟩ := orderly.tokens jwt signed payload carried
  obtain ⟨user, stored, -, rfl⟩ := mem_registry_accounts present
  refine without.users user stored ?_
  unfold Grants.IsAdmin
  rw [sameRole]
  exact elevated

theorem World.WithoutAdmins.step
    (orderly : before.Orderly)
    (without : before.WithoutAdmins)
    (occurrence : HttpOccurrence) :
    (occurrence.step app before).WithoutAdmins := by
  obtain ⟨deed, acts, permitted⟩ := (occurrence.does app before).acts
  constructor
  · intro user present elevated
    have plain : ¬ (default : Grants).IsAdmin := by
      unfold Grants.IsAdmin
      decide
    have endowed := acts.step.endowed plain orderly.registry
      (List.mem_map_of_mem present) elevated
    rcases endowed with ⟨grants, listed, elevated⟩ | ⟨offer, listed, pending, elevated, -⟩ |
      ⟨change, grants, alters, listed, elevated⟩
    · obtain ⟨known, stored, -, rfl⟩ := mem_registry_accounts listed
      exact without.users known stored elevated
    · obtain ⟨invite, stored, rfl⟩ := mem_registry_offers listed
      exact without.invites invite stored (of_decide_eq_true pending) elevated
    · obtain ⟨known, stored, -, rfl⟩ := mem_registry_accounts listed
      refine without.users known stored ?_
      unfold Grants.IsAdmin at elevated ⊢
      rwa [acts.roles _ change alters] at elevated
  · intro invite present pending elevated
    have offered := acts.step.offered orderly.registry (List.mem_map_of_mem present)
      (decide_eq_true pending)
    rcases offered with known | made
    · obtain ⟨original, stored, same⟩ := mem_registry_offers known
      have sameGrants : original.grants = invite.grants := congrArg Offer.endowment same
      refine without.invites original stored ?_ (sameGrants ▸ elevated)
      exact of_decide_eq_true ((congrArg Offer.pending same).trans (decide_eq_true pending))
    · rcases permitted with idle | permits
      · cases idle.symm.trans made
      · cases permits with
        | inviteUser request authorised => exact without.not_authorised orderly authorised
        | register request => cases made
        | setDirectoryAccess request authorised => cases made
        | setLeadFinderAccess request authorised => cases made

theorem World.WithoutAdmins.serveHttp
    (orderly : start.Orderly)
    (without : start.WithoutAdmins)
    (run : List HttpOccurrence) :
    (serveHttp app start run).WithoutAdmins := by
  induction run with
  | nil => exact without
  | cons occurrence run inductionHypothesis =>
      exact inductionHypothesis.step (orderly.serveHttp run) occurrence

/-- Every privilege is conferred, an invite is accepted by one account at most, and there is
no administrator where there was neither one nor an invite for one. -/
theorem privileges_conferred
    (app : Deployment)
    {start : World}
    (orderly : start.Orderly)
    (run : List HttpOccurrence) :
    (∀ user ∈ (serveHttp app start run).users, ∀ privilege, privilege.ConferredBy user.grants →
      Conferred app start run user.id privilege) ∧
    (∀ invite first second, Redeemed app start run invite first →
      Redeemed app start run invite second → first = second) ∧
    (start.WithoutAdmins → ∀ user ∈ (serveHttp app start run).users,
      ¬ user.grants.IsAdmin) := by
  refine ⟨conferred_of_confers orderly run, ?_, ?_⟩
  · exact fun invite first second => Redeemed.unique orderly
  · exact fun without => (without.serveHttp orderly run).users

/-- The token of the account 0, an administrator. -/
def adminToken : Jwt :=
  { payload := .access { sub := 0, role := .admin }, iat := 0, exp := 900 }

/-- An administrator who is signed in. -/
def administered : World :=
  { users := [{ id := 0, email := "ann@example.com", passwordHash := "secret", role := .admin }]
    signed := [adminToken]
    nextId := 1 }

theorem administered_orderly : administered.Orderly where
  registry := by constructor <;> decide
  tokens token present := by
    rw [List.mem_singleton.mp present]
    rintro payload ⟨⟩
    exact ⟨{ role := .admin }, List.mem_singleton.mpr rfl, rfl⟩

/-- The invitation of an address, spelled in its own way, and its registration. -/
def invitedRun : List HttpOccurrence :=
  [ { input := { now := 0 }
      request := .anyone (.register { email := "bob@example.com", password := "secret" }) },
    { input := { now := 0 }
      request := .admin (some adminToken)
        (.inviteUser { email := " bob@example.com ", role := some .admin }) } ]

/-- An account that is an administrator from an invite. -/
theorem privileges_conferred_invited :
    ∃ user ∈ (serveHttp {} administered invitedRun).users,
      user.email = "bob@example.com" ∧ user.role = .admin ∧
        Conferred {} administered invitedRun user.id (.role .admin) := by
  have registered : ∃ user ∈ (serveHttp {} administered invitedRun).users,
      user.email = "bob@example.com" ∧ user.role = .admin := by decide
  obtain ⟨user, present, address, elevated⟩ := registered
  refine ⟨user, present, address, elevated, ?_⟩
  exact (privileges_conferred {} administered_orderly invitedRun).1 user present (.role .admin)
    ⟨by decide, elevated⟩

end ConferenceContact
