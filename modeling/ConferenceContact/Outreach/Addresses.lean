import ConferenceContact.Auth.Footprints
import ConferenceContact.Foundation.Respects
import ConferenceContact.Model.Campaign
import Mathlib.Data.Bool.AllAny
import Mathlib.Data.List.DropRight

/-!
# Addresses as they are stored

Every writer of an address normalizes it, so that two stored addresses are the same
text where they differ by letter case and surrounding white space only.
-/

namespace ConferenceContact

open Process

/-! ## ASCII texts -/

/-- All characters are of ASCII. -/
def IsAscii (text : String) : Prop :=
  ∀ character ∈ text.toList, character.toNat < 128

/-- `toLowerCase` of ASCII texts; other characters stay. -/
def asciiLowercase (text : String) : String :=
  String.ofList (text.toList.map Char.toLower)

/-- A capital moves up by 32; other characters stay. -/
theorem toLower_cases (character : Char) :
    character.toLower = character ∨
      65 ≤ character.toNat ∧ character.toNat ≤ 90 ∧
        character.toLower.toNat = character.toNat + 32 := by
  unfold Char.toLower
  split
  · rename_i capital
    refine .inr ?_
    simp only [Char.reduceVal, ge_iff_le, UInt32.le_iff_toNat_le, UInt32.reduceToNat] at capital
    simp only [Char.toNat, UInt32.toNat_add, Char.reduceVal, UInt32.reduceSub, UInt32.reduceToNat]
    omega
  · exact .inl rfl

theorem isJsWhitespace_of_letter
    {character : Char}
    (low : 65 ≤ character.toNat)
    (high : character.toNat ≤ 122) :
    isJsWhitespace character = false := by
  unfold isJsWhitespace
  simp only [Bool.or_eq_false_iff, Bool.and_eq_false_iff, decide_eq_false_iff_not]
  omega

theorem isJsWhitespace_toLower (character : Char) :
    isJsWhitespace character.toLower = isJsWhitespace character := by
  rcases toLower_cases character with same | ⟨low, high, moved⟩
  · rw [same]
  · rw [isJsWhitespace_of_letter (by omega) (by omega), isJsWhitespace_of_letter low (by omega)]

theorem toLower_toLower (character : Char) : character.toLower.toLower = character.toLower := by
  rcases toLower_cases character with same | ⟨low, high, moved⟩
  · rw [same, same]
  · rcases toLower_cases character.toLower with same | ⟨lower, higher, -⟩
    · exact same
    · omega

/-- The texts agree character by character, but for the case of ASCII letters. -/
def SameButCase (text other : String) : Prop :=
  List.Forall₂ (fun character character' => character.toLower = character'.toLower)
    text.toList other.toList

theorem asciiLowercase_eq_iff {text other : String} :
    asciiLowercase text = asciiLowercase other ↔ SameButCase text other := by
  unfold asciiLowercase SameButCase
  rw [String.ofList_inj, ← List.forall₂_eq_eq_eq, List.forall₂_map_left_iff,
    List.forall₂_map_right_iff]

/-! ## Normal addresses -/

/-- What `toLowerCase` does: a second time it changes nothing, it makes and removes no
white space, and of ASCII texts it changes the capitals. -/
structure Deployment.Lowercases (app : Deployment) : Prop where
  idempotent : ∀ text, app.toLowerCase (app.toLowerCase text) = app.toLowerCase text
  trims : ∀ text, app.toLowerCase (jsTrim text) = jsTrim (app.toLowerCase text)
  ascii : ∀ text, IsAscii text → app.toLowerCase text = asciiLowercase text

/-- The normal form of an address. -/
abbrev Deployment.normalize (app : Deployment) (email : String) : String :=
  UsersService.normalizeEmail app email

/-- The address is in normal form. -/
def Deployment.IsNormal (app : Deployment) (email : String) : Prop :=
  app.normalize email = email

instance (app : Deployment) (email : String) : Decidable (app.IsNormal email) :=
  inferInstanceAs (Decidable (_ = _))

theorem jsTrim_eq (text : String) :
    jsTrim text =
      String.ofList ((text.toList.dropWhile isJsWhitespace).rdropWhile isJsWhitespace) := rfl

theorem isAscii_jsTrim {text : String} (ascii : IsAscii text) : IsAscii (jsTrim text) := by
  intro character present
  rw [jsTrim_eq, String.toList_ofList] at present
  have kept := (List.rdropWhile_prefix isJsWhitespace _).subset present
  exact ascii character ((List.dropWhile_suffix isJsWhitespace).subset kept)

/-- A trimmed text has no white space left at its ends. -/
theorem jsTrim_jsTrim (text : String) : jsTrim (jsTrim text) = jsTrim text := by
  rw [jsTrim_eq, jsTrim_eq, String.toList_ofList]
  have start : ((text.toList.dropWhile isJsWhitespace).rdropWhile isJsWhitespace).dropWhile
        isJsWhitespace =
      (text.toList.dropWhile isJsWhitespace).rdropWhile isJsWhitespace := by
    have initial := List.rdropWhile_prefix isJsWhitespace (text.toList.dropWhile isJsWhitespace)
    cases kept : (text.toList.dropWhile isJsWhitespace).rdropWhile isJsWhitespace with
    | nil => rfl
    | cons character rest =>
        rw [kept] at initial
        obtain ⟨cut, whole⟩ := initial
        have visible : isJsWhitespace character = false := by
          have again := List.dropWhile_idempotent isJsWhitespace text.toList
          rw [← whole] at again
          by_contra blank
          rw [Bool.not_eq_false] at blank
          rw [List.cons_append, List.dropWhile_cons_of_pos blank] at again
          have shorter := (List.dropWhile_suffix (l := rest ++ cut) isJsWhitespace).length_le
          rw [again, List.length_cons] at shorter
          omega
        rw [List.dropWhile_cons_of_neg (by simp [visible])]
  rw [start, List.rdropWhile_idempotent]

/-- A text that starts and ends with visible characters is trimmed. -/
theorem jsTrim_visible
    {first last : Char}
    (middle : List Char)
    (starts : isJsWhitespace first = false)
    (ends : isJsWhitespace last = false) :
    jsTrim (String.ofList (first :: middle ++ [last])) =
      String.ofList (first :: middle ++ [last]) := by
  rw [jsTrim_eq, String.toList_ofList, List.cons_append,
    List.dropWhile_cons_of_neg (by simp [starts]), ← List.cons_append,
    List.rdropWhile_concat_neg _ _ _ (by simp [ends])]

namespace Deployment.Lowercases

variable {app : Deployment}

theorem isNormal_normalize (lowercases : app.Lowercases) (email : String) :
    app.IsNormal (app.normalize email) := by
  show app.toLowerCase (jsTrim (app.toLowerCase (jsTrim email))) =
    app.toLowerCase (jsTrim email)
  rw [← lowercases.trims, jsTrim_jsTrim, lowercases.idempotent]

/-- ASCII texts without capitals are left alone. -/
theorem fixes
    (lowercases : app.Lowercases)
    {text : String}
    (plain : ∀ character ∈ text.toList, character.toNat < 128 ∧ character.isUpper = false) :
    app.toLowerCase text = text := by
  have same : text.toList.map Char.toLower = text.toList := by
    refine (List.map_congr_left fun character present => ?_).trans (List.map_id _)
    rcases toLower_cases character with same | ⟨low, high, -⟩
    · exact same
    · have small := (plain character present).2
      have upper : character.isUpper =
          decide (character.val ≥ 'A'.val ∧ character.val ≤ 'Z'.val) := rfl
      simp only [upper, Char.reduceVal, ge_iff_le, decide_eq_false_iff_not,
        UInt32.le_iff_toNat_le, UInt32.reduceToNat] at small
      simp only [Char.toNat] at low high
      omega
  rw [lowercases.ascii text fun character present => (plain character present).1,
    asciiLowercase, same, String.ofList_toList]

/-- ASCII addresses have one normal form exactly if, but for the white space around them,
they differ in the case of letters only. -/
theorem normalize_eq_iff_of_ascii
    (lowercases : app.Lowercases)
    {email other : String}
    (plain : IsAscii email)
    (otherPlain : IsAscii other) :
    app.normalize email = app.normalize other ↔ SameButCase (jsTrim email) (jsTrim other) := by
  have normalized {text : String} (ascii : IsAscii text) :
      app.normalize text = asciiLowercase (jsTrim text) :=
    lowercases.ascii _ (isAscii_jsTrim ascii)
  rw [normalized plain, normalized otherPlain, asciiLowercase_eq_iff]

/-- The address of a deleted account is in normal form. -/
theorem isNormal_deletedEmail (lowercases : app.Lowercases) (userId : UserId) :
    app.IsNormal (AdminService.deletedEmail userId) := by
  have characters : (AdminService.deletedEmail userId).toList =
      "deleted-".toList ++ Nat.toDigits 10 userId ++ "@deleted.invalid".toList := by
    unfold AdminService.deletedEmail
    rw [String.toList_append, String.toList_append]
    congr 2
    exact String.toList_ofList
  have trimmed : jsTrim (AdminService.deletedEmail userId) = AdminService.deletedEmail userId := by
    have shape : AdminService.deletedEmail userId =
        String.ofList ('d' :: ("eleted-".toList ++ Nat.toDigits 10 userId ++
          "@deleted.invali".toList) ++ ['d']) := by
      rw [← String.toList_inj, characters, String.toList_ofList]
      simp
    rw [shape]
    exact jsTrim_visible _ (by decide) (by decide)
  show app.toLowerCase (jsTrim (AdminService.deletedEmail userId)) = _
  rw [trimmed]
  refine lowercases.fixes fun character present => ?_
  rw [characters, List.mem_append, List.mem_append] at present
  rcases present with (present | present) | present
  · revert character
    exact List.all_iff_forall_prop.mp (by decide)
  · have digit : character.isDigit = true :=
      Nat.isDigit_of_mem_toDigits (by decide) (by decide) present
    simp only [Char.isDigit, Char.reduceVal, ge_iff_le, Bool.and_eq_true, decide_eq_true_eq,
      UInt32.le_iff_toNat_le, UInt32.reduceToNat] at digit
    have upper : character.isUpper = decide (character.val ≥ 'A'.val ∧ character.val ≤ 'Z'.val) :=
      rfl
    simp only [upper, Char.toNat, Char.reduceVal, ge_iff_le, decide_eq_false_iff_not,
      UInt32.le_iff_toNat_le, UInt32.reduceToNat]
    omega
  · revert character
    exact List.all_iff_forall_prop.mp (by decide)

end Deployment.Lowercases

/-! ## Stored addresses -/

/-- The addresses that are stored are in normal form, and the outreach queue has one row
for an address at most. -/
structure World.Normal (app : Deployment) (world : World) : Prop where
  users : ∀ user ∈ world.users, app.IsNormal user.email
  suppressions : ∀ suppression ∈ world.emailSuppressions, app.IsNormal suppression.email
  queue : ∀ row ∈ world.prospectInviteQueue, app.IsNormal row.email
  ids : (world.prospectInviteQueue.map (·.id)).Nodup
  issued : ∀ row ∈ world.prospectInviteQueue, row.id < world.nextId
  emails : (world.prospectInviteQueue.map (·.email)).Nodup

/-- The cold invites to an address that were enqueued. -/
def World.coldInvites (world : World) (email : String) : Nat :=
  world.outbox.count (.prospectColdInvite email)

/-- Addresses stay in normal form, and suppressed ones stay suppressed. -/
structure Deployment.Tends (app : Deployment) (before after : World) : Prop where
  normal : before.Normal app → after.Normal app
  suppressed : before.emailSuppressions ⊆ after.emailSuppressions

instance (app : Deployment) : IsPreorder World app.Tends where
  refl _ := ⟨fun normal => normal, List.Subset.refl _⟩
  trans _ _ _ first second :=
    ⟨fun normal => second.normal (first.normal normal),
      List.Subset.trans first.suppressed second.suppressed⟩

/-- Besides, nobody is invited. -/
structure Deployment.Stores (app : Deployment) (before after : World) : Prop
    extends app.Tends before after where
  invites : ∀ email, after.coldInvites email = before.coldInvites email

instance (app : Deployment) : IsPreorder World app.Stores where
  refl world := ⟨refl_of app.Tends world, fun _ => rfl⟩
  trans _ _ _ first second :=
    ⟨trans_of app.Tends first.toTends second.toTends,
      fun email => (second.invites email).trans (first.invites email)⟩

section

variable {app : Deployment} {before after : World}

/-- Only the addresses and the ids matter. -/
theorem World.Normal.of_same
    (normal : before.Normal app)
    (users : after.users.map (·.email) = before.users.map (·.email))
    (suppressions : after.emailSuppressions = before.emailSuppressions)
    (ids : after.prospectInviteQueue.map (·.id) = before.prospectInviteQueue.map (·.id))
    (emails : after.prospectInviteQueue.map (·.email) =
      before.prospectInviteQueue.map (·.email))
    (supply : before.nextId ≤ after.nextId) :
    after.Normal app where
  users := by
    refine List.forall_mem_map.mp ?_
    rw [users]
    exact List.forall_mem_map.mpr normal.users
  suppressions := suppressions ▸ normal.suppressions
  queue := by
    refine List.forall_mem_map.mp ?_
    rw [emails]
    exact List.forall_mem_map.mpr normal.queue
  ids := ids ▸ normal.ids
  issued row present := by
    have stored : row.id ∈ before.prospectInviteQueue.map (·.id) :=
      ids ▸ List.mem_map.mpr ⟨row, present, rfl⟩
    obtain ⟨earlier, issued, same⟩ := List.mem_map.mp stored
    exact same ▸ Nat.lt_of_lt_of_le (normal.issued earlier issued) supply
  emails := emails ▸ normal.emails

/-- A change of users whose addresses stay in normal form, and of anything that holds no
addresses. -/
theorem stores_of_users
    (users : (∀ user ∈ before.users, app.IsNormal user.email) →
      ∀ user ∈ after.users, app.IsNormal user.email)
    (suppressions : after.emailSuppressions = before.emailSuppressions)
    (queue : after.prospectInviteQueue = before.prospectInviteQueue)
    (outbox : after.outbox = before.outbox)
    (supply : before.nextId ≤ after.nextId) :
    app.Stores before after where
  normal normal :=
    have rest : { after with users := before.users }.Normal app :=
      normal.of_same rfl suppressions (by rw [queue]) (by rw [queue]) supply
    { rest with users := users normal.users }
  suppressed := by rw [suppressions]; exact List.Subset.refl _
  invites email := by rw [World.coldInvites, outbox]; rfl

theorem stores_of_same
    (users : after.users = before.users)
    (suppressions : after.emailSuppressions = before.emailSuppressions)
    (queue : after.prospectInviteQueue = before.prospectInviteQueue)
    (outbox : after.outbox = before.outbox)
    (supply : before.nextId ≤ after.nextId) :
    app.Stores before after :=
  stores_of_users (fun normal => users ▸ normal) suppressions queue outbox supply

/-- Users are rewritten: their addresses are kept, or replaced by ones in normal form. -/
theorem isNormal_updateUsers
    (condition : User → Bool)
    {rewrite : User → User}
    (kept : ∀ user, app.IsNormal user.email → app.IsNormal (rewrite user).email)
    {users : List User}
    (normal : ∀ user ∈ users, app.IsNormal user.email) :
    ∀ user ∈ Table.updateWhere condition rewrite users, app.IsNormal user.email := by
  refine List.forall_mem_map.mpr fun user present => ?_
  split
  · exact kept user (normal user present)
  · exact normal user present

/-- Rows of the outreach queue are rewritten apart from their addresses. -/
theorem stores_updateQueue
    (condition : ProspectInviteQueue → Bool)
    {rewrite : ProspectInviteQueue → ProspectInviteQueue}
    (ids : ∀ row, (rewrite row).id = row.id)
    (emails : ∀ row, (rewrite row).email = row.email) :
    app.Stores before
      { before with
        prospectInviteQueue :=
          Table.updateWhere condition rewrite before.prospectInviteQueue } where
  normal normal :=
    normal.of_same rfl rfl (Table.map_updateWhere _ _ _ _ ids)
      (Table.map_updateWhere _ _ _ _ emails) (Nat.le_refl _)
  suppressed := List.Subset.refl _
  invites _ := rfl

end

/-! ## The calls of the writers -/

section

variable {app : Deployment}

theorem stores_record (actor : Option UserId) (action : AuditAction) :
    (AuditService.record actor action).Respects app.Stores :=
  Respects.command fun _ _ => stores_of_same rfl rfl rfl rfl (Nat.le_refl _)

theorem stores_updateUser
    (id : UserId)
    {rewrite : Time → User → User}
    (kept : ∀ now user, app.IsNormal user.email → app.IsNormal (rewrite now user).email) :
    (UsersService.update id rewrite).Respects app.Stores :=
  Footprint.updateUser fun now _ =>
    stores_of_users (isNormal_updateUsers _ (kept now)) rfl rfl rfl (Nat.le_refl _)

theorem stores_revokeAllForUser (userId : UserId) :
    (SessionsService.revokeAllForUser userId).Respects app.Stores :=
  Respects.command fun _ _ => stores_of_same rfl rfl rfl rfl (Nat.le_refl _)

theorem stores_revokeUser (userId : UserId) :
    (TokenRevocationService.revokeUser app userId).Respects app.Stores :=
  Footprint.revokeUser (fun _ _ => stores_of_same rfl rfl rfl rfl (Nat.le_refl _)) app userId

theorem stores_suppress
    {email : String}
    (isNormal : app.IsNormal email) :
    (suppress email).Respects app.Stores := by
  refine Respects.command fun input world => ?_
  split
  · exact refl_of app.Stores world
  · refine { normal := fun normal => ?_, suppressed := ?_, invites := fun _ => rfl }
    · exact
        { normal with
          suppressions := List.forall_mem_cons.mpr ⟨isNormal, normal.suppressions⟩ }
    · exact List.subset_cons_self _ _

/-- A row is added for an address that has none. -/
theorem stores_queued
    (world : World)
    (uploadedByUserId : UserId)
    (now : Time)
    {email : String}
    (isNormal : app.IsNormal email)
    (absent : ¬(world.prospectInviteQueue.any fun row => row.email = email) = true) :
    app.Stores world
      { world with
        prospectInviteQueue :=
          { id := world.nextId
            email
            uploadedByUserId := some uploadedByUserId
            createdAt := now } :: world.prospectInviteQueue
        nextId := world.nextId + 1 } where
  normal normal :=
    { users := normal.users
      suppressions := normal.suppressions
      queue := List.forall_mem_cons.mpr ⟨isNormal, normal.queue⟩
      ids := by
        rw [List.map_cons, List.nodup_cons]
        refine ⟨fun present => ?_, normal.ids⟩
        obtain ⟨row, stored, same⟩ := List.mem_map.mp present
        exact absurd (same ▸ normal.issued row stored) (Nat.lt_irrefl _)
      issued := by
        refine List.forall_mem_cons.mpr ⟨Nat.lt_succ_self _, fun row present => ?_⟩
        exact Nat.lt_succ_of_lt (normal.issued row present)
      emails := by
        rw [List.map_cons, List.nodup_cons]
        refine ⟨fun present => absent ?_, normal.emails⟩
        obtain ⟨row, stored, same⟩ := List.mem_map.mp present
        exact List.any_eq_true.mpr ⟨row, stored, decide_eq_true same⟩ }
  suppressed := List.Subset.refl _
  invites _ := rfl

/-- All rows that are added have addresses in normal form. -/
theorem stores_createMany
    (uploadedByUserId : UserId)
    {emails : List String}
    (normal : ∀ email ∈ emails, app.IsNormal email) :
    (ProspectCampaignService.createMany uploadedByUserId emails).Respects app.Stores := by
  refine Respects.attempt fun input world value after created => ?_
  split at created
  · rename_i uploader
    cases created
    clear uploader
    induction emails generalizing world with
    | nil => exact refl_of app.Stores world
    | cons email rest inductionHypothesis =>
        obtain ⟨isNormal, others⟩ := List.forall_mem_cons.mp normal
        refine trans_of app.Stores ?_ (inductionHypothesis others _)
        dsimp only
        split
        · exact refl_of app.Stores world
        · exact stores_queued world uploadedByUserId input.now isNormal ‹_›
  · cases created

end
end ConferenceContact
