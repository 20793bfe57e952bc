import Mathlib.Data.List.Nodup
import Mathlib.Order.Defs.Unbundled

/-!
# Credentials and their owners

A registry of credentials, which have names, tokens and owners and may be replaced by
one another.  Credentials are only added, under new names and tokens, and a credential
is replaced by one of the same owner; so a token stands for one owner for good, and
whatever replaces it stands for the same one.
-/

namespace ConferenceContact

/-- What is presented for an owner, and the name of what has replaced it. -/
structure Credential (κ τ ω : Type) where
  name : κ
  token : τ
  owner : ω
  replacedBy : Option κ

/-- The credentials handed out so far. -/
abbrev CredentialRegistry (κ τ ω : Type) := List (Credential κ τ ω)

namespace CredentialRegistry

variable {κ τ ω : Type}

/-- The token stands for the owner. -/
def Owns (registry : CredentialRegistry κ τ ω) (token : τ) (owner : ω) : Prop :=
  ∃ credential ∈ registry, credential.token = token ∧ credential.owner = owner

/-- The name is that of a credential of the owner. -/
def Names (registry : CredentialRegistry κ τ ω) (name : κ) (owner : ω) : Prop :=
  ∃ credential ∈ registry, credential.name = name ∧ credential.owner = owner

/-- Names and tokens are distinct, and a successor has the same owner. -/
structure WellKept (registry : CredentialRegistry κ τ ω) : Prop where
  names : (registry.map Credential.name).Nodup
  tokens : (registry.map Credential.token).Nodup
  successors : ∀ credential ∈ registry, ∀ name ∈ credential.replacedBy,
    registry.Names name credential.owner

/-- What stands for an owner goes on to do so. -/
structure Extends (before after : CredentialRegistry κ τ ω) : Prop where
  owns : ∀ token owner, before.Owns token owner → after.Owns token owner
  names : ∀ name owner, before.Names name owner → after.Names name owner

instance : IsPreorder (CredentialRegistry κ τ ω) Extends where
  refl _ := ⟨fun _ _ => id, fun _ _ => id⟩
  trans _ _ _ first second :=
    ⟨fun token owner owns => second.owns token owner (first.owns token owner owns),
      fun name owner names => second.names name owner (first.names name owner names)⟩

/-- A token has one owner. -/
theorem WellKept.owns_unique
    {registry : CredentialRegistry κ τ ω}
    (wellKept : registry.WellKept)
    {token : τ}
    {owner other : ω}
    (first : registry.Owns token owner)
    (second : registry.Owns token other) :
    owner = other := by
  obtain ⟨credential, present, rfl, rfl⟩ := first
  obtain ⟨same, stored, tokens, rfl⟩ := second
  rw [List.inj_on_of_nodup_map wellKept.tokens present stored tokens.symm]

/-- A name has one owner. -/
theorem WellKept.names_unique
    {registry : CredentialRegistry κ τ ω}
    (wellKept : registry.WellKept)
    {name : κ}
    {owner other : ω}
    (first : registry.Names name owner)
    (second : registry.Names name other) :
    owner = other := by
  obtain ⟨credential, present, rfl, rfl⟩ := first
  obtain ⟨same, stored, names, rfl⟩ := second
  rw [List.inj_on_of_nodup_map wellKept.names present stored names.symm]

/-! ## Issuing -/

theorem extends_cons (credential : Credential κ τ ω) (registry : CredentialRegistry κ τ ω) :
    registry.Extends (credential :: registry) where
  owns _ _ := Exists.imp fun _ held => ⟨List.mem_cons_of_mem _ held.1, held.2⟩
  names _ _ := Exists.imp fun _ held => ⟨List.mem_cons_of_mem _ held.1, held.2⟩

/-- A credential with a new name and a new token. -/
theorem WellKept.issue
    {registry : CredentialRegistry κ τ ω}
    (wellKept : registry.WellKept)
    {credential : Credential κ τ ω}
    (newName : ∀ other ∈ registry, other.name ≠ credential.name)
    (newToken : ∀ other ∈ registry, other.token ≠ credential.token)
    (current : credential.replacedBy = none) :
    WellKept (credential :: registry) where
  names := by
    refine List.nodup_cons.mpr ⟨fun present => ?_, wellKept.names⟩
    obtain ⟨other, stored, same⟩ := List.mem_map.mp present
    exact newName other stored same
  tokens := by
    refine List.nodup_cons.mpr ⟨fun present => ?_, wellKept.tokens⟩
    obtain ⟨other, stored, same⟩ := List.mem_map.mp present
    exact newToken other stored same
  successors := by
    intro other present name replaced
    rcases List.mem_cons.mp present with rfl | old
    · rw [current] at replaced
      cases replaced
    · exact (extends_cons credential registry).names _ _
        (wellKept.successors other old name replaced)

/-! ## Replacing -/

/-- Note what has replaced a credential. -/
def replace
    [DecidableEq κ]
    (registry : CredentialRegistry κ τ ω)
    (old new : κ) : CredentialRegistry κ τ ω :=
  registry.map fun credential =>
    if credential.name = old then { credential with replacedBy := some new } else credential

section

variable [DecidableEq κ] {old new : κ}

theorem mem_replace
    {registry : CredentialRegistry κ τ ω}
    {credential : Credential κ τ ω} :
    credential ∈ registry.replace old new ↔
      ∃ before ∈ registry, (if before.name = old then { before with replacedBy := some new }
        else before) = credential :=
  List.mem_map

theorem extends_replace (registry : CredentialRegistry κ τ ω) (old new : κ) :
    registry.Extends (registry.replace old new) where
  owns := by
    rintro token owner ⟨credential, present, rfl, rfl⟩
    refine ⟨_, mem_replace.mpr ⟨credential, present, rfl⟩, ?_⟩
    split <;> exact ⟨rfl, rfl⟩
  names := by
    rintro name owner ⟨credential, present, rfl, rfl⟩
    refine ⟨_, mem_replace.mpr ⟨credential, present, rfl⟩, ?_⟩
    split <;> exact ⟨rfl, rfl⟩

/-- A credential is replaced by one of the same owner. -/
theorem WellKept.replace
    {registry : CredentialRegistry κ τ ω}
    (wellKept : registry.WellKept)
    {owner : ω}
    (replaced : registry.Names old owner)
    (successor : registry.Names new owner) :
    WellKept (registry.replace old new) where
  names := by
    have same : (registry.replace old new).map Credential.name =
        registry.map Credential.name := by
      refine (List.map_map ..).trans (List.map_congr_left fun credential _ => ?_)
      dsimp only [Function.comp]
      split <;> rfl
    rw [same]
    exact wellKept.names
  tokens := by
    have same : (registry.replace old new).map Credential.token =
        registry.map Credential.token := by
      refine (List.map_map ..).trans (List.map_congr_left fun credential _ => ?_)
      dsimp only [Function.comp]
      split <;> rfl
    rw [same]
    exact wellKept.tokens
  successors := by
    intro credential present name isNext
    obtain ⟨before, stored, rfl⟩ := mem_replace.mp present
    apply (extends_replace registry old new).names
    split at isNext
    · rename_i named
      rw [if_pos named]
      cases isNext
      have own : registry.Names old before.owner := ⟨before, stored, named, rfl⟩
      rw [wellKept.names_unique own replaced]
      exact successor
    · rename_i other
      rw [if_neg other]
      exact wellKept.successors before stored name isNext

end

end CredentialRegistry
end ConferenceContact
