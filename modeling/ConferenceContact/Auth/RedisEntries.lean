import ConferenceContact.Foundation.Table
import ConferenceContact.Model.Service

/-!
# The entries of a key in Redis

A key has one entry at most, which commands on other keys leave alone.
-/

namespace ConferenceContact

/-- The entries of a key, whether or not they have expired. -/
def World.entriesOf (world : World) (key : RedisKey) : List RedisEntry :=
  world.redis.filter fun entry => entry.key = key

section

variable {key : RedisKey} {now : Time} {world : World} {entry : RedisEntry}

theorem lookup_entriesOf :
    Redis.lookup now key world.redis =
      (world.entriesOf key).find? (Redis.RedisEntry.present now) := by
  unfold Redis.lookup World.entriesOf
  rw [List.find?_filter]
  congr 1
  funext entry
  simp

theorem entriesOf_put (keyed : entry.key = key) :
    ({ world with redis := Redis.put entry world.redis } : World).entriesOf key = [entry] := by
  unfold World.entriesOf Redis.put
  simp only [List.filter_cons, keyed, decide_true, if_true, List.filter_filter]
  rw [List.filter_eq_nil_iff.mpr]
  intro other _
  simp

theorem entriesOf_put_of_ne (other : entry.key ≠ key) :
    ({ world with redis := Redis.put entry world.redis } : World).entriesOf key =
      world.entriesOf key := by
  unfold World.entriesOf Redis.put
  rw [List.filter_cons_of_neg (by simp [other]), List.filter_filter]
  congr 1
  funext stored
  by_cases same : stored.key = key
  · simp [same, Ne.symm other]
  · simp [same]

theorem mem_entriesOf_of_lookup (found : Redis.lookup now key world.redis = some entry) :
    entry ∈ world.entriesOf key ∧ entry.key = key := by
  rw [lookup_entriesOf] at found
  have stored := List.mem_of_find?_eq_some found
  exact ⟨stored, by simpa using (List.mem_filter.mp stored).2⟩

/-- The only entry of a key is found while it has not expired. -/
theorem lookup_eq_none_iff :
    Redis.lookup now key world.redis = none ↔
      ∀ entry ∈ world.entriesOf key, Redis.RedisEntry.present now entry = false := by
  rw [lookup_entriesOf, List.find?_eq_none]
  simp only [Bool.not_eq_true]

end
end ConferenceContact
