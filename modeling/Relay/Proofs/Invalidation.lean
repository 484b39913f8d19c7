import Relay.Cache.Claim
import Relay.Cache.Results
import Relay.Proofs.Store
import Relay.Proofs.Counter
/-!
# Invalidation is local

Three families of keys share the store: claims `idempotent:<operation>:<request id>`,
generation counters `cache-gen:<resource>`, and results `<resource>:g<generation>:<shape>`.
An invalidation counts the resource's generation up and then deletes every key that starts
with `<resource>:`, so it changes the counter and keys under that prefix and nothing else
(`Results.find?_invalidate`). Whether the prefix reaches another family depends on the name:
a key `<a>:<b>` starts with `<r>:` for a colon-free `r` exactly when `a = r`
(`hasPrefix_sep`). For a resource name without a colon that is neither `idempotent` nor
`cache-gen` (`Results.Isolated`), the prefix holds no claim, no counter and no other
colon-free resource's results (`Results.invalidate_is_local`). The resource `idempotent`
deletes every claim (`Results.invalidate_drops_claims`), and `cache-gen` every counter.
-/
namespace Relay.Cache

theorem sep_inj {a a' b b' : String} (ha : ':' ∉ a.toList) (ha' : ':' ∉ a'.toList)
    (h : a ++ ":" ++ b = a' ++ ":" ++ b') : a = a' ∧ b = b' := by
  have hl : a.toList ++ ':' :: b.toList = a'.toList ++ ':' :: b'.toList := by
    simpa [String.toList_append] using congrArg String.toList h
  obtain ⟨h₁, h₂⟩ := eq_of_append_cons_eq ha ha' hl
  exact ⟨String.toList_inj.mp h₁, String.toList_inj.mp h₂⟩

theorem hasPrefix_sep {r a b : String} (hr : ':' ∉ r.toList) (ha : ':' ∉ a.toList) :
    hasPrefix (r ++ ":") (a ++ ":" ++ b) = true ↔ r = a := by
  constructor
  · intro h
    obtain ⟨t, ht⟩ := List.isPrefixOf_iff_prefix.mp h
    have ht' : r ++ ":" ++ String.ofList t = a ++ ":" ++ b := by
      apply String.toList_inj.mp
      simpa [String.toList_append] using ht
    exact (sep_inj hr ha ht').1
  · rintro rfl
    exact hasPrefix_append _ _

theorem Guard.key_eq (operation requestId : String) :
    Guard.key operation requestId = "idempotent" ++ ":" ++ (operation ++ ":" ++ requestId) := by
  simp only [Guard.key, String.append_assoc]
  rfl

namespace Results

theorem generationKey_eq (r : String) : generationKey r = "cache-gen" ++ ":" ++ r := by
  simp only [generationKey, String.append_assoc]
  rfl

theorem entryKey_eq (r : String) (g : Int) (shape : String) :
    entryKey r g shape = r ++ ":" ++ ("g" ++ toString g ++ ":" ++ shape) := by
  simp only [entryKey, String.append_assoc]
  rfl

theorem generationKey_ne_claim (r operation requestId : String) :
    generationKey r ≠ Guard.key operation requestId := by
  intro he
  rw [generationKey_eq, Guard.key_eq] at he
  exact absurd (sep_inj (by decide) (by decide) he).1 (by decide)

theorem generationKey_inj {r r' : String} (h : generationKey r = generationKey r') : r = r' := by
  simpa [generationKey] using h

def Family (r k : String) : Prop :=
  ∃ g v p, fitsInt64 g = true ∧ k = entryKey r g (queryShape v p)

theorem Family.hasPrefix {r k : String} (h : Family r k) : hasPrefix (r ++ ":") k = true := by
  obtain ⟨g, v, p, -, rfl⟩ := h
  exact hasPrefix_entryKey r _ g

structure Isolated (r : String) : Prop where
  colon_free : ':' ∉ r.toList
  not_claims : r ≠ "idempotent"
  not_counters : r ≠ "cache-gen"

namespace Isolated

variable {r : String} (hr : Isolated r)
include hr

theorem claim_key (operation requestId : String) :
    hasPrefix (r ++ ":") (Guard.key operation requestId) = false := by
  rw [Guard.key_eq, Bool.eq_false_iff, ne_eq, hasPrefix_sep hr.colon_free (by decide)]
  exact hr.not_claims

theorem generation_key (r' : String) : hasPrefix (r ++ ":") (generationKey r') = false := by
  rw [generationKey_eq, Bool.eq_false_iff, ne_eq, hasPrefix_sep hr.colon_free (by decide)]
  exact hr.not_counters

theorem entry_key {r' : String} (hr' : ':' ∉ r'.toList) (hne : r' ≠ r) (g : Int) (shape : String) :
    hasPrefix (r ++ ":") (entryKey r' g shape) = false := by
  rw [entryKey_eq, Bool.eq_false_iff, ne_eq, hasPrefix_sep hr.colon_free hr']
  exact hne.symm

theorem entry_ne_generation {r' : String} (hr' : ':' ∉ r'.toList) (g : Int) (shape : String) :
    entryKey r' g shape ≠ generationKey r := by
  intro he
  rw [entryKey_eq, generationKey_eq] at he
  obtain ⟨-, hb⟩ := sep_inj hr' (by decide) he
  apply hr.colon_free
  simp [← hb, String.toList_append]

end Isolated

structure Invalidated (r : String) (s : Store) (c : Clock) (s' : Store) : Prop where
  -- the generation is counted up by one and written back without expiry
  counted : ∃ n, generation s c r = some n ∧
    s'.find? (generationKey r) = some ⟨toString (n + 1), none⟩
  evicted : ∀ k, Family r k → s'.find? k = none
  framed : ∀ k, s'.find? k ≠ s.find? k → k = generationKey r ∨ hasPrefix (r ++ ":") k = true
  -- when the store keeps nothing but results under the prefix, only results change there
  within : (∀ k, hasPrefix (r ++ ":") k = true → (s.find? k).isSome → Family r k) →
    ∀ k, s'.find? k ≠ s.find? k → k = generationKey r ∨ Family r k
  claims : ∀ operation requestId,
    s'.find? (Guard.key operation requestId) = s.find? (Guard.key operation requestId)
  counters : ∀ r', r' ≠ r → s'.find? (generationKey r') = s.find? (generationKey r')
  others : ∀ r', ':' ∉ r'.toList → r' ≠ r →
    ∀ g shape, s'.find? (entryKey r' g shape) = s.find? (entryKey r' g shape)

variable {s s' : Store} {c : Clock} {r : String}

theorem invalidate_eq_ok (h : invalidate s c r = .ok s') :
    ∃ n, generation s c r = some n ∧ n ≠ int64Max ∧
      s' = (s.put (generationKey r) ⟨toString (n + 1), none⟩).dropPrefix (r ++ ":") := by
  simp only [invalidate, bind, Except.bind] at h
  split at h
  · cases h
  · rename_i x hx
    obtain ⟨n, s₁⟩ := x
    obtain ⟨_, m, hm, hmax, rfl, rfl⟩ := incr_generationKey_eq_ok s c r hx
    split at h
    · cases h
    · rename_i y hy
      cases h
      exact ⟨m, hm, hmax, Store.deletePrefix_eq_ok _ hy⟩

theorem find?_invalidate (h : invalidate s c r = .ok s') :
    ∃ n, generation s c r = some n ∧ ∀ k, s'.find? k =
      if hasPrefix (r ++ ":") k then none
      else if k = generationKey r then some ⟨toString (n + 1), none⟩ else s.find? k := by
  obtain ⟨n, hn, -, rfl⟩ := invalidate_eq_ok h
  exact ⟨n, hn, fun k => by rw [Store.find?_dropPrefix, Store.find?_put]⟩

theorem find?_invalidate_outside (h : invalidate s c r = .ok s') {k : String}
    (hk : hasPrefix (r ++ ":") k = false) (hg : k ≠ generationKey r) : s'.find? k = s.find? k := by
  obtain ⟨n, -, hfind⟩ := find?_invalidate h
  rw [hfind k, hk, if_neg Bool.false_ne_true, if_neg hg]

theorem invalidate_is_local (hr : Isolated r) (h : invalidate s c r = .ok s') :
    Invalidated r s c s' := by
  obtain ⟨n, hn, hfind⟩ := find?_invalidate h
  have framed : ∀ k, s'.find? k ≠ s.find? k →
      k = generationKey r ∨ hasPrefix (r ++ ":") k = true := by
    intro k hk
    by_cases hg : k = generationKey r
    · exact .inl hg
    · by_cases hp : hasPrefix (r ++ ":") k = true
      · exact .inr hp
      · exact absurd (find?_invalidate_outside h (by simpa using hp) hg) hk
  refine ⟨⟨n, hn, ?_⟩, fun k hk => ?_, framed, fun hs k hk => ?_, fun q id => ?_,
    fun r' hne => ?_, fun r' hr' hne g shape => ?_⟩
  · rw [hfind, hr.generation_key, if_neg Bool.false_ne_true, if_pos rfl]
  · rw [hfind, hk.hasPrefix, if_pos rfl]
  · -- a changed key under the prefix was deleted, so the store held it
    rcases framed k hk with hg | hp
    · exact .inl hg
    · refine .inr (hs k hp (Option.isSome_iff_ne_none.mpr fun hnone => hk ?_))
      rw [hfind, hp, if_pos rfl, hnone]
  · exact find?_invalidate_outside h (hr.claim_key q id) (generationKey_ne_claim r q id).symm
  · exact find?_invalidate_outside h (hr.generation_key r')
      fun he => hne (generationKey_inj he)
  · exact find?_invalidate_outside h (hr.entry_key hr' hne g shape)
      (hr.entry_ne_generation hr' g shape)

-- a claim, another resource's counter and result, and a result of `player`
def mixed : Store := { entries := [(Guard.key "player-insert" "r1", ⟨"\x7b\x7d", none⟩),
  (generationKey "deck", ⟨"3", none⟩), (entryKey "deck" 3 "get-all", ⟨"[]", none⟩),
  (entryKey "player" 0 "get-all", ⟨"[]", none⟩)] }

theorem invalidate_is_local_mixed :
    Isolated "player" ∧
    invalidate mixed ⟨0, ⟨0⟩⟩ "player" = .ok { entries := [
      (Guard.key "player-insert" "r1", ⟨"\x7b\x7d", none⟩), (generationKey "deck", ⟨"3", none⟩),
      (entryKey "deck" 3 "get-all", ⟨"[]", none⟩), (generationKey "player", ⟨"1", none⟩)] } ∧
    Invalidated "player" mixed ⟨0, ⟨0⟩⟩ { entries := [
      (Guard.key "player-insert" "r1", ⟨"\x7b\x7d", none⟩), (generationKey "deck", ⟨"3", none⟩),
      (entryKey "deck" 3 "get-all", ⟨"[]", none⟩), (generationKey "player", ⟨"1", none⟩)] } := by
  have hr : Isolated "player" := ⟨by decide, by decide, by decide⟩
  have h : invalidate mixed ⟨0, ⟨0⟩⟩ "player" = .ok { entries := [
      (Guard.key "player-insert" "r1", ⟨"\x7b\x7d", none⟩), (generationKey "deck", ⟨"3", none⟩),
      (entryKey "deck" 3 "get-all", ⟨"[]", none⟩), (generationKey "player", ⟨"1", none⟩)] } := by
    rfl
  exact ⟨hr, h, invalidate_is_local hr h⟩

def claimed : Store := { entries := [(Guard.key "player-insert" "r1", ⟨"\x7b\x7d", none⟩)] }

-- the resource `idempotent` keeps its results under the claims' prefix
theorem invalidate_drops_claims :
    invalidate claimed ⟨0, ⟨0⟩⟩ "idempotent" =
      .ok { entries := [(generationKey "idempotent", ⟨"1", none⟩)] } ∧
    ¬ Invalidated "idempotent" claimed ⟨0, ⟨0⟩⟩
      { entries := [(generationKey "idempotent", ⟨"1", none⟩)] } := by
  refine ⟨rfl, fun h => ?_⟩
  have hc := h.claims "player-insert" "r1"
  revert hc
  decide

end Results

end Relay.Cache
