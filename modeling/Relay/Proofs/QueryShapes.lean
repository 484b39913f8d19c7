import Relay.Proofs.WriteInjective
import Relay.Proofs.Producing
/-!
# What a query shape names

A read is cached under `<resource>:g<generation>:<shape>`. The shape is the verb's name, then,
for a verb other than `get-all` and a payload other than `null`, a colon and the payload: a
string as its own text, any other value as its compact JSON text. A string whose text is the
compact text of another payload, neither a string nor `null`, thus shares that payload's shape:
`"1"` and `1`, `"[1]"` and `[1]` (`Json.Spells`). That is the only way two queries of a verb
share a shape (`Cache.queryShape_eq_iff`), and so, since a hit reads the entry under the
query's key at the generation it found, the only way a read is served a value that the
operation produced for another query (`Cache.cached_read_keys_identify_queries`).
-/
namespace Relay

def Json.Spells (p q : Json) : Prop := q.asText? = none ∧ q ≠ .null ∧ p = .str (Json.write q)

namespace Cache

def selector : Json → Option String
  | .str s => some s
  | .null => none
  | p => some (Json.write p)

def shapeTail (v : Verb) (p : Json) : List Char :=
  if v = .getAll then [] else (selector p).elim [] fun s => ':' :: s.toList

theorem queryShape_toList (v : Verb) (p : Json) :
    (queryShape v p).toList = v.name.toList ++ shapeTail v p := by
  cases v <;> cases p <;> simp [queryShape, shapeTail, selector]

theorem shapeTail_cases (v : Verb) (p : Json) : shapeTail v p = [] ∨ ∃ t, shapeTail v p = ':' :: t := by
  unfold shapeTail
  split_ifs
  · exact .inl rfl
  · cases selector p with
    | none => exact .inl rfl
    | some s => exact .inr ⟨s.toList, rfl⟩

theorem colon_not_mem_name (v : Verb) : ':' ∉ v.name.toList := by
  cases v <;> decide

theorem name_inj {v v' : Verb} (h : v.name = v'.name) : v = v' := by
  revert h
  cases v <;> cases v' <;> decide

theorem name_append_inj {v v' : Verb} {t t' : List Char} (ht : t = [] ∨ ∃ u, t = ':' :: u)
    (ht' : t' = [] ∨ ∃ u, t' = ':' :: u) (h : v.name.toList ++ t = v'.name.toList ++ t') :
    v = v' ∧ t = t' := by
  rcases ht with rfl | ⟨u, rfl⟩ <;> rcases ht' with rfl | ⟨u', rfl⟩
  · simp only [List.append_nil, String.toList_inj] at h
    exact ⟨name_inj h, rfl⟩
  · rw [List.append_nil] at h
    exact absurd (h ▸ List.mem_append_right _ List.mem_cons_self) (colon_not_mem_name v)
  · rw [List.append_nil] at h
    exact absurd (h ▸ List.mem_append_right _ List.mem_cons_self) (colon_not_mem_name v')
  · obtain ⟨hn, rfl⟩ := eq_of_append_cons_eq (colon_not_mem_name v) (colon_not_mem_name v') h
    exact ⟨name_inj (String.toList_inj.mp hn), rfl⟩

theorem selector_eq_some {p : Json} {s : String} :
    selector p = some s ↔ p = .str s ∨ (p.asText? = none ∧ p ≠ .null ∧ s = Json.write p) := by
  cases p <;> simp [selector, Json.asText?, eq_comm]

theorem selector_eq_none {p : Json} : selector p = none ↔ p = .null := by
  cases p <;> simp [selector]

theorem selector_eq_iff {p q : Json} (hp : p.Finite) (hq : q.Finite) :
    selector p = selector q ↔ p = q ∨ p.Spells q ∨ q.Spells p := by
  constructor
  · intro h
    cases hsp : selector p with
    | none =>
      rw [hsp, eq_comm, selector_eq_none] at h
      exact .inl ((selector_eq_none.mp hsp).trans h.symm)
    | some s =>
      rw [hsp, eq_comm] at h
      rcases selector_eq_some.mp hsp with rfl | ⟨hpt, hpn, rfl⟩ <;>
        rcases selector_eq_some.mp h with hq' | ⟨hqt, hqn, hs⟩
      · exact .inl hq'.symm
      · exact .inr (.inl ⟨hqt, hqn, by rw [hs]⟩)
      · exact .inr (.inr ⟨hpt, hpn, hq'⟩)
      · exact .inl (Json.write_inj hp hq hs)
  · rintro (rfl | ⟨hqt, hqn, rfl⟩ | ⟨hpt, hpn, rfl⟩)
    · rfl
    · exact (selector_eq_some.mpr (.inr ⟨hqt, hqn, rfl⟩)).symm
    · exact selector_eq_some.mpr (.inr ⟨hpt, hpn, rfl⟩)

theorem shapeTail_eq_iff {v : Verb} (hv : v ≠ .getAll) {p q : Json} :
    shapeTail v p = shapeTail v q ↔ selector p = selector q := by
  unfold shapeTail
  rw [if_neg hv, if_neg hv]
  cases selector p <;> cases selector q <;> simp [String.toList_inj]

theorem queryShape_eq_iff {v v' : Verb} {p q : Json} (hp : p.Finite) (hq : q.Finite) :
    queryShape v p = queryShape v' q ↔ v = v' ∧ (v = .getAll ∨ p = q ∨ p.Spells q ∨ q.Spells p) := by
  rw [← String.toList_inj, queryShape_toList, queryShape_toList]
  constructor
  · intro h
    obtain ⟨rfl, ht⟩ := name_append_inj (shapeTail_cases v p) (shapeTail_cases v' q) h
    refine ⟨rfl, ?_⟩
    by_cases hv : v = .getAll
    · exact .inl hv
    · exact .inr ((selector_eq_iff hp hq).mp ((shapeTail_eq_iff hv).mp ht))
  · rintro ⟨rfl, hv | hpq⟩
    · subst hv
      rfl
    · by_cases hv : v = .getAll
      · subst hv
        rfl
      · rw [(shapeTail_eq_iff hv).mpr ((selector_eq_iff hp hq).mpr hpq)]

theorem entryKey_queryShape_eq_iff (r : String) {v v' : Verb} {p q : Json} (hp : p.Finite)
    (hq : q.Finite) {g g' : Int} (hg : fitsInt64 g = true) (hg' : fitsInt64 g' = true) :
    Results.entryKey r g (queryShape v p) = Results.entryKey r g' (queryShape v' q) ↔
      g = g' ∧ v = v' ∧ (v = .getAll ∨ p = q ∨ p.Spells q ∨ q.Spells p) := by
  constructor
  · intro h
    obtain ⟨rfl, hs⟩ := Results.entryKey_inj hg hg' h
    exact ⟨rfl, (queryShape_eq_iff hp hq).mp hs⟩
  · rintro ⟨rfl, hs⟩
    rw [(queryShape_eq_iff hp hq).mpr hs]

theorem Results.lookup_hit {s : Store} {c : Clock} {r shape : String} {x : Json}
    (h : Results.lookup s c r shape = .hit x) :
    ∃ g e, Results.generation s c r = some g ∧ fitsInt64 g = true ∧
      s.find? (Results.entryKey r g shape) = some e ∧ Json.parseText e.value = .ok x := by
  unfold Results.lookup at h
  split at h
  · cases h
  · rename_i g hg
    obtain ⟨e, he, -, hv⟩ := Results.probe_hit s c r h
    exact ⟨g, e, hg, Results.generation_fits s c r hg, he, hv⟩

/-- The key a read of `v` with payload `p` looks up at a generation is the key a read of `v'`
with payload `q` stores under at a generation exactly when the generations and the verbs are
the same and, unless the verb is `get-all`, the payloads are equal or one spells the other;
and a hit is what is stored under that key. -/
theorem cached_read_keys_identify_queries (r : String) {v v' : Verb} {p q : Json}
    (hp : p.Finite) (hq : q.Finite) :
    (queryShape v p = queryShape v' q ↔ v = v' ∧ (v = .getAll ∨ p = q ∨ p.Spells q ∨ q.Spells p)) ∧
    (∀ {g g' : Int}, fitsInt64 g = true → fitsInt64 g' = true →
      (Results.entryKey r g (queryShape v p) = Results.entryKey r g' (queryShape v' q) ↔
        g = g' ∧ v = v' ∧ (v = .getAll ∨ p = q ∨ p.Spells q ∨ q.Spells p))) ∧
    ∀ (s : Store) (c : Clock) (x : Json), Results.lookup s c r (queryShape v p) = .hit x →
      ∃ g e, Results.generation s c r = some g ∧ fitsInt64 g = true ∧
        s.find? (Results.entryKey r g (queryShape v p)) = some e ∧ Json.parseText e.value = .ok x :=
  ⟨queryShape_eq_iff hp hq, fun hg hg' => entryKey_queryShape_eq_iff r hp hq hg hg',
    fun _ _ _ h => Results.lookup_hit h⟩

theorem cached_read_keys_identify_queries_one :
    (Json.str "1").Finite ∧ (Json.num (.nat 1)).Finite ∧
    ((queryShape .getByName (.str "1") = queryShape .getByName (.num (.nat 1)) ↔
      Verb.getByName = .getByName ∧ (Verb.getByName = .getAll ∨ Json.str "1" = .num (.nat 1) ∨
        (Json.str "1").Spells (.num (.nat 1)) ∨ (Json.num (.nat 1)).Spells (.str "1"))) ∧
    (∀ {g g' : Int}, fitsInt64 g = true → fitsInt64 g' = true →
      (Results.entryKey "player" g (queryShape .getByName (.str "1")) =
          Results.entryKey "player" g' (queryShape .getByName (.num (.nat 1))) ↔
        g = g' ∧ Verb.getByName = .getByName ∧ (Verb.getByName = .getAll ∨
          Json.str "1" = .num (.nat 1) ∨ (Json.str "1").Spells (.num (.nat 1)) ∨
          (Json.num (.nat 1)).Spells (.str "1")))) ∧
    ∀ (s : Store) (c : Clock) (x : Json),
      Results.lookup s c "player" (queryShape .getByName (.str "1")) = .hit x →
      ∃ g e, Results.generation s c "player" = some g ∧ fitsInt64 g = true ∧
        s.find? (Results.entryKey "player" g (queryShape .getByName (.str "1"))) = some e ∧
        Json.parseText e.value = .ok x) :=
  ⟨trivial, trivial, cached_read_keys_identify_queries "player" trivial trivial⟩

/-- The string `"1"` and the number `1` are different payloads with one shape. -/
theorem number_and_its_spelling_share_a_shape :
    queryShape .getByName (.str "1") = queryShape .getByName (.num (.nat 1)) ∧
      Json.str "1" ≠ .num (.nat 1) :=
  ⟨by decide, by decide⟩

end Cache

end Relay
