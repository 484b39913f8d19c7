import Relay.Cache.Store
/-!
What each call of the cache store does to one key. A call changes at most the key it names
(`deletePrefix` the keys under its prefix) and leaves every other entry as it was, and a store
that is switched on stays switched on. These frame lemmas are what the proofs about handlings
that race on one store use in place of the calls' definitions.
-/
namespace Relay.Cache

theorem lookup_cons_eq {β : Type} (a k : String) (b : β) (l : List (String × β)) :
    ((k, b) :: l).lookup a = if a = k then some b else l.lookup a := by
  by_cases h : a = k
  · simp [h]
  · have hb : (a == k) = false := by simpa using h
    simp only [List.lookup_cons, hb, h, if_false]

theorem lookup_replace (l : List (String × Entry)) (k k' : String) (e : Entry) :
    (l.map (fun (x, y) => if x == k then (x, e) else (x, y))).lookup k' =
      if k' = k then (l.lookup k).map (fun _ => e) else l.lookup k' := by
  induction l with
  | nil => split <;> rfl
  | cons p l ih =>
    obtain ⟨x, y⟩ := p
    simp only [List.map_cons, beq_iff_eq] at ih ⊢
    by_cases hx : x = k
    · subst hx
      by_cases hk : k' = x <;> simp [lookup_cons_eq, hk, ih]
    · simp only [hx, if_false, lookup_cons_eq, ih]
      by_cases hk : k' = x
      · subst hk; simp [hx]
      · simp [hk, Ne.symm hx]

theorem lookup_filter_key {β : Type} (l : List (String × β)) (P : String → Bool) (k : String) :
    (l.filter (fun p => P p.1)).lookup k = if P k then l.lookup k else none := by
  induction l with
  | nil => split <;> rfl
  | cons p l ih =>
    obtain ⟨x, y⟩ := p
    simp only [List.filter_cons]
    by_cases hp : P x = true
    · simp only [hp, if_true, lookup_cons_eq, ih]
      by_cases hx : k = x
      · subst hx; simp [hp]
      · simp [hx]
    · simp only [hp, Bool.false_eq_true, if_false, lookup_cons_eq, ih]
      by_cases hx : k = x
      · subst hx; simp [hp]
      · simp [hx]

namespace Store

variable (s : Store) (c : Clock)

theorem find?_put (k k' : String) (e : Entry) :
    (s.put k e).find? k' = if k' = k then some e else s.find? k' := by
  unfold put find?
  split
  · rename_i h
    rw [lookup_replace]
    by_cases hk : k' = k
    · subst hk
      obtain ⟨p, hp, hpk⟩ := List.any_eq_true.mp h
      have hsome : (s.entries.lookup k').isSome :=
        List.lookup_isSome_iff.mpr ⟨p, hp, beq_iff_eq.mpr (beq_iff_eq.mp hpk).symm⟩
      obtain ⟨v, hv⟩ := Option.isSome_iff_exists.mp hsome
      simp [hv]
    · simp [hk]
  · rename_i h
    rw [List.lookup_append]
    by_cases hk : k' = k
    · subst hk
      -- the key was absent, so the appended pair is the one the lookup finds
      have hnone : s.entries.lookup k' = none := by
        refine List.lookup_eq_none_iff.mpr fun p hp => ?_
        have hpk : ¬ (p.1 == k') = true := List.any_eq_false.mp (Bool.eq_false_iff.mpr h) p hp
        exact bne_iff_ne.mpr fun heq => hpk (beq_iff_eq.mpr heq.symm)
      simp [hnone]
    · simp [lookup_cons_eq, hk]

theorem find?_erase (k k' : String) :
    (s.erase k).find? k' = if k' = k then none else s.find? k' := by
  unfold erase find?
  rw [lookup_filter_key s.entries (· != k) k']
  by_cases hk : k' = k <;> simp [hk]

theorem live?_eq (k : String) :
    s.live? c.mono k = (s.find? k).bind (fun e => if e.isLive c.mono then some e.value else none) := by
  unfold live?
  cases s.find? k <;> rfl

theorem live?_put (k k' : String) (e : Entry) (now : Nat) :
    (s.put k e).live? now k' = if k' = k then (if e.isLive now then some e.value else none)
      else s.live? now k' := by
  unfold live?
  rw [find?_put]
  by_cases hk : k' = k <;> simp [hk]

theorem live?_erase (k k' : String) (now : Nat) :
    (s.erase k).live? now k' = if k' = k then none else s.live? now k' := by
  unfold live?
  rw [find?_erase]
  by_cases hk : k' = k <;> simp [hk]

@[simp] theorem available_put (k : String) (e : Entry) : (s.put k e).available = s.available := by
  unfold put; split <;> rfl

@[simp] theorem available_erase (k : String) : (s.erase k).available = s.available := rfl

theorem check_ok (h : s.available = true) : s.check = .ok () := by simp [check, h]

theorem get_ok (h : s.available = true) (k : String) : s.get c k = .ok (s.live? c.mono k) := by
  simp [get, check_ok s h, bind, Except.bind, pure, Except.pure]

theorem setIfAbsent_ok (h : s.available = true) (k v : String) (ttl : Span) :
    s.setIfAbsent c k v ttl =
      if (s.live? c.mono k).isSome then .ok (false, s)
      else (fresh c v ttl).map (fun e => (true, s.put k e)) := by
  simp only [setIfAbsent, check_ok s h, bind, Except.bind, pure, Except.pure]
  split
  · rfl
  · cases fresh c v ttl <;> rfl

theorem compareAndSwap_ok (h : s.available = true) (k expected new : String) (ttl : Span) :
    s.compareAndSwap c k expected new ttl =
      if s.live? c.mono k ≠ some expected then .ok (false, s)
      else (fresh c new ttl).map (fun e => (true, s.put k e)) := by
  simp only [compareAndSwap, check_ok s h, bind, Except.bind, pure, Except.pure, bne_iff_ne, ne_eq]
  split
  · rfl
  · cases fresh c new ttl <;> rfl

theorem set_ok (h : s.available = true) (k v : String) (ttl : Span) :
    s.set c k v ttl = (fresh c v ttl).map (fun e => s.put k e) := by
  simp only [set, check_ok s h, bind, Except.bind, pure, Except.pure]
  cases fresh c v ttl <;> rfl

theorem delete_ok (h : s.available = true) (k : String) : s.delete k = .ok (s.erase k) := by
  simp [delete, check_ok s h, bind, Except.bind, pure, Except.pure]

theorem get_eq_ok {k : String} {x : Option String} (h : s.get c k = .ok x) :
    s.available = true ∧ x = s.live? c.mono k := by
  by_cases ha : s.available = true
  · rw [get_ok s c ha] at h
    exact ⟨ha, (Except.ok.inj h).symm⟩
  · simp [get, check, ha, bind, Except.bind] at h

theorem live?_eq_some {now : Nat} {k raw : String} (h : s.live? now k = some raw) :
    ∃ e, s.find? k = some e ∧ e.value = raw ∧ e.isLive now = true := by
  unfold live? at h
  split at h
  · rename_i e he
    split at h
    · rename_i hl
      exact ⟨e, he, Option.some.inj h, hl⟩
    · cases h
  · cases h

theorem live?_mem {now : Nat} {k raw : String} (h : s.live? now k = some raw) :
    ∃ e, (k, e) ∈ s.entries ∧ e.value = raw := by
  obtain ⟨e, hf, hv, -⟩ := s.live?_eq_some h
  obtain ⟨l₁, l₂, he, -⟩ := List.lookup_eq_some_iff.mp hf
  exact ⟨e, by rw [he]; simp, hv⟩

theorem set_eq_ok {k v : String} {ttl : Span} {s' : Store} (h : s.set c k v ttl = .ok s') :
    ∃ t, s' = s.put k ⟨v, some t⟩ := by
  by_cases ha : s.available = true
  · rw [set_ok s c ha] at h
    unfold fresh at h
    split at h
    · rename_i t _
      exact ⟨t, (Except.ok.inj h).symm⟩
    · cases h
  · simp [set, check, ha, bind, Except.bind] at h

def dropPrefix (p : String) : Store :=
  { s with entries := s.entries.filter (fun e => !hasPrefix p e.1) }

@[simp] theorem available_dropPrefix (p : String) : (s.dropPrefix p).available = s.available := rfl

theorem deletePrefix_ok (h : s.available = true) (p : String) :
    ∃ n, s.deletePrefix p = .ok (n, s.dropPrefix p) := by
  simp [deletePrefix, dropPrefix, check_ok s h, bind, Except.bind, pure, Except.pure]

theorem deletePrefix_eq_ok {p : String} {n : Nat} {s' : Store} (h : s.deletePrefix p = .ok (n, s')) :
    s' = s.dropPrefix p := by
  simp only [deletePrefix, bind, Except.bind] at h
  split at h
  · cases h
  · cases h; rfl

theorem incr_unavailable (h : s.available = false) (k : String) :
    s.incr c k = .error (.fault offline) := by
  simp [incr, check, h, bind, Except.bind]

def CountsUp (now : Nat) (k : String) : Prop :=
  ∀ raw, s.live? now k = some raw → (Text.IntFormat.signed 64).parse raw ≠ .ok int64Max

variable {s} in
theorem CountsUp.put {now : Nat} {k : String} (h : s.CountsUp now k) {k' : String} (hk : k' ≠ k)
    (e : Entry) : (s.put k' e).CountsUp now k := by
  intro raw hraw
  rw [live?_put, if_neg hk.symm] at hraw
  exact h raw hraw

theorem find?_dropPrefix (p k : String) :
    (s.dropPrefix p).find? k = if hasPrefix p k then none else s.find? k := by
  unfold find? dropPrefix
  rw [lookup_filter_key s.entries (fun x => !hasPrefix p x) k]
  cases hasPrefix p k <;> rfl

theorem live?_congr {s' : Store} {k : String} (h : s'.find? k = s.find? k) (now : Nat) :
    s'.live? now k = s.live? now k := by
  unfold live?
  rw [h]

theorem get_congr {s' : Store} {k : String} (ha : s'.available = s.available)
    (h : s'.find? k = s.find? k) : s'.get c k = s.get c k := by
  simp only [get, check, ha, live?_congr s h]

end Store

end Relay.Cache
