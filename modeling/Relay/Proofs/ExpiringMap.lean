import Mathlib.Data.Set.Card
import Relay.Proofs.Store
/-!
# The store is a map whose entries expire

The cache store keeps its entries in a list, one per key, and leaves an entry in place after
it expires: reads skip it, a write replaces it, a deletion removes it. Seen through its calls it
should be a `Table`, a map from keys to entries, each with its optional expiry, in which an
entry past its expiry is absent, and which fails every call while it is switched off.

A store stands for a table at a monotonic reading (`Represents`) when both are switched on or
off alike and hold the same live entry under every key. Each call keeps that relation and
answers as the table does (`call_matches`), so along any run whose clock never goes back the
store and the table give the same answers (`store_is_a_map_with_expiry`), provided the run
avoids three defects of the store (`Store.Slips`): a counter at the greatest 64-bit integer
overflows instead of counting on, a time to live that reaches past the end of the monotonic
clock panics, and `deletePrefix` counts the expired entries it drops along with the live ones
(`deletePrefix_counts_expired`).
-/
namespace Relay.Cache

inductive Call where
  | get (k : String)
  | setIfAbsent (k v : String) (ttl : Span)
  | set (k v : String) (ttl : Span)
  | delete (k : String)
  | compareAndSwap (k expected new : String) (ttl : Span)
  | incr (k : String)
  | deletePrefix (p : String)
  | ping
  | switch (on : Bool)

inductive Answer where
  | done
  | value (v : Option String)
  | flag (b : Bool)
  | number (n : Int)
  | count (n : Nat)
  deriving DecidableEq

namespace Store

def call (s : Store) (c : Clock) : Call → Except Halt (Answer × Store)
  | .get k => (s.get c k).map fun v => (.value v, s)
  | .setIfAbsent k v ttl => (s.setIfAbsent c k v ttl).map fun r => (.flag r.1, r.2)
  | .set k v ttl => (s.set c k v ttl).map fun s' => (.done, s')
  | .delete k => (s.delete k).map fun s' => (.done, s')
  | .compareAndSwap k expected new ttl =>
    (s.compareAndSwap c k expected new ttl).map fun r => (.flag r.1, r.2)
  | .incr k => (s.incr c k).map fun r => (.number r.1, r.2)
  | .deletePrefix p => (s.deletePrefix p).map fun r => (.count r.1, r.2)
  | .ping => s.ping.map fun _ => (.done, s)
  | .switch on => .ok (.done, s.setAvailable on)

def play (s : Store) : List (Clock × Call) → List (Except Halt Answer) × Store
  | [] => ([], s)
  | (c, q) :: rest =>
    match s.call c q with
    | .ok (a, s') => ((.ok a) :: (s'.play rest).1, (s'.play rest).2)
    | .error h => ((.error h) :: (s.play rest).1, (s.play rest).2)

def Keyed (s : Store) : Prop := (s.entries.map (·.1)).Nodup

/-- The defects a call can run into: counting on from the greatest 64-bit integer, a time to
live reaching past the end of the monotonic clock, and deleting by a prefix under which an
expired entry still lies. -/
def Slips (s : Store) (c : Clock) : Call → Prop
  | .incr k => s.available = true ∧
      ∃ raw, s.live? c.mono k = some raw ∧ (Text.IntFormat.signed 64).parse raw = .ok int64Max
  | .setIfAbsent _ _ ttl | .set _ _ ttl | .compareAndSwap _ _ _ ttl =>
    s.available = true ∧ Clock.monoEnd < c.mono + ttl.nanos
  | .deletePrefix p => s.available = true ∧
      ∃ k e, (k, e) ∈ s.entries ∧ hasPrefix p k = true ∧ e.isLive c.mono = false
  | _ => False

def Clean : Store → List (Clock × Call) → Prop
  | _, [] => True
  | s, (c, q) :: rest =>
    ¬ s.Slips c q ∧
      match s.call c q with
      | .ok (_, s') => s'.Clean rest
      | .error _ => s.Clean rest

end Store

structure Table where
  map : String → Option Entry
  on : Bool

namespace Table

def live (t : Table) (now : Nat) (k : String) : Option Entry := (t.map k).filter (·.isLive now)

def write (t : Table) (k : String) (e : Option Entry) : Table :=
  { t with map := Function.update t.map k e }

@[simp] theorem write_on (t : Table) (k : String) (e : Option Entry) : (t.write k e).on = t.on := rfl

def dropPrefix (t : Table) (p : String) : Table :=
  { t with map := fun k => if hasPrefix p k then none else t.map k }

noncomputable def liveUnder (t : Table) (now : Nat) (p : String) : Nat :=
  {k | hasPrefix p k = true ∧ (t.live now k).isSome}.ncard

def gate (t : Table) (x : Except Fault (Answer × Table)) : Except Fault (Answer × Table) :=
  if t.on then x else .error Store.offline

/-- One call at the monotonic reading `now`: a written entry expires `ttl` after `now`, a
counter counts from 0 and never expires, and a key under which no entry is live reads as
absent. -/
noncomputable def call (t : Table) (now : Nat) : Call → Except Fault (Answer × Table)
  | .get k => t.gate (.ok (.value ((t.live now k).map (·.value)), t))
  | .setIfAbsent k v ttl => t.gate (.ok <|
    if (t.live now k).isSome then (.flag false, t)
    else (.flag true, t.write k (some ⟨v, some (now + ttl.nanos)⟩)))
  | .set k v ttl => t.gate (.ok (.done, t.write k (some ⟨v, some (now + ttl.nanos)⟩)))
  | .delete k => t.gate (.ok (.done, t.write k none))
  | .compareAndSwap k expected new ttl => t.gate (.ok <|
    if (t.live now k).map (·.value) = some expected then
      (.flag true, t.write k (some ⟨new, some (now + ttl.nanos)⟩))
    else (.flag false, t))
  | .incr k => t.gate do
    let n ← match t.live now k with
      | none => pure 0
      | some e => ((Text.IntFormat.signed 64).parse e.value).mapError fun _ => .corrupt k
    pure (.number (n + 1), t.write k (some ⟨toString (n + 1), none⟩))
  | .deletePrefix p => t.gate (.ok (.count (t.liveUnder now p), t.dropPrefix p))
  | .ping => t.gate (.ok (.done, t))
  | .switch on => .ok (.done, { t with on })

noncomputable def play (t : Table) : List (Nat × Call) → List (Except Fault Answer) × Table
  | [] => ([], t)
  | (now, q) :: rest =>
    match t.call now q with
    | .ok (a, t') => ((.ok a) :: (t'.play rest).1, (t'.play rest).2)
    | .error f => ((.error f) :: (t.play rest).1, (t.play rest).2)

def empty : Table := ⟨fun _ => none, true⟩

end Table

structure Represents (s : Store) (t : Table) (now : Nat) : Prop where
  on : s.available = t.on
  live : ∀ k, t.live now k = (s.find? k).filter (·.isLive now)

/-! ## One entry per key -/

theorem lookup_of_mem {k : String} {e : Entry} :
    ∀ {l : List (String × Entry)}, (l.map (·.1)).Nodup → (k, e) ∈ l → l.lookup k = some e
  | [], _, h => by cases h
  | (k', e') :: l, hl, h => by
    simp only [List.map_cons, List.nodup_cons] at hl
    rw [lookup_cons_eq]
    rcases List.mem_cons.mp h with h | h
    · cases h
      simp
    · have hk : k ≠ k' := fun hk => hl.1 (hk ▸ List.mem_map.mpr ⟨_, h, rfl⟩)
      simp [hk, lookup_of_mem hl.2 h]

namespace Store

variable {s : Store}

theorem find?_eq_some_iff (hs : s.Keyed) {k : String} {e : Entry} :
    s.find? k = some e ↔ (k, e) ∈ s.entries := by
  constructor
  · intro h
    obtain ⟨l₁, l₂, hl, -⟩ := List.lookup_eq_some_iff.mp h
    rw [hl]
    simp
  · exact lookup_of_mem hs

theorem Keyed.put (hs : s.Keyed) (k : String) (e : Entry) : (s.put k e).Keyed := by
  unfold Store.put
  split
  · -- the entry replaces the one under `k`: the keys stay as they were
    unfold Keyed at hs ⊢
    simp only [List.map_map]
    convert hs using 2
    funext x
    simp only [Function.comp_apply]
    split <;> rfl
  · rename_i hk
    unfold Keyed at hs ⊢
    simp only [List.map_append, List.map_cons, List.map_nil]
    refine List.Nodup.append hs (List.nodup_singleton k) ?_
    simp only [List.disjoint_singleton]
    intro hmem
    obtain ⟨x, hx, rfl⟩ := List.mem_map.mp hmem
    exact hk (List.any_eq_true.mpr ⟨x, hx, by simp⟩)

theorem Keyed.erase (hs : s.Keyed) (k : String) : (s.erase k).Keyed :=
  hs.sublist ((List.filter_sublist).map _)

theorem Keyed.dropPrefix (hs : s.Keyed) (p : String) : (s.dropPrefix p).Keyed :=
  hs.sublist ((List.filter_sublist).map _)

theorem Keyed.setAvailable (hs : s.Keyed) (on : Bool) : (s.setAvailable on).Keyed := hs

end Store

/-! ## Standing for a table -/

theorem Entry.isLive_of_le (e : Entry) {now now' : Nat} (hle : now ≤ now')
    (h : e.isLive now' = true) : e.isLive now = true := by
  unfold Entry.isLive at *
  split at h <;> simp_all
  omega

theorem filter_live_later (o : Option Entry) {now now' : Nat} (hle : now ≤ now') :
    (o.filter (·.isLive now)).filter (·.isLive now') = o.filter (·.isLive now') := by
  cases o with
  | none => rfl
  | some e =>
    by_cases h : e.isLive now' = true
    · simp [Option.filter, h, e.isLive_of_le hle h]
    · by_cases h' : e.isLive now = true <;> simp [Option.filter, h, h']

namespace Represents

variable {s : Store} {t : Table} {now : Nat}

theorem later (h : Represents s t now) {now' : Nat} (hle : now ≤ now') : Represents s t now' where
  on := h.on
  live k := by
    rw [Table.live, ← filter_live_later _ hle, ← Table.live, h.live k, filter_live_later _ hle]

theorem write (h : Represents s t now) {s' : Store} (k : String) (o : Option Entry)
    (hon : s'.available = s.available)
    (hf : ∀ k', s'.find? k' = if k' = k then o else s.find? k') :
    Represents s' (t.write k o) now where
  on := by simp [hon, h.on]
  live k' := by
    by_cases hk : k' = k
    · subst hk
      simp [Table.live, Table.write, hf]
    · simpa [Table.live, Table.write, hf, hk] using h.live k'

theorem put (h : Represents s t now) (k : String) (e : Entry) :
    Represents (s.put k e) (t.write k (some e)) now :=
  h.write k (some e) (Store.available_put s k e) fun k' => Store.find?_put s k k' e

theorem erase (h : Represents s t now) (k : String) :
    Represents (s.erase k) (t.write k none) now :=
  h.write k none (Store.available_erase s k) fun k' => Store.find?_erase s k k'

theorem dropPrefix (h : Represents s t now) (p : String) :
    Represents (s.dropPrefix p) (t.dropPrefix p) now where
  on := by simp [h.on, Table.dropPrefix]
  live k := by
    by_cases hk : hasPrefix p k = true
    · simp [Table.live, Table.dropPrefix, Store.find?_dropPrefix, hk]
    · simpa [Table.live, Table.dropPrefix, Store.find?_dropPrefix, hk] using h.live k

theorem empty (now : Nat) : Represents {} Table.empty now where
  on := rfl
  live _ := rfl

theorem switch (h : Represents s t now) (on : Bool) :
    Represents (s.setAvailable on) { t with on } now where
  on := rfl
  live := h.live

theorem live? (h : Represents s t now) (k : String) :
    s.live? now k = (t.live now k).map (·.value) := by
  rw [h.live k]
  unfold Store.live?
  cases s.find? k with
  | none => rfl
  | some e => by_cases hl : e.isLive now = true <;> simp [Option.filter, hl]

end Represents

/-! ## Counting under a prefix -/

namespace Store

variable {s : Store}

theorem deletePrefix_eq (ha : s.available = true) (p : String) :
    s.deletePrefix p = .ok ((s.entries.filter fun e => hasPrefix p e.1).length, s.dropPrefix p) := by
  have hsplit := @List.length_eq_length_filter_add _ s.entries fun e => hasPrefix p e.1
  simp only [deletePrefix, dropPrefix, check_ok s ha, bind, Except.bind, pure, Except.pure]
  congr 2
  omega

theorem liveUnder_eq {t : Table} {now : Nat} (hs : s.Keyed) (h : Represents s t now) (p : String) :
    t.liveUnder now p = (s.entries.filter fun e => hasPrefix p e.1 && e.2.isLive now).length := by
  let keys := (s.entries.filter fun e => hasPrefix p e.1 && e.2.isLive now).map (·.1)
  have hnodup : keys.Nodup := hs.sublist ((List.filter_sublist).map _)
  have hset : {k | hasPrefix p k = true ∧ (t.live now k).isSome} = ↑keys.toFinset := by
    ext k
    simp only [Set.mem_ofPred_eq, Finset.mem_coe, List.mem_toFinset, keys, List.mem_map,
      List.mem_filter, Bool.and_eq_true, h.live k]
    constructor
    · rintro ⟨hp, hsome⟩
      obtain ⟨e, he⟩ := Option.isSome_iff_exists.mp hsome
      obtain ⟨hf, hl⟩ := Option.filter_eq_some_iff.mp he
      exact ⟨(k, e), ⟨(find?_eq_some_iff hs).mp hf, hp, hl⟩, rfl⟩
    · rintro ⟨⟨k', e⟩, ⟨hmem, hp, hl⟩, rfl⟩
      refine ⟨hp, ?_⟩
      rw [(find?_eq_some_iff hs).mpr hmem]
      simp [Option.filter, hl]
  rw [Table.liveUnder, hset, Set.ncard_coe_finset, List.toFinset_card_of_nodup hnodup,
    List.length_map]

end Store

/-- The outcome of a call on a store matches the table's: the same answer, from a store with
one entry per key that stands for the table after the call, or the same fault. -/
def Matches (now : Nat) : Except Halt (Answer × Store) → Except Fault (Answer × Table) → Prop
  | .ok (a, s), .ok (b, t) => a = b ∧ s.Keyed ∧ Represents s t now
  | .error (.fault f), .error g => f = g
  | _, _ => False

section Step

variable {s : Store} {t : Table} {c : Clock}

theorem call_off (ha : s.available = false) (h : Represents s t c.mono) (q : Call)
    (hq : ∀ on, q ≠ .switch on) : Matches c.mono (s.call c q) (t.call c.mono q) := by
  have hon : t.on = false := h.on ▸ ha
  cases q with
  | switch on => exact absurd rfl (hq on)
  | _ =>
    simp [Store.call, Table.call, Table.gate, hon, Store.get, Store.setIfAbsent, Store.set,
      Store.delete, Store.compareAndSwap, Store.incr, Store.deletePrefix, Store.ping, Store.check,
      ha, bind, Except.bind, Except.map, Matches]

theorem fresh_ok {v : String} {ttl : Span} (h : c.mono + ttl.nanos ≤ Clock.monoEnd) :
    Store.fresh c v ttl = .ok ⟨v, some (c.mono + ttl.nanos)⟩ := by
  simp [Store.fresh, Clock.deadline, h]

variable (ha : s.available = true) (hs : s.Keyed) (h : Represents s t c.mono)
include ha hs h

theorem get_matches (k : String) :
    Matches c.mono (s.call c (.get k)) (t.call c.mono (.get k)) := by
  have hon : t.on = true := h.on ▸ ha
  simp only [Store.call, Store.get_ok s c ha, Table.call, Table.gate, hon, if_true, Except.map,
    Matches]
  exact ⟨by rw [h.live? k], hs, h⟩

theorem setIfAbsent_matches (k v : String) (ttl : Span) (hfit : c.mono + ttl.nanos ≤ Clock.monoEnd) :
    Matches c.mono (s.call c (.setIfAbsent k v ttl)) (t.call c.mono (.setIfAbsent k v ttl)) := by
  have hon : t.on = true := h.on ▸ ha
  simp only [Store.call, Store.setIfAbsent_ok s c ha, fresh_ok hfit, Table.call, Table.gate, hon,
    if_true, h.live? k, Option.isSome_map]
  by_cases hk : (t.live c.mono k).isSome = true
  · simp [hk, Except.map, Matches, hs, h]
  · simp [hk, Except.map, Matches, hs.put, h.put]

theorem set_matches (k v : String) (ttl : Span) (hfit : c.mono + ttl.nanos ≤ Clock.monoEnd) :
    Matches c.mono (s.call c (.set k v ttl)) (t.call c.mono (.set k v ttl)) := by
  have hon : t.on = true := h.on ▸ ha
  simp only [Store.call, Store.set_ok s c ha, fresh_ok hfit, Table.call, Table.gate, hon, if_true]
  simp [Except.map, Matches, hs.put, h.put]

theorem delete_matches (k : String) :
    Matches c.mono (s.call c (.delete k)) (t.call c.mono (.delete k)) := by
  have hon : t.on = true := h.on ▸ ha
  simp only [Store.call, Store.delete_ok s ha, Table.call, Table.gate, hon, if_true]
  simp [Except.map, Matches, hs.erase, h.erase]

theorem compareAndSwap_matches (k expected new : String) (ttl : Span)
    (hfit : c.mono + ttl.nanos ≤ Clock.monoEnd) :
    Matches c.mono (s.call c (.compareAndSwap k expected new ttl))
      (t.call c.mono (.compareAndSwap k expected new ttl)) := by
  have hon : t.on = true := h.on ▸ ha
  simp only [Store.call, Store.compareAndSwap_ok s c ha, fresh_ok hfit, Table.call, Table.gate,
    hon, if_true, h.live? k]
  by_cases hk : (t.live c.mono k).map (·.value) = some expected
  · simp [hk, Except.map, Matches, hs.put, h.put]
  · simp [hk, Except.map, Matches, hs, h]

theorem ping_matches : Matches c.mono (s.call c .ping) (t.call c.mono .ping) := by
  have hon : t.on = true := h.on ▸ ha
  simp [Store.call, Store.ping, Store.check_ok s ha, Table.call, Table.gate, hon, Except.map,
    Matches, hs, h]

theorem incr_matches (k : String)
    (hmax : ∀ raw, s.live? c.mono k = some raw → (Text.IntFormat.signed 64).parse raw ≠ .ok int64Max) :
    Matches c.mono (s.call c (.incr k)) (t.call c.mono (.incr k)) := by
  have hon : t.on = true := h.on ▸ ha
  have hzero : (0 : Int) ≠ int64Max := by decide
  rw [h.live? k] at hmax
  simp only [Store.call, Store.incr, Store.check_ok s ha, Table.call, Table.gate, hon, if_true,
    h.live? k]
  cases hl : t.live c.mono k with
  | none =>
    simp [hzero, bind, Except.bind, pure, Except.pure, Except.map, Matches, hs.put, h.put]
  | some e =>
    cases hp : (Text.IntFormat.signed 64).parse e.value with
    | error _ =>
      simp [hp, bind, Except.bind, Except.map, Except.mapError, throw, throwThe,
        MonadExceptOf.throw, Matches]
    | ok n =>
      have hn : n ≠ int64Max := fun hn => hmax e.value (by simp [hl]) (hp.trans (congrArg _ hn))
      simp [hp, hn, bind, Except.bind, pure, Except.pure, Except.map, Except.mapError, Matches,
        hs.put, h.put]

theorem deletePrefix_matches (p : String)
    (hlive : ∀ k e, (k, e) ∈ s.entries → hasPrefix p k = true → e.isLive c.mono = true) :
    Matches c.mono (s.call c (.deletePrefix p)) (t.call c.mono (.deletePrefix p)) := by
  have hon : t.on = true := h.on ▸ ha
  -- every entry under the prefix is live, so counting entries counts live keys
  have hcount : (s.entries.filter fun e => hasPrefix p e.1).length = t.liveUnder c.mono p := by
    rw [Store.liveUnder_eq hs h p]
    congr 1
    refine List.filter_congr fun e he => ?_
    by_cases hp : hasPrefix p e.1 = true
    · simp [hp, hlive e.1 e.2 he hp]
    · simp [hp]
  simp only [Store.call, Store.deletePrefix_eq ha, Table.call, Table.gate, hon, if_true]
  simp [Except.map, Matches, hcount, hs.dropPrefix, h.dropPrefix]

end Step

section Run

variable {s : Store} {t : Table} {c : Clock}

theorem switch_matches (hs : s.Keyed) (h : Represents s t c.mono) (on : Bool) :
    Matches c.mono (s.call c (.switch on)) (t.call c.mono (.switch on)) :=
  ⟨rfl, hs.setAvailable on, h.switch on⟩

theorem call_matches (hs : s.Keyed) (h : Represents s t c.mono) (q : Call) (hq : ¬ s.Slips c q) :
    Matches c.mono (s.call c q) (t.call c.mono q) := by
  by_cases ha : s.available = true
  case neg =>
    cases q with
    | switch on => exact switch_matches hs h on
    | _ => exact call_off (by simpa using ha) h _ (by simp)
  case pos =>
    -- with the store on, `hq` says that the ttl fits, that the counter is below its greatest
    -- value, and that every entry under a deleted prefix is live
    cases q with
    | get k => exact get_matches ha hs h k
    | setIfAbsent k v ttl =>
      exact setIfAbsent_matches ha hs h k v ttl (by simpa [Store.Slips, ha] using hq)
    | set k v ttl => exact set_matches ha hs h k v ttl (by simpa [Store.Slips, ha] using hq)
    | delete k => exact delete_matches ha hs h k
    | compareAndSwap k expected new ttl =>
      exact compareAndSwap_matches ha hs h k expected new ttl (by simpa [Store.Slips, ha] using hq)
    | incr k => exact incr_matches ha hs h k (by simpa [Store.Slips, ha] using hq)
    | deletePrefix p => exact deletePrefix_matches ha hs h p (by simpa [Store.Slips, ha] using hq)
    | ping => exact ping_matches ha hs h
    | switch on => exact switch_matches hs h on

def readings (now : Nat) (run : List (Clock × Call)) : List Nat := now :: run.map (·.1.mono)

def tableRun (run : List (Clock × Call)) : List (Nat × Call) := run.map fun x => (x.1.mono, x.2)

theorem play_matches (run : List (Clock × Call)) :
    ∀ {s : Store} {t : Table} {now : Nat}, s.Keyed → Represents s t now →
      (readings now run).Pairwise (· ≤ ·) → s.Clean run →
      (s.play run).1 = (t.play (tableRun run)).1.map (Except.mapError .fault) ∧
        ∀ now', (∀ x ∈ readings now run, x ≤ now') →
          Represents (s.play run).2 (t.play (tableRun run)).2 now' := by
  -- induction on the run; the relation moves to each call's reading, which is no earlier
  induction run with
  | nil =>
    intro s t now hs h _ _
    exact ⟨rfl, fun now' hle => h.later (hle now (by simp [readings]))⟩
  | cons x rest ih =>
    obtain ⟨c, q⟩ := x
    intro s t now hs h hmono hclean
    obtain ⟨hfirst, hrest⟩ := List.pairwise_cons.mp hmono
    have hle : now ≤ c.mono := hfirst c.mono List.mem_cons_self
    -- every reading of the rest is one of the whole run
    have hsub : ∀ now', (∀ x ∈ readings now ((c, q) :: rest), x ≤ now') →
        ∀ x ∈ readings c.mono rest, x ≤ now' :=
      fun now' hle' x hx => hle' x (List.mem_cons_of_mem now hx)
    have hm := call_matches hs (h.later hle) q hclean.1
    have htail := hclean.2
    simp only [Store.play, Table.play, tableRun, List.map_cons]
    -- the call, on the store and on the table, ends the same way
    rcases hsc : s.call c q with _ | ⟨a, s'⟩ <;> rcases htc : t.call c.mono q with _ | ⟨b, t'⟩ <;>
      rw [hsc, htc] at hm <;> rw [hsc] at htail
    case error.error e f =>
      cases e with
      | panic _ => simp [Matches] at hm
      | fault f' =>
        have hf : f' = f := hm
        obtain ⟨hans, hrel⟩ := ih hs (h.later hle) hrest htail
        exact ⟨by simp [hf, hans, Except.mapError, tableRun], fun now' hle' => hrel now' (hsub now' hle')⟩
    case error.ok => simp [Matches] at hm
    case ok.error => simp [Matches] at hm
    case ok.ok =>
      obtain ⟨rfl, hs', h'⟩ := hm
      obtain ⟨hans, hrel⟩ := ih hs' h' hrest htail
      exact ⟨by simp [hans, Except.mapError, tableRun], fun now' hle' => hrel now' (hsub now' hle')⟩

end Run

/-- The in-memory store, for every run whose clock never goes back and that runs into no
defect of the store. A fresh store answers every call as the empty table does: a read finds the
live value, a write expires `ttl` after its reading, a conditional write and a swap succeed
exactly when the table's live entry allows, a counter counts on from a missing entry as from 0
and fails as corrupt, changing nothing, on a live text that is not an integer, a deletion by
prefix answers how many live keys it removed, and while switched off every call fails as
unavailable, changing nothing. From the last reading on, the store the run leaves stands for
the table it leaves. -/
theorem store_is_a_map_with_expiry (run : List (Clock × Call))
    (hmono : (run.map (·.1.mono)).Pairwise (· ≤ ·)) (hclean : ({} : Store).Clean run) :
    (({} : Store).play run).1 = (Table.empty.play (tableRun run)).1.map (Except.mapError .fault) ∧
      ∀ now, (∀ x ∈ run.map (·.1.mono), x ≤ now) →
        Represents (({} : Store).play run).2 (Table.empty.play (tableRun run)).2 now := by
  have hfrom : (readings 0 run).Pairwise (· ≤ ·) :=
    List.pairwise_cons.mpr ⟨fun _ _ => Nat.zero_le _, hmono⟩
  obtain ⟨hans, hrel⟩ := play_matches run (by simp [Store.Keyed]) (Represents.empty 0) hfrom hclean
  refine ⟨hans, fun now hle => hrel now fun x hx => ?_⟩
  rcases List.mem_cons.mp hx with rfl | hx
  · exact Nat.zero_le _
  · exact hle x hx

def writeThenRead : List (Clock × Call) :=
  [(⟨0, ⟨0⟩⟩, .set "k" "v" (Span.ofMillis 20)), (⟨1, ⟨0⟩⟩, .get "k")]

/-- A fresh store reads back a write before it expires, as the table does. -/
theorem store_reads_back_a_write :
    (writeThenRead.map (·.1.mono)).Pairwise (· ≤ ·) ∧ ({} : Store).Clean writeThenRead ∧
      (({} : Store).play writeThenRead).1 =
        (Table.empty.play (tableRun writeThenRead)).1.map (Except.mapError .fault) := by
  have hmono : (writeThenRead.map (·.1.mono)).Pairwise (· ≤ ·) := by decide
  have hclean : ({} : Store).Clean writeThenRead := by
    -- the write's time to live fits before the end of the clock; the read cannot slip
    simp only [writeThenRead, Store.Clean, Store.Slips, not_false_eq_true, true_and]
    refine ⟨by decide, ?_⟩
    split <;> split <;> trivial
  exact ⟨hmono, hclean, (store_is_a_map_with_expiry _ hmono hclean).1⟩

def expiredUnderPrefix : List (Clock × Call) :=
  [(⟨0, ⟨0⟩⟩, .set "p:a" "v" (Span.ofMillis 1)), (⟨20000000, ⟨20⟩⟩, .deletePrefix "p:")]

/-- The deletion by prefix counts the expired entry on the store, and no live key on the
table. -/
theorem deletePrefix_counts_expired :
    (({} : Store).play expiredUnderPrefix).1 = [.ok .done, .ok (.count 1)] ∧
      (Table.empty.play (tableRun expiredUnderPrefix)).1 = [.ok .done, .ok (.count 0)] := by
  -- the entry the write leaves, expired by the time of the deletion
  have hs : (({} : Store).put "p:a" ⟨"v", some (0 + (Span.ofMillis 1).nanos)⟩).Keyed := by
    simp [Store.Keyed, Store.put]
  have hnone : (Table.empty.write "p:a" (some ⟨"v", some (0 + (Span.ofMillis 1).nanos)⟩)).liveUnder
      20000000 "p:" = 0 := by
    rw [Store.liveUnder_eq hs ((Represents.empty _).put _ _)]
    decide
  have hon : Table.empty.on = true := rfl
  refine ⟨rfl, ?_⟩
  simp only [expiredUnderPrefix, tableRun, List.map_cons, List.map_nil, Table.play, Table.call,
    Table.gate, hon, if_true]
  simp only [Table.write_on, hon, if_true, hnone]

end Relay.Cache
