import Mathlib.Data.String.Basic
import Relay.Player.Roster
import Relay.Json.Read
/-!
# The roster shared by concurrent calls

Calls of the players' repository run at the same time. Each waits for a connection of the
pool, then reads or writes the players in one step under the store's lock, answers and gives
its connection back; a call that waits while no connection is free may give up, and then fails
with the pool exhausted. `Pool.step` is one such move of one call and `Pool.run` any
interleaving of them; the step under the lock is the roster's own function (`Call.run`).

Whatever the interleaving, the players stay sorted by name, one per name, each at a version of
at least 1 and in the tier of its level (`Roster.Sound`), and the connections held and free add
up to the pool's size. A call that fails, a read and a call that gives up leave the players as
they were. Among updates that all expect the version their player is at, exactly one of those
that reach the players succeeds, and every other fails with a version conflict.
-/
namespace Relay.Player

structure Roster.Sound (r : Roster) : Prop where
  sorted : r.players.Pairwise (fun p q => p.name < q.name)
  versioned : ∀ p ∈ r.players, 1 ≤ p.version
  tiered : ∀ p ∈ r.players, p.tier = Tier.ofLevel p.level

section Place

variable {p x : Player}

theorem mem_place : ∀ {ps : List Player}, x ∈ place p ps → x = p ∨ x ∈ ps
  | [], h => by simpa [place] using h
  | q :: qs, h => by
    unfold place at h
    split at h
    · simpa using h
    · split at h
      · simp only [List.mem_cons] at h
        rcases h with h | h
        · exact .inl h
        · exact .inr (List.mem_cons_of_mem q h)
      · simp only [List.mem_cons] at h
        rcases h with h | h
        · exact .inr (h ▸ List.mem_cons_self)
        · rcases mem_place h with h | h
          · exact .inl h
          · exact .inr (List.mem_cons_of_mem q h)

theorem place_sorted : ∀ {ps : List Player}, ps.Pairwise (fun a b => a.name < b.name) →
    (place p ps).Pairwise (fun a b => a.name < b.name)
  | [], _ => by simp [place]
  | q :: qs, h => by
    rw [List.pairwise_cons] at h
    obtain ⟨hq, hqs⟩ := h
    unfold place
    split
    · -- `p` goes first, below `q` and so below all of `qs`
      rename_i hlt
      refine List.Pairwise.cons (fun a ha => ?_) (List.Pairwise.cons hq hqs)
      rcases List.mem_cons.mp ha with rfl | ha
      · exact hlt
      · exact lt_trans hlt (hq a ha)
    · split
      · -- `p` takes the place of `q`, whose name it has
        rename_i _ heq
        exact List.Pairwise.cons (fun a ha => heq ▸ hq a ha) hqs
      · rename_i hlt hne
        have hgt : q.name < p.name := lt_of_le_of_ne (not_lt.mp hlt) (Ne.symm hne)
        refine List.Pairwise.cons (fun a ha => ?_) (place_sorted hqs)
        rcases mem_place ha with rfl | ha
        · exact hgt
        · exact hq a ha

theorem find?_place (n : String) : ∀ (ps : List Player),
    (place p ps).find? (·.name == n) = if p.name = n then some p else ps.find? (·.name == n)
  | [] => by by_cases h : p.name = n <;> simp [place, h]
  | q :: qs => by
    unfold place
    split
    · by_cases h : p.name = n <;> simp [h]
    · split
      · rename_i _ heq
        by_cases h : p.name = n <;> simp [h, ← heq]
      · rename_i hlt hne
        rw [List.find?_cons, find?_place n qs, List.find?_cons]
        by_cases hq : q.name = n
        · have : p.name ≠ n := hq ▸ Ne.symm (fun h => hne h.symm)
          simp [hq, this]
        · have hqb : (q.name == n) = false := by simpa using hq
          by_cases h : p.name = n <;> simp [h, hqb]

end Place

namespace Roster

variable {r r' : Roster} {d : Draft} {c : Change} {now : Moment} {n : String} {p : Player}

theorem find?_eq_some (h : r.find? n = some p) : p.name = n ∧ p ∈ r.players := by
  unfold find? at h
  have hm := List.mem_of_find?_eq_some h
  have hn := List.find?_some h
  simp only [beq_iff_eq] at hn
  exact ⟨hn, hm⟩

theorem find?_put (q : Player) (m : String) :
    ({ r with players := place q r.players } : Roster).find? m =
      if q.name = m then some q else r.find? m :=
  find?_place m r.players

theorem checkout_ok (h : 0 < r.poolSize) : r.checkout = .ok () := by
  simp [checkout, Nat.pos_iff_ne_zero.mp h]

theorem insert_eq (h : 0 < r.poolSize) :
    r.insert d now =
      if (r.find? d.name).isSome then .error (.duplicateName d.name)
      else .ok (Player.create d now, { r with players := place (Player.create d now) r.players }) := by
  simp only [insert, checkout_ok h, bind, Except.bind, pure, Except.pure]
  split <;> rfl

theorem update_eq (h : 0 < r.poolSize) :
    r.update c now =
      match r.find? c.name with
      | none => .error (.notFound c.name)
      | some q =>
        if q.version ≠ c.version then .error (.versionConflict c.name c.version q.version)
        else .ok (q.apply c now, { r with players := place (q.apply c now) r.players }) := by
  simp only [update, checkout_ok h, bind, Except.bind, pure, Except.pure]
  cases r.find? c.name with
  | none => rfl
  | some q =>
    by_cases hv : q.version = c.version
    · simp [hv]
    · simp [hv]
      rfl

theorem insert_ok (h : r.insert d now = .ok (p, r')) :
    0 < r.poolSize ∧ r.find? d.name = none ∧ p = Player.create d now ∧
      r' = { r with players := place p r.players } := by
  have hpool : 0 < r.poolSize := by
    by_contra hz
    simp [insert, checkout, Nat.eq_zero_of_not_pos hz, bind, Except.bind] at h
  rw [insert_eq hpool] at h
  split at h
  · cases h
  · rename_i hfree
    cases h
    exact ⟨hpool, by simpa using hfree, rfl, rfl⟩

theorem update_ok (h : r.update c now = .ok (p, r')) :
    0 < r.poolSize ∧ ∃ q, r.find? c.name = some q ∧ q.version = c.version ∧ p = q.apply c now ∧
      r' = { r with players := place p r.players } := by
  have hpool : 0 < r.poolSize := by
    by_contra hz
    simp [update, checkout, Nat.eq_zero_of_not_pos hz, bind, Except.bind] at h
  rw [update_eq hpool] at h
  split at h
  · cases h
  · rename_i q hq
    split at h
    · cases h
    · rename_i hv
      cases h
      exact ⟨hpool, q, hq, not_not.mp hv, rfl, rfl⟩

theorem Sound.put (hs : r.Sound) (hv : 1 ≤ p.version) (ht : p.tier = Tier.ofLevel p.level) :
    ({ r with players := place p r.players } : Roster).Sound where
  sorted := place_sorted hs.sorted
  versioned x hx := by
    rcases mem_place hx with rfl | hx
    · exact hv
    · exact hs.versioned x hx
  tiered x hx := by
    rcases mem_place hx with rfl | hx
    · exact ht
    · exact hs.tiered x hx

theorem Sound.insert (hs : r.Sound) (h : r.insert d now = .ok (p, r')) : r'.Sound := by
  obtain ⟨-, -, rfl, rfl⟩ := insert_ok h
  exact hs.put (by simp [Player.create]) rfl

theorem Sound.update (hs : r.Sound) (h : r.update c now = .ok (p, r')) : r'.Sound := by
  obtain ⟨-, q, -, -, rfl, rfl⟩ := update_ok h
  exact hs.put (by simp [Player.apply]) rfl

theorem delete_ok {b : Bool} (h : r.delete n = .ok (b, r')) :
    r' = { r with players := r.players.filter (·.name != n) } := by
  simp only [Roster.delete, bind, Except.bind] at h
  split at h
  · cases h
  · cases h
    rfl

theorem clear_ok {k : Nat} (h : r.clear = .ok (k, r')) : r' = { r with players := [] } := by
  simp only [Roster.clear, bind, Except.bind] at h
  split at h
  · cases h
  · cases h
    rfl

theorem Sound.delete (hs : r.Sound) {b : Bool} (h : r.delete n = .ok (b, r')) : r'.Sound := by
  rw [delete_ok h]
  exact ⟨hs.sorted.filter _, fun x hx => hs.versioned x (List.mem_of_mem_filter hx),
    fun x hx => hs.tiered x (List.mem_of_mem_filter hx)⟩

theorem Sound.clear {k : Nat} (h : r.clear = .ok (k, r')) : r'.Sound := by
  rw [clear_ok h]
  exact ⟨List.Pairwise.nil, by simp, by simp⟩

theorem insert_spec (hpool : 0 < r.poolSize) :
    ((∃ p r', r.insert d now = .ok (p, r')) ↔ r.find? d.name = none) ∧
    (r.insert d now = .ok (p, r') → p = Player.create d now ∧ p.version = 1 ∧
      r'.find? d.name = some p ∧ ∀ m, m ≠ d.name → r'.find? m = r.find? m) := by
  refine ⟨⟨fun ⟨_, _, h⟩ => (insert_ok h).2.1, fun hfree => ?_⟩, fun h => ?_⟩
  · exact ⟨Player.create d now, { r with players := place (Player.create d now) r.players },
      by simp [insert_eq hpool, hfree]⟩
  · obtain ⟨-, -, rfl, rfl⟩ := insert_ok h
    refine ⟨rfl, rfl, by simp [find?_put, Player.create], fun m hm => ?_⟩
    rw [find?_put]
    simp [Player.create, Ne.symm hm]

theorem update_spec (hs : r.Sound) (hpool : 0 < r.poolSize) :
    ((∃ p r', r.update c now = .ok (p, r')) ↔ ∃ q, r.find? c.name = some q ∧ q.version = c.version) ∧
    (r.update c now = .ok (p, r') → ∃ q, r.find? c.name = some q ∧
      p = { q with
        level := c.level.getD q.level
        tier := match c.level with
          | some l => Tier.ofLevel l
          | none => q.tier
        score := c.score.getD q.score
        version := c.version + 1
        updatedAt := now } ∧
      r'.find? c.name = some p ∧ ∀ m, m ≠ c.name → r'.find? m = r.find? m) := by
  refine ⟨⟨fun ⟨_, _, h⟩ => ?_, fun ⟨q, hq, hv⟩ => ?_⟩, fun h => ?_⟩
  · obtain ⟨-, q, hq, hv, -⟩ := update_ok h
    exact ⟨q, hq, hv⟩
  · exact ⟨q.apply c now, { r with players := place (q.apply c now) r.players },
      by simp [update_eq hpool, hq, hv]⟩
  · obtain ⟨-, q, hq, hv, rfl, rfl⟩ := update_ok h
    obtain ⟨hname, hmem⟩ := find?_eq_some hq
    -- without a level the tier is the stored one, which is the tier of the stored level
    have htier : Tier.ofLevel (c.level.getD q.level) =
        match c.level with
        | some l => Tier.ofLevel l
        | none => q.tier := by
      cases c.level with
      | some l => rfl
      | none => exact (hs.tiered q hmem).symm
    refine ⟨q, hq, ?_, by simp [find?_put, Player.apply, hname], fun m hm => ?_⟩
    · simp only [Player.apply, hv, htier]
    · rw [find?_put]
      simp [Player.apply, hname, Ne.symm hm]

end Roster

inductive Call where
  | list
  | get (name : String)
  | insert (d : Draft)
  | update (c : Change)
  | delete (name : String)
  | clear
  | contains (name : String)

inductive Reply where
  | players (ps : List Player)
  | found (p : Option Player)
  | player (p : Player)
  | removed (b : Bool)
  | count (k : Nat)
  | present (b : Bool)

namespace Call

def reads : Call → Bool
  | .list | .get _ | .contains _ => true
  | _ => false

def run (r : Roster) (now : Moment) : Call → Except Fault (Reply × Roster)
  | .list => r.list.map fun ps => (.players ps, r)
  | .get name => (r.get name).map fun p => (.found p, r)
  | .insert d => (r.insert d now).map fun (p, r) => (.player p, r)
  | .update c => (r.update c now).map fun (p, r) => (.player p, r)
  | .delete name => (r.delete name).map fun (b, r) => (.removed b, r)
  | .clear => r.clear.map fun (k, r) => (.count k, r)
  | .contains name => (r.contains name).map fun b => (.present b, r)

variable {r r' : Roster} {now : Moment} {a : Reply}

/-! Each call that writes changed the roster as its operation of the roster did. -/

theorem run_insert_ok {d : Draft} (h : (insert d).run r now = .ok (a, r')) :
    ∃ p, r.insert d now = .ok (p, r') ∧ a = .player p := by
  simp only [run, Except.map] at h
  split at h
  · cases h
  · rename_i v hv
    obtain ⟨p, r''⟩ := v
    cases h
    exact ⟨p, hv, rfl⟩

theorem run_update_ok {ch : Change} (h : (update ch).run r now = .ok (a, r')) :
    ∃ p, r.update ch now = .ok (p, r') ∧ a = .player p := by
  simp only [run, Except.map] at h
  split at h
  · cases h
  · rename_i v hv
    obtain ⟨p, r''⟩ := v
    cases h
    exact ⟨p, hv, rfl⟩

theorem run_delete_ok {name : String} (h : (delete name).run r now = .ok (a, r')) :
    ∃ b, r.delete name = .ok (b, r') ∧ a = .removed b := by
  simp only [run, Except.map] at h
  split at h
  · cases h
  · rename_i v hv
    obtain ⟨b, r''⟩ := v
    cases h
    exact ⟨b, hv, rfl⟩

theorem run_clear_ok (h : clear.run r now = .ok (a, r')) :
    ∃ k, r.clear = .ok (k, r') ∧ a = .count k := by
  simp only [run, Except.map] at h
  split at h
  · cases h
  · rename_i v hv
    obtain ⟨k, r''⟩ := v
    cases h
    exact ⟨k, hv, rfl⟩

theorem run_read {c : Call} (hc : c.reads = true) (h : c.run r now = .ok (a, r')) : r' = r := by
  cases c with
  | list | get | contains =>
    simp only [run, Except.map] at h
    split at h <;> cases h
    rfl
  | insert | update | delete | clear => simp [reads] at hc

theorem run_cases {c : Call} (h : c.run r now = .ok (a, r')) :
    r' = r ∨ ∃ ps : List Player, r' = { r with players := ps } := by
  cases c with
  | list | get | contains => exact .inl (run_read rfl h)
  | insert d =>
    obtain ⟨p, hv, -⟩ := run_insert_ok h
    obtain ⟨-, -, -, rfl⟩ := Roster.insert_ok hv
    exact .inr ⟨_, rfl⟩
  | update c =>
    obtain ⟨p, hv, -⟩ := run_update_ok h
    obtain ⟨-, _, -, -, -, rfl⟩ := Roster.update_ok hv
    exact .inr ⟨_, rfl⟩
  | delete name =>
    obtain ⟨b, hv, -⟩ := run_delete_ok h
    exact .inr ⟨_, Roster.delete_ok hv⟩
  | clear =>
    obtain ⟨k, hv, -⟩ := run_clear_ok h
    exact .inr ⟨_, Roster.clear_ok hv⟩

end Call

theorem Roster.Sound.call {r r' : Roster} {now : Moment} {a : Reply} (hs : r.Sound) {c : Call}
    (h : c.run r now = .ok (a, r')) : r'.Sound := by
  cases c with
  | list | get | contains =>
    rw [Call.run_read rfl h]
    exact hs
  | insert d =>
    obtain ⟨p, hv, -⟩ := Call.run_insert_ok h
    exact hs.insert hv
  | update c =>
    obtain ⟨p, hv, -⟩ := Call.run_update_ok h
    exact hs.update hv
  | delete name =>
    obtain ⟨b, hv, -⟩ := Call.run_delete_ok h
    exact hs.delete hv
  | clear =>
    obtain ⟨k, hv, -⟩ := Call.run_clear_ok h
    exact Roster.Sound.clear hv

inductive Phase where
  | waiting (c : Call)
  | holding (c : Call)
  | done (answer : Except Fault Reply)

def Phase.holds : Phase → Bool
  | .holding _ => true
  | _ => false

structure Pool where
  roster : Roster
  free : Nat
  calls : List Phase

/-- One move of one call: the call `i` takes a free connection, or gives up waiting while none
is free, or, holding one, makes its call at `now` and gives the connection back. -/
inductive Turn where
  | acquire (i : Nat)
  | giveUp (i : Nat)
  | perform (i : Nat) (now : Moment)

namespace Pool

def step (w : Pool) : Turn → Pool
  | .acquire i =>
    match w.calls[i]? with
    | some (.waiting c) =>
      if 0 < w.free then { w with free := w.free - 1, calls := w.calls.set i (.holding c) } else w
    | _ => w
  | .giveUp i =>
    match w.calls[i]? with
    | some (.waiting _) =>
      if w.free = 0 then
        { w with calls := w.calls.set i (.done (.error (.poolExhausted w.roster.acquireTimeout))) }
      else w
    | _ => w
  | .perform i now =>
    match w.calls[i]? with
    | some (.holding c) =>
      match c.run w.roster now with
      | .ok (a, r) => { roster := r, free := w.free + 1, calls := w.calls.set i (.done (.ok a)) }
      | .error f => { w with free := w.free + 1, calls := w.calls.set i (.done (.error f)) }
    | _ => w

def run (w : Pool) (ts : List Turn) : Pool := ts.foldl step w

def held (w : Pool) : Nat := w.calls.countP Phase.holds

structure Inv (w : Pool) : Prop where
  sound : w.roster.Sound
  slots : w.free + w.held = w.roster.poolSize

variable {w : Pool}

theorem step_cases (t : Turn) :
    w.step t = w ∨
    (∃ i c, w.calls[i]? = some (.waiting c) ∧ 0 < w.free ∧
      w.step t = ⟨w.roster, w.free - 1, w.calls.set i (.holding c)⟩) ∨
    (∃ i c, w.calls[i]? = some (.waiting c) ∧ w.free = 0 ∧
      w.step t = ⟨w.roster, w.free,
        w.calls.set i (.done (.error (.poolExhausted w.roster.acquireTimeout)))⟩) ∨
    (∃ i now c a r, t = .perform i now ∧ w.calls[i]? = some (.holding c) ∧
      c.run w.roster now = .ok (a, r) ∧ w.step t = ⟨r, w.free + 1, w.calls.set i (.done (.ok a))⟩) ∨
    (∃ i now c f, w.calls[i]? = some (.holding c) ∧ c.run w.roster now = .error f ∧
      w.step t = ⟨w.roster, w.free + 1, w.calls.set i (.done (.error f))⟩) := by
  cases t with
  | acquire i =>
    simp only [Pool.step]
    split
    · rename_i c hi
      split
      · exact .inr (.inl ⟨i, c, hi, by assumption, rfl⟩)
      · exact .inl rfl
    · exact .inl rfl
  | giveUp i =>
    simp only [Pool.step]
    split
    · rename_i c hi
      split
      · exact .inr (.inr (.inl ⟨i, c, hi, by assumption, rfl⟩))
      · exact .inl rfl
    · exact .inl rfl
  | perform i now =>
    simp only [Pool.step]
    split
    · rename_i c hi
      split
      · rename_i a r hrun
        exact .inr (.inr (.inr (.inl ⟨i, now, c, a, r, rfl, hi, hrun, rfl⟩)))
      · rename_i f hrun
        exact .inr (.inr (.inr (.inr ⟨i, now, c, f, hi, hrun, rfl⟩)))
    · exact .inl rfl

theorem mem_set_cases {i : Nat} {ph' x : Phase} (hx : x ∈ w.calls.set i ph') : x = ph' ∨ x ∈ w.calls :=
  (List.mem_or_eq_of_mem_set hx).symm

theorem held_set {i : Nat} {ph : Phase} (ph' : Phase) (hi : w.calls[i]? = some ph) :
    (w.calls.set i ph').countP Phase.holds + (if ph.holds then 1 else 0) =
      w.held + (if ph'.holds then 1 else 0) := by
  obtain ⟨hlt, hget⟩ := List.getElem?_eq_some_iff.mp hi
  rw [List.countP_set hlt, hget]
  have : (if ph.holds = true then 1 else 0) ≤ w.held := by
    split
    · rename_i hh
      exact List.countP_pos_iff.mpr ⟨ph, hget ▸ List.getElem_mem hlt, hh⟩
    · exact Nat.zero_le _
  simp only [held] at this ⊢
  omega

theorem pool_pos_of_holding {i : Nat} {c : Call} (hw : w.Inv) (hi : w.calls[i]? = some (.holding c)) :
    0 < w.roster.poolSize := by
  have h := held_set (.done (.error (.invalid ""))) hi
  simp only [Phase.holds, if_true, Bool.false_eq_true, if_false] at h
  have := hw.slots
  simp only [held] at this h
  omega

theorem run_pool {r r' : Roster} {now : Moment} {c : Call} {a : Reply}
    (h : c.run r now = .ok (a, r')) : r'.poolSize = r.poolSize ∧ r'.acquireTimeout = r.acquireTimeout := by
  rcases Call.run_cases h with rfl | ⟨ps, rfl⟩ <;> exact ⟨rfl, rfl⟩

theorem Inv.step (hw : w.Inv) (t : Turn) : (w.step t).Inv := by
  have hslots := hw.slots
  simp only [held] at hslots
  rcases step_cases t with h | ⟨i, c, hi, hf, h⟩ | ⟨i, c, hi, hf, h⟩ |
      ⟨i, now, c, a, r, -, hi, hrun, h⟩ | ⟨i, now, c, f, hi, hrun, h⟩ <;> rw [h]
  · exact hw
  · -- a free connection goes to the call
    have hc := held_set (.holding c) hi
    simp only [Phase.holds, if_true, Bool.false_eq_true, if_false, held] at hc
    exact ⟨hw.sound, by simp only [held]; omega⟩
  · have hc := held_set (.done (.error (.poolExhausted w.roster.acquireTimeout))) hi
    simp only [Phase.holds, Bool.false_eq_true, if_false, held] at hc
    exact ⟨hw.sound, by simp only [held]; omega⟩
  · -- the call answered: the roster is the call's, and its connection is free again
    have hc := held_set (.done (.ok a)) hi
    simp only [Phase.holds, if_true, Bool.false_eq_true, if_false, held] at hc
    have hp := (run_pool hrun).1
    exact ⟨hw.sound.call hrun, by simp only [held]; omega⟩
  · have hc := held_set (.done (.error f)) hi
    simp only [Phase.holds, if_true, Bool.false_eq_true, if_false, held] at hc
    exact ⟨hw.sound, by simp only [held]; omega⟩

theorem Inv.run (hw : w.Inv) (ts : List Turn) : (w.run ts).Inv := by
  induction ts generalizing w with
  | nil => exact hw
  | cons t ts ih => exact ih (hw.step t)

theorem Inv.start {r : Roster} (hs : r.Sound) (cs : List Call) :
    Inv ⟨r, r.poolSize, cs.map Phase.waiting⟩ :=
  ⟨hs, by simp [held, List.countP_map, Phase.holds]⟩

theorem step_roster (t : Turn) : (w.step t).roster = w.roster ∨
    ∃ i now c a, t = .perform i now ∧ w.calls[i]? = some (.holding c) ∧ c.reads = false ∧
      c.run w.roster now = .ok (a, (w.step t).roster) ∧ (w.step t).calls[i]? = some (.done (.ok a)) := by
  rcases step_cases t with h | ⟨i, c, hi, hf, h⟩ | ⟨i, c, hi, hf, h⟩ |
      ⟨i, now, c, a, r, ht, hi, hrun, h⟩ | ⟨i, now, c, f, hi, hrun, h⟩ <;> rw [h]
  · exact .inl rfl
  · exact .inl rfl
  · exact .inl rfl
  · cases hc : c.reads
    · have hlt := (List.getElem?_eq_some_iff.mp hi).1
      exact .inr ⟨i, now, c, a, ht, hi, hc, hrun, by simp [hlt]⟩
    · exact .inl (Call.run_read hc hrun)
  · exact .inl rfl

end Pool

/-! ### Versions against the service's 64-bit counter -/

theorem Call.run_versions {r r' : Roster} {now : Moment} {a : Reply} {c : Call} {v : Nat}
    (hv : ∀ p ∈ r.players, p.version ≤ v) (h : c.run r now = .ok (a, r')) :
    ∀ p ∈ r'.players, p.version ≤ v + 1 := by
  cases c with
  | list | get | contains =>
    rw [Call.run_read rfl h]
    exact fun p hp => Nat.le_succ_of_le (hv p hp)
  | insert d =>
    obtain ⟨p, hy, -⟩ := Call.run_insert_ok h
    obtain ⟨-, -, rfl, rfl⟩ := Roster.insert_ok hy
    intro p hp
    rcases mem_place hp with rfl | hp
    · simp [Player.create]
    · exact Nat.le_succ_of_le (hv p hp)
  | update ch =>
    obtain ⟨p, hy, -⟩ := Call.run_update_ok h
    obtain ⟨-, q, hq, -, rfl, rfl⟩ := Roster.update_ok hy
    intro p hp
    rcases mem_place hp with rfl | hp
    · -- the updated player is one version past the one it had
      have hqv := hv q (Roster.find?_eq_some hq).2
      simp only [Player.apply]
      omega
    · exact Nat.le_succ_of_le (hv p hp)
  | delete name =>
    obtain ⟨b, hy, -⟩ := Call.run_delete_ok h
    rw [Roster.delete_ok hy]
    exact fun p hp => Nat.le_succ_of_le (hv p (List.mem_of_mem_filter hp))
  | clear =>
    obtain ⟨k, hy, -⟩ := Call.run_clear_ok h
    rw [Roster.clear_ok hy]
    intro p hp
    cases hp

theorem Pool.step_versions (w : Pool) (t : Turn) {v : Nat} (hv : ∀ p ∈ w.roster.players, p.version ≤ v) :
    ∀ p ∈ (w.step t).roster.players, p.version ≤ v + 1 := by
  rcases Pool.step_roster t with h | ⟨i, now, c, a, -, -, -, hrun, -⟩
  · rw [h]
    exact fun p hp => Nat.le_succ_of_le (hv p hp)
  · exact Call.run_versions hv hrun

/-- Each call of the players' repository bumps at most one version by one: after any
interleaving of `ts` from a roster whose versions are at most `v`, they are at most
`v + ts.length`. -/
theorem Pool.run_versions (w : Pool) (ts : List Turn) {v : Nat}
    (hv : ∀ p ∈ w.roster.players, p.version ≤ v) :
    ∀ p ∈ (w.run ts).roster.players, p.version ≤ v + ts.length := by
  induction ts generalizing w v with
  | nil => simpa [Pool.run] using hv
  | cons t ts ih =>
    intro p hp
    have h := ih (w.step t) (w.step_versions t hv) p hp
    simp only [List.length_cons]
    omega

/-- The service keeps a version in 64 bits, and bumping the greatest one panics. From a roster
whose versions are at most `v`, no interleaving of fewer than `u64Max - v` calls brings a player
to that version, so every update accepted along the way bumps a version that fits. -/
theorem versions_fit_64_bits (w : Pool) (ts : List Turn) {v : Nat}
    (hv : ∀ p ∈ w.roster.players, p.version ≤ v) (hn : v + ts.length < Json.u64Max) :
    ∀ p ∈ (w.run ts).roster.players, p.version < Json.u64Max :=
  fun p hp => lt_of_le_of_lt (w.run_versions ts hv p hp) hn

/-! ### Updates that race for one player -/

def Phase.racing (name : String) (v : Nat) : Phase → Prop
  | .waiting (.update c) | .holding (.update c) => c.name = name ∧ c.version = v
  | .waiting _ | .holding _ => False
  | .done _ => True

def Phase.won : Phase → Bool
  | .done (.ok _) => true
  | _ => false

theorem Call.run_update_error {r : Roster} {now : Moment} {f : Fault} {ch : Change}
    (h : (Call.update ch).run r now = .error f) : r.update ch now = .error f := by
  simp only [Call.run, Except.map] at h
  split at h
  · cases h
    assumption
  · cases h

theorem Roster.update_error {r : Roster} {c : Change} {now : Moment} {f : Fault}
    (hpool : 0 < r.poolSize) (h : r.update c now = .error f) :
    (r.find? c.name = none ∧ f = .notFound c.name) ∨
      ∃ q, r.find? c.name = some q ∧ q.version ≠ c.version ∧
        f = .versionConflict c.name c.version q.version := by
  rw [update_eq hpool] at h
  split at h
  · cases h
    exact .inl ⟨by assumption, rfl⟩
  · rename_i q hq
    split at h
    · cases h
      exact .inr ⟨q, hq, by assumption, rfl⟩
    · cases h

namespace Pool

variable (name : String) (v : Nat)

def wins (w : Pool) : Nat := w.calls.countP Phase.won

theorem wins_mk (r : Roster) (free : Nat) (calls : List Phase) :
    wins ⟨r, free, calls⟩ = calls.countP Phase.won := rfl

/-- What holds while updates of `name` that expect version `v` race: at most one succeeded, and
the player is at `v` plus the number that did; a call that succeeded answered the player at
`v + 1`, and one that failed gave up waiting or, after the winner, met a version conflict. -/
structure Race (w : Pool) : Prop where
  racing : ∀ ph ∈ w.calls, Phase.racing name v ph
  wins_le : wins w ≤ 1
  player : ∃ p, w.roster.find? name = some p ∧ p.version = v + wins w
  winner : ∀ a, .done (.ok a) ∈ w.calls → ∃ p, a = .player p ∧ p.version = v + 1
  losers : ∀ f, .done (.error f) ∈ w.calls →
    (f = .poolExhausted w.roster.acquireTimeout) ∨ (wins w = 1 ∧ f = .versionConflict name v (v + 1))

variable {name v} {w : Pool}

theorem wins_set {i : Nat} {ph : Phase} (ph' : Phase) (hi : w.calls[i]? = some ph)
    (hph : ph.won = false) :
    (w.calls.set i ph').countP Phase.won = wins w + (if ph'.won then 1 else 0) := by
  obtain ⟨hlt, hget⟩ := List.getElem?_eq_some_iff.mp hi
  rw [List.countP_set hlt, hget, hph]
  simp [wins]

theorem Race.set (hr : Race name v w) {i : Nat} {ph : Phase} (ph' : Phase) (free : Nat)
    (hi : w.calls[i]? = some ph) (hph : ph.won = false) (hph' : ph'.won = false)
    (hrace : Phase.racing name v ph')
    (hfail : ∀ f, ph' = .done (.error f) → f = .poolExhausted w.roster.acquireTimeout ∨
      (wins w = 1 ∧ f = .versionConflict name v (v + 1))) :
    Race name v ⟨w.roster, free, w.calls.set i ph'⟩ := by
  have hwins : wins ⟨w.roster, free, w.calls.set i ph'⟩ = wins w := by
    rw [wins_mk, wins_set ph' hi hph, hph']
    rfl
  refine ⟨fun x hx => ?_, hwins ▸ hr.wins_le, hwins ▸ hr.player, fun a ha => ?_, fun f hf => ?_⟩
  · rcases mem_set_cases hx with rfl | hx
    · exact hrace
    · exact hr.racing x hx
  · rcases mem_set_cases ha with h | ha
    · subst h
      cases hph'
    · exact hr.winner a ha
  · rw [hwins]
    rcases mem_set_cases hf with h | hf
    · exact hfail f h.symm
    · exact hr.losers f hf

theorem Race.win (hr : Race name v w) {i : Nat} {ch : Change} {now : Moment} {a : Reply}
    {r : Roster} (free : Nat) (hi : w.calls[i]? = some (.holding (.update ch)))
    (hrun : (Call.update ch).run w.roster now = .ok (a, r)) :
    Race name v ⟨r, free, w.calls.set i (.done (.ok a))⟩ := by
  obtain ⟨p, hp, hpv⟩ := hr.player
  obtain ⟨hname, hver⟩ := hr.racing _ (List.mem_of_getElem? hi)
  obtain ⟨q', hupd, rfl⟩ := Call.run_update_ok hrun
  obtain ⟨-, q, hq, hqv, rfl, rfl⟩ := Roster.update_ok hupd
  rw [hname, hp] at hq
  have hpq : q = p := (Option.some.inj hq).symm
  subst hpq
  have hzero : wins w = 0 := by omega
  have hwins := wins_set (.done (.ok (.player (q.apply ch now)))) hi rfl
  simp only [Phase.won, if_true] at hwins
  refine ⟨fun x hx => ?_, ?_, ⟨q.apply ch now, ?_, ?_⟩, fun a ha => ?_, fun f hf => ?_⟩
  · rcases mem_set_cases hx with rfl | hx
    · trivial
    · exact hr.racing x hx
  · rw [wins_mk, hwins]
    omega
  · rw [Roster.find?_put, if_pos]
    simpa [Player.apply] using (Roster.find?_eq_some hp).1
  · rw [wins_mk, hwins]
    simp only [Player.apply]
    omega
  · rcases mem_set_cases ha with h | ha
    · cases h
      exact ⟨_, rfl, by simp only [Player.apply]; omega⟩
    · exact hr.winner a ha
  · rcases mem_set_cases hf with h | hf
    · cases h
    · rcases hr.losers f hf with h | h
      · exact .inl h
      · omega

theorem Race.lose (hw : w.Inv) (hr : Race name v w) {i : Nat} {ch : Change} {now : Moment}
    {f : Fault} (free : Nat) (hi : w.calls[i]? = some (.holding (.update ch)))
    (hrun : (Call.update ch).run w.roster now = .error f) :
    Race name v ⟨w.roster, free, w.calls.set i (.done (.error f))⟩ := by
  obtain ⟨p, hp, hpv⟩ := hr.player
  obtain ⟨hname, hver⟩ := hr.racing _ (List.mem_of_getElem? hi)
  have hpool := pool_pos_of_holding hw hi
  rcases Roster.update_error hpool (Call.run_update_error hrun) with ⟨hnone, -⟩ | ⟨q, hq, hqv, hf⟩
  · rw [hname, hp] at hnone
    cases hnone
  · rw [hname, hp] at hq
    have hpq : q = p := (Option.some.inj hq).symm
    subst hpq
    have hone : wins w = 1 := by have := hr.wins_le; omega
    refine hr.set _ _ hi rfl rfl trivial (fun f' h => ?_)
    cases h
    exact .inr ⟨hone, by rw [hf, hname, hver, hpv, hone]⟩

theorem Race.step (hw : w.Inv) (hr : Race name v w) (t : Turn) : Race name v (w.step t) := by
  rcases step_cases t with h | ⟨i, c, hi, -, h⟩ | ⟨i, c, hi, -, h⟩ |
      ⟨i, now, c, a, r, -, hi, hrun, h⟩ | ⟨i, now, c, f, hi, hrun, h⟩ <;> rw [h]
  · exact hr
  · -- waiting or holding, the call is the same update
    refine hr.set (.holding c) _ hi rfl rfl ?_ (fun f h => by cases h)
    have := hr.racing _ (List.mem_of_getElem? hi)
    cases c <;> exact this
  · exact hr.set _ _ hi rfl rfl trivial (fun f h => by cases h; exact .inl rfl)
  · -- a racing call is an update of the player
    cases c with
    | update ch => exact hr.win _ hi hrun
    | _ => exact absurd (hr.racing _ (List.mem_of_getElem? hi)) id
  · cases c with
    | update ch => exact hr.lose hw _ hi hrun
    | _ => exact absurd (hr.racing _ (List.mem_of_getElem? hi)) id

theorem Race.start {r : Roster} {cs : List Change} {p : Player} (hp : r.find? name = some p)
    (hv : p.version = v) (hcs : ∀ c ∈ cs, c.name = name ∧ c.version = v) (free : Nat) :
    Race name v ⟨r, free, cs.map fun c => .waiting (.update c)⟩ where
  racing ph hph := by
    obtain ⟨c, hc, rfl⟩ := List.mem_map.mp hph
    exact hcs c hc
  wins_le := by simp [wins_mk, List.countP_map, Function.comp_def, Phase.won]
  player := ⟨p, hp, by simp [wins_mk, List.countP_map, Function.comp_def, Phase.won, hv]⟩
  winner a ha := by simp at ha
  losers f hf := by simp at hf

theorem Race.run (hw : w.Inv) (hr : Race name v w) (ts : List Turn) : Race name v (w.run ts) := by
  induction ts generalizing w with
  | nil => exact hr
  | cons t ts ih => exact ih (hw.step t) (hr.step hw t)

theorem Race.won_of_reached (hr : Race name v w) {i : Nat} {x : Except Fault Reply}
    (hi : w.calls[i]? = some (.done x)) (hx : x ≠ .error (.poolExhausted w.roster.acquireTimeout)) :
    wins w = 1 := by
  have hmem := List.mem_of_getElem? hi
  cases x with
  | ok a =>
    have : 0 < wins w := List.countP_pos_iff.mpr ⟨_, hmem, rfl⟩
    have := hr.wins_le
    omega
  | error f =>
    rcases hr.losers f hmem with h | h
    · exact absurd (h ▸ rfl) hx
    · exact h.1

end Pool

/-- The players' repository under concurrent calls. For every interleaving of calls that each
wait for a connection (or give up waiting), then read or write the players in one step under
the lock and give the connection back: the players stay sorted by name, one per name, each at a
version of at least 1 and in the tier of its level, and the connections held and free add up to
the pool's size; a move changes the players only when a call that writes succeeds. Once a call
holds a connection, insertion succeeds exactly when the name is free and stores the player at
version 1, and an update succeeds exactly when the player is at the version it expects, and then
sets the version one higher and changes only the level and tier (given a level), the score (given
one) and the time of the change. Of updates of one player that all expect the version it is at,
at most one succeeds, whose answer is at the next version, each other that reached the player
fails with a version conflict, and as soon as one reached it, one succeeded. -/
theorem roster_serves_concurrent_calls :
    (∀ (w : Pool) (ts : List Turn), w.Inv → (w.run ts).Inv) ∧
    (∀ (w : Pool) (t : Turn), (w.step t).roster = w.roster ∨
      ∃ i now c a, t = .perform i now ∧ w.calls[i]? = some (.holding c) ∧ c.reads = false ∧
        c.run w.roster now = .ok (a, (w.step t).roster) ∧
        (w.step t).calls[i]? = some (.done (.ok a))) ∧
    (∀ (r : Roster) (d : Draft) (now : Moment) p r', 0 < r.poolSize →
      ((∃ p r', r.insert d now = .ok (p, r')) ↔ r.find? d.name = none) ∧
      (r.insert d now = .ok (p, r') → p = Player.create d now ∧ p.version = 1 ∧
        r'.find? d.name = some p ∧ ∀ m, m ≠ d.name → r'.find? m = r.find? m)) ∧
    (∀ (r : Roster) (c : Change) (now : Moment) p r', r.Sound → 0 < r.poolSize →
      ((∃ p r', r.update c now = .ok (p, r')) ↔
        ∃ q, r.find? c.name = some q ∧ q.version = c.version) ∧
      (r.update c now = .ok (p, r') → ∃ q, r.find? c.name = some q ∧
        p = { q with
          level := c.level.getD q.level
          tier := match c.level with
            | some l => Tier.ofLevel l
            | none => q.tier
          score := c.score.getD q.score
          version := c.version + 1
          updatedAt := now } ∧
        r'.find? c.name = some p ∧ ∀ m, m ≠ c.name → r'.find? m = r.find? m)) ∧
    (∀ (r : Roster) (cs : List Change) (name : String) (v : Nat) (ts : List Turn), r.Sound →
      (∃ p, r.find? name = some p ∧ p.version = v) → (∀ c ∈ cs, c.name = name ∧ c.version = v) →
      let w := (Pool.mk r r.poolSize (cs.map fun c => .waiting (.update c))).run ts
      Pool.wins w ≤ 1 ∧
      (∀ a : Reply, Phase.done (.ok a) ∈ w.calls → ∃ p, a = .player p ∧ p.version = v + 1) ∧
      (∀ (i : Nat) (f : Fault), w.calls[i]? = some (Phase.done (.error f)) →
        f ≠ Fault.poolExhausted w.roster.acquireTimeout → f = Fault.versionConflict name v (v + 1)) ∧
      (∀ (i : Nat) (x : Except Fault Reply), w.calls[i]? = some (Phase.done x) →
        x ≠ .error (Fault.poolExhausted w.roster.acquireTimeout) → Pool.wins w = 1)) := by
  refine ⟨fun w ts hw => hw.run ts, fun w t => Pool.step_roster t,
    fun r d now p r' hpool => Roster.insert_spec hpool,
    fun r c now p r' hs hpool => Roster.update_spec hs hpool, ?_⟩
  intro r cs name v ts hs ⟨p, hp, hv⟩ hcs w
  -- the race starts with every update waiting and every connection free
  have hw : Pool.Inv ⟨r, r.poolSize, cs.map fun c => .waiting (.update c)⟩ := by
    simpa [List.map_map, Function.comp_def] using Pool.Inv.start hs (cs.map Call.update)
  have hr := (Pool.Race.start hp hv hcs r.poolSize).run hw ts
  refine ⟨hr.wins_le, hr.winner, fun i f hi hf => ?_, fun i x hi hx => hr.won_of_reached hi hx⟩
  rcases hr.losers f (List.mem_of_getElem? hi) with h | h
  · exact absurd h hf
  · exact h.2

end Relay.Player
