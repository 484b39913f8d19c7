import Relay.Subscription.InLanes
import Relay.Subscription.Loop
import Relay.Proofs.Store
import Relay.Proofs.Conservation
/-!
# The ids the lanes hold, counted

Lanes enter ids and drop their guards in any order: a redelivery may run beside the lane of the
original, and a lane's task may be broken off at any await, which drops its guard with it. Each
guard is dropped once, after the enter that handed it out, so a run is a list of calls in which
every guard dropped is alive (`Call.Allows`).

Whatever the order, the map counts the guards alive (`Counts`): an id is held exactly when a
guard for it is alive, with the number of those guards. An enter and a drop each keep that
(`Counts.enter`, `Counts.drop`), so it holds after every run (`Counts.run`). Asking whether an
id is held is then asking whether a lane holds it, which is how the loop's model asks
(`Counts.contains_eq_holds`), and a guard alive always finds its id with a positive count, so
no drop panics.
-/
namespace Relay.Subscription

namespace InLanes

inductive Call where
  | enter (id : String)
  | drop (g : LaneGuard)
  deriving DecidableEq, Repr

namespace Call

def guards (gs : List LaneGuard) : Call → List LaneGuard
  | .enter id => gs ++ [⟨id⟩]
  | .drop g => gs.erase g

def Allowed (gs : List LaneGuard) : Call → Prop
  | .enter _ => True
  | .drop g => g ∈ gs

instance (gs : List LaneGuard) (c : Call) : Decidable (Allowed gs c) :=
  match c with
  | .enter _ => isTrue trivial
  | .drop g => inferInstanceAs (Decidable (g ∈ gs))

def Allows (gs : List LaneGuard) : List Call → Prop
  | [] => True
  | c :: cs => Allowed gs c ∧ Allows (guards gs c) cs

instance decAllows (gs : List LaneGuard) : (cs : List Call) → Decidable (Allows gs cs)
  | [] => isTrue trivial
  | c :: cs =>
    have := decAllows (guards gs c) cs
    inferInstanceAs (Decidable (Allowed gs c ∧ _))

def alive (gs : List LaneGuard) (cs : List Call) : List LaneGuard := cs.foldl guards gs

end Call

def call (m : InLanes) : Call → Except Panic InLanes
  | .enter id => .ok (m.enter id).1
  | .drop g => m.drop g

def run (m : InLanes) : List Call → Except Panic InLanes
  | [] => .ok m
  | c :: cs => (m.call c).bind (·.run cs)

def Counts (m : InLanes) (gs : List LaneGuard) : Prop :=
  ∀ id, m.count? id = if gs.count ⟨id⟩ = 0 then none else some (gs.count ⟨id⟩)

variable {m : InLanes} {gs : List LaneGuard}

theorem counts_empty : Counts {} [] := by
  intro id
  simp [count?]

theorem count?_putEntry (m : InLanes) (id id' : String) (n : Nat) :
    (⟨putEntry id n m.counts⟩ : InLanes).count? id' =
      if id' = id then some n else m.count? id' := by
  by_cases h : id' = id
  · subst h
    simp [count?, lookup_putEntry]
  · simp [count?, h, lookup_putEntry_of_ne _ h]

theorem count?_filter (m : InLanes) (id id' : String) :
    (⟨m.counts.filter (·.1 != id)⟩ : InLanes).count? id' =
      if id' = id then none else m.count? id' := by
  rw [count?, Cache.lookup_filter_key m.counts (· != id) id']
  by_cases h : id' = id <;> simp [h, count?]

theorem count_guard_singleton (id id' : String) :
    [(⟨id⟩ : LaneGuard)].count ⟨id'⟩ = if id' = id then 1 else 0 := by
  by_cases h : id' = id
  · simp [h]
  · simp [h, Ne.symm h]

theorem getD_counted (n : Nat) : (if n = 0 then none else some n).getD 0 = n := by
  by_cases h : n = 0 <;> simp [h]

theorem Counts.enter (h : Counts m gs) (id : String) : Counts (m.enter id).1 (gs ++ [⟨id⟩]) := by
  intro id'
  rw [InLanes.enter, count?_putEntry, List.count_append, count_guard_singleton]
  by_cases hid : id' = id
  · subst hid
    simp [h id', getD_counted]
  · simp [hid, h id']

theorem Counts.drop (h : Counts m gs) {g : LaneGuard} (hg : g ∈ gs) :
    ∃ m', m.drop g = .ok m' ∧ Counts m' (gs.erase g) := by
  obtain ⟨id⟩ := g
  obtain ⟨n, hn⟩ : ∃ n, gs.count ⟨id⟩ = n + 1 :=
    Nat.exists_eq_add_one.mpr (List.count_pos_iff.mpr hg)
  have hc : m.count? id = some (n + 1) := by simp [h id, hn]
  refine ⟨_, drop_some hc, fun id' => ?_⟩
  -- one guard for `id` fewer, the others as they were
  have hcount : (gs.erase ⟨id⟩).count ⟨id'⟩ = if id' = id then n else gs.count ⟨id'⟩ := by
    rw [List.count_erase]
    by_cases hid : id' = id
    · subst hid
      simp [hn]
    · simp [hid, Ne.symm hid]
  rw [hcount]
  by_cases hid : id' = id
  · subst hid
    by_cases hn0 : n = 0 <;> simp [hn0, count?_filter, count?_putEntry]
  · by_cases hn0 : n = 0 <;> simp [hn0, hid, count?_filter, count?_putEntry, h id']

theorem Counts.call (h : Counts m gs) {c : Call} (hc : c.Allowed gs) :
    ∃ m', m.call c = .ok m' ∧ Counts m' (c.guards gs) := by
  cases c with
  | enter id => exact ⟨_, rfl, h.enter id⟩
  | drop g => exact h.drop hc

theorem Counts.run {cs : List Call} (h : Counts m gs) (hcs : Call.Allows gs cs) :
    ∃ m', m.run cs = .ok m' ∧ Counts m' (Call.alive gs cs) := by
  induction cs generalizing m gs with
  | nil => exact ⟨m, rfl, h⟩
  | cons c cs ih =>
    obtain ⟨hc, hcs⟩ := hcs
    obtain ⟨m₁, h₁, hm₁⟩ := h.call hc
    obtain ⟨m', h', hm'⟩ := ih hm₁ hcs
    refine ⟨m', ?_, hm'⟩
    rw [InLanes.run, h₁]
    exact h'

theorem Counts.contains (h : Counts m gs) (id : String) :
    m.contains id = true ↔ ∃ g ∈ gs, g.id = id := by
  have hmem : (∃ g ∈ gs, g.id = id) ↔ 0 < gs.count ⟨id⟩ := by
    rw [List.count_pos_iff]
    constructor
    · rintro ⟨⟨id'⟩, hg, rfl⟩
      exact hg
    · intro hg
      exact ⟨⟨id⟩, hg, rfl⟩
  rw [hmem, InLanes.contains, h id]
  by_cases h0 : gs.count ⟨id⟩ = 0 <;> simp [h0, Nat.pos_iff_ne_zero]

theorem Counts.contains_eq_holds {l : Loop}
    (h : Counts m (l.lanes.map fun ln => ⟨ln.handling.delivery.id⟩)) (id : String) :
    m.contains id = l.holds id := by
  rw [Bool.eq_iff_iff, h.contains]
  simp [Loop.holds]

/-- Whatever the order in which lanes enter ids and drop their guards, each guard dropped while
it is alive, no drop panics, and the map sends each id to the number of guards alive for it and
holds no id without one: an id is held exactly when a lane holds it. -/
theorem lanes_count_their_holders (calls : List Call) (hcalls : Call.Allows [] calls) :
    ∃ m, InLanes.run {} calls = .ok m ∧
      (∀ id, m.count? id = if (Call.alive [] calls).count ⟨id⟩ = 0 then none
        else some ((Call.alive [] calls).count ⟨id⟩)) ∧
      ∀ id, m.contains id = true ↔ ∃ g ∈ Call.alive [] calls, g.id = id := by
  obtain ⟨m, hrun, hm⟩ := counts_empty.run hcalls
  exact ⟨m, hrun, hm, hm.contains⟩

/-- A redelivery beside its original: once the original's guard is dropped, the id is still
held, by one lane. -/
theorem redelivery_keeps_id_held :
    Call.Allows [] [.enter "1-0", .enter "1-0", .drop ⟨"1-0"⟩] ∧
      ∃ m, InLanes.run {} [.enter "1-0", .enter "1-0", .drop ⟨"1-0"⟩] = .ok m ∧
        m.count? "1-0" = some 1 ∧ m.contains "1-0" = true := by
  obtain ⟨m, hrun, hcount, hheld⟩ :=
    lanes_count_their_holders [.enter "1-0", .enter "1-0", .drop ⟨"1-0"⟩] (by decide)
  refine ⟨by decide, m, hrun, ?_, (hheld "1-0").mpr ⟨⟨"1-0"⟩, by decide, rfl⟩⟩
  rw [hcount]
  decide

end InLanes

end Relay.Subscription
