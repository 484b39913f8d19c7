import Relay.Proofs.Counter
import Relay.Handler
/-!
# Producing data, one call at a time

`Handler.start` and `Handler.conclude` make their calls of the store back to back, as one
step of a lane. Workers that share a store may interleave between any two of those calls, so
the proofs about races take the production of a delivery's data apart: a read looks its
generation up, then its query's entry, then calls the operation and stores the answer; a
change calls the operation, then counts the generation up, then deletes the resource's
entries. Each call is one step of `Produce.step`, made of the same functions of the model
that the handler calls (`Results.generation`, `Results.probe`, `Store.incr`,
`Store.deletePrefix`, `Results.put`), and says what it did as an `Event`.

The lemmas bound what a step can touch: the counter of its resource and the keys under the
resource's prefix, nothing else.
-/
namespace Relay

namespace Cache.Results

variable (s : Store) (c : Clock) (r : String)

theorem probe_miss {g : Int} {shape k : String} (h : probe s c r g shape = .miss k) :
    k = entryKey r g shape := by
  dsimp only [probe] at h
  split at h
  · split at h
    · cases h
    · cases h; rfl
  · cases h; rfl
  · cases h

theorem probe_hit {g : Int} {shape : String} {v : Json} (h : probe s c r g shape = .hit v) :
    ∃ e, s.find? (entryKey r g shape) = some e ∧ e.isLive c.mono = true ∧
      Json.parseText e.value = .ok v := by
  dsimp only [probe] at h
  split at h
  · rename_i raw hget
    split at h
    · rename_i hv
      cases h
      obtain ⟨-, hraw⟩ := Store.get_eq_ok s c hget
      obtain ⟨e, he, rfl, hl⟩ := Store.live?_eq_some s hraw.symm
      exact ⟨e, he, hl, hv⟩
    · cases h
  · cases h
  · cases h

theorem put_ok (rc : Results) {k : String} {v : Json} {s' : Store} (h : rc.put s c k v = .ok s') :
    s' = s ∨ ∃ t, s' = s.put k ⟨Json.write v, some t⟩ := by
  unfold put at h
  split at h
  · rename_i s'' hset
    cases h
    exact .inr (Store.set_eq_ok s c hset)
  · cases h; exact .inl rfl
  · cases h

end Cache.Results

namespace Concurrent

open Cache

inductive Produce where
  | generation (shape : String)
  | probe (g : Int) (shape : String)
  | calling (sequel : Handler.Sequel) (retries : Nat)
  | inside (sequel : Handler.Sequel) (retries : Nat)
  | bump (data : Json)
  | evict (data : Json)
  | keep (key : String) (data : Json)
  | answered (r : Except (Failure × Failure.Kind) Json)

inductive Event where
  | read (g : Int)
  | hit (key : String) (value : Json)
  | invoked
  | stored (key text : String)
  | bumped (n : Int)
  | evicted
  deriving DecidableEq

namespace Produce

def read (shape : String) : Produce := .generation shape

def change : Produce := .calling .invalidate 0

def after (data : Json) : Handler.Sequel → Produce
  | .invalidate => .bump data
  | .store k => .keep k data
  | .pass => .answered (.ok data)

def step (br : Bridge) (resource : String) (c : Clock) (answer : Except Failure Json)
    (s : Store) : Produce → Except Panic (Produce × Store × Option Event)
  | .generation shape =>
    match Results.generation s c resource with
    | some g => .ok (.probe g shape, s, some (.read g))
    | none => .ok (.calling .pass 0, s, none)
  | .probe g shape =>
    match Results.probe s c resource g shape with
    | .hit v => .ok (.answered (.ok v), s, some (.hit (Results.entryKey resource g shape) v))
    | .miss k => .ok (.calling (.store k) 0, s, none)
    | .bypass => .ok (.calling .pass 0, s, none)
  | .calling sq n => .ok (.inside sq n, s, some .invoked)
  | .inside sq n =>
    match answer with
    | .ok v => .ok (after v sq, s, none)
    | .error f =>
      let k := br.classifier.classify f
      if k.shouldRetry n then .ok (.calling sq (n + 1), s, none)
      else .ok (.answered (.error (f, k)), s, none)
  | .bump data =>
    match s.incr c (Results.generationKey resource) with
    | .ok (n, s') => .ok (.evict data, s', some (.bumped n))
    | .error (.fault _) => .ok (.answered (.ok data), s, none)
    | .error (.panic p) => .error p
  | .evict data =>
    match s.deletePrefix (resource ++ ":") with
    | .ok (_, s') => .ok (.answered (.ok data), s', some .evicted)
    | .error (.fault _) => .ok (.answered (.ok data), s, none)
    | .error (.panic p) => .error p
  | .keep k data =>
    match br.results.put s c k data with
    | .ok s' => .ok (.answered (.ok data), s', some (.stored k (Json.write data)))
    | .error p => .error p
  | .answered r => .ok (.answered r, s, none)

def key? : Produce → Option String
  | .calling (.store k) _ | .inside (.store k) _ | .keep k _ => some k
  | _ => none

variable {br : Bridge} {r : String} {c : Clock} {a : Except Failure Json} {s s' : Store}
  {p p' : Produce} {e : Option Event} {g n : Int} {k text : String} {v : Json}

theorem step_cases (h : p.step br r c a s = .ok (p', s', e)) :
    (e = none ∧ s' = s) ∨
    (∃ shape g, p = .generation shape ∧ Results.generation s c r = some g ∧
      p' = .probe g shape ∧ s' = s ∧ e = some (.read g)) ∨
    (∃ g shape v, p = .probe g shape ∧ Results.probe s c r g shape = .hit v ∧
      p' = .answered (.ok v) ∧ s' = s ∧ e = some (.hit (Results.entryKey r g shape) v)) ∨
    (∃ sq n, p = .calling sq n ∧ p' = .inside sq n ∧ s' = s ∧ e = some .invoked) ∨
    (∃ data n, p = .bump data ∧ s.incr c (Results.generationKey r) = .ok (n, s') ∧
      p' = .evict data ∧ e = some (.bumped n)) ∨
    (∃ data n, p = .evict data ∧ s.deletePrefix (r ++ ":") = .ok (n, s') ∧
      p' = .answered (.ok data) ∧ e = some .evicted) ∨
    (∃ k data, p = .keep k data ∧ br.results.put s c k data = .ok s' ∧
      p' = .answered (.ok data) ∧ e = some (.stored k (Json.write data))) := by
  cases p with
  | generation shape =>
    simp only [step] at h
    split at h
    · rename_i g hg
      cases h
      exact .inr (.inl ⟨shape, g, rfl, hg, rfl, rfl, rfl⟩)
    · cases h
      exact .inl ⟨rfl, rfl⟩
  | probe g shape =>
    simp only [step] at h
    split at h
    · rename_i v hv
      cases h
      exact .inr (.inr (.inl ⟨g, shape, v, rfl, hv, rfl, rfl, rfl⟩))
    all_goals cases h; exact .inl ⟨rfl, rfl⟩
  | calling sq n =>
    cases h
    exact .inr (.inr (.inr (.inl ⟨sq, n, rfl, rfl, rfl, rfl⟩)))
  | inside sq n =>
    simp only [step] at h
    split at h
    · cases h; exact .inl ⟨rfl, rfl⟩
    · split at h <;> (cases h; exact .inl ⟨rfl, rfl⟩)
  | bump data =>
    simp only [step] at h
    split at h
    · rename_i n s'' hn
      cases h
      exact .inr (.inr (.inr (.inr (.inl ⟨data, n, rfl, hn, rfl, rfl⟩))))
    · cases h; exact .inl ⟨rfl, rfl⟩
    · cases h
  | evict data =>
    simp only [step] at h
    split at h
    · rename_i n s'' hn
      cases h
      exact .inr (.inr (.inr (.inr (.inr (.inl ⟨data, n, rfl, hn, rfl, rfl⟩)))))
    · cases h; exact .inl ⟨rfl, rfl⟩
    · cases h
  | keep k data =>
    simp only [step] at h
    split at h
    · rename_i s'' hs
      cases h
      exact .inr (.inr (.inr (.inr (.inr (.inr ⟨k, data, rfl, hs, rfl, rfl⟩)))))
    · cases h
  | answered res =>
    cases h
    exact .inl ⟨rfl, rfl⟩

theorem step_silent (h : p.step br r c a s = .ok (p', s', none)) : s' = s := by
  rcases step_cases h with ⟨-, rfl⟩ | ⟨_, _, -, -, -, -, he⟩ | ⟨_, _, _, -, -, -, -, he⟩ |
    ⟨_, _, -, -, -, he⟩ | ⟨_, _, -, -, -, he⟩ | ⟨_, _, -, -, -, he⟩ | ⟨_, _, -, -, -, he⟩
  · rfl
  all_goals cases he

theorem step_read (h : p.step br r c a s = .ok (p', s', some (.read g))) :
    ∃ shape, p = .generation shape ∧ Results.generation s c r = some g ∧ p' = .probe g shape ∧
      s' = s := by
  rcases step_cases h with ⟨he, -⟩ | ⟨shape, _, rfl, hg, rfl, rfl, he⟩ | ⟨_, _, _, -, -, -, -, he⟩ |
    ⟨_, _, -, -, -, he⟩ | ⟨_, _, -, -, -, he⟩ | ⟨_, _, -, -, -, he⟩ | ⟨_, _, -, -, -, he⟩
  · cases he
  · cases he
    exact ⟨shape, rfl, hg, rfl, rfl⟩
  all_goals cases he

theorem step_hit (h : p.step br r c a s = .ok (p', s', some (.hit k v))) :
    ∃ g shape, p = .probe g shape ∧ Results.probe s c r g shape = .hit v ∧
      k = Results.entryKey r g shape ∧ s' = s := by
  rcases step_cases h with ⟨he, -⟩ | ⟨_, _, -, -, -, -, he⟩ | ⟨g, shape, _, rfl, hv, -, rfl, he⟩ |
    ⟨_, _, -, -, -, he⟩ | ⟨_, _, -, -, -, he⟩ | ⟨_, _, -, -, -, he⟩ | ⟨_, _, -, -, -, he⟩
  · cases he
  · cases he
  · cases he
    exact ⟨g, shape, rfl, hv, rfl, rfl⟩
  all_goals cases he

theorem step_invoked (h : p.step br r c a s = .ok (p', s', some .invoked)) :
    ∃ sq n, p = .calling sq n ∧ s' = s := by
  rcases step_cases h with ⟨he, -⟩ | ⟨_, _, -, -, -, -, he⟩ | ⟨_, _, _, -, -, -, -, he⟩ |
    ⟨sq, n, rfl, -, rfl, -⟩ | ⟨_, _, -, -, -, he⟩ | ⟨_, _, -, -, -, he⟩ | ⟨_, _, -, -, -, he⟩
  · cases he
  · cases he
  · cases he
  · exact ⟨sq, n, rfl, rfl⟩
  all_goals cases he

theorem step_bumped (h : p.step br r c a s = .ok (p', s', some (.bumped n))) :
    ∃ data, p = .bump data ∧ s.incr c (Results.generationKey r) = .ok (n, s') := by
  rcases step_cases h with ⟨he, -⟩ | ⟨_, _, -, -, -, -, he⟩ | ⟨_, _, _, -, -, -, -, he⟩ |
    ⟨_, _, -, -, -, he⟩ | ⟨data, _, rfl, hn, -, he⟩ | ⟨_, _, -, -, -, he⟩ | ⟨_, _, -, -, -, he⟩
  · cases he
  · cases he
  · cases he
  · cases he
  · cases he
    exact ⟨data, rfl, hn⟩
  all_goals cases he

theorem step_evicted (h : p.step br r c a s = .ok (p', s', some .evicted)) :
    s' = s.dropPrefix (r ++ ":") := by
  rcases step_cases h with ⟨he, -⟩ | ⟨_, _, -, -, -, -, he⟩ | ⟨_, _, _, -, -, -, -, he⟩ |
    ⟨_, _, -, -, -, he⟩ | ⟨_, _, -, -, -, he⟩ | ⟨_, _, -, hd, -, -⟩ | ⟨_, _, -, -, -, he⟩
  · cases he
  · cases he
  · cases he
  · cases he
  · cases he
  · exact Store.deletePrefix_eq_ok s hd
  · cases he

theorem step_stored (h : p.step br r c a s = .ok (p', s', some (.stored k text))) :
    ∃ data, p = .keep k data ∧ text = Json.write data ∧ br.results.put s c k data = .ok s' := by
  rcases step_cases h with ⟨he, -⟩ | ⟨_, _, -, -, -, -, he⟩ | ⟨_, _, _, -, -, -, -, he⟩ |
    ⟨_, _, -, -, -, he⟩ | ⟨_, _, -, -, -, he⟩ | ⟨_, _, -, -, -, he⟩ | ⟨_, data, rfl, hput, -, he⟩
  all_goals cases he
  exact ⟨data, rfl, rfl, hput⟩

theorem step_ne_generation (h : p.step br r c a s = .ok (p', s', e)) (shape : String) :
    p' ≠ .generation shape := by
  rintro rfl
  cases p with
  | inside sq n =>
    simp only [step] at h
    split at h
    · cases sq <;> cases h
    · split at h <;> cases h
  | _ => simp only [step] at h; (repeat' split at h) <;> cases h

theorem step_probe (h : p.step br r c a s = .ok (p', s', e)) {g : Int} {shape : String}
    (hp : p' = .probe g shape) : p = .generation shape ∧ e = some (.read g) := by
  subst hp
  cases p with
  | generation shape' =>
    simp only [step] at h
    split at h
    · cases h; exact ⟨rfl, rfl⟩
    · cases h
  | inside sq n =>
    simp only [step] at h
    split at h
    · cases sq <;> cases h
    · split at h <;> cases h
  | _ => simp only [step] at h; (repeat' split at h) <;> cases h

theorem step_key? (h : p.step br r c a s = .ok (p', s', e)) {k : String} (hk : p'.key? = some k) :
    p.key? = some k ∨ ∃ g shape, p = .probe g shape ∧ k = Results.entryKey r g shape := by
  cases p with
  | probe g shape =>
    simp only [step] at h
    split at h
    · cases h; cases hk
    · rename_i k' hmiss
      cases h
      simp only [key?, Option.some.injEq] at hk
      exact .inr ⟨g, shape, rfl, hk ▸ Results.probe_miss s c r hmiss⟩
    · cases h; cases hk
  | calling sq n =>
    cases h
    left
    cases sq <;> exact hk
  | inside sq n =>
    simp only [step] at h
    split at h
    · cases h
      left
      cases sq <;> exact hk
    · split at h <;> cases h
      · left
        cases sq <;> exact hk
      · cases hk
  | _ => simp only [step] at h; (repeat' split at h) <;> cases h <;> cases hk

theorem step_available (h : p.step br r c a s = .ok (p', s', e)) : s'.available = s.available := by
  rcases step_cases h with ⟨-, rfl⟩ | ⟨_, _, -, -, -, rfl, -⟩ | ⟨_, _, _, -, -, -, rfl, -⟩ |
    ⟨_, _, -, -, rfl, -⟩ | ⟨_, _, -, hn, -, -⟩ | ⟨_, _, -, hd, -, -⟩ | ⟨_, _, -, hput, -, -⟩
  · rfl
  · rfl
  · rfl
  · rfl
  · obtain ⟨-, -, -, -, -, rfl⟩ := Results.incr_generationKey_eq_ok s c r hn
    simp
  · rw [Store.deletePrefix_eq_ok s hd]
    rfl
  · rcases Results.put_ok s c br.results hput with rfl | ⟨_, rfl⟩ <;> simp

theorem step_find? (h : p.step br r c a s = .ok (p', s', e)) {k : String}
    (hk : hasPrefix (r ++ ":") k = false) (hg : k ≠ Results.generationKey r)
    (hkey : p.key? ≠ some k) : s'.find? k = s.find? k := by
  rcases step_cases h with ⟨-, rfl⟩ | ⟨_, _, -, -, -, rfl, -⟩ | ⟨_, _, _, -, -, -, rfl, -⟩ |
    ⟨_, _, -, -, rfl, -⟩ | ⟨_, _, -, hn, -, -⟩ | ⟨_, _, -, hd, -, -⟩ | ⟨k', _, rfl, hput, -, -⟩
  · rfl
  · rfl
  · rfl
  · rfl
  · obtain ⟨-, -, -, -, -, rfl⟩ := Results.incr_generationKey_eq_ok s c r hn
    simp [Store.find?_put, hg]
  · rw [Store.deletePrefix_eq_ok s hd, Store.find?_dropPrefix, hk]
    rfl
  · have hne : k ≠ k' := fun heq => hkey (heq ▸ rfl)
    rcases Results.put_ok s c br.results hput with rfl | ⟨_, rfl⟩
    · rfl
    · simp [Store.find?_put, hne]

end Produce

end Concurrent

end Relay
