import Mathlib.Logic.Function.Basic
import Relay.Proofs.Producing
/-!
# Generations hide stale reads

Reads and changes of one resource share a store and interleave at every call of the store
and of the operation (`Produce.step`). A change counts the resource's generation up before it
deletes the resource's entries, and a read stores its data under the generation it read
before calling the operation. The main statement, `hit_after_bump_is_fresh`: a read that
starts after a change counted the generation up finds only data that some read stored under
the generation it read itself, and every read that stored there called the operation after
the change counted. A read that computed its data before the change and stores it after the
eviction lands under an older generation, which no later read looks at.

This holds when the counter is not among the resource's own entries. For a resource named
`cache-gen` the counter `cache-gen:cache-gen` starts with `cache-gen:`, so the change's
eviction deletes the counter too, the generation falls back to zero, and a late store under
generation zero is found again.
-/
namespace Relay.Concurrent

open Cache

structure Turn (ι : Type) where
  who : ι
  clock : Clock
  answer : Except Failure Json

structure Pool (ι : Type) where
  store : Store
  stage : ι → Option Produce
  notes : List (ι × Event)

namespace Pool

variable {ι : Type} [DecidableEq ι] (br : Bridge) (r : String)

def step (w : Pool ι) (t : Turn ι) : Pool ι :=
  match w.stage t.who with
  | none => w
  | some p =>
    match p.step br r t.clock t.answer w.store with
    | .ok (p', s', e) =>
      ⟨s', Function.update w.stage t.who (some p'), w.notes ++ (e.map (t.who, ·)).toList⟩
    | .error _ => { w with stage := Function.update w.stage t.who none }

def run (w : Pool ι) (ts : List (Turn ι)) : Pool ι := ts.foldl (step br r) w

def Noted (w : Pool ι) (u : Nat) (i : ι) (x : Event) : Prop := w.notes[u]? = some (i, x)

/-- Where a pool starts: each production a read or a change not yet begun, no note, nothing
cached for the resource, and a counter, if there is one, that never expires. -/
structure Start (w : Pool ι) : Prop where
  begins : ∀ i p, w.stage i = some p → (∃ shape, p = .read shape) ∨ p = .change
  quiet : w.notes = []
  uncached : ∀ k, hasPrefix (r ++ ":") k = true → w.store.find? k = none
  lasting : ∀ e, w.store.find? (Results.generationKey r) = some e → e.expiresAt = none

variable {br r}

theorem step_cases (w : Pool ι) (t : Turn ι) :
    w.stage t.who = none ∧ w.step br r t = w ∨
    (w.step br r t).store = w.store ∧ (w.step br r t).notes = w.notes ∧
      (w.step br r t).stage = Function.update w.stage t.who none ∨
    ∃ p p' s' e, w.stage t.who = some p ∧ p.step br r t.clock t.answer w.store = .ok (p', s', e) ∧
      (w.step br r t).store = s' ∧ (w.step br r t).stage = Function.update w.stage t.who (some p') ∧
      (w.step br r t).notes = w.notes ++ (e.map (t.who, ·)).toList := by
  unfold step
  split
  · rename_i hn
    exact .inl ⟨hn, rfl⟩
  · rename_i p hp
    split
    · rename_i p' s' e hs
      exact .inr (.inr ⟨p, p', s', e, hp, hs, rfl, rfl, rfl⟩)
    · exact .inr (.inl ⟨rfl, rfl, rfl⟩)

theorem getElem?_snoc {α : Type} {l : List α} {a y : α} {u : Nat} (h : (l ++ [a])[u]? = some y) :
    l[u]? = some y ∨ (u = l.length ∧ y = a) := by
  by_cases hu : u < l.length
  · rw [List.getElem?_append_left hu] at h
    exact .inl h
  · rw [List.getElem?_append_right (by omega)] at h
    have hz : u - l.length = 0 := by
      cases hl : u - l.length with
      | zero => rfl
      | succ j => simp [hl] at h
    simp only [hz, List.getElem?_cons_zero, Option.some.injEq] at h
    exact .inr ⟨by omega, h.symm⟩

omit [DecidableEq ι] in
theorem Noted.lt_length {w : Pool ι} {u : Nat} {i : ι} {x : Event} (h : w.Noted u i x) :
    u < w.notes.length :=
  (List.getElem?_eq_some_iff.mp h).1

theorem Noted.step {w : Pool ι} {t : Turn ι} {u : Nat} {i : ι} {x : Event} (h : w.Noted u i x) :
    (w.step br r t).Noted u i x := by
  have hu := h.lt_length
  unfold Noted at h ⊢
  rcases step_cases w t with ⟨-, he⟩ | ⟨-, he, -⟩ | ⟨_, _, _, _, -, -, -, -, he⟩
  · rw [he]; exact h
  · rw [he]; exact h
  · rw [he, List.getElem?_append_left hu]
    exact h

theorem noted_step {w : Pool ι} {t : Turn ι} {u : Nat} {i : ι} {x : Event}
    (h : (w.step br r t).Noted u i x) : w.Noted u i x ∨
      ∃ p p' s', u = w.notes.length ∧ i = t.who ∧ w.stage t.who = some p ∧
        p.step br r t.clock t.answer w.store = .ok (p', s', some x) ∧
        (w.step br r t).store = s' ∧
        (w.step br r t).stage = Function.update w.stage t.who (some p') := by
  unfold Noted at h ⊢
  rcases step_cases w t with ⟨-, he⟩ | ⟨-, he, -⟩ | ⟨p, p', s', e, hp, hs, hst, hsg, he⟩
  · rw [he] at h; exact .inl h
  · rw [he] at h; exact .inl h
  · rw [he] at h
    cases e with
    | none => simp only [Option.map_none, Option.toList_none, List.append_nil] at h; exact .inl h
    | some x' =>
      simp only [Option.map_some, Option.toList_some] at h
      rcases getElem?_snoc h with h | ⟨rfl, he'⟩
      · exact .inl h
      · obtain ⟨rfl, rfl⟩ := Prod.mk.inj he'
        exact .inr ⟨p, p', s', rfl, rfl, hp, hs, hst, hsg⟩

theorem step_stage_other {w : Pool ι} {t : Turn ι} {i : ι} (hi : i ≠ t.who) :
    (w.step br r t).stage i = w.stage i := by
  rcases step_cases w t with ⟨-, he⟩ | ⟨-, -, he⟩ | ⟨_, _, _, _, -, -, -, he, -⟩
  · rw [he]
  all_goals rw [he, Function.update_of_ne hi]

theorem step_stage_self {w : Pool ι} {t : Turn ι} {p' : Produce}
    (h : (w.step br r t).stage t.who = some p') :
    ∃ p s' e, w.stage t.who = some p ∧ p.step br r t.clock t.answer w.store = .ok (p', s', e) ∧
      (w.step br r t).store = s' ∧
      (w.step br r t).notes = w.notes ++ (e.map (t.who, ·)).toList := by
  rcases step_cases w t with ⟨hn, he⟩ | ⟨-, -, he⟩ | ⟨p, p'', s', e, hp, hs, hst, hsg, hn⟩
  · rw [he, hn] at h
    cases h
  · rw [he, Function.update_self] at h
    cases h
  · rw [hsg, Function.update_self] at h
    cases h
    exact ⟨p, s', e, hp, hs, hst, hn⟩

variable (r) in
structure Inv (w : Pool ι) : Prop where
  counted : ∃ G, (∀ c, Results.generation w.store c r = G) ∧
    (∀ u m n, w.Noted u m (.bumped n) → ∃ N, G = some N ∧ n ≤ N) ∧
    (∀ q i g, w.Noted q i (.read g) → ∃ N, G = some N ∧ g ≤ N)
  fits : ∀ q i g, w.Noted q i (.read g) → fitsInt64 g = true
  order : ∀ u q m i n g, w.Noted u m (.bumped n) → w.Noted q i (.read g) → (u < q ↔ n ≤ g)
  entries : ∀ k e, w.store.find? k = some e → hasPrefix (r ++ ":") k = true →
    ∃ u j, w.Noted u j (.stored k e.value)
  unborn : ∀ i shape, w.stage i = some (.generation shape) →
    ∀ u j x, w.Noted u j x → j ≠ i
  probing : ∀ i g shape, w.stage i = some (.probe g shape) → ∃ q, w.Noted q i (.read g)
  keyed : ∀ i p k, w.stage i = some p → p.key? = some k →
    ∃ q g shape, w.Noted q i (.read g) ∧ k = Results.entryKey r g shape
  readOnce : ∀ q q' i g g', w.Noted q i (.read g) → w.Noted q' i (.read g') → q = q'
  readFirst : ∀ q u i g, w.Noted q i (.read g) → w.Noted u i .invoked → q < u
  storedFrom : ∀ u j k text, w.Noted u j (.stored k text) →
    ∃ q g shape, w.Noted q j (.read g) ∧ k = Results.entryKey r g shape
  hitFrom : ∀ t i k v, w.Noted t i (.hit k v) →
    (∃ q g shape, w.Noted q i (.read g) ∧ k = Results.entryKey r g shape) ∧
    ∃ u j text, u < t ∧ w.Noted u j (.stored k text) ∧ Json.parseText text = .ok v

omit [DecidableEq ι] in
theorem Noted.unique {w : Pool ι} {u : Nat} {i j : ι} {x y : Event} (h : w.Noted u i x)
    (h' : w.Noted u j y) : i = j ∧ x = y := by
  unfold Noted at h h'
  rw [h] at h'
  exact Prod.mk.inj (Option.some.inj h')

theorem noted_step_event {w : Pool ι} {t : Turn ι} {p p' : Produce} {s' : Store} {x : Option Event}
    (hp : w.stage t.who = some p) (hst : p.step br r t.clock t.answer w.store = .ok (p', s', x))
    {u : Nat} {i : ι} {y : Event} (h : (w.step br r t).Noted u i y) :
    w.Noted u i y ∨ (i = t.who ∧ x = some y) := by
  rcases noted_step h with h | ⟨p₂, _, _, -, rfl, hp₂, hs₂, -⟩
  · exact .inl h
  · rw [hp] at hp₂
    cases hp₂
    rw [hst] at hs₂
    cases hs₂
    exact .inr ⟨rfl, rfl⟩

variable (br r) in
theorem store_step (w : Pool ι) (t : Turn ι) :
    (w.step br r t).store = w.store ∧
      (∀ u m n, (w.step br r t).Noted u m (.bumped n) → w.Noted u m (.bumped n)) ∨
    ∃ p p' s' x, w.stage t.who = some p ∧
      p.step br r t.clock t.answer w.store = .ok (p', s', some x) ∧ (w.step br r t).store = s' ∧
      (w.step br r t).notes = w.notes ++ [(t.who, x)] ∧
      ((∃ n, x = .bumped n) ∨ x = .evicted ∨ ∃ k text, x = .stored k text) := by
  rcases step_cases w t with ⟨-, hs⟩ | ⟨hs, hn, -⟩ | ⟨p, p', s', e, hp, hst, hs, -, hn⟩
  · refine .inl ⟨by rw [hs], fun u m n h => ?_⟩
    rw [hs] at h
    exact h
  · refine .inl ⟨hs, fun u m n h => ?_⟩
    unfold Noted at h ⊢
    rw [hn] at h
    exact h
  · -- the steps that only read: their note, if any, is no count
    have quiet (hx : ∀ n, e ≠ some (.bumped n)) (he : s' = w.store) :
        (w.step br r t).store = w.store ∧
          ∀ u m n, (w.step br r t).Noted u m (.bumped n) → w.Noted u m (.bumped n) := by
      refine ⟨hs.trans he, fun u m n h => ?_⟩
      rcases noted_step_event hp hst h with h | ⟨-, he'⟩
      · exact h
      · exact absurd he' (hx n)
    cases e with
    | none => exact .inl (quiet (fun _ h => by cases h) (Produce.step_silent hst))
    | some x =>
      cases x with
      | read g =>
        obtain ⟨_, -, -, -, he⟩ := Produce.step_read hst
        exact .inl (quiet (fun _ h => by cases h) he)
      | hit k v =>
        obtain ⟨_, _, -, -, -, he⟩ := Produce.step_hit hst
        exact .inl (quiet (fun _ h => by cases h) he)
      | invoked =>
        obtain ⟨_, _, -, he⟩ := Produce.step_invoked hst
        exact .inl (quiet (fun _ h => by cases h) he)
      | bumped n => exact .inr ⟨p, p', s', _, hp, hst, hs, hn, .inl ⟨n, rfl⟩⟩
      | evicted => exact .inr ⟨p, p', s', _, hp, hst, hs, hn, .inr (.inl rfl)⟩
      | stored k text => exact .inr ⟨p, p', s', _, hp, hst, hs, hn, .inr (.inr ⟨k, text, rfl⟩)⟩

section Preserved

variable {w : Pool ι} {t : Turn ι} (hw : w.Inv r)
include hw

theorem unborn_step : ∀ i shape, (w.step br r t).stage i = some (.generation shape) →
    ∀ u j x, (w.step br r t).Noted u j x → j ≠ i := by
  intro i shape hi u j x hn
  by_cases hit : i = t.who
  · subst hit
    obtain ⟨p, s', e, -, hs, -, -⟩ := step_stage_self hi
    exact absurd rfl (Produce.step_ne_generation hs shape)
  · rw [step_stage_other hit] at hi
    rcases noted_step hn with hn | ⟨_, _, _, -, rfl, -⟩
    · exact hw.unborn i shape hi u j x hn
    · exact Ne.symm hit

theorem probing_step : ∀ i g shape, (w.step br r t).stage i = some (.probe g shape) →
    ∃ q, (w.step br r t).Noted q i (.read g) := by
  intro i g shape hi
  by_cases hit : i = t.who
  · subst hit
    obtain ⟨p, s', e, hp, hs, -, hn⟩ := step_stage_self hi
    obtain ⟨-, rfl⟩ := Produce.step_probe hs rfl
    exact ⟨w.notes.length, by simp [Noted, hn]⟩
  · rw [step_stage_other hit] at hi
    obtain ⟨q, hq⟩ := hw.probing i g shape hi
    exact ⟨q, hq.step⟩

theorem keyed_step : ∀ i p k, (w.step br r t).stage i = some p → p.key? = some k →
    ∃ q g shape, (w.step br r t).Noted q i (.read g) ∧ k = Results.entryKey r g shape := by
  intro i p' k hi hk
  by_cases hit : i = t.who
  · subst hit
    obtain ⟨p, s', e, hp, hs, -, -⟩ := step_stage_self hi
    rcases Produce.step_key? hs hk with hk | ⟨g, shape, rfl, rfl⟩
    · obtain ⟨q, g, shape, hq, rfl⟩ := hw.keyed _ p k hp hk
      exact ⟨q, g, shape, hq.step, rfl⟩
    · obtain ⟨q, hq⟩ := hw.probing _ g shape hp
      exact ⟨q, g, shape, hq.step, rfl⟩
  · rw [step_stage_other hit] at hi
    obtain ⟨q, g, shape, hq, rfl⟩ := hw.keyed i p' k hi hk
    exact ⟨q, g, shape, hq.step, rfl⟩

theorem readOnce_step : ∀ q q' i g g', (w.step br r t).Noted q i (.read g) →
    (w.step br r t).Noted q' i (.read g') → q = q' := by
  intro q q' i g g' hq hq'
  rcases noted_step hq with hq | ⟨p, _, _, rfl, rfl, hp, hs, -⟩ <;>
    rcases noted_step hq' with hq' | ⟨p', _, _, rfl, hi, hp', hs', -⟩
  · exact hw.readOnce q q' i g g' hq hq'
  · -- a first read, while the reader had noted nothing yet
    obtain ⟨shape, rfl, -⟩ := Produce.step_read hs'
    exact absurd hi (hw.unborn _ shape hp' q i _ hq)
  · obtain ⟨shape, rfl, -⟩ := Produce.step_read hs
    exact absurd rfl (hw.unborn _ shape hp q' _ _ hq')
  · rfl

theorem readFirst_step : ∀ q u i g, (w.step br r t).Noted q i (.read g) →
    (w.step br r t).Noted u i .invoked → q < u := by
  intro q u i g hq hu
  rcases noted_step hu with hu | ⟨p, _, _, rfl, rfl, hp, hs, -⟩
  · rcases noted_step hq with hq | ⟨p', _, _, rfl, rfl, hp', hs', -⟩
    · exact hw.readFirst q u i g hq hu
    · obtain ⟨shape, rfl, -⟩ := Produce.step_read hs'
      exact absurd rfl (hw.unborn _ shape hp' u _ _ hu)
  · rcases noted_step hq with hq | ⟨_, _, _, rfl, -, hp', hs', -⟩
    · exact hq.lt_length
    · rw [hp] at hp'
      cases hp'
      rw [hs] at hs'
      cases hs'

theorem storedFrom_step : ∀ u j k text, (w.step br r t).Noted u j (.stored k text) →
    ∃ q g shape, (w.step br r t).Noted q j (.read g) ∧ k = Results.entryKey r g shape := by
  intro u j k text hu
  rcases noted_step hu with hu | ⟨p, _, _, rfl, rfl, hp, hs, -⟩
  · obtain ⟨q, g, shape, hq, rfl⟩ := hw.storedFrom u j k text hu
    exact ⟨q, g, shape, hq.step, rfl⟩
  · obtain ⟨data, rfl, -, -⟩ := Produce.step_stored hs
    obtain ⟨q, g, shape, hq, rfl⟩ := hw.keyed _ _ k hp rfl
    exact ⟨q, g, shape, hq.step, rfl⟩

theorem fits_step : ∀ q i g, (w.step br r t).Noted q i (.read g) → fitsInt64 g = true := by
  intro q i g hq
  rcases noted_step hq with hq | ⟨p, _, _, -, -, -, hs, -⟩
  · exact hw.fits q i g hq
  · obtain ⟨-, -, hg, -⟩ := Produce.step_read hs
    exact Results.generation_fits _ _ _ hg

theorem hitFrom_step : ∀ x i k v, (w.step br r t).Noted x i (.hit k v) →
      (∃ q g shape, (w.step br r t).Noted q i (.read g) ∧ k = Results.entryKey r g shape) ∧
      ∃ u j text, u < x ∧ (w.step br r t).Noted u j (.stored k text) ∧
        Json.parseText text = .ok v := by
  intro x i k v hx
  rcases noted_step hx with hx | ⟨p, _, _, rfl, rfl, hp, hs, -⟩
  · obtain ⟨⟨q, g, shape, hq, hk⟩, u, j, text, hux, hu, hv⟩ := hw.hitFrom x i k v hx
    exact ⟨⟨q, g, shape, hq.step, hk⟩, u, j, text, hux, hu.step, hv⟩
  · -- the entry found was stored before, by the invariant on entries
    obtain ⟨g, shape, rfl, hprobe, rfl, -⟩ := Produce.step_hit hs
    obtain ⟨q, hq⟩ := hw.probing _ g shape hp
    obtain ⟨e, he, -, hv⟩ := Results.probe_hit _ _ _ hprobe
    obtain ⟨u, j, hu⟩ := hw.entries _ e he (Results.hasPrefix_entryKey r shape g)
    exact ⟨⟨q, g, shape, hq.step, rfl⟩, u, j, e.value, hu.lt_length, hu.step, hv⟩

theorem entries_step (hr : hasPrefix (r ++ ":") (Results.generationKey r) = false) :
    ∀ k e, (w.step br r t).store.find? k = some e → hasPrefix (r ++ ":") k = true →
      ∃ u j, (w.step br r t).Noted u j (.stored k e.value) := by
  intro k e he hk
  have old (h : w.store.find? k = some e) : ∃ u j, (w.step br r t).Noted u j (.stored k e.value) :=
    let ⟨u, j, hu⟩ := hw.entries k e h hk
    ⟨u, j, hu.step⟩
  rcases store_step br r w t with ⟨hs, -⟩ | ⟨p, p', s', x, hp, hst, hs, hn, hx⟩
  · rw [hs] at he
    exact old he
  · rw [hs] at he
    rcases hx with ⟨n, rfl⟩ | rfl | ⟨k', text, rfl⟩
    · -- a count writes the counter, which is none of the resource's entries
      obtain ⟨_, -, hinc⟩ := Produce.step_bumped hst
      obtain ⟨-, -, -, -, -, rfl⟩ := Results.incr_generationKey_eq_ok _ _ _ hinc
      have hne : k ≠ Results.generationKey r := by
        rintro rfl
        rw [hr] at hk
        cases hk
      rw [Store.find?_put, if_neg hne] at he
      exact old he
    · rw [Produce.step_evicted hst, Store.find?_dropPrefix, hk] at he
      cases he
    · obtain ⟨data, rfl, rfl, hput⟩ := Produce.step_stored hst
      rcases Results.put_ok _ _ _ hput with rfl | ⟨_, rfl⟩
      · exact old he
      · rw [Store.find?_put] at he
        split at he
        · rename_i hkk
          cases he
          subst hkk
          exact ⟨w.notes.length, t.who, by simp [Noted, hn]⟩
        · exact old he

theorem counted_step (hr : hasPrefix (r ++ ":") (Results.generationKey r) = false) :
    ∃ G, (∀ c, Results.generation (w.step br r t).store c r = G) ∧
      (∀ u m n, (w.step br r t).Noted u m (.bumped n) → ∃ N, G = some N ∧ n ≤ N) ∧
      (∀ q i g, (w.step br r t).Noted q i (.read g) → ∃ N, G = some N ∧ g ≤ N) := by
  obtain ⟨G, hG, hb, hrd⟩ := hw.counted
  -- a read noted in this turn saw the generation as it stood
  have reads : ∀ q i g, (w.step br r t).Noted q i (.read g) → ∃ N, G = some N ∧ g ≤ N := by
    intro q i g hq
    rcases noted_step hq with hq | ⟨p, _, _, -, -, -, hs, -⟩
    · exact hrd q i g hq
    · obtain ⟨-, -, hg, -⟩ := Produce.step_read hs
      exact ⟨g, (hG _).symm.trans hg, Int.le_refl g⟩
  -- a turn that writes no count leaves the generation as it was
  have same (hs : ∀ c, Results.generation (w.step br r t).store c r = G)
      (hn : ∀ u m n, (w.step br r t).Noted u m (.bumped n) → w.Noted u m (.bumped n)) :
      ∃ G, (∀ c, Results.generation (w.step br r t).store c r = G) ∧
        (∀ u m n, (w.step br r t).Noted u m (.bumped n) → ∃ N, G = some N ∧ n ≤ N) ∧
        (∀ q i g, (w.step br r t).Noted q i (.read g) → ∃ N, G = some N ∧ g ≤ N) :=
    ⟨G, hs, fun u m n h => hb u m n (hn u m n h), reads⟩
  rcases store_step br r w t with ⟨hs, hn⟩ | ⟨p, p', s', x, hp, hst, hs, -, hx⟩
  · exact same (fun c => by rw [hs, hG]) hn
  · have noCount (hx : ∀ n, x ≠ .bumped n) :
        ∀ u m n, (w.step br r t).Noted u m (.bumped n) → w.Noted u m (.bumped n) := by
      intro u m n h
      rcases noted_step_event hp hst h with h | ⟨-, he⟩
      · exact h
      · exact absurd (Option.some.inj he) (hx n)
    rcases hx with ⟨n, rfl⟩ | rfl | ⟨k, text, rfl⟩
    · obtain ⟨_, -, hinc⟩ := Produce.step_bumped hst
      obtain ⟨ha, m, hm, hmax, rfl, rfl⟩ := Results.incr_generationKey_eq_ok _ _ _ hinc
      have hGm : G = some m := (hG _).symm.trans hm
      have hfit : fitsInt64 (m + 1) = true := by
        have := Results.generation_fits _ _ _ hm
        simp only [fitsInt64, Bool.and_eq_true, decide_eq_true_eq] at this ⊢
        omega
      refine ⟨some (m + 1), fun c => by rw [hs]; exact Results.generation_counter _ c r ha _ hfit,
        fun u m' n h => ?_, fun q i g h => ?_⟩
      · rcases noted_step_event hp hst h with h | ⟨-, he⟩
        · obtain ⟨N, hN, hnN⟩ := hb u m' n h
          rw [hGm] at hN
          cases hN
          exact ⟨m + 1, rfl, by omega⟩
        · cases he
          exact ⟨m + 1, rfl, Int.le_refl _⟩
      · obtain ⟨N, hN, hgN⟩ := reads q i g h
        rw [hGm] at hN
        cases hN
        exact ⟨m + 1, rfl, by omega⟩
    · refine same (fun c => ?_) (noCount fun _ h => by cases h)
      rw [hs, Produce.step_evicted hst, ← hG c]
      exact Results.generation_congr _ _ _ rfl (by rw [Store.find?_dropPrefix, hr]; rfl)
    · refine same (fun c => ?_) (noCount fun _ h => by cases h)
      obtain ⟨data, rfl, -, hput⟩ := Produce.step_stored hst
      obtain ⟨q, g, shape, -, rfl⟩ := hw.keyed _ _ _ hp rfl
      have hne : Results.generationKey r ≠ Results.entryKey r g shape :=
        fun h => by rw [h, Results.hasPrefix_entryKey] at hr; cases hr
      rw [hs, ← hG c]
      rcases Results.put_ok _ _ _ hput with rfl | ⟨_, rfl⟩
      · rfl
      · exact Results.generation_congr _ _ _ (by simp) (by rw [Store.find?_put, if_neg hne])

theorem order_step : ∀ u q m i n g, (w.step br r t).Noted u m (.bumped n) →
    (w.step br r t).Noted q i (.read g) → (u < q ↔ n ≤ g) := by
  intro u q m i n g hu hq
  obtain ⟨G, hG, hb, hrd⟩ := hw.counted
  rcases noted_step hu with hu | ⟨p, _, _, rfl, rfl, hp, hs, -⟩ <;>
    rcases noted_step hq with hq | ⟨p', _, _, rfl, rfl, hp', hs', -⟩
  · exact hw.order u q m i n g hu hq
  · -- a read now sees every count before it
    obtain ⟨-, -, hg, -⟩ := Produce.step_read hs'
    obtain ⟨N, hN, hnN⟩ := hb u m n hu
    rw [← hG t.clock, hg] at hN
    cases hN
    exact ⟨fun _ => hnN, fun _ => hu.lt_length⟩
  · -- a count now is above every read before it
    obtain ⟨_, -, hinc⟩ := Produce.step_bumped hs
    obtain ⟨-, m', hm', -, rfl, -⟩ := Results.incr_generationKey_eq_ok _ _ _ hinc
    obtain ⟨N, hN, hgN⟩ := hrd q i g hq
    rw [← hG t.clock, hm'] at hN
    cases hN
    have := hq.lt_length
    constructor <;> intro h <;> omega
  · rw [hp] at hp'
    cases hp'
    rw [hs] at hs'
    cases hs'

end Preserved

theorem Inv.step (hr : hasPrefix (r ++ ":") (Results.generationKey r) = false) {w : Pool ι}
    (hw : w.Inv r) (t : Turn ι) : (w.step br r t).Inv r where
  counted := counted_step hw hr
  fits := fits_step hw
  order := order_step hw
  entries := entries_step hw hr
  unborn := unborn_step hw
  probing := probing_step hw
  keyed := keyed_step hw
  readOnce := readOnce_step hw
  readFirst := readFirst_step hw
  storedFrom := storedFrom_step hw
  hitFrom := hitFrom_step hw

theorem Inv.run (hr : hasPrefix (r ++ ":") (Results.generationKey r) = false) {w : Pool ι}
    (hw : w.Inv r) (ts : List (Turn ι)) : (w.run br r ts).Inv r := by
  induction ts generalizing w with
  | nil => exact hw
  | cons t ts ih => exact ih (hw.step hr t)

omit [DecidableEq ι] in
theorem Start.inv {w : Pool ι} (h : w.Start r) : w.Inv r := by
  have silent : ∀ u i x, ¬ w.Noted u i x := fun u i x hn => by
    have := hn.lt_length
    rw [h.quiet] at this
    cases this
  refine {
    counted := ⟨_, fun c => Results.generation_lasting _ c r h.lasting default,
      fun u m n hn => absurd hn (silent _ _ _), fun q i g hn => absurd hn (silent _ _ _)⟩
    fits := fun q i g hn => absurd hn (silent _ _ _)
    order := fun u q m i n g hn => absurd hn (silent _ _ _)
    entries := fun k e he hk => absurd (h.uncached k hk ▸ he) (by simp)
    unborn := fun i shape _ u j x hn => absurd hn (silent _ _ _)
    probing := fun i g shape hi => ?_
    keyed := fun i p k hi hk => ?_
    readOnce := fun q q' i g g' hn => absurd hn (silent _ _ _)
    readFirst := fun q u i g hn => absurd hn (silent _ _ _)
    storedFrom := fun u j k text hn => absurd hn (silent _ _ _)
    hitFrom := fun t i k v hn => absurd hn (silent _ _ _) }
  · rcases h.begins i _ hi with ⟨_, h⟩ | h <;> cases h
  · rcases h.begins i p hi with ⟨_, rfl⟩ | rfl <;> cases hk

/-- A read that began after a change counted its resource's generation up to `n` finds only
data stored under the generation it read, by a read that read that generation too; and every
read that stores there called the operation after the count. So a value computed before the
count is never found after it. -/
theorem hit_after_invalidate_is_fresh
    (hr : hasPrefix (r ++ ":") (Results.generationKey r) = false) {w₀ : Pool ι} (h₀ : w₀.Start r)
    (ts : List (Turn ι)) {u q x : Nat} {m i : ι} {n g : Int} {k : String} {v : Json}
    (hb : (w₀.run br r ts).Noted u m (.bumped n)) (hq : (w₀.run br r ts).Noted q i (.read g))
    (huq : u < q) (hx : (w₀.run br r ts).Noted x i (.hit k v)) :
    (∃ y j text, y < x ∧ (w₀.run br r ts).Noted y j (.stored k text) ∧
      Json.parseText text = .ok v ∧ ∃ q', (w₀.run br r ts).Noted q' j (.read g)) ∧
    ∀ j y text, (w₀.run br r ts).Noted y j (.stored k text) →
      ∀ z, (w₀.run br r ts).Noted z j .invoked → u < z := by
  have hw : (w₀.run br r ts).Inv r := h₀.inv.run hr ts
  obtain ⟨⟨q₀, g₀, shape, hq₀, rfl⟩, y, j, text, hyx, hy, hv⟩ := hw.hitFrom x i k v hx
  obtain rfl := hw.readOnce q₀ q i g₀ g hq₀ hq
  obtain ⟨-, he⟩ := hq₀.unique hq
  cases he
  -- whoever stores under the key read its generation
  have writers : ∀ j y text, (w₀.run br r ts).Noted y j (.stored (Results.entryKey r g shape) text) →
      ∃ q', (w₀.run br r ts).Noted q' j (.read g) := by
    intro j y text hy
    obtain ⟨q', g', shape', hq', hk⟩ := hw.storedFrom y j _ text hy
    obtain ⟨rfl, -⟩ := Results.entryKey_inj (hw.fits _ _ _ hq') (hw.fits _ _ _ hq₀) hk.symm
    exact ⟨q', hq'⟩
  refine ⟨⟨y, j, text, hyx, hy, hv, writers j y text hy⟩, fun j' y' text' hy' z hz => ?_⟩
  obtain ⟨q', hq'⟩ := writers j' y' text' hy'
  have hng : n ≤ g := (hw.order u q₀ m i n g hb hq₀).mp huq
  have huq' : u < q' := (hw.order u q' m j' n g hb hq').mpr hng
  have hqz : q' < z := hw.readFirst q' z j' g hq' hz
  omega

def sample : Pool Nat := ⟨{}, fun i => if i = 0 then some .change else some (.read "get-all"), []⟩

def sampleRun : Pool Nat :=
  sample.run (Bridge.ofSettings { consumerId := "worker" }) "player"
    ([0, 0, 0, 0, 1, 1, 1, 1, 1, 2, 2].map fun i =>
      ⟨i, ⟨0, ⟨0⟩⟩, if i = 1 then .ok (.str "a") else .ok .null⟩)

theorem hit_after_invalidate_sample :
    hasPrefix ("player" ++ ":") (Results.generationKey "player") = false ∧ sample.Start "player" ∧
    sampleRun.Noted 1 0 (.bumped 1) ∧ sampleRun.Noted 6 2 (.read 1) ∧
    sampleRun.Noted 7 2 (.hit (Results.entryKey "player" 1 "get-all") (.str "a")) ∧
    ((∃ y j text, y < 7 ∧ sampleRun.Noted y j (.stored (Results.entryKey "player" 1 "get-all") text) ∧
      Json.parseText text = .ok (.str "a") ∧ ∃ q', sampleRun.Noted q' j (.read 1)) ∧
    ∀ j y text, sampleRun.Noted y j (.stored (Results.entryKey "player" 1 "get-all") text) →
      ∀ z, sampleRun.Noted z j .invoked → 1 < z) := by
  have hr : hasPrefix ("player" ++ ":") (Results.generationKey "player") = false := by decide
  have h₀ : sample.Start "player" := by
    refine ⟨fun i p h => ?_, rfl, fun k _ => rfl, fun e h => by cases h⟩
    by_cases hi : i = 0
    · simp only [sample, hi, if_true, Option.some.injEq] at h
      exact .inr h.symm
    · simp only [sample, hi, if_false, Option.some.injEq] at h
      exact .inl ⟨_, h.symm⟩
  have hb : sampleRun.Noted 1 0 (.bumped 1) := by unfold Noted; with_unfolding_all rfl
  have hq : sampleRun.Noted 6 2 (.read 1) := by unfold Noted; with_unfolding_all rfl
  have hx : sampleRun.Noted 7 2 (.hit (Results.entryKey "player" 1 "get-all") (.str "a")) := by
    unfold Noted; with_unfolding_all rfl
  exact ⟨hr, h₀, hb, hq, hx, hit_after_invalidate_is_fresh hr h₀ _ hb hq (by decide) hx⟩

def staleRun : Pool Nat :=
  sample.run (Bridge.ofSettings { consumerId := "worker" }) "cache-gen"
    ([1, 1, 1, 0, 0, 0, 0, 1, 1, 2, 2].map fun i =>
      ⟨i, ⟨0, ⟨0⟩⟩, if i = 1 then .ok (.str "stale") else .ok .null⟩)

theorem stale_hit_when_counter_is_an_entry :
    hasPrefix ("cache-gen" ++ ":") (Results.generationKey "cache-gen") = true ∧
    staleRun.Noted 3 0 (.bumped 1) ∧ staleRun.Noted 6 2 (.read 0) ∧
    staleRun.Noted 7 2 (.hit (Results.entryKey "cache-gen" 0 "get-all") (.str "stale")) ∧
    staleRun.Noted 5 1 (.stored (Results.entryKey "cache-gen" 0 "get-all") (Json.write (.str "stale"))) ∧
    staleRun.Noted 1 1 .invoked := by
  refine ⟨by decide, ?_, ?_, ?_, ?_, ?_⟩ <;> (unfold Noted; with_unfolding_all rfl)

end Pool

end Relay.Concurrent
