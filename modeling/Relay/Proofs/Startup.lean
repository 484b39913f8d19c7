import Mathlib
import Relay.Worker
/-!
# Starting a worker in waves

A worker with consumers switched off starts nothing. Otherwise it refuses to start, blaming the
first resource without a backend, when there is one; and else it carries out the launch plan of
the settings (`Worker.plan`): the waves in their order, reads first, and in each wave that has
subscriptions a pause of the wave delay first, unless the wave is the reads or the delay is zero,
then the wave's subscriptions in their order. During a pause the loops already started run.

The subscriptions are so started in the stable partition of the settings' subscriptions by wave
(`Wave.partition`): every subscription once, the waves in their order, and within a wave the
subscriptions in the order the settings list them.
-/
namespace Relay

open Subscription

namespace Wave

def rank : Wave → Nat
  | .reads => 0
  | .writes => 1
  | .existenceChecks => 2

def partition (l : List Config) : List Config :=
  all.flatMap fun wv => l.filter (·.verb.wave == wv)

theorem filter_filter_wave (l : List Config) (wv wv' : Wave) :
    (l.filter (·.verb.wave == wv')).filter (·.verb.wave == wv) =
      if wv' = wv then l.filter (·.verb.wave == wv) else [] := by
  rw [List.filter_filter]
  split
  · next h =>
    subst h
    congr 1
    funext c
    simp
  · next h =>
    rw [List.filter_eq_nil_iff]
    intro c _
    simp only [Bool.and_eq_true, beq_iff_eq, not_and]
    intro hc hc'
    exact h (hc'.symm.trans hc)

theorem mem_filter_wave {l : List Config} {wv : Wave} {c : Config}
    (h : c ∈ l.filter (·.verb.wave == wv)) : c.verb.wave = wv := by
  simpa using (List.mem_filter.mp h).2

theorem count_filter_wave (l : List Config) (c : Config) (wv : Wave) :
    (l.filter (·.verb.wave == wv)).count c = if c.verb.wave = wv then l.count c else 0 := by
  split
  · next h => exact List.count_filter (by simpa using h)
  · next h => exact List.count_eq_zero_of_not_mem fun hm => h (mem_filter_wave hm)

theorem filter_partition (l : List Config) (wv : Wave) :
    (partition l).filter (·.verb.wave == wv) = l.filter (·.verb.wave == wv) := by
  simp only [partition, all, List.flatMap_cons, List.flatMap_nil, List.append_nil,
    List.filter_append, filter_filter_wave]
  cases wv <;> simp

theorem partition_sorted (l : List Config) :
    (partition l).Pairwise (fun a b => a.verb.wave.rank ≤ b.verb.wave.rank) := by
  unfold partition
  rw [List.pairwise_flatMap]
  constructor
  · -- within one wave every rank is the same
    intro wv _
    apply List.pairwise_of_forall_mem_list
    intro a ha b hb
    rw [mem_filter_wave ha, mem_filter_wave hb]
  · have hall : all.Pairwise (fun a b => a.rank ≤ b.rank) := by decide
    refine hall.imp ?_
    intro a b hab x hx y hy
    rw [mem_filter_wave hx, mem_filter_wave hy]
    exact hab

theorem partition_perm (l : List Config) : (partition l).Perm l := by
  rw [List.perm_iff_count]
  intro c
  cases hc : c.verb.wave <;>
    simp [partition, all, List.count_append, count_filter_wave, hc]

end Wave

namespace Worker

variable {σ : Type} [Backend σ]

inductive Launch where
  | pause (d : Span)
  | start (c : Config)

def Launch.started? : Launch → Option Config
  | .pause _ => none
  | .start c => some c

def perform (w : Worker σ) : Launch → Worker σ
  | .pause d => w.pass d
  | .start c => w.spawn c

def members (s : Settings) (wv : Wave) : List Config := s.subscriptions.filter (·.verb.wave == wv)

/-- The steps for one wave: nothing for a wave without subscriptions; else a pause of the wave
delay, unless the wave is the reads or the delay is zero, then the wave's subscriptions. -/
def wavePlan (s : Settings) (wv : Wave) : List Launch :=
  if members s wv = [] then []
  else (if wv ≠ .reads ∧ 0 < s.waveDelay.nanos then [.pause s.waveDelay] else []) ++
    (members s wv).map .start

def plan (s : Settings) : List Launch := Wave.all.flatMap (wavePlan s)

theorem foldl_start (w : Worker σ) (cs : List Config) :
    (cs.map Launch.start).foldl perform w = cs.foldl spawn w := by
  induction cs generalizing w with
  | nil => rfl
  | cons c cs ih => exact ih (w.spawn c)

theorem startWaves_cons (s : Settings) (w : Worker σ) (wv : Wave) (i : Nat)
    (rest : List (Wave × Nat)) (hi : 0 < i ↔ wv ≠ .reads) :
    startWaves s w ((wv, i) :: rest) = startWaves s ((wavePlan s wv).foldl perform w) rest := by
  have hf : s.subscriptions.filter (·.verb.wave == wv) = members s wv := rfl
  rw [startWaves, hf]
  rcases hm : members s wv with _ | ⟨c, cs⟩
  · simp [wavePlan, hm]
  · rw [wavePlan, hm, if_neg (List.cons_ne_nil c cs), List.foldl_append, foldl_start]
    simp only [hi]
    by_cases hp : wv ≠ .reads ∧ 0 < s.waveDelay.nanos
    · simp [hp, perform]
    · simp [hp]

theorem startWaves_eq_plan (s : Settings) (w : Worker σ) :
    startWaves s w Wave.all.zipIdx = (plan s).foldl perform w := by
  have hz : Wave.all.zipIdx = [(.reads, 0), (.writes, 1), (.existenceChecks, 2)] := rfl
  rw [hz, startWaves_cons _ _ _ _ _ (by simp), startWaves_cons _ _ _ _ _ (by simp),
    startWaves_cons _ _ _ _ _ (by simp), startWaves]
  simp [plan, Wave.all, List.foldl_append]

theorem plan_starts (s : Settings) :
    (plan s).filterMap Launch.started? = Wave.partition s.subscriptions := by
  simp only [plan, Wave.partition, List.filterMap_flatMap]
  congr 1
  funext wv
  unfold wavePlan
  split
  · next h => simp [members] at h ⊢; exact h
  · rw [List.filterMap_append]
    have hp : ((if wv ≠ .reads ∧ 0 < s.waveDelay.nanos then [Launch.pause s.waveDelay] else []).filterMap
        Launch.started?) = [] := by
      split <;> rfl
    rw [hp, List.nil_append, List.filterMap_map]
    simp [members, Function.comp_def, Launch.started?]

theorem startUp_unserved (w : Worker σ) (s : Settings) {serves : String → Bool} {r : String}
    (he : s.consumersEnabled = true) (hf : s.resources.find? (fun r => !serves r) = some r) :
    w.startUp s serves = .error (.config ("no operation registered for resource '" ++ r ++ "'")) := by
  simp [startUp, he, hf]

theorem startUp_served (w : Worker σ) (s : Settings) {serves : String → Bool}
    (he : s.consumersEnabled = true) (hf : s.resources.find? (fun r => !serves r) = none) :
    w.startUp s serves = .ok ((plan s).foldl perform w) := by
  simp [startUp, he, hf, startWaves_eq_plan]

/-- A worker with consumers switched off starts nothing. Otherwise it fails exactly when some
resource has no backend, blaming the first such resource, and else it carries out the launch
plan: the waves in their order, each wave with subscriptions after a pause of the wave delay
unless it is the reads or the delay is zero. The plan starts every subscription of the settings
once, the waves in their order and within a wave in the order of the settings. -/
theorem startup_staggers_waves (w : Worker σ) (s : Settings) (serves : String → Bool) :
    (s.consumersEnabled = false → w.startUp s serves = .ok w) ∧
    (s.consumersEnabled = true →
      ((∃ f, w.startUp s serves = .error f) ↔ ∃ r ∈ s.resources, serves r = false) ∧
      (∀ f, w.startUp s serves = .error f → ∃ r, s.resources.find? (fun r => !serves r) = some r ∧
        f = .config ("no operation registered for resource '" ++ r ++ "'")) ∧
      ((∀ r ∈ s.resources, serves r = true) → w.startUp s serves = .ok ((plan s).foldl perform w))) ∧
    ((plan s).filterMap Launch.started?).Perm s.subscriptions ∧
    ((plan s).filterMap Launch.started?).Pairwise (fun a b => a.verb.wave.rank ≤ b.verb.wave.rank) ∧
    (∀ wv, ((plan s).filterMap Launch.started?).filter (·.verb.wave == wv) =
      s.subscriptions.filter (·.verb.wave == wv)) := by
  rw [plan_starts]
  refine ⟨fun hd => by simp [startUp, hd], fun he => ?_, Wave.partition_perm _,
    Wave.partition_sorted _, Wave.filter_partition _⟩
  rcases hf : s.resources.find? (fun r => !serves r) with _ | r
  · -- every resource has a backend
    have hall : ∀ r ∈ s.resources, serves r = true := by
      simpa using List.find?_eq_none.mp hf
    rw [startUp_served w s he hf]
    refine ⟨⟨(fun ⟨f, h⟩ => by cases h), fun ⟨r, hr, hs⟩ => by simp [hall r hr] at hs⟩,
      (fun f h => by cases h), fun _ => rfl⟩
  · have hr : serves r = false := by simpa using List.find?_some hf
    rw [startUp_unserved w s he hf]
    refine ⟨⟨fun _ => ⟨r, List.mem_of_find?_eq_some hf, hr⟩, fun _ => ⟨_, rfl⟩⟩,
      (fun f h => ⟨r, rfl, by cases h; rfl⟩), fun hall => ?_⟩
    simp [hall r (List.mem_of_find?_eq_some hf)] at hr

/-- With the default settings and a backend for every resource, the worker carries out the
launch plan. -/
theorem startup_staggers_waves_defaults :
    let s : Settings := { consumerId := "c" }
    let w : Worker Desk := { bridge := Bridge.ofSettings s, state := ⟨{}, {}, ⟨0, ⟨0⟩⟩, ⟨[]⟩, []⟩ }
    s.consumersEnabled = true ∧ (∀ r ∈ s.resources, (fun _ => true) r = true) ∧
      w.startUp s (fun _ => true) = .ok ((plan s).foldl perform w) := by
  intro s w
  have he : s.consumersEnabled = true := rfl
  have hall : ∀ r ∈ s.resources, (fun _ => true) r = true := fun _ _ => rfl
  exact ⟨he, hall, ((startup_staggers_waves w s (fun _ => true)).2.1 he).2.2 hall⟩

end Worker

end Relay
