import Relay.Subscription.Loop
import Relay.Proofs.Handouts
/-!
# The lifecycle of a subscription

What a subscription's loop publishes and does, read off its trail: it publishes `starting`,
then only `active` and `retrying`, then `draining` and last `stopped`, after which it does
nothing more. Its retries are the rests it has begun since the last read that came back; the
`k`-th failure in a row that the effective retry policy allows is answered by a `retrying`
status with `k` retries and a rest of the policy's pause for retry `k`, and a read that comes
back after retries by an `active` status with neither retries nor error. It ends failed exactly
when its policy is bounded by `m` retries and `m + 1` failures came in a row.

All of this holds until the count of failures in a row overflows its 32 bits: the `2^32`-th
failure in a row, which a policy bounded by `2^32 - 1` retries or an unbounded one allows,
crashes the loop instead, and a loop that crashes publishes neither `draining` nor `stopped`.

These hold however the broker answers each call and whenever the loop is told to stop: a run
of the loop is a list of turns, each of which gives the loop a time, whether it is to stop, the
jitter drawn, and a broker and backend in any state. The proof is an invariant, `Loop.Sound`,
that every step of the loop keeps: each primitive (`recovered`, `fail`, `halt`, `close`,
`crash`, activation, a change of stage) is shown to keep it, the reads and hand-outs keep it by
induction on their fuel, and the run by induction on its turns.
-/
namespace Relay.Subscription

namespace Note

def status? : Note → Option Status
  | .published s => some s
  | _ => none

def state? : Note → Option State
  | .published s => some s.state
  | _ => none

@[simp] theorem status?_published (s : Status) : (published s).status? = some s := rfl
@[simp] theorem status?_received : received.status? = none := rfl
@[simp] theorem status?_failed (time : Nat) (why : String) : (failed time why).status? = none := rfl
@[simp] theorem status?_rests (till : Nat) : (rests till).status? = none := rfl
@[simp] theorem state?_published (s : Status) : (published s).state? = some s.state := rfl
@[simp] theorem state?_received : received.state? = none := rfl
@[simp] theorem state?_failed (time : Nat) (why : String) : (failed time why).state? = none := rfl
@[simp] theorem state?_rests (till : Nat) : (rests till).state? = none := rfl

theorem state?_eq (n : Note) : n.state? = n.status?.map (·.state) := by
  cases n <;> rfl

def since (acc : List Note) : Note → List Note
  | .received => []
  | n => acc ++ [n]

end Note

def sinceRead (t : List Note) : List Note := t.foldl Note.since []

def scheduled (t : List Note) : Nat := (sinceRead t).countP fun n => n matches .rests _

def failuresInRow (t : List Note) : Nat := (sinceRead t).countP fun n => n matches .failed _ _

def lastStatus (t : List Note) : Option Status := (t.filterMap Note.status?).getLast?

@[simp] theorem lastStatus_snoc_published (t : List Note) (s : Status) :
    lastStatus (t ++ [.published s]) = some s := by
  simp [lastStatus]

theorem lastStatus_snoc_quiet (t : List Note) {n : Note} (h : n.status? = none) :
    lastStatus (t ++ [n]) = lastStatus t := by
  simp [lastStatus, h]

theorem filterMap_state? (t : List Note) :
    t.filterMap Note.state? = (t.filterMap Note.status?).map (·.state) := by
  rw [List.map_filterMap]
  congr 1
  funext n
  exact Note.state?_eq n

theorem foldl_since_quiet {u : List Note} (h : Note.received ∉ u) (acc : List Note) :
    u.foldl Note.since acc = acc ++ u := by
  induction u generalizing acc with
  | nil => simp
  | cons n u ih =>
    have hn : n ≠ .received := fun e => h (e ▸ List.mem_cons_self)
    have hu : Note.received ∉ u := fun m => h (List.mem_cons_of_mem _ m)
    cases n <;> simp_all [Note.since]

theorem sinceRead_append_quiet {u : List Note} (h : Note.received ∉ u) (t : List Note) :
    sinceRead (t ++ u) = sinceRead t ++ u := by
  rw [sinceRead, List.foldl_append, foldl_since_quiet h]
  rfl

@[simp] theorem sinceRead_append_received (t u : List Note) :
    sinceRead (t ++ .received :: u) = sinceRead u := by
  simp [sinceRead, List.foldl_append, Note.since]

theorem scheduled_append_quiet {u : List Note} (h : Note.received ∉ u) (t : List Note) :
    scheduled (t ++ u) = scheduled t + u.countP fun n => n matches .rests _ := by
  simp [scheduled, sinceRead_append_quiet h]

theorem failuresInRow_append_quiet {u : List Note} (h : Note.received ∉ u) (t : List Note) :
    failuresInRow (t ++ u) = failuresInRow t + u.countP fun n => n matches .failed _ _ := by
  simp [failuresInRow, sinceRead_append_quiet h]

@[simp] theorem scheduled_nil : scheduled [] = 0 := rfl

@[simp] theorem failuresInRow_nil : failuresInRow [] = 0 := rfl

@[simp] theorem scheduled_append_received (t u : List Note) :
    scheduled (t ++ .received :: u) = scheduled u := by
  simp [scheduled]

@[simp] theorem failuresInRow_append_received (t u : List Note) :
    failuresInRow (t ++ .received :: u) = failuresInRow u := by
  simp [failuresInRow]

/-- What the notes `post` that follow a note, with `pre` before it, owe it under the retry
policy `p`. A failure that `p` allows to retry, the `k`-th in a row for a count `k` of 32 bits,
is followed by a `retrying` status with `k` retries and its error, and by a rest of `p`'s pause
for retry `k` with some jitter; a read that comes back after retries is followed by an `active`
status with neither, and one that comes back with no retry scheduled finds the status in force
with neither already. -/
def answer (p : RetryPolicy) (pre : List Note) : Note → List Note → Prop
  | .failed time why, post => failuresInRow pre < RetryPolicy.maxRetries →
    p.allows (failuresInRow pre + 1) = true →
    ∃ s k rest, post = .published s :: .rests (time + (p.pause k (failuresInRow pre + 1)).nanos) :: rest ∧
      s.state = .retrying ∧ s.retries = failuresInRow pre + 1 ∧ s.lastError = some why
  | .received, post =>
    (0 < scheduled pre →
      ∃ s rest, post = .published s :: rest ∧ s.state = .active ∧ s.retries = 0 ∧ s.lastError = none) ∧
    (scheduled pre = 0 → ∀ s, lastStatus pre = some s → s.retries = 0 ∧ s.lastError = none)
  | _, _ => True

def Answered (p : RetryPolicy) (t : List Note) : Prop :=
  ∀ pre n post, t = pre ++ n :: post → answer p pre n post

theorem answer_append {p : RetryPolicy} {pre : List Note} {n : Note} {post : List Note}
    (more : List Note) (h : answer p pre n post) : answer p pre n (post ++ more) := by
  cases n with
  | failed time why =>
    intro hc ha
    obtain ⟨s, k, rest, rfl, hs⟩ := h hc ha
    exact ⟨s, k, rest ++ more, rfl, hs⟩
  | received =>
    refine ⟨fun hr => ?_, h.2⟩
    obtain ⟨s, rest, rfl, hs⟩ := h.1 hr
    exact ⟨s, rest ++ more, rfl, hs⟩
  | published _ | rests _ => trivial

namespace Answered

variable {p : RetryPolicy} {t : List Note}

theorem nil : Answered p [] := by
  intro pre n post h
  simp at h

theorem append {new : List Note} (h : Answered p t)
    (hn : ∀ pre n post, new = pre ++ n :: post → answer p (t ++ pre) n post) :
    Answered p (t ++ new) := by
  intro pre n post heq
  rcases List.append_eq_append_iff.mp heq with ⟨a, rfl, hnew⟩ | ⟨c, rfl, hc⟩
  · exact hn a n post hnew
  · cases c with
    | nil =>
      simpa using hn [] n post (by simpa using hc.symm)
    | cons m c =>
      obtain ⟨rfl, rfl⟩ := List.cons_eq_cons.mp hc
      exact answer_append new (h pre n c rfl)

theorem append_quiet {new : List Note} (h : Answered p t)
    (hq : ∀ m ∈ new, ∀ pre post, answer p pre m post) : Answered p (t ++ new) :=
  h.append fun pre n post e => hq n (by simp [e]) _ _

theorem append_cons {n : Note} {rest : List Note} (h : Answered p t) (hn : answer p t n rest)
    (hq : ∀ m ∈ rest, ∀ pre post, answer p pre m post) : Answered p (t ++ n :: rest) := by
  refine h.append fun pre m post e => ?_
  cases pre with
  | nil =>
    obtain ⟨rfl, rfl⟩ := List.cons_eq_cons.mp e
    simpa using hn
  | cons x pre =>
    obtain ⟨rfl, rfl⟩ := List.cons_eq_cons.mp e
    exact hq m (by simp) _ _

end Answered

theorem answer_quiet {p : RetryPolicy} {n : Note} (hn : n.state?.isSome ∨ n matches .rests _)
    (pre post : List Note) : answer p pre n post := by
  cases n <;> simp_all [answer, Note.state?]

theorem allows_zero (p : RetryPolicy) : p.allows 0 = true := by
  unfold RetryPolicy.allows
  split <;> simp

def Within (ok : Nat → Prop) (t : List Note) : Prop :=
  ∀ pre post, t = pre ++ post → ok (failuresInRow pre)

namespace Within

variable {ok : Nat → Prop} {t : List Note}

theorem snoc {n : Note} (h : Within ok t) (hn : ok (failuresInRow (t ++ [n]))) :
    Within ok (t ++ [n]) := by
  intro pre post heq
  rcases List.append_eq_append_iff.mp heq with ⟨a, rfl, ha⟩ | ⟨c, rfl, -⟩
  · cases a with
    | nil => simpa using h t [] (by simp)
    | cons m a =>
      obtain ⟨rfl, hnil⟩ := List.cons.inj ha
      obtain ⟨rfl, -⟩ := List.append_eq_nil_iff.mp hnil.symm
      exact hn
  · exact h pre c rfl

theorem nil (h0 : ok 0) : Within ok [] := by
  intro pre post h
  obtain ⟨rfl, -⟩ := List.append_eq_nil_iff.mp h.symm
  exact h0

theorem quiet {n : Note} (h : Within ok t) (hn : n.state?.isSome ∨ n matches .rests _) :
    Within ok (t ++ [n]) := by
  refine h.snoc ?_
  have hr : Note.received ∉ [n] := by cases n <;> simp_all [Note.state?]
  have hc : [n].countP (fun n => n matches .failed _ _) = 0 := by
    cases n <;> simp_all [Note.state?]
  rw [failuresInRow_append_quiet hr, hc, Nat.add_zero]
  exact h t [] (by simp)

theorem received (h : Within ok t) (h0 : ok 0) : Within ok (t ++ [.received]) :=
  h.snoc (by simpa using h0)

theorem failed (h : Within ok t) (time : Nat) (why : String) (ha : ok (failuresInRow t + 1)) :
    Within ok (t ++ [.failed time why]) :=
  h.snoc (by simpa [failuresInRow_append_quiet] using ha)

end Within

def Lifecycle (last : List State) (ss : List State) : Prop :=
  ∃ mid, (∀ s ∈ mid, s = .active ∨ s = .retrying) ∧ ss = .starting :: mid ++ last

namespace Lifecycle

variable {ss : List State}

theorem snoc (h : Lifecycle [] ss) {s : State} (hs : s = .active ∨ s = .retrying) :
    Lifecycle [] (ss ++ [s]) := by
  obtain ⟨mid, hm, rfl⟩ := h
  refine ⟨mid ++ [s], ?_, by simp⟩
  intro x hx
  rcases List.mem_append.mp hx with hx | hx
  · exact hm x hx
  · rw [List.mem_singleton.mp hx]
    exact hs

theorem drain (h : Lifecycle [] ss) : Lifecycle [.draining] (ss ++ [.draining]) := by
  obtain ⟨mid, hm, rfl⟩ := h
  exact ⟨mid, hm, by simp⟩

theorem stop (h : Lifecycle [.draining] ss) :
    Lifecycle [.draining, .stopped] (ss ++ [.stopped]) := by
  obtain ⟨mid, hm, rfl⟩ := h
  exact ⟨mid, hm, by simp⟩

theorem getLast?_eq {last : List State} (h : Lifecycle last ss) (hl : last ≠ []) :
    ss.getLast? = last.getLast? := by
  obtain ⟨mid, -, rfl⟩ := h
  rw [List.getLast?_append]
  cases hx : last.getLast? with
  | none => exact absurd (List.getLast?_eq_none_iff.mp hx) hl
  | some x => rfl

theorem getLast?_running (h : Lifecycle [] ss) {s : State} (hs : ss.getLast? = some s) :
    s = .starting ∨ s = .active ∨ s = .retrying := by
  obtain ⟨mid, hm, rfl⟩ := h
  have hmem := List.mem_of_getLast? hs
  simp only [List.append_nil, List.mem_cons] at hmem
  rcases hmem with e | e
  · exact .inl e
  · exact .inr (hm s e)

end Lifecycle

namespace Stage

def running : Stage → Bool
  | .draining .. | .stopped | .crashed _ => false
  | _ => true

/-- The states a loop at this stage has published last: none while it runs or once it
crashed, `draining` while it drains, and `draining` then `stopped` once it has stopped. -/
def ending : Stage → List State
  | .draining .. => [.draining]
  | .stopped => [.draining, .stopped]
  | _ => []

theorem ending_of_running {s : Stage} (h : s.running = true) : s.ending = [] := by
  cases s <;> simp_all [running, ending]

theorem finished_of_running {s : Stage} (h : s.running = true) : s.finished = false := by
  cases s <;> simp_all [running, finished]

theorem ne_stopped {s : Stage} (h : s.running = true) : s ≠ .stopped := by
  rintro rfl
  cases h

end Stage

namespace Loop

def states (l : Loop) : List State := l.trail.filterMap Note.state?

def failure (l : Loop) : Option String :=
  match l.stage with
  | .draining _ f => f
  | .stopped => l.status.lastError
  | _ => none

structure Keeps (c : Config) (l : Loop) (failure : Option String) : Prop where
  config : l.config = c
  lifecycle : Lifecycle l.stage.ending l.states
  shown : lastStatus l.trail = some l.status
  retries : l.status.retries = scheduled l.trail
  allowed : l.status.retries = 0 ∨ c.effectiveRetry.allows l.status.retries = true
  failures : failuresInRow l.trail = l.status.retries + failure.isSome.toNat
  exhausted : failure.isSome → c.effectiveRetry.allows (l.status.retries + 1) = false
  peak : failure = none → Within (fun n => c.effectiveRetry.allows n = true) l.trail
  counted : Within (· ≤ RetryPolicy.maxRetries) l.trail
  cleared : l.stage.running = true → failure = none →
    (l.status.retries = 0 ↔ l.status.lastError = none)
  answered : Answered c.effectiveRetry l.trail
  idle : l.stage = .stopped → l.lanes = []

/-- What holds of a loop of configuration `c` once it has crashed: its trail is as it was
when it crashed, with the `2^32`-th failure in a row last if its count overflowed. -/
structure Wreck (c : Config) (l : Loop) : Prop where
  config : l.config = c
  lifecycle : Lifecycle [] l.states
  shown : lastStatus l.trail = some l.status
  retries : l.status.retries = scheduled l.trail
  answered : Answered c.effectiveRetry l.trail
  overflowed : l.stage = .crashed Panic.addOverflow →
    failuresInRow l.trail = RetryPolicy.maxRetries + 1
  counted : l.stage ≠ .crashed Panic.addOverflow → Within (· ≤ RetryPolicy.maxRetries) l.trail
  idle : l.lanes = []

def Sound (c : Config) (l : Loop) : Prop :=
  match l.stage with
  | .crashed _ => l.Wreck c
  | _ => l.Keeps c l.failure

section Steps

variable {c : Config} {l : Loop}

@[simp] theorem publish_trail (l : Loop) (s : Status) :
    (l.publish s).trail = l.trail ++ [.published s] := rfl
@[simp] theorem publish_status (l : Loop) (s : Status) : (l.publish s).status = s := rfl
@[simp] theorem publish_stage (l : Loop) (s : Status) : (l.publish s).stage = l.stage := rfl
@[simp] theorem publish_config (l : Loop) (s : Status) : (l.publish s).config = l.config := rfl
@[simp] theorem publish_lanes (l : Loop) (s : Status) : (l.publish s).lanes = l.lanes := rfl
@[simp] theorem note_trail (l : Loop) (n : Note) : (l.note n).trail = l.trail ++ [n] := rfl
@[simp] theorem note_status (l : Loop) (n : Note) : (l.note n).status = l.status := rfl
@[simp] theorem note_stage (l : Loop) (n : Note) : (l.note n).stage = l.stage := rfl
@[simp] theorem note_config (l : Loop) (n : Note) : (l.note n).config = l.config := rfl
@[simp] theorem note_lanes (l : Loop) (n : Note) : (l.note n).lanes = l.lanes := rfl
@[simp] theorem crash_trail (l : Loop) (p : Panic) : (l.crash p).trail = l.trail := rfl
@[simp] theorem crash_status (l : Loop) (p : Panic) : (l.crash p).status = l.status := rfl
@[simp] theorem crash_stage (l : Loop) (p : Panic) : (l.crash p).stage = .crashed p := rfl
@[simp] theorem crash_config (l : Loop) (p : Panic) : (l.crash p).config = l.config := rfl
@[simp] theorem crash_lanes (l : Loop) (p : Panic) : (l.crash p).lanes = [] := rfl

theorem states_publish (l : Loop) (s : Status) : (l.publish s).states = l.states ++ [s.state] := by
  simp [states, Note.state?]

theorem states_note (l : Loop) {n : Note} (h : n.state? = none) : (l.note n).states = l.states := by
  simp [states, h]

theorem Keeps.current {f : Option String} (h : l.Keeps c f) :
    l.states.getLast? = some l.status.state := by
  rw [states, filterMap_state?, List.getLast?_map]
  have hs := h.shown
  rw [lastStatus] at hs
  rw [hs]
  rfl

theorem Wreck.current (h : l.Wreck c) : l.states.getLast? = some l.status.state := by
  rw [states, filterMap_state?, List.getLast?_map]
  have hs := h.shown
  rw [lastStatus] at hs
  rw [hs]
  rfl

theorem failure_of_running (h : l.stage.running = true) : l.failure = none := by
  unfold failure
  split <;> simp_all [Stage.running]

theorem sound_iff_keeps (h : ∀ p, l.stage ≠ .crashed p) : l.Sound c ↔ l.Keeps c l.failure := by
  unfold Sound
  split
  · next p hp => exact absurd hp (h p)
  · exact Iff.rfl

theorem sound_iff_wreck {p : Panic} (h : l.stage = .crashed p) : l.Sound c ↔ l.Wreck c := by
  unfold Sound
  rw [h]

theorem not_crashed_of_running (h : l.stage.running = true) (p : Panic) : l.stage ≠ .crashed p := by
  intro e
  rw [e] at h
  cases h

theorem Sound.keeps (h : l.Sound c) (hr : l.stage.running = true) : l.Keeps c none := by
  rw [sound_iff_keeps (not_crashed_of_running hr), failure_of_running hr] at h
  exact h

theorem Sound.keeps_or_wreck (h : l.Sound c) :
    l.Keeps c l.failure ∨ (∃ p, l.stage = .crashed p) ∧ l.Wreck c := by
  cases hst : l.stage with
  | crashed p => exact .inr ⟨⟨p, rfl⟩, (sound_iff_wreck hst).mp h⟩
  | _ => exact .inl ((sound_iff_keeps (fun p e => by rw [hst] at e; cases e)).mp h)

theorem Sound.lifecycle (h : l.Sound c) : Lifecycle l.stage.ending l.states := by
  rcases h.keeps_or_wreck with hk | ⟨⟨p, hp⟩, hw⟩
  · exact hk.lifecycle
  · rw [hp]
    exact hw.lifecycle

theorem Sound.retries (h : l.Sound c) : l.status.retries = scheduled l.trail := by
  rcases h.keeps_or_wreck with hk | ⟨-, hw⟩
  · exact hk.retries
  · exact hw.retries

theorem Sound.answered (h : l.Sound c) : Answered c.effectiveRetry l.trail := by
  rcases h.keeps_or_wreck with hk | ⟨-, hw⟩
  · exact hk.answered
  · exact hw.answered

theorem Keeps.sound (h : l.Keeps c none) (hr : l.stage.running = true) : l.Sound c := by
  rw [sound_iff_keeps (not_crashed_of_running hr), failure_of_running hr]
  exact h

theorem start_sound (c : Config) : (start c).Sound c := by
  refine Keeps.sound ?_ rfl
  exact {
    config := rfl
    lifecycle := ⟨[], by simp, rfl⟩
    shown := rfl
    retries := rfl
    allowed := .inl rfl
    failures := rfl
    exhausted := fun h => by cases h
    peak := fun _ => by
      simpa [start] using (Within.nil (allows_zero c.effectiveRetry)).quiet (n := .published _)
        (by simp [Note.state?])
    counted := by
      have h0 : Within (· ≤ RetryPolicy.maxRetries) [] := Within.nil (Nat.zero_le _)
      simpa [start] using h0.quiet (n := .published _) (by simp [Note.state?])
    cleared := fun _ _ => by simp [start]
    answered := Answered.nil.append_quiet (by simp [answer_quiet, Note.state?])
    idle := fun h => by cases h }

theorem Sound.setStage (h : l.Sound c) (hr : l.stage.running = true) {s : Stage}
    (hs : s.running = true) : ({ l with stage := s } : Loop).Sound c := by
  have h := h.keeps hr
  refine Keeps.sound { h with
    lifecycle := ?_
    cleared := fun _ => h.cleared hr
    idle := fun e => absurd e (Stage.ne_stopped hs) } hs
  have hl := h.lifecycle
  rw [Stage.ending_of_running hr] at hl
  rw [Stage.ending_of_running hs]
  exact hl

theorem recovered_of_pos (hp : 0 < l.status.retries) :
    l.recovered = (l.note .received).publish
      { l.status with state := .active, retries := 0, lastError := none } := by
  simp [recovered, hp]

theorem recovered_of_zero (hp : l.status.retries = 0) : l.recovered = l.note .received := by
  simp [recovered, hp]

@[simp] theorem activate_stage (l : Loop) : l.activate.stage = l.stage := by
  unfold activate
  split <;> rfl

@[simp] theorem activate_config (l : Loop) : l.activate.config = l.config := by
  unfold activate
  split <;> rfl

@[simp] theorem activate_lanes (l : Loop) : l.activate.lanes = l.lanes := by
  unfold activate
  split <;> rfl

@[simp] theorem activate_retries (l : Loop) : l.activate.status.retries = l.status.retries := by
  unfold activate
  split <;> rfl

@[simp] theorem recovered_stage (l : Loop) : l.recovered.stage = l.stage := by
  unfold recovered
  dsimp only
  split <;> rfl

@[simp] theorem recovered_config (l : Loop) : l.recovered.config = l.config := by
  unfold recovered
  dsimp only
  split <;> rfl

@[simp] theorem recovered_lanes (l : Loop) : l.recovered.lanes = l.lanes := by
  unfold recovered
  dsimp only
  split <;> rfl

theorem Keeps.recovered_clears (h : l.Keeps c none) (hr : l.stage.running = true)
    (hp : 0 < l.status.retries) : l.recovered.Sound c := by
  have hl : Lifecycle [] l.states := by simpa [Stage.ending_of_running hr] using h.lifecycle
  have hb := (h.peak rfl).received (allows_zero _)
  rw [recovered_of_pos hp]
  refine Keeps.sound ?_ hr
  have ht : (l.note .received).trail ++ [.published
      { l.status with state := .active, retries := 0, lastError := none }] =
      l.trail ++ .received :: [.published
        { l.status with state := .active, retries := 0, lastError := none }] := by simp
  refine {
    config := h.config
    lifecycle := ?_
    shown := lastStatus_snoc_published _ _
    retries := by simp [scheduled, sinceRead, Note.since]
    allowed := .inl rfl
    failures := by simp [failuresInRow, sinceRead, Note.since]
    exhausted := by simp
    peak := fun _ => by simpa using hb.quiet (n := .published _) (by simp [Note.state?])
    counted := by
      simpa using (h.counted.received (Nat.zero_le _)).quiet (n := .published _)
        (by simp [Note.state?])
    cleared := by simp
    answered := ?_
    idle := fun e => absurd e (Stage.ne_stopped hr) }
  · rw [states_publish, states_note _ rfl, publish_stage, note_stage, Stage.ending_of_running hr]
    exact hl.snoc (.inl rfl)
  · rw [publish_trail, ht]
    refine h.answered.append_cons ⟨fun _ => ⟨_, [], rfl, rfl, rfl, rfl⟩, fun h0 => ?_⟩
      (by simp [answer_quiet, Note.state?])
    rw [← h.retries] at h0
    omega

theorem Keeps.recovered_notes (h : l.Keeps c none) (hr : l.stage.running = true)
    (hz : l.status.retries = 0) : l.recovered.Sound c := by
  rw [recovered_of_zero hz]
  refine Keeps.sound ?_ hr
  refine {
    config := h.config
    lifecycle := by rw [states_note _ rfl]; exact h.lifecycle
    shown := by rw [note_trail, lastStatus_snoc_quiet _ rfl]; exact h.shown
    retries := by simp [hz]
    allowed := .inl hz
    failures := by simp [hz]
    exhausted := by simp
    peak := fun _ => (h.peak rfl).received (allows_zero _)
    counted := h.counted.received (Nat.zero_le _)
    cleared := fun _ _ => h.cleared hr rfl
    answered := ?_
    idle := fun e => absurd e (Stage.ne_stopped hr) }
  rw [note_trail]
  refine h.answered.append_cons ⟨fun hs => by simp [← h.retries, hz] at hs, fun _ s hs => ?_⟩
    (by simp)
  obtain rfl : l.status = s := Option.some.inj (h.shown.symm.trans hs)
  exact ⟨hz, (h.cleared hr rfl).mp hz⟩

theorem Sound.recovered (h : l.Sound c) (hr : l.stage.running = true) : l.recovered.Sound c := by
  have h := h.keeps hr
  rcases Nat.eq_zero_or_pos l.status.retries with hz | hp
  · exact h.recovered_notes hr hz
  · exact h.recovered_clears hr hp

theorem fail_of_allows (hc : l.status.retries < RetryPolicy.maxRetries)
    (h : l.config.effectiveRetry.allows (l.status.retries + 1) = true) (now : Nat) (k : Fin 50)
    (why : String) :
    l.fail now k why =
      { (l.note (.failed now why)).publish
          { l.status with state := .retrying, retries := l.status.retries + 1, lastError := some why }
        with stage := .resting (now + (l.config.effectiveRetry.pause k (l.status.retries + 1)).nanos) }.note
        (.rests (now + (l.config.effectiveRetry.pause k (l.status.retries + 1)).nanos)) := by
  simp [fail, hc, h]

theorem fail_crashes (hc : ¬ l.status.retries < RetryPolicy.maxRetries) (now : Nat) (k : Fin 50)
    (why : String) : l.fail now k why = (l.note (.failed now why)).crash Panic.addOverflow := by
  simp [fail, hc]

theorem Sound.close (h : l.Sound c) {till : Nat} {f : Option String}
    (hd : l.stage = .draining till f) : (l.close f).Sound c := by
  have hf : l.failure = f := by simp [failure, hd]
  have h : l.Keeps c f := by
    rw [sound_iff_keeps (fun p e => by rw [hd] at e; cases e), hf] at h
    exact h
  have hl : Lifecycle [.draining] l.states := by simpa [hd, Stage.ending] using h.lifecycle
  rw [sound_iff_keeps (fun p e => by cases e)]
  exact {
    config := h.config
    lifecycle := by
      show Lifecycle [.draining, .stopped] (l.publish _).states
      rw [states_publish]
      exact hl.stop
    shown := by simp [Loop.close]
    retries := by simp [Loop.close, scheduled_append_quiet, h.retries]
    allowed := h.allowed
    failures := by simpa [Loop.close, failure, failuresInRow_append_quiet] using h.failures
    exhausted := by simpa [Loop.close, failure] using h.exhausted
    peak := fun e => by
      simpa [Loop.close] using (h.peak (by simpa [Loop.close, failure] using e)).quiet
        (n := .published _) (by simp [Note.state?])
    counted := by simpa [Loop.close] using h.counted.quiet (n := .published _) (by simp [Note.state?])
    cleared := fun e => by cases e
    answered := by
      simpa [Loop.close] using h.answered.append_quiet (by simp [answer_quiet, Note.state?])
    idle := fun _ => rfl }

theorem Keeps.halt {f : Option String} (h : l.Keeps c f) (hr : l.stage.running = true)
    (now : Nat) : (l.halt now f).Sound c := by
  have hl : Lifecycle [] l.states := by simpa [Stage.ending_of_running hr] using h.lifecycle
  have hd : ∀ till, ({ l.publish { l.status with state := .draining } with
      stage := .draining till f } : Loop).Sound c := fun till => by
    rw [sound_iff_keeps (fun p e => by cases e)]
    exact {
      config := h.config
      lifecycle := by
        show Lifecycle [.draining] (l.publish _).states
        rw [states_publish]
        exact hl.drain
      shown := by simp
      retries := by simp [scheduled_append_quiet, h.retries]
      allowed := h.allowed
      failures := by simpa [failuresInRow_append_quiet, failure] using h.failures
      exhausted := by simpa [failure] using h.exhausted
      peak := fun e => by
        simpa using (h.peak (by simpa [failure] using e)).quiet (n := .published _)
          (by simp [Note.state?])
      counted := by simpa using h.counted.quiet (n := .published _) (by simp [Note.state?])
      cleared := fun e => by cases e
      answered := by simpa using h.answered.append_quiet (by simp [answer_quiet, Note.state?])
      idle := fun e => by cases e }
  unfold Loop.halt
  dsimp only
  split
  · exact (hd 0).close rfl
  · exact hd _

theorem Keeps.fail_drains (h : l.Keeps c none) (hr : l.stage.running = true)
    (hc : l.status.retries < RetryPolicy.maxRetries)
    (ha : c.effectiveRetry.allows (l.status.retries + 1) = false) (now : Nat) (k : Fin 50)
    (why : String) : (l.fail now k why).Sound c := by
  have hconf := h.config
  subst hconf
  have hk : failuresInRow l.trail = l.status.retries := by simpa using h.failures
  rw [fail_exhausted l now k why hc ha]
  refine Keeps.halt ?_ (show (l.note (.failed now why)).stage.running = true from hr) now
  exact {
    config := rfl
    lifecycle := by rw [states_note _ rfl]; exact h.lifecycle
    shown := by rw [note_trail, lastStatus_snoc_quiet _ rfl]; exact h.shown
    retries := by simp [scheduled_append_quiet, h.retries]
    allowed := h.allowed
    failures := by simp [failuresInRow_append_quiet, hk]
    exhausted := fun _ => ha
    peak := fun e => by cases e
    counted := h.counted.failed now why (by rw [hk]; omega)
    cleared := fun _ e => by cases e
    answered := by
      rw [note_trail]
      exact h.answered.append_cons (fun _ hs => by simp [hk, ha] at hs) (by simp)
    idle := fun e => absurd e (Stage.ne_stopped hr) }

theorem Keeps.fail_rests (h : l.Keeps c none) (hr : l.stage.running = true)
    (hc : l.status.retries < RetryPolicy.maxRetries)
    (ha : c.effectiveRetry.allows (l.status.retries + 1) = true) (now : Nat) (k : Fin 50)
    (why : String) : (l.fail now k why).Sound c := by
  have hconf := h.config
  subst hconf
  have hl : Lifecycle [] l.states := by simpa [Stage.ending_of_running hr] using h.lifecycle
  have hk : failuresInRow l.trail = l.status.retries := by simpa using h.failures
  rw [fail_of_allows hc ha]
  have hb := (h.peak rfl).failed now why (by rw [hk]; exact ha)
  have hn := h.counted.failed now why (by rw [hk]; omega)
  let s : Status :=
    { l.status with state := .retrying, retries := l.status.retries + 1, lastError := some why }
  let till := now + (l.config.effectiveRetry.pause k (l.status.retries + 1)).nanos
  have ht : ((l.note (.failed now why)).publish s).trail ++ [.rests till] =
      l.trail ++ .failed now why :: [.published s, .rests till] := by
    simp
  refine Keeps.sound {
    config := rfl
    lifecycle := ?_
    shown := by
      rw [note_trail, lastStatus_snoc_quiet _ rfl]
      exact lastStatus_snoc_published _ _
    retries := by simp [scheduled_append_quiet, h.retries]
    allowed := .inr ha
    failures := by simp [failuresInRow_append_quiet, hk]
    exhausted := by simp
    peak := fun _ => by
      simpa using (hb.quiet (n := .published s) (by simp [Note.state?])).quiet (n := .rests till)
        (by simp)
    counted := by
      simpa using (hn.quiet (n := .published s) (by simp [Note.state?])).quiet (n := .rests till)
        (by simp)
    cleared := by simp
    answered := ?_
    idle := fun e => by cases e } rfl
  · have hs := hl.snoc (Or.inr rfl : State.retrying = .active ∨ State.retrying = .retrying)
    simpa [states, Stage.ending, List.filterMap_cons] using hs
  · show Answered _ (_ ++ _)
    rw [ht]
    exact h.answered.append_cons (fun _ _ => ⟨s, k, [], by rw [hk], rfl, by simp [s, hk], rfl⟩)
      (by simp [answer_quiet, Note.state?])

theorem Keeps.fail_overflows (h : l.Keeps c none) (hr : l.stage.running = true)
    (hc : ¬ l.status.retries < RetryPolicy.maxRetries) (now : Nat) (k : Fin 50) (why : String) :
    (l.fail now k why).Sound c := by
  have hk : failuresInRow l.trail = l.status.retries := by simpa using h.failures
  -- every count stays within 32 bits, so the retries are exactly the greatest count
  have hmax : l.status.retries = RetryPolicy.maxRetries := by
    have := h.counted l.trail [] (by simp)
    omega
  have hl : Lifecycle [] l.states := by simpa [Stage.ending_of_running hr] using h.lifecycle
  rw [fail_crashes hc, sound_iff_wreck (crash_stage _ _)]
  exact {
    config := h.config
    lifecycle := by
      show Lifecycle [] (l.note _).states
      rw [states_note _ rfl]
      exact hl
    shown := by
      simp only [crash_trail, crash_status, note_trail, note_status]
      rw [lastStatus_snoc_quiet _ rfl]
      exact h.shown
    retries := by simp [scheduled_append_quiet, h.retries]
    answered := by
      simp only [crash_trail, note_trail]
      exact h.answered.append_cons (fun hlt => by omega) (by simp)
    overflowed := fun _ => by simp [failuresInRow_append_quiet, hk, hmax]
    counted := fun e => absurd rfl e
    idle := rfl }

theorem Sound.fail (h : l.Sound c) (hr : l.stage.running = true) (now : Nat) (k : Fin 50)
    (why : String) : (l.fail now k why).Sound c := by
  have h := h.keeps hr
  by_cases hc : l.status.retries < RetryPolicy.maxRetries
  · cases ha : c.effectiveRetry.allows (l.status.retries + 1)
    · exact h.fail_drains hr hc ha now k why
    · exact h.fail_rests hr hc ha now k why
  · exact h.fail_overflows hr hc now k why

theorem Keeps.crash (h : l.Keeps c none) (hr : l.stage.running = true) {p : Panic}
    (hp : p ≠ Panic.addOverflow) : (l.crash p).Sound c := by
  have hl : Lifecycle [] l.states := by simpa [Stage.ending_of_running hr] using h.lifecycle
  rw [sound_iff_wreck (crash_stage _ _)]
  exact {
    config := h.config
    lifecycle := hl
    shown := h.shown
    retries := h.retries
    answered := h.answered
    overflowed := fun e => absurd (Stage.crashed.inj e) hp
    counted := fun _ => h.counted
    idle := rfl }

theorem Sound.activate (h : l.Sound c) (hr : l.stage.running = true) : l.activate.Sound c := by
  unfold Loop.activate
  split
  · exact h
  · have h := h.keeps hr
    have hl : Lifecycle [] l.states := by simpa [Stage.ending_of_running hr] using h.lifecycle
    exact Keeps.sound {
      config := h.config
      lifecycle := by
        rw [states_publish, publish_stage, Stage.ending_of_running hr]
        exact hl.snoc (.inl rfl)
      shown := by simp
      retries := by simpa [scheduled_append_quiet] using h.retries
      allowed := h.allowed
      failures := by simpa [failuresInRow_append_quiet] using h.failures
      exhausted := by simp
      peak := fun _ => (h.peak rfl).quiet (n := .published _) (by simp [Note.state?])
      counted := h.counted.quiet (n := .published _) (by simp [Note.state?])
      cleared := fun _ _ => h.cleared hr rfl
      answered := h.answered.append_quiet (by simp [answer_quiet, Note.state?])
      idle := fun e => absurd e (Stage.ne_stopped hr) } hr

theorem Sound.idle (h : l.Sound c) (hs : l.stage.finished = true) : l.lanes = [] := by
  cases hst : l.stage with
  | stopped =>
    rw [sound_iff_keeps (fun p e => by rw [hst] at e; cases e)] at h
    exact h.idle hst
  | crashed p => exact ((sound_iff_wreck hst).mp h).idle
  | _ => rw [hst] at hs; cases hs

def LanesOnly (l l' : Loop) : Prop :=
  l'.config = l.config ∧ l'.stage = l.stage ∧ l'.status = l.status ∧ l'.trail = l.trail

theorem LanesOnly.refl (l : Loop) : LanesOnly l l := ⟨rfl, rfl, rfl, rfl⟩

theorem LanesOnly.trans {l₁ l₂ l₃ : Loop} (h₁ : LanesOnly l₁ l₂) (h₂ : LanesOnly l₂ l₃) :
    LanesOnly l₁ l₃ :=
  ⟨h₂.1.trans h₁.1, h₂.2.1.trans h₁.2.1, h₂.2.2.1.trans h₁.2.2.1, h₂.2.2.2.trans h₁.2.2.2⟩

theorem park_lanesOnly (l : Loop) (o : Option Lane) : LanesOnly l (l.park o) := by
  cases o <;> exact ⟨rfl, rfl, rfl, rfl⟩

theorem foldl_lanesOnly {α β : Type} (f : Loop × β → α → Loop × β)
    (hf : ∀ p a, LanesOnly p.1 (f p a).1) : ∀ (xs : List α) (p : Loop × β),
    LanesOnly p.1 (xs.foldl f p).1
  | [], p => .refl p.1
  | a :: xs, p => (hf p a).trans (foldl_lanesOnly f hf xs (f p a))

theorem Sound.of_lanesOnly {l' : Loop} (h : l.Sound c) (hl : LanesOnly l l')
    (hf : l.stage.finished = false) : l'.Sound c := by
  have hc : ∀ p, l.stage ≠ .crashed p := fun p e => by rw [e] at hf; cases hf
  have hs : l.stage ≠ .stopped := fun e => by rw [e] at hf; cases hf
  have hc' : ∀ p, l'.stage ≠ .crashed p := by rw [hl.2.1]; exact hc
  rw [sound_iff_keeps hc] at h
  rw [sound_iff_keeps hc']
  obtain ⟨config, stage, status, lanes, backlog, trail⟩ := l'
  obtain ⟨rfl, rfl, rfl, rfl⟩ := hl
  exact { h with idle := fun e => absurd e hs }

theorem Sound.lanesOnly {l' : Loop} (h : l.Sound c) (hl : LanesOnly l l')
    (hr : l.stage.running = true) : l'.Sound c :=
  h.of_lanesOnly hl (Stage.finished_of_running hr)

end Steps
section Runs

variable {σ : Type} [Backend σ] {c : Config} {l : Loop} (br : Bridge) (now : Nat) (k : Fin 50)

theorem dispatch_lanesOnly (st : Handler.State σ) (d : Delivery) :
    LanesOnly l (l.dispatch br now st d).1 := by
  unfold dispatch
  split
  · exact park_lanesOnly l _
  · exact .refl l

theorem dispatchAll_lanesOnly (ds : List Delivery) (st : Handler.State σ) :
    LanesOnly l (l.dispatchAll br now ds st).1 :=
  foldl_lanesOnly _ (fun ⟨_, st⟩ d => dispatch_lanesOnly br now st d) ds (l, st)

@[simp] theorem dispatch_stage (st : Handler.State σ) (d : Delivery) :
    (l.dispatch br now st d).1.stage = l.stage :=
  (dispatch_lanesOnly br now st d).2.1

@[simp] theorem dispatchAll_stage (ds : List Delivery) (st : Handler.State σ) :
    (l.dispatchAll br now ds st).1.stage = l.stage :=
  (dispatchAll_lanesOnly br now ds st).2.1

theorem wake_lanesOnly (st : Handler.State σ) : LanesOnly l (l.wake br now st).1 :=
  LanesOnly.trans ⟨rfl, rfl, rfl, rfl⟩
    (foldl_lanesOnly _ (fun ⟨l', _⟩ _ => park_lanesOnly l' _) _ _)

theorem wake_idle (st : Handler.State σ) (h : l.lanes = []) : l.wake br now st = (l, st) := by
  obtain ⟨config, stage, status, lanes, backlog, trail⟩ := l
  subst h
  simp [Loop.wake]

theorem Sound.wake (h : l.Sound c) (st : Handler.State σ) : (l.wake br now st).1.Sound c := by
  cases hf : l.stage.finished
  · exact h.of_lanesOnly (wake_lanesOnly br now st) hf
  · rw [wake_idle br now st (h.idle hf)]
    exact h

theorem Sound.crash_receive (h : l.Sound c) (hr : l.stage.running = true) {b : Broker}
    {t : Clock} {block : Span} {p : Panic} (hp : b.receivePanic? t block = some p) :
    (l.crash p).Sound c := by
  refine (h.keeps hr).crash hr ?_
  rw [Broker.receivePanic?_eq_some hp]
  simp [Panic.instantOverflow, Panic.addOverflow]

theorem Sound.read (stopping : Bool) : ∀ (fuel held : Nat) (l : Loop) (st : Handler.State σ),
    l.Sound c → l.stage.running = true → (Loop.read br stopping now k fuel held l st).1.Sound c
  | 0, _, _, _, h, _ => h
  | fuel + 1, held, l, st, h, hr => by
    rw [Loop.read]
    dsimp only
    split
    · exact (h.keeps hr).halt hr now
    · generalize (if l.free held = 0 then 0 else held) = held
      split
      · exact h.setStage hr (s := .awaitingLane) rfl
      · split
        · -- the network answered the read with a failure
          split
          · split
            · exact h.fail hr now k _
            · exact Sound.read stopping fuel _ _ _ h hr
          · exact h.fail hr now k _
        · split
          · next hp => exact h.crash_receive hr hp
          · split
            · exact h.fail hr now k _
            · exact h.setStage hr (s := .reading _ _) rfl
            · exact Sound.read stopping fuel _ _ _
                ((h.recovered hr).lanesOnly (dispatchAll_lanesOnly br now _ _) (by simpa using hr))
                (by simpa using hr)

theorem Sound.unload (stopping : Bool) : ∀ (fuel held : Nat) (l : Loop) (st : Handler.State σ),
    l.Sound c → l.stage.running = true → (Loop.unload br stopping now k fuel held l st).1.Sound c
  | 0, _, _, _, h, _ => h
  | fuel + 1, held, l, st, h, hr => by
    rw [Loop.unload]
    split
    · exact Sound.read br now k stopping _ _ _ st (h.activate hr) (by simpa using hr)
    · dsimp only
      generalize (if l.free held = 0 then 0 else held) = held
      split
      · split
        · exact (h.keeps hr).halt hr now
        · exact h.setStage hr (s := .awaitingLane) rfl
      · exact Sound.unload stopping fuel _ _ _
          (h.lanesOnly (LanesOnly.trans ⟨rfl, rfl, rfl, rfl⟩ (dispatch_lanesOnly br now _ _)) hr)
          (by simpa using hr)

theorem Sound.begin (stopping : Bool) (h : l.Sound c) (hr : l.stage.running = true)
    (st : Handler.State σ) : (l.begin br stopping now k st).1.Sound c := by
  rw [Loop.begin]
  dsimp only
  split
  · exact h.fail hr now k _
  · split
    · exact h.fail hr now k _
    · exact Sound.unload br now k stopping _ _ _ _ (h.lanesOnly ⟨rfl, rfl, rfl, rfl⟩ hr) hr

theorem Sound.look (stopping : Bool) (since count : Nat) (h : l.Sound c)
    (hr : l.stage.running = true) (st : Handler.State σ) :
    (l.look br stopping now k since count st).1.Sound c := by
  rw [Loop.look]
  dsimp only
  split
  · exact Sound.read br now k stopping _ _ _ _
      ((h.recovered hr).lanesOnly (dispatchAll_lanesOnly br now _ _) (by simpa using hr))
      (by simpa using hr)
  · split
    · exact ((h.recovered hr).keeps (by simpa using hr)).halt (by simpa using hr) now
    · split
      · exact Sound.read br now k stopping _ _ _ _ (h.recovered hr) (by simpa using hr)
      · exact h

theorem Sound.react (stopping : Bool) (h : l.Sound c) (st : Handler.State σ) :
    (l.react br stopping now k st).1.Sound c := by
  rw [Loop.react]
  split
  rename_i l' st' hw
  have h' : l'.Sound c := by simpa [hw] using h.wake br now st
  split
  · exact h'.begin br now k stopping (by simp_all [Stage.running]) st'
  · exact h'.look br now k stopping _ _ (by simp_all [Stage.running]) st'
  · have hr : l'.stage.running = true := by simp_all [Stage.running]
    split
    · exact (h'.keeps hr).halt hr now
    · split
      · exact h'
      · exact Sound.unload br now k stopping _ _ _ _ h' hr
  · have hr : l'.stage.running = true := by simp_all [Stage.running]
    split
    · exact (h'.keeps hr).halt hr now
    · split
      · exact h'.begin br now k stopping hr st'
      · exact h'
  · split
    · exact h'.close (by assumption)
    · exact h'
  · exact h'
  · exact h'

theorem react_finished (h : l.Sound c) (hs : l.stage.finished = true) (stopping : Bool)
    (st : Handler.State σ) : l.react br stopping now k st = (l, st) := by
  rw [Loop.react, wake_idle br now st (h.idle hs)]
  dsimp only
  split <;> simp_all [Stage.finished]

end Runs

/-- What a loop is given at one turn of a run: the shared parts of the bridge, whether it is
told to stop, the time, the jitter drawn for a rest, and the broker, store and backend as they
then are. -/
structure Turn (σ : Type) where
  bridge : Bridge
  stopping : Bool
  now : Nat
  jitter : Fin 50
  state : Handler.State σ

section Play

variable {σ : Type} [Backend σ] {c : Config}

def play (l : Loop) (ts : List (Turn σ)) : Loop :=
  ts.foldl (fun l t => (l.react t.bridge t.stopping t.now t.jitter t.state).1) l

theorem Sound.play {l : Loop} (h : l.Sound c) : ∀ ts : List (Turn σ), (l.play ts).Sound c
  | [] => h
  | t :: ts => Sound.play (h.react t.bridge t.now t.jitter t.stopping t.state) ts

theorem play_finished {l : Loop} (h : l.Sound c) (hs : l.stage.finished = true) :
    ∀ ts : List (Turn σ), l.play ts = l
  | [] => rfl
  | t :: ts => by
    rw [Loop.play, List.foldl_cons, react_finished t.bridge t.now t.jitter h hs]
    exact play_finished h hs ts

theorem Sound.stage_of_stopped {l : Loop} (h : l.Sound c) (hs : l.status.state = .stopped) :
    l.stage = .stopped := by
  cases hst : l.stage with
  | stopped => rfl
  | crashed p =>
    have hw := (sound_iff_wreck hst).mp h
    have hc := hw.current
    rw [hs] at hc
    rcases hw.lifecycle.getLast?_running hc with e | e | e <;> cases e
  | draining till f =>
    have hk : l.Keeps c l.failure := (sound_iff_keeps (fun p e => by rw [hst] at e; cases e)).mp h
    have hc := hk.current
    have hl := hk.lifecycle
    rw [hst, Stage.ending] at hl
    rw [hl.getLast?_eq (by simp), hs] at hc
    cases hc
  | waiting | reading _ _ | awaitingLane | resting _ =>
    have hr : l.stage.running = true := by simp [hst, Stage.running]
    have hk := h.keeps hr
    have hl := hk.lifecycle
    rw [Stage.ending_of_running hr] at hl
    have hc := hk.current
    rw [hs] at hc
    rcases hl.getLast?_running hc with e | e | e <;> cases e

theorem Sound.failed_iff {l : Loop} (h : l.Sound c) (hs : l.stage = .stopped) :
    l.status.isFailed = true ↔ ∃ m, c.effectiveRetry.maxAttempts = some m ∧
      ∃ pre post, l.trail = pre ++ post ∧ failuresInRow pre = m + 1 := by
  have h : l.Keeps c l.status.lastError := by
    simpa [failure, hs] using (sound_iff_keeps (fun p e => by rw [hs] at e; cases e)).mp h
  have hstate : l.status.state = .stopped := by
    have hl := h.lifecycle
    rw [hs, Stage.ending] at hl
    have hc := h.current
    rw [hl.getLast?_eq (by simp)] at hc
    simpa using hc.symm
  have hfail : l.status.isFailed = l.status.lastError.isSome := by
    simp [Status.isFailed, hstate]
  rw [hfail]
  constructor
  · intro he
    have hx := h.exhausted he
    have hk := h.failures
    rw [he] at hk
    cases hm : c.effectiveRetry.maxAttempts with
    | none => simp [RetryPolicy.allows, hm] at hx
    | some m =>
      have hx : m < l.status.retries + 1 := by simpa [RetryPolicy.allows, hm] using hx
      have hr : l.status.retries ≤ m := by
        rcases h.allowed with h0 | ha
        · omega
        · simpa [RetryPolicy.allows, hm] using ha
      refine ⟨m, rfl, l.trail, [], by simp, ?_⟩
      simp only [Bool.toNat_true] at hk
      omega
  · rintro ⟨m, hm, pre, post, ht, hk⟩
    cases he : l.status.lastError with
    | some _ => rfl
    | none =>
      have hb := h.peak he pre post ht
      simp only [RetryPolicy.allows, hm, hk, decide_eq_true_eq] at hb
      omega

theorem Sound.overflowed_iff {l : Loop} (h : l.Sound c) :
    l.stage = .crashed Panic.addOverflow ↔
      ∃ pre post, l.trail = pre ++ post ∧ failuresInRow pre = RetryPolicy.maxRetries + 1 := by
  constructor
  · intro hs
    exact ⟨l.trail, [], by simp, ((sound_iff_wreck hs).mp h).overflowed hs⟩
  · rintro ⟨pre, post, ht, hk⟩
    refine Classical.byContradiction fun hs => ?_
    -- short of that crash every run of failures fits in 32 bits
    have hw : Within (· ≤ RetryPolicy.maxRetries) l.trail := by
      cases hst : l.stage with
      | crashed p => exact ((sound_iff_wreck hst).mp h).counted (hst ▸ hs)
      | _ =>
        exact ((sound_iff_keeps (fun p e => by rw [hst] at e; cases e)).mp h).counted
    have := hw pre post ht
    omega

end Play

/-- The lifecycle of a subscription, over any run of its loop: whatever each call to the broker
answers and whenever the loop is told to stop. The loop publishes `starting`, then `active`
and `retrying`, then `draining` and `stopped` as its stage has come to them, and once stopped
or crashed it stays as it is. Its retries are the rests scheduled since the last read that
came back; each failed call that the policy allows, its count in 32 bits, is answered with
`retrying`, its count and its rest, and each read that comes back leaves neither retries nor
an error in force. It ends failed exactly when its policy is bounded by `m` retries and
`m + 1` calls failed in a row, and crashes on its count exactly when `2^32` did; a priority
subscription never ends failed. -/
theorem play_follows_lifecycle {σ : Type} [Backend σ] (c : Config) (ts : List (Turn σ)) :
    let l := (start c).play ts
    Lifecycle l.stage.ending l.states ∧
    (l.stage.finished = true → ∀ more : List (Turn σ), l.play more = l) ∧
    l.status.retries = scheduled l.trail ∧
    Answered c.effectiveRetry l.trail ∧
    (l.stage = .stopped → (l.status.isFailed = true ↔ ∃ m, c.effectiveRetry.maxAttempts = some m ∧
      ∃ pre post, l.trail = pre ++ post ∧ failuresInRow pre = m + 1)) ∧
    (l.stage = .crashed Panic.addOverflow ↔
      ∃ pre post, l.trail = pre ++ post ∧ failuresInRow pre = RetryPolicy.maxRetries + 1) ∧
    (c.priority = true → l.status.isFailed = false) := by
  intro l
  have h : l.Sound c := (start_sound c).play ts
  refine ⟨h.lifecycle, play_finished h, h.retries, h.answered, h.failed_iff, h.overflowed_iff,
    fun hp => ?_⟩
  cases hf : l.status.isFailed with
  | false => rfl
  | true =>
    have hs : l.status.state = .stopped := by
      simp only [Status.isFailed, Bool.and_eq_true, beq_iff_eq] at hf
      exact hf.1
    obtain ⟨m, hm, -⟩ := (h.failed_iff (h.stage_of_stopped hs)).mp hf
    simp [Config.effectiveRetry, hp] at hm

section Overflow

variable {σ : Type} [Backend σ] (br : Bridge) (k : Fin 50)

def receiveFault (q : String) : String := (Fault.transport (q ++ ": injected receive failure")).message

theorem read_fails {l : Loop} (hl : l.lanes = []) (hc : 0 < l.config.concurrency)
    {st : Handler.State σ} (hq : st.broker.outage.receive = []) (hf : 0 < st.broker.failingReceives)
    (now fuel : Nat) :
    (read br false now k (fuel + 1) 0 l st).1 = l.fail now k (receiveFault l.config.queue) := by
  have hfree : l.free 0 = l.config.concurrency := by simp [free, hl]
  have ha : st.broker.answer .receive = (none, st.broker) :=
    Broker.answer_of_pending_nil (by simpa [Outage.pending] using hq)
  have hp : st.broker.receivePanic? (clockAt st now) l.config.block = none := by
    simp [Broker.receivePanic?, hf]
  rw [Loop.read]
  simp only [hfree, ha, hp, Bool.false_eq_true, if_false, Nat.pos_iff_ne_zero.mp hc, Broker.receive,
    hf, if_true, receiveFault]

theorem begin_fails {l : Loop} (hl : l.lanes = []) (hc : 0 < l.config.concurrency) (now : Nat)
    {st : Handler.State σ} (hb : st.broker = { failingReceives := 1 }) :
    (l.begin br false now k st).1 =
      { l with backlog := [] }.activate.fail now k (receiveFault l.config.queue) := by
  have he : st.broker.answer .ensureQueue = (none, st.broker) :=
    Broker.answer_of_pending_nil (by simp [hb, Outage.pending])
  have hr : (st.broker.ensureQueue l.config.queue).answer .recover =
      (none, st.broker.ensureQueue l.config.queue) :=
    Broker.answer_of_pending_nil (by simp [hb, Outage.pending])
  have hv : (st.broker.ensureQueue l.config.queue).recover l.config.queue recoverBatch = [] :=
    Broker.recover_of_unsettled_nil (by rw [Broker.stream_ensureQueue, hb]; rfl) _
  rw [Loop.begin]
  simp only [he, hr, hv, List.filter_nil, Loop.unload, readBound]
  refine (read_fails (σ := σ) br k ?_ ?_ ?_ ?_ now _).trans ?_
  · simpa using hl
  · simpa using hc
  · simp [hb]
  · simp [hb]
  · simp

structure Poised (c : Config) (now n : Nat) (l : Loop) : Prop where
  config : l.config = c
  lanes : l.lanes = []
  retries : l.status.retries = n
  stage : l.stage = .waiting ∨ ∃ till ≤ now, l.stage = .resting till

theorem Poised.react_runs {c : Config} {now n : Nat} {l : Loop} (h : l.Poised c now n)
    (st : Handler.State σ) : (l.react br false now k st).1 = (l.begin br false now k st).1 := by
  rw [Loop.react, wake_idle br now st h.lanes]
  dsimp only
  rcases h.stage with hs | ⟨till, ht, hs⟩
  · simp only [hs]
  · simp only [hs, Bool.false_eq_true, if_false, ht, if_true]

variable {c : Config} {now n : Nat} {l : Loop} (st : Handler.State σ)

theorem Poised.react_rests (h : l.Poised c now n) (hc : 0 < c.concurrency)
    (hb : st.broker = { failingReceives := 1 }) (hn : n < RetryPolicy.maxRetries)
    (ha : c.effectiveRetry.allows (n + 1) = true) (hz : (c.effectiveRetry.pause k (n + 1)).nanos = 0) :
    (l.react br false now k st).1.Poised c now (n + 1) := by
  have hl' : ({ l with backlog := [] } : Loop).activate.config = c := by simp [h.config]
  have hr' : ({ l with backlog := [] } : Loop).activate.status.retries = n := by simp [h.retries]
  rw [h.react_runs, begin_fails br k h.lanes (h.config ▸ hc) now hb,
    fail_of_allows (hr' ▸ hn) (by rw [hl', hr']; exact ha)]
  refine ⟨by simp [h.config], by simp [h.lanes], by simp [h.retries], .inr ⟨_, ?_, rfl⟩⟩
  simp [h.config, h.retries, hz]

theorem Poised.react_crashes (h : l.Poised c now RetryPolicy.maxRetries) (hc : 0 < c.concurrency)
    (hb : st.broker = { failingReceives := 1 }) :
    (l.react br false now k st).1.stage = .crashed Panic.addOverflow := by
  have hr' : ({ l with backlog := [] } : Loop).activate.status.retries = RetryPolicy.maxRetries := by
    simp [h.retries]
  rw [h.react_runs, begin_fails br k h.lanes (h.config ▸ hc) now hb,
    fail_crashes (by rw [hr']; exact Nat.lt_irrefl _)]
  rfl

end Overflow

def countEndConfig : Config :=
  ((Config.make "player" .insert).withConcurrency 1).withRetry
    ⟨Span.zero, Span.zero, some RetryPolicy.maxRetries, false⟩

theorem countEndConfig_retry : countEndConfig.effectiveRetry =
    ⟨Span.zero, Span.zero, some RetryPolicy.maxRetries, false⟩ := rfl

theorem countEndConfig_pause (k : Fin 50) (n : Nat) :
    (countEndConfig.effectiveRetry.pause k n).nanos = 0 := by
  simp [countEndConfig_retry, RetryPolicy.pause, RetryPolicy.delay, Span.mulSat, Span.min, Span.zero]

theorem play_append {σ : Type} [Backend σ] (l : Loop) (ts us : List (Turn σ)) :
    l.play (ts ++ us) = (l.play ts).play us :=
  List.foldl_append

theorem play_singleton {σ : Type} [Backend σ] (l : Loop) (t : Turn σ) :
    l.play [t] = (l.react t.bridge t.stopping t.now t.jitter t.state).1 :=
  rfl

theorem play_failingTurns_poised {σ : Type} [Backend σ] (t : Turn σ) (hs : t.stopping = false)
    (hb : t.state.broker = { failingReceives := 1 }) :
    ∀ m n (l : Loop), l.Poised countEndConfig t.now n → n + m ≤ RetryPolicy.maxRetries →
      (l.play (List.replicate m t)).Poised countEndConfig t.now (n + m)
  | 0, n, l, h, _ => h
  | m + 1, n, l, h, hm => by
    rw [List.replicate_succ, ← List.singleton_append, play_append, play_singleton, hs]
    have h' := h.react_rests t.bridge t.jitter t.state (by decide) hb (by omega)
      (by simp [countEndConfig_retry, RetryPolicy.allows]; omega) (countEndConfig_pause _ (n + 1))
    rw [show n + (m + 1) = n + 1 + m by omega]
    exact play_failingTurns_poised t hs hb m (n + 1) _ h' (by omega)

theorem play_overflowed {σ : Type} [Backend σ] (c : Config) (ts : List (Turn σ))
    (hs : ((start c).play ts).stage = .crashed Panic.addOverflow) :
    (∃ pre post, ((start c).play ts).trail = pre ++ post ∧
        failuresInRow pre = RetryPolicy.maxRetries + 1) ∧
      ((start c).play ts).status.isFailed = false ∧
      ∀ more : List (Turn σ), ((start c).play ts).play more = (start c).play ts := by
  have h := (start_sound c).play ts
  refine ⟨h.overflowed_iff.mp hs, ?_, play_finished h (by rw [hs]; rfl)⟩
  -- a crashed loop never published `stopped`
  cases hf : ((start c).play ts).status.isFailed with
  | false => rfl
  | true =>
    have hst : ((start c).play ts).status.state = .stopped := by
      simp only [Status.isFailed, Bool.and_eq_true, beq_iff_eq] at hf
      exact hf.1
    have := h.stage_of_stopped hst
    rw [hs] at this
    cases this

def failingTurn : Turn Script :=
  ⟨Bridge.ofSettings { consumerId := "worker" }, false, 0, 0,
    { broker := { failingReceives := 1 }, store := {}, clock := ⟨0, ⟨0⟩⟩, backend := { answers := [] } }⟩

def failingRun : List (Turn Script) := List.replicate (RetryPolicy.maxRetries + 1) failingTurn

/-- A subscription whose policy allows as many retries as a 32-bit count holds, its reads all
failing, crashes counting the next failure, its `2^32`-th in a row: it never ends failed and
does nothing more. -/
theorem play_crashes_at_count_end :
    countEndConfig.effectiveRetry.maxAttempts = some RetryPolicy.maxRetries ∧
    ((start countEndConfig).play failingRun).stage = .crashed Panic.addOverflow ∧
    (∃ pre post, ((start countEndConfig).play failingRun).trail = pre ++ post ∧
      failuresInRow pre = RetryPolicy.maxRetries + 1) ∧
    ((start countEndConfig).play failingRun).status.isFailed = false ∧
    ∀ more : List (Turn Script),
      ((start countEndConfig).play failingRun).play more = (start countEndConfig).play failingRun := by
  have h0 : (start countEndConfig).Poised countEndConfig failingTurn.now 0 := ⟨rfl, rfl, rfl, .inl rfl⟩
  have hp := play_failingTurns_poised failingTurn rfl rfl RetryPolicy.maxRetries 0 _ h0 (by omega)
  rw [Nat.zero_add] at hp
  have hs : ((start countEndConfig).play failingRun).stage = .crashed Panic.addOverflow := by
    rw [failingRun, List.replicate_succ', play_append, play_singleton]
    exact hp.react_crashes failingTurn.bridge failingTurn.jitter failingTurn.state (by decide) rfl
  exact ⟨rfl, hs, play_overflowed countEndConfig failingRun hs⟩

end Loop

end Relay.Subscription
