import Mathlib.Data.Nat.Find
import Mathlib.Order.Bounds.Defs
import Relay.Retry
/-!
# Retrying with backoff

A run of `RetryPolicy.retry` against an action whose call number `k` (from 0) answers
`outcome k`, logging the calls it makes and the waits it takes, the jitter for wait number `j`
(from 0) being `jitter j` (`runScripted`). The call number `i` ends the run exactly when
`stopsAt` holds of its outcome: it succeeded, or it failed and retry `i + 1` is not allowed or
not countable in 32 bits. The run makes as many calls as the first such `i` plus one, ends as
`ending` says of that call, and waits the pauses of retries `1` to `i` in order. A bound on the retries below `2^32 - 1` is thus reached before the count
overflows; the greatest bound is not, and a run that fails that often panics.
-/
namespace Relay.RetryPolicy

structure Log where
  calls : Nat
  waits : List Span

def logSleep (d : Span) : StateM Log Unit := modify fun l => { l with waits := l.waits ++ [d] }

def logDraw (jitter : Nat → Fin 50) : StateM Log (Fin 50) :=
  modifyGet fun l => (jitter l.waits.length, l)

def scripted {ε α : Type} (outcome : Nat → Except ε α) : StateM Log (Except ε α) :=
  modifyGet fun l => (outcome l.calls, { l with calls := l.calls + 1 })

section Run

variable {ε α : Type} (p : RetryPolicy) (jitter : Nat → Fin 50) (outcome : Nat → Except ε α)

def runScripted : Except Panic (Except ε α) × Log :=
  (p.retry (logDraw jitter) logSleep (scripted outcome)).run ⟨0, []⟩

def waitFor (n : Nat) : Span := p.pause (jitter (n - 1)) n

def stopsAt (o : Except ε α) (i : Nat) : Bool :=
  match o with
  | .ok _ => true
  | .error _ => !(decide (i < maxRetries) && p.allows (i + 1))

def ending (o : Except ε α) (i : Nat) : Except Panic (Except ε α) :=
  match o with
  | .ok a => .ok (.ok a)
  | .error e => if i < maxRetries then .ok (.error e) else .error Panic.addOverflow

theorem allows_of_le {j k : Nat} (h : p.allows k = true) (hjk : j ≤ k) : p.allows j = true := by
  unfold allows at h ⊢
  split at h
  · simp only [decide_eq_true_eq] at h ⊢; omega
  · rfl

theorem stopsAt_maxRetries (o : Except ε α) : p.stopsAt o maxRetries = true := by
  cases o <;> simp [stopsAt]

theorem stopsAt_of_failed {o : Except ε α} {i : Nat} (ho : o.isOk = false) (hi : i < maxRetries)
    (ha : p.allows (i + 1) = true) : p.stopsAt o i = false := by
  cases o with
  | ok a => cases ho
  | error e => simp [stopsAt, hi, ha]

theorem exists_first_stop :
    ∃ m, IsLeast {i | p.stopsAt (outcome i) i = true} m ∧ m ≤ maxRetries := by
  have hex : ∃ i, p.stopsAt (outcome i) i = true := ⟨maxRetries, stopsAt_maxRetries p _⟩
  refine ⟨Nat.find hex, ⟨Nat.find_spec hex, fun j hj => Nat.find_min' hex hj⟩, ?_⟩
  exact Nat.find_min' hex (stopsAt_maxRetries p _)

theorem retryFrom_stop {i : Nat} (w : List Span) (h : p.stopsAt (outcome i) i = true) :
    (p.retryFrom (logDraw jitter) logSleep (scripted outcome) i).run ⟨i, w⟩ =
      (ending (outcome i) i, ⟨i + 1, w⟩) := by
  rw [retryFrom]
  cases ho : outcome i with
  | ok a => simp [scripted, ho, ending]; rfl
  | error e =>
    by_cases hi : i < maxRetries
    · have ha : p.allows (i + 1) = false := by simpa [stopsAt, ho, hi] using h
      simp [scripted, ho, ending, hi, ha]; rfl
    · simp [scripted, ho, ending, hi]; rfl

theorem retryFrom_go {i : Nat} (w : List Span) (hw : w.length = i)
    (h : p.stopsAt (outcome i) i = false) :
    (p.retryFrom (logDraw jitter) logSleep (scripted outcome) i).run ⟨i, w⟩ =
      (p.retryFrom (logDraw jitter) logSleep (scripted outcome) (i + 1)).run
        ⟨i + 1, w ++ [p.waitFor jitter (i + 1)]⟩ := by
  rw [retryFrom]
  cases ho : outcome i with
  | ok a => simp [stopsAt, ho] at h
  | error e =>
    simp only [stopsAt, ho, Bool.not_eq_eq_eq_not, Bool.not_false, Bool.and_eq_true,
      decide_eq_true_eq] at h
    subst hw
    simp [scripted, ho, h, logSleep, logDraw, waitFor]

theorem retryFrom_run (d : Nat) {i : Nat} (w : List Span) (hw : w.length = i)
    (hgo : ∀ j, i ≤ j → j < i + d → p.stopsAt (outcome j) j = false)
    (hstop : p.stopsAt (outcome (i + d)) (i + d) = true) :
    (p.retryFrom (logDraw jitter) logSleep (scripted outcome) i).run ⟨i, w⟩ =
      (ending (outcome (i + d)) (i + d),
        ⟨i + d + 1, w ++ (List.range' (i + 1) d).map (p.waitFor jitter)⟩) := by
  -- one call goes on at each step, logging the pause of the retry it leads to
  induction d generalizing i w with
  | zero => simpa using retryFrom_stop p jitter outcome w hstop
  | succ d ih =>
    have hd : i + 1 + d = i + (d + 1) := by omega
    rw [retryFrom_go p jitter outcome w hw (hgo i le_rfl (by omega)),
      ih (w ++ [p.waitFor jitter (i + 1)]) (by simp [hw])
        (fun j hj hjd => hgo j (by omega) (by omega)) (by rwa [hd])]
    simp [hd, List.range'_succ]

theorem runScripted_of_first_stop {m : Nat} (hm : p.stopsAt (outcome m) m = true)
    (hgo : ∀ i < m, p.stopsAt (outcome i) i = false) :
    p.runScripted jitter outcome =
      (ending (outcome m) m, ⟨m + 1, (List.range' 1 m).map (p.waitFor jitter)⟩) := by
  have h := retryFrom_run p jitter outcome m (i := 0) [] rfl (fun j _ hj => hgo j (by omega))
    (by simpa using hm)
  simpa [runScripted, retry] using h

end Run

/-- Retrying with backoff, for every policy, every sequence of outcomes and every draw of the
jitter. The run waits the pauses of retries `1` to `calls - 1` in order, each with the jitter
drawn for it; for a policy without jitter these are its full delays. When call `k` (from 0) is the first to succeed, the policy allows retry `k` and `k` is a
32-bit count, the run answers that success after `k + 1` calls. With a bound `m` on the retries,
itself a 32-bit count, when the first `m + 1` calls fail the run makes `m + 1` calls and answers
the last failure, unless `m` is the greatest count, where counting that failure overflows. Without
a bound, when the first `2^32` calls fail the run panics after them. -/
theorem retry_stops_at_first_success_or_bound {ε α : Type} (p : RetryPolicy)
    (jitter : Nat → Fin 50) (outcome : Nat → Except ε α) :
    let r := p.runScripted jitter outcome
    r.2.waits = (List.range' 1 (r.2.calls - 1)).map (fun n => p.pause (jitter (n - 1)) n) ∧
    (∀ k a, outcome k = .ok a → (∀ i < k, (outcome i).isOk = false) → p.allows k = true →
      k ≤ maxRetries → r.1 = .ok (.ok a) ∧ r.2.calls = k + 1) ∧
    (∀ m e, p.maxAttempts = some m → m ≤ maxRetries → outcome m = .error e →
      (∀ i < m, (outcome i).isOk = false) →
      r.2.calls = m + 1 ∧ r.1 = if m < maxRetries then .ok (.error e) else .error Panic.addOverflow) ∧
    (p.maxAttempts = none → (∀ i ≤ maxRetries, (outcome i).isOk = false) →
      r.1 = .error Panic.addOverflow ∧ r.2.calls = maxRetries + 1) := by
  intro r
  refine ⟨?waits, ?success, ?bounded, ?unbounded⟩
  case waits =>
    -- whatever the outcomes, the run ends at the first call that stops it
    obtain ⟨m, ⟨hm, hleast⟩, -⟩ := exists_first_stop p outcome
    have hgo : ∀ i < m, p.stopsAt (outcome i) i = false := fun i hi =>
      Bool.eq_false_iff.mpr fun h => absurd (hleast h) (by omega)
    simp [r, runScripted_of_first_stop p jitter outcome hm hgo, waitFor]
  case success =>
    intro k a hk hfail ha hkmax
    have hgo : ∀ i < k, p.stopsAt (outcome i) i = false := fun i hi =>
      stopsAt_of_failed p (hfail i hi) (by omega) (allows_of_le p ha (by omega))
    have hstop : p.stopsAt (outcome k) k = true := by simp [stopsAt, hk]
    simp [r, runScripted_of_first_stop p jitter outcome hstop hgo, ending, hk]
  case bounded =>
    -- call `m` stops the run: retry `m + 1` is beyond the bound, or the count would overflow
    intro m e hb hmax he hfail
    have hgo : ∀ i < m, p.stopsAt (outcome i) i = false := fun i hi =>
      stopsAt_of_failed p (hfail i hi) (by omega) (by simp [allows, hb]; omega)
    have hstop : p.stopsAt (outcome m) m = true := by simp [stopsAt, allows, he, hb]
    simp [r, runScripted_of_first_stop p jitter outcome hstop hgo, ending, he]
  case unbounded =>
    intro hn hfail
    have hgo : ∀ i < maxRetries, p.stopsAt (outcome i) i = false := fun i hi =>
      stopsAt_of_failed p (hfail i (Nat.le_of_lt hi)) hi (by simp [allows, hn])
    obtain ⟨e, he⟩ : ∃ e, outcome maxRetries = .error e := by
      cases ho : outcome maxRetries with
      | ok a => exact absurd (hfail maxRetries le_rfl) (by simp [ho, Except.isOk, Except.toBool])
      | error e => exact ⟨e, rfl⟩
    simp [r, runScripted_of_first_stop p jitter outcome (stopsAt_maxRetries p _) hgo, ending, he]

/-- Two failures and then a success, with two retries allowed: the run answers the success
after three calls, having waited 1 ms and 2 ms. -/
theorem retry_recovers_within_bound :
    let p : RetryPolicy := ⟨Span.ofMillis 1, Span.ofMillis 5, some 2, false⟩
    let outcome : Nat → Except String Nat := fun k => if k < 2 then .error "down" else .ok 7
    outcome 2 = .ok 7 ∧ (∀ i < 2, (outcome i).isOk = false) ∧ p.allows 2 = true ∧
      2 ≤ maxRetries ∧ (p.runScripted (fun _ => 0) outcome).1 = .ok (.ok 7) ∧
      (p.runScripted (fun _ => 0) outcome).2.calls = 3 := by
  intro p outcome
  have ho : outcome 2 = .ok 7 := rfl
  have hfail : ∀ i < 2, (outcome i).isOk = false := by decide
  have ha : p.allows 2 = true := rfl
  have hmax : 2 ≤ maxRetries := by decide
  exact ⟨ho, hfail, ha, hmax,
    (retry_stops_at_first_success_or_bound p (fun _ => 0) outcome).2.1 2 7 ho hfail ha hmax⟩

/-- With the greatest bound a 32-bit count allows and an action that always fails, the run
panics after `2^32` calls rather than answering the last failure. -/
theorem retry_overflows_at_greatest_bound :
    let p : RetryPolicy := ⟨Span.zero, Span.zero, some maxRetries, false⟩
    let r := p.runScripted (fun _ => 0) (fun _ => (.error "x" : Except String Unit))
    r.1 = .error Panic.addOverflow ∧ r.2.calls = maxRetries + 1 := by
  intro p r
  have hgo : ∀ i < maxRetries, p.stopsAt (.error "x" : Except String Unit) i = false :=
    fun i hi => stopsAt_of_failed p rfl hi (by simp [p, allows]; omega)
  simp [r, runScripted_of_first_stop p _ _ (stopsAt_maxRetries p _) hgo, ending]

end Relay.RetryPolicy
