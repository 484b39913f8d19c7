import Relay.Proofs.Producing
/-!
# Claiming a request, one call at a time

`Guard.claimRounds` makes its calls of the store (`setIfAbsent`, `get`, `compareAndSwap`)
back to back. Workers racing for one request interleave between those calls, so the proofs
about races take a claim apart into `Claiming.step`, one call each, and `claimRounds` is
these steps run with one clock reading (`steps_claimRounds`).

The lemmas about `Guard.judge` say when a stored record is left to its owner, replayed or
taken over, and `Guard.age` grows with the clock.
-/
namespace Relay.Cache.Guard

variable {g : Guard} {now : Moment} {deliveryId raw : String} {rec : ClaimRecord}

theorem age_mono {w₀ w₁ : Moment} {a₀ a₁ : Span} (h₀ : age w₀ rec = .ok a₀)
    (h₁ : age w₁ rec = .ok a₁) (hw : w₀.ms ≤ w₁.ms) : a₀.nanos ≤ a₁.nanos := by
  dsimp only [age] at h₀ h₁
  split at h₀ <;> split at h₁ <;> cases h₀ <;> cases h₁
  simp only [Span.ofMillis]
  have : (w₀.ms - rec.claimedAtMs).toNat ≤ (w₁.ms - rec.claimedAtMs).toNat := by omega
  exact Nat.mul_le_mul_right _ this

theorem judge_completed (h : ClaimRecord.decode raw = .ok rec) (hs : rec.state = .completed)
    {m : Reply} (hm : rec.result = some m) :
    g.judge now deliveryId raw = .ok (.inl (.completed m)) ∨
      ∃ p, g.judge now deliveryId raw = .error p := by
  cases ha : age now rec with
  | error p => exact .inr ⟨p, by simp [judge, h, ha, bind, Except.bind]⟩
  | ok a => exact .inl (by simp [judge, h, ha, hs, hm, bind, Except.bind, pure, Except.pure])

theorem judge_abandoned {previous : Option String}
    (h : g.judge now deliveryId raw = .ok (.inr previous)) :
    (∃ e, ClaimRecord.decode raw = .error e) ∨
    ∃ rec a, ClaimRecord.decode raw = .ok rec ∧ age now rec = .ok a ∧
      (rec.state = .inFlight ∧ ¬ a < g.liveness ∨ rec.state = .completed ∧ rec.result = none) := by
  unfold judge at h
  split at h
  · rename_i e he
    exact .inl ⟨e, he⟩
  · rename_i rec' hd
    refine .inr ⟨rec', ?_⟩
    cases ha : age now rec' with
    | error p => simp [ha, bind, Except.bind] at h
    | ok a =>
      refine ⟨a, hd, rfl, ?_⟩
      simp only [ha, bind, Except.bind, pure, Except.pure] at h
      cases hs : rec'.state <;> cases hr : rec'.result <;> simp only [hs, hr] at h
      · split at h
        · cases h
        · rename_i hl
          exact .inl ⟨rfl, by simpa using hl⟩
      · split at h
        · cases h
        · rename_i hl
          exact .inl ⟨rfl, by simpa using hl⟩
      · exact .inr ⟨rfl, rfl⟩
      · cases h

theorem judge_final {x : Claim} (h : g.judge now deliveryId raw = .ok (.inl x)) :
    (∃ m, x = .completed m) ∨ ∃ same o, x = .inFlight same o := by
  unfold judge at h
  split at h
  · cases h
  · rename_i rec' _
    cases ha : age now rec' with
    | error p => simp [ha, bind, Except.bind] at h
    | ok a =>
      simp only [ha, bind, Except.bind, pure, Except.pure] at h
      cases hs : rec'.state <;> cases hr : rec'.result <;> simp only [hs, hr] at h
      · -- in flight: left to its owner while live
        split at h <;> cases h
        exact .inr ⟨_, _, rfl⟩
      · split at h <;> cases h
        exact .inr ⟨_, _, rfl⟩
      · cases h
      · cases h
        exact .inl ⟨_, rfl⟩

theorem judge_ok
    (h : ∀ rec, ClaimRecord.decode raw = .ok rec → fitsInt64 (now.ms - rec.claimedAtMs)) :
    ∃ x, g.judge now deliveryId raw = .ok x := by
  cases hd : ClaimRecord.decode raw with
  | error e => exact ⟨.inr none, by simp [judge, hd]⟩
  | ok rec =>
    have ha : age now rec = .ok (Span.ofMillis (now.ms - rec.claimedAtMs).toNat) := by
      simp [age, h rec hd]
    simp only [judge, hd, ha, bind, Except.bind, pure, Except.pure]
    -- an in-flight record is left to its owner or taken over, by its age
    cases rec.state <;> cases rec.result <;>
      by_cases hl : Span.ofMillis (now.ms - rec.claimedAtMs).toNat < g.liveness <;> simp [hl]

theorem claimRounds_ok {c : Clock} {k fresh : String} {s : Store}
    (hd : c.mono + g.ttl.nanos ≤ Clock.monoEnd)
    (hage : ∀ raw rec, s.live? c.mono k = some raw → ClaimRecord.decode raw = .ok rec →
      fitsInt64 (c.wall.ms - rec.claimedAtMs)) (n : Nat) :
    ∃ claim s', g.claimRounds c k fresh deliveryId n s = .ok (claim, s') ∧
      (s' = s ∨ ∃ e, s' = s.put k e) := by
  have hfresh : Store.fresh c fresh g.ttl = .ok ⟨fresh, some (c.mono + g.ttl.nanos)⟩ := by
    simp [Store.fresh, Clock.deadline, hd]
  cases n with
  | zero => exact ⟨_, s, rfl, .inl rfl⟩
  | succ n =>
    by_cases ha : s.available = true
    · cases hl : s.live? c.mono k with
      | none =>
        -- the key is free: the record is written
        refine ⟨.acquired, s.put k ⟨fresh, some (c.mono + g.ttl.nanos)⟩, ?_, .inr ⟨_, rfl⟩⟩
        simp [claimRounds, Store.setIfAbsent_ok s c ha, hl, hfresh, Except.map]
      | some raw =>
        obtain ⟨x, hx⟩ : ∃ x, g.judge c.wall deliveryId raw = .ok x :=
          judge_ok fun rec h => hage raw rec hl h
        cases x with
        | inl claim =>
          refine ⟨claim, s, ?_, .inl rfl⟩
          simp [claimRounds, Store.setIfAbsent_ok s c ha, hl, Store.get_ok s c ha, hx]
        | inr previous =>
          -- nobody else writes in between, so the swap of an abandoned record succeeds
          refine ⟨.reclaimed previous, s.put k ⟨fresh, some (c.mono + g.ttl.nanos)⟩, ?_,
            .inr ⟨_, rfl⟩⟩
          simp [claimRounds, Store.setIfAbsent_ok s c ha, hl, Store.get_ok s c ha, hx,
            Store.compareAndSwap_ok s c ha, hfresh, Except.map]
    · -- a switched-off store degrades the claim
      refine ⟨.degraded Store.offline, s, ?_, .inl rfl⟩
      simp [claimRounds, Store.setIfAbsent, Store.check, ha, bind, Except.bind]

end Relay.Cache.Guard

namespace Relay.Concurrent

open Cache

inductive Claiming where
  | setting (left : Nat)
  | fetching (left : Nat)
  | swapping (left : Nat) (raw : String) (previous : Option String)
  | decided (c : Claim)

namespace Claiming

variable (g : Guard) (c : Clock) (k fresh deliveryId : String)

def step (s : Store) : Claiming → Except Panic (Claiming × Store)
  | .setting 0 => .ok (.decided (.inFlight true "contended"), s)
  | .setting (n + 1) =>
    match s.setIfAbsent c k fresh g.ttl with
    | .error (.panic p) => .error p
    | .error (.fault f) => .ok (.decided (.degraded f), s)
    | .ok (true, s) => .ok (.decided .acquired, s)
    | .ok (false, s) => .ok (.fetching (n + 1), s)
  | .fetching left =>
    match s.get c k with
    | .error (.panic p) => .error p
    | .error (.fault f) => .ok (.decided (.degraded f), s)
    | .ok none => .ok (.setting (left - 1), s)
    | .ok (some raw) =>
      match g.judge c.wall deliveryId raw with
      | .error p => .error p
      | .ok (.inl claim) => .ok (.decided claim, s)
      | .ok (.inr previous) => .ok (.swapping left raw previous, s)
  | .swapping left raw previous =>
    match s.compareAndSwap c k raw fresh g.ttl with
    | .error (.panic p) => .error p
    | .error (.fault f) => .ok (.decided (.degraded f), s)
    | .ok (true, s) => .ok (.decided (.reclaimed previous), s)
    | .ok (false, s) => .ok (.setting (left - 1), s)
  | .decided claim => .ok (.decided claim, s)

def steps : Nat → Claiming → Store → Except Panic (Claiming × Store)
  | 0, cl, s => .ok (cl, s)
  | n + 1, cl, s =>
    match step g c k fresh deliveryId s cl with
    | .ok (cl, s) => steps n cl s
    | .error p => .error p

theorem steps_decided (n : Nat) (claim : Claim) (s : Store) :
    steps g c k fresh deliveryId n (.decided claim) s = .ok (.decided claim, s) := by
  induction n with
  | zero => rfl
  | succ n ih => exact ih

theorem steps_step_ok {n : Nat} {cl cl' : Claiming} {s s' : Store}
    (h : step g c k fresh deliveryId s cl = .ok (cl', s')) :
    steps g c k fresh deliveryId (n + 1) cl s = steps g c k fresh deliveryId n cl' s' := by
  simp only [steps, h]

theorem steps_claimRounds (n j : Nat) (s : Store) :
    steps g c k fresh deliveryId (3 * n + 1 + j) (.setting n) s =
      (g.claimRounds c k fresh deliveryId n s).map fun (claim, s) => (.decided claim, s) := by
  induction n generalizing s j with
  | zero =>
    rw [show 3 * 0 + 1 + j = j + 1 by omega, steps_step_ok g c k fresh deliveryId rfl,
      steps_decided]
    rfl
  | succ n ih =>
    rw [show 3 * (n + 1) + 1 + j = (3 * n + 1 + j) + 2 + 1 by omega]
    -- the first call writes the record if the key is free
    cases hset : s.setIfAbsent c k fresh g.ttl with
    | error e =>
      cases e <;> simp [steps, step, steps_decided, Guard.claimRounds, hset, Except.map]
    | ok r =>
      obtain ⟨won, s'⟩ := r
      cases won with
      | true => simp [steps, step, steps_decided, Guard.claimRounds, hset, Except.map]
      | false =>
        rw [steps_step_ok g c k fresh deliveryId (show step g c k fresh deliveryId s (.setting (n + 1)) =
          .ok (.fetching (n + 1), s') by simp [step, hset])]
        -- the second reads what took the key
        cases hget : s'.get c k with
        | error e =>
          cases e <;> simp [steps, step, steps_decided, Guard.claimRounds, hset, hget, Except.map]
        | ok raw? =>
          cases raw? with
          | none =>
            rw [steps_step_ok g c k fresh deliveryId (show step g c k fresh deliveryId s'
              (.fetching (n + 1)) = .ok (.setting n, s') by simp [step, hget]),
              show 3 * n + 1 + j + 1 = 3 * n + 1 + (j + 1) by omega, ih]
            simp [Guard.claimRounds, hset, hget]
          | some raw =>
            cases hjudge : g.judge c.wall deliveryId raw with
            | error p =>
              simp [steps, step, Guard.claimRounds, hset, hget, hjudge, Except.map]
            | ok verdict =>
              cases verdict with
              | inl claim =>
                simp [steps, step, steps_decided, Guard.claimRounds, hset, hget, hjudge,
                  Except.map]
              | inr previous =>
                rw [steps_step_ok g c k fresh deliveryId (show step g c k fresh deliveryId s'
                  (.fetching (n + 1)) = .ok (.swapping (n + 1) raw previous, s') by
                    simp [step, hget, hjudge])]
                -- the third swaps the abandoned record for ours
                cases hcas : s'.compareAndSwap c k raw fresh g.ttl with
                | error e =>
                  cases e <;> simp [steps, step, steps_decided, Guard.claimRounds, hset, hget,
                    hjudge, hcas, Except.map]
                | ok r =>
                  obtain ⟨swapped, s''⟩ := r
                  cases swapped with
                  | true =>
                    simp [steps, step, steps_decided, Guard.claimRounds, hset, hget, hjudge,
                      hcas, Except.map]
                  | false =>
                    rw [steps_step_ok g c k fresh deliveryId (show step g c k fresh deliveryId s'
                      (.swapping (n + 1) raw previous) = .ok (.setting n, s'') by
                        simp [step, hcas]), ih]
                    simp [Guard.claimRounds, hset, hget, hjudge, hcas]

inductive Moves (s : Store) : Claiming → Claiming → Store → Prop
  | contended : Moves s (.setting 0) (.decided (.inFlight true "contended")) s
  | acquire {n t} : s.live? c.mono k = none → c.deadline g.ttl = .ok t →
      Moves s (.setting (n + 1)) (.decided .acquired) (s.put k ⟨fresh, some t⟩)
  | taken {n} : (s.live? c.mono k).isSome = true → Moves s (.setting (n + 1)) (.fetching (n + 1)) s
  | vanished {n} : s.live? c.mono k = none → Moves s (.fetching n) (.setting (n - 1)) s
  | judged {n raw x} : s.live? c.mono k = some raw → g.judge c.wall deliveryId raw = .ok (.inl x) →
      Moves s (.fetching n) (.decided x) s
  | abandoned {n raw previous} : s.live? c.mono k = some raw →
      g.judge c.wall deliveryId raw = .ok (.inr previous) →
      Moves s (.fetching n) (.swapping n raw previous) s
  | reclaim {n raw previous t} : s.live? c.mono k = some raw → c.deadline g.ttl = .ok t →
      Moves s (.swapping n raw previous) (.decided (.reclaimed previous)) (s.put k ⟨fresh, some t⟩)
  | lost {n raw previous} : s.live? c.mono k ≠ some raw →
      Moves s (.swapping n raw previous) (.setting (n - 1)) s
  | stays {x} : Moves s (.decided x) (.decided x) s

variable {g c k fresh deliveryId}

theorem step_moves {s s' : Store} {cl cl' : Claiming} (ha : s.available = true)
    (h : step g c k fresh deliveryId s cl = .ok (cl', s')) : Moves g c k fresh deliveryId s cl cl' s' := by
  cases cl with
  | setting n =>
    cases n with
    | zero => cases h; exact .contended
    | succ n =>
      by_cases hl : (s.live? c.mono k).isSome = true
      · simp only [step, Store.setIfAbsent_ok s c ha, hl, if_true] at h
        cases h
        exact .taken hl
      · have hn : s.live? c.mono k = none := by simpa using hl
        cases hd : c.deadline g.ttl with
        | error p => simp [step, Store.setIfAbsent_ok s c ha, hl, Store.fresh, hd, Except.map] at h
        | ok t =>
          simp only [step, Store.setIfAbsent_ok s c ha, hl, Store.fresh, hd, Except.map] at h
          cases h
          exact .acquire hn hd
  | fetching n =>
    cases hl : s.live? c.mono k with
    | none =>
      simp only [step, Store.get_ok s c ha, hl] at h
      cases h
      exact .vanished hl
    | some raw =>
      cases hj : g.judge c.wall deliveryId raw with
      | error p => simp [step, Store.get_ok s c ha, hl, hj] at h
      | ok v =>
        cases v with
        | inl x =>
          simp only [step, Store.get_ok s c ha, hl, hj] at h
          cases h
          exact .judged hl hj
        | inr previous =>
          simp only [step, Store.get_ok s c ha, hl, hj] at h
          cases h
          exact .abandoned hl hj
  | swapping n raw previous =>
    by_cases hl : s.live? c.mono k = some raw
    · cases hd : c.deadline g.ttl with
      | error p => simp [step, Store.compareAndSwap_ok s c ha, hl, Store.fresh, hd, Except.map] at h
      | ok t =>
        simp only [step, Store.compareAndSwap_ok s c ha, hl, ne_eq, not_true_eq_false, if_false,
          Store.fresh, hd, Except.map] at h
        cases h
        exact .reclaim hl hd
    · simp only [step, Store.compareAndSwap_ok s c ha, hl, ne_eq, not_false_eq_true, if_true] at h
      cases h
      exact .lost hl
  | decided x =>
    cases h
    exact .stays

end Claiming

end Relay.Concurrent
