import Mathlib
import Relay.Retry
import Relay.Failure.Kind
/-!
# The waits of backoff

Two schedules double a base up to a cap. A retry policy's full wait before retry `a` (the wait
it takes when jitter is off) is `base · 2^min(a - 1, 31)`, the product saturating at
`Span.max`, then capped at `cap`. A kind of failure waits `base_k · 2^a` milliseconds, where
the power and the product saturate at 64 bits, capped at `max_k`.

Both waits are non-decreasing in the attempt and never exceed their cap, for every base and
cap, also past the point where the doubling saturates (`backoff_waits_double_up_to_cap`). For
the kinds, saturating twice is saturating once (`satMul_satPow`), and since every cap is far
below 2^64 the saturation never shows: the wait is `min(base_k · 2^a, max_k)` ms.
-/
namespace Relay

@[simp] theorem Span.mulSat_nanos (d : Span) (k : Nat) :
    (d.mulSat k).nanos = Min.min (d.nanos * k) Span.max.nanos := rfl

@[simp] theorem Span.min_nanos (a b : Span) : (a.min b).nanos = Min.min a.nanos b.nanos := by
  unfold Span.min
  split <;> omega

@[simp] theorem Span.ofMillis_nanos (ms : Nat) : (Span.ofMillis ms).nanos = ms * 1000000 := rfl

theorem Span.le_iff_nanos {a b : Span} : a ≤ b ↔ a.nanos ≤ b.nanos := Iff.rfl

namespace RetryPolicy

variable (p : RetryPolicy)

theorem delay_nanos (a : Nat) :
    (p.delay a).nanos = min (min (p.base.nanos * 2 ^ min (a - 1) 31) Span.max.nanos) p.cap.nanos := by
  simp only [delay, Span.min_nanos, Span.mulSat_nanos, Nat.pow_eq]

theorem delay_mono {a b : Nat} (h : a ≤ b) : p.delay a ≤ p.delay b := by
  rw [Span.le_iff_nanos, delay_nanos, delay_nanos]
  -- the exponent, clamped at 31, grows with the attempt; the rest is monotone in it
  have he : min (a - 1) 31 ≤ min (b - 1) 31 := by omega
  gcongr
  omega

theorem delay_le_cap (a : Nat) : p.delay a ≤ p.cap := by
  rw [Span.le_iff_nanos, delay_nanos]
  exact min_le_right _ _

end RetryPolicy

namespace Failure.Kind

theorem msLimit_eq : msLimit = 2 ^ 64 - 1 := by simp [msLimit, Nat.pow_eq]

theorem satMul_satPow (base a : Nat) :
    min (base * (if a < 64 then min (2 ^ a) msLimit else msLimit)) msLimit =
      min (base * 2 ^ a) msLimit := by
  split
  · -- below 64 the power itself fits
    rename_i ha
    have hpow : 2 ^ a ≤ 2 ^ 63 := Nat.pow_le_pow_right (by norm_num) (by omega)
    have hfit : 2 ^ a ≤ msLimit := by rw [msLimit_eq]; omega
    rw [min_eq_left hfit]
  · -- from 64 on, both sides are the limit unless the base is zero
    rename_i ha
    rcases Nat.eq_zero_or_pos base with rfl | hb
    · simp
    · have hbig : msLimit ≤ base * 2 ^ a := by
        have : 2 ^ 64 ≤ 2 ^ a := Nat.pow_le_pow_right (by norm_num) (by omega)
        calc msLimit ≤ 2 ^ a := by rw [msLimit_eq]; omega
          _ ≤ base * 2 ^ a := Nat.le_mul_of_pos_left _ hb
      rw [min_eq_right (Nat.le_mul_of_pos_left _ hb), min_eq_right hbig]

theorem maxDelayMs_le_msLimit (k : Kind) : k.maxDelayMs ≤ msLimit := by
  cases k <;> simp [maxDelayMs, msLimit_eq]

theorem backoff_eq (k : Kind) (a : Nat) :
    k.backoff a = Span.ofMillis (min (min (k.baseDelayMs * 2 ^ a) msLimit) k.maxDelayMs) := by
  unfold backoff
  exact congrArg (fun m => Span.ofMillis (min m k.maxDelayMs)) (satMul_satPow k.baseDelayMs a)

theorem backoff_mono (k : Kind) {a b : Nat} (h : a ≤ b) : k.backoff a ≤ k.backoff b := by
  rw [Span.le_iff_nanos, backoff_eq, backoff_eq, Span.ofMillis_nanos, Span.ofMillis_nanos]
  have hp : 2 ^ a ≤ 2 ^ b := Nat.pow_le_pow_right (by norm_num) h
  gcongr

theorem backoff_le_max (k : Kind) (a : Nat) : k.backoff a ≤ Span.ofMillis k.maxDelayMs := by
  rw [Span.le_iff_nanos, backoff_eq, Span.ofMillis_nanos, Span.ofMillis_nanos]
  gcongr
  exact min_le_right _ _

end Failure.Kind

/-- Backoff, for every retry policy and every kind of failure: the full wait of the policy
before retry `a` is the base doubled `min(a - 1, 31)` times, saturated at `Span.max` and capped;
the wait of the kind is its base doubled `a` times in saturating 64-bit milliseconds, capped.
Each is non-decreasing in the attempt and never exceeds its cap. -/
theorem backoff_waits_double_up_to_cap (p : RetryPolicy) (k : Failure.Kind) :
    (∀ a, (p.delay a).nanos =
        min (min (p.base.nanos * 2 ^ min (a - 1) 31) Span.max.nanos) p.cap.nanos) ∧
      (∀ a b, a ≤ b → p.delay a ≤ p.delay b) ∧ (∀ a, p.delay a ≤ p.cap) ∧
      (∀ a, k.backoff a =
        Span.ofMillis (min (min (k.baseDelayMs * 2 ^ a) Failure.Kind.msLimit) k.maxDelayMs)) ∧
      (∀ a b, a ≤ b → k.backoff a ≤ k.backoff b) ∧
      (∀ a, k.backoff a ≤ Span.ofMillis k.maxDelayMs) :=
  ⟨p.delay_nanos, fun _ _ => p.delay_mono, p.delay_le_cap, k.backoff_eq, fun _ _ => k.backoff_mono,
    k.backoff_le_max⟩

example : RetryPolicy.standard.delay 40 = Span.ofSecs 30 := by decide

end Relay
