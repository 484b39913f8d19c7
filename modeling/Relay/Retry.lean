import Relay.Clock
/-!
# Retry policies

A retry policy waits `base` before the first retry and doubles the wait for each later one,
never beyond `cap`; the doubling stops at 2^31 and the product saturates at `Span.max`. A
bounded policy allows attempts up to `maxAttempts`, counting retries from 1. With `jitter`
the wait is scaled by one of the fifty factors 0.50, 0.51, …, 0.99, drawn at random for each
wait; `pause` takes the draw as its input. The scaled wait is rounded to the nearest
nanosecond; `Duration::mul_f64` computes it in 64-bit floating point, which can fall on the
other side of a half nanosecond, and past 2^53 nanoseconds be a nanosecond or more away.

`RetryPolicy.retry` calls an action until it succeeds or the policy allows no further retry,
waiting between the calls. It counts the retries in 32 bits, so a run that fails more often
than that panics.
-/
namespace Relay

structure RetryPolicy where
  base : Span
  cap : Span
  maxAttempts : Option Nat
  jitter : Bool
  deriving DecidableEq, Repr

namespace RetryPolicy

def standard : RetryPolicy := ⟨Span.ofSecs 2, Span.ofSecs 30, some 3, true⟩

def withWaits (base cap : Span) : RetryPolicy := { standard with base, cap }

def isBounded (p : RetryPolicy) : Bool := p.maxAttempts.isSome

def allows (p : RetryPolicy) (attempt : Nat) : Bool :=
  match p.maxAttempts with
  | some m => attempt ≤ m
  | none => true

def delay (p : RetryPolicy) (attempt : Nat) : Span :=
  (p.base.mulSat (Nat.pow 2 (Nat.min (attempt - 1) 31))).min p.cap

def pause (p : RetryPolicy) (k : Fin 50) (attempt : Nat) : Span :=
  if p.jitter then (p.delay attempt).scaleBy (50 + k.val) 100 else p.delay attempt

def maxRetries : Nat := Nat.pow 2 32 - 1

/-- Calls `op` until it succeeds or the policy allows no further retry, waiting with `sleep` for
`p.pause k n` before retry number `n`, `k` drawn by `draw`; `failed` is the number of calls
failed so far. Counting a failure beyond `maxRetries` overflows the count. -/
def retryFrom {μ : Type → Type} [Monad μ] {ε α : Type} (p : RetryPolicy) (draw : μ (Fin 50))
    (sleep : Span → μ Unit) (op : μ (Except ε α)) (failed : Nat) : μ (Except Panic (Except ε α)) := do
  match ← op with
  | .ok a => pure (.ok (.ok a))
  | .error e =>
    if h : failed < maxRetries then
      if p.allows (failed + 1) then
        sleep (p.pause (← draw) (failed + 1))
        retryFrom p draw sleep op (failed + 1)
      else pure (.ok (.error e))
    else pure (.error Panic.addOverflow)
termination_by maxRetries - failed

def retry {μ : Type → Type} [Monad μ] {ε α : Type} (p : RetryPolicy) (draw : μ (Fin 50))
    (sleep : Span → μ Unit) (op : μ (Except ε α)) : μ (Except Panic (Except ε α)) :=
  retryFrom p draw sleep op 0

example : standard.delay 1 = Span.ofSecs 2 := by decide

end RetryPolicy

end Relay
