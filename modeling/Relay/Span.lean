/-!
# Spans of time

A span is a whole number of nanoseconds, at most `Span.max` (2^64 - 1 seconds and
999 999 999 nanoseconds). Scaling saturates at that bound. `Span.text` writes a span in the
unit its size calls for (`ns`, `µs`, `ms` or `s`), with as many decimals as it needs and no
trailing zeros: `1.5s`, `250ms`, `1µs`.
-/
namespace Relay

structure Span where
  nanos : Nat
  deriving DecidableEq, Repr, Inhabited

namespace Span

def nanosPerSec : Nat := 1000000000

def max : Span := ⟨(Nat.pow 2 64 - 1) * nanosPerSec + (nanosPerSec - 1)⟩

def zero : Span := ⟨0⟩

def ofMillis (ms : Nat) : Span := ⟨ms * 1000000⟩

def ofSecs (s : Nat) : Span := ⟨s * nanosPerSec⟩

def toMillis (d : Span) : Nat := d.nanos / 1000000

instance : LE Span := ⟨fun a b => a.nanos ≤ b.nanos⟩
instance : LT Span := ⟨fun a b => a.nanos < b.nanos⟩
instance (a b : Span) : Decidable (a ≤ b) := inferInstanceAs (Decidable (a.nanos ≤ b.nanos))
instance (a b : Span) : Decidable (a < b) := inferInstanceAs (Decidable (a.nanos < b.nanos))

def min (a b : Span) : Span := if a.nanos ≤ b.nanos then a else b

def mulSat (d : Span) (k : Nat) : Span := ⟨Nat.min (d.nanos * k) max.nanos⟩

def add? (a b : Span) : Option Span :=
  if a.nanos + b.nanos ≤ max.nanos then some ⟨a.nanos + b.nanos⟩ else none

def decimals (frac unit : Nat) : String :=
  if frac = 0 then ""
  else
    let digits := (Nat.toDigits 10 (frac + unit)).drop 1
    "." ++ String.ofList ((digits.reverse.dropWhile (· = '0')).reverse)

def text (d : Span) : String :=
  let n := d.nanos
  if nanosPerSec ≤ n then
    toString (n / nanosPerSec) ++ decimals (n % nanosPerSec) nanosPerSec ++ "s"
  else if 1000000 ≤ n then toString (n / 1000000) ++ decimals (n % 1000000) 1000000 ++ "ms"
  else if 1000 ≤ n then toString (n / 1000) ++ decimals (n % 1000) 1000 ++ "µs"
  else toString n ++ "ns"

example : zero.text = "0ns" := by decide

def roundHalfEven (n d : Nat) : Nat :=
  if d < 2 * (n % d) ∨ (2 * (n % d) = d ∧ n / d % 2 = 1) then n / d + 1 else n / d

def scaleBy (d : Span) (num den : Nat) : Span := ⟨roundHalfEven (d.nanos * num) den⟩

end Span

end Relay
