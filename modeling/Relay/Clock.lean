import Relay.Span
import Relay.Time
/-!
# Clocks and panics

A `Clock` holds the two readings a call may take: the monotonic clock, in nanoseconds since
the bridge started, against which entries expire, and the wall clock, which is written into
records and results. Time advances only by `Clock.advance`.

A `Panic` is a defect that halts the program with a message: arithmetic leaving the range of
its machine integers, or a deadline past the end of the monotonic clock (2^63 seconds).
-/
namespace Relay

structure Panic where
  message : String
  deriving DecidableEq, Repr

namespace Panic

def addOverflow : Panic := ⟨"attempt to add with overflow"⟩

def subOverflow : Panic := ⟨"attempt to subtract with overflow"⟩

def instantOverflow : Panic := ⟨"overflow when adding duration to instant"⟩

end Panic

def int64Max : Int := Int.ofNat (Nat.pow 2 63) - 1

def int64Min : Int := -Int.ofNat (Nat.pow 2 63)

def fitsInt64 (i : Int) : Bool := int64Min ≤ i && i ≤ int64Max

structure Clock where
  mono : Nat
  wall : Moment
  deriving DecidableEq, Repr, Inhabited

namespace Clock

def advance (c : Clock) (d : Span) : Clock :=
  ⟨c.mono + d.nanos, ⟨c.wall.ms + ((c.mono + d.nanos) / 1000000 - c.mono / 1000000 : Nat)⟩⟩

def monoEnd : Nat := Int.toNat int64Max * Span.nanosPerSec + (Span.nanosPerSec - 1)

def deadline (c : Clock) (d : Span) : Except Panic Nat :=
  if c.mono + d.nanos ≤ monoEnd then .ok (c.mono + d.nanos) else .error .instantOverflow

theorem deadline_error {c : Clock} {d : Span} {p : Panic} (h : c.deadline d = .error p) :
    p = .instantOverflow := by
  unfold deadline at h
  split at h
  · cases h
  · exact (Except.error.inj h).symm

end Clock

end Relay
