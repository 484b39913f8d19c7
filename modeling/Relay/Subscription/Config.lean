import Relay.Verb
import Relay.Retry
/-!
# Subscription configuration

A subscription consumes one queue for one resource and verb. Its configuration says how many
deliveries it works on at once (at least one; by default three for reads and one for
writes), whether its queue has priority, how long a read from the broker may block, how long
an unsettled entry waits before it is taken over, how often that is checked, how long
shutdown may wait for work in hand, and how the subscription retries after transport
failures. A priority subscription never gives up: its effective retry policy is unbounded.
-/
namespace Relay.Subscription

def readCeiling : Nat := 3

def writeCeiling : Nat := 1

structure Config where
  queue : String
  resource : String
  verb : Verb
  concurrency : Nat
  priority : Bool
  block : Span
  claimTimeout : Span
  claimInterval : Span
  drainTimeout : Span
  retry : RetryPolicy
  deriving DecidableEq, Repr

namespace Config

def make (resource : String) (verb : Verb) : Config :=
  { queue := verb.queue resource, resource, verb,
    concurrency := verb.ceiling readCeiling writeCeiling, priority := false,
    block := Span.ofSecs 1, claimTimeout := Span.ofSecs 30, claimInterval := Span.ofSecs 5,
    drainTimeout := Span.ofSecs 10, retry := RetryPolicy.standard }

def withQueue (c : Config) (q : String) : Config := { c with queue := q }

def withConcurrency (c : Config) (n : Nat) : Config := { c with concurrency := Nat.max n 1 }

def withPriority (c : Config) (p : Bool) : Config := { c with priority := p }

def withBlock (c : Config) (d : Span) : Config := { c with block := d }

def withClaimTimeout (c : Config) (d : Span) : Config := { c with claimTimeout := d }

def withClaimInterval (c : Config) (d : Span) : Config := { c with claimInterval := d }

def withDrainTimeout (c : Config) (d : Span) : Config := { c with drainTimeout := d }

def withRetry (c : Config) (p : RetryPolicy) : Config := { c with retry := p }

def effectiveRetry (c : Config) : RetryPolicy :=
  if c.priority then { c.retry with maxAttempts := none } else c.retry

theorem concurrency_pos (c : Config) (n : Nat) : 0 < (c.withConcurrency n).concurrency :=
  Nat.lt_of_lt_of_le Nat.zero_lt_one (Nat.le_max_right n 1)

end Config

end Relay.Subscription
