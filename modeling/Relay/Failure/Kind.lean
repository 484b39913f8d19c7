import Relay.Span
/-!
# Kinds of failure

Every failure the bridge sees falls into one kind, and the kind alone says how it is
handled: how many times an operation is tried again in its lane, and how long to wait
between tries. Only resource exhaustion (three more tries, 200 ms doubling up to 2 s) and
unclassified failures (one more try, 100 ms doubling up to 1 s) are tried again; a missing
record is the one benign kind.
-/
namespace Relay.Failure

inductive Kind where
  | decode
  | validation
  | dataConflict
  | notFound
  | resourceExhausted
  | unclassified
  | transport
  deriving DecidableEq, Repr, Inhabited

namespace Kind

def all : List Kind :=
  [.decode, .validation, .dataConflict, .notFound, .resourceExhausted, .unclassified, .transport]

def name : Kind → String
  | .decode => "DECODE"
  | .validation => "VALIDATION"
  | .dataConflict => "DATA_CONFLICT"
  | .notFound => "NOT_FOUND"
  | .resourceExhausted => "RESOURCE_EXHAUSTED"
  | .unclassified => "UNCLASSIFIED"
  | .transport => "TRANSPORT"

def ofName? (s : String) : Option Kind := all.find? (·.name == s)

def maxRetries : Kind → Nat
  | .resourceExhausted => 3
  | .unclassified => 1
  | _ => 0

def baseDelayMs : Kind → Nat
  | .resourceExhausted => 200
  | .unclassified => 100
  | _ => 0

def maxDelayMs : Kind → Nat
  | .resourceExhausted => 2000
  | .unclassified => 1000
  | _ => 0

def msLimit : Nat := Nat.pow 2 64 - 1

def backoff (k : Kind) (attempt : Nat) : Span :=
  let factor := if attempt < 64 then Nat.min (Nat.pow 2 attempt) msLimit else msLimit
  Span.ofMillis (Nat.min (Nat.min (k.baseDelayMs * factor) msLimit) k.maxDelayMs)

def shouldRetry (k : Kind) (attempts : Nat) : Bool := attempts < k.maxRetries

def isBenign (k : Kind) : Bool := k == .notFound

end Kind

end Relay.Failure
