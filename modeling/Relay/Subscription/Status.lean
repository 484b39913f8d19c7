import Relay.Json.Basic
/-!
# The status of a subscription

A subscription starts, becomes active once it reads, falls back to retrying while reading
fails, drains its lanes when it is told to stop or runs out of retries, and ends stopped.
Its status names the queue, the state, the concurrency, how many failures in a row it is
retrying after and the last error; a subscription stopped with an error has failed.
-/
namespace Relay.Subscription

inductive State where
  | starting
  | active
  | retrying
  | draining
  | stopped
  deriving DecidableEq, Repr

namespace State

def name : State → String
  | .starting => "starting"
  | .active => "active"
  | .retrying => "retrying"
  | .draining => "draining"
  | .stopped => "stopped"

def code : State → Nat
  | .starting => 0
  | .active => 1
  | .retrying => 2
  | .draining => 3
  | .stopped => 4

def ofName? (s : String) : Option State :=
  [State.starting, .active, .retrying, .draining, .stopped].find? (·.name == s)

theorem ofName_name (s : State) : ofName? s.name = some s := by cases s <;> rfl

end State

structure Status where
  queue : String
  state : State
  concurrency : Nat
  retries : Nat := 0
  lastError : Option String := none
  deriving DecidableEq, Repr

namespace Status

def isFailed (s : Status) : Bool := s.state == .stopped && s.lastError.isSome

def toJson (s : Status) : Json :=
  Json.object [("queue", .str s.queue), ("state", .str s.state.name),
    ("concurrency", Json.ofNat s.concurrency), ("retries", Json.ofNat s.retries),
    ("last_error", Json.ofOption s.lastError)]

def report (s : Status) : Json :=
  Json.object [("queue", .str s.queue), ("state", .str s.state.name),
    ("concurrency", Json.ofNat s.concurrency), ("retries", Json.ofNat s.retries),
    ("last_error", Json.ofOption s.lastError), ("is_failed", .bool s.isFailed),
    ("code", Json.ofNat s.state.code)]

end Status

end Relay.Subscription
