import Relay.Failure
import Relay.Span
/-!
# What goes wrong with players

The faults of the players' store and service, and the operation failure each one is told
as: a missing player is `notFound`, a taken name or a stale version a `conflict`, broken rules
a `validation`, a saturated pool `exhausted`, and anything else `other`, left to the
classifier to sort by its words.
-/
namespace Relay.Player

inductive Fault where
  | notFound (name : String)
  | duplicateName (name : String)
  | versionConflict (name : String) (expected actual : Nat)
  | invalid (why : String)
  | poolExhausted (waited : Span)
  | internal (why : String)
  deriving DecidableEq, Repr

namespace Fault

def message : Fault → String
  | .notFound name => "player " ++ name
  | .duplicateName name => "Duplicate key '" ++ name ++ "'"
  | .versionConflict name expected actual =>
    "player " ++ name ++ " is at version " ++ toString actual ++ ", update expected " ++
      toString expected
  | .invalid why => "Invalid input: " ++ why
  | .poolExhausted waited => "connection pool exhausted after " ++ waited.text
  | .internal why => "Internal error: " ++ why

def toFailure (f : Fault) : Failure :=
  match f with
  | .notFound _ => .notFound f.message
  | .duplicateName _ | .versionConflict .. => .conflict f.message
  | .invalid why => .validation why
  | .poolExhausted _ => .exhausted f.message
  | .internal why => .other why

end Fault

end Relay.Player
