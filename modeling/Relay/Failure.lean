import Relay.Failure.Kind
/-!
# Operation failures

The ways an operation can fail, as the domain reports them: the input is invalid, it
conflicts with the data, the thing asked for does not exist, a resource ran out, or
something else happened. `Relay.Failure.Classifier` sorts them into kinds.
-/
namespace Relay

inductive Failure where
  | validation (why : String)
  | conflict (why : String)
  | notFound (what : String)
  | exhausted (why : String)
  | other (why : String)
  deriving DecidableEq, Repr

namespace Failure

def message : Failure → String
  | .validation why => "validation failed: " ++ why
  | .conflict why => "conflict: " ++ why
  | .notFound what => what ++ " not found"
  | .exhausted why => "resource exhausted: " ++ why
  | .other why => why

def tag : Failure → String
  | .validation _ => "Validation"
  | .conflict _ => "Conflict"
  | .notFound _ => "NotFound"
  | .exhausted _ => "ResourceExhausted"
  | .other _ => "Other"

end Failure

end Relay
