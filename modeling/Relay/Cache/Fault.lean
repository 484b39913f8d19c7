import Relay.Span
import Relay.Failure.Kind
/-!
# Cache faults

Why a call to the cache failed: the cache could not be reached, it did not answer in time,
or a value under a key is not what that key must hold.
-/
namespace Relay.Cache

inductive Fault where
  | unavailable (why : String)
  | timeout (after : Span)
  | corrupt (key : String)
  deriving DecidableEq, Repr

namespace Fault

def message : Fault → String
  | .unavailable why => "cache unavailable: " ++ why
  | .timeout after => "cache operation timed out after " ++ after.text
  | .corrupt key => "corrupt cache value under " ++ key

def tag : Fault → String
  | .unavailable _ => "Unavailable"
  | .timeout _ => "Timeout"
  | .corrupt _ => "Corrupt"

end Fault

end Relay.Cache
