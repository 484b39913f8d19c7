import Relay.Cache.Fault
import Relay.Failure.Classify
/-!
# Bridge faults

The failures of the bridge itself, as opposed to those of the operations it runs. Each has a
kind (`Relay.Failure.Kind`): an undecodable request is `DECODE`, a broker that cannot be
reached or written to is `TRANSPORT`, a failing cache is `RESOURCE_EXHAUSTED`, and the rest
are `UNCLASSIFIED`.
-/
namespace Relay

inductive Fault where
  | decode (why : String)
  | serialization (why : String)
  | publish (why : String)
  | transport (why : String)
  | redis (why : String) (connection : Bool)
  | cache (fault : Cache.Fault)
  | config (why : String)
  | shutdown
  deriving DecidableEq, Repr

namespace Fault

def message : Fault → String
  | .decode why => "Decode error: " ++ why
  | .serialization why => "Serialization error: " ++ why
  | .publish why => "Publish error: " ++ why
  | .transport why => "Transport error: " ++ why
  | .redis why _ => "Redis error: " ++ why
  | .cache f => "Cache error: " ++ f.message
  | .config why => "Configuration error: " ++ why
  | .shutdown => "Shutdown requested"

def tag : Fault → String
  | .decode _ => "Decode"
  | .serialization _ => "Serialization"
  | .publish _ => "Publish"
  | .transport _ => "Transport"
  | .redis _ _ => "Redis"
  | .cache _ => "Cache"
  | .config _ => "Config"
  | .shutdown => "Shutdown"

def kind : Fault → Failure.Kind
  | .decode _ => .decode
  | .transport _ | .redis _ _ | .publish _ => .transport
  | .cache _ => .resourceExhausted
  | .serialization _ | .config _ | .shutdown => .unclassified

def isConnection : Fault → Bool
  | .transport _ => true
  | .redis _ connection => connection
  | _ => false

def isNoGroup : Fault → Bool
  | .redis why _ => Failure.includes why "NOGROUP"
  | _ => false

end Fault

end Relay
