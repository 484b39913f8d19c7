import Relay.Text.Blank
import Relay.Text.Integer
/-!
# Configuration from the environment

An environment maps variable names to texts. Settings are read from it with a default for
each variable that is not set: as text, as a flag (`true`, `1`, `yes`, `on` and `false`,
`0`, `no`, `off`, blanks trimmed and ASCII case ignored), as an integer of a given type
(blanks trimmed), or as a comma-separated list whose items are trimmed and whose empty items
are dropped. A value that does not read is reported with the variable's name.
-/
namespace Relay.Config

inductive Problem where
  | missing (key : String)
  | unreadable (key details : String)
  | invalid (key details : String)
  deriving DecidableEq, Repr

namespace Problem

def message : Problem → String
  | .missing key => "Environment variable '" ++ key ++ "' is required but not set"
  | .unreadable key details => "Failed to parse environment variable '" ++ key ++ "': " ++ details
  | .invalid key details => "Invalid configuration for '" ++ key ++ "': " ++ details

def tag : Problem → String
  | .missing _ => "MissingEnvVar"
  | .unreadable _ _ => "ParseError"
  | .invalid _ _ => "Invalid"

end Problem

structure Env where
  vars : List (String × String) := []
  deriving Repr, Inhabited

def asciiLower (s : String) : String :=
  String.ofList (s.toList.map fun c => if 'A' ≤ c ∧ c ≤ 'Z' then Char.ofNat (c.toNat + 32) else c)

def splitCommas (s : String) : List String :=
  (s.toList.splitOn ',').map String.ofList

namespace Env

def get? (e : Env) (key : String) : Option String := e.vars.lookup key

def orDefault (e : Env) (key default : String) : String := (e.get? key).getD default

def required (e : Env) (key : String) : Except Problem String :=
  match e.get? key with
  | some v => .ok v
  | none => .error (.missing key)

def flag (e : Env) (key : String) (default : Bool) : Except Problem Bool :=
  match e.get? key with
  | none => .ok default
  | some raw =>
    let v := asciiLower (Text.trim raw)
    if ["true", "1", "yes", "on"].contains v then .ok true
    else if ["false", "0", "no", "off"].contains v then .ok false
    else .error (.unreadable key ("'" ++ v ++ "' is not a boolean"))

def int (e : Env) (key : String) (f : Text.IntFormat) (default : Int) : Except Problem Int :=
  match e.get? key with
  | none => .ok default
  | some raw =>
    match f.parse (Text.trim raw) with
    | .ok n => .ok n
    | .error p => .error (.unreadable key p.message)

def nat (e : Env) (key : String) (bits : Nat) (default : Nat) : Except Problem Nat :=
  (e.int key (.unsigned bits) default).map Int.toNat

def bool (e : Env) (key : String) (default : Bool) : Except Problem Bool :=
  match e.get? key with
  | none => .ok default
  | some raw =>
    match Text.trim raw with
    | "true" => .ok true
    | "false" => .ok false
    | _ => .error (.unreadable key "provided string was not `true` or `false`")

def list (e : Env) (key default : String) : List String :=
  ((splitCommas (e.orDefault key default)).map Text.trim).filter (· ≠ "")

end Env

inductive Environment where
  | development
  | production
  deriving DecidableEq, Repr

def Environment.ofEnv (e : Env) : Environment :=
  if asciiLower (e.orDefault "APP_ENV" "development") == "production" then .production
  else .development

def Environment.name : Environment → String
  | .development => "Development"
  | .production => "Production"

end Relay.Config
