/-!
# Verbs and waves

An operation is asked for by one of seven verbs. Reads (`get-all`, `get-by-name`, `exists`)
leave the data as it is; the other four change it. Each verb has its own queue per resource,
`<resource>-<verb>`, and its lanes start in one of three waves: reads, then writes, then
existence checks. A verb's concurrency ceiling is the read or the write ceiling, as it reads
or writes.
-/
namespace Relay

inductive Verb where
  | getAll
  | getByName
  | insert
  | update
  | delete
  | deleteAll
  | exists
  deriving DecidableEq, Repr, Inhabited

inductive Wave where
  | reads
  | writes
  | existenceChecks
  deriving DecidableEq, Repr, Inhabited

namespace Wave

def all : List Wave := [.reads, .writes, .existenceChecks]

def name : Wave → String
  | .reads => "reads"
  | .writes => "writes"
  | .existenceChecks => "existence_checks"

end Wave

namespace Verb

def all : List Verb := [.getAll, .getByName, .insert, .update, .delete, .deleteAll, .exists]

def name : Verb → String
  | .getAll => "get-all"
  | .getByName => "get-by-name"
  | .insert => "insert"
  | .update => "update"
  | .delete => "delete"
  | .deleteAll => "delete-all"
  | .exists => "exists"

def ofName? (s : String) : Option Verb := all.find? (·.name == s)

def isMutation : Verb → Bool
  | .insert | .update | .delete | .deleteAll => true
  | _ => false

def isRead (v : Verb) : Bool := !v.isMutation

def wave : Verb → Wave
  | .getAll | .getByName => .reads
  | .exists => .existenceChecks
  | _ => .writes

def ceiling (v : Verb) (read write : Nat) : Nat := if v.isRead then read else write

def queue (v : Verb) (resource : String) : String := resource ++ "-" ++ v.name

theorem ofName_name (v : Verb) : ofName? v.name = some v := by
  cases v <;> rfl

end Verb

end Relay
