import Relay.Json.Record
/-!
# Reading typed values out of a document

A value already read is checked against the shape a typed value needs. Unlike the readers of
`Relay.Json.Record`, which work on the bytes, these know no position, so their problems carry
none. A record takes an object, whose keys come in increasing order and are checked in that
order, or an array holding its fields in their order; a field that is left out stands in as
its `Absent` says, and an array that runs short of a field with no fallback is too short.
-/
namespace Relay.Json

def unexpected : Json → Unexpected
  | .null => .unit
  | .bool b => .bool b
  | .num n => n.unexpected
  | .str s => .str s
  | .arr _ => .seq
  | .obj _ => .map

abbrev Shape := Json → Except Problem Json

def Shape.text : Shape
  | .str s => .ok (.str s)
  | v => .error (.invalidType v.unexpected "a string")

def Shape.unsigned (bits : Nat) (name : String) : Shape
  | .num (.nat n) =>
    if n < Nat.pow 2 bits then .ok (.num (.nat n)) else .error (.invalidValue (.unsigned n) name)
  | .num (.neg n) => .error (.invalidValue (.signed (-(n : Int))) name)
  | v => .error (.invalidType v.unexpected name)

def Shape.int64 : Shape
  | .num (.nat n) =>
    if n ≤ i64Max then .ok (.num (.nat n)) else .error (.invalidValue (.unsigned n) "i64")
  | .num (.neg n) => .ok (.num (.neg n))
  | v => .error (.invalidType v.unexpected "i64")

def Shape.maybe (inner : Shape) : Shape
  | .null => .ok .null
  | v => inner v

structure Member where
  name : String
  shape : Shape
  absent : Absent := .required

def memberItems (expected : String) : Nat → List Member → List Json → Except Problem (List Json)
  | _, [], _ => .ok []
  | i, s :: ss, [] =>
    match s.absent with
    | .fallback v => (memberItems expected (i + 1) ss []).map (v :: ·)
    | _ => .error (.invalidLength i expected)
  | i, s :: ss, v :: vs => do
    let w ← s.shape v
    let ws ← memberItems expected (i + 1) ss vs
    pure (w :: ws)

def memberEntries (members : List Member) (entries : List (String × Json)) :
    Except Problem (List Json) := do
  let checked ← entries.mapM fun (k, v) =>
    match members.find? (·.name == k) with
    | some s => (s.shape v).map (k, ·)
    | none => pure (k, v)
  members.mapM fun s =>
    match checked.lookup s.name, s.absent with
    | some v, _ => pure v
    | none, .required => .error (.missingField s.name)
    | none, .optional => pure .null
    | none, .fallback v => pure v

def decodeRecord (name : String) (members : List Member) : Json → Except Problem (List Json)
  | .obj entries => memberEntries members entries
  | .arr items => do
    let expected := "struct " ++ name ++ " with " ++ toString members.length ++ " elements"
    let vs ← memberItems expected 0 members items
    if members.length < items.length then
      .error (.invalidLength items.length "fewer elements in array")
    else pure vs
  | v => .error (.invalidType v.unexpected ("struct " ++ name))

end Relay.Json
