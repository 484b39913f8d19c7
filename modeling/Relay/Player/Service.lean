import Relay.Player.Roster
import Relay.Player.Rules
import Relay.Json.Decode
import Relay.Verb
/-!
# The player service

Requests for the `player` resource, one verb each, over a roster. A payload is first read
into what the verb needs: a draft for `insert`, a change for `update`, a name for
`get-by-name`, `delete` and `exists`, nothing for the rest. A payload of the wrong shape is
invalid input, reported as `<verb> payload: <why>`. Drafts and changes must then keep the
rules, and `exists` refuses a blank name, all before the roster is asked. Reads and failed
requests leave the roster as it was.
-/
namespace Relay.Player

open Json (Shape Member decodeRecord)

def Draft.members : List Member :=
  [⟨"name", Shape.text, .required⟩, ⟨"level", Shape.unsigned 32 "u32", .fallback (Json.ofNat 1)⟩,
   ⟨"score", Shape.int64, .fallback (Json.ofNat 0)⟩]

def Draft.decode (v : Json) : Except Json.Problem Draft := do
  let vs ← decodeRecord "NewPlayer" Draft.members v
  pure ⟨(vs.getD 0 .null).asText, (vs.getD 1 .null).asInt.toNat, (vs.getD 2 .null).asInt⟩

def Change.members : List Member :=
  [⟨"name", Shape.text, .required⟩, ⟨"level", (Shape.unsigned 32 "u32").maybe, .optional⟩,
   ⟨"score", Shape.int64.maybe, .optional⟩, ⟨"version", Shape.unsigned 64 "u64", .required⟩]

def Change.decode (v : Json) : Except Json.Problem Change := do
  let vs ← decodeRecord "UpdatePlayer" Change.members v
  pure ⟨(vs.getD 0 .null).asText, ((vs.getD 1 .null).toOption).map (·.asInt.toNat),
    ((vs.getD 2 .null).toOption).map (·.asInt), (vs.getD 3 .null).asInt.toNat⟩

def nameOf? : Json → Option String
  | .str s => some s
  | .obj fs =>
    match fs.lookup "name" with
    | some (.str s) => some s
    | _ => none
  | _ => none

def lookup (r : Roster) (name : String) : Except Fault Player := do
  match ← r.get name with
  | some p => pure p
  | none => throw (.notFound name)

def enrol (r : Roster) (d : Draft) (now : Moment) : Except Fault (Player × Roster) :=
  match d.violations with
  | [] => r.insert d now
  | vs => .error (.invalid (report vs))

def revise (r : Roster) (c : Change) (now : Moment) : Except Fault (Player × Roster) :=
  match c.violations with
  | [] => r.update c now
  | vs => .error (.invalid (report vs))

def exists? (r : Roster) (name : String) : Except Fault Bool :=
  if Text.isBlankText name then .error (.invalid "name must not be blank") else r.contains name

def serve (r : Roster) (now : Moment) (verb : Verb) (payload : Json) :
    Except Failure (Json × Roster) :=
  let lift {α : Type} (x : Except Fault α) : Except Failure α := x.mapError Fault.toFailure
  let invalid (why : String) : Failure := .validation (verb.name ++ " payload: " ++ why)
  let named : Except Failure String :=
    match nameOf? payload with
    | some n => .ok n
    | none => .error (invalid "data did not match any variant of untagged enum PlayerName")
  match verb with
  | .getAll => do
    let ps ← lift r.list
    pure (.arr (ps.map Player.toJson), r)
  | .getByName => do
    let n ← named
    let p ← lift (lookup r n)
    pure (p.toJson, r)
  | .insert => do
    let d ← (Draft.decode payload).mapError (invalid ·.text)
    let (p, r) ← lift (enrol r d now)
    pure (p.toJson, r)
  | .update => do
    let c ← (Change.decode payload).mapError (invalid ·.text)
    let (p, r) ← lift (revise r c now)
    pure (p.toJson, r)
  | .delete => do
    let n ← named
    let (found, r) ← lift (r.delete n)
    pure (Json.object [("deleted", .bool found)], r)
  | .deleteAll => do
    let (count, r) ← lift r.clear
    pure (Json.object [("deleted", Json.ofNat count)], r)
  | .exists => do
    let n ← named
    pure (.bool (← lift (exists? r n)), r)

def tidy : Failure → Failure
  | .validation why => .validation (Report.canonical why)
  | f => f

end Relay.Player
