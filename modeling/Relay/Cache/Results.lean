import Relay.Cache.Store
import Relay.Json.Read
import Relay.Json.Write
import Relay.Verb
/-!
# The result cache

Reads that change nothing are cached per resource under `<resource>:g<generation>:<shape>`,
where the shape names the query (`Relay.Cache.queryShape`) and the generation is the counter
under `cache-gen:<resource>`. A change to the resource first counts the generation up and
then deletes the resource's entries, so a read computed before the change but stored after
it lands under a generation nobody reads any more.

The cache never stands in the way: a store that fails, or a generation that is not a number,
makes the lookup go around the cache (`bypass`), a cached text that is not JSON counts as a
miss, and a failed write is dropped.
-/
namespace Relay.Cache

def queryShape (v : Verb) (payload : Json) : String :=
  match v, payload with
  | .getAll, _ => v.name
  | _, .str s => v.name ++ ":" ++ s
  | _, .null => v.name
  | _, p => v.name ++ ":" ++ Json.write p

inductive Lookup where
  | hit (value : Json)
  | miss (key : String)
  | bypass
  deriving Repr, BEq

structure Results where
  ttl : Span := Span.ofSecs 60
  deriving Repr

namespace Results

def generationKey (resource : String) : String := "cache-gen:" ++ resource

def entryKey (resource : String) (generation : Int) (shape : String) : String :=
  resource ++ ":g" ++ toString generation ++ ":" ++ shape

def generation (s : Store) (c : Clock) (resource : String) : Option Int :=
  match s.get c (generationKey resource) with
  | .ok (some raw) => ((Text.IntFormat.signed 64).parse raw).toOption
  | .ok none => some 0
  | .error _ => none

def probe (s : Store) (c : Clock) (resource : String) (g : Int) (shape : String) : Lookup :=
  let k := entryKey resource g shape
  match s.get c k with
  | .ok (some raw) =>
    match Json.parseText raw with
    | .ok v => .hit v
    | .error _ => .miss k
  | .ok none => .miss k
  | .error _ => .bypass

def lookup (s : Store) (c : Clock) (resource shape : String) : Lookup :=
  match generation s c resource with
  | none => .bypass
  | some g => probe s c resource g shape

def put (rc : Results) (s : Store) (c : Clock) (k : String) (value : Json) :
    Except Panic Store :=
  match s.set c k (Json.write value) rc.ttl with
  | .ok s' => .ok s'
  | .error (.fault _) => .ok s
  | .error (.panic p) => .error p

def invalidate (s : Store) (c : Clock) (resource : String) : Except Halt Store := do
  let (_, s) ← s.incr c (generationKey resource)
  let (_, s) ← s.deletePrefix (resource ++ ":")
  pure s

end Results

end Relay.Cache
