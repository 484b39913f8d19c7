import Relay.Cache.Fault
import Relay.Clock
import Relay.Text.Integer
import Relay.Text.Sort
/-!
# The cache store

A key-value store of texts in which each entry may expire. An entry written with a time to
live expires that long after it is written, on the monotonic clock, and is live while the
clock stands before that point; a counter written by `incr` never expires. Expired entries
are never read, but stay in the store until they are overwritten or deleted, so
`deletePrefix` counts them with the rest.

The store can be switched off: every call then fails with `unavailable`, while `len` and
`keys`, which only look, still answer. A call that fails leaves the store as it was.
-/
namespace Relay.Cache

inductive Halt where
  | fault (f : Fault)
  | panic (p : Panic)
  deriving DecidableEq, Repr

structure Entry where
  value : String
  expiresAt : Option Nat
  deriving DecidableEq, Repr

def Entry.isLive (e : Entry) (now : Nat) : Bool :=
  match e.expiresAt with
  | none => true
  | some t => now < t

structure Store where
  entries : List (String × Entry) := []
  available : Bool := true
  deriving Repr, Inhabited

def hasPrefix (p k : String) : Bool := p.toList.isPrefixOf k.toList

namespace Store

def setAvailable (s : Store) (on : Bool) : Store := { s with available := on }

def offline : Fault := .unavailable "in-memory cache switched off"

def check (s : Store) : Except Halt Unit :=
  if s.available then .ok () else .error (.fault offline)

def find? (s : Store) (k : String) : Option Entry := s.entries.lookup k

def live? (s : Store) (now : Nat) (k : String) : Option String :=
  match s.find? k with
  | some e => if e.isLive now then some e.value else none
  | none => none

def put (s : Store) (k : String) (e : Entry) : Store :=
  if s.entries.any (·.1 == k) then
    { s with entries := s.entries.map (fun (k', e') => if k' == k then (k', e) else (k', e')) }
  else { s with entries := s.entries ++ [(k, e)] }

def erase (s : Store) (k : String) : Store :=
  { s with entries := s.entries.filter (·.1 != k) }

def fresh (c : Clock) (v : String) (ttl : Span) : Except Halt Entry :=
  match c.deadline ttl with
  | .ok t => .ok ⟨v, some t⟩
  | .error p => .error (.panic p)

def get (s : Store) (c : Clock) (k : String) : Except Halt (Option String) := do
  s.check
  pure (s.live? c.mono k)

def setIfAbsent (s : Store) (c : Clock) (k v : String) (ttl : Span) :
    Except Halt (Bool × Store) := do
  s.check
  if (s.live? c.mono k).isSome then pure (false, s)
  else pure (true, s.put k (← fresh c v ttl))

def set (s : Store) (c : Clock) (k v : String) (ttl : Span) : Except Halt Store := do
  s.check
  pure (s.put k (← fresh c v ttl))

def delete (s : Store) (k : String) : Except Halt Store := do
  s.check
  pure (s.erase k)

def compareAndSwap (s : Store) (c : Clock) (k expected new : String) (ttl : Span) :
    Except Halt (Bool × Store) := do
  s.check
  if s.live? c.mono k != some expected then pure (false, s)
  else pure (true, s.put k (← fresh c new ttl))

/-- Adds one to the counter under `k` (a missing or expired one counts as zero) and writes
it back without expiry; a text that is not a 64-bit integer is corrupt. -/
def incr (s : Store) (c : Clock) (k : String) : Except Halt (Int × Store) := do
  s.check
  let current ← match s.live? c.mono k with
    | some raw =>
      match (Text.IntFormat.signed 64).parse raw with
      | .ok n => pure n
      | .error _ => throw (.fault (.corrupt k))
    | none => pure 0
  if current = int64Max then throw (.panic .addOverflow)
  pure (current + 1, s.put k ⟨toString (current + 1), none⟩)

def deletePrefix (s : Store) (p : String) : Except Halt (Nat × Store) := do
  s.check
  let kept := s.entries.filter (fun (k, _) => !hasPrefix p k)
  pure (s.entries.length - kept.length, { s with entries := kept })

def ping (s : Store) : Except Halt Unit := s.check

def len (s : Store) (c : Clock) : Nat := (s.entries.filter (·.2.isLive c.mono)).length

def keys (s : Store) (c : Clock) (p : String) : List String :=
  Text.sort ((s.entries.filter (fun (k, e) => hasPrefix p k && e.isLive c.mono)).map (·.1))

end Store

end Relay.Cache
