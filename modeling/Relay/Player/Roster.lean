import Relay.Player.Fault
import Relay.Player.Basic
/-!
# The roster of players

The players kept in memory, one per name, in increasing order of name. Each call holds one
connection of a pool for its length; calls come one at a time, so a pool with a connection
always has one free, and a pool of none fails every call once the wait for a connection has
run out.
-/
namespace Relay.Player

structure Roster where
  players : List Player := []
  poolSize : Nat := 10
  acquireTimeout : Span := Span.ofSecs 5
  deriving Repr

def place (p : Player) : List Player → List Player
  | [] => [p]
  | q :: qs =>
    if p.name < q.name then p :: q :: qs
    else if p.name = q.name then p :: qs
    else q :: place p qs

namespace Roster

def checkout (r : Roster) : Except Fault Unit :=
  if r.poolSize = 0 then .error (.poolExhausted r.acquireTimeout) else .ok ()

def find? (r : Roster) (name : String) : Option Player := r.players.find? (·.name == name)

def list (r : Roster) : Except Fault (List Player) := do
  r.checkout
  pure r.players

def get (r : Roster) (name : String) : Except Fault (Option Player) := do
  r.checkout
  pure (r.find? name)

def insert (r : Roster) (d : Draft) (now : Moment) : Except Fault (Player × Roster) := do
  r.checkout
  if (r.find? d.name).isSome then throw (.duplicateName d.name)
  let p := Player.create d now
  pure (p, { r with players := place p r.players })

def update (r : Roster) (c : Change) (now : Moment) : Except Fault (Player × Roster) := do
  r.checkout
  let some p := r.find? c.name | throw (.notFound c.name)
  if p.version ≠ c.version then throw (.versionConflict c.name c.version p.version)
  let q := p.apply c now
  pure (q, { r with players := place q r.players })

def delete (r : Roster) (name : String) : Except Fault (Bool × Roster) := do
  r.checkout
  pure ((r.find? name).isSome, { r with players := r.players.filter (·.name != name) })

def clear (r : Roster) : Except Fault (Nat × Roster) := do
  r.checkout
  pure (r.players.length, { r with players := [] })

def contains (r : Roster) (name : String) : Except Fault Bool := do
  r.checkout
  pure (r.find? name).isSome

end Roster

end Relay.Player
