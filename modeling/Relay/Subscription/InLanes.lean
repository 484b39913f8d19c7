import Relay.Broker.Basic
/-!
# The ids the lanes hold

Beside its lanes, a subscription keeps the ids of the deliveries they hold, each with the number
of lanes that hold it: a redelivery of an entry may run in a lane beside the lane of the
original, and the id stays held until both are done. A lane enters its delivery's id when it is
handed the delivery and keeps the guard it gets back. Dropping the guard, when the lane has
settled its delivery or when its task is broken off, lets go of the id: its count goes down by
one, and the id is removed once no lane holds it. Entries taken back or claimed are handed out
only if their id is not held.

The map sits behind a lock whose poisoning is ignored, so each call sees and leaves the whole
map, and calls made from different tasks come one after another. Counts are natural numbers: a
count is at most the number of guards alive, each of which takes memory of its own, so it never
comes near the largest machine word. Taking one from a count of zero panics.
-/
namespace Relay.Subscription

structure InLanes where
  counts : List (String × Nat) := []
  deriving DecidableEq, Repr

structure LaneGuard where
  id : String
  deriving DecidableEq, Repr

namespace InLanes

def count? (m : InLanes) (id : String) : Option Nat := m.counts.lookup id

def contains (m : InLanes) (id : String) : Bool := (m.count? id).isSome

def enter (m : InLanes) (id : String) : InLanes × LaneGuard :=
  (⟨putEntry id ((m.count? id).getD 0 + 1) m.counts⟩, ⟨id⟩)

def drop (m : InLanes) (g : LaneGuard) : Except Panic InLanes :=
  match m.count? g.id with
  | none => .ok m
  | some n =>
    if n = 0 then .error Panic.subOverflow
    else if n - 1 = 0 then .ok ⟨m.counts.filter (·.1 != g.id)⟩
    else .ok ⟨putEntry g.id (n - 1) m.counts⟩

@[simp] theorem enter_guard (m : InLanes) (id : String) : (m.enter id).2 = ⟨id⟩ := rfl

theorem drop_some {m : InLanes} {g : LaneGuard} {n : Nat} (h : m.count? g.id = some (n + 1)) :
    m.drop g =
      .ok (if n = 0 then ⟨m.counts.filter (·.1 != g.id)⟩ else ⟨putEntry g.id n m.counts⟩) := by
  simp only [drop, h, Nat.add_one_ne_zero, if_false, Nat.add_sub_cancel]
  split <;> rfl

end InLanes

end Relay.Subscription
