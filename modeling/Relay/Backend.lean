import Relay.Player.Service
/-!
# Backends

A backend serves the requests for resources: given the resource, the verb and the payload it
answers with data or fails, and may change as it does. The players' roster is one; a script,
which answers with prepared answers one after the other and then always with its fallback, is
another, for trying the bridge on answers chosen in advance. Both serve whatever resource they
are asked for. A desk holds one service for each resource it knows and hands each request to
the service of its resource.

A call may keep its caller waiting on the schedule's clock before it is answered: a roster
whose pool has no connection lets a caller wait for a connection until the acquire timeout,
and then fails.
-/
namespace Relay

/-- A backend of type `σ`: how it serves a request for a resource at a moment, and how long a
call for a resource keeps its caller waiting before it is answered. -/
class Backend (σ : Type) where
  serve : σ → String → Moment → Verb → Json → Except Failure Json × σ
  latency : σ → String → Span

instance : Backend Player.Roster where
  serve r _ now v payload :=
    match Player.serve r now v payload with
    | .ok (out, r') => (.ok out, r')
    | .error f => (.error (Player.tidy f), r)
  latency r _ := if r.poolSize = 0 then r.acquireTimeout else Span.zero

structure Script where
  answers : List (Except Failure Json)
  fallback : Except Failure Json := .ok (.str "default")

instance : Backend Script where
  serve s _ _ _ _ :=
    match s.answers with
    | a :: rest => (a, { s with answers := rest })
    | [] => (s.fallback, s)
  latency _ _ := Span.zero

inductive Service where
  | roster (r : Player.Roster)
  | script (s : Script)

instance : Backend Service where
  serve
    | .roster r, res, now, v, p =>
      let (out, r) := Backend.serve r res now v p
      (out, .roster r)
    | .script s, res, now, v, p =>
      let (out, s) := Backend.serve s res now v p
      (out, .script s)
  latency
    | .roster r, res => Backend.latency r res
    | .script s, res => Backend.latency s res

structure Desk where
  services : List (String × Service)

def Desk.serves (d : Desk) (resource : String) : Bool := (d.services.lookup resource).isSome

instance : Backend Desk where
  serve d res now v p :=
    match d.services.lookup res with
    | some s =>
      let (out, s) := Backend.serve s res now v p
      (out, ⟨d.services.map fun e => if e.1 == res then (res, s) else e⟩)
    | none => (.error (.other ("no operation registered for resource '" ++ res ++ "'")), d)
  latency d res :=
    match d.services.lookup res with
    | some s => Backend.latency s res
    | none => Span.zero

end Relay
