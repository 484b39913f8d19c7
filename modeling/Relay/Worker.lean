import Relay.Subscription.Loop
import Relay.Settings
/-!
# A worker

A worker runs subscriptions side by side over one broker, one cache store and one backend, on
the schedule's clock. At each moment every loop, in the order the subscriptions were started,
does what it has to do; between moments the clock moves to the next time some loop has
something to do by itself, or to the time the worker is asked to reach.

A worker is started from the settings in waves: the reads of every resource, then the
changes, then the existence checks, with the wave delay between two waves, during which the
loops already started run. Every resource must have a backend; with consumers switched off
nothing starts. Shutting down tells every loop to stop and waits for their lanes to drain; a
summary counts the loops that stopped cleanly and those that failed.
-/
namespace Relay

open Subscription

/-- A worker: the parts handling shares, the state that handling reads and changes, the loops
of its subscriptions in the order they started, whether it was told to stop, the time on the
schedule's clock, and the jitter its loops draw. -/
structure Worker (σ : Type) where
  bridge : Bridge
  state : Handler.State σ
  loops : List Loop := []
  stopping : Bool := false
  now : Nat := 0
  jitter : Fin 50 := 25

namespace Worker

variable {σ : Type} [Backend σ]

def statuses (w : Worker σ) : List Status := w.loops.map (·.status)

def react (w : Worker σ) : Worker σ :=
  let (ls, st) := w.loops.foldl (fun (acc, st) l =>
    let (l, st) := l.react w.bridge w.stopping w.now w.jitter st
    (l :: acc, st)) ([], w.state)
  { w with loops := ls.reverse, state := st }

def nextEvent (w : Worker σ) : Option Nat :=
  (w.loops.filterMap (·.nextEvent w.state.broker w.now)).min?

def moveTo (w : Worker σ) (t : Nat) : Worker σ := { w with now := t }

def momentBound : Nat := 100000

def runUntil (target : Nat) : Nat → Worker σ → Worker σ
  | 0, w => w.react.moveTo target
  | fuel + 1, w =>
    let w := w.react
    match w.nextEvent with
    | some t => if t ≤ target then runUntil target fuel (w.moveTo t) else w.moveTo target
    | none => w.moveTo target

def pass (w : Worker σ) (d : Span) : Worker σ := runUntil (w.now + d.nanos) momentBound w

def spawn (w : Worker σ) (c : Config) : Worker σ := { w with loops := w.loops ++ [Loop.start c] }

/-- Starts the subscriptions of the settings wave by wave, letting the wave delay pass before
each wave after the first; a wave with no subscription is passed over. -/
def startWaves (s : Settings) (w : Worker σ) : List (Wave × Nat) → Worker σ
  | [] => w
  | (wave, i) :: rest =>
    match s.subscriptions.filter (·.verb.wave == wave) with
    | [] => startWaves s w rest
    | members =>
      let w := if 0 < i ∧ 0 < s.waveDelay.nanos then w.pass s.waveDelay else w
      startWaves s (members.foldl spawn w) rest

def startUp (w : Worker σ) (s : Settings) (serves : String → Bool) : Except Fault (Worker σ) :=
  if !s.consumersEnabled then .ok w
  else
    match s.resources.find? (!serves ·) with
    | some r => .error (.config ("no operation registered for resource '" ++ r ++ "'"))
    | none => .ok (startWaves s w Wave.all.zipIdx)

def idle (w : Worker σ) : Bool := w.loops.all (·.stage.finished)

def settleDown : Nat → Worker σ → Worker σ
  | 0, w => w
  | fuel + 1, w =>
    if w.idle then w
    else
      match w.nextEvent with
      | some t => settleDown fuel (w.moveTo t).react
      | none => w

def stop (w : Worker σ) : Worker σ := settleDown momentBound { w with stopping := true }.react

structure Summary where
  statuses : List Status
  stopped : Nat
  failed : Nat
  aborted : Nat := 0

def Summary.ofStatuses (ss : List Status) : Summary :=
  ⟨ss, (ss.filter fun s => s.state == .stopped && !s.isFailed).length,
    (ss.filter (·.isFailed)).length, 0⟩

def shutdown (w : Worker σ) : Summary × Worker σ :=
  let w := w.stop
  (Summary.ofStatuses w.statuses, w)

omit [Backend σ] in
theorem spawn_length (w : Worker σ) (c : Config) : (w.spawn c).loops.length = w.loops.length + 1 := by
  simp [spawn]

end Worker

end Relay
