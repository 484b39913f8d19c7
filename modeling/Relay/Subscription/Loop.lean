import Relay.Handler
import Relay.Subscription.Status
/-!
# The loop of a subscription

A subscription reads its queue and hands each delivery to a lane of its own, which handles it
and settles it with the broker as the handler decides. A subscription has `concurrency` lanes;
a lane whose handling waits on the schedule's clock (for the backend, or before a retry) keeps
its lane, and the loop reads only as many entries as it has lanes free.

The loop is in one of seven stages: waiting to run for the first time, inside a blocking read,
waiting for a lane to come free, resting after a failure, draining its lanes, stopped, or
crashed. When it runs, and again after each rest, it creates its queue's group, takes back the
entries it was handed and never settled that no lane holds, hands them to lanes as lanes come
free, becomes active and reads. Any of these broker calls may fail, and a failure counts one
more in a row: while the effective retry policy allows that many, the loop rests for the
policy's pause, retrying, and then runs again; otherwise it drains, failed with that error. A
read that fails because its queue's group is gone is no failure: the loop creates the group
again and reads again. A read that comes back, with entries or empty when its span is over,
ends the failures in a row. The failures in a row are counted in 32 bits, and so is the
deadline of a read on the monotonic clock: past either bound the loop's task panics, and the
loop is crashed for good, its lanes broken off with it. A loop told to stop finishes the read
it is in, or breaks off its rest or its wait for a lane, and drains. A draining loop waits for
its lanes for at most its drain span, then stops; handlings still under way are broken off and
their deliveries stay unsettled.

Lanes run when the loop waits. The loop's steps between two waits see nothing a handling does
to the queue, so a handling is taken as far as it goes at once when it is handed out; but a lane
handed out since the loop last waited still counts as taken when the loop reads again.

Two clocks are at work. Rests, the waits of handlings and the time a worker is asked to let
pass run on the schedule's clock, which skips ahead whenever every loop waits. Reads and
requeued entries wait on the broker's clock, which runs `pace` times slower: while the loops
sit in reads the schedule's clock rushes ahead. Both count nanoseconds, and a time on the
schedule's clock is `pace` times its time on the broker's. Handling reads a third clock, the
one caches expire by and results are stamped with; a run of the loops takes next to no time on
it, so it stands still.
-/
namespace Relay.Subscription

inductive Stage where
  | waiting
  | reading (since count : Nat)
  | awaitingLane
  | resting (till : Nat)
  | draining (till : Nat) (failure : Option String)
  | stopped
  | crashed (p : Panic)
  deriving DecidableEq

def Stage.finished : Stage → Bool
  | .stopped | .crashed _ => true
  | _ => false

structure Lane where
  handling : Handler.Handling
  wake : Nat

/-- What the loop of a subscription does that can be seen from outside: the statuses it
publishes on its status channel, its reads that come back, its failures and its rests before
it runs again. -/
inductive Note where
  | published (s : Status)
  | received
  | failed (time : Nat) (why : String)
  | rests (till : Nat)
  deriving DecidableEq, Repr

/-- A subscription at work: its configuration, the stage of its loop, its status, its lanes
under way in the order they began to wait, the entries taken back that wait for a lane, and
what it did, oldest first. -/
structure Loop where
  config : Config
  stage : Stage := .waiting
  status : Status
  lanes : List Lane := []
  backlog : List Delivery := []
  trail : List Note := []

namespace Loop

variable {σ : Type} [Backend σ]

def publish (l : Loop) (s : Status) : Loop := { l with status := s, trail := l.trail ++ [.published s] }

def note (l : Loop) (n : Note) : Loop := { l with trail := l.trail ++ [n] }

def start (c : Config) : Loop :=
  let s : Status := ⟨c.queue, .starting, c.concurrency, 0, none⟩
  { config := c, status := s, trail := [.published s] }

def recoverBatch : Nat := 100

def close (l : Loop) (failure : Option String) : Loop :=
  { l.publish { l.status with state := .stopped, lastError := failure } with
    stage := .stopped
    lanes := [] }

def halt (l : Loop) (now : Nat) (failure : Option String) : Loop :=
  let l := l.publish { l.status with state := .draining }
  if l.lanes.isEmpty then l.close failure
  else { l with stage := .draining (now + l.config.drainTimeout.nanos) failure }

def crash (l : Loop) (p : Panic) : Loop := { l with stage := .crashed p, lanes := [] }

/-- After a broker call failed at `now` with `why`, `k` being the jitter drawn: resting until
the policy's pause is over, if the policy allows this many failures in a row, else draining,
failed with the error. Counting a failure beyond `RetryPolicy.maxRetries` overflows the count. -/
def fail (l : Loop) (now : Nat) (k : Fin 50) (why : String) : Loop :=
  let p := l.config.effectiveRetry
  let l := l.note (.failed now why)
  if l.status.retries < RetryPolicy.maxRetries then
    let n := l.status.retries + 1
    if p.allows n then
      let till := now + (p.pause k n).nanos
      { l.publish { l.status with state := .retrying, retries := n, lastError := some why } with
        stage := .resting till }.note (.rests till)
    else l.halt now (some why)
  else l.crash Panic.addOverflow

def activate (l : Loop) : Loop :=
  if l.status.state = .active then l else l.publish { l.status with state := .active }

def recovered (l : Loop) : Loop :=
  let l := l.note .received
  if 0 < l.status.retries then
    l.publish { l.status with state := .active, retries := 0, lastError := none }
  else l

def pace : Nat := 100

def clockAt (st : Handler.State σ) (now : Nat) : Clock := ⟨now / pace, st.clock.wall⟩

def readEnd (l : Loop) (since : Nat) : Nat := since + l.config.block.nanos * pace

/-- The lanes free for the loop: those no waiting handling holds, less `held`, the lanes
handed out since the loop last waited, which count as taken until it waits again. -/
def free (l : Loop) (held : Nat) : Nat := l.config.concurrency - l.lanes.length - held

def holds (l : Loop) (id : String) : Bool := l.lanes.any (·.handling.delivery.id == id)

/-- Takes a handling of `d` on at `now` from `p`: steps that need no wait follow at once, until
the handling is done, and its delivery settled, or waits, as a lane; a handling that panics
leaves its delivery unsettled, and a settlement that panics leaves it recorded and not put
back. `fuel` bounds the steps. -/
def carry (br : Bridge) (c : Config) (now : Nat) (d : Delivery) :
    Nat → Handler.Progress → Handler.State σ → Option Lane × Handler.State σ
  | _, .done h, st =>
    match st.broker.settlePanic? (clockAt st now) h.outcome with
    | some _ => (none, { st with broker := st.broker.recordSettlement d h.outcome })
    | none => (none, { st with broker := st.broker.settle (clockAt st now) d h.outcome h.reason })
  | 0, .pauses w t, st => (some ⟨w, now + t.nanos⟩, st)
  | fuel + 1, .pauses w t, st =>
    if 0 < t.nanos then (some ⟨w, now + t.nanos⟩, st)
    else
      match Handler.step br c st w with
      | .ok (p, st) => carry br c now d fuel p st
      | .error _ => (none, st)

def park (l : Loop) : Option Lane → Loop
  | some ln => { l with lanes := l.lanes ++ [ln] }
  | none => l

def dispatch (br : Bridge) (now : Nat) (l : Loop) (st : Handler.State σ) (d : Delivery) :
    Loop × Handler.State σ :=
  match Handler.start br l.config st d with
  | .ok (p, st) =>
    let (ln, st) := carry br l.config now d Handler.stepBound p st
    (l.park ln, st)
  | .error _ => (l, st)

def dispatchAll (br : Bridge) (now : Nat) (ds : List Delivery) (l : Loop) (st : Handler.State σ) :
    Loop × Handler.State σ :=
  ds.foldl (fun (l, st) d => l.dispatch br now st d) (l, st)

def wake (br : Bridge) (now : Nat) (l : Loop) (st : Handler.State σ) : Loop × Handler.State σ :=
  let due := (l.lanes.filter (·.wake ≤ now)).mergeSort fun a b => a.wake ≤ b.wake
  due.foldl (fun (l, st) ln =>
    let w := ln.handling
    let (next, st) := carry br l.config now w.delivery Handler.stepBound (.pauses w Span.zero) st
    (l.park next, st)) ({ l with lanes := l.lanes.filter fun ln => !(ln.wake ≤ now) }, st)

/-- A bound on the reads in a row that bring entries or find the group gone: every such read
takes at least one of the entries ready or delayed on the queue, or one answer of the network. -/
def readBound (st : Handler.State σ) (q : String) : Nat :=
  let s := st.broker.stream q
  s.ready.length + s.delayed.length + st.broker.outage.receive.length + 1

/-- Reads at `now`, `held` lanes having been handed out since the loop last waited, and again
as long as reads bring entries, each batch handed to lanes; the loop then waits in an empty
read, or for a lane, or rests or drains after a failure. With no lane free the loop waits,
so the lanes handed out run, and reads when one is free. Told to stop, it drains before
reading. `k` is the jitter drawn for a rest. -/
def read (br : Bridge) (stopping : Bool) (now : Nat) (k : Fin 50) :
    Nat → Nat → Loop → Handler.State σ → Loop × Handler.State σ
  | 0, _, l, st => (l, st)
  | fuel + 1, held, l, st =>
    if stopping then (l.halt now none, st)
    else
      let held := if l.free held = 0 then 0 else held
      let count := l.free held
      if count = 0 then ({ l with stage := .awaitingLane }, st)
      else
        match st.broker.answer .receive with
        | (some f, b) =>
          if f.isNoGroup then
            -- the group is gone: the loop creates it again and goes back to the head of its loop
            match b.answer .ensureQueue with
            | (some f, b) => (l.fail now k f.message, { st with broker := b })
            | (none, b) =>
              read br stopping now k fuel held l { st with broker := b.ensureQueue l.config.queue }
          else (l.fail now k f.message, { st with broker := b })
        | (none, b) =>
          match b.receivePanic? (clockAt st now) l.config.block with
          | some p => (l.crash p, { st with broker := b })
          | none =>
            match b.receive (clockAt st now) l.config.queue count Span.zero with
            | (.error f, b, _) => (l.fail now k f.message, { st with broker := b })
            | (.ok [], b, _) => ({ l with stage := .reading now count }, { st with broker := b })
            | (.ok ds, b, _) =>
              let (l', st) := l.recovered.dispatchAll br now ds { st with broker := b }
              read br stopping now k fuel (held + ds.length - (l'.lanes.length - l.lanes.length)) l' st

/-- Hands the entries taken back to lanes as lanes come free, `held` lanes having been handed
out since the loop last waited; once all are handed out the loop is active and reads. With no
lane free it waits for one; told to stop while it waits, it drains. -/
def unload (br : Bridge) (stopping : Bool) (now : Nat) (k : Fin 50) :
    Nat → Nat → Loop → Handler.State σ → Loop × Handler.State σ
  | 0, _, l, st => (l, st)
  | fuel + 1, held, l, st =>
    match l.backlog with
    | [] =>
      -- active once the entries taken back are handed out; a loop back from waiting for a
      -- lane before a read is active already
      read br stopping now k (readBound st l.config.queue) held l.activate st
    | d :: rest =>
      let held := if l.free held = 0 then 0 else held
      if l.free held = 0 then
        if stopping then (l.halt now none, st) else ({ l with stage := .awaitingLane }, st)
      else
        let (l', st) := { l with backlog := rest }.dispatch br now st d
        unload br stopping now k fuel (held + 1 - (l'.lanes.length - l.lanes.length)) l' st

/-- Runs at `now`, or runs again after a rest: creates the group of its queue, takes back its
own unsettled entries that no lane holds, hands them to lanes, becomes active and reads. Either
of the first two calls may fail, and the loop with it. -/
def begin (br : Bridge) (stopping : Bool) (now : Nat) (k : Fin 50) (l : Loop)
    (st : Handler.State σ) : Loop × Handler.State σ :=
  let q := l.config.queue
  match st.broker.answer .ensureQueue with
  | (some f, b) => (l.fail now k f.message, { st with broker := b })
  | (none, b) =>
    match (b.ensureQueue q).answer .recover with
    | (some f, b) => (l.fail now k f.message, { st with broker := b })
    | (none, b) =>
      let backlog := (b.recover q recoverBatch).filter fun d => !l.holds d.id
      unload br stopping now k (backlog.length + 1) 0 { l with backlog } { st with broker := b }

/-- Inside a read for `count` entries begun at `since`, at `now`: entries ready are taken and
handed to lanes and the loop reads on; a read whose span is over comes back empty and the loop
reads again. Told to stop, the loop finishes the read, taking what is ready, and drains. -/
def look (br : Bridge) (stopping : Bool) (now : Nat) (k : Fin 50) (since count : Nat) (l : Loop)
    (st : Handler.State σ) : Loop × Handler.State σ :=
  let q := l.config.queue
  let (ds, b) := st.broker.take q count (now / pace)
  let st := { st with broker := b }
  if !ds.isEmpty then
    let (l', st) := l.recovered.dispatchAll br now ds st
    read br stopping now k (readBound st q) (ds.length - (l'.lanes.length - l.lanes.length)) l' st
  else if stopping then (l.recovered.halt now none, st)
  else if l.readEnd since ≤ now then read br stopping now k (readBound st q) 0 l.recovered st
  else (l, st)

/-- What the loop does at `now`, `k` being the jitter drawn for a rest: first its lanes whose
wait is over go on, then the loop does what its stage calls for. -/
def react (br : Bridge) (stopping : Bool) (now : Nat) (k : Fin 50) (l : Loop)
    (st : Handler.State σ) : Loop × Handler.State σ :=
  let (l, st) := l.wake br now st
  match l.stage with
  | .waiting => l.begin br stopping now k st
  | .reading since count => l.look br stopping now k since count st
  | .awaitingLane =>
    if stopping then (l.halt now none, st)
    else if l.free 0 = 0 then (l, st)
    else unload br stopping now k (l.backlog.length + 1) 0 l st
  | .resting till =>
    if stopping then (l.halt now none, st)
    else if till ≤ now then l.begin br stopping now k st
    else (l, st)
  | .draining till failure =>
    if l.lanes.isEmpty ∨ till ≤ now then (l.close failure, st) else (l, st)
  | .stopped | .crashed _ => (l, st)

/-- The next time after `now` at which the loop has something to do by itself: a lane's wait
is over; its rest or its drain span ends; its read ends, when the read that follows may fail,
ends failures in a row or asks for another count; a requeued entry of its queue is due. -/
def nextEvent (l : Loop) (b : Broker) (now : Nat) : Option Nat :=
  let own := match l.stage with
    | .resting till => [Nat.max till (now + 1)]
    | .draining till _ => [till]
    | .reading since count =>
      let ends :=
        if 0 < b.failingReceives ∨ b.outage.receive ≠ [] ∨ 0 < l.status.retries ∨
            count ≠ l.free 0 then [l.readEnd since]
        else []
      ends ++ (b.stream l.config.queue).delayed.map (·.1 * pace)
    | _ => []
  ((l.lanes.map (·.wake) ++ own).filter (now < ·)).min?

theorem fail_exhausted (l : Loop) (now : Nat) (k : Fin 50) (why : String)
    (hc : l.status.retries < RetryPolicy.maxRetries)
    (h : l.config.effectiveRetry.allows (l.status.retries + 1) = false) :
    l.fail now k why = (l.note (.failed now why)).halt now (some why) := by
  simp [fail, note, hc, h]

end Loop

end Relay.Subscription
