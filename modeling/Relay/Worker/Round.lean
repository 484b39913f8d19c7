import Relay.Worker
import Relay.View
import Relay.Text.Sort
/-!
# Rounds of traffic

A session drives a worker in rounds. A round may first switch publishing off or on, switch the
cache off or on, and make the next reads fail; then it sends its messages to their queues, lets
a span of time pass, and waits until every message sent so far has been settled for good
(acknowledged or discarded) or every loop has stopped, looking again whenever a loop has done
something, for at most 400 ms on the broker's clock.

A round is reported with the messages it sent; every message sent so far, with its queue and
the last outcome it was settled with; the results published during the round, in the order of
their text, and the copies for legacy resources; the dead letters of every queue; and the
statuses of the loops. Entries are labelled by the order in which they were sent, `#0`, `#1`,
…, so that a report does not depend on the broker's numbering; any other entry id reads `<id>`.
-/
namespace Relay

structure Message where
  queue : String
  bytes : List UInt8

structure Round where
  publishFailing : Option Bool := none
  cacheAvailable : Option Bool := none
  failingReceives : Option Nat := none
  messages : List Message := []
  pause : Span := Span.zero

/-- What a round shows: the labels of the messages it sent; every message sent so far with its
queue, label and last outcome; the results it published, and their legacy copies by stream; the
dead letters by queue; and the statuses of the loops. -/
structure Round.Report where
  sent : List String
  entries : List (String × String × Option Outcome)
  results : List String
  legacy : List (String × List String)
  deadLetters : List (String × List Json)
  statuses : List Subscription.Status

structure Session (σ : Type) where
  worker : Worker σ
  sent : List (String × String) := []

namespace Session

variable {σ : Type} [Backend σ]

def broker (s : Session σ) : Broker := s.worker.state.broker

def withBroker (s : Session σ) (b : Broker) : Session σ :=
  { s with worker := { s.worker with state := { s.worker.state with broker := b } } }

def label (s : Session σ) (id : String) : String :=
  match s.sent.findIdx? (·.2 == id) with
  | some k => "#" ++ toString k
  | none => "<id>"

mutual
def relabelWith (label : String → String) : Json → Json
  | .arr xs => .arr (relabelItems label xs)
  | .obj fs => .obj (relabelFields label fs)
  | j => j

def relabelItems (label : String → String) : List Json → List Json
  | [] => []
  | x :: xs => relabelWith label x :: relabelItems label xs

def relabelFields (label : String → String) : List (String × Json) → List (String × Json)
  | [] => []
  | (k, v) :: fs =>
    let v := match k, v with
      | "original_id", .str id => .str (label id)
      | "dlq_id", .str _ | "oldest_entry_id", .str _ | "newest_entry_id", .str _ => .str "<id>"
      | _, v => relabelWith label v
    (k, v) :: relabelFields label fs
end

def relabel (s : Session σ) (j : Json) : Json := relabelWith s.label j

def send (s : Session σ) (m : Message) : Session σ :=
  let (id, b) := s.broker.append m.queue m.bytes
  { s.withBroker b with sent := s.sent ++ [(m.queue, id)] }

def hold (s : Session σ) (queue : String) (ms : List Message) : List Delivery × Session σ :=
  let s := ms.foldl send s
  match s.broker.receive (Subscription.Loop.clockAt s.worker.state s.worker.now) queue ms.length
      Span.zero with
  | (.ok ds, b, _) => (ds, s.withBroker b)
  | (.error _, b, _) => ([], s.withBroker b)

def quiet (s : Session σ) : Bool :=
  s.sent.all (fun (q, id) => (s.broker.lastOutcome q id).any Outcome.isTerminal) ||
  s.worker.idle

def waitHorizon : Span := Span.ofMillis 400

def withWorker (s : Session σ) (w : Worker σ) : Session σ := { s with worker := w }

/-- Waits until quiet or `deadline`: the loops react, and the clock moves on to the next time
a loop has something to do, as long as that is by the deadline. -/
def await (deadline : Nat) : Nat → Session σ → Session σ
  | 0, s => s
  | fuel + 1, s =>
    if s.quiet then s
    else
      let w := s.worker.react
      if (s.withWorker w).quiet then s.withWorker w
      else
        match w.nextEvent with
        | some t =>
          if t ≤ deadline then await deadline fuel (s.withWorker (w.moveTo t))
          else s.withWorker (w.moveTo deadline)
        | none => s.withWorker (w.moveTo deadline)

def fresh (before after : Broker) (stream : String) : List String :=
  Text.sort (((after.stream stream).history.drop (before.stream stream).history.length).map
    Utf8.decodeLossy)

def report (s : Session σ) (before : Broker) (sent : List (String × String)) : Round.Report :=
  let b := s.broker
  let p := s.worker.bridge.publisher
  let legacy := (p.legacy.flatMap fun r => [true, false].map fun ok =>
    let k := (legacyDestination r ok).streamKey
    (k, fresh before b k)).filter (!·.2.isEmpty)
  let dead (e : DeadLetter) : Json :=
    Json.object [("original_id", .str (s.label e.originalId)), ("reason", .str e.reason),
      ("payload", .str e.payload)]
  { sent := sent.map (s.label ·.2)
    entries := s.sent.map fun (q, id) => (q, s.label id, b.lastOutcome q id)
    results := fresh before b p.destination.streamKey
    legacy
    deadLetters := (b.streams.filter (!·.2.dead.isEmpty)).map fun (q, st) =>
      (q, (st.dead.map dead).mergeSort fun x y => !(Json.write y < Json.write x))
    statuses := s.worker.statuses }

def play (s : Session σ) (r : Round) : Round.Report × Session σ :=
  let before := s.broker
  let b := { before with
    publishFailing := r.publishFailing.getD before.publishFailing
    failingReceives := r.failingReceives.getD before.failingReceives }
  let st := s.worker.state
  let store := match r.cacheAvailable with
    | some on => st.store.setAvailable on
    | none => st.store
  let s := s.withWorker { s.worker with state := { st with broker := b, store } }
  let n := s.sent.length
  let s := r.messages.foldl send s
  let sent := s.sent.drop n
  let s := if 0 < r.pause.nanos then { s with worker := s.worker.pass r.pause } else s
  let s := await (s.worker.now + waitHorizon.nanos * Subscription.Loop.pace) Worker.momentBound s
  (s.report before sent, s)

def playAll (s : Session σ) : List Round → List Round.Report × Session σ
  | [] => ([], s)
  | r :: rs =>
    let (rep, s) := s.play r
    let (reps, s) := playAll s rs
    (rep :: reps, s)

end Session

def Round.Report.view (r : Round.Report) (many : Bool) : Json :=
  let texts (xs : List String) : Json := .arr (xs.map .str)
  Json.object ([("enqueued", texts r.sent),
    ("entries", .arr (r.entries.map fun (q, e, o) => Json.object [("queue", .str q),
      ("entry", .str e), ("last_outcome", Json.ofOption (o.map (·.name)))])),
    ("results", texts r.results),
    ("dead_letters", Json.object (r.deadLetters.map fun (q, ds) => (q, .arr ds))),
    if many then ("statuses", .arr (r.statuses.map (·.report)))
    else ("status", (r.statuses.head?.map (·.report)).getD .null)] ++
    (if r.legacy.isEmpty then [] else
      [("legacy", Json.object (r.legacy.map fun (k, xs) => (k, texts xs)))]))

def Worker.Summary.view (s : Worker.Summary) : Json :=
  Json.object [("stopped", Json.ofNat s.stopped), ("failed", Json.ofNat s.failed),
    ("aborted", Json.ofNat s.aborted), ("subscriptions", .arr (s.statuses.map (·.report)))]

end Relay
