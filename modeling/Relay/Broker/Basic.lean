import Relay.Broker.Delivery
import Relay.Clock
import Relay.Fault
import Relay.Text.Integer
/-!
# The broker

Streams held in memory, each a queue with one consumer group. Appending an entry (enqueueing,
publishing, replaying a dead letter) gives it the next id `<n>-0` of one counter for the whole
broker; settling a delivery takes a number of that counter too, the id its dead letter gets
if it has one. A requeued delivery comes back, counted once more, after the redelivery delay;
until then it waits beside the ready entries. Every stream keeps all that was ever appended
to it and every settlement made on it, in order.

Receiving waits up to a given span for entries, looking every 5 ms, and takes what is ready.
Failures can be injected: the next receives can be made to fail, and publishing can be
switched off. A broker reached over the network may fail any call to create a group, take back
unsettled entries or receive; `Broker.answer` gives its answer to the next one. The calls here
give what a call that returns does: a receive whose deadline, or a requeue whose due time, is
past the end of the monotonic clock panics instead (`receivePanic?`, `settlePanic?`).
-/
namespace Relay

structure Stream where
  history : List (List UInt8) := []
  ready : List Delivery := []
  delayed : List (Nat × Delivery) := []
  unsettled : List Delivery := []
  recentSettlements : List (String × Outcome) := []
  lastSettled : List (String × Outcome) := []
  dead : List DeadLetter := []
  deriving Repr

inductive Call where
  | ensureQueue
  | recover
  | receive
  deriving DecidableEq, Repr

/-- How a broker reached over the network answers its next calls of each kind, oldest first: a
fault to fail with, or `none` to answer as the broker held in memory does. A call past the end
of its list is answered. -/
structure Outage where
  ensureQueue : List (Option Fault) := []
  recover : List (Option Fault) := []
  receive : List (Option Fault) := []
  deriving Repr

namespace Outage

def pending (o : Outage) : Call → List (Option Fault)
  | .ensureQueue => o.ensureQueue
  | .recover => o.recover
  | .receive => o.receive

def spend (o : Outage) : Call → Outage
  | .ensureQueue => { o with ensureQueue := o.ensureQueue.tail }
  | .recover => { o with recover := o.recover.tail }
  | .receive => { o with receive := o.receive.tail }

end Outage

structure Broker where
  streams : List (String × Stream) := []
  groups : List String := []
  lastId : Nat := 0
  redeliveryDelay : Span := Span.zero
  failingReceives : Nat := 0
  publishFailing : Bool := false
  outage : Outage := {}
  deriving Repr

def putEntry {α : Type} (k : String) (v : α) : List (String × α) → List (String × α)
  | [] => [(k, v)]
  | (k', v') :: rest => if k' == k then (k, v) :: rest else (k', v') :: putEntry k v rest

theorem lookup_putEntry {α : Type} (k : String) (v : α) (l : List (String × α)) :
    (putEntry k v l).lookup k = some v := by
  induction l with
  | nil => simp [putEntry]
  | cons e rest ih =>
    obtain ⟨k', v'⟩ := e
    by_cases h : k' = k
    · subst h
      simp [putEntry]
    · have h1 : (k' == k) = false := by simp [h]
      have h2 : (k == k') = false := by simp [Ne.symm h]
      simp only [putEntry, h1, List.lookup_cons, h2, ih, Bool.false_eq_true, if_false]

def pollInterval : Span := Span.ofMillis 5

def entrySequence (id : String) : Nat :=
  match (Text.IntFormat.unsigned 64).parse ((id.splitOn "-").headD "") with
  | .ok n => n.toNat
  | .error _ => Nat.pow 2 64 - 1

namespace Stream

def promote (s : Stream) (now : Nat) : Stream :=
  { s with
    ready := s.ready ++ (s.delayed.filter (·.1 ≤ now)).map (·.2)
    delayed := s.delayed.filter (fun e => !(e.1 ≤ now)) }

def handOut (s : Stream) (d : Delivery) : Stream :=
  { s with unsettled := if s.unsettled.any (·.id == d.id)
      then s.unsettled.map (fun e => if e.id == d.id then d else e)
      else s.unsettled ++ [d] }

end Stream

namespace Broker

def withDelay (delay : Span) : Broker := { redeliveryDelay := delay }

def answer (b : Broker) (k : Call) : Option Fault × Broker :=
  ((b.outage.pending k).head?.join, { b with outage := b.outage.spend k })

theorem answer_of_pending_nil {b : Broker} {k : Call} (h : b.outage.pending k = []) :
    b.answer k = (none, b) := by
  obtain ⟨streams, groups, lastId, delay, failing, publishFailing, ⟨e, r, v⟩⟩ := b
  cases k <;> simp_all [answer, Outage.pending, Outage.spend]

def stream (b : Broker) (name : String) : Stream := (b.streams.lookup name).getD {}

def setStream (b : Broker) (name : String) (s : Stream) : Broker :=
  { b with streams := putEntry name s b.streams }

def nextId (b : Broker) : String × Broker :=
  (toString (b.lastId + 1) ++ "-0", { b with lastId := b.lastId + 1 })

def append (b : Broker) (name : String) (payload : List UInt8) : String × Broker :=
  let (id, b) := b.nextId
  let s := b.stream name
  let s := { s with history := s.history ++ [payload], ready := s.ready ++ [⟨id, name, payload, 1⟩] }
  (id, b.setStream name s)

def ensureQueue (b : Broker) (queue : String) : Broker :=
  let b := if b.groups.contains queue then b else { b with groups := b.groups ++ [queue] }
  b.setStream queue (b.stream queue)

@[simp] theorem ensureQueue_outage (b : Broker) (q : String) : (b.ensureQueue q).outage = b.outage := by
  unfold ensureQueue setStream
  split <;> rfl

@[simp] theorem ensureQueue_failingReceives (b : Broker) (q : String) :
    (b.ensureQueue q).failingReceives = b.failingReceives := by
  unfold ensureQueue setStream
  split <;> rfl

def redeliver (b : Broker) (queue id : String) : Bool × Broker :=
  match b.streams.lookup queue with
  | none => (false, b)
  | some s =>
    match s.unsettled.find? (·.id == id) with
    | none => (false, b)
    | some d => (true, b.setStream queue { s with ready := s.ready ++ [{ d with count := d.count + 1 }] })

def backlog (b : Broker) (queue : String) : Nat :=
  let s := b.stream queue
  s.ready.length + s.delayed.length

def unsettledCount (b : Broker) (queue : String) : Nat := (b.stream queue).unsettled.length

def recover (b : Broker) (queue : String) (count : Nat) : List Delivery :=
  match b.streams.lookup queue with
  | none => []
  | some s =>
    let sorted := s.unsettled.mergeSort (fun x y => entrySequence x.id ≤ entrySequence y.id)
    (sorted.take count).map fun d => { d with count := d.count + 1 }

theorem recover_of_unsettled_nil {b : Broker} {q : String} (h : (b.stream q).unsettled = [])
    (count : Nat) : b.recover q count = [] := by
  unfold recover
  unfold stream at h
  split
  · rfl
  · next s hs => simp_all

def take (b : Broker) (queue : String) (count : Nat) (now : Nat) : List Delivery × Broker :=
  let s := (b.stream queue).promote now
  let batch := s.ready.take count
  let s := batch.foldl Stream.handOut { s with ready := s.ready.drop count }
  (batch, b.setStream queue s)

def wakeTime (b : Broker) (queue : String) (count : Nat) (now deadline : Nat) : Nat :=
  let dues := ((b.stream queue).delayed.map (·.1)).filter (now < ·)
  match dues.min? with
  | some t =>
    if count = 0 ∨ deadline < t then deadline
    else
      let step := pollInterval.nanos
      Nat.min deadline (now + (t - now + step - 1) / step * step)
  | none => deadline

def receive (b : Broker) (c : Clock) (queue : String) (count : Nat) (block : Span) :
    Except Fault (List Delivery) × Broker × Clock :=
  if 0 < b.failingReceives then
    (.error (.transport (queue ++ ": injected receive failure")),
      { b with failingReceives := b.failingReceives - 1 }, c)
  else
    let (batch, b) := b.take queue count c.mono
    if !batch.isEmpty || block.nanos = 0 then (.ok batch, b, c)
    else
      let wake := b.wakeTime queue count c.mono (c.mono + block.nanos)
      let c := c.advance ⟨wake - c.mono⟩
      let (batch, b) := b.take queue count c.mono
      (.ok batch, b, c)

/-- The panic of a receive at `c` waiting up to `block`: its deadline is past the end of the
monotonic clock. A receive that spends an injected failure answers before it takes the
deadline. -/
def receivePanic? (b : Broker) (c : Clock) (block : Span) : Option Panic :=
  if 0 < b.failingReceives then none
  else match c.deadline block with
    | .ok _ => none
    | .error p => some p

theorem receivePanic?_eq_some {b : Broker} {c : Clock} {block : Span} {p : Panic}
    (h : b.receivePanic? c block = some p) : p = .instantOverflow := by
  unfold receivePanic? at h
  split at h
  · cases h
  · split at h
    · cases h
    · next e => exact (Option.some.inj h) ▸ Clock.deadline_error e

/-- The panic of a settlement with `o` at `c`: a requeue due past the end of the monotonic
clock, which panics once the settlement is recorded, before the delivery is put back. -/
def settlePanic? (b : Broker) (c : Clock) (o : Outcome) : Option Panic :=
  match o, c.deadline b.redeliveryDelay with
  | .nackRequeue, .error p => some p
  | _, _ => none

/-- The settlement of `d` with `o` recorded on its queue, and nothing more: what a settlement
that panics leaves. -/
def recordSettlement (b : Broker) (d : Delivery) (o : Outcome) : Broker :=
  let (_, b) := b.nextId
  let s := b.stream d.queue
  b.setStream d.queue { s with
    unsettled := s.unsettled.filter (·.id != d.id)
    recentSettlements := (d.id, o) :: s.recentSettlements
    lastSettled := putEntry d.id o s.lastSettled }

/-- Settles a delivery at the time `c`: its settlement is recorded on its queue, and a
discarded delivery becomes a dead letter, a requeued one comes back after the delay. -/
def settle (b : Broker) (c : Clock) (d : Delivery) (o : Outcome) (reason : Option String) :
    Broker :=
  let (deadId, b) := b.nextId
  let s := b.stream d.queue
  let s := { s with
    unsettled := s.unsettled.filter (·.id != d.id)
    recentSettlements := (d.id, o) :: s.recentSettlements
    lastSettled := putEntry d.id o s.lastSettled }
  let s := match o with
    | .ack => s
    | .nackDiscard =>
      { s with dead := s.dead ++ [DeadLetter.ofDelivery deadId d (reason.getD "discarded") c.wall] }
    | .nackRequeue =>
      { s with delayed := s.delayed ++ [(c.mono + b.redeliveryDelay.nanos, { d with count := d.count + 1 })] }
  b.setStream d.queue s

def publish (b : Broker) (dest : Destination) (payload : List UInt8) :
    Except Fault (String × Broker) :=
  if b.publishFailing then .error (.publish (dest.text ++ ": broker unreachable"))
  else .ok (b.append dest.streamKey payload)

def settlements (b : Broker) (queue : String) : List (String × Outcome) :=
  (b.stream queue).recentSettlements.reverse

def lastOutcome (b : Broker) (queue id : String) : Option Outcome :=
  (b.stream queue).lastSettled.lookup id

def deadLetters (b : Broker) (queue : String) : List DeadLetter := (b.stream queue).dead

def replayDeadLetters (b : Broker) (queue : String) (count : Nat) : Nat × Broker :=
  match b.streams.lookup queue with
  | none => (0, b)
  | some s =>
    let moved := s.dead.take count
    let b := b.setStream queue { s with dead := s.dead.drop count }
    let b := moved.foldl (fun b e => (b.append queue e.payload.toUTF8.toList).2) b
    (moved.length, b)

theorem append_lastId (b : Broker) (name : String) (payload : List UInt8) :
    (b.append name payload).2.lastId = b.lastId + 1 := by
  simp [append, nextId, setStream]

theorem stream_setStream (b : Broker) (name : String) (s : Stream) :
    (b.setStream name s).stream name = s := by
  simp [setStream, stream, lookup_putEntry]

theorem lastOutcome_settle (b : Broker) (c : Clock) (d : Delivery) (o : Outcome)
    (reason : Option String) : (b.settle c d o reason).lastOutcome d.queue d.id = some o := by
  cases o <;> simp [settle, lastOutcome, stream_setStream, lookup_putEntry]

end Broker

end Relay
