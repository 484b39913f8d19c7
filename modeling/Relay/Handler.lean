import Relay.Backend
import Relay.Publisher
import Relay.Cache.Claim
import Relay.Cache.Results
import Relay.Failure.Classify
import Relay.Subscription.Config
import Relay.Request
import Relay.Settings
/-!
# Handling a delivery

A delivery of a lane (a queue for one resource and verb) is handled in four steps.

1. Its bytes are read as a request; bytes that are no request are discarded.
2. The request is claimed. A request already completed has its stored result published again
   and is acknowledged; one in flight under another delivery is a duplicate and is
   acknowledged; one in flight under this very delivery is left for later. When the cache
   fails the request is processed without a claim.
3. The backend produces the data. Reads go through the result cache; changes invalidate it
   once they succeed. A failure is classified; a kind with retries left is retried after the
   kind's pause.
4. The result is published. Success is acknowledged, a missing thing too, any other failure
   discarded with its kind and message as the reason. A claimed request has its result
   recorded before it is published, so that a delivery after a failed publication replays it;
   a failure of a kind that has retries gives its claim up instead, so that it can be tried
   again. A result that cannot be published leaves the delivery for later.

A handling runs in steps, so that a lane can wait on the schedule's clock while others go on:
`start` reads and claims the request, each `step` calls the backend once or ends the handling,
and says how long the handling then waits. `handle` runs a handling from start to end without
waiting, with the same calls in the same order.
-/
namespace Relay

structure Handled where
  outcome : Outcome
  reason : Option String := none
  deriving DecidableEq, Repr

namespace Handled

def ack : Handled := ⟨.ack, none⟩

def requeue (why : String) : Handled := ⟨.nackRequeue, some why⟩

def discard (why : String) : Handled := ⟨.nackDiscard, some why⟩

end Handled

structure Bridge where
  publisher : Publisher
  guard : Cache.Guard
  results : Cache.Results := {}
  classifier : Failure.Classifier := .standard

/-- The shared parts as the settings make them: results go to the result destination under
the source, with copies for the legacy resources; claims are written by this consumer and
live as long as the settings say; results are cached for the cache's span. -/
def Bridge.ofSettings (s : Settings) : Bridge :=
  { publisher := ⟨⟨s.resultExchange, s.resultRoutingKey⟩, s.source, s.legacyResources⟩
    guard := ⟨s.consumerId, s.idempotencyTtl, s.claimLiveness⟩
    results := ⟨s.cacheTtl⟩ }

namespace Handler

structure State (σ : Type) where
  broker : Broker
  store : Cache.Store
  clock : Clock
  backend : σ
  calls : List (Verb × Json) := []

variable {σ : Type} [Backend σ]

def call (st : State σ) (resource : String) (verb : Verb) (payload : Json) :
    Except Failure Json × State σ :=
  let (r, b) := Backend.serve st.backend resource st.clock.wall verb payload
  (r, { st with backend := b, calls := (verb, payload) :: st.calls })

def retryBudget : Nat := 3

/-- What one call of the backend comes to: a final answer, the data or a failure with its
kind, or a failure whose kind allows one more try after `retries` retries. -/
inductive Answer where
  | final (r : Except (Failure × Failure.Kind) Json)
  | retry (f : Failure) (k : Failure.Kind)

def ask (br : Bridge) (resource : String) (verb : Verb) (payload : Json) (retries : Nat)
    (st : State σ) : Answer × State σ :=
  match call st resource verb payload with
  | (.ok v, st) => (.final (.ok v), st)
  | (.error f, st) =>
    let k := br.classifier.classify f
    if k.shouldRetry retries then (.retry f k, st) else (.final (.error (f, k)), st)

/-- Calls the backend until it answers or fails with a failure whose kind has no retry left
after `retries` retries; `fuel` bounds the retries still to make. -/
def attempt (br : Bridge) (resource : String) (verb : Verb) (payload : Json) (retries : Nat) :
    Nat → State σ → Except (Failure × Failure.Kind) Json × State σ
  | fuel, st =>
    match ask br resource verb payload retries st with
    | (.final r, st) => (r, st)
    | (.retry f k, st) =>
      match fuel with
      | fuel + 1 => attempt br resource verb payload (retries + 1) fuel st
      | 0 => (.error (f, k), st)

def execute (br : Bridge) (resource : String) (verb : Verb) (payload : Json) (st : State σ) :
    Except (Failure × Failure.Kind) Json × State σ :=
  attempt br resource verb payload 0 retryBudget st

/-- What follows the data of a handling: a change invalidates the result cache of its
resource, a read that missed the cache stores the data under the key the cache named, and a
read that went past the cache does neither. -/
inductive Sequel where
  | invalidate
  | store (key : String)
  | pass

inductive Stand where
  | calling (retries : Nat)
  | answered (r : Except (Failure × Failure.Kind) Json)

/-- A handling past its claim: the delivery and its request, whether the request is claimed
(its result is then recorded, or its claim given up), what follows the data, and where it
stands with the backend. -/
structure Handling where
  delivery : Delivery
  request : Request
  claimed : Bool
  sequel : Sequel
  stand : Stand

/-- How far a handling got: done, with what becomes of its delivery, or under way, going on
once `pause` has passed on the schedule's clock (at once for a pause of zero). -/
inductive Progress where
  | done (h : Handled)
  | pauses (w : Handling) (pause : Span)

def emit (br : Bridge) (lane : Subscription.Config) (st : State σ) (r : Reply) (h : Handled) :
    Handled × State σ :=
  match br.publisher.publish st.broker lane.resource r with
  | .ok b => (h, { st with broker := b })
  | .error f => (Handled.requeue f.message, st)

def keep (st : State σ) : Except Cache.Halt Cache.Store → Except Panic (State σ)
  | .ok s => .ok { st with store := s }
  | .error (.fault _) => .ok st
  | .error (.panic p) => .error p

/-- Starts handling a delivery of a lane: reads its bytes as a request and claims it. Bytes
that are no request are discarded; a request already completed has its stored result
published again; one in flight is a duplicate, or, under this very delivery, left for later.
Otherwise the handling goes on to the backend, or, for a read the result cache holds, straight
to the data. -/
def start (br : Bridge) (lane : Subscription.Config) (st : State σ) (d : Delivery) :
    Except Panic (Progress × State σ) := do
  match Request.decode d.payload with
  | .error f => pure (.done (Handled.discard (f.kind.name ++ ": " ++ f.message)), st)
  | .ok q =>
    let (claim, s) ← br.guard.claim st.store st.clock lane.queue q.requestId d.id
    let st := { st with store := s }
    match claim with
    | .completed r =>
      let (h, st) := emit br lane st r Handled.ack
      pure (.done h, st)
    | .inFlight true _ => pure (.done (Handled.requeue "claim held by a live processor"), st)
    | .inFlight false _ => pure (.done Handled.ack, st)
    | _ =>
      let claimed := claim.shouldProcess && !(claim matches .degraded _)
      let work (sq : Sequel) (stand : Stand) : Progress := .pauses ⟨d, q, claimed, sq, stand⟩ Span.zero
      if lane.verb.isMutation then pure (work .invalidate (.calling 0), st)
      else
        match Cache.Results.lookup st.store st.clock lane.resource
            (Cache.queryShape lane.verb q.payload) with
        | .hit v => pure (work .pass (.answered (.ok v)), st)
        | .bypass => pure (work .pass (.calling 0), st)
        | .miss k => pure (work (.store k) (.calling 0), st)

def follow (br : Bridge) (lane : Subscription.Config) (st : State σ) (data : Json) :
    Sequel → Except Panic (State σ)
  | .invalidate =>
    match Cache.Results.invalidate st.store st.clock lane.resource with
    | .ok s => .ok { st with store := s }
    | .error (.fault _) => .ok st
    | .error (.panic p) => .error p
  | .store k => do
    let s ← br.results.put st.store st.clock k data
    pure { st with store := s }
  | .pass => .ok st

/-- Ends a handling with the backend's final answer. Success is acknowledged, a missing thing
too, any other failure discarded with its kind and message as the reason. A claimed request
has its result recorded before it is published; a failure of a kind that has retries gives its
claim up instead, so that it can be tried again. A result that cannot be published leaves the
delivery for later. -/
def conclude (br : Bridge) (lane : Subscription.Config) (st : State σ) (w : Handling) :
    Except (Failure × Failure.Kind) Json → Except Panic (Handled × State σ)
  | .ok data => do
    let st ← follow br lane st data w.sequel
    let rid := w.request.requestId
    let result := br.publisher.completed rid data st.clock.wall
    let st ← if w.claimed then
        keep st (br.guard.complete st.store st.clock lane.queue rid w.delivery.id result)
      else pure st
    pure (emit br lane st result Handled.ack)
  | .error (f, k) => do
    let rid := w.request.requestId
    let result := br.publisher.failed rid f.message st.clock.wall
    let st ← if w.claimed then
        if k.maxRetries = 0 then
          keep st (br.guard.complete st.store st.clock lane.queue rid w.delivery.id result)
        else keep st (Cache.Guard.release st.store lane.queue rid)
      else pure st
    let h := if k.isBenign then Handled.ack else Handled.discard (k.name ++ ": " ++ f.message)
    pure (emit br lane st result h)

/-- One step of a handling. Standing to call the backend, it calls it once and waits as long
as the call kept it; a failure to retry then also waits the kind's pause for this retry. With
the final answer, it ends. -/
def step (br : Bridge) (lane : Subscription.Config) (st : State σ) (w : Handling) :
    Except Panic (Progress × State σ) :=
  match w.stand with
  | .calling n =>
    let wait := Backend.latency st.backend lane.resource
    match ask br lane.resource lane.verb w.request.payload n st with
    | (.final r, st) => .ok (.pauses { w with stand := .answered r } wait, st)
    | (.retry f k, st) =>
      if n < retryBudget then
        .ok (.pauses { w with stand := .calling (n + 1) } ⟨wait.nanos + (k.backoff n).nanos⟩, st)
      else .ok (.pauses { w with stand := .answered (.error (f, k)) } wait, st)
  | .answered r => (conclude br lane st w r).map fun (h, st) => (.done h, st)

def finish (br : Bridge) (lane : Subscription.Config) (st : State σ) (w : Handling) :
    Except Panic (Handled × State σ) :=
  match w.stand with
  | .calling n =>
    let (r, st) := attempt br lane.resource lane.verb w.request.payload n (retryBudget - n) st
    conclude br lane st w r
  | .answered r => conclude br lane st w r

def handle (br : Bridge) (lane : Subscription.Config) (st : State σ) (d : Delivery) :
    Except Panic (Handled × State σ) := do
  match ← start br lane st d with
  | (.done h, st) => pure (h, st)
  | (.pauses w _, st) => finish br lane st w

def stepBound : Nat := 2 * retryBudget + 3

end Handler

end Relay
