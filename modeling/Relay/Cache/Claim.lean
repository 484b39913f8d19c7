import Relay.Cache.Store
import Relay.Reply
/-!
# Claims

A claim makes one worker the processor of a request: the first to write the claim record
under `idempotent:<operation>:<request id>` processes it, and every other worker observes.
Once the processor has an outcome it writes the record again as `completed` with the result,
so a later delivery of the same request replays the result instead of running the
operation again.

A worker that finds an `in_flight` record younger than the liveness span leaves the request
to its owner; an older record, a completed one without a result, or one that cannot be read
belongs to nobody alive and is taken over by compare-and-swap, so that of several workers
racing for it only one wins. A fault of the store degrades the claim: the request is then
processed without one. After three rounds lost to other workers the request is left for
later, as if in flight under the same delivery.
-/
namespace Relay.Cache

inductive ClaimState where
  | inFlight
  | completed
  deriving DecidableEq, Repr

def ClaimState.name : ClaimState → String
  | .inFlight => "in_flight"
  | .completed => "completed"

structure ClaimRecord where
  state : ClaimState
  owner : String
  deliveryId : String
  claimedAtMs : Int
  result : Option Reply
  deriving Repr, BEq, DecidableEq

namespace ClaimRecord

def encode (r : ClaimRecord) : String :=
  Json.writeRecord ([("state", Json.quote r.state.name), ("owner", Json.quote r.owner),
    ("delivery_id", Json.quote r.deliveryId),
    ("claimed_at_ms", Json.write (Json.ofInt r.claimedAtMs))] ++
    match r.result with
    | some res => [("result", res.encode)]
    | none => [])

def fields : List Json.Field := [
  { name := "state", read := Json.readChoice ["in_flight", "completed"] },
  { name := "owner", read := Json.readText },
  { name := "delivery_id", read := Json.readText },
  { name := "claimed_at_ms", read := Json.readInt64 },
  Reply.field "result"]

def build (vs : List Json) : Except Json.Problem ClaimRecord := do
  let result ← match vs.getD 4 .null with
    | .arr rs => (Reply.build rs).map some
    | _ => pure none
  let state : ClaimState :=
    if (vs.getD 0 .null).asText == "completed" then .completed else .inFlight
  pure ⟨state, (vs.getD 1 .null).asText, (vs.getD 2 .null).asText, (vs.getD 3 .null).asInt,
    result⟩

def decode (text : String) : Except Json.Stop ClaimRecord :=
  Json.parseRecord "ClaimRecord" fields build text.toUTF8.toList

end ClaimRecord

inductive Claim where
  | acquired
  | reclaimed (previousOwner : Option String)
  | inFlight (sameDelivery : Bool) (owner : String)
  | completed (result : Reply)
  | degraded (fault : Fault)
  deriving Repr, BEq

def Claim.shouldProcess : Claim → Bool
  | .acquired | .reclaimed _ | .degraded _ => true
  | _ => false

structure Guard where
  owner : String
  ttl : Span := Span.ofSecs 300
  liveness : Span := Span.ofSecs 60
  deriving Repr

namespace Guard

def key (operation requestId : String) : String := "idempotent:" ++ operation ++ ":" ++ requestId

def rounds : Nat := 3

def age (now : Moment) (r : ClaimRecord) : Except Panic Span :=
  let elapsed := now.ms - r.claimedAtMs
  if fitsInt64 elapsed then .ok (Span.ofMillis elapsed.toNat) else .error .subOverflow

def judge (g : Guard) (now : Moment) (deliveryId raw : String) :
    Except Panic (Sum Claim (Option String)) :=
  match ClaimRecord.decode raw with
  | .error _ => .ok (.inr none)
  | .ok r => do
    let live := decide ((← age now r) < g.liveness)
    match r.state, r.result with
    | .completed, some res => pure (.inl (.completed res))
    | .inFlight, _ =>
      if live then pure (.inl (.inFlight (r.deliveryId == deliveryId) r.owner))
      else pure (.inr (some r.owner))
    | _, _ => pure (.inr (some r.owner))

def claimRounds (g : Guard) (c : Clock) (k fresh deliveryId : String) :
    Nat → Store → Except Panic (Claim × Store)
  | 0, s => .ok (.inFlight true "contended", s)
  | n + 1, s =>
    match s.setIfAbsent c k fresh g.ttl with
    | .error (.panic p) => .error p
    | .error (.fault f) => .ok (.degraded f, s)
    | .ok (true, s) => .ok (.acquired, s)
    | .ok (false, s) =>
      match s.get c k with
      | .error (.panic p) => .error p
      | .error (.fault f) => .ok (.degraded f, s)
      | .ok none => claimRounds g c k fresh deliveryId n s
      | .ok (some raw) =>
        match g.judge c.wall deliveryId raw with
        | .error p => .error p
        | .ok (.inl claim) => .ok (claim, s)
        | .ok (.inr previousOwner) =>
          match s.compareAndSwap c k raw fresh g.ttl with
          | .error (.panic p) => .error p
          | .error (.fault f) => .ok (.degraded f, s)
          | .ok (true, s) => .ok (.reclaimed previousOwner, s)
          | .ok (false, s) => claimRounds g c k fresh deliveryId n s

def claim (g : Guard) (s : Store) (c : Clock) (operation requestId deliveryId : String) :
    Except Panic (Claim × Store) :=
  let fresh : ClaimRecord := ⟨.inFlight, g.owner, deliveryId, c.wall.ms, none⟩
  claimRounds g c (key operation requestId) fresh.encode deliveryId rounds s

def complete (g : Guard) (s : Store) (c : Clock) (operation requestId deliveryId : String)
    (result : Reply) : Except Halt Store :=
  let record : ClaimRecord := ⟨.completed, g.owner, deliveryId, c.wall.ms, some result⟩
  s.set c (key operation requestId) record.encode g.ttl

def release (s : Store) (operation requestId : String) : Except Halt Store :=
  s.delete (key operation requestId)

end Guard

end Relay.Cache
