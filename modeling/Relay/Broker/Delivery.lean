import Relay.Time
import Relay.Text.Utf8
/-!
# Deliveries

A queue hands out its entries as deliveries: the entry's id, which stays the same when the
entry is handed out again, the queue, the raw bytes and how many times the entry has been
handed out, this time included. Once the consumer is done it settles the delivery: `ack`
removes it, `nackDiscard` removes it into the queue's dead letters, `nackRequeue` leaves it
to be handed out again. Results go out to a destination, an exchange with a routing key,
whose stream is `<exchange>:<routing key>`.
-/
namespace Relay

structure Destination where
  exchange : String
  routingKey : String
  deriving DecidableEq, Repr

namespace Destination

def streamKey (d : Destination) : String := d.exchange ++ ":" ++ d.routingKey

def text (d : Destination) : String := d.exchange ++ "/" ++ d.routingKey

end Destination

structure Delivery where
  id : String
  queue : String
  payload : List UInt8
  count : Nat
  deriving DecidableEq, Repr

def Delivery.isRedelivery (d : Delivery) : Bool := 1 < d.count

inductive Outcome where
  | ack
  | nackDiscard
  | nackRequeue
  deriving DecidableEq, Repr

namespace Outcome

def name : Outcome → String
  | .ack => "ack"
  | .nackDiscard => "nack_discard"
  | .nackRequeue => "nack_requeue"

def ofName? : String → Option Outcome
  | "ack" => some .ack
  | "nack_discard" => some .nackDiscard
  | "nack_requeue" => some .nackRequeue
  | _ => none

def isTerminal : Outcome → Bool
  | .nackRequeue => false
  | _ => true

theorem ofName_name (o : Outcome) : ofName? o.name = some o := by cases o <;> rfl

end Outcome

structure DeadLetter where
  id : String
  queue : String
  originalId : String
  reason : String
  count : Nat
  failedAt : Moment
  payload : String
  deriving Repr

def DeadLetter.ofDelivery (id : String) (d : Delivery) (reason : String) (now : Moment) :
    DeadLetter :=
  ⟨id, d.queue, d.id, reason, d.count, now, Utf8.decodeLossy d.payload⟩

def deadLetterStream (queue : String) : String := queue ++ ":dlq"

end Relay
