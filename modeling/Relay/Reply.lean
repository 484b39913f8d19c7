import Relay.Json.Record
import Relay.Json.Write
import Relay.Text.Blank
import Relay.Time
import Relay.Fault
/-!
# Results

A result answers one request: it echoes the request id, says where it comes from and when it
was made, and holds either the operation's data (completed) or the reason it failed, never
both; `Reply.Outcome` makes that a matter of the type. A completed operation that answered
`null` is reported as `true`, and a failure whose reason is blank as `unknown error`.

On the wire a result is a record `requestId`, `status`, `data`, `error`, `timestamp`,
`source`, with `null` in the field that its status leaves empty. Decoding takes `null` for
absent and refuses a record whose fields do not match its status.
-/
namespace Relay

inductive Reply.Outcome where
  | completed (data : Json)
  | failed (error : String)
  deriving Repr, BEq, DecidableEq

structure Reply where
  requestId : String
  outcome : Reply.Outcome
  timestamp : String
  source : String
  deriving Repr, BEq, DecidableEq

namespace Reply

def unknownError : String := "unknown error"

def completed (requestId : String) (data : Json) (source : String) (now : Moment) : Reply :=
  { requestId, outcome := .completed (if data.isNull then .bool true else data),
    timestamp := now.rfc3339, source }

def failed (requestId : String) (error : String) (source : String) (now : Moment) : Reply :=
  { requestId, outcome := .failed (if Text.isBlankText error then unknownError else error),
    timestamp := now.rfc3339, source }

def isCompleted (r : Reply) : Bool :=
  match r.outcome with
  | .completed _ => true
  | .failed _ => false

def status (r : Reply) : String := if r.isCompleted then "completed" else "failed"

def data? (r : Reply) : Option Json :=
  match r.outcome with
  | .completed d => some d
  | .failed _ => none

def error? (r : Reply) : Option String :=
  match r.outcome with
  | .completed _ => none
  | .failed e => some e

def encode (r : Reply) : String :=
  Json.writeRecord [("requestId", Json.quote r.requestId), ("status", Json.quote r.status),
    ("data", Json.write (r.data?.getD .null)), ("error", Json.write (Json.ofOption r.error?)),
    ("timestamp", Json.quote r.timestamp), ("source", Json.quote r.source)]

def fields : List Json.Field := [
  { name := "requestId", read := Json.readText },
  { name := "status", read := Json.readChoice ["completed", "failed"] },
  { name := "data", read := Json.readMaybe Json.readAny, absent := .fallback .null },
  { name := "error", read := Json.readMaybe Json.readText, absent := .fallback .null },
  { name := "timestamp", read := Json.readText },
  { name := "source", read := Json.readText }]

def ofValues? (vs : List Json) : Option Reply :=
  let requestId := (vs.getD 0 .null).asText
  let timestamp := (vs.getD 4 .null).asText
  let source := (vs.getD 5 .null).asText
  match (vs.getD 1 .null).asText, (vs.getD 2 .null).toOption, (vs.getD 3 .null).asText? with
  | "completed", some d, none => some { requestId, outcome := .completed d, timestamp, source }
  | "failed", none, some e => some { requestId, outcome := .failed e, timestamp, source }
  | _, _, _ => none

def build (vs : List Json) : Except Json.Problem Reply :=
  match ofValues? vs with
  | some r => .ok r
  | none => .error (.custom ("result " ++ (vs.getD 0 .null).asText ++ " violates status exclusivity"))

def field (name : String) : Json.Field :=
  { name, read := Json.readMaybe (Json.recordField "RawResultMessage" fields),
    absent := .fallback .null,
    check := fun v => match v with
      | .arr vs =>
        match build vs with
        | .error p => some p
        | .ok _ => none
      | _ => none }

def decode (bytes : List UInt8) : Except Fault Reply :=
  (Json.parseRecord "RawResultMessage" fields build bytes).mapError
    (fun e => .decode (e.message bytes))

end Reply

end Relay
