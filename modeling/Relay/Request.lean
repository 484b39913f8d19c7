import Relay.Json.Record
import Relay.Json.Write
import Relay.Text.Blank
import Relay.Fault
/-!
# Requests

A request names the endpoint and method it is for, carries a payload that only the
operation reads, and a request id that the result echoes so that the caller can match the
two. On the wire it is a JSON record with fields `requestId`, `endpoint`, `method`, `payload`
and `timestamp`; the last three may be left out and read as `""`, `null` and `0`.

`Request.decode` refuses what is not such a record, with the reader's message, and a request
id that is blank (`Relay.Text.isBlank`). `Request.encode` writes the fields in that order.
-/
namespace Relay

structure Request where
  requestId : String
  endpoint : String
  method : String := ""
  payload : Json := .null
  timestamp : Int := 0
  deriving Repr, BEq, DecidableEq

namespace Request

def fields : List Json.Field := [
  { name := "requestId", read := Json.readText },
  { name := "endpoint", read := Json.readText },
  { name := "method", read := Json.readText, absent := .fallback (.str "") },
  { name := "payload", read := Json.readAny, absent := .fallback .null },
  { name := "timestamp", read := Json.readInt64, absent := .fallback (.num (.nat 0)) }]

def ofValues (vs : List Json) : Request :=
  { requestId := (vs.getD 0 .null).asText
    endpoint := (vs.getD 1 .null).asText
    method := (vs.getD 2 .null).asText
    payload := vs.getD 3 .null
    timestamp := (vs.getD 4 .null).asInt }

def decode (bytes : List UInt8) : Except Fault Request :=
  match Json.parseRecord "RequestEnvelope" fields (fun vs => .ok (ofValues vs)) bytes with
  | .error e => .error (.decode (e.message bytes))
  | .ok r => if Text.isBlankText r.requestId then .error (.decode "requestId is empty") else .ok r

def encode (r : Request) : String :=
  Json.writeRecord [("requestId", Json.quote r.requestId), ("endpoint", Json.quote r.endpoint),
    ("method", Json.quote r.method), ("payload", Json.write r.payload),
    ("timestamp", Json.write (Json.ofInt r.timestamp))]

end Request

end Relay
