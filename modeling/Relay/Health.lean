import Relay.View
import Relay.Subscription.Status
/-!
# Health and administration over HTTP

The routes a bridge answers for its operators:

* `/health` and `/healthz`: alive, with the application's name and version;
* `/ready` and `/readyz`: ready while the broker answers, degraded while only the cache
  does not;
* `/subscriptions`: the status of every subscription, with how many are active and failed;
* `/metrics`: unavailable, as no recorder is installed;
* `/admin/dlq/<queue>/stats`, `/admin/dlq/<queue>/messages?limit=n` and, by `POST`,
  `/admin/dlq/<queue>/replay?count=n`: the dead letters of a queue, at most 100 of them at a
  time, 10 unless asked otherwise.

A path matches a route segment by segment, as written; only the queue is percent-decoded,
and it must decode to UTF-8. The query is read as form pairs. A path no route has is not
found (404), a route asked with another method is not allowed (405), and `HEAD` is answered
as `GET` without the body.
-/
namespace Relay.Health

inductive Body where
  | json (v : Json)
  | text (s : String)
  deriving Repr

structure Response where
  status : Nat
  contentType : Option String
  body : Body
  deriving Repr

def jsonType : String := "application/json"

def textType : String := "text/plain; charset=utf-8"

def json (status : Nat) (v : Json) : Response := ⟨status, some jsonType, .json v⟩

def text (status : Nat) (s : String) : Response := ⟨status, some textType, .text s⟩

def empty (status : Nat) : Response := ⟨status, none, .text ""⟩

structure Probe where
  broker : Broker
  store : Cache.Store
  appName : String := "bridge-worker"
  appVersion : String := "0.1.0"
  statuses : List Subscription.Status := []

def hexDigit? (b : UInt8) : Option Nat :=
  if 0x30 ≤ b ∧ b ≤ 0x39 then some (b - 0x30).toNat
  else if 0x41 ≤ b ∧ b ≤ 0x46 then some (b - 0x37).toNat
  else if 0x61 ≤ b ∧ b ≤ 0x66 then some (b - 0x57).toNat
  else none

def percentDecode (plus : Bool) : List UInt8 → List UInt8
  | [] => []
  | 0x25 :: a :: b :: rest =>
    match hexDigit? a, hexDigit? b with
    | some x, some y => UInt8.ofNat (16 * x + y) :: percentDecode plus rest
    | _, _ => 0x25 :: percentDecode plus (a :: b :: rest)
  | c :: rest => (if plus && c == 0x2B then 0x20 else c) :: percentDecode plus rest

def queryPairs (q : String) : List (String × String) :=
  let decode (s : String) := Utf8.decodeLossy (percentDecode true s.toUTF8.toList)
  ((q.splitOn "&").filter (· != "")).map fun part =>
    match part.splitOn "=" with
    | [] => ("", "")
    | k :: vs => (decode k, decode ("=".intercalate vs))

def pageSize (pairs : List (String × String)) (name : String) : Except String Nat :=
  let failed (why : String) : Except String Nat :=
    .error ("Failed to deserialize query string: " ++ why)
  match pairs.filter (·.1 == name) with
  | [] => .ok 10
  | [(_, v)] =>
    match (Text.IntFormat.unsigned 64).parse v with
    | .ok n => .ok (Nat.min n.toNat 100)
    | .error e => failed (name ++ ": " ++ e.message)
  | _ => failed ("duplicate field `" ++ name ++ "`")

inductive Route where
  | health
  | ready
  | subscriptions
  | metrics
  | deadLetterStats (queue : String)
  | deadLetters (queue : String)
  | replay (queue : String)

def route? : List String → Option Route
  | ["", "health"] | ["", "healthz"] => some .health
  | ["", "ready"] | ["", "readyz"] => some .ready
  | ["", "subscriptions"] => some .subscriptions
  | ["", "metrics"] => some .metrics
  | ["", "admin", "dlq", q, "stats"] => some (.deadLetterStats q)
  | ["", "admin", "dlq", q, "messages"] => some (.deadLetters q)
  | ["", "admin", "dlq", q, "replay"] => some (.replay q)
  | _ => none

def Route.method : Route → String
  | .replay _ => "POST"
  | _ => "GET"

def queueOf (raw : String) : Except Response String :=
  match Utf8.decode? (percentDecode false raw.toUTF8.toList) with
  | some q => .ok q
  | none => .error (text 400 "Invalid URL: Invalid UTF-8 in `queue`")

namespace Probe

def ready (p : Probe) : Response :=
  let cache := match p.store.ping with
    | .ok _ => "ok"
    | .error (.fault f) => "error: " ++ f.message
    | .error (.panic m) => "error: " ++ m.message
  json 200 (Json.object [("status", .str (if cache == "ok" then "ready" else "degraded")),
    ("checks", Json.object [("broker", .str "ok"), ("cache", .str cache)])])

def serve (p : Probe) (r : Route) (query : String) : Response × Probe :=
  match r with
  | .health => (json 200 (Json.object [("status", .str "healthy"), ("name", .str p.appName),
      ("version", .str p.appVersion)]), p)
  | .ready => (p.ready, p)
  | .subscriptions =>
    let ss := p.statuses
    (json 200 (Json.object [("total", Json.ofNat ss.length),
      ("active", Json.ofNat (ss.filter (·.state == .active)).length),
      ("failed", Json.ofNat (ss.filter (·.isFailed)).length),
      ("subscriptions", .arr (ss.map (·.toJson)))]), p)
  | .metrics => (text 503 "Metrics not initialized", p)
  | .deadLetterStats raw =>
    match queueOf raw with
    | .error e => (e, p)
    | .ok q => (json 200 (p.broker.deadLetterStats q), p)
  | .deadLetters raw =>
    match queueOf raw with
    | .error e => (e, p)
    | .ok q =>
      match pageSize (queryPairs query) "limit" with
      | .error why => (text 400 why, p)
      | .ok n =>
        let ms := (p.broker.deadLetters q).take n
        (json 200 (Json.object [("queue", .str q), ("limit", Json.ofNat n),
          ("count", Json.ofNat ms.length), ("messages", .arr (ms.map DeadLetter.view))]), p)
  | .replay raw =>
    match queueOf raw with
    | .error e => (e, p)
    | .ok q =>
      match pageSize (queryPairs query) "count" with
      | .error why => (text 400 why, p)
      | .ok n =>
        let (k, b) := p.broker.replayDeadLetters q n
        (json 200 (Json.object [("success", .bool true), ("queue", .str q),
          ("replayed", Json.ofNat k)]), { p with broker := b })

def answer (p : Probe) (method uri : String) : Response × Probe :=
  let uri := (uri.splitOn "#").headD ""
  let (path, query) := match uri.splitOn "?" with
    | [] => ("", "")
    | path :: rest => (path, "?".intercalate rest)
  match route? (path.splitOn "/") with
  | none => (empty 404, p)
  | some r =>
    if method == r.method then p.serve r query
    else if method == "HEAD" && r.method == "GET" then
      let (resp, p) := p.serve r query
      ({ resp with body := .text "" }, p)
    else (empty 405, p)

end Probe

end Relay.Health
