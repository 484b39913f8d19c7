import Relay.Publisher
import Relay.Cache.Claim
import Relay.Cache.Results
import Relay.Failure.Classify
import Relay.Settings
import Relay.Request
/-!
# Views

How the bridge shows its values for inspection, as JSON objects: faults and failures with
their names and kinds, results and requests with their wire text, claims, cache lookups,
deliveries and dead letters, retry policies, subscriptions and settings. Spans are shown as
whole milliseconds in a string, bytes as text when they are valid UTF-8 and as hexadecimal
digits under `hex` otherwise.
-/
namespace Relay

def Span.view (d : Span) : Json := .str (toString d.toMillis)

def hexOf (bs : List UInt8) : String :=
  String.join (bs.map fun b =>
    String.ofList [Nat.digitChar (b.toNat / 16), Nat.digitChar (b.toNat % 16)])

def Json.ofBytes (bs : List UInt8) : Json :=
  match Utf8.decode? bs with
  | some s => .str s
  | none => Json.object [("hex", .str (hexOf bs))]

def Fault.view (f : Fault) : Json :=
  Json.object [("error", .str f.tag), ("message", .str f.message), ("kind", .str f.kind.name)]

def Failure.Kind.info (k : Failure.Kind) : List (String × Json) :=
  [("kind", .str k.name), ("serde", .str k.name), ("max_retries", Json.ofNat k.maxRetries),
    ("base_delay_ms", Json.ofNat k.baseDelayMs), ("max_delay_ms", Json.ofNat k.maxDelayMs),
    ("is_benign", .bool k.isBenign)]

def Cache.Fault.view (f : Cache.Fault) : Json :=
  Json.object [("error", .str f.tag), ("message", .str f.message)]

def Panic.view (p : Panic) : Json :=
  Json.object [("error", .str "panic"), ("message", .str p.message)]

def Cache.Halt.view : Cache.Halt → Json
  | .fault f => f.view
  | .panic p => p.view

def unknownVariant : Json :=
  Json.object [("error", .str "ParseError"), ("message", .str "Matching variant not found")]

def Failure.view (c : Failure.Classifier) (f : Failure) : Json :=
  let (k, rule) := c.explain f
  Json.object [("error", .str f.tag), ("message", .str f.message), ("kind", .str k.name),
    ("rule", .str rule)]

def Reply.view (r : Reply) : Json :=
  Json.object [("encoded", .str r.encode), ("request_id", .str r.requestId),
    ("status", .str r.status), ("data", r.data?.getD .null), ("error", Json.ofOption r.error?),
    ("timestamp", .str r.timestamp), ("source", .str r.source), ("is_completed", .bool r.isCompleted)]

def Request.view (q : Request) : Json :=
  Json.object [("request_id", .str q.requestId), ("endpoint", .str q.endpoint),
    ("method", .str q.method), ("payload", q.payload), ("timestamp", Json.ofInt q.timestamp),
    ("encoded", .str q.encode)]

def Cache.Claim.view : Cache.Claim → Json
  | .acquired => Json.object [("claim", .str "acquired"), ("should_process", .bool true)]
  | .reclaimed p => Json.object [("claim", .str "reclaimed"), ("should_process", .bool true),
      ("previous_owner", Json.ofOption p)]
  | .inFlight same o => Json.object [("claim", .str "in_flight"), ("should_process", .bool false),
      ("same_delivery", .bool same), ("owner", .str o)]
  | .completed r => Json.object [("claim", .str "completed"), ("should_process", .bool false),
      ("result", r.view)]
  | .degraded f => Json.object [("claim", .str "degraded"), ("should_process", .bool true),
      ("cache_error", f.view)]

def Cache.Lookup.view : Cache.Lookup → Json
  | .hit v => Json.object [("lookup", .str "hit"), ("value", v)]
  | .miss k => Json.object [("lookup", .str "miss"), ("key", .str k)]
  | .bypass => Json.object [("lookup", .str "bypass")]

def Delivery.view (d : Delivery) : Json :=
  Json.object [("id", .str d.id), ("queue", .str d.queue), ("payload", Json.ofBytes d.payload),
    ("delivery_count", Json.ofNat d.count), ("is_redelivery", .bool d.isRedelivery)]

def DeadLetter.view (e : DeadLetter) : Json :=
  Json.object [("dlq_id", .str e.id), ("queue", .str e.queue), ("original_id", .str e.originalId),
    ("reason", .str e.reason), ("delivery_count", Json.ofNat e.count),
    ("failed_at", .str e.failedAt.rfc3339), ("payload", .str e.payload)]

def Broker.deadLetterStats (b : Broker) (q : String) : Json :=
  let dead := b.deadLetters q
  Json.object [("stream_name", .str (deadLetterStream q)), ("length", Json.ofNat dead.length),
    ("oldest_entry_id", Json.ofOption (dead.head?.map (·.id))),
    ("newest_entry_id", Json.ofOption (dead.getLast?.map (·.id)))]

def RetryPolicy.attemptsView (p : RetryPolicy) : Json :=
  match p.maxAttempts with
  | some m => Json.ofNat m
  | none => .null

def RetryPolicy.view (p : RetryPolicy) : Json :=
  Json.object [("base_ms", p.base.view), ("cap_ms", p.cap.view), ("jitter", .bool p.jitter),
    ("max_attempts", p.attemptsView)]

def Subscription.Config.view (c : Subscription.Config) : Json :=
  let e := c.effectiveRetry
  Json.object [("queue", .str c.queue), ("resource", .str c.resource), ("verb", .str c.verb.name),
    ("concurrency", Json.ofNat c.concurrency), ("priority", .bool c.priority),
    ("block_ms", c.block.view), ("claim_timeout_ms", c.claimTimeout.view),
    ("claim_interval_ms", c.claimInterval.view), ("drain_timeout_ms", c.drainTimeout.view),
    ("retry", c.retry.view),
    ("effective_retry", Json.object [("bounded", .bool e.isBounded), ("max_attempts", e.attemptsView)])]

def Settings.view (s : Settings) (generated : Bool) : Json :=
  let texts (xs : List String) : Json := .arr (xs.map .str)
  Json.object [("broker_enabled", .bool s.brokerEnabled), ("reactive_enabled", .bool s.reactiveEnabled),
    ("source", .str s.source), ("result_exchange", .str s.resultExchange),
    ("result_routing_key", .str s.resultRoutingKey), ("result_stream_key", .str s.resultStreamKey),
    ("consumer_group", .str s.consumerGroup),
    ("consumer_id", .str (if generated then "<generated>" else s.consumerId)),
    ("resources", texts s.resources), ("legacy_resources", texts s.legacyResources),
    ("priority_queues", texts s.priorityQueues),
    ("read_concurrency", Json.ofNat s.readConcurrency),
    ("write_concurrency", Json.ofNat s.writeConcurrency),
    ("backend_pool_size", Json.ofNat s.backendPoolSize), ("wave_delay_ms", s.waveDelay.view),
    ("drain_timeout_ms", s.drainTimeout.view), ("block_ms", s.block.view),
    ("read_response_timeout_ms", s.readResponseTimeout.view),
    ("claim_timeout_ms", s.claimTimeout.view), ("claim_liveness_ms", s.claimLiveness.view),
    ("idempotency_ttl_ms", s.idempotencyTtl.view), ("cache_ttl_ms", s.cacheTtl.view),
    ("health_port", Json.ofNat s.healthPort), ("consumers_enabled", .bool s.consumersEnabled),
    ("subscriptions", .arr (s.subscriptions.map Subscription.Config.view))]

end Relay
