import Relay.Config.Env
import Relay.Subscription.Config
/-!
# Bridge settings

The settings of the whole bridge: whether it consumes at all (the broker and reactive
consumption both on), where results go and under what source name, the consumer group and
this consumer's name, the resources served (and those that also get the older per-resource
result channels), the priority queues, the concurrency ceilings of reads and writes and the
size of the backend pool they share, and the spans of the startup waves, shutdown, blocking
reads, responses, takeovers, claims and caching.

`Settings.validate` checks, in this order: each ceiling is at least one and below the pool
size (reads first), some resource is served, blocking reads block at least a moment, and the
response timeout exceeds the blocking span. `Settings.subscriptions` expands the settings
into one subscription per resource and verb. `Settings.ofEnv` reads every setting from the
environment in the order of the fields, the first unreadable one failing, and validates last.
-/
namespace Relay

structure Settings where
  brokerEnabled : Bool := true
  reactiveEnabled : Bool := true
  source : String := "rpc-bridge"
  resultExchange : String := "bridge.results"
  resultRoutingKey : String := "result"
  consumerGroup : String := "bridge_workers"
  consumerId : String
  resources : List String := ["player"]
  legacyResources : List String := []
  priorityQueues : List String := []
  readConcurrency : Nat := Subscription.readCeiling
  writeConcurrency : Nat := Subscription.writeCeiling
  backendPoolSize : Nat := 10
  waveDelay : Span := Span.ofMillis 500
  drainTimeout : Span := Span.ofSecs 10
  block : Span := Span.ofSecs 1
  readResponseTimeout : Span := Span.ofSecs 5
  claimTimeout : Span := Span.ofSecs 30
  claimLiveness : Span := Span.ofSecs 60
  idempotencyTtl : Span := Span.ofSecs 300
  cacheTtl : Span := Span.ofSecs 60
  healthPort : Nat := 8090
  deriving DecidableEq, Repr

namespace Settings

def consumersEnabled (s : Settings) : Bool := s.brokerEnabled && s.reactiveEnabled

def resultStreamKey (s : Settings) : String := s.resultExchange ++ ":" ++ s.resultRoutingKey

def checkCeiling (pool : Nat) (key : String) (ceiling : Nat) : Except Config.Problem Unit := do
  if ceiling = 0 then throw (.invalid key "concurrency ceiling must be at least 1")
  if ceiling ≥ pool then
    throw (.invalid key ("ceiling " ++ toString ceiling ++ " must stay below BACKEND_POOL_SIZE " ++
      toString pool))

def validate (s : Settings) : Except Config.Problem Unit := do
  checkCeiling s.backendPoolSize "BRIDGE_READ_CONCURRENCY" s.readConcurrency
  checkCeiling s.backendPoolSize "BRIDGE_WRITE_CONCURRENCY" s.writeConcurrency
  if s.resources.isEmpty then
    throw (.invalid "BRIDGE_RESOURCES" "at least one resource is required")
  if s.block.nanos = 0 then
    throw (.invalid "BRIDGE_BLOCK_MS" "blocking read must be at least 1 ms")
  if s.readResponseTimeout ≤ s.block then
    throw (.invalid "BRIDGE_READ_RESPONSE_TIMEOUT_MS" ("response timeout " ++
      s.readResponseTimeout.text ++ " must exceed BRIDGE_BLOCK_MS " ++ s.block.text))

def subscriptions (s : Settings) : List Subscription.Config :=
  s.resources.flatMap fun r => Verb.all.map fun v =>
    let c := Subscription.Config.make r v
    (((c.withConcurrency (v.ceiling s.readConcurrency s.writeConcurrency)).withPriority
      (s.priorityQueues.contains c.queue)).withBlock s.block).withClaimTimeout s.claimTimeout
      |>.withDrainTimeout s.drainTimeout

def read (e : Config.Env) (freshId : String) : Except Config.Problem Settings := do
  let d : Settings := { consumerId := freshId }
  let givenId := Text.trim (e.orDefault "BRIDGE_CONSUMER_ID" "")
  let ms (key : String) (dflt : Span) : Except Config.Problem Span :=
    (e.nat key 64 dflt.toMillis).map Span.ofMillis
  let secs (key : String) (dflt : Span) : Except Config.Problem Span :=
    (e.nat key 64 (dflt.nanos / Span.nanosPerSec)).map Span.ofSecs
  pure {
    brokerEnabled := ← e.flag "BRIDGE_BROKER_ENABLED" d.brokerEnabled
    reactiveEnabled := ← e.flag "BRIDGE_REACTIVE_ENABLED" d.reactiveEnabled
    source := e.orDefault "BRIDGE_SOURCE" d.source
    resultExchange := e.orDefault "BRIDGE_RESULT_EXCHANGE" d.resultExchange
    resultRoutingKey := e.orDefault "BRIDGE_RESULT_ROUTING_KEY" d.resultRoutingKey
    consumerGroup := e.orDefault "BRIDGE_CONSUMER_GROUP" d.consumerGroup
    consumerId := if givenId = "" then freshId else givenId
    resources := e.list "BRIDGE_RESOURCES" "player"
    legacyResources := e.list "BRIDGE_LEGACY_RESOURCES" ""
    priorityQueues := e.list "BRIDGE_PRIORITY_QUEUES" ""
    readConcurrency := ← e.nat "BRIDGE_READ_CONCURRENCY" 64 d.readConcurrency
    writeConcurrency := ← e.nat "BRIDGE_WRITE_CONCURRENCY" 64 d.writeConcurrency
    backendPoolSize := ← e.nat "BACKEND_POOL_SIZE" 64 d.backendPoolSize
    waveDelay := ← ms "BRIDGE_WAVE_DELAY_MS" d.waveDelay
    drainTimeout := ← ms "BRIDGE_DRAIN_TIMEOUT_MS" d.drainTimeout
    block := ← ms "BRIDGE_BLOCK_MS" d.block
    readResponseTimeout := ← ms "BRIDGE_READ_RESPONSE_TIMEOUT_MS" d.readResponseTimeout
    claimTimeout := ← ms "BRIDGE_CLAIM_TIMEOUT_MS" d.claimTimeout
    claimLiveness := ← secs "BRIDGE_CLAIM_LIVENESS_SECS" d.claimLiveness
    idempotencyTtl := ← secs "BRIDGE_IDEMPOTENCY_TTL_SECS" d.idempotencyTtl
    cacheTtl := ← secs "BRIDGE_CACHE_TTL_SECS" d.cacheTtl
    healthPort := ← e.nat "BRIDGE_HEALTH_PORT" 16 d.healthPort }

def ofEnv (e : Config.Env) (freshId : String) : Except Config.Problem Settings := do
  let s ← read e freshId
  s.validate
  pure s

end Settings

end Relay
