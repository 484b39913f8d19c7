import Relay.Json.Basic
import Relay.Decimal.Shortest
import Relay.Decimal.Text
import Relay.Decimal.Scale
import Relay.Text.Utf8
import Relay.Text.Blank
import Relay.Text.Lower
import Relay.Text.Printable
import Relay.Text.Quote
import Relay.Json.Write
import Relay.Json.Error
import Relay.Json.Read
import Relay.Json.Record
import Relay.Span
import Relay.Failure.Kind
import Relay.Cache.Fault
import Relay.Fault
import Relay.Time
import Relay.Request
import Relay.Reply
import Relay.Verb
import Relay.Failure
import Relay.Failure.Classify
import Relay.Retry
import Relay.Clock
import Relay.Text.Integer
import Relay.Cache.Store
import Relay.Cache.Claim
import Relay.Cache.Results
import Relay.Config.Env
import Relay.Config.Redis
import Relay.Subscription.Config
import Relay.Settings
import Relay.Text.Sort
import Relay.Json.Decode
import Relay.Player.Basic
import Relay.Player.Rules
import Relay.Player.Fault
import Relay.Player.Roster
import Relay.Player.Service
import Relay.Broker.Delivery
import Relay.Broker.Basic
import Relay.Publisher
import Relay.View
import Relay.Backend
import Relay.Handler
import Relay.Subscription.Status
import Relay.Health
import Relay.Subscription.Loop
import Relay.Worker
import Relay.Worker.Round
import Relay.Subscription.InLanes
import Relay.Proofs.Store
import Relay.Proofs.Counter
import Relay.Proofs.Producing
import Relay.Proofs.Generations
import Relay.Proofs.Claiming
import Relay.Proofs.Crew
import Relay.Proofs.ExactlyOnce
import Relay.Proofs.Decisions
import Relay.Proofs.Lifecycle
import Relay.Proofs.Utf8
import Relay.Proofs.JsonText
import Relay.Proofs.JsonValue
import Relay.Proofs.Codec
import Relay.Proofs.Conservation
import Relay.Proofs.Retries
import Relay.Proofs.ClaimRules
import Relay.Proofs.SharedRoster
import Relay.Proofs.StoreFaults
import Relay.Proofs.CallByCall
import Relay.Proofs.Handouts
import Relay.Proofs.LaneTasks
import Relay.Proofs.Classification
import Relay.Proofs.Invalidation
import Relay.Proofs.Exclusivity
import Relay.Proofs.Rounding
import Relay.Proofs.ShortestDigits
import Relay.Proofs.DoubleText
import Relay.Proofs.WriteInjective
import Relay.Proofs.QueryShapes
import Relay.Proofs.DeadLetters
import Relay.Proofs.Expansion
import Relay.Proofs.Startup
import Relay.Proofs.Backoff
import Relay.Proofs.Waits
import Relay.Proofs.Existence
import Relay.Proofs.Publishing
import Relay.Proofs.ExpiringMap
import Relay.Proofs.DatabaseSelection
import Relay.Proofs.LaneHolders
