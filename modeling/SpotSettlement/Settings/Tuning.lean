import SpotSettlement.Engine.Dispatch
import SpotSettlement.Engine.Stream
import SpotSettlement.Engine.Submission
import SpotSettlement.Settings.Check

namespace SpotSettlement.Settings

/-! # The engine of some settings

How the parts of the engine are set up under given settings.
-/

def catalog (s : Settings) : InstrumentCatalog :=
  .ofDefinitions s.instruments.symbols s.instruments.quoteAssets

def retryPolicy (s : Settings) : RetryPolicy where
  maxRetries := s.exchange.retry.maxRetries
  initialBackoff := .ofMillis s.exchange.retry.initialBackoffMillis
  maxBackoff := .ofMillis s.exchange.retry.maxBackoffMillis
  multiplier := s.exchange.retry.multiplier
  jitter := s.exchange.retry.jitter

def setup (s : Settings) : Setup where
  terms := { catalog := s.catalog, topicPrefix := s.messaging.topicPrefix }
  exchange := s.exchange.name
  retry := s.retryPolicy
  downThreshold := .ofSeconds s.connector.poller.downThresholdSeconds
  lookback := .ofSeconds s.connector.poller.lookbackSeconds
  dedupeWindow := .ofSeconds s.connector.replay.dedupeWindowSeconds

def dispatcher (s : Settings) : DispatcherSetup where
  lease := .ofSeconds s.outbox.leaseSeconds
  batch := s.outbox.batchSize
  schedule := {
    baseBackoff := .ofMillis s.outbox.baseBackoffMillis
    maxBackoff := .ofSeconds s.outbox.maxBackoffSeconds
    maxAttempts := s.outbox.maxAttempts }

/-- The time between two passes of the dispatcher. -/
def dispatchInterval (s : Settings) : Duration := .ofMillis s.outbox.pollIntervalMillis

def worker (s : Settings) : Setup.WorkerSetup where
  topic := EventType.topic s.messaging.topicPrefix .orderSubmitted OrderSubmitted.schema.version
  group := s.messaging.consumerGroup
  batch := s.messaging.batchSize
  block := .ofMillis s.messaging.blockMillis
  failurePause := .ofMillis s.messaging.failureBackoffMillis

def supervisor (s : Settings) : Setup.SupervisorSetup where
  stableAfter := .ofSeconds s.connector.stream.stableAfterSeconds
  reconnect := {
    initialBackoff := .ofMillis s.connector.stream.initialBackoffMillis
    maxBackoff := .ofMillis s.connector.stream.maxBackoffMillis
    multiplier := s.connector.stream.multiplier }

/-- The time between two cycles of the poller. -/
def pollInterval (s : Settings) : Duration := .ofSeconds s.connector.poller.intervalSeconds

/-- The time between two looks at the queue of replays. -/
def replayInterval (s : Settings) : Duration := .ofSeconds s.connector.replay.pollIntervalSeconds

def deployment (s : Settings) : Except String Deployment :=
  Deployment.parse s.exchange.environment

def restUrl (s : Settings) (deployment : Deployment) : String :=
  s.exchange.restUrl.getD deployment.restUrl

def streamUrl (s : Settings) (deployment : Deployment) : String :=
  s.exchange.streamUrl.getD deployment.streamUrl

def hasCredentials (s : Settings) : Bool :=
  !s.exchange.apiKey.isEmpty && !s.exchange.apiSecret.isEmpty

/-- Where metrics are served, if they are. -/
def metricsAddress (s : Settings) : Option SocketAddress :=
  s.observation.metricsPort.map (.v4 [0, 0, 0, 0])

/-- What is logged unless the environment says otherwise. -/
def logDirective (s : Settings) : String :=
  "settlement_engine=" ++ Text.asciiLower (Text.trim s.observation.log.level)

end SpotSettlement.Settings
