import SpotSettlement.Settings.Basic
import SpotSettlement.Settings.Document

namespace SpotSettlement

/-! # Settings from a document

Each section is a mapping.  Keys that are not known are passed over; a known key must hold what its
setting needs.
-/

open Document (setting?)

def ServerSettings.ofDocument? (document : Document) : Option ServerSettings := do
  let members ← document.section?
  let base : ServerSettings := {}
  return {
    port := ← setting? members "http_port" (Document.unsigned? 16) base.port
    bindAddress := ← setting? members "bind_address" Document.text? base.bindAddress }

def StoreSettings.ofDocument? (document : Document) : Option StoreSettings := do
  let members ← document.section?
  let base : StoreSettings := {}
  return {
    backend := ← setting? members "backend" (fun d => d.name?.bind StoreBackend.ofWord?)
      base.backend
    databaseUrl := ← setting? members "database_url" Document.text? base.databaseUrl
    maxConnections := ← setting? members "max_connections" (Document.unsigned? 32)
      base.maxConnections
    runMigrations := ← setting? members "run_migrations" Document.bool? base.runMigrations }

def MessagingSettings.ofDocument? (document : Document) : Option MessagingSettings := do
  let members ← document.section?
  let base : MessagingSettings := {}
  return {
    backend := ← setting? members "backend" (fun d => d.name?.bind BrokerBackend.ofWord?)
      base.backend
    redisUrl := ← setting? members "redis_url" Document.text? base.redisUrl
    topicPrefix := ← setting? members "topic_prefix" Document.text? base.topicPrefix
    streamMaxLength := ← setting? members "stream_max_len"
      (Document.optional? (Document.unsigned? 64)) base.streamMaxLength
    consumerGroup := ← setting? members "consumer_group" Document.text? base.consumerGroup
    consumerName := ← setting? members "consumer_name" Document.text? base.consumerName
    batchSize := ← setting? members "batch_size" (Document.unsigned? 64) base.batchSize
    blockMillis := ← setting? members "block_ms" (Document.unsigned? 64) base.blockMillis
    failureBackoffMillis := ← setting? members "failure_backoff_ms" (Document.unsigned? 64)
      base.failureBackoffMillis }

def RetrySettings.ofDocument? (document : Document) : Option RetrySettings := do
  let members ← document.section?
  let base : RetrySettings := {}
  return {
    maxRetries := ← setting? members "max_retries" (Document.unsigned? 32) base.maxRetries
    initialBackoffMillis := ← setting? members "initial_backoff_ms" (Document.unsigned? 64)
      base.initialBackoffMillis
    maxBackoffMillis := ← setting? members "max_backoff_ms" (Document.unsigned? 64)
      base.maxBackoffMillis
    multiplier := ← setting? members "backoff_multiplier" Document.float? base.multiplier
    jitter := ← setting? members "jitter_factor" Document.float? base.jitter }

def ExchangeSettings.ofDocument? (document : Document) : Option ExchangeSettings := do
  let members ← document.section?
  let base : ExchangeSettings := {}
  return {
    name := ← setting? members "name" Document.text? base.name
    environment := ← setting? members "environment" Document.text? base.environment
    apiKey := ← setting? members "api_key" Document.text? base.apiKey
    apiSecret := ← setting? members "api_secret" Document.text? base.apiSecret
    restUrl := ← setting? members "rest_base_url" (Document.optional? Document.text?) base.restUrl
    streamUrl := ← setting? members "ws_base_url" (Document.optional? Document.text?) base.streamUrl
    validityMillis := ← setting? members "recv_window_ms" (Document.unsigned? 64)
      base.validityMillis
    timeoutMillis := ← setting? members "timeout_ms" (Document.unsigned? 64) base.timeoutMillis
    retry := ← setting? members "retry" RetrySettings.ofDocument? base.retry }

def OutboxSettings.ofDocument? (document : Document) : Option OutboxSettings := do
  let members ← document.section?
  let base : OutboxSettings := {}
  return {
    pollIntervalMillis := ← setting? members "poll_interval_ms" (Document.unsigned? 64)
      base.pollIntervalMillis
    leaseSeconds := ← setting? members "lease_timeout_secs" (Document.unsigned? 64)
      base.leaseSeconds
    batchSize := ← setting? members "batch_size" (Document.unsigned? 64) base.batchSize
    baseBackoffMillis := ← setting? members "base_backoff_ms" (Document.unsigned? 64)
      base.baseBackoffMillis
    maxBackoffSeconds := ← setting? members "max_backoff_secs" (Document.unsigned? 64)
      base.maxBackoffSeconds
    maxAttempts := ← setting? members "max_attempts" (Document.unsigned? 32) base.maxAttempts }

def PollerSettings.ofDocument? (document : Document) : Option PollerSettings := do
  let members ← document.section?
  let base : PollerSettings := {}
  return {
    enabled := ← setting? members "enabled" Document.bool? base.enabled
    intervalSeconds := ← setting? members "interval_secs" (Document.unsigned? 64)
      base.intervalSeconds
    lookbackSeconds := ← setting? members "trade_lookback_secs" (Document.unsigned? 64)
      base.lookbackSeconds
    downThresholdSeconds := ← setting? members "down_threshold_secs" (Document.unsigned? 64)
      base.downThresholdSeconds }

def StreamSettings.ofDocument? (document : Document) : Option StreamSettings := do
  let members ← document.section?
  let base : StreamSettings := {}
  return {
    enabled := ← setting? members "enabled" Document.bool? base.enabled
    stableAfterSeconds := ← setting? members "stable_after_secs" (Document.unsigned? 64)
      base.stableAfterSeconds
    initialBackoffMillis := ← setting? members "initial_backoff_ms" (Document.unsigned? 64)
      base.initialBackoffMillis
    maxBackoffMillis := ← setting? members "max_backoff_ms" (Document.unsigned? 64)
      base.maxBackoffMillis
    multiplier := ← setting? members "multiplier" Document.float? base.multiplier
    keepaliveSeconds := ← setting? members "listen_key_keepalive_secs" (Document.unsigned? 64)
      base.keepaliveSeconds }

def ReplaySettings.ofDocument? (document : Document) : Option ReplaySettings := do
  let members ← document.section?
  let base : ReplaySettings := {}
  return {
    dedupeWindowSeconds := ← setting? members "dedupe_window_secs" (Document.unsigned? 64)
      base.dedupeWindowSeconds
    pollIntervalSeconds := ← setting? members "poll_interval_secs" (Document.unsigned? 64)
      base.pollIntervalSeconds }

def ConnectorSettings.ofDocument? (document : Document) : Option ConnectorSettings := do
  let members ← document.section?
  return {
    poller := ← setting? members "poller" PollerSettings.ofDocument? {}
    stream := ← setting? members "stream" StreamSettings.ofDocument? {}
    replay := ← setting? members "replay" ReplaySettings.ofDocument? {} }

/-- Reads an instrument, which must have a symbol. -/
def InstrumentDefinition.ofDocument? (document : Document) : Option InstrumentDefinition := do
  let members ← document.section?
  return {
    symbol := ← (members.lookup "symbol").bind Document.text?
    base := ← setting? members "base" (Document.optional? Document.text?) none
    quote := ← setting? members "quote" (Document.optional? Document.text?) none
    active := ← setting? members "active" Document.bool? true }

def InstrumentSettings.ofDocument? (document : Document) : Option InstrumentSettings := do
  let members ← document.section?
  let base : InstrumentSettings := {}
  return {
    symbols := ← setting? members "symbols" (Document.list? InstrumentDefinition.ofDocument?)
      base.symbols
    quoteAssets := ← setting? members "quote_assets" (Document.list? Document.text?)
      base.quoteAssets }

def LogSettings.ofDocument? (document : Document) : Option LogSettings := do
  let members ← document.section?
  let base : LogSettings := {}
  return {
    level := ← setting? members "level" Document.text? base.level
    format := ← setting? members "format" (fun d => d.name?.bind LogFormat.ofWord?) base.format }

def ObservationSettings.ofDocument? (document : Document) : Option ObservationSettings := do
  let members ← document.section?
  return {
    log := ← setting? members "logging" LogSettings.ofDocument? {}
    metricsPort := ← setting? members "metrics_port" (Document.optional? (Document.unsigned? 16))
      none }

def Settings.ofDocument? (document : Document) : Option Settings := do
  let members ← document.section?
  return {
    server := ← setting? members "server" ServerSettings.ofDocument? {}
    store := ← setting? members "persistence" StoreSettings.ofDocument? {}
    messaging := ← setting? members "messaging" MessagingSettings.ofDocument? {}
    exchange := ← setting? members "exchange" ExchangeSettings.ofDocument? {}
    outbox := ← setting? members "outbox" OutboxSettings.ofDocument? {}
    connector := ← setting? members "connector" ConnectorSettings.ofDocument? {}
    instruments := ← setting? members "instruments" InstrumentSettings.ofDocument? {}
    observation := ← setting? members "observability" ObservationSettings.ofDocument? {} }

end SpotSettlement
