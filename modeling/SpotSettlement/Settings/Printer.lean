import SpotSettlement.Json.Number
import SpotSettlement.Settings.Basic

namespace SpotSettlement

/-! # Settings as JSON

Settings are written with every setting in its place, the defaults included, under the keys that
they are read from.
-/

def ServerSettings.toJson (s : ServerSettings) : Json := .object [
  ("http_port", .ofNat s.port), ("bind_address", .string s.bindAddress)]

def StoreSettings.toJson (s : StoreSettings) : Json := .object [
  ("backend", .string s.backend.word), ("database_url", .string s.databaseUrl),
  ("max_connections", .ofNat s.maxConnections), ("run_migrations", .bool s.runMigrations)]

def MessagingSettings.toJson (s : MessagingSettings) : Json := .object [
  ("backend", .string s.backend.word), ("redis_url", .string s.redisUrl),
  ("topic_prefix", .string s.topicPrefix),
  ("stream_max_len", Json.ofOption .ofNat s.streamMaxLength),
  ("consumer_group", .string s.consumerGroup), ("consumer_name", .string s.consumerName),
  ("batch_size", .ofNat s.batchSize), ("block_ms", .ofNat s.blockMillis),
  ("failure_backoff_ms", .ofNat s.failureBackoffMillis)]

def RetrySettings.toJson (s : RetrySettings) : Json := .object [
  ("max_retries", .ofNat s.maxRetries), ("initial_backoff_ms", .ofNat s.initialBackoffMillis),
  ("max_backoff_ms", .ofNat s.maxBackoffMillis), ("backoff_multiplier", .ofFloat s.multiplier),
  ("jitter_factor", .ofFloat s.jitter)]

def ExchangeSettings.toJson (s : ExchangeSettings) : Json := .object [
  ("name", .string s.name), ("environment", .string s.environment), ("api_key", .string s.apiKey),
  ("api_secret", .string s.apiSecret), ("rest_base_url", Json.ofOption .string s.restUrl),
  ("ws_base_url", Json.ofOption .string s.streamUrl), ("recv_window_ms", .ofNat s.validityMillis),
  ("timeout_ms", .ofNat s.timeoutMillis), ("retry", s.retry.toJson)]

def OutboxSettings.toJson (s : OutboxSettings) : Json := .object [
  ("poll_interval_ms", .ofNat s.pollIntervalMillis), ("lease_timeout_secs", .ofNat s.leaseSeconds),
  ("batch_size", .ofNat s.batchSize), ("base_backoff_ms", .ofNat s.baseBackoffMillis),
  ("max_backoff_secs", .ofNat s.maxBackoffSeconds), ("max_attempts", .ofNat s.maxAttempts)]

def ConnectorSettings.toJson (s : ConnectorSettings) : Json := .object [
  ("poller", .object [("enabled", .bool s.poller.enabled),
    ("interval_secs", .ofNat s.poller.intervalSeconds),
    ("trade_lookback_secs", .ofNat s.poller.lookbackSeconds),
    ("down_threshold_secs", .ofNat s.poller.downThresholdSeconds)]),
  ("stream", .object [("enabled", .bool s.stream.enabled),
    ("stable_after_secs", .ofNat s.stream.stableAfterSeconds),
    ("initial_backoff_ms", .ofNat s.stream.initialBackoffMillis),
    ("max_backoff_ms", .ofNat s.stream.maxBackoffMillis),
    ("multiplier", .ofFloat s.stream.multiplier),
    ("listen_key_keepalive_secs", .ofNat s.stream.keepaliveSeconds)]),
  ("replay", .object [("dedupe_window_secs", .ofNat s.replay.dedupeWindowSeconds),
    ("poll_interval_secs", .ofNat s.replay.pollIntervalSeconds)])]

def InstrumentDefinition.toJson (d : InstrumentDefinition) : Json := .object [
  ("symbol", .string d.symbol), ("base", Json.ofOption .string d.base),
  ("quote", Json.ofOption .string d.quote), ("active", .bool d.active)]

def InstrumentSettings.toJson (s : InstrumentSettings) : Json := .object [
  ("symbols", .array (s.symbols.map InstrumentDefinition.toJson)),
  ("quote_assets", .array (s.quoteAssets.map .string))]

def ObservationSettings.toJson (s : ObservationSettings) : Json := .object [
  ("logging", .object [("level", .string s.log.level), ("format", .string s.log.format.word)]),
  ("metrics_port", Json.ofOption .ofNat s.metricsPort)]

def Settings.toJson (s : Settings) : Json := .object [
  ("server", s.server.toJson), ("persistence", s.store.toJson),
  ("messaging", s.messaging.toJson), ("exchange", s.exchange.toJson),
  ("outbox", s.outbox.toJson), ("connector", s.connector.toJson),
  ("instruments", s.instruments.toJson), ("observability", s.observation.toJson)]

end SpotSettlement
