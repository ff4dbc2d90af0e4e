import SpotSettlement.Inspection.Basic
import SpotSettlement.Json.Number
import SpotSettlement.Settings.Tuning

namespace SpotSettlement.Settings

/-! # Settings inspected

What the engine makes of its settings: where it listens and connects, how often it looks, and how
long it waits.
-/

def inspectDispatcher (settings : Settings) : Json :=
  let dispatcher := settings.dispatcher
  .array [inspect settings.dispatchInterval, inspect dispatcher.lease, inspect dispatcher.batch,
    inspect dispatcher.schedule.baseBackoff, inspect dispatcher.schedule.maxBackoff,
    inspect dispatcher.schedule.maxAttempts]

def inspectWorker (settings : Settings) : Json :=
  let worker := settings.worker
  .array [inspect worker.batch, inspect worker.block, inspect worker.failurePause]

def inspectPoller (settings : Settings) : Json :=
  let setup := settings.setup
  .array [inspect setup.exchange, inspect settings.pollInterval, inspect setup.lookback,
    inspect setup.downThreshold]

def inspectStream (settings : Settings) : Json :=
  let setup := settings.setup
  let stream := settings.supervisor
  .array [inspect setup.exchange, inspect stream.stableAfter, inspect setup.dedupeWindow,
    inspect stream.reconnect.initialBackoff, inspect stream.reconnect.maxBackoff,
    .ofFloat stream.reconnect.multiplier]

def inspectRetry (settings : Settings) : Json :=
  let retry := settings.retryPolicy
  .array [inspect retry.maxRetries, inspect retry.initialBackoff, inspect retry.maxBackoff,
    .ofFloat retry.multiplier, .ofFloat retry.jitter]

/-- The way to a deployment of the exchange. -/
def inspectExchange (settings : Settings) (deployment : Deployment) : Json := .array [
  inspect deployment.text, inspect (settings.restUrl deployment),
  inspect (settings.streamUrl deployment), inspect settings.exchange.validityMillis,
  inspect settings.exchange.timeoutMillis,
  inspect (settings.connector.stream.keepaliveSeconds * 1000)]

def inspectCatalog (settings : Settings) : Json := .object [
  ("len", inspect settings.catalog.size), ("active", inspect settings.catalog.active),
  ("quotes", inspect settings.catalog.quotes)]

/-- What the engine makes of its settings at a deployment of the exchange. -/
def inspectDerived (settings : Settings) (deployment : Deployment) : Json := .object [
  ("socket", inspect (settings.server.address?.map SocketAddress.text)),
  ("metrics", inspect (settings.metricsAddress.map SocketAddress.text)),
  ("log_directive", inspect settings.logDirective),
  ("dispatcher", settings.inspectDispatcher), ("worker", settings.inspectWorker),
  ("poller", settings.inspectPoller), ("stream", settings.inspectStream),
  ("replay_poll", inspect settings.replayInterval), ("retry", settings.inspectRetry),
  ("binance", settings.inspectExchange deployment),
  ("credentials", inspect settings.hasCredentials), ("catalog", settings.inspectCatalog)]

end SpotSettlement.Settings
