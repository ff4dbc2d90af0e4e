import SpotSettlement.Exchange.Deployment
import SpotSettlement.Settings.Placeholder
import SpotSettlement.Settings.Reader
import SpotSettlement.SocketAddress

namespace SpotSettlement

/-! # Settings that make sense

Settings that can be read may still make no sense.  The first thing that is wrong with them, in the
order of the sections, is reported.
-/

inductive SettingsFault where
  | portIsZero
  | notAnAddress (bindAddress : String)
  | portsCollide
  | exchangeUnnamed
  | unknownEnvironment (details : String)
  /-- A factor that must be at least one. -/
  | factorTooSmall (setting : String)
  | jitterOutOfRange
  /-- A count or a length of time that must be positive. -/
  | notPositive (setting : String)
  deriving DecidableEq, Repr

def SettingsFault.message : SettingsFault → String
  | .portIsZero => "server.http_port must be non-zero"
  | .notAnAddress bindAddress =>
    "server.bind_address '" ++ bindAddress ++ "' is not an IP address"
  | .portsCollide => "observability.metrics_port and server.http_port must be different"
  | .exchangeUnnamed => "exchange.name must not be empty"
  | .unknownEnvironment details => "exchange.environment: " ++ details
  | .factorTooSmall setting => setting ++ " must be at least 1.0"
  | .jitterOutOfRange => "exchange.retry.jitter_factor must be between 0.0 and 1.0"
  | .notPositive setting => setting ++ " must be positive"

/-- The address that the server listens on, with its port.  An address of eight groups may stand
without brackets. -/
def ServerSettings.address? (server : ServerSettings) : Option SocketAddress :=
  let host := Text.trim server.bindAddress
  let bare := host.contains ':' && !host.startsWith "["
  let host := if bare then "[" ++ host ++ "]" else host
  SocketAddress.ofText? (host ++ ":" ++ toString server.port)

namespace Settings

/-- Refuses a setting that is nought. -/
def requirePositive (setting : String) (value : Nat) : Except SettingsFault Unit :=
  if value = 0 then .error (.notPositive setting) else .ok ()

/-- Refuses a factor below one. -/
def requireFactor (setting : String) (value : Float) : Except SettingsFault Unit :=
  if value < 1.0 then .error (.factorTooSmall setting) else .ok ()

/-- Reports the first thing that is wrong. -/
def check (s : Settings) : Except SettingsFault Unit := do
  if s.server.port = 0 then throw .portIsZero
  if s.server.address?.isNone then throw (.notAnAddress s.server.bindAddress)
  if s.observation.metricsPort = some s.server.port then throw .portsCollide
  if Text.isBlank s.exchange.name then throw .exchangeUnnamed
  match Deployment.parse s.exchange.environment with
  | .error details => throw (.unknownEnvironment details)
  | .ok _ => pure ()
  requireFactor "exchange.retry.backoff_multiplier" s.exchange.retry.multiplier
  if ¬ (0.0 ≤ s.exchange.retry.jitter ∧ s.exchange.retry.jitter ≤ 1.0) then
    throw .jitterOutOfRange
  requirePositive "outbox.batch_size" s.outbox.batchSize
  requirePositive "outbox.max_attempts" s.outbox.maxAttempts
  requirePositive "outbox.lease_timeout_secs" s.outbox.leaseSeconds
  requirePositive "connector.poller.interval_secs" s.connector.poller.intervalSeconds
  requireFactor "connector.stream.multiplier" s.connector.stream.multiplier
  requirePositive "connector.stream.listen_key_keepalive_secs" s.connector.stream.keepaliveSeconds
  requirePositive "connector.replay.poll_interval_secs" s.connector.replay.pollIntervalSeconds
  requirePositive "messaging.batch_size" s.messaging.batchSize

end Settings

inductive SettingsError where
  /-- There is no such file. -/
  | missing (path : String)
  /-- The text is no document of settings. -/
  | malformed
  /-- The settings make no sense. -/
  | invalid (fault : SettingsFault)
  deriving DecidableEq, Repr

namespace Settings

/-- The settings in a text, which may be blank. -/
def ofText? (text : String) : Option Settings :=
  if Text.isBlank text then some {} else (Document.parse? text).bind Settings.ofDocument?

/-- The settings in a text with placeholders. -/
def load (environment : String → Option String) (text : String) : Except SettingsError Settings :=
  match ofText? (String.ofList (interpolate environment text.toList)) with
  | none => .error .malformed
  | some settings =>
    match settings.check with
    | .error fault => .error (.invalid fault)
    | .ok () => .ok settings

/-- The settings in a file, given what the file holds if it is there. -/
def loadFile (environment : String → Option String) (path : String) (contents : Option String) :
    Except SettingsError Settings :=
  match contents with
  | none => .error (.missing path)
  | some text => load environment text

end Settings

def SettingsError.message : SettingsError → String
  | .missing path => "Failed to read config file '" ++ path ++ "'"
  | .malformed => "Failed to parse config YAML"
  | .invalid fault => "Config validation failed: " ++ fault.message

end SpotSettlement
