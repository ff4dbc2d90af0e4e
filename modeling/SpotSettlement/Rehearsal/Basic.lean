import SpotSettlement.Inspection.Engine
import SpotSettlement.Inspection.Exchange
import SpotSettlement.Inspection.Rows
import SpotSettlement.Operations.Service
import SpotSettlement.Rehearsal.Labels
import SpotSettlement.Script.Values

namespace SpotSettlement

/-! # Rehearsals

A rehearsal leads an engine through the steps of a script, on a clock that stands still but for what
the script says, and with an exchange that answers as the script says.  Each step shows what came of
it, the state that it left, and what was published, asked, logged and noted on the way.
-/

/-- An engine on the way through a script. -/
structure Rehearsal where
  service : ServiceSetup
  /-- How the dispatcher is set up, as the script says. -/
  dispatcher : Json := .null
  /-- The accounts and assets whose balances are shown. -/
  watched : List (String × String) := []
  engine : Engine
  now : Instant
  /-- The orders that steps have made. -/
  known : List String := []
  labels : Labels := []
  deriving Inhabited

namespace Rehearsal

def setup (rehearsal : Rehearsal) : Setup := rehearsal.service.setup

/-- The name under which an exchange is rehearsed unless the script says otherwise. -/
def usualExchange : String := "binance"

/-- The exchange before its script says anything. -/
def silentExchange : ExchangeTalk := { silence := .transport "unscripted" }

/-- The start of a script. -/
def ofScript (start : Instant) (script : Json) : Rehearsal :=
  let now := script.momentAt "now" start
  let exchange := (script.textAt? "exchange").getD usualExchange
  let connectors :=
    if script.hasAt "connectors" then script.textsAt "connectors" else [exchange]
  { service := {
      setup := {
        terms := {
          catalog := .ofScript script
          topicPrefix := (script.textAt? "prefix").getD "settlement" }
        exchange
        retry := .ofScript (script.valueAt "retry")
        downThreshold := script.durationAt "threshold_ms" (.ofMillis 120000)
        lookback := script.durationAt "lookback_ms" (.ofMillis 3600000)
        dedupeWindow := script.durationAt "dedupe_ms" (.ofMillis 60000) }
      connectors := ServiceSetup.connectorsOf connectors
      version := "v-test" }
    dispatcher := script.valueAt "dispatcher"
    watched := (script.listAt "watch").filterMap fun entry =>
      match entry with
      | .array [.string account, .string asset] => some (account, asset)
      | _ => none
    engine := { talk := silentExchange, health := .initial exchange now }
    now }

/-- Runs an activity of the engine, and shows what came of it. -/
def run {α : Type} (rehearsal : Rehearsal) (shown : α → Json) (activity : Activity α) :
    Json × Rehearsal :=
  let (result, engine) := activity.run.run rehearsal.engine
  let result := match result with
    | .ok value => shown value
    | .error (.overflow operation) => inspect operation
    | .error .stopped => .null
  (result, { rehearsal with engine })

/-- Runs an activity that may be refused. -/
def attempt {α : Type} [Inspect α] (rehearsal : Rehearsal)
    (activity : Activity (Except SettlementError α)) : Json × Rehearsal :=
  rehearsal.run inspect activity

def work {α : Type} [Inspect α] (rehearsal : Rehearsal) (work : Work α) : Json × Rehearsal :=
  rehearsal.attempt (Engine.perform work)

/-- Remembers an order that a step has made, with a label if its identifier was made up. -/
def remember (rehearsal : Rehearsal) (id : String) (isMadeUp : Bool) : Rehearsal :=
  { rehearsal with
    known := if rehearsal.known.contains id then rehearsal.known else rehearsal.known ++ [id]
    labels := if isMadeUp then rehearsal.labels.add "order" id else rehearsal.labels }

/-- Runs an activity that makes an order by a command. -/
def make (rehearsal : Rehearsal) (command : OrderCommand)
    (activity : Activity (Except SettlementError Order)) : Json × Rehearsal :=
  let (result, engine) := activity.run.run rehearsal.engine
  let after := { rehearsal with engine }
  match result with
  | .ok result =>
    (inspect result, match result with
      | .ok order => after.remember order.id command.orderId.isNone
      | .error _ => after)
  | .error (.overflow operation) => (inspect operation, after)
  | .error .stopped => (.null, after)

/-- The orders that steps have made, as they are stored. -/
def orders (rehearsal : Rehearsal) : List Order :=
  rehearsal.known.filterMap rehearsal.engine.store.order?

def inspectOrder (order : Order) : Json := .array [
  inspect order.id, inspect order.status, inspect order.filled, inspect order.exchangeOrderId,
  inspect order.exchangeClientOrderId, inspect order.updatedAt]

/-- A reservation in short, after the order that it is for. -/
def inspectReservation (held : WalletReservation) : Json := .array [
  inspect held.orderId, inspect held.asset, inspect held.amount, inspect held.status]

def inspectState (rehearsal : Rehearsal) : Json :=
  let store := rehearsal.engine.store
  let held := rehearsal.orders.flatMap fun order => store.reservationsOf order.id
  .object [
    ("orders", .array (rehearsal.orders.map inspectOrder)),
    ("reservations", .array (held.map inspectReservation)),
    ("balances", .array (rehearsal.watched.map fun (account, asset) =>
      .array [inspect account, inspect asset, inspect (store.balance? account asset)])),
    ("counts", inspect [store.executions.length, store.ledger.length, store.outbox.length,
      store.replays.length])]

def inspectTable (rehearsal : Rehearsal) (table : String) : Json :=
  let store := rehearsal.engine.store
  match table with
  | "orders" => inspect rehearsal.orders
  | "events" => inspect (rehearsal.known.flatMap store.orderEventsOf)
  | "executions" => inspect store.executions
  | "ledger" => inspect store.ledger
  | "outbox" => inspect store.outbox
  | _ => inspect store.replays

/-- A member that is left out when it has nothing to show. -/
def unlessEmpty {α : Type} [Inspect α] (key : String) (items : List α) : List (String × Json) :=
  if items.isEmpty then [] else [(key, inspect items)]

/-- The rehearsal at the start of a step: the clock is set, the exchange has its answers, and
nothing is yet asked, logged or noted. -/
def begin (rehearsal : Rehearsal) (step : Json) : Rehearsal :=
  let now := step.momentAt "now" rehearsal.now
  let talk := { rehearsal.engine.talk with calls := [] }
  let talk := if step.hasAt "exchange" then
      { talk with answers := (step.listAt "exchange").map (ExchangeAnswer.ofScript now) }
    else talk
  { rehearsal with
    now
    engine := { rehearsal.engine with talk, notes := [], audit := [], waited := ⟨0⟩ } }

/-- What a step shows beside its result, given how many events were queued before it. -/
def inspectTraces (rehearsal : Rehearsal) (queued : Nat) (isTimed : Bool) :
    List (String × Json) :=
  let engine := rehearsal.engine
  unlessEmpty "outbox" ((engine.store.outbox.drop queued).map fun row =>
    [row.topic, row.partitionKey]) ++
  unlessEmpty "calls" engine.talk.calls ++ unlessEmpty "audit" engine.audit ++
  unlessEmpty "trace" engine.notes ++
  if isTimed && engine.waited.nanoseconds != 0 then [("elapsed_ms", inspect engine.waited)] else []

/-- Goes through one step, given how steps are performed and whether their waiting is shown. -/
def step (perform : Rehearsal → Json → Json × Rehearsal) (isTimed : Json → Bool)
    (rehearsal : Rehearsal) (step : Json) : Json × Rehearsal :=
  let step := step.mapTexts rehearsal.labels.reveal
  let queued := rehearsal.engine.store.outbox.length
  let (result, after) := perform (rehearsal.begin step) step
  let after := { after with labels := after.labels.addStored after.engine.store }
  let shown := Json.object ([("result", result), ("state", after.inspectState)] ++
    after.inspectTraces queued (isTimed step))
  (shown.mapTexts after.labels.conceal, after)

def steps (perform : Rehearsal → Json → Json × Rehearsal) (isTimed : Json → Bool) :
    Rehearsal → List Json → List Json
  | _, [] => []
  | rehearsal, next :: rest =>
    let (shown, after) := rehearsal.step perform isTimed next
    shown :: after.steps perform isTimed rest

end Rehearsal

end SpotSettlement
