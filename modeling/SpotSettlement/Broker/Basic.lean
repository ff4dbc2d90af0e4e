import SpotSettlement.Broker.Error
import SpotSettlement.Json.Basic
import SpotSettlement.Text.Digits
import SpotSettlement.Time.Instant

namespace SpotSettlement

/-! # The message broker

Messages of a topic are kept in the order they were published.  A group of consumers goes through
them once: what it was given is pending until it is acknowledged, and as long as anything is
pending only that is given out again.
-/

/-- A message as it lies in its topic. -/
structure Message where
  id : Nat
  topic : String
  key : String
  payload : Json
  deriving Inhabited

/-- How far a group has come in a topic. -/
structure GroupCursor where
  topic : String
  group : String
  /-- How many messages of the topic the group was ever given. -/
  next : Nat := 0
  /-- The messages that were given out and not acknowledged. -/
  pending : List Nat := []
  deriving DecidableEq, Repr, Inhabited

/-- The broker: all messages, the groups, and whether it refuses to take messages. -/
structure Broker where
  messages : List Message := []
  groups : List GroupCursor := []
  failing : Bool := false
  deriving Inhabited

namespace Broker

def messagesOf (broker : Broker) (topic : String) : List Message :=
  broker.messages.filter (·.topic == topic)

/-- Publishes a message.  Messages are numbered from one on, over all topics. -/
def publish (broker : Broker) (topic key : String) (payload : Json) :
    Except BrokerError Unit × Broker :=
  if broker.failing then (.error (.connection "broker unavailable"), broker)
  else
    let message : Message := ⟨broker.messages.length + 1, topic, key, payload⟩
    (.ok (), { broker with messages := broker.messages ++ [message] })

/-- The cursor of a group in a topic; a new group starts at the first message. -/
def cursor (broker : Broker) (topic group : String) : GroupCursor :=
  (broker.groups.find? fun cursor => cursor.topic == topic && cursor.group == group).getD
    { topic, group }

/-- Replaces the cursor of the same group and topic, or adds one. -/
def putCursor (moved : GroupCursor) : List GroupCursor → List GroupCursor
  | [] => [moved]
  | other :: rest =>
    if other.topic == moved.topic && other.group == moved.group then moved :: rest
    else other :: putCursor moved rest

/-- Gives a group its pending messages, or if there are none the next ones of the topic, at most so
many. -/
def take (broker : Broker) (topic group : String) (limit : Nat) : List Message × Broker :=
  let cursor := broker.cursor topic group
  if cursor.pending.isEmpty then
    let fresh := ((broker.messagesOf topic).drop cursor.next).take limit
    let moved := { cursor with
      next := cursor.next + fresh.length
      pending := fresh.map (·.id) }
    (fresh, { broker with groups := putCursor moved broker.groups })
  else
    let pending := (broker.messagesOf topic).filter fun message =>
      cursor.pending.contains message.id
    (pending.take limit, broker)

/-- The number that names a delivery: decimal digits, a plus sign allowed, within 64 bits. -/
def deliveryNumber? (deliveryId : String) : Option Nat :=
  let digits := match deliveryId.toList with
    | '+' :: rest => rest
    | characters => characters
  if digits.isEmpty ∨ ¬ digits.all Char.isDigit then none
  else
    let value := Text.digitsValue digits
    if value < wordSize 64 then some value else none

/-- Acknowledges a delivery to a group.  One that is not pending is let pass. -/
def acknowledge (broker : Broker) (topic group deliveryId : String) :
    Except BrokerError Unit × Broker :=
  match deliveryNumber? deliveryId with
  | none => (.error (.malformed ("unknown delivery id " ++ deliveryId)), broker)
  | some id =>
    let cursor := broker.cursor topic group
    if cursor.pending.contains id then
      let moved := { cursor with pending := cursor.pending.filter (· != id) }
      (.ok (), { broker with groups := putCursor moved broker.groups })
    else (.ok (), broker)

/-- Something that is published while a consumer waits. -/
structure Arrival where
  delay : Duration
  topic : String
  key : String
  payload : Json

/-- Publishes what arrives; whatever becomes of it, it is over. -/
def arrive (broker : Broker) (arrival : Arrival) : Broker :=
  (broker.publish arrival.topic arrival.key arrival.payload).2

/-- Takes messages for a group, waiting up to `block` if there are none.  The wait ends when
anything is published.  The answer tells how long it was. -/
def receive (broker : Broker) (topic group : String) (limit : Nat) (block : Duration)
    (arrival : Option Arrival) : List Message × Duration × Broker :=
  let (messages, taken) := broker.take topic group limit
  if ¬ messages.isEmpty ∨ block.nanoseconds = 0 then
    (messages, ⟨0⟩, (arrival.map taken.arrive).getD taken)
  else
    match arrival with
    | none =>
      let (messages, taken) := taken.take topic group limit
      (messages, block, taken)
    | some arrival =>
      if arrival.delay.nanoseconds < block.nanoseconds ∧ ¬ taken.failing then
        let (messages, taken) := (taken.arrive arrival).take topic group limit
        (messages, arrival.delay, taken)
      else
        let (messages, taken) := taken.take topic group limit
        (messages, block, taken.arrive arrival)

end Broker

end SpotSettlement
