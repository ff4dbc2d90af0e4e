import SpotSettlement.Code

namespace SpotSettlement

/-! # The words of the outbox

Families of events, the things they announce, the delivery status of a row, and the name of the
topic that a family goes to.
-/

/-- A family of published events. -/
inductive EventType where
  | orderSubmitted
  | orderUpdated
  | executionRecorded
  | balanceUpdated
  deriving DecidableEq, Repr, Inhabited

/-- What an event announces a change of. -/
inductive AggregateType where
  | order
  | execution
  | walletBalance
  deriving DecidableEq, Repr, Inhabited

/-- How far the delivery of a row has come. -/
inductive OutboxStatus where
  | new
  | processing
  | published
  | failed
  | dead
  deriving DecidableEq, Repr, Inhabited

instance : Coded EventType where
  noun := "event_type"
  values := [.orderSubmitted, .orderUpdated, .executionRecorded, .balanceUpdated]
  code
    | .orderSubmitted => "order-submitted"
    | .orderUpdated => "order-updated"
    | .executionRecorded => "execution-recorded"
    | .balanceUpdated => "balance-updated"

instance : Coded AggregateType where
  noun := "aggregate_type"
  values := [.order, .execution, .walletBalance]
  code
    | .order => "ORDER"
    | .execution => "EXECUTION"
    | .walletBalance => "WALLET_BALANCE"

instance : Coded OutboxStatus where
  noun := "outbox_status"
  values := [.new, .processing, .published, .failed, .dead]
  code
    | .new => "NEW"
    | .processing => "PROCESSING"
    | .published => "PUBLISHED"
    | .failed => "FAILED"
    | .dead => "DEAD"

/-- Whether a dispatcher may claim a row in this status. -/
def OutboxStatus.isClaimable : OutboxStatus → Bool
  | .new | .failed => true
  | _ => false

/-- The topic of a family of events in one version of its schema. -/
def EventType.topic (namePrefix : String) (eventType : EventType) (version : Nat) : String :=
  namePrefix ++ "." ++ Coded.code eventType ++ ".v" ++ toString version

inductive OutboxError where
  /-- A payload fails a check of its schema. -/
  | invalidPayload (eventType : EventType) (version : Nat) (problem : String)
  /-- Stored JSON is no payload of the type it is read as. -/
  | undecodable
  deriving DecidableEq, Repr

def OutboxError.message : OutboxError → String
  | .invalidPayload eventType version problem =>
    "invalid " ++ Coded.code eventType ++ " v" ++ toString version ++ " payload: " ++ problem
  | .undecodable => "outbox payload serialization failed"

end SpotSettlement
