import SpotSettlement.Code
import SpotSettlement.Text.Uppercase

namespace SpotSettlement

/-! # The words of the order lifecycle

Sides, types and statuses of orders, and the words an exchange uses for them.
-/

/-- Which way an order trades. -/
inductive Side where
  | buy
  | sell
  deriving DecidableEq, Repr, Inhabited

/-- How an order is priced. -/
inductive OrderType where
  | market
  | limit
  deriving DecidableEq, Repr, Inhabited

/-- Where an order stands.  `new` is known only here; `acknowledged` means that the exchange has
accepted the order; the last three are terminal. -/
inductive OrderStatus where
  | new
  | acknowledged
  | partiallyFilled
  | filled
  | canceled
  | rejected
  deriving DecidableEq, Repr, Inhabited

/-- What a row of the audit trail records. -/
inductive OrderEventType where
  | created
  | acknowledged
  | canceled
  | rejected
  | executionApplied
  | statusReconciled
  deriving DecidableEq, Repr, Inhabited

instance : Coded Side where
  noun := "order_side"
  values := [.buy, .sell]
  code
    | .buy => "BUY"
    | .sell => "SELL"

instance : Coded OrderType where
  noun := "order_type"
  values := [.market, .limit]
  code
    | .market => "MARKET"
    | .limit => "LIMIT"

instance : Coded OrderStatus where
  noun := "order_status"
  values := [.new, .acknowledged, .partiallyFilled, .filled, .canceled, .rejected]
  code
    | .new => "NEW"
    | .acknowledged => "ACK"
    | .partiallyFilled => "PARTIALLY_FILLED"
    | .filled => "FILLED"
    | .canceled => "CANCELED"
    | .rejected => "REJECTED"

instance : Coded OrderEventType where
  noun := "order_event_type"
  values := [.created, .acknowledged, .canceled, .rejected, .executionApplied, .statusReconciled]
  code
    | .created => "ORDER_CREATED"
    | .acknowledged => "ORDER_ACKNOWLEDGED"
    | .canceled => "ORDER_CANCELED"
    | .rejected => "ORDER_REJECTED"
    | .executionApplied => "EXECUTION_APPLIED"
    | .statusReconciled => "STATUS_RECONCILED"

/-- The side an exchange names, in either case. -/
def Side.ofExchange? (text : String) : Option Side := Coded.ofCode? (Text.asciiUpper text)

def OrderType.requiresLimitPrice : OrderType → Bool
  | .market => false
  | .limit => true

/-- Whether no further change is possible. -/
def OrderStatus.isTerminal : OrderStatus → Bool
  | .filled | .canceled | .rejected => true
  | _ => false

def OrderStatus.isActive (status : OrderStatus) : Bool := !status.isTerminal

/-- The words of an exchange for the statuses it reports. -/
def OrderStatus.exchangeWords : List (String × OrderStatus) :=
  [("NEW", .acknowledged), ("ACK", .acknowledged), ("ACCEPTED", .acknowledged),
    ("PARTIALLY_FILLED", .partiallyFilled), ("FILLED", .filled), ("CANCELED", .canceled),
    ("CANCELLED", .canceled), ("EXPIRED", .canceled), ("EXPIRED_IN_MATCH", .canceled),
    ("REJECTED", .rejected)]

/-- The status that a word of an exchange reports, in either case; none for passing states. -/
def OrderStatus.ofExchange? (text : String) : Option OrderStatus :=
  exchangeWords.lookup (Text.asciiUpper text)

end SpotSettlement
