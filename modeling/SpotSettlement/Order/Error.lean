import SpotSettlement.Order.Vocabulary

namespace SpotSettlement

/-! # Order errors

Why an order cannot be made or changed, and how that is worded.
-/

inductive OrderError where
  /-- No legal change of status; the status asked for is absent if none could be derived. -/
  | invalidTransition (current : OrderStatus) (requested : Option OrderStatus) (reason : String)
  /-- A field does not hold what it must. -/
  | invalidParameter (field : String) (problem : String)
  /-- There is no such order. -/
  | notFound (orderId : String)
  /-- The order belongs to another account. -/
  | accountMismatch (orderId : String)
  /-- The order is terminal already. -/
  | alreadyTerminal (orderId : String) (status : OrderStatus)
  /-- An acknowledgement of an order that is past `new`. -/
  | staleAcknowledgement (orderId : String) (status : OrderStatus)
  /-- A second acknowledgement with other identifiers. -/
  | ambiguousAcknowledgement (orderId : String) (recorded : String) (received : String)
  deriving DecidableEq, Repr

open Coded in
def OrderError.message : OrderError → String
  | .invalidTransition current (some requested) reason =>
    "Invalid order state transition: " ++ code current ++ " -> " ++ code requested ++ ": " ++
      reason
  | .invalidTransition current none reason =>
    "Invalid order state transition from " ++ code current ++ ": " ++ reason
  | .invalidParameter field problem =>
    "Invalid order parameter '" ++ field ++ "': " ++ problem
  | .notFound orderId => "Order not found: " ++ orderId
  | .accountMismatch orderId =>
    "Order " ++ orderId ++ " does not belong to the requesting account"
  | .alreadyTerminal orderId status => "Order " ++ orderId ++ " is already " ++ code status
  | .staleAcknowledgement orderId status =>
    "Cannot acknowledge order " ++ orderId ++ " in status " ++ code status
  | .ambiguousAcknowledgement orderId recorded received =>
    "Order " ++ orderId ++ " already acknowledged as " ++ recorded ++ ", refusing " ++ received

end SpotSettlement
