import SpotSettlement.Order.Error
import SpotSettlement.Decimal.Text
import SpotSettlement.Text.Blank

namespace SpotSettlement

/-! # Order commands

The wish to place an order, and the checks that it must pass before an order is made of it.
-/

/-- The wish to place an order.  The identifier is chosen for the caller if it is absent. -/
structure OrderCommand where
  orderId : Option String
  account : String
  instrument : String
  side : Side
  orderType : OrderType
  quantity : Decimal
  limitPrice : Option Decimal
  clientOrderId : Option String
  exchange : String
  deriving DecidableEq, Inhabited

def requireText (field text : String) : Except OrderError Unit :=
  if Text.isBlank text then .error (.invalidParameter field "must not be empty") else .ok ()

def requirePositive (field : String) (value : Decimal) : Except OrderError Unit :=
  if value.isPositive then .ok () else .error (.invalidParameter field "must be positive")

namespace OrderCommand

/-- Refuses a price that does not fit the type of the order. -/
def checkPrice (command : OrderCommand) : Except OrderError Unit :=
  match command.orderType, command.limitPrice with
  | .limit, none =>
    .error (.invalidParameter "limit_price" "limit price required for limit orders")
  | .limit, some price => requirePositive "limit_price" price
  | .market, some _ =>
    .error (.invalidParameter "limit_price" "market orders must not carry a limit price")
  | .market, none => .ok ()

def checkClientOrderId (command : OrderCommand) : Except OrderError Unit :=
  match command.clientOrderId with
  | some id =>
    if Text.isBlank id then .error (.invalidParameter "client_order_id" "must not be blank")
    else .ok ()
  | none => .ok ()

/-- Refuses a command that no order can be made of, for the first field that is wrong. -/
def validate (command : OrderCommand) : Except OrderError Unit := do
  requireText "account_id" command.account
  requireText "instrument" command.instrument
  requireText "exchange_name" command.exchange
  requirePositive "quantity" command.quantity
  command.checkPrice
  command.checkClientOrderId

end OrderCommand

end SpotSettlement
