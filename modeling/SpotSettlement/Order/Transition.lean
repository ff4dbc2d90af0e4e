import SpotSettlement.Order.Error
import SpotSettlement.Decimal.Text

namespace SpotSettlement.OrderStatus

/-! # Changes of status

A table says which changes are legal.  A fill may follow only an acknowledgement, so `new` never
becomes `filled`.  When a report carries both a status and quantities, a complete fill decides by
itself; otherwise the reported status counts if it is legal and agrees with the quantities, and the
quantities decide if it does not.
-/

def successors : OrderStatus → List OrderStatus
  | .new => [.acknowledged, .canceled, .rejected]
  | .acknowledged | .partiallyFilled => [.partiallyFilled, .filled, .canceled]
  | .filled | .canceled | .rejected => []

def canBecome (current next : OrderStatus) : Bool := current.successors.contains next

def refusalReason (current next : OrderStatus) : String :=
  let target := Coded.code next
  match current, next with
  | .filled, _ => "order is already filled, cannot transition to " ++ target
  | .canceled, _ => "order is canceled, cannot transition to " ++ target
  | .rejected, _ => "order was rejected, cannot transition to " ++ target
  | .new, .filled | .new, .partiallyFilled =>
    "order must be acknowledged before it can become " ++ target
  | _, _ => "invalid transition from " ++ Coded.code current ++ " to " ++ target

/-- Refuses a change of status that is not in the table. -/
def checkTransition (current next : OrderStatus) : Except OrderError Unit :=
  if current.canBecome next then .ok ()
  else .error (.invalidTransition current (some next) (refusalReason current next))

/-- The status that the filled quantity alone implies. -/
def ofQuantities (filled quantity : Decimal) : Option OrderStatus :=
  if filled == quantity then some .filled
  else if filled.isPositive then some .partiallyFilled
  else none

/-- Whether a reported status is compatible with what the quantities imply. -/
def agreesWith (reported : OrderStatus) (implied : Option OrderStatus) : Bool :=
  match reported with
  | .filled | .partiallyFilled => implied == some reported
  | _ => true

/-- The status that follows a report, given the filled quantity before and after it. -/
def next (current : OrderStatus) (reported : Option OrderStatus)
    (priorFilled newFilled quantity : Decimal) : Except OrderError OrderStatus :=
  if newFilled < priorFilled then
    .error (.invalidParameter "filled_quantity"
      ("filled quantity cannot decrease (" ++ priorFilled.text ++ " -> " ++ newFilled.text ++ ")"))
  else if quantity < newFilled ∨ newFilled.isNegative then
    .error (.invalidParameter "filled_quantity"
      ("filled quantity " ++ newFilled.text ++ " outside 0..=" ++ quantity.text))
  else
    let implied := ofQuantities newFilled quantity
    if implied = some .filled then do
      checkTransition current .filled
      return .filled
    else
      let legal (candidate : OrderStatus) : Bool := current.canBecome candidate
      match reported.filter (fun status => status.agreesWith implied && legal status) with
      | some status => .ok status
      | none =>
        match implied.filter legal with
        | some status => .ok status
        | none =>
          let attempted := reported.or implied
          .error (.invalidTransition current attempted
            (match attempted with
              | some status => refusalReason current status
              | none => "no status change was requested"))

end SpotSettlement.OrderStatus
