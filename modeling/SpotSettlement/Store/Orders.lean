import SpotSettlement.Store.Basic

namespace SpotSettlement.Store

/-! # Orders in the store

Identifiers are unique, and so are the client order ids that callers chose for one exchange.  When
several orders match a search the one with the least identifier is found.
-/

def order? (store : Store) (id : String) : Option Order := store.orders.find? (·.id == id)

/-- The order that an exchange knows under an identifier of its own. -/
def orderByExchangeId? (store : Store) (exchange exchangeOrderId : String) : Option Order :=
  store.orders.find? fun order =>
    order.exchange == exchange && order.exchangeOrderId == some exchangeOrderId

/-- The order that an exchange knows under a client order id: one that it gave back with the
acknowledgement, or one that it was told. -/
def orderByClientId? (store : Store) (exchange clientOrderId : String) : Option Order :=
  store.orders.find? fun order =>
    order.exchange == exchange &&
      (order.exchangeClientOrderId == some clientOrderId ||
        order.outboundClientOrderId == clientOrderId)

/-- The order that a report is about, by the exchange's identifier before the client's. -/
def resolveOrder? (store : Store) (exchange : String)
    (exchangeOrderId clientOrderId : Option String) : Option Order :=
  (exchangeOrderId.bind (store.orderByExchangeId? exchange)).or
    (clientOrderId.bind (store.orderByClientId? exchange))

/-- The orders of an exchange in a status, the oldest first. -/
def ordersByStatus (store : Store) (exchange : String) (status : OrderStatus) : List Order :=
  (store.orders.filter fun order => order.exchange == exchange && order.status == status).mergeSort
    fun a b => a.createdAt ≤ b.createdAt

/-- Puts an order in its place by identifier. -/
def placeOrder (order : Order) : List Order → List Order
  | [] => [order]
  | other :: rest =>
    if order.id < other.id then order :: other :: rest else other :: placeOrder order rest

/-- Replaces the orders that have the same identifier. -/
def replaceOrder (order : Order) (orders : List Order) : List Order :=
  orders.map fun other => if other.id == order.id then order else other

/-- The first number past those handed out whose identifier no order has. -/
def freshOrderNumber (store : Store) : Nat :=
  ((List.range' (store.minted + 1) (store.orders.length + 1)).find? fun number =>
    (store.order? (identifier number)).isNone).getD (store.minted + 1)

/-- Hands out an identifier for an order.  Callers choose identifiers too, so it keeps clear of
those that orders have. -/
def mintOrder : Work String := do
  let store ← get
  set { store with minted := store.freshOrderNumber }
  return identifier store.freshOrderNumber

def insertOrder (order : Order) : Work Unit := do
  let store ← get
  if (store.order? order.id).isSome then
    refuse (StoreError.storage ("duplicate order id " ++ order.id))
  match order.clientOrderId with
  | some clientOrderId =>
    if store.orders.any fun other =>
        other.exchange == order.exchange && other.clientOrderId == some clientOrderId then
      refuse (StoreError.storage ("duplicate client order id " ++ clientOrderId))
  | none => pure ()
  set { store with orders := placeOrder order store.orders }

/-- Replaces the order that has the same identifier. -/
def updateOrder (order : Order) : Work Unit := do
  let store ← get
  if (store.order? order.id).isNone then
    refuse (StoreError.notFound "order" order.id)
  set { store with orders := replaceOrder order store.orders }

/-- The order with an identifier, which must exist. -/
def existingOrder (id : String) : Work Order := do
  match (← get).order? id with
  | some order => return order
  | none => refuse (OrderError.notFound id)

def appendOrderEvent (event : OrderEvent) : Work Unit :=
  modify fun store => { store with orderEvents := store.orderEvents ++ [event] }

def orderEventsOf (store : Store) (orderId : String) : List OrderEvent :=
  store.orderEvents.filter (·.orderId == orderId)

end SpotSettlement.Store
