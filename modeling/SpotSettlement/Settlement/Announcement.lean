import SpotSettlement.InstrumentCatalog
import SpotSettlement.Store.Records

namespace SpotSettlement

/-! # Announcements

What changes in a unit of work is announced by events that the same unit puts into the outbox.
-/

/-- What settlement needs to know beside the store: the instruments, and the first part of the names
of its topics. -/
structure Terms where
  catalog : InstrumentCatalog
  topicPrefix : String
  deriving Inhabited

namespace Terms

/-- Puts an event into the outbox. -/
def announce {P : Type} [EventPayload P] (terms : Terms) (payload : P) (now : Instant) :
    Work Unit := do
  let id ← Store.mint
  let row ← OutboxRow.ofPayload id terms.topicPrefix payload now
  Store.appendOutbox row

/-- Announces a changed order, in both versions of the event. -/
def announceOrder (terms : Terms) (order : Order) (previousStatus : OrderStatus)
    (reason : Option String) (now : Instant) : Work Unit := do
  terms.announce (OrderProgress.ofOrder order) now
  let change ← OrderChange.ofOrder order previousStatus reason
  terms.announce change now

/-- Announces changed balances, one after the other. -/
def announceBalances (terms : Terms) (balances : List WalletBalance) (reason orderId : String)
    (now : Instant) : Work Unit :=
  balances.forM fun balance =>
    terms.announce (BalanceUpdated.ofBalance balance reason (some orderId)) now

/-- Adds a row to the audit trail of an order. -/
def recordEvent (order : Order) (eventType : OrderEventType)
    (previousStatus : Option OrderStatus) (status : OrderStatus) (details : Json)
    (now : Instant) : Work Unit := do
  let id ← Store.mint
  modify fun store => { store with
    orderEvents := store.orderEvents ++
      [⟨id, order.id, eventType, previousStatus, status, details, now⟩] }

/-- Records a transition of an order and announces it. -/
def recordTransition (terms : Terms) (order : Order) (eventType : OrderEventType)
    (transition : Transition) (details : Json) (reason : Option String) : Work Unit := do
  recordEvent order eventType (some transition.before) transition.after details order.updatedAt
  terms.announceOrder order transition.before reason order.updatedAt

end Terms

end SpotSettlement
