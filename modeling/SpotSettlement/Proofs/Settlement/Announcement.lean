import Mathlib.Data.List.Forall2
import SpotSettlement.Proofs.Store.Identifiers
import SpotSettlement.Settlement.Announcement

namespace SpotSettlement

/-! # What announcements add to the store

An announcement adds rows to the end of the outbox, and a change of an order adds a row to the end
of the audit trail.  Each row takes one identifier; nothing else changes.
-/

namespace Store

/-- The store with rows added to the outbox, and an identifier handed out for each. -/
def announced (store : Store) (rows : List OutboxRow) : Store :=
  { store with minted := store.minted + rows.length, outbox := store.outbox ++ rows }

/-- The store with a row added to the audit trail, and an identifier handed out for it. -/
def recorded (store : Store) (event : OrderEvent) : Store :=
  { store with minted := store.minted + 1, orderEvents := store.orderEvents ++ [event] }

theorem announced_announced (store : Store) (first second : List OutboxRow) :
    (store.announced first).announced second = store.announced (first ++ second) := by
  simp [announced, Nat.add_assoc]

end Store

/-- The row announces the payload under the identifier of a number. -/
def OutboxRow.Announces {P : Type} [EventPayload P] (row : OutboxRow) (terms : Terms) (payload : P)
    (number : Nat) (now : Instant) : Prop :=
  OutboxRow.ofPayload (Store.identifier number) terms.topicPrefix payload now = .ok row

namespace OutboxRow.Announces

variable {P : Type} [EventPayload P] {row : OutboxRow} {terms : Terms} {payload : P} {number : Nat}
  {now : Instant}

theorem cases (announces : row.Announces terms payload number now) :
    EventPayload.validate payload = .ok () ∧
      row.id = Store.identifier number ∧ row.status = .new ∧ row.attempts = 0 ∧
      row.aggregateId = EventPayload.aggregateId payload ∧
      row.eventType = (EventPayload.schema P).eventType ∧
      row.topic = (EventPayload.schema P).topic terms.topicPrefix ∧
      row.payload = EventEnvelope.toJson ⟨row.id, (EventPayload.schema P).eventType,
        (EventPayload.schema P).version, EventPayload.naturalKey payload, now, payload⟩ := by
  simp only [Announces, OutboxRow.ofPayload, bind_ok_iff, pure_ok_iff] at announces
  obtain ⟨u, valid, rfl⟩ := announces
  exact ⟨valid, rfl, rfl, rfl, rfl, rfl, rfl, rfl⟩

theorem validate (announces : row.Announces terms payload number now) :
    EventPayload.validate payload = .ok () := announces.cases.1

theorem eventType (announces : row.Announces terms payload number now) :
    row.eventType = (EventPayload.schema P).eventType := announces.cases.2.2.2.2.2.1

end OutboxRow.Announces

namespace Terms

variable {terms : Terms} {order : Order} {previousStatus : OrderStatus} {reason : Option String}
  {now : Instant} {balances : List WalletBalance} {rows : List OutboxRow} {store after : Store}
  {number : Nat} {u : Unit}

/-- The rows announce a changed order, in both versions of the event. -/
def AnnounceOrder (terms : Terms) (order : Order) (previousStatus : OrderStatus)
    (reason : Option String) (number : Nat) (now : Instant) (rows : List OutboxRow) : Prop :=
  ∃ progress change body, rows = [progress, change] ∧
    progress.Announces terms (OrderProgress.ofOrder order) number now ∧
    OrderChange.ofOrder order previousStatus reason = .ok body ∧
    change.Announces terms body (number + 1) now

def AnnounceBalances (terms : Terms) (balances : List WalletBalance) (reason orderId : String)
    (number : Nat) (now : Instant) (rows : List OutboxRow) : Prop :=
  List.Forall₂ (fun (balance, number) row =>
    row.Announces terms (BalanceUpdated.ofBalance balance reason (some orderId)) number now)
    (balances.zipIdx number) rows

theorem AnnounceOrder.eventType
    (announce : terms.AnnounceOrder order previousStatus reason number now rows) :
    ∀ row ∈ rows, row.eventType = .orderUpdated := by
  obtain ⟨progress, change, body, rfl, first, -, second⟩ := announce
  intro row member
  simp only [List.mem_cons, List.not_mem_nil, or_false] at member
  obtain rfl | rfl := member
  · exact first.eventType
  · exact second.eventType

theorem AnnounceBalances.eventType {reason orderId : String}
    (announce : terms.AnnounceBalances balances reason orderId number now rows) :
    ∀ row ∈ rows, row.eventType = .balanceUpdated := by
  unfold AnnounceBalances at announce
  generalize balances.zipIdx number = numbered at announce
  induction announce with
  | nil => simp
  | cons first _ ih =>
      intro row member
      obtain rfl | later := List.mem_cons.mp member
      · exact first.eventType
      · exact ih row later

theorem announce_ok {P : Type} [EventPayload P] {payload : P}
    (done : (terms.announce payload now).run store = .ok (u, after)) :
    ∃ row, row.Announces terms payload (store.minted + 1) now ∧
      after = store.announced [row] := by
  simp only [announce, Work.bind_ok, Store.mint_ok, Work.failing_ok, Store.appendOutbox,
    Work.modify_ok] at done
  obtain ⟨_, _, ⟨rfl, rfl⟩, row, _, ⟨made, rfl⟩, rfl⟩ := done
  exact ⟨row, made, rfl⟩

theorem announceOrder_ok
    (done : (terms.announceOrder order previousStatus reason now).run store = .ok (u, after)) :
    ∃ rows, terms.AnnounceOrder order previousStatus reason (store.minted + 1) now rows ∧
      after = store.announced rows := by
  simp only [announceOrder, Work.bind_ok, Work.lift_ok] at done
  obtain ⟨_, mid, first, body, _, ⟨made, rfl⟩, second⟩ := done
  obtain ⟨progress, announces, rfl⟩ := announce_ok first
  obtain ⟨change, announcesChange, rfl⟩ := announce_ok second
  exact ⟨[progress, change], ⟨progress, change, body, rfl, announces, made, announcesChange⟩,
    Store.announced_announced store [progress] [change]⟩

theorem announceBalances_ok {reason orderId : String}
    (done : (terms.announceBalances balances reason orderId now).run store = .ok (u, after)) :
    ∃ rows, terms.AnnounceBalances balances reason orderId (store.minted + 1) now rows ∧
      after = store.announced rows := by
  rw [announceBalances, List.forM_eq_forM] at done
  induction balances generalizing store with
  | nil =>
      simp only [List.forM_nil, Work.pure_ok] at done
      exact ⟨[], .nil, by simp [Store.announced, done.2]⟩
  | cons balance rest ih =>
      simp only [List.forM_cons, Work.bind_ok] at done
      obtain ⟨_, mid, first, later⟩ := done
      obtain ⟨row, announces, rfl⟩ := announce_ok first
      obtain ⟨rows, announcesRest, rfl⟩ := ih later
      exact ⟨row :: rows, .cons announces announcesRest,
        Store.announced_announced store [row] rows⟩

theorem recordEvent_ok {eventType : OrderEventType} {before : Option OrderStatus}
    {status : OrderStatus} {details : Json} :
    (recordEvent order eventType before status details now).run store = .ok (u, after) ↔
      store.recorded ⟨Store.identifier (store.minted + 1), order.id, eventType, before, status,
        details, now⟩ = after := by
  simp only [recordEvent, Work.bind_ok, Store.mint_ok, Work.modify_ok]
  constructor
  · rintro ⟨_, _, ⟨rfl, rfl⟩, rfl⟩
    rfl
  · rintro rfl
    exact ⟨_, _, ⟨rfl, rfl⟩, rfl⟩

theorem recordTransition_ok {eventType : OrderEventType} {transition : Transition} {details : Json}
    (done : (terms.recordTransition order eventType transition details reason).run store =
      .ok (u, after)) :
    ∃ rows, terms.AnnounceOrder order transition.before reason (store.minted + 2) order.updatedAt
        rows ∧
      after = (store.recorded ⟨Store.identifier (store.minted + 1), order.id, eventType,
        some transition.before, transition.after, details, order.updatedAt⟩).announced rows := by
  simp only [recordTransition, Work.bind_ok, recordEvent_ok] at done
  obtain ⟨_, _, rfl, announcing⟩ := done
  obtain ⟨rows, announced, grown⟩ := announceOrder_ok announcing
  exact ⟨rows, announced, grown⟩

end Terms

end SpotSettlement
