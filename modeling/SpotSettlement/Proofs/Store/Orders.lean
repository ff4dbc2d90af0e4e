import Mathlib.Data.List.Nodup
import SpotSettlement.Proofs.Work
import SpotSettlement.Store.Orders

namespace SpotSettlement.Store

/-! # The rows of orders

Adding an order keeps all others, and writing an order changes the one with its identifier.
-/

variable {store after : Store} {order other found : Order} {orders : List Order} {id : String}

theorem mem_placeOrder : other ∈ placeOrder order orders ↔ other = order ∨ other ∈ orders := by
  induction orders with
  | nil => simp [placeOrder]
  | cons row rest ih => grind [placeOrder]

theorem placeOrder_perm (order : Order) (orders : List Order) :
    (placeOrder order orders).Perm (order :: orders) := by
  induction orders with
  | nil => exact .refl _
  | cons row rest ih =>
      unfold placeOrder
      split
      · exact .refl _
      · exact (ih.cons row).trans (.swap order row rest)

theorem mem_replaceOrder (member : other ∈ replaceOrder order orders) :
    other ∈ orders ∧ other.id ≠ order.id ∨ other = order := by
  unfold replaceOrder at member
  obtain ⟨row, present, rfl⟩ := List.mem_map.mp member
  grind

theorem mem_replaceOrder_of_ne (member : other ∈ orders) (different : other.id ≠ order.id) :
    other ∈ replaceOrder order orders :=
  List.mem_map.mpr ⟨other, member, if_neg (by simpa using different)⟩

theorem mem_replaceOrder_self (member : other ∈ orders) (same : other.id = order.id) :
    order ∈ replaceOrder order orders :=
  List.mem_map.mpr ⟨other, member, if_pos (by simpa using same)⟩

/-- Replacing an order that is there is writing it beside those with other identifiers. -/
theorem mem_replaceOrder_iff (member : found ∈ orders) (same : found.id = order.id) :
    other ∈ replaceOrder order orders ↔ other = order ∨ other ∈ orders ∧ other.id ≠ order.id := by
  constructor
  · intro replaced
    exact (mem_replaceOrder replaced).symm
  · rintro (rfl | ⟨present, different⟩)
    · exact mem_replaceOrder_self member same
    · exact mem_replaceOrder_of_ne present different

theorem map_id_replaceOrder (order : Order) (orders : List Order) :
    (replaceOrder order orders).map (·.id) = orders.map (·.id) := by
  rw [replaceOrder, List.map_map]
  apply List.map_congr_left
  intro row _
  grind

/-- No identifier comes in by replacing an order, and none goes. -/
theorem absent_of_replaceOrder (unknown : ∀ other ∈ replaceOrder order orders, other.id ≠ id) :
    ∀ other ∈ orders, other.id ≠ id := by
  intro other member same
  have listed := List.mem_map_of_mem member (f := (·.id))
  rw [← map_id_replaceOrder order, List.mem_map] at listed
  obtain ⟨later, present, named⟩ := listed
  exact unknown later present (named.trans same)

theorem order?_some (lookup : store.order? id = some found) :
    found ∈ store.orders ∧ found.id = id :=
  ⟨List.mem_of_find?_eq_some lookup, by simpa using List.find?_some lookup⟩

theorem order?_none (lookup : store.order? id = none) (member : other ∈ store.orders) :
    other.id ≠ id := by
  simpa using List.find?_eq_none.mp lookup other member

/-- A new order is placed beside those with other identifiers. -/
theorem mem_placeOrder_iff (absent : store.order? order.id = none) :
    other ∈ placeOrder order store.orders ↔
      other = order ∨ other ∈ store.orders ∧ other.id ≠ order.id := by
  rw [mem_placeOrder]
  exact or_congr_right (iff_self_and.mpr (order?_none absent))

theorem order?_of_mem (unique : (store.orders.map (·.id)).Nodup) (member : order ∈ store.orders) :
    store.order? order.id = some order := by
  cases lookup : store.order? order.id with
  | none => exact absurd rfl (order?_none lookup member)
  | some found =>
      obtain ⟨present, same⟩ := order?_some lookup
      rw [List.inj_on_of_nodup_map unique present member same]

theorem orderByExchangeId?_some {exchange : String}
    (lookup : store.orderByExchangeId? exchange id = some found) :
    found ∈ store.orders ∧ found.exchange = exchange ∧ found.exchangeOrderId = some id := by
  have holds := List.find?_some lookup
  simp only [Bool.and_eq_true, beq_iff_eq] at holds
  exact ⟨List.mem_of_find?_eq_some lookup, holds⟩

theorem orderByExchangeId?_none {exchange : String}
    (lookup : store.orderByExchangeId? exchange id = none) (member : other ∈ store.orders)
    (here : other.exchange = exchange) : other.exchangeOrderId ≠ some id := by
  intro number
  have absent := List.find?_eq_none.mp lookup other member
  simp [here, number] at absent

/-- No other order has the identifier of an order. -/
theorem filter_id_eq (unique : (orders.map (·.id)).Nodup) (member : order ∈ orders) :
    orders.filter (·.id == order.id) = [order] := by
  induction orders with
  | nil => contradiction
  | cons row rest ih =>
      rw [List.map_cons, List.nodup_cons] at unique
      obtain rfl | later := List.mem_cons.mp member
      · have others : rest.filter (·.id == order.id) = [] := by
          rw [List.filter_eq_nil_iff]
          intro other present same
          exact unique.1 (beq_iff_eq.mp same ▸ List.mem_map_of_mem present)
        rw [List.filter_cons_of_pos (by simp), others]
      · have different : row.id ≠ order.id := fun same =>
          unique.1 (same ▸ List.mem_map_of_mem later)
        rw [List.filter_cons_of_neg (by simpa using different), ih unique.2 later]

theorem existingOrder_ok : (existingOrder id).run store = .ok (order, after) ↔
    store.order? id = some order ∧ store = after := by
  unfold existingOrder
  rw [Work.get_bind_ok]
  cases store.order? id with
  | none => simp only [Work.failing_ok, refuse_ok_iff, false_and, reduceCtorEq]
  | some found => rw [Work.pure_ok, Option.some.injEq]

/-- The store with an order written in place of the one with its identifier. -/
def withOrder (store : Store) (order : Order) : Store :=
  { store with orders := replaceOrder order store.orders }

/-- The store with a new order in it, whose number is handed out whether or not the order uses it. -/
def withNewOrder (store : Store) (order : Order) : Store :=
  { store with minted := store.freshOrderNumber, orders := placeOrder order store.orders }

theorem updateOrder_ok {u : Unit} : (updateOrder order).run store = .ok (u, after) ↔
    (store.order? order.id).isNone = false ∧ store.withOrder order = after := by
  unfold updateOrder
  rw [Work.get_bind_ok]
  simp only [Work.refuse_if_ok, Work.set_ok, Bool.not_eq_true, withOrder]

/-- Whether a caller has chosen the order's client order id for its exchange before. -/
def ClientIdTaken (store : Store) (order : Order) : Prop :=
  ∃ clientOrderId, order.clientOrderId = some clientOrderId ∧ ∃ other ∈ store.orders,
    other.exchange = order.exchange ∧ other.clientOrderId = some clientOrderId

theorem insertOrder_ok {u : Unit} : (insertOrder order).run store = .ok (u, after) ↔
    store.order? order.id = none ∧ ¬store.ClientIdTaken order ∧
      { store with orders := placeOrder order store.orders } = after := by
  unfold insertOrder ClientIdTaken
  rw [Work.get_bind_ok]
  cases order.clientOrderId with
  | none =>
      simp only [Work.refuse_if_ok, Work.set_ok]
      simp
  | some clientOrderId =>
      simp only [Work.refuse_if_ok, Work.set_ok]
      simp

end SpotSettlement.Store
