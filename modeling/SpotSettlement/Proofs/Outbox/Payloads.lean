import SpotSettlement.Proofs.Decimal.Value
import SpotSettlement.Proofs.Settlement.Announcement
import SpotSettlement.Proofs.Wallet.Movements

namespace SpotSettlement

/-! # What event bodies must hold

A body is announced if and only if its content passes the checks of its schema.  Announcing a change
of an order does a difference and a sum; if neither rounds, the quantities of the order pass.
-/

open Decimal

namespace EventSchema

variable {schema : EventSchema} {field problem text : String} {amount : Decimal} {holds : Bool}
  {u : Unit}

theorem require_ok : schema.require holds problem = .ok u ↔ holds = true := by
  unfold require invalid
  cases holds <;> simp [refuse_ok_iff]

theorem requireText_ok :
    schema.requireText field text = .ok u ↔ Text.isBlank text = false := by
  rw [requireText, require_ok, Bool.not_eq_true']

theorem requireNonNegative_ok :
    schema.requireNonNegative field amount = .ok u ↔ 0 ≤ amount.value := by
  rw [requireNonNegative, require_ok, Bool.not_eq_true', ← Bool.not_eq_true, isNegative_iff_value,
    not_lt]

end EventSchema

open EventSchema

variable {order : Order} {balance : WalletBalance} {terms : Terms} {now : Instant} {u : Unit}

theorem OrderSubmitted.validate_ok {body : OrderSubmitted} : body.validate = .ok u ↔
    Text.isBlank body.orderId = false ∧ Text.isBlank body.instrument = false ∧
      Text.isBlank body.exchange = false ∧ 0 < body.quantity.value ∧
      body.orderType.requiresLimitPrice = body.limitPrice.isSome := by
  simp only [validate, bind_ok_iff, requireText_ok, require_ok, isPositive_iff_value, beq_iff_eq,
    exists_const]

theorem OrderProgress.validate_ok {body : OrderProgress} : body.validate = .ok u ↔
    Text.isBlank body.orderId = false ∧ 0 ≤ body.filled.value := by
  simp only [validate, bind_ok_iff, requireText_ok, requireNonNegative_ok, exists_const]

theorem OrderChange.validate_ok {body : OrderChange} : body.validate = .ok u ↔
    Text.isBlank body.orderId = false ∧ 0 ≤ body.filled.value ∧ 0 ≤ body.remaining.value ∧
      ∃ sum, body.filled.add body.remaining = .ok sum ∧ sum.value = body.quantity.value := by
  simp only [validate, bind_ok_iff, lift_ok_iff, requireText_ok, requireNonNegative_ok, require_ok,
    beq_iff_value, exists_const]

theorem BalanceUpdated.validate_ok {body : BalanceUpdated} : body.validate = .ok u ↔
    Text.isBlank body.account = false ∧ Text.isBlank body.asset = false ∧
      0 ≤ body.available.value ∧ 0 ≤ body.reserved.value := by
  simp only [validate, bind_ok_iff, requireText_ok, requireNonNegative_ok, exists_const]

/-- A body makes a row if and only if it is valid. -/
theorem OutboxRow.ofPayload_ok {P : Type} [EventPayload P] (id namePrefix : String) (payload : P)
    (now : Instant) : (∃ row, ofPayload id namePrefix payload now = .ok row) ↔
    EventPayload.validate payload = .ok () := by
  simp only [ofPayload, bind_ok_iff, pure_ok_iff]
  constructor
  · rintro ⟨_, _, valid, -⟩
    exact valid
  · intro valid
    exact ⟨_, (), valid, rfl⟩

def Order.announceArithmetic (order : Order) : List Operation :=
  .sub order.quantity order.filled ::
    match order.remaining with
    | .ok remaining => [.add order.filled remaining]
    | .error _ => []

/-- The change of an order can be announced, whatever its status was before. -/
theorem OrderChange.ofOrder_exists (previousStatus : OrderStatus) (reason : Option String)
    (named : Text.isBlank order.id = false) (nonneg : 0 ≤ order.filled.value)
    (within : order.filled.value ≤ order.quantity.value)
    (exact : Exact order.announceArithmetic) :
    ∃ body, ofOrder order previousStatus reason = .ok body ∧ body.validate = .ok () := by
  obtain ⟨difference, restExact⟩ := exact_cons_iff.mp exact
  obtain ⟨remaining, given, value⟩ := difference
  have rest : order.remaining = .ok remaining := given
  rw [rest] at restExact
  obtain ⟨sum, added, total⟩ := (exact_cons_iff.mp restExact).1
  refine ⟨_, by simp only [ofOrder, rest, bind_ok_iff, pure_ok_iff]; exact ⟨_, rfl, rfl⟩, ?_⟩
  change remaining.value = order.quantity.value - order.filled.value at value
  change sum.value = order.filled.value + remaining.value at total
  refine validate_ok.mpr ⟨named, nonneg, ?_, sum, added, ?_⟩
  · simp only [value]
    linarith
  · simp only [total, value]
    ring

namespace Terms

variable {store : Store} {balances : List WalletBalance} {reason : Option String}
  {previousStatus : OrderStatus}

theorem announce_exists {P : Type} [EventPayload P] (terms : Terms) (payload : P)
    (valid : EventPayload.validate payload = .ok ()) (now : Instant) (store : Store) :
    ∃ after, (terms.announce payload now).run store = .ok ((), after) := by
  simp only [announce, Work.bind_ok, Store.mint_ok, Work.failing_ok, Store.appendOutbox,
    Work.modify_ok]
  obtain ⟨row, made⟩ := (OutboxRow.ofPayload_ok (Store.identifier (store.minted + 1))
    terms.topicPrefix payload now).mpr valid
  exact ⟨_, _, _, ⟨rfl, rfl⟩, row, _, ⟨made, rfl⟩, rfl⟩

theorem announceOrder_exists (terms : Terms) (previousStatus : OrderStatus)
    (reason : Option String) (named : Text.isBlank order.id = false)
    (nonneg : 0 ≤ order.filled.value) (within : order.filled.value ≤ order.quantity.value)
    (exact : Exact order.announceArithmetic) (now : Instant) (store : Store) :
    ∃ after, (terms.announceOrder order previousStatus reason now).run store = .ok ((), after) := by
  simp only [announceOrder, Work.bind_ok, Work.lift_ok]
  have progress : EventPayload.validate (OrderProgress.ofOrder order) = .ok () :=
    OrderProgress.validate_ok.mpr ⟨named, nonneg⟩
  obtain ⟨middle, first⟩ := terms.announce_exists _ progress now store
  obtain ⟨body, made, valid⟩ :=
    OrderChange.ofOrder_exists previousStatus reason named nonneg within exact
  obtain ⟨after, second⟩ := terms.announce_exists body valid now middle
  exact ⟨after, _, middle, first, body, _, ⟨made, rfl⟩, second⟩

theorem announceBalances_exists (terms : Terms) (reason orderId : String)
    (named : ∀ balance ∈ balances,
      Text.isBlank balance.account = false ∧ Text.isBlank balance.asset = false)
    (nonneg : ∀ balance ∈ balances, balance.Nonnegative) (now : Instant) (store : Store) :
    ∃ after, (terms.announceBalances balances reason orderId now).run store = .ok ((), after) := by
  rw [announceBalances, List.forM_eq_forM]
  induction balances generalizing store with
  | nil => exact ⟨store, rfl⟩
  | cons balance rest ih =>
      simp only [List.forM_cons, Work.bind_ok]
      have names := named balance List.mem_cons_self
      have parts := nonneg balance List.mem_cons_self
      have valid : EventPayload.validate
          (BalanceUpdated.ofBalance balance reason (some orderId)) = .ok () :=
        BalanceUpdated.validate_ok.mpr ⟨names.1, names.2, parts.1, parts.2⟩
      obtain ⟨middle, first⟩ := terms.announce_exists _ valid now store
      obtain ⟨after, others⟩ := ih (fun other member => named other (List.mem_cons_of_mem _ member))
        (fun other member => nonneg other (List.mem_cons_of_mem _ member)) middle
      exact ⟨after, _, middle, first, others⟩

end Terms

end SpotSettlement
