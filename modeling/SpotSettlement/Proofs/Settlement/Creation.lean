import SpotSettlement.Proofs.Outbox.Payloads
import SpotSettlement.Proofs.Settlement.Closing
import SpotSettlement.Proofs.Settlement.CoveredFills
import SpotSettlement.Proofs.Text.Blank

namespace SpotSettlement

/-! # Which orders are created

A command makes an order if it is well-formed, if the names that it chooses are unused, and if its
account can pay for what the order reserves.  All of that is known before anything is written; the
checks of the announcements at the end refuse nothing but blank names.
-/

open Decimal

variable {command : OrderCommand} {order : Order} {pair : AssetPair} {store after : Store}
  {terms : Terms} {now : Instant}

namespace OrderCommand

variable {u : Unit}

theorem requireText_ok {field text : String} :
    requireText field text = .ok u ↔ Text.isBlank text = false := by
  unfold requireText
  split <;> simp [*]

theorem requirePositive_ok {field : String} {amount : Decimal} :
    requirePositive field amount = .ok u ↔ 0 < amount.value := by
  rw [← isPositive_iff_value]
  unfold requirePositive
  split <;> simp [*]

theorem validate_ok : command.validate = .ok u ↔
    Text.isBlank command.account = false ∧ Text.isBlank command.instrument = false ∧
      Text.isBlank command.exchange = false ∧ 0 < command.quantity.value ∧
      command.checkPrice = .ok () ∧ command.checkClientOrderId = .ok () := by
  simp only [validate, bind_ok_iff, requireText_ok, requirePositive_ok, exists_const]
  constructor
  · rintro ⟨account, instrument, exchange, quantity, _, priced, named⟩
    exact ⟨account, instrument, exchange, quantity, priced, named⟩
  · rintro ⟨account, instrument, exchange, quantity, priced, named⟩
    exact ⟨account, instrument, exchange, quantity, (), priced, named⟩

theorem checkPrice_ok (priced : command.checkPrice = .ok u) :
    command.orderType.requiresLimitPrice = command.limitPrice.isSome ∧
      ∀ price, command.limitPrice = some price → 0 < price.value := by
  unfold checkPrice at priced
  split at priced
  · contradiction
  · next limit price kind given =>
      rw [kind, given]
      exact ⟨rfl, fun _ same => Option.some.inj same ▸ requirePositive_ok.mp priced⟩
  · contradiction
  · next kind given =>
      rw [kind, given]
      exact ⟨rfl, nofun⟩

/-- The asset and the amount that an order of the command reserves: what a purchase with a limit may
cost, or what a sale gives. -/
def requirement (command : OrderCommand) (pair : AssetPair) : Option (String × ℚ) :=
  match command.side, command.limitPrice with
  | .buy, some price => some (pair.quote, command.quantity.value * price.value)
  | .buy, none => none
  | .sell, _ => some (pair.base, command.quantity.value)

theorem requirement_positive (valid : command.validate = .ok ()) {asset : String} {amount : ℚ}
    (required : command.requirement pair = some (asset, amount)) : 0 < amount := by
  obtain ⟨-, -, -, quantity, priced, -⟩ := validate_ok.mp valid
  unfold requirement at required
  split at required
  · next price _ limit =>
      cases required
      exact mul_pos quantity ((checkPrice_ok priced).2 price limit)
  · contradiction
  · cases required
    exact quantity

/-- The command is well-formed, the names that it chooses are unused, and its account can pay for
what its order reserves. -/
structure Acceptable (command : OrderCommand) (terms : Terms) (store : Store) : Prop where
  valid : command.validate = .ok ()
  unused : ∀ id, command.orderId = some id → Text.isBlank id = false ∧ store.order? id = none
  unclaimed : ∀ clientOrderId, command.clientOrderId = some clientOrderId →
    ∀ other ∈ store.orders, other.exchange = command.exchange →
      other.clientOrderId ≠ some clientOrderId
  affordable : ∃ pair, terms.catalog.assetPair (AssetPair.canonical command.instrument) = some pair ∧
    ∀ asset amount, command.requirement pair = some (asset, amount) →
      Text.isBlank asset = false ∧ amount ≤ store.availableOf command.account asset

end OrderCommand

namespace Order

theorem create_iff {freshId : String} : create freshId command now = .ok order ↔
    command.validate = .ok () ∧ order =
      { id := command.orderId.getD freshId
        account := command.account
        instrument := AssetPair.canonical command.instrument
        side := command.side
        orderType := command.orderType
        quantity := command.quantity
        limitPrice := command.limitPrice
        status := .new
        filled := .zero
        clientOrderId := command.clientOrderId
        exchange := command.exchange
        exchangeOrderId := none
        exchangeClientOrderId := none
        createdAt := now
        updatedAt := now } := by
  simp only [create, bind_ok_iff, pure_ok_iff]
  constructor
  · rintro ⟨_, valid, rfl⟩
    exact ⟨valid, rfl⟩
  · rintro ⟨valid, rfl⟩
    exact ⟨(), valid, rfl⟩

/-- If its notional is exact, the order reserves what is asked of its command. -/
theorem requirement_cases {freshId : String}
    (create : create freshId command now = .ok order)
    (exact : Exact (Funds.reserveArithmetic order pair store now)) :
    (order.reservationRequirement pair = .ok none ∧ command.requirement pair = none) ∨
    ∃ asset amount, order.reservationRequirement pair = .ok (some (asset, amount)) ∧
      command.requirement pair = some (asset, amount.value) := by
  obtain ⟨-, rfl⟩ := create_iff.mp create
  unfold Funds.reserveArithmetic at exact
  unfold reservationRequirement OrderCommand.requirement
  dsimp only at *
  cases side : command.side with
  | sell => exact .inr ⟨_, _, rfl, rfl⟩
  | buy =>
      cases limit : command.limitPrice with
      | none => exact .inl ⟨rfl, rfl⟩
      | some price =>
          simp only [side, limit, List.cons_append, exact_cons_iff] at exact
          obtain ⟨notional, given, value⟩ := exact.1
          change command.quantity.mul price = .ok notional at given
          exact .inr ⟨pair.quote, notional, bind_ok_iff.mpr ⟨notional, given, rfl⟩, by rw [value]; rfl⟩

def creationEvent (order : Order) (id : String) (now : Instant) : OrderEvent where
  id := id
  orderId := order.id
  eventType := .created
  previousStatus := none
  status := .new
  details := .object [("instrument", .string order.instrument), ("side", Coded.toJson order.side),
    ("order_type", Coded.toJson order.orderType), ("quantity", order.quantity.toJson),
    ("limit_price", Json.ofOption Decimal.toJson order.limitPrice)]
  createdAt := now

end Order

namespace Funds

theorem reserveFor_none (required : order.reservationRequirement pair = .ok none) :
    (reserveFor order pair now).run store = .ok (none, store) := by
  simp only [reserveFor, Work.bind_ok]
  exact ⟨none, store, Work.lift_ok.mpr ⟨required, rfl⟩, rfl⟩

theorem reserveFor_some {asset : String} {amount : Decimal} {balance : WalletBalance}
    (required : order.reservationRequirement pair = .ok (some (asset, amount)))
    (taken : (store.balanceOf order.account asset now).reserve amount now = .ok balance)
    (free : store.activeReservation? order.id = none) :
    (reserveFor order pair now).run store = .ok (some balance,
      (store.withBalance balance).withNewReservation (.opened
        (Store.identifier (store.minted + 1)) order.account asset amount order.id now)) := by
  obtain ⟨positive, -, _, -, _, -, same⟩ := WalletBalance.reserve_ok.mp taken
  have keys := store.balanceOf_key order.account asset now
  have overwritten : (store.balanceOf order.account asset now).account = balance.account ∧
      (store.balanceOf order.account asset now).asset = balance.asset := by
    rw [← same]
    exact ⟨rfl, rfl⟩
  unfold reserveFor
  rw [Work.bind_ok]
  refine ⟨some (asset, amount), store, Work.lift_ok.mpr ⟨required, rfl⟩, ?_⟩
  simp only [Work.refuse_if_ok, Work.bind_ok, Work.failing_ok, Store.claimBalance_ok,
    Store.saveBalance_ok, Store.mint_ok, Store.insertReservation_ok, Work.pure_ok]
  have unheld : ¬(store.activeReservation? order.id).isSome = true := by simp [free]
  refine ⟨not_not.mpr (isPositive_iff_value.mpr positive), _, _, ⟨rfl, rfl⟩, balance, _,
    ⟨taken, rfl⟩, (), _, rfl, _, _, ⟨rfl, rfl⟩, (), _, ⟨fun both => unheld both.2, rfl⟩, rfl, ?_⟩
  rw [Store.withBalance_withBalance overwritten]
  rfl

end Funds

/-- From one store to the other, an amount of what an account has available is set aside for an
order. -/
structure Store.SetsAside (store after : Store) (order : Order) (asset : String) (amount : ℚ)
    (balance : WalletBalance) : Prop where
  balances : after.balances = putBalance balance store.balances
  key : balance.account = order.account ∧ balance.asset = asset
  available : balance.available.value = store.availableOf order.account asset - amount
  reserved : balance.reserved.value = store.reservedOf order.account asset + amount
  reservation : ∃ reservation, after.reservations = store.reservations ++ [reservation] ∧
    reservation.orderId = order.id ∧ reservation.account = order.account ∧
    reservation.asset = asset ∧ reservation.amount.value = amount ∧ reservation.status = .active

theorem Store.availableOf_withNewOrder (store : Store) (order : Order) (account asset : String) :
    (store.withNewOrder order).availableOf account asset = store.availableOf account asset := rfl

/-- The store after a new order: it is placed and noted in the audit trail, what it requires is set
aside, and it is announced before the balance that it took from. -/
structure Terms.Opened (terms : Terms) (command : OrderCommand) (pair : AssetPair) (now : Instant)
    (order : Order) (store after : Store) : Prop where
  made : Order.create (Store.identifier store.freshOrderNumber) command now = .ok order
  status : order.status = .new
  unfilled : order.filled = .zero
  absent : store.order? order.id = none
  orders : after.orders.Perm (order :: store.orders)
  audit : ∃ id, after.orderEvents = store.orderEvents ++ [order.creationEvent id now]
  executions : after.executions = store.executions
  ledger : after.ledger = store.ledger
  submitted : ∃ row number rest, after.outbox = store.outbox ++ row :: rest ∧
    row.Announces terms (OrderSubmitted.ofOrder order) number now ∧
    ((command.requirement pair = none ∧ after.balances = store.balances ∧
        after.reservations = store.reservations ∧ rest = []) ∨
      ∃ asset amount balance, command.requirement pair = some (asset, amount) ∧
        store.SetsAside after order asset amount balance ∧
        terms.AnnounceBalances [balance] "ORDER_RESERVED" order.id (number + 1) now rest)

namespace OrderCommand.Acceptable

variable (acceptable : command.Acceptable terms store)
  (create : Order.create (Store.identifier store.freshOrderNumber) command now = .ok order)
include acceptable create

theorem named : Text.isBlank order.id = false ∧ store.order? order.id = none := by
  obtain ⟨-, rfl⟩ := Order.create_iff.mp create
  cases chosen : command.orderId with
  | none => exact ⟨Store.identifier_visible _, store.order?_freshOrderNumber⟩
  | some id => exact acceptable.unused id chosen

theorem untaken : ¬store.ClientIdTaken order := by
  obtain ⟨-, rfl⟩ := Order.create_iff.mp create
  rintro ⟨clientOrderId, chosen, other, member, here, same⟩
  exact acceptable.unclaimed clientOrderId chosen other member here same

theorem submittable : (OrderSubmitted.ofOrder order).validate = .ok () := by
  have identity := (acceptable.named create).1
  obtain ⟨-, instrument, exchange, quantity, priced, -⟩ := validate_ok.mp acceptable.valid
  obtain ⟨-, rfl⟩ := Order.create_iff.mp create
  exact OrderSubmitted.validate_ok.mpr ⟨identity, AssetPair.canonical_visible instrument, exchange,
    quantity, (checkPrice_ok priced).1⟩

end OrderCommand.Acceptable

theorem Store.Backing.unheld (backing : store.Backing) (absent : store.order? order.id = none) :
    store.activeReservation? order.id = none := by
  have none := backing.owned order.id fun other member => order?_none absent member
  rw [activeReservation?_eq, none]
  rfl

/-- What an order requires is set aside, if the account has it available. -/
theorem Funds.reserveFor_accepts {freshId : String}
    (create : Order.create freshId command now = .ok order)
    (exact : Exact (reserveArithmetic order pair store now)) (solvent : store.Solvent)
    (free : store.activeReservation? order.id = none)
    (affordable : ∀ asset amount, command.requirement pair = some (asset, amount) →
      Text.isBlank asset = false ∧ amount ≤ store.availableOf order.account asset) :
    ∃ reserved funds, (reserveFor order pair now).run store = .ok (reserved, funds) ∧
      ((command.requirement pair = none ∧ reserved = none ∧ funds = store) ∨
        ∃ asset amount balance, command.requirement pair = some (asset, amount) ∧
          reserved = some balance ∧ Text.isBlank asset = false ∧ balance.Nonnegative ∧
          store.SetsAside funds order asset amount balance) := by
  obtain ⟨required, asked⟩ | ⟨asset, amount, required, asked⟩ :=
    Order.requirement_cases create exact
  · exact ⟨none, store, reserveFor_none required, .inl ⟨asked, rfl, rfl⟩⟩
  · obtain ⟨named, covered⟩ := affordable asset amount.value asked
    have positive := OrderCommand.requirement_positive (Order.create_iff.mp create).1 asked
    rw [reserveArithmetic, exact_append_iff, required] at exact
    have before := store.balanceOf_available order.account asset now
    obtain ⟨balance, taken⟩ := WalletBalance.reserve_exists exact.2 positive
      (by rw [before]; exact covered) now
    obtain ⟨available, reserved⟩ := WalletBalance.reserve_exact exact.2 taken
    obtain ⟨-, -, _, -, _, -, same⟩ := WalletBalance.reserve_ok.mp taken
    have keys := store.balanceOf_key order.account asset now
    refine ⟨some balance, _, reserveFor_some required taken free, .inr ⟨asset, amount.value,
      balance, asked, rfl, named,
      WalletBalance.reserve_nonnegative (solvent.balanceOf order.account asset now) taken, ?_⟩⟩
    refine ⟨rfl, by rw [← same]; exact keys, ?_, ?_, _, rfl, rfl, rfl, rfl, rfl, rfl⟩
    · rw [available, before]
    · rw [reserved, store.balanceOf_reserved]

theorem Terms.createOrder_run {reserved : Option WalletBalance} {funds announced : Store}
    (create : Order.create (Store.identifier store.freshOrderNumber) command now = .ok order)
    (listed : terms.catalog.assetPair order.instrument = some pair)
    (available : store.unitOutage = none) (absent : store.order? order.id = none)
    (untaken : ¬store.ClientIdTaken order)
    (reserve : (Funds.reserveFor order pair now).run (store.withNewOrder order) =
      .ok (reserved, funds))
    (announcing : (terms.announce (OrderSubmitted.ofOrder order) now).run (funds.recorded
      (order.creationEvent (Store.identifier (funds.minted + 1)) now)) = .ok ((), announced))
    (announcingBalances : (terms.announceBalances reserved.toList "ORDER_RESERVED" order.id
      now).run announced = .ok ((), after)) :
    (terms.createOrder command now).run store = .ok (order, after) := by
  simp only [createOrder, Work.bind_ok, Store.mintOrder_ok, Work.lift_ok]
  refine ⟨_, _, ⟨rfl, rfl⟩, order, _, ⟨create, rfl⟩, ?_⟩
  simp only [listed, Work.bind_ok, Work.start_ok, recordEvent_ok, Work.pure_ok, true_and]
  exact ⟨(), _, ⟨available, rfl⟩, (), store.withNewOrder order,
    Store.insertOrder_ok.mpr ⟨absent, untaken, rfl⟩, reserved, funds, reserve, (), _, rfl, (),
    announced, announcing, (), after, announcingBalances, rfl⟩

theorem Terms.createOrder_accepts (solvent : store.Solvent) (backing : store.Backing)
    (available : store.unitOutage = none)
    (exact : Exact (terms.createArithmetic command store now))
    (acceptable : command.Acceptable terms store) :
    ∃ order after pair, (terms.createOrder command now).run store = .ok (order, after) ∧
      terms.catalog.assetPair (AssetPair.canonical command.instrument) = some pair ∧
      terms.Opened command pair now order store after := by
  obtain ⟨pair, listed, affordable⟩ := acceptable.affordable
  obtain ⟨order, create⟩ : ∃ order,
      Order.create (Store.identifier store.freshOrderNumber) command now = .ok order :=
    ⟨_, Order.create_iff.mpr ⟨acceptable.valid, rfl⟩⟩
  obtain ⟨account, instrument⟩ : order.account = command.account ∧
      order.instrument = AssetPair.canonical command.instrument := by
    obtain ⟨-, rfl⟩ := Order.create_iff.mp create
    exact ⟨rfl, rfl⟩
  rw [← instrument] at listed ⊢
  rw [← account] at affordable
  have absent := (acceptable.named create).2
  have untaken := acceptable.untaken create
  rw [createArithmetic_eq create listed absent untaken] at exact
  -- The number of the order is handed out and the order placed before its funds are reserved.
  have placedSolvent : (store.withNewOrder order).Solvent := solvent
  obtain ⟨reserved, funds, reserve, kept⟩ :=
    Funds.reserveFor_accepts create exact placedSolvent (backing.unheld absent) affordable
  have owner := (OrderCommand.validate_ok.mp acceptable.valid).1
  have balances : ∀ balance ∈ reserved.toList, (Text.isBlank balance.account = false ∧
      Text.isBlank balance.asset = false) ∧ balance.Nonnegative := by
    obtain ⟨-, rfl, -⟩ | ⟨asset, amount, balance, -, rfl, named, nonneg, aside⟩ := kept
    · nofun
    · intro other member
      obtain rfl := List.mem_singleton.mp member
      rw [aside.key.1, aside.key.2, account]
      exact ⟨⟨owner, named⟩, nonneg⟩
  obtain ⟨announced, announcing⟩ := terms.announce_exists (OrderSubmitted.ofOrder order)
    (acceptable.submittable create) now
    (funds.recorded (order.creationEvent (Store.identifier (funds.minted + 1)) now))
  obtain ⟨after, announcingBalances⟩ := terms.announceBalances_exists "ORDER_RESERVED" order.id
    (fun balance member => (balances balance member).1)
    (fun balance member => (balances balance member).2) now announced
  have done := createOrder_run create listed available absent untaken reserve announcing
    announcingBalances
  obtain ⟨row, announces, rfl⟩ := announce_ok announcing
  obtain ⟨rows, announcesBalances, rfl⟩ := announceBalances_ok announcingBalances
  have moved := Funds.reserveFor_funds reserve
  obtain ⟨new, unfilled, -⟩ := Order.create_ok create
  refine ⟨order, _, pair, done, listed, create, new, unfilled, absent, ?_, ?_, moved.executions,
    moved.ledger, row, _, rows, ?_, announces, ?_⟩
  · change funds.orders.Perm _
    rw [moved.orders]
    exact Store.placeOrder_perm order store.orders
  · exact ⟨_, congrArg (· ++ _) moved.orderEvents⟩
  · change (funds.outbox ++ [row]) ++ rows = _
    rw [List.append_assoc, moved.outbox]
    rfl
  · obtain ⟨asked, rfl, rfl⟩ | ⟨asset, amount, balance, asked, rfl, -, -, aside⟩ := kept
    · exact .inl ⟨asked, rfl, rfl, List.forall₂_nil_left_iff.mp announcesBalances⟩
    · exact .inr ⟨asset, amount, balance, asked,
        ⟨aside.balances, aside.key, aside.available, aside.reserved, aside.reservation⟩,
        announcesBalances⟩

/-- What an order reserved, its account had available, and the asset could be announced. -/
theorem Funds.reserveFor_affordable {freshId asset : String} {amount : ℚ}
    {reserved : Option WalletBalance} {reason orderId : String} {number : Nat}
    {rows : List OutboxRow} (create : Order.create freshId command now = .ok order)
    (exact : Exact (reserveArithmetic order pair store now))
    (reserve : (reserveFor order pair now).run store = .ok (reserved, after))
    (announced : terms.AnnounceBalances reserved.toList reason orderId number now rows)
    (asked : command.requirement pair = some (asset, amount)) :
    Text.isBlank asset = false ∧ amount ≤ store.availableOf order.account asset := by
  obtain ⟨-, unasked⟩ | ⟨held, quantity, required, again⟩ := Order.requirement_cases create exact
  · rw [unasked] at asked
    contradiction
  · cases again.symm.trans asked
    obtain ⟨unrequired, -, -⟩ | ⟨_, _, balance, same, taken, rfl, -⟩ := reserveFor_cases reserve
    · cases required.symm.trans unrequired
    · cases required.symm.trans same
      obtain ⟨row, -, announces, -, -⟩ := List.forall₂_cons_left_iff.mp announced
      obtain ⟨-, named, -, -⟩ := BalanceUpdated.validate_ok.mp announces.validate
      obtain ⟨-, covered, _, -, _, -, rfl⟩ := WalletBalance.reserve_ok.mp taken
      have key : (store.balanceOf order.account asset now).asset = asset :=
        (store.balanceOf_key order.account asset now).2
      rw [store.balanceOf_available] at covered
      exact ⟨key ▸ named, covered⟩

theorem Terms.createOrder_acceptable (exact : Exact (terms.createArithmetic command store now))
    (done : (terms.createOrder command now).run store = .ok (order, after)) :
    command.Acceptable terms store := by
  cases createOrder_creates done with
  | @created pair reserved funds details submitted balanceRows create listed absent untaken reserve
      announced announcedBalances =>
      rw [createArithmetic_eq create listed absent untaken] at exact
      obtain ⟨valid, rfl⟩ := Order.create_iff.mp create
      refine ⟨valid, ?_, ?_, pair, listed, ?_⟩
      · intro id chosen
        obtain ⟨named, -⟩ := OrderSubmitted.validate_ok.mp announced.validate
        simp only [OrderSubmitted.ofOrder, chosen, Option.getD_some] at named absent
        exact ⟨named, absent⟩
      · intro clientOrderId chosen other member here same
        exact untaken ⟨clientOrderId, chosen, other, member, here, same⟩
      · intro asset amount asked
        have bounds := Funds.reserveFor_affordable create exact reserve announcedBalances asked
        rw [store.availableOf_withNewOrder] at bounds
        exact bounds

/-- A purchase at market reserves nothing. -/
theorem Terms.Opened.market (opened : terms.Opened command pair now order store after)
    (buys : command.side = .buy) (atMarket : command.orderType = .market) :
    after.balances = store.balances ∧ after.reservations = store.reservations := by
  obtain ⟨valid, -⟩ := Order.create_iff.mp opened.made
  obtain ⟨-, -, -, -, priced, -⟩ := OrderCommand.validate_ok.mp valid
  have unlimited : command.limitPrice = none := by
    have requires := (OrderCommand.checkPrice_ok priced).1
    rw [atMarket] at requires
    exact Option.isSome_eq_false_iff.mp requires.symm |> Option.isNone_iff_eq_none.mp
  obtain ⟨-, -, -, -, -, ⟨-, balances, reservations, -⟩ | ⟨asset, amount, -, asked, -⟩⟩ :=
    opened.submitted
  · exact ⟨balances, reservations⟩
  · simp [OrderCommand.requirement, buys, unlimited] at asked

/-- Along a run, an order is created if and only if its command is acceptable, if nothing rounds.
Then it is placed and noted, what it requires is set aside, and it is announced; a purchase at market
leaves all funds as they are. -/
theorem orders_are_created_exactly_if_acceptable (run : List Request)
    (nonneg : ∀ request ∈ run, request.Nonnegative) (terms : Terms) (command : OrderCommand)
    (now : Instant)
    (exact : Exact ((Call.create command).arithmetic terms now (Store.reached run))) :
    ((∃ order after, (Store.reached run).perform (terms.createOrder command now) =
        (.ok order, after)) ↔ command.Acceptable terms (Store.reached run)) ∧
    ∀ order after, (Store.reached run).perform (terms.createOrder command now) =
        (.ok order, after) →
      ∃ pair, terms.catalog.assetPair (AssetPair.canonical command.instrument) = some pair ∧
        terms.Opened command pair now order (Store.reached run) after ∧
        (command.side = .buy → command.orderType = .market →
          after.balances = (Store.reached run).balances ∧
            after.reservations = (Store.reached run).reservations) := by
  have funded : (Store.reached run).Funded := Store.afterAll_funded nonneg Store.empty_funded
  have accepts := Terms.createOrder_accepts funded.solvent funded.backing
    (Store.reached_available run) exact
  have acceptable : ∀ {order after}, (Store.reached run).perform (terms.createOrder command now) =
      (.ok order, after) → command.Acceptable terms (Store.reached run) :=
    fun done => Terms.createOrder_acceptable exact (Store.perform_ok_iff.mp done)
  refine ⟨⟨fun ⟨order, after, done⟩ => acceptable done, ?_⟩, ?_⟩
  · intro accepted
    obtain ⟨order, after, -, done, -⟩ := accepts accepted
    exact ⟨order, after, Store.perform_ok_iff.mpr done⟩
  · intro order after done
    obtain ⟨other, later, pair, again, listed, opened⟩ := accepts (acceptable done)
    obtain ⟨rfl, rfl⟩ := Prod.mk.inj
      (Except.ok.inj (again.symm.trans (Store.perform_ok_iff.mp done)))
    exact ⟨pair, listed, opened, opened.market⟩

theorem sample_purchase_is_created :
    (∀ request ∈ Sample.placed.take 1, request.Nonnegative) ∧
    Exact ((Call.create Sample.purchase).arithmetic Sample.terms Sample.start
      (Store.reached (Sample.placed.take 1))) ∧
    Sample.purchase.Acceptable Sample.terms (Store.reached (Sample.placed.take 1)) ∧
    ∃ order after, (Store.reached (Sample.placed.take 1)).perform
        (Sample.terms.createOrder Sample.purchase Sample.start) = (.ok order, after) ∧
      ∃ pair, Sample.terms.Opened Sample.purchase pair Sample.start order
        (Store.reached (Sample.placed.take 1)) after := by
  have nonneg : ∀ request ∈ Sample.placed.take 1, request.Nonnegative := by decide +kernel
  have exact : Exact ((Call.create Sample.purchase).arithmetic Sample.terms Sample.start
      (Store.reached (Sample.placed.take 1))) := by decide +kernel
  have succeeds : ∃ order, ((Store.reached (Sample.placed.take 1)).perform
      (Sample.terms.createOrder Sample.purchase Sample.start)).1 = .ok order ∧
        order.status = .new := by decide +kernel
  obtain ⟨created, effect⟩ := orders_are_created_exactly_if_acceptable (Sample.placed.take 1) nonneg
    Sample.terms Sample.purchase Sample.start exact
  generalize (Store.reached (Sample.placed.take 1)).perform
    (Sample.terms.createOrder Sample.purchase Sample.start) = outcome at created effect succeeds ⊢
  obtain ⟨result, after⟩ := outcome
  obtain ⟨order, rfl, -⟩ := succeeds
  obtain ⟨pair, -, opened, -⟩ := effect order after rfl
  exact ⟨nonneg, exact, created.mp ⟨order, after, rfl⟩, order, after, rfl, pair, opened⟩

end SpotSettlement
