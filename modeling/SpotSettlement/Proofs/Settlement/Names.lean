import SpotSettlement.Exchange.Order
import SpotSettlement.Proofs.Settlement.Progress

namespace SpotSettlement

/-! # The names by which reports find orders

An exchange tells of an order under its own number for it, or under the client order id that it was
told.  A report finds its order if no two orders of an exchange share such a name.  The store does
not see to that: an acknowledgement may bring a number or an exchange that another order has, and a
caller may choose the identifier of another order as client order id.  Nothing else can make two
orders share a name.
-/

open Decimal

namespace Order

variable {order other : Order}

/-- The orders are on one exchange, which knows them by one number, or was told one client order id
for both. -/
def SharesName (order other : Order) : Prop :=
  order.exchange = other.exchange ∧
    (order.outboundClientOrderId = other.outboundClientOrderId ∨
      order.exchangeOrderId ≠ none ∧ order.exchangeOrderId = other.exchangeOrderId)

theorem SharesName.symm (shares : order.SharesName other) : other.SharesName order := by
  obtain ⟨exchange, told | ⟨known, number⟩⟩ := shares
  · exact ⟨exchange.symm, .inl told.symm⟩
  · exact ⟨exchange.symm, .inr ⟨number ▸ known, number.symm⟩⟩

/-- The client order id that was chosen for the order is the identifier of the other, for which none
was chosen. -/
def Shadows (order other : Order) : Prop :=
  order.clientOrderId = some other.id ∧ other.clientOrderId = none

instance (order other : Order) : Decidable (order.Shadows other) :=
  inferInstanceAs (Decidable (_ ∧ _))

/-- If neither the identifiers nor the chosen client order ids of two orders are the same, the
exchange is told one client order id for both only if one was chosen that is an identifier. -/
theorem outboundClientOrderId_eq_iff (different : order.id ≠ other.id)
    (chosen : order.clientOrderId ≠ none → order.clientOrderId ≠ other.clientOrderId) :
    order.outboundClientOrderId = other.outboundClientOrderId ↔
      order.Shadows other ∨ other.Shadows order := by
  unfold outboundClientOrderId Shadows
  cases own : order.clientOrderId with
  | none =>
      cases others : other.clientOrderId with
      | none => simpa using different
      | some otherId => simp [eq_comm]
  | some id =>
      cases others : other.clientOrderId with
      | none => simp
      | some otherId =>
          rw [own, others] at chosen
          simpa using chosen nofun

end Order

namespace Store

variable {store after : Store} {order moved other : Order} {terms : Terms} {now : Instant}

/-- No two orders of an exchange share a name. -/
def NamesApart (store : Store) : Prop :=
  ∀ order ∈ store.orders, ∀ other ∈ store.orders, order.SharesName other → order = other

/-- Writing an order keeps the names apart if and only if no other order shares one with it. -/
theorem NamesApart.write_iff (apart : store.NamesApart)
    (written : ∀ row, row ∈ after.orders ↔ row = order ∨ row ∈ store.orders ∧ row.id ≠ order.id) :
    after.NamesApart ↔ ∀ other ∈ store.orders, other.id ≠ order.id → ¬order.SharesName other := by
  constructor
  · intro stillApart other member different shares
    have same := stillApart order ((written order).mpr (.inl rfl)) other
      ((written other).mpr (.inr ⟨member, different⟩)) shares
    exact different (congrArg Order.id same.symm)
  · intro none first firstMember second secondMember shares
    obtain rfl | ⟨firstMember, firstDiffers⟩ := (written first).mp firstMember <;>
      obtain rfl | ⟨secondMember, secondDiffers⟩ := (written second).mp secondMember
    · rfl
    · exact absurd shares (none second secondMember secondDiffers)
    · exact absurd shares.symm (none first firstMember firstDiffers)
    · exact apart first firstMember second secondMember shares

theorem NamesApart.replace_iff (apart : store.NamesApart) (member : order ∈ store.orders)
    (orders : after.orders = replaceOrder moved store.orders) (same : moved.id = order.id) :
    after.NamesApart ↔ ∀ other ∈ store.orders, other.id ≠ order.id → ¬moved.SharesName other := by
  rw [← same]
  apply apart.write_iff
  intro row
  rw [orders]
  exact mem_replaceOrder_iff member same.symm

/-- A change that leaves an order its names keeps them apart. -/
theorem NamesApart.keep (apart : store.NamesApart) (member : order ∈ store.orders)
    (orders : after.orders = replaceOrder moved store.orders) (same : moved.id = order.id)
    (exchange : moved.exchange = order.exchange)
    (number : moved.exchangeOrderId = order.exchangeOrderId)
    (told : moved.outboundClientOrderId = order.outboundClientOrderId) : after.NamesApart := by
  rw [apart.replace_iff member orders same]
  intro other present different shares
  unfold Order.SharesName at shares
  rw [exchange, number, told] at shares
  exact different (congrArg Order.id (apart order member other present shares)).symm

/-- On the exchange of the order there is another one, and the client order id that was chosen for
one of them is the identifier of the other. -/
def Shadowed (store : Store) (order : Order) : Prop :=
  ∃ other ∈ store.orders, other.exchange = order.exchange ∧
    (order.Shadows other ∨ other.Shadows order)

instance (store : Store) : DecidablePred store.Shadowed := fun order =>
  inferInstanceAs (Decidable (∃ other ∈ store.orders, other.exchange = order.exchange ∧ _))

/-- On the exchange there is another order, which has the number, or was told of under the client
order id of this one. -/
def NameTaken (store : Store) (order : Order) (exchange exchangeOrderId : String) : Prop :=
  ∃ other ∈ store.orders, other.id ≠ order.id ∧ other.exchange = exchange ∧
    (other.exchangeOrderId = some exchangeOrderId ∨
      other.outboundClientOrderId = order.outboundClientOrderId)

instance (store : Store) (order : Order) (exchange exchangeOrderId : String) :
    Decidable (store.NameTaken order exchange exchangeOrderId) :=
  inferInstanceAs (Decidable (∃ other ∈ store.orders, other.id ≠ order.id ∧ _ ∧ _))

theorem sharesName_new_iff (absent : store.order? order.id = none)
    (untaken : ¬store.ClientIdTaken order) (unnumbered : order.exchangeOrderId = none)
    (member : other ∈ store.orders) :
    order.SharesName other ↔
      other.exchange = order.exchange ∧ (order.Shadows other ∨ other.Shadows order) := by
  have different : order.id ≠ other.id := (order?_none absent member).symm
  have told : other.exchange = order.exchange →
      (order.outboundClientOrderId = other.outboundClientOrderId ↔
        order.Shadows other ∨ other.Shadows order) := by
    intro exchange
    apply Order.outboundClientOrderId_eq_iff different
    intro chosen same
    obtain ⟨id, own⟩ := Option.ne_none_iff_exists'.mp chosen
    exact untaken ⟨id, own, other, member, exchange, same.symm.trans own⟩
  simp only [Order.SharesName, unnumbered, ne_eq, not_true, false_and, or_false]
  rw [eq_comm]
  exact and_congr_right told

theorem NamesApart.creates_iff {command : OrderCommand} (apart : store.NamesApart)
    (creates : terms.Creates command now order store after) :
    after.NamesApart ↔ ¬store.Shadowed order := by
  obtain ⟨⟨freshId, create⟩, absent, untaken, orders⟩ := creates.places
  obtain ⟨-, -, unnumbered, -⟩ := Order.create_ok create
  have written : after.NamesApart ↔
      ∀ other ∈ store.orders, other.id ≠ order.id → ¬order.SharesName other := by
    apply apart.write_iff
    intro row
    rw [orders]
    exact mem_placeOrder_iff absent
  rw [written, Shadowed, not_exists]
  refine forall_congr' fun other => ?_
  rw [not_and]
  refine imp_congr_right fun member => ?_
  rw [sharesName_new_iff absent untaken unnumbered member]
  exact imp_iff_right (order?_none absent member)

theorem NamesApart.acknowledged_iff {exchange exchangeOrderId : String}
    {exchangeClientOrderId : Option String} {transition : Transition} (apart : store.NamesApart)
    (member : order ∈ store.orders)
    (given : order.acknowledge exchange exchangeOrderId exchangeClientOrderId now =
      .ok (some transition, moved)) (orders : after.orders = replaceOrder moved store.orders) :
    after.NamesApart ↔ ¬store.NameTaken order exchange exchangeOrderId := by
  obtain ⟨-, -, rfl⟩ := Order.acknowledge_ok given
  rw [apart.replace_iff member orders rfl, NameTaken]
  simp only [Order.SharesName, Order.outboundClientOrderId]
  constructor
  · rintro none ⟨other, present, different, elsewhere, number | told⟩
    · exact none other present different ⟨elsewhere.symm, .inr ⟨nofun, number.symm⟩⟩
    · exact none other present different ⟨elsewhere.symm, .inl told.symm⟩
  · rintro free other present different ⟨elsewhere, told | ⟨-, number⟩⟩
    · exact free ⟨other, present, different, elsewhere.symm, .inr told.symm⟩
    · exact free ⟨other, present, different, elsewhere.symm, .inl number.symm⟩

end Store

/-- A request that creates an order, or has one acknowledged, under a name that another order of the
exchange has. -/
def Request.Clashes (request : Request) (store : Store) : Prop :=
  match request with
  | .settle (.create command) terms now =>
    ∃ order, (store.perform (terms.createOrder command now)).1 = .ok order ∧ store.Shadowed order
  | .settle (.acknowledge orderId exchange exchangeOrderId exchangeClientOrderId) terms now =>
    ∃ transition, (store.perform (terms.acknowledgeOrder orderId exchange exchangeOrderId
        exchangeClientOrderId now)).1 = .ok transition ∧
      transition.isSome = true ∧
        ∃ order ∈ store.order? orderId, store.NameTaken order exchange exchangeOrderId
  | _ => False

instance (request : Request) (store : Store) : Decidable (request.Clashes store) :=
  match request with
  | .seed .. => inferInstanceAs (Decidable False)
  | .settle (.create _) _ _ => decidableSucceeds _ _
  | .settle (.acknowledge ..) _ _ => decidableSucceeds _ _
  | .settle (.cancel ..) _ _ | .settle (.reject ..) _ _ | .settle (.fill _) _ _
  | .settle (.status _) _ _ => inferInstanceAs (Decidable False)

namespace Sample

/-- Another purchase, for which no client order id is chosen. -/
def secondPurchase : OrderCommand :=
  { purchase with orderId := some "o-2", clientOrderId := none }

/-- Beside the acknowledged order a second one is placed. -/
def paired : List Request := acknowledged ++ [.settle (.create secondPurchase) terms start]

/-- The second order is acknowledged under the number of the first. -/
def confused : List Request :=
  paired ++ [.settle (.acknowledge "o-2" "binance" "x-1" none) terms start]

/-- A third order, for which the identifier of the second is chosen as client order id. -/
def shadow : OrderCommand :=
  { purchase with orderId := some "o-10", clientOrderId := some "o-2" }

def shadowed : List Request := paired ++ [.settle (.create shadow) terms start]

end Sample

namespace Store

variable {store after : Store} {order : Order} {terms : Terms} {now : Instant}
  {orderId exchange exchangeOrderId : String}

theorem createOrder_namesApart_iff {command : OrderCommand} (apart : store.NamesApart) :
    (store.perform (terms.createOrder command now)).2.NamesApart ↔
      ¬(Request.settle (.create command) terms now).Clashes store := by
  cases outcome : (store.perform (terms.createOrder command now)).1 with
  | error failure => simp [Request.Clashes, outcome, perform_error outcome, apart]
  | ok order =>
      rw [apart.creates_iff (Terms.createOrder_creates (perform_ok outcome))]
      simp [Request.Clashes, outcome]

theorem acknowledgeOrder_namesApart_iff {exchangeClientOrderId : Option String}
    (apart : store.NamesApart) :
    (store.perform (terms.acknowledgeOrder orderId exchange exchangeOrderId exchangeClientOrderId
        now)).2.NamesApart ↔
      ¬(Request.settle (.acknowledge orderId exchange exchangeOrderId exchangeClientOrderId) terms
        now).Clashes store := by
  cases outcome : (store.perform (terms.acknowledgeOrder orderId exchange exchangeOrderId
      exchangeClientOrderId now)).1 with
  | error failure => simp [Request.Clashes, outcome, perform_error outcome, apart]
  | ok value =>
      obtain ⟨order, moved, found, given, ⟨rfl, same⟩ | ⟨transition, rfl, moves⟩⟩ :=
        Terms.acknowledgeOrder_cases (perform_ok outcome)
      · simp [Request.Clashes, outcome, same, apart]
      · rw [apart.acknowledged_iff (order?_some found).1 given moves.orders]
        simp [Request.Clashes, outcome, found]

theorem cancelOrder_namesApart {moved : Order} {account : String} {reason : Option String}
    (apart : store.NamesApart)
    (done : (terms.cancelOrder orderId account reason now).run store = .ok (moved, after)) :
    after.NamesApart := by
  obtain ⟨order, transition, found, cancel, moves⟩ := Terms.cancelOrder_cases done
  obtain ⟨-, -, rfl⟩ := Order.close_ok (Order.cancel_ok cancel).2
  exact apart.keep (order?_some found).1 moves.orders rfl rfl rfl rfl

theorem rejectOrder_namesApart {moved : Order} {reason : String} (apart : store.NamesApart)
    (done : (terms.rejectOrder orderId reason now).run store = .ok (moved, after)) :
    after.NamesApart := by
  obtain ⟨order, transition, found, reject, moves⟩ := Terms.rejectOrder_cases done
  obtain ⟨-, -, rfl⟩ := Order.close_ok reject
  exact apart.keep (order?_some found).1 moves.orders rfl rfl rfl rfl

theorem processFill_namesApart {report : ExecutionReport} {outcome : IngestOutcome}
    (apart : store.NamesApart)
    (done : (terms.processFill report now).run store = .ok (outcome, after)) :
    after.NamesApart := by
  obtain ⟨-, -, ⟨-, -, rfl⟩ | ⟨order, resolved, ⟨-, -, rfl⟩ | ⟨-, fills⟩⟩⟩ :=
    Terms.processFill_cases done
  · exact apart
  · exact apart
  · obtain ⟨fill, moved, advance, orders, -⟩ := fills_orders fills
    obtain ⟨-, sum, next, -, -, -, rfl⟩ := Order.applyFill_ok advance
    exact apart.keep (Terms.resolveOrder?_mem resolved) orders rfl rfl rfl rfl

/-- A report that finds an order without a number tells of a number that no order has: it looks for
the number first. -/
theorem NamesApart.not_nameTaken {clientOrderId : Option String} (apart : store.NamesApart)
    (resolved : store.resolveOrder? exchange (some exchangeOrderId) clientOrderId = some order)
    (unnumbered : order.exchangeOrderId = none) :
    ¬store.NameTaken order exchange exchangeOrderId := by
  have member := Terms.resolveOrder?_mem resolved
  have here := (resolveOrder?_goesBy resolved).1
  rintro ⟨other, present, different, elsewhere, number | told⟩
  · cases lookup : store.orderByExchangeId? exchange exchangeOrderId with
    | none => exact orderByExchangeId?_none lookup present elsewhere number
    | some found =>
        have which : found = order := by
          simpa [resolveOrder?, lookup] using resolved
        have numbered := (orderByExchangeId?_some lookup).2.2
        rw [which, unnumbered] at numbered
        contradiction
  · have same := apart other present order member ⟨elsewhere.trans here.symm, .inl told⟩
    exact different (congrArg Order.id same)

/-- An order that is new has no number yet. -/
def Unnumbered (store : Store) : Prop :=
  ∀ order ∈ store.orders, order.status = .new → order.exchangeOrderId = none

theorem apply_unnumbered (request : Request) (unnumbered : store.Unnumbered) :
    (request.apply store).Unnumbered := by
  refine apply_forall_orders ?_ ?_ request unnumbered
  · intro _ _ _ order create _
    exact (Order.create_ok create).2.2.1
  · intro order moved becomes _ new
    exact absurd new (OrderStatus.ne_new_of_canBecome becomes.advances.legal)

theorem reached_unnumbered (run : List Request) : (reached run).Unnumbered :=
  afterAll_induction Unnumbered (List.forall_mem_nil _)
    fun request _ _ unnumbered => apply_unnumbered request unnumbered

theorem processStatus_namesApart {report : StatusReport} {outcome : ReconcileOutcome}
    (unique : (store.orders.map (·.id)).Nodup) (unnumbered : store.Unnumbered)
    (apart : store.NamesApart)
    (done : (terms.processStatus report now).run store = .ok (outcome, after)) :
    after.NamesApart := by
  obtain ⟨-, -, rfl⟩ | ⟨order, resolved, ⟨-, done⟩ | ⟨-, done⟩⟩ := Terms.processStatus_cases done
  · exact apart
  · obtain ⟨-, -, rfl⟩ | ⟨number, transition, told, new, done, -⟩ :=
      Terms.acknowledgeReported_cases done
    · exact apart
    · have member := Terms.resolveOrder?_mem resolved
      obtain ⟨found, moved, lookup, given, ⟨-, rfl⟩ | ⟨change, rfl, moves⟩⟩ :=
        Terms.acknowledgeOrder_cases done
      · exact apart
      · have which : found = order :=
          Option.some.inj (lookup.symm.trans (order?_of_mem unique member))
        rw [which] at given
        rw [told] at resolved
        rw [apart.acknowledged_iff member given moves.orders]
        exact apart.not_nameTaken resolved (unnumbered order member new)
  · obtain ⟨transition, moved, applied, ⟨-, -, rfl⟩ | ⟨change, rfl, -, moves⟩⟩ :=
      Terms.reconcileStatus_cases done
    · exact apart
    · obtain ⟨next, -, -, rfl⟩ := Order.applyReportedStatus_ok applied
      exact apart.keep (Terms.resolveOrder?_mem resolved) moves.orders rfl rfl rfl rfl

/-- A request keeps the names apart if and only if it does not clash. -/
theorem apply_namesApart_iff (request : Request) (unique : (store.orders.map (·.id)).Nodup)
    (unnumbered : store.Unnumbered) (apart : store.NamesApart) :
    (request.apply store).NamesApart ↔ ¬request.Clashes store := by
  cases request with
  | seed account asset amount now =>
      obtain ⟨balances, written⟩ := store.seed_tables account asset amount now
      rw [written]
      exact iff_of_true apart not_false
  | settle call terms now =>
      have keeps : ∀ {α : Type} {work : Work α},
          (∀ value after, work.run store = .ok (value, after) → after.NamesApart) →
            (store.perform work).2.NamesApart :=
        perform_keeps NamesApart apart
      cases call with
      | create command => exact createOrder_namesApart_iff apart
      | acknowledge orderId exchange exchangeOrderId exchangeClientOrderId =>
          exact acknowledgeOrder_namesApart_iff apart
      | cancel orderId account reason =>
          exact iff_of_true (keeps fun _ _ => cancelOrder_namesApart apart) not_false
      | reject orderId reason =>
          exact iff_of_true (keeps fun _ _ => rejectOrder_namesApart apart) not_false
      | fill report => exact iff_of_true (keeps fun _ _ => processFill_namesApart apart) not_false
      | status report =>
          exact iff_of_true (keeps fun _ _ => processStatus_namesApart unique unnumbered apart)
            not_false

theorem afterAll_namesApart {run : List Request} (identified : store.Identified)
    (unnumbered : store.Unnumbered) (apart : store.NamesApart)
    (avoids : store.Avoids Request.Clashes run) : (store.afterAll run).NamesApart := by
  induction run generalizing store with
  | nil => exact apart
  | cons request rest ih =>
      obtain ⟨first, others⟩ := avoids
      rw [afterAll_cons]
      exact ih (afterAll_identified identified [request]) (apply_unnumbered request unnumbered)
        ((apply_namesApart_iff request identified.orders unnumbered apart).mpr first) others

theorem NamesApart.resolve_number {id : String} (apart : store.NamesApart)
    (member : order ∈ store.orders) (number : order.exchangeOrderId = some id)
    (clientOrderId : Option String) :
    store.resolveOrder? order.exchange (some id) clientOrderId = some order := by
  cases lookup : store.orderByExchangeId? order.exchange id with
  | none => exact absurd number (orderByExchangeId?_none lookup member rfl)
  | some found =>
      obtain ⟨present, here, sameNumber⟩ := orderByExchangeId?_some lookup
      have known : found.exchangeOrderId ≠ none := by
        rw [sameNumber]
        nofun
      have which := apart found present order member
        ⟨here, .inr ⟨known, sameNumber.trans number.symm⟩⟩
      rw [resolveOrder?, Option.bind_some, lookup, which]
      rfl

theorem NamesApart.resolve_told (apart : store.NamesApart) (member : order ∈ store.orders)
    (alone : ∀ other ∈ store.orders, other.exchange = order.exchange →
      other.exchangeClientOrderId = some order.outboundClientOrderId → other = order) :
    store.resolveOrder? order.exchange none (some order.outboundClientOrderId) = some order := by
  have named : order.GoesBy order.exchange none (some order.outboundClientOrderId) :=
    ⟨rfl, .inr ⟨_, rfl, .inr rfl⟩⟩
  obtain ⟨found, lookup⟩ := resolveOrder?_isSome member named
  have present := Terms.resolveOrder?_mem lookup
  obtain ⟨here, ⟨_, absent, -⟩ | ⟨id, asked, known⟩⟩ := resolveOrder?_goesBy lookup
  · contradiction
  · rw [← Option.some.inj asked] at known
    obtain given | told := known
    · rw [lookup, alone found present here given]
    · rw [lookup, apart found present order member ⟨here, .inl told⟩]

/-- As long as no two orders of an exchange share a name, a request makes two share one if and only
if it clashes; so in a run without clashes none do.  Then a report with the number of an order finds
the order, and so does a report with the client order id that the exchange was told, unless the
exchange gave that to another order. -/
theorem reports_find_their_order (run : List Request) :
    ((reached run).NamesApart → ∀ request : Request,
      ((request.apply (reached run)).NamesApart ↔ ¬request.Clashes (reached run))) ∧
    (({} : Store).Avoids Request.Clashes run → (reached run).NamesApart) ∧
    ((reached run).NamesApart → ∀ order ∈ (reached run).orders,
      (∀ (id : String) (clientOrderId : Option String), order.exchangeOrderId = some id →
        (reached run).resolveOrder? order.exchange (some id) clientOrderId = some order) ∧
      ((∀ other ∈ (reached run).orders, other.exchange = order.exchange →
          other.exchangeClientOrderId = some (PlaceOrderRequest.ofOrder order).clientOrderId →
          other = order) →
        (reached run).resolveOrder? order.exchange none
          (some (PlaceOrderRequest.ofOrder order).clientOrderId) = some order)) := by
  have identified := afterAll_identified empty_identified run
  have unnumbered := reached_unnumbered run
  refine ⟨?_, ?_, ?_⟩
  · intro apart request
    exact apply_namesApart_iff request identified.orders unnumbered apart
  · intro avoids
    exact afterAll_namesApart empty_identified (List.forall_mem_nil _) (List.forall_mem_nil _)
      avoids
  · intro apart order member
    refine ⟨?_, apart.resolve_told member⟩
    intro id clientOrderId number
    exact apart.resolve_number member number clientOrderId

/-- A report with the number of the first order finds it, whatever client order id comes along, and
one that has only the identifier of the second finds that. -/
theorem sample_reports_find_both_orders :
    ({} : Store).Avoids Request.Clashes Sample.paired ∧ (reached Sample.paired).NamesApart ∧
    (∃ order ∈ (reached Sample.paired).orders, order.id = "o-1" ∧
      (reached Sample.paired).resolveOrder? order.exchange (some "x-1") (some "o-2") =
        some order) ∧
    ∃ order ∈ (reached Sample.paired).orders, order.id = "o-2" ∧
      (PlaceOrderRequest.ofOrder order).clientOrderId = "o-2" ∧
      (reached Sample.paired).resolveOrder? order.exchange none
        (some (PlaceOrderRequest.ofOrder order).clientOrderId) = some order := by
  have avoids : ({} : Store).Avoids Request.Clashes Sample.paired := by decide +kernel
  have apart := (reports_find_their_order Sample.paired).2.1 avoids
  have finds := (reports_find_their_order Sample.paired).2.2 apart
  have first : ∃ order ∈ (reached Sample.paired).orders, order.id = "o-1" ∧
      order.exchangeOrderId = some "x-1" := by
    decide +kernel
  have second : ∃ order ∈ (reached Sample.paired).orders, order.id = "o-2" ∧
      (PlaceOrderRequest.ofOrder order).clientOrderId = "o-2" := by
    decide +kernel
  have unnamed : ∀ other ∈ (reached Sample.paired).orders, other.exchangeClientOrderId = none := by
    decide +kernel
  refine ⟨avoids, apart, ?_, ?_⟩
  · obtain ⟨order, member, id, number⟩ := first
    exact ⟨order, member, id, (finds order member).1 "x-1" (some "o-2") number⟩
  · obtain ⟨order, member, id, told⟩ := second
    refine ⟨order, member, id, told, (finds order member).2 ?_⟩
    intro other present _ given
    rw [unnamed other present] at given
    exact absurd given nofun

/-- An acknowledgement may give the number of one order to another, and a caller may choose the
identifier of an order as the client order id of another: a report that tells of the second then
finds the first. -/
theorem sample_orders_share_names :
    (∃ order ∈ (reached Sample.confused).orders, ∃ other ∈ (reached Sample.confused).orders,
      order.id ≠ other.id ∧ order.exchange = other.exchange ∧
        order.exchangeOrderId = some "x-1" ∧ other.exchangeOrderId = some "x-1") ∧
    ∃ order ∈ (reached Sample.shadowed).orders, ∃ other ∈ (reached Sample.shadowed).orders,
      order.id = "o-2" ∧ other.id = "o-10" ∧ order.exchange = other.exchange ∧
        order.outboundClientOrderId = other.outboundClientOrderId ∧
        (∀ row ∈ (reached Sample.shadowed).orders, row.exchangeClientOrderId = none) ∧
        (reached Sample.shadowed).resolveOrder? order.exchange none
          (some (PlaceOrderRequest.ofOrder order).clientOrderId) = some other := by
  decide +kernel

end Store

end SpotSettlement
