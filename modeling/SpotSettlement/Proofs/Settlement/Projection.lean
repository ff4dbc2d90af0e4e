import SpotSettlement.Proofs.Settlement.AuditTrail
import SpotSettlement.Proofs.Settlement.BalanceWrites
import SpotSettlement.Proofs.Settlement.Submissions

namespace SpotSettlement

/-! # What the outbox shows of orders and balances

A reader of the outbox sees every order from its submission to where it stands, each change of it
once in brief and then in full, and sees every balance that a call has written as it stands.  What a
row shows are the members of the event that it carries.
-/

open Decimal

namespace OutboxRow

/-- A member of the body of the event. -/
def member? (row : OutboxRow) (name : String) : Option Json :=
  (row.payload.get? "payload").bind (·.get? name)

/-- Whether the row is of a family of events, in a version of its schema. -/
def isOf (row : OutboxRow) (eventType : EventType) (version : Nat) : Bool :=
  row.eventType == eventType && row.version == version

/-- The row shows a change of status. -/
structure Changes (row : OutboxRow) (before after : OrderStatus) : Prop where
  previousStatus : row.member? "previous_status" = some (Coded.toJson before)
  status : row.member? "status" = some (Coded.toJson after)

/-- The row shows how far an order has come, and its names at the exchange. -/
structure Shows (row : OutboxRow) (order : Order) : Prop where
  status : row.member? "status" = some (Coded.toJson order.status)
  filled : row.member? "filled_quantity" = some order.filled.toJson
  remaining : ∃ remaining, order.remaining = .ok remaining ∧
    row.member? "remaining_quantity" = some remaining.toJson
  exchange : row.member? "exchange_name" = some (.string order.exchange)
  exchangeOrderId : row.member? "exchange_order_id" =
    some (Json.ofOption .string order.exchangeOrderId)

/-- The row shows in brief what the other shows in full: of the same order, the same status, filled
quantity and time of the change. -/
structure Precedes (brief full : OutboxRow) : Prop where
  version : brief.isOf .orderUpdated 1 = true
  subject : brief.aggregateId = full.aggregateId
  same : ∀ name ∈ ["order_id", "account_id", "status", "filled_quantity", "updated_at"],
    ∃ value, brief.member? name = some value ∧ full.member? name = some value

/-- Every row that shows a change in full comes right after one that shows it in brief. -/
def Paired (rows : List OutboxRow) : Prop :=
  ∀ before row after, rows = before ++ row :: after → row.isOf .orderUpdated 2 = true →
    ∃ earlier brief, before = earlier ++ [brief] ∧ brief.Precedes row

structure ShowsBalance (row : OutboxRow) (balance : WalletBalance) : Prop where
  eventType : row.eventType = .balanceUpdated
  account : row.member? "account_id" = some (.string balance.account)
  asset : row.member? "asset" = some (.string balance.asset)
  available : row.member? "available" = some balance.available.toJson
  reserved : row.member? "reserved" = some balance.reserved.toJson

/-- The rows show these balances, and nothing else. -/
structure ShowBalances (rows : List OutboxRow) (balances : List WalletBalance) : Prop where
  each : ∀ balance ∈ balances, ∃ row ∈ rows, row.ShowsBalance balance
  only : ∀ row ∈ rows, ∃ balance ∈ balances, row.ShowsBalance balance

/-- Whether the row is about the balance of an account in an asset. -/
def isAbout (row : OutboxRow) (account asset : String) : Bool :=
  row.eventType == .balanceUpdated && (row.member? "account_id").bind Json.string? == some account &&
    (row.member? "asset").bind Json.string? == some asset

variable {row brief full : OutboxRow} {rows first second : List OutboxRow}

theorem isOf_of_eventType {eventType : EventType} (given : row.eventType = eventType)
    (other : eventType ≠ .orderUpdated) (version : Nat) :
    row.isOf .orderUpdated version = false := by
  simp [isOf, given, other]

theorem ShowsBalance.isAbout_iff {balance : WalletBalance} {account asset : String}
    (shown : row.ShowsBalance balance) :
    row.isAbout account asset = true ↔ balance.account = account ∧ balance.asset = asset := by
  simp [isAbout, shown.eventType, shown.account, shown.asset, Json.string?]

theorem Paired.of_none (none : ∀ row ∈ rows, row.isOf .orderUpdated 2 = false) : Paired rows := by
  rintro before row after rfl full
  have other := none row (by simp)
  rw [full] at other
  contradiction

theorem Precedes.paired (precedes : brief.Precedes full) : Paired [brief, full] := by
  intro before row after same version
  cases before with
  | nil =>
      obtain rfl : brief = row := (List.cons.inj same).1
      have brief := precedes.version
      simp_all [isOf]
  | cons other earlier =>
      cases earlier with
      | nil =>
          obtain ⟨rfl, rest⟩ := List.cons.inj same
          obtain rfl : full = row := (List.cons.inj rest).1
          exact ⟨[], brief, rfl, precedes⟩
      | cons another earlier => simp at same

theorem Paired.append (paired : Paired first) (further : Paired second) :
    Paired (first ++ second) := by
  intro before row after same version
  obtain ⟨between, rfl, rfl⟩ | ⟨between, rfl, rest⟩ := List.append_eq_append_iff.mp same
  · obtain ⟨earlier, brief, rfl, precedes⟩ := further between row after rfl version
    exact ⟨first ++ earlier, brief, (List.append_assoc ..).symm, precedes⟩
  · cases between with
    | nil =>
        obtain ⟨earlier, brief, none, -⟩ := further [] row after rest.symm version
        simp at none
    | cons head between =>
        obtain ⟨rfl, rfl⟩ := List.cons.inj rest
        exact paired before row between rfl version

namespace Announces

variable {P : Type} [EventPayload P] {terms : Terms} {payload : P} {number : Nat} {now : Instant}

theorem member?_eq (announces : row.Announces terms payload number now) (name : String) :
    row.member? name = (EventPayload.toJson payload).get? name := by
  obtain ⟨-, -, -, -, -, -, -, envelope⟩ := announces.cases
  rw [member?, envelope]
  simp [EventEnvelope.toJson, Json.get?, Json.members]

theorem isOf (announces : row.Announces terms payload number now) :
    row.isOf (EventPayload.schema P).eventType (EventPayload.schema P).version = true := by
  simp only [Announces, OutboxRow.ofPayload, bind_ok_iff, pure_ok_iff] at announces
  obtain ⟨_, -, rfl⟩ := announces
  simp [OutboxRow.isOf]

end Announces

end OutboxRow

namespace Terms

variable {terms : Terms} {order : Order} {previousStatus : OrderStatus} {reason : Option String}
  {now : Instant} {balances : List WalletBalance} {rows : List OutboxRow} {number : Nat}

theorem AnnounceOrder.shows
    (announce : terms.AnnounceOrder order previousStatus reason number now rows) :
    ∃ brief full, rows = [brief, full] ∧ brief.Precedes full ∧ full.isOf .orderUpdated 2 = true ∧
      full.aggregateId = order.id ∧ full.Changes previousStatus order.status ∧ full.Shows order := by
  obtain ⟨brief, full, body, rfl, first, made, second⟩ := announce
  simp only [OrderChange.ofOrder, bind_ok_iff, pure_ok_iff] at made
  obtain ⟨remaining, left, rfl⟩ := made
  have subject := second.cases.2.2.2.2.1
  refine ⟨brief, full, rfl, ?_, second.isOf, subject, ?_, ?_⟩
  · refine ⟨first.isOf, first.cases.2.2.2.2.1.trans subject.symm, ?_⟩
    intro name listed
    rw [first.member?_eq, second.member?_eq]
    simp only [List.mem_cons, List.not_mem_nil, or_false] at listed
    obtain rfl | rfl | rfl | rfl | rfl := listed <;> exact ⟨_, rfl, rfl⟩
  · constructor <;> rw [second.member?_eq] <;> rfl
  · constructor
    case remaining => exact ⟨remaining, left, by rw [second.member?_eq]; rfl⟩
    all_goals rw [second.member?_eq]; rfl

theorem AnnounceBalances.shows {orderId reason : String}
    (announce : terms.AnnounceBalances balances reason orderId number now rows) :
    OutboxRow.ShowBalances rows balances := by
  unfold AnnounceBalances at announce
  induction balances generalizing number rows with
  | nil =>
      obtain rfl := List.forall₂_nil_left_iff.mp announce
      exact ⟨List.forall_mem_nil _, List.forall_mem_nil _⟩
  | cons balance rest ih =>
      rw [List.zipIdx_cons] at announce
      obtain ⟨row, others, first, later, rfl⟩ := List.forall₂_cons_left_iff.mp announce
      have shown : row.ShowsBalance balance := by
        constructor
        case eventType => exact first.eventType
        all_goals rw [first.member?_eq]; rfl
      have further := ih later
      constructor
      case each =>
        refine List.forall_mem_cons.mpr ⟨⟨row, List.mem_cons_self, shown⟩, ?_⟩
        intro other member
        obtain ⟨found, listed, shows⟩ := further.each other member
        exact ⟨found, List.mem_cons_of_mem row listed, shows⟩
      case only =>
        refine List.forall_mem_cons.mpr ⟨⟨balance, List.mem_cons_self, shown⟩, ?_⟩
        intro other listed
        obtain ⟨found, member, shows⟩ := further.only other listed
        exact ⟨found, List.mem_cons_of_mem balance member, shows⟩

end Terms

open OutboxRow

namespace Store

variable {store after : Store} {filling : Option ExecutionReport} {operations : List Operation}
  {order moved : Order} {account asset id : String} {balances : List WalletBalance}
  {first rows : List OutboxRow} {submitted brief full : OutboxRow}

/-- The rows that show the changes of an order in full. -/
def changesOf (store : Store) (id : String) : List OutboxRow :=
  store.outbox.filter fun row => row.isOf .orderUpdated 2 && row.aggregateId == id

def balanceRowsOf (store : Store) (account asset : String) : List OutboxRow :=
  store.outbox.filter (·.isAbout account asset)

/-- What a step adds to the outbox, beside what it does to orders and balances. -/
inductive Publishes (store after : Store) : Prop where
  | nothing (same : after = store)
  | submitted {order : Order} {submitted : OutboxRow} {balances : List WalletBalance}
      {rows : List OutboxRow} (new : order.status = .new) (absent : store.order? order.id = none)
      (submits : submitted.eventType = .orderSubmitted) (subject : submitted.aggregateId = order.id)
      (orders : after.orders = placeOrder order store.orders)
      (writes : store.Writes after balances)
      (shown : ShowBalances rows balances)
      (outbox : after.outbox = store.outbox ++ ([submitted] ++ rows))
  | changed {order moved : Order} {first : List OutboxRow} {brief full : OutboxRow}
      {balances : List WalletBalance} {rows : List OutboxRow} (member : order ∈ store.orders)
      (named : moved.id = order.id) (others : ∀ row ∈ first, row.eventType = .executionRecorded)
      (precedes : brief.Precedes full) (version : full.isOf .orderUpdated 2 = true)
      (subject : full.aggregateId = order.id) (changes : full.Changes order.status moved.status)
      (shows : full.Shows moved) (orders : after.orders = replaceOrder moved store.orders)
      (writes : store.Writes after balances)
      (shown : ShowBalances rows balances)
      (outbox : after.outbox = store.outbox ++ (first ++ [brief, full] ++ rows))

theorem Step.publishes (step : store.Step filling operations after)
    (unique : (store.reservations.map (·.id)).Nodup) (backing : store.Backing) :
    store.Publishes after := by
  cases step with
  | idle => exact .nothing rfl
  | created create absent _ reserve announced announcedBalances =>
      have funds := Funds.reserveFor_funds reserve
      have writes := Funds.reserveFor_writes reserve
      exact .submitted (Order.create_ok create).1 absent announced.eventType
        announced.cases.2.2.2.2.1 funds.orders ⟨writes.written, writes.kept⟩ announcedBalances.shows
        (congrArg (· ++ ([_] ++ _)) funds.outbox)
  | moved _ member change close announced announcedBalances =>
      have funds := Terms.releaseIfClosed_funds close
      have writes := Terms.releaseIfClosed_writes close
      have named := change.advances.id
      obtain ⟨rfl, -⟩ := change.transition_eq
      obtain ⟨brief, full, rfl, precedes, version, subject, changes, shows⟩ := announced.shows
      exact .changed member named (List.forall_mem_nil _) precedes version (subject.trans named)
        changes shows funds.orders ⟨writes.written, writes.kept⟩ announcedBalances.shows
        (congrArg (· ++ ([] ++ [_, _] ++ _)) funds.outbox)
  | filled resolved _ fills =>
      have member := Terms.resolveOrder?_mem resolved
      cases fills with
      | applied _ _ netted settle _ advance close _ announced announcedOrder announcedBalances =>
          have settled := Funds.settleFill_funds settle
          have closed := Terms.releaseIfClosed_funds close
          have named := (Order.applyFill_advances advance).id
          have writes := Terms.settled_writes settle (FillEconomics.netDeltas_nodup netted) unique
            (backing.backed _ member) named close
          rw [Order.applyFill_transition advance] at announcedOrder
          obtain ⟨brief, full, rfl, precedes, version, subject, changes, shows⟩ :=
            announcedOrder.shows
          refine .changed member named ?_ precedes version (subject.trans named) changes shows
            (closed.orders.trans (congrArg (replaceOrder _) settled.orders))
            ⟨writes.written, writes.kept⟩ announcedBalances.shows
            (congrArg (· ++ ([_] ++ [_, _] ++ _)) (closed.outbox.trans settled.outbox))
          intro row listed
          rw [List.mem_singleton.mp listed]
          exact announced.eventType

/-- Every order is submitted in one row, and its changes lead to where it stands.  Where there is no
order nothing is shown. -/
structure ShowsOrders (store : Store) : Prop where
  submitted : ∀ id, (store.submissionsOf id).length = (store.orders.map (·.id)).count id
  walk : ∀ order ∈ store.orders,
    OrderStatus.Walk OutboxRow.Changes .new (store.changesOf order.id) order.status
  latest : ∀ order ∈ store.orders, ∀ row ∈ (store.changesOf order.id).getLast?, row.Shows order
  only : ∀ id, (∀ order ∈ store.orders, order.id ≠ id) → store.changesOf id = []
  paired : Paired store.outbox

theorem empty_showsOrders : ({} : Store).ShowsOrders where
  submitted _ := rfl
  walk := List.forall_mem_nil _
  latest := List.forall_mem_nil _
  only _ _ := rfl
  paired := .of_none (List.forall_mem_nil _)

theorem submissionsOf_append (outbox : after.outbox = store.outbox ++ rows) (id : String) :
    after.submissionsOf id = store.submissionsOf id ++
      rows.filter fun row => row.eventType == .orderSubmitted && row.aggregateId == id := by
  rw [submissionsOf, outbox, List.filter_append, submissionsOf]

theorem changesOf_append (outbox : after.outbox = store.outbox ++ rows) (id : String) :
    after.changesOf id = store.changesOf id ++
      rows.filter fun row => row.isOf .orderUpdated 2 && row.aggregateId == id := by
  rw [changesOf, outbox, List.filter_append, changesOf]

theorem changesOf_others (outbox : after.outbox = store.outbox ++ rows)
    (others : ∀ row ∈ rows, row.isOf .orderUpdated 2 = false) (id : String) :
    after.changesOf id = store.changesOf id := by
  rw [changesOf_append outbox, List.filter_eq_nil_iff.mpr (by simp_all), List.append_nil]

/-- A new order is shown by the row that submits it. -/
theorem ShowsOrders.submit (shows : store.ShowsOrders) (new : order.status = .new)
    (absent : store.order? order.id = none) (submits : submitted.eventType = .orderSubmitted)
    (subject : submitted.aggregateId = order.id)
    (balances : ∀ row ∈ rows, row.eventType = .balanceUpdated)
    (orders : after.orders = placeOrder order store.orders)
    (outbox : after.outbox = store.outbox ++ ([submitted] ++ rows)) : after.ShowsOrders := by
  have others : ∀ row ∈ [submitted] ++ rows, row.isOf .orderUpdated 2 = false := by
    intro row member
    obtain first | later := List.mem_append.mp member
    · rw [List.mem_singleton.mp first]
      exact isOf_of_eventType submits (by decide) 2
    · exact isOf_of_eventType (balances row later) (by decide) 2
  have same := changesOf_others outbox others
  constructor
  case submitted =>
    intro id
    have none : rows.filter (fun row => row.eventType == .orderSubmitted &&
        row.aggregateId == id) = [] := List.filter_eq_nil_iff.mpr (by simp_all)
    rw [submissionsOf_append outbox, List.length_append, shows.submitted id, orders,
      ((placeOrder_perm order store.orders).map (·.id)).count_eq, List.map_cons, List.count_cons,
      List.filter_append, none]
    by_cases here : order.id = id <;> simp [submits, subject, here]
  case walk =>
    intro other member
    rw [orders, mem_placeOrder_iff absent] at member
    rw [same]
    obtain rfl | ⟨earlier, -⟩ := member
    · rw [shows.only _ fun other => order?_none absent, new]
      exact .done .new
    · exact shows.walk other earlier
  case latest =>
    intro other member
    rw [orders, mem_placeOrder_iff absent] at member
    rw [same]
    obtain rfl | ⟨earlier, -⟩ := member
    · rw [shows.only _ fun other => order?_none absent, List.getLast?_nil]
      exact fun row last => absurd last (Option.not_mem_none row)
    · exact shows.latest other earlier
  case only =>
    intro id unknown
    rw [orders] at unknown
    rw [same]
    exact shows.only id fun other member => unknown other (mem_placeOrder.mpr (.inr member))
  case paired =>
    rw [outbox]
    exact shows.paired.append (.of_none others)

/-- A change of an order is shown where its last change was, in brief and in full. -/
theorem ShowsOrders.change (shows : store.ShowsOrders) (member : order ∈ store.orders)
    (named : moved.id = order.id) (others : ∀ row ∈ first, row.eventType = .executionRecorded)
    (precedes : brief.Precedes full) (version : full.isOf .orderUpdated 2 = true)
    (subject : full.aggregateId = order.id) (changes : full.Changes order.status moved.status)
    (shown : full.Shows moved) (balances : ∀ row ∈ rows, row.eventType = .balanceUpdated)
    (orders : after.orders = replaceOrder moved store.orders)
    (outbox : after.outbox = store.outbox ++ (first ++ [brief, full] ++ rows)) :
    after.ShowsOrders := by
  have before : ∀ row ∈ first, row.isOf .orderUpdated 2 = false := fun row listed =>
    isOf_of_eventType (others row listed) (by decide) 2
  have behind : ∀ row ∈ rows, row.isOf .orderUpdated 2 = false := fun row listed =>
    isOf_of_eventType (balances row listed) (by decide) 2
  have short : brief.isOf .orderUpdated 2 = false := by
    have one := precedes.version
    simp_all [isOf]
  have grown : ∀ id, after.changesOf id =
      store.changesOf id ++ if order.id = id then [full] else [] := by
    intro id
    have early : first.filter (fun row => row.isOf .orderUpdated 2 && row.aggregateId == id) = [] :=
      List.filter_eq_nil_iff.mpr (by simp_all)
    have late : rows.filter (fun row => row.isOf .orderUpdated 2 && row.aggregateId == id) = [] :=
      List.filter_eq_nil_iff.mpr (by simp_all)
    rw [changesOf_append outbox, List.filter_append, List.filter_append, early, late]
    by_cases same : order.id = id <;> simp [short, version, subject, same]
  constructor
  case submitted =>
    intro id
    have none : (first ++ [brief, full] ++ rows).filter (fun row =>
        row.eventType == .orderSubmitted && row.aggregateId == id) = [] := by
      have one := precedes.version
      simp only [isOf, Bool.and_eq_true, beq_iff_eq] at one version
      refine List.filter_eq_nil_iff.mpr fun row listed => ?_
      simp only [List.mem_append, List.mem_cons, List.not_mem_nil, or_false] at listed
      obtain (listed | rfl | rfl) | listed := listed
      · simp [others row listed]
      · simp [one.1]
      · simp [version.1]
      · simp [balances row listed]
    rw [submissionsOf_append outbox, none, List.append_nil, orders, map_id_replaceOrder]
    exact shows.submitted id
  case walk =>
    intro other present
    rw [orders, mem_replaceOrder_iff member named.symm] at present
    rw [grown]
    obtain rfl | ⟨earlier, different⟩ := present
    · rw [named, if_pos rfl]
      exact (shows.walk order member).concat changes
    · rw [if_neg (named ▸ different.symm), List.append_nil]
      exact shows.walk other earlier
  case latest =>
    intro other present row last
    rw [orders, mem_replaceOrder_iff member named.symm] at present
    rw [grown] at last
    obtain rfl | ⟨earlier, different⟩ := present
    · rw [named, if_pos rfl, List.getLast?_concat, Option.mem_some_iff] at last
      exact last ▸ shown
    · rw [if_neg (named ▸ different.symm), List.append_nil] at last
      exact shows.latest other earlier row last
  case only =>
    intro id unknown
    rw [orders] at unknown
    have elsewhere : ¬order.id = id := by
      rw [← named]
      exact unknown moved (mem_replaceOrder_self member named.symm)
    rw [grown, if_neg elsewhere, List.append_nil]
    exact shows.only id (absent_of_replaceOrder unknown)
  case paired =>
    rw [outbox]
    exact shows.paired.append
      (((Paired.of_none before).append precedes.paired).append (.of_none behind))

theorem Publishes.showsOrders (publishes : store.Publishes after) (shows : store.ShowsOrders) :
    after.ShowsOrders := by
  have balances : ∀ {balances : List WalletBalance} {rows : List OutboxRow},
      ShowBalances rows balances → ∀ row ∈ rows, row.eventType = .balanceUpdated := by
    intro balances rows shown row listed
    obtain ⟨balance, -, shows⟩ := shown.only row listed
    exact shows.eventType
  cases publishes with
  | nothing same => exact same ▸ shows
  | submitted new absent submits subject orders _ shown outbox =>
      exact shows.submit new absent submits subject (balances shown) orders outbox
  | changed member named others precedes version subject changes fullShows orders _ shown outbox =>
      exact shows.change member named others precedes version subject changes fullShows
        (balances shown) orders outbox

/-- The last row about a balance shows it as it stands. -/
def ShowsLast (store : Store) (account asset : String) : Prop :=
  ∃ balance row, store.balance? account asset = some balance ∧
    (store.balanceRowsOf account asset).getLast? = some row ∧ row.ShowsBalance balance

/-- A balance is left alone and not shown, or shown as it stands. -/
theorem Writes.shown_or_kept (writes : store.Writes after balances)
    (shown : ShowBalances rows balances)
    (grown : after.balanceRowsOf account asset =
      store.balanceRowsOf account asset ++ rows.filter (·.isAbout account asset)) :
    (after.balance? account asset = store.balance? account asset ∧
      after.balanceRowsOf account asset = store.balanceRowsOf account asset) ∨
    after.ShowsLast account asset := by
  cases last : (rows.filter (·.isAbout account asset)).getLast? with
  | none =>
      have none := List.getLast?_eq_none_iff.mp last
      refine .inl ⟨writes.kept account asset ?_, by rw [grown, none, List.append_nil]⟩
      intro balance member sameAccount sameAsset
      obtain ⟨row, listed, shows⟩ := shown.each balance member
      have about := shows.isAbout_iff.mpr ⟨sameAccount, sameAsset⟩
      exact List.filter_eq_nil_iff.mp none row listed about
  | some row =>
      obtain ⟨listed, about⟩ := List.mem_filter.mp (List.mem_of_getLast? last)
      obtain ⟨balance, member, shows⟩ := shown.only row listed
      obtain ⟨rfl, rfl⟩ := shows.isAbout_iff.mp about
      refine .inr ⟨balance, row, writes.written balance member, ?_, shows⟩
      rw [grown, List.getLast?_append, last]
      rfl

theorem Publishes.shown_or_kept (publishes : store.Publishes after) (account asset : String) :
    (after.balance? account asset = store.balance? account asset ∧
      after.balanceRowsOf account asset = store.balanceRowsOf account asset) ∨
    after.ShowsLast account asset := by
  have others : ∀ {first rows : List OutboxRow}, (∀ row ∈ first, row.eventType ≠ .balanceUpdated) →
      after.outbox = store.outbox ++ (first ++ rows) → after.balanceRowsOf account asset =
        store.balanceRowsOf account asset ++ rows.filter (·.isAbout account asset) := by
    intro first rows other outbox
    have none : first.filter (·.isAbout account asset) = [] :=
      List.filter_eq_nil_iff.mpr fun row listed => by simp [isAbout, other row listed]
    rw [balanceRowsOf, outbox, List.filter_append, List.filter_append, none]
    rfl
  cases publishes with
  | nothing same => exact .inl (same ▸ ⟨rfl, rfl⟩)
  | submitted _ _ submits _ _ writes shown outbox =>
      refine writes.shown_or_kept shown (others ?_ outbox)
      intro row listed
      rw [List.mem_singleton.mp listed, submits]
      decide
  | changed _ _ executions precedes version _ _ _ _ writes shown outbox =>
      refine writes.shown_or_kept shown (others ?_ outbox)
      have short := precedes.version
      simp only [isOf, Bool.and_eq_true, beq_iff_eq] at short version
      intro row listed
      simp only [List.mem_append, List.mem_cons, List.not_mem_nil, or_false] at listed
      obtain listed | rfl | rfl := listed
      · rw [executions row listed]
        decide
      · rw [short.1]
        decide
      · rw [version.1]
        decide

/-- The outbox shows the orders, and reservations belong to them. -/
structure Projected (store : Store) : Prop where
  identified : store.Identified
  backing : store.Backing
  shows : store.ShowsOrders

theorem empty_projected : ({} : Store).Projected :=
  ⟨empty_identified, empty_funded.backing, empty_showsOrders⟩

theorem Projected.publishes (projected : store.Projected)
    (step : store.Step filling operations after) : store.Publishes after :=
  step.publishes projected.identified.reservations.1 projected.backing

theorem Projected.step (projected : store.Projected)
    (step : store.Step filling operations after) : after.Projected where
  identified := step.identified projected.identified
  backing := step.backing projected.identified.reservations projected.backing
  shows := (projected.publishes step).showsOrders projected.shows

theorem Projected.withBalances (projected : store.Projected) (balances : List WalletBalance) :
    ({ store with balances } : Store).Projected :=
  have ⟨identified, ⟨priced, backed, owned⟩, ⟨submitted, walk, latest, only, paired⟩⟩ := projected
  ⟨identified.withBalances balances, ⟨priced, backed, owned⟩,
    ⟨submitted, walk, latest, only, paired⟩⟩

theorem Projected.afterAll (projected : store.Projected) (run : List Request) :
    (store.afterAll run).Projected :=
  afterAll_induction Projected projected fun request _ _ projected =>
    apply_induction Projected request projected (fun balances earlier => earlier.withBalances balances)
      fun step earlier => earlier.step step

end Store

def Request.IsCall : Request → Prop
  | .seed .. => False
  | .settle .. => True

instance : DecidablePred Request.IsCall
  | .seed .. => inferInstanceAs (Decidable False)
  | .settle .. => inferInstanceAs (Decidable True)

namespace Store

variable {store : Store} {account asset : String} {request : Request} {run : List Request}

theorem Projected.shown_or_kept (projected : store.Projected) (calls : request.IsCall)
    (account asset : String) :
    ((request.apply store).balance? account asset = store.balance? account asset ∧
      (request.apply store).balanceRowsOf account asset = store.balanceRowsOf account asset) ∨
    (request.apply store).ShowsLast account asset := by
  cases request with
  | seed => contradiction
  | settle call terms now =>
      exact (projected.publishes (call.step terms now store)).shown_or_kept account asset

theorem Projected.shows_last (projected : store.Projected) (calls : ∀ request ∈ run, request.IsCall)
    (shown : store.ShowsLast account asset) : (store.afterAll run).ShowsLast account asset := by
  induction run generalizing store with
  | nil => exact shown
  | cons request rest ih =>
      obtain ⟨call, calls⟩ := List.forall_mem_cons.mp calls
      rw [afterAll_cons]
      refine ih (projected.afterAll [request]) calls ?_
      obtain ⟨balance, rows⟩ | again := projected.shown_or_kept call account asset
      · unfold ShowsLast
        rw [balance, rows]
        exact shown
      · exact again

/-- The outbox shows orders and balances as they are.  Every order is submitted in one row, and its
changes, each shown in brief and right after it in full, lead from `new` to where the order stands,
the last of them showing all of it.  If a run ends in calls only, the last row about a balance that
one of these calls has changed or added shows it as it stands. -/
theorem outbox_shows_orders_and_balances (run calls : List Request)
    (settling : ∀ request ∈ calls, request.IsCall) :
    (∀ order ∈ (reached (run ++ calls)).orders,
      (∃ row, (reached (run ++ calls)).submissionsOf order.id = [row]) ∧
      OrderStatus.Walk OutboxRow.Changes .new ((reached (run ++ calls)).changesOf order.id)
        order.status ∧
      ∀ row ∈ ((reached (run ++ calls)).changesOf order.id).getLast?, row.Shows order) ∧
    Paired (reached (run ++ calls)).outbox ∧
    ∀ account asset earlier call later, calls = earlier ++ call :: later →
      (reached (run ++ earlier ++ [call])).balance? account asset ≠
        (reached (run ++ earlier)).balance? account asset →
      (reached (run ++ calls)).ShowsLast account asset := by
  have projected := empty_projected.afterAll (run ++ calls)
  have shows := projected.shows
  refine ⟨?_, shows.paired, ?_⟩
  · intro order member
    refine ⟨?_, shows.walk order member, shows.latest order member⟩
    have once := shows.submitted order.id
    rw [List.count_eq_one_of_mem projected.identified.orders (List.mem_map_of_mem member)] at once
    exact List.length_eq_one_iff.mp once
  · rintro account asset earlier call later rfl changed
    obtain ⟨-, last⟩ := List.forall_mem_append.mp settling
    obtain ⟨calling, calls⟩ := List.forall_mem_cons.mp last
    have before := empty_projected.afterAll (run ++ earlier)
    have whole : reached (run ++ (earlier ++ call :: later)) =
        (reached (run ++ earlier ++ [call])).afterAll later := by
      simp only [reached, afterAll_append, afterAll_cons]
      rfl
    have one : reached (run ++ earlier ++ [call]) = call.apply (reached (run ++ earlier)) :=
      afterAll_append ({} : Store) (run ++ earlier) [call]
    rw [one] at whole changed
    rw [whole]
    refine (before.afterAll [call]).shows_last calls ?_
    exact (before.shown_or_kept calling account asset).resolve_left fun kept => changed kept.1

theorem sample_outbox_shows_order_and_balance :
    (∀ request ∈ Sample.canceled.tail, request.IsCall) ∧
    (reached Sample.canceled).ShowsLast "a-1" "USDT" ∧
    ∃ order ∈ (reached Sample.canceled).orders, order.status = .canceled ∧
      ((reached Sample.canceled).changesOf order.id).length = 3 ∧
      OrderStatus.Walk OutboxRow.Changes .new ((reached Sample.canceled).changesOf order.id)
        .canceled := by
  have calls : ∀ request ∈ Sample.canceled.tail, request.IsCall := by decide
  have closed : ∃ order ∈ (reached Sample.canceled).orders, order.status = .canceled ∧
      ((reached Sample.canceled).changesOf order.id).length = 3 := by
    decide +kernel
  have whole : Sample.placed.take 1 ++ Sample.canceled.tail = Sample.canceled := rfl
  have split : Sample.canceled.tail = [] ++
      .settle (.create Sample.purchase) Sample.terms Sample.start :: Sample.canceled.tail.tail := rfl
  obtain ⟨orders, -, balances⟩ := outbox_shows_orders_and_balances (Sample.placed.take 1)
    Sample.canceled.tail calls
  rw [whole] at orders balances
  have shown : (reached Sample.canceled).ShowsLast "a-1" "USDT" := by
    refine balances "a-1" "USDT" [] _ _ split ?_
    decide +kernel
  obtain ⟨order, member, status, three⟩ := closed
  have walk := (orders order member).2.1
  rw [status] at walk
  exact ⟨calls, shown, order, member, status, three, walk⟩

end Store

end SpotSettlement
