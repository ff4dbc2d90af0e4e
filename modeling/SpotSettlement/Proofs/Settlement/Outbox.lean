import SpotSettlement.Proofs.Settlement.Identities
import SpotSettlement.Proofs.Store.Outbox

namespace SpotSettlement

/-! # What requests add to the outbox

A request adds rows to the end of the outbox and leaves the others alone.  The rows it adds have
fresh identifiers and are as they were made.  Among them is one of a submitted order if the request
creates an order, else none.
-/

open Decimal

namespace Store

variable {store middle after : Store} {rows first second : List OutboxRow} {number : Nat}

/-- The rows are as they were made, and have the identifiers from a number on. -/
structure Numbered (number : Nat) (rows : List OutboxRow) : Prop where
  ids : rows.map (·.id) = (List.range' number rows.length).map identifier
  made : ∀ row ∈ rows, row.asMade = row

theorem Numbered.append (numbered : Numbered number first)
    (further : Numbered (number + first.length) second) : Numbered number (first ++ second) where
  ids := by
    rw [List.map_append, numbered.ids, further.ids, List.length_append, ← List.map_append,
      List.range'_append_1]
  made row member := (List.mem_append.mp member).elim (numbered.made row) (further.made row)

end Store

open Store

namespace OutboxRow.Announces

variable {P : Type} [EventPayload P] {row : OutboxRow} {terms : Terms} {payload : P} {number : Nat}
  {now : Instant}

theorem asMade_eq (announces : row.Announces terms payload number now) : row.asMade = row := by
  simp only [Announces, OutboxRow.ofPayload, bind_ok_iff, pure_ok_iff] at announces
  obtain ⟨_, -, rfl⟩ := announces
  rfl

theorem numbered (announces : row.Announces terms payload number now) : Numbered number [row] where
  ids := congrArg (fun id => [id]) announces.cases.2.1
  made other member := by
    rw [List.mem_singleton.mp member]
    exact announces.asMade_eq

end OutboxRow.Announces

namespace Terms

variable {terms : Terms} {rows : List OutboxRow} {number : Nat} {now : Instant}

theorem AnnounceOrder.numbered {order : Order} {previousStatus : OrderStatus}
    {reason : Option String}
    (announce : terms.AnnounceOrder order previousStatus reason number now rows) :
    Numbered number rows := by
  obtain ⟨progress, change, body, rfl, first, -, second⟩ := announce
  exact first.numbered.append second.numbered

theorem AnnounceBalances.numbered {balances : List WalletBalance} {reason orderId : String}
    (announce : terms.AnnounceBalances balances reason orderId number now rows) :
    Numbered number rows := by
  unfold AnnounceBalances at announce
  induction balances generalizing number rows with
  | nil =>
      obtain rfl := List.forall₂_nil_left_iff.mp announce
      exact ⟨rfl, by simp⟩
  | cons balance rest ih =>
      rw [List.zipIdx_cons] at announce
      obtain ⟨row, others, first, later, rfl⟩ := List.forall₂_cons_left_iff.mp announce
      exact first.numbered.append (ih later)

end Terms

namespace Store

variable {store middle after : Store} {rows first second : List OutboxRow} {number : Nat}

/-- One store has the rows of the other, and rows after them as they were made. -/
structure AddsRows (store after : Store) (rows : List OutboxRow) : Prop where
  outbox : after.outbox = store.outbox ++ rows
  later : store.minted ≤ after.minted
  fresh : ∀ row ∈ rows, ∃ number, store.minted < number ∧ number ≤ after.minted ∧
    row.id = identifier number
  distinct : (rows.map (·.id)).Nodup
  made : ∀ row ∈ rows, row.asMade = row

theorem AddsRows.unsent (adds : store.AddsRows after rows) :
    ∀ row ∈ rows, row.status = .new ∧ row.attempts = 0 := by
  intro row member
  rw [← adds.made row member]
  exact ⟨rfl, rfl⟩

theorem AddsRows.none (outbox : after.outbox = store.outbox)
    (later : store.minted ≤ after.minted) : store.AddsRows after [] :=
  ⟨by rw [outbox, List.append_nil], later, by simp, .nil, by simp⟩

theorem AddsRows.trans (adds : store.AddsRows middle first)
    (further : middle.AddsRows after second) : store.AddsRows after (first ++ second) where
  outbox := by rw [further.outbox, adds.outbox, List.append_assoc]
  later := Nat.le_trans adds.later further.later
  fresh row member := by
    have first := adds.later
    have second := further.later
    obtain member | member := List.mem_append.mp member
    · obtain ⟨number, above, below, id⟩ := adds.fresh row member
      exact ⟨number, above, by omega, id⟩
    · obtain ⟨number, above, below, id⟩ := further.fresh row member
      exact ⟨number, by omega, below, id⟩
  distinct := by
    rw [List.map_append, List.nodup_append]
    refine ⟨adds.distinct, further.distinct, ?_⟩
    intro id member other later same
    obtain ⟨row, present, rfl⟩ := List.mem_map.mp member
    obtain ⟨new, added, rfl⟩ := List.mem_map.mp later
    obtain ⟨number, above, below, named⟩ := adds.fresh row present
    obtain ⟨next, beyond, limit, called⟩ := further.fresh new added
    rw [named, called] at same
    have := identifier_injective same
    omega
  made row member := (List.mem_append.mp member).elim (adds.made row) (further.made row)

theorem AddsRows.issued (adds : store.AddsRows after rows)
    (issued : store.Issued (store.outbox.map (·.id))) :
    after.Issued (after.outbox.map (·.id)) := by
  rw [adds.outbox, List.map_append]
  constructor
  · rw [List.nodup_append]
    refine ⟨issued.1, adds.distinct, ?_⟩
    intro id member other later same
    obtain ⟨row, added, rfl⟩ := List.mem_map.mp later
    obtain ⟨number, above, -, named⟩ := adds.fresh row added
    exact (issued.2 id member).ne_identifier above (same.trans named)
  · intro id member
    obtain earlier | listed := List.mem_append.mp member
    · exact (issued.2 id earlier).mono adds.later
    · obtain ⟨row, added, rfl⟩ := List.mem_map.mp listed
      obtain ⟨number, -, below, named⟩ := adds.fresh row added
      exact ⟨number, below, named⟩

theorem announced_addsRows (outbox : middle.outbox = store.outbox)
    (minted : store.minted ≤ middle.minted) (numbered : Numbered (middle.minted + 1) rows) :
    store.AddsRows (middle.announced rows) rows where
  outbox := congrArg (· ++ rows) outbox
  later := Nat.le_trans minted (Nat.le_add_right _ _)
  fresh row member := by
    have listed := List.mem_map_of_mem member (f := (·.id))
    rw [numbered.ids, List.mem_map] at listed
    obtain ⟨number, between, named⟩ := listed
    rw [List.mem_range'_1] at between
    refine ⟨number, by omega, ?_, named.symm⟩
    change number ≤ middle.minted + rows.length
    omega
  distinct := by
    rw [numbered.ids]
    exact (List.nodup_range' 1 Nat.one_pos).map identifier_injective
  made := numbered.made

end Store

namespace Terms

variable {terms : Terms} {store after : Store} {now : Instant} {filling : Option ExecutionReport}
  {operations : List Operation}

theorem Creates.addsRows {command : OrderCommand} {order : Order}
    (creates : terms.Creates command now order store after) :
    ∃ row rest number, store.AddsRows after (row :: rest) ∧
      row.Announces terms (OrderSubmitted.ofOrder order) number now ∧
      (∀ row ∈ rest, row.eventType ≠ .orderSubmitted) ∧ order.createdAt = now ∧
      store.order? order.id = none ∧ after.orders = placeOrder order store.orders := by
  cases creates with
  | @created _ _ funds _ submitted balanceRows create _ absent _ reserve announced
      announcedBalances =>
      have moved := Funds.reserveFor_funds reserve
      have bound : store.minted < store.freshOrderNumber := minted_lt_freshOrderNumber store
      have minted : store.freshOrderNumber ≤ funds.minted := moved.minted
      have numbered := announced.numbered.append announcedBalances.numbered
      refine ⟨submitted, balanceRows, _, ?_, announced, ?_, Order.create_createdAt create, absent,
        moved.orders⟩
      · exact announced_addsRows moved.outbox (Nat.le_succ_of_le (bound.le.trans minted)) numbered
      · intro row member
        rw [announcedBalances.eventType row member]
        decide

theorem Moves.addsRows {eventType : OrderEventType} {transition : Transition} {moved : Order}
    (moves : terms.Moves now eventType transition moved store after) :
    ∃ rows, store.AddsRows after rows ∧ ∀ row ∈ rows, row.eventType ≠ .orderSubmitted := by
  cases moves with
  | @moved _ funds _ _ orderRows _ _ close announced announcedBalances =>
      have moved := releaseIfClosed_funds close
      have minted : store.minted ≤ funds.minted := moved.minted
      have next : funds.minted + 1 + orderRows.length + 1 =
        funds.minted + 2 + orderRows.length := by omega
      have numbered := announced.numbered.append (next ▸ announcedBalances.numbered)
      refine ⟨_, announced_addsRows moved.outbox (Nat.le_succ_of_le minted) numbered, ?_⟩
      intro row member
      obtain member | member := List.mem_append.mp member
      · rw [announced.eventType row member]
        decide
      · rw [announcedBalances.eventType row member]
        decide

theorem Fills.addsRows {order : Order} {report : ExecutionReport} {outcome : IngestOutcome}
    (fills : terms.Fills order report now store outcome after) :
    ∃ rows, store.AddsRows after rows ∧ ∀ row ∈ rows, row.eventType ≠ .orderSubmitted := by
  cases fills with
  | @applied _ _ _ _ settled _ _ _ _ closed _ _ orderRows _ _ _ _ settle _ _ close _ announced
      announcedOrder announcedBalances =>
      have paid := Funds.settleFill_funds settle
      have released := releaseIfClosed_funds close
      have first : store.minted + 1 ≤ settled.minted := paid.minted
      have second : settled.minted + 1 ≤ closed.minted := released.minted
      have next : closed.minted + 2 + orderRows.length + 1 =
        closed.minted + 3 + orderRows.length := by omega
      have numbered := announced.numbered.append
        (announcedOrder.numbered.append (next ▸ announcedBalances.numbered))
      refine ⟨_, announced_addsRows (released.outbox.trans paid.outbox) ?_ numbered, ?_⟩
      · change store.minted ≤ closed.minted + 1
        omega
      · intro row member
        simp only [List.mem_append, List.mem_singleton] at member
        obtain rfl | member | member := member
        · rw [announced.eventType]
          decide
        · rw [announcedOrder.eventType row member]
          decide
        · rw [announcedBalances.eventType row member]
          decide

/-- A call adds rows of which none is of a submitted order and keeps which orders there are, or it
creates an order and adds a row of it first. -/
theorem Effect.outbox_cases (effect : terms.Effect now store filling operations after) :
    (∃ rows, store.AddsRows after rows ∧ (∀ row ∈ rows, row.eventType ≠ .orderSubmitted) ∧
      after.orders.map (·.id) = store.orders.map (·.id)) ∨
    ∃ row rest order number, store.AddsRows after (row :: rest) ∧
      row.Announces terms (OrderSubmitted.ofOrder order) number now ∧
      (∀ row ∈ rest, row.eventType ≠ .orderSubmitted) ∧ order.createdAt = now ∧
      store.order? order.id = none ∧ after.orders = placeOrder order store.orders := by
  cases effect with
  | idle => exact .inl ⟨[], .none rfl (Nat.le_refl _), List.forall_mem_nil _, rfl⟩
  | created creates =>
      obtain ⟨row, rest, number, adds⟩ := creates.addsRows
      exact .inr ⟨row, rest, _, number, adds⟩
  | moved member change moves =>
      obtain ⟨rows, adds, others⟩ := moves.addsRows
      refine .inl ⟨rows, adds, others, ?_⟩
      rw [moves.orders, map_id_replaceOrder]
  | filled _ resolved _ fills =>
      obtain ⟨_, moved, -, orders, -⟩ := fills_orders fills
      obtain ⟨rows, adds, others⟩ := fills.addsRows
      refine .inl ⟨rows, adds, others, ?_⟩
      rw [orders, map_id_replaceOrder]

end Terms

namespace Store

variable {store : Store}

theorem apply_addsRows (request : Request) (store : Store) :
    ∃ rows, store.AddsRows (request.apply store) rows := by
  cases request with
  | seed account asset amount now =>
      obtain ⟨balances, written⟩ := store.seed_tables account asset amount now
      rw [written]
      exact ⟨[], .none rfl (Nat.le_refl _)⟩
  | settle call terms now =>
      obtain ⟨rows, adds, -⟩ | ⟨row, rest, order, number, adds, -⟩ :=
        (call.effect terms now store).outbox_cases
      · exact ⟨rows, adds⟩
      · exact ⟨row :: rest, adds⟩

theorem afterAll_addsRows (run : List Request) (store : Store) :
    ∃ rows, store.AddsRows (store.afterAll run) rows := by
  induction run generalizing store with
  | nil => exact ⟨[], .none rfl (Nat.le_refl _)⟩
  | cons request rest ih =>
      obtain ⟨first, adds⟩ := apply_addsRows request store
      obtain ⟨second, further⟩ := ih (request.apply store)
      exact ⟨first ++ second, adds.trans further⟩

end Store

theorem OutboxRow.Announces.createdAt {P : Type} [EventPayload P] {row : OutboxRow} {terms : Terms}
    {payload : P} {number : Nat} {now : Instant}
    (announces : row.Announces terms payload number now) : row.createdAt = now := by
  simp only [Announces, ofPayload, bind_ok_iff, pure_ok_iff] at announces
  obtain ⟨_, -, rfl⟩ := announces
  rfl

namespace Terms

variable {terms : Terms} {store after : Store} {now : Instant} {rows : List OutboxRow}
  {number : Nat} {filling : Option ExecutionReport} {operations : List Operation}

theorem AnnounceOrder.createdAt {order : Order} {previousStatus : OrderStatus}
    {reason : Option String}
    (announce : terms.AnnounceOrder order previousStatus reason number now rows) :
    ∀ row ∈ rows, row.createdAt = now := by
  obtain ⟨progress, change, body, rfl, first, -, second⟩ := announce
  simp [first.createdAt, second.createdAt]

theorem AnnounceBalances.createdAt {balances : List WalletBalance} {reason orderId : String}
    (announce : terms.AnnounceBalances balances reason orderId number now rows) :
    ∀ row ∈ rows, row.createdAt = now := by
  unfold AnnounceBalances at announce
  generalize balances.zipIdx number = numbered at announce
  induction announce with
  | nil => simp
  | cons first _ ih => exact List.forall_mem_cons.mpr ⟨first.createdAt, ih⟩

/-- The rows that a call adds are made at the moment of the call. -/
theorem Effect.rows_createdAt (effect : terms.Effect now store filling operations after)
    (adds : after.outbox = store.outbox ++ rows) : ∀ row ∈ rows, row.createdAt = now := by
  cases effect with
  | idle =>
      obtain rfl := List.self_eq_append_right.mp adds
      simp
  | created creates =>
      cases creates with
      | created _ _ _ _ reserve announced announcedBalances =>
          have kept := (Funds.reserveFor_funds reserve).outbox
          obtain rfl := List.append_cancel_left ((congrArg (· ++ _) kept).symm.trans adds)
          simp only [List.forall_mem_append, List.forall_mem_singleton]
          exact ⟨announced.createdAt, announcedBalances.createdAt⟩
  | moved _ _ moves =>
      cases moves with
      | moved _ close announced announcedBalances =>
          have kept := (releaseIfClosed_funds close).outbox
          obtain rfl := List.append_cancel_left ((congrArg (· ++ _) kept).symm.trans adds)
          exact List.forall_mem_append.mpr ⟨announced.createdAt, announcedBalances.createdAt⟩
  | filled _ _ _ fills =>
      cases fills with
      | applied _ _ _ settle _ _ close _ announced announcedOrder announcedBalances =>
          have kept := (releaseIfClosed_funds close).outbox.trans
            (Funds.settleFill_funds settle).outbox
          obtain rfl := List.append_cancel_left ((congrArg (· ++ _) kept).symm.trans adds)
          simp only [List.forall_mem_append, List.forall_mem_singleton]
          exact ⟨announced.createdAt, announcedOrder.createdAt, announcedBalances.createdAt⟩

end Terms

namespace Store

/-- The rows that requests add are each made at the moment of one of them. -/
theorem afterAll_createdAt (run : List Request) {store : Store} {rows : List OutboxRow}
    (adds : (store.afterAll run).outbox = store.outbox ++ rows) :
    ∀ row ∈ rows, ∃ call terms, Request.settle call terms row.createdAt ∈ run := by
  induction run generalizing store rows with
  | nil =>
      obtain rfl := List.self_eq_append_right.mp adds
      simp
  | cons request rest ih =>
      obtain ⟨first, added⟩ := apply_addsRows request store
      obtain ⟨second, further⟩ := afterAll_addsRows rest (request.apply store)
      have both : rows = first ++ second := by
        have whole : (store.afterAll (request :: rest)).outbox = _ := further.outbox
        rw [added.outbox, List.append_assoc, adds] at whole
        exact List.append_cancel_left whole
      subst both
      refine List.forall_mem_append.mpr ⟨?_, ?_⟩
      · intro row member
        cases request with
        | seed account asset amount now =>
            obtain ⟨balances, written⟩ := store.seed_tables account asset amount now
            have none := added.outbox
            rw [written] at none
            obtain rfl := List.self_eq_append_right.mp none
            contradiction
        | settle call terms now =>
            have made := (call.effect terms now store).rows_createdAt added.outbox row member
            exact ⟨call, terms, made ▸ List.mem_cons_self⟩
      · intro row member
        obtain ⟨call, terms, listed⟩ := ih further.outbox row member
        exact ⟨call, terms, List.mem_cons_of_mem _ listed⟩

end Store

end SpotSettlement
