import Mathlib.Data.List.Forall2
import SpotSettlement.Proofs.Store.Identifiers
import SpotSettlement.Proofs.Store.Orders
import SpotSettlement.Proofs.Store.Wallets
import SpotSettlement.Settlement.Ingestion

namespace SpotSettlement

/-! # Other identifiers

Ingestion names the rows that it adds by identifiers that are handed out to it.  Which ones it gets
makes no difference: from stores that are the same but for such names a report is ingested alike,
and the stores are still the same but for the names.
-/

/-- Names on either side that stand for the same. -/
abbrev Naming := List (String × String)

namespace Naming

variable {naming more : Naming} {name other : String}

/-- The names are the same, or stand for the same. -/
def Same (naming : Naming) (name other : String) : Prop := name = other ∨ (name, other) ∈ naming

theorem Same.mono (grown : naming ⊆ more) (same : naming.Same name other) : more.Same name other :=
  same.imp_right fun member => grown member

/-- No name stands for two names. -/
def OneToOne (naming : Naming) : Prop :=
  (naming.map (·.1)).Nodup ∧ (naming.map (·.2)).Nodup

end Naming

/-- The values are the same but for strings that are names. -/
inductive Json.Renamed (naming : Naming) : Json → Json → Prop
  | same (value : Json) : Renamed naming value value
  | name {name other : String} (named : (name, other) ∈ naming) :
    Renamed naming (.string name) (.string other)
  | member {value other : Json} (front : List (String × Json)) (key : String)
    (rest : List (String × Json)) (renamed : Renamed naming value other) :
    Renamed naming (.object (front ++ (key, value) :: rest))
      (.object (front ++ (key, other) :: rest))
  | trans {value middle other : Json} (first : Renamed naming value middle)
    (second : Renamed naming middle other) : Renamed naming value other

variable {naming more : Naming}

theorem Json.Renamed.mono (grown : naming ⊆ more) {value other : Json}
    (renamed : value.Renamed naming other) : value.Renamed more other := by
  induction renamed with
  | same value => exact .same value
  | name named => exact .name (grown named)
  | member front key rest _ ih => exact .member front key rest ih
  | trans _ _ first second => exact .trans first second

def Execution.Renamed (naming : Naming) (execution other : Execution) : Prop :=
  naming.Same execution.id other.id ∧ other = { execution with id := other.id }

theorem Execution.Renamed.mono (grown : naming ⊆ more) {execution other : Execution}
    (renamed : execution.Renamed naming other) : execution.Renamed more other :=
  ⟨renamed.1.mono grown, renamed.2⟩

def LedgerEntry.Renamed (naming : Naming) (entry other : LedgerEntry) : Prop :=
  naming.Same entry.transactionId other.transactionId ∧
    naming.Same entry.referenceId other.referenceId ∧
    other = { entry with
      transactionId := other.transactionId, referenceId := other.referenceId }

theorem LedgerEntry.Renamed.mono (grown : naming ⊆ more) {entry other : LedgerEntry}
    (renamed : entry.Renamed naming other) : entry.Renamed more other :=
  ⟨renamed.1.mono grown, renamed.2.1.mono grown, renamed.2.2⟩

def LedgerTransaction.Renamed (naming : Naming) (transaction other : LedgerTransaction) : Prop :=
  naming.Same transaction.id other.id ∧
    naming.Same transaction.correlationId other.correlationId ∧
    List.Forall₂ (LedgerEntry.Renamed naming) transaction.entries other.entries ∧
    other = { transaction with
      id := other.id, correlationId := other.correlationId, entries := other.entries }

theorem LedgerTransaction.Renamed.mono (grown : naming ⊆ more)
    {transaction other : LedgerTransaction} (renamed : transaction.Renamed naming other) :
    transaction.Renamed more other :=
  ⟨renamed.1.mono grown, renamed.2.1.mono grown,
    renamed.2.2.1.imp fun _ _ entry => entry.mono grown, renamed.2.2.2⟩

def OrderEvent.Renamed (naming : Naming) (event other : OrderEvent) : Prop :=
  naming.Same event.id other.id ∧ event.details.Renamed naming other.details ∧
    other = { event with id := other.id, details := other.details }

theorem OrderEvent.Renamed.mono (grown : naming ⊆ more) {event other : OrderEvent}
    (renamed : event.Renamed naming other) : event.Renamed more other :=
  ⟨renamed.1.mono grown, renamed.2.1.mono grown, renamed.2.2⟩

def OutboxRow.Renamed (naming : Naming) (row other : OutboxRow) : Prop :=
  naming.Same row.id other.id ∧ naming.Same row.aggregateId other.aggregateId ∧
    row.payload.Renamed naming other.payload ∧
    other = { row with
      id := other.id, aggregateId := other.aggregateId, payload := other.payload }

theorem OutboxRow.Renamed.mono (grown : naming ⊆ more) {row other : OutboxRow}
    (renamed : row.Renamed naming other) : row.Renamed more other :=
  ⟨renamed.1.mono grown, renamed.2.1.mono grown, renamed.2.2.1.mono grown, renamed.2.2.2⟩

/-- What became of the fill is the same but for the name of its execution. -/
inductive IngestOutcome.Renamed (naming : Naming) : IngestOutcome → IngestOutcome → Prop
  | inserted {name other : String} (named : (name, other) ∈ naming) (orderId : String)
    (status : OrderStatus) :
    Renamed naming (.inserted name orderId status) (.inserted other orderId status)
  | duplicate : Renamed naming .duplicate .duplicate
  | unmapped : Renamed naming .unmapped .unmapped

/-- The stores are the same but for names that were handed out, no name standing for two. -/
structure Store.Renumbered (naming : Naming) (store other : Store) : Prop where
  orders : store.orders = other.orders
  balances : store.balances = other.balances
  reservations : store.reservations = other.reservations
  unitOutage : store.unitOutage = other.unitOutage
  executions : List.Forall₂ (Execution.Renamed naming) store.executions other.executions
  ledger : List.Forall₂ (LedgerTransaction.Renamed naming) store.ledger other.ledger
  orderEvents : List.Forall₂ (OrderEvent.Renamed naming) store.orderEvents other.orderEvents
  outbox : List.Forall₂ (OutboxRow.Renamed naming) store.outbox other.outbox
  issued : store.Issued (naming.map (·.1))
  issuedThere : other.Issued (naming.map (·.2))

namespace Store

variable {store other : Store}

theorem Renumbered.refl (store : Store) : store.Renumbered [] store where
  orders := rfl
  balances := rfl
  reservations := rfl
  unitOutage := rfl
  executions := List.forall₂_same.mpr fun _ _ => ⟨.inl rfl, rfl⟩
  ledger := List.forall₂_same.mpr fun _ _ => ⟨.inl rfl, .inl rfl,
    List.forall₂_same.mpr fun _ _ => ⟨.inl rfl, .inl rfl, rfl⟩, rfl⟩
  orderEvents := List.forall₂_same.mpr fun _ _ => ⟨.inl rfl, .same _, rfl⟩
  outbox := List.forall₂_same.mpr fun _ _ => ⟨.inl rfl, .inl rfl, .same _, rfl⟩
  issued := ⟨List.nodup_nil, List.forall_mem_nil _⟩
  issuedThere := ⟨List.nodup_nil, List.forall_mem_nil _⟩

namespace Renumbered

theorem oneToOne (same : store.Renumbered naming other) : naming.OneToOne :=
  ⟨same.issued.1, same.issuedThere.1⟩

/-- Identifiers that are handed out side by side stand for the same. -/
theorem mint (same : store.Renumbered naming other) :
    { store with minted := store.minted + 1 }.Renumbered
      (naming ++ [(identifier (store.minted + 1), identifier (other.minted + 1))])
      { other with minted := other.minted + 1 } where
  orders := same.orders
  balances := same.balances
  reservations := same.reservations
  unitOutage := same.unitOutage
  executions := same.executions.imp fun _ _ row => row.mono (List.subset_append_left _ _)
  ledger := same.ledger.imp fun _ _ row => row.mono (List.subset_append_left _ _)
  orderEvents := same.orderEvents.imp fun _ _ row => row.mono (List.subset_append_left _ _)
  outbox := same.outbox.imp fun _ _ row => row.mono (List.subset_append_left _ _)
  issued := by
    rw [List.map_append]
    exact same.issued.append (Nat.lt_succ_self _) (Nat.le_refl _)
  issuedThere := by
    rw [List.map_append]
    exact same.issuedThere.append (Nat.lt_succ_self _) (Nat.le_refl _)

theorem balance? (same : store.Renumbered naming other) (account asset : String) :
    store.balance? account asset = other.balance? account asset := by
  rw [Store.balance?, Store.balance?, same.balances]

theorem activeReservation? (same : store.Renumbered naming other) (orderId : String) :
    store.activeReservation? orderId = other.activeReservation? orderId := by
  rw [Store.activeReservation?, Store.activeReservation?, same.reservations]

theorem order? (same : store.Renumbered naming other) (id : String) :
    store.order? id = other.order? id := by
  rw [Store.order?, Store.order?, same.orders]

theorem resolveOrder? (same : store.Renumbered naming other) (exchange : String)
    (exchangeOrderId clientOrderId : Option String) :
    store.resolveOrder? exchange exchangeOrderId clientOrderId =
      other.resolveOrder? exchange exchangeOrderId clientOrderId := by
  have byExchange : store.orderByExchangeId? exchange = other.orderByExchangeId? exchange := by
    funext id
    rw [Store.orderByExchangeId?, Store.orderByExchangeId?, same.orders]
  have byClient : store.orderByClientId? exchange = other.orderByClientId? exchange := by
    funext id
    rw [Store.orderByClientId?, Store.orderByClientId?, same.orders]
  rw [Store.resolveOrder?, Store.resolveOrder?, byExchange, byClient]

/-- Names do not tell one fill from another. -/
theorem hasExecution (same : store.Renumbered naming other) (key : String × String × String) :
    store.hasExecution key = other.hasExecution key := by
  unfold Store.hasExecution
  have rows := same.executions
  generalize store.executions = executions, other.executions = others at rows
  induction rows with
  | nil => rfl
  | cons renamed _ ih =>
      have sameKey := congrArg Execution.key renamed.2
      rw [List.any_cons, List.any_cons, ih, sameKey]
      rfl

end Renumbered

end Store

/-- The computations end alike: in results that are related, both refused, or in the same
overflow. -/
inductive Matches {α β : Type} (related : α → β → Prop) :
    Except Failure α → Except Failure β → Prop
  | ok {value : α} {other : β} (holds : related value other) :
    Matches related (.ok value) (.ok other)
  | refused (cause other : SettlementError) :
    Matches related (.error (.refused cause)) (.error (.refused other))
  | overflow (operation : Decimal.Overflow) :
    Matches related (.error (.overflow operation)) (.error (.overflow operation))

namespace Matches

variable {α β α' β' : Type} {related : α → β → Prop} {after : α' → β' → Prop}
  {outcome : Except Failure α} {other : Except Failure β}

theorem refl (outcome : Except Failure α) : Matches Eq outcome outcome := by
  rcases outcome with (cause | operation) | value
  · exact .refused cause cause
  · exact .overflow operation
  · exact .ok rfl

theorem bind (first : Matches related outcome other) {rest : α → Except Failure α'}
    {restThere : β → Except Failure β'}
    (others : ∀ value image, related value image → Matches after (rest value) (restThere image)) :
    Matches after (outcome >>= rest) (other >>= restThere) := by
  cases first with
  | ok holds => exact others _ _ holds
  | refused cause other => exact .refused cause other
  | overflow operation => exact .overflow operation

theorem mono {weaker : α → β → Prop} (matched : Matches related outcome other)
    (weaken : ∀ value image, related value image → weaker value image) :
    Matches weaker outcome other := by
  cases matched with
  | ok holds => exact .ok (weaken _ _ holds)
  | refused cause other => exact .refused cause other
  | overflow operation => exact .overflow operation

end Matches

namespace Work

variable {ε α β α' β' : Type}

theorem run_failing (outcome : Except Failure α) (store : Store) :
    (liftM outcome : Work α).run store = outcome >>= fun value => pure (value, store) := by
  cases outcome <;> rfl

theorem run_lift [Cause ε] (outcome : Except ε α) (store : Store) :
    (liftM outcome : Work α).run store =
      (liftM outcome : Except Failure α) >>= fun value => pure (value, store) := by
  cases outcome <;> rfl

/-- From stores that are the same but for names, the works end alike, and still in such stores.
More names may have been handed out on the way. -/
def Matches (naming : Naming) (related : Naming → α → β → Prop) (work : Work α) (other : Work β) :
    Prop :=
  ∀ store twin : Store, store.Renumbered naming twin → SpotSettlement.Matches
    (fun done image => ∃ more, naming ⊆ more ∧ related more done.1 image.1 ∧
      done.2.Renumbered more image.2)
    (work.run store) (other.run twin)

namespace Matches

variable {related : Naming → α → β → Prop} {after : Naming → α' → β' → Prop}

theorem pure {value : α} {image : β} (holds : related naming value image) :
    Matches naming related (pure value) (pure image) :=
  fun _ _ same => .ok ⟨naming, List.Subset.refl _, holds, same⟩

theorem bind {work : Work α} {other : Work β} {rest : α → Work α'} {restThere : β → Work β'}
    (first : Matches naming related work other)
    (others : ∀ more value image, naming ⊆ more → related more value image →
      Matches more after (rest value) (restThere image)) :
    Matches naming after (work >>= rest) (other >>= restThere) := by
  intro store twin same
  rw [StateT.run_bind, StateT.run_bind]
  refine (first store twin same).bind ?_
  rintro ⟨value, middle⟩ ⟨image, middleThere⟩ ⟨more, grown, holds, still⟩
  refine (others more value image grown holds middle middleThere still).mono ?_
  rintro done there ⟨most, grownMore, ends⟩
  exact ⟨most, List.Subset.trans grown grownMore, ends⟩

theorem get_bind {rest : Store → Work α'} {restThere : Store → Work β'}
    (others : ∀ store twin, store.Renumbered naming twin →
      Matches naming after (rest store) (restThere twin)) :
    Matches naming after (get >>= rest) (get >>= restThere) := by
  intro store twin same
  rw [StateT.run_bind, StateT.run_get, pure_bind, StateT.run_bind, StateT.run_get, pure_bind]
  exact others store twin same store twin same

theorem modify {change other : Store → Store}
    (kept : ∀ store twin, store.Renumbered naming twin →
      (change store).Renumbered naming (other twin)) :
    Matches naming (fun _ => Eq) (modify change : Work PUnit) (modify other) :=
  fun store twin same => .ok ⟨naming, List.Subset.refl _, rfl, kept store twin same⟩

theorem set {written other : Store} (same : written.Renumbered naming other) :
    Matches naming (fun _ => Eq) (set written : Work PUnit) (set other) :=
  fun _ _ _ => .ok ⟨naming, List.Subset.refl _, rfl, same⟩

theorem failing {outcome : Except Failure α} {other : Except Failure β}
    (given : SpotSettlement.Matches (related naming) outcome other) :
    Matches naming related (liftM outcome : Work α) (liftM other) := by
  intro store twin same
  rw [run_failing, run_failing]
  exact given.bind fun _ _ holds => .ok ⟨naming, List.Subset.refl _, holds, same⟩

theorem refusal {ε : Type} [Cause ε] (cause : ε) {rest : α → Work α'} {restThere : α → Work β'} :
    Matches naming after ((liftM (refuse cause : Except Failure α) : Work α) >>= rest)
      ((liftM (refuse cause : Except Failure α) : Work α) >>= restThere) := by
  intro store twin same
  rw [StateT.run_bind, StateT.run_bind, run_failing, run_failing, refuse]
  cases Cause.toFailure cause with
  | refused cause => exact .refused cause cause
  | overflow operation => exact .overflow operation

theorem mint : Matches naming (fun more name other => (name, other) ∈ more) Store.mint Store.mint :=
  fun _ _ same => .ok ⟨_, List.subset_append_left _ _,
    List.mem_append_right _ (List.mem_singleton.mpr rfl), same.mint⟩

end Matches

/-- The work does not see which identifiers were handed out. -/
def Unseeing (work : Work α) : Prop := ∀ naming, Matches naming (fun _ => Eq) work work

namespace Unseeing

theorem pure (value : α) : Unseeing (pure value) := fun _ => .pure rfl

theorem andThen {γ : Type} {after : Naming → β → γ → Prop} {work : Work α} {rest : α → Work β}
    {restThere : α → Work γ} (first : work.Unseeing)
    (others : ∀ more value, naming ⊆ more → Matches more after (rest value) (restThere value)) :
    Matches naming after (work >>= rest) (work >>= restThere) := by
  refine (first naming).bind ?_
  rintro more value _ grown rfl
  exact others more value grown

theorem bind {work : Work α} {rest : α → Work β} (first : work.Unseeing)
    (others : ∀ value, (rest value).Unseeing) : (work >>= rest).Unseeing :=
  fun _ => first.andThen fun more value _ => others value more

theorem lift [Cause ε] (outcome : Except ε α) : Unseeing (liftM outcome : Work α) := by
  intro naming store twin same
  rw [run_lift, run_lift]
  refine (SpotSettlement.Matches.refl _).bind ?_
  rintro value _ rfl
  exact .ok ⟨naming, List.Subset.refl _, rfl, same⟩

theorem failing (outcome : Except Failure α) : Unseeing (liftM outcome : Work α) :=
  fun _ => .failing (.refl outcome)

theorem foldlM {step : α → β → Work α} (each : ∀ value item, (step value item).Unseeing)
    (items : List β) (value : α) : (items.foldlM step value).Unseeing := by
  induction items generalizing value with
  | nil => exact pure value
  | cons item rest ih =>
      rw [List.foldlM_cons]
      exact (each value item).bind ih

theorem ite {condition : Prop} [Decidable condition] {first second : Work α}
    (yes : first.Unseeing) (no : second.Unseeing) :
    Unseeing (if condition then first else second) := by
  split
  · exact yes
  · exact no

end Unseeing

/-- What two names stand for is still known after the work. -/
theorem Matches.carrying {γ : Type} {after : Naming → β → γ → Prop} {work : Work α}
    {rest : α → Work β} {restThere : α → Work γ} {names : String × String} (known : names ∈ naming)
    (first : work.Unseeing)
    (others : ∀ more value, names ∈ more → Matches more after (rest value) (restThere value)) :
    Matches naming after (work >>= rest) (work >>= restThere) :=
  first.andThen fun more value grown => others more value (grown known)

end Work

open Work hiding Matches

namespace Work

theorem start_unseeing : start.Unseeing := by
  intro naming
  refine .get_bind fun store twin same => ?_
  rw [same.unitOutage]
  cases twin.unitOutage with
  | none => exact Unseeing.pure () naming
  | some problem => exact Unseeing.failing _ naming

end Work

namespace Store

theorem saveBalance_unseeing (balance : WalletBalance) : (saveBalance balance).Unseeing :=
  fun _ => .modify fun _ _ same =>
    { same with balances := congrArg (putBalance balance) same.balances }

theorem claimBalance_unseeing (account asset : String) (now : Instant) :
    (claimBalance account asset now).Unseeing := by
  intro naming
  refine .get_bind fun store twin same => ?_
  rw [same.balance?]
  cases twin.balance? account asset with
  | some balance => exact Unseeing.pure balance naming
  | none => exact (saveBalance_unseeing _).bind (fun _ => .pure _) naming

theorem saveReservation_unseeing (reservation : WalletReservation) :
    (saveReservation reservation).Unseeing := by
  intro naming
  refine .get_bind fun store twin same => ?_
  rw [same.reservations]
  split
  · exact .refusal _
  · exact .set { same with reservations := rfl }

theorem existingOrder_unseeing (id : String) : (existingOrder id).Unseeing := by
  intro naming
  refine .get_bind fun store twin same => ?_
  rw [same.order?]
  cases twin.order? id with
  | some order => exact Unseeing.pure order naming
  | none => exact Unseeing.failing _ naming

theorem updateOrder_unseeing (order : Order) : (updateOrder order).Unseeing := by
  intro naming
  refine .get_bind fun store twin same => ?_
  rw [same.order?, same.orders]
  split
  · exact .refusal _
  · exact .set { same with orders := rfl }

end Store

namespace Funds

theorem settleDelta_unseeing (account : String) (now : Instant) (progress : Progress)
    (delta : String × Decimal) : (settleDelta account now progress delta).Unseeing :=
  (Store.claimBalance_unseeing account delta.1 now).bind fun _ =>
    (Unseeing.failing _).bind fun _ => (Store.saveBalance_unseeing _).bind fun _ => .pure _

theorem settleFill_unseeing (account orderId : String) (deltas : AssetTotals) (now : Instant) :
    (settleFill account orderId deltas now).Unseeing := by
  intro naming
  refine .get_bind fun store twin same => ?_
  rw [same.activeReservation?]
  refine Unseeing.bind (.foldlM (settleDelta_unseeing account now) deltas _) ?_ naming
  intro progress
  cases progress.reservation with
  | none => exact .pure _
  | some reservation =>
      have written := Store.saveReservation_unseeing reservation
      exact Unseeing.ite (written.bind fun _ => .pure _) (.pure _)

theorem releaseFor_unseeing (orderId : String) (status : ReservationStatus) (now : Instant) :
    (releaseFor orderId status now).Unseeing := by
  intro naming
  refine .get_bind fun store twin same => ?_
  rw [same.activeReservation?]
  cases twin.activeReservation? orderId with
  | none => exact Unseeing.pure none naming
  | some reservation =>
      refine (Store.claimBalance_unseeing reservation.account reservation.asset now).bind ?_ naming
      intro balance
      refine (Unseeing.lift (reservation.close status now)).bind fun closing => ?_
      have written : ∀ balance : WalletBalance, Unseeing (do
          Store.saveReservation closing.2
          return some balance) := fun balance =>
        (Store.saveReservation_unseeing closing.2).bind fun _ => .pure (some balance)
      refine .ite ?_ (.bind (.pure balance) written)
      exact (Unseeing.failing _).bind fun released =>
        (Store.saveBalance_unseeing released).bind fun _ => .bind (.pure released) written

end Funds

theorem EventEnvelope.toJson_renamed {P : Type} [EventPayload P] {envelope other : EventEnvelope P}
    (named : (envelope.eventId, other.eventId) ∈ naming)
    (renamed : (EventPayload.toJson envelope.payload).Renamed naming
      (EventPayload.toJson other.payload))
    (same : other = { envelope with eventId := other.eventId, payload := other.payload }) :
    envelope.toJson.Renamed naming other.toJson := by
  rw [same]
  exact .trans (.member [] "event_id" _ (.name named))
    (.member [_, _, _, _, _] "payload" [] renamed)

theorem OutboxRow.ofPayload_matches {P : Type} [EventPayload P] {id otherId : String}
    {payload other : P} (named : (id, otherId) ∈ naming)
    (renamed : (EventPayload.toJson payload).Renamed naming (EventPayload.toJson other))
    (aggregate : naming.Same (EventPayload.aggregateId payload) (EventPayload.aggregateId other))
    (key : EventPayload.naturalKey payload = EventPayload.naturalKey other)
    (valid : EventPayload.validate payload = EventPayload.validate other)
    (namePrefix : String) (now : Instant) :
    Matches (OutboxRow.Renamed naming) (ofPayload id namePrefix payload now)
      (ofPayload otherId namePrefix other now) := by
  unfold ofPayload
  rw [valid, key]
  refine (Matches.refl _).bind fun _ _ _ => .ok ⟨.inr named, aggregate, ?_, rfl⟩
  exact EventEnvelope.toJson_renamed named renamed rfl

namespace LedgerTransaction

theorem entriesOfLeg_renamed {id otherId : String} {execution other : Execution}
    (named : (id, otherId) ∈ naming) (renamed : execution.Renamed naming other) (leg : AssetLeg) :
    List.Forall₂ (LedgerEntry.Renamed naming) (entriesOfLeg id execution leg)
      (entriesOfLeg otherId other leg) := by
  rw [renamed.2]
  exact .cons ⟨.inr named, renamed.1, rfl⟩ (.cons ⟨.inr named, renamed.1, rfl⟩ .nil)

theorem map_eq_of_renamed {α : Type} {read : LedgerEntry → α} {entries others : List LedgerEntry}
    (renamed : List.Forall₂ (LedgerEntry.Renamed naming) entries others)
    (blind : ∀ entry transactionId referenceId,
      read { entry with transactionId, referenceId } = read entry) :
    entries.map read = others.map read := by
  induction renamed with
  | nil => rfl
  | @cons entry other _ _ same _ ih =>
      have alike : read other = read entry := by
        rw [same.2.2]
        exact blind entry other.transactionId other.referenceId
      rw [List.map_cons, List.map_cons, ih, alike]

/-- Whether entries balance can be told without the names in them. -/
theorem verifyBalanced_matches {transaction other : LedgerTransaction}
    (renamed : List.Forall₂ (LedgerEntry.Renamed naming) transaction.entries other.entries) :
    Matches Eq transaction.verifyBalanced other.verifyBalanced := by
  have sameNet : netOf transaction.entries = netOf other.entries :=
    congrArg AssetTotals.ofMovements (map_eq_of_renamed renamed fun _ _ _ => rfl)
  have sameAmounts : transaction.entries.map (·.amount) = other.entries.map (·.amount) :=
    map_eq_of_renamed renamed fun _ _ _ => rfl
  have sameEmpty := congrArg List.isEmpty sameAmounts
  have sameBad := congrArg (List.find? fun amount => !amount.isPositive) sameAmounts
  rw [List.isEmpty_map, List.isEmpty_map] at sameEmpty
  rw [List.find?_map, List.find?_map] at sameBad
  simp only [Function.comp_def] at sameBad
  unfold verifyBalanced
  rw [sameNet, sameEmpty]
  dsimp only
  cases other.entries.isEmpty with
  | true => exact .refused _ _
  | false =>
      rw [if_neg Bool.false_ne_true, if_neg Bool.false_ne_true]
      cases bad : transaction.entries.find? fun entry => !entry.amount.isPositive <;>
        cases otherBad : other.entries.find? fun entry => !entry.amount.isPositive <;>
        simp only [bad, otherBad, Option.map_none, Option.map_some, reduceCtorEq] at sameBad
      case none.none =>
        refine (Matches.refl _).bind ?_
        rintro net _ rfl
        generalize net.find? _ = left
        cases left with
        | none => exact .ok rfl
        | some => exact .refused _ _
      case some.some => exact .refused _ _

theorem ofExecution_matches {id otherId : String} {execution other : Execution}
    (named : (id, otherId) ∈ naming) (renamed : execution.Renamed naming other)
    (economics : FillEconomics) (now : Instant) :
    Matches (LedgerTransaction.Renamed naming) (ofExecution id execution economics now)
      (ofExecution otherId other economics now) := by
  have entries : List.Forall₂ (LedgerEntry.Renamed naming)
      (economics.legs.flatMap (entriesOfLeg id execution))
      (economics.legs.flatMap (entriesOfLeg otherId other)) := by
    induction economics.legs with
    | nil => exact .nil
    | cons leg rest ih => exact List.rel_append (entriesOfLeg_renamed named renamed leg) ih
  refine (verifyBalanced_matches entries).bind fun _ _ _ => ?_
  exact .ok ⟨.inr named, renamed.1, entries, rfl⟩

end LedgerTransaction

namespace Terms

variable {terms : Terms} {now : Instant}

theorem announce_matches {P : Type} [EventPayload P] {payload other : P}
    (renamed : (EventPayload.toJson payload).Renamed naming (EventPayload.toJson other))
    (aggregate : naming.Same (EventPayload.aggregateId payload) (EventPayload.aggregateId other))
    (key : EventPayload.naturalKey payload = EventPayload.naturalKey other)
    (valid : EventPayload.validate payload = EventPayload.validate other) :
    Work.Matches naming (fun _ => Eq) (terms.announce payload now) (terms.announce other now) := by
  refine Work.Matches.mint.bind fun more id otherId grown named => ?_
  have made := OutboxRow.ofPayload_matches named (renamed.mono grown) (aggregate.mono grown) key
    valid terms.topicPrefix now
  refine .bind (.failing made) fun most row otherRow _ renamed => ?_
  exact .modify fun store twin same =>
    { same with outbox := List.rel_append same.outbox (.cons renamed .nil) }

theorem announce_unseeing {P : Type} [EventPayload P] (payload : P) :
    (terms.announce payload now).Unseeing :=
  fun _ => announce_matches (.same _) (.inl rfl) rfl rfl

theorem announceOrder_unseeing (order : Order) (before : OrderStatus) (reason : Option String) :
    (terms.announceOrder order before reason now).Unseeing :=
  (announce_unseeing _).bind fun _ => (Unseeing.lift _).bind announce_unseeing

theorem announceBalances_unseeing (balances : List WalletBalance) (reason orderId : String) :
    (terms.announceBalances balances reason orderId now).Unseeing := by
  unfold announceBalances
  rw [List.forM_eq_forM]
  induction balances with
  | nil => exact .pure _
  | cons balance rest ih =>
      rw [List.forM_cons]
      exact (announce_unseeing _).bind fun _ => ih

theorem recordEvent_matches (order : Order) (eventType : OrderEventType)
    (before : Option OrderStatus) (status : OrderStatus) {details others : Json}
    (renamed : details.Renamed naming others) :
    Work.Matches naming (fun _ => Eq) (recordEvent order eventType before status details now)
      (recordEvent order eventType before status others now) := by
  refine Work.Matches.mint.bind fun more id otherId grown named => ?_
  refine .modify fun store twin same => { same with orderEvents := ?_ }
  exact List.rel_append same.orderEvents (.cons ⟨.inr named, renamed.mono grown, rfl⟩ .nil)

theorem recordTransition_unseeing (order : Order) (eventType : OrderEventType)
    (transition : Transition) (details : Json) (reason : Option String) :
    (terms.recordTransition order eventType transition details reason).Unseeing :=
  .bind (fun _ => recordEvent_matches _ _ _ _ (.same _)) fun _ => announceOrder_unseeing _ _ _

theorem releaseIfClosed_unseeing (order : Order) : (releaseIfClosed order now).Unseeing := by
  unfold releaseIfClosed
  cases Funds.closingStatus order.status with
  | none => exact .pure none
  | some status => exact Funds.releaseFor_unseeing order.id status now

theorem acknowledgeOrder_unseeing (orderId exchange exchangeOrderId : String)
    (clientOrderId : Option String) :
    (terms.acknowledgeOrder orderId exchange exchangeOrderId clientOrderId now).Unseeing := by
  refine start_unseeing.bind fun _ => (Store.existingOrder_unseeing orderId).bind fun order => ?_
  refine (Unseeing.lift _).bind fun ⟨transition, moved⟩ => ?_
  cases transition with
  | none => exact .pure none
  | some transition =>
      exact (Store.updateOrder_unseeing moved).bind fun _ =>
        (recordTransition_unseeing _ _ _ _ _).bind fun _ => .pure (some transition)

theorem acknowledgeReported_unseeing (order : Order) (report : StatusReport) :
    (terms.acknowledgeReported order report now).Unseeing := by
  unfold acknowledgeReported
  cases report.exchangeOrderId with
  | none => exact .pure ReconcileOutcome.unchanged
  | some exchangeOrderId =>
      refine .ite (.pure ReconcileOutcome.unchanged) ?_
      exact (acknowledgeOrder_unseeing _ _ _ _).bind fun _ => .pure _

theorem reconcileStatus_unseeing (order : Order) (report : StatusReport) :
    (terms.reconcileStatus order report now).Unseeing := by
  refine (Unseeing.lift _).bind fun ⟨transition, moved⟩ => ?_
  cases transition with
  | none => exact .pure ReconcileOutcome.unchanged
  | some transition =>
      refine (Store.updateOrder_unseeing moved).bind fun _ =>
        (releaseIfClosed_unseeing moved).bind fun released => ?_
      refine .bind (fun _ => recordEvent_matches _ _ _ _ (.same _)) fun _ => ?_
      exact (announceOrder_unseeing _ _ _).bind fun _ =>
        (announceBalances_unseeing _ _ _).bind fun _ => .pure _

/-- A reported status is ingested alike, whichever identifiers are handed out. -/
theorem processStatus_unseeing (terms : Terms) (report : StatusReport) (now : Instant) :
    (terms.processStatus report now).Unseeing := by
  refine start_unseeing.bind fun _ naming => .get_bind fun store twin same => ?_
  rw [same.resolveOrder?]
  cases twin.resolveOrder? report.exchange report.exchangeOrderId report.clientOrderId with
  | none => exact Unseeing.pure ReconcileOutcome.unmapped naming
  | some order =>
      exact Unseeing.ite (acknowledgeReported_unseeing order report)
        (reconcileStatus_unseeing order report) naming

theorem applyFill_matches (order : Order) (report : ExecutionReport) :
    Work.Matches naming IngestOutcome.Renamed (terms.applyFill order report now)
      (terms.applyFill order report now) := by
  -- Only the name of the execution is told of again: in the ledger, in the trail, in the outbox.
  refine Work.Matches.mint.bind fun _ executionId otherId _ named => ?_
  have renamed : ∀ {naming : Naming}, (executionId, otherId) ∈ naming →
      (Execution.ofReport executionId report order.id order.account).Renamed naming
        (Execution.ofReport otherId report order.id order.account) :=
    fun named => ⟨.inr named, rfl⟩
  refine Work.Matches.bind (.modify fun store twin same =>
    { same with executions := List.rel_append same.executions (.cons (renamed named) .nil) }) ?_
  rintro _ _ _ grown rfl
  replace named := grown named
  dsimp only
  split
  · exact .failing (.refused _ _)
  next pair listed =>
  refine .carrying named (.lift (FillEconomics.ofExecution _ pair)) fun _ economics named => ?_
  refine .carrying named (.lift economics.netDeltas) fun _ deltas named => ?_
  refine .carrying named (Funds.settleFill_unseeing _ _ deltas now) fun _ balances named => ?_
  refine Work.Matches.mint.bind fun _ transactionId otherTransactionId grown booked => ?_
  replace named := grown named
  have transactions := LedgerTransaction.ofExecution_matches booked (renamed named) economics now
  refine .bind (.failing transactions) fun _ transaction other grown transactionRenamed => ?_
  replace named := grown named
  refine Work.Matches.bind (.modify fun store twin same =>
    { same with ledger := List.rel_append same.ledger (.cons transactionRenamed .nil) }) ?_
  rintro _ _ _ grown rfl
  replace named := grown named
  refine .carrying named (.failing (order.applyFill _ _ now)) fun _ ⟨fill, moved⟩ named => ?_
  refine .carrying named (Store.updateOrder_unseeing moved) fun _ _ named => ?_
  refine .carrying named (releaseIfClosed_unseeing moved) fun _ released named => ?_
  refine .bind (recordEvent_matches moved _ _ _ (.member [] "execution_id" _ (.name named))) ?_
  rintro _ _ _ grown rfl
  replace named := grown named
  have announced := (Json.Renamed.name named).member [] "execution_id"
  refine .bind (announce_matches (announced _) (.inr named) rfl rfl) ?_
  rintro _ _ _ grown rfl
  replace named := grown named
  refine .carrying named (announceOrder_unseeing moved _ _) fun _ _ named => ?_
  refine .carrying named (announceBalances_unseeing _ _ _) fun _ _ named => ?_
  exact .pure (.inserted named moved.id moved.status)

/-- A reported fill is ingested alike, whichever identifiers are handed out. -/
theorem processFill_matches (terms : Terms) (report : ExecutionReport) (now : Instant) :
    Work.Matches naming IngestOutcome.Renamed (terms.processFill report now)
      (terms.processFill report now) := by
  refine (Unseeing.lift report.validate).andThen fun _ _ _ => ?_
  refine start_unseeing.andThen fun _ _ _ => ?_
  refine .get_bind fun store twin same => ?_
  rw [same.resolveOrder?]
  cases twin.resolveOrder? report.exchange report.exchangeOrderId report.clientOrderId with
  | none => exact .pure .unmapped
  | some order =>
      dsimp only
      rw [same.hasExecution]
      split
      · exact .pure .duplicate
      · exact applyFill_matches order report

end Terms

/-- A unit of work is done alike in stores that are the same but for names. -/
theorem Store.Renumbered.perform {α β : Type} {related : Naming → α → β → Prop} {work : Work α}
    {other : Work β} {store twin : Store} (same : store.Renumbered naming twin)
    (matched : Work.Matches naming related work other) : ∃ more, naming ⊆ more ∧
      Matches (related more) (store.perform work).1 (twin.perform other).1 ∧
        (store.perform work).2.Renumbered more (twin.perform other).2 := by
  have runs := matched store twin same
  unfold Store.perform
  generalize work.run store = done, other.run twin = image at runs
  cases runs with
  | ok ends =>
      obtain ⟨more, grown, holds, still⟩ := ends
      exact ⟨more, grown, .ok holds, still⟩
  | refused cause other => exact ⟨naming, List.Subset.refl _, .refused cause other, same⟩
  | overflow operation => exact ⟨naming, List.Subset.refl _, .overflow operation, same⟩

end SpotSettlement
