import SpotSettlement.Proofs.Decimal.Opposites
import SpotSettlement.Proofs.Ledger.NetMovements

namespace SpotSettlement

/-! # Double entry

Every movement of a fill is booked as a pair of entries, one on the account and its opposite on the
clearing account.  Sums are taken pair by pair, from zero to zero, so whatever the amounts are, no
sum overflows or fails to cancel.  The entries on the account are summed in the order of the
movements, so rounding does to both sums the same.
-/

open Decimal

namespace AssetTotals

variable {asset : String} {amount other : Decimal} {totals image : AssetTotals}

/-- Every total is zero. -/
def Cancelled (totals : AssetTotals) : Prop := ∀ row ∈ totals, row.2.mantissa = 0

/-- An amount and its counterpart leave totals of zero at zero. -/
theorem add_cancelling (asset : String) (cancelled : totals.Cancelled)
    (cancels : ∃ zero, amount.add other = .ok zero ∧ zero.mantissa = 0) :
    ∃ middle after, add asset amount totals = .ok middle ∧ add asset other middle = .ok after ∧
      after.Cancelled := by
  obtain ⟨zero, sum, empty⟩ := cancels
  have joined : ∀ {rest : AssetTotals} {key : String}, Cancelled rest →
      Cancelled ((key, zero) :: rest) :=
    fun kept => List.forall_mem_cons.mpr ⟨empty, kept⟩
  have fresh : Decimal.zero.add amount = .ok amount := rfl
  induction totals with
  | nil =>
      refine ⟨[(asset, amount)], [(asset, zero)], ?_, ?_, joined nofun⟩
      · rw [add, fresh]
        rfl
      · rw [add, if_pos rfl, sum]
        rfl
  | cons row rest ih =>
      obtain ⟨key, total⟩ := row
      obtain ⟨nothing, rests⟩ := List.forall_mem_cons.mp cancelled
      by_cases same : asset = key
      · subst same
        refine ⟨(asset, amount) :: rest, (asset, zero) :: rest, ?_, ?_, joined rests⟩
        · have started : total.add amount = .ok amount := if_pos nothing
          rw [add, if_pos rfl, started]
          rfl
        · rw [add, if_pos rfl, sum]
          rfl
      · by_cases before : asset < key
        · refine ⟨(asset, amount) :: (key, total) :: rest, (asset, zero) :: (key, total) :: rest,
            ?_, ?_, joined cancelled⟩
          · rw [add, if_neg same, if_pos before, fresh]
            rfl
          · rw [add, if_pos rfl, sum]
            rfl
        · obtain ⟨middle, after, first, second, kept⟩ := ih rests
          refine ⟨(key, total) :: middle, (key, total) :: after, ?_, ?_,
            List.forall_mem_cons.mpr ⟨nothing, kept⟩⟩
          · rw [add, if_neg same, if_neg before, first]
            rfl
          · rw [add, if_neg same, if_neg before, second]
            rfl

/-- Totals of the same assets, of opposite amounts. -/
def Opposite (totals image : AssetTotals) : Prop :=
  List.Forall₂ (fun row counter => counter.1 = row.1 ∧ row.2.Opposed counter.2) totals image

theorem add_opposite (opposite : totals.Opposite image) (turned : amount.Opposed other) :
    Mirrors Opposite (add asset amount totals) (add asset other image) := by
  induction opposite with
  | nil => exact (add_opposed zero_opposed turned).bind fun sum counter opposed =>
      .pure (.cons ⟨rfl, opposed⟩ .nil)
  | @cons row counter rest images pair others ih =>
      obtain ⟨key, total⟩ := row
      obtain ⟨_, against⟩ := counter
      obtain ⟨rfl, opposed⟩ := pair
      simp only [add]
      split
      · exact (add_opposed opposed turned).bind fun sum counter opposed =>
          .pure (.cons ⟨rfl, opposed⟩ others)
      · split
        · exact (add_opposed zero_opposed turned).bind fun sum counter started =>
            .pure (.cons ⟨rfl, started⟩ (.cons ⟨rfl, opposed⟩ others))
        · exact ih.bind fun later images kept => .pure (.cons ⟨rfl, opposed⟩ kept)

theorem foldlM_add_opposite {movements images : List (String × Decimal)}
    (turned : Opposite movements images) (opposite : totals.Opposite image) : Mirrors Opposite
      (movements.foldlM (fun totals (asset, amount) => totals.add asset amount) totals)
      (images.foldlM (fun totals (asset, amount) => totals.add asset amount) image) := by
  induction turned generalizing totals image with
  | nil => exact .pure opposite
  | @cons row counter movements images pair others ih =>
      obtain ⟨asset, amount⟩ := row
      obtain ⟨_, other⟩ := counter
      obtain ⟨rfl, opposed⟩ := pair
      exact (add_opposite opposite opposed).bind fun _ _ => ih

theorem ofMovements_opposite {movements images : List (String × Decimal)}
    (turned : Opposite movements images) :
    Mirrors Opposite (ofMovements movements) (ofMovements images) :=
  foldlM_add_opposite turned .nil

end AssetTotals

def Direction.opposite : Direction → Direction
  | .debit => .credit
  | .credit => .debit

/-- A movement, booked on the account and, the other way round, on the clearing account. -/
structure AssetLeg.BookedAs (execution : Execution) (leg : AssetLeg)
    (pair : LedgerEntry × LedgerEntry) : Prop where
  account : pair.1.account = execution.account
  clearing : pair.2.account = clearingAccount execution.exchange
  asset : pair.1.asset = leg.asset
  sameAsset : pair.2.asset = pair.1.asset
  sameAmount : pair.2.amount = pair.1.amount
  reversed : pair.2.direction = pair.1.direction.opposite
  positive : 0 < pair.1.amount.value
  signed : pair.1.signedAmount = leg.amount

namespace LedgerTransaction

variable {id : String} {execution : Execution} {leg : AssetLeg} {legs : List AssetLeg}
  {pair : LedgerEntry × LedgerEntry} {pairs : List (LedgerEntry × LedgerEntry)}

theorem counterSigned (booked : leg.BookedAs execution pair) :
    pair.2.signedAmount = leg.amount.neg := by
  have signed := booked.signed
  unfold LedgerEntry.signedAmount at signed ⊢
  rw [booked.reversed, booked.sameAmount, ← signed]
  cases pair.1.direction with
  | debit => exact (Decimal.neg_neg _).symm
  | credit => rfl

theorem entriesOfLeg_pair (id : String) (execution : Execution) (nonzero : leg.amount.isZero = false) :
    ∃ pair, entriesOfLeg id execution leg = [pair.1, pair.2] ∧ leg.BookedAs execution pair := by
  have moves : leg.amount.value ≠ 0 := by
    rw [Ne, ← isZero_iff_value, nonzero]
    exact Bool.false_ne_true
  have positive : 0 < leg.amount.abs.value := by
    rw [value_abs]
    exact abs_pos.mpr moves
  unfold entriesOfLeg
  by_cases incoming : leg.amount.isPositive = true
  · simp only [incoming, if_true]
    exact ⟨(_, _), rfl, rfl, rfl, rfl, rfl, rfl, rfl, positive, abs_of_isPositive incoming⟩
  · simp only [incoming]
    refine ⟨(_, _), rfl, rfl, rfl, rfl, rfl, rfl, rfl, positive, ?_⟩
    change leg.amount.abs.neg = leg.amount
    rw [abs_of_not_isPositive (Bool.eq_false_iff.mpr incoming) nonzero, Decimal.neg_neg]

/-- The two entries of each pair, one after the other. -/
def entriesOfPairs (pairs : List (LedgerEntry × LedgerEntry)) : List LedgerEntry :=
  pairs.flatMap fun pair => [pair.1, pair.2]

theorem entries_paired (id : String) (execution : Execution)
    (nonzero : ∀ leg ∈ legs, leg.amount.isZero = false) :
    ∃ pairs, legs.flatMap (entriesOfLeg id execution) = entriesOfPairs pairs ∧
      List.Forall₂ (·.BookedAs execution) legs pairs := by
  induction legs with
  | nil => exact ⟨[], rfl, .nil⟩
  | cons leg rest ih =>
      obtain ⟨moves, others⟩ := List.forall_mem_cons.mp nonzero
      obtain ⟨pair, entries, booked⟩ := entriesOfLeg_pair id execution moves
      obtain ⟨pairs, further, all⟩ := ih others
      refine ⟨pair :: pairs, ?_, .cons booked all⟩
      rw [List.flatMap_cons, entries, further]
      rfl

theorem amounts_positive (booked : List.Forall₂ (·.BookedAs execution) legs pairs) :
    ∀ entry ∈ entriesOfPairs pairs, 0 < entry.amount.value := by
  induction booked with
  | nil => nofun
  | @cons leg pair legs pairs one others ih =>
      have first : ∀ entry ∈ [pair.1, pair.2], 0 < entry.amount.value := by
        rw [List.forall_mem_cons, List.forall_mem_singleton, one.sameAmount]
        exact ⟨one.positive, one.positive⟩
      exact List.forall_mem_append.mpr ⟨first, ih⟩

/-- Pair by pair, the entries cancel. -/
theorem foldlM_add_pairs (booked : List.Forall₂ (·.BookedAs execution) legs pairs)
    {totals : AssetTotals} (cancelled : totals.Cancelled) : ∃ nets,
      ((entriesOfPairs pairs).map fun entry => (entry.asset, entry.signedAmount)).foldlM
        (fun totals (asset, amount) => totals.add asset amount) totals = .ok nets ∧
      nets.Cancelled := by
  induction booked generalizing totals with
  | nil => exact ⟨totals, rfl, cancelled⟩
  | @cons leg pair legs pairs one others ih =>
      obtain ⟨middle, after, first, second, kept⟩ :=
        AssetTotals.add_cancelling leg.asset cancelled (add_neg_self leg.amount)
      obtain ⟨nets, rest, zeros⟩ := ih kept
      refine ⟨nets, ?_, zeros⟩
      have split : entriesOfPairs (pair :: pairs) = pair.1 :: pair.2 :: entriesOfPairs pairs := rfl
      simp only [split, List.map_cons, List.foldlM_cons, one.signed, counterSigned one, one.asset,
        one.sameAsset]
      exact bind_ok_iff.mpr ⟨middle, first, bind_ok_iff.mpr ⟨after, second, rest⟩⟩

theorem netOf_pairs (booked : List.Forall₂ (·.BookedAs execution) legs pairs) :
    ∃ nets, netOf (entriesOfPairs pairs) = .ok nets ∧ nets.Cancelled :=
  foldlM_add_pairs booked nofun

theorem entriesOfPairs_ne_nil (booked : List.Forall₂ (·.BookedAs execution) legs pairs)
    (moves : legs ≠ []) : entriesOfPairs pairs ≠ [] := by
  cases booked with
  | nil => exact absurd rfl moves
  | cons => nofun

theorem verifyBalanced_ok {transaction : LedgerTransaction} {nets : AssetTotals}
    (some : transaction.entries ≠ []) (positive : ∀ entry ∈ transaction.entries, 0 < entry.amount.value)
    (summed : netOf transaction.entries = .ok nets) (cancelled : nets.Cancelled) :
    transaction.verifyBalanced = .ok () := by
  have amounts : transaction.entries.find? (fun entry => !entry.amount.isPositive) = none := by
    rw [List.find?_eq_none]
    intro entry member
    simpa using isPositive_iff_value.mpr (positive entry member)
  have zeros : ∀ {moves : String × Decimal → Bool}, (∀ row, moves row = !row.2.isZero) →
      nets.find? moves = none := by
    intro moves same
    rw [List.find?_eq_none]
    intro row member
    simpa [same, isZero] using cancelled row member
  have rows : ¬transaction.entries.isEmpty = true := by simpa using some
  unfold verifyBalanced
  rw [if_neg rows, amounts]
  refine bind_ok_iff.mpr ⟨nets, lift_ok_iff.mpr summed, ?_⟩
  rw [zeros fun _ => rfl]
  rfl

/-- The entries of pairs on an account are summed as the movements are, each turned as it is on the
side of the account. -/
theorem movements_on {account : String} (turn : Decimal → Decimal)
    (side : ∀ leg pair, AssetLeg.BookedAs execution leg pair →
      ([pair.1, pair.2].filter (·.account = account)).map
        (fun entry => (entry.asset, entry.signedAmount)) = [(leg.asset, turn leg.amount)])
    (booked : List.Forall₂ (·.BookedAs execution) legs pairs) :
    ((entriesOfPairs pairs).filter (·.account = account)).map
      (fun entry => (entry.asset, entry.signedAmount)) =
        legs.map fun leg => (leg.asset, turn leg.amount) := by
  induction booked with
  | nil => rfl
  | @cons leg pair legs pairs one others ih =>
      have split : entriesOfPairs (pair :: pairs) = [pair.1, pair.2] ++ entriesOfPairs pairs := rfl
      rw [split, List.filter_append, List.map_append, side leg pair one, ih]
      rfl

theorem movements_on_account (booked : List.Forall₂ (·.BookedAs execution) legs pairs)
    (other : execution.account ≠ clearingAccount execution.exchange) :
    ((entriesOfPairs pairs).filter (·.account = execution.account)).map
      (fun entry => (entry.asset, entry.signedAmount)) =
        legs.map fun leg => (leg.asset, leg.amount) := by
  refine movements_on (fun amount => amount) ?_ booked
  intro leg pair one
  simp [one.account, one.clearing, other.symm, one.asset, one.signed]

theorem movements_on_clearing (booked : List.Forall₂ (·.BookedAs execution) legs pairs)
    (other : execution.account ≠ clearingAccount execution.exchange) :
    ((entriesOfPairs pairs).filter (·.account = clearingAccount execution.exchange)).map
      (fun entry => (entry.asset, entry.signedAmount)) =
        legs.map fun leg => (leg.asset, leg.amount.neg) := by
  refine movements_on Decimal.neg ?_ booked
  intro leg pair one
  simp [one.account, one.clearing, other, one.asset, one.sameAsset, counterSigned one]

end LedgerTransaction

namespace FillEconomics

variable {execution : Execution} {pair : AssetPair} {economics : FillEconomics}

theorem legs_nonzero (valued : ofExecution execution pair = .ok economics) :
    ∀ leg ∈ economics.legs, leg.amount.isZero = false := by
  simp only [ofExecution, bind_ok_iff, pure_ok_iff] at valued
  obtain ⟨notional, -, rfl⟩ := valued
  intro leg member
  simpa using (List.mem_filter.mp member).2

/-- A fill of a quantity moves the base asset. -/
theorem legs_ne_nil (positive : 0 < execution.quantity.value)
    (valued : ofExecution execution pair = .ok economics) : economics.legs ≠ [] := by
  simp only [ofExecution, bind_ok_iff, pure_ok_iff] at valued
  obtain ⟨notional, -, rfl⟩ := valued
  have nonzero : execution.quantity.mantissa ≠ 0 := fun zero =>
    positive.ne' (value_eq_zero_iff.mpr zero)
  cases execution.side <;> simp [isZero, neg, nonzero]

end FillEconomics

theorem AssetTotals.opposite_neg (movements : List (String × Decimal)) :
    Opposite movements (movements.map fun movement => (movement.1, movement.2.neg)) := by
  induction movements with
  | nil => exact .nil
  | cons movement rest ih => exact .cons ⟨rfl, .inl rfl⟩ ih

/-- Every fill of a quantity whose notional fits is booked.  Its entries come in pairs of the same
asset and the same positive amount, in opposite directions, so that every asset nets to zero, as a
number and as it is computed.  Unless the account is the clearing account itself, it nets to what the
fill moves on its balances, and the clearing account to the opposite. -/
theorem fills_book_balanced_pairs {execution : Execution} {notional : Decimal}
    (quantity : 0 < execution.quantity.value) (valued : execution.notional = .ok notional)
    (pair : AssetPair) (id : String) (now : Instant) :
    ∃ economics transaction pairs, FillEconomics.ofExecution execution pair = .ok economics ∧
      LedgerTransaction.ofExecution id execution economics now = .ok transaction ∧
      transaction.entries = LedgerTransaction.entriesOfPairs pairs ∧
      List.Forall₂ (·.BookedAs execution) economics.legs pairs ∧
      (∀ entry ∈ transaction.entries, 0 < entry.amount.value) ∧
      (∀ asset, LedgerEntry.sumOf (·.asset == asset) transaction.entries = 0) ∧
      (∃ nets, LedgerTransaction.netOf transaction.entries = .ok nets ∧ nets.Cancelled) ∧
      (execution.account ≠ clearingAccount execution.exchange →
        (transaction.netForAccount execution.account).map
          (·.filter fun (_, amount) => !amount.isZero) = economics.netDeltas ∧
        Mirrors AssetTotals.Opposite (transaction.netForAccount execution.account)
          (transaction.netForAccount (clearingAccount execution.exchange))) := by
  obtain ⟨economics, given⟩ : ∃ economics, FillEconomics.ofExecution execution pair =
      .ok economics := ⟨_, bind_ok_iff.mpr ⟨notional, valued, rfl⟩⟩
  obtain ⟨pairs, entries, booked⟩ :=
    LedgerTransaction.entries_paired id execution (FillEconomics.legs_nonzero given)
  obtain ⟨nets, summed, cancelled⟩ := LedgerTransaction.netOf_pairs booked
  have positive := LedgerTransaction.amounts_positive booked
  have some := LedgerTransaction.entriesOfPairs_ne_nil booked
    (FillEconomics.legs_ne_nil quantity given)
  have balanced : LedgerTransaction.verifyBalanced ⟨id, execution.id, .execution, now,
      LedgerTransaction.entriesOfPairs pairs⟩ = .ok () :=
    LedgerTransaction.verifyBalanced_ok some positive summed cancelled
  have transaction : LedgerTransaction.ofExecution id execution economics now =
      .ok ⟨id, execution.id, .execution, now, LedgerTransaction.entriesOfPairs pairs⟩ := by
    simp only [LedgerTransaction.ofExecution, entries, balanced]
    rfl
  refine ⟨economics, _, pairs, given, transaction, rfl, booked, positive, ?_,
    ⟨nets, summed, cancelled⟩, ?_⟩
  · intro asset
    rw [← entries]
    exact LedgerTransaction.sumOf_entries_asset economics id execution asset
  · intro other
    have own := LedgerTransaction.movements_on_account booked other
    have counter := LedgerTransaction.movements_on_clearing booked other
    simp only [LedgerTransaction.netForAccount, LedgerTransaction.netOf, own, counter]
    refine ⟨?_, AssetTotals.ofMovements_opposite ?_⟩
    · unfold FillEconomics.netDeltas
      cases AssetTotals.ofMovements (economics.legs.map fun leg => (leg.asset, leg.amount)) <;> rfl
    · have turned := AssetTotals.opposite_neg economics.movements
      rwa [FillEconomics.movements, List.map_map] at turned

namespace Sample

/-- Two units are bought for three each, with a fee of one, all of it in a single asset. -/
def selfPriced : Execution where
  id := "e-1"
  orderId := "o-1"
  account := "a-1"
  instrument := "BTCBTC"
  tradeId := "t-1"
  exchange := "binance"
  exchangeOrderId := none
  side := .buy
  quantity := units 2
  price := units 3
  feeAsset := some "BTC"
  fee := units 1
  executedAt := default

end Sample

theorem fills_book_balanced_pairs_one_asset :
    0 < Sample.selfPriced.quantity.value ∧
    Sample.selfPriced.notional = .ok (Sample.units 6) ∧
    ∃ economics transaction,
      FillEconomics.ofExecution Sample.selfPriced ⟨"BTC", "BTC"⟩ = .ok economics ∧
      LedgerTransaction.ofExecution "l-1" Sample.selfPriced economics default = .ok transaction ∧
      transaction.entries.length = 6 ∧
      LedgerEntry.sumOf (·.asset == "BTC") transaction.entries = 0 ∧
      (transaction.netForAccount "a-1").map (·.filter fun (_, amount) => !amount.isZero) =
        .ok [("BTC", (Sample.units 5).neg)] := by
  have quantity : 0 < Sample.selfPriced.quantity.value := by decide +kernel
  have valued : Sample.selfPriced.notional = .ok (Sample.units 6) := by
    decide +kernel
  obtain ⟨economics, transaction, pairs, given, booked, -, -, -, cancel, -, nets⟩ :=
    fills_book_balanced_pairs quantity valued ⟨"BTC", "BTC"⟩ "l-1" default
  obtain ⟨own, -⟩ := nets (by decide)
  have computed : FillEconomics.ofExecution Sample.selfPriced ⟨"BTC", "BTC"⟩ =
      .ok ⟨[⟨.base, "BTC", Sample.units 2⟩, ⟨.quote, "BTC", (Sample.units 6).neg⟩,
        ⟨.fee, "BTC", (Sample.units 1).neg⟩]⟩ := by decide +kernel
  cases given.symm.trans computed
  refine ⟨quantity, valued, _, transaction, given, booked, ?_, cancel "BTC", own.trans ?_⟩
  · rw [LedgerTransaction.ofExecution_ok booked]
    rfl
  · decide +kernel

end SpotSettlement
