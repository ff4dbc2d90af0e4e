import SpotSettlement.Ledger.Basic
import SpotSettlement.Proofs.Decimal.Value
import SpotSettlement.Proofs.Settlement.Funds

namespace SpotSettlement

/-! # The movements of a fill and their booking

A fill is settled by the net movement of each asset and booked movement by movement.  If no sum of
movements rounds, both come to the same: the entries on the account add up to what its balances gain.
The two entries of a movement always cancel.
-/

open Decimal

namespace AssetTotals

variable {asset key : String} {amount : Decimal} {totals after : AssetTotals}
  {movements : List (String × Decimal)}

def addArithmetic (asset : String) (amount : Decimal) : AssetTotals → List Operation
  | [] => [.add .zero amount]
  | (other, total) :: rest =>
    if asset = other then [.add total amount]
    else if asset < other then [.add .zero amount]
    else addArithmetic asset amount rest

def movementsArithmetic : List (String × Decimal) → AssetTotals → List Operation
  | [], _ => []
  | (asset, amount) :: rest, totals =>
    addArithmetic asset amount totals ++
      match totals.add asset amount with
      | .ok totals => movementsArithmetic rest totals
      | .error _ => []

theorem add_exact (exact : Exact (addArithmetic asset amount totals))
    (added : add asset amount totals = .ok after) (key : String) :
    sumOf key after = sumOf key totals + if asset = key then amount.value else 0 := by
  -- Totals are sorted: the amount joins the total of its asset, or takes its place before the next.
  induction totals generalizing after with
  | nil =>
      rw [addArithmetic, exact_cons_iff] at exact
      simp only [add, bind_ok_iff, pure_ok_iff] at added
      obtain ⟨sum, start, rfl⟩ := added
      rw [sumOf_cons, exact.1.add_value start, value_zero, zero_add, add_comm]
  | cons row rest ih =>
      obtain ⟨other, total⟩ := row
      unfold addArithmetic at exact
      unfold add at added
      split at added
      · next same =>
          rw [if_pos same, exact_cons_iff] at exact
          simp only [bind_ok_iff, pure_ok_iff] at added
          obtain ⟨sum, start, rfl⟩ := added
          rw [sumOf_cons, sumOf_cons, exact.1.add_value start, same]
          split <;> ring
      · next different =>
          rw [if_neg different] at exact
          split at added
          · next before =>
              rw [if_pos before, exact_cons_iff] at exact
              simp only [bind_ok_iff, pure_ok_iff] at added
              obtain ⟨sum, start, rfl⟩ := added
              rw [sumOf_cons, exact.1.add_value start, value_zero, zero_add, add_comm]
          · next past =>
              rw [if_neg past] at exact
              simp only [bind_ok_iff, pure_ok_iff] at added
              obtain ⟨later, further, rfl⟩ := added
              rw [sumOf_cons, sumOf_cons, ih exact further]
              ring

theorem foldlM_add_exact (exact : Exact (movementsArithmetic movements totals))
    (added : movements.foldlM (fun totals (asset, amount) => totals.add asset amount) totals =
      .ok after) (key : String) :
    sumOf key after = sumOf key totals + sumOf key movements := by
  induction movements generalizing totals with
  | nil =>
      cases added
      simp [sumOf]
  | cons movement rest ih =>
      obtain ⟨asset, amount⟩ := movement
      rw [List.foldlM_cons, bind_ok_iff] at added
      obtain ⟨middle, first, others⟩ := added
      have first : totals.add asset amount = .ok middle := first
      rw [movementsArithmetic, first, exact_append_iff] at exact
      rw [ih exact.2 others, add_exact exact.1 first, sumOf_cons]
      ring

theorem sumOf_filter_isZero (key : String) (totals : AssetTotals) :
    sumOf key (totals.filter fun (_, amount) => !amount.isZero) = sumOf key totals := by
  induction totals with
  | nil => rfl
  | cons row rest ih =>
      obtain ⟨asset, amount⟩ := row
      by_cases zero : amount.isZero = true
      · rw [List.filter_cons_of_neg (by simp [zero]), ih, sumOf_cons, isZero_iff_value.mp zero]
        simp
      · rw [List.filter_cons_of_pos (by simp [zero]), sumOf_cons, sumOf_cons, ih]

end AssetTotals

def FillEconomics.movements (economics : FillEconomics) : List (String × Decimal) :=
  economics.legs.map fun leg => (leg.asset, leg.amount)

theorem FillEconomics.netDeltas_exact {economics : FillEconomics} {deltas : AssetTotals}
    (exact : Exact (AssetTotals.movementsArithmetic economics.movements []))
    (netted : economics.netDeltas = .ok deltas) (asset : String) :
    AssetTotals.sumOf asset deltas = AssetTotals.sumOf asset economics.movements := by
  simp only [netDeltas, AssetTotals.ofMovements, bind_ok_iff, pure_ok_iff] at netted
  obtain ⟨totals, added, rfl⟩ := netted
  rw [AssetTotals.sumOf_filter_isZero, AssetTotals.foldlM_add_exact exact added]
  simp [AssetTotals.sumOf]

/-- The sum of the entries that a test selects, credits positive and debits negative. -/
def LedgerEntry.sumOf (selects : LedgerEntry → Bool) (entries : List LedgerEntry) : ℚ :=
  ((entries.filter selects).map (·.signedAmount.value)).sum

/-- Whether an entry books a fill on an account, in an asset. -/
def LedgerEntry.booksOn (account asset : String) (entry : LedgerEntry) : Bool :=
  entry.account == account && entry.asset == asset && entry.referenceType == .execution

theorem LedgerEntry.sumOf_append (selects : LedgerEntry → Bool) (left right : List LedgerEntry) :
    sumOf selects (left ++ right) = sumOf selects left + sumOf selects right := by
  simp [sumOf]

namespace LedgerTransaction

variable {id account asset : String} {execution : Execution} {leg : AssetLeg} {now : Instant}
  {economics : FillEconomics} {transaction : LedgerTransaction}

/-- A movement is booked on its account and, reversed, on the clearing account. -/
theorem entriesOfLeg_cases (id : String) (execution : Execution) (leg : AssetLeg) :
    ∃ own counter, entriesOfLeg id execution leg = [own, counter] ∧
      own.account = execution.account ∧ own.asset = leg.asset ∧
      own.referenceType = .execution ∧ own.signedAmount.value = leg.amount.value ∧
      counter.asset = leg.asset ∧ counter.referenceType = .executionOffset ∧
      counter.signedAmount.value = -leg.amount.value := by
  unfold entriesOfLeg
  by_cases positive : leg.amount.isPositive = true
  · simp only [positive, if_true]
    rw [isPositive_iff_value] at positive
    refine ⟨_, _, rfl, rfl, rfl, rfl, ?_, rfl, rfl, ?_⟩
    · simp only [LedgerEntry.signedAmount, value_abs, abs_of_pos positive]
    · simp only [LedgerEntry.signedAmount, value_neg, value_abs, abs_of_pos positive]
  · simp only [positive]
    rw [isPositive_iff_value, not_lt] at positive
    refine ⟨_, _, rfl, rfl, rfl, rfl, ?_, rfl, rfl, ?_⟩
    · simp [LedgerEntry.signedAmount, value_abs, abs_of_nonpos positive]
    · simp [LedgerEntry.signedAmount, value_abs, abs_of_nonpos positive]

theorem sumOf_entries (economics : FillEconomics) (id : String) (execution : Execution)
    (account asset : String) :
    LedgerEntry.sumOf (·.booksOn account asset)
        (economics.legs.flatMap (entriesOfLeg id execution)) =
      if account = execution.account then AssetTotals.sumOf asset economics.movements else 0 := by
  unfold FillEconomics.movements
  induction economics.legs with
  | nil => simp [LedgerEntry.sumOf, AssetTotals.sumOf]
  | cons leg rest ih =>
      obtain ⟨own, counter, pair, owner, ownAsset, ownType, ownAmount, -, counterType, -⟩ :=
        entriesOfLeg_cases id execution leg
      rw [List.flatMap_cons, LedgerEntry.sumOf_append, ih, pair, List.map_cons,
        AssetTotals.sumOf_cons]
      by_cases same : account = execution.account
      · by_cases booked : leg.asset = asset <;>
          simp [LedgerEntry.sumOf, LedgerEntry.booksOn, same, booked, owner, ownAsset, ownType,
            ownAmount, counterType]
      · simp [LedgerEntry.sumOf, LedgerEntry.booksOn, same, Ne.symm same, owner, counterType]

/-- The entries of a fill cancel in every asset. -/
theorem sumOf_entries_asset (economics : FillEconomics) (id : String) (execution : Execution)
    (asset : String) :
    LedgerEntry.sumOf (·.asset == asset)
      (economics.legs.flatMap (entriesOfLeg id execution)) = 0 := by
  induction economics.legs with
  | nil => rfl
  | cons leg rest ih =>
      obtain ⟨own, counter, pair, -, ownAsset, -, ownAmount, counterAsset, -, counterAmount⟩ :=
        entriesOfLeg_cases id execution leg
      rw [List.flatMap_cons, LedgerEntry.sumOf_append, ih, pair]
      by_cases booked : leg.asset = asset <;>
        simp [LedgerEntry.sumOf, booked, ownAsset, ownAmount, counterAsset, counterAmount]

theorem ofExecution_ok (booked : ofExecution id execution economics now = .ok transaction) :
    transaction = ⟨id, execution.id, .execution, now,
      economics.legs.flatMap (entriesOfLeg id execution)⟩ := by
  simp only [ofExecution, bind_ok_iff, pure_ok_iff] at booked
  obtain ⟨-, -, rfl⟩ := booked
  rfl

end LedgerTransaction

namespace Store

def entries (store : Store) : List LedgerEntry := store.ledger.flatMap (·.entries)

/-- What the ledger says that fills have brought an account in an asset. -/
def booked (store : Store) (account asset : String) : ℚ :=
  LedgerEntry.sumOf (·.booksOn account asset) store.entries

/-- The sum of all entries in an asset. -/
def bookedNet (store : Store) (asset : String) : ℚ :=
  LedgerEntry.sumOf (·.asset == asset) store.entries

end Store

end SpotSettlement
