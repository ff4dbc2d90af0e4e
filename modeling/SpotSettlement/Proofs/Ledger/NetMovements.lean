import Mathlib.Data.String.Basic
import SpotSettlement.Proofs.Ledger.Booking

namespace SpotSettlement

/-! # The net movements of a fill

Totals by asset are kept in the order of the assets, so a fill moves every asset at most once.  A
purchase brings in its quantity of the base asset and takes the notional in the quote asset, a sale
does the reverse, and a fee is taken in its own asset.
-/

open Decimal

namespace AssetTotals

variable {asset key : String} {amount : Decimal} {totals after : AssetTotals}
  {movements : List (String × Decimal)}

/-- The totals stand in the order of their assets, each of which occurs once. -/
def Ordered (totals : AssetTotals) : Prop := (totals.map (·.1)).Pairwise (· < ·)

theorem Ordered.nodup (ordered : totals.Ordered) : (totals.map (·.1)).Nodup :=
  List.Pairwise.imp (fun less => ne_of_lt less) ordered

theorem add_keys (added : add asset amount totals = .ok after) :
    ∀ key ∈ after.map (·.1), key = asset ∨ key ∈ totals.map (·.1) := by
  induction totals generalizing after with
  | nil =>
      simp only [add, bind_ok_iff, pure_ok_iff] at added
      obtain ⟨sum, -, rfl⟩ := added
      simp
  | cons row rest ih =>
      obtain ⟨other, total⟩ := row
      unfold add at added
      split at added
      · simp only [bind_ok_iff, pure_ok_iff] at added
        obtain ⟨sum, -, rfl⟩ := added
        exact fun key member => .inr member
      · split at added
        · simp only [bind_ok_iff, pure_ok_iff] at added
          obtain ⟨sum, -, rfl⟩ := added
          exact fun key member => List.mem_cons.mp member
        · simp only [bind_ok_iff, pure_ok_iff] at added
          obtain ⟨later, further, rfl⟩ := added
          intro key member
          obtain rfl | member := List.mem_cons.mp member
          · exact .inr List.mem_cons_self
          · exact (ih further key member).imp id (List.mem_cons_of_mem _)

/-- An asset is added in its place. -/
theorem add_ordered (ordered : totals.Ordered) (added : add asset amount totals = .ok after) :
    after.Ordered := by
  induction totals generalizing after with
  | nil =>
      simp only [add, bind_ok_iff, pure_ok_iff] at added
      obtain ⟨sum, -, rfl⟩ := added
      exact List.pairwise_singleton _ _
  | cons row rest ih =>
      obtain ⟨other, total⟩ := row
      obtain ⟨least, restOrdered⟩ := List.pairwise_cons.mp ordered
      unfold add at added
      split at added
      · simp only [bind_ok_iff, pure_ok_iff] at added
        obtain ⟨sum, -, rfl⟩ := added
        exact ordered
      · next different =>
          split at added
          · next before =>
              simp only [bind_ok_iff, pure_ok_iff] at added
              obtain ⟨sum, -, rfl⟩ := added
              refine List.pairwise_cons.mpr ⟨?_, ordered⟩
              intro key member
              obtain rfl | later := List.mem_cons.mp member
              · exact before
              · exact lt_trans before (least key later)
          · next past =>
              simp only [bind_ok_iff, pure_ok_iff] at added
              obtain ⟨later, further, rfl⟩ := added
              refine List.pairwise_cons.mpr ⟨?_, ih restOrdered further⟩
              intro key member
              obtain rfl | earlier := add_keys further key member
              · exact lt_of_le_of_ne (not_lt.mp past) (Ne.symm different)
              · exact least key earlier

theorem foldlM_add_ordered (ordered : totals.Ordered)
    (added : movements.foldlM (fun totals (asset, amount) => totals.add asset amount) totals =
      .ok after) : after.Ordered := by
  induction movements generalizing totals with
  | nil =>
      cases added
      exact ordered
  | cons movement rest ih =>
      rw [List.foldlM_cons, bind_ok_iff] at added
      obtain ⟨middle, first, others⟩ := added
      exact ih (add_ordered ordered first) others

theorem add_exists (exact : Exact (addArithmetic asset amount totals)) :
    ∃ after, add asset amount totals = .ok after := by
  induction totals with
  | nil =>
      obtain ⟨sum, added, -⟩ := (exact_cons_iff.mp exact).1
      exact ⟨_, bind_ok_iff.mpr ⟨sum, added, rfl⟩⟩
  | cons row rest ih =>
      obtain ⟨other, total⟩ := row
      unfold addArithmetic at exact
      unfold add
      split
      · next same =>
          rw [if_pos same] at exact
          obtain ⟨sum, added, -⟩ := (exact_cons_iff.mp exact).1
          exact ⟨_, bind_ok_iff.mpr ⟨sum, added, rfl⟩⟩
      · next different =>
          rw [if_neg different] at exact
          split
          · next before =>
              rw [if_pos before] at exact
              obtain ⟨sum, added, -⟩ := (exact_cons_iff.mp exact).1
              exact ⟨_, bind_ok_iff.mpr ⟨sum, added, rfl⟩⟩
          · next past =>
              rw [if_neg past] at exact
              obtain ⟨later, further⟩ := ih exact
              exact ⟨_, bind_ok_iff.mpr ⟨later, further, rfl⟩⟩

theorem foldlM_add_exists (exact : Exact (movementsArithmetic movements totals)) :
    ∃ after, movements.foldlM (fun totals (asset, amount) => totals.add asset amount) totals =
      .ok after := by
  induction movements generalizing totals with
  | nil => exact ⟨totals, rfl⟩
  | cons movement rest ih =>
      obtain ⟨asset, amount⟩ := movement
      rw [movementsArithmetic, exact_append_iff] at exact
      obtain ⟨middle, first⟩ := add_exists exact.1
      rw [first] at exact
      obtain ⟨after, others⟩ := ih exact.2
      exact ⟨after, by rw [List.foldlM_cons, bind_ok_iff]; exact ⟨middle, first, others⟩⟩

theorem sumOf_eq_zero {asset : String} (absent : asset ∉ movements.map (·.1)) :
    sumOf asset movements = 0 := by
  have none : movements.filter (·.1 == asset) = [] := by
    rw [List.filter_eq_nil_iff]
    intro movement member same
    exact absent (beq_iff_eq.mp same ▸ List.mem_map_of_mem member)
  simp [sumOf, none]

/-- Where each asset occurs once, what is made of a total is made of the one movement in it. -/
theorem apply_sumOf_cons (f : ℚ → ℚ) (zero : f 0 = 0) {movement : String × Decimal}
    (unique : ((movement :: movements).map (·.1)).Nodup) (asset : String) :
    f (sumOf asset (movement :: movements)) =
      (if movement.1 = asset then f movement.2.value else 0) + f (sumOf asset movements) := by
  rw [List.map_cons, List.nodup_cons] at unique
  rw [sumOf_cons]
  by_cases same : movement.1 = asset
  · rw [sumOf_eq_zero (same ▸ unique.1), if_pos same, if_pos same, zero, add_zero, add_zero]
  · rw [if_neg same, if_neg same, zero_add, zero_add]

/-- Where each asset occurs once, the sum of its movements is its total. -/
theorem sumOf_of_mem (unique : (movements.map (·.1)).Nodup) {movement : String × Decimal}
    (member : movement ∈ movements) : sumOf movement.1 movements = movement.2.value := by
  induction movements with
  | nil => contradiction
  | cons row rest ih =>
      rw [List.map_cons, List.nodup_cons] at unique
      rw [sumOf_cons]
      obtain rfl | later := List.mem_cons.mp member
      · rw [if_pos rfl, sumOf_eq_zero unique.1, add_zero]
      · have different : row.1 ≠ movement.1 := fun same =>
          unique.1 (same ▸ List.mem_map_of_mem later)
        rw [if_neg different, zero_add, ih unique.2 later]

end AssetTotals

/-- The sign with which a fill of this side moves the base asset. -/
def Side.sign : Side → ℚ
  | .buy => 1
  | .sell => -1

namespace FillEconomics

variable {execution : Execution} {pair : AssetPair} {economics : FillEconomics}
  {deltas : AssetTotals}

theorem netDeltas_exists (exact : Exact (AssetTotals.movementsArithmetic economics.movements [])) :
    ∃ deltas, economics.netDeltas = .ok deltas := by
  obtain ⟨totals, added⟩ := AssetTotals.foldlM_add_exists exact
  exact ⟨_, bind_ok_iff.mpr ⟨totals, added, rfl⟩⟩

theorem netDeltas_nodup (netted : economics.netDeltas = .ok deltas) :
    (deltas.map (·.1)).Nodup := by
  simp only [netDeltas, AssetTotals.ofMovements, bind_ok_iff, pure_ok_iff] at netted
  obtain ⟨totals, added, rfl⟩ := netted
  have empty : AssetTotals.Ordered [] := .nil
  have ordered := AssetTotals.foldlM_add_ordered empty added
  exact ordered.nodup.sublist (List.filter_sublist.map _)

/-- The movement of an asset by a fill of the given worth. -/
def movementOf (execution : Execution) (pair : AssetPair) (notional : ℚ) (asset : String) : ℚ :=
  execution.side.sign * ((if pair.base = asset then execution.quantity.value else 0) -
    if pair.quote = asset then notional else 0) -
  if execution.feeAsset = some asset then execution.fee.value else 0

theorem ofExecution_exists (exact : (Operation.mul execution.quantity execution.price).Exact)
    (pair : AssetPair) : ∃ economics, ofExecution execution pair = .ok economics := by
  obtain ⟨notional, given, -⟩ := exact
  exact ⟨_, bind_ok_iff.mpr ⟨notional, given, rfl⟩⟩

theorem sumOf_movements (exact : (Operation.mul execution.quantity execution.price).Exact)
    (valued : ofExecution execution pair = .ok economics) (asset : String) :
    AssetTotals.sumOf asset economics.movements =
      movementOf execution pair (execution.quantity.value * execution.price.value) asset := by
  obtain ⟨notional, given, value⟩ := exact
  have worth : execution.notional = .ok notional := given
  simp only [ofExecution, worth, bind_ok_iff, Except.ok.injEq, exists_eq_left', pure_ok_iff]
    at valued
  have kept : ∀ legs : List AssetLeg, AssetTotals.sumOf asset
      ((legs.filter fun leg => !leg.amount.isZero).map fun leg => (leg.asset, leg.amount)) =
      AssetTotals.sumOf asset (legs.map fun leg => (leg.asset, leg.amount)) := by
    intro legs
    rw [← AssetTotals.sumOf_filter_isZero asset (legs.map _), List.filter_map]
    rfl
  change notional.value = execution.quantity.value * execution.price.value at value
  rw [movements, ← valued, kept, movementOf, ← value]
  have none : AssetTotals.sumOf asset [] = 0 := rfl
  cases execution.side <;> cases execution.feeAsset <;>
    simp only [List.cons_append, List.nil_append, List.map_cons, List.map_nil,
      AssetTotals.sumOf_cons, none, value_neg, Side.sign, Option.some.injEq, reduceCtorEq,
      if_false] <;>
    split_ifs <;> ring

end FillEconomics

end SpotSettlement
