import SpotSettlement.Proofs.Ledger.NetMovements

namespace SpotSettlement

/-! # What passes as balanced

A transaction is verified by adding up its entries asset by asset.  As long as no sum rounds, it
passes exactly if it has entries, all of positive amounts, and every asset is credited as much as it
is debited.  Sums do not depend on the order of entries, so neither does the verdict, nor what it
says of the first asset that does not net to zero.
-/

open Decimal

namespace AssetTotals

variable {totals : AssetTotals} {asset : String} {amount : Decimal}

/-- Of totals in their order, the first that is not zero belongs to the first asset whose sum is
not. -/
theorem Ordered.find?_nonzero (ordered : totals.Ordered)
    (found : totals.find? (fun row => !row.2.isZero) = some (asset, amount)) :
    amount.value = sumOf asset totals ∧ amount.value ≠ 0 ∧
      ∀ other < asset, sumOf other totals = 0 := by
  obtain ⟨nonzero, before, behind, rfl, zeros⟩ := List.find?_eq_some_iff_append.mp found
  have member : (asset, amount) ∈ before ++ (asset, amount) :: behind :=
    List.mem_append_right _ List.mem_cons_self
  refine ⟨(sumOf_of_mem ordered.nodup member).symm, ?_, ?_⟩
  · rw [Ne, ← isZero_iff_value]
    simpa using nonzero
  · intro other less
    by_cases present : other ∈ (before ++ (asset, amount) :: behind).map (·.1)
    · obtain ⟨row, member, rfl⟩ := List.mem_map.mp present
      rw [sumOf_of_mem ordered.nodup member, ← isZero_iff_value]
      -- A row of an asset before the one found stands before it.
      unfold Ordered at ordered
      rw [List.map_append, List.map_cons, List.pairwise_append, List.pairwise_cons] at ordered
      obtain ⟨-, ⟨later, -⟩, -⟩ := ordered
      obtain earlier | here := List.mem_append.mp member
      · simpa using zeros row earlier
      · obtain rfl | behind := List.mem_cons.mp here
        · exact absurd less (lt_irrefl _)
        · exact absurd less (lt_asymm (later row.1 (List.mem_map_of_mem behind)))
    · exact sumOf_eq_zero present

theorem find?_nonzero_none (zeros : totals.find? (fun row => !row.2.isZero) = none)
    (asset : String) : sumOf asset totals = 0 := by
  rw [List.find?_eq_none] at zeros
  refine List.sum_eq_zero fun value member => ?_
  obtain ⟨row, selected, rfl⟩ := List.mem_map.mp member
  rw [← isZero_iff_value]
  simpa using zeros row (List.mem_of_mem_filter selected)

end AssetTotals

namespace LedgerEntry

variable {entries others : List LedgerEntry}

/-- The sum of the amounts that are booked in one direction in an asset. -/
def totalOf (direction : Direction) (asset : String) (entries : List LedgerEntry) : ℚ :=
  ((entries.filter fun entry => entry.direction == direction && entry.asset == asset).map
    (·.amount.value)).sum

/-- What a transaction has to be: there are entries, their amounts are positive, and every asset is
credited as much as it is debited. -/
structure Balanced (entries : List LedgerEntry) : Prop where
  booked : entries ≠ []
  positive : ∀ entry ∈ entries, 0 < entry.amount.value
  cancels : ∀ asset, totalOf .credit asset entries = totalOf .debit asset entries

/-- The movements that entries stand for, credits positive and debits negative. -/
def movements (entries : List LedgerEntry) : List (String × Decimal) :=
  entries.map fun entry => (entry.asset, entry.signedAmount)

/-- Adding up the entries asset by asset neither rounds nor overflows. -/
def AddUp (entries : List LedgerEntry) : Prop :=
  Exact (AssetTotals.movementsArithmetic (movements entries) [])

instance (entries : List LedgerEntry) : Decidable (AddUp entries) :=
  inferInstanceAs (Decidable (Exact _))

theorem totalOf_cons (direction : Direction) (asset : String) (entry : LedgerEntry)
    (rest : List LedgerEntry) : totalOf direction asset (entry :: rest) =
      (if entry.direction = direction ∧ entry.asset = asset then entry.amount.value else 0) +
        totalOf direction asset rest := by
  by_cases selected : entry.direction = direction ∧ entry.asset = asset
  · simp [totalOf, selected]
  · rw [if_neg selected, zero_add]
    unfold totalOf
    rw [List.filter_cons_of_neg (by simpa using selected)]

theorem totalOf_perm (same : entries.Perm others) (direction : Direction) (asset : String) :
    totalOf direction asset entries = totalOf direction asset others :=
  ((same.filter _).map _).sum_eq

theorem Balanced.perm (balanced : Balanced entries) (same : entries.Perm others) :
    Balanced others where
  booked none := balanced.booked (List.Perm.eq_nil (none ▸ same))
  positive entry member := balanced.positive entry (same.mem_iff.mpr member)
  cancels asset := by
    rw [← totalOf_perm same, ← totalOf_perm same]
    exact balanced.cancels asset

theorem sumOf_movements (asset : String) (entries : List LedgerEntry) :
    AssetTotals.sumOf asset (movements entries) =
      totalOf .credit asset entries - totalOf .debit asset entries := by
  induction entries with
  | nil => simp [movements, AssetTotals.sumOf, totalOf]
  | cons entry rest ih =>
      have split : AssetTotals.sumOf asset (movements (entry :: rest)) =
          (if entry.asset = asset then entry.signedAmount.value else 0) +
            AssetTotals.sumOf asset (movements rest) := AssetTotals.sumOf_cons ..
      rw [split, ih, totalOf_cons, totalOf_cons, signedAmount]
      by_cases same : entry.asset = asset
      · cases entry.direction <;> simp [same] <;> ring
      · simp [same]

/-- Entries that add up come to totals in order, each of them what the asset nets to. -/
theorem AddUp.netOf (exact : AddUp entries) : ∃ nets, LedgerTransaction.netOf entries = .ok nets ∧
    nets.Ordered ∧ ∀ asset, AssetTotals.sumOf asset nets =
      totalOf .credit asset entries - totalOf .debit asset entries := by
  obtain ⟨nets, added⟩ := AssetTotals.foldlM_add_exists exact
  have empty : AssetTotals.Ordered [] := .nil
  refine ⟨nets, added, AssetTotals.foldlM_add_ordered empty added, fun asset => ?_⟩
  have none : AssetTotals.sumOf asset [] = 0 := rfl
  rw [AssetTotals.foldlM_add_exact exact added, none, zero_add, sumOf_movements]

end LedgerEntry

namespace LedgerTransaction

open LedgerEntry

variable {transaction : LedgerTransaction} {id asset : String} {value : ℚ}

/-- An asset that does not net to zero, the first of them in the order of the alphabet. -/
structure FirstOff (entries : List LedgerEntry) (asset : String) (value : ℚ) : Prop where
  net : value = totalOf .credit asset entries - totalOf .debit asset entries
  nonzero : value ≠ 0
  first : ∀ other < asset, totalOf .credit other entries = totalOf .debit other entries

/-- What verification comes to. -/
inductive Verdict (transaction : LedgerTransaction) : Except Failure Unit → Prop where
  | noEntries (none : transaction.entries = []) :
      Verdict transaction (.error (.refused (.ledger (.noEntries transaction.id))))
  | nonPositive {entry : LedgerEntry} (member : entry ∈ transaction.entries)
      (negative : ¬0 < entry.amount.value) :
      Verdict transaction (.error (.refused (.ledger (.nonPositiveAmount entry.amount))))
  | unbalanced {asset : String} {net : Decimal} (booked : transaction.entries ≠ [])
      (positive : ∀ entry ∈ transaction.entries, 0 < entry.amount.value)
      (off : FirstOff transaction.entries asset net.value) :
      Verdict transaction (.error (.refused (.ledger (.unbalanced transaction.id asset net))))
  | balanced (holds : Balanced transaction.entries) : Verdict transaction (.ok ())

theorem FirstOff.unique {entries : List LedgerEntry} {asset other : String} {value net : ℚ}
    (off : FirstOff entries asset value) (same : FirstOff entries other net) :
    asset = other ∧ value = net := by
  have least : ∀ {asset other : String} {value net : ℚ}, FirstOff entries asset value →
      FirstOff entries other net → ¬asset < other := by
    intro asset other value net off same less
    exact off.nonzero (off.net.trans (sub_eq_zero.mpr (same.first asset less)))
  obtain rfl : asset = other :=
    le_antisymm (not_lt.mp (least same off)) (not_lt.mp (least off same))
  exact ⟨rfl, off.net.trans same.net.symm⟩

theorem FirstOff.perm {entries others : List LedgerEntry} (off : FirstOff entries asset value)
    (same : entries.Perm others) : FirstOff others asset value where
  net := by rw [← totalOf_perm same, ← totalOf_perm same]; exact off.net
  nonzero := off.nonzero
  first other less := by
    rw [← totalOf_perm same, ← totalOf_perm same]
    exact off.first other less

theorem verifyBalanced_verdict (exact : AddUp transaction.entries) :
    transaction.Verdict transaction.verifyBalanced := by
  unfold verifyBalanced
  by_cases empty : transaction.entries.isEmpty = true
  · rw [if_pos empty]
    exact .noEntries (by simpa using empty)
  rw [if_neg empty]
  have booked : transaction.entries ≠ [] := by simpa using empty
  cases amounts : transaction.entries.find? fun entry => !entry.amount.isPositive with
  | some entry =>
      refine .nonPositive (List.mem_of_find?_eq_some amounts) ?_
      rw [← isPositive_iff_value]
      simpa using List.find?_some amounts
  | none =>
      have positive : ∀ entry ∈ transaction.entries, 0 < entry.amount.value := by
        intro entry member
        rw [← isPositive_iff_value]
        simpa using List.find?_eq_none.mp amounts entry member
      obtain ⟨nets, netted, ordered, sums⟩ := exact.netOf
      rw [netted]
      dsimp only [liftM, monadLift, bind, Except.bind]
      cases found : nets.find? fun row => !row.2.isZero with
      | none =>
          refine .balanced ⟨booked, positive, fun asset => ?_⟩
          rw [← sub_eq_zero, ← sums, AssetTotals.find?_nonzero_none found]
      | some row =>
          obtain ⟨net, nonzero, first⟩ := ordered.find?_nonzero found
          refine .unbalanced booked positive ⟨net.trans (sums _), nonzero, ?_⟩
          intro other less
          rw [← sub_eq_zero, ← sums, first other less]

theorem verifyBalanced_ok_iff (exact : AddUp transaction.entries) :
    transaction.verifyBalanced = .ok () ↔ Balanced transaction.entries := by
  have verdict := verifyBalanced_verdict exact
  generalize transaction.verifyBalanced = outcome at verdict
  cases verdict with
  | noEntries none => exact ⟨nofun, fun balanced => absurd none balanced.booked⟩
  | nonPositive member negative =>
      exact ⟨nofun, fun balanced => absurd (balanced.positive _ member) negative⟩
  | unbalanced booked positive off =>
      exact ⟨nofun, fun balanced =>
        absurd (off.net.trans (sub_eq_zero.mpr (balanced.cancels _))) off.nonzero⟩
  | balanced holds => exact ⟨fun _ => holds, fun _ => rfl⟩

theorem verifyBalanced_unbalanced_iff (exact : AddUp transaction.entries) :
    (∃ net : Decimal, net.value = value ∧ transaction.verifyBalanced =
        .error (.refused (.ledger (.unbalanced id asset net)))) ↔
      id = transaction.id ∧ transaction.entries ≠ [] ∧
      (∀ entry ∈ transaction.entries, 0 < entry.amount.value) ∧
      FirstOff transaction.entries asset value := by
  have verdict := verifyBalanced_verdict exact
  generalize transaction.verifyBalanced = outcome at verdict
  constructor
  · rintro ⟨net, rfl, rfl⟩
    cases verdict with
    | unbalanced booked positive off => exact ⟨rfl, booked, positive, off⟩
  · rintro ⟨rfl, booked, positive, off⟩
    cases verdict with
    | noEntries none => exact absurd none booked
    | nonPositive member negative => exact absurd (positive _ member) negative
    | unbalanced _ _ found =>
        obtain ⟨rfl, rfl⟩ := off.unique found
        exact ⟨_, rfl, rfl⟩
    | balanced holds =>
        exact absurd (off.net.trans (sub_eq_zero.mpr (holds.cancels asset))) off.nonzero

theorem verifyBalanced_nonPositive_iff (exact : AddUp transaction.entries) :
    (∃ amount, transaction.verifyBalanced =
        .error (.refused (.ledger (.nonPositiveAmount amount)))) ↔
      ∃ entry ∈ transaction.entries, ¬0 < entry.amount.value := by
  have verdict := verifyBalanced_verdict exact
  generalize transaction.verifyBalanced = outcome at verdict
  constructor
  · rintro ⟨amount, rfl⟩
    cases verdict with
    | nonPositive member negative => exact ⟨_, member, negative⟩
  · rintro ⟨entry, member, negative⟩
    cases verdict with
    | noEntries none => exact absurd (none ▸ member) List.not_mem_nil
    | nonPositive _ _ => exact ⟨_, rfl⟩
    | unbalanced _ positive _ => exact absurd (positive entry member) negative
    | balanced holds => exact absurd (holds.positive entry member) negative

/-- A transaction whose entries add up without rounding passes exactly if it is balanced.  An amount
is found fault with exactly if one is not positive, and an asset is named as out of balance, with
its net, exactly if the entries are there, all amounts are positive and it is the first asset that
does not net to zero.  Nothing of this depends on the order of the entries. -/
theorem balanced_transactions_pass (exact : AddUp transaction.entries) :
    (transaction.verifyBalanced = .ok () ↔ Balanced transaction.entries) ∧
    ((∃ amount, transaction.verifyBalanced =
        .error (.refused (.ledger (.nonPositiveAmount amount)))) ↔
      ∃ entry ∈ transaction.entries, ¬0 < entry.amount.value) ∧
    (∀ id asset value, (∃ net : Decimal, net.value = value ∧ transaction.verifyBalanced =
        .error (.refused (.ledger (.unbalanced id asset net)))) ↔
      id = transaction.id ∧ transaction.entries ≠ [] ∧
      (∀ entry ∈ transaction.entries, 0 < entry.amount.value) ∧
      FirstOff transaction.entries asset value) ∧
    ∀ other : LedgerTransaction, transaction.entries.Perm other.entries → AddUp other.entries →
      (transaction.verifyBalanced = .ok () ↔ other.verifyBalanced = .ok ()) ∧
      ((∃ amount, transaction.verifyBalanced =
          .error (.refused (.ledger (.nonPositiveAmount amount)))) ↔
        ∃ amount, other.verifyBalanced =
          .error (.refused (.ledger (.nonPositiveAmount amount)))) ∧
      ∀ asset value, (∃ net : Decimal, net.value = value ∧ transaction.verifyBalanced =
          .error (.refused (.ledger (.unbalanced transaction.id asset net)))) ↔
        ∃ net : Decimal, net.value = value ∧ other.verifyBalanced =
          .error (.refused (.ledger (.unbalanced other.id asset net))) := by
  refine ⟨verifyBalanced_ok_iff exact, verifyBalanced_nonPositive_iff exact,
    fun _ _ _ => verifyBalanced_unbalanced_iff exact, ?_⟩
  intro other same also
  refine ⟨?_, ?_, ?_⟩
  · rw [verifyBalanced_ok_iff exact, verifyBalanced_ok_iff also]
    exact ⟨fun balanced => balanced.perm same, fun balanced => balanced.perm same.symm⟩
  · rw [verifyBalanced_nonPositive_iff exact, verifyBalanced_nonPositive_iff also]
    simp only [same.mem_iff]
  · intro asset value
    rw [verifyBalanced_unbalanced_iff exact, verifyBalanced_unbalanced_iff also]
    have booked : transaction.entries ≠ [] ↔ other.entries ≠ [] := not_congr
      ⟨fun empty => List.Perm.eq_nil (empty ▸ same.symm),
        fun empty => List.Perm.eq_nil (empty ▸ same)⟩
    have off : FirstOff transaction.entries asset value ↔ FirstOff other.entries asset value :=
      ⟨fun off => off.perm same, fun off => off.perm same.symm⟩
    simp only [booked, same.mem_iff, off, true_and]

end LedgerTransaction

namespace Sample

def entry (direction : Direction) (asset : String) (amount : Nat) : LedgerEntry where
  transactionId := "l-1"
  account := "a-1"
  asset := asset
  direction := direction
  amount := units amount
  referenceType := .execution
  referenceId := "e-1"

def lopsided (entries : List LedgerEntry) : LedgerTransaction where
  id := "l-1"
  correlationId := "e-1"
  transactionType := .execution
  createdAt := default
  entries := entries

/-- Bitcoin cancels; the other two assets do not, and the dollars are booked first. -/
def lopsidedEntries : List LedgerEntry :=
  [entry .credit "USDT" 7, entry .debit "BTC" 2, entry .debit "USDT" 3, entry .credit "ETH" 1,
    entry .credit "BTC" 2]

end Sample

theorem first_asset_off_is_named :
    LedgerEntry.AddUp Sample.lopsidedEntries ∧ LedgerEntry.AddUp Sample.lopsidedEntries.reverse ∧
    (∃ net : Decimal, net.value = 1 ∧
      (Sample.lopsided Sample.lopsidedEntries).verifyBalanced =
        .error (.refused (.ledger (.unbalanced "l-1" "ETH" net)))) ∧
    ∃ net : Decimal, net.value = 1 ∧
      (Sample.lopsided Sample.lopsidedEntries.reverse).verifyBalanced =
        .error (.refused (.ledger (.unbalanced "l-1" "ETH" net))) := by
  have exact : LedgerEntry.AddUp Sample.lopsidedEntries := by decide +kernel
  have also : LedgerEntry.AddUp Sample.lopsidedEntries.reverse := by decide +kernel
  have positive : ∀ entry ∈ Sample.lopsidedEntries, 0 < entry.amount.value := by decide +kernel
  have off : LedgerTransaction.FirstOff Sample.lopsidedEntries "ETH" 1 := by
    refine ⟨by decide +kernel, by decide, ?_⟩
    intro other less
    by_cases bitcoin : other = "BTC"
    · subst bitcoin
      decide +kernel
    · have apart : other ≠ "USDT" := by
        rintro rfl
        exact absurd less (by decide)
      simp [Sample.lopsidedEntries, Sample.entry, LedgerEntry.totalOf, Ne.symm bitcoin,
        Ne.symm apart, less.ne']
  obtain ⟨-, -, named, permuted⟩ := @LedgerTransaction.balanced_transactions_pass
    (Sample.lopsided Sample.lopsidedEntries) exact
  have first := (named "l-1" "ETH" 1).mpr ⟨rfl, List.cons_ne_nil _ _, positive, off⟩
  obtain ⟨-, -, same⟩ := permuted (Sample.lopsided Sample.lopsidedEntries.reverse)
    (List.reverse_perm _).symm also
  exact ⟨exact, also, first, (same "ETH" 1).mp first⟩

end SpotSettlement
