import SpotSettlement.AssetPair
import SpotSettlement.AssetTotals
import SpotSettlement.Execution.Basic

namespace SpotSettlement

/-! # The economics of a fill

A purchase brings in the base asset and pays the notional in the quote asset, a sale does the
reverse, and a fee is paid in its own asset.
-/

/-- What a movement stands for. -/
inductive LegKind where
  | base
  | quote
  | fee
  deriving DecidableEq, Repr, Inhabited

/-- One movement of the account: positive amounts come in, negative ones go out. -/
structure AssetLeg where
  kind : LegKind
  asset : String
  amount : Decimal
  deriving DecidableEq, Inhabited

/-- The movements of a fill, in the order base, quote, fee; none of them is zero. -/
structure FillEconomics where
  legs : List AssetLeg
  deriving DecidableEq, Inhabited

namespace FillEconomics

/-- The movements of an execution over the assets of its instrument. -/
def ofExecution (execution : Execution) (pair : AssetPair) :
    Except Decimal.Overflow FillEconomics := do
  let notional ← execution.notional
  let (base, quote) := match execution.side with
    | .buy => (execution.quantity, notional.neg)
    | .sell => (execution.quantity.neg, notional)
  let fees := match execution.feeAsset with
    | some asset => [AssetLeg.mk .fee asset execution.fee.neg]
    | none => []
  let legs := [AssetLeg.mk .base pair.base base, .mk .quote pair.quote quote] ++ fees
  return ⟨legs.filter fun leg => !leg.amount.isZero⟩

/-- The net movement of each asset, in the order of the assets, without those that net to zero. -/
def netDeltas (economics : FillEconomics) : Except Decimal.Overflow AssetTotals := do
  let totals ← AssetTotals.ofMovements (economics.legs.map fun leg => (leg.asset, leg.amount))
  return totals.filter fun (_, amount) => !amount.isZero

end FillEconomics

end SpotSettlement
