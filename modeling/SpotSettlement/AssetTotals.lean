import SpotSettlement.Decimal.Arithmetic

namespace SpotSettlement

/-! # Totals by asset

Sums of amounts, one for each asset.  Adding to a sum may overflow.
-/

/-- Amounts by asset, in the order of the asset codes; each asset occurs once. -/
abbrev AssetTotals := List (String × Decimal)

namespace AssetTotals

/-- Adds an amount to the total of an asset, which starts at zero. -/
def add (asset : String) (amount : Decimal) :
    AssetTotals → Except Decimal.Overflow AssetTotals
  | [] => do return [(asset, ← Decimal.zero.add amount)]
  | (other, total) :: rest =>
    if asset = other then do return (other, ← total.add amount) :: rest
    else if asset < other then do
      return (asset, ← Decimal.zero.add amount) :: (other, total) :: rest
    else do return (other, total) :: (← add asset amount rest)

def ofMovements (movements : List (String × Decimal)) : Except Decimal.Overflow AssetTotals :=
  movements.foldlM (fun totals (asset, amount) => totals.add asset amount) []

end AssetTotals

end SpotSettlement
