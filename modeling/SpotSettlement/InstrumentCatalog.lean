import SpotSettlement.AssetPair

namespace SpotSettlement

/-! # The catalog of instruments

Configured instruments have a pair, given or derived from the symbol, and may be active, which
means that their trades are polled.  An instrument whose pair cannot be told is left out.
-/

structure InstrumentDefinition where
  symbol : String
  base : Option String := none
  quote : Option String := none
  active : Bool := true
  deriving DecidableEq, Repr, Inhabited

/-- The resolved instruments. -/
structure InstrumentCatalog where
  /-- Canonical symbols with their pairs; of several entries for a symbol the first counts. -/
  pairs : List (String × AssetPair)
  /-- The active symbols, each once, in order of definition. -/
  active : List String
  /-- The quote assets tried for symbols that are not configured. -/
  quotes : List String
  deriving DecidableEq, Repr, Inhabited

namespace InstrumentCatalog

/-- The pair of a definition.  Explicit assets count only together. -/
def pairOf (quotes : List String) (definition : InstrumentDefinition) : Option AssetPair :=
  match definition.base, definition.quote with
  | some base, some quote => some (.ofAssets base quote)
  | _, _ => AssetPair.derive (AssetPair.canonical definition.symbol) quotes

/-- The catalog with one more definition, which replaces an earlier one of the same symbol. -/
def add (catalog : InstrumentCatalog) (definition : InstrumentDefinition) : InstrumentCatalog :=
  let symbol := AssetPair.canonical definition.symbol
  match pairOf catalog.quotes definition with
  | none => catalog
  | some pair =>
    { catalog with
      pairs := (symbol, pair) :: catalog.pairs.filter (·.1 != symbol)
      active := if definition.active && !catalog.active.contains symbol
        then catalog.active ++ [symbol] else catalog.active }

/-- The catalog of a list of definitions.  Without quotes the default ones are known. -/
def ofDefinitions (definitions : List InstrumentDefinition) (quotes : List String) :
    InstrumentCatalog :=
  let quotes := if quotes.isEmpty then AssetPair.defaultQuotes else quotes.map Text.upper
  definitions.foldl add ⟨[], [], quotes⟩

def size (catalog : InstrumentCatalog) : Nat := catalog.pairs.length

/-- The pair of a configured symbol. -/
def resolve (catalog : InstrumentCatalog) (symbol : String) : Option AssetPair :=
  catalog.pairs.lookup (AssetPair.canonical symbol)

/-- The pair of any symbol: the configured one, else the one that the symbol names. -/
def assetPair (catalog : InstrumentCatalog) (symbol : String) : Option AssetPair :=
  (catalog.resolve symbol).or (AssetPair.derive symbol catalog.quotes)

end InstrumentCatalog

end SpotSettlement
