import SpotSettlement.Text.Blank
import SpotSettlement.Text.Uppercase

namespace SpotSettlement

/-! # Asset pairs

A spot instrument trades a base asset against a quote asset.  A symbol with a separator names both;
a symbol without one ends in a known quote asset, and of several known ones the longest counts.
-/

/-- The two assets of an instrument. -/
structure AssetPair where
  base : String
  quote : String
  deriving DecidableEq, Repr, Inhabited

namespace AssetPair

/-- The pair of two assets, in upper case. -/
def ofAssets (base quote : String) : AssetPair := ⟨Text.upper base, Text.upper quote⟩

def text (pair : AssetPair) : String := pair.base ++ "/" ++ pair.quote

/-- The quote assets that are known when nothing else is configured. -/
def defaultQuotes : List String :=
  ["FDUSD", "USDT", "USDC", "BUSD", "TUSD", "DAI", "BTC", "ETH", "BNB", "EUR", "TRY", "USD"]

/-- The characters that separate base and quote in a symbol. -/
def isSeparator (c : Char) : Bool := c == '-' || c == '/' || c == '_'

/-- A symbol in the form in which symbols are compared. -/
def canonical (symbol : String) : String := Text.upper (Text.trim symbol)

/-- The text before a proper suffix. -/
def beforeSuffix? (text suffix : List Char) : Option (List Char) :=
  if suffix.length < text.length ∧ text.drop (text.length - suffix.length) = suffix then
    some (text.take (text.length - suffix.length))
  else none

/-- The known quotes, those with more bytes first. -/
def longestFirst (quotes : List String) : List String :=
  quotes.mergeSort fun a b => b.utf8ByteSize ≤ a.utf8ByteSize

/-- Splits a canonical symbol at its first separator. -/
def ofSeparated? (symbol : List Char) : Option AssetPair :=
  let base := symbol.takeWhile (!isSeparator ·)
  let quote := (symbol.dropWhile (!isSeparator ·)).drop 1
  if base.isEmpty ∨ quote.isEmpty then none
  else some (ofAssets (String.ofList base) (String.ofList quote))

/-- Splits a canonical symbol before the first of the quotes that is a proper suffix of it. -/
def ofSuffix? (symbol : List Char) (quotes : List String) : Option AssetPair :=
  quotes.findSome? fun quote =>
    let quote := Text.upper quote
    (beforeSuffix? symbol quote.toList).map fun base => ofAssets (String.ofList base) quote

/-- The pair that a symbol names, given the known quotes. -/
def derive (symbol : String) (knownQuotes : List String) : Option AssetPair :=
  let symbol := (canonical symbol).toList
  if symbol.any isSeparator then ofSeparated? symbol
  else ofSuffix? symbol (longestFirst knownQuotes)

end AssetPair

end SpotSettlement
