import Mathlib.Data.List.Basic
import Mathlib.Data.String.Basic
import SpotSettlement.Proofs.Settlement.Creation
import SpotSettlement.Proofs.Text.Uppercase

namespace SpotSettlement

/-! # What a symbol names

A symbol with a separator is split there.  Any other is split before the longest of the known quotes
that leaves a base, whatever the order in which they are listed.  The case of a symbol and the
blanks around it do not count.
-/

namespace AssetPair

variable {c : Char} {text suffix base rest : List Char} {symbol other quote : String}
variable {quotes others : List String} {pair : AssetPair}

/-- The characters at which a symbol is split. -/
def Separates (c : Char) : Prop := c = '-' ∨ c = '/' ∨ c = '_'

instance : DecidablePred Separates := fun c => inferInstanceAs (Decidable (c = '-' ∨ _))

/-- The text ends in the suffix and has something before it. -/
def EndsIn (text suffix : String) : Prop := ∃ base, base ≠ "" ∧ base ++ suffix = text

/-- The text is made of ASCII characters. -/
def Ascii (text : String) : Prop := ∀ c ∈ text.toList, c.toNat < 128

/-- The symbols are equal up to ASCII case and the blanks around them. -/
def SameSymbol (symbol other : String) : Prop :=
  Text.asciiLower (Text.trim symbol) = Text.asciiLower (Text.trim other)

instance : Decidable (SameSymbol symbol other) := inferInstanceAs (Decidable (_ = _))

theorem isSeparator_iff : isSeparator c = true ↔ Separates c := by
  simp [isSeparator, Separates, or_assoc]

theorem isSeparator_eq_false_iff : isSeparator c = false ↔ ¬ Separates c := by
  rw [← isSeparator_iff, Bool.not_eq_true]

theorem endsIn_iff {text suffix : String} :
    EndsIn text suffix ↔ ∃ base, base ≠ [] ∧ base ++ suffix.toList = text.toList := by
  constructor
  · rintro ⟨base, nonempty, rfl⟩
    refine ⟨base.toList, ?_, String.toList_append.symm⟩
    rwa [ne_eq, String.toList_eq_nil_iff]
  · rintro ⟨base, nonempty, split⟩
    refine ⟨String.ofList base, ?_, ?_⟩
    · rwa [ne_eq, String.ofList_eq_empty_iff]
    · rw [← String.toList_inj, String.toList_append, String.toList_ofList, split]

theorem uppercase_canonical (symbol : String) : Text.Uppercase (canonical symbol).toList :=
  Text.uppercase_upper _

theorem canonical_canonical (symbol : String) :
    canonical (canonical symbol) = canonical symbol := by
  have trimmed := (Text.trimmed_trimChars symbol.toList).flatMap_upperChar
  have same : Text.trim (canonical symbol) = canonical symbol := by
    unfold canonical Text.upper Text.trim
    rw [String.toList_ofList, String.toList_ofList, trimmed.trimChars_eq]
  rw [canonical, same]
  exact Text.upper_upper _

theorem SameSymbol.canonical_eq (same : SameSymbol symbol other) :
    canonical symbol = canonical other :=
  Text.upper_of_asciiLower same

theorem derive_of_canonical (same : canonical symbol = canonical other) (quotes : List String) :
    derive symbol quotes = derive other quotes := by
  simp only [derive, same]

theorem ofSeparated?_append (separates : Separates c) (plain : ∀ d ∈ base, ¬ Separates d)
    (uppercase : Text.Uppercase (base ++ c :: rest)) :
    ofSeparated? (base ++ c :: rest) =
      if base = [] ∨ rest = [] then none
      else some ⟨String.ofList base, String.ofList rest⟩ := by
  have passes : ∀ d ∈ base, (!isSeparator d) = true := by
    intro d member
    simpa using isSeparator_eq_false_iff.mpr (plain d member)
  have stops := isSeparator_iff.mpr separates
  have before : (base ++ c :: rest).takeWhile (!isSeparator ·) = base := by
    rw [List.takeWhile_append_of_pos passes]
    simp [stops]
  have behind : (base ++ c :: rest).dropWhile (!isSeparator ·) = c :: rest := by
    rw [List.dropWhile_append_of_pos passes]
    simp [stops]
  obtain ⟨ofBase, ofRest⟩ := List.forall_mem_append.mp uppercase
  have pair : ofAssets (String.ofList base) (String.ofList rest) =
      ⟨String.ofList base, String.ofList rest⟩ := by
    rw [ofAssets, Text.Uppercase.upper_ofList ofBase,
      Text.Uppercase.upper_ofList (List.forall_mem_cons.mp ofRest).2]
  simp only [ofSeparated?, before, behind, List.drop_one, List.tail_cons, List.isEmpty_iff, pair]

theorem derive_separated (split : (canonical symbol).toList = base ++ c :: rest)
    (separates : Separates c) (plain : ∀ d ∈ base, ¬ Separates d) (quotes : List String) :
    derive symbol quotes =
      if base = [] ∨ rest = [] then none
      else some ⟨String.ofList base, String.ofList rest⟩ := by
  have uppercase := uppercase_canonical symbol
  rw [split] at uppercase
  have found : (base ++ c :: rest).any isSeparator = true := by
    simp [isSeparator_iff.mpr separates]
  rw [derive, split, if_pos found, ofSeparated?_append separates plain uppercase]

theorem beforeSuffix?_eq_some_iff :
    beforeSuffix? text suffix = some base ↔ base ≠ [] ∧ base ++ suffix = text := by
  unfold beforeSuffix?
  constructor
  · split
    · next ends =>
        rintro ⟨⟩
        refine ⟨?_, ?_⟩
        · rw [ne_eq, List.take_eq_nil_iff, not_or, ← List.length_eq_zero_iff]
          omega
        · have whole := List.take_append_drop (text.length - suffix.length) text
          rwa [ends.2] at whole
    · rintro ⟨⟩
  · rintro ⟨nonempty, rfl⟩
    have positive := List.length_pos_iff.mpr nonempty
    simp [positive]

theorem beforeSuffix?_eq_none_iff :
    beforeSuffix? text suffix = none ↔ ¬ ∃ base, base ≠ [] ∧ base ++ suffix = text := by
  simp only [← beforeSuffix?_eq_some_iff, Option.eq_none_iff_forall_ne_some, not_exists]

/-- The pair that a quote gives when it is tried as the end of the text. -/
def tryQuote (text quote : String) : Option AssetPair :=
  (beforeSuffix? text.toList (Text.upper quote).toList).map fun base =>
    ofAssets (String.ofList base) (Text.upper quote)

theorem tryQuote_eq_none_iff {text : String} :
    tryQuote text quote = none ↔ ¬ EndsIn text (Text.upper quote) := by
  rw [tryQuote, Option.map_eq_none_iff, beforeSuffix?_eq_none_iff, endsIn_iff]

theorem tryQuote_eq_some {text : String} (uppercase : Text.Uppercase text.toList)
    (tried : tryQuote text quote = some pair) :
    pair.base ≠ "" ∧ pair.base ++ pair.quote = text ∧ pair.quote = Text.upper quote := by
  obtain ⟨base, ends, rfl⟩ := Option.map_eq_some_iff.mp tried
  obtain ⟨nonempty, split⟩ := beforeSuffix?_eq_some_iff.mp ends
  rw [← split] at uppercase
  have kept := Text.Uppercase.upper_ofList (List.forall_mem_append.mp uppercase).1
  have quoteKept := Text.upper_upper quote
  refine ⟨?_, ?_, quoteKept⟩
  · simpa only [ofAssets, kept, ne_eq, String.ofList_eq_empty_iff] using nonempty
  · simp only [ofAssets, kept, quoteKept]
    rw [← String.toList_inj, String.toList_append, String.toList_ofList, split]

theorem derive_plain (plain : ∀ c ∈ (canonical symbol).toList, ¬ Separates c)
    (quotes : List String) :
    derive symbol quotes = (longestFirst quotes).findSome? (tryQuote (canonical symbol)) := by
  have none : ¬ (canonical symbol).toList.any isSeparator = true := by
    simpa [isSeparator_iff] using plain
  rw [derive, if_neg none]
  rfl

theorem mem_longestFirst : quote ∈ longestFirst quotes ↔ quote ∈ quotes := List.mem_mergeSort

theorem longestFirst_sorted (quotes : List String) :
    (longestFirst quotes).Pairwise fun first later => later.utf8ByteSize ≤ first.utf8ByteSize := by
  have sorted : (longestFirst quotes).Pairwise fun first later =>
      decide (later.utf8ByteSize ≤ first.utf8ByteSize) = true := by
    refine List.pairwise_mergeSort ?_ ?_ quotes
    · intro first second third
      simp only [decide_eq_true_eq]
      omega
    · intro first second
      simp only [Bool.or_eq_true, decide_eq_true_eq]
      omega
  simpa only [decide_eq_true_eq] using sorted

theorem derive_plain_eq_none_iff (plain : ∀ c ∈ (canonical symbol).toList, ¬ Separates c) :
    derive symbol quotes = none ↔
      ∀ quote ∈ quotes, ¬ EndsIn (canonical symbol) (Text.upper quote) := by
  rw [derive_plain plain, List.findSome?_eq_none_iff]
  simp only [mem_longestFirst, tryQuote_eq_none_iff]

theorem derive_plain_eq_some (plain : ∀ c ∈ (canonical symbol).toList, ¬ Separates c)
    (derived : derive symbol quotes = some pair) :
    pair.base ≠ "" ∧ pair.base ++ pair.quote = canonical symbol ∧
      ∃ quote ∈ quotes, pair.quote = Text.upper quote ∧
        ∀ longer ∈ quotes, quote.utf8ByteSize < longer.utf8ByteSize →
          ¬ EndsIn (canonical symbol) (Text.upper longer) := by
  rw [derive_plain plain, List.findSome?_eq_some_iff] at derived
  obtain ⟨before, quote, behind, split, tried, failed⟩ := derived
  obtain ⟨nonempty, whole, named⟩ := tryQuote_eq_some (uppercase_canonical symbol) tried
  refine ⟨nonempty, whole, quote, mem_longestFirst.mp (by simp [split]), named, ?_⟩
  intro longer listed exceeds
  have sorted := longestFirst_sorted quotes
  rw [split] at sorted
  have place : longer ∈ before ++ quote :: behind := by
    rw [← split]
    exact mem_longestFirst.mpr listed
  obtain early | rfl | late := by simpa using place
  · exact tryQuote_eq_none_iff.mp (failed longer early)
  · omega
  · have bounded := List.rel_of_pairwise_cons (List.pairwise_append.mp sorted).2.1 late
    omega

theorem length_upper_of_ascii (ascii : Ascii quote) :
    (Text.upper quote).toList.length = quote.utf8ByteSize := by
  have counted (characters : List Char) (ascii : ∀ c ∈ characters, c.toNat < 128) :
      (characters.flatMap Text.upperChar).length = String.utf8Len characters := by
    induction characters with
    | nil => rfl
    | cons c rest ih =>
        obtain ⟨first, later⟩ := List.forall_mem_cons.mp ascii
        have narrow : c.val ≤ 127 := UInt32.le_iff_toNat_le.mpr (Nat.le_of_lt_succ first)
        have single : c.utf8Size = 1 := Char.utf8Size_eq_one_iff.mpr narrow
        rw [List.flatMap_cons, List.length_append, ih later, Text.upperChar_of_ascii first,
          String.utf8Len_cons, single, List.length_singleton, Nat.add_comm]
  rw [Text.upper, String.toList_ofList, counted quote.toList ascii, ← String.utf8ByteSize_ofList,
    String.ofList_toList]

theorem eq_of_length_eq {first second : AssetPair}
    (whole : first.base ++ first.quote = second.base ++ second.quote)
    (length : first.quote.toList.length = second.quote.toList.length) : first = second := by
  rw [← String.toList_inj, String.toList_append, String.toList_append] at whole
  obtain ⟨base, quote⟩ := List.append_inj' whole length
  exact congrArg₂ AssetPair.mk (String.toList_inj.mp base) (String.toList_inj.mp quote)

/-- Of the pairs that two lists with the same quotes give, neither quote is the longer one. -/
theorem derive_of_same_members (ascii : ∀ quote ∈ quotes, Ascii quote)
    (same : ∀ quote, quote ∈ others ↔ quote ∈ quotes) (symbol : String) :
    derive symbol others = derive symbol quotes := by
  by_cases plain : ∀ c ∈ (canonical symbol).toList, ¬ Separates c
  · cases derived : derive symbol quotes with
    | none =>
        have absent := (derive_plain_eq_none_iff plain).mp derived
        refine (derive_plain_eq_none_iff plain).mpr fun quote listed => ?_
        exact absent quote ((same quote).mp listed)
    | some pair =>
        obtain ⟨nonempty, whole, quote, listed, named, longest⟩ :=
          derive_plain_eq_some plain derived
        have ends : EndsIn (canonical symbol) (Text.upper quote) :=
          ⟨pair.base, nonempty, named ▸ whole⟩
        cases found : derive symbol others with
        | none =>
            have absent := (derive_plain_eq_none_iff plain).mp found quote
            exact absurd ends (absent ((same quote).mpr listed))
        | some rival =>
            obtain ⟨rivalBase, rivalWhole, other, known, rivalNamed, unbeaten⟩ :=
              derive_plain_eq_some plain found
            have rivalEnds : EndsIn (canonical symbol) (Text.upper other) :=
              ⟨rival.base, rivalBase, rivalNamed ▸ rivalWhole⟩
            have notLonger := mt (longest other ((same other).mp known)) (not_not.mpr rivalEnds)
            have notShorter := mt (unbeaten quote ((same quote).mpr listed)) (not_not.mpr ends)
            have length : rival.quote.toList.length = pair.quote.toList.length := by
              rw [named, rivalNamed, length_upper_of_ascii (ascii quote listed),
                length_upper_of_ascii (ascii other ((same other).mp known))]
              omega
            rw [eq_of_length_eq (rivalWhole.trans whole.symm) length]
  · have found : (canonical symbol).toList.any isSeparator = true := by
      simpa [isSeparator_iff] using plain
    rw [derive, derive, if_pos found, if_pos found]

end AssetPair

namespace InstrumentCatalog

open AssetPair

theorem assetPair_of_canonical {symbol other : String} (same : canonical symbol = canonical other)
    (catalog : InstrumentCatalog) : catalog.assetPair symbol = catalog.assetPair other := by
  rw [assetPair, assetPair, resolve, resolve, same, derive_of_canonical same]

theorem assetPair_of_created {id : String} {command : OrderCommand} {now : Instant} {order : Order}
    (created : Order.create id command now = .ok order) (catalog : InstrumentCatalog) :
    catalog.assetPair order.instrument = catalog.assetPair command.instrument := by
  obtain ⟨-, rfl⟩ := Order.create_iff.mp created
  exact assetPair_of_canonical (canonical_canonical command.instrument) catalog

/-- A symbol is split at its first separator, and without one before the longest known quote that
leaves a base.  Known quotes in ASCII may be listed in any order and repeatedly.  The catalog does
not tell apart symbols that differ in ASCII case and outer blanks only, so that an order and its
fills have the same assets. -/
theorem symbols_name_assets (symbol : String) (quotes : List String) :
    (∀ base separator rest, (canonical symbol).toList = base ++ separator :: rest →
      Separates separator → (∀ c ∈ base, ¬ Separates c) →
      derive symbol quotes =
        if base = [] ∨ rest = [] then none
        else some ⟨String.ofList base, String.ofList rest⟩) ∧
    ((∀ c ∈ (canonical symbol).toList, ¬ Separates c) →
      (derive symbol quotes = none ↔
        ∀ quote ∈ quotes, ¬ EndsIn (canonical symbol) (Text.upper quote)) ∧
      ∀ pair, derive symbol quotes = some pair →
        pair.base ≠ "" ∧ pair.base ++ pair.quote = canonical symbol ∧
        ∃ quote ∈ quotes, pair.quote = Text.upper quote ∧
          ∀ longer ∈ quotes, quote.utf8ByteSize < longer.utf8ByteSize →
            ¬ EndsIn (canonical symbol) (Text.upper longer)) ∧
    ((∀ quote ∈ quotes, Ascii quote) → ∀ others : List String,
      (∀ quote, quote ∈ others ↔ quote ∈ quotes) → derive symbol others = derive symbol quotes) ∧
    (∀ (catalog : InstrumentCatalog) other, SameSymbol symbol other →
      catalog.assetPair symbol = catalog.assetPair other) ∧
    ∀ (catalog : InstrumentCatalog) (id : String) (command : OrderCommand) (now : Instant)
      (order : Order) (report : ExecutionReport), Order.create id command now = .ok order →
      SameSymbol symbol command.instrument → SameSymbol symbol report.instrument →
      catalog.assetPair order.instrument = catalog.assetPair report.instrument := by
  refine ⟨?_, ?_, ?_, ?_, ?_⟩
  · intro base separator rest split separates plain
    exact derive_separated split separates plain quotes
  · intro plain
    exact ⟨derive_plain_eq_none_iff plain, fun pair => derive_plain_eq_some plain⟩
  · intro ascii others same
    exact derive_of_same_members ascii same symbol
  · intro catalog other same
    exact assetPair_of_canonical same.canonical_eq catalog
  · intro catalog id command now order report created asked reported
    rw [assetPair_of_created created]
    exact assetPair_of_canonical (asked.canonical_eq.symm.trans reported.canonical_eq) catalog

end InstrumentCatalog

namespace Sample

/-- Three spellings of quotes that all end the symbol `btcfdusd`. -/
def dollars : List String := ["usd", "FDUSD", "Dusd"]

def lowercase : OrderCommand := { purchase with instrument := " btcusdt" }

end Sample

namespace InstrumentCatalog

open AssetPair

/-- A separator names the assets outright; of the sample quotes `FDUSD` is the one that counts; and
an order asked for in lower case is filled as its report says. -/
theorem sample_symbols_name_assets :
    derive "btc/usdt" [] = some ⟨"BTC", "USDT"⟩ ∧
    derive "FDUSD" ["FDUSD"] = none ∧
    (∃ pair, derive "btcfdusd" Sample.dollars = some pair ∧ pair.quote = "FDUSD") ∧
    derive "btcfdusd" ("usd" :: Sample.dollars.reverse) = derive "btcfdusd" Sample.dollars ∧
    Sample.terms.catalog.assetPair " btcusdt" = Sample.terms.catalog.assetPair "BTCUSDT" ∧
    Sample.terms.catalog.assetPair (canonical " btcusdt") =
      Sample.terms.catalog.assetPair (Sample.trade none).instrument := by
  have separated := (symbols_name_assets "btc/usdt" []).1 "BTC".toList '/' "USDT".toList
    (by decide) (.inr (.inl rfl)) (by simp [Separates])
  have upper : canonical "FDUSD" = "FDUSD" ∧ canonical "btcfdusd" = "BTCFDUSD" := by decide +kernel
  have bare := ((symbols_name_assets "FDUSD" ["FDUSD"]).2.1 (by simp [upper, Separates])).1
  have plain := (symbols_name_assets "btcfdusd" Sample.dollars).2.1 (by simp [upper, Separates])
  have ends : EndsIn (canonical "btcfdusd") (Text.upper "FDUSD") :=
    ⟨"BTC", by decide, by decide +kernel⟩
  have unordered := (symbols_name_assets "btcfdusd" Sample.dollars).2.2.1
  have spelled := (symbols_name_assets " btcusdt" []).2.2.2
  have valid : Sample.lowercase.validate = .ok () := by decide
  have same : SameSymbol " btcusdt" "BTCUSDT" := by decide +kernel
  have filled := spelled.2 Sample.terms.catalog "o-2" Sample.lowercase Sample.start _
    (Sample.trade none) (Order.create_iff.mpr ⟨valid, rfl⟩) rfl same
  refine ⟨by simpa using separated, bare.mpr ?_, ?_, ?_, spelled.1 _ _ same, filled⟩
  · simpa using tryQuote_eq_none_iff.mp (by decide)
  · cases derived : derive "btcfdusd" Sample.dollars with
    | none => exact absurd ends (plain.1.mp derived "FDUSD" (by decide))
    | some pair =>
        obtain ⟨-, -, quote, listed, named, longest⟩ := plain.2 pair derived
        refine ⟨pair, rfl, ?_⟩
        have unbeaten := mt (longest "FDUSD" (by decide)) (not_not.mpr ends)
        simp only [Sample.dollars, List.mem_cons, List.not_mem_nil, or_false] at listed
        obtain rfl | rfl | rfl := listed
        · exact absurd (by decide +kernel) unbeaten
        · rw [named]
          decide
        · exact absurd (by decide +kernel) unbeaten
  · refine unordered (by simp [Sample.dollars, Ascii]) _ fun quote => ?_
    rw [List.mem_cons, List.mem_reverse, or_iff_right_of_imp]
    rintro rfl
    exact List.mem_cons_self

end InstrumentCatalog

end SpotSettlement
