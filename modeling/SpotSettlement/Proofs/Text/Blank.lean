import SpotSettlement.AssetPair
import SpotSettlement.Store.Basic

namespace SpotSettlement.Text

/-! # Texts that stay visible

A text with a character that is not blank keeps one when it is trimmed and put in upper case.
-/

variable {c d : Char} {characters : List Char} {text : String}

theorem isBlank_eq_false_iff : isBlank text = false ↔ ∃ c ∈ text.toList, isBlankChar c = false := by
  simp [isBlank]

theorem mem_dropWhile {p : Char → Bool} (member : c ∈ characters) (stops : p c = false) :
    c ∈ characters.dropWhile p := by
  induction characters with
  | nil => contradiction
  | cons first rest ih =>
      rw [List.dropWhile_cons]
      split
      · next dropped =>
          obtain rfl | later := List.mem_cons.mp member
          · rw [stops] at dropped
            contradiction
          · exact ih later
      · exact member

theorem mem_trimChars (member : c ∈ characters) (visible : isBlankChar c = false) :
    c ∈ trimChars characters := by
  unfold trimChars
  rw [List.mem_reverse]
  exact mem_dropWhile (List.mem_reverse.mpr (mem_dropWhile member visible)) visible

theorem trim_visible (visible : isBlank text = false) : isBlank (trim text) = false := by
  rw [isBlank_eq_false_iff] at *
  obtain ⟨c, member, shown⟩ := visible
  exact ⟨c, by rw [trim, String.toList_ofList]; exact mem_trimChars member shown, shown⟩

theorem toNat_ofNat (point : Nat) :
    (Char.ofNat point).toNat = point ∨ (Char.ofNat point).toNat = 0 := by
  by_cases valid : point.isValidChar
  · rw [Char.ofNat, dif_pos valid]
    exact .inl rfl
  · rw [Char.ofNat, dif_neg valid]
    exact .inr rfl

/-- A character of a code point outside the blank ranges is not blank; nor is the one that stands in
for a code point without a character. -/
theorem isBlankChar_ofNat {point : Nat}
    (outside : ∀ range ∈ blankRanges, point < range.1 ∨ range.2 < point) :
    isBlankChar (Char.ofNat point) = false := by
  obtain same | null := toNat_ofNat point
  · simp only [isBlankChar, List.any_eq_false, same]
    intro range member
    have := outside range member
    simp
    omega
  · simp only [isBlankChar, null]
    decide

/-- The upper-case forms of a run have no code point in the blank ranges. -/
def CaseRun.Clear (run : CaseRun) : Prop :=
  ∀ range ∈ blankRanges, run.last + run.shift < range.1 ∨ range.2 < run.first + run.shift

theorem blankRanges_positive : ∀ range ∈ blankRanges, 0 < range.1 := by
  decide

theorem upperRuns_clear : ∀ run ∈ upperRuns, run.Clear := by
  unfold CaseRun.Clear
  decide +kernel

theorem upperExpansions_visible : ∀ entry ∈ upperExpansions,
    entry.2 ≠ [] ∧ ∀ point ∈ entry.2, isBlankChar (Char.ofNat point) = false := by
  decide +kernel

theorem toUpper_visible : ∀ point < 128, isBlankChar (Char.ofNat point) = false →
    isBlankChar (Char.ofNat point).toUpper = false := by
  decide +kernel

theorem upperChar_ne_nil (c : Char) : upperChar c ≠ [] := by
  unfold upperChar
  split
  · exact List.cons_ne_nil _ _
  · split
    · next entry points found =>
        have expansion := upperExpansions_visible _ (List.mem_of_find?_eq_some found)
        exact fun empty => expansion.1 (List.map_eq_nil_iff.mp empty)
    · split <;> exact List.cons_ne_nil _ _

theorem upperChar_visible (visible : isBlankChar c = false) (image : d ∈ upperChar c) :
    isBlankChar d = false := by
  unfold upperChar at image
  split at image
  · next ascii =>
      obtain rfl := List.mem_singleton.mp image
      have shown := toUpper_visible c.toNat ascii
      rw [Char.ofNat_toNat] at shown
      exact shown visible
  · split at image
    · next entry points found =>
        obtain ⟨point, member, rfl⟩ := List.mem_map.mp image
        exact (upperExpansions_visible _ (List.mem_of_find?_eq_some found)).2 point member
    · split at image
      · next run found =>
          obtain rfl := List.mem_singleton.mp image
          refine isBlankChar_ofNat fun range member => ?_
          have clear := upperRuns_clear run (List.mem_of_find?_eq_some found) range member
          have positive := blankRanges_positive range member
          have covers := List.find?_some found
          simp only [CaseRun.covers, Bool.and_eq_true, decide_eq_true_eq] at covers
          omega
      · obtain rfl := List.mem_singleton.mp image
        exact visible

theorem upper_visible (visible : isBlank text = false) : isBlank (upper text) = false := by
  rw [isBlank_eq_false_iff] at *
  obtain ⟨c, member, shown⟩ := visible
  obtain ⟨d, image⟩ := List.exists_mem_of_ne_nil _ (upperChar_ne_nil c)
  refine ⟨d, ?_, upperChar_visible shown image⟩
  rw [upper, String.toList_ofList]
  exact List.mem_flatMap.mpr ⟨c, member, image⟩

end SpotSettlement.Text

namespace SpotSettlement

theorem AssetPair.canonical_visible {symbol : String} (visible : Text.isBlank symbol = false) :
    Text.isBlank (canonical symbol) = false :=
  Text.upper_visible (Text.trim_visible visible)

theorem Store.identifier_visible (number : Nat) : Text.isBlank (identifier number) = false := by
  have shown : Text.isBlankChar '0' = false := by decide
  refine Text.isBlank_eq_false_iff.mpr ⟨'0', ?_, shown⟩
  unfold identifier
  simp only [String.toList_append, List.mem_append]
  exact .inl (by decide)

end SpotSettlement
