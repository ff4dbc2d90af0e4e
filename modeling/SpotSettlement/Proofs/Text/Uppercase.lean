import Mathlib.Data.List.Basic
import SpotSettlement.Proofs.Text.Blank

namespace SpotSettlement.Text

/-! # Upper case once and for all

A text in upper case stays as it is when it is put in upper case again, whole or in part.  Letters
that differ only in their ASCII case come to the same upper-case form.
-/

variable {c d : Char} {point : Nat} {characters others : List Char} {text : String}

/-- No mapping to upper case starts at the code point. -/
def Caseless (point : Nat) : Prop :=
  (∀ entry ∈ upperExpansions, entry.1 ≠ point) ∧ ∀ run ∈ upperRuns, run.covers point = false

theorem CaseRun.covers_iff {run : CaseRun} : run.covers point = true ↔
    run.first ≤ point ∧ point ≤ run.last ∧ (point - run.first) % run.stride = 0 := by
  simp [CaseRun.covers, and_assoc]

def CaseRun.points (run : CaseRun) : List Nat :=
  List.range' run.first ((run.last - run.first) / run.stride + 1) run.stride

theorem CaseRun.mem_points {run : CaseRun} (covered : run.covers point = true) :
    point ∈ run.points := by
  obtain ⟨first, last, stride⟩ := covers_iff.mp covered
  refine List.mem_range'.mpr ⟨(point - run.first) / run.stride, ?_, ?_⟩
  · exact Nat.lt_succ_of_le (Nat.div_le_div_right (Nat.sub_le_sub_right last _))
  · rw [Nat.mul_div_cancel' (Nat.dvd_of_mod_eq_zero stride)]
    omega

/-- The number whose bits mark the members of a list. -/
def marks (points : List Nat) : Nat := points.foldr (fun point marks => 2 ^ point ||| marks) 0

theorem testBit_marks {points : List Nat} :
    (marks points).testBit point = true ↔ point ∈ points := by
  induction points with
  | nil => simp [marks]
  | cons first rest ih =>
      have step : marks (first :: rest) = 2 ^ first ||| marks rest := rfl
      rw [step, Nat.testBit_or, Bool.or_eq_true, ih, Nat.testBit_two_pow, decide_eq_true_eq,
        List.mem_cons, eq_comm]

/-- The code points at which the mappings to upper case start. -/
def cased : List Nat := upperExpansions.map (·.1) ++ upperRuns.flatMap (·.points)

theorem caseless_of_unmarked (unmarked : (marks cased).testBit point = false) :
    Caseless point := by
  rw [← Bool.not_eq_true, testBit_marks, cased, List.mem_append, not_or] at unmarked
  obtain ⟨unexpanded, unshifted⟩ := unmarked
  refine ⟨fun entry member same => ?_, fun run member => Bool.eq_false_iff.mpr fun covered => ?_⟩
  · exact unexpanded (List.mem_map.mpr ⟨entry, member, same⟩)
  · exact unshifted (List.mem_flatMap.mpr ⟨run, member, CaseRun.mem_points covered⟩)

theorem zero_unmarked : (marks cased).testBit 0 = false := by
  decide +kernel

theorem upperRuns_unmarked : ∀ run ∈ upperRuns, ∀ point ∈ run.points,
    (marks cased).testBit ((point : Int) + run.shift).toNat = false := by
  decide +kernel

theorem upperExpansions_unmarked : ∀ entry ∈ upperExpansions, ∀ point ∈ entry.2,
    (marks cased).testBit point = false := by
  decide +kernel

theorem ascii_caseless : ∀ point < 128,
    (Char.ofNat point).toUpper.toUpper = (Char.ofNat point).toUpper ∧
      (Char.ofNat point).toUpper.toNat < 128 ∧
      (Char.ofNat point).toLower.toUpper = (Char.ofNat point).toUpper ∧
      (Char.ofNat point).toLower.toNat < 128 ∧
      (¬ (0x61 ≤ point ∧ point ≤ 0x7A) → (Char.ofNat point).toUpper = Char.ofNat point) := by
  decide +kernel

theorem upperChar_of_caseless (caseless : Caseless c.toNat) : upperChar c = [c] := by
  obtain ⟨unexpanded, unshifted⟩ := caseless
  unfold upperChar
  split
  · next ascii =>
      have small : ¬ (0x61 ≤ c.toNat ∧ c.toNat ≤ 0x7A) := by
        have outside := unshifted ⟨0x61, 0x7A, 1, -32⟩ (List.mem_cons_self ..)
        rw [Bool.eq_false_iff, ne_eq, CaseRun.covers_iff] at outside
        intro letter
        exact outside ⟨letter.1, letter.2, Nat.mod_one _⟩
      have fixed := (ascii_caseless c.toNat ascii).2.2.2.2 small
      rw [Char.ofNat_toNat] at fixed
      rw [fixed]
  · rw [List.find?_eq_none.mpr fun entry member => by simpa using unexpanded entry member,
      List.find?_eq_none.mpr fun run member => by simp [unshifted run member]]

theorem upperChar_ofNat (caseless : Caseless point) :
    upperChar (Char.ofNat point) = [Char.ofNat point] := by
  obtain same | null := toNat_ofNat point
  · exact upperChar_of_caseless (by rwa [same])
  · exact upperChar_of_caseless (by rw [null]; exact caseless_of_unmarked zero_unmarked)

/-- The upper-case form of a character consists of characters that are in upper case. -/
theorem upperChar_of_mem (image : d ∈ upperChar c) : upperChar d = [d] := by
  unfold upperChar at image
  split at image
  · next ascii =>
      obtain rfl := List.mem_singleton.mp image
      have twice := ascii_caseless c.toNat ascii
      rw [Char.ofNat_toNat] at twice
      rw [upperChar_of_ascii twice.2.1, twice.1]
  · next =>
      split at image
      · next entry points found =>
          obtain ⟨point, member, rfl⟩ := List.mem_map.mp image
          exact upperChar_ofNat (caseless_of_unmarked
            (upperExpansions_unmarked _ (List.mem_of_find?_eq_some found) point member))
      · split at image
        · next run found =>
            obtain rfl := List.mem_singleton.mp image
            have covered : run.covers c.toNat = true :=
              List.find?_some (p := fun run : CaseRun => run.covers c.toNat) found
            exact upperChar_ofNat (caseless_of_unmarked (upperRuns_unmarked run
              (List.mem_of_find?_eq_some found) c.toNat (CaseRun.mem_points covered)))
        · next unexpanded _ unshifted =>
            obtain rfl := List.mem_singleton.mp image
            refine upperChar_of_caseless ⟨fun entry member => ?_, fun run member => ?_⟩
            · simpa using List.find?_eq_none.mp unexpanded entry member
            · simpa using List.find?_eq_none.mp unshifted run member

theorem upperChar_toLower (c : Char) : upperChar c.toLower = upperChar c := by
  by_cases ascii : c.toNat < 128
  · have cases := ascii_caseless c.toNat ascii
    rw [Char.ofNat_toNat] at cases
    rw [upperChar_of_ascii ascii, upperChar_of_ascii cases.2.2.2.1, cases.2.2.1]
  · have wide : c.toLower = c := by
      unfold Char.toLower
      split
      · next letter =>
          have last : c.toNat ≤ 0x5A := letter.2
          omega
      · rfl
    rw [wide]

/-- The characters are all in upper case. -/
def Uppercase (characters : List Char) : Prop := ∀ c ∈ characters, upperChar c = [c]

theorem Uppercase.flatMap_upperChar (uppercase : Uppercase characters) :
    characters.flatMap upperChar = characters := by
  rw [List.flatMap_congr uppercase]
  exact List.flatMap_singleton' characters

theorem uppercase_flatMap (characters : List Char) : Uppercase (characters.flatMap upperChar) := by
  intro d image
  obtain ⟨c, -, image⟩ := List.mem_flatMap.mp image
  exact upperChar_of_mem image

theorem uppercase_upper (text : String) : Uppercase (upper text).toList := by
  rw [upper, String.toList_ofList]
  exact uppercase_flatMap text.toList

theorem Uppercase.upper_ofList (uppercase : Uppercase characters) :
    upper (String.ofList characters) = String.ofList characters := by
  rw [upper, String.toList_ofList, uppercase.flatMap_upperChar]

theorem upper_upper (text : String) : upper (upper text) = upper text := by
  have uppercase := (uppercase_upper text).upper_ofList
  rwa [String.ofList_toList] at uppercase

theorem flatMap_upperChar_of_toLower
    (same : characters.map Char.toLower = others.map Char.toLower) :
    characters.flatMap upperChar = others.flatMap upperChar := by
  have lowered (characters : List Char) :
      (characters.map Char.toLower).flatMap upperChar = characters.flatMap upperChar := by
    rw [List.flatMap_map]
    exact List.flatMap_congr fun c _ => upperChar_toLower c
  rw [← lowered characters, same, lowered]

/-- Two texts differ at most in their ASCII case. -/
theorem upper_of_asciiLower {other : String} (same : asciiLower text = asciiLower other) :
    upper text = upper other := by
  unfold upper
  rw [flatMap_upperChar_of_toLower (String.ofList_inj.mp same)]

/-- No character is blank at either end. -/
def Trimmed (characters : List Char) : Prop :=
  (∀ c ∈ characters.head?, isBlankChar c = false) ∧ ∀ c ∈ characters.getLast?, isBlankChar c = false

theorem dropWhile_of_head {p : Char → Bool} (stops : ∀ c ∈ characters.head?, p c = false) :
    characters.dropWhile p = characters := by
  cases characters with
  | nil => rfl
  | cons c rest => simp [stops c rfl]

theorem head_dropWhile (p : Char → Bool) (characters : List Char) :
    ∀ c ∈ (characters.dropWhile p).head?, p c = false := by
  intro c first
  have stops := List.head?_dropWhile_not p characters
  rwa [Option.mem_def.mp first] at stops

theorem Trimmed.trimChars_eq (trimmed : Trimmed characters) :
    trimChars characters = characters := by
  obtain ⟨head, last⟩ := trimmed
  rw [← List.head?_reverse] at last
  rw [trimChars, dropWhile_of_head head, dropWhile_of_head last, List.reverse_reverse]

theorem trimmed_trimChars (characters : List Char) : Trimmed (trimChars characters) := by
  have head := head_dropWhile isBlankChar characters
  unfold trimChars
  generalize characters.dropWhile isBlankChar = front at head ⊢
  constructor
  · intro c first
    obtain ⟨dropped, split⟩ := List.dropWhile_suffix isBlankChar (l := front.reverse)
    apply head
    rw [← List.getLast?_reverse, ← split, List.getLast?_append, ← List.head?_reverse]
    simp [Option.mem_def.mp first]
  · rw [List.getLast?_reverse]
    exact head_dropWhile isBlankChar front.reverse

/-- Replacing each character by visible ones keeps a visible one in front. -/
theorem head_flatMap {f : Char → List Char} (nonempty : ∀ c, f c ≠ [])
    (visible : ∀ c, isBlankChar c = false → ∀ d ∈ f c, isBlankChar d = false)
    (head : ∀ c ∈ characters.head?, isBlankChar c = false) :
    ∀ d ∈ (characters.flatMap f).head?, isBlankChar d = false := by
  cases characters with
  | nil => simp
  | cons c rest =>
      obtain ⟨first, more, image⟩ := List.exists_cons_of_ne_nil (nonempty c)
      have shown := visible c (head c rfl) first (by simp [image])
      simpa [image] using shown

theorem Trimmed.flatMap_upperChar (trimmed : Trimmed characters) :
    Trimmed (characters.flatMap upperChar) := by
  obtain ⟨head, last⟩ := trimmed
  refine ⟨head_flatMap upperChar_ne_nil (fun _ visible _ => upperChar_visible visible) head, ?_⟩
  rw [← List.head?_reverse] at last ⊢
  rw [List.reverse_flatMap]
  refine head_flatMap (fun c => ?_) (fun c visible d image => ?_) last
  · exact List.reverse_eq_nil_iff.not.mpr (upperChar_ne_nil c)
  · exact upperChar_visible visible (List.mem_reverse.mp image)

end SpotSettlement.Text
