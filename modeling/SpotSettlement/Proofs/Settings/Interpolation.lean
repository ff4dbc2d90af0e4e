import SpotSettlement.Proofs.Text.Digits
import SpotSettlement.Settings.Placeholder

namespace SpotSettlement

/-! # Placeholders are replaced in one pass

A placeholder is said here as it is written, without a reader.  No two placeholders start at one
place, so the text falls apart in one way into the first placeholder, what stands before it and what
comes after, and on from there.  Interpolation replaces the placeholders of this decomposition and
keeps everything else.
-/

namespace Placeholder

variable {environment : String → Option String} {placeholder : Placeholder}
  {text before written inserted after name rest default : List Char}

/-- The name of a variable: a letter or an underscore, then letters, digits and underscores. -/
def IsName : List Char → Prop
  | [] => False
  | first :: rest =>
    (first.isAlpha = true ∨ first = '_') ∧
      ∀ c ∈ rest, c.isAlpha = true ∨ c.isDigit = true ∨ c = '_'

/-- The written forms of a placeholder. -/
inductive Writes : Placeholder → List Char → Prop where
  | plain {name : List Char} (named : IsName name) :
      Writes ⟨name, []⟩ (['$', '\x7b'] ++ name ++ ['\x7d'])
  | withDefault {name default : List Char} (named : IsName name) (unclosed : '\x7d' ∉ default) :
      Writes ⟨name, default⟩ (['$', '\x7b'] ++ name ++ [':', '-'] ++ default ++ ['\x7d'])

/-- What is put in for a placeholder: the value of its variable if that is set and not empty, else
its default. -/
inductive StandsIn (environment : String → Option String) (placeholder : Placeholder) :
    List Char → Prop where
  | value {value : String} (set : environment (String.ofList placeholder.name) = some value)
      (some : value ≠ "") : StandsIn environment placeholder value.toList
  | default (unset : ∀ value, environment (String.ofList placeholder.name) = some value →
      value = "") : StandsIn environment placeholder placeholder.default

theorem standsIn_iff : StandsIn environment placeholder inserted ↔
    inserted = placeholder.value environment := by
  unfold value
  constructor
  · intro stands
    cases stands with
    | value set some => simp [set, some]
    | default unset =>
        cases given : environment (String.ofList placeholder.name) with
        | none => rfl
        | some value => simp [unset value given]
  · rintro rfl
    cases given : environment (String.ofList placeholder.name) with
    | none => exact .default fun value set => by simp [given] at set
    | some value =>
        by_cases empty : value = ""
        · subst empty
          exact .default fun value set => by simpa [given] using set.symm
        · simpa [empty] using StandsIn.value given empty

theorem isNameStart_iff (c : Char) : isNameStart c = true ↔ c.isAlpha = true ∨ c = '_' := by
  simp [isNameStart]

theorem isNameChar_iff (c : Char) :
    isNameChar c = true ↔ c.isAlpha = true ∨ c.isDigit = true ∨ c = '_' := by
  simp [isNameChar, Char.isAlphanum, or_assoc]

theorem IsName.letters (named : IsName name) : ∃ first rest, name = first :: rest ∧
    isNameStart first = true ∧ ∀ c ∈ rest, isNameChar c = true := by
  cases name with
  | nil => exact named.elim
  | cons first rest =>
      exact ⟨first, rest, rfl, (isNameStart_iff first).mpr named.1,
        fun c member => (isNameChar_iff c).mpr (named.2 c member)⟩

theorem ending?_iff : ending? text = some (default, after) ↔
    default = [] ∧ text = '\x7d' :: after ∨
      '\x7d' ∉ default ∧ text = [':', '-'] ++ default ++ '\x7d' :: after := by
  unfold ending?
  constructor
  · intro found
    split at found
    · simp only [Option.some.injEq, Prod.mk.injEq] at found
      exact .inl ⟨found.1.symm, by rw [found.2]⟩
    · next rest =>
        split at found
        · next stop tail dropped =>
            obtain ⟨run, stops, whole⟩ := Text.run_of_dropWhile dropped
            obtain rfl : stop = '\x7d' := by simpa using stops
            simp only [Option.some.injEq, Prod.mk.injEq] at found
            obtain ⟨rfl, rfl⟩ := found
            refine .inr ⟨fun member => by simpa using run _ member, ?_⟩
            simpa using whole
        · contradiction
    · contradiction
  · rintro (⟨rfl, rfl⟩ | ⟨unclosed, rfl⟩)
    · rfl
    · have run : ∀ c ∈ default, (c != '\x7d') = true := by
        intro c member
        rw [bne_iff_ne]
        rintro rfl
        exact unclosed member
      simp only [List.cons_append, List.nil_append]
      rw [Text.dropWhile_run run (by decide), Text.takeWhile_run run (by decide)]

/-- A name ends where its placeholder does or where a default begins. -/
theorem read?_of_ending {first : Char} (start : isNameStart first = true)
    (all : ∀ c ∈ rest, isNameChar c = true)
    (ends : ending? text = some (default, after)) :
    read? ('$' :: '\x7b' :: first :: (rest ++ text)) =
      some (⟨first :: rest, default⟩, after) := by
  obtain ⟨stop, tail, rfl, stops⟩ :
      ∃ stop tail, text = stop :: tail ∧ isNameChar stop = false := by
    obtain ⟨-, rfl⟩ | ⟨-, rfl⟩ := ending?_iff.mp ends
    · exact ⟨_, _, rfl, by decide⟩
    · exact ⟨_, _, rfl, by decide⟩
  simp only [read?]
  rw [if_pos start, Text.dropWhile_run all stops, Text.takeWhile_run all stops, ends]
  rfl

theorem read?_eq_some_iff : read? text = some (placeholder, after) ↔
    ∃ written, Writes placeholder written ∧ text = written ++ after := by
  constructor
  · intro found
    unfold read? at found
    split at found
    · next first rest =>
        split at found
        · next start =>
            obtain ⟨⟨default, tail⟩, ends, same⟩ := Option.map_eq_some_iff.mp found
            obtain ⟨rfl, rfl⟩ := Prod.mk.inj same
            have named : IsName (first :: rest.takeWhile isNameChar) :=
              ⟨(isNameStart_iff first).mp start, fun c member =>
                (isNameChar_iff c).mp (List.all_eq_true.mp List.all_takeWhile c member)⟩
            have whole := List.takeWhile_append_dropWhile (p := isNameChar) (l := rest)
            obtain ⟨rfl, plain⟩ | ⟨unclosed, withDefault⟩ := ending?_iff.mp ends
            · refine ⟨_, .plain named, ?_⟩
              rw [plain] at whole
              simpa using whole.symm
            · refine ⟨_, .withDefault named unclosed, ?_⟩
              rw [withDefault] at whole
              simpa using whole.symm
        · contradiction
    · contradiction
  · rintro ⟨written, writes, rfl⟩
    cases writes with
    | plain named =>
        obtain ⟨first, rest, rfl, start, all⟩ := named.letters
        simpa using read?_of_ending start all (ending?_iff.mpr (.inl ⟨rfl, rfl⟩))
    | withDefault named unclosed =>
        obtain ⟨first, rest, rfl, start, all⟩ := named.letters
        simpa using read?_of_ending start all (ending?_iff.mpr (.inr ⟨unclosed, rfl⟩))

/-- There is no placeholder in the text. -/
def Free (text : List Char) : Prop :=
  ∀ placeholder written, Writes placeholder written → ¬written <:+: text

/-- No placeholder of the text begins among the characters before the rest. -/
def Leftmost (before rest : List Char) : Prop :=
  ∀ placeholder written earlier later, Writes placeholder written →
    before ++ rest = earlier ++ written ++ later → before.length ≤ earlier.length

/-- The text with its placeholders replaced: the first one is, what stands before it is kept, and so
on with what comes after it. -/
inductive Replaced (environment : String → Option String) : List Char → List Char → Prop where
  | free {text : List Char} (none : Free text) : Replaced environment text text
  | first {placeholder : Placeholder} {before written inserted after result : List Char}
      (writes : Writes placeholder written) (leftmost : Leftmost before (written ++ after))
      (stands : StandsIn environment placeholder inserted)
      (rest : Replaced environment after result) :
      Replaced environment (before ++ written ++ after) (before ++ inserted ++ result)

theorem read?_eq_none_iff : read? text = none ↔
    ∀ placeholder written, Writes placeholder written → ¬written <+: text := by
  constructor
  · rintro absent placeholder written writes ⟨after, rfl⟩
    have found : read? (written ++ after) = some (placeholder, after) :=
      read?_eq_some_iff.mpr ⟨written, writes, rfl⟩
    cases absent.symm.trans found
  · intro absent
    cases found : read? text with
    | none => rfl
    | some reading =>
        obtain ⟨written, writes, rfl⟩ := read?_eq_some_iff.mp found
        exact absurd (List.prefix_append written _) (absent _ written writes)

theorem free_nil : Free [] := by
  intro placeholder written writes inside
  rw [List.infix_nil] at inside
  cases writes <;> contradiction

theorem free_cons {c : Char} : Free (c :: text) ↔ read? (c :: text) = none ∧ Free text := by
  rw [read?_eq_none_iff]
  unfold Free
  simp only [List.infix_cons_iff, not_or, forall_and]

theorem leftmost_cons {c : Char} : Leftmost (c :: before) rest ↔
    read? (c :: (before ++ rest)) = none ∧ Leftmost before rest := by
  rw [read?_eq_none_iff]
  constructor
  · intro leftmost
    constructor
    · rintro placeholder written writes ⟨later, same⟩
      have start := leftmost placeholder written [] later writes same.symm
      simp at start
    · intro placeholder written earlier later writes same
      have start := leftmost placeholder written (c :: earlier) later writes
        (congrArg (c :: ·) same)
      exact Nat.le_of_succ_le_succ start
  · rintro ⟨absent, leftmost⟩ placeholder written earlier later writes same
    cases earlier with
    | nil => exact absurd ⟨later, same.symm⟩ (absent placeholder written writes)
    | cons first earlier =>
        have tail := (List.cons.inj same).2
        exact Nat.succ_le_succ (leftmost placeholder written earlier later writes tail)

theorem Replaced.cons {c : Char} {result : List Char} (absent : read? (c :: text) = none)
    (replaced : Replaced environment text result) :
    Replaced environment (c :: text) (c :: result) := by
  cases replaced with
  | free none => exact .free (free_cons.mpr ⟨absent, none⟩)
  | @first placeholder before written inserted after result writes leftmost stands rest =>
      rw [List.append_assoc] at absent
      exact @first environment placeholder (c :: before) written inserted after result writes
        (leftmost_cons.mpr ⟨absent, leftmost⟩) stands rest

end Placeholder

section

open Placeholder

variable {environment : String → Option String} {placeholder : Placeholder}
  {text before written inserted after result : List Char} {c : Char}

theorem interpolate_of_read? (found : read? text = some (placeholder, after)) :
    interpolate environment text =
      placeholder.value environment ++ interpolate environment after := by
  cases text with
  | nil => contradiction
  | cons c rest =>
      rw [interpolate]
      split
      · next again =>
          cases again.symm.trans found
          rfl
      · next absent => cases absent.symm.trans found

theorem interpolate_cons (absent : read? (c :: text) = none) :
    interpolate environment (c :: text) = c :: interpolate environment text := by
  rw [interpolate]
  split
  · next found => cases absent.symm.trans found
  · rfl

theorem interpolate_of_free (free : Free text) : interpolate environment text = text := by
  induction text with
  | nil => rw [interpolate]
  | cons c text ih =>
      obtain ⟨absent, others⟩ := free_cons.mp free
      rw [interpolate_cons absent, ih others]

/-- What stands before the first placeholder is kept, and interpolation goes on after it. -/
theorem interpolate_of_leftmost (writes : Writes placeholder written)
    (leftmost : Leftmost before (written ++ after)) :
    interpolate environment (before ++ written ++ after) =
      before ++ placeholder.value environment ++ interpolate environment after := by
  induction before with
  | nil => exact interpolate_of_read? (read?_eq_some_iff.mpr ⟨written, writes, rfl⟩)
  | cons c before ih =>
      obtain ⟨absent, others⟩ := leftmost_cons.mp leftmost
      rw [← List.append_assoc] at absent
      simp only [List.cons_append]
      rw [interpolate_cons absent, ih others]

theorem replaced_interpolate (environment : String → Option String) (text : List Char) :
    Replaced environment text (interpolate environment text) := by
  induction text using interpolate.induct with
  | case1 =>
      rw [interpolate]
      exact .free free_nil
  | case2 c rest placeholder after found ih =>
      obtain ⟨written, writes, same⟩ := read?_eq_some_iff.mp found
      rw [interpolate_of_read? found, same]
      exact @Placeholder.Replaced.first environment placeholder [] written _ after _ writes
        (fun _ _ _ _ _ _ => Nat.zero_le _) (Placeholder.standsIn_iff.mpr rfl) ih
  | case3 c rest absent ih =>
      rw [interpolate_cons absent]
      exact ih.cons absent

theorem Placeholder.Replaced.eq_interpolate (replaced : Replaced environment text result) :
    result = interpolate environment text := by
  induction replaced with
  | free none => exact (interpolate_of_free none).symm
  | first writes leftmost stands rest ih =>
      rw [interpolate_of_leftmost writes leftmost, ih, standsIn_iff.mp stands]

/-- The placeholders of a text are replaced in a single pass from left to right: the first one by
what stands in for it, and then those that begin after it.  A text without placeholders stays as it
is, and so does everything around a placeholder; what is put in is not looked at again. -/
theorem placeholders_are_replaced_in_one_pass (environment : String → Option String)
    (text : List Char) :
    (∀ result, interpolate environment text = result ↔ Replaced environment text result) ∧
    (Free text → interpolate environment text = text) ∧
    ∀ placeholder before written after inserted, text = before ++ written ++ after →
      Writes placeholder written → Leftmost before (written ++ after) →
      StandsIn environment placeholder inserted →
      interpolate environment text = before ++ inserted ++ interpolate environment after := by
  refine ⟨fun result => ⟨?_, ?_⟩, interpolate_of_free, ?_⟩
  · rintro rfl
    exact replaced_interpolate environment text
  · intro replaced
    exact replaced.eq_interpolate.symm
  · rintro placeholder before written after inserted rfl writes leftmost stands
    rw [interpolate_of_leftmost writes leftmost, standsIn_iff.mp stands]

end

namespace Sample

/-- A variable whose value names the variable itself. -/
def selfNaming (name : String) : Option String :=
  if name = "A" then some "$\x7bA\x7d!" else none

end Sample

theorem sample_value_is_put_in_as_it_is :
    Placeholder.Writes ⟨['A'], []⟩ ['$', '\x7b', 'A', '\x7d'] ∧
    Placeholder.Leftmost ['$'] (['$', '\x7b', 'A', '\x7d'] ++ ['\x7d']) ∧
    Placeholder.StandsIn Sample.selfNaming ⟨['A'], []⟩ "$\x7bA\x7d!".toList ∧
    interpolate Sample.selfNaming "$$\x7bA\x7d\x7d".toList = "$$\x7bA\x7d!\x7d".toList := by
  have writes : Placeholder.Writes ⟨['A'], []⟩ ['$', '\x7b', 'A', '\x7d'] :=
    @Placeholder.Writes.plain ['A'] ⟨.inl rfl, nofun⟩
  have leftmost : Placeholder.Leftmost ['$'] (['$', '\x7b', 'A', '\x7d'] ++ ['\x7d']) :=
    Placeholder.leftmost_cons.mpr ⟨rfl, fun _ _ _ _ _ _ => Nat.zero_le _⟩
  have stands : Placeholder.StandsIn Sample.selfNaming ⟨['A'], []⟩ "$\x7bA\x7d!".toList :=
    .value rfl (by decide)
  have brace : Placeholder.Free ['\x7d'] :=
    Placeholder.free_cons.mpr ⟨rfl, Placeholder.free_nil⟩
  obtain ⟨-, -, first⟩ := placeholders_are_replaced_in_one_pass Sample.selfNaming
    "$$\x7bA\x7d\x7d".toList
  obtain ⟨-, unchanged, -⟩ := placeholders_are_replaced_in_one_pass Sample.selfNaming ['\x7d']
  refine ⟨writes, leftmost, stands, ?_⟩
  rw [first _ ['$'] _ ['\x7d'] _ rfl writes leftmost stands, unchanged brace]
  rfl

end SpotSettlement
