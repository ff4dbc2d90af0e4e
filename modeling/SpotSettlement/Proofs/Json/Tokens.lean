import SpotSettlement.Json.Reader
import SpotSettlement.Proofs.Text.Digits

namespace SpotSettlement.Json

open SpotSettlement.Text

/-! # What follows a token

A reader that has come to the end of a token has not looked at what follows it.  Only the end of a
number shows by the character after it.
-/

variable {input rest tail : List Char}

/-- Text that does not go on with a number that stands before it. -/
def EndsNumber (tail : List Char) : Prop :=
  ∀ c ∈ tail.head?, c.isDigit = false ∧ c ≠ '.' ∧ c ≠ 'e' ∧ c ≠ 'E'

theorem endsNumber_nil : EndsNumber [] := by simp [EndsNumber]

theorem skipSpace_append {c : Char} (found : skipSpace input = c :: rest) (tail : List Char) :
    skipSpace (input ++ tail) = c :: (rest ++ tail) := by
  rw [skipSpace] at found ⊢
  rw [List.dropWhile_append, found]
  rfl

theorem hexQuad?_append {point : Nat} (read : hexQuad? input = some (point, rest))
    (tail : List Char) : hexQuad? (input ++ tail) = some (point, rest ++ tail) := by
  match input with
  | a :: b :: c :: d :: input =>
      simp only [hexQuad?, List.cons_append, Option.bind_eq_bind, Option.bind_eq_some_iff,
        Option.pure_def, Option.some.injEq, Prod.mk.injEq] at read ⊢
      obtain ⟨a', a_eq, b', b_eq, c', c_eq, d', d_eq, rfl, rfl⟩ := read
      exact ⟨a', a_eq, b', b_eq, c', c_eq, d', d_eq, rfl, rfl⟩
  | [] | [_] | [_, _] | [_, _, _] => simp [hexQuad?] at read

theorem unicodeEscape?_append {c : Char} (read : unicodeEscape? input = some (c, rest))
    (tail : List Char) : unicodeEscape? (input ++ tail) = some (c, rest ++ tail) := by
  simp only [unicodeEscape?, Option.bind_eq_bind, Option.bind_eq_some_iff] at read
  obtain ⟨⟨point, after⟩, quad, read⟩ := read
  dsimp only at read
  simp only [unicodeEscape?, hexQuad?_append quad tail, Option.bind_eq_bind, Option.bind_some]
  split at read
  · cases read
  · rename_i notLow
    rw [if_neg notLow]
    split at read
    · rename_i high
      rw [if_pos high]
      split at read
      · obtain ⟨⟨low, after⟩, quad, read⟩ := Option.bind_eq_some_iff.mp read
        simp only [List.cons_append, hexQuad?_append quad tail, Option.bind_some]
        split at read
        · rename_i isLow
          rw [if_pos isLow]
          obtain ⟨eq, rfl⟩ := Prod.mk.inj (Option.some.inj read)
          rw [← eq]
          rfl
        · cases read
      · cases read
    · rename_i notHigh
      rw [if_neg notHigh]
      cases read
      rfl

theorem stringTail?_append {fuel : Nat} {seen : List Char} {text : String}
    (read : stringTail? fuel seen input = some (text, rest)) (extra : Nat) (tail : List Char) :
    stringTail? (fuel + extra) seen (input ++ tail) = some (text, rest ++ tail) := by
  fun_induction stringTail? fuel seen input with
  | case1 => cases read
  | case2 => cases read
  | case3 =>
      cases read
      rw [Nat.succ_add]
      rfl
  | case4 fuel seen after ih =>
      obtain ⟨⟨c, after⟩, escape, read⟩ := Option.bind_eq_some_iff.mp read
      simp only [Nat.succ_add, List.cons_append, stringTail?, unicodeEscape?_append escape tail,
        Option.bind_eq_bind, Option.bind_some, ih _ _ read]
  | case5 fuel seen letter after notUnicode ih =>
      obtain ⟨c, escape, read⟩ := Option.bind_eq_some_iff.mp read
      simp only [Nat.succ_add, List.cons_append, stringTail?, escape, Option.bind_eq_bind,
        Option.bind_some, ih _ read]
  | case6 => cases read
  | case7 fuel seen c after notQuote notUnicode notEscape plain ih =>
      have notBackslash : c ≠ '\\' := fun backslash => plain (.inr backslash)
      rw [Nat.succ_add, List.cons_append, stringTail?.eq_6 _ _ _ _ notQuote
        (fun _ backslash => absurd backslash notBackslash)
        (fun _ _ backslash => absurd backslash notBackslash), if_neg plain, ih read]

theorem word?_append {word : List Char} (read : word? word input = some rest) (tail : List Char) :
    word? word (input ++ tail) = some (rest ++ tail) := by
  fun_induction word? word input with
  | case1 =>
      cases read
      rfl
  | case2 c word input ih => rw [List.cons_append, word?, if_pos rfl, ih read]
  | case3 => cases read
  | case4 => cases read

theorem splitDigits_tail {row : List Char} (split : splitDigits input = (row, rest))
    (ends : EndsNumber tail) : splitDigits (input ++ tail) = (row, rest ++ tail) := by
  obtain ⟨rfl, rfl⟩ := Prod.mk.inj split
  have stops : ∀ c ∈ (input.dropWhile Char.isDigit ++ tail).head?, c.isDigit = false := by
    intro c first
    cases left : input.dropWhile Char.isDigit with
    | nil =>
        rw [left] at first
        exact (ends c first).1
    | cons d after =>
        have notDigit := List.head?_dropWhile_not Char.isDigit input
        rw [left] at first notDigit
        cases first
        exact notDigit
  rw [← splitDigits_append List.all_takeWhile stops, ← List.append_assoc,
    List.takeWhile_append_dropWhile]

theorem whole?_eq_some {row : List Char} : whole? input = some (row, rest) ↔
    splitDigits input = (row, rest) ∧ row ≠ [] ∧ ∀ d others, row ≠ '0' :: d :: others := by
  constructor
  · intro read
    rw [whole?] at read
    split at read
    · cases read
    · cases read
    · rename_i notEmpty notPadded
      have split := Option.some.inj read
      refine ⟨split, ?_, ?_⟩
      · rintro rfl
        exact notEmpty _ split
      · rintro d others rfl
        exact notPadded _ _ _ split
  · rintro ⟨split, notEmpty, notPadded⟩
    rw [whole?, split]
    split
    · rename_i eq
      exact absurd (congrArg Prod.fst eq) notEmpty
    · rename_i eq
      exact absurd (congrArg Prod.fst eq) (notPadded _ _)
    · rfl

theorem whole?_append {row : List Char} (read : whole? input = some (row, rest))
    (ends : EndsNumber tail) : whole? (input ++ tail) = some (row, rest ++ tail) := by
  rw [whole?_eq_some] at read ⊢
  exact ⟨splitDigits_tail read.1 ends, read.2⟩

theorem fraction?_point {row : List Char} : fraction? ('.' :: input) = some (row, rest) ↔
    splitDigits input = (row, rest) ∧ row ≠ [] := by
  simp only [fraction?]
  split
  · rename_i split
    rw [split]
    exact ⟨nofun, fun read => absurd (congrArg Prod.fst read.1).symm read.2⟩
  · rename_i notEmpty
    refine ⟨fun read => ?_, fun read => congrArg some read.1⟩
    have split := Option.some.inj read
    refine ⟨split, ?_⟩
    rintro rfl
    exact notEmpty _ split

theorem fraction?_of_no_point (other : ∀ c ∈ input.head?, c ≠ '.') :
    fraction? input = some ([], input) := by
  rw [fraction?.eq_def]
  split
  · exact absurd rfl (other '.' rfl)
  · rfl

theorem fraction?_append {row : List Char} (read : fraction? input = some (row, rest))
    (ends : EndsNumber tail) : fraction? (input ++ tail) = some (row, rest ++ tail) := by
  match input with
  | [] =>
      cases read
      exact fraction?_of_no_point fun c first => (ends c first).2.1
  | c :: input =>
      by_cases point : c = '.'
      · subst point
        rw [List.cons_append, fraction?_point]
        rw [fraction?_point] at read
        exact ⟨splitDigits_tail read.1 ends, read.2⟩
      · rw [fraction?_of_no_point (by simpa using point)] at read
        cases read
        exact fraction?_of_no_point (by simpa using point)

/-- The sign of an exponent, if one is written, and what follows it. -/
def exponentSign (input : List Char) : Bool × List Char :=
  match input with
  | '-' :: rest => (true, rest)
  | '+' :: rest => (false, rest)
  | _ => (false, input)

theorem exponentSign_append (notEmpty : input ≠ []) (tail : List Char) :
    exponentSign (input ++ tail) = ((exponentSign input).1, (exponentSign input).2 ++ tail) := by
  obtain ⟨c, input, rfl⟩ := List.exists_cons_of_ne_nil notEmpty
  by_cases minus : c = '-'
  · subst minus
    rfl
  · by_cases plus : c = '+'
    · subst plus
      rfl
    · simp [exponentSign, minus, plus]

theorem exponent?_letter {c : Char} {exponent : Option Int} (letter : c = 'e' ∨ c = 'E') :
    exponent? (c :: input) = some (exponent, rest) ↔
      ∃ row, splitDigits (exponentSign input).2 = (row, rest) ∧ row ≠ [] ∧ exponent =
        some (if (exponentSign input).1 then -(digitsValue row : Int) else digitsValue row) := by
  rw [exponent?.eq_def]
  simp only [if_pos letter]
  split
  · rename_i split
    rw [show splitDigits (exponentSign input).2 = _ from split]
    refine ⟨nofun, ?_⟩
    rintro ⟨row, eq, notEmpty, -⟩
    exact absurd (congrArg Prod.fst eq).symm notEmpty
  · rename_i row after notEmpty split
    rw [show splitDigits (exponentSign input).2 = _ from split]
    constructor
    · intro read
      cases read
      exact ⟨row, rfl, notEmpty, rfl⟩
    · rintro ⟨_, eq, -, rfl⟩
      cases eq
      rfl

theorem exponent?_append {exponent : Option Int} (read : exponent? input = some (exponent, rest))
    (ends : EndsNumber tail) : exponent? (input ++ tail) = some (exponent, rest ++ tail) := by
  match input with
  | [] =>
      cases read
      cases tail with
      | nil => rfl
      | cons c tail => exact if_neg (not_or.mpr (ends c rfl).2.2)
  | c :: input =>
      by_cases letter : c = 'e' ∨ c = 'E'
      · obtain ⟨row, split, notEmpty, eq⟩ := (exponent?_letter letter).mp read
        have goesOn : input ≠ [] := by
          rintro rfl
          cases split
          exact notEmpty rfl
        rw [List.cons_append, exponent?_letter letter, exponentSign_append goesOn]
        exact ⟨row, splitDigits_tail split ends, notEmpty, eq⟩
      · rw [exponent?.eq_def] at read
        simp only [if_neg letter] at read
        cases read
        exact if_neg letter

/-- The sign of a number, if one is written, and what follows it. -/
def numberSign (input : List Char) : Bool × List Char :=
  match input with
  | '-' :: rest => (true, rest)
  | _ => (false, input)

theorem numberSign_append (notEmpty : input ≠ []) (tail : List Char) :
    numberSign (input ++ tail) = ((numberSign input).1, (numberSign input).2 ++ tail) := by
  obtain ⟨c, input, rfl⟩ := List.exists_cons_of_ne_nil notEmpty
  by_cases minus : c = '-'
  · subst minus
    rfl
  · simp [numberSign, minus]

theorem numeral?_eq_some {numeral : Numeral} : numeral? input = some (numeral, rest) ↔
    numeral.negative = (numberSign input).1 ∧ ∃ beforePoint beforeExponent,
      whole? (numberSign input).2 = some (numeral.whole, beforePoint) ∧
      fraction? beforePoint = some (numeral.fraction, beforeExponent) ∧
      exponent? beforeExponent = some (numeral.exponent, rest) := by
  rw [numeral?.eq_def]
  simp only [Option.bind_eq_bind, Option.bind_eq_some_iff]
  constructor
  · rintro ⟨⟨whole, beforePoint⟩, readWhole, ⟨fraction, beforeExponent⟩, readFraction,
      ⟨exponent, after⟩, readExponent, eq⟩
    cases eq
    exact ⟨rfl, beforePoint, beforeExponent, readWhole, readFraction, readExponent⟩
  · rintro ⟨negative, beforePoint, beforeExponent, readWhole, readFraction, readExponent⟩
    refine ⟨_, readWhole, _, readFraction, _, readExponent, ?_⟩
    cases numeral
    cases negative
    rfl

theorem numeral?_append {numeral : Numeral} (read : numeral? input = some (numeral, rest))
    (ends : EndsNumber tail) : numeral? (input ++ tail) = some (numeral, rest ++ tail) := by
  rw [numeral?_eq_some] at read ⊢
  obtain ⟨negative, beforePoint, beforeExponent, readWhole, readFraction, readExponent⟩ := read
  have notEmpty : input ≠ [] := by
    rintro rfl
    cases readWhole
  rw [numberSign_append notEmpty]
  exact ⟨negative, _, _, whole?_append readWhole ends, fraction?_append readFraction ends,
    exponent?_append readExponent ends⟩

theorem number?_append {number : Number} (read : number? input = some (number, rest))
    (ends : EndsNumber tail) : number? (input ++ tail) = some (number, rest ++ tail) := by
  obtain ⟨⟨numeral, after⟩, read, eq⟩ := Option.map_eq_some_iff.mp read
  cases eq
  rw [number?, numeral?_append read ends]
  rfl

end SpotSettlement.Json
