namespace SpotSettlement

/-! # Placeholders

A text may hold placeholders for variables of the environment: `${NAME}`, or
`${NAME:-default}` with a default that ends at the first closing brace.  They are replaced in
a single pass from left to right; what was put in is not looked at again.
-/

/-- A placeholder: the name of a variable, and the text that stands in for it. -/
structure Placeholder where
  name : List Char
  default : List Char
  deriving DecidableEq, Repr, Inhabited

namespace Placeholder

/-- Whether a name can start with the character. -/
def isNameStart (c : Char) : Bool := c.isAlpha || c == '_'

/-- Whether a name can go on with the character. -/
def isNameChar (c : Char) : Bool := c.isAlphanum || c == '_'

/-- What follows the name in a placeholder: its end, or a default and its end. -/
def ending? : List Char → Option (List Char × List Char)
  | '\x7d' :: rest => some ([], rest)
  | ':' :: '-' :: rest =>
    match rest.dropWhile (· != '\x7d') with
    | _ :: after => some (rest.takeWhile (· != '\x7d'), after)
    | [] => none
  | _ => none

/-- The placeholder that the text starts with, and the text after it. -/
def read? : List Char → Option (Placeholder × List Char)
  | '$' :: '\x7b' :: first :: rest =>
    if isNameStart first then
      (ending? (rest.dropWhile isNameChar)).map fun (default, after) =>
        ({ name := first :: rest.takeWhile isNameChar, default }, after)
    else none
  | _ => none

/-- What a placeholder is replaced by: the value of its variable, unless there is none or it is
empty. -/
def value (environment : String → Option String) (placeholder : Placeholder) : List Char :=
  match environment (String.ofList placeholder.name) with
  | some value => if value.isEmpty then placeholder.default else value.toList
  | none => placeholder.default

theorem length_of_ending? {input default after : List Char}
    (found : ending? input = some (default, after)) : after.length ≤ input.length := by
  unfold ending? at found
  split at found
  · simp only [Option.some.injEq, Prod.mk.injEq] at found
    simp [← found.2]
  · rename_i rest
    split at found
    · rename_i before dropped
      simp only [Option.some.injEq, Prod.mk.injEq] at found
      have bound : (rest.dropWhile (· != '\x7d')).length ≤ rest.length :=
        (List.dropWhile_sublist _).length_le
      rw [dropped] at bound
      simp only [List.length_cons, ← found.2] at bound ⊢
      omega
    · exact absurd found (by simp)
  · exact absurd found (by simp)

theorem length_of_read? {input after : List Char} {placeholder : Placeholder}
    (found : read? input = some (placeholder, after)) : after.length < input.length := by
  unfold read? at found
  split at found
  · rename_i first rest
    split at found
    · obtain ⟨⟨default, tail⟩, ended, same⟩ := Option.map_eq_some_iff.1 found
      have bound := length_of_ending? ended
      have dropped : (rest.dropWhile isNameChar).length ≤ rest.length :=
        (List.dropWhile_sublist _).length_le
      simp only [Prod.mk.injEq] at same
      simp only [List.length_cons, ← same.2]
      omega
    · exact absurd found (by simp)
  · exact absurd found (by simp)

end Placeholder

/-- The text with its placeholders replaced. -/
def interpolate (environment : String → Option String) : List Char → List Char
  | [] => []
  | c :: rest =>
    match _found : Placeholder.read? (c :: rest) with
    | some (placeholder, after) =>
      placeholder.value environment ++ interpolate environment after
    | none => c :: interpolate environment rest
  termination_by input => input.length
  decreasing_by
    · exact Placeholder.length_of_read? _found
    · simp

end SpotSettlement
