import SpotSettlement.Json.Reader

namespace SpotSettlement.Json

/-! # Excerpts

An excerpt of an object holds the members that a reader asks for.  The values of the others are
passed over, and only need the form of values: a number may be too great, and half a surrogate pair
may stand alone.
-/

/-- What follows a string, given what follows its opening quote. -/
def pastString? : List Char → Option (List Char)
  | [] => none
  | '"' :: rest => some rest
  | '\\' :: 'u' :: a :: b :: c :: d :: rest =>
    if (hexQuad? [a, b, c, d]).isSome then pastString? rest else none
  | '\\' :: c :: rest => if (simpleEscape? c).isSome then pastString? rest else none
  | c :: rest => if c.toNat < 32 ∨ c = '\\' then none else pastString? rest

mutual

/-- What follows a value. -/
def past? (fuel : Nat) (input : List Char) : Option (List Char) :=
  match fuel with
  | 0 => none
  | fuel + 1 =>
    match skipSpace input with
    | '"' :: rest => pastString? rest
    | '[' :: rest =>
      match skipSpace rest with
      | ']' :: rest => some rest
      | rest => pastItems? fuel rest
    | '\x7b' :: rest =>
      match skipSpace rest with
      | '\x7d' :: rest => some rest
      | rest => pastMembers? fuel rest
    | 't' :: rest => word? ['r', 'u', 'e'] rest
    | 'f' :: rest => word? ['a', 'l', 's', 'e'] rest
    | 'n' :: rest => word? ['u', 'l', 'l'] rest
    | rest => (number? rest).map (·.2)

/-- What follows an array, given what follows its opening bracket or a comma in it. -/
def pastItems? (fuel : Nat) (input : List Char) : Option (List Char) :=
  match fuel with
  | 0 => none
  | fuel + 1 => do
    match skipSpace (← past? fuel input) with
    | ']' :: rest => return rest
    | ',' :: rest => pastItems? fuel rest
    | _ => none

/-- What follows an object, given what follows its opening brace or a comma in it. -/
def pastMembers? (fuel : Nat) (input : List Char) : Option (List Char) :=
  match fuel with
  | 0 => none
  | fuel + 1 =>
    match skipSpace input with
    | '"' :: rest => do
      match skipSpace (← pastString? rest) with
      | ':' :: rest =>
        match skipSpace (← past? fuel rest) with
        | '\x7d' :: rest => return rest
        | ',' :: rest => pastMembers? fuel rest
        | _ => none
      | _ => none
    | _ => none

end

/-- What follows the value that the input starts with. -/
def pastValue? (input : List Char) : Option (List Char) := past? (2 * input.length + 2) input

/-- The members with these names up to the closing brace of an object; `seen` holds those that were
read, last first. -/
def excerptMembers? (names : List String) (fuel : Nat) (seen : List (String × Json))
    (input : List Char) : Option (List (String × Json) × List Char) :=
  match fuel with
  | 0 => none
  | fuel + 1 =>
    match skipSpace input with
    | '"' :: rest => do
      let (key, rest) ← stringTail? (rest.length + 1) [] rest
      match skipSpace rest with
      | ':' :: rest => do
        let (seen, rest) ←
          if names.contains key then do
            let (value, rest) ← value? (2 * rest.length + 2) depthLimit rest
            pure ((key, value) :: seen, rest)
          else do
            let rest ← pastValue? rest
            pure (seen, rest)
        match skipSpace rest with
        | '\x7d' :: rest => return (seen.reverse, rest)
        | ',' :: rest => excerptMembers? names fuel seen rest
        | _ => none
      | _ => none
    | _ => none

/-- The value that the input starts with; of an object, the members with these names. -/
def excerpt? (names : List String) (input : List Char) : Option (Json × List Char) :=
  match skipSpace input with
  | '\x7b' :: rest =>
    match skipSpace rest with
    | '\x7d' :: rest => some (.object [], rest)
    | rest => (excerptMembers? names (rest.length + 1) [] rest).map fun (members, rest) =>
        (.object members, rest)
  | rest => value? (2 * rest.length + 2) depthLimit rest

/-- The excerpts of the items of an array from one of them up to the closing bracket. -/
def excerptItems? (names : List String) (fuel : Nat) (seen : List Json) (input : List Char) :
    Option (List Json × List Char) :=
  match fuel with
  | 0 => none
  | fuel + 1 => do
    let (item, rest) ← excerpt? names input
    match skipSpace rest with
    | ']' :: rest => return ((item :: seen).reverse, rest)
    | ',' :: rest => excerptItems? names fuel (item :: seen) rest
    | _ => none

/-- The excerpts of the items of the array that the input starts with. -/
def excerpts? (names : List String) (input : List Char) : Option (List Json × List Char) :=
  match skipSpace input with
  | '[' :: rest =>
    match skipSpace rest with
    | ']' :: rest => some ([], rest)
    | rest => excerptItems? names (rest.length + 1) [] rest
  | _ => none

/-- What a reader makes of a whole text, blanks after it allowed. -/
def entire? {α : Type} (read : List Char → Option (α × List Char)) (text : String) : Option α := do
  let (value, rest) ← read text.toList
  if (skipSpace rest).isEmpty then return value else none

end SpotSettlement.Json
