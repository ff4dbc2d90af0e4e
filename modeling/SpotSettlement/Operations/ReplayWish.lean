import SpotSettlement.Json.Excerpt
import SpotSettlement.Json.Number

namespace SpotSettlement

/-! # What operators wish to be replayed

The body of the request is read from its start, and the first thing that is wrong with it decides
how it is refused: it is no JSON, or it is JSON of another shape.
-/

/-- The wish for a replay; a connector that is not named is the default one. -/
structure ReplayWish where
  connector : Option String := none
  reason : Option String := none
  requestedBy : Option String := none
  deriving DecidableEq, Repr, Inhabited

inductive BodyFault where
  /-- It is no JSON. -/
  | malformed
  /-- It is JSON of another shape. -/
  | misshapen
  deriving DecidableEq, Repr, Inhabited

namespace ReplayWish

open Json (skipSpace)

/-- Refuses a value that is no text: it is misshapen, unless it is not even a value. -/
def refuseValue {α : Type} (input : List Char) : Except BodyFault α :=
  match Json.value? 1 Json.depthLimit input with
  | some (value, _) => .error (if value.finite then .misshapen else .malformed)
  | none => .error .malformed

/-- A text, or nothing. -/
def text (input : List Char) : Except BodyFault (Option String × List Char) :=
  match skipSpace input with
  | '"' :: rest =>
    match Json.stringTail? (rest.length + 1) [] rest with
    | some (text, rest) => .ok (some text, rest)
    | none => .error .malformed
  | 'n' :: rest =>
    match Json.word? ['u', 'l', 'l'] rest with
    | some rest => .ok (none, rest)
    | none => .error .malformed
  | '[' :: _ | '\x7b' :: _ => .error .misshapen
  | rest => refuseValue rest

def names : List String := ["connector", "reason", "requested_by"]

/-- The members of an object up to its closing brace; `seen` holds those that were read. -/
def members (seen : List (String × Option String)) :
    Nat → List Char → Except BodyFault (List (String × Option String) × List Char)
  | 0, _ => .error .malformed
  | fuel + 1, input =>
    match skipSpace input with
    | '"' :: rest =>
      match Json.stringTail? (rest.length + 1) [] rest with
      | none => .error .malformed
      | some (key, rest) => do
        if names.contains key ∧ (seen.lookup key).isSome then throw .misshapen
        match skipSpace rest with
        | ':' :: rest =>
          let (seen, rest) ←
            if names.contains key then do
              let (value, rest) ← text rest
              pure ((key, value) :: seen, rest)
            else
              match Json.pastValue? rest with
              | some rest => pure (seen, rest)
              | none => throw .malformed
          match skipSpace rest with
          | '\x7d' :: rest => return (seen, rest)
          | ',' :: rest => members seen fuel rest
          | _ => throw .malformed
        | _ => throw .malformed
    | _ => .error .malformed

/-- The items of an array up to its closing bracket, at most so many. -/
def items : Nat → List Char → Except BodyFault (List (Option String) × List Char)
  | 0, _ => .error .malformed
  | count + 1, input => do
    let (item, rest) ← text input
    match skipSpace rest with
    | ']' :: rest => return ([item], rest)
    | ',' :: rest =>
      match count, skipSpace rest with
      | 0, _ | _, ']' :: _ | _, [] => throw .malformed
      | _, rest =>
        let (more, rest) ← items count rest
        return (item :: more, rest)
    | _ => throw .malformed

/-- The wish that some members make. -/
def ofMembers (members : List (String × Option String)) : ReplayWish where
  connector := (members.lookup "connector").join
  reason := (members.lookup "reason").join
  requestedBy := (members.lookup "requested_by").join

/-- The wish at the start of a body: an object, or an array with the members in order. -/
def read (input : List Char) : Except BodyFault (ReplayWish × List Char) :=
  match skipSpace input with
  | '\x7b' :: rest =>
    match skipSpace rest with
    | '\x7d' :: rest => .ok ({}, rest)
    | rest => (members [] (rest.length + 1) rest).map fun (found, rest) => (ofMembers found, rest)
  | '[' :: rest =>
    match skipSpace rest with
    | ']' :: rest => .ok ({}, rest)
    | rest => (items names.length rest).map fun (found, rest) => (ofMembers (names.zip found), rest)
  | rest => refuseValue rest

def ofBody (body : String) : Except BodyFault ReplayWish := do
  let (wish, rest) ← read body.toList
  if (skipSpace rest).isEmpty then return wish else throw .malformed

end ReplayWish

end SpotSettlement
