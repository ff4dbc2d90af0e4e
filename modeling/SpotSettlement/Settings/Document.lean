import SpotSettlement.Json.Reader
import SpotSettlement.Settings.Word

namespace SpotSettlement

/-! # Settings documents

Settings are written in the flow form of YAML, of which JSON is a part: mappings in braces, lists in
brackets, quoted texts, and plain words.  A plain word is kept as it is written, for only the
setting that it is given for decides whether it is a number, a truth value, a text or nothing at
all.
-/

inductive Document where
  /-- A word without quotes; an empty one where a value is missing. -/
  | plain (word : String)
  | quoted (text : String)
  | list (items : List Document)
  | mapping (members : List (String × Document))
  deriving Inhabited

namespace Document

/-- Nesting that the reader goes along with. -/
def depthLimit : Nat := 255

/-- How far a key may reach. -/
def keyLimit : Nat := 1024

/-- Whether what stands between the two places can be a key: it is short and on one line. -/
def isKey (start colon : List Char) : Bool :=
  let length := start.length - colon.length
  length ≤ keyLimit && !(start.take length).any isBreak

/-- Whether a value may follow a colon like this: a tab alone does not part it from a word of
letters or digits. -/
def isParted (input : List Char) : Bool :=
  let blanks := input.takeWhile isBlank
  blanks.isEmpty || blanks.contains ' ' ||
    !(input.drop blanks.length).head?.any fun c => c.isAlphanum || c == '_' || c == '-'

/-- Whether a value is missing where the input goes on like this. -/
def isMissing (input : List Char) : Bool :=
  match skipGap input with
  | ',' :: _ | '\x7d' :: _ => true
  | _ => false

/-- A text in quotes or a plain word. -/
def word? : List Char → Option (Document × List Char)
  | '"' :: rest =>
    (quotedTail? (rest.length + 1) .none [] rest).map fun (text, rest) => (.quoted text, rest)
  | input =>
    if startsPlain input then
      (plainTail? (input.length + 1) .none [] input).map fun (word, rest) => (.plain word, rest)
    else none

/-- The text of a word. -/
def text? : Document → Option String
  | .plain word => some word
  | .quoted text => some text
  | _ => none

mutual

/-- A document.  `depth` counts the lists and mappings that may still be opened. -/
def value? (fuel depth : Nat) (input : List Char) : Option (Document × List Char) :=
  match fuel with
  | 0 => none
  | fuel + 1 =>
    match skipGap input, depth with
    | '[' :: rest, depth + 1 =>
      (items? fuel depth [] rest).map fun (items, rest) => (.list items, rest)
    | '\x7b' :: rest, depth + 1 =>
      (members? fuel depth [] rest).map fun (members, rest) => (.mapping members, rest)
    | rest, _ => word? rest

/-- The items of a list up to its closing bracket; a comma may follow the last. -/
def items? (fuel depth : Nat) (seen : List Document) (input : List Char) :
    Option (List Document × List Char) :=
  match fuel with
  | 0 => none
  | fuel + 1 =>
    match skipGap input with
    | ']' :: rest => some (seen.reverse, rest)
    | input => do
      let (item, rest) ← value? fuel depth input
      match skipGap rest with
      | ']' :: rest => return ((item :: seen).reverse, rest)
      | ',' :: rest => items? fuel depth (item :: seen) rest
      | _ => none

/-- The members of a mapping up to its closing brace; a comma may follow the last.  A key without a
colon has nothing for its value. -/
def members? (fuel depth : Nat) (seen : List (String × Document)) (input : List Char) :
    Option (List (String × Document) × List Char) :=
  match fuel with
  | 0 => none
  | fuel + 1 =>
    match skipGap input with
    | '\x7d' :: rest => some (seen.reverse, rest)
    | start => do
      let (word, rest) ← word? start
      let key ← word.text?
      let (value, rest) ← match skipGap rest with
        | ':' :: after =>
          if ¬ isKey start (':' :: after) ∨ ¬ isParted after then none
          else if isMissing after then some (.plain "", after)
          else value? fuel depth after
        | rest => some (.plain "", rest)
      let seen := (key, value) :: seen
      match skipGap rest with
      | '\x7d' :: rest => return (seen.reverse, rest)
      | ',' :: rest => members? fuel depth seen rest
      | _ => none

end

/-- The words for nothing. -/
def nothingWords : List String := ["", "~", "null", "Null", "NULL"]

def isNothing : Document → Bool
  | .plain word => nothingWords.contains word
  | _ => false

/-- Whether the character stands before a document: no tab does. -/
def isOutside (c : Char) : Bool := c == ' ' || isBreak c

/-- Whether nothing is left after a document.  A tab may stand in its last line only. -/
def isOver (rest : List Char) : Bool := ((rest.dropWhile isBlank).dropWhile isOutside).isEmpty

/-- The text after the byte order mark that may stand before it. -/
def skipByteOrderMark : List Char → List Char
  | [] => []
  | c :: rest => if c.toNat = 0xFEFF then rest else c :: rest

/-- A whole text as one document: a mapping, a list, a quoted text or a word for nothing. -/
def parse? (text : String) : Option Document :=
  let lines := unifyLines (skipByteOrderMark text.toList)
  let input := lines.dropWhile isOutside
  if lines.all isReadable ∧ ¬ holdsDocumentMark true lines ∧ ¬ input.head?.any isBlank then
    match value? (2 * input.length + 2) depthLimit input with
    | some (.plain word, rest) =>
      if nothingWords.contains word ∧ rest.isEmpty then some (.plain word) else none
    | some (document, rest) => if isOver rest then some document else none
    | none => none
  else none

/-- The name of a choice: a text, or a mapping that gives nothing to it as its only key. -/
def name? : Document → Option String
  | .mapping [(name, value)] => if value.isNothing then some name else none
  | other => other.text?

def bool? : Document → Option Bool
  | .plain word =>
    if ["true", "True", "TRUE"].contains word then some true
    else if ["false", "False", "FALSE"].contains word then some false
    else none
  | _ => none

/-- A row of digits as a natural number; none of several digits starts with a zero. -/
def digits? (row : List Char) : Option Nat :=
  match row with
  | [] => none
  | '0' :: _ :: _ => none
  | row => if row.all Char.isDigit then some (Text.digitsValue row) else none

/-- A natural number of at most so many bits. -/
def unsigned? (bits : Nat) : Document → Option Nat
  | .plain word => do
    let value ← match word.toList with
      | '+' :: row => digits? row
      | row => digits? row
    if value < wordSize bits then return value else none
  | _ => none

/-- The double nearest to the number that is written, unless it is too great. -/
def nearest? (numeral : Json.Numeral) : Option Float :=
  let coefficient := Text.digitsValue (numeral.whole ++ numeral.fraction)
  let exponent := numeral.exponent.getD 0 - numeral.fraction.length
  let digits : Int := Nat.log2 coefficient / 3 + 1
  let size :=
    if coefficient = 0 ∨ exponent + digits < -400 then some 0.0
    else if 400 < exponent then none
    else if exponent < 0 then some (Float.ofScientific coefficient true (-exponent).toNat)
    else some (Float.ofScientific coefficient false exponent.toNat)
  (size.filter Float.isFinite).map fun size => if numeral.negative then -size else size

def float? : Document → Option Float
  | .plain word =>
    let row := match word.toList with
      | '+' :: row => row
      | row => row
    match Json.numeral? row with
    | some (numeral, []) => nearest? numeral
    | _ => none
  | _ => none

/-- What is there, or nothing. -/
def optional? {α : Type} (read : Document → Option α) (document : Document) : Option (Option α) :=
  if document.isNothing then some none else (read document).map some

/-- A list; nothing is the empty one. -/
def list? {α : Type} (read : Document → Option α) (document : Document) : Option (List α) :=
  match document with
  | .list items => items.mapM read
  | other => if other.isNothing then some [] else none

/-- Whether no name in the list occurs twice. -/
def distinct : List String → Bool
  | [] => true
  | name :: rest => !rest.contains name && distinct rest

/-- The members of a section, which has no key twice; nothing has none. -/
def section? : Document → Option (List (String × Document))
  | .mapping members => if distinct (members.map (·.1)) then some members else none
  | other => if other.isNothing then some [] else none

/-- A setting of a section, or its default where it is not set. -/
def setting? {α : Type} (members : List (String × Document)) (key : String)
    (read : Document → Option α) (default : α) : Option α :=
  match members.lookup key with
  | none => some default
  | some document => read document

end Document

end SpotSettlement
