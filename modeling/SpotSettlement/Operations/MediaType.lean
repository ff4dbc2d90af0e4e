import SpotSettlement.Text.Uppercase

namespace SpotSettlement

/-! # Media types

A media type names the form of a body: a type, a subtype that a suffix may follow, and parameters.
-/

/-- A media type, in lower case, without its parameters. -/
structure MediaType where
  type : String
  subtype : String
  /-- What follows the last plus sign. -/
  suffix : Option String
  deriving DecidableEq, Repr, Inhabited

namespace MediaType

/-- Whether a word of a media type may hold the character. -/
def isToken (c : Char) : Bool := c.isAlphanum || "!#$%&'*+-.^_|~".toList.contains c || c.toNat == 96

/-- A word of at least one character, and what follows it. -/
def token? (input : List Char) : Option (List Char × List Char) :=
  match input.takeWhile isToken with
  | [] => none
  | word => some (word, input.dropWhile isToken)

/-- Whether a quoted value may hold the character. -/
def isQuotable (c : Char) : Bool := 31 < c.toNat && c.toNat < 127

/-- What follows the value of a parameter: the next parameter, or nothing.  A value without quotes
is empty only at the end.  A quoted value has a first character, which may be a quote itself, and
ends at the next quote; blanks may follow it. -/
def afterValue? (input : List Char) : Option (List Char) :=
  match input with
  | '"' :: first :: rest =>
    if isQuotable first ∧ (rest.takeWhile (· != '"')).all isQuotable then
      match rest.dropWhile (· != '"') with
      | [] => none
      | _ :: after => next? (after.dropWhile (· == ' '))
    else none
  | ['"'] | ';' :: _ => none
  | _ => next? (input.dropWhile isToken)
where
  /-- What follows the semicolon, or nothing at the end. -/
  next? : List Char → Option (List Char)
    | [] => some []
    | c :: rest => if c = ';' then some rest else none

/-- Whether the input is a row of parameters, each with a name and a value; blanks may stand before
a name. -/
def areParameters : Nat → List Char → Bool
  | 0, _ => false
  | fuel + 1, input =>
    match input.dropWhile (· == ' ') with
    | [] => true
    | start =>
      match token? start with
      | some (_, '=' :: value) => (afterValue? value).any (areParameters fuel)
      | _ => false

/-- A subtype and its suffix: the last plus sign parts them, if anything stands before it. -/
def splitSuffix (word : List Char) : String × Option String :=
  let reversed := word.reverse
  match reversed.dropWhile (· != '+') with
  | _ :: c :: before =>
    (String.ofList (c :: before).reverse,
      some (String.ofList (reversed.takeWhile (· != '+')).reverse))
  | _ => (String.ofList word, none)

def ofText? (text : String) : Option MediaType :=
  match token? (Text.asciiLower text).toList with
  | some (type, '/' :: rest) =>
    match token? rest with
    | some (word, after) =>
      let valid := match after with
        | [] => true
        | c :: parameters => c == ';' && areParameters (parameters.length + 1) parameters
      let (subtype, suffix) := splitSuffix word
      if valid then some { type := String.ofList type, subtype, suffix } else none
    | none => none
  | _ => none

/-- Whether a body of this type is JSON. -/
def isJson (media : MediaType) : Bool :=
  media.type == "application" && (media.subtype == "json" || media.suffix == some "json")

end MediaType

end SpotSettlement
