import SpotSettlement.Text.Digits

namespace SpotSettlement.Text

/-! # Percent escapes

In addresses and in form fields a byte may be written as a percent sign and two hexadecimal digits.
A form field escapes whatever is not a letter, a digit or one of `*-._`, with a plus sign for a
blank, so that neither a separator nor a sign of its own can appear in it.
-/

/-- The bytes of a row of characters, as a text is sent, signed and escaped: its UTF-8 form. -/
def utf8 (characters : List Char) : List UInt8 := characters.flatMap String.utf8EncodeChar

/-- The characters that a row of bytes stands for, if it is the form of any. -/
def ofUtf8? (bytes : List UInt8) : Option (List Char) :=
  bytes.toByteArray.utf8Decode?.map Array.toList

theorem ofUtf8?_utf8 (characters : List Char) : ofUtf8? (utf8 characters) = some characters := by
  have decoded := List.utf8Decode?_utf8Encode (l := characters)
  unfold List.utf8Encode at decoded
  simp [ofUtf8?, utf8, decoded]

/-- A byte as an escape. -/
def percentEscape (byte : UInt8) : List Char :=
  ['%', upperHexDigit (byte.toNat / 16), upperHexDigit (byte.toNat % 16)]

/-- The bytes that an escaped text stands for.  A percent sign that no two digits follow stands for
itself. -/
def percentDecode : List Char → List UInt8
  | [] => []
  | '%' :: high :: low :: rest =>
    match hexValue? high, hexValue? low with
    | some high, some low => UInt8.ofNat (high * 16 + low) :: percentDecode rest
    | _, _ => String.utf8EncodeChar '%' ++ percentDecode (high :: low :: rest)
  | c :: rest => String.utf8EncodeChar c ++ percentDecode rest

/-- The text that an escaped text stands for, if its bytes are the form of one. -/
def percentDecoded? (input : String) : Option String :=
  (ofUtf8? (percentDecode input.toList)).map String.ofList

namespace Form

/-- Whether a character stands for itself in a field. -/
def isPlain (c : Char) : Bool :=
  c.isAlphanum || c == '*' || c == '-' || c == '.' || c == '_'

def encodeChar (c : Char) : List Char :=
  if isPlain c then [c]
  else if c = ' ' then ['+']
  else (String.utf8EncodeChar c).flatMap percentEscape

def encode (field : String) : List Char := field.toList.flatMap encodeChar

/-- A name and a value, with an equals sign between them. -/
def pair (name value : String) : List Char := encode name ++ '=' :: encode value

/-- Pairs with `&` between them. -/
def join : List (List Char) → List Char
  | [] => []
  | [only] => only
  | first :: rest => first ++ '&' :: join rest

/-- Names and values as the query of a request. -/
def query (pairs : List (String × String)) : List Char :=
  join (pairs.map fun (name, value) => pair name value)

/-- The text of a field, if it is one. -/
def decode? (field : List Char) : Option String :=
  (ofUtf8? (percentDecode (field.map fun c => if c = '+' then ' ' else c))).map String.ofList

/-- The part before the first separator, and the part after it. -/
def cut (separator : Char) (input : List Char) : List Char × List Char :=
  (input.takeWhile (· != separator), (input.dropWhile (· != separator)).drop 1)

/-- The parts between separators. -/
def split (separator : Char) : List Char → List (List Char)
  | [] => [[]]
  | c :: rest =>
    if c = separator then [] :: split separator rest
    else match split separator rest with
      | [] => [[c]]
      | part :: parts => (c :: part) :: parts

/-- The name and the value of a written pair. -/
def pair? (written : List Char) : Option (String × String) := do
  let (name, value) := cut '=' written
  return (← decode? name, ← decode? value)

/-- The names and values of a query. -/
def pairs? (query : List Char) : Option (List (String × String)) :=
  (split '&' query).mapM pair?

end Form

end SpotSettlement.Text
