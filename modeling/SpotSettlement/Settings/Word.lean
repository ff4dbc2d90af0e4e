import SpotSettlement.Text.Digits

namespace SpotSettlement.Document

/-! # Words of a settings document

A text stands in quotes, or without them as a plain word.  Either may go on over several lines: the
blanks around a line break are dropped, one break reads as a blank, and of several the first is
dropped.  Only the separators of lines and of paragraphs stay as they are.
-/

/-- Whether a document may hold the character at all. -/
def isReadable (c : Char) : Bool :=
  let point := c.toNat
  (32 ≤ point && point ≤ 126) || [9, 10, 13, 0x85].contains point ||
    (0xA0 ≤ point && point ≤ 0xFFFD) || 0x10000 ≤ point

/-- The text with every end of a line as one newline. -/
def unifyLines : List Char → List Char
  | [] => []
  | '\r' :: '\n' :: rest => '\n' :: unifyLines rest
  | c :: rest => (if c = '\r' ∨ c.toNat = 0x85 then '\n' else c) :: unifyLines rest

/-- Whether a line ends at the character. -/
def isBreak (c : Char) : Bool := [10, 0x2028, 0x2029].contains c.toNat

/-- Whether the character is a blank within a line. -/
def isBlank (c : Char) : Bool := c == ' ' || c == '\t'

/-- Whether the character only parts words. -/
def isGap (c : Char) : Bool := isBlank c || isBreak c

/-- The input after what only parts words. -/
def skipGap (input : List Char) : List Char := input.dropWhile isGap

/-- What has been passed over since the last character of a word. -/
inductive Gap where
  /-- Blanks of one line, last first. -/
  | blanks (row : List Char)
  /-- The end of a line, unless it is escaped, and the further breaks, last first. -/
  | lines (first : Option Char) (more : List Char)

namespace Gap

def none : Gap := .blanks []

/-- Passes over one more character. -/
def push (gap : Gap) (c : Char) : Gap :=
  match gap, isBreak c with
  | .blanks _, true => .lines (some c) []
  | .blanks row, false => .blanks (c :: row)
  | .lines first more, true => .lines first (c :: more)
  | .lines first more, false => .lines first more

/-- What the gap reads as, last first. -/
def reading : Gap → List Char
  | .blanks row => row
  | .lines (some '\n') [] => [' ']
  | .lines (some '\n') more | .lines .none more => more
  | .lines (some separator) more => more ++ [separator]

end Gap

/-- Whether the input starts with a mark between documents. -/
def isDocumentMark : List Char → Bool
  | a :: b :: c :: rest => ([a, b, c] == ['-', '-', '-'] || [a, b, c] == ['.', '.', '.']) &&
      (rest.take 1).all isGap
  | _ => false

/-- Whether a line of the input starts with such a mark; `fresh` if a line starts with the input. -/
def holdsDocumentMark (fresh : Bool) : List Char → Bool
  | [] => false
  | c :: rest => (fresh && isDocumentMark (c :: rest)) || holdsDocumentMark (isBreak c) rest

/-- The escapes of one letter, with the code points that they stand for. -/
def letterEscapes : List (Char × Nat) :=
  [('0', 0), ('a', 7), ('b', 8), ('t', 9), ('\t', 9), ('n', 10), ('v', 11), ('f', 12), ('r', 13),
    ('e', 27), (' ', 32), ('"', 34), ('/', 47), ('\\', 92), ('N', 0x85), ('_', 0xA0), ('L', 0x2028),
    ('P', 0x2029)]

/-- The character whose code point so many hexadecimal digits write.  A half of a surrogate pair is
none, for escapes do not form pairs. -/
def codePoint? (count : Nat) (input : List Char) : Option (Char × List Char) := do
  let digits ← (input.take count).mapM Text.hexValue?
  let point := digits.foldl (fun value digit => value * 16 + digit) 0
  if digits.length = count ∧ point.isValidChar then
    return (Char.ofNat point, input.drop count)
  else none

/-- The character that an escape stands for, given what follows the backslash. -/
def escape? : List Char → Option (Char × List Char)
  | 'x' :: rest => codePoint? 2 rest
  | 'u' :: rest => codePoint? 4 rest
  | 'U' :: rest => codePoint? 8 rest
  | c :: rest => (letterEscapes.lookup c).map fun point => (Char.ofNat point, rest)
  | [] => none

/-- The rest of a quoted text after its opening quote; `seen` holds what was read, last first. -/
def quotedTail? : Nat → Gap → List Char → List Char → Option (String × List Char)
  | 0, _, _, _ | _ + 1, _, _, [] => none
  | fuel + 1, gap, seen, c :: rest =>
    if isGap c then quotedTail? fuel (gap.push c) seen rest
    else
      let seen := gap.reading ++ seen
      match c, rest with
      | '"', rest => some (String.ofList seen.reverse, rest)
      | '\\', next :: after =>
        if isBreak next then quotedTail? fuel (.lines none []) seen after
        else do
          let (c, rest) ← escape? rest
          quotedTail? fuel .none (c :: seen) rest
      | c, rest => quotedTail? fuel .none (c :: seen) rest

/-- Whether the character belongs to the form of mappings and lists. -/
def isPunctuation (c : Char) : Bool := [',', '[', ']', '\x7b', '\x7d'].contains c

/-- The rest of a plain word; `seen` holds what was read, last first.  A word ends before
punctuation, before a colon that a gap follows, and before a comment. -/
def plainTail? : Nat → Gap → List Char → List Char → Option (String × List Char)
  | 0, _, _, _ => none
  | _ + 1, _, seen, [] => some (String.ofList seen.reverse, [])
  | fuel + 1, gap, seen, c :: rest =>
    let endsHere := isPunctuation c || (c == ':' && (rest.take 1).all isGap) ||
      (c == '#' && !gap.reading.isEmpty)
    if isGap c then plainTail? fuel (gap.push c) seen rest
    else if endsHere then some (String.ofList seen.reverse, c :: rest)
    else if c = ':' ∧ (rest.take 1).all (fun next => isPunctuation next || next == '?') then none
    else plainTail? fuel .none (c :: (gap.reading ++ seen)) rest

/-- Whether a plain word starts here. -/
def startsPlain : List Char → Bool
  | '-' :: rest => !(rest.take 1).all isGap
  | c :: _ => !isPunctuation c && !isGap c &&
      !([':', '?', '#', '&', '*', '!', '|', '>', '\'', '"', '%', '@', Char.ofNat 96].contains c)
  | [] => false

end SpotSettlement.Document
