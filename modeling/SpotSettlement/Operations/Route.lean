import SpotSettlement.Text.PercentEncoding

namespace SpotSettlement

/-! # Routes

What operators can ask for, by the path of the request.
-/

/-- What a request is about.  Names and ids stand as they are written in the path. -/
inductive Route where
  /-- Whether the engine is alive. -/
  | liveness
  /-- The health of a connector. -/
  | connectorHealth (name : List Char)
  /-- All replays: here new ones are asked for. -/
  | replays
  /-- One replay. -/
  | replay (id : List Char)
  deriving DecidableEq, Repr, Inhabited

namespace Route

/-- Whether the name of a scheme, such as `https`, may hold the character. -/
def isSchemeChar (c : Char) : Bool := c.isAlphanum || c == '+' || c == '-' || c == '.'

/-- Whether a path goes on with the character: a query and a fragment end it. -/
def isPathChar (c : Char) : Bool := c != '?' && c != '#'

/-- The path of a target, without its query.  A target may also name the scheme and the host before
the path. -/
def pathOf (target : List Char) : List Char :=
  match target.dropWhile isSchemeChar with
  | ':' :: '/' :: '/' :: rest =>
    (rest.dropWhile fun c => isPathChar c && c != '/').takeWhile isPathChar
  | _ => target.takeWhile isPathChar

/-- The route of a path, given the parts of the path between its slashes.  The replay routes come
before those of a connector that is named like them. -/
def ofParts? (parts : List (List Char)) : Option Route :=
  let connectors := ["", "api", "v1", "connectors"].map String.toList
  if parts = ["", "health"].map String.toList then some .liveness
  else if parts.take 4 = connectors then
    match parts.drop 4 with
    | [only] => if only = "replay".toList then some .replays else none
    | [name, last] =>
      if name = "replay".toList ∧ last ≠ [] then some (.replay last)
      else if last = "health".toList then some (.connectorHealth name)
      else none
    | _ => none
  else none

def ofTarget? (target : String) : Option Route :=
  ofParts? (Text.Form.split '/' (pathOf target.toList))

end Route

end SpotSettlement
