import SpotSettlement.Store.Basic

namespace SpotSettlement

/-! # Labels

Identifiers that the engine makes up are not known when a script is written.  A script calls them by
labels, which count the identifiers of each kind in the order in which they turn up.
-/

namespace Json

mutual

/-- The value with each of its texts changed. -/
def mapTexts (change : String → String) : Json → Json
  | .string value => .string (change value)
  | .array items => .array (mapTextsOfItems change items)
  | .object members => .object (mapTextsOfMembers change members)
  | .null => .null
  | .bool value => .bool value
  | .number value => .number value

/-- The items with each of their texts changed. -/
def mapTextsOfItems (change : String → String) : List Json → List Json
  | [] => []
  | item :: rest => mapTexts change item :: mapTextsOfItems change rest

/-- The members with each text in their values changed. -/
def mapTextsOfMembers (change : String → String) : List (String × Json) → List (String × Json)
  | [] => []
  | (key, value) :: rest => (key, mapTexts change value) :: mapTextsOfMembers change rest

end

end Json

/-- Identifiers with the labels that stand for them. -/
abbrev Labels := List (String × String)

namespace Labels

/-- The sign with which each label starts. -/
def sign : Char := '@'

/-- The labels of a kind start so. -/
def opening (kind : String) : String := sign.toString ++ kind ++ "-"

/-- Labels an identifier that has no label yet. -/
def add (kind : String) (labels : Labels) (id : String) : Labels :=
  if (labels.lookup id).isSome then labels
  else
    let known := labels.filter fun (_, label) => label.startsWith (opening kind)
    labels ++ [(id, opening kind ++ toString (known.length + 1))]

/-- Labels all that is stored. -/
def addStored (labels : Labels) (store : Store) : Labels :=
  let labels := store.executions.foldl (fun labels row => labels.add "exec" row.id) labels
  let labels := store.ledger.foldl (fun labels row => labels.add "ltx" row.id) labels
  let labels := store.replays.foldl (fun labels row => labels.add "replay" row.id) labels
  store.outbox.foldl (fun labels row => labels.add "evt" row.id) labels

/-- The text with each labelled identifier in it replaced by the label.  A text shorter than an
identifier holds none. -/
def conceal (labels : Labels) (text : String) : String :=
  if labels.all fun (id, _) => text.utf8ByteSize < id.utf8ByteSize then text
  else labels.foldl (fun text (id, label) => text.replace id label) text

/-- The text with the label that it ends in, if it is one, replaced by the identifier. -/
def reveal (labels : Labels) (text : String) : String :=
  let letters := text.toList.reverse
  let label := String.ofList (letters.takeWhile (· != sign)).reverse
  match labels.find? fun (_, known) => letters.contains sign && known == sign.toString ++ label with
  | some (id, _) => String.ofList ((letters.dropWhile (· != sign)).drop 1).reverse ++ id
  | none => text

end Labels

end SpotSettlement
