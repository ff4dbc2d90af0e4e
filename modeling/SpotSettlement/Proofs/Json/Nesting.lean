import SpotSettlement.Proofs.Json.Tokens

namespace SpotSettlement.Json

/-! # Nesting

The reader goes along with so many arrays and objects inside one another.  A value that nests less
deeply is read with any limit above its nesting, and whatever stands after it.
-/

mutual

/-- How many arrays and objects stand inside one another. -/
def nesting : Json → Nat
  | .array items => nestingOfItems items + 1
  | .object members => nestingOfMembers members + 1
  | _ => 0

def nestingOfItems : List Json → Nat
  | [] => 0
  | item :: rest => max (nesting item) (nestingOfItems rest)

def nestingOfMembers : List (String × Json) → Nat
  | [] => 0
  | (_, value) :: rest => max (nesting value) (nestingOfMembers rest)

end

variable {fuel depth : Nat} {input rest tail : List Char} {value : Json}

theorem nesting_le_of_mem_items {items : List Json} {item : Json} (member : item ∈ items) :
    nesting item ≤ nestingOfItems items := by
  induction items with
  | nil => cases member
  | cons first others ih =>
      rw [nestingOfItems]
      cases member with
      | head => exact Nat.le_max_left _ _
      | tail _ member => exact Nat.le_trans (ih member) (Nat.le_max_right _ _)

theorem nestingOfItems_lt {items : List Json} {limit : Nat} (positive : 0 < limit)
    (each : ∀ item ∈ items, nesting item < limit) : nestingOfItems items < limit := by
  induction items with
  | nil => exact positive
  | cons first others ih =>
      rw [nestingOfItems]
      exact Nat.max_lt.mpr
        ⟨each _ List.mem_cons_self, ih fun item member => each _ (.tail _ member)⟩

theorem nestingOfMembers_eq (members : List (String × Json)) :
    nestingOfMembers members = nestingOfItems (members.map Prod.snd) := by
  induction members with
  | nil => rfl
  | cons first others ih =>
      obtain ⟨key, value⟩ := first
      rw [nestingOfMembers, ih]
      rfl

theorem nesting_le_of_mem_members {members : List (String × Json)} {key : String}
    (member : (key, value) ∈ members) : nesting value ≤ nestingOfMembers members := by
  rw [nestingOfMembers_eq]
  exact nesting_le_of_mem_items (List.mem_map_of_mem member)

theorem nestingOfMembers_lt {members : List (String × Json)} {limit : Nat} (positive : 0 < limit)
    (each : ∀ member ∈ members, nesting member.2 < limit) : nestingOfMembers members < limit := by
  rw [nestingOfMembers_eq]
  exact nestingOfItems_lt positive (List.forall_mem_map.mpr each)

/-- How a value is read from the text after the blanks. -/
inductive Reading (fuel : Nat) : Nat → List Char → Json → List Char → Prop where
  | string {depth : Nat} {after rest : List Char} {text : String}
      (read : stringTail? (after.length + 1) [] after = some (text, rest)) :
      Reading fuel depth ('"' :: after) (.string text) rest
  | emptyArray {depth : Nat} {after rest : List Char} (closes : skipSpace after = ']' :: rest) :
      Reading fuel (depth + 2) ('[' :: after) (.array []) rest
  | array {depth : Nat} {after inner rest : List Char} {c : Char} {items : List Json}
      (goesOn : skipSpace after = c :: inner) (notClosed : c ≠ ']')
      (read : items? fuel (depth + 1) [] (c :: inner) = some (items, rest)) :
      Reading fuel (depth + 2) ('[' :: after) (.array items) rest
  | emptyObject {depth : Nat} {after rest : List Char} (closes : skipSpace after = '\x7d' :: rest) :
      Reading fuel (depth + 2) ('\x7b' :: after) (.object []) rest
  | object {depth : Nat} {after inner rest : List Char} {c : Char} {members : List (String × Json)}
      (goesOn : skipSpace after = c :: inner) (notClosed : c ≠ '\x7d')
      (read : members? fuel (depth + 1) [] (c :: inner) = some (members, rest)) :
      Reading fuel (depth + 2) ('\x7b' :: after) (.object members) rest
  | trueWord {depth : Nat} {after rest : List Char}
      (read : word? ['r', 'u', 'e'] after = some rest) :
      Reading fuel depth ('t' :: after) (.bool true) rest
  | falseWord {depth : Nat} {after rest : List Char}
      (read : word? ['a', 'l', 's', 'e'] after = some rest) :
      Reading fuel depth ('f' :: after) (.bool false) rest
  | nullWord {depth : Nat} {after rest : List Char}
      (read : word? ['u', 'l', 'l'] after = some rest) :
      Reading fuel depth ('n' :: after) .null rest
  | number {depth : Nat} {after rest : List Char} {c : Char} {number : Number}
      (other : c ≠ '"' ∧ c ≠ '[' ∧ c ≠ '\x7b' ∧ c ≠ 't' ∧ c ≠ 'f' ∧ c ≠ 'n')
      (read : number? (c :: after) = some (number, rest)) :
      Reading fuel depth (c :: after) (.number number) rest

theorem value?_of_reading (reading : Reading fuel depth (skipSpace input) value rest) :
    value? (fuel + 1) depth input = some (value, rest) := by
  rw [value?]
  generalize skipSpace input = text at reading
  cases reading with
  | string read => simp only [read]; rfl
  | emptyArray closes => simp only [closes]
  | array goesOn notClosed read => simp [goesOn, notClosed, read]
  | emptyObject closes => simp only [closes]
  | object goesOn notClosed read => simp [goesOn, notClosed, read]
  | trueWord read => simp only [read]; rfl
  | falseWord read => simp only [read]; rfl
  | nullWord read => simp only [read]; rfl
  | number other read => simp [other, read]

theorem value?_nil (fuel depth : Nat) : value? fuel depth [] = none := by
  cases fuel <;> rfl

theorem items?_nil (fuel depth : Nat) (seen : List Json) : items? fuel depth seen [] = none := by
  cases fuel with
  | zero => rfl
  | succ fuel => rw [items?, value?_nil]; rfl

theorem members?_nil (fuel depth : Nat) (seen : List (String × Json)) :
    members? fuel depth seen [] = none := by
  cases fuel <;> rfl

theorem Reading.ofItems {after : List Char} {items : List Json}
    (notClosed : ∀ rest, skipSpace after ≠ ']' :: rest)
    (read : items? fuel (depth + 1) [] (skipSpace after) = some (items, rest)) :
    Reading fuel (depth + 2) ('[' :: after) (.array items) rest := by
  cases goesOn : skipSpace after with
  | nil =>
      rw [goesOn, items?_nil] at read
      cases read
  | cons c inner =>
      rw [goesOn] at read
      exact .array goesOn (fun closes => notClosed _ (closes ▸ goesOn)) read

theorem Reading.ofMembers {after : List Char} {members : List (String × Json)}
    (notClosed : ∀ rest, skipSpace after ≠ '\x7d' :: rest)
    (read : members? fuel (depth + 1) [] (skipSpace after) = some (members, rest)) :
    Reading fuel (depth + 2) ('\x7b' :: after) (.object members) rest := by
  cases goesOn : skipSpace after with
  | nil =>
      rw [goesOn, members?_nil] at read
      cases read
  | cons c inner =>
      rw [goesOn] at read
      exact .object goesOn (fun closes => notClosed _ (closes ▸ goesOn)) read

theorem reading_of_value? (read : value? (fuel + 1) depth input = some (value, rest)) :
    Reading fuel depth (skipSpace input) value rest := by
  rw [value?] at read
  generalize skipSpace input = text at read ⊢
  split at read
  case h_1 after =>
    obtain ⟨⟨text, after⟩, read, eq⟩ := Option.bind_eq_some_iff.mp read
    cases eq
    exact .string read
  case h_2 after =>
    match depth with
    | 0 | 1 => cases read
    | depth + 2 =>
        split at read
        · cases read
        · cases read
        · cases read
          exact .emptyArray ‹_›
        · rename_i notZero limit notClosed
          cases limit
          obtain ⟨⟨items, after⟩, read, eq⟩ := Option.bind_eq_some_iff.mp read
          cases eq
          exact .ofItems notClosed read
  case h_3 after =>
    match depth with
    | 0 | 1 => cases read
    | depth + 2 =>
        split at read
        · cases read
        · cases read
        · cases read
          exact .emptyObject ‹_›
        · rename_i notZero limit notClosed
          cases limit
          obtain ⟨⟨members, after⟩, read, eq⟩ := Option.bind_eq_some_iff.mp read
          cases eq
          exact .ofMembers notClosed read
  case h_4 after =>
    obtain ⟨after, read, eq⟩ := Option.bind_eq_some_iff.mp read
    cases eq
    exact .trueWord read
  case h_5 after =>
    obtain ⟨after, read, eq⟩ := Option.bind_eq_some_iff.mp read
    cases eq
    exact .falseWord read
  case h_6 after =>
    obtain ⟨after, read, eq⟩ := Option.bind_eq_some_iff.mp read
    cases eq
    exact .nullWord read
  -- Any other character begins a number, or nothing that can be read.
  case h_7 notString notArray notObject notTrue notFalse notNull =>
    obtain ⟨⟨number, after⟩, read, eq⟩ := Option.bind_eq_some_iff.mp read
    cases eq
    cases text with
    | nil => cases read
    | cons c after =>
        refine .number ⟨?_, ?_, ?_, ?_, ?_, ?_⟩ read
        · exact fun eq => notString _ (congrArg (List.cons · after) eq)
        · exact fun eq => notArray _ (congrArg (List.cons · after) eq)
        · exact fun eq => notObject _ (congrArg (List.cons · after) eq)
        · exact fun eq => notTrue _ (congrArg (List.cons · after) eq)
        · exact fun eq => notFalse _ (congrArg (List.cons · after) eq)
        · exact fun eq => notNull _ (congrArg (List.cons · after) eq)

theorem items?_succ {seen items : List Json} :
    items? (fuel + 1) depth seen input = some (items, rest) ↔
      ∃ item after, value? fuel depth input = some (item, after) ∧
        (skipSpace after = ']' :: rest ∧ items = (item :: seen).reverse ∨
          ∃ next, skipSpace after = ',' :: next ∧
            items? fuel depth (item :: seen) next = some (items, rest)) := by
  rw [items?]
  simp only [Option.bind_eq_bind, Option.bind_eq_some_iff, Prod.exists]
  constructor
  · rintro ⟨item, after, read, step⟩
    refine ⟨item, after, read, ?_⟩
    split at step
    · rename_i closes
      cases step
      exact .inl ⟨closes, rfl⟩
    · rename_i goesOn
      exact .inr ⟨_, goesOn, step⟩
    · cases step
  · rintro ⟨item, after, read, ⟨closes, rfl⟩ | ⟨next, goesOn, step⟩⟩
    · exact ⟨item, after, read, by simp only [closes]; rfl⟩
    · exact ⟨item, after, read, by simpa only [goesOn] using step⟩

theorem members?_succ {seen members : List (String × Json)} :
    members? (fuel + 1) depth seen input = some (members, rest) ↔
      ∃ inner key afterKey colon value after, skipSpace input = '"' :: inner ∧
        stringTail? (inner.length + 1) [] inner = some (key, afterKey) ∧
        skipSpace afterKey = ':' :: colon ∧ value? fuel depth colon = some (value, after) ∧
        (skipSpace after = '\x7d' :: rest ∧ members = ((key, value) :: seen).reverse ∨
          ∃ next, skipSpace after = ',' :: next ∧
            members? fuel depth ((key, value) :: seen) next = some (members, rest)) := by
  rw [members?]
  constructor
  · intro read
    split at read
    · rename_i inner starts
      obtain ⟨⟨key, afterKey⟩, readKey, read⟩ := Option.bind_eq_some_iff.mp read
      dsimp only at read
      split at read
      · rename_i colon follows
        obtain ⟨⟨value, after⟩, readValue, read⟩ := Option.bind_eq_some_iff.mp read
        dsimp only at read
        refine ⟨inner, key, afterKey, colon, value, after, starts, readKey, follows, readValue, ?_⟩
        split at read
        · rename_i closes
          cases read
          exact .inl ⟨closes, rfl⟩
        · rename_i goesOn
          exact .inr ⟨_, goesOn, read⟩
        · cases read
      · cases read
    · cases read
  · rintro ⟨inner, key, afterKey, colon, value, after, starts, readKey, follows, readValue, step⟩
    simp only [starts, readKey, follows, readValue, Option.bind_eq_bind, Option.bind_some]
    obtain ⟨closes, rfl⟩ | ⟨next, goesOn, step⟩ := step
    · simp only [closes]
      rfl
    · simpa only [goesOn] using step

/-- What was read before stays in front. -/
theorem items?_keeps {seen items : List Json}
    (read : items? fuel depth seen input = some (items, rest)) : ∀ item ∈ seen, item ∈ items := by
  induction fuel generalizing seen input with
  | zero => cases read
  | succ fuel ih =>
      obtain ⟨item, after, -, ⟨-, rfl⟩ | ⟨next, -, read⟩⟩ := items?_succ.mp read
      · exact fun _ member => List.mem_reverse.mpr (.tail _ member)
      · exact fun _ member => ih read _ (.tail _ member)

theorem members?_keeps {seen members : List (String × Json)}
    (read : members? fuel depth seen input = some (members, rest)) :
    ∀ member ∈ seen, member ∈ members := by
  induction fuel generalizing seen input with
  | zero => cases read
  | succ fuel ih =>
      obtain ⟨_, _, _, _, _, _, -, -, -, -, ⟨-, rfl⟩ | ⟨next, -, read⟩⟩ := members?_succ.mp read
      · exact fun _ member => List.mem_reverse.mpr (.tail _ member)
      · exact fun _ member => ih read _ (.tail _ member)

/-- What is read with so much fuel is read with more of it, with any limit above the nesting, and
before any text that does not go on with a number. -/
structure ReadsOn (fuel : Nat) : Prop where
  value {depth : Nat} {input rest : List Char} {value : Json}
    (read : value? fuel depth input = some (value, rest)) (extra : Nat) {limit : Nat}
    {tail : List Char} (above : nesting value < limit) (ends : EndsNumber tail) :
    value? (fuel + extra) limit (input ++ tail) = some (value, rest ++ tail)
  items {depth : Nat} {seen items : List Json} {input rest : List Char}
    (read : items? fuel depth seen input = some (items, rest)) (extra : Nat) {limit : Nat}
    {tail : List Char} (above : nestingOfItems items < limit) (ends : EndsNumber tail) :
    items? (fuel + extra) limit seen (input ++ tail) = some (items, rest ++ tail)
  members {depth : Nat} {seen members : List (String × Json)} {input rest : List Char}
    (read : members? fuel depth seen input = some (members, rest)) (extra : Nat) {limit : Nat}
    {tail : List Char} (above : nestingOfMembers members < limit) (ends : EndsNumber tail) :
    members? (fuel + extra) limit seen (input ++ tail) = some (members, rest ++ tail)

theorem stringTail?_before {text : String} {after : List Char}
    (read : stringTail? (after.length + 1) [] after = some (text, rest)) (tail : List Char) :
    stringTail? ((after ++ tail).length + 1) [] (after ++ tail) = some (text, rest ++ tail) := by
  rw [List.length_append, Nat.add_right_comm]
  exact stringTail?_append read _ _

theorem Reading.before (lower : ReadsOn fuel) (reading : Reading fuel depth input value rest)
    (extra : Nat) {limit : Nat} (above : nesting value < limit) (ends : EndsNumber tail) :
    Reading (fuel + extra) limit (input ++ tail) value (rest ++ tail) := by
  cases reading with
  | string read => exact .string (stringTail?_before read tail)
  | emptyArray closes =>
      obtain ⟨limit, rfl⟩ := Nat.exists_eq_add_of_le' (show 2 ≤ limit from above)
      exact .emptyArray (skipSpace_append closes tail)
  -- A limit above the nesting of an array leaves one above that of its items.
  | @array _ _ _ _ _ items goesOn notClosed read =>
      replace above : nestingOfItems items + 1 < limit := above
      obtain ⟨limit, rfl⟩ := Nat.exists_eq_add_of_le' (show 2 ≤ limit by omega)
      exact .array (skipSpace_append goesOn tail) notClosed
        (lower.items read extra (by omega) ends)
  | emptyObject closes =>
      obtain ⟨limit, rfl⟩ := Nat.exists_eq_add_of_le' (show 2 ≤ limit from above)
      exact .emptyObject (skipSpace_append closes tail)
  | @object _ _ _ _ _ members goesOn notClosed read =>
      replace above : nestingOfMembers members + 1 < limit := above
      obtain ⟨limit, rfl⟩ := Nat.exists_eq_add_of_le' (show 2 ≤ limit by omega)
      exact .object (skipSpace_append goesOn tail) notClosed
        (lower.members read extra (by omega) ends)
  | trueWord read => exact .trueWord (word?_append read tail)
  | falseWord read => exact .falseWord (word?_append read tail)
  | nullWord read => exact .nullWord (word?_append read tail)
  | number other read => exact .number other (number?_append read ends)

theorem Reading.starts (reading : Reading fuel depth input value rest) :
    ∃ c after, input = c :: after := by
  cases reading <;> exact ⟨_, _, rfl⟩

section Steps

variable {limit : Nat} (lower : ReadsOn fuel) (extra : Nat) (ends : EndsNumber tail)

include lower ends

theorem ReadsOn.value_succ (read : value? (fuel + 1) depth input = some (value, rest))
    (above : nesting value < limit) :
    value? (fuel + 1 + extra) limit (input ++ tail) = some (value, rest ++ tail) := by
  have reading := reading_of_value? read
  obtain ⟨c, after, starts⟩ := reading.starts
  rw [Nat.succ_add]
  apply value?_of_reading
  rw [skipSpace_append starts, ← List.cons_append, ← starts]
  exact reading.before lower extra above ends

theorem ReadsOn.items_succ {seen items : List Json}
    (read : items? (fuel + 1) depth seen input = some (items, rest))
    (above : nestingOfItems items < limit) :
    items? (fuel + 1 + extra) limit seen (input ++ tail) = some (items, rest ++ tail) := by
  obtain ⟨item, after, readItem, step⟩ := items?_succ.mp read
  have member : item ∈ items := by
    obtain ⟨-, rfl⟩ | ⟨_, -, read⟩ := step
    · exact List.mem_reverse.mpr (.head _)
    · exact items?_keeps read _ (.head _)
  have below : nesting item < limit := Nat.lt_of_le_of_lt (nesting_le_of_mem_items member) above
  rw [Nat.succ_add, items?_succ]
  refine ⟨item, _, lower.value readItem extra below ends, ?_⟩
  obtain ⟨closes, eq⟩ | ⟨next, goesOn, read⟩ := step
  · exact .inl ⟨skipSpace_append closes tail, eq⟩
  · exact .inr ⟨_, skipSpace_append goesOn tail, lower.items read extra above ends⟩

theorem ReadsOn.members_succ {seen members : List (String × Json)}
    (read : members? (fuel + 1) depth seen input = some (members, rest))
    (above : nestingOfMembers members < limit) :
    members? (fuel + 1 + extra) limit seen (input ++ tail) = some (members, rest ++ tail) := by
  obtain ⟨inner, key, afterKey, colon, value, after, starts, readKey, follows, readValue, step⟩ :=
    members?_succ.mp read
  have member : (key, value) ∈ members := by
    obtain ⟨-, rfl⟩ | ⟨_, -, read⟩ := step
    · exact List.mem_reverse.mpr (.head _)
    · exact members?_keeps read _ (.head _)
  have below : nesting value < limit :=
    Nat.lt_of_le_of_lt (nesting_le_of_mem_members member) above
  rw [Nat.succ_add, members?_succ]
  refine ⟨_, key, _, _, value, _, skipSpace_append starts tail, stringTail?_before readKey tail,
    skipSpace_append follows tail, lower.value readValue extra below ends, ?_⟩
  obtain ⟨closes, eq⟩ | ⟨next, goesOn, read⟩ := step
  · exact .inl ⟨skipSpace_append closes tail, eq⟩
  · exact .inr ⟨_, skipSpace_append goesOn tail, lower.members read extra above ends⟩

end Steps

theorem readsOn (fuel : Nat) : ReadsOn fuel := by
  induction fuel with
  | zero => exact ⟨nofun, nofun, nofun⟩
  | succ fuel lower =>
      exact ⟨fun read extra _ _ above ends => lower.value_succ extra ends read above,
        fun read extra _ _ above ends => lower.items_succ extra ends read above,
        fun read extra _ _ above ends => lower.members_succ extra ends read above⟩

/-- What is read nests less deeply than the limit. -/
structure StaysBelow (fuel : Nat) : Prop where
  value {limit : Nat} {input rest : List Char} {value : Json} (positive : 0 < limit)
    (read : value? fuel limit input = some (value, rest)) : nesting value < limit
  items {limit : Nat} {seen items : List Json} {input rest : List Char} (positive : 0 < limit)
    (read : items? fuel limit seen input = some (items, rest))
    (before : ∀ item ∈ seen, nesting item < limit) : nestingOfItems items < limit
  members {limit : Nat} {seen members : List (String × Json)} {input rest : List Char}
    (positive : 0 < limit) (read : members? fuel limit seen input = some (members, rest))
    (before : ∀ member ∈ seen, nesting member.2 < limit) : nestingOfMembers members < limit

section Steps

variable {limit : Nat} (lower : StaysBelow fuel) (positive : 0 < limit)

include lower positive

theorem StaysBelow.value_succ (read : value? (fuel + 1) limit input = some (value, rest)) :
    nesting value < limit := by
  have reading := reading_of_value? read
  generalize skipSpace input = text at reading
  cases reading with
  | emptyArray => exact Nat.succ_lt_succ (Nat.succ_pos _)
  | array _ _ read => exact Nat.succ_lt_succ (lower.items (Nat.succ_pos _) read nofun)
  | emptyObject => exact Nat.succ_lt_succ (Nat.succ_pos _)
  | object _ _ read => exact Nat.succ_lt_succ (lower.members (Nat.succ_pos _) read nofun)
  | _ => exact positive

theorem StaysBelow.items_succ {seen items : List Json}
    (read : items? (fuel + 1) limit seen input = some (items, rest))
    (before : ∀ item ∈ seen, nesting item < limit) : nestingOfItems items < limit := by
  obtain ⟨item, after, readItem, step⟩ := items?_succ.mp read
  have all : ∀ other ∈ item :: seen, nesting other < limit :=
    List.forall_mem_cons.mpr ⟨lower.value positive readItem, before⟩
  obtain ⟨-, rfl⟩ | ⟨_, -, read⟩ := step
  · exact nestingOfItems_lt positive fun other member => all _ (List.mem_reverse.mp member)
  · exact lower.items positive read all

theorem StaysBelow.members_succ {seen members : List (String × Json)}
    (read : members? (fuel + 1) limit seen input = some (members, rest))
    (before : ∀ member ∈ seen, nesting member.2 < limit) : nestingOfMembers members < limit := by
  obtain ⟨_, key, _, _, value, _, -, -, -, readValue, step⟩ := members?_succ.mp read
  have all : ∀ other ∈ (key, value) :: seen, nesting other.2 < limit :=
    List.forall_mem_cons.mpr ⟨lower.value positive readValue, before⟩
  obtain ⟨-, rfl⟩ | ⟨_, -, read⟩ := step
  · exact nestingOfMembers_lt positive fun other member => all _ (List.mem_reverse.mp member)
  · exact lower.members positive read all

end Steps

theorem staysBelow (fuel : Nat) : StaysBelow fuel := by
  induction fuel with
  | zero => exact ⟨nofun, nofun, nofun⟩
  | succ fuel lower =>
      exact ⟨fun positive read => lower.value_succ positive read,
        fun positive read before => lower.items_succ positive read before,
        fun positive read before => lower.members_succ positive read before⟩

theorem parse?_eq_some {text : String} : parse? text = some value ↔
    ∃ rest, value? (2 * text.toList.length + 2) depthLimit text.toList = some (value, rest) ∧
      skipSpace rest = [] := by
  rw [parse?]
  split
  · rename_i found rest read
    rw [read]
    constructor
    · intro eq
      split at eq
      · rename_i done
        cases eq
        exact ⟨rest, rfl, List.isEmpty_iff.mp done⟩
      · cases eq
    · rintro ⟨_, eq, done⟩
      cases eq
      rw [if_pos (List.isEmpty_iff.mpr done)]
  · rename_i read
    rw [read]
    exact ⟨nofun, nofun⟩

/-- Whatever is read nests at most as deeply as the reader goes along with. -/
theorem nesting_lt_of_parse? {text : String} (read : parse? text = some value) :
    nesting value < depthLimit := by
  obtain ⟨rest, read, -⟩ := parse?_eq_some.mp read
  exact (staysBelow _).value (by decide) read

theorem skipSpace_blank (blank : skipSpace rest = []) (tail : List Char) :
    skipSpace (rest ++ tail) = skipSpace tail := by
  rw [skipSpace] at blank
  rw [skipSpace, List.dropWhile_append, blank]
  rfl

/-- A text that is a value is read as that value before other text as well. -/
theorem value?_before {text : String} (read : parse? text = some value)
    (enough : 2 * text.toList.length + 2 ≤ fuel) (above : nesting value < depth)
    (ends : EndsNumber tail) : ∃ rest, value? fuel depth (text.toList ++ tail) =
      some (value, rest ++ tail) ∧ skipSpace (rest ++ tail) = skipSpace tail := by
  obtain ⟨rest, read, blank⟩ := parse?_eq_some.mp read
  obtain ⟨extra, rfl⟩ := Nat.exists_eq_add_of_le enough
  exact ⟨rest, (readsOn _).value read extra above ends, skipSpace_blank blank tail⟩

/-- A value that nests too deeply for the limit is not read. -/
theorem value?_too_deep {text : String} (read : parse? text = some value)
    (enough : 2 * text.toList.length + 2 ≤ fuel) (positive : 0 < depth)
    (deep : depth ≤ nesting value) (ends : EndsNumber tail) :
    value? fuel depth (text.toList ++ tail) = none := by
  rw [Option.eq_none_iff_forall_ne_some]
  rintro ⟨other, after⟩ shallow
  have below := (staysBelow _).value positive shallow
  -- With a limit above both nestings the same characters give both values.
  have again := (readsOn _).value shallow 0 (Nat.lt_of_lt_of_le below
    (Nat.le_trans deep (Nat.le_succ (nesting value)))) endsNumber_nil
  obtain ⟨rest, deeper, -⟩ := value?_before read enough (Nat.lt_succ_self _) ends
  rw [List.append_nil, Nat.add_zero, deeper] at again
  obtain ⟨rfl, -⟩ := Prod.mk.inj (Option.some.inj again)
  exact absurd below (Nat.not_lt.mpr deep)

variable {key text : String} {seen : List (String × Json)}

/-- A character that stands for itself in a string. -/
def isLiteral (c : Char) : Bool := 32 ≤ c.toNat && c != '"' && c != '\\'

theorem isLiteral_iff {c : Char} : isLiteral c = true ↔ 32 ≤ c.toNat ∧ c ≠ '"' ∧ c ≠ '\\' := by
  simp [isLiteral, and_assoc]

theorem stringTail?_literal {key : List Char} (literal : key.all isLiteral = true) (extra : Nat)
    (seen : List Char) : stringTail? (key.length + extra + 1) seen (key ++ '"' :: rest) =
      some (String.ofList (seen.reverse ++ key), rest) := by
  induction key generalizing seen with
  | nil =>
      rw [List.append_nil]
      rfl
  | cons c key ih =>
      rw [List.all_cons, Bool.and_eq_true, isLiteral_iff] at literal
      obtain ⟨⟨visible, notQuote, notBackslash⟩, literal⟩ := literal
      rw [List.length_cons, Nat.add_right_comm _ 1 extra, List.cons_append,
        stringTail?.eq_6 _ _ _ _ notQuote (fun _ backslash => absurd backslash notBackslash)
          (fun _ _ backslash => absurd backslash notBackslash),
        if_neg (not_or.mpr ⟨Nat.not_lt.mpr visible, notBackslash⟩), ih literal]
      simp

theorem stringTail?_key {key : String} (literal : key.toList.all isLiteral = true)
    (rest : List Char) :
    stringTail? ((key.toList ++ '"' :: rest).length + 1) [] (key.toList ++ '"' :: rest) =
      some (key, rest) := by
  rw [List.length_append, stringTail?_literal literal, List.reverse_nil, List.nil_append,
    String.ofList_toList]

/-- The characters of a member, its value written as the text. -/
def written (key text : String) : List Char := '"' :: (key.toList ++ '"' :: ':' :: text.toList)

theorem written_append (key text : String) (tail : List Char) : written key text ++ tail =
    '"' :: (key.toList ++ '"' :: ':' :: (text.toList ++ tail)) := by
  simp [written]

theorem members?_written (literal : key.toList.all isLiteral = true) (tail : List Char) :
    members? (fuel + 1) depth seen (written key text ++ tail) =
      (value? fuel depth (text.toList ++ tail)).bind fun (value, after) =>
        match skipSpace after with
        | '\x7d' :: rest => some (((key, value) :: seen).reverse, rest)
        | ',' :: rest => members? fuel depth ((key, value) :: seen) rest
        | _ => none := by
  rw [written_append, members?]
  have quote (after : List Char) : skipSpace ('"' :: after) = '"' :: after := rfl
  have colon (after : List Char) : skipSpace (':' :: after) = ':' :: after := rfl
  simp only [quote, stringTail?_key literal, colon, Option.bind_eq_bind, Option.bind_some]
  rfl

theorem members?_more (literal : key.toList.all isLiteral = true) (read : parse? text = some value)
    (enough : 2 * text.toList.length + 2 ≤ fuel) (above : nesting value < depth)
    (next : List Char) : members? (fuel + 1) depth seen (written key text ++ ',' :: next) =
      members? fuel depth ((key, value) :: seen) next := by
  have ends : EndsNumber (',' :: next) := by simp [EndsNumber]
  obtain ⟨after, readValue, goesOn⟩ := value?_before read enough above ends
  rw [members?_written literal, readValue, Option.bind_some]
  simp only [goesOn]
  rfl

theorem members?_last (literal : key.toList.all isLiteral = true) (read : parse? text = some value)
    (enough : 2 * text.toList.length + 2 ≤ fuel) (positive : 0 < depth) (rest : List Char) :
    members? (fuel + 1) depth seen (written key text ++ '\x7d' :: rest) =
      if nesting value < depth then some (((key, value) :: seen).reverse, rest) else none := by
  have ends : EndsNumber ('\x7d' :: rest) := by simp [EndsNumber]
  rw [members?_written literal]
  split
  · rename_i above
    obtain ⟨after, readValue, goesOn⟩ := value?_before read enough above ends
    rw [readValue, Option.bind_some]
    simp only [goesOn]
    rfl
  · rename_i deep
    rw [value?_too_deep read enough positive (Nat.not_lt.mp deep) ends]
    rfl

/-- An object of two members, each given by its key and the text of its value. -/
def pairText (key₁ text₁ key₂ text₂ : String) : String :=
  "\x7b\"" ++ key₁ ++ "\":" ++ text₁ ++ ",\"" ++ key₂ ++ "\":" ++ text₂ ++ "\x7d"

theorem pairText_toList (key₁ text₁ key₂ text₂ : String) :
    (pairText key₁ text₁ key₂ text₂).toList =
      '\x7b' :: (written key₁ text₁ ++ ',' :: (written key₂ text₂ ++ ['\x7d'])) := by
  simp [pairText, written]

theorem value?_object (key text : String) (tail : List Char) :
    value? (fuel + 1) (depth + 2) ('\x7b' :: (written key text ++ tail)) =
      (members? fuel (depth + 1) [] (written key text ++ tail)).map fun (members, rest) =>
        (.object members, rest) := by
  rw [written_append, value?]
  have brace (after : List Char) : skipSpace ('\x7b' :: after) = '\x7b' :: after := rfl
  have quote (after : List Char) : skipSpace ('"' :: after) = '"' :: after := rfl
  simp only [brace, quote, Option.map_eq_bind]
  rfl

/-- The texts of two values make an object, unless the second nests too deeply to stand in it. -/
theorem parse?_pairText {key₁ text₁ key₂ text₂ : String} {value₁ value₂ : Json}
    (literal₁ : key₁.toList.all isLiteral = true) (literal₂ : key₂.toList.all isLiteral = true)
    (read₁ : parse? text₁ = some value₁) (read₂ : parse? text₂ = some value₂)
    (shallow : nesting value₁ + 1 < depthLimit) :
    parse? (pairText key₁ text₁ key₂ text₂) =
      if nesting value₂ + 1 < depthLimit then some (.object [(key₁, value₁), (key₂, value₂)])
      else none := by
  have length := congrArg List.length (pairText_toList key₁ text₁ key₂ text₂)
  simp only [List.length_cons, List.length_append, written, List.length_nil] at length
  obtain ⟨fuel, fuel_eq⟩ :
      ∃ fuel, 2 * (pairText key₁ text₁ key₂ text₂).toList.length + 2 = fuel + 3 :=
    ⟨2 * (pairText key₁ text₁ key₂ text₂).toList.length - 1, by omega⟩
  have read : value? (2 * (pairText key₁ text₁ key₂ text₂).toList.length + 2) depthLimit
      (pairText key₁ text₁ key₂ text₂).toList =
        if nesting value₂ + 1 < depthLimit then
          some (.object [(key₁, value₁), (key₂, value₂)], [])
        else none := by
    have below₁ : nesting value₁ < 126 + 1 := Nat.lt_of_succ_lt_succ shallow
    rw [fuel_eq, pairText_toList, show depthLimit = 126 + 2 from rfl, value?_object,
      members?_more literal₁ read₁ (by omega) below₁,
      members?_last literal₂ read₂ (by omega) (by decide)]
    simp only [Nat.add_lt_add_iff_right]
    split <;> rfl
  rw [parse?]
  by_cases fits : nesting value₂ + 1 < depthLimit
  · simp only [read, if_pos fits]
    rfl
  · simp only [read, if_neg fits]

end SpotSettlement.Json
