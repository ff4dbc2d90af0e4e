import SpotSettlement.Proofs.Text.Digits
import SpotSettlement.Text.PercentEncoding

namespace SpotSettlement.Text

/-! # Form fields are read back

Escaping leaves neither a separator nor a sign of its own in a field, so a query falls apart in one
way only, and its names and values are read back whatever characters they hold.
-/

variable {c : Char} {field name value : String} {pairs : List (String × String)}

theorem percentDecode_cons {c : Char} (other : c ≠ '%') (rest : List Char) :
    percentDecode (c :: rest) = String.utf8EncodeChar c ++ percentDecode rest := by
  rw [percentDecode]
  rintro high low tail rfl
  exact absurd rfl other

theorem percentDecode_escape (byte : UInt8) (rest : List Char) :
    percentDecode (percentEscape byte ++ rest) = byte :: percentDecode rest := by
  have small : byte.toNat < 256 := byte.toNat_lt
  have high := hexValue?_upperHexDigit (byte.toNat / 16) (by omega)
  have low := hexValue?_upperHexDigit (byte.toNat % 16) (by omega)
  have whole : byte.toNat / 16 * 16 + byte.toNat % 16 = byte.toNat := by omega
  simp only [percentEscape, List.cons_append, List.nil_append, percentDecode, high, low, whole,
    UInt8.ofNat_toNat]

theorem percentDecode_escapes (bytes : List UInt8) (rest : List Char) :
    percentDecode (bytes.flatMap percentEscape ++ rest) = bytes ++ percentDecode rest := by
  induction bytes with
  | nil => rfl
  | cons byte bytes ih =>
      rw [List.flatMap_cons, List.append_assoc, percentDecode_escape, ih]
      rfl

namespace Form

theorem isPlain_of_upperHexDigit : ∀ value < 16, isPlain (upperHexDigit value) = true := by
  decide

theorem isPlain_of_lowerHexDigit : ∀ value < 16, isPlain (lowerHexDigit value) = true := by
  decide

theorem escapes_plain {bytes : List UInt8} :
    ∀ d ∈ bytes.flatMap percentEscape, isPlain d = true ∨ d = '%' := by
  intro d member
  obtain ⟨byte, -, escaped⟩ := List.mem_flatMap.mp member
  have small : byte.toNat < 256 := byte.toNat_lt
  simp only [percentEscape, List.mem_cons, List.not_mem_nil, or_false] at escaped
  obtain rfl | rfl | rfl := escaped
  · exact .inr rfl
  · exact .inl (isPlain_of_upperHexDigit _ (by omega))
  · exact .inl (isPlain_of_upperHexDigit _ (by omega))

/-- A field holds plain characters, plus signs and percent signs only. -/
theorem mem_encode {d : Char} (member : d ∈ encode field) :
    isPlain d = true ∨ d = '+' ∨ d = '%' := by
  obtain ⟨c, -, inside⟩ := List.mem_flatMap.mp member
  unfold encodeChar at inside
  split at inside
  · next plain =>
      rw [List.mem_singleton.mp inside]
      exact .inl plain
  · split at inside
    · exact .inr (.inl (List.mem_singleton.mp inside))
    · exact (escapes_plain d inside).imp id .inr

theorem encode_of_plain (plain : ∀ c ∈ field.toList, isPlain c = true) :
    encode field = field.toList := by
  unfold encode
  generalize field.toList = row at *
  induction row with
  | nil => rfl
  | cons c rest ih =>
      obtain ⟨first, others⟩ := List.forall_mem_cons.mp plain
      rw [List.flatMap_cons, encodeChar, if_pos first, ih others]
      rfl

/-- What a character of a field stands for before escapes are looked at. -/
def unplus (c : Char) : Char := if c = '+' then ' ' else c

theorem map_unplus {row : List Char} (clear : '+' ∉ row) : row.map unplus = row := by
  conv => rhs; rw [← List.map_id row]
  refine List.map_congr_left fun c member => if_neg ?_
  rintro rfl
  exact clear member

theorem decode_encodeChar (c : Char) (rest : List Char) :
    percentDecode ((encodeChar c).map unplus ++ rest) =
      String.utf8EncodeChar c ++ percentDecode rest := by
  unfold encodeChar
  by_cases plain : isPlain c = true
  · have sign : c ≠ '+' := by
      rintro rfl
      exact absurd plain (by decide)
    have percent : c ≠ '%' := by
      rintro rfl
      exact absurd plain (by decide)
    have same : unplus c = c := if_neg sign
    rw [if_pos plain, List.map_singleton, same]
    exact percentDecode_cons percent rest
  · rw [if_neg plain]
    by_cases blank : c = ' '
    · subst blank
      exact percentDecode_cons (by decide) rest
    · have clear : '+' ∉ (String.utf8EncodeChar c).flatMap percentEscape := fun member => by
        obtain plus | same := escapes_plain '+' member
        · exact absurd plus (by decide)
        · exact absurd same (by decide)
      rw [if_neg blank, map_unplus clear, percentDecode_escapes]

theorem decode?_encode (field : String) : decode? (encode field) = some field := by
  have bytes : ∀ characters : List Char,
      percentDecode ((characters.flatMap encodeChar).map unplus) = utf8 characters := by
    intro characters
    induction characters with
    | nil => rfl
    | cons c rest ih =>
        rw [List.flatMap_cons, List.map_append, decode_encodeChar, ih]
        rfl
  change (ofUtf8? (percentDecode ((encode field).map unplus))).map String.ofList = some field
  rw [encode, bytes, ofUtf8?_utf8, Option.map_some, String.ofList_toList]

/-- A separator that is none of the characters of a field does not stand in one. -/
theorem not_mem_encode {separator : Char} (apart : isPlain separator = false ∧ separator ≠ '+' ∧
    separator ≠ '%') (field : String) : separator ∉ encode field := by
  intro member
  obtain ⟨notPlain, plus, percent⟩ := apart
  obtain plain | same | same := mem_encode member
  · exact absurd plain (by simp [notPlain])
  · exact plus same
  · exact percent same

theorem cut_pair (name : String) (rest : List Char) :
    cut '=' (encode name ++ '=' :: rest) = (encode name, rest) := by
  have run : ∀ c ∈ encode name, (c != '=') = true := by
    intro c member
    rw [bne_iff_ne]
    rintro rfl
    exact not_mem_encode (by decide) name member
  rw [cut, takeWhile_run run (by decide), dropWhile_run run (by decide)]
  rfl

theorem pair?_pair (name value : String) : pair? (pair name value) = some (name, value) := by
  rw [pair?, pair, cut_pair]
  simp only [decode?_encode]
  rfl

/-- A written pair has its name before the first equals sign. -/
theorem pair_eq {row : List Char} (same : pair name value = encode field ++ '=' :: row) :
    name = field ∧ encode value = row := by
  have parts := congrArg (cut '=') same
  rw [pair, cut_pair, cut_pair] at parts
  obtain ⟨names, values⟩ := Prod.mk.inj parts
  have decoded := congrArg decode? names
  rw [decode?_encode, decode?_encode] at decoded
  exact ⟨Option.some.inj decoded, values⟩

theorem not_mem_pair (name value : String) : '&' ∉ pair name value := by
  simp only [pair, List.mem_append, List.mem_cons, not_or]
  exact ⟨not_mem_encode (by decide) name, by decide, not_mem_encode (by decide) value⟩

theorem split_ne_nil (separator : Char) (row : List Char) : split separator row ≠ [] := by
  cases row with
  | nil => nofun
  | cons c rest =>
      unfold split
      split
      · nofun
      · split <;> nofun

theorem split_of_clear {separator : Char} {row : List Char} (clear : separator ∉ row) :
    split separator row = [row] := by
  induction row with
  | nil => rfl
  | cons c rest ih =>
      rw [List.mem_cons, not_or] at clear
      rw [split, if_neg (Ne.symm clear.1), ih clear.2]

theorem split_append (separator : Char) (left right : List Char) :
    split separator (left ++ separator :: right) =
      split separator left ++ split separator right := by
  induction left with
  | nil => simp [split]
  | cons c rest ih =>
      rw [List.cons_append, split, split, ih]
      by_cases same : c = separator
      · simp [same]
      · rw [if_neg same, if_neg same]
        obtain ⟨part, parts, first⟩ := List.exists_cons_of_ne_nil (split_ne_nil separator rest)
        simp [first]

theorem split_clear_append {separator : Char} {row rest part : List Char}
    {parts : List (List Char)} (clear : separator ∉ row)
    (cuts : split separator rest = part :: parts) :
    split separator (row ++ rest) = (row ++ part) :: parts := by
  induction row with
  | nil => exact cuts
  | cons c row ih =>
      rw [List.mem_cons, not_or] at clear
      rw [List.cons_append, split, if_neg (Ne.symm clear.1), ih clear.2]
      rfl

theorem join_split (row : List Char) : join (split '&' row) = row := by
  induction row with
  | nil => rfl
  | cons c rest ih =>
      obtain ⟨part, parts, first⟩ := List.exists_cons_of_ne_nil (split_ne_nil '&' rest)
      rw [first] at ih
      by_cases same : c = '&'
      · rw [split, if_pos same, first, join, ih, same]
        · rfl
        · nofun
      · rw [split, if_neg same, first]
        cases parts with
        | nil => exact congrArg (c :: ·) ih
        | cons => exact congrArg (c :: ·) ih

theorem split_join {parts : List (List Char)} (listed : parts ≠ [])
    (clear : ∀ part ∈ parts, '&' ∉ part) : split '&' (join parts) = parts := by
  induction parts with
  | nil => contradiction
  | cons part parts ih =>
      obtain ⟨first, others⟩ := List.forall_mem_cons.mp clear
      cases parts with
      | nil => exact split_of_clear first
      | cons next rest =>
          have joined : join (part :: next :: rest) = part ++ '&' :: join (next :: rest) := rfl
          rw [joined, split_append, split_of_clear first, ih nofun others]
          rfl

theorem join_concat {parts : List (List Char)} (listed : parts ≠ []) (last : List Char) :
    join (parts ++ [last]) = join parts ++ '&' :: last := by
  induction parts with
  | nil => contradiction
  | cons part parts ih =>
      cases parts with
      | nil => rfl
      | cons next rest =>
          have joined : join (part :: next :: rest) = part ++ '&' :: join (next :: rest) := rfl
          have longer : join (part :: next :: rest ++ [last]) =
              part ++ '&' :: join (next :: rest ++ [last]) := rfl
          rw [longer, ih nofun, joined, List.append_assoc]
          rfl

theorem split_query (listed : pairs ≠ []) :
    split '&' (query pairs) = pairs.map fun (name, value) => pair name value := by
  refine split_join (by simpa using listed) fun part member => ?_
  obtain ⟨⟨name, value⟩, -, rfl⟩ := List.mem_map.mp member
  exact not_mem_pair name value

/-- A query is read back, whatever its names and values hold. -/
theorem pairs?_query (listed : pairs ≠ []) : pairs? (query pairs) = some pairs := by
  have read : ∀ pairs : List (String × String),
      (pairs.map fun (name, value) => pair name value).mapM pair? = some pairs := by
    intro pairs
    induction pairs with
    | nil => rfl
    | cons first rest ih =>
        rw [List.map_cons, List.mapM_cons, ih, pair?_pair]
        rfl
  rw [pairs?, split_query listed, read]

theorem query_concat (listed : pairs ≠ []) (name value : String) :
    query (pairs ++ [(name, value)]) = query pairs ++ '&' :: pair name value := by
  rw [query, List.map_append]
  exact join_concat (by simpa using listed) _

/-- Where a name stands behind a separator, it is the name of one of the pairs. -/
theorem query_cut {before after : List Char}
    (cuts : query pairs = before ++ '&' :: (encode field ++ '=' :: after)) :
    ∃ left value right, pairs = left ++ (field, value) :: right ∧ before = query left ∧
      after = join (encode value :: right.map fun (name, value) => pair name value) := by
  have listed : pairs ≠ [] := by
    rintro rfl
    exact absurd (congrArg List.length cuts) (by simp [query, join])
  obtain ⟨part, parts, rest⟩ := List.exists_cons_of_ne_nil (split_ne_nil '&' after)
  have clear : '&' ∉ encode field ++ ['='] := by
    rw [List.mem_append, not_or]
    exact ⟨not_mem_encode (by decide) field, by decide⟩
  have last := split_clear_append clear rest
  rw [List.append_assoc] at last
  have whole := split_query listed
  rw [cuts, split_append] at whole
  obtain ⟨left, others, rfl, lefts, behind⟩ := List.map_eq_append_iff.mp whole.symm
  rw [List.singleton_append] at last
  rw [last] at behind
  obtain ⟨⟨name, value⟩, right, rfl, first, rights⟩ := List.map_eq_cons_iff.mp behind
  have written : pair name value = encode field ++ '=' :: part := by simpa using first
  obtain ⟨rfl, same⟩ := pair_eq written
  refine ⟨left, value, right, rfl, ?_, ?_⟩
  · rw [query, lefts, join_split]
  · rw [same, rights, ← rest, join_split]

/-- A pair whose name no earlier one has is found at the end only. -/
theorem eq_of_last_named {earlier left right : List (String × String)} {last pair : String × String}
    (apart : ∀ other ∈ earlier, other.1 ≠ pair.1)
    (same : earlier ++ [last] = left ++ pair :: right) :
    earlier = left ∧ last = pair ∧ right = [] := by
  obtain rfl | ⟨others, final, rfl⟩ := List.eq_nil_or_concat right
  · obtain ⟨rfl, ends⟩ := List.append_inj' same rfl
    exact ⟨rfl, List.head_eq_of_cons_eq ends, rfl⟩
  · have longer : left ++ pair :: others.concat final = (left ++ pair :: others) ++ [final] := by
      simp
    obtain ⟨rfl, -⟩ := List.append_inj' (same.trans longer) rfl
    exact absurd rfl (apart pair (by simp))

/-- A name that only the last pair has stands in one place of the query. -/
theorem query_cut_last {before after : List Char} (apart : ∀ other ∈ pairs, other.1 ≠ field)
    (cuts : query (pairs ++ [(field, value)]) =
      before ++ '&' :: (encode field ++ '=' :: after)) :
    before = query pairs ∧ after = encode value := by
  obtain ⟨left, other, right, listed, rfl, rfl⟩ := query_cut cuts
  obtain ⟨rfl, last, rfl⟩ := eq_of_last_named apart listed
  cases last
  exact ⟨rfl, rfl⟩

end Form

end SpotSettlement.Text
