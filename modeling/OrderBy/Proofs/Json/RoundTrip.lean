/-
  OrderBy.Proofs.Json.RoundTrip — the reader undoes the writer.

  Inside a text every character is written by itself, by a letter after a
  backslash, or by its number in four hexadecimal digits, and the reader gives it
  back from any of the three.  Around texts the writer puts no blanks, so what
  follows a value starts right behind it; the reader is therefore looked at with
  any rest behind the value, and the rest is what it leaves.

  The reader runs on fuel.  As many units as a value has characters are enough
  for it, which is what `readChars` provides twice over.

  Numbers are left aside: where they end depends on what follows them.

  Main results:
    * `readTextFrom_writeText` — a written text is read up to its closing quote;
    * `readValue_write` — a written value is read, whatever follows it;
    * `read?_render` — the JSON text of a value without numbers is read as that
      value.
-/
import OrderBy.Json.Reader
import OrderBy.Json.Writer

namespace OrderBy.Json

/-! ## §1. Texts -/

/-- Every letter that a character is escaped by stands for that character. -/
theorem escaped?_of_letter :
    ∀ entry ∈ letterEscapes, entry.2 ≠ 'u' ∧ escaped? entry.2 = some entry.1 := by
  decide

/-- A hexadecimal digit has the value that it was written for. -/
theorem hexValue?_digitChar : ∀ n < 16, hexValue? (Nat.digitChar n) = some n := by
  decide

/-- A character below U+0020 is read from the two digits that its code ends in. -/
theorem readTextFrom_control {c : Char} (hc : c.toNat < 0x20) (rest : List Char) :
    readTextFrom (.code 2 0)
        (Nat.digitChar (c.toNat / 16) :: Nat.digitChar (c.toNat % 16) :: rest)
      = prepend c (readTextFrom .plain rest) := by
  have hhigh : c.toNat / 16 < 16 := by omega
  have hlow : c.toNat % 16 < 16 := by omega
  have hcode : (0 * 16 + c.toNat / 16) * 16 + c.toNat % 16 = c.toNat := by omega
  rw [readTextFrom, hexValue?_digitChar _ hhigh]
  dsimp only
  rw [if_pos (by decide), readTextFrom, hexValue?_digitChar _ hlow]
  dsimp only
  rw [if_neg (by decide), hcode, if_neg (by omega), if_neg (by omega), Char.ofNat_toNat]

/-- **A written character is read as that character.** -/
theorem readTextFrom_writeChar (c : Char) (rest : List Char) :
    readTextFrom .plain (writeChar c ++ rest) = prepend c (readTextFrom .plain rest) := by
  unfold writeChar
  split
  next letter h =>
    obtain ⟨before, after, hsplit, _⟩ := List.lookup_eq_some_iff.mp h
    have hmem : (c, letter) ∈ letterEscapes := by
      rw [hsplit]
      exact List.mem_append_right before List.mem_cons_self
    obtain ⟨hletter, hescaped⟩ := escaped?_of_letter _ hmem
    show readTextFrom .escape (letter :: rest) = _
    rw [readTextFrom, if_neg hletter, hescaped]
  next h =>
    split
    next hcontrol => exact readTextFrom_control hcontrol rest
    next hplain =>
      -- neither the quote nor the backslash, as both have letters
      have hnone := List.lookup_eq_none_iff.mp h
      have hquote : c ≠ '"' := by simpa using hnone ('"', '"') (by decide)
      have hslash : c ≠ '\\' := by simpa using hnone ('\\', '\\') (by decide)
      show readTextFrom .plain (c :: rest) = _
      rw [readTextFrom, if_neg hquote, if_neg hslash, if_neg hplain]

/-- **A written text is read up to its closing quote.** -/
theorem readTextFrom_writeText (cs rest : List Char) :
    readTextFrom .plain (cs.flatMap writeChar ++ '"' :: rest) = some (cs, rest) := by
  induction cs with
  | nil => rfl
  | cons c cs ih =>
    rw [List.flatMap_cons, List.append_assoc, readTextFrom_writeChar, ih]
    rfl

/-- What follows a written text stands behind its closing quote. -/
theorem writeText_append (cs rest : List Char) :
    writeText cs ++ rest = '"' :: (cs.flatMap writeChar ++ '"' :: rest) := by
  rw [writeText, List.cons_append, List.append_assoc, List.singleton_append]

/-! ## §2. Values without numbers -/

mutual
/-- **A value holds no number**, neither itself nor anywhere inside. -/
def Numberless : Json → Prop
  | .null | .bool _ | .text _ => True
  | .int _ | .decimal _ => False
  | .list items => NumberlessItems items
  | .object members => NumberlessMembers members

/-- No value of a list holds a number. -/
def NumberlessItems : List Json → Prop
  | [] => True
  | item :: rest => Numberless item ∧ NumberlessItems rest

/-- No member of an object holds a number. -/
def NumberlessMembers : List (String × Json) → Prop
  | [] => True
  | (_, value) :: rest => Numberless value ∧ NumberlessMembers rest
end

/-- A written value starts with a character that no reader takes for a blank or for the end of a
list. -/
theorem exists_write_eq_cons {value : Json} (h : value.Numberless) :
    ∃ c cs, value.write = c :: cs ∧ c ≠ ']'
      ∧ ∀ rest, skipBlanks (c :: rest) = c :: rest := by
  cases value with
  | null => exact ⟨_, _, rfl, by decide, fun _ => rfl⟩
  | bool b => cases b <;> exact ⟨_, _, rfl, by decide, fun _ => rfl⟩
  | int n => exact absurd h id
  | decimal written => exact absurd h id
  | text s => exact ⟨_, _, rfl, by decide, fun _ => rfl⟩
  | list items => exact ⟨_, _, rfl, by decide, fun _ => rfl⟩
  | object members => exact ⟨_, _, rfl, by decide, fun _ => rfl⟩

/-! ## §3. Parts of a value -/

section Parts

variable {fuel : Nat} {cs more rest : List Char} {item value : Json} {name : List Char}

/-- A list with values is read value by value. -/
theorem readValue_list {c : Char} (hblank : skipBlanks (c :: cs) = c :: cs) (hc : c ≠ ']') :
    readValue (fuel + 1) ('[' :: c :: cs)
      = (readItems fuel (c :: cs)).map fun (items, rest) => (.list items, rest) := by
  have hopen : skipBlanks ('[' :: c :: cs) = '[' :: c :: cs := rfl
  simp only [readValue, hopen, hblank]
  split
  next h => exact absurd (List.cons.inj h).1 hc
  next => rfl

/-- The last value of a list. -/
theorem readItems_last (h : readValue fuel cs = some (item, ']' :: rest)) :
    readItems (fuel + 1) cs = some ([item], rest) := by
  rw [readItems, h]
  rfl

/-- A value of a list that others follow. -/
theorem readItems_more (h : readValue fuel cs = some (item, ',' :: more)) :
    readItems (fuel + 1) cs
      = (readItems fuel more).map fun (items, rest) => (item :: items, rest) := by
  rw [readItems, h]
  rfl

/-- The last member of an object. -/
theorem readMembers_last (hname : readTextFrom .plain cs = some (name, ':' :: more))
    (h : readValue fuel more = some (value, '\x7d' :: rest)) :
    readMembers (fuel + 1) ('"' :: cs) = some ([(String.ofList name, value)], rest) := by
  have hopen : skipBlanks ('"' :: cs) = '"' :: cs := rfl
  have hcolon : skipBlanks (':' :: more) = ':' :: more := rfl
  have hclose : skipBlanks ('\x7d' :: rest) = '\x7d' :: rest := rfl
  simp only [readMembers, hopen, hname, hcolon, h, hclose]

/-- A member of an object that others follow. -/
theorem readMembers_more (hname : readTextFrom .plain cs = some (name, ':' :: more))
    (h : readValue fuel more = some (value, ',' :: rest)) :
    readMembers (fuel + 1) ('"' :: cs)
      = (readMembers fuel rest).map fun (members, rest) =>
          ((String.ofList name, value) :: members, rest) := by
  have hopen : skipBlanks ('"' :: cs) = '"' :: cs := rfl
  have hcolon : skipBlanks (':' :: more) = ':' :: more := rfl
  have hcomma : skipBlanks (',' :: rest) = ',' :: rest := rfl
  simp only [readMembers, hopen, hname, hcolon, h, hcomma]

end Parts

/-! ## §4. Whole values -/

/-- A written value has a character. -/
theorem length_write_pos {value : Json} (h : value.Numberless) : 0 < value.write.length := by
  obtain ⟨c, cs, hwrite, _, _⟩ := exists_write_eq_cons h
  rw [hwrite]
  exact Nat.succ_pos cs.length

/-- The written values of a list start as the first of them does. -/
theorem exists_join_writeItems (item : Json) (items : List Json) :
    ∃ tail, Text.join [','] (writeItems (item :: items)) = item.write ++ tail := by
  cases items with
  | nil => exact ⟨[], (List.append_nil _).symm⟩
  | cons next items =>
    exact ⟨_, (Text.join_cons_cons _ _ _ _).trans (List.append_assoc _ _ _)⟩

/-- The written members of an object start with the quote of the first name. -/
theorem exists_join_writeMembers (member : String × Json) (members : List (String × Json)) :
    ∃ tail, Text.join [','] (writeMembers (member :: members)) = '"' :: tail := by
  cases members with
  | nil => exact ⟨_, rfl⟩
  | cons next members => exact ⟨_, rfl⟩

mutual
/-- **A written value is read, whatever follows it**, with a unit of fuel for each of its
characters. -/
theorem readValue_write : ∀ (value : Json) {fuel : Nat} (rest : List Char), value.Numberless →
    value.write.length ≤ fuel + 1 →
    readValue (fuel + 1) (value.write ++ rest) = some (value, rest)
  | .null, _, _, _, _ => rfl
  | .bool true, _, _, _, _ => rfl
  | .bool false, _, _, _, _ => rfl
  | .int _, _, _, h, _ => absurd h id
  | .decimal _, _, _, h, _ => absurd h id
  | .text s, _, rest, _, _ => by
    rw [write, writeText_append]
    show (readTextFrom .plain (s.toList.flatMap writeChar ++ '"' :: rest)).map _ = _
    rw [readTextFrom_writeText]
    show some (Json.text (String.ofList s.toList), rest) = _
    rw [String.ofList_toList]
  | .list [], _, _, _, _ => rfl
  | .list (item :: items), fuel, rest, h, hfuel => by
    rw [write, List.length_cons, List.length_append, List.length_singleton] at hfuel
    obtain ⟨fuel, rfl⟩ : ∃ less, fuel = less + 1 := ⟨fuel - 1, by omega⟩
    have hitems := readItems_write (item :: items) rest (List.cons_ne_nil item items) h
      (show _ ≤ fuel by omega)
    -- the first value shows that the list is not at its end
    obtain ⟨c, cs, hwrite, hc, hblank⟩ := exists_write_eq_cons h.1
    obtain ⟨tail, hjoin⟩ := exists_join_writeItems item items
    rw [write, List.cons_append, List.append_assoc, List.singleton_append]
    rw [hjoin, hwrite, List.cons_append, List.cons_append] at hitems ⊢
    rw [readValue_list (hblank _) hc, hitems]
    rfl
  | .object [], _, _, _, _ => rfl
  | .object (member :: members), fuel, rest, h, hfuel => by
    rw [write, List.length_cons, List.length_append, List.length_singleton] at hfuel
    obtain ⟨fuel, rfl⟩ : ∃ less, fuel = less + 1 := ⟨fuel - 1, by omega⟩
    have hmembers := readMembers_write (member :: members) rest (List.cons_ne_nil member members) h
      (show _ ≤ fuel by omega)
    obtain ⟨tail, hjoin⟩ := exists_join_writeMembers member members
    rw [write, List.cons_append, List.append_assoc, List.singleton_append]
    rw [hjoin, List.cons_append] at hmembers ⊢
    show (readMembers (fuel + 1) ('"' :: _)).map _ = _
    rw [hmembers]
    rfl

/-- The written values of a list are read up to its closing bracket. -/
theorem readItems_write : ∀ (items : List Json) {fuel : Nat} (rest : List Char), items ≠ [] →
    NumberlessItems items → (Text.join [','] (writeItems items)).length ≤ fuel →
    readItems (fuel + 1) (Text.join [','] (writeItems items) ++ ']' :: rest) = some (items, rest)
  | [], _, _, hne, _, _ => absurd rfl hne
  | [item], fuel, rest, _, h, hfuel => by
    -- the value has a character, so a unit of fuel is left to read it with
    have hpos := length_write_pos h.1
    have hlen : item.write.length ≤ fuel := hfuel
    obtain ⟨fuel, rfl⟩ : ∃ less, fuel = less + 1 := ⟨fuel - 1, by omega⟩
    exact readItems_last (readValue_write item (']' :: rest) h.1 hlen)
  | item :: next :: items, fuel, rest, _, h, hfuel => by
    have hpos := length_write_pos h.1
    have hjoin : Text.join [','] (writeItems (item :: next :: items))
        = item.write ++ ',' :: Text.join [','] (writeItems (next :: items)) :=
      (Text.join_cons_cons _ _ _ _).trans (List.append_assoc _ _ _)
    -- the first value and its comma leave fuel for the others
    rw [hjoin, List.length_append, List.length_cons] at hfuel
    obtain ⟨fuel, rfl⟩ : ∃ less, fuel = less + 1 := ⟨fuel - 1, by omega⟩
    rw [hjoin, List.append_assoc, List.cons_append,
      readItems_more (readValue_write item _ h.1 (by omega)),
      readItems_write (next :: items) rest (List.cons_ne_nil next items) h.2 (by omega)]
    rfl

/-- The written members of an object are read up to its closing brace. -/
theorem readMembers_write : ∀ (members : List (String × Json)) {fuel : Nat} (rest : List Char),
    members ≠ [] → NumberlessMembers members →
    (Text.join [','] (writeMembers members)).length ≤ fuel →
    readMembers (fuel + 1) (Text.join [','] (writeMembers members) ++ '\x7d' :: rest)
      = some (members, rest)
  | [], _, _, hne, _, _ => absurd rfl hne
  | [(name, value)], fuel, rest, _, h, hfuel => by
    have hpos := length_write_pos h.1
    -- the last member takes one unit of fuel, and its value reads with what is left
    have hlen : (writeText name.toList ++ ':' :: value.write).length ≤ fuel := hfuel
    rw [List.length_append, List.length_cons] at hlen
    obtain ⟨fuel, rfl⟩ : ∃ less, fuel = less + 1 := ⟨fuel - 1, by omega⟩
    show readMembers (fuel + 2)
      ((writeText name.toList ++ ':' :: value.write) ++ '\x7d' :: rest) = _
    rw [List.append_assoc, List.cons_append, writeText_append,
      readMembers_last (readTextFrom_writeText _ _) (readValue_write value _ h.1 (by omega)),
      String.ofList_toList]
  | (name, value) :: next :: members, fuel, rest, _, h, hfuel => by
    have hpos := length_write_pos h.1
    -- the text of the others stands behind the comma
    have hjoin : Text.join [','] (writeMembers ((name, value) :: next :: members))
        = writeText name.toList
          ++ ':' :: (value.write ++ ',' :: Text.join [','] (writeMembers (next :: members))) := by
      refine (Text.join_cons_cons _ _ _ _).trans ?_
      rw [List.append_assoc, List.append_assoc]
      rfl
    rw [hjoin, List.length_append, List.length_cons, List.length_append, List.length_cons] at hfuel
    obtain ⟨fuel, rfl⟩ : ∃ less, fuel = less + 1 := ⟨fuel - 1, by omega⟩
    rw [hjoin, List.append_assoc, List.cons_append, List.append_assoc, List.cons_append,
      writeText_append,
      readMembers_more (readTextFrom_writeText _ _) (readValue_write value _ h.1 (by omega)),
      readMembers_write (next :: members) rest (List.cons_ne_nil next members) h.2 (by omega),
      String.ofList_toList]
    rfl
end

/-- **The JSON text of a value without numbers is read as that value.** -/
theorem read?_render {value : Json} (h : value.Numberless) : read? value.render = some value := by
  have hread := readValue_write value [] h
    (show value.write.length ≤ 2 * value.write.length + 1 + 1 by omega)
  rw [List.append_nil] at hread
  rw [read?, render, String.toList_ofList, readChars, hread]
  rfl

end OrderBy.Json
