/-
  OrderBy.Proofs.Expression.RoundTrip — which sorts come back when they are written and read.

  A delimiter that shares no letter with the names of the directions is taken
  first.  A clause whose property is clear of it comes back as it was.  One
  whose property holds it is never read from any text.  One whose property runs
  into it (`a:` before `::`) comes back as one clause too many or as another
  one, because what is left of the delimiter sticks to the name of the
  direction.  Since reading then gives at least one clause for each clause
  written, no other clause can make up for the one that is lost.

  Then the sorts that reading gives, which come back whenever the delimiter has
  no border.

  Main results:
    * `encode_reads_back_iff` — the exact sorts that come back;
    * `read_normalises` — whatever was read, writing and reading it again
      changes nothing.
-/
import Mathlib.Algebra.BigOperators.Group.List.Basic
import OrderBy.Proofs.Expression.Folding

namespace OrderBy.Expression

/-! ## §1. The name of a direction behind something else -/

section Stuck

variable {front : List Char}

/-- The names of the directions end in a character that is not blank. -/
theorem exists_name_eq_concat (direction : Direction) :
    ∃ back c, direction.name.toList = back ++ [c] ∧ Text.isBlank c = false := by
  cases direction with
  | asc => exact ⟨['A', 'S'], 'C', by decide, by decide⟩
  | desc => exact ⟨['D', 'E', 'S'], 'C', by decide, by decide⟩

/-- The name of a direction keeps its place when the text before it is trimmed. -/
theorem strip_append_name (hfront : ∃ x ∈ front, Text.isBlank x = false) (direction : Direction) :
    Text.strip (front ++ direction.name.toList)
      = Text.stripStart front ++ direction.name.toList := by
  obtain ⟨back, c, hname, hc⟩ := exists_name_eq_concat direction
  rw [hname]
  exact Text.strip_append_of_not_blank hfront hc

/-- No word for a direction ends in the name of one, but that name itself. -/
theorem eq_name_of_mem_keywords {direction : Direction} {entry : List Char × Direction}
    (hmem : entry ∈ Direction.keywords)
    (hsuffix : direction.name.toList.map Char.toLower <:+ entry.1) :
    entry.1 = direction.name.toList.map Char.toLower := by
  have hall : ∀ entry ∈ Direction.keywords,
      direction.name.toList.map Char.toLower <:+ entry.1 →
        entry.1 = direction.name.toList.map Char.toLower := by
    cases direction <;> decide
  exact hall entry hmem hsuffix

/-- **The name of a direction behind a text that is not blank names no direction.** -/
theorem ofChars?_append_name (hfront : ∃ x ∈ front, Text.isBlank x = false)
    (direction : Direction) : Direction.ofChars? (front ++ direction.name.toList) = none := by
  rw [Direction.ofChars?, strip_append_name hfront, List.map_append, List.lookup_eq_none_iff]
  intro entry hmem
  rw [bne_iff_ne]
  intro heq
  have hword := eq_name_of_mem_keywords hmem ⟨_, heq⟩
  -- nothing stands before the name in the word, so all of the text was blank
  rw [hword, List.append_left_eq_self, List.map_eq_nil_iff] at heq
  obtain ⟨x, hx, hblank⟩ := hfront
  have hall := List.dropWhile_eq_nil_iff.mp heq x hx
  rw [hblank] at hall
  exact absurd hall (by decide)

/-- The name of a direction makes a property of what stands before it. -/
theorem clause?_append_name (hfront : ∃ x ∈ front, Text.isBlank x = false)
    (direction given : Direction) :
    clause? given (front ++ direction.name.toList)
      = some ⟨String.ofList (Text.stripStart front ++ direction.name.toList), given⟩ := by
  have hvalid : isValidProperty (front ++ direction.name.toList) = true := by
    rw [isValidProperty_iff]
    refine ⟨'C', List.mem_append_right front ?_, by decide, by decide⟩
    cases direction <;> decide
  rw [clause?, if_pos hvalid, strip_append_name hfront]

/-- **A text whose last piece only ends in the name of a direction** is ascending, and its last
clause is that whole piece. -/
theorem clausesOfText_of_stuck {delimiter value first : List Char} {direction : Direction}
    (hfront : ∃ x ∈ front, Text.isBlank x = false)
    (hpieces : Text.pieces delimiter value = [first, front ++ direction.name.toList]) :
    clausesOfText delimiter value
      = (clause? .asc first).toList
        ++ [⟨String.ofList (Text.stripStart front ++ direction.name.toList), .asc⟩] := by
  have hsplit : splitDirection [first, front ++ direction.name.toList]
      = ([first, front ++ direction.name.toList], .asc) := by
    show splitDirection ([first] ++ [front ++ direction.name.toList])
      = ([first] ++ [front ++ direction.name.toList], .asc)
    exact splitDirection_of_none (ofChars?_append_name hfront direction)
  rw [clausesOfText, hpieces, hsplit, List.filterMap_cons, List.filterMap_cons,
    clause?_append_name hfront]
  cases clause? .asc first <;> rfl

end Stuck

/-! ## §2. Properties that run into the delimiter -/

section Overlap

variable {delimiter : List Char} {c : Clause}

/-- **A property that runs into the delimiter** is cut early, and what is left of the delimiter
stands before the name of the direction: a text that is not blank. -/
theorem exists_pieces_of_overlap (hwf : c.WellFormed)
    (hletters : ∀ x ∈ c.direction.name.toList, x ∉ delimiter)
    (hnone : ¬ delimiter <:+: c.property.toList)
    (hclear : ¬ Text.Clear delimiter c.property.toList) :
    ∃ first surplus, Text.pieces delimiter
          (c.property.toList ++ delimiter ++ c.direction.name.toList)
        = [first, surplus ++ c.direction.name.toList]
      ∧ (∃ x ∈ surplus, Text.isBlank x = false)
      ∧ (∃ front x, c.property.toList = front ++ [x] ∧ x ∈ delimiter) := by
  obtain ⟨first, head, tail, surplus, hproperty, hfirst, hshift⟩ :=
    (Text.clear_or_overlap hnone).resolve_left hclear
  obtain ⟨start, x, hx⟩ := (List.eq_nil_or_concat' head).resolve_left hshift.head_ne_nil
  have hxhead : x ∈ head := by
    rw [hx]
    exact List.mem_append_right start (List.mem_singleton_self x)
  have hend : c.property.toList = first ++ start ++ [x] := by
    rw [hproperty, hx, List.append_assoc]
  refine ⟨first, surplus, ?_, ⟨x, hshift.perm.subset hxhead, ?_⟩, ⟨first ++ start, x, hend, ?_⟩⟩
  · have hd : delimiter ≠ [] := List.ne_nil_of_length_pos (Nat.zero_lt_of_lt hshift.length_lt)
    have hearly : c.property.toList ++ delimiter ++ c.direction.name.toList
        = first ++ delimiter ++ (surplus ++ c.direction.name.toList) := by
      rw [hproperty, List.append_assoc first head, hshift.append_eq]
      simp only [List.append_assoc]
    -- no second delimiter: what is left is too short to hold one, and the name has no part in it
    rw [hearly, Text.pieces_of_clear hd hfirst, Text.pieces_eq_singleton
      (Text.not_infix_append_of_disjoint hletters hshift.length_lt)]
  · -- the last character of a trimmed property
    have htrim := hwf.trimmed
    rw [hend] at htrim
    exact Text.isBlank_of_isTrimmed_append htrim
  · rw [hshift.ends]
    exact List.mem_append_left tail hxhead

/-- **A clause whose property runs into the delimiter does not come back**, though some clause
does. -/
theorem clausesOfText_of_overlap (hwf : c.WellFormed)
    (hletters : ∀ x ∈ c.direction.name.toList, x ∉ delimiter)
    (hnone : ¬ delimiter <:+: c.property.toList)
    (hclear : ¬ Text.Clear delimiter c.property.toList) :
    clausesOfText delimiter (c.property.toList ++ delimiter ++ c.direction.name.toList) ≠ []
      ∧ clausesOfText delimiter (c.property.toList ++ delimiter ++ c.direction.name.toList)
          ≠ [c] := by
  obtain ⟨first, surplus, hpieces, hsurplus, front, x, hend, hx⟩ :=
    exists_pieces_of_overlap hwf hletters hnone hclear
  rw [clausesOfText_of_stuck hsurplus hpieces]
  constructor
  · exact List.append_ne_nil_of_right_ne_nil _ (List.cons_ne_nil _ _)
  · intro h
    obtain ⟨back, y, hname, _⟩ := exists_name_eq_concat c.direction
    -- the last character of the property would be both in the name and in the delimiter
    have hproperty := congrArg (fun clauses => clauses.getLast?.map (·.property.toList)) h
    simp only [List.getLast?_concat, Option.map_some, String.toList_ofList,
      List.getLast?_singleton, Option.some.injEq] at hproperty
    rw [hend, hname, ← List.append_assoc] at hproperty
    have hxy : y = x := List.singleton_inj.mp (List.append_inj_right' hproperty rfl)
    refine hletters y ?_ (hxy ▸ hx)
    rw [hname]
    exact List.mem_append_right back (List.mem_singleton_self y)

end Overlap

/-! ## §3. The sorts that come back -/

/-- Entries that give at least one entry each give as many as they are, or more. -/
theorem length_le_length_flatMap {α : Type} {f : α → List α} {entries : List α}
    (hne : ∀ x ∈ entries, f x ≠ []) : entries.length ≤ (entries.flatMap f).length := by
  rw [List.length_flatMap, ← List.length_map fun x => (f x).length]
  refine List.length_le_sum_of_one_le _ ?_
  intro n hn
  obtain ⟨x, hx, rfl⟩ := List.mem_map.mp hn
  exact List.length_pos_of_ne_nil (hne x hx)

/-- When each entry of a list gives at least one entry and all of them give the list again, each
gives itself alone. -/
theorem eq_singleton_of_flatMap_eq_self {α : Type} {f : α → List α} {entries : List α}
    (hne : ∀ x ∈ entries, f x ≠ []) (h : entries.flatMap f = entries) :
    ∀ x ∈ entries, f x = [x] := by
  induction entries with
  | nil =>
    intro x hx
    exact absurd hx List.not_mem_nil
  | cons y rest ih =>
    have hrest : ∀ x ∈ rest, f x ≠ [] := fun x hx => hne x (List.mem_cons_of_mem _ hx)
    have hy := List.length_pos_of_ne_nil (hne y List.mem_cons_self)
    have hmore := length_le_length_flatMap hrest
    rw [List.flatMap_cons] at h
    have hlen := congrArg List.length h
    simp only [List.length_append, List.length_cons] at hlen
    -- the others give as many as they are, which leaves one for the first
    obtain ⟨hfirst, hothers⟩ :=
      List.append_inj (show f y ++ rest.flatMap f = [y] ++ rest from h)
        (by rw [List.length_singleton]; omega)
    intro x hx
    rcases List.mem_cons.mp hx with rfl | hx
    · exact hfirst
    · exact ih hrest hothers x hx

/-- A delimiter that shares no letter with the names of the directions stands in none of them. -/
theorem name_free_of_letters {delimiter : List Char} (hd : delimiter ≠ [])
    (hletters : ∀ x ∈ "ASCDE".toList, x ∉ delimiter) (direction : Direction) :
    (∀ x ∈ direction.name.toList, x ∉ delimiter) ∧ ¬ delimiter <:+: direction.name.toList := by
  have hnames : (direction.name.toList.all fun x => "ASCDE".toList.contains x) = true := by
    cases direction <;> decide
  have hdisjoint : ∀ x ∈ direction.name.toList, x ∉ delimiter := by
    intro x hx
    have hcontains := List.all_eq_true.mp hnames x hx
    exact hletters x (List.contains_iff_mem.mp hcontains)
  have hshort : ([] : List Char).length < delimiter.length := List.length_pos_of_ne_nil hd
  exact ⟨hdisjoint, Text.not_infix_append_of_disjoint hdisjoint hshort⟩

/-- A clause whose property is clear of the delimiter comes back. -/
theorem clausesOfText_of_clear {delimiter : List Char} (hd : delimiter ≠ []) {c : Clause}
    (hwf : c.WellFormed) (hname : ¬ delimiter <:+: c.direction.name.toList)
    (hclear : Text.Clear delimiter c.property.toList) :
    clausesOfText delimiter (c.property.toList ++ delimiter ++ c.direction.name.toList) = [c] := by
  have hpieces : Text.pieces delimiter
        (c.property.toList ++ delimiter ++ c.direction.name.toList)
      = [c.property.toList] ++ [c.direction.name.toList] := by
    rw [Text.pieces_of_clear hd hclear, Text.pieces_eq_singleton hname]
    rfl
  rw [clausesOfText_of_pieces hpieces, List.filterMap_cons, clause?_of_wellFormed hwf]
  rfl

/-- **A sort that comes back has properties that are clear of the delimiter.**  None of them holds
it, since they were read; so each clause gives one at least, hence itself alone. -/
theorem clear_of_encode_reads_back {delimiter : String} (hd : delimiter ≠ "")
    (hletters : ∀ x ∈ "ASCDE".toList, x ∉ delimiter.toList) {s : Sorting} (hwf : s.WellFormed)
    (hread : (readTexts (.text delimiter) (encode (.text delimiter) s)).outcome = .ok s) :
    ∀ c ∈ s.clauses, Text.Clear delimiter.toList c.property.toList := by
  have hchars := Text.toList_ne_nil hd
  have hnames := name_free_of_letters hchars hletters
  rw [outcome_readTexts hd] at hread
  injection hread with hsorting
  have hnone : ∀ c ∈ s.clauses, ¬ delimiter.toList <:+: c.property.toList := by
    intro c hc
    rw [← hsorting] at hc
    exact (of_mem_sortingOf hd hc).2
  have hself : s.clauses.flatMap (fun c =>
      clausesOfText delimiter.toList (encodeClause (.text delimiter) c).toList) = s.clauses := by
    rw [sortingOf, encode, List.map_map, List.flatMap_map] at hsorting
    exact congrArg Sorting.clauses hsorting
  have hne : ∀ c ∈ s.clauses,
      clausesOfText delimiter.toList (encodeClause (.text delimiter) c).toList ≠ [] := by
    intro c hc
    rw [toList_encodeClause]
    by_cases hclear : Text.Clear delimiter.toList c.property.toList
    · rw [clausesOfText_of_clear hchars (hwf c hc) (hnames c.direction).2 hclear]
      exact List.cons_ne_nil c []
    · exact (clausesOfText_of_overlap (hwf c hc) (hnames c.direction).1 (hnone c hc) hclear).1
  -- no clause has to make up for another, so a lost one shows
  intro c hc
  by_contra hclear
  have hsingle := eq_singleton_of_flatMap_eq_self hne hself c hc
  rw [toList_encodeClause] at hsingle
  exact (clausesOfText_of_overlap (hwf c hc) (hnames c.direction).1 (hnone c hc) hclear).2 hsingle

/-- **Sorts whose properties are clear of the delimiter come back** from either encoding. -/
theorem reads_back_of_clear {delimiter : String} (hd : delimiter ≠ "")
    (hname : ∀ direction : Direction, ¬ delimiter.toList <:+: direction.name.toList)
    {s : Sorting} (hwf : s.WellFormed)
    (hclear : ∀ c ∈ s.clauses, Text.Clear delimiter.toList c.property.toList) :
    (readTexts (.text delimiter) (encode (.text delimiter) s)).outcome = .ok s
      ∧ (readTexts (.text delimiter) (foldWith delimiter s)).outcome = .ok s := by
  have hreadable := readable_of_clear hd hname hclear
  have hself : s.clauses.flatMap (reread delimiter.toList) = s.clauses :=
    flatMap_reread_eq_self hwf fun c hc =>
      Text.not_infix_of_clear (Text.toList_ne_nil hd) (hclear c hc)
  rw [outcome_encode hreadable, outcome_foldWith hreadable, hself]
  exact ⟨rfl, rfl⟩

/-- **Exactly the sorts whose properties are clear of the delimiter come back** from one
expression per clause, and these come back from folded expressions too. -/
theorem encode_reads_back_iff {delimiter : String} (hd : delimiter ≠ "")
    (hletters : ∀ x ∈ "ASCDE".toList, x ∉ delimiter.toList) {s : Sorting} (hwf : s.WellFormed) :
    ((readTexts (.text delimiter) (encode (.text delimiter) s)).outcome = .ok s
        ↔ ∀ c ∈ s.clauses, Text.Clear delimiter.toList c.property.toList)
      ∧ ((∀ c ∈ s.clauses, Text.Clear delimiter.toList c.property.toList) →
          ∃ folded, fold (.text delimiter) s = .ok folded
            ∧ (readTexts (.text delimiter) folded).outcome = .ok s) := by
  have hname : ∀ direction : Direction, ¬ delimiter.toList <:+: direction.name.toList := by
    intro direction
    exact (name_free_of_letters (Text.toList_ne_nil hd) hletters direction).2
  refine ⟨⟨?_, ?_⟩, ?_⟩
  · intro hread
    exact clear_of_encode_reads_back hd hletters hwf hread
  · intro hclear
    exact (reads_back_of_clear hd hname hwf hclear).1
  · intro hclear
    exact ⟨foldWith delimiter s, rfl, (reads_back_of_clear hd hname hwf hclear).2⟩

/-- A property that holds one character of the delimiter at its end does not come back. -/
theorem encode_reads_back_iff_colons :
    (∀ x ∈ "ASCDE".toList, x ∉ "::".toList)
      ∧ Sorting.WellFormed ⟨[⟨"a:b", .desc⟩, ⟨"c:", .asc⟩]⟩
      ∧ ¬ (readTexts (.text "::") (encode (.text "::")
            ⟨[⟨"a:b", .desc⟩, ⟨"c:", .asc⟩]⟩)).outcome
          = .ok ⟨[⟨"a:b", .desc⟩, ⟨"c:", .asc⟩]⟩ := by
  have hletters : ∀ x ∈ "ASCDE".toList, x ∉ "::".toList := by
    have hall : ("ASCDE".toList.all fun x => !"::".toList.contains x) = true := by decide
    intro x hx
    simpa using List.all_eq_true.mp hall x hx
  have hwf : Sorting.WellFormed ⟨[⟨"a:b", .desc⟩, ⟨"c:", .asc⟩]⟩ := by
    intro c hc
    revert c
    decide
  refine ⟨hletters, hwf, ?_⟩
  rw [(encode_reads_back_iff (by decide) hletters hwf).1]
  decide

/-! ## §4. Sorts that were read -/

/-- **Reading normalises.**  Whatever values were read, the sort they give has no property that
holds the delimiter, and writing and reading it again, folded or not, changes nothing; so folded
expressions are folded again to themselves. -/
theorem read_normalises {delimiter : String} (hd : delimiter ≠ "")
    (hborder : Text.Borderless delimiter.toList)
    (hname : ∀ direction : Direction, ¬ delimiter.toList <:+: direction.name.toList)
    (values : List (Option String)) :
    ∃ s folded, (read (.text delimiter) (values.map Json.ofText?)).outcome = .ok s
      ∧ (∀ c ∈ s.clauses, ¬ delimiter.toList <:+: c.property.toList)
      ∧ (readTexts (.text delimiter) (encode (.text delimiter) s)).outcome = .ok s
      ∧ fold (.text delimiter) s = .ok folded
      ∧ (readTexts (.text delimiter) folded).outcome = .ok s
      ∧ ((readTexts (.text delimiter) folded).outcome >>= fold (.text delimiter)) = .ok folded := by
  -- no property that was read holds the delimiter, and without a border it then is clear of it
  have hmem : ∀ c ∈ (sortingOf delimiter values).clauses,
      c.WellFormed ∧ ¬ delimiter.toList <:+: c.property.toList :=
    fun c hc => of_mem_sortingOf hd hc
  obtain ⟨hencode, hfold⟩ := reads_back_of_clear hd hname (fun c hc => (hmem c hc).1) fun c hc =>
    Text.clear_of_borderless hborder (hmem c hc).2
  refine ⟨sortingOf delimiter values, foldWith delimiter (sortingOf delimiter values), ?_,
    fun c hc => (hmem c hc).2, hencode, rfl, hfold, ?_⟩
  · rw [read_eq hd]
  · rw [hfold]
    rfl

/-- A word for a direction that is not last, a trailing delimiter, and a missing value. -/
theorem read_normalises_semicolon :
    ∃ s folded, (read (.text ";") ([some " desc ;a.b; .. ;", none, some "x;y;DESC"].map
          Json.ofText?)).outcome = .ok s
      ∧ (∀ c ∈ s.clauses, ¬ ";".toList <:+: c.property.toList)
      ∧ (readTexts (.text ";") (encode (.text ";") s)).outcome = .ok s
      ∧ fold (.text ";") s = .ok folded
      ∧ (readTexts (.text ";") folded).outcome = .ok s
      ∧ ((readTexts (.text ";") folded).outcome >>= fold (.text ";")) = .ok folded := by
  have hname : ∀ direction : Direction, ¬ ";".toList <:+: direction.name.toList := by
    intro direction
    cases direction <;> decide
  have hborder : Text.Borderless ";".toList := Text.borderless_singleton ';'
  exact read_normalises (by decide) hborder hname _

end OrderBy.Expression
