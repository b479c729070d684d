/-
  OrderBy.Proofs.Expression.Layout — layout and case do not change what an expression asks for.

  Blanks around the pieces of an expression are trimmed away, pieces of blanks
  alone are dropped, and the word for a direction is read in any case.  So an
  expression may be laid out anew (`Relaid`) and still gives the same clauses.

  What needs care is that the new text is cut where it was laid out.  Blanks
  cannot bring a delimiter about that has none, nor make it stand too early, as
  characters that a delimiter does not have keep a piece clear of it.  Letters
  can: with the delimiter `E` the word `desc` is a piece and `DESC` is two.

  Main results:
    * `ofChars?_of_surrounded`, `Recased.ofChars?_eq` — what the last piece names
      stays the same;
    * `Spaced.clear` — pieces spaced with blanks stay clear of the delimiter;
    * `clausesOfPieces_of_relaid` — pieces laid out anew give the same clauses;
    * `readValue_of_relaid` — so do the texts that are joined from them, as long
      as a word in another case does not hold the delimiter;
    * `case_matters` — that it does not hold it cannot be left out.
-/
import OrderBy.Proofs.Direction
import OrderBy.Proofs.Expression.Meaning

namespace OrderBy.Expression

/-! ## §1. Layouts -/

/-- A text of nothing but blanks, which may be empty. -/
def Blanks (gap : List Char) : Prop :=
  ∀ c ∈ gap, Text.isBlank c = true

instance (gap : List Char) : Decidable (Blanks gap) :=
  List.decidableBAll (fun c => Text.isBlank c = true) gap

/-- **Pieces spaced with blanks**: blanks around any of them, and pieces of blanks before any of
them or behind all. -/
inductive Spaced : List (List Char) → List (List Char) → Prop where
  /-- No piece is left. -/
  | none : Spaced [] []
  /-- A piece of blanks is put in. -/
  | gap {pieces others : List (List Char)} {blanks : List Char} (hblanks : Blanks blanks)
    (rest : Spaced pieces others) : Spaced pieces (blanks :: others)
  /-- A piece is surrounded with blanks. -/
  | piece {pieces others : List (List Char)} {piece front back : List Char}
    (hfront : Blanks front) (hback : Blanks back) (rest : Spaced pieces others) :
    Spaced (piece :: pieces) ((front ++ piece ++ back) :: others)

/-- **A word for a direction in another case**: of its letters A to Z and a to z any may be
changed. -/
structure Recased (word other : List Char) : Prop where
  named : ∃ direction : Direction, direction.Named word
  letters : other.map Char.toLower = word.map Char.toLower

/-- **Pieces laid out anew**: those before the last one are spaced with blanks, and the last one is
surrounded with blanks too.  If it is a word for a direction, it may be put in another case that is
allowed. -/
inductive Relaid (allowed : List Char → Prop) : List (List Char) → List (List Char) → Prop where
  /-- The last piece stays as it is. -/
  | same {pieces others : List (List Char)} {last front back : List Char}
    (spaced : Spaced pieces others) (hfront : Blanks front) (hback : Blanks back) :
    Relaid allowed (pieces ++ [last]) (others ++ [front ++ last ++ back])
  /-- The last piece is put in another case. -/
  | recased {pieces others : List (List Char)} {last word front back : List Char}
    (spaced : Spaced pieces others) (hfront : Blanks front) (hback : Blanks back)
    (hword : Recased last word) (hallowed : allowed word) :
    Relaid allowed (pieces ++ [last]) (others ++ [front ++ word ++ back])

/-! ## §2. What pieces give -/

/-- **The clauses that pieces give**: a last one that names a direction is no property. -/
def clausesOfPieces (pieces : List (List Char)) : List Clause :=
  (splitDirection pieces).1.filterMap (clause? (splitDirection pieces).2)

theorem clause?_of_blanks {gap : List Char} (h : Blanks gap) (direction : Direction) :
    clause? direction gap = none := by
  have hinvalid : ¬ isValidProperty gap = true := by
    intro hvalid
    obtain ⟨c, hc, _, hblank⟩ := isValidProperty_iff.mp hvalid
    rw [h c hc] at hblank
    exact absurd hblank (by decide)
  rw [clause?, if_neg hinvalid]

section Surrounded

variable {front back : List Char}

theorem clause?_of_surrounded (hfront : Blanks front) (hback : Blanks back) (direction : Direction)
    (piece : List Char) : clause? direction (front ++ piece ++ back) = clause? direction piece := by
  have hstrip : Text.strip (front ++ piece ++ back) = Text.strip piece :=
    Text.strip_surround hfront hback piece
  have hvalid : isValidProperty (front ++ piece ++ back) = isValidProperty piece := by
    rw [← isValidProperty_strip, hstrip, isValidProperty_strip]
  rw [clause?, clause?, hvalid, hstrip]

theorem ofChars?_of_surrounded (hfront : Blanks front) (hback : Blanks back) (piece : List Char) :
    Direction.ofChars? (front ++ piece ++ back) = Direction.ofChars? piece := by
  rw [Direction.ofChars?, Direction.ofChars?, Text.strip_surround hfront hback]

end Surrounded

theorem Recased.ofChars?_eq {word other : List Char} (h : Recased word other) :
    Direction.ofChars? other = Direction.ofChars? word := by
  rw [Direction.ofChars?, Direction.ofChars?, ← Text.strip_map_toLower, h.letters,
    Text.strip_map_toLower]

/-- **Pieces spaced with blanks give the same clauses.** -/
theorem Spaced.filterMap_clause? {pieces others : List (List Char)} (h : Spaced pieces others)
    (direction : Direction) :
    others.filterMap (clause? direction) = pieces.filterMap (clause? direction) := by
  induction h with
  | none => rfl
  | gap hblanks rest ih => rw [List.filterMap_cons, clause?_of_blanks hblanks, ih]
  | piece hfront hback rest ih =>
    rw [List.filterMap_cons, List.filterMap_cons, clause?_of_surrounded hfront hback, ih]

/-- **Pieces laid out anew give the same clauses**, in whatever case the last word is. -/
theorem clausesOfPieces_of_relaid {allowed : List Char → Prop} {pieces others : List (List Char)}
    (h : Relaid allowed pieces others) : clausesOfPieces others = clausesOfPieces pieces := by
  unfold clausesOfPieces
  cases h with
  | @same pieces others last front back spaced hfront hback =>
    have hlast := ofChars?_of_surrounded hfront hback last
    cases hnamed : Direction.ofChars? last with
    | some direction =>
      -- the last piece is taken off, before and after
      rw [hnamed] at hlast
      rw [splitDirection_of_some hlast, splitDirection_of_some hnamed]
      exact spaced.filterMap_clause? direction
    | none =>
      -- the last piece is a property as the others are
      rw [hnamed] at hlast
      rw [splitDirection_of_none hlast, splitDirection_of_none hnamed, List.filterMap_append,
        List.filterMap_append, spaced.filterMap_clause?]
      simp only [List.filterMap_cons, List.filterMap_nil, clause?_of_surrounded hfront hback]
  | @recased pieces others last word front back spaced hfront hback hword _ =>
    obtain ⟨direction, hnamed⟩ := hword.named
    rw [← Direction.ofChars?_eq_some_iff] at hnamed
    have hlast : Direction.ofChars? (front ++ word ++ back) = some direction := by
      rw [ofChars?_of_surrounded hfront hback, hword.ofChars?_eq, hnamed]
    rw [splitDirection_of_some hlast, splitDirection_of_some hnamed]
    exact spaced.filterMap_clause? direction

/-! ## §3. Where the new text is cut -/

section Delimiters

variable {delimiter : List Char}

theorem Blanks.disjoint {gap : List Char} (h : Blanks gap)
    (hvisible : ∀ c ∈ delimiter, Text.isBlank c = false) : ∀ c ∈ gap, c ∉ delimiter := by
  intro c hc hmem
  have hblank := h c hc
  rw [hvisible c hmem] at hblank
  exact absurd hblank (by decide)

/-- **Pieces spaced with blanks stay clear of the delimiter.** -/
theorem Spaced.clear {pieces others : List (List Char)} (h : Spaced pieces others)
    (hd : delimiter ≠ []) (hvisible : ∀ c ∈ delimiter, Text.isBlank c = false)
    (hclear : ∀ piece ∈ pieces, Text.Clear delimiter piece) :
    ∀ piece ∈ others, Text.Clear delimiter piece := by
  induction h with
  | none => exact List.forall_mem_nil _
  | @gap _ _ blanks hblanks rest ih =>
    refine List.forall_mem_cons.mpr ⟨?_, ih hclear⟩
    have hgap := Text.clear_prepend_of_disjoint hd (hblanks.disjoint hvisible)
      (Text.clear_nil delimiter)
    rwa [List.append_nil] at hgap
  | piece hfront hback rest ih =>
    obtain ⟨hpiece, hothers⟩ := List.forall_mem_cons.mp hclear
    refine List.forall_mem_cons.mpr ⟨?_, ih hothers⟩
    exact Text.clear_append_of_disjoint hd (hback.disjoint hvisible)
      (Text.clear_prepend_of_disjoint hd (hfront.disjoint hvisible) hpiece)

theorem not_infix_of_surrounded {front last back : List Char}
    (hvisible : ∀ c ∈ delimiter, Text.isBlank c = false) (hfront : Blanks front)
    (hback : Blanks back) (h : ¬ delimiter <:+: last) : ¬ delimiter <:+: front ++ last ++ back := by
  intro hin
  apply h
  exact Text.infix_of_infix_prepend (hfront.disjoint hvisible)
    (Text.infix_of_infix_append (hback.disjoint hvisible) hin)

/-- **A text laid out anew is cut where it was laid out**, if a word in another case does not hold
the delimiter. -/
theorem pieces_of_relaid {text : List Char} {others : List (List Char)} (hd : delimiter ≠ [])
    (hvisible : ∀ c ∈ delimiter, Text.isBlank c = false)
    (h : Relaid (fun word => ¬ delimiter <:+: word) (Text.pieces delimiter text) others) :
    Text.pieces delimiter (Text.join delimiter others) = others := by
  generalize hpieces : Text.pieces delimiter text = pieces at h
  cases h with
  | same spaced hfront hback =>
    obtain ⟨_, hclear, hlast⟩ := (Text.pieces_eq_concat_iff hd).mp hpieces
    exact (Text.pieces_eq_concat_iff hd).mpr
      ⟨rfl, spaced.clear hd hvisible hclear, not_infix_of_surrounded hvisible hfront hback hlast⟩
  | recased spaced hfront hback _ hallowed =>
    obtain ⟨_, hclear, _⟩ := (Text.pieces_eq_concat_iff hd).mp hpieces
    exact (Text.pieces_eq_concat_iff hd).mpr
      ⟨rfl, spaced.clear hd hvisible hclear,
        not_infix_of_surrounded hvisible hfront hback hallowed⟩

end Delimiters

/-! ## §4. Values -/

/-- **An expression laid out anew gives the same clauses**, and reading either one does not fail.
The parts are those between the occurrences of the delimiter, which has no blanks. -/
theorem readValue_of_relaid {delimiter value : String} {parts others : List (List Char)}
    (hd : delimiter ≠ "") (hvisible : ∀ c ∈ delimiter.toList, Text.isBlank c = false)
    (hparts : Text.Parted delimiter.toList value.toList parts)
    (hrelaid : Relaid (fun word => ¬ delimiter.toList <:+: word) parts others) :
    ∃ clauses, (readValue (.text delimiter) (.text value)).outcome = .ok clauses
      ∧ (readValue (.text delimiter)
          (.text (String.ofList (Text.join delimiter.toList others)))).outcome = .ok clauses := by
  have hne : delimiter.toList ≠ [] := Text.toList_ne_nil hd
  have houtcome : ∀ text : String, (readValue (.text delimiter) (.text text)).outcome
      = .ok (clausesOfPieces (Text.pieces delimiter.toList text.toList)) := fun text =>
    congrArg Traced.outcome (readValue_eq hd (some text))
  -- the pieces of the new text are those it is joined from, and they give the same clauses
  rw [← (Text.parted_iff hne).mp hparts] at hrelaid
  refine ⟨_, houtcome value, ?_⟩
  rw [houtcome, String.toList_ofList, pieces_of_relaid hne hvisible hrelaid,
    clausesOfPieces_of_relaid hrelaid]

/-- With the delimiter `::`, the text `a:::b::desc` has a piece that starts with a colon, and is laid
out with two pieces more and the word in another case. -/
theorem readValue_of_relaid_colons :
    let delimiter := "::"
    let value := "a:::b::desc"
    let parts := ["a".toList, ":b".toList, "desc".toList]
    let others := [" a".toList, [], ":b\t".toList, "\n".toList, " Desc ".toList]
    delimiter ≠ "" ∧ (∀ c ∈ delimiter.toList, Text.isBlank c = false)
      ∧ Text.Parted delimiter.toList value.toList parts
      ∧ Relaid (fun word => ¬ delimiter.toList <:+: word) parts others
      ∧ ∃ clauses, (readValue (.text delimiter) (.text value)).outcome = .ok clauses
        ∧ (readValue (.text delimiter)
            (.text (String.ofList (Text.join delimiter.toList others)))).outcome = .ok clauses := by
  intro delimiter value parts others
  have hd : delimiter ≠ "" := by decide
  have hvisible : ∀ c ∈ "::".toList, Text.isBlank c = false := by
    intro c hc
    obtain rfl : c = ':' := by simpa using hc
    decide
  have hparts : Text.Parted delimiter.toList value.toList parts :=
    (Text.parted_iff (Text.toList_ne_nil hd)).mpr (by decide)
  have hempty : Blanks [] := by decide
  have hspace : Blanks [' '] := by decide
  have htab : Blanks ['\t'] := by decide
  have hspaced : Spaced ["a".toList, ":b".toList] [" a".toList, [], ":b\t".toList, "\n".toList] :=
    .piece hspace hempty (.gap hempty (.piece hempty htab (.gap (by decide) .none)))
  have hword : Recased "desc".toList "Desc".toList :=
    ⟨⟨.desc, Direction.ofChars?_eq_some_iff.mp rfl⟩, by decide⟩
  have hrelaid : Relaid (fun word => ¬ delimiter.toList <:+: word) parts others :=
    .recased hspaced hspace hspace hword (by decide)
  exact ⟨hd, hvisible, hparts, hrelaid, readValue_of_relaid hd hvisible hparts hrelaid⟩

/-- **The case of a word may matter** when the delimiter is a letter: cut at `E`, the text `aEdesc`
asks for `a` descending, and `aEDESC` for three properties ascending. -/
theorem case_matters :
    ¬ ∀ (delimiter value : String) (parts others : List (List Char)),
      delimiter ≠ "" → (∀ c ∈ delimiter.toList, Text.isBlank c = false) →
      Text.Parted delimiter.toList value.toList parts → Relaid (fun _ => True) parts others →
      (readValue (.text delimiter)
          (.text (String.ofList (Text.join delimiter.toList others)))).outcome
        = (readValue (.text delimiter) (.text value)).outcome := by
  intro h
  have hparts : Text.Parted "E".toList "aEdesc".toList ["a".toList, "desc".toList] :=
    (Text.parted_iff (by decide)).mpr rfl
  have hempty : Blanks [] := by decide
  have hspaced : Spaced ["a".toList] ["a".toList] := .piece hempty hempty .none
  have hword : Recased "desc".toList "DESC".toList :=
    ⟨⟨.desc, Direction.ofChars?_eq_some_iff.mp rfl⟩, by decide⟩
  have hrelaid : Relaid (fun _ => True) ["a".toList, "desc".toList] ["a".toList, "DESC".toList] :=
    .recased hspaced hempty hempty hword trivial
  have hvisible : ∀ c ∈ "E".toList, Text.isBlank c = false := by
    intro c hc
    obtain rfl : c = 'E' := by simpa using hc
    decide
  have hsame := h "E" "aEdesc" _ _ (by decide) hvisible hparts hrelaid
  have hbefore : (readValue (.text "E") (.text "aEdesc")).outcome = .ok [⟨"a", .desc⟩] := rfl
  have hafter : (readValue (.text "E") (.text "aEDESC")).outcome
      = .ok [⟨"a", .asc⟩, ⟨"D", .asc⟩, ⟨"SC", .asc⟩] := rfl
  have hclauses : [⟨"a", .asc⟩, ⟨"D", .asc⟩, ⟨"SC", .asc⟩] = [(⟨"a", .desc⟩ : Clause)] :=
    Except.ok.inj (hafter.symm.trans (hsame.trans hbefore))
  exact absurd hclauses (by decide)

end OrderBy.Expression
