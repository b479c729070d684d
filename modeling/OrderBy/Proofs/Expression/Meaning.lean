/-
  OrderBy.Proofs.Expression.Meaning — what reading gives, said without running it.

  With a delimiter that is a text and not empty, reading never fails.  What it
  gives is a function of each value alone: its pieces but for a last one that
  names a direction, of which the valid ones are clauses (`clause?`) and the
  others records (`dropped?`).  Later modules reason about these functions and
  open the reader no more.

  Main results:
    * `readPieces_eq`, `readValue_eq`, `read_eq` — the reader, level by level;
    * `clausesOfText_of_pieces` — the meaning of a text whose last piece is the
      name of a direction, as every written expression has it;
    * `of_mem_sortingOf` — what a clause that was read looks like;
    * `wellFormed_of_readJson` — a sort that was read is well formed, be it with
      a delimiter that makes other readings fail.
-/
import OrderBy.Expression.Reader
import OrderBy.Proofs.Clause
import OrderBy.Proofs.Outcome
import OrderBy.Proofs.Text.Pieces

namespace OrderBy.Expression

/-! ## §1. One piece -/

/-- The clause of a piece, if it names a property. -/
def clause? (direction : Direction) (piece : List Char) : Option Clause :=
  if isValidProperty piece then some ⟨String.ofList (Text.strip piece), direction⟩ else none

/-- The record of a piece of a value, if it names no property. -/
def dropped? (value : String) (piece : List Char) : Option Record :=
  if isValidProperty piece then none
  else some (.droppedProperty (String.ofList (Text.strip piece)) value)

/-- **A piece gives its clause or its record**, and reading it does not fail. -/
theorem readPiece_eq (value : String) (direction : Direction) (piece : List Char) :
    readPiece value direction piece
      = ⟨.ok (clause? direction piece).toList, (dropped? value piece).toList⟩ := by
  unfold readPiece clause? dropped?
  have hstrip := isValidProperty_strip piece
  by_cases hvalid : isValidProperty piece = true
  · -- the filter is as strict as the check behind it, so the clause is made
    have hwf := Clause.wellFormed_of_valid hvalid direction
    have hmake := Clause.make_of_wellFormed hwf
    dsimp only at hmake
    rw [hvalid] at hstrip
    simp only [hstrip, hvalid, if_true, hmake]
    rfl
  · rw [Bool.not_eq_true] at hvalid
    rw [hvalid] at hstrip
    simp only [hstrip, hvalid, Bool.false_eq_true, if_false]
    rfl

/-- A well-formed clause is what its own property gives. -/
theorem clause?_of_wellFormed {c : Clause} (h : c.WellFormed) :
    clause? c.direction c.property.toList = some c := by
  have htrim : Text.strip c.property.toList = c.property.toList := h.trimmed
  rw [clause?, if_pos h.valid, htrim, String.ofList_toList]

/-- A clause of a piece has the direction that it was read in. -/
theorem direction_of_clause?_eq_some {direction : Direction} {piece : List Char} {c : Clause}
    (h : clause? direction piece = some c) : c.direction = direction := by
  unfold clause? at h
  split at h
  next =>
    injection h with h
    rw [← h]
  next => exact absurd h (by simp)

/-- A clause of a piece is well formed, and its property is the piece without the blanks around
it. -/
theorem of_clause?_eq_some {direction : Direction} {piece : List Char} {c : Clause}
    (h : clause? direction piece = some c) :
    c.WellFormed ∧ c.property.toList = Text.strip piece := by
  unfold clause? at h
  split at h
  next hvalid =>
    injection h with h
    rw [← h]
    exact ⟨Clause.wellFormed_of_valid hvalid direction, String.toList_ofList⟩
  next => exact absurd h (by simp)

/-! ## §2. Pieces and their direction -/

/-- **Pieces give the clauses of the valid ones and the records of the others**, in order. -/
theorem readPieces_eq (value : String) (direction : Direction) (pieces : List (List Char)) :
    readPieces value direction pieces
      = ⟨.ok (pieces.filterMap (clause? direction)), pieces.filterMap (dropped? value)⟩ := by
  induction pieces with
  | nil => rfl
  | cons piece pieces ih =>
    unfold readPieces
    rw [readPiece_eq, ih]
    simp only [Traced.bind_ok, Traced.pure_eq, List.append_nil]
    rw [List.filterMap_cons, List.filterMap_cons]
    cases clause? direction piece <;> cases dropped? value piece <;> rfl

/-- A last piece that names a direction is taken off. -/
theorem splitDirection_of_some {pieces : List (List Char)} {last : List Char}
    {direction : Direction} (h : Direction.ofChars? last = some direction) :
    splitDirection (pieces ++ [last]) = (pieces, direction) := by
  unfold splitDirection
  rw [List.getLast?_concat, Option.bind_some, h, List.dropLast_concat]

/-- Pieces whose last one names no direction are all kept, and ascending. -/
theorem splitDirection_of_none {pieces : List (List Char)} {last : List Char}
    (h : Direction.ofChars? last = none) :
    splitDirection (pieces ++ [last]) = (pieces ++ [last], .asc) := by
  unfold splitDirection
  rw [List.getLast?_concat, Option.bind_some, h]

/-- Taking the direction off leaves nothing but pieces. -/
theorem subset_splitDirection (pieces : List (List Char)) :
    (splitDirection pieces).1 ⊆ pieces := by
  unfold splitDirection
  split
  · exact (List.dropLast_sublist pieces).subset
  · exact List.Subset.refl pieces

/-! ## §3. Texts -/

/-- **The clauses that a text gives.** -/
def clausesOfText (delimiter value : List Char) : List Clause :=
  (splitDirection (Text.pieces delimiter value)).1.filterMap
    (clause? (splitDirection (Text.pieces delimiter value)).2)

/-- The meaning of a text whose last piece is the name of a direction. -/
theorem clausesOfText_of_pieces {delimiter value : List Char} {pieces : List (List Char)}
    {direction : Direction}
    (h : Text.pieces delimiter value = pieces ++ [direction.name.toList]) :
    clausesOfText delimiter value = pieces.filterMap (clause? direction) := by
  have hname : Direction.ofChars? direction.name.toList = some direction :=
    Direction.ofText?_name direction
  rw [clausesOfText, h, splitDirection_of_some hname]

/-- **A clause of a text** is well formed, and its property is a piece of the text without the
blanks around it. -/
theorem of_mem_clausesOfText {delimiter value : List Char} {c : Clause}
    (h : c ∈ clausesOfText delimiter value) :
    c.WellFormed ∧ ∃ piece ∈ Text.pieces delimiter value, c.property.toList = Text.strip piece := by
  obtain ⟨piece, hmem, hclause⟩ := List.mem_filterMap.mp h
  obtain ⟨hwf, hproperty⟩ := of_clause?_eq_some hclause
  exact ⟨hwf, piece, subset_splitDirection _ hmem, hproperty⟩

/-- The property of a clause of a text does not hold the delimiter. -/
theorem not_infix_of_mem_clausesOfText {delimiter value : List Char} (hd : delimiter ≠ [])
    {c : Clause} (h : c ∈ clausesOfText delimiter value) :
    ¬ delimiter <:+: c.property.toList := by
  obtain ⟨_, piece, hpiece, hproperty⟩ := of_mem_clausesOfText h
  intro hin
  rw [hproperty] at hin
  exact Text.not_infix_of_mem_pieces hd hpiece (hin.trans (Text.isInfix_strip piece))

/-- A blank text gives no clauses, so passing it over loses none. -/
theorem clausesOfText_of_blank {delimiter value : List Char} (hd : delimiter ≠ [])
    (h : Text.isBlankText value = true) : clausesOfText delimiter value = [] := by
  rw [List.eq_nil_iff_forall_not_mem]
  intro c hc
  obtain ⟨hwf, piece, hpiece, hproperty⟩ := of_mem_clausesOfText hc
  -- a valid property has a character that is not blank, which would be in the text too
  obtain ⟨x, hx, _, hblank⟩ := isValidProperty_iff.mp hwf.valid
  rw [hproperty] at hx
  have hvalue : x ∈ value :=
    (Text.isInfix_of_mem_pieces hd hpiece).subset ((Text.isInfix_strip piece).subset hx)
  rw [Text.isBlankText_iff.mp h x hvalue] at hblank
  exact absurd hblank (by decide)

/-! ## §4. Values -/

section Values

variable {delimiter : String}

/-- The clauses that a value gives, a missing one none. -/
def clausesOf (delimiter : String) : Option String → List Clause
  | none => []
  | some value => clausesOfText delimiter.toList value.toList

/-- The records that a value gives: a missing or blank one is passed over without any. -/
def recordsOf (delimiter : String) : Option String → List Record
  | none => []
  | some value =>
    if Text.isBlankText value.toList then []
    else
      (splitDirection (Text.pieces delimiter.toList value.toList)).1.filterMap (dropped? value)

/-- **The sort that values give**: the clauses of each, in order. -/
def sortingOf (delimiter : String) (values : List (Option String)) : Sorting :=
  ⟨values.flatMap (clausesOf delimiter)⟩

/-- **A value gives its clauses and its records**, and reading it does not fail. -/
theorem readValue_eq (hd : delimiter ≠ "") (value : Option String) :
    readValue (.text delimiter) (Json.ofText? value)
      = ⟨.ok (clausesOf delimiter value), recordsOf delimiter value⟩ := by
  cases value with
  | none => rfl
  | some value =>
    show (if Text.isBlankText value.toList then pure [] else readText (.text delimiter) value)
      = ⟨.ok (clausesOfText delimiter.toList value.toList), recordsOf delimiter (some value)⟩
    unfold recordsOf
    by_cases hblank : Text.isBlankText value.toList = true
    · rw [clausesOfText_of_blank (Text.toList_ne_nil hd) hblank]
      simp only [hblank, if_true]
      rfl
    · -- only an empty delimiter cannot cut a text
      have hcut : delimiter.isEmpty = false := by
        rw [Bool.eq_false_iff]
        intro hempty
        exact hd (String.isEmpty_iff.mp hempty)
      simp only [hblank, Bool.false_eq_true, if_false]
      unfold readText
      rw [Delimiter.cut_text hcut]
      simp only [Traced.of, Traced.bind_ok, List.nil_append]
      rw [readPieces_eq]
      rfl

/-- Values give the clauses and the records of each, in order. -/
theorem readClauses_eq (hd : delimiter ≠ "") (values : List (Option String)) :
    readClauses (.text delimiter) (values.map Json.ofText?)
      = ⟨.ok (values.flatMap (clausesOf delimiter)), values.flatMap (recordsOf delimiter)⟩ := by
  induction values with
  | nil => rfl
  | cons value values ih =>
    rw [List.map_cons, readClauses, readValue_eq hd, ih]
    simp only [Traced.bind_ok, Traced.pure_eq, List.append_nil, List.flatMap_cons]

/-- **Values give their sort and the records of each**, in order. -/
theorem read_eq (hd : delimiter ≠ "") (values : List (Option String)) :
    read (.text delimiter) (values.map Json.ofText?)
      = ⟨.ok (sortingOf delimiter values), values.flatMap (recordsOf delimiter)⟩ := by
  rw [read, readClauses_eq hd]
  simp only [Traced.bind_ok, Traced.pure_eq, List.append_nil]
  rfl

/-- The sort that texts give. -/
theorem outcome_readTexts (hd : delimiter ≠ "") (texts : List String) :
    (readTexts (.text delimiter) texts).outcome = .ok (sortingOf delimiter (texts.map some)) := by
  have hvalues : texts.map Json.text = (texts.map some).map Json.ofText? := by
    rw [List.map_map]
    rfl
  rw [readTexts, hvalues, read_eq hd]

/-- **A clause that was read** is well formed, and its property does not hold the delimiter. -/
theorem of_mem_sortingOf (hd : delimiter ≠ "") {values : List (Option String)} {c : Clause}
    (h : c ∈ (sortingOf delimiter values).clauses) :
    c.WellFormed ∧ ¬ delimiter.toList <:+: c.property.toList := by
  obtain ⟨value, _, hmem⟩ := List.mem_flatMap.mp h
  cases value with
  | none => exact absurd hmem List.not_mem_nil
  | some value =>
    exact ⟨(of_mem_clausesOfText hmem).1,
      not_infix_of_mem_clausesOfText (Text.toList_ne_nil hd) hmem⟩

end Values

/-! ## §5. Any delimiter -/

section AnyDelimiter

variable {delimiter : Delimiter}

/-- **Whatever separates the pieces of a value, its clauses are those of some pieces**, in one
direction. -/
theorem exists_pieces_of_readValue {value : Json} {clauses : List Clause}
    (h : (readValue delimiter value).outcome = .ok clauses) :
    ∃ (pieces : List (List Char)) (direction : Direction),
      clauses = pieces.filterMap (clause? direction) := by
  unfold readValue at h
  split at h
  · split at h
    · exact ⟨[], .asc, (Except.ok.inj h).symm⟩
    · -- the pieces are those of the delimiter, and all else is as with any other
      unfold readText at h
      rw [Outcome.outcome_bind] at h
      obtain ⟨pieces, _, h⟩ := Outcome.of_bind_eq_ok h
      dsimp only at h
      rw [readPieces_eq] at h
      exact ⟨_, _, (Except.ok.inj h).symm⟩
  · split at h
    · exact ⟨[], .asc, (Except.ok.inj h).symm⟩
    · exact absurd h (by simp [Traced.fail, Traced.of])

end AnyDelimiter

end OrderBy.Expression
