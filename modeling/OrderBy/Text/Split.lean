/-
  OrderBy.Text.Split — cutting a text at a delimiter, joining pieces, and line ends.

  A delimiter is any non-empty text.  Its occurrences are taken from the left
  and do not overlap: in `aaa` the delimiter `aa` occurs once, at the start.
  `pieces` gives the texts between the occurrences (so a text without one is
  its own only piece), and `join` puts the delimiter between pieces.

  Before a text is cut into lines, the ends of its lines are made alike: a line
  ends in a line feed, in a carriage return, or in both (`unifyLineEnds`).
-/

namespace OrderBy.Text

/-! ## §1. Pieces -/

/-- The pieces of what follows the first `skip` characters, which belong to an
occurrence already found. -/
def piecesAfter (delimiter : List Char) : (skip : Nat) → List Char → List (List Char)
  | _, [] => [[]]
  | skip + 1, _ :: rest => piecesAfter delimiter skip rest
  | 0, c :: rest =>
    if delimiter.isPrefixOf (c :: rest) then
      [] :: piecesAfter delimiter (delimiter.length - 1) rest
    else
      (piecesAfter delimiter 0 rest).modifyHead (c :: ·)

/-- **The pieces of a text** between the leftmost non-overlapping occurrences of a delimiter. -/
def pieces (delimiter text : List Char) : List (List Char) :=
  piecesAfter delimiter 0 text

/-- Skipping is dropping. -/
theorem piecesAfter_eq_drop (delimiter : List Char) (skip : Nat) (text : List Char) :
    piecesAfter delimiter skip text = pieces delimiter (text.drop skip) := by
  induction text generalizing skip with
  | nil => cases skip <;> simp [piecesAfter, pieces]
  | cons c rest ih =>
    cases skip with
    | zero => rfl
    | succ skip => simpa [piecesAfter] using ih skip

@[simp] theorem pieces_nil (delimiter : List Char) : pieces delimiter [] = [[]] := rfl

/-- An occurrence at the front closes an empty piece. -/
theorem pieces_cons_of_found {delimiter : List Char} {c : Char} {rest : List Char}
    (h : delimiter.isPrefixOf (c :: rest) = true) :
    pieces delimiter (c :: rest)
      = [] :: pieces delimiter (rest.drop (delimiter.length - 1)) := by
  rw [← piecesAfter_eq_drop]
  simp [pieces, piecesAfter, h]

/-- A character at which no occurrence starts belongs to the first piece. -/
theorem pieces_cons_of_absent {delimiter : List Char} {c : Char} {rest : List Char}
    (h : delimiter.isPrefixOf (c :: rest) = false) :
    pieces delimiter (c :: rest) = (pieces delimiter rest).modifyHead (c :: ·) := by
  simp [pieces, piecesAfter, h]

/-- There is always a piece. -/
theorem pieces_ne_nil (delimiter text : List Char) : pieces delimiter text ≠ [] := by
  induction text with
  | nil => simp
  | cons c rest ih =>
    cases h : delimiter.isPrefixOf (c :: rest) with
    | true => simp [pieces_cons_of_found h]
    | false =>
      obtain ⟨p, ps, hp⟩ := List.exists_cons_of_ne_nil ih
      simp [pieces_cons_of_absent h, hp]

/-! ## §2. Joining -/

/-- **Join** pieces with the delimiter between them. -/
def join (delimiter : List Char) : List (List Char) → List Char
  | [] => []
  | [piece] => piece
  | piece :: next :: rest => piece ++ delimiter ++ join delimiter (next :: rest)

@[simp] theorem join_singleton (delimiter piece : List Char) :
    join delimiter [piece] = piece := rfl

theorem join_cons_cons (delimiter piece next : List Char) (rest : List (List Char)) :
    join delimiter (piece :: next :: rest)
      = piece ++ delimiter ++ join delimiter (next :: rest) := rfl

/-! ## §3. Line ends -/

/-- **Write every line ending as one line feed.** -/
def unifyLineEnds : List Char → List Char
  | '\r' :: '\n' :: rest => '\n' :: unifyLineEnds rest
  | '\r' :: rest => '\n' :: unifyLineEnds rest
  | c :: rest => c :: unifyLineEnds rest
  | [] => []

end OrderBy.Text
