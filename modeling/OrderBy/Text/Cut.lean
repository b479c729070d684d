/-
  OrderBy.Text.Cut — texts of an exact width.

  A text is made to take a number of columns: blanks are put after one that is
  too short, and one that is too long is cut between its clusters.  A text is
  measured as a whole and cut by its clusters, and where it starts with a
  joiner the two do not agree; so it may not be possible to cut it.
-/
import OrderBy.Text.Width

namespace OrderBy.Text

/-- **Why a text cannot be cut.** -/
inductive CutError where
  /-- Its clusters end before the columns do. -/
  | fewColumns
  /-- Its clusters take no columns at all. -/
  | noColumns
  deriving DecidableEq, Repr, Inhabited

/-- The wording of a cause. -/
def CutError.message : CutError → String
  | .fewColumns => "list index out of range"
  | .noColumns => "division by zero"

/-- Blanks. -/
def blanks (n : Nat) : List Char := List.replicate n ' '

/-- The clusters that take a number of columns; a blank is in the place of one that does not fit in
whole. -/
def takeClusters : (columns : Nat) → List Cluster → Except CutError (List Char)
  | 0, _ => .ok []
  | _ + 1, [] => .error .fewColumns
  | columns + 1, cluster :: rest =>
    if cluster.columns ≤ columns + 1 then
      (takeClusters (columns + 1 - cluster.columns) rest).map (cluster.chars ++ ·)
    else .ok [' ']

/-- The front of a text, up to a number of columns. -/
def cut (columns : Nat) (cs : List Char) : Except CutError (List Char) :=
  if columns = 0 then .ok []
  else if (clusters cs).all (·.columns == 0) then .error .noColumns
  else takeClusters columns (clusters cs)

/-- **A text of a number of columns.** -/
def sized (columns : Nat) (cs : List Char) : Except CutError (List Char) :=
  if columns = 0 then .ok []
  else if width cs ≤ columns then .ok (cs ++ blanks (columns - width cs))
  else cut columns cs

/-! ## Pieces of a line -/

/-- The width of pieces that are measured one by one. -/
def widthOfPieces (pieces : List (List Char)) : Nat :=
  pieces.foldl (fun columns piece => columns + width piece) 0

/-- Cut off the pieces of a line that reach up to a number of columns, given the columns in
front. -/
def cutPieces (columns : Nat) : (reached : Nat) → List (List Char) →
    Except CutError (List (List Char))
  | _, [] => .ok []
  | reached, piece :: rest =>
    if reached + width piece < columns then
      (cutPieces columns (reached + width piece) rest).map (piece :: ·)
    else (sized (columns - reached) piece).map ([·])

/-- Cut off what stands in a line beyond a number of columns. -/
def cropped (columns : Nat) (line : List (List Char)) : Except CutError (List (List Char)) :=
  if columns < widthOfPieces line then cutPieces columns 0 line else .ok line

/-- **Make a line take a number of columns.** -/
def adjusted (columns : Nat) (line : List (List Char)) : Except CutError (List (List Char)) :=
  if widthOfPieces line < columns then .ok (line ++ [blanks (columns - widthOfPieces line)])
  else cropped columns line

end OrderBy.Text
