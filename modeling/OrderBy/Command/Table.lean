/-
  OrderBy.Command.Table — tables with ruled borders.

  Every cell is left-justified with one blank on either side, and a column is
  as wide as its widest cell; in a table that is wider than a terminal the
  widest columns are made narrower.  A cell may hold several lines, and its row
  is as high as its highest cell.  The head has heavy borders, the body light
  ones.  The title stands over the table, centred over its width; an odd blank
  goes to the right.

  Title and cells are texts with tags (`OrderBy.Command.Markup`), so a table of
  a text with a wrong tag is none.  A line is made of pieces that are measured
  one by one: a character that joins two others does not do so between pieces.
-/
import OrderBy.Command.Markup
import OrderBy.Text.Number
import OrderBy.Text.Wrap

namespace OrderBy.Command.Table

/-! ## §1. Widths of texts -/

/-- The characters that end a line when a text is measured. -/
def lineEnds : List Char := ['\n', '\x1c', '\x1d', '\x1e', '\u0085', '\u2028', '\u2029']

/-- The width of the widest line of those that start with a line under way. -/
def naturalWidthFrom (line : List Char) : List Char → Nat
  | [] => Text.width line
  | c :: rest =>
    if lineEnds.contains c then max (Text.width line) (naturalWidthFrom [] rest)
    else naturalWidthFrom (line ++ [c]) rest

/-- The width that a text asks for, that of its widest line. -/
def naturalWidth (cs : List Char) : Nat :=
  naturalWidthFrom [] cs

/-! ## §2. Widths of columns -/

/-- The width of the widest text of a column. -/
def columnWidth (cells : List (List Char)) : Nat :=
  cells.foldl (fun width cell => max width (naturalWidth cell)) 0

/-- The widths of the columns of rows that have a cell for each column. -/
def columnWidths : (columns : Nat) → List (List (List Char)) → List Nat
  | 0, _ => []
  | columns + 1, rows =>
    columnWidth (rows.map fun row => row.headD []) :: columnWidths columns (rows.map List.tail)

/-- The width that columns have together. -/
def total (widths : List Nat) : Nat :=
  widths.foldl (fun sum width => sum + width) 0

/-- The width of a column with a blank on either side, where there is so much space for it. -/
def padded (space natural : Nat) : Nat :=
  if space < 3 then space else min (natural + 2) space

/-- Take columns away from each of the widest columns of a table: an even share of what is too
much, and no more than a number. -/
def narrow (widest most : Nat) : (excess sharing : Nat) → List Nat → List Nat
  | _, _, [] => []
  | excess, sharing, width :: rest =>
    if width = widest then
      let less := min most (Text.Scientific.roundDiv excess sharing)
      (width - less) :: narrow widest most (excess - less) (sharing - 1) rest
    else width :: narrow widest most excess sharing rest

/-- Make the widest columns narrower, down to the next ones, until all fit into a space.  One unit
of fuel is enough for each column that has to go. -/
def collapse (space : Nat) : (fuel : Nat) → List Nat → List Nat
  | 0, widths => widths
  | fuel + 1, widths =>
    let excess := total widths - space
    if excess = 0 then widths
    else
      let widest := widths.foldl max 0
      let next := (widths.filter (· < widest)).foldl max 0
      collapse space fuel
        (narrow widest (min excess (widest - next)) excess (widths.count widest) widths)

/-- **The widths of columns in a space**, the blanks beside the cells included. -/
def fitted (space : Nat) (naturals : List Nat) : List Nat :=
  let widths := naturals.map fun natural => max 1 (padded space natural)
  if total widths ≤ space then widths
  else ((collapse space (total widths) widths).zip naturals).map fun (width, natural) =>
    padded width natural

/-- The width of the borders between and beside columns. -/
def borders (columns : Nat) : Nat := columns + 1

/-! ## §3. Lines of texts -/

/-- **A line of a text**: what is shown of it, and the place and the number of the characters that
it was made of. -/
structure Line where
  /-- What is shown. -/
  chars : List Char
  /-- Where it starts. -/
  start : Nat
  /-- The number of its characters. -/
  size : Nat
  deriving DecidableEq, Repr, Inhabited

/-- Put lines that follow each other from a place on in their places, each as it is shown. -/
def placedFrom (shownLine : List Char → Except Text.CutError (List Char)) :
    (start : Nat) → List (List Char) → Except Text.CutError (List Line)
  | _, [] => .ok []
  | start, line :: rest => do
    let chars ← shownLine line
    let lines ← placedFrom shownLine (start + line.length) rest
    return { chars, start, size := line.length } :: lines

/-- The lines of pieces of a text, between which it has line feeds. -/
def piecesFrom (columns : Nat) (long : Text.LongWord)
    (shownLine : List Char → Except Text.CutError (List Char)) :
    (start : Nat) → List (List Char) → Except Text.CutError (List Line)
  | _, [] => .ok []
  | start, piece :: rest => do
    let lines ← placedFrom (fun line => shownLine (Text.cropEnd columns line)) start
      (Text.brokenLines columns long piece)
    let others ← piecesFrom columns long shownLine (start + piece.length + 1) rest
    return lines ++ others

/-- A text with blanks in the place of its tabs. -/
def untabbed (cs : List Char) : List Char :=
  Text.join ['\n'] ((Text.pieces ['\n'] cs).map Text.expandTabs)

/-- Is a fault in the text of a line, as far as that is shown? -/
def Line.has (line : Line) (fault : Markup.Fault) : Bool :=
  let start := max fault.start line.start
  start < min fault.stop (line.start + line.size)
    && (line.size ≤ line.chars.length || start < line.start + line.chars.length)

/-- Does a fault come to light in lines?  A text of one line may have it between two characters. -/
def isSeen (hasTabs : Bool) (lines : List Line) (fault : Markup.Fault) : Bool :=
  match hasTabs, lines with
  | false, [line] => line.size ≤ line.chars.length || fault.start < line.chars.length
  | _, _ => lines.any (·.has fault)

/-- A fault in a text with tabs, in the one without them. -/
def untabbedFault (cs : List Char) (fault : Markup.Fault) : Markup.Fault :=
  let place (n : Nat) : Nat := (untabbed (cs.take n)).length
  { fault with start := place fault.start, stop := place fault.stop }

/-- **The lines of a text** in a number of columns, if none of its faults comes to light. -/
def linesOf (columns : Nat) (long : Text.LongWord)
    (shownLine : List Char → Except Text.CutError (List Char)) (text : Markup.Shown) :
    Except PrintError (List (List Char)) := do
  let lines ← (piecesFrom columns long shownLine 0
    (Text.pieces ['\n'] (untabbed text.chars))).mapError PrintError.cut
  let faults := text.faults.map (untabbedFault text.chars)
  match faults.find? (isSeen (text.chars.contains '\t') lines) with
  | some fault => .error (.style fault.error)
  | none => return lines.map (·.chars)

/-! ## §4. Cells and titles -/

/-- A line in which dots are in the place of what does not fit. -/
def ellipsed (columns : Nat) (line : List Char) : Except Text.CutError (List Char) :=
  if columns < Text.width line then (Text.sized (columns - 1) line).map (· ++ ['…']) else .ok line

/-- A line with blanks after it, up to a number of columns. -/
def filled (columns : Nat) (line : List Char) : List Char :=
  line ++ Text.blanks (columns - Text.width line)

/-- The pieces of a line of a cell, with a blank on either side.  A joiner at an end takes in what
is put after it, so the line is made to fit more than once. -/
def cellPieces (width : Nat) (line : List Char) : Except Text.CutError (List (List Char)) := do
  let columns := width - 2
  let line ← ellipsed columns (filled columns line)
  let pieces ← Text.adjusted columns [line]
  let pieces ← Text.adjusted width ([' '] :: (pieces ++ [[' ']]))
  Text.adjusted width pieces

/-- The lines of a cell in a column, with a blank on either side; a column that is too narrow for
these has none. -/
def cellLines (width : Nat) (cell : Markup.Shown) :
    Except PrintError (List (List (List Char))) := do
  if width < 3 then return []
  else
    let lines ← linesOf (width - 2) .keep (ellipsed (width - 2)) cell
    (lines.mapM (cellPieces width)).mapError PrintError.cut

/-- A line of a title, without blanks at its end. -/
def titleLine (width : Nat) (line : List Char) : Except Text.CutError (List Char) :=
  let line := Text.stripEnd line
  if width < Text.width line then Text.sized width line else .ok line

/-- A line centred over a width; what does not fit is cut off. -/
def centred (width : Nat) (line : List Char) : Except Text.CutError (List Char) :=
  let line := filled width (Text.blanks ((width - Text.width line) / 2) ++ line)
  if width < Text.width line then Text.sized width line else .ok line

/-- The lines of a title over a table of a width. -/
def titleLines (width : Nat) (title : Markup.Shown) :
    Except PrintError (List (List (List Char))) := do
  let lines ← linesOf width .fold (titleLine width) title
  (lines.mapM fun line => (centred width line).map ([·])).mapError PrintError.cut

/-! ## §5. Rows -/

/-- The signs of a ruled line: at its left end, between columns, at its right end, and along. -/
structure Rule where
  left : Char
  between : Char
  right : Char
  along : Char
  deriving DecidableEq, Repr

/-- The line above the head. -/
def top : Rule := ⟨'┏', '┳', '┓', '━'⟩

/-- The line between head and body. -/
def middle : Rule := ⟨'┡', '╇', '┩', '━'⟩

/-- The line below the body. -/
def bottom : Rule := ⟨'└', '┴', '┘', '─'⟩

/-- A ruled line over columns. -/
def Rule.line (rule : Rule) (widths : List Nat) : List Char :=
  rule.left :: (Text.join [rule.between] (widths.map fun width =>
    List.replicate width rule.along) ++ [rule.right])

/-- A line of the pieces of cells, with a bar on either side of each. -/
def barLine (bar : Char) (cells : List (List (List Char))) : List (List Char) :=
  [bar] :: cells.flatMap fun pieces => pieces ++ [[bar]]

/-- The lines of a row: as many as its highest cell has, and at least one, with blanks below the
others. -/
def rowLines (bar : Char) (widths : List Nat) (row : List Markup.Shown) :
    Except PrintError (List (List (List Char))) := do
  let columns ← (widths.zip row).mapM fun (width, cell) =>
    (cellLines width cell).map fun lines => (width, lines)
  let height := columns.foldl (fun height column => max height column.2.length) 1
  return (List.range height).map fun i =>
    barLine bar (columns.map fun (width, lines) => lines.getD i [Text.blanks width])

/-! ## §6. Tables -/

/-- The lines of a table of shown texts, in pieces: its title, its head, and its rows. -/
def lines (terminal : Nat) (title : Markup.Shown) (head : List Markup.Shown)
    (rows : List (List Markup.Shown)) : Except PrintError (List (List (List Char))) := do
  let borders := borders head.length
  let widths := fitted (terminal - borders)
    (columnWidths head.length ((head :: rows).map (·.map (·.chars))))
  let titleLines ← titleLines (total widths + borders) title
  let headLines ← rowLines '┃' widths head
  let bodyLines ← rows.mapM (rowLines '│' widths)
  return titleLines ++ [[top.line widths]] ++ headLines ++ [[middle.line widths]]
    ++ bodyLines.flatten ++ [[bottom.line widths]]

/-- Lines in pieces, each of them ended, on a terminal of a width. -/
def print (terminal : Nat) (lines : List (List (List Char))) : Except PrintError String := do
  let lines ← (lines.mapM (Text.cropped terminal)).mapError PrintError.cut
  return String.ofList (lines.flatMap fun pieces => pieces.flatten ++ ['\n'])

/-- What is shown of a cell in a space for all columns; if there is none for it, it is not looked
at. -/
def shownCell (space : Nat) (cell : String) : Except PrintError Markup.Shown :=
  if space < 3 then .ok {} else Markup.shown cell.toList

/-- **A table** on a terminal of a width: its title, its head, and its rows.  The title is looked
at after the cells, and drawn before them. -/
def render (terminal : Nat) (title : String) (head : List String) (rows : List (List String)) :
    Except PrintError String := do
  let space := terminal - borders head.length
  let head ← head.mapM (shownCell space)
  let rows ← rows.mapM (·.mapM (shownCell space))
  let title ← Markup.shown title.toList
  print terminal (← lines terminal title head rows)

end OrderBy.Command.Table
