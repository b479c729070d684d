/-
  OrderBy.Text.Wrap — laying a text out in lines of a width.

  A text is laid out line by line.  A word goes to the next line when it does
  not fit into the columns that are left; a word that fits into no line is
  either cut into pieces or left as it is.  The blanks after a word stay with
  it, and are cut off where they stand beyond the width.
-/
import OrderBy.Text.Blank
import OrderBy.Text.Split
import OrderBy.Text.Width

namespace OrderBy.Text

/-! ## §1. Tabs -/

/-- The columns from one tab stop to the next. -/
def tabStop : Nat := 8

/-- Put blanks between texts that tabs stand between, given the columns in front: one for the tab
itself, and more up to the next tab stop. -/
def joinTabbed (columns : Nat) : List (List Char) → List Char
  | [] => []
  | [last] => last
  | part :: rest =>
    let ended := part ++ [' ']
    let reached := columns + width ended
    let blanks := (tabStop - reached % tabStop) % tabStop
    ended ++ List.replicate blanks ' ' ++ joinTabbed (reached + blanks) rest

/-- **Put blanks in the place of tabs**, up to the next tab stop each. -/
def expandTabs (cs : List Char) : List Char :=
  joinTabbed 0 (pieces ['\t'] cs)

/-! ## §2. Words with their blanks -/

/-- Where in a word with its blanks one stands. -/
inductive WordPart where
  /-- Among the blanks in front, which only the first word has. -/
  | front
  /-- In the word itself. -/
  | word
  /-- Among the blanks behind. -/
  | back
  deriving DecidableEq, Repr

/-- The words of what follows a word under way. -/
def spacedWordsFrom (word : List Char) (part : WordPart) : List Char → List (List Char)
  | [] => [word]
  | c :: rest =>
    if isBlank c then
      spacedWordsFrom (word ++ [c]) (if part = .front then .front else .back) rest
    else if part = .back then word :: spacedWordsFrom [c] .word rest
    else spacedWordsFrom (word ++ [c]) .word rest

/-- **The words of a text**, each with the blanks behind it, and the first one with those in
front. -/
def spacedWords (cs : List Char) : List (List Char) :=
  spacedWordsFrom [] .front cs

/-! ## §3. Breaking into lines -/

/-- What is done with a word that fits into no line. -/
inductive LongWord where
  /-- It is cut into pieces. -/
  | fold
  /-- It is left as it is. -/
  | keep
  deriving DecidableEq, Repr

/-- **Lines under way.** -/
structure Layout where
  /-- The finished lines. -/
  finished : List (List Char) := []
  /-- The last line. -/
  line : List Char := []
  /-- The columns that the words of the last line take. -/
  columns : Nat := 0
  deriving DecidableEq, Repr

namespace Layout

/-- Put a text on a line of its own, the last one if that is the first and empty. -/
def onNewLine (layout : Layout) (cs : List Char) : Layout :=
  if layout.finished.isEmpty && layout.line.isEmpty then
    { layout with line := cs, columns := width cs }
  else { finished := layout.finished ++ [layout.line], line := cs, columns := width cs }

/-- The pieces of clusters, each of which fits into a number of columns, given the piece under
way. -/
def chop (columns : Nat) (piece : Cluster) : List Cluster → List (List Char)
  | [] => if piece.columns = 0 then [] else [piece.chars]
  | cluster :: rest =>
    if columns < piece.columns + cluster.columns then
      piece.chars :: chop columns cluster rest
    else chop columns (piece.join cluster.chars cluster.columns) rest

/-- Put the next word. -/
def put (columns : Nat) (long : LongWord) (layout : Layout) (word : List Char) : Layout :=
  if layout.columns + width (stripEnd word) ≤ columns then
    { layout with line := layout.line ++ word, columns := layout.columns + width word }
  else if columns < width (stripEnd word) ∧ long = .fold then
    (chop columns ⟨[], 0⟩ (clusters word)).foldl onNewLine layout
  else layout.onNewLine word

/-- The lines of a layout. -/
def lines (layout : Layout) : List (List Char) := layout.finished ++ [layout.line]

end Layout

/-- Cut off the blanks at the end of a line that has more characters than it should, but no more
of them than that. -/
def cropEnd (columns : Nat) (cs : List Char) : List Char :=
  let blanks := (cs.reverse.takeWhile isBlank).length
  cs.take (cs.length - min blanks (cs.length - columns))

/-- The lines that one line of a text is broken into, with all of its characters but the tabs. -/
def brokenLines (columns : Nat) (long : LongWord) (cs : List Char) : List (List Char) :=
  ((spacedWords (expandTabs cs)).foldl (Layout.put columns long) {}).lines

/-- Lay out one line of a text. -/
def wrapLine (columns : Nat) (long : LongWord) (cs : List Char) : List (List Char) :=
  (brokenLines columns long cs).map (cropEnd columns)

/-- **Lay out a text** in lines of a number of columns. -/
def wrap (columns : Nat) (long : LongWord) (cs : List Char) : List (List Char) :=
  (pieces ['\n'] cs).flatMap (wrapLine columns long)

end OrderBy.Text
