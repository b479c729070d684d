/-
  OrderBy.Direction — ascending and descending, and the words for them.

  A direction is recognised in a text by its word alone: the text is trimmed,
  its letters A to Z are lowered, and the result has to be one of the four
  `Direction.keywords`.  No other character has a lower form that is one of
  the letters of these words, so lowering A to Z is enough.
-/
import OrderBy.Json.Value
import OrderBy.Text.Blank

namespace OrderBy

/-- **The direction of a clause.** -/
inductive Direction where
  /-- Least first. -/
  | asc
  /-- Greatest first. -/
  | desc
  deriving DecidableEq, Repr, Hashable, Inhabited

namespace Direction

/-- The word that stands for a direction in a sort expression. -/
def name : Direction → String
  | .asc => "ASC"
  | .desc => "DESC"

/-- The word that stands for a direction in a schema. -/
def value : Direction → String
  | .asc => "asc"
  | .desc => "desc"

/-- The other direction. -/
def flip : Direction → Direction
  | .asc => .desc
  | .desc => .asc

/-- Is this the ascending direction? -/
def isAscending (d : Direction) : Bool := d == .asc

/-- Is this the descending direction? -/
def isDescending (d : Direction) : Bool := d == .desc

/-- The direction of a schema's word, which is taken exactly. -/
def ofValue? (word : String) : Option Direction :=
  if word = "asc" then some .asc else if word = "desc" then some .desc else none

@[simp] theorem ofValue?_value (d : Direction) : ofValue? d.value = some d := by
  cases d <;> decide

/-! ## Words in a text -/

/-- The words for the directions, in lower case. -/
def keywords : List (List Char × Direction) :=
  [("asc".toList, .asc), ("ascending".toList, .asc), ("desc".toList, .desc),
   ("descending".toList, .desc)]

/-- **The direction a text names**, if it names one. -/
def ofChars? (cs : List Char) : Option Direction :=
  keywords.lookup ((Text.strip cs).map Char.toLower)

/-- The direction a text names. -/
def ofText? (text : String) : Option Direction :=
  ofChars? text.toList

/-- The word written for a direction names it. -/
theorem ofText?_name (d : Direction) : ofText? d.name = some d := by
  cases d <;> decide

end Direction

/-- **A direction as a caller gives it**: one that is known, or a value yet to be read. -/
inductive DirectionChoice where
  /-- A direction. -/
  | known (direction : Direction)
  /-- A value that may name one. -/
  | written (value : Json)
  deriving Repr, Inhabited

end OrderBy
