/-
  OrderBy.Expression.Reader — reading sort expressions.

  A sort expression lists properties with a delimiter between them; a last
  piece that names a direction gives it to all of them (`lastname,firstname,desc`),
  otherwise they are ascending.  A request may repeat the parameter, and each
  value is an expression of its own; the clauses of all of them make the sort.

  Malformed pieces are dropped, each with a record.  A blank or empty value
  gives nothing, not even records, and the delimiter is not looked at; any
  other value that is no text cannot be read.
-/
import OrderBy.Expression.Delimiter
import OrderBy.Sorting
import OrderBy.Traced

namespace OrderBy.Expression

/-! ## §1. One value -/

/-- The pieces that name properties, and the direction they share. -/
def splitDirection (pieces : List (List Char)) : List (List Char) × Direction :=
  match pieces.getLast?.bind Direction.ofChars? with
  | some direction => (pieces.dropLast, direction)
  | none => (pieces, .asc)

/-- Read one piece: its clause, or a record that it was dropped. -/
def readPiece (value : String) (direction : Direction) (piece : List Char) :
    Traced SortError (List Clause) :=
  let property := Text.strip piece
  if isValidProperty property then
    Traced.of ((Clause.make (String.ofList property) direction).map ([·]))
  else do
    Traced.note (.droppedProperty (String.ofList property) value)
    pure []

/-- Read pieces in order. -/
def readPieces (value : String) (direction : Direction) :
    List (List Char) → Traced SortError (List Clause)
  | [] => pure []
  | piece :: rest => do
    let first ← readPiece value direction piece
    let others ← readPieces value direction rest
    pure (first ++ others)

/-- Read a text that is not blank. -/
def readText (delimiter : Delimiter) (value : String) : Traced SortError (List Clause) := do
  let pieces ← Traced.of (delimiter.cut value.toList)
  let (pieces, direction) := splitDirection pieces
  readPieces value direction pieces

/-- **Read one value of a parameter.** -/
def readValue (delimiter : Delimiter) : Json → Traced SortError (List Clause)
  | .text value => if Text.isBlankText value.toList then pure [] else readText delimiter value
  | value => if value.isEmpty then pure [] else Traced.fail (.notText value)

/-! ## §2. All values -/

/-- Read values in order. -/
def readClauses (delimiter : Delimiter) : List Json → Traced SortError (List Clause)
  | [] => pure []
  | value :: rest => do
    let first ← readValue delimiter value
    let others ← readClauses delimiter rest
    pure (first ++ others)

/-- **Read all values of a parameter**: the clauses of the values, in order. -/
def read (delimiter : Delimiter) (values : List Json) : Traced SortError Sorting := do
  let clauses ← readClauses delimiter values
  pure ⟨clauses⟩

/-- Read texts. -/
def readTexts (delimiter : Delimiter) (values : List String) : Traced SortError Sorting :=
  read delimiter (values.map Json.text)

/-- The values in a JSON value: none in an empty one, else what it lists. -/
def valuesOf (source : Json) : Except SortError (List Json) :=
  if source.isEmpty then .ok []
  else
    match source.items? with
    | some values => .ok values
    | none => .error (.notListed source)

/-- Read the values in a JSON value. -/
def readJson (delimiter : Delimiter) (source : Json) : Traced SortError Sorting := do
  let values ← Traced.of (valuesOf source)
  read delimiter values

end OrderBy.Expression
