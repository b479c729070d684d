/-
  OrderBy.SortError — why a sort cannot be built or read.

  One constructor per cause; `SortError.message` holds the wording of all of
  them.
-/
import OrderBy.Json.Value

namespace OrderBy

/-- **Why a sort cannot be built or read.** -/
inductive SortError where
  /-- A property with no character other than dots and blanks, or one that is no text. -/
  | invalidProperty (value : Json)
  /-- A value that names no direction. -/
  | invalidDirection (value : Json)
  /-- A default given both by properties and as a whole. -/
  | defaultGivenTwice
  /-- A text cannot be cut at an empty delimiter. -/
  | emptyDelimiter
  /-- A text cannot be cut at a value that is neither a text nor `null`. -/
  | badDelimiter (value : Json)
  /-- A value that is no text cannot stand between the properties of an expression. -/
  | cannotJoin (delimiter : Json)
  /-- A value stands where a list of values is wanted. -/
  | notListed (value : Json)
  /-- A value stands where a text is wanted. -/
  | notText (value : Json)
  /-- The second operand of a sum of sorts is missing. -/
  | missingOperand
  deriving Repr, Inhabited

/-- The kinds of cause that callers tell apart. -/
inductive SortError.Kind where
  /-- A clause or a declaration that is not allowed. -/
  | invalidSort
  /-- A text that cannot be cut. -/
  | badText
  /-- An operand of the wrong kind. -/
  | badOperand
  /-- A value that cannot do what a text can. -/
  | lacksOperation
  deriving DecidableEq, Repr

namespace SortError

/-- The kind of a cause. -/
def kind : SortError → Kind
  | .invalidProperty _ | .invalidDirection _ | .defaultGivenTwice => .invalidSort
  | .emptyDelimiter => .badText
  | .badDelimiter _ | .notListed _ | .missingOperand => .badOperand
  | .cannotJoin _ | .notText _ => .lacksOperation

/-- **The wording of a cause.** -/
def message : SortError → String
  | .invalidProperty value => "Invalid order property '" ++ value.display ++ "'"
  | .invalidDirection value =>
    "Invalid value '" ++ value.display
      ++ "' for sort direction, use 'asc' or 'desc' (case insensitive)"
  | .defaultGivenTwice =>
    "Define the default sort either with properties or with the default argument, not both"
  | .emptyDelimiter => "empty separator"
  | .badDelimiter value => "must be str or None, not " ++ value.kindName
  | .cannotJoin delimiter => "'" ++ delimiter.kindName ++ "' object has no attribute 'join'"
  | .notListed value => "'" ++ value.kindName ++ "' object is not iterable"
  | .notText value => "'" ++ value.kindName ++ "' object has no attribute 'strip'"
  | .missingOperand => "unsupported operand type(s) for +: 'Sort' and 'NoneType'"

end SortError

end OrderBy
