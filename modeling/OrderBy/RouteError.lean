/-
  OrderBy.RouteError — why a route cannot be declared.

  One constructor per cause, those of labels first; `RouteError.message` holds
  the wording of all of them.
-/
import OrderBy.Json.Value

namespace OrderBy

/-- **Why a route cannot be declared.** -/
inductive RouteError where
  /-- A label is a value that has no place in a collection of labels. -/
  | compoundLabel (value : Json)
  /-- A label is no text. -/
  | labelNotText (value : Json)
  /-- A label is empty. -/
  | emptyLabel
  /-- A label is a dot with a number. -/
  | numberedLabel
  /-- A label is not the form of a name, or a reserved one. -/
  | badLabel (label : String)
  /-- The path has a parameter of a kind that does not exist. -/
  | unknownKind (word : String)
  /-- The path gives several parameters one name. -/
  | repeatedNames (names : List String) (path : String)
  /-- The path has a parameter of the name that sort parameters use themselves. -/
  | takenName (name : String)
  deriving Repr, Inhabited

/-- The kinds of cause that callers tell apart. -/
inductive RouteError.Kind where
  /-- A value of the wrong kind. -/
  | badKind
  /-- A position outside a text. -/
  | outside
  /-- A text that is not allowed. -/
  | badText
  /-- Something that must not be. -/
  | mustNotBe
  deriving DecidableEq, Repr

namespace RouteError

/-- The kind of a cause. -/
def kind : RouteError → Kind
  | .compoundLabel _ | .labelNotText _ => .badKind
  | .emptyLabel => .outside
  | .numberedLabel | .badLabel _ | .repeatedNames .. => .badText
  | .unknownKind _ | .takenName _ => .mustNotBe

/-- **The wording of a cause.** -/
def message : RouteError → String
  | .compoundLabel value => "unhashable type: '" ++ value.kindName ++ "'"
  | .labelNotText value => "name must be a str, not a " ++ value.kindName
  | .emptyLabel => "string index out of range"
  | .numberedLabel =>
    "implicit arguments must be passed as positional or keyword arguments, not keyword-only"
  | .badLabel label => (Json.text label).quoted ++ " is not a valid parameter name"
  | .unknownKind word => "Unknown path convertor '" ++ word ++ "'"
  | .repeatedNames names path =>
    "Duplicated param name" ++ (if names.length = 1 then "" else "s") ++ " "
      ++ String.intercalate ", " names ++ " at path " ++ path
  | .takenName name => "Cannot use `SortQuery` for path param " ++ (Json.text name).quoted

end RouteError

end OrderBy
