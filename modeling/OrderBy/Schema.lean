/-
  OrderBy.Schema — sorts as JSON.

  The schema of a sort lists its clauses and says whether there are any.  Read
  from outside it keeps each property as it was written, neither trimmed nor
  checked: the checks are those of `Clause.make` when a schema becomes a sort
  (`SortingSchema.toSorting`).  Members that the schema does not know, and the
  derived `sorted`, are passed over when it is read.
-/
import OrderBy.Json.Writer
import OrderBy.Sorting
import OrderBy.Validation

namespace OrderBy

/-! ## §1. Clauses -/

/-- **A clause as written in JSON.** -/
structure ClauseSchema where
  /-- The property as written. -/
  property : String
  /-- The direction. -/
  direction : Direction := .asc
  deriving DecidableEq, Repr, Inhabited

namespace ClauseSchema

/-- The schema of a clause. -/
def ofClause (c : Clause) : ClauseSchema := ⟨c.property, c.direction⟩

/-- The clause of a schema, if its property is a valid one. -/
def toClause (x : ClauseSchema) : Except SortError Clause :=
  Clause.make x.property x.direction

/-- The JSON value of a schema. -/
def toJson (x : ClauseSchema) : Json :=
  .object [("property", .text x.property), ("direction", .text x.direction.value)]

/-- Check a property: it has to be given, and to be a text. -/
def checkProperty : Option Json → Validated String
  | none => .refuse .missing
  | some (.text s) => .ok s
  | some _ => .refuse .notText

/-- Check a direction: it may be left out, and is one of two words otherwise. -/
def checkDirection : Option Json → Validated Direction
  | none => .ok .asc
  | some value =>
    match value.text?.bind Direction.ofValue? with
    | some direction => .ok direction
    | none => .refuse (.notOneOf ["asc", "desc"])

/-- **Read a clause schema.** -/
def ofJson : Json → Validated ClauseSchema
  | .object members =>
    let property := (checkProperty (Json.lookup "property" members)).under (.member "property")
    let direction :=
      (checkDirection (Json.lookup "direction" members)).under (.member "direction")
    Validated.apply (property.map ClauseSchema.mk) direction
  | _ => .refuse (.notObject "OrderSchema")

end ClauseSchema

/-! ## §2. Sorts -/

/-- **A sort as written in JSON.** -/
structure SortingSchema where
  /-- The clauses as written. -/
  clauses : List ClauseSchema := []
  deriving DecidableEq, Repr, Inhabited

namespace SortingSchema

/-- The schema of a sort. -/
def ofSorting (s : Sorting) : SortingSchema := ⟨s.clauses.map ClauseSchema.ofClause⟩

/-- The sort of a schema, if all its properties are valid. -/
def toSorting (x : SortingSchema) : Except SortError Sorting :=
  Sorting.mk <$> x.clauses.mapM ClauseSchema.toClause

/-- Has the schema a clause? -/
def isSorted (x : SortingSchema) : Bool := !x.clauses.isEmpty

/-- The JSON value of a schema. -/
def toJson (x : SortingSchema) : Json :=
  .object [("orders", .list (x.clauses.map ClauseSchema.toJson)), ("sorted", .bool x.isSorted)]

/-- The JSON text of a schema. -/
def render (x : SortingSchema) : String := x.toJson.render

/-- Check the clauses: they may be left out, and are a list otherwise. -/
def checkClauses : Option Json → Validated (List ClauseSchema)
  | none => .ok []
  | some (.list items) => Validated.each ClauseSchema.ofJson items
  | some _ => .refuse .notList

/-- **Read the schema of a sort.** -/
def ofJson : Json → Validated SortingSchema
  | .object members =>
    ((checkClauses (Json.lookup "orders" members)).under (.member "orders")).map SortingSchema.mk
  | _ => .refuse (.notObject "SortSchema")

end SortingSchema

end OrderBy
