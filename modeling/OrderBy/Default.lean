/-
  OrderBy.Default — default sorts of a parameter.

  A default is declared once and built on every request.  What is declared is
  kept unchecked: `DefaultSort` holds properties and a direction as they were
  given, and `DefaultSort.toSorting` is the first to look at them.  So a bad
  direction of a default without properties is never noticed, and of several
  bad parts the first one in the order of the clauses is reported.
-/
import OrderBy.Sorting

namespace OrderBy

/-! ## §1. One default -/

/-- **Properties that share a direction**, as given and unchecked. -/
structure DefaultSort where
  /-- The properties. -/
  properties : List Json := []
  /-- The direction of all of them. -/
  direction : DirectionChoice := .known .asc
  deriving Repr, Inhabited

namespace DefaultSort

/-- A default of a value that lists its properties; a text is one property. -/
def ofJson (properties : Json) (direction : DirectionChoice) : Except SortError DefaultSort :=
  match properties.items? with
  | some properties => .ok { properties, direction }
  | none => .error (.notListed properties)

/-- **Build the sort of a default.** -/
def toSorting (d : DefaultSort) : Except SortError Sorting :=
  Sorting.ofProperties d.properties d.direction

end DefaultSort

/-! ## §2. The default of a parameter -/

/-- **What a parameter declares as its default.** -/
inductive ParameterDefault where
  /-- No default. -/
  | nothing
  /-- A sort. -/
  | sorting (s : Sorting)
  /-- Properties that share a direction. -/
  | single (d : DefaultSort)
  /-- Several of those, one after another. -/
  | several (ds : List DefaultSort)
  deriving Repr, Inhabited

namespace ParameterDefault

/-- Is a default declared, be it an empty one? -/
def isDeclared : ParameterDefault → Bool
  | .nothing => false
  | _ => true

/-- **Build the sort of a declared default**; without one it is unsorted. -/
def toSorting : ParameterDefault → Except SortError Sorting
  | .nothing => .ok .unsorted
  | .sorting s => .ok s
  | .single d => d.toSorting
  | .several ds => (ds.mapM DefaultSort.toSorting).map fun built => Sorting.merge (built.map some)

end ParameterDefault

/-- **A sort parameter**: the qualifier of its name, and its default. -/
structure Parameter where
  /-- What tells the parameter from the others of a request. -/
  qualifier : Option String := none
  /-- The default. -/
  default : ParameterDefault := .nothing
  deriving Repr, Inhabited

/-- The default sort of a parameter, if it has any clause. -/
def Parameter.defaultSorting (p : Parameter) : Except SortError (Option Sorting) :=
  p.default.toSorting.map fun s => if s.isSorted then some s else none

/-! ## §3. Defaults yet to be built -/

/-- **A default in parts**: what `ParameterDefault` is built from. -/
inductive DefaultParts where
  /-- No default. -/
  | nothing
  /-- The clauses of a sort. -/
  | clauses (pairs : List (Json × DirectionChoice))
  /-- A value that lists properties, and their direction. -/
  | single (properties : Json) (direction : DirectionChoice)
  /-- Several of those. -/
  | several (parts : List (Json × DirectionChoice))
  deriving Repr, Inhabited

/-- Build a default; only its clauses and its lists of properties are looked at. -/
def DefaultParts.build : DefaultParts → Except SortError ParameterDefault
  | .nothing => .ok .nothing
  | .clauses pairs => (Sorting.ofPairs pairs).map .sorting
  | .single properties direction => (DefaultSort.ofJson properties direction).map .single
  | .several parts =>
    (parts.mapM fun part => DefaultSort.ofJson part.1 part.2).map .several

end OrderBy
