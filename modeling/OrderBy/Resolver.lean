/-
  OrderBy.Resolver — from a request to a sort.

  A resolver knows the name of the sort parameter, the delimiters, and the sort
  of last resort.  A parameter is resolved in three steps: the values the
  request holds under its name are read; the parameter's default is built, even
  when the request gives a sort; and the first of the request's sort, the
  parameter's default and the fallback that has a clause is taken.
-/
import OrderBy.Default
import OrderBy.Expression.Reader
import OrderBy.QueryString

namespace OrderBy

/-! ## §1. The parameters of a request -/

/-- **The parameters of a request.** -/
inductive RequestParameters where
  /-- Pairs in order, in which a name may be repeated. -/
  | pairs (entries : List (String × String))
  /-- One value for each name. -/
  | mapping (entries : List (String × Json))
  deriving Repr, Inhabited

namespace RequestParameters

/-- The parameters of a query string. -/
def ofQuery (query : String) : RequestParameters := .pairs (QueryString.pairs query)

/-- **The values under a name**, in order.  In a mapping, `null` and no entry are no value, a
text is one, and a list its items. -/
def values (name : String) : RequestParameters → Except SortError (List Json)
  | .pairs entries => .ok ((entries.filter (·.1 == name)).map fun entry => .text entry.2)
  | .mapping entries =>
    match Json.lookup name entries with
    | none | some .null => .ok []
    | some value =>
      match value.items? with
      | some values => .ok values
      | none => .error (.notListed value)

end RequestParameters

/-! ## §2. Resolvers -/

/-- **What a parameter is resolved with.** -/
structure Resolver where
  /-- The name of the parameter. -/
  parameter : String := "sort"
  /-- What separates the properties of an expression. -/
  propertyDelimiter : Expression.Delimiter := .comma
  /-- What separates a qualifier from the name. -/
  qualifierDelimiter : String := "_"
  /-- The sort of last resort. -/
  fallback : Sorting := .unsorted
  deriving Repr, Inhabited

namespace Resolver

/-- **The name of a parameter**: its qualifier, if it has one that is not empty, stands in
front. -/
def parameterName (r : Resolver) (qualifier : Option String) : String :=
  match qualifier with
  | some q => if q.isEmpty then r.parameter else q ++ r.qualifierDelimiter ++ r.parameter
  | none => r.parameter

/-- **Resolve values**: their sort if it has a clause, else the given fallback, else the
resolver's own. -/
def resolve (r : Resolver) (values : List Json) (qualifier : Option String)
    (fallback : Option Sorting) : Traced SortError Sorting := do
  let sorting ← Expression.read r.propertyDelimiter values
  if sorting.isUnsorted then do
    Traced.note (.noSort (r.parameterName qualifier))
    pure (fallback.getD r.fallback)
  else pure sorting

/-- Resolve the values in a JSON value. -/
def resolveJson (r : Resolver) (values : Json) (qualifier : Option String)
    (fallback : Option Sorting) : Traced SortError Sorting := do
  let values ← Traced.of (Expression.valuesOf values)
  r.resolve values qualifier fallback

/-- **Resolve a parameter of a request.** -/
def resolveParameter (r : Resolver) (request : RequestParameters) (parameter : Parameter) :
    Traced SortError Sorting := do
  let values ← Traced.of (request.values (r.parameterName parameter.qualifier))
  let fallback ← Traced.of parameter.defaultSorting
  r.resolve values parameter.qualifier fallback

end Resolver

/-! ## §3. Types that are resolved -/

/-- A type as an endpoint declares it. -/
inductive DeclaredType where
  /-- The type of sorts. -/
  | sorting
  /-- A type that extends another one. -/
  | extending (base : DeclaredType)
  /-- Any other type, or no type at all. -/
  | other
  deriving DecidableEq, Repr

/-- Types are resolved when they are the type of sorts or extend it. -/
def DeclaredType.isSupported : DeclaredType → Bool
  | .sorting => true
  | .extending base => base.isSupported
  | .other => false

end OrderBy
