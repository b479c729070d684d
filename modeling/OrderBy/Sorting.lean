/-
  OrderBy.Sorting — sequences of clauses.

  A sorting lists its clauses by precedence, the first one deciding first.
  The empty sorting is "unsorted".  Sortings are combined by appending; the
  functions that change directions rebuild every clause through
  `Clause.make`.
-/
import OrderBy.Clause

namespace OrderBy

/-- **A sequence of clauses**, the first having the highest precedence. -/
structure Sorting where
  /-- The clauses in order of precedence. -/
  clauses : List Clause := []
  deriving DecidableEq, Repr, Hashable, Inhabited

namespace Sorting

/-! ## §1. Making sortings -/

/-- The sorting with no clause. -/
def unsorted : Sorting := ⟨[]⟩

/-- The sorting of given properties, all in one direction. -/
def ofProperties (properties : List Json) (direction : DirectionChoice) :
    Except SortError Sorting :=
  Sorting.mk <$> properties.mapM fun property => Clause.check property direction

/-- The sorting of properties each with a direction of its own. -/
def ofPairs (pairs : List (Json × DirectionChoice)) : Except SortError Sorting :=
  Sorting.mk <$> pairs.mapM fun pair => Clause.check pair.1 pair.2

/-- Every clause was made by the checking function. -/
def WellFormed (s : Sorting) : Prop :=
  ∀ c ∈ s.clauses, c.WellFormed

/-! ## §2. Asking -/

/-- Has the sorting a clause? -/
def isSorted (s : Sorting) : Bool := !s.clauses.isEmpty

/-- Has the sorting no clause? -/
def isUnsorted (s : Sorting) : Bool := !s.isSorted

/-- The number of clauses. -/
def size (s : Sorting) : Nat := s.clauses.length

/-- The first clause of exactly this property. -/
def clauseFor? (s : Sorting) (property : String) : Option Clause :=
  s.clauses.find? (·.property == property)

/-! ## §3. Combining -/

/-- The clauses of one sorting after those of another. -/
def append (s t : Sorting) : Sorting := ⟨s.clauses ++ t.clauses⟩

instance : Append Sorting := ⟨append⟩

@[simp] theorem clauses_append (s t : Sorting) :
    (s ++ t).clauses = s.clauses ++ t.clauses := rfl

/-- Append a second operand that may be missing, which is an error. -/
def plus (s : Sorting) : Option Sorting → Except SortError Sorting
  | some t => .ok (s ++ t)
  | none => .error .missingOperand

/-- **Merge** sortings in order, leaving out the missing ones. -/
def merge (sortings : List (Option Sorting)) : Sorting :=
  sortings.foldl (fun merged sorting => match sorting with
    | some s => merged ++ s
    | none => merged) unsorted

/-! ## §4. Rebuilding -/

/-- All clauses in one direction. -/
def withDirection (s : Sorting) (direction : Direction) : Except SortError Sorting :=
  Sorting.mk <$> s.clauses.mapM fun c => c.withDirection direction

/-- All clauses ascending. -/
def ascending (s : Sorting) : Except SortError Sorting := s.withDirection .asc

/-- All clauses descending. -/
def descending (s : Sorting) : Except SortError Sorting := s.withDirection .desc

/-- Every clause in its other direction. -/
def flip (s : Sorting) : Except SortError Sorting :=
  Sorting.mk <$> s.clauses.mapM Clause.flip

end Sorting

end OrderBy
