/-
  OrderBy.Expression.Writer — writing sorts as expressions.

  Two encodings: one expression per clause (`encode`), and the folded one
  (`fold`), in which neighbouring clauses of one direction share an
  expression.  Every expression ends in the name of its direction.

  The first one takes any delimiter, by its shown form; folding joins texts,
  so its delimiter has to be a text unless there is nothing to fold.
-/
import OrderBy.Expression.Delimiter
import OrderBy.Sorting

namespace OrderBy.Expression

/-! ## §1. One expression per clause -/

/-- The expression of one clause. -/
def encodeClause (delimiter : Delimiter) (c : Clause) : String :=
  c.property ++ delimiter.shown ++ c.direction.name

/-- **One expression per clause**, in order. -/
def encode (delimiter : Delimiter) (s : Sorting) : List String :=
  s.clauses.map (encodeClause delimiter)

/-- The request parameters of a sort: each expression under one name. -/
def parameters (name : String) (delimiter : Delimiter) (s : Sorting) : List (String × String) :=
  (encode delimiter s).map fun expression => (name, expression)

/-! ## §2. Folded expressions -/

/-- The words of an expression of properties that share a direction. -/
def groupWords (properties : List String) (direction : Direction) : List String :=
  properties ++ [direction.name]

/-- Group the clauses that follow a group under way: its properties so far and its direction. -/
def groupsFrom (properties : List String) (direction : Direction) :
    List Clause → List (List String)
  | [] => [groupWords properties direction]
  | c :: rest =>
    if c.direction = direction then groupsFrom (properties ++ [c.property]) direction rest
    else groupWords properties direction :: groupsFrom [c.property] c.direction rest

/-- The runs of clauses of one direction, each by the words of its expression. -/
def groups (s : Sorting) : List (List String) :=
  match s.clauses with
  | [] => []
  | c :: rest => groupsFrom [c.property] c.direction rest

/-- The expression of words. -/
def encodeGroup (delimiter : String) (group : List String) : String :=
  String.ofList (Text.join delimiter.toList (group.map String.toList))

/-- **One expression per run of clauses of one direction.** -/
def foldWith (delimiter : String) (s : Sorting) : List String :=
  (groups s).map (encodeGroup delimiter)

/-- Fold with any delimiter: one that is no text folds nothing but the sort without clauses. -/
def fold (delimiter : Delimiter) (s : Sorting) : Except SortError (List String) :=
  match delimiter with
  | .text d => .ok (foldWith d s)
  | other => if s.isUnsorted then .ok [] else .error (.cannotJoin other.toJson)

end OrderBy.Expression
