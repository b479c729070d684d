/-
  OrderBy.Validation — issues found in given values.

  A check of several values does not stop at the first bad one: it gathers an
  issue for each, in the order of the values.  An issue says what is wrong and
  where, the place being a path of names and positions.
-/

namespace OrderBy

/-! ## §1. Issues -/

/-- One step of the path to a value. -/
inductive Place where
  /-- The value of a name. -/
  | member (name : String)
  /-- The value at a position. -/
  | item (index : Nat)
  deriving DecidableEq, Repr

/-- **What is wrong with a value.** -/
inductive Problem where
  /-- The value is not given. -/
  | missing
  /-- The value is no text. -/
  | notText
  /-- The value is no list. -/
  | notList
  /-- The value is no object of a schema. -/
  | notObject (schema : String)
  /-- The value is none of the words allowed. -/
  | notOneOf (words : List String)
  /-- The text must not be empty. -/
  | emptyText (field : String)
  deriving DecidableEq, Repr

namespace Problem

/-- The short code of a problem. -/
def code : Problem → String
  | .missing => "missing"
  | .notText => "string_type"
  | .notList => "list_type"
  | .notObject _ => "model_type"
  | .notOneOf _ => "enum"
  | .emptyText _ => "value_error"

/-- Words between quotes, with commas and a last "or". -/
def alternatives : List String → String
  | [] => ""
  | [word] => "'" ++ word ++ "'"
  | [word, last] => "'" ++ word ++ "' or '" ++ last ++ "'"
  | word :: rest => "'" ++ word ++ "', " ++ alternatives rest

/-- **The wording of a problem.** -/
def message : Problem → String
  | .missing => "Field required"
  | .notText => "Input should be a valid string"
  | .notList => "Input should be a valid list"
  | .notObject schema => "Input should be a valid dictionary or instance of " ++ schema
  | .notOneOf words => "Input should be " ++ alternatives words
  | .emptyText field => "Value error, " ++ field ++ " must not be empty"

end Problem

/-- **A problem and the path to the value that has it.** -/
structure Issue where
  /-- What is wrong. -/
  problem : Problem
  /-- Where, from the outside in. -/
  location : List Place := []
  deriving DecidableEq, Repr

/-- An issue seen from one step further out. -/
def Issue.under (place : Place) (issue : Issue) : Issue :=
  { issue with location := place :: issue.location }

/-! ## §2. Checks that gather issues -/

/-- **A checked value, or all issues found.** -/
abbrev Validated (α : Type) : Type := Except (List Issue) α

namespace Validated

variable {α β : Type}

/-- One problem of the value itself. -/
def refuse (problem : Problem) : Validated α := .error [{ problem }]

/-- The issues found. -/
def issues : Validated α → List Issue
  | .ok _ => []
  | .error found => found

/-- Look at a check from one step further out. -/
def under (place : Place) (check : Validated α) : Validated α :=
  check.mapError (·.map (·.under place))

/-- Apply a checked function to a checked value; the issues of both are kept. -/
def apply (f : Validated (α → β)) (x : Validated α) : Validated β :=
  match f, x with
  | .ok f, .ok x => .ok (f x)
  | f, x => .error (f.issues ++ x.issues)

/-- Check the values of a list, the first of which stands at a given position. -/
def eachFrom (check : α → Validated β) : (position : Nat) → List α → Validated (List β)
  | _, [] => .ok []
  | position, value :: rest =>
    apply (((check value).under (.item position)).map List.cons)
      (eachFrom check (position + 1) rest)

/-- Check all values of a list. -/
def each (check : α → Validated β) (values : List α) : Validated (List β) :=
  eachFrom check 0 values

end Validated

end OrderBy
