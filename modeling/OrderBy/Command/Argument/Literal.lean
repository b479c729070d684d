/-
  OrderBy.Command.Argument.Literal — arguments that stand for themselves.

  An argument has to be a literal: a number, a text, a word for a value, or a
  series, set or table of literals.  What is in a set, and the keys of a table,
  cannot be sets or tables themselves (`Node.unkeyed?`).

  Literals are checked in the order in which they are written, a key before its
  value; an item is checked itself before it is put into a set.
-/
import OrderBy.Command.Argument.Reader

namespace OrderBy.Command.Argument

/-- **Why a value is no literal.** -/
inductive LiteralProblem where
  /-- A table is in a set, or is a key. -/
  | tableAsKey
  /-- A set is in a set, or is a key. -/
  | setAsKey
  /-- A table is put into another one. -/
  | spreadTable
  /-- It has to be worked out. -/
  | notPlain
  deriving DecidableEq, Repr, Inhabited

/-- The wording of a problem. -/
def LiteralProblem.message : LiteralProblem → String
  | .tableAsKey => "unhashable type: 'dict'"
  | .setAsKey => "unhashable type: 'set'"
  | .spreadTable => "malformed node or string: None"
  | .notPlain => "malformed node or string"

namespace Node

/-- Is a number imaginary? -/
def isImaginary (written : List Char) : Bool :=
  written.getLast? == some 'j' || written.getLast? == some 'J'

/-- Is a node a number, with or without a sign, and imaginary or not? -/
def isNumber (imaginary mayHaveSign : Bool) : Node → Bool
  | mk (.number written) _ => isImaginary written == imaginary
  | mk (.before sign) [mk (.number written) _] =>
    mayHaveSign && (sign == "+" || sign == "-") && isImaginary written == imaginary
  | _ => false

/-- Is a node the call that makes an empty set? -/
def isEmptySet : Node → Bool
  | mk .call [mk (.name name) _] => name == "set".toList
  | _ => false

/-- Why a literal is no item of a set and no key, if so. -/
def unkeyed? : Node → Option LiteralProblem
  | mk .table _ => some .tableAsKey
  | mk .set _ | mk .call _ => some .setAsKey
  | mk .tuple parts => unkeyedIn? parts
  | _ => none
where
  /-- The first reason among nodes. -/
  unkeyedIn? : List Node → Option LiteralProblem
    | [] => none
    | node :: rest =>
      match unkeyed? node with
      | some problem => some problem
      | none => unkeyedIn? rest

/-- Check that a literal can be an item of a set, or a key. -/
def checkKey (node : Node) : Except LiteralProblem Unit :=
  match node.unkeyed? with
  | some problem => .error problem
  | none => .ok ()

/-- **Check that a node is a literal.** -/
def checkLiteral : Node → Except LiteralProblem Unit
  | mk (.number _) _ | mk (.word _) _ | mk .dots _ | mk (.texts _ false) _ => .ok ()
  | mk .tuple parts => checkItems false parts
  | mk .set parts => checkItems true parts
  | mk .table parts => checkEntries parts
  | mk (.between sign) [left, right] =>
    if (sign == "+" || sign == "-") && left.isNumber false true && right.isNumber true false then
      .ok ()
    else .error .notPlain
  | mk (.before sign) parts =>
    let node := mk (.before sign) parts
    if node.isNumber false true || node.isNumber true true then .ok () else .error .notPlain
  | mk shape parts => if (mk shape parts).isEmptySet then .ok () else .error .notPlain
where
  /-- Check the items of a series, or of a set. -/
  checkItems (areKeys : Bool) : List Node → Except LiteralProblem Unit
    | [] => .ok ()
    | node :: rest => do
      checkLiteral node
      if areKeys then node.checkKey
      checkItems areKeys rest
  /-- Check the entries of a table. -/
  checkEntries : List Node → Except LiteralProblem Unit
    | [] => .ok ()
    | mk .entry [key, value] :: rest => do
      checkLiteral key
      checkLiteral value
      key.checkKey
      checkEntries rest
    | _ :: _ => .error .spreadTable

end Node

/-- **Why an argument is no literal.** -/
inductive Error where
  /-- It cannot be read. -/
  | unreadable (cause : Cause)
  /-- It is read, but is no literal. -/
  | noLiteral (problem : LiteralProblem)
  deriving Repr, Inhabited

/-- **Check an argument**: it is read, and is a literal. -/
def check (cs : List Char) : Except Error Unit := do
  let node ← (read cs).mapError Error.unreadable
  node.checkLiteral.mapError Error.noLiteral

end OrderBy.Command.Argument
