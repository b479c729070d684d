/-
  OrderBy.Command.Argument.Node — what an argument is made of.

  An argument is read into a tree.  A node has a shape and parts, in the order
  in which they are written; a node that is a single token has no parts.
-/
import OrderBy.Command.Argument.Token

namespace OrderBy.Command.Argument

/-- **The shape of a node.** -/
inductive Shape where
  /-- A name. -/
  | name (text : List Char)
  /-- A number. -/
  | number (text : List Char)
  /-- A text in quotes, as it is written. -/
  | text (written : List Char)
  /-- Texts that follow each other: are they of octets, and may they have fields? -/
  | texts (areOctets haveFields : Bool)
  /-- One of the words that stand for a value. -/
  | word (text : String)
  /-- Three dots. -/
  | dots
  /-- A series in round brackets. -/
  | tuple
  /-- A series in braces. -/
  | set
  /-- A table of entries. -/
  | table
  /-- A key and its value. -/
  | entry
  /-- A table whose entries are put into another one. -/
  | spreadEntry
  /-- A value with a star. -/
  | starred
  /-- A value that is named in passing. -/
  | named
  /-- The member of a value. -/
  | member
  /-- A call. -/
  | call
  /-- The arguments of a call: how many have no name, and is one of them spread out by two
  stars? -/
  | arguments (plain : Nat) (spreads : Bool)
  /-- A named argument. -/
  | namedArgument
  /-- A table of named arguments. -/
  | spreadArguments
  /-- A sign before a value. -/
  | before (sign : String)
  /-- A sign between two values. -/
  | between (sign : String)
  /-- Values that are joined by a word. -/
  | joined
  /-- A comparison, and whether it starts by asking for a member. -/
  | comparison (asksMember : Bool)
  /-- What a value is compared with. -/
  | compared (asksMember : Bool)
  /-- One of two values. -/
  | choice
  /-- A function without a name. -/
  | function
  /-- A series that is made from another one. -/
  | series
  /-- A set that is made from a series. -/
  | setSeries
  /-- A table that is made from a series. -/
  | tableSeries
  /-- A value that is handed out. -/
  | yielded
  /-- A value that is waited for. -/
  | awaited
  deriving DecidableEq, Repr, Inhabited

/-- **A node**: its shape and its parts. -/
inductive Node where
  | mk (shape : Shape) (parts : List Node)
  deriving Repr, Inhabited

namespace Node

/-- The shape of a node. -/
def shape : Node → Shape
  | mk shape _ => shape

/-- The parts of a node. -/
def parts : Node → List Node
  | mk _ parts => parts

/-- A node without parts. -/
def leaf (shape : Shape) : Node := mk shape []

/-- The words for a node. -/
def what (node : Node) : String :=
  match node.shape with
  | .name _ => "name"
  | .word text => text
  | .number _ | .text _ => "literal"
  | .texts _ haveFields => if haveFields then "f-string expression" else "literal"
  | .dots => "ellipsis"
  | .tuple => "tuple"
  | .set => "set display"
  | .table | .entry | .spreadEntry => "dict literal"
  | .starred => "starred"
  | .named => "named expression"
  | .member => "attribute"
  | .call | .arguments _ _ | .namedArgument | .spreadArguments => "function call"
  | .before _ | .between _ | .joined => "expression"
  | .comparison _ | .compared _ => "comparison"
  | .choice => "conditional expression"
  | .function => "lambda"
  | .series => "generator expression"
  | .setSeries => "set comprehension"
  | .tableSeries => "dict comprehension"
  | .yielded => "yield expression"
  | .awaited => "await expression"

/-- The first part of a node to which nothing can be assigned when the node names what a series
goes through. -/
def unassignable? : Node → Option Node
  | mk (.name _) _ | mk .member _ => none
  | mk .tuple parts => unassignableIn parts
  | mk .starred (part :: _) => unassignable? part
  | mk (.comparison true) (part :: _) => unassignable? part
  | mk (.comparison false) _ => none
  | node => some node
where
  /-- The first such part of nodes. -/
  unassignableIn : List Node → Option Node
    | [] => none
    | node :: rest =>
      match unassignable? node with
      | some found => some found
      | none => unassignableIn rest

/-- Is a node an argument without a name? -/
def isPlain (node : Node) : Bool :=
  node.shape != .namedArgument && node.shape != .spreadArguments

/-- The node of the arguments of a call. -/
def ofArguments (nodes : List Node) : Node :=
  mk (.arguments (nodes.countP isPlain) (nodes.any (·.shape == .spreadArguments))) nodes

/-- The node of a comparison. -/
def ofComparison (nodes : List Node) : Node :=
  mk (.comparison ((nodes[1]?.map (·.shape == .compared true)).getD false)) nodes

end Node

end OrderBy.Command.Argument
