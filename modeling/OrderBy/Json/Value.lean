/-
  OrderBy.Json.Value — JSON values.

  The values that requests, settings and schemas are given in.  An object keeps
  its members in the order they were written, repetitions included; a look-up
  answers the last member of a name (`Json.member?`).  A number with a fraction
  or an exponent is kept as it is written, and one that is infinite or no number
  by its word: no rule of the library reckons with one.

  A value has two readings besides its JSON text (`OrderBy.Json.Writer`):
  `Json.display`, the form shown inside messages, and `Json.items?`, the values
  it stands for where a list of values is wanted.
-/
import OrderBy.Text.Quoted
import OrderBy.Text.Split

namespace OrderBy

/-- **A JSON value.** -/
inductive Json where
  /-- The value `null`. -/
  | null
  /-- A truth value. -/
  | bool (b : Bool)
  /-- An integer. -/
  | int (n : Int)
  /-- A number with a fraction or an exponent, as it is written; `inf`, `-inf` and `nan` are the
  words for those that have no digits. -/
  | decimal (written : String)
  /-- A text. -/
  | text (s : String)
  /-- A list of values. -/
  | list (items : List Json)
  /-- An object, by its members in order. -/
  | object (members : List (String × Json))
  deriving Repr, Inhabited

namespace Json

/-! ## §1. Parts -/

/-- The text of a text value. -/
def text? : Json → Option String
  | .text s => some s
  | _ => none

/-- A text that may be missing, as a value. -/
def ofText? : Option String → Json
  | some s => .text s
  | none => .null

/-- The value of the last member of a name. -/
def lookup (name : String) (members : List (String × Json)) : Option Json :=
  members.reverse.lookup name

/-- The member of an object under a name. -/
def member? (name : String) : Json → Option Json
  | .object members => lookup name members
  | _ => none

/-- Is a written number zero?  It is when it has digits, and none of them before its exponent is
anything else. -/
def isZero (written : String) : Bool :=
  written.toList.any Char.isDigit
    && (written.toList.takeWhile fun c => c != 'e' && c != 'E').all fun c =>
      !('1' ≤ c && c ≤ '9')

/-- A value that counts as absent or empty where a value is optional. -/
def isEmpty : Json → Bool
  | .null | .bool false => true
  | .bool true => false
  | .int n => n == 0
  | .decimal written => isZero written
  | .text s => s.isEmpty
  | .list items => items.isEmpty
  | .object members => members.isEmpty

/-! ## §2. The form shown in messages -/

mutual
/-- A value as shown inside a list: texts stand between quotes. -/
def shown : Json → List Char
  | .null => "None".toList
  | .bool true => "True".toList
  | .bool false => "False".toList
  | .int n => (toString n).toList
  | .decimal written => written.toList
  | .text s => Text.Quoted.encode s.toList
  | .list items => '[' :: (Text.join [',', ' '] (shownItems items) ++ [']'])
  | .object members => '\x7b' :: (Text.join [',', ' '] (shownMembers members) ++ ['\x7d'])

/-- The shown forms of the values of a list. -/
def shownItems : List Json → List (List Char)
  | [] => []
  | item :: rest => shown item :: shownItems rest

/-- The shown forms of the members of an object. -/
def shownMembers : List (String × Json) → List (List Char)
  | [] => []
  | (name, value) :: rest =>
    (Text.Quoted.encode name.toList ++ ':' :: ' ' :: shown value) :: shownMembers rest
end

/-- The shown form of a value on its own, with the quotes of a text. -/
def quoted (value : Json) : String :=
  String.ofList value.shown

/-- **The form of a value inside a message**: a text stands for itself. -/
def display : Json → String
  | .text s => s
  | value => value.quoted

/-! ## §3. The values listed -/

/-- The word for what a value is, in messages that refuse it. -/
def kindName : Json → String
  | .null => "NoneType"
  | .bool _ => "bool"
  | .int _ => "int"
  | .decimal _ => "float"
  | .text _ => "str"
  | .list _ => "list"
  | .object _ => "dict"

/-- **The values a value lists**: a text is one value, an object lists its names, and `null`,
truth values and numbers list nothing. -/
def items? : Json → Option (List Json)
  | .null | .bool _ | .int _ | .decimal _ => none
  | .text s => some [.text s]
  | .list items => some items
  | .object members => some (members.map fun member => .text member.1)

end Json

end OrderBy
