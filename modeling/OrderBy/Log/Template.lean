/-
  OrderBy.Log.Template — templates of logged lines.

  A template is a text with directives `%(name)-8.3s`: a percent sign, the
  name of a field in parentheses, flags, a least width, a precision, and a
  letter that says how the field is written.  Two percent signs stand for one.

  A template is accepted when some directive occurs in it (`isValid`); the
  rest is only read when a line is written (`render`), and a line is not
  written when a directive names no field or cannot be written.  The two
  readings differ: a template may be accepted for a directive in letters or
  digits that no line can be written with, and a line may have a directive
  without a name, which stands for the record as a whole.  There can only be
  one of those, in front of all that name a field.
-/
import OrderBy.Log.Directive
import OrderBy.Text.Word

namespace OrderBy.Log.Template

/-! ## §1. Accepted templates -/

/-- A flag of a directive. -/
def isFlag (c : Char) : Bool :=
  c == '#' || c == '0' || c == '+' || c == ' ' || c == '-'

/-- The letters that say how a field is written, in either case.  Three letters beyond ASCII
are taken for an i or an s. -/
def isConversion (c : Char) : Bool :=
  "diouxefgcrsa%".toList.contains c.toLower || c == 'ı' || c == 'İ' || c == 'ſ'

/-- Drop a number, or a star in place of one. -/
def skipCount : List Char → List Char
  | '*' :: rest => rest
  | cs => cs.dropWhile Text.isDecimalDigit

/-- Does a directive end here, from its flags on? -/
def endsDirective (cs : List Char) : Bool :=
  let afterWidth := skipCount (cs.dropWhile isFlag)
  let afterPrecision := match afterWidth with
    | '.' :: rest => if (skipCount rest).length < rest.length then skipCount rest else afterWidth
    | _ => afterWidth
  (afterPrecision.head?.map isConversion).getD false

/-- Does a directive start here? -/
def startsDirective : List Char → Bool
  | '%' :: '(' :: rest =>
    match rest.dropWhile Text.isWordChar with
    | ')' :: after => (rest.head?.map Text.isWordChar).getD false && endsDirective after
    | _ => false
  | _ => false

/-- Does a directive start somewhere? -/
def hasDirective : List Char → Bool
  | [] => false
  | c :: rest => startsDirective (c :: rest) || hasDirective rest

/-- **A template is accepted** when it has a directive. -/
def isValid (template : String) : Bool :=
  hasDirective template.toList

/-! ## §2. Writing a line -/

/-- Where the writer of a line stands in the template. -/
inductive State where
  /-- Between directives. -/
  | literal
  /-- After a percent sign. -/
  | start
  /-- Inside the name of a field. -/
  | name (read : List Char)
  /-- Among the flags. -/
  | flags (d : Directive)
  /-- Inside the width. -/
  | width (d : Directive)
  /-- Inside the precision. -/
  | precision (d : Directive)
  /-- Before the letter. -/
  | letter (d : Directive)
  deriving DecidableEq, Repr

/-- A number with one more digit. -/
def addDigit (n : Nat) (c : Char) : Nat := n * 10 + (c.toNat - '0'.toNat)

/-- A letter that may stand before the letter of a directive and says nothing. -/
def isModifier (c : Char) : Bool :=
  c == 'h' || c == 'l' || c == 'L'

/-- The state after a character that follows the precision; nothing if it ends the
directive. -/
def State.afterPrecision? (d : Directive) (c : Char) : Option State :=
  if isModifier c then some (.letter d) else none

/-- The state after a character that follows the width. -/
def State.afterWidth? (d : Directive) (c : Char) : Option State :=
  if c = '.' then some (.precision { d with precision := some 0 })
  else State.afterPrecision? d c

/-- The state after a character that follows a flag. -/
def State.afterFlags? (d : Directive) (c : Char) : Option State :=
  if isFlag c then some (.flags { d with flags := d.flags ++ [c] })
  else if c.isDigit then some (.width { d with width := addDigit 0 c })
  else State.afterWidth? d c

/-- **The state after a character** inside a directive; nothing if the character ends it. -/
def State.next? (c : Char) : State → Option State
  | .start => if c = '(' then some (.name []) else State.afterFlags? {} c
  | .name read => some (if c = ')' then .flags { name := some read } else .name (read ++ [c]))
  | .flags d => State.afterFlags? d c
  | .width d =>
    if c.isDigit then some (.width { d with width := addDigit d.width c })
    else State.afterWidth? d c
  | .precision d =>
    if c.isDigit then
      some (.precision { d with precision := some (addDigit (d.precision.getD 0) c) })
    else State.afterPrecision? d c
  | .literal | .letter _ => none

/-- What a directive says that a character ends. -/
def State.directive : State → Directive
  | .flags d | .width d | .precision d | .letter d => d
  | .literal | .start | .name _ => {}

/-- The value that a directive stands for: that of its field, or the one that is left for a
directive without a name. -/
def valueFor (fields : String → Option FieldValue) (left : Option FieldValue) (d : Directive) :
    Option FieldValue :=
  match d.name with
  | some name => fields (String.ofList name)
  | none => left

/-- Write the rest of a line, given the value that is left for a directive without a name. -/
def renderFrom (fields : String → Option FieldValue) :
    (left : Option FieldValue) → State → List Char → Option (List Char)
  | _, .literal, [] => some []
  | _, _, [] => none
  | left, .literal, c :: rest =>
    if c = '%' then renderFrom fields left .start rest
    else (renderFrom fields left .literal rest).map (c :: ·)
  | left, state, c :: rest =>
    if state = .start ∧ c = '%' then (renderFrom fields left .literal rest).map (c :: ·)
    else
      match state.next? c with
      | some state => renderFrom fields left state rest
      | none =>
        let d := state.directive
        match (valueFor fields left d).bind (d.write? c),
            renderFrom fields none .literal rest with
        | some written, some line => some (written ++ line)
        | _, _ => none

/-- **Write a line**: the template with its fields filled in, given the record as a whole. -/
def render (fields : String → Option FieldValue) (record : FieldValue) (template : String) :
    Option String :=
  (renderFrom fields (some record) .literal template.toList).map String.ofList

end OrderBy.Log.Template
