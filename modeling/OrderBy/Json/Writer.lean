/-
  OrderBy.Json.Writer — the compact text of a JSON value.

  No blanks between the parts.  Inside a text the quote and the backslash get a
  backslash; backspace, tab, line feed, form feed and carriage return are
  written by their letters, the other characters below U+0020 as `\u00` and two
  lower-case digits, and every other character, U+007F included, stands for
  itself.  A number with a fraction or an exponent is written as it was.
-/
import OrderBy.Json.Value

namespace OrderBy.Json

/-! ## §1. Texts -/

/-- The characters that are escaped by a letter, with their letters. -/
def letterEscapes : List (Char × Char) :=
  [('"', '"'), ('\\', '\\'), ('\x08', 'b'), ('\t', 't'), ('\n', 'n'), ('\x0c', 'f'), ('\r', 'r')]

/-- One character inside a text. -/
def writeChar (c : Char) : List Char :=
  match letterEscapes.lookup c with
  | some letter => ['\\', letter]
  | none =>
    if c.toNat < 0x20 then
      ['\\', 'u', '0', '0', Nat.digitChar (c.toNat / 16), Nat.digitChar (c.toNat % 16)]
    else [c]

/-- A text between quotes. -/
def writeText (cs : List Char) : List Char :=
  '"' :: (cs.flatMap writeChar ++ ['"'])

/-! ## §2. Values -/

mutual
/-- **The compact text of a value.** -/
def write : Json → List Char
  | .null => "null".toList
  | .bool true => "true".toList
  | .bool false => "false".toList
  | .int n => (toString n).toList
  | .decimal written => written.toList
  | .text s => writeText s.toList
  | .list items => '[' :: (Text.join [','] (writeItems items) ++ [']'])
  | .object members => '\x7b' :: (Text.join [','] (writeMembers members) ++ ['\x7d'])

/-- The texts of the values of a list. -/
def writeItems : List Json → List (List Char)
  | [] => []
  | item :: rest => write item :: writeItems rest

/-- The texts of the members of an object. -/
def writeMembers : List (String × Json) → List (List Char)
  | [] => []
  | (name, value) :: rest => (writeText name.toList ++ ':' :: write value) :: writeMembers rest
end

/-- The compact text of a value, as a text. -/
def render (value : Json) : String :=
  String.ofList value.write

example : (Json.object [("a", .list [.text "\n\x01", .null])]).write
    = "\x7b\"a\":[\"\\n\\u0001\",null]\x7d".toList := by decide

end OrderBy.Json
