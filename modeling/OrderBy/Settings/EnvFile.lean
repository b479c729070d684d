/-
  OrderBy.Settings.EnvFile — files of settings.

  A file holds bindings `NAME=value`, one to a line.  The word `export` may
  stand before a name, and blanks around the name and the value.  A value in
  single or double quotes is taken between them, with the escapes of its kind;
  any other value ends with its line or before a blank and `#`, and is
  trimmed.  A line that starts with `#` is a comment, and so is the rest of a
  line from `#` after a binding.  A name without `=` is bound to nothing.

  In a value, a dollar sign and a name in braces stand for what the name was
  bound to before, or else for the environment variable of that name; after a
  colon and a dash, the braces may hold what stands there if it is neither.

  A line that is none of this is passed over, and so is a byte order mark at
  the very start.  Bindings and references are read with fuel, one unit for
  each character, which no file can use up.
-/
import OrderBy.Assignments
import OrderBy.Text.Blank
import OrderBy.Text.Split

namespace OrderBy.Settings.EnvFile

open Text (isBlank stripEnd)

/-! ## §1. Lines and blanks -/

/-- Drop the blanks before the next character of the line. -/
def skipInline (cs : List Char) : List Char :=
  cs.dropWhile fun c => isBlank c && c != '\n'

/-- What follows the line. -/
def nextLine (cs : List Char) : List Char :=
  (cs.dropWhile (· != '\n')).drop 1

/-- The end of a binding: blanks and a comment may stand before the end of the line. -/
def endOfLine? (cs : List Char) : Option (List Char) :=
  match skipInline cs with
  | [] => some []
  | '\n' :: rest => some rest
  | '#' :: rest => some (nextLine rest)
  | _ => none

/-! ## §2. Values -/

/-- The body of a quoted value, up to its closing quote, and what follows.  A backslash takes
the next character along, so a quote after it does not close the value. -/
def quotedBody (quote : Char) : List Char → Option (List Char × List Char)
  | '\\' :: c :: rest =>
    (quotedBody quote rest).map fun (body, after) => ('\\' :: c :: body, after)
  | c :: rest =>
    if c = quote then some ([], rest)
    else (quotedBody quote rest).map fun (body, after) => (c :: body, after)
  | [] => none

/-- The escapes between single quotes. -/
def singleEscapes : List (Char × Char) :=
  [('\\', '\\'), ('\'', '\'')]

/-- The escapes between double quotes. -/
def doubleEscapes : List (Char × Char) :=
  [('\\', '\\'), ('\'', '\''), ('"', '"'), ('a', '\x07'), ('b', '\x08'), ('f', '\x0c'),
   ('n', '\n'), ('r', '\r'), ('t', '\t'), ('v', '\x0b')]

/-- Put the characters that escapes stand for in their place. -/
def unescape (escapes : List (Char × Char)) : List Char → List Char
  | '\\' :: c :: rest =>
    match escapes.lookup c with
    | some e => e :: unescape escapes rest
    | none => '\\' :: unescape escapes (c :: rest)
  | c :: rest => c :: unescape escapes rest
  | [] => []

/-- What stands before the first blanks that a `#` follows. -/
def cutComment : List Char → List Char
  | [] => []
  | c :: rest =>
    if isBlank c && (rest.dropWhile isBlank).head? == some '#' then [] else c :: cutComment rest

/-- **Read a value**, and what follows it; nothing for a quote that is not closed. -/
def value? (cs : List Char) : Option (List Char × List Char) :=
  match cs with
  | '\'' :: rest =>
    (quotedBody '\'' rest).map fun (body, after) => (unescape singleEscapes body, after)
  | '"' :: rest =>
    (quotedBody '"' rest).map fun (body, after) => (unescape doubleEscapes body, after)
  | _ => some (stripEnd (cutComment (cs.takeWhile (· != '\n'))), cs.dropWhile (· != '\n'))

/-- Read the value after an equals sign: an empty one where nothing but a comment follows. -/
def valueOf? (cs : List Char) : Option (List Char × List Char) :=
  let start := skipInline cs
  if start.head? == some '#' && start.length < cs.length then some ([], start) else value? start

/-! ## §3. Bindings -/

/-- Drop the word `export` with the blanks after it. -/
def skipExport (cs : List Char) : List Char :=
  if "export".toList.isPrefixOf cs then
    let after := cs.drop 6
    let rest := skipInline after
    if rest.length < after.length then rest else cs
  else cs

/-- Read a name, and what follows it: no name before a comment, and nothing where no name can
be. -/
def name? (cs : List Char) : Option (Option String × List Char) :=
  match cs with
  | '#' :: _ => some (none, cs)
  | '\'' :: rest =>
    let name := rest.takeWhile (· != '\'')
    match rest.dropWhile (· != '\'') with
    | _ :: after => if name.isEmpty then none else some (some (String.ofList name), after)
    | [] => none
  | _ =>
    let inName (c : Char) : Bool := c != '=' && c != '#' && !isBlank c
    let name := cs.takeWhile inName
    if name.isEmpty then none else some (some (String.ofList name), cs.dropWhile inName)

/-- **A binding**: a name, if there is one, and the value it is bound to, if any. -/
abbrev Binding : Type := Option String × Option String

/-- Read a binding at the front of a text, and what follows it; otherwise the text from where
it could not be read on. -/
def binding (cs : List Char) : Except (List Char) (Binding × List Char) :=
  let start := skipExport cs
  match name? start with
  | none => .error start
  | some (name, afterName) =>
    match skipInline afterName with
    | '=' :: rest =>
      match valueOf? rest with
      | none => .error (skipInline rest)
      | some (value, afterValue) =>
        match endOfLine? afterValue with
        | some rest => .ok ((name, some (String.ofList value)), rest)
        | none => .error afterValue
    | rest =>
      match endOfLine? rest with
      | some rest => .ok ((name, none), rest)
      | none => .error rest

/-- The bindings of a text, in order. -/
def bindingsFrom : (fuel : Nat) → List Char → List Binding
  | 0, _ => []
  | fuel + 1, cs =>
    match cs.dropWhile isBlank with
    | [] => []
    | start =>
      match binding start with
      | .ok (found, rest) => found :: bindingsFrom fuel rest
      | .error rest => bindingsFrom fuel (nextLine rest)

/-- Drop a byte order mark. -/
def skipMark : List Char → List Char
  | '\uFEFF' :: rest => rest
  | cs => cs

/-- The bindings of names in a text, in order, with their values as they are written. -/
def namedBindings (text : String) : List (String × Option String) :=
  let cs := Text.unifyLineEnds (skipMark text.toList)
  (bindingsFrom (cs.length + 1) cs).filterMap fun found => found.1.map fun name => (name, found.2)

/-! ## §4. References -/

/-- The reference that stands after a dollar sign: the name in braces, what is given for a name
that is not bound, and what follows. -/
def reference? : List Char → Option (String × List Char × List Char)
  | '\x7b' :: cs =>
    let isInName (c : Char) : Bool := c != ':' && c != '\x7d'
    let name := String.ofList (cs.takeWhile isInName)
    match cs.dropWhile isInName with
    | '\x7d' :: rest => some (name, [], rest)
    | ':' :: '-' :: cs =>
      match cs.dropWhile (· != '\x7d') with
      | _ :: rest => some (name, cs.takeWhile (· != '\x7d'), rest)
      | [] => none
    | _ => none
  | _ => none

/-- The names that a text may refer to. -/
def referredNames : List Char → List String
  | [] => []
  | c :: cs =>
    (if c = '$' then ((reference? cs).map (·.1)).toList else []) ++ referredNames cs

/-- Put the values of names in the place of references. -/
def substituteFrom (value? : String → Option (List Char)) :
    (fuel : Nat) → List Char → List Char
  | 0, cs => cs
  | _ + 1, [] => []
  | fuel + 1, c :: cs =>
    if c ≠ '$' then c :: substituteFrom value? fuel cs
    else
      match reference? cs with
      | none => c :: substituteFrom value? fuel cs
      | some (name, otherwise, rest) =>
        (value? name).getD otherwise ++ substituteFrom value? fuel rest

/-- What a name stands for, by the bindings before it and else by the environment. -/
def meaning? (environment : List (String × String)) (bound : List (String × Option String))
    (name : String) : Option (List Char) :=
  match bound.lookup name with
  | some value => some ((value.map String.toList).getD [])
  | none => (environment.lookup name).map String.toList

/-- Put values in the place of the references of a value. -/
def substitute (environment : List (String × String)) (bound : List (String × Option String))
    (value : String) : String :=
  let cs := value.toList
  String.ofList (substituteFrom (meaning? environment bound) cs.length cs)

/-- Bind names in order, each to its last value, in which references stand for what was bound
before. -/
def bind (environment : List (String × String)) (bound : List (String × Option String)) :
    List (String × Option String) → List (String × Option String)
  | [] => bound
  | (name, value) :: rest =>
    bind environment
      (Assignments.assign name (value.map (substitute environment bound)) bound) rest

/-- **The names bound in a file**, in order, each with the value it was bound to last. -/
def read (environment : List (String × String)) (text : String) : List (String × Option String) :=
  bind environment [] (namedBindings text)

end OrderBy.Settings.EnvFile
