/-
  OrderBy.Command.Markup — texts with tags.

  A text that is shown may hold tags, which are words in square brackets and
  are not shown themselves: `[bold]` opens a style, `[/bold]` closes what was
  opened last under that name, and `[/]` what was opened last at all.  A tag
  that is still open at the end does no harm.  A backslash before a tag makes
  it plain text, and two backslashes there stand for one.  In plain text, names
  of signs are put into signs (`OrderBy.Command.Emoji`), and bells, backspaces
  and the like are left out.

  What a style looks like is of no account here: it is drawn without colours.
  But its words are read, and those of a tag with an argument only where the
  text it is for is drawn; so a text may have faults (`Fault`) that come to
  light later.  Texts are read with fuel, one unit for each character.

  A tag that closes another one has to find it open, and the argument of a tag
  that is closed has to be a literal if its name starts with an `@`
  (`MarkupError`).  A text that can be shown may still not be printed: it may
  ask for a style with a number that cannot be read, or start with a joiner, so
  that it cannot be cut to the width of its column (`PrintError`).  Positions
  are counted in characters from the start of the text.
-/
import OrderBy.Command.Argument.Literal
import OrderBy.Command.Emoji
import OrderBy.Command.Style
import OrderBy.Text.Cut

namespace OrderBy.Command

/-! ## §1. Why a text cannot be shown -/

/-- **Why a text with tags cannot be shown.** -/
inductive MarkupError where
  /-- A tag closes one that is not open. -/
  | notOpen (tag : String) (position : Nat)
  /-- A tag closes the last open one, and none is open. -/
  | noneOpen (position : Nat)
  /-- A part of the argument of a tag cannot be read. -/
  | unreadable (part argument : List Char) (cause : Argument.Cause)
  /-- The argument of a tag is no literal. -/
  | noLiteral (argument : List Char) (problem : Argument.LiteralProblem)
  deriving DecidableEq, Repr, Inhabited

/-- A text in quotes. -/
def MarkupError.quoted (cs : List Char) : String := String.ofList (Text.Quoted.encode cs)

/-- **The wording of a cause.** -/
def MarkupError.message : MarkupError → String
  | .notOpen tag position =>
    "closing tag '" ++ tag ++ "' at position " ++ toString position ++ " doesn't match any open tag"
  | .noneOpen position =>
    "closing tag '[/]' at position " ++ toString position ++ " has nothing to close"
  | .unreadable part argument cause =>
    "error parsing " ++ quoted part ++ " in " ++ quoted argument ++ "; " ++ cause.message
  | .noLiteral argument problem =>
    "error parsing " ++ quoted argument ++ "; " ++ problem.message

/-- **Why a sort cannot be printed.** -/
inductive PrintError where
  /-- A text has wrong tags. -/
  | markup (error : MarkupError)
  /-- A text asks for a style with a wrong number. -/
  | style (error : Text.NumberError)
  /-- A text cannot be cut. -/
  | cut (error : Text.CutError)
  deriving DecidableEq, Repr, Inhabited

/-- **The wording of a cause.** -/
def PrintError.message : PrintError → String
  | .markup error => error.message
  | .style error => error.message
  | .cut error => error.message

namespace Markup

/-! ## §2. Tags -/

/-- **A tag**: the name in its brackets, and what follows an equals sign. -/
structure Tag where
  /-- The name, with the slash of a closing tag. -/
  name : List Char
  /-- What follows the equals sign, if there is one. -/
  argument : Option (List Char) := none
  deriving DecidableEq, Repr, Inhabited

/-- The tag of a text in brackets. -/
def Tag.ofText (text : List Char) : Tag where
  name := text.takeWhile (· != '=')
  argument :=
    match text.dropWhile (· != '=') with
    | [] => none
    | _ :: rest => some rest

/-- A tag as it is written. -/
def Tag.written (tag : Tag) : String :=
  String.ofList ('[' :: tag.name
    ++ (match tag.argument with
      | none => []
      | some argument => '=' :: argument)
    ++ [']'])

/-- Can a character be the first one of a tag? -/
def startsTag (c : Char) : Bool :=
  ('a' ≤ c && c ≤ 'z') || c == '#' || c == '/' || c == '@'

/-- The text of the tag whose opening bracket stands before a text, and what follows the closing
one. -/
def bracketed? : List Char → Option (List Char × List Char)
  | [] => none
  | c :: cs =>
    let isInside (c : Char) : Bool := c != '[' && c != ']'
    match cs.dropWhile isInside with
    | ']' :: rest => if startsTag c then some (c :: cs.takeWhile isInside, rest) else none
    | _ => none

/-! ## §3. Parts -/

/-- **A part of a text.** -/
inductive Part where
  /-- Plain text. -/
  | plain (text : List Char)
  /-- A tag, and where it stands. -/
  | tag (position : Nat) (tag : Tag)
  deriving DecidableEq, Repr

/-- Plain text in which a backslash keeps a bracket from being looked at. -/
def unescape : List Char → List Char
  | '\\' :: '[' :: rest => '[' :: unescape rest
  | c :: rest => c :: unescape rest
  | [] => []

/-- A tag after some backslashes that start in a place.  Two of them stand for one; if one is left
over, the tag is plain text. -/
def taggedParts (position backslashes : Nat) (text : List Char) : List Part :=
  let kept := backslashes / 2
  let front := if kept = 0 then [] else [.plain (List.replicate kept '\\')]
  if backslashes % 2 = 0 then front ++ [.tag (position + backslashes) (.ofText text)]
  else front ++ [.plain ('[' :: text ++ [']'])]

/-- The tag at the front of a text after any backslashes, if one stands there: the number of
backslashes, the tag's text, and what follows. -/
def tagged? (cs : List Char) : Option (Nat × List Char × List Char) :=
  match cs.dropWhile (· == '\\') with
  | '[' :: rest =>
    (bracketed? rest).map fun (text, rest) =>
      ((cs.takeWhile (· == '\\')).length, text, rest)
  | _ => none

/-- The parts of a text from a position on, after plain text that was read, last character
first. -/
def partsFrom : (fuel position : Nat) → (read : List Char) → List Char → List Part
  | 0, _, read, cs => [.plain (unescape (read.reverse ++ cs))]
  | _ + 1, _, read, [] => [.plain (unescape read.reverse)]
  | fuel + 1, position, read, c :: cs =>
    match tagged? (c :: cs) with
    | none => partsFrom fuel (position + 1) (c :: read) cs
    | some (backslashes, text, rest) =>
      .plain (unescape read.reverse) :: taggedParts position backslashes text
        ++ partsFrom fuel (position + backslashes + text.length + 2) [] rest

/-- **The parts of a text.** -/
def parts (cs : List Char) : List Part :=
  partsFrom (cs.length + 1) 0 [] cs

/-! ## §4. Arguments -/

/-- The argument of no values. -/
def noArguments : List Char := ['(', ')']

/-- The part of an argument that has to be a literal: what is in brackets after a name, if nothing
else is there, and else all of it.  A name on its own is one without values. -/
def literalPart (argument : List Char) : List Char :=
  let whole := Text.strip argument
  match whole.dropWhile fun c => Text.isWordChar c || c == '.' with
  | [] => noArguments
  | '(' :: rest =>
    if rest.getLast? == some ')' && !rest.contains '\n' then '(' :: rest else whole
  | _ => whole

/-- Check the argument of a tag. -/
def checkArgument (argument : List Char) : Except MarkupError Unit :=
  match Argument.check (literalPart argument) with
  | .ok () => .ok ()
  | .error (.unreadable cause) => .error (.unreadable (literalPart argument) argument cause)
  | .error (.noLiteral problem) => .error (.noLiteral argument problem)

/-! ## §5. Showing -/

/-- **A fault in a text**: from one place up to another, a style is asked for that has a wrong
number. -/
structure Fault where
  /-- Where it starts. -/
  start : Nat
  /-- Where it ends. -/
  stop : Nat
  /-- What is wrong. -/
  error : Text.NumberError
  deriving DecidableEq, Repr, Inhabited

/-- **What is shown of a text with tags.** -/
structure Shown where
  /-- The characters. -/
  chars : List Char := []
  /-- The faults, in their order. -/
  faults : List Fault := []
  deriving DecidableEq, Repr, Inhabited

/-- **An open tag.** -/
structure Opened where
  /-- Its name, in the one form for it. -/
  name : String
  /-- Its argument, if it has one. -/
  argument : Option (List Char)
  /-- Where the text that it is for starts. -/
  start : Nat
  deriving DecidableEq, Repr, Inhabited

/-- Does a tag ask for an action rather than a style? -/
def Opened.isAction (tag : Opened) : Bool := tag.name.startsWith "@"

/-- The words of the style that a tag asks for. -/
def Opened.words (tag : Opened) : List Char :=
  tag.name.toList ++ (tag.argument.elim [] fun argument => ' ' :: argument)

/-- The fault of a tag whose text ends in a place, if it has one. -/
def Opened.fault? (tag : Opened) (stop : Nat) : Option Fault :=
  match Style.read? tag.words with
  | .ok _ => none
  | .error error => some { start := tag.start, stop, error }

/-- The fault of a tag that is closed in a place, if it has one.  That of an action has an argument
that is a literal. -/
def Opened.close (tag : Opened) (stop : Nat) : Except PrintError (Option Fault) :=
  if tag.isAction then
    match tag.argument with
    | none | some [] => .ok none
    | some argument => ((checkArgument argument).map fun _ => none).mapError .markup
  else .ok (tag.fault? stop)

/-- Close the tag that a name stands for, or the last one: the tag, and those still open. -/
def closing (position : Nat) (tag : Tag) (name : List Char) (opened : List Opened) :
    Except PrintError (Opened × List Opened) :=
  if Text.isBlankText name then
    match opened with
    | [] => .error (.markup (.noneOpen position))
    | last :: rest => .ok (last, rest)
  else do
    let name ← (Style.normal name).mapError PrintError.style
    match opened.find? (·.name == name) with
    | some found => return (found, opened.eraseP (·.name == name))
    | none => .error (.markup (.notOpen tag.written position))

/-- The open tags after another tag, that of the last one first, and the fault of the one that it
closes. -/
def turn (position : Nat) (tag : Tag) (length : Nat) (opened : List Opened) :
    Except PrintError (List Opened × Option Fault) :=
  match tag.name with
  | '/' :: name => do
    let (closed, rest) ← closing position tag name opened
    return (rest, ← closed.close length)
  | name => do
    let name ← (Style.normal name).mapError PrintError.style
    return ({ name, argument := tag.argument, start := length } :: opened, none)

/-- The control characters that are not shown. -/
def hidden : List Char := ['\x07', '\x08', '\x0b', '\x0c', '\r']

/-- What is shown of plain text. -/
def plainText (text : List Char) : List Char :=
  (Emoji.replace text).filter (!hidden.contains ·)

/-- What is shown of parts after a number of characters, while tags are open. -/
def shownFrom : (opened : List Opened) → (length : Nat) → List Part → Except PrintError Shown
  | opened, length, [] => .ok { faults := opened.filterMap (·.fault? length) }
  | opened, length, .plain text :: rest =>
    let chars := plainText text
    (shownFrom opened (length + chars.length) rest).map fun shown =>
      { shown with chars := chars ++ shown.chars }
  | opened, length, .tag position tag :: rest =>
    match turn position tag length opened with
    | .error e => .error e
    | .ok (opened, fault) =>
      (shownFrom opened length rest).map fun shown =>
        { shown with faults := fault.toList ++ shown.faults }

/-- **What is shown of a text with tags.**  Of faults that start in one place, the last one comes
first. -/
def shown (cs : List Char) : Except PrintError Shown :=
  (shownFrom [] 0 (parts cs)).map fun shown =>
    { shown with faults := shown.faults.reverse.mergeSort (·.start ≤ ·.start) }

example : ((shown "a[b]c\\[d][/bold]".toList).map (·.chars)).toOption = some "ac[d]".toList := by
  decide +kernel

example : (shown "a[/b]".toList).toOption = none := by decide +kernel

end Markup

end OrderBy.Command
