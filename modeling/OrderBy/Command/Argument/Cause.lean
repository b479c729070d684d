/-
  OrderBy.Command.Argument.Cause — why an argument cannot be read.

  One constructor per cause, in the order of reading: characters, numbers,
  brackets and lines first, then texts, then the order of tokens.
  `Cause.message` holds the wording of all of them.
-/
import OrderBy.Text.Number
import OrderBy.Text.Quoted

namespace OrderBy.Command.Argument

/-- **The form of a number.** -/
inductive NumberForm where
  | decimal
  | imaginary
  | hexadecimal
  | octal
  | binary
  deriving DecidableEq, Repr, Inhabited

/-- The word for a form. -/
def NumberForm.word : NumberForm → String
  | .decimal => "decimal"
  | .imaginary => "imaginary"
  | .hexadecimal => "hexadecimal"
  | .octal => "octal"
  | .binary => "binary"

/-- **What is wrong with an escape** in a text. -/
inductive EscapeProblem where
  /-- It ends before its digits do: `x`, `u` or `U`. -/
  | short (letter : Char)
  /-- Its digits are of no character. -/
  | noCharacter
  /-- It has no name in braces. -/
  | noName
  /-- No character has its name. -/
  | unknownName
  deriving DecidableEq, Repr, Inhabited

/-- The wording of a problem. -/
def EscapeProblem.message : EscapeProblem → String
  | .short 'x' => "truncated \\xXX escape"
  | .short 'u' => "truncated \\uXXXX escape"
  | .short _ => "truncated \\UXXXXXXXX escape"
  | .noCharacter => "illegal Unicode character"
  | .noName => "malformed \\N character escape"
  | .unknownName => "unknown Unicode character name"

/-- **Why an argument cannot be read.** -/
inductive Cause where
  /-- The character that stands for none. -/
  | nullCharacter
  /-- A character that has no place in an argument. -/
  | strayCharacter (c : Char)
  /-- A character that cannot be printed. -/
  | hiddenCharacter (c : Char)
  /-- The end of a text is missing; lines count from one. -/
  | openText (line : Nat)
  /-- The end of a text in three quotes is missing. -/
  | openLongText (line : Nat)
  /-- A number is not written in its form. -/
  | badNumber (form : NumberForm)
  /-- A number has a digit that its form has not. -/
  | badDigit (digit : Char) (form : NumberForm)
  /-- A decimal number starts with zeros. -/
  | leadingZeros
  /-- A number has too many digits. -/
  | longNumber (number : Text.LongNumber)
  /-- Something follows a backslash that goes on with a line. -/
  | afterBackslash
  /-- The argument ends where a line is to go on. -/
  | endOfText
  /-- Too many brackets are open. -/
  | deepBrackets
  /-- A bracket closes none. -/
  | unmatched (closing : Char)
  /-- A bracket closes one of another kind, which is on the given line if that is another line. -/
  | mismatched (closing opening : Char) (line : Option Nat)
  /-- A bracket is not closed. -/
  | neverClosed (opening : Char)
  /-- A line starts further right than the one before it. -/
  | indented
  /-- A text of octets holds other characters. -/
  | wideOctets
  /-- Texts of octets and other texts follow each other. -/
  | mixedTexts
  /-- An escape in a text of characters; the places count from the start of the text. -/
  | badEscape (first last : Nat) (problem : EscapeProblem)
  /-- An escape in a text of octets. -/
  | badOctet (place : Nat)
  /-- Something is wrong in a field of a text. -/
  | inField (cause : Cause)
  /-- A field of a text is not closed. -/
  | openField
  /-- A field of a text is closed that was not opened. -/
  | loneBrace
  /-- A field of a text is empty. -/
  | emptyField
  /-- A field of a text has nothing before its mark. -/
  | bareField (mark : Char)
  /-- A field of a text holds a backslash. -/
  | fieldBackslash
  /-- A field of a text holds a comment. -/
  | fieldComment
  /-- A field of a text holds a text that is not closed. -/
  | fieldText
  /-- Too many brackets are open in a field of a text. -/
  | fieldDepth
  /-- A bracket in a field of a text closes one of another kind. -/
  | fieldMismatch (closing opening : Char)
  /-- A bracket in a field of a text has no partner. -/
  | fieldUnmatched (bracket : Char)
  /-- Fields of texts stand in each other. -/
  | nestedFields
  /-- A field of a text is to be shown in a form that does not exist. -/
  | badConversion
  /-- Tokens do not follow each other as they may. -/
  | unreadable
  /-- Two values follow each other. -/
  | missingComma
  /-- A choice has no second half. -/
  | missingElse
  /-- A statement in the old style, without brackets. -/
  | oldCall (name : List Char)
  /-- A value cannot be named in passing. -/
  | cannotName (what : String)
  /-- A value is set where one is asked for. -/
  | setForEqual
  /-- Something is set that is no name. -/
  | cannotSet (what : String)
  /-- Something is set, where an equation may be meant. -/
  | cannotSetHere (what : String)
  /-- An argument of a call is set that is no name. -/
  | setInCall
  /-- A star has no value after it. -/
  | loneStar
  /-- A star where it has no meaning. -/
  | starHere
  /-- Two stars where they have no meaning. -/
  | doubleStarHere
  /-- A star in the value of a table. -/
  | starInTable
  /-- A series is spread out with a star. -/
  | starInSeries
  /-- A series is spread out with two stars. -/
  | doubleStarInSeries
  /-- A series has several items that are not in brackets. -/
  | bareSeries
  /-- A series among arguments is not in brackets. -/
  | openSeries
  /-- A star among arguments follows two stars. -/
  | starAfterDouble
  /-- A plain argument follows two stars. -/
  | plainAfterDouble
  /-- A plain argument follows a named one. -/
  | plainAfterNamed
  /-- A key of a table has no colon. -/
  | keyWithoutColon
  /-- A key of a table has no value. -/
  | keyWithoutValue
  /-- A parameter without a default follows one with a default. -/
  | plainAfterDefault
  /-- Parameters are in brackets. -/
  | bracketedParameters
  /-- A slash comes first. -/
  | slashFirst
  /-- There are two slashes. -/
  | slashTwice
  /-- A slash follows a star. -/
  | slashAfterStar
  /-- A slash and a star follow each other. -/
  | slashStar
  /-- Nothing follows a star on its own. -/
  | bareStar
  /-- A parameter with a star has a default. -/
  | starDefault
  /-- There are two stars. -/
  | starTwice
  /-- A parameter with two stars has a default. -/
  | doubleStarDefault
  /-- Something follows a parameter with two stars. -/
  | afterDoubleStar
  /-- A default is missing. -/
  | missingDefault
  deriving DecidableEq, Repr, Inhabited

namespace Cause

/-- A code point in at least four hexadecimal digits. -/
def codePoint (c : Char) : String :=
  let width := if c.toNat < 0x10000 then 4 else if c.toNat < 0x100000 then 5 else 6
  "U+" ++ String.ofList ((Text.Quoted.hexDigits width c.toNat).map Char.toUpper)

/-- A character between single quotes. -/
def inQuotes (c : Char) : String := "'" ++ String.ofList [c] ++ "'"

/-- What stands in front of the wording of a cause in a field. -/
def field : String := "f-string: "

/-- **The wording of a cause.** -/
def message : Cause → String
  | .nullCharacter => "source code string cannot contain null bytes"
  | .strayCharacter c => "invalid character " ++ inQuotes c ++ " (" ++ codePoint c ++ ")"
  | .hiddenCharacter c => "invalid non-printable character " ++ codePoint c
  | .openText line => "unterminated string literal (detected at line " ++ toString line ++ ")"
  | .openLongText line =>
    "unterminated triple-quoted string literal (detected at line " ++ toString line ++ ")"
  | .badNumber form => "invalid " ++ form.word ++ " literal"
  | .badDigit digit form =>
    "invalid digit " ++ inQuotes digit ++ " in " ++ form.word ++ " literal"
  | .leadingZeros =>
    "leading zeros in decimal integer literals are not permitted; "
      ++ "use an 0o prefix for octal integers"
  | .longNumber number =>
    number.message
      ++ " - Consider hexadecimal for huge integer literals to avoid decimal conversion limits."
  | .afterBackslash => "unexpected character after line continuation character"
  | .endOfText => "unexpected EOF while parsing"
  | .deepBrackets => "too many nested parentheses"
  | .unmatched closing => "unmatched " ++ inQuotes closing
  | .mismatched closing opening line =>
    "closing parenthesis " ++ inQuotes closing ++ " does not match opening parenthesis "
      ++ inQuotes opening ++ (line.elim "" fun line => " on line " ++ toString line)
  | .neverClosed opening => inQuotes opening ++ " was never closed"
  | .indented => "unexpected indent"
  | .wideOctets => "bytes can only contain ASCII literal characters"
  | .mixedTexts => "cannot mix bytes and nonbytes literals"
  | .badEscape first last problem =>
    "(unicode error) 'unicodeescape' codec can't decode bytes in position " ++ toString first
      ++ "-" ++ toString last ++ ": " ++ problem.message
  | .badOctet place => "(value error) invalid \\x escape at position " ++ toString place
  | .inField cause => field ++ cause.message
  | .openField => field ++ "expecting '\x7d'"
  | .loneBrace => field ++ "single '\x7d' is not allowed"
  | .emptyField => field ++ "empty expression not allowed"
  | .bareField mark => field ++ "expression required before " ++ inQuotes mark
  | .fieldBackslash => "f-string expression part cannot include a backslash"
  | .fieldComment => "f-string expression part cannot include '#'"
  | .fieldText => field ++ "unterminated string"
  | .fieldDepth => field ++ "too many nested parenthesis"
  | .fieldMismatch closing opening =>
    field ++ "closing parenthesis " ++ inQuotes closing ++ " does not match opening parenthesis "
      ++ inQuotes opening
  | .fieldUnmatched bracket => field ++ "unmatched " ++ inQuotes bracket
  | .nestedFields => field ++ "expressions nested too deeply"
  | .badConversion => field ++ "invalid conversion character: expected 's', 'r', or 'a'"
  | .unreadable => "invalid syntax"
  | .missingComma => "invalid syntax. Perhaps you forgot a comma?"
  | .missingElse => "expected 'else' after 'if' expression"
  | .oldCall name =>
    let name := String.ofList name
    "Missing parentheses in call to '" ++ name ++ "'. Did you mean " ++ name ++ "(...)?"
  | .cannotName what => "cannot use assignment expressions with " ++ what
  | .setForEqual => "invalid syntax. Maybe you meant '==' or ':=' instead of '='?"
  | .cannotSet what => "cannot assign to " ++ what
  | .cannotSetHere what =>
    "cannot assign to " ++ what ++ " here. Maybe you meant '==' instead of '='?"
  | .setInCall => "expression cannot contain assignment, perhaps you meant \"==\"?"
  | .loneStar => "Invalid star expression"
  | .starHere => "cannot use starred expression here"
  | .doubleStarHere => "cannot use double starred expression here"
  | .starInTable => "cannot use a starred expression in a dictionary value"
  | .starInSeries => "iterable unpacking cannot be used in comprehension"
  | .doubleStarInSeries => "dict unpacking cannot be used in dict comprehension"
  | .bareSeries => "did you forget parentheses around the comprehension target?"
  | .openSeries => "Generator expression must be parenthesized"
  | .starAfterDouble => "iterable argument unpacking follows keyword argument unpacking"
  | .plainAfterDouble => "positional argument follows keyword argument unpacking"
  | .plainAfterNamed => "positional argument follows keyword argument"
  | .keyWithoutColon => "':' expected after dictionary key"
  | .keyWithoutValue => "expression expected after dictionary key and ':'"
  | .plainAfterDefault => "non-default argument follows default argument"
  | .bracketedParameters => "Lambda expression parameters cannot be parenthesized"
  | .slashFirst => "at least one argument must precede /"
  | .slashTwice => "/ may appear only once"
  | .slashAfterStar => "/ must be ahead of *"
  | .slashStar => "expected comma between / and *"
  | .bareStar => "named arguments must follow bare *"
  | .starDefault => "var-positional argument cannot have default value"
  | .starTwice => "* argument may appear only once"
  | .doubleStarDefault => "var-keyword argument cannot have default value"
  | .afterDoubleStar => "arguments cannot follow var-keyword argument"
  | .missingDefault => "expected default value expression"

end Cause

end OrderBy.Command.Argument
