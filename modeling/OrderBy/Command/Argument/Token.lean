/-
  OrderBy.Command.Argument.Token — the tokens of an argument.

  An argument is a series of names, numbers, texts in quotes, and signs, with
  blanks and comments between them.  Outside of brackets the ends of lines
  count, and so do the blanks in front of a line that starts further right
  than the one before it.

  What cannot be cut into tokens ends the series (`Stop`).  Some causes for
  this are told whatever is wrong before them, the others only where a reader
  of the tokens gets that far.

  Characters are read with fuel, one unit for each and one for each line.
-/
import OrderBy.Command.Argument.Cause
import OrderBy.Text.Identifier
import OrderBy.Text.Split

namespace OrderBy.Command.Argument

/-! ## §1. Tokens -/

/-- What a token is. -/
inductive Token.Kind where
  | name
  | number
  | text
  | sign
  | lineEnd
  | indent
  | finish
  deriving DecidableEq, Repr, Inhabited

/-- **A token.** -/
structure Token where
  /-- What it is. -/
  kind : Token.Kind
  /-- Its characters. -/
  chars : List Char := []
  /-- How many brackets are open after it. -/
  depth : Nat := 0
  /-- The line on which it starts, the first one being 1. -/
  line : Nat := 1
  /-- Is it known, once it was read, that nothing follows it? -/
  isLast : Bool := false
  deriving DecidableEq, Repr, Inhabited

/-- **What ends a series of tokens too early.** -/
structure Stop where
  /-- Why there is no further token. -/
  cause : Cause
  /-- Is this told whatever is wrong before? -/
  isFirm : Bool
  /-- The innermost open bracket, and its line. -/
  opened : Option (Char × Nat) := none
  deriving Repr, Inhabited

/-- A character inside names, or one beyond ASCII, of which this is not yet known. -/
def isNameLike (c : Char) : Bool :=
  c.isAlphanum || c == '_' || 0x80 ≤ c.toNat

/-! ## §2. Numbers -/

/-- The words that may follow a number at once, if they end there. -/
def closeWords : List String := ["and", "else", "for", "or", "not"]

/-- The words that may follow a number at once, even as the start of longer ones. -/
def closeStarts : List String := ["if", "in", "is"]

/-- May a text follow a number?  A character beyond ASCII is left to the next token. -/
def mayFollowNumber (cs : List Char) : Bool :=
  match cs with
  | [] => true
  | c :: _ =>
    !isNameLike c || 0x80 ≤ c.toNat
      || closeStarts.any (fun word => word.toList.isPrefixOf cs)
      || closeWords.any fun word =>
        word.toList.isPrefixOf cs && !((cs.drop word.length).head?.map isNameLike).getD false

/-- What follows a number, if it may follow. -/
def afterNumber (form : NumberForm) (cs : List Char) : Except Cause (List Char) :=
  if mayFollowNumber cs then .ok cs else .error (.badNumber form)

/-- What follows decimal digits, between which single underscores may stand. -/
def afterDigits : List Char → Except Cause (List Char)
  | '_' :: c :: rest => if c.isDigit then afterDigits rest else .error (.badNumber .decimal)
  | ['_'] => .error (.badNumber .decimal)
  | c :: rest => if c.isDigit then afterDigits rest else .ok (c :: rest)
  | [] => .ok []

/-- Is a character the sign of an exponent? -/
def isExponent (c : Char) : Bool := c == 'e' || c == 'E'

/-- What follows the sign of an imaginary number, or a number without one. -/
def afterParts (cs : List Char) : Except Cause (List Char) :=
  match cs with
  | c :: rest =>
    if c = 'j' ∨ c = 'J' then afterNumber .imaginary rest else afterNumber .decimal cs
  | [] => .ok []

/-- What follows an exponent, if there is one. -/
def afterExponent (cs : List Char) : Except Cause (List Char) :=
  match cs with
  | e :: c :: rest =>
    if !isExponent e then afterParts cs
    else if c = '+' ∨ c = '-' then
      match rest with
      | d :: more =>
        if d.isDigit then (afterDigits more).bind afterParts else .error (.badNumber .decimal)
      | [] => .error (.badNumber .decimal)
    else if c.isDigit then (afterDigits rest).bind afterParts
    else afterNumber .decimal cs
  | _ => afterParts cs

/-- What follows a fraction, whose point was read. -/
def afterFraction (cs : List Char) : Except Cause (List Char) :=
  match cs with
  | c :: rest => if c.isDigit then (afterDigits rest).bind afterExponent else afterExponent cs
  | [] => .ok []

/-- What follows a decimal number whose first digit was read. -/
def afterDecimal (cs : List Char) : Except Cause (List Char) := do
  match ← afterDigits cs with
  | '.' :: rest => afterFraction rest
  | rest => afterExponent rest

/-- What follows the zeros at the start of a number, the first of which was read. -/
def afterZeros : List Char → Except Cause (List Char)
  | '_' :: c :: rest =>
    if !c.isDigit then .error (.badNumber .decimal)
    else if c = '0' then afterZeros rest
    else .ok (c :: rest)
  | ['_'] => .error (.badNumber .decimal)
  | '0' :: rest => afterZeros rest
  | cs => .ok cs

/-- What follows a number that starts with a zero, in decimal digits. -/
def afterZero (cs : List Char) : Except Cause (List Char) := do
  let cs ← afterZeros cs
  let isLong := (cs.head?.map Char.isDigit).getD false
  let cs ← if isLong then afterDigits cs else .ok cs
  match cs with
  | '.' :: rest => afterFraction rest
  | c :: _ =>
    if isLong && !isExponent c && c != 'j' && c != 'J' then .error .leadingZeros
    else afterExponent cs
  | [] => if isLong then .error .leadingZeros else .ok []

/-- What follows the digits of a number of another form: there is at least one, and single
underscores may stand before each. -/
def afterForm (form : NumberForm) (isIn : Char → Bool) :
    (mayScore needsDigit : Bool) → List Char → Except Cause (List Char)
  | _, needsDigit, [] => if needsDigit then .error (.badNumber form) else .ok []
  | mayScore, needsDigit, c :: rest =>
    if c = '_' && mayScore then afterForm form isIn false true rest
    else if isIn c then afterForm form isIn true false rest
    else if c.isDigit then .error (.badDigit c form)
    else if needsDigit then .error (.badNumber form)
    else afterNumber form (c :: rest)

/-- Is a character a hexadecimal digit? -/
def isHexDigit (c : Char) : Bool :=
  c.isDigit || ('a' ≤ c && c ≤ 'f') || ('A' ≤ c && c ≤ 'F')

/-- What follows the number that starts with a digit. -/
def numberRest (first : Char) (cs : List Char) : Except Cause (List Char) :=
  if first ≠ '0' then afterDecimal cs
  else
    match cs with
    | c :: rest =>
      match c.toLower with
      | 'x' => afterForm .hexadecimal isHexDigit true true rest
      | 'o' => afterForm .octal (fun d => '0' ≤ d && d ≤ '7') true true rest
      | 'b' => afterForm .binary (fun d => d == '0' || d == '1') true true rest
      | _ => afterZero cs
    | [] => .ok []

/-! ## §3. Texts in quotes -/

/-- What follows a text in quotes, whose opening quotes were read, and the line on which it ends.
As many quotes end a text as started it, and `quotes` of them were just read. -/
def textRest (quote : Char) (size : Nat) : (quotes line : Nat) → List Char →
    Except Cause (List Char × Nat)
  | _, line, [] => .error (if size = 3 then .openLongText line else .openText line)
  | quotes, line, c :: rest =>
    if c = quote then
      if quotes + 1 = size then .ok (rest, line) else textRest quote size (quotes + 1) line rest
    else if c = '\\' then
      match rest with
      | [] => .error (if size = 3 then .openLongText line else .openText line)
      | d :: more => textRest quote size 0 (if d = '\n' then line + 1 else line) more
    else if c = '\n' then
      if size = 3 then textRest quote size 0 (line + 1) rest else .error (.openText line)
    else textRest quote size 0 line rest

/-- What follows a text whose first quote was read, and the line on which it ends. -/
def quotedRest (quote : Char) (line : Nat) (cs : List Char) : Except Cause (List Char × Nat) :=
  match cs with
  | c :: d :: rest =>
    if c = quote then
      if d = quote then textRest quote 3 0 line rest else .ok (d :: rest, line)
    else textRest quote 1 0 line cs
  | [c] => if c = quote then .ok ([], line) else textRest quote 1 0 line cs
  | [] => textRest quote 1 0 line cs

/-- The words that may stand before the quotes of a text, in lower case. -/
def textMarks : List (List Char) :=
  [[], ['b'], ['u'], ['r'], ['f'], ['b', 'r'], ['r', 'b'], ['f', 'r'], ['r', 'f']]

/-- Is a character a quote? -/
def isQuote (c : Char) : Bool := c == '"' || c == '\''

/-- The word before the quotes of a text, the quote, and what follows it. -/
def textStart? (cs : List Char) : Option (List Char × Char × List Char) :=
  let mark := cs.takeWhile Char.isAlpha
  match cs.drop mark.length with
  | c :: rest =>
    if isQuote c && textMarks.contains (mark.map Char.toLower) then some (mark, c, rest) else none
  | [] => none

/-! ## §4. Names and signs -/

/-- The cause for a character that stands where it may not. -/
def wrongCharacter (c : Char) : Cause :=
  if Text.isPrintable c then .strayCharacter c else .hiddenCharacter c

/-- Check the characters of a name. -/
def checkName (name : List Char) : Except Cause Unit :=
  match name with
  | [] => .ok ()
  | c :: rest =>
    if !Text.startsName c then .error (wrongCharacter c)
    else
      match rest.find? (!Text.continuesName ·) with
      | some wrong => .error (wrongCharacter wrong)
      | none => .ok ()

/-- The signs of more than one character, the longer ones first. -/
def longSigns : List (List Char) :=
  ["...", "**=", "//=", "<<=", ">>=", "!=", "%=", "&=", "**", "*=", "+=", "-=", "->", "//", "/=",
   ":=", "<<", "<=", "<>", "==", ">=", ">>", "@=", "^=", "|="].map String.toList

/-- The number of characters of the longest signs. -/
def longestSign : Nat := 3

/-- The sign at the front of a text. -/
def signOf (c : Char) (rest : List Char) : List Char :=
  (longSigns.find? fun sign => sign.isPrefixOf (c :: rest)).getD [c]

/-- The bracket that a closing one belongs to. -/
def partner? : Char → Option Char
  | ')' => some '('
  | ']' => some '['
  | '\x7d' => some '\x7b'
  | _ => none

/-- Does a character open a bracket? -/
def isOpening (c : Char) : Bool := c == '(' || c == '[' || c == '\x7b'

/-- The greatest number of brackets that can be open. -/
def greatestDepth : Nat := 200

/-- The brackets that are open after a sign, innermost first, each with its line. -/
def openedAfter (line : Nat) (opened : List (Char × Nat)) (sign : List Char) :
    Except Cause (List (Char × Nat)) :=
  match sign with
  | [c] =>
    if isOpening c then
      if greatestDepth ≤ opened.length then .error .deepBrackets else .ok ((c, line) :: opened)
    else
      match partner? c, opened with
      | none, _ => .ok opened
      | some _, [] => .error (.unmatched c)
      | some opening, (found, start) :: others =>
        if found = opening then .ok others
        else .error (.mismatched c found (if start = line then none else some start))
  | _ => .ok opened

/-! ## §5. Margins -/

/-- **The start of a line.** -/
structure Margin where
  /-- The column in which the line starts. -/
  column : Nat
  /-- The number of lines that it goes over. -/
  lines : Nat
  /-- What follows the blanks. -/
  rest : List Char
  deriving DecidableEq, Repr, Inhabited

/-- The columns from one tab stop to the next. -/
def tabStop : Nat := 8

/-- The start of a line, given the column so far, the one at the end of the first of several lines,
and how many there are.  A backslash goes on with the next line. -/
def marginFrom (column fixed lines : Nat) : List Char → Except Cause Margin
  | ' ' :: rest => marginFrom (column + 1) fixed lines rest
  | '\t' :: rest => marginFrom ((column / tabStop + 1) * tabStop) fixed lines rest
  | '\x0c' :: rest => marginFrom 0 fixed lines rest
  | '\\' :: '\n' :: rest =>
    if rest.isEmpty then .error .endOfText
    else marginFrom column (if fixed = 0 then column else fixed) (lines + 1) rest
  | '\\' :: _ => .error .afterBackslash
  | rest => .ok { column := if fixed = 0 then column else fixed, lines, rest }

/-! ## §6. Series -/

/-- Where in a text tokens are read. -/
structure Place where
  /-- The open brackets, innermost first, each with its line. -/
  opened : List (Char × Nat) := []
  /-- The columns in which the lines around start, innermost first. -/
  margins : List Nat := [0]
  /-- The line. -/
  line : Nat := 1
  /-- Is this the start of a line outside of brackets? -/
  atStart : Bool := true
  deriving Repr, Inhabited

/-- A token in a place. -/
def Place.token (place : Place) (kind : Token.Kind) (chars : List Char) : Token :=
  { kind, chars, depth := place.opened.length, line := place.line }

/-- A series that ends in a place. -/
def Place.stop (place : Place) (isFirm : Bool) (cause : Cause) : List Token × Option Stop :=
  ([], some { cause, isFirm, opened := place.opened.head? })

/-- A series whose text ends in a place where it should go on. -/
def Place.ended (place : Place) : List Token × Option Stop :=
  match place.opened with
  | [] => place.stop false .endOfText
  | (opening, _) :: _ => place.stop false (.neverClosed opening)

/-- Is a character a blank between tokens? -/
def isGap (c : Char) : Bool := c == ' ' || c == '\t' || c == '\x0c'

/-- The characters of a text before what is left of it. -/
def readPart (cs rest : List Char) : List Char := cs.take (cs.length - rest.length)

/-- **The tokens of a text** from a place on. -/
def tokensFrom : (fuel : Nat) → Place → List Char → List Token × Option Stop
  | 0, place, _ => place.ended
  | fuel + 1, place, cs =>
    if place.atStart then
      match marginFrom 0 0 0 cs with
      | .error cause => place.stop false cause
      | .ok margin =>
        let place := { place with line := place.line + margin.lines }
        let within := { place with atStart := false }
        match margin.rest with
        | [] => ([place.token .finish []], none)
        | '#' :: rest => tokensFrom fuel place (rest.dropWhile (· != '\n'))
        | '\n' :: rest => tokensFrom fuel { place with line := place.line + 1 } rest
        | rest =>
          if place.margins.headD 0 < margin.column then
            let next := tokensFrom fuel
              { within with margins := margin.column :: place.margins } rest
            (place.token .indent [] :: next.1, next.2)
          else
            let margins := place.margins.dropWhile (margin.column < ·)
            if margins.headD 0 = margin.column then tokensFrom fuel { within with margins } rest
            else ([], none)
    else
      match cs.dropWhile isGap with
      | [] => if place.opened.isEmpty then ([place.token .finish []], none) else place.ended
      | '#' :: rest => tokensFrom fuel place (rest.dropWhile (· != '\n'))
      | '\n' :: rest =>
        let isEnd := place.opened.isEmpty
        let next := tokensFrom fuel { place with line := place.line + 1, atStart := isEnd } rest
        if isEnd then (place.token .lineEnd ['\n'] :: next.1, next.2) else next
      | '\\' :: '\n' :: rest =>
        if rest.isEmpty then place.ended
        else tokensFrom fuel { place with line := place.line + 1 } rest
      | '\\' :: _ => place.stop false .afterBackslash
      | c :: rest =>
        let start := c :: rest
        let go (kind : Token.Kind) (after : Place) (rest : List Char) :
            List Token × Option Stop :=
          let next := tokensFrom fuel after rest
          let chars := readPart start rest
          let isClosed := kind == .text || (kind == .sign && longestSign ≤ chars.length)
          let token := { after.token kind chars with
            line := place.line, isLast := rest.isEmpty && !isClosed }
          (token :: next.1, next.2)
        match textStart? start with
        | some (_, quote, more) =>
          match quotedRest quote place.line more with
          | .error cause => place.stop true cause
          | .ok (rest, line) => go .text { place with line } rest
        | none =>
          if c.isDigit || (c == '.' && (rest.head?.map Char.isDigit).getD false) then
            match if c = '.' then afterFraction rest else numberRest c rest with
            | .error cause => place.stop true cause
            | .ok rest => go .number place rest
          else if isNameLike c then
            match checkName (start.takeWhile isNameLike) with
            | .error cause => place.stop true cause
            | .ok () => go .name place (start.dropWhile isNameLike)
          else
            let sign := signOf c rest
            match openedAfter place.line place.opened sign with
            | .error cause => place.stop true cause
            | .ok opened =>
              if Text.isPrintable c then
                go .sign { place with opened } (start.drop sign.length)
              else place.stop true (.hiddenCharacter c)

/-- **The tokens of an argument**, and what ends them if it is not its end. -/
def tokens (cs : List Char) : List Token × Option Stop :=
  tokensFrom (2 * cs.length + 2) {} (Text.unifyLineEnds cs)

example : (tokens "f(1.5)".toList).1.map (·.chars)
    = [['f'], ['('], ['1', '.', '5'], [')'], []] := by
  decide +kernel

end OrderBy.Command.Argument
