/-
  OrderBy.Command.Argument.Field — texts with fields.

  A text that is marked by an `f` has fields, which are values in braces.  A
  value may be followed by an equals sign, by a mark for how it is shown, and
  by a format, which has fields of its own but none in these.  Two braces stand
  for one.

  The value of a field is read as an argument in brackets.  Fields are read
  with fuel, one unit for each character.
-/
import OrderBy.Command.Argument.Escape

namespace OrderBy.Command.Argument.Field

/-! ## §1. Plain text -/

/-- **The end of the plain text in front of a field.** -/
structure Front where
  /-- The plain text. -/
  text : List Char
  /-- What follows it. -/
  rest : List Char
  /-- Is this a doubled brace, the second one of which was dropped? -/
  isDoubled : Bool := false
  deriving DecidableEq, Repr, Inhabited

/-- Put characters in front of a plain text. -/
def Front.after (cs : List Char) (front : Front) : Front :=
  { front with text := cs ++ front.text }

/-- The plain text up to a brace, with fuel.  In a format braces are not doubled. -/
def front (isRaw inFormat : Bool) : (fuel : Nat) → List Char → Except Cause Front
  | 0, cs => .ok { text := [], rest := cs }
  | _, [] => .ok { text := [], rest := [] }
  | fuel + 1, c :: rest =>
    let brace (c : Char) (before rest : List Char) : Except Cause Front :=
      if !inFormat && rest.head? == some c then
        .ok { text := before ++ [c], rest := rest.drop 1, isDoubled := true }
      else if !inFormat && c == '\x7d' then .error .loneBrace
      else .ok { text := before, rest := c :: rest }
    let isBrace (c : Char) : Bool := c == '\x7b' || c == '\x7d'
    if c = '\\' && !isRaw then
      match rest with
      | 'N' :: '\x7b' :: more =>
        let name := more.takeWhile (· != '\x7d')
        let taken := 'N' :: '\x7b' :: name ++ (more.drop name.length).take 1
        (front isRaw inFormat fuel (more.drop (name.length + 1))).map (·.after (c :: taken))
      | 'N' :: d :: more => (front isRaw inFormat fuel more).map (·.after [c, 'N', d])
      | d :: more =>
        if isBrace d then brace d [c] more
        else (front isRaw inFormat fuel more).map (·.after [c, d])
      | [] => .ok { text := [c], rest := [] }
    else if isBrace c then brace c [] rest
    else (front isRaw inFormat fuel rest).map (·.after [c])

/-! ## §2. The end of a value -/

/-- Where in a value one stands. -/
structure Within where
  /-- The quote of the text one is in, and whether it takes three of them to end it. -/
  quote : Option (Char × Bool) := none
  /-- The open brackets, innermost first. -/
  opened : List Char := []
  deriving DecidableEq, Repr, Inhabited

/-- Signs that end a value when they stand alone. -/
def isEnd (c : Char) : Bool :=
  c == '!' || c == ':' || c == '\x7d' || c == '=' || c == '>' || c == '<'

/-- Does a sign make one sign with an equals sign? -/
def joinsEquals (c : Char) : Bool := c == '!' || c == '=' || c == '<' || c == '>'

/-- What is wrong where the text ends inside a value. -/
def Within.unfinished (within : Within) : Cause :=
  match within.quote, within.opened with
  | some _, _ => .fieldText
  | none, bracket :: _ => .fieldUnmatched bracket
  | none, [] => .openField

/-- The characters of a value, and what follows it, from inside the value on. -/
def valueFrom (within : Within) : (skip : Nat) → List Char → Except Cause (List Char × List Char)
  | _, [] => .error within.unfinished
  | skip + 1, c :: rest => (valueFrom within skip rest).map fun (cs, rest) => (c :: cs, rest)
  | 0, c :: rest =>
    let go (within : Within) (skip : Nat) : Except Cause (List Char × List Char) :=
      (valueFrom within skip rest).map fun (cs, rest) => (c :: cs, rest)
    let isTriple := rest.take 2 == [c, c]
    if c = '\\' then .error .fieldBackslash
    else
      match within.quote with
      | some (quote, isLong) =>
        if c ≠ quote then go within 0
        else if !isLong then go { within with quote := none } 0
        else if isTriple then go { within with quote := none } 2
        else go within 0
      | none =>
        if isQuote c then
          go { within with quote := some (c, isTriple) } (if isTriple then 2 else 0)
        else if isOpening c then
          if greatestDepth ≤ within.opened.length then .error .fieldDepth
          else go { within with opened := c :: within.opened } 0
        else if c = '#' then .error .fieldComment
        else if within.opened.isEmpty && isEnd c then
          if joinsEquals c && rest.head? == some '=' then go within 1
          else if c = '>' ∨ c = '<' then go within 0
          else .ok ([], c :: rest)
        else
          match partner? c, within.opened with
          | none, _ => go within 0
          | some _, [] => .error (.fieldUnmatched c)
          | some opening, found :: others =>
            if found = opening then go { within with opened := others } 0
            else .error (.fieldMismatch c found)

/-! ## §3. Fields -/

/-- Is a character left out between tokens in brackets? -/
def isSpace (c : Char) : Bool := isGap c || c == '\n'

/-- What follows the value of a field up to its format: an equals sign and how it is shown. -/
def afterValue (cs : List Char) : Except Cause (List Char) := do
  let cs ← match cs with
    | '=' :: rest =>
      match rest.dropWhile fun c => isSpace c || c == '\x0b' with
      | [] => .error .openField
      | rest => .ok rest
    | cs => .ok cs
  match cs with
  | ['!'] => .error .openField
  | '!' :: c :: rest => if c = 's' ∨ c = 'r' ∨ c = 'a' then .ok rest else .error .badConversion
  | cs => .ok cs

/-- Check that a value is not empty. -/
def checkValue (value rest : List Char) : Except Cause Unit :=
  if value.all isSpace then
    match rest with
    | '\x7d' :: _ | [] => .error .emptyField
    | mark :: _ => .error (.bareField mark)
  else .ok ()

/-- How deep fields may stand in each other. -/
def greatestLevel : Nat := 2

/-- What follows the fields of a text, or of a format on a level, given how values are read and how
causes are told. -/
def fieldsFrom (read : List Char → Except Cause Unit) (tell : Cause → Cause) (isRaw : Bool) :
    (fuel level : Nat) → List Char → Except Cause (List Char)
  | 0, _, cs => .ok cs
  | fuel + 1, level, cs => do
    let found ← (front isRaw (0 < level) (cs.length + 1) cs).mapError tell
    if !isRaw then (checkEscapes found.text).mapError tell
    if found.isDoubled then fieldsFrom read tell isRaw fuel level found.rest
    else
      match found.rest with
      | '\x7b' :: rest =>
        if greatestLevel ≤ level then .error (tell .nestedFields)
        else
          let (value, rest) ← (valueFrom {} 0 rest).mapError tell
          (checkValue value rest).mapError tell
          read value
          let rest ← (afterValue rest).mapError tell
          let rest ← match rest with
            | ':' :: more =>
              if more.isEmpty then .error (tell .openField)
              else fieldsFrom read tell isRaw fuel (level + 1) more
            | rest => .ok rest
          match rest with
          | '\x7d' :: rest => fieldsFrom read tell isRaw fuel level rest
          | _ => .error (tell .openField)
      | rest => if 0 < level && rest.isEmpty then .error (tell .openField) else .ok rest

/-- **Check the fields of a text.** -/
def check (read : List Char → Except Cause Unit) (tell : Cause → Cause) (isRaw : Bool)
    (cs : List Char) : Except Cause Unit := do
  let _ ← fieldsFrom read tell isRaw (cs.length + 1) 0 cs

end OrderBy.Command.Argument.Field
