/-
  OrderBy.Command.Argument.Escape — escapes in texts in quotes.

  A backslash in a text starts an escape, which stands for a character: by its
  digits, by its name in braces, or by a letter.  A backslash before anything
  else stands for itself.  Here an escape is only checked.

  Places in a text are counted in its plain form, in which every character
  beyond ASCII is written as an escape itself.
-/
import OrderBy.Command.Argument.Token

namespace OrderBy.Command.Argument

/-! ## §1. The plain form -/

/-- Is a character beyond ASCII? -/
def isWide (c : Char) : Bool := 0x80 ≤ c.toNat

/-- The escape of a backslash, after its own backslash. -/
def backslashEscape : List Char := "u005c".toList

/-- A character in plain form. -/
def plainChar (c : Char) : List Char :=
  if isWide c then '\\' :: 'U' :: Text.Quoted.hexDigits 8 c.toNat else [c]

/-- The plain form of a text. -/
def plainForm : List Char → List Char
  | [] => []
  | ['\\'] => '\\' :: backslashEscape
  | '\\' :: c :: rest =>
    '\\' :: (if isWide c then backslashEscape else []) ++ plainChar c ++ plainForm rest
  | c :: rest => plainChar c ++ plainForm rest

/-! ## §2. Characters by digits and names -/

/-- The value of a hexadecimal digit. -/
def hexValue (c : Char) : Nat :=
  if c.isDigit then c.toNat - 48 else c.toLower.toNat - 87

/-- The greatest code point. -/
def lastCodePoint : Nat := 0x10FFFF

/-- Can characters be the name of a character?  Such names are words of capital letters and
digits. -/
def isCharacterName (cs : List Char) : Bool :=
  2 ≤ cs.length && cs.all fun c => c.isUpper || c.isDigit || c == ' ' || c == '-'

/-- An escape by a number of digits: how many characters of what follows its letter it takes, and
what is wrong with it. -/
def digitsEscape (letter : Char) (count : Nat) (cs : List Char) : Nat × Option EscapeProblem :=
  let digits := (cs.take count).takeWhile isHexDigit
  if digits.length < count then (digits.length, some (.short letter))
  else if lastCodePoint < digits.foldl (fun n c => 16 * n + hexValue c) 0 then
    (count, some .noCharacter)
  else (count, none)

/-- An escape by a name, as `digitsEscape`. -/
def nameEscape (cs : List Char) : Nat × Option EscapeProblem :=
  match cs with
  | '\x7b' :: rest =>
    let name := rest.takeWhile (· != '\x7d')
    if name.length = rest.length then (1 + name.length, some .noName)
    else if name.isEmpty then (1, some .noName)
    else if isCharacterName name then (name.length + 2, none)
    else (name.length + 2, some .unknownName)
  | _ => (0, some .noName)

/-- The escape after a backslash, as `digitsEscape`. -/
def escapeAfter (letter : Char) (cs : List Char) : Nat × Option EscapeProblem :=
  match letter with
  | 'x' => digitsEscape 'x' 2 cs
  | 'u' => digitsEscape 'u' 4 cs
  | 'U' => digitsEscape 'U' 8 cs
  | 'N' => nameEscape cs
  | _ => (0, none)

/-! ## §3. Texts -/

/-- Check the escapes of a text in plain form from a place on; so many characters belong to an
escape that was read. -/
def checkEscapesFrom : (place skip : Nat) → List Char → Except Cause Unit
  | _, _, [] => .ok ()
  | place, skip + 1, _ :: rest => checkEscapesFrom (place + 1) skip rest
  | place, 0, c :: rest =>
    match c, rest with
    | '\\', letter :: after =>
      match escapeAfter letter after with
      | (taken, some problem) => .error (.badEscape place (place + 1 + taken) problem)
      | (taken, none) => checkEscapesFrom (place + 1) (taken + 1) rest
    | _, _ => checkEscapesFrom (place + 1) 0 rest

/-- **Check the escapes of a text of characters.** -/
def checkEscapes (cs : List Char) : Except Cause Unit :=
  checkEscapesFrom 0 0 (plainForm cs)

/-- Check the escapes of a text of octets from a place on.  Only those by digits can be wrong. -/
def checkOctetsFrom : (place : Nat) → (escaped : Bool) → List Char → Except Cause Unit
  | _, _, [] => .ok ()
  | place, escaped, c :: rest =>
    if escaped && c == 'x' && ((rest.take 2).takeWhile isHexDigit).length < 2 then
      .error (.badOctet (place - 1))
    else checkOctetsFrom (place + 1) (!escaped && c == '\\') rest

/-- **Check the escapes of a text of octets.** -/
def checkOctets (cs : List Char) : Except Cause Unit :=
  checkOctetsFrom 0 false cs

end OrderBy.Command.Argument
