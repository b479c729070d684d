/-
  OrderBy.Text.Quoted — a text between quotes, as messages show values.

  Single quotes stand around the text, double ones when it holds a single
  quote and no double one.  The quote in use and the backslash get a
  backslash; a tab, line feed or carriage return is written by its letter and
  any other character that cannot be printed by its code point, in two, four
  or eight digits.
-/
import OrderBy.Text.Printable

namespace OrderBy.Text.Quoted

/-- The low `width` hexadecimal digits of a number. -/
def hexDigits : (width : Nat) → Nat → List Char
  | 0, _ => []
  | width + 1, n => hexDigits width (n / 16) ++ [Nat.digitChar (n % 16)]

/-- One character between the given quotes; it stands for itself only if it may. -/
def encodeChar (standsForItself : Char → Bool) (quote c : Char) : List Char :=
  if c = quote ∨ c = '\\' then ['\\', c]
  else if c = '\t' then ['\\', 't']
  else if c = '\n' then ['\\', 'n']
  else if c = '\r' then ['\\', 'r']
  else if standsForItself c then [c]
  else if c.toNat < 0x100 then '\\' :: 'x' :: hexDigits 2 c.toNat
  else if c.toNat < 0x10000 then '\\' :: 'u' :: hexDigits 4 c.toNat
  else '\\' :: 'U' :: hexDigits 8 c.toNat

/-- The quote that stands around a text. -/
def quoteFor (cs : List Char) : Char :=
  if cs.contains '\'' && !cs.contains '"' then '"' else '\''

/-- A text between quotes, in which some characters stand for themselves. -/
def encodeWith (standsForItself : Char → Bool) (cs : List Char) : List Char :=
  let quote := quoteFor cs
  quote :: (cs.flatMap (encodeChar standsForItself quote) ++ [quote])

/-- **A text between quotes.** -/
def encode (cs : List Char) : List Char :=
  encodeWith isPrintable cs

/-- A text between quotes, in ASCII. -/
def encodeAscii (cs : List Char) : List Char :=
  encodeWith (fun c => isPrintable c && c.toNat < 0x80) cs

example : encode ['d', '\\', '\t'] = ['\'', 'd', '\\', '\\', '\\', 't', '\''] := by
  decide +kernel

end OrderBy.Text.Quoted
