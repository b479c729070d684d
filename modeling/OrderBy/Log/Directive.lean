/-
  OrderBy.Log.Directive — writing one field of a logged line.

  A directive names a field and says how it is written: by flags, a least
  width, a precision, and a letter.  Texts are cut to the precision and filled
  up with blanks.  Numbers are written whole, to a number of places, or to a
  number of significant digits, with a sign or a mark in front if a flag asks
  for it, and are filled up with blanks or zeros.

  Not every directive can be written: a letter may ask for a number where the
  field is a text, and a width or a precision may be beyond all bounds.  A
  directive without a name stands for the record as a whole.
-/
import OrderBy.Text.Number
import OrderBy.Text.Quoted

namespace OrderBy.Log

/-! ## §1. Fields and directives -/

/-- **The value of a field.** -/
inductive FieldValue where
  /-- A text. -/
  | text (s : String)
  /-- A number. -/
  | number (n : Nat)
  /-- A number with a fraction, which no two records share. -/
  | reading
  /-- No value. -/
  | nothing
  /-- Several values, by what is shown of them, also in ASCII. -/
  | compound (shown ascii : List Char)
  deriving DecidableEq, Repr

/-- The value as a text. -/
def FieldValue.chars : FieldValue → List Char
  | .text s => s.toList
  | .number n => Nat.toDigits 10 n
  | .reading => []
  | .nothing => "None".toList
  | .compound shown _ => shown

/-- The value with the quotes of a text. -/
def FieldValue.quoted : FieldValue → List Char
  | .text s => Text.Quoted.encode s.toList
  | other => other.chars

/-- The value with the quotes of a text, in ASCII. -/
def FieldValue.quotedAscii : FieldValue → List Char
  | .text s => Text.Quoted.encodeAscii s.toList
  | .compound _ ascii => ascii
  | other => other.chars

/-- **What a directive says before its letter.** -/
structure Directive where
  /-- The name of the field, if it names one. -/
  name : Option (List Char) := none
  /-- The flags. -/
  flags : List Char := []
  /-- The least width. -/
  width : Nat := 0
  /-- The precision. -/
  precision : Option Nat := none
  deriving DecidableEq, Repr

namespace Directive

/-- The greatest precision there is. -/
def greatestPrecision : Nat := 2147483647

/-- The greatest number of characters that a field is filled up to. -/
def greatestFill : Nat := 16777216

/-- Has the directive a flag? -/
def hasFlag (d : Directive) (flag : Char) : Bool := d.flags.contains flag

/-! ## §2. Filling up -/

/-- Fill up to the least width: on the right with the flag `-`, else on the left. -/
def pad (d : Directive) (cs : List Char) : List Char :=
  let fill := List.replicate (d.width - cs.length) ' '
  if d.hasFlag '-' then cs ++ fill else fill ++ cs

/-- The sign of a number that is not negative. -/
def sign (d : Directive) : List Char :=
  if d.hasFlag '+' then ['+'] else if d.hasFlag ' ' then [' '] else []

/-- Fill up a number, given what stands in front of its digits: with the flag `0` by zeros
between the two. -/
def padNumber (d : Directive) (front body : List Char) : List Char :=
  if d.hasFlag '0' && !d.hasFlag '-' then
    front ++ List.replicate (d.width - (front.length + body.length)) '0' ++ body
  else d.pad (front ++ body)

/-! ## §3. Texts -/

/-- Write a text: no more of it than the precision, and at least the width. -/
def writeText (d : Directive) (cs : List Char) : List Char :=
  d.pad (match d.precision with
    | some n => cs.take n
    | none => cs)

/-- The one character that a field stands for: that of a number, or the only one of a text. -/
def character? : FieldValue → Option Char
  | .number n => some (Char.ofNat n)
  | .text s =>
    match s.toList with
    | [c] => some c
    | _ => none
  | .reading | .nothing | .compound .. => none

/-! ## §4. Numbers -/

/-- Write a whole number by its digits: zeros up to the precision, and with the flag `#` the mark
of its base in front. -/
def writeWhole (d : Directive) (mark digits : List Char) : List Char :=
  let front := d.sign ++ (if d.hasFlag '#' then mark else [])
  d.padNumber front (List.replicate (d.precision.getD 0 - digits.length) '0' ++ digits)

/-- The places of a number after its point, unless the precision says otherwise. -/
def usualPlaces : Nat := 6

/-- A point and the digits after it; without digits the flag `#` keeps the point. -/
def fraction (d : Directive) (digits : List Char) : List Char :=
  if digits.isEmpty && !d.hasFlag '#' then [] else '.' :: digits

/-- An exponent: at least two digits after its letter and sign. -/
def exponent (letter : Char) (n : Nat) : List Char :=
  let digits := Nat.toDigits 10 n
  letter :: '+' :: (List.replicate (2 - digits.length) '0' ++ digits)

/-- Write a number to a number of places. -/
def writeFixed (d : Directive) (n : Nat) : List Char :=
  let places := List.replicate (d.precision.getD usualPlaces) '0'
  d.padNumber d.sign (Nat.toDigits 10 n ++ d.fraction places)

/-- The first digit of some, the rest as a fraction, and an exponent. -/
def scientificBody (d : Directive) (letter : Char) (digits : List Char) (power : Nat) :
    List Char :=
  digits.take 1 ++ d.fraction (digits.drop 1) ++ exponent letter power

/-- Write a number with an exponent. -/
def writeScientific (d : Directive) (letter : Char) (n : Nat) : List Char :=
  let (digits, power) := Text.Scientific.digits (d.precision.getD usualPlaces) n
  d.padNumber d.sign (d.scientificBody letter digits power)

/-- Drop the zeros at the end of significant digits, but never the first digit; with the flag
`#` they stay. -/
def dropZeros (d : Directive) (digits : List Char) : List Char :=
  if d.hasFlag '#' then digits
  else digits.take 1 ++ ((digits.drop 1).reverse.dropWhile (· == '0')).reverse

/-- The number of significant digits that are looked at: all that the precision asks for with the
flag `#`, else no more than there are. -/
def significantPlaces (d : Directive) (n : Nat) : Nat :=
  let asked := max (d.precision.getD usualPlaces) 1
  if d.hasFlag '#' then asked else min asked (Nat.toDigits 10 n).length

/-- Write a number to a number of significant digits, with an exponent only if it has more
digits than that. -/
def writeShort (d : Directive) (letter : Char) (n : Nat) : List Char :=
  let places := d.significantPlaces n
  let (digits, power) := Text.Scientific.digits (places - 1) n
  if power < places then
    let zeros := if d.hasFlag '#' then digits.drop (power + 1) else []
    d.padNumber d.sign (Nat.toDigits 10 n ++ d.fraction zeros)
  else d.padNumber d.sign (d.scientificBody letter (d.dropZeros digits) power)

/-! ## §5. Writing a field -/

/-- Write a number as a letter says, if it is a letter for numbers. -/
def writeNumber? (d : Directive) (letter : Char) (n : Nat) : Option (List Char) :=
  match letter with
  | 'd' | 'i' | 'u' => some (d.writeWhole [] (Nat.toDigits 10 n))
  | 'x' => some (d.writeWhole ['0', 'x'] (Nat.toDigits 16 n))
  | 'X' => some (d.writeWhole ['0', 'X'] ((Nat.toDigits 16 n).map Char.toUpper))
  | 'o' => some (d.writeWhole ['0', 'o'] (Nat.toDigits 8 n))
  | 'e' | 'E' => some (d.writeScientific letter n)
  | 'f' | 'F' => some (d.writeFixed n)
  | 'g' => some (d.writeShort 'e' n)
  | 'G' => some (d.writeShort 'E' n)
  | _ => none

/-- Is the directive within the bounds of what can be written? -/
def isWritable (d : Directive) : Bool :=
  d.width ≤ greatestFill && d.precision.getD 0 ≤ greatestPrecision

/-- Is the precision within the bounds of what a letter for numbers can write?  A number of
significant digits is cut down anyway, but for the flag `#`. -/
def isNumberWritable (d : Directive) (letter : Char) : Bool :=
  d.precision.getD 0 ≤ greatestFill
    || ((letter == 'g' || letter == 'G') && !d.hasFlag '#')

/-- Write a number with a fraction, which a letter for whole numbers in another base cannot
write. -/
def writeReading? (d : Directive) (letter : Char) : Option (List Char) :=
  if "diueEfFgG".toList.contains letter then some (d.pad []) else none

/-- **Write the value of a field** as the letter of its directive says. -/
def write? (d : Directive) (letter : Char) (value : FieldValue) : Option (List Char) :=
  if !d.isWritable then none
  else
    match letter with
    | 's' => some (d.writeText value.chars)
    | 'r' => some (d.writeText value.quoted)
    | 'a' => some (d.writeText value.quotedAscii)
    | 'c' => (character? value).map fun c => d.pad [c]
    | letter =>
      match value with
      | .number n => if d.isNumberWritable letter then d.writeNumber? letter n else none
      | .reading => d.writeReading? letter
      | _ => none

end Directive

end OrderBy.Log
