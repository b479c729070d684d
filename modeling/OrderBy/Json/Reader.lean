/-
  OrderBy.Json.Reader — reading JSON text.

  The inverse of `OrderBy.Json.Writer`, and more: blanks may stand between the
  parts, every escape of JSON is understood, and the members of an object keep
  their order and their repetitions.  `Infinity`, `-Infinity` and `NaN` are
  numbers.  Half of a surrogate pair is refused.

  Nested values are read with fuel, two units for each character of the text,
  which no text can use up.
-/
import OrderBy.Json.Value

namespace OrderBy.Json

/-! ## §1. Texts -/

/-- The value of a hexadecimal digit. -/
def hexValue? (c : Char) : Option Nat :=
  if '0' ≤ c ∧ c ≤ '9' then some (c.toNat - '0'.toNat)
  else if 'a' ≤ c ∧ c ≤ 'f' then some (c.toNat - 'a'.toNat + 10)
  else if 'A' ≤ c ∧ c ≤ 'F' then some (c.toNat - 'A'.toNat + 10)
  else none

/-- What an escape letter stands for. -/
def escaped? (letter : Char) : Option Char :=
  [('"', '"'), ('\\', '\\'), ('/', '/'), ('b', '\x08'), ('t', '\t'), ('n', '\n'), ('f', '\x0c'),
   ('r', '\r')].lookup letter

/-- Where the reader of a text stands. -/
inductive TextState where
  /-- Between characters. -/
  | plain
  /-- After a backslash. -/
  | escape
  /-- Among the four digits of a code: how many are missing, and the number so far. -/
  | code (missing value : Nat)
  /-- After the first half of a surrogate pair. -/
  | half (first : Nat)
  /-- After the first half and a backslash. -/
  | halfEscape (first : Nat)
  /-- Among the four digits of the second half. -/
  | halfCode (first missing value : Nat)
  deriving DecidableEq, Repr

/-- Put a character before the text read. -/
def prepend (c : Char) (read : Option (List Char × List Char)) : Option (List Char × List Char) :=
  read.map fun (cs, rest) => (c :: cs, rest)

/-- Read a text up to its closing quote: its characters, and what follows. -/
def readTextFrom : TextState → List Char → Option (List Char × List Char)
  | _, [] => none
  | .plain, c :: rest =>
    if c = '"' then some ([], rest)
    else if c = '\\' then readTextFrom .escape rest
    else if c.toNat < 0x20 then none
    else prepend c (readTextFrom .plain rest)
  | .escape, c :: rest =>
    if c = 'u' then readTextFrom (.code 4 0) rest
    else match escaped? c with
      | some e => prepend e (readTextFrom .plain rest)
      | none => none
  | .code missing value, c :: rest =>
    match hexValue? c with
    | none => none
    | some digit =>
      let code := value * 16 + digit
      if 1 < missing then readTextFrom (.code (missing - 1) code) rest
      else if 0xD800 ≤ code ∧ code < 0xDC00 then readTextFrom (.half code) rest
      else if 0xDC00 ≤ code ∧ code < 0xE000 then none
      else prepend (Char.ofNat code) (readTextFrom .plain rest)
  | .half first, c :: rest =>
    if c = '\\' then readTextFrom (.halfEscape first) rest else none
  | .halfEscape first, c :: rest =>
    if c = 'u' then readTextFrom (.halfCode first 4 0) rest else none
  | .halfCode first missing value, c :: rest =>
    match hexValue? c with
    | none => none
    | some digit =>
      let code := value * 16 + digit
      if 1 < missing then readTextFrom (.halfCode first (missing - 1) code) rest
      else if 0xDC00 ≤ code ∧ code < 0xE000 then
        prepend (Char.ofNat (0x10000 + (first - 0xD800) * 0x400 + (code - 0xDC00)))
          (readTextFrom .plain rest)
      else none

/-! ## §2. Values -/

/-- Drop the blanks that may stand between parts. -/
def skipBlanks (cs : List Char) : List Char :=
  cs.dropWhile fun c => c == ' ' || c == '\t' || c == '\n' || c == '\r'

/-- Read digits, of which there has to be one. -/
def readDigits (cs : List Char) : Option (List Char × List Char) :=
  let digits := cs.takeWhile Char.isDigit
  if digits.isEmpty then none else some (digits, cs.dropWhile Char.isDigit)

/-- Read a sign, which may be missing. -/
def readSign (signs : List Char) : List Char → List Char × List Char
  | c :: rest => if signs.contains c then ([c], rest) else ([], c :: rest)
  | [] => ([], [])

/-- Read a fraction, which may be missing: a point and digits. -/
def readFraction : List Char → Option (List Char × List Char)
  | '.' :: rest => (readDigits rest).map fun (digits, rest) => ('.' :: digits, rest)
  | cs => some ([], cs)

/-- Read an exponent, which may be missing: its letter, a sign that may be missing, and
digits. -/
def readExponent : List Char → Option (List Char × List Char)
  | c :: rest =>
    if c = 'e' ∨ c = 'E' then
      let (sign, rest) := readSign ['+', '-'] rest
      (readDigits rest).map fun (digits, rest) => (c :: (sign ++ digits), rest)
    else some ([], c :: rest)
  | [] => some ([], [])

/-- Read a number: an integer by its value, and one with a fraction or an exponent as it is
written.  There are no leading zeros. -/
def readDigitNumber (sign rest : List Char) : Option (Json × List Char) := do
  let (digits, rest) ← readDigits rest
  if digits.length > 1 && digits.head? == some '0' then none
  else
    let (fraction, rest) ← readFraction rest
    let (exponent, rest) ← readExponent rest
    if fraction.isEmpty && exponent.isEmpty then
      let magnitude : Nat := digits.foldl (fun n c => n * 10 + (c.toNat - '0'.toNat)) 0
      some (.int (if sign.isEmpty then magnitude else -(magnitude : Int)), rest)
    else some (.decimal (String.ofList (sign ++ digits ++ fraction ++ exponent)), rest)

/-- Read a number, one in digits or an infinite one. -/
def readNumber (cs : List Char) : Option (Json × List Char) :=
  match readSign ['-'] cs with
  | (sign, 'I' :: 'n' :: 'f' :: 'i' :: 'n' :: 'i' :: 't' :: 'y' :: rest) =>
    some (.decimal (String.ofList (sign ++ "inf".toList)), rest)
  | (sign, rest) => readDigitNumber sign rest

mutual
/-- Read one value at the front of a text. -/
def readValue : (fuel : Nat) → List Char → Option (Json × List Char)
  | 0, _ => none
  | fuel + 1, cs =>
    match skipBlanks cs with
    | 'n' :: 'u' :: 'l' :: 'l' :: rest => some (.null, rest)
    | 't' :: 'r' :: 'u' :: 'e' :: rest => some (.bool true, rest)
    | 'f' :: 'a' :: 'l' :: 's' :: 'e' :: rest => some (.bool false, rest)
    | 'N' :: 'a' :: 'N' :: rest => some (.decimal "nan", rest)
    | '"' :: rest =>
      (readTextFrom .plain rest).map fun (cs, rest) => (.text (String.ofList cs), rest)
    | '[' :: rest =>
      match skipBlanks rest with
      | ']' :: rest => some (.list [], rest)
      | rest => (readItems fuel rest).map fun (items, rest) => (.list items, rest)
    | '\x7b' :: rest =>
      match skipBlanks rest with
      | '\x7d' :: rest => some (.object [], rest)
      | rest => (readMembers fuel rest).map fun (members, rest) => (.object members, rest)
    | other => readNumber other

/-- Read the values of a list up to its closing bracket. -/
def readItems : (fuel : Nat) → List Char → Option (List Json × List Char)
  | 0, _ => none
  | fuel + 1, cs =>
    match readValue fuel cs with
    | none => none
    | some (item, rest) =>
      match skipBlanks rest with
      | ',' :: rest => (readItems fuel rest).map fun (items, rest) => (item :: items, rest)
      | ']' :: rest => some ([item], rest)
      | _ => none

/-- Read the members of an object up to its closing brace. -/
def readMembers : (fuel : Nat) → List Char → Option (List (String × Json) × List Char)
  | 0, _ => none
  | fuel + 1, cs =>
    match skipBlanks cs with
    | '"' :: rest =>
      match readTextFrom .plain rest with
      | none => none
      | some (name, rest) =>
        match skipBlanks rest with
        | ':' :: rest =>
          match readValue fuel rest with
          | none => none
          | some (value, rest) =>
            let member := (String.ofList name, value)
            match skipBlanks rest with
            | ',' :: rest =>
              (readMembers fuel rest).map fun (members, rest) => (member :: members, rest)
            | '\x7d' :: rest => some ([member], rest)
            | _ => none
        | _ => none
    | _ => none
end

/-- **Read a JSON text**: one value, with nothing but blanks after it. -/
def readChars (cs : List Char) : Option Json :=
  match readValue (2 * cs.length + 2) cs with
  | some (value, rest) => if (skipBlanks rest).isEmpty then some value else none
  | none => none

/-- Read a JSON text. -/
def read? (text : String) : Option Json :=
  readChars text.toList

end OrderBy.Json
