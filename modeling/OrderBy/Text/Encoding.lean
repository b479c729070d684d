/-
  OrderBy.Text.Encoding — how the octets of a text are read.

  A text is kept in octets.  They are those of UTF-8, and are mostly read as
  such; another encoding reads each octet as a character of its own, and may
  have none for some octets.  Encodings are known by several names, in which
  case and the signs between words do not count.
-/
import OrderBy.Text.Lower
import OrderBy.Text.Split

namespace OrderBy.Text

/-! ## §1. Encodings and their names -/

/-- **An encoding.** -/
inductive Encoding where
  /-- Characters of one to four octets. -/
  | utf8
  /-- The octets up to 127 alone. -/
  | ascii
  /-- Every octet is the character of its number. -/
  | latin1
  /-- As before, but with letters and signs in the place of the second set of controls. -/
  | western
  deriving DecidableEq, Repr, Inhabited

namespace Encoding

/-- The names of encodings, in lower case with one underscore between words. -/
def names : List (String × Encoding) :=
  [("utf_8", .utf8), ("utf8", .utf8), ("u8", .utf8), ("utf", .utf8), ("utf8_ucs2", .utf8),
   ("utf8_ucs4", .utf8), ("cp65001", .utf8), ("utf_8_sig", .utf8),
   ("ascii", .ascii), ("us_ascii", .ascii), ("us", .ascii), ("646", .ascii), ("cp367", .ascii),
   ("csascii", .ascii), ("ibm367", .ascii), ("iso646_us", .ascii), ("iso_ir_6", .ascii),
   ("latin_1", .latin1), ("latin1", .latin1), ("latin", .latin1), ("l1", .latin1),
   ("iso_8859_1", .latin1), ("iso8859_1", .latin1), ("iso8859", .latin1), ("8859", .latin1),
   ("cp819", .latin1), ("ibm819", .latin1), ("csisolatin1", .latin1), ("iso_ir_100", .latin1),
   ("cp1252", .western), ("1252", .western), ("windows_1252", .western)]

/-- The form of a name under which encodings are found. -/
def normalName (name : String) : List Char :=
  let isInWord (c : Char) : Bool := c.isAlphanum || c == '.'
  let words := Text.pieces [' ']
    ((Text.lower name.toList).map fun c => if isInWord c then c else ' ')
  Text.join ['_'] (words.filter fun word => !word.isEmpty)

/-- **The encoding of a name**, if there is one. -/
def ofName? (name : String) : Option Encoding :=
  names.lookup (String.ofList (normalName name))

/-! ## §2. Reading octets -/

/-- The characters of the octets from 128 to 159 in the western encoding. -/
def westernSigns : List (Option Char) :=
  [some '€', none, some '‚', some 'ƒ', some '„', some '…', some '†', some '‡', some 'ˆ', some '‰',
   some 'Š', some '‹', some 'Œ', none, some 'Ž', none, none, some '‘', some '’', some '“', some '”',
   some '•', some '–', some '—', some '˜', some '™', some 'š', some '›', some 'œ', none, some 'ž',
   some 'Ÿ']

/-- The character of an octet on its own. -/
def charOf? : Encoding → Nat → Option Char
  | .ascii, octet | .utf8, octet => if octet < 0x80 then some (Char.ofNat octet) else none
  | .latin1, octet => some (Char.ofNat octet)
  | .western, octet =>
    if 0x80 ≤ octet && octet < 0xA0 then (westernSigns[octet - 0x80]?).join
    else some (Char.ofNat octet)

/-- **An octet that has no character**, and the number of octets before it. -/
structure DecodeError where
  /-- The encoding. -/
  encoding : Encoding
  /-- The octet. -/
  octet : Nat
  /-- The number of octets before it. -/
  position : Nat
  deriving DecidableEq, Repr, Inhabited

/-- An octet in hexadecimal digits. -/
def octetText (octet : Nat) : String :=
  "0x" ++ String.ofList [Nat.digitChar (octet / 16), Nat.digitChar (octet % 16)]

/-- The wording of an error. -/
def DecodeError.message (e : DecodeError) : String :=
  let place := " codec can't decode byte " ++ octetText e.octet ++ " in position "
    ++ toString e.position ++ ": "
  match e.encoding with
  | .western => "'charmap'" ++ place ++ "character maps to <undefined>"
  | _ => "'ascii'" ++ place ++ "ordinal not in range(128)"

/-- The characters of octets that stand after some others, each on its own. -/
def decodeFrom (encoding : Encoding) (position : Nat) :
    List Nat → Except DecodeError (List Char)
  | [] => .ok []
  | octet :: rest =>
    match encoding.charOf? octet with
    | none => .error { encoding, octet, position }
    | some c => (decodeFrom encoding (position + 1) rest).map (c :: ·)

/-- **A text read in an encoding.** -/
def decode (encoding : Encoding) (text : String) : Except DecodeError String :=
  if encoding = .utf8 then .ok text
  else (decodeFrom encoding 0 (text.toUTF8.toList.map UInt8.toNat)).map String.ofList

end Encoding

end OrderBy.Text
