/-
  OrderBy.QueryString — the pairs of a query string.

  Pieces stand between ampersands; empty ones are passed over.  A piece is cut
  at its first equals sign, and without one its value is empty.  On either
  side a plus stands for a blank and `%` with two hexadecimal digits for an
  octet; any other `%` stands for itself.  The octets of each run of ASCII
  characters are then read as UTF-8, with repair.
-/
import OrderBy.Json.Reader
import OrderBy.Text.Split
import OrderBy.Text.Utf8

namespace OrderBy.QueryString

/-! ## §1. Percent decoding -/

/-- A unit of a text under decoding. -/
inductive Unit where
  /-- An octet, written as such or as an ASCII character. -/
  | octet (value : Nat)
  /-- A character beyond ASCII, which is no part of a run of octets. -/
  | plain (c : Char)
  deriving DecidableEq, Repr

/-- A character on its own. -/
def Unit.ofChar (c : Char) : Unit :=
  if c.toNat < 0x80 then .octet c.toNat else .plain c

/-- The units of a text. -/
def units : List Char → List Unit
  | '%' :: high :: low :: rest =>
    match Json.hexValue? high, Json.hexValue? low with
    | some h, some l => .octet (16 * h + l) :: units rest
    | _, _ => .octet 0x25 :: units (high :: low :: rest)
  | c :: rest => Unit.ofChar c :: units rest
  | [] => []

/-- The text of units, given the octets of the run under way, last one first. -/
def decodeRuns : (run : List Nat) → List Unit → List Char
  | run, [] => Text.Utf8.decode run.reverse
  | run, .octet value :: rest => decodeRuns (value :: run) rest
  | run, .plain c :: rest => Text.Utf8.decode run.reverse ++ c :: decodeRuns [] rest

/-- Put the characters that percent signs stand for in their place. -/
def unescape (cs : List Char) : List Char :=
  decodeRuns [] (units cs)

/-- **Decode one side of a pair.** -/
def decode (cs : List Char) : List Char :=
  unescape (cs.map fun c => if c = '+' then ' ' else c)

/-! ## §2. Pairs -/

/-- The pair of a piece. -/
def pair (piece : List Char) : String × String :=
  (String.ofList (decode (piece.takeWhile (· != '='))),
    String.ofList (decode ((piece.dropWhile (· != '=')).drop 1)))

/-- **The pairs of a query string**, in order. -/
def pairs (query : String) : List (String × String) :=
  ((Text.pieces ['&'] query.toList).filter (!·.isEmpty)).map pair

/-- A query as it arrives: in octets, each of which is taken for the character of its number. -/
def arrived (query : String) : String :=
  String.ofList (query.toList.flatMap fun c =>
    (String.utf8EncodeChar c).map fun octet => Char.ofNat octet.toNat)

/-- **The pairs of a query that arrived** with a request. -/
def received (query : String) : List (String × String) :=
  pairs (arrived query)

end OrderBy.QueryString
