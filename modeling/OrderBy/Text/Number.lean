/-
  OrderBy.Text.Number — whole numbers in texts, and their first digits.

  A number is written in decimal digits of any scripts.  It has at least one
  digit, and no more than `LongNumber.limit` of them.

  To a number of significant digits, a number is written by its first digits
  and the power of ten that the first of them stands for.  It is rounded to the
  nearest number of that many digits, and a tie goes to the one whose last digit
  is even.
-/
import OrderBy.Text.Word

namespace OrderBy.Text

/-! ## §1. Digits -/

/-- The value of a decimal digit.  The ten digits of a script follow each other. -/
def digitValue (c : Char) : Nat :=
  if c.isDigit then c.toNat - 48
  else
    match decimalDigits.find? fun range => range.1 ≤ c.toNat && c.toNat ≤ range.2 with
    | some (low, _) => (c.toNat - low) % 10
    | none => 0

/-- The number that digits stand for. -/
def valueOfDigits (digits : List Char) : Nat :=
  digits.foldl (fun n c => 10 * n + digitValue c) 0

/-! ## §2. Numbers that cannot be read -/

/-- **A whole number that has too many digits**, with how many it has. -/
structure LongNumber where
  /-- The number of its digits. -/
  digits : Nat
  deriving DecidableEq, Repr, Inhabited

namespace LongNumber

/-- The greatest number of digits of a whole number. -/
def limit : Nat := 4300

/-- Digits that are too many. -/
def of? (digits : List Char) : Option LongNumber :=
  if limit < digits.length then some ⟨digits.length⟩ else none

/-- The wording of the cause. -/
def message (number : LongNumber) : String :=
  "Exceeds the limit (" ++ toString limit ++ " digits) for integer string conversion: value has "
    ++ toString number.digits
    ++ " digits; use sys.set_int_max_str_digits() to increase the limit"

end LongNumber

/-- **Why digits are no number.** -/
inductive NumberError where
  /-- There are none. -/
  | none
  /-- There are too many. -/
  | long (number : LongNumber)
  deriving DecidableEq, Repr, Inhabited

/-- The wording of a cause. -/
def NumberError.message : NumberError → String
  | .none => "invalid literal for int() with base 10: ''"
  | .long number => number.message

/-- **The number of digits.** -/
def readNumber (digits : List Char) : Except NumberError Nat :=
  match digits, LongNumber.of? digits with
  | [], _ => .error .none
  | _, some number => .error (.long number)
  | _, none => .ok (valueOfDigits digits)

/-! ## §3. Significant digits -/

namespace Scientific

/-- **A quotient to the nearest whole number**, a tie to the even one. -/
def roundDiv (n d : Nat) : Nat :=
  if d < 2 * (n % d) ∨ (2 * (n % d) = d ∧ n / d % 2 = 1) then n / d + 1 else n / d

/-- **The first digits of a number** up to a number of digits after the first one, and the power
of ten of the first one. -/
def digits (places n : Nat) : List Char × Nat :=
  let all := Nat.toDigits 10 n
  let exponent := all.length - 1
  if exponent ≤ places then (all ++ List.replicate (places - exponent) '0', exponent)
  else
    let rounded := Nat.toDigits 10 (roundDiv n (Nat.pow 10 (exponent - places)))
    if places + 1 < rounded.length then (rounded.take (places + 1), exponent + 1)
    else (rounded, exponent)

example : digits 2 10 = (['1', '0', '0'], 1) ∧ digits 0 25 = (['2'], 1)
    ∧ digits 1 996 = (['1', '0'], 3) := by decide +kernel

end Scientific

end OrderBy.Text
