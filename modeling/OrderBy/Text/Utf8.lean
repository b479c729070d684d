/-
  OrderBy.Text.Utf8 — reading octets as UTF-8, with repair.

  The reader takes one octet at a time.  While a character is under way it
  knows the bits gathered so far, how many octets are missing, and the range
  the next octet has to lie in; the range is narrower for the second octet
  after E0, ED, F0 and F4, which keeps out overlong forms, surrogates and code
  points beyond U+10FFFF.  An octet that does not continue the character under
  way ends it as one U+FFFD and is then read afresh.
-/

namespace OrderBy.Text.Utf8

/-! ## §1. One octet at a time -/

/-- A character under way. -/
structure Started where
  /-- The bits gathered so far. -/
  bits : Nat
  /-- How many octets are still missing. -/
  missing : Nat
  /-- The least octet that may come next. -/
  low : Nat
  /-- The greatest octet that may come next. -/
  high : Nat
  deriving DecidableEq, Repr

/-- What stands for octets that are no character. -/
def replacement : Char := '\uFFFD'

/-- An octet at the start of a character: a character of its own, the start of a
longer one, or an octet that starts none. -/
def start (octet : Nat) : List Char × Option Started :=
  if octet < 0x80 then ([Char.ofNat octet], none)
  else if 0xC2 ≤ octet ∧ octet ≤ 0xDF then ([], some ⟨octet - 0xC0, 1, 0x80, 0xBF⟩)
  else if 0xE0 ≤ octet ∧ octet ≤ 0xEF then
    ([], some ⟨octet - 0xE0, 2, if octet = 0xE0 then 0xA0 else 0x80,
      if octet = 0xED then 0x9F else 0xBF⟩)
  else if 0xF0 ≤ octet ∧ octet ≤ 0xF4 then
    ([], some ⟨octet - 0xF0, 3, if octet = 0xF0 then 0x90 else 0x80,
      if octet = 0xF4 then 0x8F else 0xBF⟩)
  else ([replacement], none)

/-- Read one octet: the characters it finishes, and the character under way after it. -/
def step (state : Option Started) (octet : Nat) : List Char × Option Started :=
  match state with
  | none => start octet
  | some s =>
    if s.low ≤ octet ∧ octet ≤ s.high then
      let bits := s.bits * 64 + (octet - 0x80)
      match s.missing with
      | 0 | 1 => ([Char.ofNat bits], none)
      | missing + 1 => ([], some ⟨bits, missing, 0x80, 0xBF⟩)
    else
      let afresh := start octet
      (replacement :: afresh.1, afresh.2)

/-- The text of the octets after some state; a character still under way at the end is
one U+FFFD. -/
def decodeFrom : Option Started → List Nat → List Char
  | none, [] => []
  | some _, [] => [replacement]
  | state, octet :: rest =>
    let next := step state octet
    next.1 ++ decodeFrom next.2 rest

/-- **Octets as text.** -/
def decode (octets : List Nat) : List Char :=
  decodeFrom none octets

/-! ## §2. Plain text, and octets that are none -/

/-- Seven-bit octets are the characters of the same number. -/
theorem decode_ascii {octets : List Nat} (h : ∀ o ∈ octets, o < 0x80) :
    decode octets = octets.map Char.ofNat := by
  unfold decode
  induction octets with
  | nil => rfl
  | cons o rest ih =>
    have ho : o < 0x80 := h o List.mem_cons_self
    simp [decodeFrom, step, start, ho, ih fun x hx => h x (List.mem_cons_of_mem _ hx)]

-- a surrogate in three octets is three octets that are no character
example : decode [0xED, 0xA0, 0x80] = [replacement, replacement, replacement] := by decide

-- a character cut short is one replacement, and what follows is read as usual
example : decode [0xE2, 0x82, 0x41] = [replacement, 'A'] := by decide

end OrderBy.Text.Utf8
