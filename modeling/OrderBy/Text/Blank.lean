/-
  OrderBy.Text.Blank — classes of characters, the blank ones, trimming, and words.

  A class of characters is the list of its inclusive ranges of code points.  The
  standard classes of the library are such lists, each beside the rule that
  looks at it.

  Every rule of the library that says "blank", "trimmed" or "only dots and
  blanks" means the one class `isBlank` defined here.  It is larger than the
  ASCII class of the standard library: it holds the separators of Unicode and
  the four information separators, and it leaves out look-alikes such as U+200B
  and U+FEFF.
-/

namespace OrderBy.Text

/-! ## §1. Classes of characters -/

/-- **A class of characters**, by inclusive ranges of code points. -/
abbrev Ranges : Type := List (Nat × Nat)

/-- **Is a character in a class?** -/
def Ranges.holds (ranges : Ranges) (c : Char) : Bool :=
  ranges.any fun (low, high) => low ≤ c.toNat && c.toNat ≤ high

/-- A class holds no character below all of its ranges. -/
theorem Ranges.holds_eq_false_of_lt {ranges : Ranges} {n : Nat} {c : Char}
    (low : ranges.all (fun range => decide (n ≤ range.1)) = true) (h : c.toNat < n) :
    ranges.holds c = false := by
  induction ranges with
  | nil => rfl
  | cons range rest ih =>
    simp only [List.all_cons, Bool.and_eq_true, decide_eq_true_eq] at low
    have hlow : ¬ range.1 ≤ c.toNat := by omega
    have hrest := ih low.2
    simp only [Ranges.holds] at hrest ⊢
    simp [hlow, hrest]

/-! ## §2. The blank characters -/

/-- The ranges of the blank code points. -/
def blankRanges : Ranges :=
  [(0x09, 0x0D), (0x1C, 0x20), (0x85, 0x85), (0xA0, 0xA0), (0x1680, 0x1680), (0x2000, 0x200A),
   (0x2028, 0x2029), (0x202F, 0x202F), (0x205F, 0x205F), (0x3000, 0x3000)]

/-- A character is blank when its code point lies in one of `blankRanges`. -/
def isBlank (c : Char) : Bool :=
  blankRanges.holds c

/-! ## §3. Trimming -/

/-- Drop the leading blanks. -/
def stripStart (cs : List Char) : List Char :=
  cs.dropWhile isBlank

/-- Drop the trailing blanks. -/
def stripEnd (cs : List Char) : List Char :=
  (cs.reverse.dropWhile isBlank).reverse

/-- **Trim**: drop the blanks on either side. -/
def strip (cs : List Char) : List Char :=
  stripEnd (stripStart cs)

@[simp] theorem stripEnd_nil : stripEnd [] = [] := rfl

/-- A text is trimmed when trimming does not change it. -/
def IsTrimmed (cs : List Char) : Prop :=
  strip cs = cs

instance (cs : List Char) : Decidable (IsTrimmed cs) :=
  inferInstanceAs (Decidable (strip cs = cs))

/-- A text with no character other than blanks. -/
def isBlankText (cs : List Char) : Bool :=
  (strip cs).isEmpty

/-! ## §4. Words -/

/-- The words of what follows a word under way. -/
def wordsFrom (word : List Char) : List Char → List (List Char)
  | [] => if word.isEmpty then [] else [word]
  | c :: rest =>
    if isBlank c then
      if word.isEmpty then wordsFrom [] rest else word :: wordsFrom [] rest
    else wordsFrom (word ++ [c]) rest

/-- **The words of a text**: its runs of characters that are not blank. -/
def words (cs : List Char) : List (List Char) :=
  wordsFrom [] cs

example : words [' ', 'a', ' ', ' ', 'b', '\t', 'c', 'd'] = [['a'], ['b'], ['c', 'd']] := by decide

end OrderBy.Text
