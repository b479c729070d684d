/-
  OrderBy.Proofs.Log.Template — which templates are accepted.

  A directive has a form that can be told without reading it from left to right:
  a name in parentheses, flags, a width, a precision and a letter, each of
  certain characters (`IsDirective`).  A template is accepted exactly when some
  part of it has that form (`isValid_iff`).

  Reading from left to right takes as many characters for each part as it can.
  Only a zero is at home in two parts: as a flag, and as a digit of the width.
  A width may lose its first zeros to the flags, and what is left of it is a
  width again, so that reading finds a directive wherever there is one.
-/
import Mathlib.Data.List.TakeWhile
import OrderBy.Log.Template

namespace OrderBy.Log.Template

open OrderBy.Text

/-! ## §1. The form of a directive -/

/-- A number, or a star in place of one. -/
inductive IsCount : List Char → Prop where
  | star : IsCount ['*']
  | number {digits : List Char} : digits ≠ [] → (∀ c ∈ digits, isDecimalDigit c = true) →
      IsCount digits

/-- A width, which may be left out. -/
inductive IsWidth : List Char → Prop where
  | none : IsWidth []
  | count {cs : List Char} : IsCount cs → IsWidth cs

/-- A precision, which may be left out. -/
inductive IsPrecision : List Char → Prop where
  | none : IsPrecision []
  | count {cs : List Char} : IsCount cs → IsPrecision ('.' :: cs)

/-- What follows the name of a directive: flags, a width, a precision and a letter. -/
inductive IsEnding : List Char → Prop where
  | mk {flags width precision : List Char} {letter : Char} : (∀ c ∈ flags, isFlag c = true) →
      IsWidth width → IsPrecision precision → isConversion letter = true →
      IsEnding (flags ++ (width ++ (precision ++ [letter])))

/-- **The form of a directive**, as `%(name)-8.3s`. -/
inductive IsDirective : List Char → Prop where
  | mk {name ending : List Char} : name ≠ [] → (∀ c ∈ name, isWordChar c = true) →
      IsEnding ending → IsDirective ('%' :: '(' :: (name ++ ')' :: ending))

/-! ## §2. Characters of its parts -/

/-- A character that belongs neither to the flags nor to a count. -/
structure Ends (c : Char) : Prop where
  flag : isFlag c = false
  digit : isDecimalDigit c = false
  star : c ≠ '*'

theorem ends_dot : Ends '.' := by
  constructor <;> decide

/-- No letter of a directive is a decimal digit. -/
theorem isDecimalDigit_of_isConversion {c : Char} (h : isConversion c = true) :
    isDecimalDigit c = false := by
  have hletters : ("diouxefgcrsa%".toList.all fun x => decide (x.toNat < 0x660) && !x.isDigit)
      = true := by decide
  -- whatever its case, it stands before all digits beyond ASCII, and is none of ASCII
  have hbounds : c.toNat < 0x660 ∧ c.isDigit = false := by
    rw [isConversion, Bool.or_eq_true, Bool.or_eq_true, Bool.or_eq_true,
      List.contains_iff_mem, beq_iff_eq, beq_iff_eq, beq_iff_eq] at h
    rcases h with ((hlower | rfl) | rfl) | rfl
    · have hlower := List.all_eq_true.mp hletters _ hlower
      rw [Bool.and_eq_true, decide_eq_true_eq, Bool.not_eq_true'] at hlower
      unfold Char.toLower at hlower
      split at hlower
      next hcapital =>
        have hfirst : 'A'.toNat ≤ c.toNat := UInt32.le_iff_toNat_le.mp hcapital.1
        have hlast : c.toNat ≤ 'Z'.toNat := UInt32.le_iff_toNat_le.mp hcapital.2
        have hcodes : 'A'.toNat = 0x41 ∧ 'Z'.toNat = 0x5A ∧ '9'.toNat = 0x39 := by decide
        refine ⟨by omega, ?_⟩
        rw [Char.isDigit, Bool.and_eq_false_iff]
        right
        rw [decide_eq_false_iff_not]
        intro hle
        have hle : c.toNat ≤ '9'.toNat := UInt32.le_iff_toNat_le.mp hle
        omega
      next => exact hlower
    · decide
    · decide
    · decide
  have hbeyond : decimalDigits.holds c = false := Ranges.holds_eq_false_of_lt (by decide) hbounds.1
  rw [isDecimalDigit, hbounds.2, hbeyond]
  rfl

theorem ends_of_isConversion {c : Char} (h : isConversion c = true) : Ends c := by
  constructor
  · -- there are only five flags, none of them a letter
    by_contra hflag
    rw [Bool.not_eq_false] at hflag
    simp only [isFlag, Bool.or_eq_true, beq_iff_eq] at hflag
    rcases hflag with (((rfl | rfl) | rfl) | rfl) | rfl <;> exact absurd h (by decide)
  · exact isDecimalDigit_of_isConversion h
  · rintro rfl
    exact absurd h (by decide)

theorem ne_dot_of_isConversion {c : Char} (h : isConversion c = true) : c ≠ '.' := by
  rintro rfl
  exact absurd h (by decide)

/-! ## §3. Counts -/

section Counts

variable {cs width rest : List Char} {c : Char}

/-- A text is left as it is that starts with a character of no count. -/
theorem skipCount_cons (h : Ends c) (rest : List Char) : skipCount (c :: rest) = c :: rest := by
  unfold skipCount
  split
  next heq => exact absurd (List.cons.inj heq).1 h.star
  next => rw [List.dropWhile_cons, if_neg (by simp [h.digit])]

theorem skipCount_of_isWidth (hwidth : IsWidth width) (hc : Ends c) (rest : List Char) :
    skipCount (width ++ c :: rest) = c :: rest := by
  cases hwidth with
  | none => exact skipCount_cons hc rest
  | count hcount =>
    cases hcount with
    | star => rfl
    | number hne hdigits =>
      have hdrop : (width ++ c :: rest).dropWhile isDecimalDigit = c :: rest := by
        rw [List.dropWhile_append_of_pos hdigits, List.dropWhile_cons, if_neg (by simp [hc.digit])]
      obtain ⟨first, others, rfl⟩ := List.exists_cons_of_ne_nil hne
      -- its first character is a digit, so it is no star
      have hfirst : first ≠ '*' := by
        rintro rfl
        exact absurd (hdigits '*' List.mem_cons_self) (by decide)
      unfold skipCount
      split
      next heq => exact absurd (List.cons.inj heq).1 hfirst
      next => exact hdrop

/-- What is skipped is a width. -/
theorem exists_isWidth_append_skipCount (cs : List Char) :
    ∃ width, IsWidth width ∧ cs = width ++ skipCount cs := by
  unfold skipCount
  split
  next rest => exact ⟨['*'], .count .star, rfl⟩
  next =>
    refine ⟨cs.takeWhile isDecimalDigit, ?_, List.takeWhile_append_dropWhile.symm⟩
    by_cases hnone : cs.takeWhile isDecimalDigit = []
    · rw [hnone]
      exact .none
    · exact .count (.number hnone fun c hc => List.mem_takeWhile_imp hc)

/-- Flags take no more from a width than its first zeros. -/
theorem exists_dropWhile_isFlag (hwidth : IsWidth width) (hc : Ends c) (rest : List Char) :
    ∃ left, IsWidth left ∧ (width ++ c :: rest).dropWhile isFlag = left ++ c :: rest := by
  have hrest : (c :: rest).dropWhile isFlag = c :: rest := by
    rw [List.dropWhile_cons, if_neg (by simp [hc.flag])]
  cases hwidth with
  | none => exact ⟨[], .none, hrest⟩
  | count hcount =>
    cases hcount with
    | star => exact ⟨['*'], .count .star, rfl⟩
    | number _ hdigits =>
      rw [List.dropWhile_append]
      by_cases hnone : width.dropWhile isFlag = []
      · rw [if_pos (by rw [hnone]; rfl), hrest]
        exact ⟨[], .none, rfl⟩
      · rw [if_neg (by simpa using hnone)]
        refine ⟨width.dropWhile isFlag, .count (.number hnone fun x hx => ?_), rfl⟩
        exact hdigits x ((List.dropWhile_sublist isFlag).subset hx)

end Counts

/-! ## §4. Reading a directive -/

/-- Where the flags and the width end with a letter, so does the directive. -/
theorem endsDirective_of_letter {cs rest : List Char} {letter : Char}
    (hwidth : skipCount (cs.dropWhile isFlag) = letter :: rest)
    (hletter : isConversion letter = true) : endsDirective cs = true := by
  unfold endsDirective
  simp only [hwidth]
  split
  next heq => exact absurd (List.cons.inj heq).1 (ne_dot_of_isConversion hletter)
  next => exact hletter

/-- Where they end with a precision, it ends with the letter behind that. -/
theorem endsDirective_of_dot {cs count rest : List Char} {letter : Char}
    (hwidth : skipCount (cs.dropWhile isFlag) = '.' :: (count ++ letter :: rest))
    (hcount : IsCount count) (hletter : isConversion letter = true) :
    endsDirective cs = true := by
  have hskip := skipCount_of_isWidth (.count hcount) (ends_of_isConversion hletter) rest
  have hshorter : (letter :: rest).length < (count ++ letter :: rest).length := by
    have hne : count ≠ [] := by
      cases hcount with
      | star => decide
      | number hne _ => exact hne
    have hpos := List.length_pos_iff.mpr hne
    rw [List.length_append]
    omega
  unfold endsDirective
  simp only [hwidth, hskip, if_pos hshorter]
  exact hletter

theorem endsDirective_of_isEnding {ending : List Char} (h : IsEnding ending) (rest : List Char) :
    endsDirective (ending ++ rest) = true := by
  obtain @⟨flags, width, precision, letter, hflags, hwidth, hprecision, hletter⟩ := h
  -- the flags are dropped, and with them perhaps the first zeros of the width
  have hdrop : ∀ c others, precision ++ letter :: rest = c :: others → Ends c →
      skipCount ((flags ++ (width ++ (precision ++ [letter])) ++ rest).dropWhile isFlag)
        = c :: others := by
    intro c others hcons hc
    obtain ⟨left, hleft, hdrop⟩ := exists_dropWhile_isFlag hwidth hc others
    rw [List.append_assoc, List.append_assoc, List.append_assoc, List.singleton_append, hcons,
      List.dropWhile_append_of_pos hflags, hdrop, skipCount_of_isWidth hleft hc]
  cases hprecision with
  | none =>
    exact endsDirective_of_letter (hdrop letter rest rfl (ends_of_isConversion hletter)) hletter
  | count hcount => exact endsDirective_of_dot (hdrop '.' _ rfl ends_dot) hcount hletter

theorem exists_isEnding_of_endsDirective {cs : List Char} (h : endsDirective cs = true) :
    ∃ ending, IsEnding ending ∧ ending <+: cs := by
  obtain ⟨width, hwidth, hcs⟩ := exists_isWidth_append_skipCount (cs.dropWhile isFlag)
  have hflags : ∀ c ∈ cs.takeWhile isFlag, isFlag c = true := fun c hc => List.mem_takeWhile_imp hc
  -- what has been read of the text, up to where the precision may start
  have hsplit : cs = cs.takeWhile isFlag ++ (width ++ skipCount (cs.dropWhile isFlag)) := by
    rw [← hcs, List.takeWhile_append_dropWhile]
  -- a letter ends it, whatever has been read as the precision
  have hletter : ∀ precision tail : List Char, IsPrecision precision →
      skipCount (cs.dropWhile isFlag) = precision ++ tail →
      (tail.head?.map isConversion).getD false = true →
      ∃ ending, IsEnding ending ∧ ending <+: cs := by
    intro precision tail hprecision hafter hhead
    cases tail with
    | nil => exact absurd hhead (by decide)
    | cons letter rest =>
      refine ⟨_, .mk hflags hwidth hprecision hhead, rest, ?_⟩
      rw [hafter] at hsplit
      rw [List.append_assoc, List.append_assoc, List.append_assoc, List.singleton_append]
      exact hsplit.symm
  unfold endsDirective at h
  dsimp only at h
  split at h
  next rest hafter =>
    split at h
    next hshorter =>
      obtain ⟨count, hcount, hrest⟩ := exists_isWidth_append_skipCount rest
      cases hcount with
      | none =>
        rw [List.nil_append] at hrest
        rw [← hrest] at hshorter
        exact absurd hshorter (Nat.lt_irrefl _)
      | count hcount =>
        refine hletter ('.' :: count) (skipCount rest) (.count hcount) ?_ h
        rw [hafter, List.cons_append, ← hrest]
    next => exact hletter [] _ .none rfl h
  next => exact hletter [] _ .none rfl h

/-- **A directive starts where some text of its form does.** -/
theorem startsDirective_iff {cs : List Char} :
    startsDirective cs = true ↔ ∃ directive, IsDirective directive ∧ directive <+: cs := by
  constructor
  · intro h
    unfold startsDirective at h
    split at h
    next rest =>
      split at h
      next after hafter =>
        rw [Bool.and_eq_true] at h
        -- the name is what the reader skipped, the ending what it found behind the bracket
        obtain ⟨ending, hending, back, hback⟩ := exists_isEnding_of_endsDirective h.2
        have hname : rest.takeWhile isWordChar ≠ [] := by
          cases rest with
          | nil => exact absurd hafter (by simp)
          | cons first others =>
            have hfirst : isWordChar first = true := h.1
            rw [List.takeWhile_cons, if_pos hfirst]
            exact List.cons_ne_nil _ _
        refine ⟨_, .mk hname (fun c hc => List.mem_takeWhile_imp hc) hending, back, ?_⟩
        have hrest : rest.takeWhile isWordChar ++ ')' :: after = rest := by
          rw [← hafter, List.takeWhile_append_dropWhile]
        rw [List.cons_append, List.cons_append, List.append_assoc, List.cons_append, hback, hrest]
      next => exact absurd h (by decide)
    next => exact absurd h (by decide)
  · rintro ⟨_, @⟨name, ending, hname, hword, hending⟩, back, rfl⟩
    -- no character of the name is the closing bracket, so the reader stops at it
    have hclose : isWordChar ')' = false := by decide +kernel
    have hdrop : (name ++ ')' :: (ending ++ back)).dropWhile isWordChar
        = ')' :: (ending ++ back) := by
      rw [List.dropWhile_append_of_pos hword, List.dropWhile_cons, if_neg (by simp [hclose])]
    obtain ⟨first, others, rfl⟩ := List.exists_cons_of_ne_nil hname
    have hfirst : isWordChar first = true := hword first List.mem_cons_self
    show startsDirective ('%' :: '(' :: ((first :: others) ++ ')' :: ending ++ back)) = true
    rw [List.append_assoc, List.cons_append (a := ')')]
    unfold startsDirective
    simp only [hdrop, endsDirective_of_isEnding hending back, Bool.and_true]
    exact hfirst

theorem hasDirective_iff {cs : List Char} :
    hasDirective cs = true ↔ ∃ directive, IsDirective directive ∧ directive <:+: cs := by
  induction cs with
  | nil =>
    constructor
    · intro h
      exact absurd h (by decide)
    · rintro ⟨directive, hdirective, hinfix⟩
      rw [List.infix_nil] at hinfix
      subst hinfix
      cases hdirective
  | cons c rest ih =>
    rw [hasDirective, Bool.or_eq_true, startsDirective_iff, ih]
    simp only [List.infix_cons_iff, and_or_left, exists_or]

/-- **A template is accepted when some part of it is a directive.** -/
theorem isValid_iff {template : String} :
    isValid template = true
      ↔ ∃ directive, IsDirective directive ∧ directive <:+: template.toList :=
  hasDirective_iff

end OrderBy.Log.Template
