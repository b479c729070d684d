/-
  OrderBy.Proofs.Direction — which texts name a direction.

  The rule is said with the lower case of all letters: a text names a direction
  when, trimmed and put in lower case, it is one of the words for it
  (`Direction.Named`).  The reader lowers nothing but A to Z.  The two agree
  because a character beyond ASCII has no lower form among the letters of those
  words: of all small letters of ASCII only the k is one, of the sign for the
  kelvin.

  Main results:
    * `lower_eq_iff` — on words of small letters other than k, lowering A to Z
      is lowering;
    * `ofChars?_eq_some_iff` — the reader recognises exactly the texts that
      name a direction.
-/
import Mathlib.Tactic.ByContra
import OrderBy.Direction
import OrderBy.Text.Lower

namespace OrderBy.Text

/-! ## §1. Lower forms among the small letters -/

/-- A small letter of ASCII other than k. -/
def IsPlainLetter (c : Char) : Prop :=
  0x61 ≤ c.toNat ∧ c.toNat ≤ 0x7A ∧ c ≠ 'k'

instance (c : Char) : Decidable (IsPlainLetter c) :=
  inferInstanceAs (Decidable (0x61 ≤ c.toNat ∧ c.toNat ≤ 0x7A ∧ c ≠ 'k'))

/-- A number beyond the small letters is the code point of none of them. -/
theorem not_isPlainLetter_ofNat {n : Nat} (h : 0x7A < n) : ¬ IsPlainLetter (Char.ofNat n) := by
  -- a number that is no code point stands for the character of number zero
  have hpoint : (Char.ofNat n).toNat = n ∨ (Char.ofNat n).toNat = 0 := by
    by_cases hvalid : n.isValidChar
    · rw [Char.ofNat, dif_pos hvalid]
      exact .inl rfl
    · rw [Char.ofNat, dif_neg hvalid]
      exact .inr rfl
  rintro ⟨hfirst, hlast, _⟩
  omega

/-- The lower forms of a series of capitals lie beyond the small letters, but for that of the one
sign for the kelvin. -/
theorem lowerForm_of_mem_capitals :
    ∀ series ∈ capitals, 0x7A < series.2.2.2
      ∨ (series.1 = series.2.1 ∧ series.2.2.2 = 'k'.toNat) := by
  decide +kernel

/-- **No character beyond ASCII is lowered to a small letter other than k.** -/
theorem not_isPlainLetter_lowerChar {c : Char} (h : 0x80 ≤ c.toNat) :
    ¬ IsPlainLetter (lowerChar c) := by
  rw [lowerChar, if_neg (by omega)]
  cases hfound : capitals.findSome? (lowerIn? c) with
  | none =>
    -- the character is its own lower form
    rintro ⟨_, hlast, _⟩
    rw [Option.getD_none] at hlast
    omega
  | some lowered =>
    rw [Option.getD_some]
    obtain ⟨⟨first, last, step, lower⟩, hmem, hlowered⟩ := List.exists_of_findSome?_eq_some hfound
    unfold lowerIn? at hlowered
    dsimp only at hlowered
    split at hlowered
    next hin =>
      simp only [Bool.and_eq_true, decide_eq_true_eq] at hin
      rw [← Option.some.inj hlowered]
      rcases lowerForm_of_mem_capitals _ hmem with hbeyond | ⟨hsingle, hkelvin⟩
      · have hlower : 0x7A < lower := hbeyond
        exact not_isPlainLetter_ofNat (by omega)
      · -- the series has one member, whose lower form is the k
        dsimp only at hsingle hkelvin
        have hoffset : c.toNat - first = 0 := by omega
        rw [hoffset, hkelvin]
        decide
    next => exact absurd hlowered (by simp)

/-- So one of the forms that it is put in is no such letter. -/
theorem exists_mem_lowerForms {c : Char} (h : 0x80 ≤ c.toNat) (inWord : Bool) (rest : List Char) :
    ∃ x ∈ lowerForms inWord c rest, ¬ IsPlainLetter x := by
  unfold lowerForms
  split
  · exact ⟨'\u0307', by simp, by decide⟩
  · split
    · split
      · exact ⟨'ς', by simp, by decide⟩
      · exact ⟨'σ', by simp, by decide⟩
    · exact ⟨lowerChar c, List.mem_singleton_self _, not_isPlainLetter_lowerChar h⟩

/-! ## §2. Words of such letters -/

/-- A text whose lower case has no other characters is one of ASCII. -/
theorem ascii_of_lowerFrom {cs : List Char} {inWord : Bool}
    (h : ∀ x ∈ lowerFrom inWord cs, IsPlainLetter x) : ∀ c ∈ cs, c.toNat < 0x80 := by
  induction cs generalizing inWord with
  | nil => exact List.forall_mem_nil _
  | cons c rest ih =>
    rw [lowerFrom, List.forall_mem_append] at h
    obtain ⟨hforms, hrest⟩ := h
    rw [List.forall_mem_cons]
    refine ⟨?_, ih hrest⟩
    by_contra hbeyond
    obtain ⟨x, hx, hnot⟩ := exists_mem_lowerForms (Nat.le_of_not_lt hbeyond) inWord rest
    exact hnot (hforms x hx)

/-- So is one that becomes a text of such characters when A to Z are lowered. -/
theorem ascii_of_map_toLower {cs : List Char} (h : ∀ x ∈ cs.map Char.toLower, IsPlainLetter x) :
    ∀ c ∈ cs, c.toNat < 0x80 := by
  intro c hc
  by_contra hbeyond
  have hsame : c.toLower = c := by
    unfold Char.toLower
    rw [dif_neg]
    rintro ⟨_, hlast⟩
    have hle : c.toNat ≤ 'Z'.toNat := UInt32.le_iff_toNat_le.mp hlast
    exact hbeyond (Nat.lt_of_le_of_lt hle (by decide))
  obtain ⟨_, hlast, _⟩ := h c.toLower (List.mem_map_of_mem hc)
  rw [hsame] at hlast
  omega

/-- **A word of small letters other than k is the lower case of the texts that it is with A to Z
lowered**, and of no others. -/
theorem lower_eq_iff {word : List Char} (hword : ∀ x ∈ word, IsPlainLetter x) {cs : List Char} :
    lower cs = word ↔ cs.map Char.toLower = word := by
  constructor
  · intro h
    rw [← h] at hword
    rw [← h]
    exact (lowerFrom_of_ascii (ascii_of_lowerFrom hword) false).symm
  · intro h
    rw [← h] at hword
    rw [← h]
    exact lowerFrom_of_ascii (ascii_of_map_toLower hword) false

end OrderBy.Text

namespace OrderBy.Direction

/-! ## §3. Texts that name a direction -/

/-- **A text names a direction** when, trimmed and put in lower case, it is a word for it. -/
def Named (direction : Direction) (cs : List Char) : Prop :=
  (Text.lower (Text.strip cs), direction) ∈ keywords

/-- The words for the directions have no letter that another one is lowered to. -/
theorem isPlainLetter_of_mem_keywords :
    ∀ entry ∈ keywords, ∀ x ∈ entry.1, Text.IsPlainLetter x := by
  -- the words are gone through, and not all characters there are
  have hall : (keywords.all fun entry => entry.1.all fun x => decide (Text.IsPlainLetter x))
      = true := by decide
  intro entry hentry x hx
  exact of_decide_eq_true (List.all_eq_true.mp (List.all_eq_true.mp hall entry hentry) x hx)

/-- A word is found among the words for the directions exactly when it is one of them. -/
theorem lookup_keywords_eq_some_iff {word : List Char} {direction : Direction} :
    keywords.lookup word = some direction ↔ (word, direction) ∈ keywords := by
  constructor
  · intro h
    obtain ⟨before, after, hkeywords, _⟩ := List.lookup_eq_some_iff.mp h
    rw [hkeywords]
    exact List.mem_append_right before List.mem_cons_self
  · intro h
    have hall : ∀ entry ∈ keywords, keywords.lookup entry.1 = some entry.2 := by decide
    exact hall (word, direction) h

/-- **The reader recognises exactly the texts that name a direction.** -/
theorem ofChars?_eq_some_iff {cs : List Char} {direction : Direction} :
    ofChars? cs = some direction ↔ direction.Named cs := by
  rw [ofChars?, lookup_keywords_eq_some_iff, Named]
  constructor
  · intro h
    rwa [(Text.lower_eq_iff (isPlainLetter_of_mem_keywords _ h)).mpr rfl]
  · intro h
    rwa [(Text.lower_eq_iff (isPlainLetter_of_mem_keywords _ h)).mp rfl]

/-- It recognises none in a text exactly when the text names none. -/
theorem ofChars?_eq_none_iff {cs : List Char} :
    ofChars? cs = none ↔ ∀ direction : Direction, ¬ direction.Named cs := by
  rw [Option.eq_none_iff_forall_ne_some]
  exact forall_congr' fun direction => not_congr ofChars?_eq_some_iff

end OrderBy.Direction
