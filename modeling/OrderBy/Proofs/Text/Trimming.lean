/-
  OrderBy.Proofs.Text.Trimming — what trimming takes away, and what it leaves.

  Trimming cuts a text into blanks, a middle that is kept, and blanks again
  (`exists_append_strip`).  All that later modules need follows from this cut
  and from the two ends of the middle, neither of which is blank.

  Main results:
    * `mem_strip_of_not_blank` — no character is lost but blanks;
    * `isTrimmed_iff` — a text is trimmed when neither of its ends is blank;
    * `strip_strip` — trimming a second time changes nothing;
    * `strip_surround` — trimming takes away all blanks put around a text;
    * `strip_map_toLower` — trimming and lowering A to Z go in either order.
-/
import Mathlib.Data.List.DropRight
import OrderBy.Text.Blank

namespace OrderBy.Text

/-! ## §1. The cut -/

/-- Trimming leaves the middle of a text, between blanks on either side. -/
theorem exists_append_strip (cs : List Char) :
    ∃ front back, cs = front ++ strip cs ++ back
      ∧ (∀ c ∈ front, isBlank c = true) ∧ (∀ c ∈ back, isBlank c = true) := by
  refine ⟨cs.takeWhile isBlank, (stripStart cs).rtakeWhile isBlank, ?_, ?_, ?_⟩
  · -- the blanks at the end are dropped from what is left once those in front are
    have hend : strip cs ++ (stripStart cs).rtakeWhile isBlank = stripStart cs :=
      List.rdropWhile_append_rtakeWhile
    rw [List.append_assoc, hend]
    exact List.takeWhile_append_dropWhile.symm
  · intro c hc
    exact List.mem_takeWhile_imp hc
  · intro c hc
    exact List.mem_rtakeWhile_imp hc

theorem isInfix_strip (cs : List Char) : strip cs <:+: cs := by
  obtain ⟨front, back, hcs, _, _⟩ := exists_append_strip cs
  exact ⟨front, back, hcs.symm⟩

/-- Trimming keeps every character that is not blank. -/
theorem mem_strip_of_not_blank {c : Char} {cs : List Char} (hc : isBlank c = false)
    (h : c ∈ cs) : c ∈ strip cs := by
  obtain ⟨front, back, hcs, hfront, hback⟩ := exists_append_strip cs
  rw [hcs, List.mem_append, List.mem_append] at h
  rcases h with (hin | hin) | hin
  · rw [hfront c hin] at hc
    exact absurd hc (by decide)
  · exact hin
  · rw [hback c hin] at hc
    exact absurd hc (by decide)

theorem strip_eq_nil_iff {cs : List Char} : strip cs = [] ↔ ∀ c ∈ cs, isBlank c = true := by
  constructor
  · intro h c hc
    by_contra hblank
    rw [Bool.not_eq_true] at hblank
    have hmem := mem_strip_of_not_blank hblank hc
    rw [h] at hmem
    exact absurd hmem List.not_mem_nil
  · intro h
    have hstart : stripStart cs = [] := List.dropWhile_eq_nil_iff.mpr h
    rw [strip, hstart, stripEnd_nil]

theorem isBlankText_iff {cs : List Char} :
    isBlankText cs = true ↔ ∀ c ∈ cs, isBlank c = true := by
  rw [isBlankText, List.isEmpty_iff, strip_eq_nil_iff]

/-- A text is not blank when it has a character that is not. -/
theorem isBlankText_eq_false_iff {cs : List Char} :
    isBlankText cs = false ↔ ∃ c ∈ cs, isBlank c = false := by
  rw [← Bool.not_eq_true, isBlankText_iff]
  push Not
  simp only [ne_eq, Bool.not_eq_true]

/-! ## §2. Trimmed texts -/

/-- Neither end of what trimming leaves is blank. -/
theorem isBlank_ends_strip {cs : List Char} (h : strip cs ≠ []) :
    isBlank ((strip cs).head h) = false ∧ isBlank ((strip cs).getLast h) = false := by
  have hfirst : strip cs <+: stripStart cs := List.rdropWhile_prefix isBlank (stripStart cs)
  have hstart : stripStart cs ≠ [] := by
    intro hnil
    rw [hnil] at hfirst
    exact h (List.prefix_nil.mp hfirst)
  constructor
  · rw [hfirst.head h]
    exact List.head_dropWhile_not isBlank hstart
  · have hlast := List.rdropWhile_last_not isBlank (stripStart cs) h
    rwa [Bool.not_eq_true] at hlast

/-- **A text is trimmed when neither of its ends is blank.** -/
theorem isTrimmed_iff {cs : List Char} :
    IsTrimmed cs ↔ ∀ h : cs ≠ [], isBlank (cs.head h) = false ∧ isBlank (cs.getLast h) = false := by
  constructor
  · intro htrim h
    have hs : strip cs = cs := htrim
    have hends : isBlank ((strip cs).head _) = false ∧ isBlank ((strip cs).getLast _) = false :=
      isBlank_ends_strip (by rw [hs]; exact h)
    simpa only [hs] using hends
  · intro h
    by_cases hne : cs = []
    · rw [hne]
      rfl
    · -- neither of the two steps finds a blank to drop
      obtain ⟨hhead, hlast⟩ := h hne
      have hstart : stripStart cs = cs := by
        rw [stripStart, List.dropWhile_eq_self_iff]
        intro hpos
        rw [List.head_eq_getElem] at hhead
        simp [hhead]
      have hend : stripEnd cs = cs := by
        refine List.rdropWhile_eq_self_iff.mpr ?_
        intro _
        simp [hlast]
      show stripEnd (stripStart cs) = cs
      rw [hstart, hend]

/-- **Trimming a second time changes nothing.** -/
theorem strip_strip (cs : List Char) : strip (strip cs) = strip cs :=
  isTrimmed_iff.mpr fun h => isBlank_ends_strip h

/-- The last character of a trimmed text is not blank. -/
theorem isBlank_of_isTrimmed_append {cs : List Char} {c : Char} (h : IsTrimmed (cs ++ [c])) :
    isBlank c = false := by
  have hlast := (isTrimmed_iff.mp h (by simp)).2
  simpa using hlast

/-! ## §3. Texts put together -/

theorem stripStart_append_of_not_blank {front : List Char} (h : ∃ x ∈ front, isBlank x = false)
    (back : List Char) : stripStart (front ++ back) = stripStart front ++ back := by
  obtain ⟨x, hx, hblank⟩ := h
  rw [stripStart, List.dropWhile_append, if_neg]
  · rfl
  · intro hempty
    have hall := List.dropWhile_eq_nil_iff.mp (List.isEmpty_iff.mp hempty) x hx
    rw [hblank] at hall
    exact absurd hall (by decide)

/-- Of a text that goes on with one that has no blank at its end, trimming only takes the
leading blanks. -/
theorem strip_append_of_not_blank {front back : List Char} {c : Char}
    (hfront : ∃ x ∈ front, isBlank x = false) (hc : isBlank c = false) :
    strip (front ++ (back ++ [c])) = stripStart front ++ (back ++ [c]) := by
  rw [strip, stripStart_append_of_not_blank hfront]
  show List.rdropWhile isBlank (stripStart front ++ (back ++ [c])) = _
  rw [← List.append_assoc, List.rdropWhile_concat_neg _ _ _ (by simp [hc])]

/-- **Trimming takes away all blanks that a text is surrounded with.** -/
theorem strip_surround {front back : List Char} (hfront : ∀ c ∈ front, isBlank c = true)
    (hback : ∀ c ∈ back, isBlank c = true) (cs : List Char) :
    strip (front ++ cs ++ back) = strip cs := by
  by_cases hblank : ∀ c ∈ cs, isBlank c = true
  · -- a blank text is dropped whole, and so is it with the blanks around it
    have hall : ∀ c ∈ front ++ cs ++ back, isBlank c = true :=
      List.forall_mem_append.mpr ⟨List.forall_mem_append.mpr ⟨hfront, hblank⟩, hback⟩
    rw [strip_eq_nil_iff.mpr hall, strip_eq_nil_iff.mpr hblank]
  · push Not at hblank
    simp only [ne_eq, Bool.not_eq_true] at hblank
    -- otherwise trimming stops inside the text from either side
    have hstart : stripStart (front ++ cs ++ back) = stripStart cs ++ back := by
      rw [List.append_assoc, stripStart, List.dropWhile_append,
        List.dropWhile_eq_nil_iff.mpr hfront]
      exact stripStart_append_of_not_blank hblank back
    have hend : back.reverse.dropWhile isBlank = [] := by
      rw [List.dropWhile_eq_nil_iff]
      intro c hc
      exact hback c (List.mem_reverse.mp hc)
    rw [strip, hstart, stripEnd, List.reverse_append, List.dropWhile_append, hend]
    rfl

/-! ## §4. Lower case -/

theorem isBlank_eq_false_of_visible {c : Char} (hfirst : 0x21 ≤ c.toNat)
    (hlast : c.toNat ≤ 0x7E) : isBlank c = false := by
  have hapart : ∀ range ∈ blankRanges, range.2 < 0x21 ∨ 0x7E < range.1 := by decide
  rw [Bool.eq_false_iff]
  intro hblank
  obtain ⟨range, hrange, hin⟩ := List.any_eq_true.mp hblank
  simp only [Bool.and_eq_true, decide_eq_true_eq] at hin
  have hside := hapart range hrange
  omega

/-- Lowering A to Z makes no character blank, and none that is blank visible. -/
theorem isBlank_toLower (c : Char) : isBlank c.toLower = isBlank c := by
  unfold Char.toLower
  split
  next h =>
    have hfirst : 'A'.toNat ≤ c.toNat := UInt32.le_iff_toNat_le.mp h.1
    have hlast : c.toNat ≤ 'Z'.toNat := UInt32.le_iff_toNat_le.mp h.2
    have hbounds : 'A'.toNat = 0x41 ∧ 'Z'.toNat = 0x5A := by decide
    -- a capital and its small letter are both visible
    have hlower : (c.val + ('a'.val - 'A'.val)).toNat = c.toNat + 0x20 := by
      rw [UInt32.toNat_add]
      show (c.toNat + 0x20) % 2 ^ 32 = c.toNat + 0x20
      omega
    rw [isBlank_eq_false_of_visible (c := c) (by omega) (by omega), isBlank_eq_false_of_visible]
    · show 0x21 ≤ (c.val + ('a'.val - 'A'.val)).toNat
      omega
    · show (c.val + ('a'.val - 'A'.val)).toNat ≤ 0x7E
      omega
  next => rfl

/-- **Trimming is the same before and after lowering A to Z.** -/
theorem strip_map_toLower (cs : List Char) :
    strip (cs.map Char.toLower) = (strip cs).map Char.toLower := by
  have hsame : isBlank ∘ Char.toLower = isBlank := funext isBlank_toLower
  have hstart : stripStart (cs.map Char.toLower) = (stripStart cs).map Char.toLower := by
    rw [stripStart, List.dropWhile_map, hsame]
    rfl
  rw [strip, hstart, stripEnd, ← List.map_reverse, List.dropWhile_map, hsame, ← List.map_reverse]
  rfl

end OrderBy.Text
