/-
  OrderBy.Proofs.Text.Occurrence — where a delimiter stands in a text.

  Cutting takes the occurrences of a delimiter from the left, so what counts
  for a piece is not only that it does not hold the delimiter: written in front
  of the delimiter it must not make it stand too early either.  With the
  delimiter `::` the piece `a:` does, since in `a:::` it stands at 1.

  Main results:
    * `firstStandsAt_append_iff` — whether a delimiter first stands behind a piece
      does not depend on what follows it;
    * `exists_clear_of_infix` — a text that holds the delimiter is a piece clear
      of it, the delimiter, and a rest;
    * `clear_prepend_of_disjoint`, `clear_append_of_disjoint` — characters that the
      delimiter does not have keep a piece clear of it on either side;
    * `clear_or_overlap` — a piece that does not hold the delimiter is clear of
      it, or ends in the head of a shift of it;
    * `clear_of_borderless` — a delimiter that does not start as it ends has no
      shift, so the first case is the only one.
-/
import Mathlib.Data.List.Infix
import OrderBy.Text.Split

namespace OrderBy.Text

/-- A text that is not empty has characters. -/
theorem toList_ne_nil {text : String} (h : text ≠ "") : text.toList ≠ [] := by
  intro hnil
  exact h (String.toList_eq_nil_iff.mp hnil)

/-! ## §1. Standing at an offset -/

/-- The delimiter stands in the text at an offset. -/
def StandsAt (delimiter text : List Char) (offset : Nat) : Prop :=
  delimiter <+: text.drop offset

/-- The offset is the first one at which the delimiter stands in the text. -/
def FirstStandsAt (delimiter text : List Char) (offset : Nat) : Prop :=
  StandsAt delimiter text offset ∧ ∀ earlier, earlier < offset → ¬ StandsAt delimiter text earlier

/-- **A piece is clear of a delimiter** when, in the piece followed by the delimiter, the
delimiter first stands behind the piece. -/
def Clear (delimiter piece : List Char) : Prop :=
  FirstStandsAt delimiter (piece ++ delimiter) piece.length

instance (delimiter text : List Char) (offset : Nat) : Decidable (StandsAt delimiter text offset) :=
  inferInstanceAs (Decidable (delimiter <+: text.drop offset))

instance (delimiter text : List Char) (offset : Nat) :
    Decidable (FirstStandsAt delimiter text offset) :=
  inferInstanceAs (Decidable
    (StandsAt delimiter text offset
      ∧ ∀ earlier, earlier < offset → ¬ StandsAt delimiter text earlier))

instance (delimiter piece : List Char) : Decidable (Clear delimiter piece) :=
  inferInstanceAs (Decidable (FirstStandsAt delimiter (piece ++ delimiter) piece.length))

/-- The empty piece is clear of every delimiter. -/
theorem clear_nil (delimiter : List Char) : Clear delimiter [] := by
  constructor
  · exact List.prefix_rfl
  · intro earlier h
    exact absurd h (Nat.not_lt_zero earlier)

/-- A character in front keeps a piece clear when the delimiter does not stand there. -/
theorem clear_cons_iff {delimiter piece : List Char} {c : Char} :
    Clear delimiter (c :: piece)
      ↔ ¬ delimiter <+: c :: (piece ++ delimiter) ∧ Clear delimiter piece := by
  constructor
  · rintro ⟨hstands, hfirst⟩
    refine ⟨hfirst 0 (Nat.zero_lt_succ _), hstands, ?_⟩
    intro earlier h
    exact hfirst (earlier + 1) (Nat.succ_lt_succ h)
  · rintro ⟨hfront, hstands, hfirst⟩
    refine ⟨hstands, ?_⟩
    intro earlier h
    cases earlier with
    | zero => exact hfront
    | succ earlier => exact hfirst earlier (Nat.lt_of_succ_lt_succ h)

/-- A piece that is clear of a delimiter does not hold it. -/
theorem not_infix_of_clear {delimiter piece : List Char} (hd : delimiter ≠ [])
    (h : Clear delimiter piece) : ¬ delimiter <:+: piece := by
  rintro ⟨front, back, hpiece⟩
  have hlen : front.length < piece.length := by
    have hpos := List.length_pos_of_ne_nil hd
    rw [← hpiece]
    simp only [List.length_append]
    omega
  -- it would stand in the piece, before the place where it first stands
  refine h.2 front.length hlen ?_
  refine ⟨back ++ delimiter, ?_⟩
  rw [← hpiece]
  simp

/-- What follows the delimiter does not change where it first stands. -/
theorem firstStandsAt_append_iff {delimiter piece rest : List Char} :
    FirstStandsAt delimiter (piece ++ delimiter ++ rest) piece.length ↔ Clear delimiter piece := by
  -- up to the end of the piece, the delimiter ends before the rest begins
  have hsame : ∀ offset, offset ≤ piece.length →
      (StandsAt delimiter (piece ++ delimiter ++ rest) offset
        ↔ StandsAt delimiter (piece ++ delimiter) offset) := by
    intro offset hle
    have hdrop : (piece ++ delimiter ++ rest).drop offset
        = (piece ++ delimiter).drop offset ++ rest := by
      rw [List.drop_append_of_le_length]
      simp only [List.length_append]
      omega
    rw [StandsAt, StandsAt, hdrop]
    constructor
    · intro h
      refine List.prefix_of_prefix_length_le h (List.prefix_append _ rest) ?_
      simp only [List.length_drop, List.length_append]
      omega
    · intro h
      exact h.trans (List.prefix_append _ rest)
  refine and_congr (hsame piece.length (Nat.le_refl _)) (forall_congr' fun earlier => ?_)
  exact imp_congr_right fun hlt => not_congr (hsame earlier (Nat.le_of_lt hlt))

/-- A text is cut in three where the delimiter first stands. -/
theorem eq_append_of_firstStandsAt {delimiter text : List Char} {offset : Nat}
    (h : FirstStandsAt delimiter text offset) :
    text = text.take offset ++ delimiter ++ text.drop (offset + delimiter.length)
      ∧ Clear delimiter (text.take offset) := by
  obtain ⟨rest, hrest⟩ := h.1
  have hback : text.drop (offset + delimiter.length) = rest := by
    rw [← List.drop_drop, ← hrest, List.drop_left]
  have htext : text = text.take offset ++ delimiter ++ rest := by
    rw [List.append_assoc, hrest, List.take_append_drop]
  have hlen : (text.take offset).length = offset := by
    rw [List.length_take_of_le]
    by_contra hlong
    -- nothing is left at the offset, so the delimiter is empty and stands at the front
    rw [List.drop_eq_nil_of_le (by omega), List.append_eq_nil_iff] at hrest
    refine h.2 0 (by omega) ?_
    rw [hrest.1]
    exact List.nil_prefix
  rw [hback]
  refine ⟨htext, ?_⟩
  have hfirst : FirstStandsAt delimiter (text.take offset ++ delimiter ++ rest)
      (text.take offset).length := by
    rw [← htext, hlen]
    exact h
  exact firstStandsAt_append_iff.mp hfirst

/-- **A text that holds the delimiter** is a piece clear of it, the delimiter, and a rest. -/
theorem exists_clear_of_infix {delimiter text : List Char} (h : delimiter <:+: text) :
    ∃ piece rest, text = piece ++ delimiter ++ rest ∧ Clear delimiter piece := by
  induction text with
  | nil =>
    rw [List.infix_nil.mp h]
    exact ⟨[], [], rfl, clear_nil []⟩
  | cons c text ih =>
    by_cases hfront : delimiter <+: c :: text
    · -- nothing stands before it
      obtain ⟨rest, hrest⟩ := hfront
      exact ⟨[], rest, hrest.symm, clear_nil delimiter⟩
    · have hlater : delimiter <:+: text := (List.infix_cons_iff.mp h).resolve_left hfront
      obtain ⟨piece, rest, htext, hclear⟩ := ih hlater
      refine ⟨c :: piece, rest, by rw [htext]; rfl, clear_cons_iff.mpr ⟨?_, hclear⟩⟩
      intro hstands
      apply hfront
      rw [htext]
      exact hstands.trans (List.prefix_append (c :: (piece ++ delimiter)) rest)

/-! ## §2. Characters that the delimiter does not have -/

section Disjoint

variable {delimiter gap : List Char}

/-- What a text starts with ends before a given character of the text, or has that character. -/
theorem prefix_or_mem (front : List Char) {back : List Char} {c : Char}
    (h : delimiter <+: front ++ c :: back) : delimiter <+: front ∨ c ∈ delimiter := by
  by_cases hlen : delimiter.length ≤ front.length
  · exact .inl (List.prefix_of_prefix_length_le h (List.prefix_append front _) hlen)
  · right
    have hreach : front ++ [c] <+: delimiter := by
      refine List.prefix_of_prefix_length_le ⟨back, List.append_cons front c back ▸ rfl⟩ h ?_
      rw [List.length_append, List.length_singleton]
      omega
    exact hreach.subset (List.mem_append_right front (List.mem_singleton_self c))

/-- Such characters in front of a clear piece keep it clear. -/
theorem clear_prepend_of_disjoint (hd : delimiter ≠ []) (hgap : ∀ c ∈ gap, c ∉ delimiter)
    {piece : List Char} (h : Clear delimiter piece) : Clear delimiter (gap ++ piece) := by
  induction gap with
  | nil => exact h
  | cons c gap ih =>
    obtain ⟨hc, hgap⟩ := List.forall_mem_cons.mp hgap
    refine clear_cons_iff.mpr ⟨?_, ih hgap⟩
    intro hstands
    rcases prefix_or_mem [] hstands with hnil | hmem
    · exact hd (List.prefix_nil.mp hnil)
    · exact hc hmem

/-- So they do behind it. -/
theorem clear_append_of_disjoint (hd : delimiter ≠ []) (hgap : ∀ c ∈ gap, c ∉ delimiter)
    {piece : List Char} (h : Clear delimiter piece) : Clear delimiter (piece ++ gap) := by
  induction piece with
  | nil =>
    have hgapped := clear_prepend_of_disjoint hd hgap h
    rwa [List.append_nil] at hgapped
  | cons c piece ih =>
    obtain ⟨hfront, hpiece⟩ := clear_cons_iff.mp h
    rw [List.cons_append]
    refine clear_cons_iff.mpr ⟨?_, ih hpiece⟩
    intro hstands
    rw [List.append_assoc] at hstands
    cases gap with
    | nil => exact hfront hstands
    | cons x gap =>
      -- it would stand there without the gap, or has a character of the gap
      rcases prefix_or_mem (c :: piece) hstands with hin | hmem
      · exact hfront (hin.trans (List.prefix_append (c :: piece) delimiter))
      · exact hgap x List.mem_cons_self hmem

/-- A delimiter that stands in a text with such characters in front stands in it without them. -/
theorem infix_of_infix_prepend (hgap : ∀ c ∈ gap, c ∉ delimiter) {text : List Char}
    (h : delimiter <:+: gap ++ text) : delimiter <:+: text := by
  induction gap with
  | nil => exact h
  | cons c gap ih =>
    obtain ⟨hc, hgap⟩ := List.forall_mem_cons.mp hgap
    rcases List.infix_cons_iff.mp h with hstands | hlater
    · rcases prefix_or_mem [] hstands with hnil | hmem
      · exact hnil.isInfix.trans List.nil_infix
      · exact absurd hmem hc
    · exact ih hgap hlater

/-- So it does when they are behind it. -/
theorem infix_of_infix_append (hgap : ∀ c ∈ gap, c ∉ delimiter) {text : List Char}
    (h : delimiter <:+: text ++ gap) : delimiter <:+: text := by
  induction text with
  | nil =>
    refine infix_of_infix_prepend hgap ?_
    rwa [List.append_nil]
  | cons c text ih =>
    rcases List.infix_cons_iff.mp h with hstands | hlater
    · cases gap with
      | nil =>
        rw [List.append_nil] at h
        exact h
      | cons x gap =>
        rcases prefix_or_mem (c :: text) hstands with hin | hmem
        · exact hin.isInfix
        · exact absurd hmem (hgap x List.mem_cons_self)
    · exact List.infix_cons (ih hlater)

theorem not_infix_append_of_disjoint (hgap : ∀ c ∈ gap, c ∉ delimiter) {text : List Char}
    (hshort : text.length < delimiter.length) : ¬ delimiter <:+: text ++ gap := by
  intro h
  have hlen := (infix_of_infix_append hgap h).length_le
  omega

end Disjoint

/-! ## §3. Overlaps -/

/-- **A shift of a delimiter**: it ends in `tail` and starts with it, so that behind `head` alone
it can stand too early, `surplus` being left of it. -/
structure Shift (delimiter head tail surplus : List Char) : Prop where
  head_ne_nil : head ≠ []
  tail_ne_nil : tail ≠ []
  ends : delimiter = head ++ tail
  starts : delimiter = tail ++ surplus

namespace Shift

variable {delimiter head tail surplus : List Char}

/-- The delimiter behind `head` is the delimiter before `surplus`. -/
theorem append_eq (h : Shift delimiter head tail surplus) :
    head ++ delimiter = delimiter ++ surplus := by
  calc head ++ delimiter
      = head ++ (tail ++ surplus) := by rw [← h.starts]
    _ = head ++ tail ++ surplus := (List.append_assoc head tail surplus).symm
    _ = delimiter ++ surplus := by rw [← h.ends]

/-- What is left has the characters of `head`, each as often. -/
theorem perm (h : Shift delimiter head tail surplus) : head.Perm surplus := by
  have hcommon : (head ++ tail).Perm (surplus ++ tail) := by
    rw [← h.ends]
    nth_rewrite 1 [h.starts]
    exact List.perm_append_comm
  exact (List.perm_append_right_iff tail).mp hcommon

/-- What is left is shorter than the delimiter. -/
theorem length_lt (h : Shift delimiter head tail surplus) :
    surplus.length < delimiter.length := by
  have hlen := congrArg List.length h.starts
  have hpos := List.length_pos_of_ne_nil h.tail_ne_nil
  simp only [List.length_append] at hlen
  omega

end Shift

/-- **A piece that does not hold the delimiter is clear of it, or ends in the head of a shift of
it.** -/
theorem clear_or_overlap {delimiter piece : List Char} (h : ¬ delimiter <:+: piece) :
    Clear delimiter piece
      ∨ ∃ first head tail surplus, piece = first ++ head ∧ Clear delimiter first
          ∧ Shift delimiter head tail surplus := by
  -- `first` ends where the delimiter first stands once it is written behind the piece
  obtain ⟨first, surplus, htext, hclear⟩ :=
    exists_clear_of_infix (List.infix_append_right : delimiter <:+: piece ++ delimiter)
  have hlen := congrArg List.length htext
  simp only [List.length_append] at hlen
  obtain ⟨head, hpiece⟩ : first <+: piece := by
    have hfirst : first <+: piece ++ delimiter := by
      rw [htext, List.append_assoc]
      exact List.prefix_append first (delimiter ++ surplus)
    exact List.prefix_of_prefix_length_le hfirst (List.prefix_append piece delimiter) (by omega)
  subst hpiece
  by_cases hhead : head = []
  · left
    rw [hhead, List.append_nil]
    exact hclear
  · right
    have hshift : head ++ delimiter = delimiter ++ surplus := by
      rw [List.append_assoc, List.append_assoc] at htext
      exact List.append_cancel_left htext
    have hfront : delimiter <+: head ++ delimiter := by
      rw [hshift]
      exact List.prefix_append delimiter surplus
    -- a head as long as the delimiter would hold it, and the piece with it
    have hshort : head.length < delimiter.length := by
      by_contra hlong
      have hin : delimiter <+: head :=
        List.prefix_of_prefix_length_le hfront (List.prefix_append head delimiter) (by omega)
      exact h (hin.isInfix.trans List.infix_append_right)
    obtain ⟨tail, htail⟩ : head <+: delimiter :=
      List.prefix_of_prefix_length_le (List.prefix_append head delimiter) hfront (by omega)
    refine ⟨first, head, tail, surplus, rfl, hclear, hhead, ?_, htail.symm, ?_⟩
    · rintro rfl
      rw [← htail, List.append_nil] at hshort
      exact absurd hshort (Nat.lt_irrefl _)
    · have hcancel : head ++ delimiter = head ++ (tail ++ surplus) := by
        rw [hshift, ← List.append_assoc, htail]
      exact List.append_cancel_left hcancel

/-! ## §4. Delimiters without a border -/

/-- **A delimiter has no border** when no front part of it but itself is also its end. -/
def Borderless (delimiter : List Char) : Prop :=
  ∀ border, border ≠ [] → border <+: delimiter → border <:+ delimiter → border = delimiter

/-- It is enough to look at the front parts of each length. -/
theorem borderless_iff {delimiter : List Char} :
    Borderless delimiter
      ↔ ∀ n, n < delimiter.length → 0 < n → ¬ delimiter.take n <:+ delimiter := by
  constructor
  · intro hb n hlt hpos hsuffix
    have hlen : (delimiter.take n).length = n := List.length_take_of_le (by omega)
    have hne : delimiter.take n ≠ [] := List.ne_nil_of_length_pos (by omega)
    have hwhole := hb (delimiter.take n) hne (List.take_prefix n delimiter) hsuffix
    rw [hwhole] at hlen
    omega
  · intro h border hne hfront hsuffix
    refine hfront.eq_of_length ?_
    by_contra hlen
    have hle := hfront.length_le
    have hpos := List.length_pos_of_ne_nil hne
    refine h border.length (by omega) hpos ?_
    rw [← List.prefix_iff_eq_take.mp hfront]
    exact hsuffix

instance (delimiter : List Char) : Decidable (Borderless delimiter) :=
  decidable_of_iff _ borderless_iff.symm

/-- A single character has no border. -/
theorem borderless_singleton (c : Char) : Borderless [c] := by
  intro border hne hprefix _
  refine hprefix.eq_of_length ?_
  have hpos := List.length_pos_of_ne_nil hne
  have hle := hprefix.length_le
  simp only [List.length_singleton] at hle ⊢
  omega

/-- A delimiter without a border has no shift. -/
theorem not_shift_of_borderless {delimiter head tail surplus : List Char}
    (hb : Borderless delimiter) : ¬ Shift delimiter head tail surplus := by
  intro h
  have hborder : tail = delimiter :=
    hb tail h.tail_ne_nil ⟨surplus, h.starts.symm⟩ ⟨head, h.ends.symm⟩
  have hends := h.ends
  rw [hborder, List.self_eq_append_left] at hends
  exact h.head_ne_nil hends

/-- **A piece that does not hold a delimiter without a border is clear of it.** -/
theorem clear_of_borderless {delimiter piece : List Char} (hb : Borderless delimiter)
    (h : ¬ delimiter <:+: piece) : Clear delimiter piece := by
  rcases clear_or_overlap h with hclear | ⟨_, head, tail, surplus, _, _, hshift⟩
  · exact hclear
  · exact absurd hshift (not_shift_of_borderless hb)

end OrderBy.Text
