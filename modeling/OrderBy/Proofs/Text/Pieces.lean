/-
  OrderBy.Proofs.Text.Pieces — how cutting acts on texts put together from parts.

  A text either holds no delimiter and is its own piece, or is a clear piece,
  the delimiter, and a rest that is cut in turn.  `cut_induction` turns this
  into the induction that every fact below is proved by.

  The question that writing expressions asks is when the delimiter written
  after a text closes it, so that what follows is cut on its own
  (`Closes`).  Two answers are given: when the text is clear of the delimiter,
  and, for any text, when the delimiter has no border.

  Main results:
    * `not_infix_of_mem_pieces` — no piece holds the delimiter;
    * `parted_iff` — the pieces are the parts between the occurrences of the
      delimiter that are leftmost and do not overlap;
    * `closes_of_clear`, `closes_of_borderless` — when a text is closed;
    * `pieces_join` — joining texts that are closed joins their pieces;
    * `pieces_eq_concat_iff` — which lists of pieces a text is joined from.
-/
import OrderBy.Proofs.Text.Occurrence

namespace OrderBy.Text

variable {delimiter : List Char}

/-! ## §1. Cutting once -/

/-- A text that does not hold the delimiter is its only piece. -/
theorem pieces_eq_singleton {text : List Char} (h : ¬ delimiter <:+: text) :
    pieces delimiter text = [text] := by
  induction text with
  | nil => rfl
  | cons c text ih =>
    have hfront : delimiter.isPrefixOf (c :: text) = false := by
      rw [Bool.eq_false_iff]
      intro hprefix
      exact h (List.isPrefixOf_iff_prefix.mp hprefix).isInfix
    have hlater : ¬ delimiter <:+: text := fun hin => h (List.infix_cons hin)
    rw [pieces_cons_of_absent hfront, ih hlater]
    rfl

/-- **A clear piece is cut off**, and what follows the delimiter is cut on its own. -/
theorem pieces_of_clear (hd : delimiter ≠ []) {piece : List Char} (h : Clear delimiter piece)
    (rest : List Char) :
    pieces delimiter (piece ++ delimiter ++ rest) = piece :: pieces delimiter rest := by
  induction piece with
  | nil =>
    obtain ⟨c, tail, hcons⟩ := List.exists_cons_of_ne_nil hd
    have hfront : delimiter.isPrefixOf (c :: (tail ++ rest)) = true := by
      rw [List.isPrefixOf_iff_prefix, hcons]
      exact List.prefix_append (c :: tail) rest
    have htext : [] ++ delimiter ++ rest = c :: (tail ++ rest) := by
      rw [hcons]
      rfl
    rw [htext, pieces_cons_of_found hfront, hcons]
    simp
  | cons c piece ih =>
    obtain ⟨hstands, hclear⟩ := clear_cons_iff.mp h
    have hfront : delimiter.isPrefixOf (c :: (piece ++ delimiter ++ rest)) = false := by
      rw [Bool.eq_false_iff]
      intro hprefix
      apply hstands
      -- the delimiter is no longer than the piece with the delimiter behind it
      refine List.prefix_of_prefix_length_le (List.isPrefixOf_iff_prefix.mp hprefix)
        (List.prefix_append (c :: (piece ++ delimiter)) rest) ?_
      simp only [List.length_cons, List.length_append]
      omega
    show pieces delimiter (c :: (piece ++ delimiter ++ rest)) = _
    rw [pieces_cons_of_absent hfront, ih hclear]
    rfl

/-- **Induction along the cuts of a text**: it holds no delimiter, or starts with a clear piece
and the delimiter. -/
theorem cut_induction (hd : delimiter ≠ []) {motive : List Char → Prop}
    (whole : ∀ text, ¬ delimiter <:+: text → motive text)
    (cut : ∀ piece rest, Clear delimiter piece → motive rest → motive (piece ++ delimiter ++ rest))
    (text : List Char) : motive text := by
  by_cases h : delimiter <:+: text
  · obtain ⟨piece, rest, htext, hclear⟩ := exists_clear_of_infix h
    have hshorter : rest.length < text.length := by
      have hpos := List.length_pos_of_ne_nil hd
      rw [htext]
      simp only [List.length_append]
      omega
    rw [htext]
    exact cut piece rest hclear (cut_induction hd whole cut rest)
  · exact whole text h
termination_by text.length

/-- **No piece holds the delimiter.** -/
theorem not_infix_of_mem_pieces (hd : delimiter ≠ []) {text piece : List Char}
    (h : piece ∈ pieces delimiter text) : ¬ delimiter <:+: piece := by
  induction text using cut_induction hd with
  | whole text hnone =>
    rw [pieces_eq_singleton hnone, List.mem_singleton] at h
    rw [h]
    exact hnone
  | cut first rest hclear ih =>
    rw [pieces_of_clear hd hclear, List.mem_cons] at h
    rcases h with rfl | hrest
    · exact not_infix_of_clear hd hclear
    · exact ih hrest

/-- Every piece is a part of the text. -/
theorem isInfix_of_mem_pieces (hd : delimiter ≠ []) {text piece : List Char}
    (h : piece ∈ pieces delimiter text) : piece <:+: text := by
  induction text using cut_induction hd with
  | whole text hnone =>
    rw [pieces_eq_singleton hnone, List.mem_singleton] at h
    rw [h]
  | cut first rest hclear ih =>
    rw [pieces_of_clear hd hclear, List.mem_cons] at h
    rcases h with rfl | hrest
    · rw [List.append_assoc]
      exact List.infix_append_left
    · exact (ih hrest).trans List.infix_append_right

/-- **The parts of a text between the occurrences of a delimiter**: the occurrences are taken from
the left, each time the first one in what is left, and do not overlap. -/
inductive Parted (delimiter : List Char) : List Char → List (List Char) → Prop where
  /-- Without an occurrence the text is its only part. -/
  | whole {text : List Char} (h : ∀ offset, ¬ StandsAt delimiter text offset) :
    Parted delimiter text [text]
  /-- The first occurrence ends the first part, and what follows it is parted in turn. -/
  | cut {text : List Char} {offset : Nat} {parts : List (List Char)}
    (h : FirstStandsAt delimiter text offset)
    (others : Parted delimiter (text.drop (offset + delimiter.length)) parts) :
    Parted delimiter text (text.take offset :: parts)

/-- **Cutting a text parts it** between the occurrences of the delimiter, in this way only. -/
theorem parted_iff (hd : delimiter ≠ []) {text : List Char} {parts : List (List Char)} :
    Parted delimiter text parts ↔ pieces delimiter text = parts := by
  constructor
  · -- each constructor says where the first occurrence is, or that there is none
    intro h
    induction h with
    | @whole text hnone =>
      refine pieces_eq_singleton ?_
      rintro ⟨front, back, htext⟩
      refine hnone front.length ?_
      rw [StandsAt, ← htext, List.append_assoc, List.drop_left]
      exact List.prefix_append delimiter back
    | @cut text offset parts hfirst _ ih =>
      obtain ⟨htext, hclear⟩ := eq_append_of_firstStandsAt hfirst
      rw [← ih]
      nth_rewrite 1 [htext]
      exact pieces_of_clear hd hclear _
  · rintro rfl
    -- the induction is on the cuts of the text, the first one at its first occurrence
    induction text using cut_induction hd with
    | whole text hnone =>
      rw [pieces_eq_singleton hnone]
      refine .whole fun offset hstands => hnone ?_
      exact hstands.isInfix.trans (List.drop_suffix offset text).isInfix
    | cut piece rest hclear ih =>
      rw [pieces_of_clear hd hclear]
      have htake : (piece ++ delimiter ++ rest).take piece.length = piece := by
        rw [List.append_assoc, List.take_left]
      have hdrop : (piece ++ delimiter ++ rest).drop (piece.length + delimiter.length) = rest := by
        rw [← List.length_append, List.drop_left]
      have hothers : Parted delimiter
          ((piece ++ delimiter ++ rest).drop (piece.length + delimiter.length))
          (pieces delimiter rest) := by
        rw [hdrop]
        exact ih
      have hcut := Parted.cut (firstStandsAt_append_iff.mpr hclear) hothers
      rwa [htake] at hcut

/-! ## §2. Texts that the delimiter closes -/

/-- **The delimiter closes a text** when, written after it, it parts the pieces of the text from
those of whatever follows. -/
def Closes (delimiter text : List Char) : Prop :=
  ∀ rest, pieces delimiter (text ++ delimiter ++ rest)
    = pieces delimiter text ++ pieces delimiter rest

/-- A text that is clear of the delimiter is closed by it. -/
theorem closes_of_clear (hd : delimiter ≠ []) {text : List Char} (h : Clear delimiter text) :
    Closes delimiter text := by
  intro rest
  rw [pieces_of_clear hd h, pieces_eq_singleton (not_infix_of_clear hd h)]
  rfl

/-- **A delimiter without a border closes every text.** -/
theorem closes_of_borderless (hd : delimiter ≠ []) (hb : Borderless delimiter)
    (text : List Char) : Closes delimiter text := by
  induction text using cut_induction hd with
  | whole text hnone => exact closes_of_clear hd (clear_of_borderless hb hnone)
  | cut first tail hclear ih =>
    intro rest
    have hassoc : first ++ delimiter ++ tail ++ delimiter ++ rest
        = first ++ delimiter ++ (tail ++ delimiter ++ rest) := by
      simp only [List.append_assoc]
    rw [hassoc, pieces_of_clear hd hclear, pieces_of_clear hd hclear, ih rest]
    rfl

theorem join_cons_concat (text : List Char) (texts : List (List Char)) (last : List Char) :
    join delimiter (text :: texts ++ [last])
      = text ++ delimiter ++ join delimiter (texts ++ [last]) := by
  obtain ⟨next, others, hrest⟩ : ∃ next others, texts ++ [last] = next :: others :=
    List.exists_cons_of_ne_nil (by simp)
  rw [List.cons_append, hrest, join_cons_cons]

/-- **Joining texts that the delimiter closes joins their pieces.**  The last text is followed by
nothing, so it need not be closed. -/
theorem pieces_join {texts : List (List Char)} (h : ∀ text ∈ texts, Closes delimiter text)
    (last : List Char) :
    pieces delimiter (join delimiter (texts ++ [last]))
      = texts.flatMap (pieces delimiter) ++ pieces delimiter last := by
  induction texts with
  | nil => rfl
  | cons text texts ih =>
    have hothers : ∀ t ∈ texts, Closes delimiter t := fun t ht => h t (List.mem_cons_of_mem _ ht)
    rw [join_cons_concat, h text List.mem_cons_self, ih hothers, List.flatMap_cons,
      List.append_assoc]

/-- **The pieces of a text are what it is joined from**: all but the last one clear of the
delimiter, and the last one without it. -/
theorem pieces_eq_concat_iff (hd : delimiter ≠ []) {text last : List Char}
    {front : List (List Char)} :
    pieces delimiter text = front ++ [last]
      ↔ text = join delimiter (front ++ [last]) ∧ (∀ piece ∈ front, Clear delimiter piece)
        ∧ ¬ delimiter <:+: last := by
  constructor
  · intro h
    induction text using cut_induction hd generalizing front with
    | whole text hnone =>
      rw [pieces_eq_singleton hnone, ← List.nil_append [text]] at h
      obtain ⟨hfront, hlast⟩ := List.append_inj' h rfl
      rw [← hfront, ← List.singleton_inj.mp hlast]
      exact ⟨rfl, List.forall_mem_nil _, hnone⟩
    | cut piece rest hclear ih =>
      rw [pieces_of_clear hd hclear] at h
      cases front with
      | nil =>
        -- behind the delimiter there is a piece more, if an empty one
        exact absurd (List.cons_eq_cons.mp h).2 (pieces_ne_nil delimiter rest)
      | cons first front =>
        obtain ⟨rfl, hrest⟩ := List.cons_eq_cons.mp h
        obtain ⟨hjoin, hclears, hlast⟩ := ih hrest
        refine ⟨?_, List.forall_mem_cons.mpr ⟨hclear, hclears⟩, hlast⟩
        rw [join_cons_concat, ← hjoin]
  · rintro ⟨rfl, hclear, hlast⟩
    have hcloses : ∀ piece ∈ front, Closes delimiter piece :=
      fun piece hpiece => closes_of_clear hd (hclear piece hpiece)
    have hself : front.flatMap (pieces delimiter) = front := by
      rw [List.flatMap_congr fun piece hpiece =>
        pieces_eq_singleton (not_infix_of_clear hd (hclear piece hpiece))]
      exact List.flatMap_singleton' front
    rw [pieces_join hcloses, pieces_eq_singleton hlast, hself]

theorem join_eq_intercalate (delimiter : List Char) (texts : List (List Char)) :
    join delimiter texts = delimiter.intercalate texts := by
  induction texts with
  | nil => rfl
  | cons text texts ih =>
    cases texts with
    | nil => simp
    | cons next texts => simp [join_cons_cons, ih]

end OrderBy.Text
