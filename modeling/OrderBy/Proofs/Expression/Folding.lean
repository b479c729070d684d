/-
  OrderBy.Proofs.Expression.Folding — folding changes the text of a sort, not its meaning.

  A clause that is written and read again comes back as the clauses of the
  pieces of its property (`reread`).  When the delimiter closes every property
  of a sort, both encodings read as the clauses that come back, one clause after
  the other: folding shares the name of the direction between neighbours, and
  the pieces of each property stay its own.

  Main results:
    * `outcome_encode`, `outcome_foldWith` — what either encoding reads as;
    * `fold_reads_as_encode` — with a delimiter that has no border the two
      encodings read alike, whatever the properties hold.
-/
import OrderBy.Expression.Writer
import OrderBy.Proofs.Expression.Meaning

namespace OrderBy.Expression

/-! ## §1. Written and read again -/

/-- **The clauses that come back** when a clause is written and read again. -/
def reread (delimiter : List Char) (c : Clause) : List Clause :=
  (Text.pieces delimiter c.property.toList).filterMap (clause? c.direction)

/-- A well-formed clause comes back when its property does not hold the delimiter. -/
theorem reread_eq_singleton {delimiter : List Char} {c : Clause} (hwf : c.WellFormed)
    (h : ¬ delimiter <:+: c.property.toList) : reread delimiter c = [c] := by
  rw [reread, Text.pieces_eq_singleton h, List.filterMap_cons, clause?_of_wellFormed hwf]
  rfl

/-- Well-formed clauses come back when no property holds the delimiter. -/
theorem flatMap_reread_eq_self {delimiter : List Char} {clauses : List Clause}
    (hwf : ∀ c ∈ clauses, c.WellFormed)
    (h : ∀ c ∈ clauses, ¬ delimiter <:+: c.property.toList) :
    clauses.flatMap (reread delimiter) = clauses := by
  induction clauses with
  | nil => rfl
  | cons c clauses ih =>
    rw [List.forall_mem_cons] at hwf h
    rw [List.flatMap_cons, reread_eq_singleton hwf.1 h.1, ih hwf.2 h.2]
    rfl

/-! ## §2. One expression -/

section Encodings

variable {delimiter : String}

/-- The characters of the expression of a clause. -/
theorem toList_encodeClause (delimiter : String) (c : Clause) :
    (encodeClause (.text delimiter) c).toList
      = c.property.toList ++ delimiter.toList ++ c.direction.name.toList := by
  rw [encodeClause, Delimiter.shown_text, String.toList_append, String.toList_append]

/-- A clause is written like a group of its own. -/
theorem encodeClause_eq_encodeGroup (delimiter : String) (c : Clause) :
    encodeClause (.text delimiter) c
      = encodeGroup delimiter (groupWords [c.property] c.direction) := by
  rw [← String.toList_inj, toList_encodeClause, encodeGroup, String.toList_ofList]
  rfl

/-- **An expression of closed properties** reads as what each property gives in the direction of
the group. -/
theorem clausesOfText_encodeGroup {properties : List String} {direction : Direction}
    (hclosed : ∀ p ∈ properties, Text.Closes delimiter.toList p.toList)
    (hname : ¬ delimiter.toList <:+: direction.name.toList) :
    clausesOfText delimiter.toList (encodeGroup delimiter (groupWords properties direction)).toList
      = properties.flatMap fun p => reread delimiter.toList ⟨p, direction⟩ := by
  have hpieces : Text.pieces delimiter.toList
        (encodeGroup delimiter (groupWords properties direction)).toList
      = (properties.map String.toList).flatMap (Text.pieces delimiter.toList)
        ++ [direction.name.toList] := by
    -- the name of the direction is the last word, which nothing has to close
    rw [encodeGroup, String.toList_ofList, groupWords, List.map_append, List.map_singleton,
      Text.pieces_join _ direction.name.toList, Text.pieces_eq_singleton hname]
    intro text htext
    obtain ⟨p, hp, rfl⟩ := List.mem_map.mp htext
    exact hclosed p hp
  rw [clausesOfText_of_pieces hpieces, List.filterMap_flatMap, List.flatMap_map]
  rfl

/-! ## §3. Both encodings -/

/-- **What makes the encodings of clauses readable**: the delimiter closes every property, and no
name of a direction holds it. -/
structure Readable (delimiter : String) (clauses : List Clause) : Prop where
  nonempty : delimiter ≠ ""
  closed : ∀ c ∈ clauses, Text.Closes delimiter.toList c.property.toList
  name_free : ∀ direction : Direction, ¬ delimiter.toList <:+: direction.name.toList

/-- A delimiter without a border makes every sort readable. -/
theorem readable_of_borderless (hd : delimiter ≠ "") (hborder : Text.Borderless delimiter.toList)
    (hname : ∀ direction : Direction, ¬ delimiter.toList <:+: direction.name.toList)
    (clauses : List Clause) : Readable delimiter clauses where
  nonempty := hd
  closed c _ := Text.closes_of_borderless (Text.toList_ne_nil hd) hborder c.property.toList
  name_free := hname

/-- Properties that are clear of the delimiter make a sort readable. -/
theorem readable_of_clear (hd : delimiter ≠ "")
    (hname : ∀ direction : Direction, ¬ delimiter.toList <:+: direction.name.toList)
    {clauses : List Clause}
    (hclear : ∀ c ∈ clauses, Text.Clear delimiter.toList c.property.toList) :
    Readable delimiter clauses where
  nonempty := hd
  closed c hc := Text.closes_of_clear (Text.toList_ne_nil hd) (hclear c hc)
  name_free := hname

/-- **One expression per clause** reads as what each clause gives. -/
theorem outcome_encode {s : Sorting} (h : Readable delimiter s.clauses) :
    (readTexts (.text delimiter) (encode (.text delimiter) s)).outcome
      = .ok ⟨s.clauses.flatMap (reread delimiter.toList)⟩ := by
  have hclause : ∀ c ∈ s.clauses,
      clausesOfText delimiter.toList (encodeClause (.text delimiter) c).toList
        = reread delimiter.toList c := by
    intro c hc
    have hown : ∀ p ∈ [c.property], Text.Closes delimiter.toList p.toList :=
      List.forall_mem_singleton.mpr (h.closed c hc)
    rw [encodeClause_eq_encodeGroup, clausesOfText_encodeGroup hown (h.name_free _),
      List.flatMap_singleton]
  rw [outcome_readTexts h.nonempty, sortingOf, encode, List.map_map, List.flatMap_map]
  exact congrArg (fun clauses => Except.ok (Sorting.mk clauses)) (List.flatMap_congr hclause)

/-- **The groups that follow a group under way** read as its properties and the clauses still to
come.  The induction is on those clauses, for every group under way: a clause of its direction
makes it longer, any other one writes it and starts the next. -/
theorem flatMap_groupsFrom {clauses : List Clause} (h : Readable delimiter clauses) :
    ∀ (properties : List String) (direction : Direction),
      (∀ p ∈ properties, Text.Closes delimiter.toList p.toList) →
      ((groupsFrom properties direction clauses).flatMap fun group =>
          clausesOfText delimiter.toList (encodeGroup delimiter group).toList)
        = (properties.flatMap fun p => reread delimiter.toList ⟨p, direction⟩)
          ++ clauses.flatMap (reread delimiter.toList) := by
  induction clauses with
  | nil =>
    intro properties direction hclosed
    rw [groupsFrom, List.flatMap_singleton, clausesOfText_encodeGroup hclosed (h.name_free _),
      List.flatMap_nil, List.append_nil]
  | cons c clauses ih =>
    intro properties direction hclosed
    obtain ⟨hc, hclauses⟩ := List.forall_mem_cons.mp h.closed
    have hrest : Readable delimiter clauses := ⟨h.nonempty, hclauses, h.name_free⟩
    have hown : ∀ p ∈ [c.property], Text.Closes delimiter.toList p.toList :=
      List.forall_mem_singleton.mpr hc
    unfold groupsFrom
    by_cases hdirection : c.direction = direction
    · -- the group goes on with the property
      rw [if_pos hdirection, ih hrest _ _ (List.forall_mem_append.mpr ⟨hclosed, hown⟩),
        List.flatMap_append, List.flatMap_singleton, List.flatMap_cons, List.append_assoc,
        ← hdirection]
    · -- the group is written, and the property starts one of its own
      rw [if_neg hdirection, List.flatMap_cons, ih hrest _ _ hown,
        clausesOfText_encodeGroup hclosed (h.name_free _), List.flatMap_singleton,
        List.flatMap_cons]

/-- **One expression per run of a direction** reads as what each clause gives. -/
theorem outcome_foldWith {s : Sorting} (h : Readable delimiter s.clauses) :
    (readTexts (.text delimiter) (foldWith delimiter s)).outcome
      = .ok ⟨s.clauses.flatMap (reread delimiter.toList)⟩ := by
  rw [outcome_readTexts h.nonempty, sortingOf, foldWith, List.map_map, List.flatMap_map, groups]
  cases hs : s.clauses with
  | nil => rfl
  | cons c rest =>
    rw [hs] at h
    obtain ⟨hc, hclauses⟩ := List.forall_mem_cons.mp h.closed
    have hown : ∀ p ∈ [c.property], Text.Closes delimiter.toList p.toList :=
      List.forall_mem_singleton.mpr hc
    have hgroups := flatMap_groupsFrom ⟨h.nonempty, hclauses, h.name_free⟩
      [c.property] c.direction hown
    rw [List.flatMap_singleton, ← List.flatMap_cons] at hgroups
    exact congrArg (fun clauses => Except.ok (Sorting.mk clauses)) hgroups

/-! ## §4. Where the encodings agree -/

/-- **With a delimiter that has no border, folded expressions read as the plain ones do**, whatever
the properties hold: both read as what each clause gives. -/
theorem fold_reads_as_encode (hd : delimiter ≠ "") (hborder : Text.Borderless delimiter.toList)
    (hname : ∀ direction : Direction, ¬ delimiter.toList <:+: direction.name.toList)
    (s : Sorting) :
    ∃ folded, fold (.text delimiter) s = .ok folded
      ∧ (readTexts (.text delimiter) folded).outcome
          = (readTexts (.text delimiter) (encode (.text delimiter) s)).outcome
      ∧ (readTexts (.text delimiter) (encode (.text delimiter) s)).outcome
          = .ok ⟨s.clauses.flatMap (reread delimiter.toList)⟩ := by
  have hreadable := readable_of_borderless hd hborder hname s.clauses
  refine ⟨foldWith delimiter s, rfl, ?_, outcome_encode hreadable⟩
  rw [outcome_foldWith hreadable, outcome_encode hreadable]

end Encodings

/-- Properties that hold the delimiter, words for directions and dots. -/
theorem fold_reads_as_encode_arrow :
    ∃ folded,
      fold (.text "=>") ⟨[⟨"a=>desc", .asc⟩, ⟨".=>b=>", .asc⟩, ⟨"c", .desc⟩]⟩ = .ok folded
      ∧ (readTexts (.text "=>") folded).outcome
          = (readTexts (.text "=>") (encode (.text "=>")
              ⟨[⟨"a=>desc", .asc⟩, ⟨".=>b=>", .asc⟩, ⟨"c", .desc⟩]⟩)).outcome
      ∧ (readTexts (.text "=>") (encode (.text "=>")
            ⟨[⟨"a=>desc", .asc⟩, ⟨".=>b=>", .asc⟩, ⟨"c", .desc⟩]⟩)).outcome
          = .ok ⟨[⟨"a", .asc⟩, ⟨"desc", .asc⟩, ⟨"b", .asc⟩, ⟨"c", .desc⟩]⟩ := by
  have hname : ∀ direction : Direction, ¬ "=>".toList <:+: direction.name.toList := by
    intro direction
    cases direction <;> decide
  have hmeaning : [(⟨"a=>desc", .asc⟩ : Clause), ⟨".=>b=>", .asc⟩, ⟨"c", .desc⟩].flatMap
        (reread "=>".toList)
      = [⟨"a", .asc⟩, ⟨"desc", .asc⟩, ⟨"b", .asc⟩, ⟨"c", .desc⟩] := by decide
  have h := fold_reads_as_encode (by decide) (by decide) hname
    ⟨[⟨"a=>desc", .asc⟩, ⟨".=>b=>", .asc⟩, ⟨"c", .desc⟩]⟩
  rw [hmeaning] at h
  exact h

end OrderBy.Expression
