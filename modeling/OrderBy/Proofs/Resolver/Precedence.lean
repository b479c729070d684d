/-
  OrderBy.Proofs.Resolver.Precedence — which sort wins.

  Values ask for a sort when one of their tokens has a character that is
  neither a dot nor blank; that is all that decides whether the request is
  followed.  If it is not, the sort comes from the default of the parameter, and
  only then from the resolver; an empty sort given as fallback is still a
  fallback, while an empty default counts as none.

  Main results:
    * `isSorted_sortingOf_iff` — values give a sort exactly when they ask for
      one;
    * `resolve_of_asks`, `resolve_of_not_asks` — the answer in either case, with
      all its records;
    * `resolve_answersBy` — the order in which sorts are tried, for values and
      for requests.
-/
import OrderBy.Proofs.Expression.Accounting
import OrderBy.Proofs.Resolver.Meaning

namespace OrderBy

/-! ## §1. Values that ask for a sort -/

/-- A sort has a clause when one is found in it. -/
theorem Sorting.isSorted_iff_exists_mem {s : Sorting} :
    s.isSorted = true ↔ ∃ c, c ∈ s.clauses := by
  rw [isSorted, Bool.not_eq_true', List.isEmpty_eq_false_iff_exists_mem]

namespace Expression

/-- **Values ask for a sort** when, of one of them, a token has a character that is neither a dot
nor blank. -/
def AskForSort (delimiter : String) (values : List (Option String)) : Prop :=
  ∃ value tokens direction, some value ∈ values
    ∧ Tokens delimiter.toList value.toList tokens direction
    ∧ ∃ token ∈ tokens, ∃ c ∈ token, c ≠ '.' ∧ Text.isBlank c = false

variable {delimiter : String} {values : List (Option String)}

/-- A text gives a clause exactly when a token of it names a property. -/
theorem exists_mem_clausesOfText_iff {delimiter value : List Char} :
    (∃ c, c ∈ clausesOfText delimiter value)
      ↔ ∃ token ∈ (splitDirection (Text.pieces delimiter value)).1,
          isValidProperty token = true := by
  constructor
  · rintro ⟨c, hc⟩
    obtain ⟨token, hmem, hclause⟩ := List.mem_filterMap.mp hc
    refine ⟨token, hmem, ?_⟩
    by_contra hinvalid
    rw [clause?, if_neg hinvalid] at hclause
    exact absurd hclause (by simp)
  · rintro ⟨token, hmem, hvalid⟩
    exact ⟨_, List.mem_filterMap.mpr ⟨token, hmem, if_pos hvalid⟩⟩

/-- **Values give a sort with a clause exactly when they ask for one.** -/
theorem isSorted_sortingOf_iff (hd : delimiter ≠ "") :
    (sortingOf delimiter values).isSorted = true ↔ AskForSort delimiter values := by
  have hchars := Text.toList_ne_nil hd
  rw [Sorting.isSorted_iff_exists_mem]
  constructor
  · rintro ⟨c, hc⟩
    -- the clause comes from a value that is there
    obtain ⟨value, hvalue, hc⟩ := List.mem_flatMap.mp hc
    cases value with
    | none => exact absurd hc List.not_mem_nil
    | some value =>
      obtain ⟨token, htoken, hvalid⟩ := exists_mem_clausesOfText_iff.mp ⟨c, hc⟩
      exact ⟨value, _, _, hvalue, (tokens_iff hchars).mpr rfl, token, htoken,
        isValidProperty_iff.mp hvalid⟩
  · rintro ⟨value, tokens, direction, hvalue, htokens, token, htoken, hnames⟩
    have hsplit := (tokens_iff hchars).mp htokens
    obtain ⟨c, hc⟩ : ∃ c, c ∈ clausesOfText delimiter.toList value.toList := by
      rw [exists_mem_clausesOfText_iff, hsplit]
      exact ⟨token, htoken, isValidProperty_iff.mpr hnames⟩
    exact ⟨c, List.mem_flatMap.mpr ⟨some value, hvalue, hc⟩⟩

/-- All records of reading values are about tokens that were dropped. -/
theorem eq_droppedProperty_of_mem {record : Record}
    (h : record ∈ values.flatMap (recordsOf delimiter)) :
    ∃ property value, record = .droppedProperty property value := by
  obtain ⟨value, _, h⟩ := List.mem_flatMap.mp h
  cases value with
  | none => exact absurd h List.not_mem_nil
  | some value =>
    rw [recordsOf] at h
    split at h
    · exact absurd h List.not_mem_nil
    · obtain ⟨token, _, hdropped⟩ := List.mem_filterMap.mp h
      unfold dropped? at hdropped
      split at hdropped
      · exact absurd hdropped (by simp)
      · exact ⟨_, value, (Option.some.inj hdropped).symm⟩

end Expression

/-! ## §2. Answers -/

/-- **The first of several sorts that has a clause**, or the unsorted one if none has. -/
def Sorting.firstSorted (candidates : List Sorting) : Sorting :=
  (candidates.find? Sorting.isSorted).getD .unsorted

theorem Sorting.firstSorted_cons (s : Sorting) (others : List Sorting) :
    firstSorted (s :: others) = if s.isSorted then s else firstSorted others := by
  rw [firstSorted, List.find?_cons]
  cases s.isSorted <;> rfl

/-- The last candidate is taken in any case: without a clause it is the unsorted sort. -/
theorem Sorting.firstSorted_singleton (s : Sorting) : firstSorted [s] = s := by
  rw [firstSorted_cons]
  cases h : s.isSorted with
  | true => rfl
  | false =>
    rw [isSorted, Bool.not_eq_false', List.isEmpty_iff] at h
    exact congrArg Sorting.mk h.symm

/-- The first sort that has a clause has none only when no candidate has. -/
theorem Sorting.isUnsorted_firstSorted_iff {candidates : List Sorting} :
    (firstSorted candidates).isUnsorted = true
      ↔ ∀ candidate ∈ candidates, candidate.isUnsorted = true := by
  unfold firstSorted
  cases hfound : candidates.find? Sorting.isSorted with
  | none =>
    constructor
    · intro _ candidate hmem
      rw [isUnsorted, Bool.eq_false_iff.mpr (List.find?_eq_none.mp hfound candidate hmem)]
      rfl
    · intro _
      rfl
  | some found =>
    have hsorted : found.isSorted = true := List.find?_some hfound
    rw [Option.getD_some]
    constructor
    · intro h
      rw [isUnsorted, hsorted] at h
      exact absurd h (by decide)
    · intro h
      exact h found (List.mem_of_find?_eq_some hfound)

namespace Resolver

section Answers

variable {r : Resolver} {delimiter : String} {values : List (Option String)}

/-- **Values that ask for a sort get their own**, whatever there is to fall back on. -/
theorem resolve_of_asks (hr : r.propertyDelimiter = .text delimiter) (hd : delimiter ≠ "")
    (h : Expression.AskForSort delimiter values) (qualifier : Option String)
    (fallback : Option Sorting) :
    r.resolve (values.map Json.ofText?) qualifier fallback
      = ⟨.ok (Expression.sortingOf delimiter values),
          values.flatMap (Expression.recordsOf delimiter)⟩ := by
  rw [resolve_eq hr hd, (Expression.isSorted_sortingOf_iff hd).mpr h]
  simp only [if_true, List.append_nil]

/-- **Other values get the fallback**, and a last record says so. -/
theorem resolve_of_not_asks (hr : r.propertyDelimiter = .text delimiter) (hd : delimiter ≠ "")
    (h : ¬ Expression.AskForSort delimiter values) (qualifier : Option String)
    (fallback : Option Sorting) :
    r.resolve (values.map Json.ofText?) qualifier fallback
      = ⟨.ok (fallback.getD r.fallback),
          values.flatMap (Expression.recordsOf delimiter)
            ++ [.noSort (r.parameterName qualifier)]⟩ := by
  rw [← Expression.isSorted_sortingOf_iff hd, Bool.not_eq_true] at h
  rw [resolve_eq hr hd, h]
  simp only [Bool.false_eq_true, if_false]

/-- A request gets the first of its own sort, the parameter's default and the resolver's last resort
that has a clause. -/
theorem resolveParameter_eq_firstSorted (hr : r.propertyDelimiter = .text delimiter)
    (hd : delimiter ≠ "") {request : RequestParameters} {parameter : Parameter}
    (hholds : request.HoldsTexts (r.parameterName parameter.qualifier) values) {t : Sorting}
    (hdefault : parameter.default.toSorting = .ok t) :
    (r.resolveParameter request parameter).outcome
      = .ok (Sorting.firstSorted [Expression.sortingOf delimiter values, t, r.fallback]) := by
  rw [resolveParameter_of_holdsTexts hholds hdefault, resolve_eq hr hd, Sorting.firstSorted_cons,
    Sorting.firstSorted_cons, Sorting.firstSorted_singleton]
  -- an empty default counts as none, so the last resort stands in for it
  cases t.isSorted <;> rfl

end Answers

/-! ## §3. The order in which sorts are tried -/

/-- **How a resolver answers values** that give a sort and records of dropped tokens, by whether they
ask for a sort. -/
structure AnswersBy (r : Resolver) (values : List (Option String)) (qualifier : Option String)
    (asked : Prop) (own : Sorting) (dropped : List Record) : Prop where
  /-- The records that come first are about dropped tokens. -/
  drops : ∀ record ∈ dropped, ∃ property value, record = .droppedProperty property value
  /-- The sort of the values has a clause exactly when they ask for one. -/
  sorted : own.isSorted = true ↔ asked
  /-- Values that ask for a sort get their own, with no other record. -/
  followed : asked → ∀ fallback : Option Sorting,
    r.resolve (values.map Json.ofText?) qualifier fallback = ⟨.ok own, dropped⟩
  /-- Others get a given fallback, be it an unsorted one; one record more says so. -/
  given : ¬ asked → ∀ fallback : Sorting,
    r.resolve (values.map Json.ofText?) qualifier (some fallback)
      = ⟨.ok fallback, dropped ++ [.noSort (r.parameterName qualifier)]⟩
  /-- If none is given, they get the resolver's, with that same record. -/
  last : ¬ asked →
    r.resolve (values.map Json.ofText?) qualifier none
      = ⟨.ok r.fallback, dropped ++ [.noSort (r.parameterName qualifier)]⟩
  /-- So the answer is made of the values alone exactly when they ask for a sort. -/
  alone : (∃ answer, ∀ fallback : Option Sorting,
    (r.resolve (values.map Json.ofText?) qualifier fallback).outcome = .ok answer) ↔ asked
  /-- A request that holds the values gets the first sort that has a clause of its own, the default's
  and the resolver's, once the default is built; it is unsorted only when all three are. -/
  request : ∀ (request : RequestParameters) (default : ParameterDefault) (t : Sorting),
    request.HoldsTexts (r.parameterName qualifier) values → default.toSorting = .ok t →
    ∃ answer, (r.resolveParameter request ⟨qualifier, default⟩).outcome = .ok answer
      ∧ answer = Sorting.firstSorted [own, t, r.fallback]
      ∧ (answer.isUnsorted = true
        ↔ own.isUnsorted = true ∧ t.isUnsorted = true ∧ r.fallback.isUnsorted = true)

/-- **Sorts are tried in this order**: that of the values, if they ask for one, then the fallback or
the default of the parameter, then the resolver's last resort. -/
theorem resolve_answersBy {r : Resolver} {delimiter : String}
    (hr : r.propertyDelimiter = .text delimiter) (hd : delimiter ≠ "")
    (values : List (Option String)) (qualifier : Option String) :
    ∃ own dropped,
      Expression.read (.text delimiter) (values.map Json.ofText?) = ⟨.ok own, dropped⟩
        ∧ r.AnswersBy values qualifier (Expression.AskForSort delimiter values) own dropped := by
  refine ⟨_, _, Expression.read_eq hd values, ?_⟩
  constructor
  case drops => exact fun record hmem => Expression.eq_droppedProperty_of_mem hmem
  case sorted => exact Expression.isSorted_sortingOf_iff hd
  case followed => exact fun hasked fallback => resolve_of_asks hr hd hasked qualifier fallback
  case given => exact fun hnot fallback => resolve_of_not_asks hr hd hnot qualifier (some fallback)
  case last => exact fun hnot => resolve_of_not_asks hr hd hnot qualifier none
  case alone =>
    constructor
    · rintro ⟨answer, hanswer⟩
      by_contra hnot
      -- two different fallbacks would be the same answer
      have hunsorted := hanswer (some .unsorted)
      have hsorted := hanswer (some ⟨[default]⟩)
      rw [resolve_of_not_asks hr hd hnot] at hunsorted hsorted
      have hsame := Except.ok.inj (hunsorted.trans hsorted.symm)
      exact absurd (congrArg Sorting.clauses hsame) (List.cons_ne_nil _ _).symm
    · intro hasked
      exact ⟨_, fun fallback => by rw [resolve_of_asks hr hd hasked]⟩
  case request =>
    intro request default t hholds hdefault
    refine ⟨_, resolveParameter_eq_firstSorted hr hd hholds hdefault, rfl, ?_⟩
    rw [Sorting.isUnsorted_firstSorted_iff, List.forall_mem_cons, List.forall_mem_cons,
      List.forall_mem_singleton]

/-- Empty pieces, a missing value, a lone word for a direction and a dot ask for no sort, and the
unsorted fallback that was given is the answer. -/
theorem resolve_answersBy_unsorted :
    let r : Resolver := { propertyDelimiter := .text ";", fallback := ⟨[⟨"id", .asc⟩]⟩ }
    let values : List (Option String) := [some " ; ", none, some "DESC", some ". ;asc"]
    ¬ Expression.AskForSort ";" values
      ∧ r.resolve (values.map Json.ofText?) (some "q") (some .unsorted)
        = ⟨.ok .unsorted, [.droppedProperty "" " ; ", .droppedProperty "" " ; ",
            .droppedProperty "." ". ;asc", .noSort "q_sort"]⟩ := by
  intro r values
  obtain ⟨own, dropped, hread, hanswers⟩ :=
    resolve_answersBy (r := r) rfl (by decide) values (some "q")
  have hnone : Expression.read (.text ";") (values.map Json.ofText?)
      = ⟨.ok .unsorted, [.droppedProperty "" " ; ", .droppedProperty "" " ; ",
          .droppedProperty "." ". ;asc"]⟩ := rfl
  rw [hnone] at hread
  injection hread with hown hdropped
  have hnot : ¬ Expression.AskForSort ";" values := by
    rw [← hanswers.sorted, ← Except.ok.inj hown]
    decide
  refine ⟨hnot, ?_⟩
  rw [hanswers.given hnot, ← hdropped]
  rfl

end Resolver

end OrderBy
