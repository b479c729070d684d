/-
  OrderBy.Proofs.Resolver.Interleaving — a request put together from several sorts.

  A client writes each of its sorts under the name of a parameter of its own
  and mixes the pairs, with other ones among them, as long as the pairs of one
  sort stay in order.  A resolver that picks the pairs of one name undoes the
  mixing: picking commutes with every step of it (`Interleaving.filter`), and
  what is left of all lists but one is empty (`Interleaving.eq_of_alone`).

  Main results:
    * `textsUnder_of_carries` — under its name a sort is found as it was written;
    * `resolveParameter_of_carries` — every parameter resolves to the sort that
      was written for it, or to its default.
-/
import OrderBy.Proofs.Expression.RoundTrip
import OrderBy.Proofs.Resolver.Meaning

namespace OrderBy

/-! ## §1. Interleavings -/

/-- **A list is an interleaving of lists** when it takes their entries one after another, each
time the first one that is left of one of them, until none is left. -/
inductive Interleaving {α : Type} : List (List α) → List α → Prop where
  /-- No entry is left. -/
  | done {lists : List (List α)} (h : ∀ list ∈ lists, list = []) : Interleaving lists []
  /-- The first entry left of the list at some place is taken. -/
  | take {lists : List (List α)} {place : Nat} {entry : α} {rest merged : List α}
      (h : lists[place]? = some (entry :: rest)) (others : Interleaving (lists.set place rest) merged) :
      Interleaving lists (entry :: merged)

namespace Interleaving

variable {α : Type} {lists : List (List α)} {merged : List α}

/-- **Picking entries commutes with interleaving.** -/
theorem filter (keep : α → Bool) (h : Interleaving lists merged) :
    Interleaving (lists.map (List.filter keep)) (merged.filter keep) := by
  induction h with
  | done hempty =>
    refine .done ?_
    intro list hlist
    obtain ⟨whole, hwhole, rfl⟩ := List.mem_map.mp hlist
    rw [hempty whole hwhole]
    rfl
  | @take lists place entry rest merged hplace _ ih =>
    rw [List.map_set] at ih
    have hkept : (lists.map (List.filter keep))[place]? = some ((entry :: rest).filter keep) := by
      rw [List.getElem?_map, hplace]
      rfl
    by_cases hentry : keep entry = true
    · rw [List.filter_cons_of_pos hentry]
      rw [List.filter_cons_of_pos hentry] at hkept
      exact .take hkept ih
    · -- the entry is in neither of the two, and the lists are as before
      rw [List.filter_cons_of_neg hentry]
      rw [List.filter_cons_of_neg hentry] at hkept
      obtain ⟨hlt, hget⟩ := List.getElem?_eq_some_iff.mp hkept
      rw [← hget, List.set_getElem_self hlt] at ih
      exact ih

/-- **When all lists but one are empty, the interleaving is that one.** -/
theorem eq_of_alone (h : Interleaving lists merged) :
    ∀ (place : Nat) {list : List α}, lists[place]? = some list →
      (∀ other rest, other ≠ place → lists[other]? = some rest → rest = []) → merged = list := by
  induction h with
  | done hempty =>
    intro place list hplace _
    exact (hempty list (List.mem_of_getElem? hplace)).symm
  | @take lists taken entry rest merged htaken _ ih =>
    intro place list hplace halone
    -- every other list is empty, so the entry was taken from this one
    have hsame : taken = place := by
      by_contra hne
      exact absurd (halone taken (entry :: rest) hne htaken) (List.cons_ne_nil entry rest)
    subst hsame
    rw [htaken] at hplace
    have hlist : entry :: rest = list := Option.some.inj hplace
    rw [← hlist]
    congr 1
    obtain ⟨hlt, _⟩ := List.getElem?_eq_some_iff.mp htaken
    refine ih taken (List.getElem?_set_self hlt) ?_
    intro other remaining hne hother
    rw [List.getElem?_set_ne hne.symm] at hother
    exact halone other remaining hne hother

end Interleaving

/-! ## §2. Requests that carry sorts -/

/-- **A request carries sorts**, each written under the name of its qualifier, among other pairs
that are under none of these names. -/
def Resolver.Carries (r : Resolver) (delimiter : String) (entries : List (Option String × Sorting))
    (request : List (String × String)) : Prop :=
  ∃ others : List (String × String),
    (∀ pair ∈ others, ∀ entry ∈ entries, pair.1 ≠ r.parameterName entry.1)
      ∧ Interleaving
          (others :: entries.map fun entry =>
            Expression.parameters (r.parameterName entry.1) (.text delimiter) entry.2)
          request

/-- Of the pairs written for a sort, all or none are under a name. -/
theorem filter_parameters (name other : String) (delimiter : Expression.Delimiter) (s : Sorting) :
    (Expression.parameters other delimiter s).filter (·.1 == name)
      = if other = name then Expression.parameters other delimiter s else [] := by
  unfold Expression.parameters
  rw [List.filter_map]
  by_cases h : other = name
  · rw [if_pos h, h]
    congr 1
    rw [List.filter_eq_self]
    intro expression _
    exact beq_self_eq_true name
  · rw [if_neg h, List.map_eq_nil_iff, List.filter_eq_nil_iff]
    intro expression _
    simpa using h

section Carried

variable {r : Resolver} {delimiter : String} {entries : List (Option String × Sorting)}
  {request : List (String × String)} {entry : Option String × Sorting}

/-- Entries whose qualifiers are told apart have different names. -/
theorem parameterName_ne_of_pairwise
    (hdistinct : entries.Pairwise fun e f => e.1.getD "" ≠ f.1.getD "") {i j : Nat}
    (hi : i < entries.length) (hj : j < entries.length) (hne : i ≠ j) :
    r.parameterName entries[i].1 ≠ r.parameterName entries[j].1 := by
  rw [ne_eq, r.parameterName_eq_iff]
  intro hsame
  rcases Nat.lt_or_gt_of_ne hne with hbefore | hafter
  · exact List.pairwise_iff_getElem.mp hdistinct i j hi hj hbefore hsame
  · exact List.pairwise_iff_getElem.mp hdistinct j i hj hi hafter hsame.symm

/-- **The pairs of a request under the name of an entry are those written for it.** -/
theorem filter_of_carries (hcarries : r.Carries delimiter entries request)
    (hdistinct : entries.Pairwise fun e f => e.1.getD "" ≠ f.1.getD "") (hentry : entry ∈ entries) :
    request.filter (·.1 == r.parameterName entry.1)
      = Expression.parameters (r.parameterName entry.1) (.text delimiter) entry.2 := by
  obtain ⟨others, hothers, hmerged⟩ := hcarries
  obtain ⟨place, hplace, rfl⟩ := List.mem_iff_getElem.mp hentry
  have hpicked := hmerged.filter (·.1 == r.parameterName entries[place].1)
  rw [List.map_cons, List.map_map] at hpicked
  -- the pairs that no entry wrote are the first list, so the entry's own stand one place later
  refine hpicked.eq_of_alone (place + 1) ?_ ?_
  · rw [List.getElem?_cons_succ, List.getElem?_map, List.getElem?_eq_getElem hplace,
      Option.map_some, Function.comp_apply, filter_parameters, if_pos rfl]
  · intro other rest hne hrest
    cases other with
    | zero =>
      rw [List.getElem?_cons_zero] at hrest
      rw [← Option.some.inj hrest, List.filter_eq_nil_iff]
      intro pair hpair
      simpa using hothers pair hpair entries[place] hentry
    | succ other =>
      rw [List.getElem?_cons_succ, List.getElem?_map, Option.map_eq_some_iff] at hrest
      obtain ⟨stranger, hstranger, hrest⟩ := hrest
      obtain ⟨hother, rfl⟩ := List.getElem?_eq_some_iff.mp hstranger
      have hname := parameterName_ne_of_pairwise (r := r) hdistinct hother hplace
        fun h => hne (congrArg (· + 1) h)
      rw [← hrest, Function.comp_apply, filter_parameters, if_neg hname]

/-- **Under its name a sort is found as it was written**, when the qualifiers are told apart. -/
theorem textsUnder_of_carries (hcarries : r.Carries delimiter entries request)
    (hdistinct : entries.Pairwise fun e f => e.1.getD "" ≠ f.1.getD "") (hentry : entry ∈ entries) :
    textsUnder (r.parameterName entry.1) request
      = Expression.encode (.text delimiter) entry.2 := by
  rw [textsUnder, filter_of_carries hcarries hdistinct hentry, Expression.parameters, List.map_map]
  exact List.map_id _

end Carried

/-- **Every parameter resolves to the sort that was written for it**, or, when that has no clause,
to its default or the sort of last resort. -/
theorem resolveParameter_of_carries {r : Resolver} {delimiter : String}
    (hr : r.propertyDelimiter = .text delimiter) (hd : delimiter ≠ "")
    (hname : ∀ direction : Direction, ¬ delimiter.toList <:+: direction.name.toList)
    {entries : List (Option String × Sorting)}
    (hdistinct : entries.Pairwise fun e f => e.1.getD "" ≠ f.1.getD "")
    (hwf : ∀ entry ∈ entries, entry.2.WellFormed)
    (hclear : ∀ entry ∈ entries, ∀ c ∈ entry.2.clauses,
      Text.Clear delimiter.toList c.property.toList)
    {request : List (String × String)} (hcarries : r.Carries delimiter entries request)
    {entry : Option String × Sorting} (hentry : entry ∈ entries)
    {default : ParameterDefault} {t : Sorting} (hdefault : default.toSorting = .ok t) :
    (r.resolveParameter (.pairs request) ⟨entry.1, default⟩).outcome
      = .ok (if entry.2.isSorted then entry.2 else if t.isSorted then t else r.fallback) := by
  have hsorting : Expression.sortingOf delimiter
      ((Expression.encode (.text delimiter) entry.2).map some) = entry.2 := by
    have hread := (Expression.reads_back_of_clear hd hname (hwf entry hentry)
      (hclear entry hentry)).1
    rw [Expression.outcome_readTexts hd] at hread
    exact Except.ok.inj hread
  rw [Resolver.resolveParameter_eq hdefault, textsUnder_of_carries hcarries hdistinct hentry,
    Resolver.resolve_eq hr hd, hsorting]
  -- an empty default counts as none, so the sort of last resort stands in for it
  cases t.isSorted <;> rfl

/-- Qualifiers made of the name itself, and a parameter of another name in between. -/
theorem resolveParameter_of_carries_nested :
    (Resolver.resolveParameter { propertyDelimiter := .text "::" }
        (.pairs [("sort_sort", "a:b::DESC"), ("page", "2"), ("sort", "c::ASC"),
          ("sort_sort", "d::ASC")])
        ⟨some "sort", .nothing⟩).outcome
      = .ok ⟨[⟨"a:b", .desc⟩, ⟨"d", .asc⟩]⟩ := by
  have hname : ∀ direction : Direction, ¬ "::".toList <:+: direction.name.toList := by
    intro direction
    cases direction <;> decide
  refine resolveParameter_of_carries rfl (by decide) hname
    (show [(none, ⟨[⟨"c", .asc⟩]⟩), (some "sort", ⟨[⟨"a:b", .desc⟩, ⟨"d", .asc⟩]⟩),
      (some "sort_sort", Sorting.unsorted)].Pairwise _ by decide) ?_ ?_ ?_
    (show (some "sort", ⟨[⟨"a:b", .desc⟩, ⟨"d", .asc⟩]⟩) ∈ _ by simp) rfl
  · intro entry hentry c hc
    simp only [List.mem_cons, List.not_mem_nil, or_false] at hentry
    rcases hentry with rfl | rfl | rfl <;> revert c <;> decide
  · intro entry hentry c hc
    simp only [List.mem_cons, List.not_mem_nil, or_false] at hentry
    rcases hentry with rfl | rfl | rfl <;> revert c <;> decide
  · refine ⟨[("page", "2")], by decide, ?_⟩
    refine @Interleaving.take _ _ 2 _ _ _ rfl ?_
    refine @Interleaving.take _ _ 0 _ _ _ rfl ?_
    refine @Interleaving.take _ _ 1 _ _ _ rfl ?_
    refine @Interleaving.take _ _ 2 _ _ _ rfl ?_
    exact .done (by decide)

end OrderBy
