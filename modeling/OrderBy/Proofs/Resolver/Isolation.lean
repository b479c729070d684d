/-
  OrderBy.Proofs.Resolver.Isolation — no parameter reaches into another one.

  The parameters of a request share one list of pairs, and the names of the
  qualified ones are put together from texts that anyone may choose.  Still
  every parameter is resolved from the texts under its own name alone, and no
  two qualifiers share a name; so whatever is done to the pairs of the others
  (`Edit`), alone or many times over, its sort, its error and its records stay
  the same.

  Main results:
    * `resolveParameter_congr` — two requests that hold the same texts under the
      name of a parameter are resolved alike;
    * `textsUnder_of_edit`, `textsUnder_of_edits` — edits keep the texts under
      every name that they do not touch;
    * `isolates` — what follows for the parameters of a resolver.
-/
import Mathlib.Logic.Relation
import OrderBy.Proofs.Resolver.Meaning

namespace OrderBy

/-! ## §1. Texts under a name -/

theorem textsUnder_append (name : String) (before after : List (String × String)) :
    textsUnder name (before ++ after) = textsUnder name before ++ textsUnder name after := by
  rw [textsUnder, List.filter_append, List.map_append]
  rfl

theorem textsUnder_cons_self {name : String} {pair : String × String} (h : pair.1 = name)
    (rest : List (String × String)) :
    textsUnder name (pair :: rest) = pair.2 :: textsUnder name rest := by
  rw [textsUnder, List.filter_cons_of_pos (by simpa using h)]
  rfl

theorem textsUnder_cons_of_ne {name : String} {pair : String × String} (h : pair.1 ≠ name)
    (rest : List (String × String)) : textsUnder name (pair :: rest) = textsUnder name rest := by
  rw [textsUnder, List.filter_cons_of_neg (by simpa using h)]
  rfl

/-- The values that pairs have under a name are the texts held there. -/
theorem values_pairs (name : String) (pairs : List (String × String)) :
    (RequestParameters.pairs pairs).values name = .ok ((textsUnder name pairs).map Json.text) := by
  rw [textsUnder, List.map_map]
  rfl

/-- **Requests that hold the same texts under the name of a parameter are resolved alike**: it has
the same sort or fails with the same error, and writes the same records. -/
theorem Resolver.resolveParameter_congr {r : Resolver} {parameter : Parameter}
    {request other : List (String × String)}
    (h : textsUnder (r.parameterName parameter.qualifier) request
      = textsUnder (r.parameterName parameter.qualifier) other) :
    r.resolveParameter (.pairs request) parameter = r.resolveParameter (.pairs other) parameter := by
  rw [resolveParameter, values_pairs, h, ← values_pairs]
  rfl

/-! ## §2. Edits of a request -/

/-- **One edit of a request** that touches the pairs of some names: one of them is added, removed or
changed, two of one name change places, or two neighbours of different names, be they touched or
not, move past each other. -/
inductive Edit (touched : String → Prop) :
    List (String × String) → List (String × String) → Prop where
  /-- A pair is added. -/
  | add (before after : List (String × String)) {pair : String × String} (h : touched pair.1) :
    Edit touched (before ++ after) (before ++ pair :: after)
  /-- A pair is removed. -/
  | remove (before after : List (String × String)) {pair : String × String} (h : touched pair.1) :
    Edit touched (before ++ pair :: after) (before ++ after)
  /-- A pair gets another text. -/
  | change (before after : List (String × String)) {name : String} (h : touched name)
    (old new : String) : Edit touched (before ++ (name, old) :: after) (before ++ (name, new) :: after)
  /-- Two pairs of one name change places, wherever they are. -/
  | reorder (before between after : List (String × String)) {name : String} (h : touched name)
    (first second : String) :
    Edit touched (before ++ (name, first) :: between ++ (name, second) :: after)
      (before ++ (name, second) :: between ++ (name, first) :: after)
  /-- Two neighbours of different names move past each other. -/
  | pass (before after : List (String × String)) {first second : String × String}
    (h : first.1 ≠ second.1) :
    Edit touched (before ++ first :: second :: after) (before ++ second :: first :: after)

section Edits

variable {touched : String → Prop} {request edited : List (String × String)} {name : String}

/-- **An edit keeps the texts under every name that it does not touch.** -/
theorem textsUnder_of_edit (h : Edit touched request edited) (hname : ¬ touched name) :
    textsUnder name edited = textsUnder name request := by
  -- a pair that is touched is under another name, so it is not seen
  have hne : ∀ other, touched other → other ≠ name := by
    rintro other hother rfl
    exact hname hother
  cases h with
  | add before after h =>
    rw [textsUnder_append, textsUnder_cons_of_ne (hne _ h), textsUnder_append]
  | remove before after h =>
    rw [textsUnder_append, textsUnder_append, textsUnder_cons_of_ne (hne _ h)]
  | change before after h old new =>
    rw [textsUnder_append, textsUnder_append, textsUnder_cons_of_ne (hne _ h),
      textsUnder_cons_of_ne (hne _ h)]
  | reorder before between after h first second =>
    -- of the two pairs that change places none is seen
    simp only [textsUnder_append, List.append_assoc, List.cons_append]
    rw [textsUnder_cons_of_ne (hne _ h), textsUnder_cons_of_ne (hne _ h), textsUnder_append,
      textsUnder_append, textsUnder_cons_of_ne (hne _ h), textsUnder_cons_of_ne (hne _ h)]
  | @pass before after first second h =>
    rw [textsUnder_append, textsUnder_append]
    congr 1
    -- of two pairs of different names one at least is not seen
    by_cases hfirst : first.1 = name
    · have hsecond : second.1 ≠ name := fun heq => h (hfirst.trans heq.symm)
      rw [textsUnder_cons_of_ne hsecond, textsUnder_cons_self hfirst, textsUnder_cons_self hfirst,
        textsUnder_cons_of_ne hsecond]
    · rw [textsUnder_cons_of_ne hfirst]
      by_cases hsecond : second.1 = name
      · rw [textsUnder_cons_self hsecond, textsUnder_cons_self hsecond,
          textsUnder_cons_of_ne hfirst]
      · rw [textsUnder_cons_of_ne hsecond, textsUnder_cons_of_ne hsecond,
          textsUnder_cons_of_ne hfirst]

/-- **So do any number of edits**, one after another. -/
theorem textsUnder_of_edits (h : Relation.ReflTransGen (Edit touched) request edited)
    (hname : ¬ touched name) : textsUnder name edited = textsUnder name request := by
  -- the texts under the name are what every edit leaves as it is
  induction h with
  | refl => rfl
  | tail _ hedit ih => rw [textsUnder_of_edit hedit hname, ih]

end Edits

/-! ## §3. Parameters of a resolver -/

/-- **The parameters of a resolver are isolated** from each other. -/
structure Resolver.Isolates (r : Resolver) : Prop where
  /-- Different qualifiers have different names, a missing one counting as empty. -/
  names : ∀ q q' : Option String, q.getD "" ≠ q'.getD "" → r.parameterName q ≠ r.parameterName q'
  /-- A parameter sees of a request no more than the texts under its name. -/
  view : ∀ (parameter : Parameter) (request other : List (String × String)),
    textsUnder (r.parameterName parameter.qualifier) request
      = textsUnder (r.parameterName parameter.qualifier) other →
    r.resolveParameter (.pairs request) parameter = r.resolveParameter (.pairs other) parameter
  /-- Of parameters with different qualifiers, none is changed by edits of the others' pairs. -/
  frame : ∀ (before after : List Parameter) (kept : Parameter),
    ((before ++ kept :: after).Pairwise fun p p' => p.qualifier.getD "" ≠ p'.qualifier.getD "") →
    ∀ request edited : List (String × String),
      Relation.ReflTransGen
        (Edit fun name => ∃ other ∈ before ++ after, name = r.parameterName other.qualifier)
        request edited →
      r.resolveParameter (.pairs edited) kept = r.resolveParameter (.pairs request) kept

/-- **Every resolver isolates its parameters**, whatever its name and its delimiters are. -/
theorem Resolver.isolates (r : Resolver) : r.Isolates := by
  constructor
  case names =>
    intro q q' hdiffer hsame
    exact hdiffer (r.parameterName_eq_iff.mp hsame)
  case view => exact fun parameter request other h => resolveParameter_congr h
  case frame =>
    intro before after kept hdistinct request edited hedits
    refine resolveParameter_congr (textsUnder_of_edits hedits ?_)
    -- a touched name that is its own would be that of another qualifier
    rintro ⟨other, hother, hsame⟩
    have hqualifier := r.parameterName_eq_iff.mp hsame
    rw [List.pairwise_append] at hdistinct
    obtain ⟨_, hrest, hacross⟩ := hdistinct
    rcases List.mem_append.mp hother with hbefore | hafter
    · exact hacross other hbefore kept List.mem_cons_self hqualifier.symm
    · exact (List.pairwise_cons.mp hrest).1 other hafter hqualifier

/-- Qualifiers that hold the delimiter and the name itself: the pair of one parameter is taken away
and that of another moved to the front, and the one without a qualifier is resolved as before. -/
theorem Resolver.isolates_nested :
    Resolver.resolveParameter {} (.pairs [("sort_sort_sort", "c"), ("sort", "a")]) {}
      = Resolver.resolveParameter {}
          (.pairs [("sort_sort", "b,desc"), ("sort", "a"), ("sort_sort_sort", "c")]) {} := by
  refine (Resolver.isolates {}).frame [⟨some "sort", .nothing⟩] [⟨some "sort_sort", .nothing⟩] {}
    ?_ _ _ ?_
  · simp
  · have htouched : ∃ other ∈ [⟨some "sort", .nothing⟩] ++ [⟨some "sort_sort", .nothing⟩],
        ("sort_sort", "b,desc").1 = Resolver.parameterName {} (Parameter.qualifier other) :=
      ⟨⟨some "sort", .nothing⟩, List.mem_cons_self, rfl⟩
    exact .tail (.single (.remove [] [("sort", "a"), ("sort_sort_sort", "c")] htouched))
      (.pass [] [] (by decide))

end OrderBy
