/-
  OrderBy.Proofs.Resolver.Meaning — what a resolver answers, said without running it.

  A resolver looks at a request through the texts under one name, and at those
  through the clauses they give.  The name is made from the qualifier so that
  different qualifiers never share one.  A request is a list of pairs or a
  mapping; `RequestParameters.HoldsTexts` says which texts either holds under a
  name, and from there on the two are not told apart.

  Main results:
    * `parameterName_eq_iff` — two qualifiers have one name only if both are
      missing or empty, or they are equal;
    * `resolve_eq` — the sort and the records of resolving values;
    * `resolveParameter_of_holdsTexts` — a request is resolved by its texts
      under the name.
-/
import OrderBy.Proofs.Expression.Meaning
import OrderBy.Resolver

namespace OrderBy

/-! ## §1. Names -/

namespace Resolver

variable (r : Resolver)

/-- The name made from a qualifier, a missing one counting as empty. -/
theorem parameterName_eq (qualifier : Option String) :
    r.parameterName qualifier
      = if qualifier.getD "" = "" then r.parameter
        else qualifier.getD "" ++ r.qualifierDelimiter ++ r.parameter := by
  cases qualifier with
  | none => rfl
  | some q =>
    show (if q.isEmpty then r.parameter else q ++ r.qualifierDelimiter ++ r.parameter) = _
    simp only [String.isEmpty_iff, Option.getD_some]

/-- A qualifier that is not empty makes the name longer. -/
theorem append_ne_parameter {q : String} (hq : q ≠ "") :
    q ++ r.qualifierDelimiter ++ r.parameter ≠ r.parameter := by
  intro h
  have hchars := congrArg String.toList h
  rw [String.toList_append, List.append_left_eq_self, String.toList_append,
    List.append_eq_nil_iff] at hchars
  exact hq (String.toList_eq_nil_iff.mp hchars.1)

/-- **Different qualifiers have different names**, whatever they hold; only a missing and an empty
one count as the same. -/
theorem parameterName_eq_iff {q q' : Option String} :
    r.parameterName q = r.parameterName q' ↔ q.getD "" = q'.getD "" := by
  rw [parameterName_eq, parameterName_eq]
  constructor
  · intro h
    -- an empty qualifier is told apart by length, others by what stands before one same end
    by_cases hq : q.getD "" = ""
    · by_cases hq' : q'.getD "" = ""
      · rw [hq, hq']
      · rw [if_pos hq, if_neg hq'] at h
        exact absurd h.symm (r.append_ne_parameter hq')
    · by_cases hq' : q'.getD "" = ""
      · rw [if_neg hq, if_pos hq'] at h
        exact absurd h (r.append_ne_parameter hq)
      · rw [if_neg hq, if_neg hq'] at h
        have hchars := congrArg String.toList h
        simp only [String.toList_append, List.append_assoc] at hchars
        exact String.toList_inj.mp (List.append_cancel_right hchars)
  · intro h
    rw [h]

end Resolver

/-! ## §2. Texts under a name -/

/-- **The texts that pairs hold under a name**, in order. -/
def textsUnder (name : String) (pairs : List (String × String)) : List String :=
  (pairs.filter (·.1 == name)).map Prod.snd

/-- **A request holds texts under a name**: pairs always do; a mapping does when its entry is
missing, `null`, a text, or a list of texts and `null`s. -/
inductive RequestParameters.HoldsTexts (name : String) :
    RequestParameters → List (Option String) → Prop where
  /-- Of pairs, those of the name. -/
  | pairs (pairs : List (String × String)) :
    HoldsTexts name (.pairs pairs) ((textsUnder name pairs).map some)
  /-- No entry holds none. -/
  | absent {entries : List (String × Json)} (h : Json.lookup name entries = none) :
    HoldsTexts name (.mapping entries) []
  /-- The entry `null` holds none. -/
  | null {entries : List (String × Json)} (h : Json.lookup name entries = some .null) :
    HoldsTexts name (.mapping entries) []
  /-- A text is one. -/
  | text {entries : List (String × Json)} {text : String}
    (h : Json.lookup name entries = some (.text text)) :
    HoldsTexts name (.mapping entries) [some text]
  /-- A list holds its items. -/
  | list {entries : List (String × Json)} {texts : List (Option String)}
    (h : Json.lookup name entries = some (.list (texts.map Json.ofText?))) :
    HoldsTexts name (.mapping entries) texts

/-- The values under a name are the texts held there. -/
theorem values_of_holdsTexts {name : String} {request : RequestParameters}
    {texts : List (Option String)} (h : request.HoldsTexts name texts) :
    request.values name = .ok (texts.map Json.ofText?) := by
  cases h with
  | pairs pairs =>
    rw [textsUnder, List.map_map, List.map_map]
    rfl
  | absent h => simp only [RequestParameters.values, h, List.map_nil]
  | null h => simp only [RequestParameters.values, h, List.map_nil]
  | text h =>
    simp only [RequestParameters.values, h]
    rfl
  | list h =>
    simp only [RequestParameters.values, h]
    rfl

/-! ## §3. Answers -/

namespace Resolver

variable {r : Resolver} {delimiter : String}

/-- **Resolving values** gives their sort if it has a clause, else the fallback with one record
more; it does not fail. -/
theorem resolve_eq (hr : r.propertyDelimiter = .text delimiter) (hd : delimiter ≠ "")
    (values : List (Option String)) (qualifier : Option String) (fallback : Option Sorting) :
    r.resolve (values.map Json.ofText?) qualifier fallback
      = ⟨.ok (if (Expression.sortingOf delimiter values).isSorted
            then Expression.sortingOf delimiter values else fallback.getD r.fallback),
          values.flatMap (Expression.recordsOf delimiter)
            ++ if (Expression.sortingOf delimiter values).isSorted then []
              else [.noSort (r.parameterName qualifier)]⟩ := by
  unfold resolve
  rw [hr, Expression.read_eq hd, Traced.bind_ok, Sorting.isUnsorted]
  cases (Expression.sortingOf delimiter values).isSorted with
  | true =>
    simp only [Bool.not_true, Bool.false_eq_true, if_false, if_true, Traced.pure_eq]
  | false =>
    simp only [Bool.not_false, Bool.false_eq_true, if_false, if_true]
    rfl

section Request

variable {request : RequestParameters} {parameter : Parameter} {texts : List (Option String)}

/-- **A parameter is resolved** by the texts of the request under its name, once its default is
built. -/
theorem resolveParameter_of_holdsTexts
    (hholds : request.HoldsTexts (r.parameterName parameter.qualifier) texts) {t : Sorting}
    (hdefault : parameter.default.toSorting = .ok t) :
    r.resolveParameter request parameter
      = r.resolve (texts.map Json.ofText?) parameter.qualifier
          (if t.isSorted then some t else none) := by
  unfold resolveParameter Parameter.defaultSorting
  rw [values_of_holdsTexts hholds, hdefault]
  rfl

/-- **A default that cannot be built** fails the parameter, whatever the request holds. -/
theorem resolveParameter_of_default_error
    (hholds : request.HoldsTexts (r.parameterName parameter.qualifier) texts) {e : SortError}
    (hdefault : parameter.default.toSorting = .error e) :
    r.resolveParameter request parameter = ⟨.error e, []⟩ := by
  unfold resolveParameter Parameter.defaultSorting
  rw [values_of_holdsTexts hholds, hdefault]
  rfl

end Request

/-- A parameter of pairs is resolved by their texts under its name. -/
theorem resolveParameter_eq {parameter : Parameter} {t : Sorting}
    (hdefault : parameter.default.toSorting = .ok t) (pairs : List (String × String)) :
    r.resolveParameter (.pairs pairs) parameter
      = r.resolve
          (((textsUnder (r.parameterName parameter.qualifier) pairs).map some).map Json.ofText?)
          parameter.qualifier (if t.isSorted then some t else none) :=
  resolveParameter_of_holdsTexts (.pairs pairs) hdefault

end Resolver

end OrderBy
