/-
  OrderBy.Proofs.Schema — schemas come back from their JSON text.

  The text of a schema is read as the value it was written from
  (`Json.read?_render`), since a schema holds no numbers.  Checking that value
  finds each clause as it was, whatever characters its property has, and passes
  over the member `sorted`.  A schema made of a sort keeps all of the sort, so
  two sorts with one text are one sort.

  Main results:
    * `ClauseSchema.ofJson_toJson`, `ofJson_toJson` — a schema comes back from its
      JSON value;
    * `lossless_render` — it comes back from its JSON text, and with it the sort
      that it was made of.
-/
import OrderBy.Proofs.Json.RoundTrip
import OrderBy.Proofs.Sorting.Rebuilding

namespace OrderBy

/-! ## §1. Checks without issues -/

/-- A check that takes every value back to what it was made of takes a list of them back. -/
theorem Validated.eachFrom_map {α β : Type} {check : α → Validated β} {make : β → α}
    (h : ∀ b, check (make b) = .ok b) (position : Nat) (values : List β) :
    Validated.eachFrom check position (values.map make) = .ok values := by
  induction values generalizing position with
  | nil => rfl
  | cons value values ih =>
    rw [List.map_cons, Validated.eachFrom, h, ih]
    rfl

/-! ## §2. JSON values of schemas -/

namespace ClauseSchema

theorem numberless_toJson (x : ClauseSchema) : x.toJson.Numberless :=
  ⟨trivial, trivial, trivial⟩

/-- **The schema of a clause comes back from its JSON value.** -/
theorem ofJson_toJson (x : ClauseSchema) : ofJson x.toJson = .ok x := by
  have hdirection : checkDirection (some (.text x.direction.value)) = .ok x.direction := by
    simp only [checkDirection, Json.text?, Option.bind_some, Direction.ofValue?_value]
  show Validated.apply (((checkProperty (some (.text x.property))).under _).map ClauseSchema.mk)
    ((checkDirection (some (.text x.direction.value))).under _) = _
  rw [hdirection]
  rfl

end ClauseSchema

namespace SortingSchema

theorem numberless_toJson (x : SortingSchema) : x.toJson.Numberless := by
  refine ⟨?_, trivial, trivial⟩
  show Json.NumberlessItems (x.clauses.map ClauseSchema.toJson)
  induction x.clauses with
  | nil => trivial
  | cons clause clauses ih => exact ⟨clause.numberless_toJson, ih⟩

/-- **The schema of a sort comes back from its JSON value.** -/
theorem ofJson_toJson (x : SortingSchema) : ofJson x.toJson = .ok x := by
  show ((Validated.eachFrom ClauseSchema.ofJson 0 (x.clauses.map ClauseSchema.toJson)).under
    _).map SortingSchema.mk = _
  rw [Validated.eachFrom_map ClauseSchema.ofJson_toJson]
  rfl

/-- A schema of a sort has the clauses of that sort. -/
theorem ofSorting_injective {s t : Sorting} (h : ofSorting s = ofSorting t) : s = t := by
  have hclauses : s.clauses.map ClauseSchema.ofClause = t.clauses.map ClauseSchema.ofClause :=
    congrArg clauses h
  have hinjective : Function.Injective ClauseSchema.ofClause := by
    intro c d hcd
    injection hcd with hproperty hdirection
    cases c
    cases d
    exact congr (congrArg Clause.mk hproperty) hdirection
  cases s
  cases t
  exact congrArg Sorting.mk (List.map_injective_iff.mpr hinjective hclauses)

/-! ## §3. JSON texts of schemas -/

/-- **JSON texts lose nothing** of the schemas and sorts that they are written for. -/
structure Lossless : Prop where
  /-- The text of a schema is that of an object, which says whether there are clauses and is the
  schema again when it is checked. -/
  schema : ∀ x : SortingSchema, ∃ members, Json.read? x.render = some (.object members)
    ∧ (∃ sorted, Json.lookup "sorted" members = some (.bool sorted)
      ∧ (sorted = true ↔ x.clauses ≠ []))
    ∧ ofJson (.object members) = .ok x
  /-- A sort comes back from the text of its schema. -/
  sorting : ∀ s : Sorting, s.WellFormed → ∃ value x,
    Json.read? (ofSorting s).render = some value ∧ ofJson value = .ok x ∧ x.toSorting = .ok s
  /-- Sorts with the same text are the same. -/
  injective : ∀ s t : Sorting, (ofSorting s).render = (ofSorting t).render → s = t

/-- A schema has clauses exactly when its list is not empty. -/
theorem isSorted_iff (x : SortingSchema) : x.isSorted = true ↔ x.clauses ≠ [] := by
  rw [isSorted, Bool.not_eq_true', List.isEmpty_eq_false_iff]

/-- **The JSON text of a schema loses nothing.** -/
theorem lossless_render : Lossless := by
  have hread : ∀ x : SortingSchema, Json.read? x.render = some x.toJson :=
    fun x => Json.read?_render x.numberless_toJson
  constructor
  case schema =>
    intro x
    -- the members are those of the value that was written
    exact ⟨_, hread x, ⟨x.isSorted, rfl, x.isSorted_iff⟩, x.ofJson_toJson⟩
  case sorting =>
    intro s hs
    exact ⟨_, _, hread (ofSorting s), ofJson_toJson _, Sorting.toSorting_ofSorting hs⟩
  case injective =>
    intro s t h
    -- both schemas are read from the one text
    have hvalue : (ofSorting s).toJson = (ofSorting t).toJson := by
      apply Option.some.inj
      rw [← hread, ← hread, h]
    have hchecked : (.ok (ofSorting s) : Validated SortingSchema) = .ok (ofSorting t) := by
      rw [← ofJson_toJson, ← ofJson_toJson, hvalue]
    exact ofSorting_injective (Except.ok.inj hchecked)

/-- A quote, a backslash, a character escaped by a letter, one escaped by its number and U+007F in
one property. -/
theorem lossless_render_escaped :
    let s : Sorting := ⟨[⟨"a\"\\\n\x01\x7f", .desc⟩]⟩
    s.WellFormed
      ∧ (ofSorting s).render
        = "\x7b\"orders\":[\x7b\"property\":\"a\\\"\\\\\\n\\u0001\x7f\","
          ++ "\"direction\":\"desc\"\x7d],\"sorted\":true\x7d"
      ∧ ∃ value x, Json.read? (ofSorting s).render = some value ∧ ofJson value = .ok x
        ∧ x.toSorting = .ok s := by
  intro s
  have hs : s.WellFormed := List.forall_mem_singleton.mpr (by decide +kernel)
  exact ⟨hs, by decide +kernel, lossless_render.sorting s hs⟩

end SortingSchema

end OrderBy
