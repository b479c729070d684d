/-
  OrderBy.Assignments — names with their values, in the order first assigned.

  Assigning to a name that is there already changes its value and leaves it in
  its place; a new name goes last.
-/

namespace OrderBy.Assignments

variable {α : Type}

/-- **Assign** a value to a name. -/
def assign (name : String) (value : α) : List (String × α) → List (String × α)
  | [] => [(name, value)]
  | entry :: rest =>
    if entry.1 = name then (name, value) :: rest else entry :: assign name value rest

/-- Forget a name. -/
def erase (name : String) (entries : List (String × α)) : List (String × α) :=
  entries.filter (·.1 ≠ name)

/-- Assign entries one after another. -/
def ofList (entries : List (String × α)) : List (String × α) :=
  entries.foldl (fun assigned entry => assign entry.1 entry.2 assigned) []

/-- An entry found after an assignment is the new one, or was there before. -/
theorem eq_or_mem_of_mem_assign {name : String} {value : α} {entries : List (String × α)}
    {entry : String × α} (h : entry ∈ assign name value entries) :
    entry = (name, value) ∨ entry ∈ entries := by
  induction entries with
  | nil => exact .inl (List.mem_singleton.mp h)
  | cons first rest ih =>
    unfold assign at h
    split at h
    · -- the value takes the place of the first one
      rcases List.mem_cons.mp h with rfl | hrest
      · exact .inl rfl
      · exact .inr (List.mem_cons_of_mem first hrest)
    · rcases List.mem_cons.mp h with rfl | hrest
      · exact .inr List.mem_cons_self
      · exact (ih hrest).imp_right (List.mem_cons_of_mem first)

/-- **Only what was assigned is there.** -/
theorem mem_of_mem_ofList {entries : List (String × α)} {entry : String × α}
    (h : entry ∈ ofList entries) : entry ∈ entries := by
  -- the induction is on what is still to be assigned, whatever was assigned before it
  have hfold : ∀ assigned : List (String × α),
      entry ∈ entries.foldl (fun assigned other => assign other.1 other.2 assigned) assigned →
      entry ∈ entries ∨ entry ∈ assigned := by
    clear h
    induction entries with
    | nil => exact fun assigned hentry => .inr hentry
    | cons other rest ih =>
      intro assigned hentry
      rcases ih _ hentry with hrest | hassigned
      · exact .inl (List.mem_cons_of_mem other hrest)
      · rcases eq_or_mem_of_mem_assign hassigned with rfl | hbefore
        · exact .inl List.mem_cons_self
        · exact .inr hbefore
  exact (hfold [] h).resolve_right List.not_mem_nil

end OrderBy.Assignments
