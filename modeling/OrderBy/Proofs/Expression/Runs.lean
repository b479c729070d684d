/-
  OrderBy.Proofs.Expression.Runs — folding writes as few expressions as there can be.

  The clauses of a sort fall into runs of one direction, each as long as it can
  be (`MaximalRuns`).  Folding keeps a group under way and writes it when the
  direction changes, which gives one expression for each of these runs.

  No request asks for the same sort with fewer values.  All clauses that one
  value gives share their direction, so taking them off the front of the clauses
  costs one run at most (`MaximalRuns.cut`).

  Main results:
    * `groups_of_maximalRuns` — the groups that folding writes are the maximal
      runs;
    * `sharesDirection_of_readValue` — the clauses of one value share a
      direction;
    * `length_le_of_readClauses` — values give no more maximal runs than they
      are;
    * `fold_fewest` — folding writes the maximal runs, and no values that read
      as the sort are fewer.
-/
import OrderBy.Proofs.Expression.Folding

namespace OrderBy.Expression

/-! ## §1. Runs -/

/-- **A run**: properties one after another that share a direction. -/
structure Run where
  /-- The properties in order. -/
  properties : List String
  /-- The direction of all of them. -/
  direction : Direction

namespace Run

/-- The clauses of a run. -/
def clauses (r : Run) : List Clause :=
  r.properties.map fun property => ⟨property, r.direction⟩

/-- **The expression of a run**: its properties in order and the name of its direction, with the
delimiter between them. -/
def expression (delimiter : String) (r : Run) : String :=
  delimiter.intercalate (r.properties ++ [r.direction.name])

theorem direction_of_mem_clauses {r : Run} {c : Clause} (h : c ∈ r.clauses) :
    c.direction = r.direction := by
  obtain ⟨_, _, rfl⟩ := List.mem_map.mp h
  rfl

theorem exists_mem_clauses (r : Run) (h : r.properties ≠ []) : ∃ c, c ∈ r.clauses := by
  obtain ⟨property, hproperty⟩ := List.exists_mem_of_ne_nil _ h
  exact ⟨⟨property, r.direction⟩, List.mem_map.mpr ⟨property, hproperty, rfl⟩⟩

/-- Clauses that share a direction are those of a run. -/
theorem clauses_of_direction {clauses : List Clause} {direction : Direction}
    (h : ∀ c ∈ clauses, c.direction = direction) :
    (⟨clauses.map Clause.property, direction⟩ : Run).clauses = clauses := by
  have hself : ∀ c ∈ clauses, (⟨c.property, direction⟩ : Clause) = c := by
    intro c hc
    rw [← h c hc]
  show (clauses.map Clause.property).map (fun property => ⟨property, direction⟩) = clauses
  rw [List.map_map]
  exact (List.map_congr_left hself).trans (List.map_id' clauses)

end Run

/-- **The maximal runs of clauses**: none is empty, and no two neighbours share a direction, so that
none can be made longer. -/
inductive MaximalRuns : List Clause → List Run → Prop where
  /-- No clause is left. -/
  | none : MaximalRuns [] []
  /-- A run comes first, and the one behind it has another direction. -/
  | run {clauses rest : List Clause} {r : Run} {runs : List Run}
    (hclauses : clauses = r.clauses ++ rest) (hfilled : r.properties ≠ [])
    (hapart : ∀ next ∈ runs.head?, next.direction ≠ r.direction)
    (others : MaximalRuns rest runs) : MaximalRuns clauses (r :: runs)

namespace MaximalRuns

theorem head_direction {clauses : List Clause} {runs : List Run} (h : MaximalRuns clauses runs) :
    clauses.head?.map Clause.direction = runs.head?.map Run.direction := by
  cases h with
  | none => rfl
  | @run _ rest r runs hclauses hfilled _ _ =>
    obtain ⟨property, properties, hcons⟩ := List.exists_cons_of_ne_nil hfilled
    rw [hclauses, Run.clauses, hcons]
    rfl

/-- The clause right behind a run does not have its direction. -/
theorem head_ne {rest : List Clause} {runs : List Run} (others : MaximalRuns rest runs)
    {direction : Direction} (hapart : ∀ next ∈ runs.head?, next.direction ≠ direction) :
    ∀ c ∈ rest.head?, c.direction ≠ direction := by
  intro c hc hsame
  have hhead := others.head_direction
  rw [Option.mem_def.mp hc, Option.map_some] at hhead
  obtain ⟨next, hnext, hdirection⟩ := Option.map_eq_some_iff.mp hhead.symm
  exact hapart next hnext (hdirection.trans hsame)

/-- **Clauses always have maximal runs.** -/
theorem exists_of_clauses (clauses : List Clause) : ∃ runs, MaximalRuns clauses runs := by
  induction clauses with
  | nil => exact ⟨[], .none⟩
  | cons c clauses ih =>
    obtain ⟨runs, hruns⟩ := ih
    -- the clause goes in front of the first run, or is a run of its own
    cases hruns with
    | none =>
      refine ⟨[⟨[c.property], c.direction⟩], ?_⟩
      exact .run rfl (List.cons_ne_nil _ _) (by simp) .none
    | @run _ rest r runs hclauses hfilled hapart others =>
      by_cases hsame : r.direction = c.direction
      · refine ⟨⟨c.property :: r.properties, c.direction⟩ :: runs, ?_⟩
        rw [hsame] at hapart
        refine .run ?_ (List.cons_ne_nil _ _) hapart others
        rw [hclauses, Run.clauses, hsame]
        rfl
      · refine ⟨⟨[c.property], c.direction⟩ :: r :: runs, ?_⟩
        refine .run rfl (List.cons_ne_nil _ _) ?_ (.run hclauses hfilled hapart others)
        simpa using hsame

/-! ## §2. What folding writes -/

/-- **A group under way takes up the rest of its run**, and the next group starts behind it. -/
theorem groupsFrom_append {direction : Direction} {rest : List Clause}
    (hrest : ∀ c ∈ rest.head?, c.direction ≠ direction) (properties more : List String) :
    groupsFrom properties direction (Run.clauses ⟨more, direction⟩ ++ rest)
      = groupWords (properties ++ more) direction :: groups ⟨rest⟩ := by
  induction more generalizing properties with
  | nil =>
    rw [List.append_nil]
    cases rest with
    | nil => rfl
    | cons c rest =>
      show groupsFrom properties direction (c :: rest) = _
      rw [groupsFrom, if_neg (hrest c rfl)]
      rfl
  | cons property more ih =>
    show groupsFrom properties direction
      (⟨property, direction⟩ :: (Run.clauses ⟨more, direction⟩ ++ rest)) = _
    rw [groupsFrom, if_pos rfl, ih, List.append_assoc]
    rfl

end MaximalRuns

/-- **The groups that folding writes are the maximal runs.** -/
theorem groups_of_maximalRuns {clauses : List Clause} {runs : List Run}
    (h : MaximalRuns clauses runs) :
    groups ⟨clauses⟩ = runs.map fun r => groupWords r.properties r.direction := by
  induction h with
  | none => rfl
  | @run _ rest r runs hclauses hfilled hapart others ih =>
    obtain ⟨property, more, hcons⟩ := List.exists_cons_of_ne_nil hfilled
    rw [hclauses, Run.clauses, hcons]
    show groupsFrom [property] r.direction (Run.clauses ⟨more, r.direction⟩ ++ rest) = _
    rw [MaximalRuns.groupsFrom_append (others.head_ne hapart), ih, List.map_cons, hcons]
    rfl

theorem encodeGroup_eq_intercalate (delimiter : String) (group : List String) :
    encodeGroup delimiter group = delimiter.intercalate group := by
  rw [← String.toList_inj, encodeGroup, String.toList_ofList, String.toList_intercalate,
    Text.join_eq_intercalate]

/-- **Folding writes the expressions of the maximal runs**, whatever the delimiter is. -/
theorem fold_of_maximalRuns {s : Sorting} {runs : List Run} (h : MaximalRuns s.clauses runs)
    (delimiter : String) : fold (.text delimiter) s = .ok (runs.map (Run.expression delimiter)) := by
  have hgroups : groups s = runs.map fun r => groupWords r.properties r.direction :=
    groups_of_maximalRuns h
  show Except.ok ((groups s).map (encodeGroup delimiter)) = _
  rw [hgroups, List.map_map]
  refine congrArg Except.ok (List.map_congr_left ?_)
  intro r _
  exact encodeGroup_eq_intercalate delimiter (groupWords r.properties r.direction)

/-- Folding writes no more expressions than there are maximal runs, if it writes any. -/
theorem length_fold_le {s : Sorting} {runs : List Run} (h : MaximalRuns s.clauses runs)
    {delimiter : Delimiter} {folded : List String} (hfold : fold delimiter s = .ok folded) :
    folded.length ≤ runs.length := by
  cases delimiter with
  | text delimiter =>
    rw [fold_of_maximalRuns h] at hfold
    rw [← Except.ok.inj hfold, List.length_map]
  | blanks | unusable _ =>
    -- a delimiter that is no text writes nothing but the unsorted sort
    dsimp only [fold] at hfold
    split at hfold
    next =>
      rw [← Except.ok.inj hfold]
      exact Nat.zero_le _
    next => exact absurd hfold (by simp)

/-! ## §3. What values give -/

/-- **Clauses of one direction taken off the front** cost one run at most: the first run goes with
them, or is what is left of it. -/
theorem MaximalRuns.cut {front back : List Clause} {runs : List Run} {direction : Direction}
    (h : MaximalRuns (front ++ back) runs) (hfront : ∀ c ∈ front, c.direction = direction) :
    ∃ others, MaximalRuns back others ∧ runs.length ≤ others.length + 1 := by
  generalize hall : front ++ back = clauses at h
  cases h with
  | none => exact ⟨[], (List.append_eq_nil_iff.mp hall).2 ▸ .none, Nat.zero_le _⟩
  | @run _ rest r runs hclauses hfilled hapart others =>
    rcases List.append_eq_append_iff.mp (hall.trans hclauses) with
      ⟨more, hrun, hback⟩ | ⟨more, hmore, hrest⟩
    · by_cases hempty : more = []
      · -- the run ends where the clauses taken off do
        rw [hback, hempty, List.nil_append]
        exact ⟨runs, others, Nat.le_refl _⟩
      · -- the run goes on behind them
        have hown : ∀ c ∈ more, c.direction = r.direction := by
          intro c hc
          refine Run.direction_of_mem_clauses (r := r) ?_
          rw [hrun]
          exact List.mem_append_right front hc
        refine ⟨⟨more.map Clause.property, r.direction⟩ :: runs, ?_, Nat.le_succ _⟩
        refine .run ?_ (by simpa using hempty) hapart others
        rw [Run.clauses_of_direction hown, hback]
    · -- the run ends among them, and no clause of its direction follows it
      have hempty : more = [] := by
        by_contra hne
        obtain ⟨c, tail, hcons⟩ := List.exists_cons_of_ne_nil hne
        obtain ⟨first, hfirst⟩ := r.exists_mem_clauses hfilled
        have hown : first.direction = direction := by
          apply hfront
          rw [hmore]
          exact List.mem_append_left more hfirst
        have hnext : c.direction = direction := by
          apply hfront
          rw [hmore, hcons]
          exact List.mem_append_right r.clauses List.mem_cons_self
        refine others.head_ne hapart c ?_ ?_
        · rw [hrest, hcons]
          rfl
        · rw [hnext, ← hown, Run.direction_of_mem_clauses hfirst]
      rw [hempty, List.nil_append] at hrest
      rw [← hrest]
      exact ⟨runs, others, Nat.le_refl _⟩

section Values

variable {delimiter : Delimiter}

/-- **All clauses of one value share a direction.** -/
theorem sharesDirection_of_readValue {value : Json} {clauses : List Clause}
    (h : (readValue delimiter value).outcome = .ok clauses) :
    ∃ direction, ∀ c ∈ clauses, c.direction = direction := by
  obtain ⟨pieces, direction, rfl⟩ := exists_pieces_of_readValue h
  refine ⟨direction, ?_⟩
  intro c hc
  obtain ⟨piece, _, hclause⟩ := List.mem_filterMap.mp hc
  exact direction_of_clause?_eq_some hclause

/-- **Values give no more maximal runs than they are.**  The induction is on the values: the clauses
of the first one are taken off the front, and the others give the rest. -/
theorem length_le_of_readClauses {values : List Json} {clauses : List Clause} {runs : List Run}
    (h : (readClauses delimiter values).outcome = .ok clauses) (hruns : MaximalRuns clauses runs) :
    runs.length ≤ values.length := by
  induction values generalizing clauses runs with
  | nil =>
    have hnone : [] = clauses := Except.ok.inj h
    cases hruns with
    | none => exact Nat.le_refl 0
    | @run _ rest r runs hclauses hfilled _ _ =>
      obtain ⟨c, hc⟩ := r.exists_mem_clauses hfilled
      have hmem : c ∈ clauses := hclauses ▸ List.mem_append_left rest hc
      rw [← hnone] at hmem
      exact absurd hmem List.not_mem_nil
  | cons value values ih =>
    unfold readClauses at h
    rw [Outcome.outcome_bind] at h
    obtain ⟨first, hfirst, h⟩ := Outcome.of_bind_eq_ok h
    rw [Outcome.outcome_bind] at h
    obtain ⟨rest, hrest, h⟩ := Outcome.of_bind_eq_ok h
    -- the clauses of one value share a direction, so they end one run at most
    obtain ⟨direction, hshared⟩ := sharesDirection_of_readValue hfirst
    rw [← Except.ok.inj h] at hruns
    obtain ⟨others, hothers, hle⟩ := hruns.cut hshared
    have hfewer := ih hrest hothers
    rw [List.length_cons]
    omega

end Values

/-- **Folding writes one expression for each maximal run, and no values that read as the sort are
fewer.**  The expressions are those of the runs with every delimiter, the empty one included; and
no delimiter lets fewer values do. -/
theorem fold_fewest (s : Sorting) :
    (∃ runs, MaximalRuns s.clauses runs)
      ∧ (∀ runs, MaximalRuns s.clauses runs → ∀ delimiter : String,
          fold (.text delimiter) s = .ok (runs.map (Run.expression delimiter)))
      ∧ ∀ (delimiter : Delimiter) (values : List Json) (folded : List String),
          (read delimiter values).outcome = .ok s → fold delimiter s = .ok folded →
            folded.length ≤ values.length := by
  refine ⟨MaximalRuns.exists_of_clauses s.clauses, fun _ hruns => fold_of_maximalRuns hruns, ?_⟩
  intro delimiter values folded hread hfold
  obtain ⟨runs, hruns⟩ := MaximalRuns.exists_of_clauses s.clauses
  unfold read at hread
  rw [Outcome.outcome_bind] at hread
  obtain ⟨clauses, hclauses, hread⟩ := Outcome.of_bind_eq_ok hread
  have hsame : (⟨clauses⟩ : Sorting) = s := Except.ok.inj hread
  rw [← hsame] at hruns hfold
  exact (length_fold_le hruns hfold).trans (length_le_of_readClauses hclauses hruns)

/-- Five values, one of them missing and one of dots, read as two maximal runs. -/
theorem fold_fewest_alternating :
    let s : Sorting := ⟨[⟨"a", .asc⟩, ⟨"b", .asc⟩, ⟨"c", .asc⟩, ⟨"d", .desc⟩]⟩
    let values : List Json :=
      [.text "a, b ,ASC", .null, .text "c", .text " . ,desc", .text "d,Descending"]
    MaximalRuns s.clauses [⟨["a", "b", "c"], .asc⟩, ⟨["d"], .desc⟩]
      ∧ (read .comma values).outcome = .ok s
      ∧ fold .comma s = .ok ["a,b,c,ASC", "d,DESC"]
      ∧ ["a,b,c,ASC", "d,DESC"].length ≤ values.length := by
  intro s values
  have hruns : MaximalRuns s.clauses [⟨["a", "b", "c"], .asc⟩, ⟨["d"], .desc⟩] :=
    .run rfl (by decide) (by decide) (.run rfl (by decide) (by simp) .none)
  have hread : (read .comma values).outcome = .ok s := rfl
  have hfold : fold .comma s = .ok ["a,b,c,ASC", "d,DESC"] := (fold_fewest s).2.1 _ hruns ","
  exact ⟨hruns, hread, hfold, (fold_fewest s).2.2 _ _ _ hread hfold⟩

end OrderBy.Expression
