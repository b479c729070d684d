/-
  OrderBy.Proofs.Expression.Accounting — every token is accounted for.

  The tokens of a text are its parts between the occurrences of the delimiter,
  but for a last one that names the direction.  Each token gives one clause if a
  clause can be made of it, and one record if not; a missing or blank value
  gives neither.  The relations of this module say so without reading anything,
  and reading is shown to give what they allow and nothing else: so no token is
  lost, none counts twice, and their order is kept.

  Main results:
    * `tokens_iff`, `accounts_iff`, `givenByAll_iff` — the relations, level by
      level, against the functions that say what reading gives;
    * `read_of_not_isFilled`, `read_of_cut_error` — a delimiter that cuts nothing fails at the first
      value that has to be cut, and at no other;
    * `read_accounts` — reading accounts for all tokens of all values.
-/
import OrderBy.Proofs.Direction
import OrderBy.Proofs.Expression.Meaning

namespace OrderBy.Expression

/-! ## §1. Tokens -/

/-- **The tokens of a text, and the direction they share.** -/
inductive Tokens (delimiter text : List Char) : List (List Char) → Direction → Prop where
  /-- The last part names the direction and is no token. -/
  | named {tokens : List (List Char)} {last : List Char} {direction : Direction}
    (hparts : Text.Parted delimiter text (tokens ++ [last])) (hlast : direction.Named last) :
    Tokens delimiter text tokens direction
  /-- The last part names no direction, so all parts are tokens and ascending. -/
  | plain {tokens : List (List Char)} {last : List Char}
    (hparts : Text.Parted delimiter text (tokens ++ [last]))
    (hlast : ∀ direction : Direction, ¬ direction.Named last) :
    Tokens delimiter text (tokens ++ [last]) .asc

/-- **Every text has its tokens**, which are those that the reader takes, and no others. -/
theorem tokens_iff {delimiter text : List Char} (hd : delimiter ≠ []) {tokens : List (List Char)}
    {direction : Direction} :
    Tokens delimiter text tokens direction
      ↔ splitDirection (Text.pieces delimiter text) = (tokens, direction) := by
  constructor
  · intro h
    cases h with
    | named hparts hlast =>
      rw [(Text.parted_iff hd).mp hparts]
      exact splitDirection_of_some (Direction.ofChars?_eq_some_iff.mpr hlast)
    | plain hparts hlast =>
      rw [(Text.parted_iff hd).mp hparts]
      exact splitDirection_of_none (Direction.ofChars?_eq_none_iff.mpr hlast)
  · intro h
    -- there always is a last piece, and it alone decides which constructor applies
    obtain ⟨front, last, hpieces⟩ :=
      (List.eq_nil_or_concat' (Text.pieces delimiter text)).resolve_left
        (Text.pieces_ne_nil delimiter text)
    have hparts : Text.Parted delimiter text (front ++ [last]) := (Text.parted_iff hd).mpr hpieces
    rw [hpieces] at h
    cases hnamed : Direction.ofChars? last with
    | some found =>
      rw [splitDirection_of_some hnamed] at h
      injection h with htokens hdirection
      rw [← htokens, ← hdirection]
      exact .named hparts (Direction.ofChars?_eq_some_iff.mp hnamed)
    | none =>
      rw [splitDirection_of_none hnamed] at h
      injection h with htokens hdirection
      rw [← htokens, ← hdirection]
      exact .plain hparts (Direction.ofChars?_eq_none_iff.mp hnamed)

/-! ## §2. What tokens give -/

/-- **Clauses and records account for the tokens of a value**, in order: each token gives one
clause or one record. -/
inductive Accounts (value : String) (direction : Direction) :
    List (List Char) → List Clause → List Record → Prop where
  /-- No token is left. -/
  | done : Accounts value direction [] [] []
  /-- A clause can be made of the token: it has the trimmed token and the direction. -/
  | clause {token : List Char} {tokens : List (List Char)} {clauses : List Clause}
    {records : List Record}
    (h : Clause.make (String.ofList token) direction
      = .ok ⟨String.ofList (Text.strip token), direction⟩)
    (others : Accounts value direction tokens clauses records) :
    Accounts value direction (token :: tokens)
      (⟨String.ofList (Text.strip token), direction⟩ :: clauses) records
  /-- No clause can be made of the token: a record quotes the trimmed token and the value. -/
  | record {token : List Char} {tokens : List (List Char)} {clauses : List Clause}
    {records : List Record} {e : SortError}
    (h : Clause.make (String.ofList token) direction = .error e)
    (others : Accounts value direction tokens clauses records) :
    Accounts value direction (token :: tokens) clauses
      (.droppedProperty (String.ofList (Text.strip token)) value :: records)

/-- A clause can be made of a token exactly when it names a property. -/
theorem make_ofList (token : List Char) (direction : Direction) :
    Clause.make (String.ofList token) direction
      = if isValidProperty token then .ok ⟨String.ofList (Text.strip token), direction⟩
        else .error (.invalidProperty (.text (String.ofList token))) := by
  rw [Clause.make_eq, String.toList_ofList]

/-- **Tokens are accounted for** by the clauses of the valid ones and the records of the others,
and by nothing else. -/
theorem accounts_iff {value : String} {direction : Direction} {tokens : List (List Char)}
    {clauses : List Clause} {records : List Record} :
    Accounts value direction tokens clauses records
      ↔ tokens.filterMap (clause? direction) = clauses
        ∧ tokens.filterMap (dropped? value) = records := by
  constructor
  · intro h
    -- a token that a clause can be made of is kept by one filter and dropped by the other
    induction h with
    | done => exact ⟨rfl, rfl⟩
    | @clause token tokens clauses records hmake _ ih =>
      rw [make_ofList] at hmake
      split at hmake
      next hvalid =>
        rw [List.filterMap_cons, List.filterMap_cons, clause?, dropped?, if_pos hvalid,
          if_pos hvalid, ih.1, ih.2]
        exact ⟨rfl, rfl⟩
      next => exact absurd hmake (by simp)
    | @record token tokens clauses records e hmake _ ih =>
      rw [make_ofList] at hmake
      split at hmake
      next => exact absurd hmake (by simp)
      next hinvalid =>
        rw [List.filterMap_cons, List.filterMap_cons, clause?, dropped?, if_neg hinvalid,
          if_neg hinvalid, ih.1, ih.2]
        exact ⟨rfl, rfl⟩
  · rintro ⟨rfl, rfl⟩
    induction tokens with
    | nil => exact .done
    | cons token tokens ih =>
      have hmake := make_ofList token direction
      rw [List.filterMap_cons, List.filterMap_cons, clause?, dropped?]
      by_cases hvalid : isValidProperty token = true
      · rw [if_pos hvalid] at hmake ⊢
        rw [if_pos hvalid]
        exact .clause hmake ih
      · rw [if_neg hvalid] at hmake ⊢
        rw [if_neg hvalid]
        exact .record hmake ih

/-! ## §3. What values give -/

/-- **A value has something to cut** when it is there and not blank. -/
def IsFilled (value : Option String) : Prop :=
  ∃ text, value = some text ∧ ∃ c ∈ text.toList, Text.isBlank c = false

/-- A text has something to cut when it is not blank. -/
theorem isFilled_some_iff {text : String} :
    IsFilled (some text) ↔ Text.isBlankText text.toList = false := by
  rw [Text.isBlankText_eq_false_iff]
  constructor
  · rintro ⟨_, hsame, h⟩
    rwa [Option.some.inj hsame]
  · intro h
    exact ⟨text, rfl, h⟩

/-- **What one value gives.** -/
inductive GivenBy (delimiter : String) : Option String → List Clause → List Record → Prop where
  /-- A missing or blank value gives nothing, whatever its parts are. -/
  | passed {value : Option String} (h : ¬ IsFilled value) : GivenBy delimiter value [] []
  /-- Any other value gives what accounts for its tokens. -/
  | text {value : String} {tokens : List (List Char)} {direction : Direction}
    {clauses : List Clause} {records : List Record} (h : IsFilled (some value))
    (htokens : Tokens delimiter.toList value.toList tokens direction)
    (haccounts : Accounts value direction tokens clauses records) :
    GivenBy delimiter (some value) clauses records

/-- **What values give**: what each of them gives, one after the other. -/
inductive GivenByAll (delimiter : String) :
    List (Option String) → List Clause → List Record → Prop where
  /-- No value is left. -/
  | done : GivenByAll delimiter [] [] []
  /-- The first value gives its own, and the others give theirs behind it. -/
  | value {value : Option String} {values : List (Option String)} {clauses others : List Clause}
    {records later : List Record} (h : GivenBy delimiter value clauses records)
    (hothers : GivenByAll delimiter values others later) :
    GivenByAll delimiter (value :: values) (clauses ++ others) (records ++ later)

section Values

variable {delimiter : String}

/-- **A value gives the clauses and the records that reading it gives.** -/
theorem givenBy_iff (hd : delimiter ≠ "") {value : Option String} {clauses : List Clause}
    {records : List Record} :
    GivenBy delimiter value clauses records
      ↔ clausesOf delimiter value = clauses ∧ recordsOf delimiter value = records := by
  have hchars := Text.toList_ne_nil hd
  -- a blank value has parts too, but no token of it would be valid, and its records are left out
  have hpassed : ∀ value, ¬ IsFilled value →
      clausesOf delimiter value = [] ∧ recordsOf delimiter value = [] := by
    intro value hvalue
    cases value with
    | none => exact ⟨rfl, rfl⟩
    | some value =>
      rw [isFilled_some_iff, Bool.not_eq_false] at hvalue
      rw [recordsOf, if_pos hvalue]
      exact ⟨clausesOfText_of_blank hchars hvalue, rfl⟩
  constructor
  · intro h
    cases h with
    | passed hvalue => exact hpassed value hvalue
    | @text value tokens direction _ _ hvalue htokens haccounts =>
      rw [isFilled_some_iff] at hvalue
      obtain ⟨hclauses, hrecords⟩ := accounts_iff.mp haccounts
      rw [clausesOf, clausesOfText, recordsOf, hvalue, (tokens_iff hchars).mp htokens]
      exact ⟨hclauses, hrecords⟩
  · rintro ⟨rfl, rfl⟩
    by_cases hvalue : IsFilled value
    · obtain ⟨text, rfl, _⟩ := id hvalue
      rw [clausesOf, clausesOfText, recordsOf, isFilled_some_iff.mp hvalue]
      exact .text hvalue ((tokens_iff hchars).mpr rfl) (accounts_iff.mpr ⟨rfl, rfl⟩)
    · rw [(hpassed value hvalue).1, (hpassed value hvalue).2]
      exact .passed hvalue

/-- **Values give the clauses and the records that reading them gives.** -/
theorem givenByAll_iff (hd : delimiter ≠ "") {values : List (Option String)}
    {clauses : List Clause} {records : List Record} :
    GivenByAll delimiter values clauses records
      ↔ values.flatMap (clausesOf delimiter) = clauses
        ∧ values.flatMap (recordsOf delimiter) = records := by
  constructor
  · intro h
    induction h with
    | done => exact ⟨rfl, rfl⟩
    | value hvalue _ ih =>
      obtain ⟨hclauses, hrecords⟩ := (givenBy_iff hd).mp hvalue
      rw [List.flatMap_cons, List.flatMap_cons, hclauses, hrecords, ih.1, ih.2]
      exact ⟨rfl, rfl⟩
  · rintro ⟨rfl, rfl⟩
    induction values with
    | nil => exact .done
    | cons value values ih =>
      rw [List.flatMap_cons, List.flatMap_cons]
      exact .value ((givenBy_iff hd).mpr ⟨rfl, rfl⟩) ih

/-- Values one after another are read one after another. -/
theorem read_append (hd : delimiter ≠ "") {first second : List (Option String)} {s t : Sorting}
    {records later : List Record}
    (hfirst : read (.text delimiter) (first.map Json.ofText?) = ⟨.ok s, records⟩)
    (hsecond : read (.text delimiter) (second.map Json.ofText?) = ⟨.ok t, later⟩) :
    read (.text delimiter) ((first ++ second).map Json.ofText?)
      = ⟨.ok (s ++ t), records ++ later⟩ := by
  -- sorts and records are both put together value by value
  rw [read_eq hd] at hfirst hsecond ⊢
  injection hfirst with hs hrecords
  injection hsecond with ht hlater
  rw [← Except.ok.inj hs, ← Except.ok.inj ht, ← hrecords, ← hlater, List.flatMap_append,
    sortingOf, List.flatMap_append]
  rfl

end Values

/-! ## §4. Values that cannot be cut -/

section Uncut

variable {delimiter : Delimiter} {values : List (Option String)}

/-- A value that is missing or blank is never cut. -/
theorem readValue_of_not_isFilled {value : Option String} (h : ¬ IsFilled value) :
    readValue delimiter (Json.ofText? value) = ⟨.ok [], []⟩ := by
  cases value with
  | none => rfl
  | some text =>
    rw [isFilled_some_iff, Bool.not_eq_false] at h
    show (if Text.isBlankText text.toList then pure [] else readText delimiter text) = _
    rw [if_pos h]
    rfl

/-- Any other value is cut, and reading it fails if that does. -/
theorem readValue_of_cut_error {e : SortError} (hcut : ∀ cs, delimiter.cut cs = .error e)
    {value : Option String} (h : IsFilled value) :
    readValue delimiter (Json.ofText? value) = ⟨.error e, []⟩ := by
  obtain ⟨text, rfl, _⟩ := id h
  show (if Text.isBlankText text.toList then pure [] else readText delimiter text) = _
  rw [isFilled_some_iff.mp h, if_neg (by decide), readText, hcut]
  rfl

theorem readClauses_of_not_isFilled (h : ∀ value ∈ values, ¬ IsFilled value) :
    readClauses delimiter (values.map Json.ofText?) = ⟨.ok [], []⟩ := by
  induction values with
  | nil => rfl
  | cons value values ih =>
    obtain ⟨hvalue, hvalues⟩ := List.forall_mem_cons.mp h
    rw [List.map_cons, readClauses, readValue_of_not_isFilled hvalue, ih hvalues]
    rfl

/-- **Values that are all missing or blank give nothing**, whatever the delimiter is. -/
theorem read_of_not_isFilled (h : ∀ value ∈ values, ¬ IsFilled value) :
    read delimiter (values.map Json.ofText?) = ⟨.ok .unsorted, []⟩ := by
  rw [read, readClauses_of_not_isFilled h]
  rfl

theorem readClauses_of_cut_error {e : SortError} (hcut : ∀ cs, delimiter.cut cs = .error e)
    (h : ∃ value ∈ values, IsFilled value) :
    readClauses delimiter (values.map Json.ofText?) = ⟨.error e, []⟩ := by
  induction values with
  | nil =>
    obtain ⟨value, hmem, _⟩ := h
    exact absurd hmem List.not_mem_nil
  | cons value values ih =>
    rw [List.map_cons, readClauses]
    by_cases hvalue : IsFilled value
    · rw [readValue_of_cut_error hcut hvalue, Traced.bind_error]
    · -- the first value gives nothing, so the one that fails is among the others
      have hothers := (List.exists_mem_cons_iff ..).mp h |>.resolve_left hvalue
      rw [readValue_of_not_isFilled hvalue, Traced.bind_ok, ih hothers]
      rfl

/-- **A delimiter that cuts nothing fails at the first other value**, before it writes a record. -/
theorem read_of_cut_error {e : SortError} (hcut : ∀ cs, delimiter.cut cs = .error e)
    (h : ∃ value ∈ values, IsFilled value) :
    read delimiter (values.map Json.ofText?) = ⟨.error e, []⟩ := by
  rw [read, readClauses_of_cut_error hcut h, Traced.bind_error]

end Uncut

/-! ## §5. Reading -/

/-- **Reading with a delimiter accounts for every token.** -/
structure AccountsForAll (delimiter : String) : Prop where
  /-- Reading never fails. -/
  reads : ∀ values : List (Option String), ∃ s records,
    read (.text delimiter) (values.map Json.ofText?) = ⟨.ok s, records⟩
  /-- What it gives is what the tokens of the values are accounted for by, and nothing else. -/
  gives : ∀ (values : List (Option String)) (s : Sorting) (records : List Record),
    read (.text delimiter) (values.map Json.ofText?) = ⟨.ok s, records⟩
      ↔ GivenByAll delimiter values s.clauses records
  /-- Values one after another give their sorts and their records one after another. -/
  append : ∀ {first second : List (Option String)} {s t : Sorting} {records later : List Record},
    read (.text delimiter) (first.map Json.ofText?) = ⟨.ok s, records⟩ →
    read (.text delimiter) (second.map Json.ofText?) = ⟨.ok t, later⟩ →
    read (.text delimiter) ((first ++ second).map Json.ofText?)
      = ⟨.ok (s ++ t), records ++ later⟩

/-- **Reading accounts for every token of all values**, with any delimiter that is not empty; with
the empty one it fails exactly when a value is neither missing nor blank. -/
theorem read_accounts :
    (∀ delimiter : String, delimiter ≠ "" → AccountsForAll delimiter)
      ∧ ∀ values : List (Option String),
        (∃ e, (read (.text "") (values.map Json.ofText?)).outcome = .error e)
          ↔ ∃ value ∈ values, IsFilled value := by
  refine ⟨?_, ?_⟩
  · intro delimiter hd
    constructor
    case reads => exact fun values => ⟨_, _, read_eq hd values⟩
    case gives =>
      intro values s records
      rw [read_eq hd, givenByAll_iff hd]
      constructor
      · intro h
        injection h with hs hrecords
        rw [← Except.ok.inj hs]
        exact ⟨rfl, hrecords⟩
      · rintro ⟨hclauses, hrecords⟩
        rw [sortingOf, hclauses, hrecords]
    case append => exact fun hfirst hsecond => read_append hd hfirst hsecond
  · intro values
    constructor
    · rintro ⟨e, he⟩
      -- with nothing to cut, the delimiter is never asked
      by_contra hnone
      rw [read_of_not_isFilled fun value hmem hvalue => hnone ⟨value, hmem, hvalue⟩] at he
      exact absurd he (by simp)
    · intro h
      have hcut : ∀ cs, (Delimiter.text "").cut cs = .error .emptyDelimiter := fun _ => rfl
      exact ⟨.emptyDelimiter, by rw [read_of_cut_error hcut h]⟩

/-- A delimiter that is itself blank: it makes empty tokens, and cuts no blank value. -/
theorem read_accounts_blank :
    " " ≠ ""
      ∧ GivenByAll " " [some " a  b desc", none, some "  "] [⟨"a", .desc⟩, ⟨"b", .desc⟩]
        [.droppedProperty "" " a  b desc", .droppedProperty "" " a  b desc"] :=
  ⟨by decide, ((read_accounts.1 " " (by decide)).gives _ ⟨_⟩ _).mp rfl⟩

end OrderBy.Expression
