/-
  OrderBy.Proofs.Command.Resolving — the command line answers as a request does.

  The command does not look a parameter up.  It is handed the values, reads its
  default from expressions, and chooses what to fall back on by itself.  A
  resolver of the same settings, asked for a parameter with that default in a
  request that holds the values, goes through the same three sorts in the same
  order, so both have one answer and write the same records about it.

  Every query can be asked for (`read_arguments`): options first, and behind two
  dashes the values, whatever they look like.

  Main results:
    * `Query.run_eq` — running a query, by what a resolver says to its values;
    * `answeredAsRequest_of_accepted` — with accepted settings every query is
      answered the way a request would be, and nothing fails on the way.
-/
import OrderBy.Command.Run
import OrderBy.Proofs.Settings.Acceptance

namespace OrderBy.Command

/-! ## §1. Queries as arguments -/

namespace Arguments

variable {specs : List OptionSpec} {interspersed : Bool}

/-- An option that takes a value has the next argument for it, whatever that looks like. -/
theorem read_cons_value {name : String} (hdashes : name ≠ "--") (hoption : isOption name = true)
    (hcut : cutValue name = (name, none))
    (hknown : specs.find? (·.name == name) = some ⟨name, true⟩) (value : String)
    (rest : List String) :
    read specs interspersed (name :: value :: rest)
      = (read specs interspersed rest).map (withOption name value) := by
  rw [read]
  simp only [if_neg hdashes, hoption, if_true, hcut, hknown]

/-- An option that takes no value stands alone. -/
theorem read_cons_flag {name : String} (hdashes : name ≠ "--") (hoption : isOption name = true)
    (hcut : cutValue name = (name, none))
    (hknown : specs.find? (·.name == name) = some ⟨name, false⟩) (rest : List String) :
    read specs interspersed (name :: rest)
      = (read specs interspersed rest).map (withOption name "") := by
  rw [read]
  simp only [if_neg hdashes, hoption, if_true, hcut, hknown, Bool.false_eq_true, if_false]

/-- Behind two dashes there are nothing but operands. -/
theorem read_dashes (operands : List String) :
    read specs interspersed ("--" :: operands) = some { operands } := by
  rw [read]
  exact if_pos rfl

end Arguments

namespace Query

/-- The options that ask for a query. -/
def options (query : Query) : List (String × String) :=
  query.qualifier.toList.map (("--qualifier", ·)) ++ query.defaults.map (("--default", ·))
    ++ if query.asJson then [("--json", "")] else []

/-- **The arguments that ask for a query**: its options, and its values behind two dashes. -/
def arguments (query : Query) : List String :=
  query.qualifier.toList.flatMap (["--qualifier", ·])
    ++ query.defaults.flatMap (["--default", ·])
    ++ (if query.asJson then ["--json"] else []) ++ "--" :: query.values

variable {query : Query}

/-- Repeated options with values are read in order, in front of what follows. -/
theorem read_flatMap_value (name : String) (hdashes : name ≠ "--")
    (hoption : Arguments.isOption name = true) (hcut : Arguments.cutValue name = (name, none))
    (hknown : innerOptions.find? (·.name == name) = some ⟨name, true⟩) (values : List String)
    {rest : List String} {given : Arguments}
    (h : Arguments.read innerOptions true rest = some given) :
    Arguments.read innerOptions true (values.flatMap ([name, ·]) ++ rest)
      = some { given with options := values.map ((name, ·)) ++ given.options } := by
  induction values with
  | nil => exact h
  | cons value values ih =>
    show Arguments.read innerOptions true
        (name :: value :: (values.flatMap ([name, ·]) ++ rest)) = _
    rw [Arguments.read_cons_value hdashes hoption hcut hknown, ih]
    rfl

/-- **Every query can be asked for**: its arguments give its options and its values. -/
theorem read_arguments (query : Query) :
    Arguments.read innerOptions true query.arguments
      = some { options := query.options, operands := query.values } := by
  -- read from the back: the values behind the dashes, then one option after the other
  have hvalues : Arguments.read innerOptions true ("--" :: query.values)
      = some { operands := query.values } := Arguments.read_dashes query.values
  have hjson : Arguments.read innerOptions true
        ((if query.asJson then ["--json"] else []) ++ "--" :: query.values)
      = some { options := if query.asJson then [("--json", "")] else [],
               operands := query.values } := by
    cases query.asJson with
    | false => exact hvalues
    | true =>
      show Arguments.read innerOptions true ("--json" :: "--" :: query.values) = _
      rw [Arguments.read_cons_flag (by decide) (by decide) (by decide) (by decide), hvalues]
      rfl
  have hdefaults := read_flatMap_value "--default" (by decide) (by decide) (by decide) (by decide)
    query.defaults hjson
  have hqualifier := read_flatMap_value "--qualifier" (by decide) (by decide) (by decide)
    (by decide) query.qualifier.toList hdefaults
  unfold arguments options
  rw [List.append_assoc, List.append_assoc, hqualifier, List.append_assoc]

/-- The values of one option among several of one name are all of them or none. -/
theorem values_of_named (name other : String) (values : List String) :
    ((values.map ((other, ·))).filter (·.1 == name)).map Prod.snd
      = if other = name then values else [] := by
  by_cases h : other = name
  · rw [if_pos h, List.filter_eq_self.mpr (by simp [h]), List.map_map]
    exact List.map_id values
  · rw [if_neg h, List.filter_eq_nil_iff.mpr (by simp [h])]
    rfl

/-- The values that the options of a query give to an option. -/
theorem values_options (query : Query) (operands : List String) (name : String) :
    Arguments.values { options := query.options, operands } name
      = (if "--qualifier" = name then query.qualifier.toList else [])
        ++ (if "--default" = name then query.defaults else [])
        ++ (if "--json" = name then (if query.asJson then [""] else []) else []) := by
  have hjson : (if query.asJson then [("--json", "")] else [])
      = (if query.asJson then [""] else []).map (("--json", ·)) := by
    cases query.asJson <;> rfl
  show (query.options.filter (·.1 == name)).map Prod.snd = _
  unfold options
  rw [hjson, List.filter_append, List.filter_append, List.map_append, List.map_append,
    values_of_named, values_of_named, values_of_named]

/-- **The options of a query ask for that query**, and for no help. -/
theorem queryOf_options (query : Query) :
    queryOf { options := query.options, operands := query.values } = query
      ∧ Arguments.has { options := query.options, operands := query.values } "--help" = false := by
  unfold queryOf Arguments.has Arguments.last?
  simp only [values_options]
  obtain ⟨values, qualifier, defaults, asJson⟩ := query
  cases qualifier <;> cases asJson <;> simp

/-! ## §2. Resolving a query -/

/-- **Running a query** with filled settings: it is resolved by what their resolver says to its
values, falling back on the sort of its defaults if that has a clause. -/
theorem run_eq {s : Settings} (h : s.Filled) (query : Query) {default sorting : Sorting}
    {reading records : List Record}
    (hdefault : Expression.readTexts (.text s.propertyDelimiter) query.defaults
      = ⟨.ok default, reading⟩)
    (hsorting : s.resolver.resolve ((query.values.map some).map Json.ofText?) query.qualifier
        (if default.isSorted then some default else none) = ⟨.ok sorting, records⟩) :
    query.run s
      = ⟨.ok ⟨s.resolver.parameterName query.qualifier, sorting⟩,
          (Resolver.ofSettings s).records ++ reading ++ records
            ++ [.resolved sorting.size query.values.length]⟩ := by
  have hvalues : query.values.map Json.text = (query.values.map some).map Json.ofText? := by
    rw [List.map_map]
    rfl
  have hdelimiter : s.resolver.propertyDelimiter = .text s.propertyDelimiter := rfl
  unfold run resolve
  rw [Resolver.ofSettings_eq h, hvalues]
  simp only [Traced.bind_ok, hdelimiter, hdefault, hsorting, Traced.pure_eq, Traced.note,
    List.append_nil, List.append_assoc]

end Query

/-! ## §3. Answers -/

/-- **A query is answered the way a request would be**: by the resolver of the settings, asked for
a parameter of the query's qualifier with the sort of its defaults. -/
structure AnsweredAsRequest (s : Settings) (query : Query) (r : Resolver)
    (default sorting : Sorting) : Prop where
  /-- The settings have the resolver. -/
  resolver : (Resolver.ofSettings s).outcome = .ok r
  /-- The defaults of the query are read as expressions. -/
  defaults : (Expression.readTexts (.text s.propertyDelimiter) query.defaults).outcome = .ok default
  /-- The query has the sort, and so has the parameter in every request that holds the values of
  the query under its name; once the resolver and the default are there, both write the same
  records. -/
  resolved : ∃ records,
    query.run s = ⟨.ok ⟨r.parameterName query.qualifier, sorting⟩,
        (Resolver.ofSettings s).records
          ++ (Expression.readTexts (.text s.propertyDelimiter) query.defaults).records
          ++ records ++ [.resolved sorting.size query.values.length]⟩
      ∧ ∀ request : RequestParameters,
          request.HoldsTexts (r.parameterName query.qualifier) (query.values.map some) →
          r.resolveParameter request ⟨query.qualifier, .sorting default⟩ = ⟨.ok sorting, records⟩
  /-- Asked for on the command line, the query does not fail while it is resolved, and its sort is
  what is printed as JSON. -/
  command : ∀ tree host arguments given,
    Arguments.read innerOptions true arguments = some given → queryOf given = query →
    given.has "--help" = false →
    (∀ e, (runCommand s tree host arguments).1 ≠ .failed (.sort e))
      ∧ (query.asJson = true →
          (runCommand s tree host arguments).1
            = .printed ((SortingSchema.ofSorting sorting).render ++ "\n"))

/-- On the command line a query is run, and its answer printed. -/
theorem runCommand_of_run {s : Settings} {query : Query} {resolved : Resolved}
    {records : List Record} (hrun : query.run s = ⟨.ok resolved, records⟩) (tree : Log.Tree)
    (host : Host) {arguments : List String} {given : Arguments}
    (hread : Arguments.read innerOptions true arguments = some given)
    (hquery : queryOf given = query) (hhelp : given.has "--help" = false) :
    ∃ terminal, (runCommand s tree host arguments).1
      = match printed terminal query.asJson resolved with
        | .error e => .failed (.print e)
        | .ok text => .printed text := by
  refine ⟨terminalWidth (writeRecords tree host records), ?_⟩
  unfold runCommand
  simp only [hread, hhelp, hquery, hrun, Bool.false_eq_true, if_false]
  cases printed (terminalWidth (writeRecords tree host records)) query.asJson resolved <;> rfl

/-- **With accepted settings every query is answered the way a request would be**, and there are
arguments that ask for it. -/
theorem answeredAsRequest_of_accepted {s : Settings} (hs : s.Accepted) (query : Query) :
    (∃ r default sorting, AnsweredAsRequest s query r default sorting)
      ∧ ∃ given, Arguments.read innerOptions true query.arguments = some given
          ∧ queryOf given = query ∧ given.has "--help" = false := by
  refine ⟨?_, _, query.read_arguments, query.queryOf_options⟩
  have hfilled := Settings.filled_of_accepted hs
  have hd := hfilled.propertyDelimiter
  -- the defaults and the values are read with the same delimiter, and neither reading fails
  obtain ⟨default, reading, hdefault⟩ : ∃ default reading,
      Expression.readTexts (.text s.propertyDelimiter) query.defaults
        = ⟨.ok default, reading⟩ := by
    have hread := Expression.read_eq hd (query.defaults.map some)
    rw [List.map_map] at hread
    exact ⟨_, _, hread⟩
  obtain ⟨sorting, records, hsorting⟩ : ∃ sorting records,
      s.resolver.resolve ((query.values.map some).map Json.ofText?) query.qualifier
        (if default.isSorted then some default else none) = ⟨.ok sorting, records⟩ :=
    ⟨_, _, Resolver.resolve_eq rfl hd _ _ _⟩
  have hrun := query.run_eq hfilled hdefault hsorting
  refine ⟨s.resolver, default, sorting, ?_, ?_, ⟨records, ?_, ?_⟩, ?_⟩
  · rw [Resolver.ofSettings_eq hfilled]
  · rw [hdefault]
  · rw [hrun, hdefault]
  · intro request hholds
    exact (Resolver.resolveParameter_of_holdsTexts hholds rfl).trans hsorting
  · intro tree host arguments given hread hquery hhelp
    obtain ⟨terminal, hcommand⟩ := runCommand_of_run hrun tree host hread hquery hhelp
    rw [hcommand]
    constructor
    · intro e
      split <;> simp
    · intro hjson
      rw [hjson]
      rfl

/-- Values with no clause and an empty qualifier: what is printed is the sort of the second
default, which a request for the same values falls back on. -/
theorem answeredAsRequest_of_accepted_blank :
    let host : Host :=
      { environment := [("SORT_PROPERTY_DELIMITER", ";"), ("SORT_FALLBACK", "name")] }
    let s : Settings := { propertyDelimiter := ";", sortFallback := "name" }
    let query : Query :=
      { values := ["", " ;. ; desc"], qualifier := some "", defaults := [" ", "id;DESC"] }
    let fallback : Sorting := ⟨[⟨"id", .desc⟩]⟩
    Settings.load host [] none = .ok s
      ∧ ∃ r, AnsweredAsRequest s query r fallback fallback := by
  intro host s query fallback
  have hload : Settings.load host [] none = .ok s := rfl
  obtain ⟨⟨r, default, sorting, hanswered⟩, _⟩ :=
    answeredAsRequest_of_accepted ⟨host, [], none, hload⟩ query
  have hdefault : Expression.sortingOf s.propertyDelimiter (query.defaults.map some) = fallback := by
    decide +kernel
  have hread := hanswered.defaults
  rw [Expression.outcome_readTexts (by decide), hdefault] at hread
  obtain rfl : fallback = default := Except.ok.inj hread
  have hresolver := hanswered.resolver
  rw [Resolver.ofSettings_eq (Settings.filled_of_accepted ⟨host, [], none, hload⟩)] at hresolver
  obtain rfl : s.resolver = r := Except.ok.inj hresolver
  -- the sort is the one that the same values have as a list under the name
  obtain ⟨_, _, hrequest⟩ := hanswered.resolved
  have hholds : RequestParameters.HoldsTexts (s.resolver.parameterName query.qualifier)
      (.mapping [("sort", .list [.text "", .text " ;. ; desc"])]) (query.values.map some) :=
    .list rfl
  have hlook : s.resolver.resolveParameter _ ⟨query.qualifier, .sorting fallback⟩
      = s.resolver.resolve ((query.values.map some).map Json.ofText?) query.qualifier
          (if fallback.isSorted then some fallback else none) :=
    Resolver.resolveParameter_of_holdsTexts hholds rfl
  have hnone : (Expression.sortingOf s.propertyDelimiter (query.values.map some)).isSorted
      = false := by
    decide +kernel
  rw [Resolver.resolve_eq (r := s.resolver) rfl (by decide), hnone] at hlook
  have hsorting := hlook.symm.trans (hrequest _ hholds)
  obtain rfl : fallback = sorting := Except.ok.inj (congrArg Traced.outcome hsorting)
  exact ⟨hload, s.resolver, hanswered⟩

end OrderBy.Command
