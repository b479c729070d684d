/-
  OrderBy.Proofs.Settings.Acceptance — what accepted settings have passed, and
  the resolver they describe.

  All fields are checked and all issues gathered, so settings are accepted only
  if every check of a field accepted what it was given.  What a source gave
  plays no part in what follows from that: the facts hold of settings from
  overrides, the environment, a file or defaults alike.

  A resolver takes its names and delimiters from settings as they are, and
  reads their fallback as a sort expression with their own delimiter.  Only an
  empty delimiter could make that fail, and accepted settings have none.

  Main results:
    * `passes_of_check` — each field of accepted settings is what its own check
      gave;
    * `filled_of_accepted` — the name of the parameter and the two delimiters of
      accepted settings are not empty;
    * `Resolver.ofSettings_eq` — building the resolver of filled settings does
      not fail, and gives `Settings.resolver`;
    * `Settings.wellFormed_fallback` — its fallback is well formed.
-/
import OrderBy.Proofs.Outcome
import OrderBy.Proofs.Resolver.Meaning
import OrderBy.Settings.Store

namespace OrderBy

/-! ## §1. Checks that gather issues -/

namespace Validated

variable {α β : Type}

/-- A checked function gives a value only when both it and its argument were accepted. -/
theorem of_apply_eq_ok {f : Validated (α → β)} {x : Validated α} {y : β}
    (h : apply f x = .ok y) : ∃ g a, f = .ok g ∧ x = .ok a ∧ g a = y := by
  unfold apply at h
  split at h
  next g a =>
    injection h with h
    exact ⟨g, a, rfl, rfl, h⟩
  next => exact absurd h (by simp)

/-- Seen from further out, a check accepts the same value. -/
theorem of_under_eq_ok {place : Place} {check : Validated α} {a : α}
    (h : check.under place = .ok a) : check = .ok a :=
  Outcome.of_mapError_eq_ok h

end Validated

namespace Settings

/-! ## §2. The checks of the fields -/

/-- **What accepted settings have passed**: each field is what its own check gave. -/
structure Passes (given : Field → Option Json) (s : Settings) : Prop where
  sortParameter : checkFilled .sortParameter "sort" (given .sortParameter) = .ok s.sortParameter
  propertyDelimiter :
    checkFilled .propertyDelimiter "," (given .propertyDelimiter) = .ok s.propertyDelimiter
  qualifierDelimiter :
    checkFilled .qualifierDelimiter "_" (given .qualifierDelimiter) = .ok s.qualifierDelimiter
  sortFallback : checkText "" (given .sortFallback) = .ok s.sortFallback
  logLevel : checkLevel (given .logLevel) = .ok s.logLevel
  logOutput : checkOutput (given .logOutput) = .ok s.logOutput
  logFormat : checkFormat (given .logFormat) = .ok s.logFormat
  logFile : checkText "" (given .logFile) = .ok s.logFile

/-- **Settings that are accepted have passed every check.** -/
theorem passes_of_check {given : Field → Option Json} {s : Settings} (h : check given = .ok s) :
    Passes given s := by
  simp only [check, checkField] at h
  -- one step for each field, the last one first
  obtain ⟨f₈, logFile, h₈, hlogFile, rfl⟩ := Validated.of_apply_eq_ok h
  obtain ⟨f₇, logFormat, h₇, hlogFormat, rfl⟩ := Validated.of_apply_eq_ok h₈
  obtain ⟨f₆, logOutput, h₆, hlogOutput, rfl⟩ := Validated.of_apply_eq_ok h₇
  obtain ⟨f₅, logLevel, h₅, hlogLevel, rfl⟩ := Validated.of_apply_eq_ok h₆
  obtain ⟨f₄, sortFallback, h₄, hsortFallback, rfl⟩ := Validated.of_apply_eq_ok h₅
  obtain ⟨f₃, qualifierDelimiter, h₃, hqualifier, rfl⟩ := Validated.of_apply_eq_ok h₄
  obtain ⟨f₂, propertyDelimiter, h₂, hproperty, rfl⟩ := Validated.of_apply_eq_ok h₃
  obtain ⟨sortParameter, hparameter, rfl⟩ := Outcome.of_map_eq_ok h₂
  exact {
    sortParameter := Validated.of_under_eq_ok hparameter
    propertyDelimiter := Validated.of_under_eq_ok hproperty
    qualifierDelimiter := Validated.of_under_eq_ok hqualifier
    sortFallback := Validated.of_under_eq_ok hsortFallback
    logLevel := Validated.of_under_eq_ok hlogLevel
    logOutput := Validated.of_under_eq_ok hlogOutput
    logFormat := Validated.of_under_eq_ok hlogFormat
    logFile := Validated.of_under_eq_ok hlogFile }

/-- A check for a text that must not be empty accepts no empty one. -/
theorem ne_empty_of_checkFilled {field : Field} {fallback : String} {given : Option Json}
    {text : String} (h : checkFilled field fallback given = .ok text) : text ≠ "" := by
  unfold checkFilled at h
  split at h
  next found _ =>
    split at h
    next => exact absurd h (by simp [Validated.refuse])
    next hfilled =>
      injection h with h
      rw [← h]
      intro hempty
      exact hfilled (String.isEmpty_iff.mpr hempty)
  next => exact absurd h (by simp)

/-! ## §3. Accepted settings -/

/-- Loaded settings are given values that passed the checks. -/
theorem check_of_load {host : Host} {overrides : List (String × Json)} {envFile : Option String}
    {s : Settings} (h : load host overrides envFile = .ok s) : ∃ given, check given = .ok s := by
  obtain ⟨bindings, _, h⟩ := Outcome.of_bind_eq_ok h
  obtain ⟨secret?, _, h⟩ := Outcome.of_bind_eq_ok h
  exact ⟨given overrides host.environment bindings secret?, Outcome.of_mapError_eq_ok h⟩

/-- **Settings whose name and delimiters are not empty.** -/
structure Filled (s : Settings) : Prop where
  sortParameter : s.sortParameter ≠ ""
  propertyDelimiter : s.propertyDelimiter ≠ ""
  qualifierDelimiter : s.qualifierDelimiter ≠ ""

/-- **Accepted settings have a name and delimiters**, whatever sources they come from. -/
theorem filled_of_accepted {s : Settings} (h : s.Accepted) : s.Filled := by
  obtain ⟨host, overrides, envFile, hload⟩ := h
  obtain ⟨given, hcheck⟩ := check_of_load hload
  have hpasses := passes_of_check hcheck
  exact {
    sortParameter := ne_empty_of_checkFilled hpasses.sortParameter
    propertyDelimiter := ne_empty_of_checkFilled hpasses.propertyDelimiter
    qualifierDelimiter := ne_empty_of_checkFilled hpasses.qualifierDelimiter }

end Settings

/-! ## §4. The resolver of settings -/

/-- **The resolver of settings**, said without running the reader of their fallback. -/
def Settings.resolver (s : Settings) : Resolver where
  parameter := s.sortParameter
  propertyDelimiter := .text s.propertyDelimiter
  qualifierDelimiter := s.qualifierDelimiter
  fallback := Expression.sortingOf s.propertyDelimiter [some s.sortFallback]

/-- **Filled settings have a resolver**; the records are those of reading their fallback. -/
theorem Resolver.ofSettings_eq {s : Settings} (h : s.Filled) :
    Resolver.ofSettings s
      = ⟨.ok s.resolver, Expression.recordsOf s.propertyDelimiter (some s.sortFallback)⟩ := by
  have hread : Expression.readTexts (.text s.propertyDelimiter) [s.sortFallback]
      = ⟨.ok (Expression.sortingOf s.propertyDelimiter [some s.sortFallback]),
          [some s.sortFallback].flatMap (Expression.recordsOf s.propertyDelimiter)⟩ :=
    Expression.read_eq h.propertyDelimiter [some s.sortFallback]
  unfold Resolver.ofSettings
  simp only [hread, Traced.bind_ok, Traced.pure_eq, List.append_nil, List.flatMap_cons,
    List.flatMap_nil]
  rfl

/-- The fallback of filled settings is well formed. -/
theorem Settings.wellFormed_fallback {s : Settings} (h : s.Filled) :
    s.resolver.fallback.WellFormed := by
  intro c hc
  exact (Expression.of_mem_sortingOf h.propertyDelimiter hc).1

end OrderBy
