/-
  OrderBy.Proofs.Outcome — when runs that can fail succeed, and how they fail.

  A run in steps gives a value only when each of its steps does, and fails with
  the error of the first one that fails.  The lemmas take such a run apart, so
  that later proofs look at its steps and not at the cases of `Except`.
-/
import Mathlib.Data.List.Forall2
import OrderBy.Traced

namespace OrderBy.Outcome

variable {ε δ α β : Type}

/-- Two steps succeed only when the first does, and the second does with what the first gave. -/
theorem of_bind_eq_ok {x : Except ε α} {f : α → Except ε β} {b : β} (h : (x >>= f) = .ok b) :
    ∃ a, x = .ok a ∧ f a = .ok b := by
  cases x with
  | error e => exact absurd h (by simp [bind, Except.bind])
  | ok a => exact ⟨a, rfl, h⟩

/-- They fail only when the first does, or the second does with what the first gave. -/
theorem of_bind_eq_error {x : Except ε α} {f : α → Except ε β} {e : ε}
    (h : (x >>= f) = .error e) : x = .error e ∨ ∃ a, x = .ok a ∧ f a = .error e := by
  cases x with
  | error found => exact .inl (congrArg Except.error (Except.error.inj h))
  | ok a => exact .inr ⟨a, rfl, h⟩

/-- A value put through a function was there before. -/
theorem of_map_eq_ok {x : Except ε α} {f : α → β} {b : β} (h : x.map f = .ok b) :
    ∃ a, x = .ok a ∧ f a = b := by
  cases x with
  | error e => exact absurd h (by simp [Except.map])
  | ok a => exact ⟨a, rfl, Except.ok.inj h⟩

theorem map_eq_error_iff {x : Except ε α} {f : α → β} {e : ε} :
    x.map f = .error e ↔ x = .error e := by
  cases x <;> simp [Except.map]

/-- Errors put in other words leave values as they are. -/
theorem of_mapError_eq_ok {x : Except ε α} {f : ε → δ} {a : α} (h : x.mapError f = .ok a) :
    x = .ok a := by
  cases x with
  | error e => exact absurd h (by simp [Except.mapError])
  | ok b => exact congrArg Except.ok (Except.ok.inj h)

/-- **A step taken for each entry of a list succeeds exactly when it does for each**, and gives their
values in order. -/
theorem mapM_eq_ok_iff {f : α → Except ε β} {entries : List α} {values : List β} :
    entries.mapM f = .ok values ↔ List.Forall₂ (fun a b => f a = .ok b) entries values := by
  constructor
  · intro h
    induction entries generalizing values with
    | nil =>
      rw [List.mapM_nil] at h
      rw [← Except.ok.inj h]
      exact .nil
    | cons entry entries ih =>
      rw [List.mapM_cons] at h
      obtain ⟨value, hvalue, h⟩ := of_bind_eq_ok h
      obtain ⟨others, hothers, h⟩ := of_bind_eq_ok h
      rw [← Except.ok.inj h]
      exact .cons hvalue (ih hothers)
  · intro h
    induction h with
    | nil => rfl
    | cons hvalue _ ih =>
      rw [List.mapM_cons, hvalue, ih]
      rfl

/-- **The first offence in a list**: the entries before it are accepted, and it is refused with the
error. -/
def FirstOffence (Accepted : α → Prop) (Refused : α → ε → Prop) (entries : List α) (e : ε) : Prop :=
  ∃ before offender after, entries = before ++ offender :: after
    ∧ (∀ entry ∈ before, Accepted entry) ∧ Refused offender e

/-- **A step taken for each entry of a list fails exactly with the error of the first entry that it
fails for.** -/
theorem mapM_eq_error_iff {f : α → Except ε β} {entries : List α} {e : ε} :
    entries.mapM f = .error e
      ↔ FirstOffence (fun entry => ∃ value, f entry = .ok value) (fun entry e => f entry = .error e)
          entries e := by
  constructor
  · intro h
    induction entries with
    | nil => exact absurd h (by simp [pure, Except.pure])
    | cons entry entries ih =>
      rw [List.mapM_cons] at h
      rcases of_bind_eq_error h with hentry | ⟨value, hvalue, h⟩
      · exact ⟨[], entry, entries, rfl, List.forall_mem_nil _, hentry⟩
      · -- so one of the others is the first that it fails for
        rcases of_bind_eq_error h with hothers | ⟨_, _, h⟩
        · obtain ⟨before, offender, after, hsplit, hbefore, hoffender⟩ := ih hothers
          refine ⟨entry :: before, offender, after, by rw [hsplit]; rfl, ?_, hoffender⟩
          exact List.forall_mem_cons.mpr ⟨⟨value, hvalue⟩, hbefore⟩
        · exact absurd h (by simp [pure, Except.pure])
  · rintro ⟨before, offender, after, rfl, hbefore, hoffender⟩
    induction before with
    | nil =>
      rw [List.nil_append, List.mapM_cons, hoffender]
      rfl
    | cons entry before ih =>
      obtain ⟨⟨value, hvalue⟩, hothers⟩ := List.forall_mem_cons.mp hbefore
      rw [List.cons_append, List.mapM_cons, hvalue, ih hothers]
      rfl

/-- Of two lists that are related entry by entry, each entry of the second has its own in the
first. -/
theorem exists_mem_of_forall₂ {R : α → β → Prop} {xs : List α} {ys : List β}
    (h : List.Forall₂ R xs ys) {y : β} (hy : y ∈ ys) : ∃ x ∈ xs, R x y := by
  induction h with
  | nil => exact absurd hy List.not_mem_nil
  | @cons x _ xs _ hxy _ ih =>
    rcases List.mem_cons.mp hy with rfl | hy
    · exact ⟨x, List.mem_cons_self, hxy⟩
    · obtain ⟨found, hfound, hr⟩ := ih hy
      exact ⟨found, List.mem_cons_of_mem x hfound, hr⟩

/-- Lists related entry by entry through a list in between are related entry by entry. -/
theorem forall₂_trans {γ : Type} {R : α → β → Prop} {S : β → γ → Prop} {T : α → γ → Prop}
    (hstep : ∀ a b c, R a b → S b c → T a c) {xs : List α} {ys : List β} {zs : List γ}
    (hxy : List.Forall₂ R xs ys) (hyz : List.Forall₂ S ys zs) : List.Forall₂ T xs zs := by
  induction hxy generalizing zs with
  | nil =>
    cases hyz
    exact .nil
  | @cons x y _ _ hr _ ih =>
    cases hyz with
    | @cons _ z _ _ hs hrest => exact .cons (hstep x y z hr hs) (ih hrest)

theorem exists_forall₂_iff {R : α → β → Prop} {xs : List α} :
    (∃ ys, List.Forall₂ R xs ys) ↔ ∀ x ∈ xs, ∃ y, R x y := by
  induction xs with
  | nil => exact ⟨fun _ => List.forall_mem_nil _, fun _ => ⟨[], .nil⟩⟩
  | cons x xs ih =>
    rw [List.forall_mem_cons, ← ih]
    constructor
    · rintro ⟨ys, h⟩
      cases h with
      | cons hx hxs => exact ⟨⟨_, hx⟩, _, hxs⟩
    · rintro ⟨⟨y, hx⟩, ys, hxs⟩
      exact ⟨y :: ys, .cons hx hxs⟩

/-- Each value given for the entries of a list is given for one of them. -/
theorem exists_mem_of_mapM_eq_ok {f : α → Except ε β} {entries : List α} {values : List β}
    (h : entries.mapM f = .ok values) {value : β} (hvalue : value ∈ values) :
    ∃ entry ∈ entries, f entry = .ok value :=
  exists_mem_of_forall₂ (mapM_eq_ok_iff.mp h) hvalue

/-- A step that gives a value for every entry of a list gives all of them. -/
theorem mapM_eq_ok {f : α → Except ε β} {g : α → β} {entries : List α}
    (h : ∀ entry ∈ entries, f entry = .ok (g entry)) : entries.mapM f = .ok (entries.map g) := by
  induction entries with
  | nil => rfl
  | cons entry entries ih =>
    rw [List.mapM_cons, h entry List.mem_cons_self,
      ih fun other hother => h other (List.mem_cons_of_mem entry hother)]
    rfl

/-- The outcome of two runs, one after the other, is made of the outcomes of both. -/
theorem outcome_bind (run : Traced ε α) (next : α → Traced ε β) :
    (run >>= next).outcome = (run.outcome >>= fun value => (next value).outcome) := by
  obtain ⟨outcome, records⟩ := run
  cases outcome <;> rfl

end OrderBy.Outcome
