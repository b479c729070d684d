/-
  OrderBy.Proofs.Settings.Store — the settings in force and their resolver agree.

  A store keeps settings and a resolver apart, and each of its operations takes
  care of both.  `Store.Coherent` is what they keep up together: a resolver is
  there only beside the settings it was built from.  It is what lets asking for
  the resolver be told by asking for the settings: where none are in force,
  there is no resolver either.

  Operations that only ask leave the settings and the resolver as they find
  them, once settings are in force, and add what was found out on the way
  (`Store.Extends`).

  Main results:
    * `get_cases` — what asking for the settings does;
    * `getResolver_of_get_ok`, `getResolver_of_get_error` — asking for the
      resolver, by what asking for the settings gives;
    * `projectPath_of_get_ok`, `logPath_of_get_ok` — asking for paths extends
      the store;
    * `getResolver_host` — with settings in force the host plays no part.
-/
import OrderBy.Proofs.Settings.Acceptance

namespace OrderBy.Settings

/-! ## §1. Objects -/

namespace Loaded

/-- **What makes loaded settings one object**: their number and what they hold.  The paths found
so far belong to the object, but do not tell it from others. -/
def identity (loaded : Loaded) : Nat × Settings := (loaded.serial, loaded.settings)

@[simp] theorem identity_projectPath (loaded : Loaded) (host : Host) :
    (loaded.projectPath host).2.identity = loaded.identity := by
  unfold projectPath
  split <;> rfl

@[simp] theorem identity_logPath (loaded : Loaded) (host : Host) :
    (loaded.logPath host).2.identity = loaded.identity := by
  unfold logPath
  split
  · rfl
  · split
    · exact identity_projectPath loaded host
    · rfl

end Loaded

namespace Store

/-! ## §2. What holds of a store -/

/-- **The settings in force and the resolver agree.** -/
structure Coherent (store : Store) : Prop where
  /-- The settings in force were accepted, and have a number that was given away. -/
  current : ∀ loaded, store.current = some loaded →
    loaded.settings.Accepted ∧ loaded.serial < store.next
  /-- A resolver is the one of the settings in force. -/
  resolver : ∀ built, store.resolver = some built →
    ∃ loaded, store.current = some loaded ∧ built.source = loaded.serial
      ∧ built.resolver = loaded.settings.resolver
  /-- The number of a resolver was given away, too. -/
  numbered : ∀ built, store.resolver = some built → built.serial < store.next

/-- **A store extends another one** when it has the same settings in force, and the resolver of the
other one if that has any. -/
structure Extends (store other : Store) : Prop where
  /-- The object in force is the same. -/
  current : other.current.map Loaded.identity = store.current.map Loaded.identity
  /-- A resolver that was built stays. -/
  resolver : ∀ built, store.resolver = some built → other.resolver = some built
  /-- Numbers are given away, not taken back. -/
  next : store.next ≤ other.next
  /-- What was coherent stays so. -/
  coherent : store.Coherent → other.Coherent

namespace Extends

variable {a b c : Store}

theorem refl (a : Store) : a.Extends a where
  current := rfl
  resolver := fun _ h => h
  next := Nat.le_refl a.next
  coherent := fun h => h

theorem trans (hab : a.Extends b) (hbc : b.Extends c) : a.Extends c where
  current := hbc.current.trans hab.current
  resolver := fun built h => hbc.resolver built (hab.resolver built h)
  next := Nat.le_trans hab.next hbc.next
  coherent := fun h => hbc.coherent (hab.coherent h)

/-- Settings in force stay the same object. -/
theorem current_eq_some (h : a.Extends b) {loaded : Loaded} (hloaded : a.current = some loaded) :
    ∃ kept, b.current = some kept ∧ kept.identity = loaded.identity := by
  have hcurrent := h.current
  rw [hloaded, Option.map_some, Option.map_eq_some_iff] at hcurrent
  exact hcurrent

end Extends

/-! ## §3. Loading and forgetting -/

section Loading

variable {host : Host} {store mid : Store} {loaded : Loaded} {e : LoadError} {settings : Settings}

/-- The store after a load: new settings in force, and no resolver. -/
def put (store : Store) (settings : Settings) : Store :=
  { current := some { serial := store.next, settings }, resolver := none, next := store.next + 1 }

theorem init_of_load_ok {envFile : Option String}
    (h : load host [] (some (envFileOr envFile)) = .ok settings) :
    store.init host envFile = (.ok { serial := store.next, settings }, store.put settings) := by
  unfold init
  rw [h]
  rfl

theorem init_of_load_error {envFile : Option String}
    (h : load host [] (some (envFileOr envFile)) = .error e) :
    store.init host envFile = (.error e, store) := by
  unfold init
  rw [h]

theorem get_of_current (h : store.current = some loaded) :
    store.get host = (.ok loaded, store) := by
  unfold get
  rw [h]

theorem get_of_none (h : store.current = none) : store.get host = store.init host none := by
  unfold get
  rw [h]

theorem coherent_empty : Coherent {} where
  current := fun _ h => absurd h (by simp)
  resolver := fun _ h => absurd h (by simp)
  numbered := fun _ h => absurd h (by simp)

theorem coherent_put (store : Store) (h : settings.Accepted) : (store.put settings).Coherent where
  current := by
    intro loaded hloaded
    rw [← Option.some.inj hloaded]
    exact ⟨h, Nat.lt_succ_self store.next⟩
  resolver := fun _ h => absurd h (by simp [put])
  numbered := fun _ h => absurd h (by simp [put])

theorem coherent_reset (store : Store) : store.reset.Coherent where
  current := fun _ h => absurd h (by simp [reset])
  resolver := fun _ h => absurd h (by simp [reset])
  numbered := fun _ h => absurd h (by simp [reset])

/-- Settings in force, with other paths found. -/
theorem extends_keep {found : Loaded} (h : store.current = some loaded)
    (hsame : found.identity = loaded.identity) : store.Extends (store.keep found) := by
  have hserial : found.serial = loaded.serial := congrArg Prod.fst hsame
  have hsettings : found.settings = loaded.settings := congrArg Prod.snd hsame
  constructor
  · show some found.identity = store.current.map Loaded.identity
    rw [h, hsame]
    rfl
  · exact fun _ h => h
  · exact Nat.le_refl store.next
  · -- coherence looks at the serial number and the settings, not at the paths found
    intro hcoherent
    constructor
    · intro kept hkept
      rw [← Option.some.inj hkept, hserial, hsettings]
      exact hcoherent.current loaded h
    · intro built hbuilt
      obtain ⟨other, hother, hsource, hresolver⟩ := hcoherent.resolver built hbuilt
      rw [h] at hother
      obtain rfl := Option.some.inj hother
      exact ⟨found, rfl, hserial ▸ hsource, hsettings ▸ hresolver⟩
    · exact hcoherent.numbered

/-! ## §4. Asking for settings -/

/-- **Asking for settings** gives those in force; where none are, it loads some or fails as the load
does. -/
theorem get_cases (store : Store) (host : Host) :
    (∃ loaded, store.current = some loaded ∧ store.get host = (.ok loaded, store))
      ∨ (∃ settings, load host [] (some defaultEnvFile) = .ok settings
          ∧ store.get host = (.ok { serial := store.next, settings }, store.put settings))
      ∨ ∃ e, store.current = none ∧ load host [] (some defaultEnvFile) = .error e
          ∧ store.get host = (.error e, store) := by
  cases hcurrent : store.current with
  | some loaded => exact .inl ⟨loaded, rfl, get_of_current hcurrent⟩
  | none =>
    rw [get_of_none hcurrent]
    cases hload : load host [] (some defaultEnvFile) with
    | ok settings => exact .inr (.inl ⟨settings, rfl, init_of_load_ok hload⟩)
    | error e => exact .inr (.inr ⟨e, rfl, rfl, init_of_load_error hload⟩)

/-- Asking for settings gives some, or fails and changes nothing. -/
theorem get_ok_or_error (store : Store) (host : Host) :
    (∃ loaded mid, store.get host = (.ok loaded, mid))
      ∨ ∃ e, store.get host = (.error e, store) := by
  obtain ⟨loaded, _, hget⟩ | ⟨settings, _, hget⟩ | ⟨e, _, _, hget⟩ := get_cases store host
  · exact .inl ⟨loaded, store, hget⟩
  · exact .inl ⟨_, _, hget⟩
  · exact .inr ⟨e, hget⟩

/-- Settings that were asked for were in force, or have just been loaded. -/
theorem of_get_ok (h : store.get host = (.ok loaded, mid)) :
    (store.current = some loaded ∧ mid = store)
      ∨ ∃ settings, settings.Accepted ∧ loaded = { serial := store.next, settings }
          ∧ mid = store.put settings := by
  obtain ⟨found, hfound, hget⟩ | ⟨settings, hload, hget⟩ | ⟨e, _, _, hget⟩ := get_cases store host
  · rw [hget, Prod.mk.injEq, Except.ok.injEq] at h
    exact .inl ⟨h.1 ▸ hfound, h.2.symm⟩
  · rw [hget, Prod.mk.injEq, Except.ok.injEq] at h
    exact .inr ⟨settings, ⟨host, [], _, hload⟩, h.1.symm, h.2.symm⟩
  · rw [hget, Prod.mk.injEq] at h
    exact absurd h.1 (by simp)

/-- Asking in vain changes nothing, and happens only where no settings are in force. -/
theorem of_get_error (h : store.get host = (.error e, mid)) :
    store.current = none ∧ load host [] (some defaultEnvFile) = .error e ∧ mid = store := by
  obtain ⟨found, _, hget⟩ | ⟨settings, _, hget⟩ | ⟨error, hcurrent, hload, hget⟩ :=
    get_cases store host
  · rw [hget, Prod.mk.injEq] at h
    exact absurd h.1 (by simp)
  · rw [hget, Prod.mk.injEq] at h
    exact absurd h.1 (by simp)
  · rw [hget, Prod.mk.injEq, Except.error.injEq] at h
    exact ⟨hcurrent, h.1 ▸ hload, h.2.symm⟩

/-- Settings that were asked for are in force. -/
theorem current_of_get_ok (h : store.get host = (.ok loaded, mid)) : mid.current = some loaded := by
  obtain ⟨hcurrent, rfl⟩ | ⟨settings, _, rfl, rfl⟩ := of_get_ok h
  · exact hcurrent
  · rfl

theorem coherent_of_get_ok (hcoherent : store.Coherent)
    (h : store.get host = (.ok loaded, mid)) : mid.Coherent := by
  obtain ⟨_, rfl⟩ | ⟨settings, haccepted, _, rfl⟩ := of_get_ok h
  · exact hcoherent
  · exact coherent_put store haccepted

/-- Settings that were asked for have a name and delimiters. -/
theorem filled_of_get_ok (hcoherent : store.Coherent)
    (h : store.get host = (.ok loaded, mid)) : loaded.settings.Filled :=
  filled_of_accepted
    ((coherent_of_get_ok hcoherent h).current loaded (current_of_get_ok h)).1

/-- Asking for settings takes no number back. -/
theorem next_le_of_get_ok (h : store.get host = (.ok loaded, mid)) : store.next ≤ mid.next := by
  obtain ⟨_, rfl⟩ | ⟨settings, _, _, rfl⟩ := of_get_ok h
  · exact Nat.le_refl mid.next
  · exact Nat.le_succ store.next

/-! ## §5. Asking for what settings give -/

/-- Asking for settings builds no resolver: a load leaves none. -/
theorem resolver_of_get_ok (hkept : store.resolver = none)
    (hget : store.get host = (.ok loaded, mid)) : mid.resolver = none := by
  obtain ⟨_, rfl⟩ | ⟨settings, _, _, rfl⟩ := of_get_ok hget
  · exact hkept
  · rfl

/-- A resolver that is built from the settings in force, where there is none. -/
theorem extends_build {built : BuiltResolver} (hkept : mid.resolver = none)
    (hcurrent : mid.current = some loaded) (hserial : built.serial = mid.next)
    (hsource : built.source = loaded.serial)
    (hbuilt : built.resolver = loaded.settings.resolver) :
    mid.Extends { mid with resolver := some built, next := mid.next + 1 } where
  current := rfl
  resolver := fun other h => absurd (hkept ▸ h) (by simp)
  next := Nat.le_succ mid.next
  coherent := by
    intro hcoherent
    constructor
    · intro found hfound
      exact ⟨(hcoherent.current found hfound).1,
        Nat.lt_succ_of_lt (hcoherent.current found hfound).2⟩
    · intro other hother
      rw [← Option.some.inj hother]
      exact ⟨loaded, hcurrent, hsource, hbuilt⟩
    · intro other hother
      rw [← Option.some.inj hother, hserial]
      exact Nat.lt_succ_self mid.next

/-- **Where settings can be had, so can their resolver**: the one kept if there is one, else one
with a new number, which is kept from then on. -/
theorem getResolver_of_get_ok (hcoherent : store.Coherent)
    (hget : store.get host = (.ok loaded, mid)) :
    ∃ built records after, store.getResolver host = (⟨.ok built, records⟩, after)
      ∧ mid.Extends after ∧ after.resolver = some built ∧ built.source = loaded.serial
      ∧ built.resolver = loaded.settings.resolver
      ∧ (store.resolver = some built ∨ mid.next ≤ built.serial) := by
  have hcurrent := current_of_get_ok hget
  cases hkept : store.resolver with
  | some built =>
    -- a resolver is kept only beside settings, so none were loaded
    obtain ⟨found, hfound, hsource, hresolver⟩ := hcoherent.resolver built hkept
    rw [get_of_current hfound, Prod.mk.injEq, Except.ok.injEq] at hget
    obtain ⟨rfl, rfl⟩ := hget
    refine ⟨built, [], store, ?_, Extends.refl store, hkept, hsource, hresolver, .inl rfl⟩
    unfold getResolver
    rw [hkept]
    rfl
  | none =>
    have hrun := Resolver.ofSettings_eq (filled_of_get_ok hcoherent hget)
    refine ⟨{ serial := mid.next, source := loaded.serial, resolver := loaded.settings.resolver },
      Expression.recordsOf loaded.settings.propertyDelimiter (some loaded.settings.sortFallback),
      { mid with resolver := some _, next := mid.next + 1 }, ?_,
      extends_build (resolver_of_get_ok hkept hget) hcurrent rfl rfl rfl, rfl, rfl, rfl,
      .inr (Nat.le_refl mid.next)⟩
    unfold getResolver
    rw [hkept, hget]
    simp only [hrun, Traced.mapError, Except.mapError]

/-- **Where settings cannot be had, neither can a resolver**, and nothing changes. -/
theorem getResolver_of_get_error (hcoherent : store.Coherent)
    (hget : store.get host = (.error e, mid)) :
    store.getResolver host = (Traced.fail (.settings e), store) := by
  have hcurrent := (of_get_error hget).1
  have hkept : store.resolver = none := by
    cases hresolver : store.resolver with
    | none => rfl
    | some built =>
      obtain ⟨found, hfound, _⟩ := hcoherent.resolver built hresolver
      exact absurd (hcurrent ▸ hfound) (by simp)
  unfold getResolver
  rw [hkept, hget, (of_get_error hget).2.2]

/-- **With settings in force the host plays no part.** -/
theorem getResolver_host (hcurrent : store.current = some loaded) (host other : Host) :
    store.getResolver host = store.getResolver other := by
  unfold getResolver
  rw [get_of_current hcurrent, get_of_current hcurrent]

theorem projectPath_of_get_ok (hget : store.get host = (.ok loaded, mid)) :
    ∃ path after, store.projectPath host = (.ok path, after) ∧ mid.Extends after := by
  refine ⟨(loaded.projectPath host).1, mid.keep (loaded.projectPath host).2, ?_, ?_⟩
  · unfold projectPath
    rw [hget]
  · exact extends_keep (current_of_get_ok hget) (Loaded.identity_projectPath loaded host)

theorem logPath_of_get_ok (hget : store.get host = (.ok loaded, mid)) :
    ∃ path after, store.logPath host = (.ok path, after) ∧ mid.Extends after := by
  refine ⟨(loaded.logPath host).1, mid.keep (loaded.logPath host).2, ?_, ?_⟩
  · unfold logPath
    rw [hget]
  · exact extends_keep (current_of_get_ok hget) (Loaded.identity_logPath loaded host)

theorem projectPath_of_get_error (hget : store.get host = (.error e, mid)) :
    store.projectPath host = (.error e, store) := by
  unfold projectPath
  rw [hget, (of_get_error hget).2.2]

end Loading

end Store

end OrderBy.Settings
