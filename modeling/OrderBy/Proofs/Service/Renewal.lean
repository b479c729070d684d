/-
  OrderBy.Proofs.Service.Renewal — what actions leave of the settings in force.

  Paths are found only where they are read, so an action that reads none leaves
  the settings in force exactly as they are, paths included, unless it forgets
  them or loads others.  Others have a number of their own, and no paths yet.
  That is a relation of the store before to the one after (`Store.Renews`), kept
  up by one operation after another.

  Main results:
    * `Store.renews_getResolver` — asking for the resolver renews the store;
    * `renews_after` — so does every action that reads no path.
-/
import OrderBy.Proofs.Service.Loading

namespace OrderBy

open Settings (Loaded Store)

/-! ## §1. Stores -/

namespace Settings.Store

variable {a b c : Store}

/-- **A store renews another one** when it has the settings of the other in force, with the paths
found so far, or none, or new ones that no path was read of. -/
inductive Renews (store other : Store) : Prop where
  /-- The settings are the same. -/
  | same : other.current = store.current → store.next ≤ other.next → Renews store other
  /-- There are none. -/
  | forgotten : other.current = none → store.next ≤ other.next → Renews store other
  /-- They are new. -/
  | loaded {serial : Nat} {settings : Settings} : other.current = some { serial, settings } →
      store.next ≤ serial → serial < other.next → Renews store other

namespace Renews

theorem refl (store : Store) : store.Renews store := .same rfl (Nat.le_refl store.next)

theorem next_le (h : a.Renews b) : a.next ≤ b.next := by
  cases h with
  | same _ hle => exact hle
  | forgotten _ hle => exact hle
  | loaded _ hserial hnext => omega

theorem trans (hab : a.Renews b) (hbc : b.Renews c) : a.Renews c := by
  have hle := hab.next_le
  cases hbc with
  | forgotten hnone hnext => exact .forgotten hnone (by omega)
  | loaded hnew hserial hnext => exact .loaded hnew (by omega) hnext
  | same hsame hnext =>
    -- what the first step left is still there
    cases hab with
    | same hcurrent _ => exact .same (hsame.trans hcurrent) (by omega)
    | forgotten hnone _ => exact .forgotten (hsame.trans hnone) (by omega)
    | loaded hnew hserial hlt => exact .loaded (hsame.trans hnew) hserial (by omega)

end Renews

theorem renews_put (store : Store) (settings : Settings) : store.Renews (store.put settings) :=
  .loaded rfl (Nat.le_refl store.next) (Nat.lt_succ_self store.next)

theorem renews_init (store : Store) (host : Host) (envFile : Option String) :
    store.Renews (store.init host envFile).2 := by
  cases hload : load host [] (some (envFileOr envFile)) with
  | ok settings =>
    rw [init_of_load_ok hload]
    exact renews_put store settings
  | error e =>
    rw [init_of_load_error hload]
    exact Renews.refl store

theorem renews_get (store : Store) (host : Host) : store.Renews (store.get host).2 := by
  cases hcurrent : store.current with
  | some loaded =>
    rw [get_of_current hcurrent]
    exact Renews.refl store
  | none =>
    rw [get_of_none hcurrent]
    exact renews_init store host none

theorem renews_getResolver (store : Store) (host : Host) :
    store.Renews (store.getResolver host).2 := by
  have hget := renews_get store host
  unfold getResolver
  split
  · exact Renews.refl store
  · split
    next h =>
      rw [h] at hget
      exact hget
    next h =>
      rw [h] at hget
      dsimp only
      split
      · exact hget
      · exact hget.trans (.same rfl (Nat.le_succ _))

end Settings.Store

/-! ## §2. Actions -/

namespace Service

variable {service : Service} {action : Action}

theorem renews_declareOne (service : Service) (d : Declaration) :
    service.store.Renews (service.declareOne d).2.store := by
  unfold declareOne
  split
  · exact Store.Renews.refl service.store
  · exact Store.renews_getResolver service.store service.host

theorem renews_declareFrom (declarations : List Declaration) (service : Service)
    (position : Nat) :
    service.store.Renews (service.declareFrom position declarations).2.store := by
  induction declarations generalizing service position with
  | nil => exact Store.Renews.refl service.store
  | cons d declarations ih =>
    have hone := renews_declareOne service d
    unfold declareFrom
    dsimp only
    -- the store is that of the first declaration, unless the others are made as well
    split
    next h =>
      rw [h] at hone
      exact hone
    next h _ =>
      rw [h] at hone
      exact hone
    next declared next h _ =>
      rw [h] at hone
      have hothers := hone.trans (ih next (position + 1))
      split
      next hrest =>
        rw [hrest] at hothers
        exact hothers
      next hrest =>
        rw [hrest] at hothers
        exact hothers

theorem renews_requestResolver (service : Service) :
    service.store.Renews service.requestResolver.2.store := by
  unfold requestResolver
  split
  · exact Store.Renews.refl service.store
  · exact Store.renews_getResolver service.store service.host

theorem renews_request (service : Service) (path query : String) :
    service.store.Renews (service.request path query).2.store := by
  unfold request requestRoute
  split
  · exact Store.Renews.refl service.store
  · split
    · exact Store.Renews.refl service.store
    · exact Store.Renews.refl service.store
    · split
      · exact Store.Renews.refl service.store
      · exact renews_requestResolver service

/-- **An action that reads no path renews the store.** -/
theorem renews_after (service : Service) (h : action ≠ .paths) :
    service.store.Renews (service.after action).store := by
  cases action with
  | paths => exact absurd rfl h
  | change _ | override _ | document => exact Store.Renews.refl service.store
  | init envFile => exact Store.renews_init service.store service.host envFile
  | get => exact Store.renews_get service.store service.host
  | reset => exact .forgotten rfl (Nat.le_refl service.store.next)
  | resolver => exact Store.renews_getResolver service.store service.host
  | declare path declarations =>
    have hfrom := renews_declareFrom declarations service 0
    rw [after, perform_declare]
    unfold declare
    split
    next hdeclared =>
      rw [hdeclared] at hfrom
      exact hfrom
    next hdeclared =>
      rw [hdeclared] at hfrom
      split
      · exact hfrom
      · exact hfrom
  | request path query =>
    rw [after, perform_request]
    exact renews_request service path query

end Service

end OrderBy
