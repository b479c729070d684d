/-
  OrderBy.Log.Session — logging over time.

  A session is the loggers together with the host whose files they write to.
  Setups are not alone on it: anyone may add handlers of their own, take them
  away again, and write records.  Handlers that no setup installed are foreign.

  `Session.perform` does one thing at a time; a setup that fails leaves the
  session as far as it came.
-/
import OrderBy.Log.Setup

namespace OrderBy.Log

/-! ## §1. Foreign handlers -/

/-- Was a handler installed by no setup? -/
def Handler.isForeign (handler : Handler) : Bool := !handler.isOwn

/-- **Take away one foreign handler**, by its position among the foreign ones. -/
def withoutForeign : (position : Nat) → List Handler → List Handler
  | _, [] => []
  | position, handler :: rest =>
    if handler.isOwn then handler :: withoutForeign position rest
    else
      match position with
      | 0 => rest
      | position + 1 => handler :: withoutForeign position rest

/-- The other foreign handlers stay, in their order. -/
theorem filter_isForeign_withoutForeign (position : Nat) (handlers : List Handler) :
    (withoutForeign position handlers).filter Handler.isForeign
      = (handlers.filter Handler.isForeign).eraseIdx position := by
  induction handlers generalizing position with
  | nil => simp [withoutForeign]
  | cons handler rest ih =>
    cases own : handler.isOwn with
    | true => simp [withoutForeign, own, Handler.isForeign, ← ih]
    | false => cases position <;> simp [withoutForeign, own, Handler.isForeign, ← ih]

/-! ## §2. Sessions -/

/-- **The loggers, and the host they write to.** -/
structure Session where
  /-- The loggers. -/
  tree : Tree := .fresh
  /-- The host. -/
  host : Host := {}

/-- **What can be done in a session.** -/
inductive Session.Action where
  /-- Run a setup. -/
  | setup (setup : Setup)
  /-- Add a handler to a logger. -/
  | attach (logger : Option String) (handler : Handler)
  /-- Take away the foreign handler of a logger that has a position among them. -/
  | detach (logger : Option String) (position : Nat)
  /-- Write a record. -/
  | write (logger : Option String) (level : Level) (message : String)
  /-- Ask for a logger. -/
  | ask (logger : Option String)
  deriving Repr

namespace Session

/-- The session after a logger was asked for. -/
def asking (session : Session) (logger : Option String) : Session :=
  { session with tree := session.tree.enter (Tree.canonical logger) }

/-- **Do one thing**: nothing, or why it failed, and the session after it.  Whatever is done to a
logger, it is asked for first. -/
def perform (session : Session) : Action → Except SetupError Unit × Session
  | .setup setup =>
    let result := setup.run session.host session.tree
    (result.outcome, { tree := result.tree, host := result.host })
  | .attach logger handler =>
    let session := session.asking logger
    (.ok (), { session with tree := session.tree.addHandler (Tree.canonical logger) handler })
  | .detach logger position =>
    let session := session.asking logger
    let tree := session.tree.update (Tree.canonical logger) fun logger =>
      { logger with handlers := withoutForeign position logger.handlers }
    (.ok (), { session with tree })
  | .write logger level message =>
    let session := session.asking logger
    let host := session.tree.write session.host (Tree.canonical logger) level message
    (.ok (), { session with host })
  | .ask logger => (.ok (), session.asking logger)

/-- The session after an action. -/
def after (session : Session) (action : Action) : Session :=
  (session.perform action).2

/-- **The session after a run** of actions. -/
def run (session : Session) (actions : List Action) : Session :=
  actions.foldl after session

end Session

end OrderBy.Log
