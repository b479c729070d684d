/-
  OrderBy.Sorting.Program — programs that make sorts from sorts.

  A program is a list of instructions.  Each one adds an entry to a growing
  store: the sort it made, or nothing when it failed or when an operand it
  names holds no sort, in which case it is skipped.  Instructions name their
  operands by position in the store.  No instruction changes an entry that is
  there already.
-/
import OrderBy.Default
import OrderBy.Expression.Reader
import OrderBy.Schema

namespace OrderBy.Sorting

/-! ## §1. Instructions -/

/-- **One way to make a sort.** -/
inductive Instruction where
  /-- Properties in one direction. -/
  | ofProperties (properties : List Json) (direction : DirectionChoice)
  /-- Properties each with a direction of its own. -/
  | ofPairs (pairs : List (Json × DirectionChoice))
  /-- The sort without clauses. -/
  | unsorted
  /-- The sort that values of a request give. -/
  | read (values : Json) (delimiter : Expression.Delimiter)
  /-- The sort of a default. -/
  | default (parts : DefaultParts)
  /-- Several sorts, one after another; missing ones are left out. -/
  | merge (operands : List (Option Nat))
  /-- One sort after another. -/
  | append (a b : Nat)
  /-- The sum of two sorts, the second of which may be missing. -/
  | plus (a : Nat) (b : Option Nat)
  /-- All clauses in one direction. -/
  | directed (a : Nat) (direction : Direction)
  /-- Every clause in its other direction. -/
  | flip (a : Nat)
  /-- To a schema and back. -/
  | throughSchema (a : Nat)
  deriving Repr, Inhabited

/-! ## §2. Running -/

/-- What the instructions so far have made, one entry for each. -/
abbrev Made : Type := List (Option Sorting)

/-- The sort at a position, if that entry holds one. -/
def Made.sort? (made : Made) (position : Nat) : Option Sorting :=
  (made[position]?).join

/-- The sorts at positions that may be missing; nothing if some position holds no sort. -/
def Made.operands? (made : Made) : List (Option Nat) → Option (List (Option Sorting))
  | [] => some []
  | none :: rest => (made.operands? rest).map (none :: ·)
  | some position :: rest =>
    match made.sort? position, made.operands? rest with
    | some s, some others => some (some s :: others)
    | _, _ => none

/-- **Run one instruction**: nothing if it is skipped, else its sort or why there is none. -/
def Instruction.run (made : Made) : Instruction → Option (Except SortError Sorting)
  | .ofProperties properties direction => some (Sorting.ofProperties properties direction)
  | .ofPairs pairs => some (Sorting.ofPairs pairs)
  | .unsorted => some (.ok Sorting.unsorted)
  | .read values delimiter => some (Expression.readJson delimiter values).outcome
  | .default parts => some (parts.build.bind ParameterDefault.toSorting)
  | .merge operands => (made.operands? operands).map fun sorts => .ok (Sorting.merge sorts)
  | .append a b =>
    match made.sort? a, made.sort? b with
    | some s, some t => some (.ok (s ++ t))
    | _, _ => none
  | .plus a b =>
    match made.sort? a, made.operands? [b] with
    | some s, some [t] => some (s.plus t)
    | _, _ => none
  | .directed a direction => (made.sort? a).map fun s => s.withDirection direction
  | .flip a => (made.sort? a).map Sorting.flip
  | .throughSchema a => (made.sort? a).map fun s => (SortingSchema.ofSorting s).toSorting

/-- The store after an instruction. -/
def Instruction.step (made : Made) (instruction : Instruction) : Made :=
  made ++ [match instruction.run made with
    | some (.ok s) => some s
    | _ => none]

end OrderBy.Sorting
