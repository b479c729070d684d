/-
  OrderBy.Traced — results beside the records written on the way.

  Reading a request never fails on malformed parts; it drops them and writes a
  record.  `Traced` is the result of such a run: an outcome and the records in
  the order they were written.  A run that fails keeps the records it wrote
  before.
-/

namespace OrderBy

/-! ## §1. Records -/

/-- **A debugging record.** -/
inductive Record where
  /-- A piece of a sort expression names no property. -/
  | droppedProperty (property value : String)
  /-- A request gives no sort under a parameter. -/
  | noSort (parameter : String)
  /-- The command line resolved some clauses from some values. -/
  | resolved (clauses values : Nat)
  deriving DecidableEq, Repr

namespace Record

/-- The logger a record is written to. -/
def logger : Record → String
  | .droppedProperty .. => "fastsort.sort"
  | .noSort _ => "fastsort.params"
  | .resolved .. => "cli.command.parse"

/-- The message of a record. -/
def message : Record → String
  | .droppedProperty property value =>
    "Ignore invalid sort property '" ++ property ++ "' in '" ++ value ++ "'"
  | .noSort parameter => "No sort found in '" ++ parameter ++ "', use the default sort"
  | .resolved clauses values =>
    "Resolved " ++ toString clauses ++ " order(s) from " ++ toString values ++ " value(s)"

/-- A record on one line, with its level and logger. -/
def line (r : Record) : String :=
  "DEBUG " ++ r.logger ++ ": " ++ r.message

end Record

/-! ## §2. Runs that write records -/

/-- **An outcome beside the records written on the way.** -/
structure Traced (ε α : Type) where
  /-- What the run ended with. -/
  outcome : Except ε α
  /-- The records it wrote, in order. -/
  records : List Record := []
  deriving Inhabited

namespace Traced

variable {ε α β : Type}

/-- A run that writes nothing. -/
def of (outcome : Except ε α) : Traced ε α := ⟨outcome, []⟩

/-- A run that ends at once with an error. -/
def fail (error : ε) : Traced ε α := of (.error error)

/-- A run that writes one record. -/
def note (record : Record) : Traced ε Unit := ⟨.ok (), [record]⟩

/-- One run after another, which sees the value of the first; none follows a failure. -/
def andThen (run : Traced ε α) (next : α → Traced ε β) : Traced ε β :=
  match run.outcome with
  | .ok value => ⟨(next value).outcome, run.records ++ (next value).records⟩
  | .error error => ⟨.error error, run.records⟩

instance : Monad (Traced ε) where
  pure value := of (.ok value)
  bind := andThen

/-- Put errors in other words. -/
def mapError {δ : Type} (f : ε → δ) (run : Traced ε α) : Traced δ α :=
  ⟨run.outcome.mapError f, run.records⟩

@[simp] theorem pure_eq (value : α) : (pure value : Traced ε α) = ⟨.ok value, []⟩ := rfl

theorem bind_ok {value : α} {records : List Record} (next : α → Traced ε β) :
    (⟨.ok value, records⟩ : Traced ε α) >>= next
      = ⟨(next value).outcome, records ++ (next value).records⟩ := rfl

theorem bind_error {error : ε} {records : List Record} (next : α → Traced ε β) :
    (⟨.error error, records⟩ : Traced ε α) >>= next = ⟨.error error, records⟩ := rfl

end Traced

end OrderBy
