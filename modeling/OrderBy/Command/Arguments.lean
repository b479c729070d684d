/-
  OrderBy.Command.Arguments — options and operands on a command line.

  An argument that starts with a dash and is longer than that is an option;
  a value it takes is given after an equals sign or as the next argument,
  whatever that looks like.  Two dashes end the options.  All other arguments
  are operands, and options may stand among them, unless the first operand is
  to end the options too.
-/

namespace OrderBy.Command

/-- **An option that can be given.** -/
structure OptionSpec where
  /-- Its name, dashes included. -/
  name : String
  /-- Does it take a value? -/
  takesValue : Bool
  deriving DecidableEq, Repr

/-- **What a command line gives**: options with their values, and operands, in order. -/
structure Arguments where
  /-- The options; one that takes no value has an empty one. -/
  options : List (String × String) := []
  /-- The operands. -/
  operands : List String := []
  deriving DecidableEq, Repr, Inhabited

namespace Arguments

/-- The values given for an option, in order. -/
def values (arguments : Arguments) (name : String) : List String :=
  (arguments.options.filter (·.1 == name)).map (·.2)

/-- The value given last for an option. -/
def last? (arguments : Arguments) (name : String) : Option String :=
  (arguments.values name).getLast?

/-- Is an option given? -/
def has (arguments : Arguments) (name : String) : Bool :=
  !(arguments.values name).isEmpty

/-- Put an option before others. -/
def withOption (name value : String) (arguments : Arguments) : Arguments :=
  { arguments with options := (name, value) :: arguments.options }

/-- Put an operand before others. -/
def withOperand (operand : String) (arguments : Arguments) : Arguments :=
  { arguments with operands := operand :: arguments.operands }

/-- Is an argument an option? -/
def isOption (argument : String) : Bool :=
  match argument.toList with
  | '-' :: _ :: _ => true
  | _ => false

/-- An option's name, and the value after its equals sign, if it has one. -/
def cutValue (argument : String) : String × Option String :=
  let cs := argument.toList
  let name := String.ofList (cs.takeWhile (· != '='))
  match cs.dropWhile (· != '=') with
  | _ :: value => (name, some (String.ofList value))
  | [] => (name, none)

/-- **Read arguments**; nothing for an option that is not known, that lacks its value, or that
is given one it does not take.  With `interspersed`, options may stand among the operands. -/
def read (specs : List OptionSpec) (interspersed : Bool) : List String → Option Arguments
  | [] => some {}
  | argument :: rest =>
    if argument = "--" then some { operands := rest }
    else if isOption argument then
      let (name, value) := cutValue argument
      match specs.find? (·.name == name) with
      | none => none
      | some spec =>
        if spec.takesValue then
          match value with
          | some value => (read specs interspersed rest).map (withOption name value)
          | none =>
            match rest with
            | next :: rest => (read specs interspersed rest).map (withOption name next)
            | [] => none
        else
          match value with
          | some _ => none
          | none => (read specs interspersed rest).map (withOption name "")
    else if interspersed then (read specs interspersed rest).map (withOperand argument)
    else some { operands := argument :: rest }

end Arguments

end OrderBy.Command
