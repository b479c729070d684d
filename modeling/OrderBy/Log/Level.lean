/-
  OrderBy.Log.Level — levels, outputs and formats of logging.

  The words that settings and callers use for how much is logged, where to,
  and in which form.  A word that is no known format stands for itself: it is
  a format template of the caller's own.
-/

namespace OrderBy.Log

/-! ## §1. Levels -/

/-- **How urgent a record is**, and how urgent one has to be. -/
inductive Level where
  | debug
  | info
  | warning
  | error
  | critical
  deriving DecidableEq, Repr, Inhabited

namespace Level

/-- All levels, the least urgent first. -/
def all : List Level := [.debug, .info, .warning, .error, .critical]

/-- The word for a level. -/
def name : Level → String
  | .debug => "DEBUG"
  | .info => "INFO"
  | .warning => "WARNING"
  | .error => "ERROR"
  | .critical => "CRITICAL"

/-- The number of a level. -/
def number : Level → Nat
  | .debug => 10
  | .info => 20
  | .warning => 30
  | .error => 40
  | .critical => 50

/-- The level of a word, which is taken exactly. -/
def ofName? (word : String) : Option Level :=
  all.find? (·.name == word)

@[simp] theorem ofName?_name (level : Level) : ofName? level.name = some level := by
  cases level <;> decide

/-- A letter in upper case; the dotless i is an I as well. -/
def upper (c : Char) : Char :=
  if c = 'ı' then 'I' else c.toUpper

/-- The level of a word in letters of either case. -/
def ofAnyCase? (word : String) : Option Level :=
  ofName? (String.ofList (word.toList.map upper))

end Level

/-! ## §2. Outputs -/

/-- **Where records go.** -/
inductive Output where
  | console
  | file
  | both
  deriving DecidableEq, Repr, Inhabited

namespace Output

/-- The word for an output. -/
def value : Output → String
  | .console => "console"
  | .file => "file"
  | .both => "both"

/-- The output of a word, which is taken exactly. -/
def ofValue? (word : String) : Option Output :=
  [Output.console, .file, .both].find? (·.value == word)

@[simp] theorem ofValue?_value (output : Output) : ofValue? output.value = some output := by
  cases output <;> decide

/-- Does the output include the console? -/
def toConsole : Output → Bool
  | .console | .both => true
  | .file => false

/-- Does the output include a file? -/
def toFile : Output → Bool
  | .file | .both => true
  | .console => false

end Output

/-! ## §3. Formats -/

/-- **The known formats.** -/
inductive KnownFormat where
  /-- Time, level, logger and message. -/
  | text
  /-- Logger and message. -/
  | textLight
  deriving DecidableEq, Repr, Inhabited

namespace KnownFormat

/-- The word for a format. -/
def value : KnownFormat → String
  | .text => "text"
  | .textLight => "text_light"

/-- The format of a word, which is taken exactly. -/
def ofValue? (word : String) : Option KnownFormat :=
  [KnownFormat.text, .textLight].find? (·.value == word)

/-- The template of a format. -/
def template : KnownFormat → String
  | .text => "%(asctime)s [%(levelname)s] %(name)s: %(message)s"
  | .textLight => "%(name)s: %(message)s"

end KnownFormat

/-- **The form of logged lines**: a known format, or a template. -/
inductive Format where
  | known (format : KnownFormat)
  | custom (template : String)
  deriving DecidableEq, Repr, Inhabited

namespace Format

/-- The format that a word stands for. -/
def ofText (word : String) : Format :=
  match KnownFormat.ofValue? word with
  | some format => .known format
  | none => .custom word

/-- The word for a format; a template stands for itself. -/
def text : Format → String
  | .known format => format.value
  | .custom template => template

/-- Is the format a known one? -/
def isKnown : Format → Bool
  | .known _ => true
  | .custom _ => false

/-- What is used in place of an empty template. -/
def plainTemplate : String := "%(message)s"

/-- **The template that lines are written with.** -/
def template : Format → String
  | .known format => format.template
  | .custom template => if template.isEmpty then plainTemplate else template

theorem text_ofText (word : String) : (ofText word).text = word := by
  unfold ofText
  split
  next format h =>
    have := List.find?_some h
    simpa [text] using this
  next => rfl

end Format

end OrderBy.Log
