/-
  OrderBy.RoutePath — the paths that routes answer.

  The path of a route is a pattern.  A name in braces is a parameter: it stands
  for one part of a path, or, with the word of a kind after a colon, for a text
  of that kind (`RoutePath.Kind`).  All else stands for itself, braces that hold
  no such name included.  The kinds are left out where the path is shown.

  A path is answered when the pieces of the pattern can be laid along it; one
  line feed at the end of a path is passed over.  A pattern that does not start
  with a slash is read as the name of a host, and what follows a colon at its
  end is not looked at.
-/
import OrderBy.RouteError
import OrderBy.Text.Number

namespace OrderBy

/-! ## §1. Kinds of parameters -/

/-- **What a parameter of a path may stand for.** -/
inductive RoutePath.Kind where
  /-- One part of a path, which is not empty and holds no slash. -/
  | part
  /-- Any text on one line. -/
  | rest
  /-- A whole number. -/
  | whole
  /-- A number that may have a fraction. -/
  | decimal
  /-- An identifier of 32 hexadecimal digits, with or without dashes between its groups. -/
  | uuid
  deriving DecidableEq, Repr

namespace RoutePath

/-- The words for the kinds. -/
def Kind.words : List (String × Kind) :=
  [("str", .part), ("path", .rest), ("int", .whole), ("float", .decimal), ("uuid", .uuid)]

/-- The kind of a word. -/
def Kind.ofWord? (word : String) : Option Kind := Kind.words.lookup word

/-- The word for the kind of a parameter that names none. -/
def Kind.usualWord : String := "str"

/-! ## §2. Reading a pattern -/

/-- A piece of a pattern as it is written. -/
inductive Token where
  /-- A character that stands for itself. -/
  | char (c : Char)
  /-- A parameter, with the word for its kind. -/
  | parameter (name kind : String)
  deriving DecidableEq, Repr

/-- Can a text name a parameter, or a kind of them? -/
def isName : List Char → Bool
  | c :: rest => (c.isAlpha || c == '_') && rest.all fun c => c.isAlphanum || c == '_'
  | [] => false

/-- The parameter that a text between braces is, if it is one. -/
def parameter? (cs : List Char) : Option Token :=
  let name := cs.takeWhile (· != ':')
  if !isName name then none
  else
    match cs.dropWhile (· != ':') with
    | [] => some (.parameter (String.ofList name) Kind.usualWord)
    | _ :: word =>
      if isName word then some (.parameter (String.ofList name) (String.ofList word)) else none

/-- An opening brace and what follows it, all of which stand for themselves. -/
def plainTokens (read : List Char) : List Token :=
  ('\x7b' :: read).map .char

/-- The pieces of a pattern, given the text after the last opening brace, if that brace is not
closed yet. -/
def tokensFrom : (inside : Option (List Char)) → List Char → List Token
  | none, [] => []
  | some read, [] => plainTokens read
  | none, c :: cs =>
    if c = '\x7b' then tokensFrom (some []) cs else .char c :: tokensFrom none cs
  | some read, c :: cs =>
    if c = '\x7d' then
      match parameter? read with
      | some token => token :: tokensFrom none cs
      | none => plainTokens read ++ .char c :: tokensFrom none cs
    else if c = '\x7b' then plainTokens read ++ tokensFrom (some []) cs
    else tokensFrom (some (read ++ [c])) cs

/-- **The pieces of a pattern**, as they are written. -/
def tokens (pattern : String) : List Token :=
  tokensFrom none pattern.toList

/-- A piece without the kind of a parameter. -/
def Token.shown : Token → List Char
  | .char c => [c]
  | .parameter name _ => '\x7b' :: (name.toList ++ ['\x7d'])

/-- The name of a parameter. -/
def Token.name? : Token → Option String
  | .char _ => none
  | .parameter name _ => some name

/-- The word for the kind of a parameter, if there is no such kind. -/
def Token.unknownKind? : Token → Option String
  | .char _ => none
  | .parameter _ word => if (Kind.ofWord? word).isNone then some word else none

/-- The names that stand more than once among some, each once and in their order. -/
def repeated (names : List String) : List String :=
  ((names.filter fun name => 1 < names.count name).eraseDups).mergeSort fun a b => decide (a ≤ b)

/-! ## §3. Routes' paths -/

/-- A piece of a path. -/
inductive Piece where
  /-- A character that stands for itself. -/
  | char (c : Char)
  /-- A parameter. -/
  | parameter (kind : Kind)
  deriving DecidableEq, Repr

/-- The piece that is written. -/
def Token.piece : Token → Piece
  | .char c => .char c
  | .parameter _ word => .parameter ((Kind.ofWord? word).getD .part)

/-- Does a piece stand for itself? -/
def Piece.isChar : Piece → Bool
  | .char _ => true
  | .parameter _ => false

/-- The pieces that count in the name of a host: none from the first colon on after the last
parameter. -/
def hostPieces : List Piece → List Piece
  | [] => []
  | piece :: rest =>
    if piece = .char ':' ∧ rest.all Piece.isChar then [] else piece :: hostPieces rest

end RoutePath

/-- **The path of a route.** -/
structure RoutePath where
  /-- The path as it is shown. -/
  shown : String
  /-- The pieces that a path has to be made of. -/
  pieces : List RoutePath.Piece
  deriving DecidableEq, Repr, Inhabited

namespace RoutePath

/-- **Read the path of a route.**  A kind that does not exist is found before a name that is given
twice. -/
def read (pattern : String) : Except RouteError RoutePath :=
  let tokens := tokens pattern
  let pieces := tokens.map Token.piece
  match tokens.findSome? Token.unknownKind?, repeated (tokens.filterMap Token.name?) with
  | some word, _ => .error (.unknownKind word)
  | none, [] => .ok {
      shown := String.ofList (tokens.flatMap Token.shown)
      pieces := if pattern.toList.head? == some '/' then pieces else hostPieces pieces }
  | none, names => .error (.repeatedNames names pattern)

/-- The texts between braces of a shown path, each up to the next closing brace on its line, given
the one under way. -/
def bracedFrom : (inside : Option (List Char)) → List Char → List (List Char)
  | _, [] => []
  | none, c :: cs => bracedFrom (if c = '\x7b' then some [] else none) cs
  | some read, c :: cs =>
    if c = '\x7d' then read :: bracedFrom none cs
    else bracedFrom (if c = '\n' then none else some (read ++ [c])) cs

/-- Does a path have a parameter of a name, going by its braces alone? -/
def mentions (path : RoutePath) (name : String) : Bool :=
  (bracedFrom none path.shown.toList).contains name.toList

/-! ## §4. Matching -/

/-- Take characters of a class after those that were taken, last one first: as many as leave a rest
that fits.  There may be none. -/
def takeMany {α : Type} (isIn : Char → Bool) (fits : (taken rest : List Char) → Option α) :
    (taken : List Char) → List Char → Option α
  | taken, [] => fits taken []
  | taken, c :: cs =>
    if isIn c then (takeMany isIn fits (c :: taken) cs).orElse fun _ => fits taken (c :: cs)
    else fits taken (c :: cs)

/-- Take characters of a class as `takeMany` does, but at least one. -/
def takeSome {α : Type} (isIn : Char → Bool) (fits : (taken rest : List Char) → Option α) :
    (taken : List Char) → List Char → Option α
  | _, [] => none
  | taken, c :: cs => if isIn c then takeMany isIn fits (c :: taken) cs else none

/-- Take a fraction if one stands at the front. -/
def takeFraction {α : Type} (fits : (taken rest : List Char) → Option α)
    (taken cs : List Char) : Option α :=
  let withFraction :=
    match cs with
    | '.' :: digits => takeSome Char.isDigit fits ('.' :: taken) digits
    | _ => none
  withFraction.orElse fun _ => fits taken cs

/-- Is a character a hexadecimal digit? -/
def isHex (c : Char) : Bool :=
  c.isDigit || ('a' ≤ c && c ≤ 'f') || ('A' ≤ c && c ≤ 'F')

/-- Take so many hexadecimal digits. -/
def takeHex {α : Type} (fits : (taken rest : List Char) → Option α) :
    (digits : Nat) → (taken : List Char) → List Char → Option α
  | 0, taken, cs => fits taken cs
  | _ + 1, _, [] => none
  | digits + 1, taken, c :: cs => if isHex c then takeHex fits digits (c :: taken) cs else none

/-- Take groups of hexadecimal digits, with dashes between them or not. -/
def takeGroups {α : Type} (fits : (taken rest : List Char) → Option α) :
    (groups : List Nat) → (taken : List Char) → List Char → Option α
  | [], taken, cs => fits taken cs
  | [digits], taken, cs => takeHex fits digits taken cs
  | digits :: groups, taken, cs =>
    takeHex (fun taken rest =>
      match rest with
      | '-' :: more => takeGroups fits groups ('-' :: taken) more
      | _ => takeGroups fits groups taken rest) digits taken cs

/-- The groups of hexadecimal digits of an identifier. -/
def uuidGroups : List Nat := [8, 4, 4, 4, 12]

/-- Take a text of a kind, which is handed on with its last character first: the longest one that
leaves a rest that fits. -/
def Kind.take {α : Type} (kind : Kind) (fits : (taken rest : List Char) → Option α) :
    List Char → Option α :=
  match kind with
  | .part => takeSome (· != '/') fits []
  | .rest => takeMany (· != '\n') fits []
  | .whole => takeSome Char.isDigit fits []
  | .decimal => takeSome Char.isDigit (takeFraction fits) []
  | .uuid => takeGroups fits uuidGroups []

/-- The texts that the parameters among pieces stand for in a path, if the pieces can be laid
along it. -/
def textsOf : List Piece → List Char → Option (List (Kind × List Char))
  | [], cs => if cs.isEmpty || cs == ['\n'] then some [] else none
  | .char d :: ps, c :: cs => if c == d then textsOf ps cs else none
  | .char _ :: _, [] => none
  | .parameter kind :: ps, cs =>
    kind.take (fun taken rest => (textsOf ps rest).map ((kind, taken.reverse) :: ·)) cs

/-- What is wrong with the text of a parameter, if anything is. -/
def longNumber? : Kind × List Char → Option Text.LongNumber
  | (.whole, digits) => Text.LongNumber.of? digits
  | _ => none

/-- **Does a route's path answer a path?**  If it does, the whole numbers in it are read. -/
def answers (path : RoutePath) (requested : String) : Except Text.LongNumber Bool :=
  match textsOf path.pieces requested.toList with
  | none => .ok false
  | some texts =>
    match texts.findSome? longNumber? with
    | some e => .error e
    | none => .ok true

/-! ## §5. Redirection -/

/-- The path that a request is sent on to when no route answers its own: without the slashes at
its end if there are any, else with one. -/
def redirected (path : String) : String :=
  let reversed := path.toList.reverse
  if reversed.head? == some '/' then String.ofList (reversed.dropWhile (· == '/')).reverse
  else path ++ "/"

end RoutePath

end OrderBy
