/-
  OrderBy.Command.Argument.Reader — reading an argument.

  The tokens of an argument are matched with the pattern of a rule
  (`Rule.pattern`).  If they do not match, they are matched once more, and
  this time causes are looked for.  What a rule matched in a place is kept, so
  that it is not matched twice.

  Patterns are matched with fuel, which bounds how deep they stand in each
  other.
-/
import OrderBy.Command.Argument.Field
import OrderBy.Command.Argument.Grammar
import Std.Data.HashMap

namespace OrderBy.Command.Argument

/-! ## §1. Matching -/

/-- **How a pattern is matched.** -/
inductive Match where
  /-- It matches, with these nodes and up to this place. -/
  | found (nodes : List Node) (place : Nat)
  /-- It does not match. -/
  | missed
  /-- It does not match, and its rule does not in another way. -/
  | refused
  /-- Matching is given up. -/
  | raised (cause : Cause)
  deriving Repr, Inhabited

/-- **What is known while tokens are matched.** -/
structure Progress where
  /-- How rules were matched in places. -/
  kept : Std.HashMap (Rule × Nat) Match := {}
  /-- The last place whose token was looked at. -/
  reached : Nat := 0
  deriving Inhabited

/-- **What tokens are matched in.** -/
structure Reading where
  /-- The tokens. -/
  tokens : Array Token
  /-- What ends them too early. -/
  stop : Option Stop
  /-- How a cause is told. -/
  tell : Cause → Cause
  /-- The node of texts that follow each other. -/
  joinTexts : List (List Char) → Except Cause Node

namespace Reading

/-- The token in a place, if there is one. -/
def token? (reading : Reading) (place : Nat) : StateM Progress (Except Match Token) := do
  modify fun progress => { progress with reached := max progress.reached place }
  match reading.tokens[place]?, reading.stop with
  | some token, _ => return .ok token
  | none, some stop =>
    return .error (.raised (if stop.isFirm then stop.cause else reading.tell stop.cause))
  | none, none => return .error .missed

/-- Is a token a reserved word? -/
def isReserved (token : Token) : Bool :=
  Text.reservedWords.contains (String.ofList token.chars)

/-- Is a token a name? -/
def isName (token : Token) : Bool := token.kind == .name && !isReserved token

/-- Is a token a sign or a reserved word? -/
def isSign (text : String) (token : Token) : Bool :=
  token.chars == text.toList && (token.kind == .sign || (token.kind == .name && isReserved token))

/-- The names that are reserved words only in statements. -/
def softWords : List String := ["_", "case", "match"]

/-- Is a name the start of a word that is reserved only in statements? -/
def startsSoftWord (name : List Char) : Bool :=
  softWords.any fun word => name.isPrefixOf word.toList

/-- Match one token, which gives nodes. -/
def one (reading : Reading) (place : Nat) (isIt : Token → Bool) (nodes : Token → List Node) :
    StateM Progress Match := do
  match ← reading.token? place with
  | .error result => return result
  | .ok token => return if isIt token then .found (nodes token) (place + 1) else .missed

/-- The node of a number, if it has not too many digits. -/
def numberNode (reading : Reading) (written : List Char) : Except Match Node :=
  let digits := written.filter (· != '_')
  if digits.all Char.isDigit then
    match Text.LongNumber.of? digits with
    | some number => .error (.raised (reading.tell (.longNumber number)))
    | none => .ok (.leaf (.number written))
  else .ok (.leaf (.number written))

/-- Match a number. -/
def number (reading : Reading) (place : Nat) : StateM Progress Match := do
  match ← reading.one place (·.kind == .number) fun token => [.leaf (.number token.chars)] with
  | .found [.mk (.number written) _] after =>
    match reading.numberNode written with
    | .ok node => return .found [node] after
    | .error result => return result
  | result => return result

/-- The texts from a place on, and the place after them, with fuel. -/
def textsFrom (reading : Reading) : (fuel place : Nat) →
    StateM Progress (Except Match (List (List Char) × Nat))
  | 0, place => return .ok ([], place)
  | fuel + 1, place => do
    match ← reading.token? place with
    | .error .missed => return .ok ([], place)
    | .error result => return .error result
    | .ok token =>
      if token.kind == .text then
        match ← reading.textsFrom fuel (place + 1) with
        | .ok (texts, after) => return .ok (token.chars :: texts, after)
        | .error result => return .error result
      else return .ok ([], place)

/-- Match texts that follow each other. -/
def texts (reading : Reading) (place : Nat) : StateM Progress Match := do
  match ← reading.textsFrom (reading.tokens.size + 1) place with
  | .error result => return result
  | .ok ([], _) => return .missed
  | .ok (texts, after) =>
    match reading.joinTexts texts with
    | .ok node => return .found [node] after
    | .error cause => return .raised cause

/-- The depth of the token before a place. -/
def depthBefore (reading : Reading) (place : Nat) : Nat :=
  (reading.tokens[place - 1]?.map (·.depth)).getD 0

/-- Put a node in front of the parts of another one. -/
def grown (left : Node) : Node → Node
  | .mk shape parts => .mk shape (left :: parts)

/-- **Match a pattern in a place**, with fuel; `checks` says whether causes are looked for. -/
def run (reading : Reading) : (fuel : Nat) → (checks : Bool) → Pattern → (place : Nat) →
    StateM Progress Match
  | 0, _, _, _ => return .missed
  | fuel + 1, checks, pattern, place => do
    match pattern with
    | .sign text => reading.one place (isSign text) fun _ => []
    | .name => reading.one place isName fun token => [.leaf (.name token.chars)]
    | .softWord =>
      reading.one place (fun token => isName token && startsSoftWord token.chars) fun _ => []
    | .number => reading.number place
    | .text => reading.one place (·.kind == .text) fun _ => []
    | .lineEnd => reading.one place (·.kind == .lineEnd) fun _ => []
    | .finish => reading.one place (·.kind == .finish) fun _ => []
    | .texts => reading.texts place
    | .rule rule =>
      let progress ← get
      match if rule.isKept then progress.kept[(rule, place)]? else none with
      | some result => return result
      | none =>
        let result := match ← reading.run fuel checks rule.pattern place with
          | .refused => .missed
          | result => result
        if rule.isKept then
          modify fun progress => { progress with kept := progress.kept.insert (rule, place) result }
        return result
    | .all [] => return .found [] place
    | .all (pattern :: rest) =>
      match ← reading.run fuel checks pattern place with
      | .found nodes place =>
        match ← reading.run fuel checks (.all rest) place with
        | .found others place => return .found (nodes ++ others) place
        | result => return result
      | result => return result
    | .first [] => return .missed
    | .first (pattern :: rest) =>
      match ← reading.run fuel checks pattern place with
      | .missed => reading.run fuel checks (.first rest) place
      | result => return result
    | .firm pattern =>
      match ← reading.run fuel checks pattern place with
      | .missed => return .refused
      | result => return result
    | .many pattern =>
      match ← reading.run fuel checks pattern place with
      | .found nodes place =>
        match ← reading.run fuel checks (.many pattern) place with
        | .found others place => return .found (nodes ++ others) place
        | result => return result
      | .raised cause => return .raised cause
      | _ => return .found [] place
    | .grow start next =>
      match ← reading.run fuel checks start place with
      | .found [left] place =>
        match ← reading.run fuel checks (.many next) place with
        | .found nexts place => return .found [nexts.foldl grown left] place
        | result => return result
      | result => return result
    | .ahead pattern =>
      match ← reading.run fuel checks pattern place with
      | .found _ _ => return .found [] place
      | result => return result
    | .notAhead pattern =>
      match ← reading.run fuel checks pattern place with
      | .found _ _ => return .missed
      | .raised cause => return .raised cause
      | _ => return .found [] place
    | .build make pattern =>
      match ← reading.run fuel checks pattern place with
      | .found nodes place => return .found (make nodes) place
      | result => return result
    | .report cause? pattern =>
      match ← reading.run fuel checks pattern place with
      | .found nodes place =>
        match cause? nodes (reading.depthBefore place) with
        | some cause => return .raised (reading.tell cause)
        | none => return .refused
      | result => return result
    | .checked pattern => if checks then reading.run fuel checks pattern place else return .missed
    | .unchecked pattern => reading.run fuel false pattern place

/-! ## §2. Causes -/

/-- The cause that is told for tokens that were looked at up to a place: what is wrong in those
after it may go before a cause that was found in those before it. -/
def settle (reading : Reading) (reached : Nat) (cause : Cause) : Cause :=
  match reading.stop, reading.tokens[reached]? with
  | some stop, some token =>
    if stop.isFirm then stop.cause
    else
      match stop.opened with
      | some (bracket, line) =>
        if line < token.line then reading.tell (.neverClosed bracket) else cause
      | none => cause
  | _, _ => cause

/-- The cause that is told for a cause that was given up for.  Where it was known that nothing
follows, it stays. -/
def settleRaised (reading : Reading) (reached : Nat) (cause : Cause) : Cause :=
  if (reading.tokens[reached]?.map (·.isLast)).getD false then cause
  else reading.settle reached cause

/-- How much fuel a token takes. -/
def tokenFuel : Nat := 400

/-- **Read tokens** by a rule. -/
def node (reading : Reading) (rule : Rule) : Except Cause Node :=
  let fuel := tokenFuel * (reading.tokens.size + 2)
  let (result, progress) := (reading.run fuel false (.rule rule) 0).run {}
  match result with
  | .found (node :: _) _ => .ok node
  | .raised cause => .error (reading.settleRaised progress.reached cause)
  | _ =>
    let (again, checked) :=
      (reading.run fuel true (.rule rule) 0).run { reached := progress.reached }
    match again, reading.tokens[progress.reached]?.map (·.kind) with
    | .raised cause, _ => .error (reading.settleRaised checked.reached cause)
    | _, some Token.Kind.indent => .error (reading.tell .indented)
    | _, _ => .error (reading.settle checked.reached (reading.tell .unreadable))

end Reading

/-! ## §3. Texts -/

/-- **A text in quotes**: the marks in front of its quotes, and what is between them. -/
structure Quote where
  /-- Is it of octets? -/
  isOctets : Bool
  /-- Has it no escapes? -/
  isRaw : Bool
  /-- Has it fields? -/
  hasFields : Bool
  /-- What is between its quotes. -/
  text : List Char
  deriving DecidableEq, Repr, Inhabited

/-- The parts of a text in quotes, as it is written. -/
def Quote.of (written : List Char) : Quote :=
  let mark := written.takeWhile Char.isAlpha
  let quoted := written.drop mark.length
  let size := if 6 ≤ quoted.length && quoted.take 3 == List.replicate 3 (quoted.headD '"') then 3
    else 1
  let has (letter : Char) : Bool := (mark.map Char.toLower).contains letter
  { isOctets := has 'b', isRaw := has 'r', hasFields := has 'f',
    text := (quoted.drop size).take (quoted.length - 2 * size) }

/-- Check a text in quotes, given how the values of its fields are read and how causes are told. -/
def Quote.check (read : List Char → Except Cause Unit) (tell : Cause → Cause) (quote : Quote) :
    Except Cause Unit :=
  if quote.hasFields then Field.check read tell quote.isRaw quote.text
  else if quote.isOctets then
    if quote.text.any isWide then .error (tell .wideOctets)
    else if quote.isRaw then .ok ()
    else (checkOctets quote.text).mapError tell
  else if quote.isRaw then .ok ()
  else (checkEscapes quote.text).mapError tell

/-- Check texts that follow each other, the first of which is of octets or not.  The form of a text
is checked before its kind, and its kind before its fields. -/
def checkTexts (read : List Char → Except Cause Unit) (tell : Cause → Cause) (areOctets : Bool) :
    List Quote → Except Cause Unit
  | [] => .ok ()
  | quote :: rest => do
    if !quote.hasFields then quote.check read tell
    if quote.isOctets != areOctets then .error (tell .mixedTexts)
    if quote.hasFields then quote.check read tell
    checkTexts read tell areOctets rest

/-- The node of texts that follow each other. -/
def joinTexts (read : List Char → Except Cause Unit) (tell : Cause → Cause)
    (written : List (List Char)) : Except Cause Node := do
  let quotes := written.map Quote.of
  let areOctets := (quotes.head?.map (·.isOctets)).getD false
  checkTexts read tell areOctets quotes
  return .mk (.texts areOctets (quotes.any (·.hasFields)))
    (written.map fun text => .leaf (.text text))

/-! ## §4. Arguments -/

/-- Read the value of a field of a text, with fuel, one unit for each text that it stands in. -/
def readField : (fuel : Nat) → List Char → Except Cause Unit
  | 0, _ => .error .nestedFields
  | fuel + 1, cs => do
    let (found, stop) := tokens ('(' :: cs ++ [')', '\n'])
    let reading : Reading :=
      { tokens := found.toArray, stop, tell := .inField,
        joinTexts := joinTexts (readField fuel) .inField }
    let _ ← reading.node .field

/-- **Read an argument.** -/
def read (cs : List Char) : Except Cause Node :=
  if cs.contains '\x00' then .error .nullCharacter
  else
    let (found, stop) := tokens cs
    let reading : Reading :=
      { tokens := found.toArray, stop, tell := id, joinTexts := joinTexts (readField cs.length) id }
    reading.node .whole

end OrderBy.Command.Argument
