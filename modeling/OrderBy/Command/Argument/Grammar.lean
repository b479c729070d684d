/-
  OrderBy.Command.Argument.Grammar — the order of tokens in an argument.

  An argument is an expression.  The grammar is a pattern for each rule
  (`Rule.pattern`); of several patterns the first one that matches counts.

  Some rules match what is wrong, and report the cause.  Most of them are only
  looked at after an argument was found unreadable (`Pattern.checked`), and not
  inside a value for which the cause would be another one
  (`Pattern.unchecked`).
-/
import OrderBy.Command.Argument.Node

namespace OrderBy.Command.Argument

/-! ## §1. Patterns -/

/-- **The rules of the grammar**: what is right first, what is wrong after it. -/
inductive Rule where
  | whole | field | values | value | yielded | starValues | starValue | items | item
  | naming | namedValue | anyOf | allOf | negation | comparison | compared
  | bitOr | bitXor | bitAnd | shift | sum | product | signed | power | awaited
  | primary | atom | group | texts | tuple | set | table | entries | entryOrSpread | entry
  | sources | source | setSeries | series | tableSeries
  | arguments | argumentList | namedArguments | spreadSeries | namedOrSeries | namedOrTable
  | targets | targetList | target | plainTarget | targetAtom | targetPrimary
  | function | parameters | parameterList | slashPlain | slashDefault | starParameters
  | tableParameter | plainParameter | defaultParameter | anyParameter | parameter | default
  | uncheckedValue
  | wrongValue | oldCall | wrongNaming | wrongArguments | wrongNamed | wrongSeries
  | wrongTableSeries | wrongParameters | defaultsBefore | wrongStar | wrongTableParameter
  | wrongGroup | wrongEntries | wrongEntry | wrongTarget | wrongDefault
  deriving DecidableEq, Hashable, Repr, Inhabited

/-- **A pattern of tokens.**  What it matches gives nodes. -/
inductive Pattern where
  /-- A sign or a reserved word, which gives no node. -/
  | sign (text : String)
  /-- A name. -/
  | name
  /-- A name that starts a word that is reserved only in statements. -/
  | softWord
  /-- A number. -/
  | number
  /-- A text in quotes. -/
  | text
  /-- The end of a line. -/
  | lineEnd
  /-- The end of the argument. -/
  | finish
  /-- What a rule says. -/
  | rule (rule : Rule)
  /-- Patterns one after the other. -/
  | all (patterns : List Pattern)
  /-- The first one of patterns that matches. -/
  | first (patterns : List Pattern)
  /-- A pattern that has to match: where it does not, the rule does not match in another way. -/
  | firm (pattern : Pattern)
  /-- A pattern, as often as it matches. -/
  | many (pattern : Pattern)
  /-- A pattern that gives one node, and one that goes on with it, as often as it matches. -/
  | grow (start next : Pattern)
  /-- What follows matches a pattern. -/
  | ahead (pattern : Pattern)
  /-- What follows does not match a pattern. -/
  | notAhead (pattern : Pattern)
  /-- A pattern whose nodes are put together. -/
  | build (make : List Node → List Node) (pattern : Pattern)
  /-- Texts that follow each other. -/
  | texts
  /-- A pattern for what is wrong, and the cause for its nodes and the depth of its last token, if
  there is one; then the rule does not match in another way. -/
  | report (cause? : List Node → Nat → Option Cause) (pattern : Pattern)
  /-- A pattern that matches only where causes are looked for. -/
  | checked (pattern : Pattern)
  /-- A pattern in which causes are not looked for. -/
  | unchecked (pattern : Pattern)
  deriving Inhabited

namespace Pattern

/-- Nothing, which is always there. -/
def nothing : Pattern := all []

/-- A pattern that may match. -/
def maybe (pattern : Pattern) : Pattern := first [pattern, nothing]

/-- A pattern, once or more often. -/
def some (pattern : Pattern) : Pattern := all [pattern, many pattern]

/-- A pattern, once or more often, with commas between. -/
def separated (pattern : Pattern) : Pattern := all [pattern, many (all [sign ",", pattern])]

/-- A pattern whose nodes are the parts of a node. -/
def node (shape : Shape) (pattern : Pattern) : Pattern :=
  build (fun parts => [.mk shape parts]) pattern

/-- A sign that gives a node. -/
def leaf (shape : Shape) (text : String) : Pattern := node shape (sign text)

/-- A rule between round brackets. -/
def inBrackets (pattern : Pattern) : Pattern := all [sign "(", pattern, sign ")"]

/-- A pattern for what is always wrong in one way. -/
def wrong (cause : Cause) (pattern : Pattern) : Pattern :=
  report (fun _ _ => Option.some cause) pattern

/-- A sign between two values, the first of which was read. -/
def between (text : String) (right : Rule) : Pattern :=
  node (.between text) (all [sign text, rule right])

/-- A sign before a value. -/
def before (text : String) (right : Rule) : Pattern :=
  node (.before text) (all [sign text, rule right])

/-- A word between values. -/
def joined (word : String) (part : Rule) : Pattern :=
  first [node .joined (all [rule part, some (all [sign word, rule part])]), rule part]

/-- Signs that compare a value with another one. -/
def compares (signs : List String) : Pattern :=
  node (.compared (signs == ["in"])) (all (signs.map sign ++ [rule .bitOr]))

/-- One of two values, or the first one alone, or a function. -/
def valueOf : List Pattern :=
  [node .choice (all [rule .anyOf, sign "if", rule .anyOf, sign "else", rule .value]),
   rule .anyOf, rule .function]

/-- Items of a series, of which one alone is not a series. -/
def seriesOf (part : Rule) : List Pattern :=
  [node .tuple (all [rule part, some (all [sign ",", rule part]), maybe (sign ",")]),
   node .tuple (all [rule part, sign ","]), rule part]

/-- A parameter, and what has to follow it. -/
def endedParameter (pattern : Pattern) : Pattern :=
  first [all [pattern, sign ","], all [pattern, ahead (sign ":")]]

/-! ## §2. Parts of rules -/

/-- What goes on with a value. -/
def goesOn : Pattern := first [sign "(", sign "."]

/-- An argument without a name. -/
def positional : Pattern :=
  first [rule .spreadSeries,
    all [first [rule .naming, all [rule .value, notAhead (sign ":=")]], notAhead (sign "=")]]

/-- A named argument. -/
def namedArgument : Pattern := node .namedArgument (all [name, sign "=", rule .value])

/-- The value of an entry has a star. -/
def starInEntry : Pattern := wrong .starInTable (all [rule .value, sign ":", sign "*", rule .bitOr])

/-- An entry has no value. -/
def valueMissing : Pattern :=
  wrong .keyWithoutValue (all [rule .value, sign ":", ahead (first [sign "\x7d", sign ","])])

/-- The name of an old call, if nodes start with one. -/
def oldName? : List Node → Option (List Char)
  | .mk (.name written) _ :: _ =>
    if written = "print".toList ∨ written = "exec".toList then Option.some written else none
  | _ => none

/-- A comma is missing between two values, unless the first one is an old call, or both are outside
of brackets. -/
def lostComma? (nodes : List Node) (depth : Nat) : Option Cause :=
  if (oldName? nodes).isSome || depth == 0 then none else Option.some .missingComma

/-- A cause that tells what the first one of nodes is. -/
def about (cause : String → Cause) (nodes : List Node) (_depth : Nat) : Option Cause :=
  nodes.head?.map fun node => cause node.what

/-- A series that is not in brackets follows other arguments. -/
def openAmongOthers? : List Node → Nat → Option Cause
  | .mk (.arguments plain _) _ :: _, _ =>
    if plain ≤ 1 then none else Option.some .openSeries
  | _, _ => none

/-- A plain argument follows others. -/
def plainAfter? : List Node → Nat → Option Cause
  | .mk (.arguments _ spreads) _ :: _, _ =>
    Option.some (if spreads then .plainAfterDouble else .plainAfterNamed)
  | _, _ => none

/-- A series goes through what cannot be assigned to. -/
def wrongTarget? (nodes : List Node) (_depth : Nat) : Option Cause :=
  (nodes.head?.bind Node.unassignable?).map fun node => .cannotSet node.what

end Pattern

/-! ## §3. Rules -/

open Pattern

/-- **The pattern of a rule.** -/
def Rule.pattern : Rule → Pattern
  -- values, from the loosest to the closest
  | .whole => all [rule .values, many lineEnd, finish]
  | .field => rule .starValues
  | .values => first (seriesOf .value)
  | .value =>
    first ([checked (rule .wrongValue), checked (rule .oldCall)] ++ valueOf)
  | .uncheckedValue => unchecked (first valueOf)
  | .yielded =>
    first [node .yielded (all [sign "yield", sign "from", rule .value]),
      node .yielded (all [sign "yield", maybe (rule .starValues)])]
  | .starValues => first (seriesOf .starValue)
  | .starValue => first [node .starred (all [sign "*", rule .bitOr]), rule .value]
  | .items => all [separated (rule .item), maybe (sign ",")]
  | .item => first [node .starred (all [sign "*", rule .bitOr]), rule .namedValue]
  | .naming => node .named (all [name, sign ":=", firm (rule .value)])
  | .namedValue =>
    first [rule .naming, checked (rule .wrongNaming),
      all [rule .value, notAhead (sign ":=")]]
  | .anyOf => joined "or" .allOf
  | .allOf => joined "and" .negation
  | .negation => first [before "not" .negation, rule .comparison]
  | .comparison =>
    first [build (fun nodes => [.ofComparison nodes])
      (all [rule .bitOr, Pattern.some (rule .compared)]), rule .bitOr]
  | .compared =>
    first ([["=="], ["!="], ["<="], ["<"], [">="], [">"], ["not", "in"], ["in"],
      ["is", "not"], ["is"]].map compares)
  | .bitOr => grow (rule .bitXor) (between "|" .bitXor)
  | .bitXor => grow (rule .bitAnd) (between "^" .bitAnd)
  | .bitAnd => grow (rule .shift) (between "&" .shift)
  | .shift => grow (rule .sum) (first [between "<<" .sum, between ">>" .sum])
  | .sum => grow (rule .product) (first [between "+" .product, between "-" .product])
  | .product =>
    grow (rule .signed) (first (["*", "/", "//", "%", "@"].map (between · .signed)))
  | .signed =>
    first [before "+" .signed, before "-" .signed, before "~" .signed, rule .power]
  | .power =>
    first [node (.between "**") (all [rule .awaited, sign "**", rule .signed]),
      rule .awaited]
  | .awaited => first [node .awaited (all [sign "await", rule .primary]), rule .primary]
  | .primary =>
    grow (rule .atom) (first [node .member (all [sign ".", name]),
      node .call (rule .series), node .call (inBrackets (maybe (rule .arguments)))])
  | .atom =>
    first [name, leaf (.word "True") "True", leaf (.word "False") "False",
      leaf (.word "None") "None", all [ahead text, rule .texts], number,
      all [ahead (sign "("), first [rule .tuple, rule .group, rule .series]],
      all [ahead (sign "\x7b"),
        first [rule .table, rule .set, rule .tableSeries, rule .setSeries]],
      leaf .dots "..."]
  | .group =>
    first [inBrackets (first [rule .yielded, rule .namedValue]),
      checked (rule .wrongGroup)]
  | .texts => Pattern.texts
  | .tuple =>
    node .tuple (inBrackets (maybe (all [rule .item, sign ",", maybe (rule .items)])))
  | .set => node .set (all [sign "\x7b", rule .items, sign "\x7d"])
  | .table =>
    first [node .table (all [sign "\x7b", maybe (rule .entries), sign "\x7d"]),
      all [sign "\x7b", rule .wrongEntries, sign "\x7d"]]
  | .entries => all [separated (rule .entryOrSpread), maybe (sign ",")]
  | .entryOrSpread =>
    first [node .spreadEntry (all [sign "**", rule .bitOr]), rule .entry]
  | .entry => node .entry (all [rule .value, sign ":", rule .value])
  -- series
  | .sources => Pattern.some (rule .source)
  | .source =>
    let rest := [sign "for", rule .targets, sign "in",
      firm (all [rule .anyOf, many (all [sign "if", rule .anyOf])])]
    first [all (sign "async" :: rest), all rest, checked (rule .wrongTarget)]
  | .setSeries =>
    first [node .setSeries (all [sign "\x7b", rule .namedValue, rule .sources, sign "\x7d"]),
      checked (rule .wrongSeries)]
  | .series =>
    first [node .series (inBrackets
      (all [first [rule .naming, all [rule .value, notAhead (sign ":=")]], rule .sources])),
      checked (rule .wrongSeries)]
  | .tableSeries =>
    first [node .tableSeries (all [sign "\x7b", rule .entry, rule .sources, sign "\x7d"]),
      checked (rule .wrongTableSeries)]
  | .targets =>
    first [all [rule .target, notAhead (sign ",")],
      node .tuple (all [rule .target, many (all [sign ",", rule .target]), maybe (sign ",")])]
  | .targetList =>
    first [all [rule .target, Pattern.some (all [sign ",", rule .target]), maybe (sign ",")],
      all [rule .target, sign ","]]
  | .target =>
    first [node .starred (all [sign "*", notAhead (sign "*"), rule .target]),
      rule .plainTarget]
  | .plainTarget =>
    first [build (fun nodes => [.mk .member nodes])
      (all [rule .targetPrimary, sign ".", name, notAhead goesOn]), rule .targetAtom]
  | .targetAtom =>
    first [name, inBrackets (rule .plainTarget),
      node .tuple (inBrackets (maybe (rule .targetList)))]
  | .targetPrimary =>
    grow (all [rule .atom, ahead goesOn])
      (first [node .member (all [sign ".", name, ahead goesOn]),
        node .call (all [rule .series, ahead goesOn]),
        node .call (all [inBrackets (maybe (rule .arguments)), ahead goesOn])])
  -- calls
  | .arguments =>
    first [all [rule .argumentList, maybe (sign ","), ahead (sign ")")],
      checked (rule .wrongArguments)]
  | .argumentList =>
    build (fun nodes => [.ofArguments nodes]) (first
      [all [separated positional, maybe (all [sign ",", rule .namedArguments])],
        rule .namedArguments])
  | .namedArguments =>
    first [all [separated (rule .namedOrSeries), sign ",", separated (rule .namedOrTable)],
      separated (rule .namedOrSeries), separated (rule .namedOrTable)]
  | .spreadSeries =>
    first [node .starred (all [sign "*", rule .value]), wrong .loneStar (sign "*")]
  | .namedOrSeries => first [checked (rule .wrongNamed), namedArgument, rule .spreadSeries]
  | .namedOrTable =>
    first [checked (rule .wrongNamed), namedArgument,
      node .spreadArguments (all [sign "**", rule .value])]
  -- functions
  | .function =>
    node .function
      (all [sign "lambda", maybe (rule .parameters), sign ":", rule .value])
  | .parameters => first [checked (rule .wrongParameters), rule .parameterList]
  | .parameterList =>
    first
      [all [rule .slashPlain, many (rule .plainParameter), many (rule .defaultParameter),
        maybe (rule .starParameters)],
      all [rule .slashDefault, many (rule .defaultParameter), maybe (rule .starParameters)],
      all [Pattern.some (rule .plainParameter), many (rule .defaultParameter),
        maybe (rule .starParameters)],
      all [Pattern.some (rule .defaultParameter), maybe (rule .starParameters)],
      rule .starParameters]
  | .slashPlain => endedParameter (all [Pattern.some (rule .plainParameter), sign "/"])
  | .slashDefault =>
    endedParameter (all
      [many (rule .plainParameter), Pattern.some (rule .defaultParameter), sign "/"])
  | .starParameters =>
    first [checked (rule .wrongStar),
      all [sign "*", rule .plainParameter, many (rule .anyParameter),
        maybe (rule .tableParameter)],
      all [sign "*", sign ",", Pattern.some (rule .anyParameter), maybe (rule .tableParameter)],
      rule .tableParameter]
  | .tableParameter =>
    first [checked (rule .wrongTableParameter), all [sign "**", rule .plainParameter]]
  | .plainParameter => endedParameter (rule .parameter)
  | .defaultParameter => endedParameter (all [rule .parameter, rule .default])
  | .anyParameter => endedParameter (all [rule .parameter, maybe (rule .default)])
  | .parameter => name
  | .default => first [all [sign "=", rule .value], checked (rule .wrongDefault)]
  -- what is wrong with values
  | .wrongValue =>
    first [report lostComma?
        (all [notAhead (first [all [name, text], softWord]), rule .anyOf, rule .uncheckedValue]),
      wrong .missingElse (all [rule .anyOf, sign "if", rule .anyOf,
        notAhead (first [sign "else", sign ":"])])]
  | .oldCall =>
    report (fun nodes _ => (oldName? nodes).map .oldCall)
      (all [name, notAhead (sign "("), rule .starValues])
  | .wrongNaming =>
    first [report (about .cannotName)
        (all [rule .value, sign ":=", rule .value]),
      wrong .setForEqual (all [name, sign "=", rule .bitOr,
        notAhead (first [sign "=", sign ":="])]),
      report (about .cannotSetHere)
        (all [notAhead (first [rule .tuple, rule .series, sign "True", sign "None", sign "False"]),
          rule .bitOr, sign "=", rule .bitOr, notAhead (first [sign "=", sign ":="])])]
  | .wrongGroup =>
    first [wrong .starHere (inBrackets (rule .spreadSeries)),
      wrong .doubleStarHere (inBrackets (all [sign "**", rule .value]))]
  | .wrongEntries =>
    first [all [separated (rule .entryOrSpread), sign ",", rule .wrongEntry],
      starInEntry, valueMissing]
  | .wrongEntry =>
    first [wrong .keyWithoutColon (all [rule .value, notAhead (sign ":")]),
      starInEntry, valueMissing]
  | .wrongSeries =>
    first
      [wrong .starInSeries (all [first [sign "(", sign "\x7b"], rule .spreadSeries,
        rule .sources]),
      wrong .bareSeries (all [sign "\x7b", rule .item, sign ",", rule .items,
        rule .sources]),
      wrong .bareSeries (all [sign "\x7b", rule .item, sign ",",
        rule .sources])]
  | .wrongTableSeries =>
    wrong .doubleStarInSeries
      (all [sign "\x7b", sign "**", rule .bitOr, rule .sources, sign "\x7d"])
  | .wrongTarget =>
    report wrongTarget? (all [maybe (sign "async"), sign "for", rule .starValues])
  -- what is wrong with calls
  | .wrongArguments =>
    first [wrong .starAfterDouble (all
        [first [all [separated positional, sign ",", rule .namedArguments], rule .namedArguments],
          sign ",", separated (all [rule .spreadSeries, notAhead (sign "=")])]),
      wrong .openSeries (all [rule .value, rule .sources, sign ",",
        maybe (first [rule .argumentList, all [rule .value, rule .sources]])]),
      wrong .setForEqual (all [name, sign "=", rule .value, rule .sources]),
      report openAmongOthers? (all [rule .argumentList, rule .sources]),
      wrong .openSeries (all [rule .argumentList, sign ",", rule .value, rule .sources]),
      report plainAfter? (all [rule .argumentList, sign ",", rule .argumentList])]
  | .wrongNamed =>
    first [report (about .cannotSet) (all [first (["True", "False", "None"].map fun word =>
          leaf (.word word) word), sign "="]),
      wrong .setForEqual (all [name, sign "=", rule .value, rule .sources]),
      wrong .setInCall (all [notAhead (all [name, sign "="]), rule .value, sign "="])]
  -- what is wrong with functions
  | .wrongParameters =>
    let slash := first [rule .slashPlain, rule .slashDefault]
    first
      [wrong .plainAfterDefault (all [many (rule .plainParameter), rule .defaultsBefore,
        rule .plainParameter]),
      wrong .bracketedParameters (all [many (rule .plainParameter), sign "(",
        separated (rule .parameter), maybe (sign ","), sign ")"]),
      wrong .slashFirst (all [sign "/", sign ","]),
      wrong .slashTwice (all [slash, many (rule .anyParameter), sign "/"]),
      wrong .slashAfterStar (all [maybe slash, many (rule .anyParameter), sign "*",
        first [sign ",", rule .plainParameter], many (rule .anyParameter), sign "/"]),
      wrong .slashStar (all [Pattern.some (rule .anyParameter), sign "/", sign "*"])]
  | .defaultsBefore =>
    first [rule .slashDefault, Pattern.some (rule .defaultParameter)]
  | .wrongStar =>
    let starred := first [rule .plainParameter, sign ","]
    first
      [wrong .bareStar (all [sign "*", first [sign ":",
        all [sign ",", first [sign ":", sign "**"]]]]),
      wrong .starDefault (all [sign "*", rule .parameter, sign "="]),
      wrong .starTwice (all [sign "*", starred, many (rule .anyParameter), sign "*", starred])]
  | .wrongTableParameter =>
    first [wrong .doubleStarDefault (all [sign "**", rule .parameter, sign "="]),
      wrong .afterDoubleStar (all [sign "**", rule .parameter, sign ",", rule .parameter]),
      wrong .afterDoubleStar (all [sign "**", rule .parameter, sign ",",
        first [sign "*", sign "**", sign "/"]])]
  | .wrongDefault =>
    wrong .missingDefault (all [sign "=", ahead (first [sign ")", sign ","])])

/-- Is it kept what a rule matched in a place? -/
def Rule.isKept (rule : Rule) : Bool :=
  [Rule.value, .starValue, .anyOf, .allOf, .negation, .bitOr, .bitXor, .bitAnd, .shift, .sum,
   .product, .signed, .awaited, .primary, .texts, .arguments, .target, .plainTarget,
   .targetPrimary, .wrongNaming].contains rule

end OrderBy.Command.Argument
