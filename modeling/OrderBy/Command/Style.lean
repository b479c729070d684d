/-
  OrderBy.Command.Style — how shown text is drawn, in words.

  A style is a series of words: attributes (`bold`, or `b` for short; `not`
  before one takes it away), a colour, `on` with the colour behind the text,
  and `link` with an address.  Two series of words mean one style when they are
  the same in `Style.normal`: attributes in a fixed order, then the colours,
  then the link.
-/
import OrderBy.Assignments
import OrderBy.Text.Blank
import OrderBy.Text.Lower
import OrderBy.Text.Number
import OrderBy.Text.Split

namespace OrderBy.Command

/-- **How a text is drawn.** -/
structure Style where
  /-- Attributes that it has or has not. -/
  attributes : List (String × Bool) := []
  /-- The colour of the text. -/
  colour : Option String := none
  /-- The colour behind the text. -/
  background : Option String := none
  /-- The address that the text leads to. -/
  link : Option String := none
  deriving DecidableEq, Repr, Inhabited

namespace Style

/-! ## §1. Words -/

/-- The attributes, in their order. -/
def attributeWords : List String :=
  ["bold", "dim", "italic", "underline", "blink", "blink2", "reverse", "conceal", "strike",
   "underline2", "frame", "encircle", "overline"]

/-- The short words for attributes. -/
def shortWords : List (String × String) :=
  [("b", "bold"), ("d", "dim"), ("i", "italic"), ("u", "underline"), ("r", "reverse"),
   ("c", "conceal"), ("s", "strike"), ("uu", "underline2"), ("o", "overline")]

/-- The attribute of a word. -/
def attribute? (word : String) : Option String :=
  if attributeWords.contains word then some word else shortWords.lookup word

/-- The names of colours. -/
def colourNames : List String :=
  ["aquamarine1", "aquamarine3", "black", "blue", "blue1", "blue3", "blue_violet",
   "bright_black", "bright_blue", "bright_cyan", "bright_green", "bright_magenta", "bright_red",
   "bright_white", "bright_yellow", "cadet_blue", "chartreuse1", "chartreuse2", "chartreuse3",
   "chartreuse4", "cornflower_blue", "cornsilk1", "cyan", "cyan1", "cyan2", "cyan3", "dark_blue",
   "dark_cyan", "dark_goldenrod", "dark_green", "dark_khaki", "dark_magenta",
   "dark_olive_green1", "dark_olive_green2", "dark_olive_green3", "dark_orange", "dark_orange3",
   "dark_red", "dark_sea_green", "dark_sea_green1", "dark_sea_green2", "dark_sea_green3",
   "dark_sea_green4", "dark_slate_gray1", "dark_slate_gray2", "dark_slate_gray3",
   "dark_turquoise", "dark_violet", "deep_pink1", "deep_pink2", "deep_pink3", "deep_pink4",
   "deep_sky_blue1", "deep_sky_blue2", "deep_sky_blue3", "deep_sky_blue4", "dodger_blue1",
   "dodger_blue2", "dodger_blue3", "gold1", "gold3", "gray0", "gray100", "gray11", "gray15",
   "gray19", "gray23", "gray27", "gray3", "gray30", "gray35", "gray37", "gray39", "gray42",
   "gray46", "gray50", "gray53", "gray54", "gray58", "gray62", "gray63", "gray66", "gray69",
   "gray7", "gray70", "gray74", "gray78", "gray82", "gray84", "gray85", "gray89", "gray93",
   "green", "green1", "green3", "green4", "green_yellow", "grey0", "grey100", "grey11", "grey15",
   "grey19", "grey23", "grey27", "grey3", "grey30", "grey35", "grey37", "grey39", "grey42",
   "grey46", "grey50", "grey53", "grey54", "grey58", "grey62", "grey63", "grey66", "grey69",
   "grey7", "grey70", "grey74", "grey78", "grey82", "grey84", "grey85", "grey89", "grey93",
   "honeydew2", "hot_pink", "hot_pink2", "hot_pink3", "indian_red", "indian_red1", "khaki1",
   "khaki3", "light_coral", "light_cyan1", "light_cyan3", "light_goldenrod1", "light_goldenrod2",
   "light_goldenrod3", "light_green", "light_pink1", "light_pink3", "light_pink4",
   "light_salmon1", "light_salmon3", "light_sea_green", "light_sky_blue1", "light_sky_blue3",
   "light_slate_blue", "light_slate_gray", "light_slate_grey", "light_steel_blue",
   "light_steel_blue1", "light_steel_blue3", "light_yellow3", "magenta", "magenta1", "magenta2",
   "magenta3", "medium_orchid", "medium_orchid1", "medium_orchid3", "medium_purple",
   "medium_purple1", "medium_purple2", "medium_purple3", "medium_purple4", "medium_spring_green",
   "medium_turquoise", "medium_violet_red", "misty_rose1", "misty_rose3", "navajo_white1",
   "navajo_white3", "navy_blue", "orange1", "orange3", "orange4", "orange_red1", "orchid",
   "orchid1", "orchid2", "pale_green1", "pale_green3", "pale_turquoise1", "pale_turquoise4",
   "pale_violet_red1", "pink1", "pink3", "plum1", "plum2", "plum3", "plum4", "purple", "purple3",
   "purple4", "red", "red1", "red3", "rosy_brown", "royal_blue1", "salmon1", "sandy_brown",
   "sea_green1", "sea_green2", "sea_green3", "sky_blue1", "sky_blue2", "sky_blue3",
   "slate_blue1", "slate_blue3", "spring_green1", "spring_green2", "spring_green3",
   "spring_green4", "steel_blue", "steel_blue1", "steel_blue3", "tan", "thistle1", "thistle3",
   "turquoise2", "turquoise4", "violet", "wheat1", "wheat4", "white", "yellow", "yellow1",
   "yellow2", "yellow3", "yellow4"]

/-- What stands between a name with an opening bracket and the closing one. -/
def argument? (name : String) (word : List Char) : Option (List Char) :=
  let front := name.toList ++ ['(']
  if front.isPrefixOf word && word.getLast? == some ')' then
    some ((word.drop front.length).dropLast)
  else none

/-- Is a number that of one of the 256 shades or steps? -/
def isOctet (number : Nat) : Bool := number < 256

/-- Are characters the parts of a colour: digits and commas? -/
def areParts (cs : List Char) : Bool :=
  !cs.isEmpty && cs.all fun c => Text.isDecimalDigit c || c == ','

/-- Are parts of red, green and blue those of a colour?  They are read in this order. -/
def isMixed (parts : List Char) : Except Text.NumberError Bool :=
  match Text.pieces [','] parts with
  | [red, green, blue] => do
    let shades ← [red, green, blue].mapM Text.readNumber
    return shades.all isOctet
  | _ => .ok false

/-- Is a word in lower case a colour: by name, by six hexadecimal digits, by number, or by its
parts of red, green and blue? -/
def isColour (word : String) : Except Text.NumberError Bool :=
  if word == "default" || colourNames.contains word then .ok true
  else
    match word.toList with
    | '#' :: digits =>
      .ok (digits.length == 6 && digits.all fun c => c.isDigit || ('a' ≤ c && c ≤ 'f'))
    | cs =>
      match argument? "color" cs, argument? "rgb" cs with
      | some digits, _ =>
        .ok (!digits.isEmpty && digits.length ≤ 3 && digits.all Char.isDigit
          && isOctet (Text.valueOfDigits digits))
      | none, some parts => if areParts parts then isMixed parts else .ok false
      | none, none => .ok false

/-- The colour of a word. -/
def colour? (word : String) : Except Text.NumberError (Option String) := do
  let word := Text.lowerString word
  return if ← isColour word then some word else none

/-! ## §2. Reading -/

/-- The style that words add to one, if they are words of styles.  The words are read in order, up
to the first one that is none. -/
def readFrom (style : Style) : List String → Except Text.NumberError (Option Style)
  | [] => .ok (some style)
  | first :: rest =>
    match Text.lowerString first, rest with
    | "on", word :: rest => do
      match ← colour? word with
      | some colour => readFrom { style with background := some colour } rest
      | none => .ok none
    | "not", word :: rest =>
      match attribute? word with
      | some name =>
        readFrom { style with attributes := Assignments.assign name false style.attributes } rest
      | none => .ok none
    | "link", word :: rest => readFrom { style with link := some word } rest
    | "on", [] | "not", [] | "link", [] => .ok none
    | word, rest =>
      match attribute? word with
      | some name =>
        readFrom { style with attributes := Assignments.assign name true style.attributes } rest
      | none => do
        match ← colour? word with
        | some colour => readFrom { style with colour := some colour } rest
        | none => .ok none

/-- **The style of a text**, if its words are words of styles. -/
def read? (text : List Char) : Except Text.NumberError (Option Style) :=
  readFrom {} ((Text.words text).map String.ofList)

/-! ## §3. Writing -/

/-- The words for the attributes of a style, in their order. -/
def attributeTexts (style : Style) : List String :=
  attributeWords.filterMap fun name =>
    (style.attributes.lookup name).map fun has => if has then name else "not " ++ name

/-- **The words of a style**; one that asks for nothing is `none`. -/
def write (style : Style) : String :=
  let words := style.attributeTexts ++ style.colour.toList
    ++ (style.background.map ("on " ++ ·)).toList ++ (style.link.map ("link " ++ ·)).toList
  if words.isEmpty then "none" else String.intercalate " " words

/-- **The one form of a text that names a style**; any other text is trimmed and put in lower
case. -/
def normal (text : List Char) : Except Text.NumberError String := do
  let trimmed := Text.strip text
  if String.ofList trimmed = "none" then return "none"
  match ← read? text with
  | some style => return style.write
  | none => return String.ofList (Text.lower trimmed)

example : (normal "red  b not i on #FF0000".toList).toOption
    = some "bold not italic red on #ff0000" := by
  decide +kernel

example : (normal "Anything  Else".toList).toOption = some "anything  else" := by decide +kernel

example : (normal "b rgb(1,,2)".toList).toOption = none := by decide +kernel

end Style

end OrderBy.Command
