import ApiLint.Pointer.Segment
import ApiLint.Text.Blank
import ApiLint.Text.Digit
import ApiLint.Text.LetterCase

/-!
# Styles

A style is written as words in any order: attributes, each perhaps after `not`, a colour, a colour for the
ground after `on`, and a link.  Of several words for one thing the last one counts.  Two texts name one style
if their styles have the same normal form; a text that is no style names itself.
-/

namespace ApiLint.Console

/-! ## Attributes -/

/-- What a style may turn on or off. -/
inductive Attribute where
  | bold
  | dim
  | italic
  | underline
  | blink
  | fastBlink
  | reverse
  | conceal
  | strike
  | doubleUnderline
  | frame
  | encircle
  | overline
deriving DecidableEq

namespace Attribute

/-- All attributes, in the order of normal forms. -/
def all : List Attribute :=
  [bold, dim, italic, underline, blink, fastBlink, reverse, conceal, strike, doubleUnderline, frame,
    encircle, overline]

/-- The name of an attribute in normal forms. -/
def name : Attribute → String
  | bold => "bold"
  | dim => "dim"
  | italic => "italic"
  | underline => "underline"
  | blink => "blink"
  | fastBlink => "blink2"
  | reverse => "reverse"
  | conceal => "conceal"
  | strike => "strike"
  | doubleUnderline => "underline2"
  | frame => "frame"
  | encircle => "encircle"
  | overline => "overline"

/-- The short names of attributes. -/
def shortNames : List (String × Attribute) :=
  [("d", dim), ("b", bold), ("i", italic), ("u", underline), ("r", reverse), ("c", conceal), ("s", strike),
    ("uu", doubleUnderline), ("o", overline)]

/-- The attribute with a name or a short name. -/
def named? (word : String) : Option Attribute :=
  (all.find? fun a => a.name = word).or (shortNames.lookup word)

end Attribute

/-! ## Colours -/

/-- Lines of names of colours. -/
def colourLines : List String := [
  "aquamarine1 aquamarine3 black blue blue1 blue3 blue_violet bright_black bright_blue bright_cyan",
  "bright_green bright_magenta bright_red bright_white bright_yellow cadet_blue chartreuse1 chartreuse2",
  "chartreuse3 chartreuse4 cornflower_blue cornsilk1 cyan cyan1 cyan2 cyan3 dark_blue dark_cyan",
  "dark_goldenrod dark_green dark_khaki dark_magenta dark_olive_green1 dark_olive_green2",
  "dark_olive_green3 dark_orange dark_orange3 dark_red dark_sea_green dark_sea_green1 dark_sea_green2",
  "dark_sea_green3 dark_sea_green4 dark_slate_gray1 dark_slate_gray2 dark_slate_gray3 dark_turquoise",
  "dark_violet deep_pink1 deep_pink2 deep_pink3 deep_pink4 deep_sky_blue1 deep_sky_blue2 deep_sky_blue3",
  "deep_sky_blue4 dodger_blue1 dodger_blue2 dodger_blue3 gold1 gold3 gray0 gray100 gray11 gray15 gray19",
  "gray23 gray27 gray3 gray30 gray35 gray37 gray39 gray42 gray46 gray50 gray53 gray54 gray58 gray62",
  "gray63 gray66 gray69 gray7 gray70 gray74 gray78 gray82 gray84 gray85 gray89 gray93 green green1 green3",
  "green4 green_yellow grey0 grey100 grey11 grey15 grey19 grey23 grey27 grey3 grey30 grey35 grey37 grey39",
  "grey42 grey46 grey50 grey53 grey54 grey58 grey62 grey63 grey66 grey69 grey7 grey70 grey74 grey78",
  "grey82 grey84 grey85 grey89 grey93 honeydew2 hot_pink hot_pink2 hot_pink3 indian_red indian_red1",
  "khaki1 khaki3 light_coral light_cyan1 light_cyan3 light_goldenrod1 light_goldenrod2 light_goldenrod3",
  "light_green light_pink1 light_pink3 light_pink4 light_salmon1 light_salmon3 light_sea_green",
  "light_sky_blue1 light_sky_blue3 light_slate_blue light_slate_gray light_slate_grey light_steel_blue",
  "light_steel_blue1 light_steel_blue3 light_yellow3 magenta magenta1 magenta2 magenta3 medium_orchid",
  "medium_orchid1 medium_orchid3 medium_purple medium_purple1 medium_purple2 medium_purple3",
  "medium_purple4 medium_spring_green medium_turquoise medium_violet_red misty_rose1 misty_rose3",
  "navajo_white1 navajo_white3 navy_blue orange1 orange3 orange4 orange_red1 orchid orchid1 orchid2",
  "pale_green1 pale_green3 pale_turquoise1 pale_turquoise4 pale_violet_red1 pink1 pink3 plum1 plum2 plum3",
  "plum4 purple purple3 purple4 red red1 red3 rosy_brown royal_blue1 salmon1 sandy_brown sea_green1",
  "sea_green2 sea_green3 sky_blue1 sky_blue2 sky_blue3 slate_blue1 slate_blue3 spring_green1",
  "spring_green2 spring_green3 spring_green4 steel_blue steel_blue1 steel_blue3 tan thistle1 thistle3",
  "turquoise2 turquoise4 violet wheat1 wheat4 white yellow yellow1 yellow2 yellow3 yellow4"]

/-- Why a text is no style. -/
inductive StyleError where
  /-- It has a word that means nothing. -/
  | unknown
  /-- It mixes a colour from three parts, and one of them is empty. -/
  | emptyPart
deriving DecidableEq

/-- Is the character a digit to the base sixteen in small letters? -/
def isHexDigit (c : Char) : Bool := c.isDigit || ('a' ≤ c && c ≤ 'f')

/-- What stands between a word with an opening parenthesis and a closing one at the end. -/
def argument? (word : String) (cs : List Char) : Option (List Char) :=
  let start := word.toList ++ ['(']
  if start.isPrefixOf cs ∧ cs.getLast? = some ')' ∧ start.length < cs.length then
    some ((cs.drop start.length).dropLast)
  else none

/-- The number that decimal digits write. -/
def partValue (digits : List Char) : Nat :=
  digits.foldl (fun n c => 10 * n + (Text.digitValue? c).getD 0) 0

/-- Check a colour from three parts, each up to 255. -/
def checkMixed (body : List Char) : Except StyleError Unit :=
  let parts := Segment.splitAt ',' body
  if body.isEmpty ∨ ¬ body.all (fun c => Text.isDecimalDigit c || c == ',') ∨ parts.length ≠ 3 then
    .error .unknown
  else if parts.any (·.isEmpty) then .error .emptyPart
  else if parts.all (partValue · ≤ 255) then .ok ()
  else .error .unknown

/-- Check a word for a colour: a name, six digits to the base sixteen, a number or three parts. -/
def checkColour (word : String) : Except StyleError Unit :=
  let cs := word.toList
  if word = "default" ∨ colourLines.any (fun line => (Segment.splitAt ' ' line.toList).contains cs) then
    .ok ()
  else if cs.head? = some '#' ∧ cs.length = 7 ∧ (cs.drop 1).all isHexDigit then .ok ()
  else
    match argument? "color" cs, argument? "rgb" cs with
    | some digits, _ =>
      if 1 ≤ digits.length ∧ digits.length ≤ 3 ∧ digits.all Char.isDigit ∧ partValue digits ≤ 255 then
        .ok ()
      else .error .unknown
    | none, some body => checkMixed body
    | none, none => .error .unknown

/-! ## Styles -/

/-- What a text asks for. -/
structure Style where
  attributes : List (Attribute × Bool)
  colour : Option String
  ground : Option String
  link : Option String
deriving DecidableEq

namespace Style

/-- The style that changes nothing. -/
def plain : Style := ⟨[], none, none, none⟩

/-- A style with an attribute on or off. -/
def withAttribute (style : Style) (aspect : Attribute) (isOn : Bool) : Style :=
  { style with attributes := (aspect, isOn) :: style.attributes }

/-- A text in small letters. -/
def small (s : String) : String := String.ofList (Text.smallLetters s.toList)

/-- Read the words of a style on top of another one. -/
def ofWords (style : Style) : List String → Except StyleError Style
  | [] => .ok style
  | [word] =>
    match Attribute.named? (small word) with
    | some aspect => .ok (style.withAttribute aspect true)
    | none =>
      match checkColour (small word) with
      | .ok () => .ok { style with colour := some (small word) }
      | .error e => .error e
  | word :: next :: rest =>
    if small word = "on" then
      match checkColour (small next) with
      | .ok () => ofWords { style with ground := some (small next) } rest
      | .error e => .error e
    else if small word = "not" then
      match Attribute.named? next with
      | some aspect => ofWords (style.withAttribute aspect false) rest
      | none => .error .unknown
    else if small word = "link" then ofWords { style with link := some next } rest
    else
      match Attribute.named? (small word) with
      | some aspect => ofWords (style.withAttribute aspect true) (next :: rest)
      | none =>
        match checkColour (small word) with
        | .ok () => ofWords { style with colour := some (small word) } (next :: rest)
        | .error e => .error e

/-- The words for an attribute of a style; the last word about it comes first. -/
def attributeWords (style : Style) (aspect : Attribute) : List String :=
  match style.attributes.lookup aspect with
  | some true => [aspect.name]
  | some false => ["not", aspect.name]
  | none => []

/-- The words of a style in normal form. -/
def words (style : Style) : List String :=
  Attribute.all.flatMap style.attributeWords ++ style.colour.toList
    ++ (match style.ground with
        | some colour => ["on", colour]
        | none => [])
    ++ (match style.link with
        | some target => ["link", target]
        | none => [])

/-- The words of a text, which blanks part. -/
def split (cs : List Char) : List String :=
  ((cs.splitOnP Text.isBlank).filter (!·.isEmpty)).map String.ofList

/-- The normal form of the style that a text names; a text that is no style is its own, without the blanks
around it and in small letters. -/
def normalForm (cs : List Char) : Except StyleError String :=
  match ofWords plain (split cs) with
  | .ok style => .ok (" ".intercalate style.words)
  | .error .unknown => .ok (String.ofList (Text.smallLetters (Text.trimChars cs)))
  | .error .emptyPart => .error .emptyPart

end Style

end ApiLint.Console
