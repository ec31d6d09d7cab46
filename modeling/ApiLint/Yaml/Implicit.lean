import ApiLint.Yaml.Tree

/-!
# What a plain text means

A plain text without a tag is a truth value, a number, a time, nothing, a mark of merging, or else a
string, depending on how it is written.  Numbers may hold low lines, and those with colons are written to
the base sixty.
-/

namespace ApiLint.Yaml

/-- The meaning of a scalar. -/
inductive ScalarKind where
  | null
  | bool
  | int
  | float
  | time
  | merge
  /-- A lone equals sign. -/
  | value
  | str
  | binary
deriving DecidableEq

namespace ScalarKind

/-- The name of a tag after the standard start. -/
def ofTagName? : String → Option ScalarKind
  | "null" => some .null
  | "bool" => some .bool
  | "int" => some .int
  | "float" => some .float
  | "timestamp" => some .time
  | "merge" => some .merge
  | "value" => some .value
  | "str" => some .str
  | "binary" => some .binary
  | _ => none

end ScalarKind

/-! ## Parts of written numbers -/

/-- Drop a sign. -/
def dropSign : List Char → List Char
  | '+' :: rest => rest
  | '-' :: rest => rest
  | cs => cs

/-- Is the text not empty and all of it of one kind? -/
def isAll (p : Char → Bool) (cs : List Char) : Bool := !cs.isEmpty && cs.all p

/-- A digit or a low line. -/
def isDigitOrLine (c : Char) : Bool := Text.isAsciiDigit c || c == '_'

/-- A digit, then digits and low lines. -/
def startsWithDigit : List Char → Bool
  | c :: rest => Text.isAsciiDigit c && rest.all isDigitOrLine
  | [] => false

/-- A digit other than zero, then digits and low lines. -/
def startsWithNonzero (cs : List Char) : Bool := startsWithDigit cs && cs.head? != some '0'

/-- One digit, or two of which the first is less than six. -/
def isSixtieth : List Char → Bool
  | [c] => Text.isAsciiDigit c
  | [c, d] => '0' ≤ c && c ≤ '5' && Text.isAsciiDigit d
  | _ => false

/-- Split at every colon. -/
def colonParts (cs : List Char) : List (List Char) :=
  match cs with
  | [] => [[]]
  | ':' :: rest => [] :: colonParts rest
  | c :: rest =>
    match colonParts rest with
    | part :: parts => (c :: part) :: parts
    | [] => [[c]]

/-- Nothing, or an exponent with its sign. -/
def isExponentOrEmpty : List Char → Bool
  | [] => true
  | e :: sign :: digits =>
    (e == 'e' || e == 'E') && (sign == '+' || sign == '-') && isAll Text.isAsciiDigit digits
  | _ => false

/-! ## How values are written -/

/-- Is this a truth value? -/
def isBoolText (s : String) : Bool :=
  ["yes", "Yes", "YES", "no", "No", "NO", "true", "True", "TRUE", "false", "False", "FALSE", "on", "On",
    "ON", "off", "Off", "OFF"].contains s

/-- Is this the text of nothing? -/
def isNullText (s : String) : Bool := ["~", "null", "Null", "NULL", ""].contains s

/-- A number to the base sixty before an optional point; `first` tests the part before the first colon. -/
def isSexagesimal (first : List Char → Bool) (cs : List Char) : Bool :=
  match colonParts cs with
  | part :: more => first part && !more.isEmpty && more.all isSixtieth
  | [] => false

/-- Is this an integer? -/
def isIntText (cs : List Char) : Bool :=
  let body := dropSign cs
  (match body with
    | '0' :: 'b' :: rest => isAll (fun c => c == '0' || c == '1' || c == '_') rest
    | '0' :: 'x' :: rest => isAll (fun c => (Text.hexValue? c).isSome || c == '_') rest
    | ['0'] => true
    | '0' :: rest => rest.all fun c => ('0' ≤ c && c ≤ '7') || c == '_'
    | _ => false)
  || startsWithNonzero body
  || isSexagesimal startsWithNonzero body

/-- Is this a number with a point? -/
def isFloatText (cs : List Char) : Bool :=
  let body := dropSign cs
  let whole := body.takeWhile (· != '.')
  match body.dropWhile (· != '.') with
  | '.' :: fraction =>
    (startsWithDigit whole && isExponentOrEmpty (fraction.dropWhile isDigitOrLine))
      || (isSexagesimal startsWithDigit whole && fraction.all isDigitOrLine)
      || (whole.isEmpty && [['i', 'n', 'f'], ['I', 'n', 'f'], ['I', 'N', 'F']].contains fraction)
      || (whole.isEmpty && body == cs
        && ([['n', 'a', 'n'], ['N', 'a', 'N'], ['N', 'A', 'N']].contains fraction
          || (startsWithDigit (fraction.takeWhile isDigitOrLine)
            && isExponentOrEmpty (fraction.dropWhile isDigitOrLine))))
  | _ => false

/-! ## Times -/

/-- The numbers of a written time. -/
structure TimeText where
  year : Nat
  month : Nat
  day : Nat
  /-- Hour, minute, second and the digits of the fraction, if there is a time of day. -/
  clock : Option (Nat × Nat × Nat × List Char)
  /-- The offset from universal time in minutes. -/
  offset : Option Int
deriving DecidableEq

/-- Read between `least` and two digits. -/
def shortNumber? (least : Nat) (cs : List Char) : Option (Nat × List Char) :=
  let digits := (cs.take 2).takeWhile Text.isAsciiDigit
  if digits.length < least then none else some (Text.numeral digits, cs.drop digits.length)

/-- Read a given character. -/
def expect? (c : Char) : List Char → Option (List Char)
  | d :: rest => if c = d then some rest else none
  | [] => none

/-- A blank or a tab. -/
def isSpaceOrTab (c : Char) : Bool := c == ' ' || c == '\t'

/-- Read an offset at the end of a time: nothing, `Z`, or a sign with hours and perhaps minutes. -/
def offset? (cs : List Char) : Option (Option Int) :=
  match cs with
  | [] => some none
  | _ =>
    match cs.dropWhile isSpaceOrTab with
    | ['Z'] => some (some 0)
    | sign :: rest =>
      if sign == '+' || sign == '-' then
        match shortNumber? 1 rest with
        | none => none
        | some (hours, after) =>
          let minutes? : Option Nat := match after with
            | [] => some 0
            | [':', a, b] =>
              if Text.isAsciiDigit a && Text.isAsciiDigit b then some (Text.numeral [a, b]) else none
            | _ => none
          minutes?.map fun minutes =>
            let total := Int.ofNat (hours * 60 + minutes)
            some (if sign == '-' then -total else total)
      else none
    | [] => none

/-- Read a time of day and an offset. -/
def clock? (cs : List Char) : Option ((Nat × Nat × Nat × List Char) × Option Int) := do
  let (hour, cs) ← shortNumber? 1 cs
  let cs ← expect? ':' cs
  let (minute, cs) ← shortNumber? 2 cs
  let cs ← expect? ':' cs
  let (second, cs) ← shortNumber? 2 cs
  let (fraction, cs) := match cs with
    | '.' :: rest => (rest.takeWhile Text.isAsciiDigit, rest.dropWhile Text.isAsciiDigit)
    | cs => ([], cs)
  let offset ← offset? cs
  pure ((hour, minute, second, fraction), offset)

/-- Go past what separates a date from a time of day: the letter T, or blanks. -/
def dateGap? : List Char → Option (List Char)
  | c :: rest =>
    if c == 'T' || c == 't' then some rest
    else if isSpaceOrTab c then some (rest.dropWhile isSpaceOrTab)
    else none
  | [] => none

/-- One line feed at the end of a text does not count for its meaning, unless it is all there is. -/
def dropFinalBreak (cs : List Char) : List Char :=
  if cs.getLast? = some '\n' ∧ cs.length ≠ 1 then cs.dropLast else cs

/-- Read a time: a date, perhaps with a time of day. -/
def wholeTimeText? (cs : List Char) : Option TimeText := do
  let year := cs.take 4
  guard (year.length = 4 && year.all Text.isAsciiDigit)
  let cs ← expect? '-' (cs.drop 4)
  let (month, afterMonth) ← shortNumber? 1 cs
  let rest ← expect? '-' afterMonth
  let (day, rest') ← shortNumber? 1 rest
  match rest' with
  | [] => pure ⟨Text.numeral year, month, day, none, none⟩
  | _ =>
    let (clock, offset) ← clock? (← dateGap? rest')
    pure ⟨Text.numeral year, month, day, some clock, offset⟩

/-- Read a time that may end in a line feed. -/
def timeText? (text : List Char) : Option TimeText := wholeTimeText? (dropFinalBreak text)

/-- Is a text a time when it is written without a tag?  A date alone has two digits for month and day. -/
def isTimeText (cs : List Char) : Bool :=
  match wholeTimeText? cs with
  | some t => t.clock.isSome || cs.length == 10
  | none => false

/-- The meaning of a plain text. -/
def ScalarKind.ofPlain (text : String) : ScalarKind :=
  let cs := dropFinalBreak text.toList
  let s := String.ofList cs
  if isBoolText s then .bool
  else if isFloatText cs then .float
  else if isIntText cs then .int
  else if s = "<<" then .merge
  else if isNullText s then .null
  else if isTimeText cs then .time
  else if s = "=" then .value
  else .str

end ApiLint.Yaml
