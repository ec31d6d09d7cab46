import ApiLint.Text.CharacterName
import ApiLint.Text.Word

/-!
# Literals in tags

The argument of a tag that names an action is a literal: a number, a text, a tuple, a set, a table or a
constant.  `isLiteral` says which texts are one.  A literal holds no square bracket, because a tag holds none.
-/

namespace ApiLint.Console.Literal

/-- The shapes of literals, as far as it matters for where they may stand. -/
inductive Shape where
  /-- A real number without a sign. -/
  | real
  /-- A real number with a sign. -/
  | signed
  /-- An imaginary number without a sign. -/
  | imaginary
  /-- Any other literal that can be an entry of a set or a key of a table. -/
  | fixed
  /-- A literal that can be neither, since it can change. -/
  | changeable
deriving DecidableEq

/-- A literal that was read, and the text after it. -/
abbrev Reading := Option (Shape × List Char)

/-- Can the character stand between the parts of a literal? -/
def isGap (c : Char) : Bool := c == ' ' || c == '\t' || c == '\n'

/-- Drop the gap at the start. -/
def skip (cs : List Char) : List Char := cs.dropWhile isGap

/-! ## Numbers -/

/-- Drop digits, between any two of which a low line may stand. -/
def moreDigits (isDigit : Char → Bool) : List Char → List Char
  | [] => []
  | '_' :: d :: rest => if isDigit d then moreDigits isDigit rest else '_' :: d :: rest
  | c :: rest => if isDigit c then moreDigits isDigit rest else c :: rest

/-- Drop at least one digit. -/
def digits? (isDigit : Char → Bool) : List Char → Option (List Char)
  | c :: rest => if isDigit c then some (moreDigits isDigit rest) else none
  | [] => none

/-- Is the character a digit to a base up to sixteen? -/
def isDigitOf (base : Nat) (c : Char) : Bool :=
  let n := c.toNat
  if c.isDigit then n - 0x30 < base
  else base = 16 && ((0x41 ≤ n && n ≤ 0x46) || (0x61 ≤ n && n ≤ 0x66))

/-- The base that a letter after a nought asks for. -/
def baseOf? (c : Char) : Option Nat :=
  if c == 'x' || c == 'X' then some 16
  else if c == 'o' || c == 'O' then some 8
  else if c == 'b' || c == 'B' then some 2
  else none

/-- Drop a sign. -/
def dropSign : List Char → List Char
  | '+' :: rest => rest
  | '-' :: rest => rest
  | cs => cs

/-- Drop a power of ten, if there is one. -/
def dropPower : List Char → List Char
  | c :: rest =>
    if c == 'e' || c == 'E' then (digits? Char.isDigit (dropSign rest)).getD (c :: rest) else c :: rest
  | [] => []

/-- The text after a number that has digits before its point, if it has a point. -/
def afterWhole (cs : List Char) : List Char :=
  match cs with
  | '.' :: rest => dropPower ((digits? Char.isDigit rest).getD rest)
  | _ => dropPower cs

/-- The text after the body of a decimal number. -/
def decimal? (cs : List Char) : Option (List Char) :=
  match cs with
  | '.' :: rest => (digits? Char.isDigit rest).map dropPower
  | _ => (digits? Char.isDigit cs).map afterWhole

/-- Is the text a whole number with a nought before other digits? -/
def hasIdleNought (body : List Char) : Bool :=
  body.head? == some '0' && body.all (fun c => c.isDigit || c == '_') && body.any fun c => c != '0' && c != '_'

/-- Read a decimal number, perhaps an imaginary one. -/
def readDecimal (cs : List Char) : Reading :=
  match decimal? cs with
  | none => none
  | some rest =>
    match rest with
    | 'j' :: after => some (.imaginary, after)
    | 'J' :: after => some (.imaginary, after)
    | _ => if hasIdleNought (cs.take (cs.length - rest.length)) then none else some (.real, rest)

/-- Read a number, which no letter may follow. -/
def readNumber (cs : List Char) : Reading :=
  let reading : Reading := match cs with
    | '0' :: c :: rest =>
      match baseOf? c with
      | some base => (digits? (isDigitOf base) (if rest.head? == some '_' then rest.drop 1 else rest)).map
          fun after => (.real, after)
      | none => readDecimal cs
    | _ => readDecimal cs
  reading.filter fun found => !found.2.head?.any Text.isWordCharacter

/-! ## Texts -/

/-- How a text is written. -/
structure Manner where
  isRaw : Bool
  isBytes : Bool
deriving DecidableEq

/-- The manner that letters before the opening quote ask for. -/
def mannerOf? (letters : List Char) : Option Manner :=
  let word := String.ofList (letters.map Char.toLower)
  if word = "" ∨ word = "u" then some ⟨false, false⟩
  else if word = "r" then some ⟨true, false⟩
  else if word = "b" then some ⟨false, true⟩
  else if word = "br" ∨ word = "rb" then some ⟨true, true⟩
  else none

/-- Does the text start with so many digits to the base sixteen, and do they name a character? -/
def startsCode (count : Nat) (cs : List Char) : Bool :=
  let digits := cs.take count
  digits.length == count && digits.all (isDigitOf 16)
    && (count != 8 || digits.take 2 == ['0', '0'] && (digits.drop 2).take 2 != ['1', '1']
      && ((digits.drop 2).head? == some '0' || (digits.drop 2).take 2 == ['1', '0']))

/-- Is what follows a backslash an escape that can be read? -/
def isEscape (isBytes : Bool) (c : Char) (rest : List Char) : Bool :=
  if c == 'x' then startsCode 2 rest
  else if isBytes then true
  else if c == 'u' then startsCode 4 rest
  else if c == 'U' then startsCode 8 rest
  else if c == 'N' then
    rest.head? == some '\x7b' && rest.contains '\x7d'
      && (Text.characterNamed? (String.ofList ((rest.drop 1).takeWhile (· != '\x7d')))).isSome
  else true

/-- The text after the closing quotes of a text whose opening ones were read. -/
def afterQuotes? (manner : Manner) (quotes : List Char) : List Char → Option (List Char)
  | [] => none
  | c :: rest =>
    if quotes.isPrefixOf (c :: rest) then some ((c :: rest).drop quotes.length)
    else if c == '\\' then
      match rest with
      | [] => none
      | d :: rest =>
        if manner.isRaw || isEscape manner.isBytes d rest then afterQuotes? manner quotes rest else none
    else if (c == '\n' && quotes.length == 1) || (manner.isBytes && 128 ≤ c.toNat) then none
    else afterQuotes? manner quotes rest

/-- The quotes that open a text: three or one. -/
def openingQuotes? : List Char → Option (List Char)
  | [] => none
  | c :: rest =>
    if c == '"' || c == '\'' then some (if rest.take 2 == [c, c] then [c, c, c] else [c]) else none

/-- Read one text: is it made of bytes, and what follows? -/
def readText (cs : List Char) : Option (Bool × List Char) :=
  let letters := cs.takeWhile Char.isAlpha
  let body := cs.drop letters.length
  match mannerOf? letters, openingQuotes? body with
  | some manner, some quotes =>
    (afterQuotes? manner quotes (body.drop quotes.length)).map fun rest => (manner.isBytes, rest)
  | _, _ => none

/-- Read further texts of one manner that follow a text. -/
def readTexts (fuel : Nat) (isBytes : Bool) (cs : List Char) : Reading :=
  match fuel with
  | 0 => none
  | fuel + 1 =>
    match readText (skip cs) with
    | some (more, rest) => if more == isBytes then readTexts fuel isBytes rest else none
    | none => some (.fixed, cs)

/-! ## Constants -/

/-- Read a name. -/
def readName (cs : List Char) : Reading :=
  let name := String.ofList (cs.takeWhile Text.isWordCharacter)
  let rest := cs.dropWhile Text.isWordCharacter
  if name = "True" ∨ name = "False" ∨ name = "None" then some (.fixed, rest)
  else if name = "set" then
    match skip rest with
    | '(' :: inside =>
      match skip inside with
      | ')' :: after => some (.changeable, after)
      | _ => none
    | _ => none
  else none

/-! ## All literals -/

/-- The literal with a sign before it. -/
def withSign : Shape → Option Shape
  | .real => some .signed
  | .imaginary => some .fixed
  | _ => none

/-- The sum of two literals. -/
def sum : Shape → Shape → Option Shape
  | .real, .imaginary => some .fixed
  | .signed, .imaginary => some .fixed
  | _, _ => none

/-- A tuple of two parts. -/
def join (first second : Shape) : Shape :=
  if first = .changeable ∨ second = .changeable then .changeable else .fixed

mutual

/-- Read a literal: a number with or without a sign, a sum or anything else. -/
def readLiteral (fuel : Nat) (cs : List Char) : Reading :=
  match fuel with
  | 0 => none
  | fuel + 1 =>
    match readSigned fuel (skip cs) with
    | none => none
    | some (shape, rest) =>
      match skip rest with
      | c :: after =>
        if c == '+' || c == '-' then
          match readSimple fuel (skip after) with
          | some (second, rest) => (sum shape second).map fun shape => (shape, rest)
          | none => none
        else some (shape, c :: after)
      | [] => some (shape, [])

/-- Read a literal that may have a sign. -/
def readSigned (fuel : Nat) (cs : List Char) : Reading :=
  match fuel with
  | 0 => none
  | fuel + 1 =>
    match cs with
    | [] => none
    | c :: rest =>
      if c == '+' || c == '-' then
        match readSimple fuel (skip rest) with
        | some (shape, rest) => (withSign shape).map fun shape => (shape, rest)
        | none => none
      else readSimple fuel cs

/-- Read a literal without a sign. -/
def readSimple (fuel : Nat) (cs : List Char) : Reading :=
  match fuel with
  | 0 => none
  | fuel + 1 =>
    match cs with
    | '(' :: rest =>
      match readItems fuel ')' (skip rest) with
      | some (some shape, isTuple, after) => some (if isTuple then join shape .fixed else shape, after)
      | some (none, _, after) => some (.fixed, after)
      | none => none
    | '\x7b' :: rest => readBraces fuel (skip rest)
    | '.' :: '.' :: '.' :: rest => some (.fixed, rest)
    | _ =>
      match readText cs with
      | some (isBytes, rest) => readTexts cs.length isBytes rest
      | none => (readNumber cs).or (readName cs)

/-- Read literals between commas up to a closing mark: the shape of what they make together, if there are
any, whether there is a comma, and the text after the mark. -/
def readItems (fuel : Nat) (closing : Char) (cs : List Char) : Option (Option Shape × Bool × List Char) :=
  match fuel with
  | 0 => none
  | fuel + 1 =>
    if cs.head? == some closing then some (none, false, cs.drop 1)
    else
      match readLiteral fuel cs with
      | none => none
      | some (shape, rest) =>
        match skip rest with
        | ',' :: rest =>
          match readItems fuel closing (skip rest) with
          | some (none, _, after) => some (some shape, true, after)
          | some (some more, _, after) => some (some (join shape more), true, after)
          | none => none
        | c :: rest => if c == closing then some (some shape, false, rest) else none
        | [] => none

/-- Read a set or a table whose opening brace was read; its entries or keys must not change. -/
def readBraces (fuel : Nat) (cs : List Char) : Reading :=
  match fuel with
  | 0 => none
  | fuel + 1 =>
    if cs.head? == some '\x7d' then some (.changeable, cs.drop 1)
    else
      match readLiteral fuel cs with
      | some (.changeable, _) => none
      | some (_, rest) =>
        match skip rest with
        | ':' :: _ => readEntries fuel cs
        | _ =>
          match readItems fuel '\x7d' cs with
          | some (some .changeable, _, _) => none
          | some (some _, _, after) => some (.changeable, after)
          | _ => none
      | none => none

/-- Read the entries of a table up to its closing brace. -/
def readEntries (fuel : Nat) (cs : List Char) : Reading :=
  match fuel with
  | 0 => none
  | fuel + 1 =>
    if cs.head? == some '\x7d' then some (.changeable, cs.drop 1)
    else
      match readLiteral fuel cs with
      | some (.changeable, _) => none
      | some (_, rest) =>
        match skip rest with
        | ':' :: rest =>
          match readLiteral fuel (skip rest) with
          | none => none
          | some (_, rest) =>
            match skip rest with
            | ',' :: rest => readEntries fuel (skip rest)
            | '\x7d' :: after => some (.changeable, after)
            | _ => none
        | _ => none
      | none => none

end

/-- Is the text a literal?  A tuple needs no parentheses around it. -/
def isLiteral (cs : List Char) : Bool :=
  let cs := skip cs
  match readItems (8 * cs.length + 8) ')' (cs ++ [')']) with
  | some (some _, _, []) => true
  | _ => false

end ApiLint.Console.Literal
