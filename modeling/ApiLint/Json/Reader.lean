import ApiLint.Node.Basic
import ApiLint.Number.Numeral

/-!
# Reading JSON text

One value between blanks, read by recursive descent.  A text that is not JSON is refused with the first
fault and its place; besides JSON proper the three numbers `NaN`, `Infinity` and `-Infinity` are accepted.
Integers are exact but have at most `digitLimit` digits.

A reading function stops with the text that was left, so places are counted only once, in `Fault.locate`.
-/

namespace ApiLint.Json

/-- What is wrong with a text that is not JSON. -/
inductive Problem where
  | value
  | propertyName
  | colon
  | comma
  | extraData
  | unterminatedString
  | controlCharacter
  | invalidEscape
  | invalidUnicodeEscape
  | byteOrderMark
deriving DecidableEq

/-- The wording of a problem. -/
def Problem.message : Problem → String
  | .value => "Expecting value"
  | .propertyName => "Expecting property name enclosed in double quotes"
  | .colon => "Expecting ':' delimiter"
  | .comma => "Expecting ',' delimiter"
  | .extraData => "Extra data"
  | .unterminatedString => "Unterminated string starting at"
  | .controlCharacter => "Invalid control character at"
  | .invalidEscape => "Invalid \\escape"
  | .invalidUnicodeEscape => "Invalid \\uXXXX escape"
  | .byteOrderMark => "Unexpected UTF-8 BOM (decode using utf-8-sig)"

/-- A problem at a place; lines and columns count from one, characters from zero. -/
structure Fault where
  problem : Problem
  line : Nat
  column : Nat
  position : Nat
deriving DecidableEq

/-- The fault of a text whose part from the fault on is `rest`. -/
def Fault.locate (text rest : List Char) (problem : Problem) : Fault :=
  let before := text.take (text.length - rest.length)
  { problem
    line := before.count '\n' + 1
    column := (before.reverse.takeWhile (· ≠ '\n')).length + 1
    position := before.length }

/-- The wording of a fault. -/
def Fault.message (f : Fault) : String :=
  f.problem.message ++ ": line " ++ toString f.line ++ " column " ++ toString f.column
    ++ " (char " ++ toString f.position ++ ")"

/-- Why reading ended without a value. -/
inductive ReadError where
  | malformed (fault : Fault)
  | longNumeral (error : LongNumeral)
deriving DecidableEq

/-- Why reading stopped, with the text from the fault on. -/
inductive Stop where
  | malformed (problem : Problem) (rest : List Char)
  | longNumeral (error : LongNumeral)
deriving DecidableEq

/-- The outcome of reading a part: what was read and the text after it. -/
abbrev Step (α : Type) := Except Stop (α × List Char)

/-- The four blanks of JSON. -/
def isBlank (c : Char) : Bool := c == ' ' || c == '\t' || c == '\n' || c == '\r'

/-- Drop blanks at the start. -/
def skipBlanks (cs : List Char) : List Char := cs.dropWhile isBlank

/-! ## Strings -/

/-- A piece of a string: a character, or a 16-bit unit given by its number. -/
inductive Piece where
  | char (c : Char)
  | unit (n : Nat)
deriving DecidableEq

/-- The character after a backslash that stands for one character. -/
def shortEscape? : Char → Option Char
  | '"' => some '"'
  | '\\' => some '\\'
  | '/' => some '/'
  | 'b' => some '\x08'
  | 'f' => some '\x0c'
  | 'n' => some '\n'
  | 'r' => some '\r'
  | 't' => some '\t'
  | _ => none

/-- The unit written by four hexadecimal digits. -/
def unit? (a b c d : Char) : Option Nat := do
  let a ← Text.hexValue? a
  let b ← Text.hexValue? b
  let c ← Text.hexValue? c
  let d ← Text.hexValue? d
  pure (((a * 16 + b) * 16 + c) * 16 + d)

/-- Put a piece before what was read. -/
def consPiece (p : Piece) : Step (List Piece) → Step (List Piece)
  | .ok (ps, rest) => .ok (p :: ps, rest)
  | .error e => .error e

/-- Read a string up to its closing quote; `opening` is the text from the opening quote on. -/
def readPieces (opening : List Char) : List Char → Step (List Piece)
  | [] => .error (.malformed .unterminatedString opening)
  | '"' :: rest => .ok ([], rest)
  | ['\\'] => .error (.malformed .unterminatedString opening)
  | '\\' :: 'u' :: a :: b :: c :: d :: rest =>
    match unit? a b c d, rest with
    | some n, _ :: _ => consPiece (.unit n) (readPieces opening rest)
    | _, _ => .error (.malformed .invalidUnicodeEscape ('u' :: a :: b :: c :: d :: rest))
  | '\\' :: 'u' :: rest => .error (.malformed .invalidUnicodeEscape ('u' :: rest))
  | '\\' :: c :: rest =>
    match shortEscape? c with
    | some x => consPiece (.char x) (readPieces opening rest)
    | none => .error (.malformed .invalidEscape ('\\' :: c :: rest))
  | c :: rest =>
    if c < ' ' then .error (.malformed .controlCharacter (c :: rest))
    else consPiece (.char c) (readPieces opening rest)

/-- Is the number the first half of a surrogate pair? -/
def isHighSurrogate (n : Nat) : Bool := 0xd800 ≤ n && n < 0xdc00

/-- Is the number the second half of a surrogate pair? -/
def isLowSurrogate (n : Nat) : Bool := 0xdc00 ≤ n && n < 0xe000

/--
The character of a unit outside the surrogates.  A lone surrogate is no character and is replaced, so strings that
differ by lone surrogates alone are one node.
-/
def unitChar (n : Nat) : Char :=
  if isHighSurrogate n || isLowSurrogate n then '\ufffd' else Char.ofNat n

/-- The characters of a string: two units that are a surrogate pair are one character. -/
def joinPieces : List Piece → List Char
  | [] => []
  | .char c :: rest => c :: joinPieces rest
  | [.unit n] => [unitChar n]
  | .unit n :: .char c :: rest => unitChar n :: c :: joinPieces rest
  | .unit n :: .unit m :: rest =>
    if isHighSurrogate n && isLowSurrogate m then
      Char.ofNat (0x10000 + (n - 0xd800) * 0x400 + (m - 0xdc00)) :: joinPieces rest
    else unitChar n :: joinPieces (.unit m :: rest)

/-- Read a string after its opening quote. -/
def readString (opening cs : List Char) : Step String :=
  match readPieces opening cs with
  | .ok (ps, rest) => .ok (String.ofList (joinPieces ps), rest)
  | .error e => .error e

/-! ## Numbers -/

/-- The digits at the start of a text and the text after them. -/
def spanDigits (cs : List Char) : List Char × List Char :=
  (cs.takeWhile Text.isAsciiDigit, cs.dropWhile Text.isAsciiDigit)

/-- The digits before the point: a zero alone, or digits that start with another one. -/
def integerPart? : List Char → Option (List Char × List Char)
  | '0' :: rest => some (['0'], rest)
  | cs =>
    match spanDigits cs with
    | ([], _) => none
    | part => some part

/-- The digits after a point, if there are any. -/
def fractionPart : List Char → List Char × List Char
  | '.' :: rest =>
    match spanDigits rest with
    | ([], _) => ([], '.' :: rest)
    | part => part
  | cs => ([], cs)

/-- The exponent after the letter `e`, if there is one. -/
def exponentPart (cs : List Char) : Option Int × List Char :=
  let digitsAfter (negative : Bool) (rest : List Char) : Option Int × List Char :=
    match spanDigits rest with
    | ([], _) => (none, cs)
    | (digits, after) =>
      let n := Int.ofNat (Text.numeral digits)
      (some (if negative then -n else n), after)
  match cs with
  | c :: rest =>
    if c == 'e' || c == 'E' then
      match rest with
      | '+' :: more => digitsAfter false more
      | '-' :: more => digitsAfter true more
      | more => digitsAfter false more
    else (none, cs)
  | [] => (none, [])

/-- Read a number; without a fraction and an exponent it is an integer. -/
def readNumber (cs : List Char) : Step Node :=
  let (negative, unsigned) := match cs with
    | '-' :: rest => (true, rest)
    | cs => (false, cs)
  match integerPart? unsigned with
  | none => .error (.malformed .value cs)
  | some (whole, afterWhole) =>
    let (fraction, afterFraction) := fractionPart afterWhole
    let (exponent, rest) := exponentPart afterFraction
    if fraction.isEmpty && exponent.isNone then
      match Text.numeralWithin whole with
      | .error e => .error (.longNumeral e)
      | .ok n => .ok (.int (if negative then -Int.ofNat n else Int.ofNat n), rest)
    else
      let x := Binary64.ofDecimal negative (Text.numeral (whole ++ fraction))
        (exponent.getD 0 - Int.ofNat fraction.length)
      .ok (.float x, rest)

/-! ## Values -/

/-- Read a word or a number, anything that is not nested and no string. -/
def readWord : List Char → Step Node
  | 'n' :: 'u' :: 'l' :: 'l' :: rest => .ok (.null, rest)
  | 't' :: 'r' :: 'u' :: 'e' :: rest => .ok (.bool true, rest)
  | 'f' :: 'a' :: 'l' :: 's' :: 'e' :: rest => .ok (.bool false, rest)
  | 'N' :: 'a' :: 'N' :: rest => .ok (.float .nan, rest)
  | 'I' :: 'n' :: 'f' :: 'i' :: 'n' :: 'i' :: 't' :: 'y' :: rest => .ok (.float (.infinity false), rest)
  | '-' :: 'I' :: 'n' :: 'f' :: 'i' :: 'n' :: 'i' :: 't' :: 'y' :: rest =>
    .ok (.float (.infinity true), rest)
  | cs => readNumber cs

mutual

/-- Read one value; the first argument bounds the number of nested calls. -/
def readValue : Nat → List Char → Step Node
  | 0, cs => .error (.malformed .value cs)
  | _ + 1, '"' :: rest =>
    match readString ('"' :: rest) rest with
    | .ok (s, after) => .ok (.str s, after)
    | .error e => .error e
  | fuel + 1, '[' :: rest =>
    match skipBlanks rest with
    | ']' :: after => .ok (.list [], after)
    | cs => readItems fuel [] cs
  | fuel + 1, '\x7b' :: rest =>
    match skipBlanks rest with
    | '\x7d' :: after => .ok (.map [], after)
    | cs => readEntries fuel [] cs
  | _ + 1, cs => readWord cs
termination_by structural fuel => fuel

/-- Read the items of an array from the first one that is left; `done` holds the others, last first. -/
def readItems : Nat → List Node → List Char → Step Node
  | 0, _, cs => .error (.malformed .value cs)
  | fuel + 1, done, cs =>
    match readValue fuel cs with
    | .error e => .error e
    | .ok (x, rest) =>
      match skipBlanks rest with
      | ']' :: after => .ok (.list (x :: done).reverse, after)
      | ',' :: after => readItems fuel (x :: done) (skipBlanks after)
      | after => .error (.malformed .comma after)
termination_by structural fuel => fuel

/-- Read the entries of an object from the first one that is left. -/
def readEntries : Nat → List (Node × Node) → List Char → Step Node
  | 0, _, cs => .error (.malformed .value cs)
  | fuel + 1, done, '"' :: rest =>
    match readString ('"' :: rest) rest with
    | .error e => .error e
    | .ok (name, afterName) =>
      match skipBlanks afterName with
      | ':' :: afterColon =>
        match readValue fuel (skipBlanks afterColon) with
        | .error e => .error e
        | .ok (x, afterValue) =>
          let entries := Node.insertEntry (.str name) x done
          match skipBlanks afterValue with
          | '\x7d' :: after => .ok (.map entries, after)
          | ',' :: after => readEntries fuel entries (skipBlanks after)
          | after => .error (.malformed .comma after)
      | after => .error (.malformed .colon after)
  | _ + 1, _, cs => .error (.malformed .propertyName cs)
termination_by structural fuel => fuel

end

/-- Read a whole text: blanks, one value, blanks. -/
def readText (text : List Char) : Except Stop Node :=
  match text with
  | '\ufeff' :: _ => .error (.malformed .byteOrderMark text)
  | _ =>
    match readValue (2 * text.length + 2) (skipBlanks text) with
    | .error e => .error e
    | .ok (x, rest) =>
      match skipBlanks rest with
      | [] => .ok x
      | after => .error (.malformed .extraData after)

/-- Read a JSON text. -/
def read (text : String) : Except ReadError Node :=
  match readText text.toList with
  | .ok x => .ok x
  | .error (.malformed problem rest) => .error (.malformed (.locate text.toList rest problem))
  | .error (.longNumeral e) => .error (.longNumeral e)

end ApiLint.Json
