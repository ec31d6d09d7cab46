import ApiLint.Calendar
import ApiLint.Number.IntegerText

/-!
# Places in a YAML text

A cursor is the rest of a text with the line and column where it starts.  The end of the text is seen as
the NUL character, which no readable text contains.
-/

namespace ApiLint.Yaml

/-- What is wrong with the structure of a text. -/
inductive Problem where
  | controlCharacter
  | unexpectedCharacter
  | unexpectedEnd
  | badIndentation
  | missingColon
  | misplacedEntry
  | badDirective
  | badName
  | badTag
  | badEscape
  | documentMark
  | unexpectedToken
  | undefinedAlias
  | duplicateAnchor
  | secondDocument
  | unhashableKey
  | badMerge
  | unknownTag
  | wrongKind
  | badBinary
deriving DecidableEq

/-- Why a text yields no value. -/
inductive ReadError where
  | malformed (problem : Problem)
  /-- An escape names a character beyond the last one. -/
  | noSuchCharacter (code : Nat)
  | calendar (error : CalendarError)
  | longNumeral (error : LongNumeral)
  /-- A text tagged as an integer that is none in its base. -/
  | notInteger (error : IntegerTextError)
  /-- A text tagged as a number with a point that is none. -/
  | notFloat (text : String)
  /-- An empty text tagged as a number. -/
  | emptyNumber
  /-- A text tagged as a truth value that is none. -/
  | notBool
  /-- A text tagged as a time that is none. -/
  | notTime
  /-- A mapping tagged as a time. -/
  | timeInMapping
  /-- A number has so many places to the base sixty that the first one has no weight. -/
  | tooManyParts
  /-- A collection that is an item of itself. -/
  | endless
  /-- A set, which is no value here. -/
  | unordered
deriving DecidableEq

/-! ## Kinds of characters -/

/-- Can the character stand in a text? -/
def isReadable (c : Char) : Bool :=
  let n := c.toNat
  n == 0x9 || n == 0xa || n == 0xd || (0x20 ≤ n && n ≤ 0x7e) || n == 0x85
    || (0xa0 ≤ n && n ≤ 0xd7ff) || (0xe000 ≤ n && n ≤ 0xfffd) || 0x10000 ≤ n

/-- Does the character end a line? -/
def isBreak (c : Char) : Bool :=
  c == '\n' || c == '\r' || c == '\x85' || c == '\u2028' || c == '\u2029'

/-- The end of a line or of the text. -/
def isBreakOrEnd (c : Char) : Bool := c == '\x00' || isBreak c

/-- A blank, the end of a line or of the text. -/
def isGap (c : Char) : Bool := c == ' ' || isBreakOrEnd c

/-- A blank, a tab, the end of a line or of the text. -/
def isSpaceOrEnd (c : Char) : Bool := c == '\t' || isGap c

/-- Can the character stand in the name of an anchor or a directive? -/
def isNameChar (c : Char) : Bool := c.isAlphanum || c == '-' || c == '_'

/-! ## Cursors -/

/-- The rest of a text and where it starts. -/
structure Cursor where
  rest : List Char
  index : Nat
  line : Nat
  column : Nat

namespace Cursor

/-- The start of a text. -/
def start (text : List Char) : Cursor := ⟨text, 0, 0, 0⟩

/-- The character that comes next. -/
def peek (c : Cursor) : Char := c.rest.head?.getD '\x00'

/-- The character some places further on. -/
def peekAt (c : Cursor) (n : Nat) : Char := (c.rest[n]?).getD '\x00'

/-- Go past one character; a carriage return before a line feed does not end the line. -/
def next (c : Cursor) : Cursor :=
  match c.rest with
  | [] => c
  | ch :: rest =>
    if (isBreak ch && ch != '\r') || (ch == '\r' && rest.head? != some '\n') then
      ⟨rest, c.index + 1, c.line + 1, 0⟩
    else if ch == '\ufeff' then ⟨rest, c.index + 1, c.line, c.column⟩
    else ⟨rest, c.index + 1, c.line, c.column + 1⟩

/-- Go past some characters. -/
def advance (c : Cursor) : Nat → Cursor
  | 0 => c
  | n + 1 => c.next.advance n

/-- The characters up to the first one that fails a test, and the cursor there. -/
def takeWhile (c : Cursor) (p : Char → Bool) : List Char × Cursor :=
  let taken := c.rest.takeWhile p
  (taken, c.advance taken.length)

/-- Go past characters up to the first one that fails a test. -/
def skipWhile (c : Cursor) (p : Char → Bool) : Cursor := (c.takeWhile p).2

/-- Go past blanks. -/
def skipBlanks (c : Cursor) : Cursor := c.skipWhile (· == ' ')

/-- Go past a comment, if there is one. -/
def skipComment (c : Cursor) : Cursor := if c.peek == '#' then c.skipWhile (!isBreak ·) else c

/-- Go past the end of a line, if it is there; most kinds of it count as a line feed. -/
def takeBreak (c : Cursor) : List Char × Cursor :=
  match c.rest with
  | '\r' :: '\n' :: _ => (['\n'], c.advance 2)
  | ch :: _ =>
    if ch == '\u2028' || ch == '\u2029' then ([ch], c.next)
    else if isBreak ch then (['\n'], c.next)
    else ([], c)
  | [] => ([], c)

/-- Is there a mark of three equal characters, with nothing attached to it? -/
def isAtMark (c : Cursor) (mark : Char) : Bool :=
  c.peek == mark && c.peekAt 1 == mark && c.peekAt 2 == mark && isSpaceOrEnd (c.peekAt 3)

/-- Is there a mark between documents? -/
def isAtDocumentMark (c : Cursor) : Bool := c.isAtMark '-' || c.isAtMark '.'

/-- How many steps a walk over the rest can take. -/
def bound (c : Cursor) : Nat := c.rest.length + 1

/-- Go past the rest of a line that may hold nothing but a comment. -/
def skipLineEnd (c : Cursor) (otherwise : Problem) : Except ReadError Cursor :=
  let c := c.skipBlanks.skipComment
  if isBreakOrEnd c.peek then .ok c.takeBreak.2 else .error (.malformed otherwise)

end Cursor

/-- A part of a text that was read, and the cursor after it. -/
abbrev Scan (α : Type) := Except ReadError (α × Cursor)

end ApiLint.Yaml
