import ApiLint.Yaml.Token

/-!
# From YAML text to tokens

Tokens are read from left to right.  What the first token of a pair is becomes clear only at the colon
after it: a place where a key may have started is remembered, and the colon puts the tokens that start a
mapping and its key there.  Outside of brackets the indentation opens and closes blocks.

A text that cannot be read to its end still yields its first tokens: those that were settled, because no key
can be put before them any more.
-/

namespace ApiLint.Yaml

/-- A place where a key may have started. -/
structure KeyPlace where
  /-- The number of tokens before it. -/
  tokenNumber : Nat
  /-- Nothing but a key can stand here. -/
  required : Bool
  index : Nat
  line : Nat
  column : Nat

/-- The state of reading tokens. -/
structure Lexer where
  cursor : Cursor
  /-- The tokens read, last first, and their number. -/
  tokens : List Token
  count : Nat
  /-- The number of brackets that are open. -/
  flowLevel : Nat
  /-- The column of the innermost block, and those of the blocks around it. -/
  indent : Int
  indents : List Int
  /-- May a key start here? -/
  allowsKey : Bool
  /-- Where a key may have started, for each number of open brackets. -/
  places : List (Nat × KeyPlace)

namespace Lexer

/-- The start of a text. -/
def start (text : List Char) : Lexer where
  cursor := .start text
  tokens := []
  count := 0
  flowLevel := 0
  indent := -1
  indents := []
  allowsKey := true
  places := []

/-- A step that may find the text malformed. -/
abbrev Step := Except ReadError Lexer

/-- The text is malformed. -/
def fail (problem : Problem) : Except ReadError α := .error (.malformed problem)

/-! ## Blocks and keys -/

/-- Add a token. -/
def push (t : Token) (l : Lexer) : Lexer := { l with tokens := t :: l.tokens, count := l.count + 1 }

/-- Put a token behind the first `n` ones. -/
def insertAt (n : Nat) (t : Token) (l : Lexer) : Lexer :=
  let later := l.count - n
  { l with tokens := l.tokens.take later ++ t :: l.tokens.drop later, count := l.count + 1 }

/-- Close blocks that are indented deeper than the column. -/
def closeBlocks (column : Int) : List Int → Lexer → Lexer
  | [], l => l
  | outer :: outers, l =>
    if column < l.indent then
      closeBlocks column outers (push .blockEnd { l with indent := outer, indents := outers })
    else l

/-- Close blocks, unless brackets are open. -/
def unwind (column : Int) (l : Lexer) : Lexer :=
  if 0 < l.flowLevel then l else closeBlocks column l.indents l

/-- Open a block at a column, if it is deeper than the innermost one. -/
def openBlock? (column : Nat) (l : Lexer) : Option Lexer :=
  if l.indent < Int.ofNat column then
    some { l with indents := l.indent :: l.indents, indent := column }
  else none

/-- Forget places that are too far back for a key; a required one must not be lost. -/
@[irreducible] def dropStalePlaces (l : Lexer) : Step :=
  let isStale (p : KeyPlace) : Bool := p.line != l.cursor.line || p.index + 1024 < l.cursor.index
  if l.places.any (fun p => isStale p.2 && p.2.required) then fail .missingColon
  else .ok { l with places := l.places.filter (!isStale ·.2) }

/-- Forget the place of the current brackets, which must not be a required one. -/
def dropPlace (l : Lexer) : Step :=
  match l.places.lookup l.flowLevel with
  | none => .ok l
  | some place =>
    if place.required then fail .missingColon
    else .ok { l with places := l.places.filter (·.1 != l.flowLevel) }

/-- Remember that a key may start here. -/
def savePlace (l : Lexer) : Step :=
  if l.allowsKey then
    match l.dropPlace with
    | .error e => .error e
    | .ok l =>
      let place : KeyPlace := {
        tokenNumber := l.count
        required := l.flowLevel == 0 && l.indent == Int.ofNat l.cursor.column
        index := l.cursor.index
        line := l.cursor.line
        column := l.cursor.column }
      .ok { l with places := (l.flowLevel, place) :: l.places }
  else .ok l

/-- Go past blanks, comments and line ends; outside of brackets a key may start on a new line. -/
def skipGap : Nat → Lexer → Lexer
  | 0, l => l
  | fuel + 1, l =>
    let c := l.cursor.skipBlanks.skipComment
    if isBreak c.peek then
      skipGap fuel { l with cursor := c.takeBreak.2, allowsKey := l.allowsKey || l.flowLevel == 0 }
    else { l with cursor := c }

/-! ## Tokens -/

/-- A token of one or more characters after which no key can start at once. -/
def take (n : Nat) (t : Token) (l : Lexer) : Lexer := push t { l with cursor := l.cursor.advance n }

/-- End everything before a directive, a mark between documents, or the end. -/
def endDocument (l : Lexer) : Step :=
  match (l.unwind (-1)).dropPlace with
  | .error e => .error e
  | .ok l => .ok { l with allowsKey := false }

/-- A mark between documents. -/
def documentMark (t : Token) (l : Lexer) : Step := l.endDocument.map (take 3 t)

/-- A directive. -/
def readDirective (l : Lexer) : Step :=
  match l.endDocument with
  | .error e => .error e
  | .ok l =>
    match directive l.cursor with
    | .ok (t, c) => .ok (push t { l with cursor := c })
    | .error e => .error e

/-- An opening bracket. -/
def openFlow (t : Token) (l : Lexer) : Step :=
  match l.savePlace with
  | .error e => .error e
  | .ok l => .ok (take 1 t { l with flowLevel := l.flowLevel + 1, allowsKey := true })

/-- A closing bracket. -/
def closeFlow (t : Token) (l : Lexer) : Step :=
  match l.dropPlace with
  | .error e => .error e
  | .ok l =>
    if l.flowLevel = 0 then fail .unexpectedToken
    else .ok (take 1 t { l with flowLevel := l.flowLevel - 1, allowsKey := false })

/-- A comma. -/
def flowEntry (l : Lexer) : Step :=
  match l.dropPlace with
  | .error e => .error e
  | .ok l => .ok (take 1 .flowEntry { l with allowsKey := true })

/-- Open a block at the cursor if its token starts one; outside of brackets a key must be possible. -/
def startBlock (t : Token) (l : Lexer) : Step :=
  if 0 < l.flowLevel then .ok l
  else if !l.allowsKey then fail .misplacedEntry
  else .ok (match l.openBlock? l.cursor.column with
    | some l => push t l
    | none => l)

/-- A dash before an item. -/
def blockEntry (l : Lexer) : Step :=
  match l.startBlock .blockSequenceStart with
  | .error e => .error e
  | .ok l =>
    match dropPlace { l with allowsKey := true } with
    | .error e => .error e
    | .ok l => .ok (take 1 .blockEntry l)

/-- A question mark before a key. -/
def keyMark (l : Lexer) : Step :=
  match l.startBlock .blockMappingStart with
  | .error e => .error e
  | .ok l =>
    match dropPlace { l with allowsKey := l.flowLevel == 0 } with
    | .error e => .error e
    | .ok l => .ok (take 1 .key l)

/-- A colon before a value: the place where its key started, if there is one, becomes a key. -/
def valueMark (l : Lexer) : Step :=
  match l.places.lookup l.flowLevel with
  | some place =>
    let l := { l with places := l.places.filter (·.1 != l.flowLevel), allowsKey := false }
    let l := insertAt place.tokenNumber .key l
    let l := if l.flowLevel = 0 then
        match l.openBlock? place.column with
        | some l => insertAt place.tokenNumber .blockMappingStart l
        | none => l
      else l
    .ok (take 1 .value l)
  | none =>
    match l.startBlock .blockMappingStart with
    | .error e => .error e
    | .ok l => .ok (take 1 .value { l with allowsKey := l.flowLevel == 0 })

/-- A token that can be a key or begin one. -/
def keyToken (scan : Cursor → Scan Token) (l : Lexer) : Step :=
  match l.savePlace with
  | .error e => .error e
  | .ok l =>
    match scan l.cursor with
    | .ok (t, c) => .ok (push t { l with cursor := c, allowsKey := false })
    | .error e => .error e

/-- Make a token of what is scanned. -/
def mapScan (f : α → β) : Scan α → Scan β
  | .ok (x, c) => .ok (f x, c)
  | .error e => .error e

/-- A block text. -/
def readBlockScalar (l : Lexer) : Step :=
  match dropPlace { l with allowsKey := true } with
  | .error e => .error e
  | .ok l =>
    match blockScalar l.indent l.cursor with
    | .ok (text, c) => .ok (push (.scalar text false) { l with cursor := c })
    | .error e => .error e

/-- A plain text; a key may start after it if a line ended there. -/
def readPlain (l : Lexer) : Step :=
  match l.savePlace with
  | .error e => .error e
  | .ok l =>
    let (scalar, c) := plainParts (0 < l.flowLevel) (l.indent + 1) [] l.cursor.bound l.cursor
    .ok (push (.scalar (String.ofList scalar.text) true)
      { l with cursor := c, allowsKey := scalar.allowsKey.getD false })

/-- Can a plain text start here? -/
def startsPlain (l : Lexer) : Bool :=
  let ch := l.cursor.peek
  let isMark := isSpaceOrEnd ch || "-?:,[]\x7b\x7d#&*!|>'\"%@\x60".toList.contains ch
  !isMark || (!isSpaceOrEnd (l.cursor.peekAt 1)
    && (ch == '-' || (l.flowLevel == 0 && (ch == '?' || ch == ':'))))

/-- Is the sign here a mark and not the start of a plain text? -/
def isMark (l : Lexer) : Bool := 0 < l.flowLevel || isSpaceOrEnd (l.cursor.peekAt 1)

/-- Read the next token at a character that is neither blank nor the end. -/
def readToken (l : Lexer) : Step :=
  let c := l.cursor
  let inFlow : Bool := 0 < l.flowLevel
  match c.peek with
  | '[' => l.openFlow .flowSequenceStart
  | '\x7b' => l.openFlow .flowMappingStart
  | ']' => l.closeFlow .flowSequenceEnd
  | '\x7d' => l.closeFlow .flowMappingEnd
  | ',' => l.flowEntry
  | '*' => l.keyToken fun c => mapScan .alias (anchorName c)
  | '&' => l.keyToken fun c => mapScan .anchor (anchorName c)
  | '!' => l.keyToken tag
  | '\'' => l.keyToken fun c => mapScan (.scalar · false) (quotedScalar c)
  | '"' => l.keyToken fun c => mapScan (.scalar · false) (quotedScalar c)
  | ch =>
    if ch == '%' && c.column == 0 then l.readDirective
    else if c.column == 0 && c.isAtMark '-' then l.documentMark .documentStart
    else if c.column == 0 && c.isAtMark '.' then l.documentMark .documentEnd
    else if ch == '-' && isSpaceOrEnd (c.peekAt 1) then l.blockEntry
    else if ch == '?' && l.isMark then l.keyMark
    else if ch == ':' && l.isMark then l.valueMark
    else if (ch == '|' || ch == '>') && !inFlow then l.readBlockScalar
    else if l.startsPlain then l.readPlain
    else fail .unexpectedCharacter

/-- The number of tokens that no key can be put before any more. -/
def settled (l : Lexer) : Nat := l.places.foldl (fun n place => min n place.2.tokenNumber) l.count

/-- The first tokens, and the fault that ends them. -/
def upTo (ready : Nat) (e : ReadError) (l : Lexer) : List Token :=
  (l.tokens.drop (l.count - ready)).reverse ++ [.fault e]

/-- Read the next token, or end the text. -/
def step (l : Lexer) : Except ReadError (Lexer × Bool) :=
  match (l.skipGap l.cursor.bound).dropStalePlaces with
  | .error e => .error e
  | .ok l =>
    let l := l.unwind (Int.ofNat l.cursor.column)
    if l.cursor.rest.isEmpty then l.endDocument.map fun l => (l, true)
    else l.readToken.map fun l => (l, false)

/-- Read tokens up to the end, where all blocks close, or up to a fault; `ready` tokens were settled before. -/
def readAll : Nat → (ready : Nat) → Lexer → List Token
  | 0, ready, l => l.upTo ready (.malformed .unexpectedEnd)
  | fuel + 1, ready, l =>
    match l.dropStalePlaces with
    | .error e => l.upTo ready e
    | .ok l =>
      let ready := max ready l.settled
      match l.step with
      | .error e => l.upTo ready e
      | .ok (l, true) => l.tokens.reverse
      | .ok (l, false) => readAll fuel ready l

end Lexer

/-- The tokens of a text; a byte order mark at its start is skipped. -/
def tokens (text : List Char) : List Token :=
  if text.all isReadable then
    let body := match text with
      | '\ufeff' :: rest => rest
      | text => text
    Lexer.readAll (text.length + 2) 0 (Lexer.start body)
  else [.fault (.malformed .controlCharacter)]

end ApiLint.Yaml
