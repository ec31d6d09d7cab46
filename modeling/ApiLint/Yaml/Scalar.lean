import ApiLint.Yaml.Cursor

/-!
# Scalars in a YAML text

Plain text, text in quotes, and text in blocks.  Line ends inside plain and quoted text are folded: one
alone becomes a blank, and of several the first is dropped.  Block text keeps or folds its lines as its
first character says.
-/

namespace ApiLint.Yaml

/-- What a line end followed by further ones becomes. -/
def foldBreaks (first further : List Char) : List Char :=
  if first != ['\n'] then first ++ further
  else if further.isEmpty then [' ']
  else further

/-! ## Quoted text -/

/-- The character of a letter after a backslash that stands for one character. -/
def escapeChar? : Char → Option Char
  | '0' => some '\x00'
  | 'a' => some '\x07'
  | 'b' => some '\x08'
  | 't' => some '\t'
  | '\t' => some '\t'
  | 'n' => some '\n'
  | 'v' => some '\x0b'
  | 'f' => some '\x0c'
  | 'r' => some '\r'
  | 'e' => some '\x1b'
  | ' ' => some ' '
  | '"' => some '"'
  | '\\' => some '\\'
  | '/' => some '/'
  | 'N' => some '\x85'
  | '_' => some '\xa0'
  | 'L' => some '\u2028'
  | 'P' => some '\u2029'
  | _ => none

/-- The number of hexadecimal digits after a letter after a backslash. -/
def escapeWidth? : Char → Option Nat
  | 'x' => some 2
  | 'u' => some 4
  | 'U' => some 8
  | _ => none

/-- Read line ends and the blanks around them inside quotes, where no document may end. -/
def quotedBreaks : Nat → Cursor → Scan (List Char)
  | 0, _ => .error (.malformed .unexpectedEnd)
  | fuel + 1, c =>
    if c.isAtDocumentMark then .error (.malformed .documentMark)
    else
      let c := c.skipWhile fun ch => ch == ' ' || ch == '\t'
      if isBreak c.peek then
        let (first, c) := c.takeBreak
        match quotedBreaks fuel c with
        | .ok (more, c) => .ok (first ++ more, c)
        | .error e => .error e
      else .ok ([], c)

/-- Read blanks or line ends inside quotes. -/
def quotedSpaces (c : Cursor) : Scan (List Char) :=
  let (blanks, c) := c.takeWhile fun ch => ch == ' ' || ch == '\t'
  if c.peek == '\x00' then .error (.malformed .unexpectedEnd)
  else if isBreak c.peek then
    let (first, c) := c.takeBreak
    match quotedBreaks c.bound c with
    | .ok (further, c) => .ok (foldBreaks first further, c)
    | .error e => .error e
  else .ok (blanks, c)

/-- Read an escape after its backslash. -/
def quotedEscape (c : Cursor) : Scan (List Char) :=
  match escapeChar? c.peek, escapeWidth? c.peek with
  | some ch, _ => .ok ([ch], c.next)
  | none, some width =>
    let c := c.next
    match (c.rest.take width).mapM Text.hexValue? with
    | some digits =>
      if digits.length = width then
        let code := digits.foldl (fun n d => 16 * n + d) 0
        if code < 0x110000 then .ok ([Char.ofNat code], c.advance width)
        else .error (.noSuchCharacter code)
      else .error (.malformed .badEscape)
    | none => .error (.malformed .badEscape)
  | none, none =>
    if isBreak c.peek then
      let c := c.takeBreak.2
      quotedBreaks c.bound c
    else .error (.malformed .badEscape)

/-- Read text inside quotes up to a blank, a line end or the closing quote. -/
def quotedRun (double : Bool) : Nat → Cursor → Scan (List Char)
  | 0, _ => .error (.malformed .unexpectedEnd)
  | fuel + 1, c =>
    let push (more : List Char) (c : Cursor) : Scan (List Char) :=
      match quotedRun double fuel c with
      | .ok (rest, c) => .ok (more ++ rest, c)
      | .error e => .error e
    let ch := c.peek
    if !double && ch == '\'' && c.peekAt 1 == '\'' then push ['\''] (c.advance 2)
    else if (double && ch == '\'') || (!double && (ch == '"' || ch == '\\')) then push [ch] c.next
    else if double && ch == '\\' then
      match quotedEscape c.next with
      | .ok (text, c) => push text c
      | .error e => .error e
    else if ch == '\'' || ch == '"' || ch == '\\' || isSpaceOrEnd ch then .ok ([], c)
    else push [ch] c.next

/-- Read runs and the blanks between them up to the closing quote. -/
def quotedParts (quote : Char) : Nat → Cursor → Scan (List Char)
  | 0, _ => .error (.malformed .unexpectedEnd)
  | fuel + 1, c =>
    match quotedRun (quote == '"') c.bound c with
    | .error e => .error e
    | .ok (run, c) =>
      if c.peek == quote then .ok (run, c.next)
      else
        match quotedSpaces c with
        | .error e => .error e
        | .ok (spaces, c) =>
          match quotedParts quote fuel c with
          | .ok (more, c) => .ok (run ++ spaces ++ more, c)
          | .error e => .error e

/-- Read a quoted text from its opening quote on. -/
def quotedScalar (c : Cursor) : Scan String :=
  match quotedParts c.peek c.bound c.next with
  | .ok (text, c) => .ok (String.ofList text, c)
  | .error e => .error e

/-! ## Plain text -/

/-- What follows a part of a plain text: blanks and line ends, whether there was a line end, and a cursor. -/
structure PlainGap where
  /-- The folded blanks; nothing if a document ends here. -/
  spaces : List Char
  sawBreak : Bool
  cursor : Cursor

/-- Read further line ends and blanks after a line end; nothing if a document ends among them. -/
def plainBreaks : Nat → Cursor → Option (List Char) × Cursor
  | 0, c => (some [], c)
  | fuel + 1, c =>
    if c.isAtDocumentMark && c.column == 0 then (none, c)
    else if c.peek == ' ' then plainBreaks fuel c.next
    else if isBreak c.peek then
      let (first, c) := c.takeBreak
      let (more, c) := plainBreaks fuel c
      (more.map (first ++ ·), c)
    else (some [], c)

/-- Read the blanks and line ends after a part of a plain text. -/
def plainGap (c : Cursor) : PlainGap :=
  let (blanks, c) := c.takeWhile (· == ' ')
  if isBreak c.peek then
    let (first, c) := c.takeBreak
    match plainBreaks c.bound c with
    | (none, c) => ⟨[], true, c⟩
    | (some further, c) => ⟨foldBreaks first further, true, c⟩
  else ⟨blanks, false, c⟩

/-- Does a plain text end before this character? -/
def endsPlain (inFlow : Bool) (c : Cursor) : Bool :=
  let ch := c.peek
  let isFlowMark (ch : Char) : Bool := ch == ',' || ch == '[' || ch == ']' || ch == '\x7b' || ch == '\x7d'
  isSpaceOrEnd ch
    || (ch == ':' && (isSpaceOrEnd (c.peekAt 1) || (inFlow && isFlowMark (c.peekAt 1))))
    || (inFlow && (ch == '?' || isFlowMark ch))

/-- Read a part of a plain text, up to a gap or a mark. -/
def plainRun (inFlow : Bool) : Nat → Cursor → List Char × Cursor
  | 0, c => ([], c)
  | fuel + 1, c =>
    if endsPlain inFlow c then ([], c)
    else
      let (more, after) := plainRun inFlow fuel c.next
      (c.peek :: more, after)

/-- A plain text, and whether the next token may be a key because a line ended. -/
structure PlainScalar where
  text : List Char
  /-- What the gap after the last part says, if there was a part. -/
  allowsKey : Option Bool

/-- Read parts of a plain text with the gaps between them; lines must be indented by `indent`. -/
def plainParts (inFlow : Bool) (indent : Int) (spaces : List Char) : Nat → Cursor → PlainScalar × Cursor
  | 0, c => (⟨[], none⟩, c)
  | fuel + 1, c =>
    if c.peek == '#' then (⟨[], none⟩, c)
    else
      let (run, c) := plainRun inFlow c.bound c
      if run.isEmpty then (⟨[], none⟩, c)
      else
        let gap := plainGap c
        if gap.spaces.isEmpty || gap.cursor.peek == '#'
            || (!inFlow && Int.ofNat gap.cursor.column < indent) then
          (⟨spaces ++ run, some gap.sawBreak⟩, gap.cursor)
        else
          let (more, after) := plainParts inFlow indent gap.spaces fuel gap.cursor
          (⟨spaces ++ run ++ more.text, some (more.allowsKey.getD gap.sawBreak)⟩, after)

/-! ## Block text -/

/-- What the first line of a block text says about its end and its indentation. -/
structure BlockHeader where
  /-- Keep all line ends at the end (true), none (false), or one. -/
  keep : Option Bool
  increment : Option Nat

/-- Read a sign that says what happens to the line ends at the end. -/
def blockKeep (c : Cursor) : Option Bool × Cursor :=
  if c.peek == '+' then (some true, c.next)
  else if c.peek == '-' then (some false, c.next)
  else (none, c)

/-- Read a digit that says how far the text is indented. -/
def blockIncrement (c : Cursor) : Scan (Option Nat) :=
  if c.peek == '0' then .error (.malformed .badIndentation)
  else if c.peek.isDigit then .ok (some (c.peek.toNat - '0'.toNat), c.next)
  else .ok (none, c)

/-- Read the rest of the first line of a block text. -/
def blockHeader (c : Cursor) : Scan BlockHeader :=
  let (keepBefore, c) := blockKeep c
  match blockIncrement c with
  | .error e => .error e
  | .ok (increment, c) =>
    let (keepAfter, c) := if keepBefore.isNone && increment.isSome then blockKeep c else (none, c)
    if isGap c.peek then
      match c.skipLineEnd .unexpectedCharacter with
      | .ok c => .ok (⟨keepBefore.or keepAfter, increment⟩, c)
      | .error e => .error e
    else .error (.malformed .unexpectedCharacter)

/-- Read blank lines before the first line of text; also the deepest column that their blanks reach. -/
def blockStart (deepest : Nat) : Nat → Cursor → (List Char × Nat) × Cursor
  | 0, c => (([], deepest), c)
  | fuel + 1, c =>
    if c.peek == ' ' then blockStart (max deepest c.next.column) fuel c.next
    else if isBreak c.peek then
      let (first, c) := c.takeBreak
      let ((more, deepest), c) := blockStart deepest fuel c
      ((first ++ more, deepest), c)
    else (([], deepest), c)

/-- Go past blanks up to a column. -/
def skipIndent (indent : Nat) : Nat → Cursor → Cursor
  | 0, c => c
  | fuel + 1, c => if c.column < indent && c.peek == ' ' then skipIndent indent fuel c.next else c

/-- Read blank lines between lines of text, and the indentation after them. -/
def blockBreaks (indent : Nat) : Nat → Cursor → List Char × Cursor
  | 0, c => ([], c)
  | fuel + 1, c =>
    let c := skipIndent indent indent c
    if isBreak c.peek then
      let (first, c) := c.takeBreak
      let (more, c) := blockBreaks indent fuel c
      (first ++ more, c)
    else ([], c)

/-- The lines of a block text from the current one on; `before` holds the blank lines before it. -/
def blockLines (folded : Bool) (keep : Option Bool) (indent : Nat) (before : List Char) :
    Nat → Cursor → List Char × Cursor
  | 0, c => ([], c)
  | fuel + 1, c =>
    let startsDark := c.peek != ' ' && c.peek != '\t'
    let (line, c) := c.takeWhile (!isBreak ·)
    let (lineBreak, c) := c.takeBreak
    let (blankLines, c) := blockBreaks indent c.bound c
    if c.column == indent && c.peek != '\x00' then
      let between :=
        if folded && lineBreak == ['\n'] && startsDark && c.peek != ' ' && c.peek != '\t' then
          (if blankLines.isEmpty then [' '] else [])
        else lineBreak
      let (more, after) := blockLines folded keep indent blankLines fuel c
      (before ++ line ++ between ++ more, after)
    else
      let ending := match keep with
        | some false => []
        | some true => lineBreak ++ blankLines
        | none => lineBreak
      (before ++ line ++ ending, c)

/-- Read a block text from its first character on, inside a block indented by `outer`. -/
def blockScalar (outer : Int) (c : Cursor) : Scan String :=
  let folded := c.peek == '>'
  match blockHeader c.next with
  | .error e => .error e
  | .ok (header, c) =>
    let least := (max (outer + 1) 1).toNat
    let (before, indent, c) := match header.increment with
      | none =>
        let ((before, deepest), c) := blockStart 0 c.bound c
        (before, max least deepest, c)
      | some n =>
        let indent := least + n - 1
        let (before, c) := blockBreaks indent c.bound c
        (before, indent, c)
    if c.column == indent && c.peek != '\x00' then
      let (text, c) := blockLines folded header.keep indent before c.bound c
      .ok (String.ofList text, c)
    else
      let text := if header.keep = some true then before else []
      .ok (String.ofList text, c)

end ApiLint.Yaml
