import ApiLint.Yaml.Scalar

/-!
# Tokens of a YAML text

The tokens, and how names, tags and directives are read.
-/

namespace ApiLint.Yaml

/-- What a line that starts with a percent sign says. -/
inductive Directive where
  | version (major minor : Nat)
  | tag (handle start : String)
  /-- A directive of another name says nothing. -/
  | other
deriving DecidableEq

/-- A token. -/
inductive Token where
  | directive (d : Directive)
  | documentStart
  | documentEnd
  | blockSequenceStart
  | blockMappingStart
  | blockEnd
  | flowSequenceStart
  | flowSequenceEnd
  | flowMappingStart
  | flowMappingEnd
  | blockEntry
  | flowEntry
  | key
  | value
  | alias (name : String)
  | anchor (name : String)
  | tag (handle : Option String) (suffix : String)
  | scalar (text : String) (isPlain : Bool)
  /-- The text cannot be read any further. -/
  | fault (error : ReadError)
deriving DecidableEq

/-! ## Names -/

/-- Read a name after the sign of an anchor or an alias. -/
def anchorName (c : Cursor) : Scan String :=
  let (name, c) := c.next.takeWhile isNameChar
  if name.isEmpty then .error (.malformed .badName)
  else if isSpaceOrEnd c.peek || "?:,]\x7d%@\x60".toList.contains c.peek then .ok (String.ofList name, c)
  else .error (.malformed .badName)

/-! ## Tags -/

/-- Can the character stand in a tag address? -/
def isAddressChar (c : Char) : Bool := c.isAlphanum || "-;/?:@&=+$,_.!~*'()[]%".toList.contains c

/-- Read percent-encoded bytes. -/
def addressEscapes : Nat → Cursor → Scan (List UInt8)
  | 0, c => .ok ([], c)
  | fuel + 1, c =>
    if c.peek == '%' then
      match Text.hexValue? (c.peekAt 1), Text.hexValue? (c.peekAt 2) with
      | some high, some low =>
        match addressEscapes fuel (c.advance 3) with
        | .ok (more, c) => .ok (UInt8.ofNat (16 * high + low) :: more, c)
        | .error e => .error e
      | _, _ => .error (.malformed .badTag)
    else .ok ([], c)

/-- Read the characters of an address. -/
def addressChars : Nat → Cursor → Scan (List Char)
  | 0, c => .ok ([], c)
  | fuel + 1, c =>
    if c.peek == '%' then
      match addressEscapes c.bound c with
      | .error e => .error e
      | .ok (bytes, c) =>
        match String.fromUTF8? ⟨bytes.toArray⟩ with
        | none => .error (.malformed .badTag)
        | some s =>
          match addressChars fuel c with
          | .ok (more, c) => .ok (s.toList ++ more, c)
          | .error e => .error e
    else if isAddressChar c.peek then
      match addressChars fuel c.next with
      | .ok (more, after) => .ok (c.peek :: more, after)
      | .error e => .error e
    else .ok ([], c)

/-- Read an address, which is not empty. -/
def address (c : Cursor) : Scan String :=
  match addressChars c.bound c with
  | .error e => .error e
  | .ok ([], _) => .error (.malformed .badTag)
  | .ok (cs, c) => .ok (String.ofList cs, c)

/-- Read a handle: an exclamation mark alone, or a name between two of them. -/
def tagHandle (c : Cursor) : Scan String :=
  if c.peek != '!' then .error (.malformed .badTag)
  else if c.peekAt 1 == ' ' then .ok ("!", c.next)
  else
    let (name, after) := c.next.takeWhile isNameChar
    if after.peek == '!' then .ok (String.ofList ('!' :: name ++ ['!']), after.next)
    else .error (.malformed .badTag)

/-- Does an exclamation mark stand between the one here and the next gap? -/
def hasNamedHandle (c : Cursor) : Bool := ((c.rest.drop 1).takeWhile (!isGap ·)).contains '!'

/-- A tag must be followed by a gap. -/
def endTag (handle : Option String) (suffix : String) (c : Cursor) : Scan Token :=
  if isGap c.peek then .ok (.tag handle suffix, c) else .error (.malformed .badTag)

/-- Read a tag from its exclamation mark on. -/
def tag (c : Cursor) : Scan Token :=
  if c.peekAt 1 == '<' then
    match address (c.advance 2) with
    | .error e => .error e
    | .ok (suffix, c) =>
      if c.peek == '>' then endTag none suffix c.next else .error (.malformed .badTag)
  else if isSpaceOrEnd (c.peekAt 1) then endTag none "!" c.next
  else
    let handle : Scan String := if hasNamedHandle c then tagHandle c else .ok ("!", c.next)
    match handle with
    | .error e => .error e
    | .ok (handle, c) =>
      match address c with
      | .error e => .error e
      | .ok (suffix, c) => endTag (some handle) suffix c

/-! ## Directives -/

/-- Read the digits of a version number. -/
def versionNumber (c : Cursor) : Scan Nat :=
  let (digits, c) := c.takeWhile Text.isAsciiDigit
  if digits.isEmpty then .error (.malformed .badDirective)
  else match Text.numeralWithin digits with
    | .ok n => .ok (n, c)
    | .error e => .error (.longNumeral e)

/-- Read a version, two numbers around a point. -/
def version (c : Cursor) : Scan Directive :=
  match versionNumber c.skipBlanks with
  | .error e => .error e
  | .ok (major, c) =>
    if c.peek != '.' then .error (.malformed .badDirective)
    else match versionNumber c.next with
      | .error e => .error e
      | .ok (minor, c) =>
        if isGap c.peek then .ok (.version major minor, c) else .error (.malformed .badDirective)

/-- Read a handle and what it stands for. -/
def tagDirective (c : Cursor) : Scan Directive :=
  match tagHandle c.skipBlanks with
  | .error e => .error e
  | .ok (handle, c) =>
    if c.peek != ' ' then .error (.malformed .badDirective)
    else match address c.skipBlanks with
      | .error e => .error e
      | .ok (start, c) =>
        if isGap c.peek then .ok (.tag handle start, c) else .error (.malformed .badDirective)

/-- Read a directive from its percent sign to the end of its line. -/
def directive (c : Cursor) : Scan Token :=
  let (name, c) := c.next.takeWhile isNameChar
  if name.isEmpty || !isGap c.peek then .error (.malformed .badDirective)
  else
    let body : Scan Directive :=
      if name = "YAML".toList then version c
      else if name = "TAG".toList then tagDirective c
      else .ok (.other, c.skipWhile (!isBreak ·))
    match body with
    | .error e => .error e
    | .ok (d, c) =>
      match c.skipLineEnd .badDirective with
      | .ok c => .ok (.directive d, c)
      | .error e => .error e

end ApiLint.Yaml
