import ApiLint.Number.Numeral
import ApiLint.Pattern.Flags
import ApiLint.Pattern.Match
import ApiLint.Pattern.Width
import ApiLint.Text.CharacterName

/-!
# Reading patterns

The written form of patterns: alternatives, sequences, repetitions, groups, classes, escapes and flags.  A
text that is no pattern is refused with the cause.
-/

namespace ApiLint

/-- Why a text is no pattern. -/
inductive PatternError where
  | badEscape
  | unterminatedClass
  | badRange
  | nothingToRepeat
  | multipleRepeat
  | reversedRepeat
  /-- A repetition count beyond all limits. -/
  | countTooLarge
  /-- A repetition count with too many digits to be read. -/
  | longCount (error : LongNumeral)
  | missingParenthesis
  | unbalancedParenthesis
  | unknownExtension
  | badGroupName
  | repeatedGroupName
  /-- A reference to a group that is not there, or not closed yet. -/
  | badGroupReference
  | tooManyBranches
  | badFlags
  /-- Flags for the whole pattern stand behind its start. -/
  | lateFlags
  /-- The whole pattern is limited to ASCII and not limited to it. -/
  | incompatibleFlags
  | variableLookBehind
deriving DecidableEq

namespace Pattern

/-! ## The state of reading -/

/-- What is still to be read, and what has been met. -/
structure Reading where
  rest : List Char
  /-- The widths of the groups, the last one first; an open group has none yet. -/
  widths : List (Option Width)
  /-- The groups that have names. -/
  names : List (String × Nat)
  /-- In a look behind, the number of groups that were there before it. -/
  groupsBefore : Option Nat
  /-- The groups that conditions ask for. -/
  conditions : List Nat
  /-- The flags of the whole pattern. -/
  flags : Flags
  /-- Is the whole pattern expressly not limited to ASCII? -/
  isUnlimited : Bool
  /-- Does a look behind have a body of no fixed width? -/
  hasVariableLookBehind : Bool

/-- Reading a part of a pattern. -/
abbrev Read := StateT Reading (Except PatternError)

/-- Nothing has been read yet. -/
def Reading.start (cs : List Char) : Reading := ⟨cs, [], [], none, [], {}, false, false⟩

/-- The width of a group. -/
def Reading.groupWidth? (r : Reading) (number : Nat) : Option Width :=
  if number = 0 || r.widths.length < number then none
  else (r.widths[r.widths.length - number]?).join

/-- What is still to be read. -/
def rest : Read (List Char) := do return (← get).rest

/-- Go on with this text. -/
def goOn (cs : List Char) : Read Unit := modify fun r => { r with rest := cs }

/-- Read a character if it is the next one. -/
def skip (c : Char) : Read Bool := do
  match ← rest with
  | d :: cs => if c = d then goOn cs; return true else return false
  | [] => return false

/-- Read the characters that pass a test, at most `count`. -/
def readWhile (count : Nat) (test : Char → Bool) : Read (List Char) := do
  let cs ← rest
  let run := (cs.take count).takeWhile test
  goOn (cs.drop run.length)
  return run

/-- Drop everything up to a character; a backslash hides the character after it. -/
def dropThrough (stop : Char) : List Char → Option (List Char)
  | [] => none
  | '\\' :: _ :: cs => dropThrough stop cs
  | c :: cs => if c = stop then some cs else dropThrough stop cs

/-- Read a name up to a character. -/
def readName (stop : Char) (error : PatternError) : Read String := do
  let cs ← rest
  let name := cs.takeWhile (· ≠ stop)
  match name, cs.drop name.length with
  | _ :: _, _ :: after => goOn after; return String.ofList name
  | _, _ => throw error

/-- Can a text be the name of a group? -/
def isGroupName (name : String) : Bool :=
  match name.toList with
  | [] => false
  | c :: cs => (c :: cs).all Text.isWordCharacter && !Text.isDecimalDigit c

/-! ## Escapes -/

/-- What an escape stands for. -/
inductive Escaped where
  | char (code : Nat)
  | category (kind : Category) (negated : Bool)
  | place (p : Pattern)
  | again (group : Nat)

/-- Read exactly `count` hexadecimal digits. -/
def readHex (count : Nat) : Read Escaped := do
  let digits ← readWhile count fun c => (Text.hexValue? c).isSome
  let n := digits.foldl (fun n c => 16 * n + (Text.hexValue? c).getD 0) 0
  if digits.length = count ∧ n < 0x110000 then return .char n else throw .badEscape

/-- Read the name of a character in braces. -/
def readCharacterName : Read Escaped := do
  if ← skip '\x7b' then
    match Text.characterNamed? (← readName '\x7d' .badEscape) with
    | some n => return .char n
    | none => throw .badEscape
  else throw .badEscape

/-- Is the character an octal digit? -/
def isOctalDigit (c : Char) : Bool := '0' ≤ c && c ≤ '7'

/-- The character of an octal number. -/
def octalCharacter (digits : List Char) : Read Escaped :=
  let n := digits.foldl (fun n c => 8 * n + (c.toNat - '0'.toNat)) 0
  if 255 < n then throw .badEscape else return .char n

/-- The control character of a letter after a backslash. -/
def controlEscape? : Char → Option Char
  | 'a' => some '\x07'
  | 'f' => some '\x0c'
  | 'n' => some '\n'
  | 'r' => some '\r'
  | 't' => some '\t'
  | 'v' => some '\x0b'
  | '\\' => some '\\'
  | _ => none

/-- The kind of characters of a letter after a backslash, a capital one for all others. -/
def categoryEscape? : Char → Option (Category × Bool)
  | 'd' => some (.digit, false)
  | 'D' => some (.digit, true)
  | 's' => some (.blank, false)
  | 'S' => some (.blank, true)
  | 'w' => some (.word, false)
  | 'W' => some (.word, true)
  | _ => none

/-- The place of a letter after a backslash. -/
def placeEscape? (flags : Flags) : Char → Option Pattern
  | 'A' => some .atStart
  | 'Z' => some .atVeryEnd
  | 'b' => some (.atWordEdge flags.asciiOnly false)
  | 'B' => some (.atWordEdge flags.asciiOnly true)
  | _ => none

/-- Read what both kinds of escapes have in common. -/
def readCommonEscape (c : Char) : Read Escaped :=
  match controlEscape? c, categoryEscape? c with
  | some x, _ => return .char x.toNat
  | _, some (kind, negated) => return .category kind negated
  | none, none =>
    if c == 'x' then readHex 2
    else if c == 'u' then readHex 4
    else if c == 'U' then readHex 8
    else if c == 'N' then readCharacterName
    else if c.isAlphanum then throw .badEscape
    else return .char c.toNat

/-- A reference to a group, which must be closed and, in a look behind, stand before it. -/
def referTo (number : Nat) : Read Escaped := do
  let r ← get
  match r.groupWidth? number, r.groupsBefore with
  | none, _ => throw .badGroupReference
  | some _, some before =>
    if before < number then throw .badGroupReference else return .again number
  | some _, none => return .again number

/-- In a look behind, a condition can ask only for a group that is closed and stands before it. -/
def checkCondition (number : Nat) : Read Unit := do
  if (← get).groupsBefore.isSome then discard (referTo number)

/-- Read an escape that starts with a digit from 1 on: three octal digits, or the number of a group. -/
def readNumberEscape (first : Char) : Read Escaped := do
  match ← rest with
  | d :: e :: after =>
    if isOctalDigit first && isOctalDigit d && isOctalDigit e then
      goOn after
      octalCharacter [first, d, e]
    else
      let more ← readWhile 1 Text.isAsciiDigit
      referTo (Text.numeral (first :: more))
  | _ =>
    let more ← readWhile 1 Text.isAsciiDigit
    referTo (Text.numeral (first :: more))

/-- Read an escape outside classes, after the backslash. -/
def readEscape (flags : Flags) : Read Escaped := do
  match ← rest with
  | [] => throw .badEscape
  | c :: cs =>
    goOn cs
    match placeEscape? flags c with
    | some p => return .place p
    | none =>
      if c == '0' then octalCharacter (← readWhile 2 isOctalDigit)
      else if Text.isAsciiDigit c then readNumberEscape c
      else readCommonEscape c

/-- Read an escape inside a class, after the backslash. -/
def readClassEscape : Read Escaped := do
  match ← rest with
  | [] => throw .badEscape
  | c :: cs =>
    goOn cs
    if c == 'b' then return .char 8
    else if isOctalDigit c then octalCharacter (c :: (← readWhile 2 isOctalDigit))
    else readCommonEscape c

/-! ## Classes -/

/-- The member that an escape or a character stands for. -/
def Escaped.toMember (flags : Flags) : Escaped → ClassMember
  | .char n => .range n n
  | .category kind negated => .category kind flags.asciiOnly negated
  | _ => .range 0 0

/-- Read one end of a range. -/
def readClassAtom : Read Escaped := do
  match ← rest with
  | [] => throw .unterminatedClass
  | '\\' :: cs => goOn cs; readClassEscape
  | c :: cs => goOn cs; return .char c.toNat

/-- Read the members of a class up to its closing bracket, which does not close an empty class. -/
def readMembers (flags : Flags) : Nat → List ClassMember → Read (List ClassMember)
  | 0, _ => throw .unterminatedClass
  | fuel + 1, done => do
    match ← rest, done with
    | ']' :: cs, _ :: _ => goOn cs; return done.reverse
    | _, _ =>
      let first ← readClassAtom
      match ← rest with
      | '-' :: ']' :: cs =>
        goOn cs
        return (.range '-'.toNat '-'.toNat :: first.toMember flags :: done).reverse
      | '-' :: cs =>
        goOn cs
        match first, ← readClassAtom with
        | .char a, .char b =>
          if b < a then throw .badRange else readMembers flags fuel (.range a b :: done)
        | _, _ => throw .badRange
      | _ => readMembers flags fuel (first.toMember flags :: done)

/-- Read a class after its opening bracket. -/
def readClass (flags : Flags) : Read Pattern := do
  let negated ← skip '^'
  let members ← readMembers flags ((← rest).length + 1) []
  return .one ⟨negated, flags.caseRule, members⟩

/-! ## Repetitions -/

/-- How often something is repeated. -/
structure Bounds where
  least : Nat
  most : Option Nat

/-- Bounds after an opening brace; a brace that does not start bounds is a character. -/
def bracedBounds? (cs : List Char) : Option (List Char × List Char × List Char) :=
  let low := cs.takeWhile Text.isAsciiDigit
  match cs.drop low.length with
  | '\x7d' :: after => if low.isEmpty then none else some (low, low, after)
  | ',' :: more =>
    let high := more.takeWhile Text.isAsciiDigit
    match more.drop high.length with
    | '\x7d' :: after => some (low, high, after)
    | _ => none
  | _ => none

/-- A repetition count, unless it is left out. -/
def readCount (digits : List Char) : Except PatternError (Option Nat) :=
  if digits.isEmpty then .ok none
  else match Text.numeralWithin digits with
    | .error e => .error (.longCount e)
    | .ok n => if Width.limit ≤ n then .error .countTooLarge else .ok (some n)

/-- Check the counts of bounds. -/
def checkBounds (low high : List Char) : Except PatternError Bounds := do
  let least := (← readCount low).getD 0
  let most ← readCount high
  if most.any (· < least) then throw .reversedRepeat
  return ⟨least, most⟩

/-- Read bounds, if some stand here. -/
def readBounds? : Read (Option Bounds) := do
  match ← rest with
  | '*' :: cs => goOn cs; return some ⟨0, none⟩
  | '+' :: cs => goOn cs; return some ⟨1, none⟩
  | '?' :: cs => goOn cs; return some ⟨0, some 1⟩
  | '\x7b' :: cs =>
    match bracedBounds? cs with
    | none => return none
    | some (low, high, after) => goOn after; return some (← checkBounds low high)
  | _ => return none

/-- Read the mark after bounds. -/
def readGreed : Read Greed := do
  if ← skip '?' then return .fewest
  else if ← skip '+' then return .possessive
  else return .most

/-! ## Sequences -/

/-- What the last part of a sequence is, as far as repetition is concerned. -/
inductive PartKind where
  | plain
  | place
  | repetition
deriving DecidableEq

/-- A sequence being read: the parts before the last one, and the last one. -/
structure Partial where
  before : Pattern
  last : Option (Pattern × PartKind)

namespace Partial

/-- Nothing read yet. -/
def start : Partial := ⟨.empty, none⟩

/-- The sequence read so far. -/
def pattern (s : Partial) : Pattern :=
  match s.last with
  | none => s.before
  | some (p, _) => match s.before with
    | .empty => p
    | q => .seq q p

/-- Add a part. -/
def push (s : Partial) (p : Pattern) (kind : PartKind) : Partial := ⟨s.pattern, some (p, kind)⟩

/-- Can the last part be repeated? -/
def checkRepeat (s : Partial) : Except PatternError Unit :=
  match s.last with
  | none => .error .nothingToRepeat
  | some (_, .place) => .error .nothingToRepeat
  | some (_, .repetition) => .error .multipleRepeat
  | some (_, .plain) => .ok ()

/-- Repeat the last part. -/
def repeatLast (s : Partial) (bounds : Bounds) (greed : Greed) : Partial :=
  match s.last with
  | none => s
  | some (p, _) => ⟨s.before, some (.repeated p bounds.least bounds.most greed, .repetition)⟩

end Partial

/-- Add what an escape stands for. -/
def Partial.pushEscaped (s : Partial) (flags : Flags) : Escaped → Partial
  | .char n => s.push (.char flags.caseRule n) .plain
  | .category kind negated =>
    s.push (.one ⟨false, flags.caseRule, [.category kind flags.asciiOnly negated]⟩) .plain
  | .place p => s.push p .place
  | .again number => s.push (.again number flags.caseRule) .plain

/-! ## Groups -/

/-- What an opening parenthesis starts. -/
inductive GroupKind where
  | capture (name : Option String)
  /-- A group that is not remembered, with its flags. -/
  | plain (flags : Flags)
  | atomic
  | look (isAhead negated : Bool)
  | condition (group : Nat)
  | reference (group : Nat)
  | comment
  /-- Flags for the whole pattern. -/
  | global (letters : List FlagLetter)

/-- Read letters of flags up to a character that is none. -/
def readFlagLetters (allowed : FlagLetter → Bool) : Nat → List FlagLetter → Read (List FlagLetter)
  | 0, _ => throw .badFlags
  | fuel + 1, done => do
    match ← rest with
    | c :: cs =>
      match FlagLetter.ofChar? c with
      | some letter =>
        if allowed letter then goOn cs; readFlagLetters allowed fuel (letter :: done)
        else throw .badFlags
      | none => return done
    | [] => throw .badFlags

/-- Read flags, for the whole pattern or for a group; a minus sign stands before those to be unset. -/
def readFlags (flags : Flags) : Read GroupKind := do
  let fuel := (← rest).length + 1
  let added ← readFlagLetters (fun _ => true) fuel []
  if added.contains .a && added.contains .u then throw .badFlags
  match ← rest with
  | ')' :: cs =>
    if added.isEmpty then throw .badFlags
    goOn cs
    return .global added
  | ':' :: cs =>
    goOn cs
    return .plain (added.foldl Flags.set flags)
  | '-' :: cs =>
    goOn cs
    let removed ← readFlagLetters (!·.choosesCharacters) fuel []
    if removed.isEmpty || !(← skip ':') || added.any removed.contains then throw .badFlags
    return .plain (removed.foldl Flags.unset (added.foldl Flags.set flags))
  | _ => throw .badFlags

/-- The group with a name. -/
def groupNamed (name : String) : Read Nat := do
  if !isGroupName name then throw .badGroupName
  match (← get).names.lookup name with
  | some number => return number
  | none => throw .badGroupReference

/-- Read the group that a condition asks for, by its name or number. -/
def readCondition : Read GroupKind := do
  let name ← readName ')' .badGroupName
  if isGroupName name then return .condition (← groupNamed name)
  let digits := name.toList
  if !digits.all Text.isAsciiDigit || Text.numeral digits = 0 then throw .badGroupName
  modify fun r => { r with conditions := Text.numeral digits :: r.conditions }
  return .condition (Text.numeral digits)

/-- Read what stands between an opening parenthesis and the body of its group. -/
def readGroupKind (flags : Flags) : Read GroupKind := do
  match ← rest with
  | '?' :: 'P' :: '<' :: cs =>
    goOn cs
    let name ← readName '>' .badGroupName
    if isGroupName name then return .capture (some name) else throw .badGroupName
  | '?' :: 'P' :: '=' :: cs =>
    goOn cs
    return .reference (← groupNamed (← readName ')' .badGroupName))
  | '?' :: ':' :: cs => goOn cs; return .plain flags
  | '?' :: '>' :: cs => goOn cs; return .atomic
  | '?' :: '=' :: cs => goOn cs; return .look true false
  | '?' :: '!' :: cs => goOn cs; return .look true true
  | '?' :: '<' :: '=' :: cs => goOn cs; return .look false false
  | '?' :: '<' :: '!' :: cs => goOn cs; return .look false true
  | '?' :: '(' :: cs => goOn cs; readCondition
  | '?' :: '#' :: cs =>
    match dropThrough ')' cs with
    | some after => goOn after; return .comment
    | none => throw .missingParenthesis
  | '?' :: c :: cs =>
    if (FlagLetter.ofChar? c).isSome || c == '-' then goOn (c :: cs); readFlags flags
    else throw .unknownExtension
  | '?' :: [] => throw .unknownExtension
  | _ => return .capture none

/-- Open a group, which takes the next number. -/
def openGroup (name : Option String) : Read Nat := do
  let r ← get
  let number := r.widths.length + 1
  match name with
  | none => set { r with widths := none :: r.widths }
  | some s =>
    if (r.names.lookup s).isSome then throw .repeatedGroupName
    set { r with widths := none :: r.widths, names := (s, number) :: r.names }
  return number

/-- The width of a pattern that has been read. -/
def widthOf (p : Pattern) : Read Width := do
  let r ← get
  return (p.width fun number => (r.groupWidth? number).getD ⟨0, 0⟩).capped

/-- Close a group with its body. -/
def closeGroup (number : Nat) (body : Pattern) : Read Pattern := do
  let width ← widthOf body
  modify fun r => { r with widths := r.widths.set (r.widths.length - number) (some width) }
  return .group number body

/-- Start to look behind; returns what was known before. -/
def startLookBehind : Read (Option Nat) := do
  let r ← get
  set { r with groupsBefore := some (r.groupsBefore.getD r.widths.length) }
  return r.groupsBefore

/-- The look behind for a body, whose width must be fixed. -/
def endLookBehind (before : Option Nat) (negated : Bool) (body : Pattern) : Read Pattern := do
  let width ← widthOf body
  modify fun r => { r with
    groupsBefore := before
    hasVariableLookBehind := r.hasVariableLookBehind || width.fixed?.isNone }
  return .behind negated width.least body

/-- Read the closing parenthesis of a group. -/
def closeParenthesis : Read Unit := do
  if !(← skip ')') then throw .missingParenthesis

/-- Set flags for the whole pattern, which is possible only at its start. -/
def setGlobalFlags (isStart : Bool) (letters : List FlagLetter) : Read Flags := do
  if !isStart then throw .lateFlags
  modify fun r => { r with
    flags := (letters.filter (· ≠ .u)).foldl Flags.set r.flags
    isUnlimited := r.isUnlimited || letters.contains .u }
  return (← get).flags

/-! ## Everything -/

/-- Drop the blanks and comments at the start of a text. -/
def dropRemarks : Nat → List Char → List Char
  | 0, cs => cs
  | fuel + 1, cs =>
    match cs with
    | '#' :: rest => dropRemarks fuel ((dropThrough '\n' rest).getD [])
    | c :: rest =>
      if c == ' ' || (9 ≤ c.toNat && c.toNat ≤ 13) then dropRemarks fuel rest else c :: rest
    | [] => []

mutual

/-- Read alternatives up to a closing parenthesis or the end. -/
def readAlternatives : Nat → (isWhole : Bool) → Flags → Read Pattern
  | 0, _, _ => throw .missingParenthesis
  | fuel + 1, isWhole, flags => do
    let first ← readSequence fuel isWhole flags .start
    readMoreAlternatives fuel isWhole flags first
termination_by structural fuel => fuel

/-- Read the alternatives after the first one. -/
def readMoreAlternatives : Nat → (isWhole : Bool) → Flags → Pattern → Read Pattern
  | 0, _, _, _ => throw .missingParenthesis
  | fuel + 1, isWhole, flags, first => do
    if ← skip '|' then
      let known ← get
      let flags := if isWhole then known.flags else flags
      let second ← readSequence fuel false flags .start
      return .alt first (← readMoreAlternatives fuel isWhole flags second)
    else return first
termination_by structural fuel => fuel

/-- Read the parts of a sequence up to a bar, a closing parenthesis or the end. -/
def readSequence : Nat → (isStart : Bool) → Flags → Partial → Read Pattern
  | 0, _, _, _ => throw .missingParenthesis
  | fuel + 1, isStart, flags, done => do
    if flags.verbose then goOn (dropRemarks ((← rest).length + 1) (← rest))
    match ← rest with
    | [] => return done.pattern
    | '|' :: _ => return done.pattern
    | ')' :: _ => return done.pattern
    | '.' :: cs => goOn cs; readSequence fuel isStart flags (done.push (.any flags.dotAll) .plain)
    | '^' :: cs =>
      goOn cs
      readSequence fuel isStart flags (done.push (if flags.lines then .atLineStart else .atStart) .place)
    | '$' :: cs =>
      goOn cs
      readSequence fuel isStart flags (done.push (if flags.lines then .atLineEnd else .atEnd) .place)
    | '[' :: cs =>
      goOn cs
      let set ← readClass flags
      readSequence fuel isStart flags (done.push set .plain)
    | '\\' :: cs =>
      goOn cs
      let escaped ← readEscape flags
      readSequence fuel isStart flags (done.pushEscaped flags escaped)
    | '(' :: cs =>
      goOn cs
      match ← readGroupKind flags with
      | .comment => readSequence fuel isStart flags done
      | .global letters =>
        let flags ← setGlobalFlags (isStart && done.last.isNone) letters
        readSequence fuel isStart flags done
      | .reference number =>
        let escaped ← referTo number
        readSequence fuel isStart flags (done.pushEscaped flags escaped)
      | kind =>
        let inner ← readGroup fuel flags kind
        readSequence fuel isStart flags (done.push inner .plain)
    | c :: cs =>
      match ← readBounds? with
      | none =>
        goOn cs
        readSequence fuel isStart flags (done.push (.char flags.caseRule c.toNat) .plain)
      | some bounds =>
        done.checkRepeat
        let greed ← readGreed
        readSequence fuel isStart flags (done.repeatLast bounds greed)
termination_by structural fuel => fuel

/-- Read the body of a group and its closing parenthesis. -/
def readGroup : Nat → Flags → GroupKind → Read Pattern
  | 0, _, _ => throw .missingParenthesis
  | fuel + 1, flags, kind => do
    match kind with
    | .capture name =>
      let number ← openGroup name
      let body ← readAlternatives fuel false flags
      closeParenthesis
      closeGroup number body
    | .atomic =>
      let body ← readAlternatives fuel false flags
      closeParenthesis
      return .atomic body
    | .look true negated =>
      let body ← readAlternatives fuel false flags
      closeParenthesis
      return .ahead negated body
    | .look false negated =>
      let before ← startLookBehind
      let body ← readAlternatives fuel false flags
      let look ← endLookBehind before negated body
      closeParenthesis
      return look
    | .condition number =>
      checkCondition number
      let yes ← readSequence fuel false flags .start
      let no ← if ← skip '|' then readSequence fuel false flags .start else pure .empty
      if (← rest).head? = some '|' then throw .tooManyBranches
      closeParenthesis
      return .ifMatched number yes no
    | .plain inner =>
      let body ← readAlternatives fuel false inner
      closeParenthesis
      return body
    | _ => throw .unknownExtension
termination_by structural fuel => fuel

end

/-- Read a pattern. -/
def read (s : String) : Except PatternError Pattern := do
  let cs := s.toList
  let (p, r) ← (readAlternatives (3 * cs.length + 3) true {}).run (.start cs)
  if r.flags.asciiOnly && r.isUnlimited then throw .incompatibleFlags
  if !r.rest.isEmpty then throw .unbalancedParenthesis
  if r.conditions.any (r.widths.length < ·) then throw .badGroupReference
  if r.hasVariableLookBehind then throw .variableLookBehind
  return p

end Pattern

end ApiLint
