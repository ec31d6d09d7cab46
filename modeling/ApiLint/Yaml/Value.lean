import ApiLint.Node.Basic
import ApiLint.Number.Arithmetic
import ApiLint.Text.Base64
import ApiLint.Text.LetterCase
import ApiLint.Yaml.Implicit

/-!
# From a tree to a value

First the entries under a merge key are put before the other entries of their mapping.  Then scalars get
the values that their tags or their texts ask for.

Values are made level by level, outermost first.  Of several faults the one on the outermost level counts,
and on one level the first; so a fault carries its level, and `firstFault` chooses.  That a collection holds
itself, or is a set, is found only when all values are made.
-/

namespace ApiLint.Yaml

/-! ## Merging -/

/-- A tree without merge keys. -/
inductive Content where
  | scalar (number : Nat) (tag : Tag) (text : String) (isPlain : Bool)
  | sequence (tag : Tag) (items : List Content)
  | mapping (tag : Tag) (entries : List (Content × Content))
  /-- A sequence of pairs. -/
  | pairs (entries : List (Content × Content))
  /-- The collection that this is a part of. -/
  | itself
  /-- What has no value; the fault is met so many levels further down. -/
  | broken (depth : Nat) (error : ReadError)

/-- What a tag of this format is called after its common start. -/
def Tag.standardName? : Tag → Option String
  | .name s =>
    if Tree.standardStart.toList.isPrefixOf s.toList then
      some (String.ofList (s.toList.drop Tree.standardStart.length))
    else none
  | _ => none

/-- The meaning that a tag asks for by its name. -/
def Tag.scalarKind? (tag : Tag) : Option ScalarKind := tag.standardName?.bind ScalarKind.ofTagName?

/-- Does a tag ask for a set? -/
def Tag.isSet (tag : Tag) : Bool := tag.standardName? = some "set"

/-- Does a tag ask for a sequence of pairs? -/
def Tag.isPairs (tag : Tag) : Bool := tag.standardName? = some "pairs" || tag.standardName? = some "omap"

/-- The meaning that a scalar has by its tag and its text, if its tag is known. -/
def scalarKind? (tag : Tag) (text : String) (isPlain : Bool) : Option ScalarKind :=
  match tag with
  | .absent => some (if isPlain then .ofPlain text else .str)
  | .usual => some (.ofPlain text)
  | .name _ => tag.scalarKind?

/-- The meaning of a tree, if it is a scalar or tagged as one. -/
def Tree.kind? : Tree → Option ScalarKind
  | .scalar _ tag text isPlain => Yaml.scalarKind? tag text isPlain
  | .sequence tag _ => tag.scalarKind?
  | .mapping tag _ => tag.scalarKind?
  | .itself => none

mutual

/-- The text of a scalar; for a mapping, that of the value of its first lone equals sign. -/
def Tree.text? : Tree → Option String
  | .scalar _ _ text _ => some text
  | .sequence _ _ => none
  | .mapping _ entries => Tree.textOfEntries? entries
  | .itself => none
termination_by structural t => t

/-- The text of the value of the first lone equals sign among keys. -/
def Tree.textOfEntries? : List (Tree × Tree) → Option String
  | [] => none
  | (key, value) :: rest => if key.kind? = some .value then value.text? else Tree.textOfEntries? rest
termination_by structural ts => ts

end

namespace Content

/-- The meaning of a content, if it is a scalar or tagged as one. -/
def kind? : Content → Option ScalarKind
  | .scalar _ tag text isPlain => scalarKind? tag text isPlain
  | .sequence tag _ => tag.scalarKind?
  | .mapping tag _ => tag.scalarKind?
  | .pairs _ => none
  | .itself => none
  | .broken _ _ => none

/--
The entries that a value of a merge key brings; of several mappings the last one comes first, and a mapping
brings nothing to itself.  Nor does a mapping around it, which would make a value that holds itself: such values are
left to other readers.
-/
def mergedEntries? : Content → Option (List (Content × Content))
  | .mapping _ entries => some entries
  | .itself => some []
  | .sequence _ items =>
    items.foldl (fun done item =>
      match done, item with
      | some entries, .mapping _ more => some (more ++ entries)
      | some entries, .itself => some entries
      | _, _ => none) (some [])
  | _ => none

/-- A lone equals sign is a string when it is a key. -/
def plainKey (key : Content) : Content :=
  match key.kind?, key with
  | some .value, .scalar number _ text _ => .scalar number .absent text false
  | _, _ => key

/-- Split entries into those that merge keys bring and all others. -/
def splitMerges : List (Content × Content) → Option (List (Content × Content) × List (Content × Content))
  | [] => some ([], [])
  | (key, value) :: rest =>
    match splitMerges rest with
    | none => none
    | some (merged, own) =>
      if key.kind? = some .merge then value.mergedEntries?.map fun more => (more ++ merged, own)
      else some (merged, (plainKey key, value) :: own)

/-- A mapping with the entries of its merge keys in front. -/
def ofEntries (tag : Tag) (entries : List (Content × Content)) : Content :=
  match splitMerges entries with
  | some (merged, own) => .mapping tag (merged ++ own)
  | none => .broken 1 (.malformed .badMerge)

/-- A mapping under the tag of a scalar: the scalar that its text stands for. -/
def ofText (kind : ScalarKind) (tag : Tag) (text? : Option String) : Content :=
  match kind, text? with
  | .merge, _ => .scalar 0 tag "" false
  | .time, some _ => .broken 0 .timeInMapping
  | _, some text => .scalar 0 tag text false
  | _, none => .broken 0 (.malformed .wrongKind)

mutual

/-- Resolve all merge keys of a tree, the inner ones first. -/
def ofTree : Tree → Content
  | .scalar number tag text isPlain => .scalar number tag text isPlain
  | .sequence tag items =>
    if tag.isPairs then
      match ofSingles items with
      | some entries => .pairs entries
      | none => .broken 1 (.malformed .wrongKind)
    else .sequence tag (ofItems items)
  | .mapping tag entries =>
    match tag.scalarKind? with
    | some kind => ofText kind tag (Tree.textOfEntries? entries)
    | none => ofEntries tag (ofPairs entries)
  | .itself => .itself
termination_by structural t => t

/-- Resolve all merge keys of items. -/
def ofItems : List Tree → List Content
  | [] => []
  | t :: ts => ofTree t :: ofItems ts
termination_by structural ts => ts

/-- The entries of mappings that have one entry each. -/
def ofSingles : List Tree → Option (List (Content × Content))
  | [] => some []
  | t :: ts =>
    match ofSingle t, ofSingles ts with
    | some entry, some entries => some (entry :: entries)
    | _, _ => none
termination_by structural ts => ts

/-- The one entry of a mapping. -/
def ofSingle : Tree → Option (Content × Content)
  | .mapping _ entries =>
    match ofPairs entries with
    | [entry] => some entry
    | _ => none
  | _ => none
termination_by structural t => t

/-- Resolve all merge keys inside keys and values. -/
def ofPairs : List (Tree × Tree) → List (Content × Content)
  | [] => []
  | (key, value) :: rest => (ofTree key, ofTree value) :: ofPairs rest
termination_by structural ts => ts

end

end Content

/-! ## Scalars -/

/-- Is the text written with a minus sign? -/
def isNegative (cs : List Char) : Bool := cs.head? == some '-'

/-- The integer that digits of a base write. -/
def integerOf (base : Nat) (cs : List Char) : Except ReadError Int :=
  match Text.integer base cs with
  | .ok n => .ok n
  | .error (.long e) => .error (.longNumeral e)
  | .error e => .error (.notInteger e)

/-- The integer of numbers to the base sixty, the greatest place first. -/
def sexagesimalInt (parts : List (List Char)) : Except ReadError Int :=
  parts.foldlM (fun n part => (integerOf 10 part).map (60 * n + ·)) 0

/-- The integer that a text writes. -/
def intOfText (text : String) : Except ReadError Int :=
  let cs := text.toList.filter (· != '_')
  let body := dropSign cs
  let magnitude : Except ReadError Int := match body with
    | ['0'] => .ok 0
    | '0' :: 'b' :: rest => integerOf 2 rest
    | '0' :: 'x' :: rest => integerOf 16 rest
    | '0' :: _ => integerOf 8 body
    | _ => if body.contains ':' then sexagesimalInt (colonParts body) else integerOf 10 body
  if body.isEmpty then .error .emptyNumber
  else magnitude.map fun n => if isNegative cs then -n else n

/-- The number that a text writes with digits, a point and an exponent, or by name. -/
def decimalOf (cs : List Char) : Except ReadError Binary64 :=
  let (negative, body) := Text.splitSign (Text.numeralChars cs)
  if body = "inf".toList || body = "infinity".toList then .ok (.infinity negative)
  else if body = "nan".toList then .ok .nan
  else match Binary64.ofDigits? negative body with
    | some x => .ok x
    | none => .error (.notFloat (String.ofList cs))

/-- The number of numbers to the base sixty, rounded after every step from the last place on. -/
def sexagesimalFloat (parts : List (List Char)) : Except ReadError Binary64 := do
  let numbers ← parts.mapM decimalOf
  let step (done : Binary64 × Nat) (x : Binary64) : Except ReadError (Binary64 × Nat) :=
    match Binary64.ofInt? done.2 with
    | some weight => .ok (done.1.add (x.mul weight), done.2 * 60)
    | none => .error .tooManyParts
  return (← numbers.reverse.foldlM step (Binary64.ofMagnitude false 0, 1)).1

/-- What is written as not a number by the name that needs no tag; it is the same everywhere. -/
def plainNan : Binary64 := .markedNan 1

/-- What is not a number at the place of a scalar. -/
def nanAt (number : Nat) : Binary64 := .markedNan (number + 2)

/-- The number with a point that a text writes at the place of a scalar. -/
def floatOfText (number : Nat) (text : String) : Except ReadError Binary64 :=
  let cs := Text.smallLetters (text.toList.filter (· != '_'))
  let body := dropSign cs
  let signed (x : Binary64) : Binary64 :=
    match x.view with
    | .nan => nanAt number
    | _ => if isNegative cs then x.neg else x
  if cs.isEmpty then .error .emptyNumber
  else if body = ".inf".toList then .ok (.infinity (isNegative cs))
  else if body = ".nan".toList then .ok plainNan
  else if body.contains ':' then (sexagesimalFloat (colonParts body)).map signed
  else (decimalOf body).map signed

/-- The truth value of a word. -/
def boolOfText (text : String) : Except ReadError Bool :=
  let word := String.ofList (text.toList.map Char.toLower)
  if ["yes", "true", "on"].contains word then .ok true
  else if ["no", "false", "off"].contains word then .ok false
  else .error .notBool

/-- The number of microseconds that the digits of a fraction of a second write. -/
def microseconds (fraction : List Char) : Nat :=
  let digits := fraction.take 6
  Text.numeral (digits ++ List.replicate (6 - digits.length) '0')

/-- The date or time that a text writes. -/
def timeOfText (text : String) : Except ReadError Node :=
  match timeText? text.toList with
  | none => .error .notTime
  | some t =>
    let date : Date := ⟨t.year, t.month, t.day⟩
    let answer : Except CalendarError Node := match t.clock with
      | none => date.check.map .date
      | some (hour, minute, second, fraction) =>
        (DateTime.check {
          date, hour, minute, second
          microsecond := microseconds fraction
          offset := t.offset }).map .dateTime
    match answer with
    | .ok x => .ok x
    | .error e => .error (.calendar e)

/-- The bytes that a text stands for; only ASCII characters may occur. -/
def bytesOfText (text : String) : Except ReadError (List UInt8) :=
  if text.toList.all (·.toNat < 128) then
    match Text.Base64.decode? text.toList with
    | some bytes => .ok bytes
    | none => .error (.malformed .badBinary)
  else .error (.malformed .badBinary)

/-- The value of a scalar of a kind; marks of merging and lone equals signs have none. -/
def scalarValue (number : Nat) (kind : ScalarKind) (text : String) : Except ReadError Node :=
  match kind with
  | .null => .ok .null
  | .str => .ok (.str text)
  | .bool => (boolOfText text).map .bool
  | .int => (intOfText text).map .int
  | .float => (floatOfText number text).map .float
  | .time => timeOfText text
  | .binary => (bytesOfText text).map .bytes
  | .merge => .error (.malformed .unknownTag)
  | .value => .error (.malformed .unknownTag)

/-! ## Values -/

/-- A fault on a level. -/
structure LevelFault where
  level : Nat
  error : ReadError

/-- The outcome of making a value. -/
abbrev Made (α : Type) := Except LevelFault α

/-- Is a fault found only when the value as a whole is there? -/
def ReadError.isLate : ReadError → Bool
  | .endless | .unordered => true
  | _ => false

/-- Does a fault count before one that is written before it? -/
def LevelFault.overtakes (second first : LevelFault) : Bool :=
  !second.error.isLate && (first.error.isLate || second.level < first.level)

/-- Combine two outcomes; of two faults the outer one counts, on one level the first. -/
def firstFault (f : α → β → γ) : Made α → Made β → Made γ
  | .ok a, .ok b => .ok (f a b)
  | .ok _, .error e => .error e
  | .error e, .ok _ => .error e
  | .error first, .error second => .error (if second.overtakes first then second else first)

/-- Is a tag one of the format's for collections? -/
def Tag.isCollection (tag : Tag) : Bool :=
  match tag.standardName? with
  | some word => ["seq", "map", "pairs", "omap", "set"].contains word
  | none => false

/-- The tag of a sequence or a mapping against the one it should have. -/
inductive TagFit where
  | fits
  /-- The tag of another kind of collection. -/
  | crossed
  /-- The tag of a scalar. -/
  | scalar
  | unknown
deriving DecidableEq

/-- How a tag fits a collection whose usual tag has a name. -/
def tagFit (usual : String) (tag : Tag) : TagFit :=
  if tag = .absent ∨ tag = .usual ∨ tag.standardName? = some usual then .fits
  else if tag.isCollection then .crossed
  else if tag.scalarKind?.isSome then .scalar
  else .unknown

/-- A collection that is made on the level below, if its tag fits. -/
def withTag (fit : TagFit) (level : Nat) (made : Made α) : Made α :=
  match fit with
  | .fits => made
  | .crossed => .error ⟨level + 1, .malformed .wrongKind⟩
  | .scalar => .error ⟨level, .malformed .wrongKind⟩
  | .unknown => .error ⟨level, .malformed .unknownTag⟩

/-- A scalar made on a level. -/
def madeScalar (level : Nat) (number : Nat) (tag : Tag) (text : String) (isPlain : Bool) : Made Node :=
  match scalarKind? tag text isPlain with
  | some kind =>
    match scalarValue number kind text with
    | .ok x => .ok x
    | .error e => .error ⟨level, e⟩
  | none =>
    if tag.isCollection then .error ⟨level + 1, .malformed .wrongKind⟩
    else .error ⟨level, .malformed .unknownTag⟩

mutual

/-- The value of a content that is met on a level. -/
def made (level : Nat) : Content → Made Node
  | .scalar number tag text isPlain => madeScalar level number tag text isPlain
  | .sequence tag items =>
    withTag (tagFit "seq" tag) level ((madeItems (level + 1) items).map .list)
  | .mapping tag entries =>
    if tag.isSet then
      match madeEntries (level + 1) entries with
      | .ok _ => .error ⟨level, .unordered⟩
      | .error fault => .error fault
    else withTag (tagFit "map" tag) level ((madeEntries (level + 1) entries).map Node.ofEntries)
  | .pairs entries => (madePairs (level + 1) entries).map .list
  | .itself => .error ⟨level, .endless⟩
  | .broken depth error => .error ⟨level + depth, error⟩
termination_by structural c => c

/-- The values of items. -/
def madeItems (level : Nat) : List Content → Made (List Node)
  | [] => .ok []
  | c :: cs => firstFault (· :: ·) (made level c) (madeItems level cs)
termination_by structural cs => cs

/-- The keys and values of pairs. -/
def madePairs (level : Nat) : List (Content × Content) → Made (List Node)
  | [] => .ok []
  | (key, value) :: rest =>
    firstFault (· :: ·)
      (firstFault (fun key value => .tuple [key, value]) (made level key) (made level value))
      (madePairs level rest)
termination_by structural cs => cs

/-- The keys and values of entries; a key must be a scalar. -/
def madeEntries (level : Nat) : List (Content × Content) → Made (List (Node × Node))
  | [] => .ok []
  | (.scalar number tag text isPlain, value) :: rest =>
    firstFault (fun (entry : Node × Node) entries => entry :: entries)
      (firstFault (fun key value => (key, value)) (madeScalar level number tag text isPlain)
        (made level value))
      (madeEntries level rest)
  | (.broken 0 error, _) :: _ => .error ⟨level, error⟩
  | (_, _) :: _ => .error ⟨level, .malformed .unhashableKey⟩
termination_by structural cs => cs

end

/-- The value of a tree. -/
def Tree.toNode (t : Tree) : Except ReadError Node :=
  match made 0 (Content.ofTree t) with
  | .ok x => .ok x
  | .error fault => .error fault.error

end ApiLint.Yaml
