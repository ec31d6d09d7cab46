import ApiLint.Node.Basic
import ApiLint.Number.Shortest
import ApiLint.Number.Numeral

/-!
# Writing JSON text

A value is written in one line without blanks, or over several lines with two blanks of indentation per
level.  Characters outside ASCII are written as themselves.  Bytes, dates, and mappings with keys that
have no name in JSON cannot be written.
-/

namespace ApiLint.Json

/-- What stands between the parts of a value. -/
structure Layout where
  /-- Between a name and its value. -/
  colon : List Char
  /-- Before each part of a value at this depth, and before its closing bracket. -/
  lineBreak : Nat → List Char

/-- Everything in one line, without blanks. -/
def compact : Layout := ⟨[':'], fun _ => []⟩

/-- A line for each part, two blanks deeper than the whole. -/
def indented : Layout := ⟨[':', ' '], fun depth => '\n' :: List.replicate (2 * depth) ' '⟩

/-- One character of a string. -/
def escapedChar (c : Char) : List Char :=
  if c = '"' then ['\\', '"']
  else if c = '\\' then ['\\', '\\']
  else if c = '\n' then ['\\', 'n']
  else if c = '\r' then ['\\', 'r']
  else if c = '\t' then ['\\', 't']
  else if c = '\x08' then ['\\', 'b']
  else if c = '\x0c' then ['\\', 'f']
  else if c < ' ' then '\\' :: 'u' :: Text.hexadecimal c.toNat 4
  else [c]

/-- A string with its quotes. -/
def stringChars (s : String) : List Char :=
  '"' :: s.toList.flatMap escapedChar ++ ['"']

/-- The text of a number that need not be finite. -/
def floatText (x : Binary64) : String :=
  match x.view with
  | .nan => "NaN"
  | .infinite negative => if negative then "-Infinity" else "Infinity"
  | .finite .. => x.text

/-- The name of an entry, for the keys that have one. -/
def entryName? : Node → Option String
  | .str s => some s
  | .null => some "null"
  | .bool b => some (if b then "true" else "false")
  | .int n => some (toString n)
  | .float x => some (floatText x)
  | _ => none

mutual

/-- The text of a value that starts at the given depth. -/
def valueChars? (layout : Layout) (depth : Nat) : Node → Option (List Char)
  | .null => some "null".toList
  | .bool b => some (if b then "true".toList else "false".toList)
  | .int n => some (toString n).toList
  | .float x => some (floatText x).toList
  | .str s => some (stringChars s)
  | .list [] => some ['[', ']']
  | .tuple [] => some ['[', ']']
  | .map [] => some ['\x7b', '\x7d']
  | .list (x :: xs) => do
    let first ← valueChars? layout (depth + 1) x
    let others ← itemsChars? layout (depth + 1) xs
    pure ('[' :: layout.lineBreak (depth + 1) ++ first ++ others ++ layout.lineBreak depth ++ [']'])
  | .tuple (x :: xs) => do
    let first ← valueChars? layout (depth + 1) x
    let others ← itemsChars? layout (depth + 1) xs
    pure ('[' :: layout.lineBreak (depth + 1) ++ first ++ others ++ layout.lineBreak depth ++ [']'])
  | .map ((key, value) :: entries) => do
    let name ← entryName? key
    let first ← valueChars? layout (depth + 1) value
    let others ← entriesChars? layout (depth + 1) entries
    pure ('\x7b' :: layout.lineBreak (depth + 1) ++ stringChars name ++ layout.colon ++ first ++ others
      ++ layout.lineBreak depth ++ ['\x7d'])
  | .bytes _ => none
  | .date _ => none
  | .dateTime _ => none
termination_by structural x => x

/-- The texts of the items after the first, each after a comma. -/
def itemsChars? (layout : Layout) (depth : Nat) : List Node → Option (List Char)
  | [] => some []
  | x :: xs => do
    let first ← valueChars? layout depth x
    let others ← itemsChars? layout depth xs
    pure (',' :: layout.lineBreak depth ++ first ++ others)
termination_by structural xs => xs

/-- The texts of the entries after the first, each after a comma. -/
def entriesChars? (layout : Layout) (depth : Nat) : List (Node × Node) → Option (List Char)
  | [] => some []
  | (key, value) :: entries => do
    let name ← entryName? key
    let first ← valueChars? layout depth value
    let others ← entriesChars? layout depth entries
    pure (',' :: layout.lineBreak depth ++ stringChars name ++ layout.colon ++ first ++ others)
termination_by structural xs => xs

end

/-- Write a value, if every part of it has a JSON text. -/
def write? (layout : Layout) (x : Node) : Option String :=
  (valueChars? layout 0 x).map String.ofList

/-- Write a string. -/
def writeString (s : String) : String := String.ofList (stringChars s)

end ApiLint.Json
