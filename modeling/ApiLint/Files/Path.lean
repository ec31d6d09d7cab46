import ApiLint.Pointer.Segment

/-!
# File paths

A path is a list of names, after one slash, two slashes or none.  Repeated slashes, single dots and slashes
at the end do not count; double dots do.
-/

namespace ApiLint

/-- A file path. -/
structure FilePath where
  /-- The number of slashes before the first name: none, one or two. -/
  slashes : Nat
  names : List String
deriving DecidableEq

namespace FilePath

/-- The path that a text writes. -/
def ofText (s : String) : FilePath :=
  let cs := s.toList
  let count := (cs.takeWhile (· == '/')).length
  { slashes := if count = 0 then 0 else if count = 2 then 2 else 1
    names := ((Segment.splitAt '/' cs).map String.ofList).filter fun name => name ≠ "" ∧ name ≠ "." }

/-- The text of a path; the empty path is a dot. -/
def text (p : FilePath) : String :=
  if p.slashes = 0 ∧ p.names.isEmpty then "."
  else String.ofList (List.replicate p.slashes '/') ++ "/".intercalate p.names

/-- Does the path hold the NUL character, which no path may hold? -/
def hasNul (p : FilePath) : Bool := p.names.any fun name => name.toList.contains '\x00'

/-- The path without its last name. -/
def parent (p : FilePath) : FilePath := { p with names := p.names.dropLast }

/-- The last name, or nothing. -/
def name (p : FilePath) : String := p.names.getLast?.getD ""

/-- The end of a text from its last dot on; a dot at the start or the end of the text does not count. -/
def suffixOf (cs : List Char) : List Char :=
  let extension := (cs.reverse.takeWhile (· != '.')).reverse
  let stem := (cs.reverse.dropWhile (· != '.')).reverse.dropLast
  if stem.isEmpty || extension.isEmpty then [] else '.' :: extension

/-- The suffix of the last name, with its dot and in small letters. -/
def suffix (p : FilePath) : String := String.ofList ((suffixOf p.name.toList).map Char.toLower)

end FilePath

end ApiLint
