/-!
# Pointer segments

In a pointer a slash separates segments, so a slash inside one is written `~1`, and a tilde `~0`.  Reading
replaces `~1` first and `~0` second; `decode` does the same in one pass.
-/

namespace ApiLint.Segment

/-- Replace every pair of adjacent characters `first second` by one character. -/
def replacePair (first second replacement : Char) : List Char → List Char
  | [] => []
  | [c] => [c]
  | c :: d :: rest =>
    if c = first ∧ d = second then replacement :: replacePair first second replacement rest
    else c :: replacePair first second replacement (d :: rest)

/-- Replace every occurrence of a character by two. -/
def expandChar (single first second : Char) (cs : List Char) : List Char :=
  cs.flatMap fun c => if c = single then [first, second] else [c]

/-- Read a segment: `~1` is a slash, and then `~0` is a tilde. -/
def unescapeChars (cs : List Char) : List Char :=
  replacePair '~' '0' '~' (replacePair '~' '1' '/' cs)

/-- Write a segment: a tilde is `~0`, and then a slash is `~1`. -/
def escapeChars (cs : List Char) : List Char :=
  expandChar '/' '~' '1' (expandChar '~' '~' '0' cs)

/-- Read a segment. -/
def unescape (s : String) : String := String.ofList (unescapeChars s.toList)

/-- Write a segment. -/
def escape (s : String) : String := String.ofList (escapeChars s.toList)

/-- What one look at a segment meets: an escape, or a character that starts none. -/
inductive Mark where
  | slash
  | tilde
  | plain (c : Char)
deriving DecidableEq

/-- The characters that a mark is written with. -/
def Mark.written : Mark → List Char
  | slash => ['~', '1']
  | tilde => ['~', '0']
  | plain c => [c]

/-- The character that a mark stands for. -/
def Mark.meaning : Mark → Char
  | slash => '/'
  | tilde => '~'
  | plain c => c

/-- The marks of a segment, from left to right. -/
def marks : List Char → List Mark
  | '~' :: '1' :: rest => .slash :: marks rest
  | '~' :: '0' :: rest => .tilde :: marks rest
  | c :: rest => .plain c :: marks rest
  | [] => []

/-- Read a segment in one pass: every escape, and every other character, is looked at once. -/
def decode (cs : List Char) : List Char := (marks cs).map Mark.meaning

/-- Split at every occurrence of a character; there is always at least one part. -/
def splitAt (separator : Char) : List Char → List (List Char)
  | [] => [[]]
  | c :: rest =>
    if c = separator then [] :: splitAt separator rest
    else match splitAt separator rest with
      | [] => [[c]]
      | part :: parts => (c :: part) :: parts

end ApiLint.Segment
