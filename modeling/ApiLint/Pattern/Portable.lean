import ApiLint.Number.Numeral

/-!
# Patterns that can be put beside others

Whether a pattern text means the same when it stands in a longer text as one of several
alternatives.  That may fail if it refers to a group by its number or its name, or if it sets flags
for the text as a whole.
-/

namespace ApiLint.Pattern

/--
Do the characters after an opening parenthesis and a question mark start a group without name and
flags?
-/
def startsPlainGroup : List Char → Bool
  | '<' :: c :: _ => c == '=' || c == '!'
  | c :: _ => c == ':' || c == '=' || c == '!' || c == '>' || c == '#'
  | [] => false

/-- Does nothing start here that counts beyond the pattern itself? -/
def startsPortably : List Char → Bool
  | '\\' :: c :: _ => !Text.isAsciiDigit c
  | '(' :: '?' :: cs => startsPlainGroup cs
  | _ => true

/--
Has a pattern no backslash before a digit, and after an opening parenthesis and a question mark
neither a name nor a condition nor flags?
-/
def isPortable : List Char → Bool
  | [] => true
  | c :: cs => startsPortably (c :: cs) && isPortable cs

end ApiLint.Pattern
