import ApiLint.Number.Numeral
import ApiLint.Pointer.Path

/-!
# Resolving pointers

A pointer is `#` or empty for the root, or `#/` followed by segments.  A segment names an entry of a
mapping, or an item of a sequence by its index in canonical decimal form.
-/

namespace ApiLint.Pointer

/-- The digits of an index: a zero alone or digits that start with another one, then perhaps a line feed. -/
def indexDigits? (key : List Char) : Option (List Char) :=
  let digits := key.takeWhile Text.isAsciiDigit
  let rest := key.dropWhile Text.isAsciiDigit
  if rest = [] ∨ rest = ['\n'] then
    match digits with
    | [] => none
    | ['0'] => some ['0']
    | '0' :: _ => none
    | digits => some digits
  else none

/-- The item of a sequence that a segment names. -/
def item? (items : List Node) (key : String) : Except LongNumeral (Option Node) :=
  match indexDigits? key.toList with
  | none => .ok none
  | some digits =>
    match Text.numeralWithin digits with
    | .error e => .error e
    | .ok i => .ok items[i]?

/-- One step from a node along an unescaped segment. -/
def step? (node : Node) (key : String) : Except LongNumeral (Option Node) :=
  match node with
  | .map entries => .ok (Node.lookup key entries)
  | .list items => item? items key
  | .tuple items => item? items key
  | _ => .ok none

/-- Steps along segments until one fails. -/
def walk? (node : Node) : List String → Except LongNumeral (Option Node)
  | [] => .ok (some node)
  | key :: keys =>
    match step? node key with
    | .error e => .error e
    | .ok none => .ok none
    | .ok (some next) => walk? next keys

/-- The node that a pointer text leads to. -/
def resolveText? (root : Node) (pointer : String) : Except LongNumeral (Option Node) :=
  match pointer.toList with
  | [] => .ok (some root)
  | ['#'] => .ok (some root)
  | '#' :: '/' :: rest =>
    walk? root ((Segment.splitAt '/' rest).map fun s => String.ofList (Segment.unescapeChars s))
  | _ => .ok none

/-- The node that a pointer leads to; what is not a text leads nowhere. -/
def resolve? (root : Node) : Node → Except LongNumeral (Option Node)
  | .str pointer => resolveText? root pointer
  | _ => .ok none

end ApiLint.Pointer
