import ApiLint.Console.Width
import ApiLint.Pointer.Segment
import ApiLint.Text.Blank

/-!
# Wrapping

A text is laid out on lines of a width.  Every line feed ends a line, tabs are filled up with blanks to the
next multiple of eight columns, and a word that has no room left goes on the next line.  Blanks stay with the
word before them and do not count where a line ends.  A word that is wider than a whole line is folded over
several lines or cut with an ellipsis.
-/

namespace ApiLint.Console

/-! ## Tabs -/

/-- The columns between tab stops. -/
def tabStop : Nat := 8

/-- Parts of a line that starts at a column, with blanks up to the next tab stop between them. -/
def fillTabs (column : Nat) : List (List Char) → List Char
  | [] => []
  | [part] => part
  | part :: rest =>
    let line := part ++ [' ']
    let stop := column + width line
    let blanks := (tabStop - stop % tabStop) % tabStop
    line ++ List.replicate blanks ' ' ++ fillTabs (stop + blanks) rest

/-- A line with blanks in place of tabs. -/
def expandTabs (cs : List Char) : List Char := fillTabs 0 (Segment.splitAt '\t' cs)

/-! ## Words -/

/-- The words of a text, where a word, in reverse, was read just before it; blanks may have come after it. -/
def wordsAfter (word : List Char) : List Char → List (List Char)
  | [] => if word.all Text.isBlank then [] else [word.reverse]
  | c :: rest =>
    if ¬ Text.isBlank c ∧ word.head?.any Text.isBlank ∧ ¬ word.all Text.isBlank then
      word.reverse :: wordsAfter [c] rest
    else wordsAfter (c :: word) rest

/-- The words of a text, each with the blanks after it, and the first one with the blanks before it. -/
def words (cs : List Char) : List (List Char) := wordsAfter [] cs

/-- Drop blanks at the end. -/
def trimEnd (cs : List Char) : List Char := (cs.reverse.dropWhile Text.isBlank).reverse

/-! ## Filling lines -/

/-- What becomes of a word that is wider than a line. -/
inductive Overflow where
  | fold
  | ellipsis
deriving DecidableEq

/-- The lines that clusters fill, where a line of a width was filled before them. -/
def chopAfter (columns : Nat) (line : List Char) (filled : Nat) : List Cluster → List (List Char)
  | [] => if filled = 0 then [] else [line]
  | cluster :: rest =>
    if columns < filled + cluster.width then line :: chopAfter columns cluster.chars cluster.width rest
    else chopAfter columns (line ++ cluster.chars) (filled + cluster.width) rest

/-- The lines that a long word fills. -/
def chop (columns : Nat) (word : List Char) : List (List Char) := chopAfter columns [] 0 (clusters word)

/-- Lines that are being filled: the finished ones, last first, and the one at hand with its width. -/
structure Filling where
  done : List (List Char)
  line : List Char
  column : Nat

namespace Filling

/-- No word is there yet. -/
def isFresh (f : Filling) : Bool := f.done.isEmpty && f.line.isEmpty

/-- Go on with new lines, the last of which stays at hand. -/
def startWith (f : Filling) (lines : List (List Char)) : Filling :=
  let done := if f.isFresh then f.done else f.line :: f.done
  match lines.reverse with
  | [] => f
  | last :: earlier => ⟨earlier ++ done, last, width last⟩

/-- Put one more word on the lines. -/
def put (overflow : Overflow) (columns : Nat) (f : Filling) (word : List Char) : Filling :=
  let needed := width (trimEnd word)
  if f.column + needed ≤ columns then ⟨f.done, f.line ++ word, f.column + width word⟩
  else if columns < needed then
    match overflow with
    | .fold => f.startWith (chop columns word)
    | .ellipsis => f.startWith [word]
  else if f.column = 0 then ⟨f.done, f.line ++ word, f.column⟩
  else f.startWith [word]

end Filling

/-- The lines that a text without line feeds fills. -/
def fill (overflow : Overflow) (columns : Nat) (cs : List Char) : List (List Char) :=
  match words cs with
  | [] => [cs]
  | ws =>
    let f := ws.foldl (Filling.put overflow columns) ⟨[], [], 0⟩
    (f.line :: f.done).reverse

/-- Drop blanks at the end of a line that has more characters than columns, as many as there are too many. -/
def dropExcess (columns : Nat) (cs : List Char) : List Char :=
  let blanks := (cs.reverse.takeWhile Text.isBlank).length
  cs.take (cs.length - min blanks (cs.length - columns))

/-- Cut a line that is wider than it may be. -/
def cut (overflow : Overflow) (columns : Nat) (cs : List Char) : List Char :=
  if width cs ≤ columns then cs
  else
    match overflow with
    | .fold => fitTo columns cs
    | .ellipsis => fitTo (columns - 1) cs ++ ['…']

/-- The lines that a text is laid out on. -/
def layOut (overflow : Overflow) (columns : Nat) (cs : List Char) : List (List Char) :=
  (Segment.splitAt '\n' cs).flatMap fun line =>
    (fill overflow columns (expandTabs line)).map fun part => cut overflow columns (dropExcess columns part)

end ApiLint.Console
