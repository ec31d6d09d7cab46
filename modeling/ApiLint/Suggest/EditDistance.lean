/-!
# Edit distance

The least number of single-character insertions, deletions and substitutions between two texts, computed
row by row: a row holds the distances from a fixed beginning of the first text to all beginnings of the
second one.  Equal texts and empty ones need no rows.
-/

namespace ApiLint.EditDistance

/-- The distances from the empty text to all beginnings of a text. -/
def firstRow (target : List Char) : List Nat := List.range (target.length + 1)

/--
The cells of the next row after the cell `left`; `corner :: above` are the cells over `left` and to its
right.
-/
def nextCells (c : Char) (left corner : Nat) : List Char → List Nat → List Nat
  | t :: target, up :: above =>
    let cell := min (min (up + 1) (left + 1)) (corner + if c = t then 0 else 1)
    cell :: nextCells c cell up target above
  | _, _ => []

/-- The row after one more character of the first text. -/
def nextRow (target : List Char) (row : List Nat) (c : Char) : List Nat :=
  match row with
  | [] => []
  | corner :: above => (corner + 1) :: nextCells c (corner + 1) corner target above

/-- The last cell of the row after all characters of the first text. -/
def lastCell (source target : List Char) : Nat :=
  (source.foldl (nextRow target) (firstRow target)).getLastD 0

/-- The edit distance of two texts. -/
def distance (source target : List Char) : Nat :=
  if source = target then 0
  else if source.isEmpty then target.length
  else if target.isEmpty then source.length
  else lastCell source target

end ApiLint.EditDistance

namespace ApiLint

/-- The edit distance of two strings, counted in characters. -/
def editDistance (a b : String) : Nat := EditDistance.distance a.toList b.toList

end ApiLint
