import ApiLint.Console.Line

/-!
# Tables

A table has a title, headers and rows of cells, all of them markup.  A column is as wide as its widest
cell, with a blank on either side; the title is put in the middle above.  If the columns have no room on the
console, the widest ones are narrowed.  The lines of a cell that has several stand below each other.
-/

namespace ApiLint.Console

/-- A table of markup. -/
structure Table where
  title : String
  headers : List String
  rows : List (List String)
deriving DecidableEq

namespace Table

/-! ## Reading -/

/-- The texts of the cells of a row. -/
def readRow : List String → Except Markup.Fault (List (List Char))
  | [] => .ok []
  | markup :: rest =>
    match visible markup, readRow rest with
    | .ok cell, .ok cells => .ok (cell :: cells)
    | .error fault, _ => .error fault
    | _, .error fault => .error fault

/-- The texts of the cells of several rows. -/
def readRows : List (List String) → Except Markup.Fault (List (List (List Char)))
  | [] => .ok []
  | row :: rest =>
    match readRow row, readRows rest with
    | .ok cells, .ok rows => .ok (cells :: rows)
    | .error fault, _ => .error fault
    | _, .error fault => .error fault

/-! ## Widths of columns -/

/-- The blanks on both sides of a cell. -/
def padding : Nat := 2

/-- What a table of so many columns has for them on a console, all but their edges. -/
def room (console count : Nat) : Nat := console - (count + 1)

/-- The width that a cell asks for: no more than there is. -/
def cellWidth (room : Nat) (cell : List Char) : Nat := min room (min room (measure cell) + padding)

/-- The widths of columns that have room for the cells of a row too. -/
def widen (room : Nat) : List Nat → List (List Char) → List Nat
  | w :: ws, cell :: cells => max w (cellWidth room cell) :: widen room ws cells
  | [], cells => cells.map (cellWidth room)
  | ws, [] => ws

/-- A share of a total in so many parts; a half goes to the even neighbour. -/
def share (total parts : Nat) : Nat :=
  let whole := total / parts
  let twice := 2 * (total % parts)
  if parts < twice ∨ (twice = parts ∧ whole % 2 = 1) then whole + 1 else whole

/-- Take an excess from the columns of one width, of which so many are left, and from none more than a
limit. -/
def narrowWidest (widest limit excess count : Nat) : List Nat → List Nat
  | [] => []
  | w :: ws =>
    if w = widest then
      let taken := min limit (share excess count)
      (w - taken) :: narrowWidest widest limit (excess - taken) (count - 1) ws
    else w :: narrowWidest widest limit excess count ws

/-- Narrow the widest columns until all have room, at most so many times. -/
def narrow (fuel : Nat) (room : Nat) (widths : List Nat) : List Nat :=
  match fuel with
  | 0 => widths
  | fuel + 1 =>
    let excess := widths.sum - room
    if excess = 0 then widths
    else
      let widest := widths.foldl max 0
      let next := (widths.filter (· ≠ widest)).foldl max 0
      let limit := min excess (widest - next)
      narrow fuel room (narrowWidest widest limit excess (widths.count widest) widths)

/-- The widths of columns on a console, with their padding. -/
def columnWidths (console : Nat) (headers : List (List Char)) (rows : List (List (List Char))) : List Nat :=
  let room := room console headers.length
  narrow (headers.length + 1) room (rows.foldl (widen room) (headers.map (cellWidth room)))

/-! ## Drawing -/

/-- The characters that the lines of a table are drawn with: the left edge, the inner and the right one. -/
structure Edges where
  left : Char
  inner : Char
  right : Char

/-- One line of a table between edges. -/
def join (edges : Edges) (parts : List (List Char)) : String :=
  String.ofList (edges.left :: ([edges.inner].intercalate parts ++ [edges.right]))

/-- A rule across all columns. -/
def rule (edges : Edges) (stroke : Char) (widths : List Nat) : String :=
  join edges (widths.map fun w => List.replicate w stroke)

/-- A line of texts, each on the left of its column. -/
def textLine (edges : Edges) (widths : List Nat) (texts : List (List Char)) : String :=
  join edges (List.zipWith (fun w text => ' ' :: padTo (w - padding) text ++ [' ']) widths texts)

/-- The lines of a row: as many as its longest cell has. -/
def rowLines (edges : Edges) (widths : List Nat) (cells : List (List Char)) : List String :=
  let laidOut := List.zipWith (fun w cell => layOut .ellipsis (w - padding) cell) widths cells
  (List.range ((laidOut.map List.length).foldl max 1)).map fun i =>
    textLine edges widths (laidOut.map fun lines => lines[i]?.getD [])

/-- A text in the middle of a width; an odd blank goes to the right. -/
def centre (columns : Nat) (text : List Char) : List Char :=
  padTo columns (List.replicate ((columns - width text) / 2) ' ' ++ text)

/-- The lines of a table on a console. -/
def draw (console : Nat) (title : List Char) (headers : List (List Char)) (rows : List (List (List Char))) :
    List String :=
  let widths := columnWidths console headers rows
  let whole := widths.foldl (· + ·) 0 + widths.length + 1
  (layOut .fold whole title).map (fun line => String.ofList (centre whole (trimEnd line)))
    ++ [rule ⟨'┏', '┳', '┓'⟩ '━' widths]
    ++ rowLines ⟨'┃', '┃', '┃'⟩ widths headers
    ++ [rule ⟨'┡', '╇', '┩'⟩ '━' widths]
    ++ rows.flatMap (rowLines ⟨'│', '│', '│'⟩ widths)
    ++ [rule ⟨'└', '┴', '┘'⟩ '─' widths]

/-- The lines that a table is shown on. -/
def print (console : Nat) (t : Table) : Except Markup.Fault (List String) :=
  match visible t.title, readRow t.headers, readRows t.rows with
  | .ok title, .ok headers, .ok rows => .ok (draw console title headers rows)
  | .error fault, _, _ => .error fault
  | _, .error fault, _ => .error fault
  | _, _, .error fault => .error fault

end Table

end ApiLint.Console
