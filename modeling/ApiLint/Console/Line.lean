import ApiLint.Console.Markup
import ApiLint.Console.Wrap

/-!
# Lines on the console

A markup is shown on lines of as many columns as the console has.  Some control characters are left out.
-/

namespace ApiLint.Console

/-- Is the character left out: a bell, a backspace, a vertical tab, a form feed or a carriage return? -/
def isDropped (c : Char) : Bool :=
  let n := c.toNat
  n == 7 || n == 8 || n == 11 || n == 12 || n == 13

/-- The characters of a markup that are shown. -/
def visible (markup : String) : Except Markup.Fault (List Char) :=
  match Markup.render markup with
  | .ok cs => .ok (cs.filter fun c => !isDropped c)
  | .error fault => .error fault

/-- Does the character end a row of a text: a line feed, a separator of groups, the next-line control, or a
separator of lines or paragraphs? -/
def endsRow (c : Char) : Bool :=
  let n := c.toNat
  n == 10 || (28 ≤ n && n ≤ 30) || n == 0x85 || n == 0x2028 || n == 0x2029

/-- The rows of a text that are seen as lines of their own. -/
def rows (cs : List Char) : List (List Char) := cs.splitOnP endsRow

/-- The width of the widest row of a text. -/
def measure (cs : List Char) : Nat := ((rows cs).map width).foldl max 0

/-- The lines that a markup is shown on. -/
def print (columns : Nat) (markup : String) : Except Markup.Fault (List String) :=
  match visible markup with
  | .ok cs => .ok ((layOut .fold columns cs).map String.ofList)
  | .error fault => .error fault

end ApiLint.Console
