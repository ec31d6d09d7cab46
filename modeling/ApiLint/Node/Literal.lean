import ApiLint.Node.Basic
import ApiLint.Number.Shortest
import ApiLint.Text.Quoted

/-!
# Nodes in messages

`Node.literal` shows a value so that its kind can be told from its text; `Node.display` is the same but
for strings and dates at the top, which are shown as they are.  A value that holds an integer with too many
digits cannot be shown; `Node.literal?` and `Node.display?` refuse it.
-/

namespace ApiLint

/-- An offset as the zone of a time of day. -/
def zoneLiteral (minutes : Int) : String :=
  if minutes = 0 then "datetime.timezone.utc"
  else "datetime.timezone(" ++ offsetLiteral minutes ++ ")"

/-- A date as a message shows it inside a value. -/
def Date.literal (d : Date) : String :=
  "datetime.date(" ++ ", ".intercalate [toString d.year, toString d.month, toString d.day] ++ ")"

/-- A date with its time of day as a message shows it inside a value; zero seconds are left out. -/
def DateTime.literal (t : DateTime) : String :=
  let seconds :=
    if t.microsecond ≠ 0 then [toString t.second, toString t.microsecond]
    else if t.second ≠ 0 then [toString t.second]
    else []
  let zone := match t.offset with
    | some minutes => ["tzinfo=" ++ zoneLiteral minutes]
    | none => []
  "datetime.datetime(" ++ ", ".intercalate
    ([toString t.date.year, toString t.date.month, toString t.date.day, toString t.hour,
      toString t.minute] ++ seconds ++ zone) ++ ")"

namespace Node

mutual

/-- The text of a value that tells its kind. -/
def literal : Node → String
  | .null => "None"
  | .bool b => if b then "True" else "False"
  | .int n => toString n
  | .float x => x.text
  | .str s => Text.quoted s
  | .bytes bs => Text.quotedBytes bs
  | .date d => d.literal
  | .dateTime t => t.literal
  | .list xs => "[" ++ ", ".intercalate (literals xs) ++ "]"
  | .tuple [x] => "(" ++ literal x ++ ",)"
  | .tuple xs => "(" ++ ", ".intercalate (literals xs) ++ ")"
  | .map entries => "\x7b" ++ ", ".intercalate (entryLiterals entries) ++ "\x7d"
termination_by structural x => x

/-- The texts of the items of a sequence. -/
def literals : List Node → List String
  | [] => []
  | x :: xs => literal x :: literals xs
termination_by structural xs => xs

/-- The texts of the entries of a mapping. -/
def entryLiterals : List (Node × Node) → List String
  | [] => []
  | (key, value) :: rest => (literal key ++ ": " ++ literal value) :: entryLiterals rest
termination_by structural xs => xs

end

mutual

/-- Does a value hold an integer with too many digits to be written? -/
def hasLongInteger : Node → Bool
  | .int n => isLongInteger n
  | .list xs => anyLongInteger xs
  | .tuple xs => anyLongInteger xs
  | .map entries => entriesHaveLongInteger entries
  | _ => false
termination_by structural x => x

/-- Does any item hold such an integer? -/
def anyLongInteger : List Node → Bool
  | [] => false
  | x :: xs => hasLongInteger x || anyLongInteger xs
termination_by structural xs => xs

/-- Does any key or value hold such an integer? -/
def entriesHaveLongInteger : List (Node × Node) → Bool
  | [] => false
  | (key, value) :: rest => hasLongInteger key || hasLongInteger value || entriesHaveLongInteger rest
termination_by structural xs => xs

end

/-- The text of a value that is shown on its own. -/
def display : Node → String
  | .str s => s
  | .date d => d.text
  | .dateTime t => t.text " "
  | x => x.literal

/-- The text of a value that tells its kind, if all its integers can be written. -/
def literal? (x : Node) : Except LongNumeral String :=
  if x.hasLongInteger then .error .toWrite else .ok x.literal

/-- The text of a value that is shown on its own, if all its integers can be written. -/
def display? (x : Node) : Except LongNumeral String :=
  if x.hasLongInteger then .error .toWrite else .ok x.display

end Node

end ApiLint
