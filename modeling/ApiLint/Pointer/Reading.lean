import ApiLint.Number.Numeral
import ApiLint.Node.Basic

/-!
# What segments mean

Which node the segments of a pointer lead to, said without saying how it is found: below a mapping a
segment is the text of a string key, below a sequence it names an index by its numeral.  An index
with too many digits cannot be read.
-/

namespace ApiLint.Pointer

/-- Is a path empty, or does it start with a slash?  Only then it can be resolved. -/
def isRooted (path : String) : Bool := path.toList.head?.all (· = '/')

/-- A zero or a one follows every tilde of a text. -/
def TildesEscape (cs : List Char) : Prop :=
  ∀ before after, cs = before ++ '~' :: after → after.head? = some '0' ∨ after.head? = some '1'

/-- A path is empty, or it starts with a slash and every tilde in it starts an escape. -/
def IsWellFormed (path : String) : Prop :=
  path = "" ∨ path.toList.head? = some '/' ∧ TildesEscape path.toList

/-- A text names an index: it is the canonical numeral, perhaps with a line feed after it. -/
def IsIndex (text : String) (i : Nat) : Prop :=
  text.toList = Nat.toDigits 10 i ∨ text.toList = Nat.toDigits 10 i ++ ['\n']

/-- Segments lead from a node to another one. -/
inductive Leads : Node → List String → Node → Prop where
  | here (node : Node) : Leads node [] node
  | entry {entries : List (Node × Node)} {key : String} {keys : List String} {next node : Node} :
    Node.lookup key entries = some next → Leads next keys node →
      Leads (.map entries) (key :: keys) node
  | item {sequence : Node} {items : List Node} {key : String} {i : Nat} {keys : List String}
    {next node : Node} :
    sequence.items? = some items → IsIndex key i → i < leastLong → items[i]? = some next →
      Leads next keys node → Leads sequence (key :: keys) node

/-- Segments lead to a sequence, and the next one names an index with too many digits. -/
def MeetsLongIndex (node : Node) (keys : List String) (i : Nat) : Prop :=
  ∃ (before : List String) (key : String) (after : List String) (sequence : Node)
      (items : List Node),
    keys = before ++ key :: after ∧ Leads node before sequence ∧ sequence.items? = some items ∧
      IsIndex key i ∧ leastLong ≤ i

end ApiLint.Pointer
