/-!
# Edit scripts

One edit inserts, deletes or replaces one character at a position of a text.  A script is a list of edits,
made one after the other, each at a position of the text that the ones before it have left.
-/

namespace ApiLint

/-- A change of one character of a text. -/
inductive Edit where
  | insertion (position : Nat) (c : Char)
  | deletion (position : Nat)
  | substitution (position : Nat) (c : Char)
deriving DecidableEq

namespace Edit

/-- The text after an edit, if the text has its position. -/
def run? : Edit → List Char → Option (List Char)
  | .insertion i c, text => if i ≤ text.length then some (text.take i ++ c :: text.drop i) else none
  | .deletion i, text => if i < text.length then some (text.take i ++ text.drop (i + 1)) else none
  | .substitution i c, text =>
    if i < text.length then some (text.take i ++ c :: text.drop (i + 1)) else none

/-- The text after all edits of a script. -/
def runAll? : List Edit → List Char → Option (List Char)
  | [], text => some text
  | e :: script, text =>
    match e.run? text with
    | some text' => runAll? script text'
    | none => none

end Edit

end ApiLint
