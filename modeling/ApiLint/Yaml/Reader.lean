import ApiLint.Text.Quoted
import ApiLint.Yaml.Value

/-!
# Reading YAML text

The value of the one document of a text; an empty text stands for null.
-/

namespace ApiLint.Yaml

/-- Read a YAML text. -/
def read (text : String) : Except ReadError Node :=
  match Tree.ofTokens (tokens text.toList) with
  | .error e => .error e
  | .ok none => .ok .null
  | .ok (some tree) => tree.toNode

/-- The wording of the faults that have one. -/
def ReadError.message? : ReadError → Option String
  | .malformed _ => none
  | .noSuchCharacter code =>
    if code < 2147483648 then some "chr() arg not in range(0x110000)" else none
  | .calendar e => some e.message
  | .longNumeral e => some e.message
  | .notInteger e => some e.message
  | .notFloat text => some ("could not convert string to float: " ++ Text.quoted text)
  | .emptyNumber => none
  | .notBool => none
  | .notTime => none
  | .timeInMapping => none
  | .tooManyParts => none
  | .endless => none
  | .unordered => none

end ApiLint.Yaml
