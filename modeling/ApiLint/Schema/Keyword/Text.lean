import ApiLint.Pattern.Match
import ApiLint.Pattern.Reader
import ApiLint.Schema.Site

/-!
# Keywords on texts

Patterns that must be found in a text, and texts that must be patterns.
-/

namespace ApiLint.Schema.Site

/-- The pattern that a text writes. -/
def readPattern (s : String) : Except Fault Pattern :=
  match Pattern.read s with
  | .ok p => .ok p
  | .error .countTooLarge => .error .overflow
  | .error e => .error (.badPattern e)

/-- Is the pattern found in the text? -/
def isFound (pattern text : Node) : Except Fault Bool :=
  match pattern with
  | .str p =>
    match readPattern p, text with
    | .error e, _ => .error e
    | .ok q, .str s => .ok (q.foundIn s)
    | .ok _, _ => .error .wrongKind
  | _ => .error .wrongKind

/-- The pattern that must be found in a text. -/
def pattern (site : Site) : Outcome :=
  match site.subject with
  | .str _ =>
    .ofExcept (fun found => site.reportShowing (!found) "does not match " site.value)
      (isFound site.value site.subject)
  | _ => .valid

/-- The format of a text; where formats are asserted, a pattern must be readable. -/
def format (site : Site) : Outcome :=
  match site.assertsFormats, site.value, site.subject with
  | true, .str "regex", .str s =>
    match readPattern s with
    | .ok _ => .valid
    | .error (.badPattern e) =>
      if (Fault.badPattern e).message?.isSome then .fail (.badPattern e)
      else site.reportSubject "is not a 'regex'"
    | .error fault => .fail fault
  | _, _, _ => .valid

end ApiLint.Schema.Site
