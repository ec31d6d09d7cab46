import ApiLint.Pattern.Basic

/-!
# Widths of patterns

The least and the greatest number of characters that a pattern matches.  What a look behind looks for must
have one width; widths are counted up to a limit.
-/

namespace ApiLint.Pattern

/-- The least and the greatest number of characters. -/
structure Width where
  least : Nat
  most : Nat
deriving DecidableEq

namespace Width

/-- Greatest numbers are counted up to here, and least ones up to the number before. -/
def limit : Nat := 4294967295

/-- Limit both numbers. -/
def capped (w : Width) : Width := ⟨min w.least (limit - 1), min w.most limit⟩

/-- One after the other. -/
def add (v w : Width) : Width := ⟨v.least + w.least, v.most + w.most⟩

/-- One or the other. -/
def either (v w : Width) : Width := ⟨min v.least w.least, max v.most w.most⟩

/-- The one number of characters, if there is only one. -/
def fixed? (w : Width) : Option Nat := if w.least = w.most then some w.least else none

end Width

/-- The width of a pattern, given the widths of the groups that it refers to. -/
def width (groups : Nat → Width) : Pattern → Width
  | .one _ | .any _ => ⟨1, 1⟩
  | .seq first second => (width groups first).add (width groups second)
  | .alt first second => ((width groups first).either (width groups second)).capped
  | .repeated body least most _ =>
    let w := (width groups body).capped
    ⟨w.least * least, w.most * most.getD Width.limit⟩
  | .group _ body | .atomic body => (width groups body).capped
  | .again number _ => groups number
  | .ifMatched _ yes no => ((width groups yes).capped.either (width groups no).capped)
  | _ => ⟨0, 0⟩

end ApiLint.Pattern
