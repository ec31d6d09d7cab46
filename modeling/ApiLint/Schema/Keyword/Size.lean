import ApiLint.Schema.Equality
import ApiLint.Schema.Site

/-!
# Keywords on sizes

How many characters, items or entries a value may have, and whether its items must differ.
-/

namespace ApiLint.Schema.Site

/-- A demand on a size, worded specially for one limit. -/
def sizeBound (site : Site) (size? : Node → Option Nat) (fails : Quantity → Quantity → Bool)
    (special : Rat) (specialWording wording : String) : Outcome :=
  match size? site.subject, site.value.quantity? with
  | none, _ => .valid
  | some _, none => .fail .wrongKind
  | some n, some limit =>
    site.reportIf (fails (.finite (n : Rat)) limit)
      (if limit.equal (.finite special) then specialWording else wording)

/-- The number of items of an array. -/
def arraySize? : Node → Option Nat
  | .list xs => some xs.length
  | _ => none

/-- The number of characters of a string. -/
def textSize? : Node → Option Nat
  | .str s => some s.length
  | _ => none

/-- The number of entries of an object. -/
def objectSize? : Node → Option Nat
  | .map entries => some entries.length
  | _ => none

/-- The least number of items, or of characters. -/
def leastSize (site : Site) (size? : Node → Option Nat) : Outcome :=
  site.sizeBound size? Quantity.less 1 "should be non-empty" "is too short"

/-- The greatest number of items, or of characters. -/
def greatestSize (site : Site) (size? : Node → Option Nat) : Outcome :=
  site.sizeBound size? (fun n limit => limit.less n) 0 "is expected to be empty" "is too long"

/-- The least number of entries. -/
def minProperties (site : Site) : Outcome :=
  site.sizeBound objectSize? Quantity.less 1 "should be non-empty" "does not have enough properties"

/-- The greatest number of entries. -/
def maxProperties (site : Site) : Outcome :=
  site.sizeBound objectSize? (fun n limit => limit.less n) 0 "is expected to be empty"
    "has too many properties"

/-- Must the items be different? -/
def uniqueItems (site : Site) : Outcome :=
  match site.subject with
  | .list items => site.reportIf (site.value.isTruthy && !isUnique items) "has non-unique elements"
  | _ => .valid

end ApiLint.Schema.Site
