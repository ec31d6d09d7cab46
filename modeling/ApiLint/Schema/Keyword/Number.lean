import ApiLint.Schema.Keyword.Kind

/-!
# Keywords on numbers

Bounds of numbers, and numbers that they must be multiples of.
-/

namespace ApiLint.Schema.Site

/-- A demand on numbers that compares with the value of the keyword. -/
def bound (site : Site) (fails : Quantity → Quantity → Bool) (relation : String) : Outcome :=
  match number? site.subject, site.value.quantity? with
  | none, _ => .valid
  | some _, none => .fail .wrongKind
  | some x, some limit => site.reportShowing (fails x limit) ("is " ++ relation ++ " of ") site.value

/-- The least number allowed. -/
def minimum (site : Site) : Outcome := site.bound Quantity.less "less than the minimum"

/-- The greatest number allowed. -/
def maximum (site : Site) : Outcome :=
  site.bound (fun x limit => limit.less x) "greater than the maximum"

/-- The number that all allowed ones exceed. -/
def exclusiveMinimum (site : Site) : Outcome :=
  site.bound Quantity.lessEqual "less than or equal to the minimum"

/-- The number that all allowed ones stay below. -/
def exclusiveMaximum (site : Site) : Outcome :=
  site.bound (fun x limit => limit.lessEqual x) "greater than or equal to the maximum"

/-- Is another keyword of the schema there and set? -/
def hasFlag (site : Site) (name : String) : Bool := ((site.sibling? name).map Node.isTruthy).getD false

/-- Is a number a multiple of a binary64 number?  The quotient is rounded before it is tested. -/
def isMultipleOfFloat (x : Node) (divisor : Binary64) : Except Fault Bool :=
  let dividend : Except Fault Binary64 := match x with
    | .int n => match Binary64.ofInt? n with
      | some v => .ok v
      | none => .error .overflow
    | .float v => .ok v
    | _ => .error .wrongKind
  match dividend with
  | .error e => .error e
  | .ok v =>
    match Quantity.ofBinary64 v, Quantity.ofBinary64 divisor with
    | .finite p, .finite q =>
      if q = 0 then .error .divisionByZero
      else match Quantity.ofBinary64 (Binary64.ofRat false (p / q)) with
        | .finite quotient => .ok (quotient.den == 1)
        | _ => .ok ((p / q).den == 1)
    | .infinite _, .finite q => .error (if q = 0 then .divisionByZero else .overflow)
    | .nan, .finite q => .error (if q = 0 then .divisionByZero else .notANumber)
    | .finite _, .infinite _ => .ok true
    | _, _ => .error .notANumber

/-- Is a number a multiple of an integer?  The remainder of a binary64 number is exact. -/
def isMultipleOfInt (x : Node) (divisor : Int) : Except Fault Bool :=
  if divisor = 0 then .error .divisionByZero
  else match x with
    | .int n => .ok (n % divisor == 0)
    | .float v =>
      match Binary64.ofInt? divisor with
      | none => .error .overflow
      | some d =>
        match Quantity.ofBinary64 v, Quantity.ofBinary64 d with
        | .finite p, .finite q => .ok ((p / q).den == 1)
        | _, _ => .ok false
    | _ => .error .wrongKind

/-- The number that the value must be a multiple of. -/
def multipleOf (site : Site) : Outcome :=
  match number? site.subject with
  | none => .valid
  | some _ =>
    let answer := match site.value with
      | .float divisor => isMultipleOfFloat site.subject divisor
      | .int divisor => isMultipleOfInt site.subject divisor
      | .bool divisor => isMultipleOfInt site.subject (if divisor then 1 else 0)
      | _ => .error .wrongKind
    .ofExcept
      (fun isMultiple => site.reportShowing (!isMultiple) "is not a multiple of " site.value)
      answer

end ApiLint.Schema.Site
