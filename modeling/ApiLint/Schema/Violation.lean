import ApiLint.Number.IntegerText
import ApiLint.Pattern.Reader
import ApiLint.Pointer.Path
import ApiLint.Schema.Address

/-!
# Violations

What checking a value against a schema yields: violations in the order in which they are met and, if the
schema itself could not be followed to the end, the fault that stopped it.  The violations before a fault
stay visible, because the first violation alone may decide a question.
-/

namespace ApiLint.Schema

/-- Why a reference leads nowhere. -/
inductive Dangling where
  /-- Its pointer names no part of the schema. -/
  | pointer
  /-- Its name is no anchor. -/
  | anchor
  /-- Its name cannot be an anchor, since it holds a slash. -/
  | badAnchor
  /-- It leads out of the schema. -/
  | address
deriving DecidableEq

/-- Why a schema could not be followed to the end. -/
inductive Fault where
  /-- An operation met a value of a kind that it is not defined for. -/
  | wrongKind
  /-- A value that is no mapping or text was used as one. -/
  | noSuchMember
  | badPattern (error : PatternError)
  | danglingReference (cause : Dangling)
  /-- A reference that leads nowhere was met while looking for what a schema evaluates. -/
  | danglingEvaluation (cause : Dangling)
  /-- A reference names an array item by something that is no integer. -/
  | badIndex (error : IntegerTextError)
  | longNumeral (error : LongNumeral)
  /-- A number that is no byte was looked for among bytes. -/
  | noByte
  /-- A declared draft, or a part of a schema, has no address that can be used. -/
  | badAddress (error : AddressError)
  /-- Following references never comes to an end. -/
  | endlessReference
  | unknownType
  | divisionByZero
  /-- An infinite or too large number was to be converted. -/
  | overflow
  /-- What is not a number was to be converted to an integer. -/
  | notANumber
deriving DecidableEq

/-- The wording of the faults that have one. -/
def Fault.message? : Fault → Option String
  | .badPattern (.longCount error) => some error.message
  | .badPattern .incompatibleFlags => some "ASCII and UNICODE flags are incompatible"
  | .badIndex error => some error.message
  | .longNumeral error => some error.message
  | .noByte => some "byte must be in range(0, 256)"
  | .badAddress error => some error.message
  | .notANumber => some "cannot convert float NaN to integer"
  | _ => none

/-- A violated keyword: its name and value, a message, the value and schema concerned, and where both are. -/
structure Violation where
  keyword : String
  keywordValue : Node
  message : String
  subject : Node
  schema : Node
  path : Location
  schemaPath : Location

/-- Violations in the order found, and the fault that ended the search, if any. -/
structure Outcome where
  violations : List Violation
  fault : Option Fault

namespace Outcome

/-- Nothing to report. -/
def valid : Outcome := ⟨[], none⟩

/-- A fault before any violation. -/
def fail (fault : Fault) : Outcome := ⟨[], some fault⟩

/-- A single violation. -/
def one (v : Violation) : Outcome := ⟨[v], none⟩

/-- Change every violation. -/
def map (f : Violation → Violation) (o : Outcome) : Outcome := ⟨o.violations.map f, o.fault⟩

/-- Put the violations of a computation that may fail at its start. -/
def ofExcept (f : α → Outcome) : Except Fault α → Outcome
  | .ok a => f a
  | .error fault => fail fault

/-- Does nothing more need to be looked at?  A search for one violation ends with the first. -/
def isOver (untilFirst : Bool) (o : Outcome) : Bool :=
  o.fault.isSome || (untilFirst && !o.violations.isEmpty)

/-- The outcomes of a list of checks one after the other, up to a fault or to the end of the search. -/
def forEach (untilFirst : Bool) (f : α → Outcome) : List α → Outcome
  | [] => valid
  | x :: xs =>
    let o := f x
    if o.isOver untilFirst then o
    else
      let rest := forEach untilFirst f xs
      ⟨o.violations ++ rest.violations, rest.fault⟩

/-- Is there no violation?  A fault counts only if no violation was met before. -/
def isValid (o : Outcome) : Except Fault Bool :=
  match o.violations, o.fault with
  | _ :: _, _ => .ok false
  | [], some fault => .error fault
  | [], none => .ok true

/-- All violations, unless there was a fault. -/
def all (o : Outcome) : Except Fault (List Violation) :=
  match o.fault with
  | some fault => .error fault
  | none => .ok o.violations

end Outcome

/-- Move a violation below a part of the instance and a part of the schema. -/
def Violation.under (path schemaPath : Option Node) (v : Violation) : Violation :=
  { v with path := path.toList ++ v.path, schemaPath := schemaPath.toList ++ v.schemaPath }

end ApiLint.Schema
