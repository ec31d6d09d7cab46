import ApiLint.Node.Literal
import ApiLint.Text.Utf8

/-!
# Reading records from loose fields

A record is read from the entries of a mapping.  All fields that do not fit are reported, each with the
place inside the record and the kind of misfit.
-/

namespace ApiLint

/-- How a field does not fit. -/
inductive Misfit where
  | missing
  | notText
  | notList
  /-- Bytes that are no UTF-8 text. -/
  | notUtf8
deriving DecidableEq

/-- The name of a misfit. -/
def Misfit.name : Misfit → String
  | .missing => "missing"
  | .notText => "string_type"
  | .notList => "list_type"
  | .notUtf8 => "string_unicode"

/-- A misfit and its place in the record. -/
structure FieldFault where
  place : List String
  misfit : Misfit
deriving DecidableEq

/-- All misfits of a record, in the order of its fields. -/
def FieldFault.message (faults : List FieldFault) : String :=
  "; ".intercalate (faults.map fun f => ".".intercalate f.place ++ ": " ++ f.misfit.name)

/-- A text field takes a string, or bytes that are the UTF-8 form of one. -/
def Node.asText : Node → Except Misfit String
  | .str s => .ok s
  | .bytes bs =>
    match Text.decodeUtf8 ⟨bs.toArray⟩ with
    | .ok s => .ok s
    | .error _ => .error .notUtf8
  | _ => .error .notText

/-- The name of a mapping key inside a place; true and false count as 1 and 0. -/
def Node.placeName : Node → String
  | .str s => s
  | .bool b => if b then "1" else "0"
  | key => key.literal

/-- Read every item of a list as text; the faults carry the index of their item. -/
def readTexts (field : String) (index : Nat) : List Node → List String × List FieldFault
  | [] => ([], [])
  | x :: xs =>
    let (texts, faults) := readTexts field (index + 1) xs
    match x.asText with
    | .ok s => (s :: texts, faults)
    | .error misfit => (texts, ⟨[field, toString index], misfit⟩ :: faults)

end ApiLint
