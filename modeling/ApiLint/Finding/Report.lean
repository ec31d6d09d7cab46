import ApiLint.Finding.Basic
import ApiLint.Message.Wording
import ApiLint.Pointer.Resolve
import ApiLint.RawError
import ApiLint.Suggest.Ranking

/-!
# From raw errors to findings

Each raw error but those of the keyword `if` becomes one finding, in the same order.  The keywords
`additionalProperties`, `enum` and `errorMessage` have messages of their own; all others show the normal
form of the message reported.  A message that would have to show an integer with too many digits cannot be
written, and an index with too many digits cannot be read.
-/

namespace ApiLint

namespace RawError

/-- The property that an error is about: the last segment of its path. -/
def property? (e : RawError) : Option String := (Location.segmentsOfPath e.instancePath).getLast?

/-- Does an error say something on its own? -/
def isRelevant (e : RawError) : Bool := e.keyword ≠ "if"

/-- The text of an allowed value: JSON in one line, or the JSON string of its display. -/
def allowedValueText (x : Node) : String :=
  (Json.write? Json.compact x).getD (Json.writeString x.display)

/-- The values that an enumeration allows. -/
def allowedValues (e : RawError) : List Node := ((e.param? "allowedValues").bind Node.items?).getD []

/-- The name of a property that is not allowed. -/
def additionalProperty? (e : RawError) : Option String :=
  (e.param? "additionalProperty").bind Node.str?

/-- The offer of a similar allowed value, if the value found is a string that has one. -/
def suggestion (allowed : List Node) : Option Node → String
  | some (.str value) =>
    match Candidate.bestMatch? value allowed with
    | some best => ". Did you mean \"" ++ best ++ "\"?"
    | none => ""
  | _ => ""

/-- The message of a value outside its enumeration, given the value found in the document. -/
def enumMessage (e : RawError) (found : Option Node) : String :=
  Wording.normalize e.property? e.message ++ ": "
    ++ ", ".intercalate (e.allowedValues.map allowedValueText) ++ suggestion e.allowedValues found

/-- The finding of an error. -/
def toFinding (document : Node) (e : RawError) : Except LongNumeral Finding :=
  let path := Location.segmentsOfPath e.instancePath
  if e.keyword = "additionalProperties" then
    match e.additionalProperty? with
    | some name => .ok ⟨"Property \"" ++ name ++ "\" is not expected to be here", path ++ [name]⟩
    | none => .ok ⟨Wording.normalize e.property? e.message, path⟩
  else if e.keyword = "enum" then
    if Node.anyLongInteger e.allowedValues then .error .toWrite
    else match Pointer.resolveText? document ("#" ++ e.instancePath) with
      | .error e => .error e
      | .ok found => .ok ⟨e.enumMessage found, path⟩
  else if e.keyword = "errorMessage" then
    if e.message.isTruthy then
      match e.message.display? with
      | .error e => .error e
      | .ok text => .ok ⟨text, path⟩
    else .ok ⟨"", path⟩
  else .ok ⟨Wording.normalize e.property? e.message, path⟩

end RawError

/-- The findings of the relevant errors, in their order. -/
def Finding.ofErrors (document : Node) : List (Option RawError) → Except LongNumeral (List Finding)
  | [] => .ok []
  | none :: rest => ofErrors document rest
  | some e :: rest =>
    if e.isRelevant then
      match e.toFinding document with
      | .error error => .error error
      | .ok finding =>
        match ofErrors document rest with
        | .error error => .error error
        | .ok findings => .ok (finding :: findings)
    else ofErrors document rest

end ApiLint
