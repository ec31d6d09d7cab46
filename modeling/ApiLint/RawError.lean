import ApiLint.Fields

/-!
# Raw errors

What a validator reports about one violated constraint: the keyword, the place in the instance and in the
schema, a message of any kind, and parameters by name.  `ofEntries` reads a raw error from a loose mapping;
only parameter names can make that fail.
-/

namespace ApiLint

/-- One report of a validator. -/
structure RawError where
  keyword : String
  instancePath : String
  message : Node
  params : List (String × Node)
  schemaPath : String

namespace RawError

/-- The parameter of a name. -/
def param? (e : RawError) (name : String) : Option Node :=
  (e.params.find? (·.1 = name)).map (·.2)

/-- Put a parameter under a name: in place if the name is there, else at the end. -/
def insertParam (name : String) (value : Node) : List (String × Node) → List (String × Node)
  | [] => [(name, value)]
  | (n, v) :: rest => if n = name then (n, value) :: rest else (n, v) :: insertParam name value rest

/-- A text field; what is absent or no string is empty. -/
def textField (name : String) (entries : List (Node × Node)) : String :=
  match Node.lookup name entries with
  | some (.str s) => s
  | _ => ""

/-- Read parameters one after the other; a name that is no text is a fault. -/
def readParams (done : List (String × Node)) :
    List (Node × Node) → List (String × Node) × List FieldFault
  | [] => (done, [])
  | (key, value) :: rest =>
    match key.asText with
    | .ok name => readParams (insertParam name value done) rest
    | .error misfit =>
      let (params, faults) := readParams done rest
      (params, ⟨["params", key.placeName, "[key]"], misfit⟩ :: faults)

/-- Read a raw error from the entries of a mapping; entries of other names are ignored. -/
def ofEntries (entries : List (Node × Node)) : Except (List FieldFault) RawError :=
  let given := match Node.lookup "params" entries with
    | some (.map params) => params
    | _ => []
  match readParams [] given with
  | (params, []) => .ok {
      keyword := textField "keyword" entries
      instancePath := textField "instancePath" entries
      message := (Node.lookup "message" entries).getD .null
      params
      schemaPath := textField "schemaPath" entries }
  | (_, faults) => .error faults

end RawError

end ApiLint
