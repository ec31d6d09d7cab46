import ApiLint.Fields
import ApiLint.Json.Writer

/-!
# Findings

What a user is told: a message, and the path of the place in the document that it is about.
-/

namespace ApiLint

/-- A message about a place in a document. -/
structure Finding where
  message : String
  path : List String
deriving DecidableEq

namespace Finding

/-- Read the message field. -/
def readMessage (entries : List (Node × Node)) : Except (List FieldFault) String :=
  match Node.lookup "message" entries with
  | none => .error [⟨["message"], .missing⟩]
  | some x =>
    match x.asText with
    | .ok s => .ok s
    | .error misfit => .error [⟨["message"], misfit⟩]

/-- Read the path field; without one the path is empty. -/
def readPath (entries : List (Node × Node)) : Except (List FieldFault) (List String) :=
  match Node.lookup "path" entries with
  | none => .ok []
  | some x =>
    match x.items? with
    | none => .error [⟨["path"], .notList⟩]
    | some items =>
      match readTexts "path" 0 items with
      | (texts, []) => .ok texts
      | (_, faults) => .error faults

/-- Read a finding from the entries of a mapping. -/
def ofEntries (entries : List (Node × Node)) : Except (List FieldFault) Finding :=
  match readMessage entries, readPath entries with
  | .ok message, .ok path => .ok { message, path }
  | .ok _, .error faults => .error faults
  | .error faults, .ok _ => .error faults
  | .error first, .error second => .error (first ++ second)

/-- A finding as a document. -/
def toNode (f : Finding) : Node :=
  .map [(.str "message", .str f.message), (.str "path", .list (f.path.map .str))]

/-- Findings as a document. -/
def listToNode (findings : List Finding) : Node := .list (findings.map toNode)

/-- The text of a findings file: JSON over several lines. -/
def fileText (findings : List Finding) : String :=
  (Json.write? Json.indented (listToNode findings)).getD ""

end Finding

end ApiLint
