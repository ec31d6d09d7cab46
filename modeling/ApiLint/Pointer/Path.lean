import ApiLint.Node.Literal
import ApiLint.Pointer.Segment

/-!
# Instance paths

A location is the list of keys and indices that leads from the root of a document to a node.  Its instance
path is a text in which every part follows a slash.
-/

namespace ApiLint

/-- Keys and indices from the root on; an index is an integer. -/
abbrev Location := List Node

namespace Location

/-- The texts of the parts. -/
def parts (location : Location) : List String := location.map Node.display

/-- The instance path whose segments are the given texts. -/
def pathOfSegments (segments : List String) : String :=
  String.ofList (segments.flatMap fun s => '/' :: Segment.escapeChars s.toList)

/-- The instance path of a location. -/
def instancePath (location : Location) : String := pathOfSegments location.parts

/-- The path of a place in a schema, as a fragment. -/
def schemaPath (location : Location) : String := "#" ++ location.instancePath

/-- The segments of an instance path; its first character is taken for the slash that starts it. -/
def segmentsOfPath (path : String) : List String :=
  match path.toList with
  | [] => []
  | _ :: rest => (Segment.splitAt '/' rest).map fun s => String.ofList (Segment.unescapeChars s)

end Location

end ApiLint
