import ApiLint.Node.Basic
import ApiLint.Text.Blank

/-!
# Description formats

The formats of API descriptions and how a document declares one: by a version text in a field of its own.
-/

namespace ApiLint

/-- A format of API descriptions. -/
inductive Variant where
  | swagger20
  | openApi30
  | openApi31
deriving DecidableEq

namespace Variant

/-- The tag that names a format. -/
def tag : Variant → String
  | .swagger20 => "oas2_0"
  | .openApi30 => "oas3_0"
  | .openApi31 => "oas3_1"

/-- All formats, in the order in which they are listed. -/
def all : List Variant := [.swagger20, .openApi30, .openApi31]

/-- The format with a tag. -/
def ofTag? (name : String) : Option Variant := all.find? fun v => v.tag = name

/-- The sign of a format in a document. -/
structure Marker where
  variant : Variant
  field : String
  /-- How the trimmed version text begins. -/
  versionStart : String

/-- The signs in the order in which they are looked for. -/
def markers : List Marker :=
  [⟨.swagger20, "swagger", "2.0"⟩, ⟨.openApi31, "openapi", "3.1"⟩, ⟨.openApi30, "openapi", "3.0"⟩]

/-- Does a document bear the sign, if its fields hold these texts? -/
def Marker.isIn (marker : Marker) (fieldText : String → Option String) : Bool :=
  match fieldText marker.field with
  | some version => marker.versionStart.toList.isPrefixOf (Text.trimChars version.toList)
  | none => false

/-- The format of the first sign that the fields of a document bear; without any it counts as OpenAPI 3.0. -/
def ofFields (fieldText : String → Option String) : Variant :=
  ((markers.find? (·.isIn fieldText)).map (·.variant)).getD .openApi30

end Variant

/-- The text in a field of a document, if the document is a mapping and the field holds one. -/
def Node.fieldText (document : Node) (field : String) : Option String :=
  match document with
  | .map entries => (Node.lookup field entries).bind Node.str?
  | _ => none

/-- The format that a document declares. -/
def Variant.detect (document : Node) : Variant := .ofFields document.fieldText

end ApiLint
