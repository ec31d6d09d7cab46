import ApiLint.Schema.Violation

/-!
# Drafts of the schema language

The drafts that are understood, the keywords of each, and how a schema declares its draft.  There are other drafts,
whose schemas are refused: a checker for them is a library of its own.
-/

namespace ApiLint.Schema

/-- A draft of the schema language. -/
inductive Draft where
  | draft4
  | draft7
  | draft202012
deriving DecidableEq

namespace Draft

/-- The draft of schemas that declare none. -/
def latest : Draft := .draft202012

/-- Keywords of all drafts. -/
def sharedKeywords : List String :=
  ["$ref", "additionalProperties", "allOf", "anyOf", "enum", "format", "items", "maxItems", "maxLength",
    "maxProperties", "maximum", "minItems", "minLength", "minProperties", "minimum", "multipleOf", "not",
    "oneOf", "pattern", "patternProperties", "properties", "required", "type", "uniqueItems"]

/-- Keywords that not every draft has. -/
def ownKeywords : Draft → List String
  | .draft4 => ["additionalItems", "dependencies"]
  | .draft7 =>
    ["additionalItems", "const", "contains", "dependencies", "exclusiveMaximum", "exclusiveMinimum", "if",
      "propertyNames"]
  | .draft202012 =>
    ["$dynamicRef", "const", "contains", "dependentRequired", "dependentSchemas", "exclusiveMaximum",
      "exclusiveMinimum", "if", "prefixItems", "propertyNames", "unevaluatedItems", "unevaluatedProperties"]

/-- Is this a keyword of the draft? -/
def hasKeyword (draft : Draft) (name : String) : Bool :=
  sharedKeywords.contains name || draft.ownKeywords.contains name

/-- Do the other keywords beside a reference count? -/
def readsBesideReference : Draft → Bool
  | .draft202012 => true
  | _ => false

/-- The addresses by which schemas declare a draft. -/
def addresses : List (String × Draft) :=
  [("http://json-schema.org/draft-04/schema", .draft4),
    ("http://json-schema.org/draft-07/schema", .draft7),
    ("https://json-schema.org/draft/2020-12/schema", .draft202012)]

/-- The addresses of drafts whose schemas are not read here. -/
def otherAddresses : List String :=
  ["http://json-schema.org/draft-03/schema", "http://json-schema.org/draft-06/schema",
    "https://json-schema.org/draft/2019-09/schema"]

/-- The draft of an address, which has to be well-formed. -/
def ofAddress? (address : String) : Except AddressError (Option Draft) := do
  let normal ← Address.normal address
  if otherAddresses.contains normal then throw .otherDraft
  return addresses.lookup normal

/-- The keyword under which a schema or a part of it says its own address. -/
def addressKeyword : Draft → String
  | .draft4 => "id"
  | _ => "$id"

/-- The draft that the value of `$schema` names; an address that is not known leaves the one given. -/
def ofDeclaration (default : Draft) : Node → Except Fault Draft
  | .str address =>
    match ofAddress? address with
    | .ok draft => .ok (draft.getD default)
    | .error e => .error (.badAddress e)
  | .list _ => .error .wrongKind
  | .map _ => .error .wrongKind
  | .bytes _ => .ok default
  | x => if x.isTruthy then .error .noSuchMember else .ok default

/-- Does a list contain another one as a stretch? -/
def isInfix [BEq α] (part : List α) : List α → Bool
  | [] => part.isEmpty
  | c :: rest => part.isPrefixOf (c :: rest) || isInfix part rest

/-- The draft of a schema, which may also be a value that is no schema. -/
def ofSchema (default : Draft) : Node → Except Fault Draft
  | .bool _ => .ok default
  | .map entries =>
    match Node.lookup "$schema" entries with
    | some declared => ofDeclaration default declared
    | none => .ok default
  | .str s => if isInfix "$schema".toList s.toList then .error .wrongKind else .ok default
  | .list items =>
    if items.any (·.equiv (.str "$schema")) then .error .wrongKind else .ok default
  | .tuple items =>
    if items.any (·.equiv (.str "$schema")) then .error .wrongKind else .ok default
  | _ => .error .wrongKind

end Draft

end ApiLint.Schema
