import ApiLint.Schema.Evaluate

/-!
# Schemas of schemas

Each draft says by a schema what its schemas look like.  Here formats are asserted: what stands for a
pattern must be readable as one.
-/

namespace ApiLint.Schema.Meta

/-! ## Writing schemas -/

/-- A schema with string keys. -/
def object (entries : List (String × Node)) : Node := .map (entries.map fun (k, v) => (.str k, v))

/-- A schema for one kind of values. -/
def ofType (name : String) : Node := object [("type", .str name)]

/-- Another part of the schema at hand. -/
def ref (place : String) : Node := object [("$ref", .str place)]

/-- The schema itself. -/
def self : Node := ref "#"

/-- At least one of several schemas. -/
def anyOf (schemas : List Node) : Node := object [("anyOf", .list schemas)]

/-- An object with values of one schema. -/
def objectOf (schema : Node) : Node :=
  object [("type", .str "object"), ("additionalProperties", schema)]

/-- An object whose names are patterns, with schemas as values. -/
def patternsToSchemas : Node :=
  object [("type", .str "object"), ("additionalProperties", self),
    ("propertyNames", object [("format", .str "regex")])]

/-- A text that is a pattern. -/
def patternText : Node := object [("type", .str "string"), ("format", .str "regex")]

/-- A non-empty array of schemas. -/
def schemaArray : Node := object [("type", .str "array"), ("minItems", .int 1), ("items", self)]

/-- A natural number. -/
def natural : Node := object [("type", .str "integer"), ("minimum", .int 0)]

/-- The kinds of values by name. -/
def typeName : Node :=
  object [("enum", .list (["array", "boolean", "integer", "null", "number", "object", "string"].map .str))]

/-- A kind of values, or several different ones. -/
def typeNames : Node :=
  anyOf [typeName, object [("type", .str "array"), ("items", typeName), ("minItems", .int 1),
    ("uniqueItems", .bool true)]]

/-- An array of different texts. -/
def textArray : Node :=
  object [("type", .str "array"), ("items", ofType "string"), ("uniqueItems", .bool true)]

/-- A non-empty array of different texts. -/
def nonEmptyTextArray : Node :=
  object [("type", .str "array"), ("items", ofType "string"), ("minItems", .int 1),
    ("uniqueItems", .bool true)]

/-- A number above zero, for drafts with exclusive bounds as numbers. -/
def positiveNumber : Node := object [("type", .str "number"), ("exclusiveMinimum", .int 0)]

/-- True, false, or a schema. -/
def boolOrSchema : Node := anyOf [ofType "boolean", self]

/-! ## Demands on keywords -/

/-- Kinds of values that can stand for a schema. -/
def schemaKinds : Node := .list [.str "object", .str "boolean"]

/-- Demands on bounds of numbers. -/
def bounds (exclusive : Node) : List (String × Node) := [
  ("maximum", ofType "number"), ("exclusiveMaximum", exclusive), ("minimum", ofType "number"),
  ("exclusiveMinimum", exclusive)]

/-- Demands on lengths of texts, and on patterns. -/
def textDemands : List (String × Node) := [
  ("maxLength", natural), ("minLength", natural), ("pattern", patternText)]

/-- Demands on lengths of arrays. -/
def itemCounts : List (String × Node) := [
  ("maxItems", natural), ("minItems", natural), ("uniqueItems", ofType "boolean")]

/-- Demands on sizes of objects. -/
def entryCounts : List (String × Node) := [("maxProperties", natural), ("minProperties", natural)]

/-- Demands on combinations of schemas. -/
def combinations : List (String × Node) := [
  ("allOf", schemaArray), ("anyOf", schemaArray), ("oneOf", schemaArray), ("not", self)]

/-- Demands on branches between schemas. -/
def branches : List (String × Node) := [("if", self), ("then", self), ("else", self)]

/-- Demands on keywords of the oldest draft. -/
def draft4Keywords : List (String × Node) :=
  [("id", ofType "string"), ("$schema", ofType "string"), ("title", ofType "string"),
    ("description", ofType "string"),
    ("multipleOf", object [("type", .str "number"), ("minimum", .int 0), ("exclusiveMinimum", .bool true)])]
  ++ bounds (ofType "boolean") ++ textDemands
  ++ [("additionalItems", boolOrSchema), ("items", anyOf [self, schemaArray])] ++ itemCounts ++ entryCounts
  ++ [("required", nonEmptyTextArray), ("additionalProperties", boolOrSchema),
    ("definitions", objectOf self), ("properties", objectOf self), ("patternProperties", objectOf self),
    ("dependencies", objectOf (anyOf [self, nonEmptyTextArray])),
    ("enum", object [("type", .str "array"), ("minItems", .int 1), ("uniqueItems", .bool true)]),
    ("type", typeNames), ("format", ofType "string")]
  ++ combinations

/-- Demands on keywords of draft 7. -/
def draft7Keywords : List (String × Node) :=
  [("$id", ofType "string"), ("$schema", ofType "string"), ("$ref", ofType "string"),
    ("$comment", ofType "string"), ("title", ofType "string"), ("description", ofType "string"),
    ("readOnly", ofType "boolean"), ("examples", ofType "array"), ("multipleOf", positiveNumber)]
  ++ bounds (ofType "number") ++ textDemands
  ++ [("additionalItems", self), ("items", anyOf [self, schemaArray])] ++ itemCounts
  ++ [("contains", self)] ++ entryCounts
  ++ [("required", textArray), ("additionalProperties", self), ("definitions", objectOf self),
    ("properties", objectOf self), ("patternProperties", patternsToSchemas),
    ("dependencies", objectOf (anyOf [self, textArray])), ("propertyNames", self), ("enum", ofType "array"),
    ("type", typeNames), ("format", ofType "string"), ("contentMediaType", ofType "string"),
    ("contentEncoding", ofType "string")]
  ++ branches ++ combinations

/-- A text that starts with a letter or a low line and goes on with characters of names. -/
def anchorText : Node :=
  object [("type", .str "string"), ("pattern", .str "^[A-Za-z_][-A-Za-z0-9._]*$")]

/-- A part of the latest draft, which speaks of some keywords. -/
def vocabulary (keywords : List (String × Node)) : Node :=
  object [("type", schemaKinds), ("properties", object keywords)]

/-- Keywords on schemas as a whole. -/
def coreKeywords : List (String × Node) := [
  ("$id", object [("type", .str "string"), ("pattern", .str "^[^#]*#?$")]), ("$schema", ofType "string"),
  ("$ref", ofType "string"), ("$anchor", anchorText), ("$dynamicRef", ofType "string"),
  ("$dynamicAnchor", anchorText),
  ("$vocabulary", object [("type", .str "object"), ("propertyNames", ofType "string"),
    ("additionalProperties", ofType "boolean")]),
  ("$comment", ofType "string"), ("$defs", objectOf self)]

/-- Keywords that apply subschemas. -/
def applicatorKeywords : List (String × Node) :=
  [("prefixItems", schemaArray), ("items", self), ("contains", self), ("additionalProperties", self),
    ("properties", objectOf self), ("patternProperties", patternsToSchemas),
    ("dependentSchemas", objectOf self), ("propertyNames", self)]
  ++ branches ++ combinations

/-- Keywords that demand something of a value itself. -/
def validationKeywords : List (String × Node) :=
  [("type", typeNames), ("enum", ofType "array"), ("multipleOf", positiveNumber)]
  ++ bounds (ofType "number") ++ textDemands ++ itemCounts
  ++ [("maxContains", natural), ("minContains", natural)] ++ entryCounts
  ++ [("required", textArray), ("dependentRequired", objectOf textArray)]

/-- Keywords that describe. -/
def descriptionKeywords : List (String × Node) := [
  ("title", ofType "string"), ("description", ofType "string"), ("deprecated", ofType "boolean"),
  ("readOnly", ofType "boolean"), ("writeOnly", ofType "boolean"), ("examples", ofType "array")]

/-- Keywords of older drafts. -/
def olderKeywords : List (String × Node) := [
  ("definitions", objectOf self), ("dependencies", objectOf (anyOf [self, textArray])),
  ("$recursiveAnchor", anchorText), ("$recursiveRef", ofType "string")]

/-- The parts of the latest draft, in the order in which they are looked at. -/
def vocabularies : List Node := [
  vocabulary coreKeywords, vocabulary applicatorKeywords,
  vocabulary [("unevaluatedItems", self), ("unevaluatedProperties", self)],
  vocabulary validationKeywords, vocabulary descriptionKeywords, vocabulary [("format", ofType "string")],
  vocabulary [("contentEncoding", ofType "string"), ("contentMediaType", ofType "string"),
    ("contentSchema", self)]]

/-- The schema of the schemas of a draft. -/
def schema : Draft → Node
  | .draft4 => object [
      ("type", .str "object"), ("properties", object draft4Keywords),
      ("dependencies", object [("exclusiveMaximum", .list [.str "maximum"]),
        ("exclusiveMinimum", .list [.str "minimum"])])]
  | .draft7 => object [("type", schemaKinds), ("properties", object draft7Keywords)]
  | .draft202012 => object [
      ("allOf", .list vocabularies), ("type", schemaKinds), ("properties", object olderKeywords)]

/-- Is a value a schema of the draft? -/
def accepts (draft : Draft) (value : Node) : Except Fault Bool :=
  (evaluate (depthBound (schema draft) value) ⟨schema draft, true, true⟩ draft (schema draft) value).isValid

end ApiLint.Schema.Meta
