import ApiLint.Schema.Keyword.Array
import ApiLint.Schema.Keyword.Combination
import ApiLint.Schema.Keyword.Number
import ApiLint.Schema.Keyword.Object
import ApiLint.Schema.Keyword.Size
import ApiLint.Schema.Keyword.Unevaluated

/-!
# All keywords

Which demand belongs to the name of a keyword.
-/

namespace ApiLint.Schema.Site

/-- Is a value an array? -/
def isArray : Node → Bool
  | .list _ => true
  | _ => false

/-- The demand of the keyword. -/
def outcome (site : Site) : Outcome :=
  match site.keyword with
  | "$dynamicRef" => site.reference
  | "$ref" => site.reference
  | "additionalItems" => site.additionalItems
  | "additionalProperties" => site.additionalProperties
  | "allOf" => site.allOf
  | "anyOf" => site.anyOf
  | "const" => site.const
  | "contains" => site.contains
  | "dependencies" => site.dependencies isArray
  | "dependentRequired" => site.dependencies fun _ => true
  | "dependentSchemas" => site.dependencies fun _ => false
  | "enum" => site.enum
  | "exclusiveMaximum" => site.exclusiveMaximum
  | "exclusiveMinimum" => site.exclusiveMinimum
  | "format" => site.format
  | "if" => site.conditional
  | "items" => site.items
  | "maxItems" => site.greatestSize arraySize?
  | "maxLength" => site.greatestSize textSize?
  | "maxProperties" => site.maxProperties
  | "maximum" =>
    if site.draft = .draft4 ∧ site.hasFlag "exclusiveMaximum" then site.exclusiveMaximum else site.maximum
  | "minItems" => site.leastSize arraySize?
  | "minLength" => site.leastSize textSize?
  | "minProperties" => site.minProperties
  | "minimum" =>
    if site.draft = .draft4 ∧ site.hasFlag "exclusiveMinimum" then site.exclusiveMinimum else site.minimum
  | "multipleOf" => site.multipleOf
  | "not" => site.not
  | "oneOf" => site.oneOf
  | "pattern" => site.pattern
  | "patternProperties" => site.patternProperties
  | "prefixItems" => site.leadingItems
  | "properties" => site.properties
  | "propertyNames" => site.propertyNames
  | "required" => site.required
  | "type" => site.type
  | "unevaluatedItems" => site.unevaluatedItems
  | "unevaluatedProperties" => site.unevaluatedProperties
  | "uniqueItems" => site.uniqueItems
  | _ => .valid

end ApiLint.Schema.Site
