import ApiLint.RawError
import ApiLint.Schema.Compiled

/-!
# Violations as raw errors

Violations are reported in the order of their locations.  Each becomes one raw error with parameters that
suit its keyword, but an object with several properties that are not allowed becomes one raw error for
each of them.
-/

namespace ApiLint.Schema

/-- The value of a keyword of a schema, or an empty mapping if it counts as nothing. -/
def keywordOr (name : String) (entries : List (Node × Node)) : Node :=
  match Node.lookup name entries with
  | some x => if x.isTruthy then x else .map []
  | none => .map []

/-- Does any of the patterns meet a name?  They are tried one after the other. -/
def anyFound (name : Node) : List Node → Except Fault Bool
  | [] => .ok false
  | pattern :: patterns =>
    match Site.isFound pattern name with
    | .error e => .error e
    | .ok true => .ok true
    | .ok false => anyFound name patterns

/-- Is a name neither declared nor met by any of the patterns? -/
def isUnexpected (declared : Node) (patterns : List Node) (name : Node) : Except Fault Bool :=
  match Site.holds declared name with
  | .error e => .error e
  | .ok true => .ok false
  | .ok false =>
    match anyFound name patterns with
    | .error e => .error e
    | .ok found => .ok (!found)

/-- The names of an object that its schema neither declares nor meets by a pattern. -/
def unexpectedNames (subject schema : Node) : Except Fault (List Node) :=
  match subject, schema with
  | .map entries, .map keywords =>
    match keywordOr "patternProperties" keywords with
    | .map patterns =>
      Site.filterNames (isUnexpected (keywordOr "properties" keywords) (patterns.map (·.1)))
        (entries.map (·.1))
    | _ => .error .noSuchMember
  | .map _, _ => .error .noSuchMember
  | _, _ => .ok []

/-- The name in the message of a missing property, as far as it stands in single quotes in one line. -/
def missingName? (message : String) : Option String :=
  let ending := "' is a required property".toList
  match message.toList with
  | '\'' :: rest =>
    let line := if rest.getLast? = some '\n' then rest.dropLast else rest
    let name := line.take (line.length - ending.length)
    if name ++ ending = line ∧ '\n' ∉ name then some (String.ofList name) else none
  | _ => none

namespace Violation

/-- The raw error of a violation with a message and parameters. -/
def rawError (v : Violation) (message : String) (params : List (String × Node)) : RawError where
  keyword := v.keyword
  instancePath := v.path.instancePath
  message := .str message
  params
  schemaPath := v.schemaPath.schemaPath

/-- The parameters of a keyword that needs no further look at the instance. -/
def params (v : Violation) : List (String × Node) :=
  if v.keyword = "enum" then [("allowedValues", .list (v.keywordValue.items?.getD []))]
  else if v.keyword = "required" then
    match missingName? v.message with
    | some name => [("missingProperty", .str name)]
    | none => []
  else if v.keyword = "type" then [("type", v.keywordValue)]
  else []

/-- The message shown for a keyword. -/
def shownMessage (v : Violation) : String :=
  if v.keyword = "enum" then "must be equal to one of the allowed values" else v.message

/-- The raw errors of a violation, whose places in the instance and in the schema must be writable. -/
def rawErrors (v : Violation) : Except Fault (List RawError) :=
  if Node.anyLongInteger (v.path ++ v.schemaPath) then .error (.longNumeral .toWrite)
  else match v.keyword, v.schema with
    | "additionalProperties", .map _ =>
      match unexpectedNames v.subject v.schema with
      | .error e => .error e
      | .ok [] => .ok [v.rawError v.message []]
      | .ok names => .ok (names.map fun name =>
          v.rawError "must NOT have additional properties" [("additionalProperty", name)])
    | _, _ => .ok [v.rawError v.shownMessage v.params]

/-- Violations in the order of their locations; at one location they keep their order. -/
def sortByLocation (vs : List Violation) : List Violation :=
  vs.mergeSort fun a b => !decide (b.path.parts < a.path.parts)

end Violation

/-- The raw errors of violations one after the other. -/
def rawErrorsOf : List Violation → Except Fault (List RawError)
  | [] => .ok []
  | v :: vs =>
    match v.rawErrors with
    | .error e => .error e
    | .ok errors =>
      match rawErrorsOf vs with
      | .error e => .error e
      | .ok rest => .ok (errors ++ rest)

/--
Violations as raw errors in the order of their locations.  All locations are written before any raw error
is made, because they are compared as texts.
-/
def Violation.inOrder (vs : List Violation) : Except Fault (List RawError) :=
  if vs.any fun v => Node.anyLongInteger v.path then .error (.longNumeral .toWrite)
  else rawErrorsOf (Violation.sortByLocation vs)

/-- What finds the violations of a document, whatever it goes by. -/
abbrev Checker := Node → Except Fault (List Violation)

namespace Checker

/-- What a document violates, as raw errors in the order of their locations. -/
def rawErrors (check : Checker) (document : Node) : Except Fault (List RawError) :=
  match check document with
  | .error e => .error e
  | .ok vs => Violation.inOrder vs

end Checker

namespace Compiled

/-- A schema finds the violations of its keywords. -/
def checker (c : Compiled) : Checker := c.violations

/-- What a document violates in a schema, as raw errors in the order of their locations. -/
def rawErrors (c : Compiled) (document : Node) : Except Fault (List RawError) :=
  c.checker.rawErrors document

end Compiled

end ApiLint.Schema
