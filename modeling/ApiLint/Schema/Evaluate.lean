import ApiLint.Schema.Keyword

/-!
# Checking values against schemas

A schema is followed keyword by keyword in the order of its entries.  `evaluate` descends through
subschemas and references with a bound on the depth; `depthBound` is large enough for every schema whose
references come to an end, because on the way down no pair of a subschema and a part of the value can
occur twice.
-/

namespace ApiLint.Schema

/-- The keywords that count: in older drafts a reference hides everything beside it. -/
def effectiveEntries (draft : Draft) (entries : List (Node × Node)) : List (Node × Node) :=
  if draft.readsBesideReference then entries
  else match Node.lookup "$ref" entries with
    | none => entries
    | some .null => entries
    | some reference => [(.str "$ref", reference)]

/-- The violation of a schema that nothing satisfies. -/
def refused (subject : Node) : Outcome :=
  Site.showing subject fun text => .one {
    keyword := "None"
    keywordValue := .null
    message := "False schema does not allow " ++ text
    subject
    schema := .bool false
    path := []
    schemaPath := [] }

/-- Do violations that come through this keyword name it in their place in the schema? -/
def isVisible (keyword : String) : Bool := keyword ≠ "if" ∧ keyword ≠ "$ref"

/-- Everything about a check but the schema and the value at hand. -/
structure Setting where
  /-- The schema as a whole. -/
  root : Node
  assertsFormats : Bool
  /-- Is only the first violation wanted? -/
  untilFirst : Bool

/--
Check a value against a schema that is met under a draft.  The schema may declare another draft for its
keywords; which of its entries count is up to the draft that it is met under.
-/
def evaluate : Nat → Setting → Draft → Node → Node → Outcome
  | 0, _, _, _, _ => .fail .endlessReference
  | _ + 1, _, _, .bool true, _ => .valid
  | _ + 1, _, _, .bool false, subject => refused subject
  | depth + 1, setting, outer, schema, subject =>
    match Draft.ofSchema outer schema, schema with
    | .error fault, _ => .fail fault
    | .ok draft, .map entries =>
      Outcome.forEach setting.untilFirst (fun (key, value) =>
        match key with
        | .str keyword =>
          if draft.hasKeyword keyword then
            let site : Site := {
              draft, keyword, value, entries, subject
              root := setting.root
              untilFirst := setting.untilFirst
              assertsFormats := setting.assertsFormats
              check := fun schema subject => evaluate depth setting draft schema subject
              checkFully := fun schema subject =>
                evaluate depth { setting with untilFirst := false } draft schema subject
              isSatisfied := fun schema subject =>
                match Draft.ofSchema draft schema with
                | .error fault => .error fault
                | .ok inner =>
                  (evaluate depth { setting with untilFirst := true } inner schema subject).isValid }
            if isVisible keyword then site.outcome.map (·.under none (some (.str keyword)))
            else site.outcome
          else .valid
        | _ => .valid) (effectiveEntries outer entries)
    | .ok _, _ => .fail .noSuchMember

/-- A depth that only endless references exceed. -/
def depthBound (schema subject : Node) : Nat := (schema.size + 2) * (subject.size + 2)

/-- All violations of a schema by a value, in the order in which they are met. -/
def violations (draft : Draft) (schema subject : Node) : Except Fault (List Violation) :=
  (evaluate (depthBound schema subject) ⟨schema, false, false⟩ draft schema subject).all

end ApiLint.Schema
