import ApiLint.Lint.Registry

/-!
# Findings of one violation

Linting a document makes findings of all its violations at once.  What a single violation
contributes is its group: the findings of its own raw errors.
-/

namespace ApiLint.Schema.Violation

/-- The findings of one violation. -/
def findings (document : Node) (v : Violation) : Except LintError (List Finding) :=
  match v.rawErrors with
  | .error fault => .error (.schema fault)
  | .ok errors =>
    match Finding.ofErrors document (errors.map some) with
    | .ok findings => .ok findings
    | .error e => .error (.numeral e)

/-- A violation has findings exactly when it has raw errors that have them. -/
theorem findings_eq_ok_iff {document : Node} {v : Violation} {group : List Finding} :
    v.findings document = .ok group ↔
      ∃ errors, v.rawErrors = .ok errors ∧
        Finding.ofErrors document (errors.map some) = .ok group := by
  rw [findings]
  cases v.rawErrors with
  | error fault => simp
  | ok errors =>
      cases hfindings : Finding.ofErrors document (errors.map some) <;> simp [hfindings]

/-- The group of a violation: its findings, as far as they can be made. -/
def group (document : Node) (v : Violation) : List Finding := (v.findings document).toOption.getD []

/-- A violation that has findings has them for its group. -/
theorem group_eq_of_findings {document : Node} {v : Violation} {findings : List Finding}
    (h : v.findings document = .ok findings) : v.group document = findings := by
  rw [group, h]
  rfl

/--
The findings that a violation is shown as: one below its place for each name that is not expected
there, and for every other violation a single one at its place.
-/
inductive IsShownAs (v : Violation) : List Finding → Prop where
  | names {names : List String} :
    v.keyword = "additionalProperties" → unexpectedNames v.subject v.schema = .ok (names.map .str) →
      names ≠ [] → IsShownAs v (names.map fun name =>
        ⟨"Property \"" ++ name ++ "\" is not expected to be here", v.path.parts ++ [name]⟩)
  | alone {message : String} :
    (v.keyword = "additionalProperties" → unexpectedNames v.subject v.schema = .ok []) →
      IsShownAs v [⟨message, v.path.parts⟩]

end ApiLint.Schema.Violation
