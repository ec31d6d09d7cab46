import ApiLint.Schema.Site

/-!
# Keywords that combine schemas

All, some, exactly one or none of several schemas, one that decides between two others, and schemas that
stand elsewhere.
-/

namespace ApiLint.Schema.Site

/-- The subschemas that must all be satisfied. -/
def allOf (site : Site) : Outcome :=
  match site.value.elements? with
  | none => .fail .wrongKind
  | some schemas =>
    site.forEach (indexed 0 schemas) fun (index, schema) =>
      site.descend schema site.subject none (some index)

/-- The first satisfied subschema and those after it. -/
def firstSatisfied (site : Site) : List Node → Except Fault (Option (Node × List Node))
  | [] => .ok none
  | schema :: schemas =>
    match (site.withSubschema schema (site.checkFully schema site.subject)).all with
    | .error e => .error e
    | .ok [] => .ok (some (schema, schemas))
    | .ok _ => firstSatisfied site schemas

/-- The wording of a value that satisfies no subschema. -/
def noneSatisfied : String := "is not valid under any of the given schemas"

/-- The subschemas of which at least one must be satisfied. -/
def anyOf (site : Site) : Outcome :=
  match site.value.elements? with
  | none => .fail .wrongKind
  | some schemas =>
    .ofExcept (fun found => site.reportIf (Option.isNone found) noneSatisfied)
      (site.firstSatisfied schemas)

/-- The subschemas of which exactly one must be satisfied. -/
def oneOf (site : Site) : Outcome :=
  match site.value.elements? with
  | none => .fail .wrongKind
  | some schemas =>
    .ofExcept (fun
      | none => site.reportSubject noneSatisfied
      | some (first, others) =>
        .ofExcept (fun more =>
          if more.isEmpty then .valid
          else showingAll (more ++ [first]) fun texts =>
            site.reportSubject ("is valid under each of " ++ texts))
          (filterNames (fun schema => site.isSatisfied schema site.subject) others))
      (site.firstSatisfied schemas)

/-- The subschema that must not be satisfied. -/
def not (site : Site) : Outcome :=
  .ofExcept (fun satisfied => site.reportShowing satisfied "should not be valid under " site.value)
    (site.isSatisfied site.value site.subject)

/-- The subschema that decides which of two others must be satisfied. -/
def conditional (site : Site) : Outcome :=
  .ofExcept (fun satisfied =>
    let branch := if satisfied then "then" else "else"
    match site.sibling? branch with
    | some schema => site.descend schema site.subject none (some (.str branch))
    | none => .valid)
    (site.isSatisfied site.value site.subject)

/-- A schema that stands elsewhere. -/
def reference (site : Site) : Outcome :=
  .ofExcept (fun schema => site.descendFreely schema site.subject none none) (follow site.root site.value)

end ApiLint.Schema.Site
