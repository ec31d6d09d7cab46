import ApiLint.Schema.Keyword.Object

/-!
# Keywords on what no other keyword has looked at

Items and entries count as evaluated when a keyword of the schema, or of a schema that it combines or refers
to and that the value satisfies, has a say about them.  The rest must satisfy the keyword's own schema.
-/

namespace ApiLint.Schema.Site

/-! ## Schemas that have a say -/

/-- Is there no violation by a value, in a check that stops at the first one? -/
def meets (site : Site) (schema subject : Node) : Except Fault Bool :=
  (site.withSubschema schema (site.check schema subject)).isValid

/-- The schemas of a list that the value satisfies. -/
def metAmong (site : Site) (schemas : Option Node) : Except Fault (List Node) :=
  match schemas with
  | none => .ok []
  | some x =>
    match x.elements? with
    | none => .error .wrongKind
    | some schemas => filterNames (fun schema => site.meets schema site.subject) schemas

/-- The schema that a reference leads to, if there is a reference. -/
def referred (site : Site) (reference : Option Node) : Except Fault (List Node) :=
  match reference with
  | none => .ok []
  | some .null => .ok []
  | some x =>
    match follow site.root x with
    | .ok schema => (Draft.ofSchema site.draft schema).map fun _ => [schema]
    | .error (.danglingReference cause) => .error (.danglingEvaluation cause)
    | .error fault => .error fault

/-- The schema of a condition and of its consequence if the value satisfies it, or else of the other case. -/
def branches (site : Site) (entries : List (Node × Node)) : Except Fault (List Node) :=
  match Node.lookup "if" entries with
  | none => .ok []
  | some condition =>
    match site.isSatisfied condition site.subject with
    | .error fault => .error fault
    | .ok true => .ok (condition :: (Node.lookup "then" entries).toList)
    | .ok false => .ok (Node.lookup "else" entries).toList

/-- Go through subschemas that have a say, and put together what they evaluate. -/
def gather (evaluated : Node → Except Fault (List α)) : List Node → Except Fault (List α)
  | [] => .ok []
  | schema :: schemas => do
    let first ← evaluated schema
    let others ← gather evaluated schemas
    return first ++ others

/-! ## Items -/

/-- The indices of the items that satisfy the schema under a keyword. -/
def satisfyingItems (site : Site) (items : List Node) (schema : Option Node) : Except Fault (List Nat) :=
  match schema with
  | none => .ok []
  | some schema => do
    let kept ← items.zipIdx.filterM fun (x, _) => site.isSatisfied schema x
    return kept.map (·.2)

/-- The indices of the items that a schema evaluates. -/
def evaluatedItems (site : Site) (items : List Node) : Nat → Node → Except Fault (List Nat)
  | 0, _ => .error .endlessReference
  | _ + 1, .bool _ => .ok []
  | fuel + 1, .map entries => do
    let keyword (name : String) := Node.lookup name entries
    if (keyword "items").isSome then return List.range items.length
    let schemas (found : List Node) := gather (site.evaluatedItems items fuel) found
    let byReference ← schemas (← site.referred (keyword "$ref"))
    let byDynamicReference ← schemas (← site.referred (keyword "$dynamicRef"))
    let byPlace ← match keyword "prefixItems" with
      | none => pure []
      | some x => match x.elements? with
        | some places => pure (List.range places.length)
        | none => throw .wrongKind
    let byBranch ← schemas (← site.branches entries)
    let byContains ← site.satisfyingItems items (keyword "contains")
    let byDefault ← site.satisfyingItems items (keyword "unevaluatedItems")
    let byAll ← schemas (← site.metAmong (keyword "allOf"))
    let byOne ← schemas (← site.metAmong (keyword "oneOf"))
    let byAny ← schemas (← site.metAmong (keyword "anyOf"))
    return byReference ++ byDynamicReference ++ byPlace ++ byBranch ++ byContains ++ byDefault ++ byAll
      ++ byOne ++ byAny
  | _ + 1, schema => do
    if ← holds schema (.str "items") then return List.range items.length
    throw .noSuchMember

/-- The subschema of items that no other keyword evaluates. -/
def unevaluatedItems (site : Site) : Outcome :=
  match site.subject with
  | .list items =>
    .ofExcept (fun evaluated =>
      let rest := (items.zipIdx.filter fun (_, i) => !evaluated.contains i).map (·.1)
      if rest.isEmpty then .valid
      else site.reportTooMuch "Unevaluated items are not allowed" rest "unexpected")
      (site.evaluatedItems items (site.root.size + 1) (.map site.entries))
  | _ => .valid

/-! ## Entries -/

/-- The names of the entries whose values satisfy the schema under a keyword. -/
def satisfyingNames (site : Site) (entries : List (Node × Node)) (schema : Option Node) :
    Except Fault (List Node) :=
  match schema with
  | none => .ok []
  | some .null => .ok []
  | some schema => do
    let kept ← entries.filterM fun (_, x) => site.meets schema x
    return kept.map (·.1)

/-- The names that a pattern under a keyword is found in. -/
def namesByPattern (names : List Node) (patterns : Option Node) : Except Fault (List Node) :=
  match patterns with
  | none => .ok []
  | some x =>
    match x.elements? with
    | none => if names.isEmpty then .ok [] else .error .wrongKind
    | some patterns => do
      let found ← names.mapM fun name => patterns.filterM fun pattern => isFound pattern name
      return (names.zip found).filterMap fun (name, found) => if found.isEmpty then none else some name

/-- The schemas that hold beside names that are there. -/
def dependentSchemas (entries : List (Node × Node)) : Option Node → Except Fault (List Node)
  | none => .ok []
  | some (.map schemas) =>
    .ok (schemas.filterMap fun (name, schema) => (Node.lookupKey name entries).map fun _ => schema)
  | some _ => .error .noSuchMember

/-- The names of the entries that a schema evaluates. -/
def evaluatedNames (site : Site) (entries : List (Node × Node)) : Nat → Node → Except Fault (List Node)
  | 0, _ => .error .endlessReference
  | _ + 1, .bool _ => .ok []
  | fuel + 1, .map keywords => do
    let keyword (name : String) := Node.lookup name keywords
    let names := entries.map (·.1)
    let schemas (found : List Node) := gather (site.evaluatedNames entries fuel) found
    let byReference ← schemas (← site.referred (keyword "$ref"))
    let byDynamicReference ← schemas (← site.referred (keyword "$dynamicRef"))
    let byName := match keyword "properties" with
      | some (.map declared) => names.filter fun name => (Node.lookupKey name declared).isSome
      | _ => []
    let byDefault ← site.satisfyingNames entries (keyword "additionalProperties")
    let byRest ← site.satisfyingNames entries (keyword "unevaluatedProperties")
    let byPattern ← namesByPattern names (keyword "patternProperties")
    let byDependence ← schemas (← dependentSchemas entries (keyword "dependentSchemas"))
    let byAll ← schemas (← site.metAmong (keyword "allOf"))
    let byOne ← schemas (← site.metAmong (keyword "oneOf"))
    let byAny ← schemas (← site.metAmong (keyword "anyOf"))
    let byBranch ← schemas (← site.branches keywords)
    return byReference ++ byDynamicReference ++ byName ++ byDefault ++ byRest ++ byPattern
      ++ byDependence ++ byAll ++ byOne ++ byAny ++ byBranch
  | _ + 1, _ => .error .noSuchMember

/-- The name of an entry once for every violation of the keyword's schema by its value. -/
def violatingNames (site : Site) : List (Node × Node) → Except Fault (List Node)
  | [] => .ok []
  | (name, x) :: rest => do
    let violations ← (site.withSubschema site.value (site.checkFully site.value x)).all
    let others ← site.violatingNames rest
    return violations.map (fun _ => name) ++ others

/-- The subschema of entries that no other keyword evaluates. -/
def unevaluatedProperties (site : Site) : Outcome :=
  match site.subject with
  | .map entries =>
    let extras : Except Fault (List Node) := do
      let evaluated ← site.evaluatedNames entries (site.root.size + 1) (.map site.entries)
      site.violatingNames (entries.filter fun (name, _) => !evaluated.any name.equiv)
    .ofExcept (fun extras =>
      if extras.isEmpty then .valid
      else match site.value with
        | .bool false =>
          site.reportTooMuch "Unevaluated properties are not allowed" (sortedByText extras) "unexpected"
        | _ =>
          site.reportTooMuch "Unevaluated properties are not valid under the given schema" extras
            "unevaluated and invalid")
      extras
  | _ => .valid

end ApiLint.Schema.Site
