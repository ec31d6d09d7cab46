import ApiLint.Schema.Equality
import ApiLint.Schema.Keyword.Text

/-!
# Keywords on objects

Subschemas of entries and of their names, and names that must or must not be there.
-/

namespace ApiLint.Schema.Site

/-- The subschemas of entries by name. -/
def properties (site : Site) : Outcome :=
  match site.subject with
  | .map entries =>
    site.forEntries site.value fun (name, schema) =>
      match Node.lookupKey name entries with
      | some x => site.descend schema x (some name) (some name)
      | none => .valid
  | _ => .valid

/-- The subschemas of all entries whose name a pattern is found in. -/
def patternProperties (site : Site) : Outcome :=
  match site.subject with
  | .map entries =>
    site.forEntries site.value fun (pattern, schema) =>
      site.forEach entries fun (name, x) =>
        .ofExcept
          (fun found => if found then site.descend schema x (some name) (some pattern) else .valid)
          (isFound pattern name)
  | _ => .valid

/-- The subschema of the names of entries. -/
def propertyNames (site : Site) : Outcome :=
  match site.subject with
  | .map entries => site.forEach entries fun (name, _) => site.descend site.value name none none
  | _ => .valid

/-- Does a node hold a key, as one of its keys or elements or as a part of its text? -/
def holds (container key : Node) : Except Fault Bool :=
  match container, key with
  | .map entries, _ => .ok (Node.lookupKey key entries).isSome
  | .list items, _ => .ok (items.any key.equiv)
  | .tuple items, _ => .ok (items.any key.equiv)
  | .str s, .str part => .ok (Draft.isInfix part.toList s.toList)
  | .bytes bs, .int n =>
    if 0 ≤ n ∧ n < 256 then .ok (bs.any fun b => (b.toNat : Int) == n) else .error .noByte
  | .bytes bs, .bool b => .ok (bs.contains (if b then 1 else 0))
  | .bytes bs, .bytes part => .ok (Draft.isInfix part bs)
  | _, _ => .error .wrongKind

/-- All patterns of entries as one pattern text, alternatives of each other. -/
def joinedPatterns (site : Site) : Except Fault String :=
  match site.sibling? "patternProperties" with
  | none => .ok ""
  | some x =>
    match x.elements? with
    | none => .error .wrongKind
    | some patterns =>
      match patterns.mapM Node.str? with
      | some texts => .ok ("|".intercalate texts)
      | none => .error .wrongKind

/-- Is a name neither declared nor met by the patterns?  An empty pattern text meets nothing. -/
def isAdditional (declared : Node) (patterns : String) (name : Node) : Except Fault Bool :=
  match holds declared name with
  | .error e => .error e
  | .ok true => .ok false
  | .ok false =>
    if patterns.isEmpty then .ok true
    else match isFound (.str patterns) name with
      | .error e => .error e
      | .ok found => .ok (!found)

/-- The names of entries that are neither declared nor met by the patterns. -/
def additionalNames (site : Site) (entries : List (Node × Node)) : Except Fault (List Node) :=
  match site.joinedPatterns with
  | .error e => .error e
  | .ok patterns =>
    filterNames (isAdditional ((site.sibling? "properties").getD (.map [])) patterns)
      (entries.map (·.1))

/-- The violation of names that are not allowed. -/
def reportAdditional (site : Site) (extras : List Node) : Outcome :=
  match site.sibling? "patternProperties" with
  | none => site.reportTooMuch "Additional properties are not allowed" (sortedByText extras) "unexpected"
  | some patterns =>
    match sorted? extras, patterns.elements?.bind sorted? with
    | some names, some patterns =>
      showingAll names fun shown =>
        showingAll patterns fun others =>
          site.report (shown ++ (if extras.length = 1 then " does" else " do")
            ++ " not match any of the regexes: " ++ others)
    | _, _ => .fail .wrongKind

/-- The subschema of all other entries, or whether there may be any. -/
def additionalProperties (site : Site) : Outcome :=
  match site.subject with
  | .map entries =>
    .ofExcept (fun extras =>
      match site.value with
      | .map _ =>
        site.forEach extras fun name =>
          site.descend site.value ((Node.lookupKey name entries).getD .null) (some name) none
      | value =>
        if value.isTruthy || extras.isEmpty then .valid else site.reportAdditional extras)
      (site.additionalNames entries)
  | _ => .valid

/-- What to report of a name unless it is there; what can be no name cannot be looked for. -/
def unlessThere (name : Node) (entries : List (Node × Node)) (outcome : Outcome) : Outcome :=
  if !name.isKeyLike then .fail .wrongKind
  else if (Node.lookupKey name entries).isSome then .valid
  else outcome

/-- The names that must be there. -/
def required (site : Site) : Outcome :=
  match site.subject with
  | .map entries =>
    site.forElements site.value fun name =>
      unlessThere name entries <|
        showing name fun text => site.report (text ++ " is a required property")
  | _ => .valid

/-- The names that must be there beside a given one. -/
def needed (site : Site) (entries : List (Node × Node)) (name needs : Node) : Outcome :=
  site.forElements needs fun other =>
    unlessThere other entries <|
      showing other fun first =>
        showing name fun second => site.report (first ++ " is a dependency of " ++ second)

/-- What must hold beside given names: further names, or a subschema for the whole object. -/
def dependencies (site : Site) (asNames : Node → Bool) : Outcome :=
  match site.subject with
  | .map entries =>
    site.forEntries site.value fun (name, demand) =>
      if (Node.lookupKey name entries).isNone then .valid
      else if asNames demand then site.needed entries name demand
      else site.descend demand site.subject none (some name)
  | _ => .valid

end ApiLint.Schema.Site
