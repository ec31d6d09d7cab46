import ApiLint.Schema.Draft
import ApiLint.Schema.Reference

/-!
# Keywords at work

A `Site` is a keyword met in a schema together with the value it is applied to.  Subschemas are checked
through the functions that the site carries, so the demand of a keyword needs no recursion.
-/

namespace ApiLint.Schema

/-- A keyword in a schema, applied to a value. -/
structure Site where
  draft : Draft
  keyword : String
  /-- The value of the keyword. -/
  value : Node
  /-- The schema that holds the keyword. -/
  entries : List (Node × Node)
  /-- The value that is checked. -/
  subject : Node
  /-- The schema as a whole, into which references lead. -/
  root : Node
  /-- Is only the first violation wanted? -/
  untilFirst : Bool
  /-- Does the keyword `format` demand anything? -/
  assertsFormats : Bool
  /-- Check a value against a subschema, for as many violations as are wanted here. -/
  check : Node → Node → Outcome
  /-- Check a value against a subschema for all violations. -/
  checkFully : Node → Node → Outcome
  /-- Does a value satisfy a subschema? -/
  isSatisfied : Node → Node → Except Fault Bool

namespace Site

/-! ## Reporting and descending -/

/-- A violation under the name and value of another keyword. -/
def reportAs (site : Site) (keyword : String) (value : Node) (message : String) : Outcome :=
  .one {
    keyword
    keywordValue := value
    message
    subject := site.subject
    schema := .map site.entries
    path := []
    schemaPath := [] }

/-- A violation of the keyword itself. -/
def report (site : Site) (message : String) : Outcome :=
  site.reportAs site.keyword site.value message

/-- Show a value in a message; a value that cannot be written is a fault. -/
def showing (x : Node) (use : String → Outcome) : Outcome :=
  match x.literal? with
  | .ok text => use text
  | .error e => .fail (.longNumeral e)

/-- Show values one after the other in a message. -/
def showingAll (xs : List Node) (use : String → Outcome) : Outcome :=
  if Node.anyLongInteger xs then .fail (.longNumeral .toWrite)
  else use (", ".intercalate (Node.literals xs))

/-- A violation whose message begins with the value. -/
def reportSubject (site : Site) (message : String) : Outcome :=
  showing site.subject fun text => site.report (text ++ " " ++ message)

/-- A violation if the condition holds. -/
def reportIf (site : Site) (fails : Bool) (message : String) : Outcome :=
  if fails then site.reportSubject message else .valid

/-- A violation if the condition holds, whose message begins with the value and ends in another one. -/
def reportShowing (site : Site) (fails : Bool) (message : String) (x : Node) : Outcome :=
  if fails then showing x fun text => site.reportSubject (message ++ text) else .valid

/--
Check a part of the value against a schema.  Its violations are placed below the part and below the schema;
the single violation of `false` is not.
-/
def descendFreely (site : Site) (schema subject : Node) (path schemaPath : Option Node) : Outcome :=
  match schema with
  | .bool _ => site.check schema subject
  | _ => (site.check schema subject).map (·.under path schemaPath)

/-- The fault of a value in the place of a subschema: it has no members, or no elements to look through. -/
def subschemaFault? (draft : Draft) (schema : Node) : Option Fault :=
  match draft, schema with
  | _, .bool _ => none
  | _, .map _ => none
  | .draft4, .str _ => some .noSuchMember
  | .draft4, .list _ => some .noSuchMember
  | .draft4, .tuple _ => some .noSuchMember
  | .draft4, _ => some .wrongKind
  | _, _ => some .noSuchMember

/-- An outcome that needs a subschema. -/
def withSubschema (site : Site) (schema : Node) (outcome : Outcome) : Outcome :=
  match subschemaFault? site.draft schema with
  | some fault => .fail fault
  | none => outcome

/-- Check a part of the value against a subschema. -/
def descend (site : Site) (schema subject : Node) (path schemaPath : Option Node) : Outcome :=
  site.withSubschema schema (site.descendFreely schema subject path schemaPath)

/-- The outcomes for all elements, up to the end of the search. -/
def forEach (site : Site) (xs : List α) (f : α → Outcome) : Outcome :=
  Outcome.forEach site.untilFirst f xs

/-- Go through the elements of a node. -/
def forElements (site : Site) (x : Node) (f : Node → Outcome) : Outcome :=
  match x.elements? with
  | some xs => site.forEach xs f
  | none => .fail .wrongKind

/-- Go through the entries of a node that must be a mapping. -/
def forEntries (site : Site) (x : Node) (f : Node × Node → Outcome) : Outcome :=
  match x with
  | .map entries => site.forEach entries f
  | _ => .fail .noSuchMember

/-- The value of another keyword of the schema. -/
def sibling? (site : Site) (name : String) : Option Node := Node.lookup name site.entries

/-- The number of elements of the value of another keyword, which counts as empty when absent. -/
def siblingLength (site : Site) (name : String) : Except Fault Nat :=
  match site.sibling? name with
  | none => .ok 0
  | some x =>
    match x.elements? with
    | some xs => .ok xs.length
    | none => .error .wrongKind

/-- The wording of what is too much, with the values concerned. -/
def reportTooMuch (site : Site) (wording : String) (extras : List Node) (ending : String) : Outcome :=
  showingAll extras fun texts =>
    site.report (wording ++ " (" ++ texts ++ (if extras.length = 1 then " was " else " were ") ++ ending ++ ")")

/-- The names that satisfy a test that may fail. -/
def filterNames (test : Node → Except Fault Bool) : List Node → Except Fault (List Node)
  | [] => .ok []
  | name :: names =>
    match test name with
    | .error e => .error e
    | .ok keep =>
      match filterNames test names with
      | .error e => .error e
      | .ok rest => .ok (if keep then name :: rest else rest)

/-- Names in the order of their texts. -/
def sortedByText (names : List Node) : List Node :=
  names.mergeSort fun a b => a.display ≤ b.display

/-- Items with their indices, from a given index on. -/
def indexed (index : Nat) : List Node → List (Node × Node)
  | [] => []
  | x :: xs => (.int index, x) :: indexed (index + 1) xs

end Site

end ApiLint.Schema
