import ApiLint.CommandLine.Options
import ApiLint.Files.Path

/-!
# Commands

What a command line asks for: to lint a document, to detect its format or to list the formats.
-/

namespace ApiLint.CommandLine

/-- What to lint, and how. -/
structure LintRequest where
  path : FilePath
  /-- The options that name schemas, in their order. -/
  schemaOptions : List String
  /-- Where to save the findings. -/
  output : Option FilePath
  failOnFindings : Bool
deriving DecidableEq

/-- What a command line asks for. -/
inductive Command where
  | lint (request : LintRequest)
  | detect (path : FilePath)
  | listVariants
deriving DecidableEq

/-- An option of the lint command. -/
inductive LintOption where
  | schema (option : String)
  | output (path : String)
  | fail (failOnFindings : Bool)
deriving DecidableEq

/-- The options of the lint command. -/
def lintOptions : Options LintOption where
  short := [('s', .value .schema), ('o', .value .output)]
  long := [("schema", .value .schema), ("output", .value .output), ("fail", .flag (.fail true)),
    ("no-fail", .flag (.fail false))]
  stopsAtWord := false

/-- The options before the name of a command; they only make the log longer. -/
def commonOptions : Options Unit where
  short := [('v', .flag ())]
  long := [("verbose", .flag ())]
  stopsAtWord := true

/-- The options of a command without any. -/
def noOptions : Options Unit where
  short := []
  long := []
  stopsAtWord := false

/-- Put an option into a request; the last one of a kind counts, except that schemas add up. -/
def LintRequest.set (request : LintRequest) : LintOption → LintRequest
  | .schema option => { request with schemaOptions := request.schemaOptions ++ [option] }
  | .output path => { request with output := some (.ofText path) }
  | .fail failOnFindings => { request with failOnFindings }

/-- Can the paths be paths of files? -/
def LintRequest.isUsable (request : LintRequest) : Bool :=
  !request.path.hasNul && !request.output.any FilePath.hasNul

namespace Command

/-- Read the words after the name of a command. -/
def ofNameAndWords (name : String) (words : List String) : Option Command :=
  match name with
  | "lint" =>
    match lintOptions.read words with
    | some ⟨options, [path]⟩ =>
      let request := options.foldl LintRequest.set ⟨.ofText path, [], none, true⟩
      if request.isUsable then some (.lint request) else none
    | _ => none
  | "detect" =>
    match noOptions.read words with
    | some ⟨_, [path]⟩ =>
      let path := FilePath.ofText path
      if path.hasNul then none else some (.detect path)
    | _ => none
  | "list-variants" =>
    match noOptions.read words with
    | some ⟨_, []⟩ => some .listVariants
    | _ => none
  | _ => none

/-- Read a command line; nothing if it cannot be used. -/
def ofWords (words : List String) : Option Command :=
  match commonOptions.read words with
  | some ⟨_, name :: words⟩ => ofNameAndWords name words
  | _ => none

end Command

end ApiLint.CommandLine
