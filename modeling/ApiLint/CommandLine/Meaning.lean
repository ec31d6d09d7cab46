import ApiLint.CommandLine.Run

/-!
# What lint commands mean

A lint command has a path and options.  Schemas add up; of several outputs the last one counts, and so does
the last word on whether findings are a failure.

A request is refused if its options, its document or one of its schema files is at fault in a way that is
reported.  Otherwise linting finds what the validators of the schemas say about the document.
-/

namespace ApiLint

/--
Has a tree become another one by nothing but a file with a content at a path?  Directories on the way to the
file may have been made.
-/
def FileTree.DiffersOnlyAt (t t' : FileTree) (p : FilePath) (content : ByteArray) : Prop :=
  ∃ place, t'.place p = .ok place ∧ t'.files.lookup place = some content ∧
    ∀ other, other ≠ place → t'.files.lookup other = t.files.lookup other

namespace CommandLine

namespace LintOption

/-- The schema that an option names. -/
def schema? : LintOption → Option String
  | .schema option => some option
  | _ => none

/-- The output that an option names. -/
def output? : LintOption → Option String
  | .output path => some path
  | _ => none

/-- What an option says about findings as a failure. -/
def fail? : LintOption → Option Bool
  | .fail failOnFindings => some failOnFindings
  | _ => none

end LintOption

/-- The request that a path and options make. -/
def LintRequest.ofOptions (path : String) (options : List LintOption) : LintRequest where
  path := .ofText path
  schemaOptions := options.filterMap LintOption.schema?
  output := (options.filterMap LintOption.output?).getLast?.map .ofText
  failOnFindings := (options.filterMap LintOption.fail?).getLast?.getD true

/-- Do the words of a command line ask to lint a path with options? -/
def IsLint (words : List String) (path : String) (options : List LintOption) : Prop :=
  ∃ common rest, commonOptions.read words = some ⟨common, "lint" :: rest⟩ ∧
    lintOptions.read rest = some ⟨options, [path]⟩ ∧
    (LintRequest.ofOptions path options).isUsable = true

namespace LintRequest

variable (request : LintRequest)

/-- The settings of a request. -/
def settings : Except SettingsError Settings :=
  Settings.ofOptions request.schemaOptions request.failOnFindings

variable (kit : Kit) (tree : FileTree)

/-- Is there an error that is reported before anything is linted? -/
inductive IsRefused : Prop where
  | settings {e : SettingsError} (hsettings : request.settings = .error e)
  | document {settings : Settings} {e : DocumentError} (hsettings : request.settings = .ok settings)
      (hdocument : kit.loadDocument tree request.path = .error (.error e))
  | schemaFile {settings : Settings} {document : kit.Value} {e : SchemaFileError}
      (hsettings : request.settings = .ok settings)
      (hdocument : kit.loadDocument tree request.path = .ok document)
      (hcheckers : kit.loadCheckers tree settings = .error (.error e))

/-- Are these the findings of the document by the checkers of the schemas? -/
def Finds (findings : List Finding) : Prop :=
  ∃ settings document checkers, request.settings = .ok settings ∧
    kit.loadDocument tree request.path = .ok document ∧ kit.loadCheckers tree settings = .ok checkers ∧
    kit.process checkers document = .ok findings

end LintRequest

/-- Are the files as they were, but for a file that holds findings if there is a path to save them at? -/
def IsSaved (output : Option FilePath) (findings : List Finding) (tree tree' : FileTree) : Prop :=
  match output with
  | none => tree' = tree
  | some path => tree.DiffersOnlyAt tree' path (Finding.fileText findings).toUTF8

end CommandLine

end ApiLint
