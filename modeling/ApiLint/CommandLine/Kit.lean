import ApiLint.Console.Printer
import ApiLint.Finding.Save
import ApiLint.Settings

/-!
# What commands work with

A command asks for files, reads texts, checks documents and prints.  It leaves all of this to libraries, which it
takes as they come: their values are of any kind, and each of them may end with faults of a kind of its own.  What
the command adds is which format a document declares, which checker is asked for it, and what is done with what the
checker finds.
-/

namespace ApiLint.CommandLine

/-- What a command works with. -/
structure Kit where
  /-- What documents and schemas are read as. -/
  Value : Type
  YamlFault : Type
  readers : Readers Value YamlFault
  FileFault : Type
  /-- What the files answer as they stand in a tree. -/
  files : FileTree → FileAccess FileFault
  /--
  The text in a field of a document, if the document is a mapping and the field holds one.  Formats are told apart by
  how the texts start, so what is no character, as half of a surrogate pair, may be given as any other sign.
  -/
  fieldText : Value → String → Option String
  /-- What checks documents. -/
  Checker : Type
  SchemaFault : Type
  /-- Make a checker from a schema, which may be refused in words. -/
  compile : Value → Except (Reported (Option String) SchemaFault) Checker
  LintFault : Type
  /-- What a checker finds in a document. -/
  findings : Checker → Value → Except LintFault (List Finding)
  PrintFault : Type
  printer : Console.Printer PrintFault

/-- A fault that no command reports. -/
inductive RunFaultOf (δ σ τ π : Type) where
  | document (fault : δ)
  | schemaFile (fault : σ)
  | lint (error : τ)
  | file (error : FileError)
  | markup (fault : π)
deriving DecidableEq

namespace Kit

variable (kit : Kit)

/-- A fault met while loading a document. -/
abbrev LoadFault := LoadFaultOf kit.FileFault kit.YamlFault

/-- A fault met while loading a schema. -/
abbrev SchemaFileFault := SchemaFileFaultOf kit.FileFault kit.YamlFault kit.SchemaFault

/-- A fault that ends a command. -/
abbrev RunFault := RunFaultOf kit.LoadFault kit.SchemaFileFault kit.LintFault kit.PrintFault

/-- Checkers by format. -/
abbrev Checkers := List (Variant × kit.Checker)

/-- Load a document. -/
def loadDocument (tree : FileTree) (path : FilePath) :
    Except (Reported DocumentError kit.LoadFault) kit.Value :=
  kit.readers.loadDocument (kit.files tree) path

/-- Load the checkers that settings name. -/
def loadCheckers (tree : FileTree) (settings : Settings) :
    Except (Reported SchemaFileError kit.SchemaFileFault) kit.Checkers :=
  Settings.loadAll (kit.readers.compileSchema kit.compile (kit.files tree)) settings.schemaPaths

/-- The format that a document declares. -/
def detect (document : kit.Value) : Variant := .ofFields (kit.fieldText document)

/-- What the checker for its format finds in a document; without one nothing is found. -/
def process (checkers : kit.Checkers) (document : kit.Value) : Except kit.LintFault (List Finding) :=
  match checkers.lookup (kit.detect document) with
  | some checker => kit.findings checker document
  | none => .ok []

/-! ## The standard kit -/

/-- Nodes, trees of files, schemas that become validators, and a console of so many columns. -/
@[reducible]
def standard (columns : Nat) : Kit where
  Value := Node
  YamlFault := Yaml.ReadError
  readers := .standard
  FileFault := FileError
  files := FileTree.access
  fieldText := Node.fieldText
  Checker := Schema.Compiled
  SchemaFault := Schema.Fault
  compile := Schema.Compiled.compile
  LintFault := LintError
  findings c document := Registry.lint [(Variant.detect document, c.validator)] document
  PrintFault := Markup.Fault
  printer := .standard columns

end Kit

/-- A fault that ends a command with the standard kit. -/
abbrev RunFault := RunFaultOf LoadFault SchemaFileFault LintError Markup.Fault

end ApiLint.CommandLine
