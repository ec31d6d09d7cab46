import ApiLint.CommandLine.Command
import ApiLint.CommandLine.Kit

/-!
# Running commands

A command prints lines, may save a findings file, and ends with an exit code: 0, or 1 after an error or
findings that count as a failure, or 2 if the command line cannot be used.  Errors of settings, documents
and schemas are printed; any other fault ends the command as it is.
-/

namespace ApiLint.CommandLine

/-- Why a command ends before its last step. -/
inductive Ending (φ : Type) where
  | exit (code : Nat)
  | fault (fault : φ)
deriving DecidableEq

/-- What a command has done so far: the lines on the console, and the files. -/
structure Progress where
  lines : List String
  tree : FileTree

/-- A step of a command. -/
abbrev Kit.Run (kit : Kit) := EStateM (Ending kit.RunFault) Progress

variable (kit : Kit)

namespace Kit

/-- End with a fault. -/
def fail {α : Type} (fault : kit.RunFault) : kit.Run α := throw (.fault fault)

/-- Put lines on the console, unless their markup is at fault. -/
def put (shown : Except kit.PrintFault (List String)) : kit.Run Unit := fun progress =>
  match shown with
  | .ok lines => .ok () { progress with lines := progress.lines ++ lines }
  | .error fault => .error (.fault (.markup fault)) progress

/-- Print a markup. -/
def print (markup : String) : kit.Run Unit := kit.put (kit.printer.print markup)

/-- The markup that shows a text as it is. -/
def escape (text : String) : String := kit.printer.escape text

/-- Print an error and end with it. -/
def report {α : Type} (message : String) : kit.Run α := do
  kit.print ("[red]" ++ kit.escape message ++ "[/red]")
  throw (.exit 1)

/-- Go on with a value, or report an error. -/
def orReport {α ε : Type} (message : ε → String) : Except ε α → kit.Run α
  | .ok a => pure a
  | .error e => kit.report (message e)

/-- Go on with a value, or report an error, or end with another fault. -/
def orReportOrFail {α ε φ : Type} (message : ε → String) (toFault : φ → kit.RunFault) :
    Except (Reported ε φ) α → kit.Run α
  | .ok a => pure a
  | .error (.error e) => kit.report (message e)
  | .error (.fault fault) => kit.fail (toFault fault)

/-- Go on with a value, or end with a fault. -/
def orFail {α ε : Type} (toFault : ε → kit.RunFault) : Except ε α → kit.Run α
  | .ok a => pure a
  | .error e => kit.fail (toFault e)

/-- The files. -/
def tree : kit.Run FileTree := fun progress => .ok progress.tree progress

/-- Load a document. -/
def document (path : FilePath) : kit.Run kit.Value := do
  kit.orReportOrFail DocumentError.message .document (kit.loadDocument (← kit.tree) path)

/-- Load all checkers. -/
def checkers (settings : Settings) : kit.Run kit.Checkers := do
  kit.orReportOrFail SchemaFileError.message .schemaFile (kit.loadCheckers (← kit.tree) settings)

/-- Save findings in a file. -/
def save (path : FilePath) (findings : List Finding) : kit.Run Unit := fun progress =>
  match progress.tree.saveFindings path findings with
  | .ok _ tree => .ok () { progress with tree }
  | .error e tree => .error (.fault (.file e)) { progress with tree }

/-! ## Linting -/

/-- Say what is linted. -/
def announce (path : FilePath) (variant : Variant) : kit.Run Unit :=
  kit.print ("Linting [bold]" ++ kit.escape path.text ++ "[/bold] as " ++ variant.tag ++ "...")

/-- Say that there is no schema for a format, if there is none. -/
def announceSkip (checkers : kit.Checkers) (variant : Variant) : kit.Run Unit :=
  if (checkers.lookup variant).isSome then pure ()
  else kit.print ("[yellow]No schema configured for " ++ variant.tag ++ ", skipping.[/yellow]")

/-- Save findings if there is a path to save them at, and say so. -/
def saveOutput (output : Option FilePath) (findings : List Finding) : kit.Run Unit :=
  match output with
  | none => pure ()
  | some path => do
    kit.save path findings
    kit.print ("[green]Findings:[/green] " ++ path.text)

end Kit

/-- The text that shows where a finding is. -/
def placeText (f : Finding) : String := if f.path.isEmpty then "#" else "/".intercalate f.path

namespace Kit

/-- The table of findings. -/
def findingsTable (findings : List Finding) : Console.Table where
  title := "Findings"
  headers := ["Path", "Message"]
  rows := findings.map fun f => [kit.escape (placeText f), kit.escape f.message]

/-- Show findings; they end the command with exit code 1 if they count as a failure. -/
def showFindings (failOnFindings : Bool) (findings : List Finding) : kit.Run Unit :=
  if findings.isEmpty then kit.print "[green]No findings.[/green]"
  else do
    kit.put (kit.printer.printTable (kit.findingsTable findings))
    kit.print ("[red]Found " ++ toString findings.length ++ " finding(s).[/red]")
    if failOnFindings then throw (.exit 1) else pure ()

end Kit

/-- Lint a document: read the options, load the document and then the schemas, and only then save and show
what was found. -/
def LintRequest.run (request : LintRequest) : kit.Run Unit := do
  let settings ← kit.orReport SettingsError.message
    (Settings.ofOptions request.schemaOptions request.failOnFindings)
  let document ← kit.document request.path
  let checkers ← kit.checkers settings
  kit.announce request.path (kit.detect document)
  kit.announceSkip checkers (kit.detect document)
  let findings ← kit.orFail .lint (kit.process checkers document)
  kit.saveOutput request.output findings
  kit.showFindings settings.failOnFindings findings

/-! ## All commands -/

/-- The table of formats. -/
def variantsTable : Console.Table where
  title := "Schema Variants"
  headers := ["Variant", "Field", "Version prefix"]
  rows := Variant.markers.map fun marker => [marker.variant.tag, marker.field, marker.versionStart]

/-- The steps of a command. -/
def Command.steps : Command → kit.Run Unit
  | .lint request => request.run kit
  | .detect path => do
    let document ← kit.document path
    kit.print (kit.detect document).tag
  | .listVariants => kit.put (kit.printer.printTable variantsTable)

/-- What a command line did. -/
structure Outcome (φ : Type) where
  exitCode : Nat
  lines : List String
  /-- The fault that ended the command, if it was not reported. -/
  fault : Option φ
  tree : FileTree

/-- Run a command on files. -/
def Command.run (command : Command) (tree : FileTree) : Outcome kit.RunFault :=
  match command.steps kit ⟨[], tree⟩ with
  | .ok _ progress => ⟨0, progress.lines, none, progress.tree⟩
  | .error (.exit code) progress => ⟨code, progress.lines, none, progress.tree⟩
  | .error (.fault fault) progress => ⟨1, progress.lines, some fault, progress.tree⟩

/-- Run a command line on files. -/
def Kit.run (words : List String) (tree : FileTree) : Outcome kit.RunFault :=
  match Command.ofWords words with
  | some command => command.run kit tree
  | none => ⟨2, [], none, tree⟩

/-- Run a command line on files with the standard kit and a console of four hundred columns. -/
def run (words : List String) (tree : FileTree) : Outcome RunFault := (Kit.standard 400).run words tree

end ApiLint.CommandLine
