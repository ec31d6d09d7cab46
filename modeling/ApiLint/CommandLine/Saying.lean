import ApiLint.CommandLine.Meaning
import ApiLint.Console.Faithful

/-!
# What lint commands say

A lint command says something in lines, and it shows findings in a table.  What it says stands for a text, part of
which comes from outside: a path, an error, or what was found and where.  It says it literally if the lines that
are printed have the text.
-/

namespace ApiLint.CommandLine

open Console

/-- What a lint command says in a line. -/
inductive Remark where
  | error (message : String)
  | linting (path : FilePath) (variant : Variant)
  | skipping (variant : Variant)
  | saved (output : FilePath)
  | noFindings
  | found (count : Nat)
deriving DecidableEq

namespace Remark

/-- The markup that is printed; not all that comes from outside is escaped. -/
def markup (escape : String → String) : Remark → String
  | .error message => "[red]" ++ escape message ++ "[/red]"
  | .linting path variant => "Linting [bold]" ++ escape path.text ++ "[/bold] as " ++ variant.tag ++ "..."
  | .skipping variant => "[yellow]No schema configured for " ++ variant.tag ++ ", skipping.[/yellow]"
  | .saved output => "[green]Findings:[/green] " ++ output.text
  | .noFindings => "[green]No findings.[/green]"
  | .found count => "[red]Found " ++ toString count ++ " finding(s).[/red]"

/-- The text that the markup stands for. -/
def text : Remark → String
  | .error message => message
  | .linting path variant => "Linting " ++ path.text ++ " as " ++ variant.tag ++ "..."
  | .skipping variant => "No schema configured for " ++ variant.tag ++ ", skipping."
  | .saved output => "Findings: " ++ output.text
  | .noFindings => "No findings."
  | .found count => "Found " ++ toString count ++ " finding(s)."

end Remark

/-- Something that a lint command says. -/
inductive Saying where
  | line (remark : Remark)
  | table (findings : List Finding)

/-- The table of findings before its texts are escaped. -/
def plainTable (findings : List Finding) : Table where
  title := "Findings"
  headers := ["Path", "Message"]
  rows := findings.map fun f => [placeText f, f.message]

namespace Saying

/-- Do lines have what is said? -/
def IsOn (lines : List String) : Saying → Prop
  | .line remark => HasText lines remark.text
  | .table findings => HasRows lines (plainTable findings).rows

/-- Does what comes from outside lie in the scope of a printer? -/
def IsIn (scope : Printer.Scope) : Saying → Prop
  | .line (.error message) => scope.escaped message
  | .line (.linting path _) => scope.escaped path.text
  | .line (.saved output) => scope.plain output.text
  | .table findings => scope.table (plainTable findings)
  | .line (.skipping _) | .line .noFindings | .line (.found _) => True

/-- Does a tag stand in a text that is not escaped?  The only such text is the path that findings were saved at. -/
def HasRawTag : Saying → Prop
  | .line (.saved output) => Markup.HasTag output.text.toList
  | _ => False

variable (kit : Kit)

/-- The lines that are printed, unless they cannot be. -/
def printed : Saying → Except kit.PrintFault (List String)
  | .line remark => kit.printer.print (remark.markup kit.escape)
  | .table findings => kit.printer.printTable (kit.findingsTable findings)

/-- The lines that are printed of several things, up to the first that cannot be printed, and its fault. -/
def printAll : List Saying → List String × Option kit.PrintFault
  | [] => ([], none)
  | saying :: rest =>
    match saying.printed kit with
    | .ok lines => (lines ++ (printAll rest).1, (printAll rest).2)
    | .error fault => ([], some fault)

end Saying

namespace LintRequest

/-- What is said of findings after they were saved if they had to be. -/
def sayingsOf (findings : List Finding) : List Saying :=
  if findings = [] then [.line .noFindings] else [.table findings, .line (.found findings.length)]

variable (kit : Kit) (request : LintRequest) (tree : FileTree)

/-- What is said of a document that can be linted. -/
def sayingsAbout (document : kit.Value) (checkers : kit.Checkers) : List Saying :=
  let variant := kit.detect document
  .line (.linting request.path variant) ::
    (if (checkers.lookup variant).isSome then [] else [.line (.skipping variant)]) ++
      match kit.process checkers document with
      | .error _ => []
      | .ok findings =>
        match request.output with
        | none => sayingsOf findings
        | some output =>
          match tree.saveFindings output findings with
          | .ok _ _ => .line (.saved output) :: sayingsOf findings
          | .error _ _ => []

/-- What a request says as long as all of it can be printed. -/
def sayings : List Saying :=
  match request.settings with
  | .error e => [.line (.error (SettingsError.message e))]
  | .ok settings =>
    match kit.loadDocument tree request.path with
    | .error (.error e) => [.line (.error e.message)]
    | .error (.fault _) => []
    | .ok document =>
      match kit.loadCheckers tree settings with
      | .error (.error e) => [.line (.error e.message)]
      | .error (.fault _) => []
      | .ok checkers => request.sayingsAbout kit tree document checkers

end LintRequest

end ApiLint.CommandLine
