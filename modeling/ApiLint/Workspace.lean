import ApiLint.Finding.Save
import ApiLint.Settings

/-!
# Workspaces

Files together with settings, the validators last loaded and the findings last made.  An operation that
fails answers its error and no new workspace, except that saving a file may have made directories before.
-/

namespace ApiLint

/-- Files, settings, validators and findings. -/
structure Workspace where
  tree : FileTree
  settings : Settings
  registry : Registry
  findings : List Finding

namespace Workspace

/-- The workspace that starts with files: no schemas and no findings. -/
def ofTree (tree : FileTree) : Workspace := ⟨tree, .default, [], []⟩

/-- Take settings from options. -/
def configure (w : Workspace) (options : List String) (failOnFindings : Bool) :
    Except SettingsError Workspace :=
  match Settings.ofOptions options failOnFindings with
  | .ok settings => .ok { w with settings }
  | .error e => .error e

/-- Load the schemas that the settings name. -/
def loadRegistry (w : Workspace) : Except (Reported SchemaFileError SchemaFileFault) Workspace :=
  match w.settings.registry w.tree with
  | .ok registry => .ok { w with registry }
  | .error e => .error e

/-- Lint a document with the schemas last loaded. -/
def lint (w : Workspace) (document : Node) : Except LintError Workspace :=
  match w.registry.lint document with
  | .ok findings => .ok { w with findings }
  | .error e => .error e

/-- The outcome of a change to the files of a workspace. -/
abbrev Change := EStateM.Result FileError Workspace Unit

/-- Take over the tree that a change left. -/
def withChange (w : Workspace) : FileTree.Change → Change
  | .ok _ tree => .ok () { w with tree }
  | .error e tree => .error e { w with tree }

/-- Create or replace a file. -/
def saveText (w : Workspace) (p : FilePath) (text : String) : Change := w.withChange (w.tree.saveText p text)

/-- Save the last findings in a file. -/
def saveFindings (w : Workspace) (p : FilePath) : Change :=
  w.withChange (w.tree.saveFindings p w.findings)

end Workspace

end ApiLint
