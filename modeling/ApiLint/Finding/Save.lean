import ApiLint.Files.Tree
import ApiLint.Finding.Basic

/-!
# Saving findings

A findings file holds the findings as JSON.  The directories on the way to it are made if they are not there.
-/

namespace ApiLint

/-- Create or replace a file that holds a text, with the directories on the way to it. -/
def FileTree.saveText (t : FileTree) (p : FilePath) (text : String) : FileTree.Change :=
  match t.makeDirectories p.parent with
  | .error e t => .error e t
  | .ok _ t => t.write p text.toUTF8

/-- Can a text be saved at a path? -/
def FileTree.IsWritable (t : FileTree) (p : FilePath) : Prop :=
  ∃ (text : String) (t' : FileTree), t.saveText p text = .ok () t'

/-- Save findings in a file. -/
def FileTree.saveFindings (t : FileTree) (p : FilePath) (findings : List Finding) : FileTree.Change :=
  t.saveText p (Finding.fileText findings)

end ApiLint
