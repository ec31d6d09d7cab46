import ApiLint.CommandLine.Run

/-!
# The program

Reads the files that a command line mentions, runs it on them, prints its lines and writes the file that it
saved.
-/

namespace ApiLint.CommandLine

/-- The paths that a command mentions. -/
def Command.paths : Command → List FilePath
  | .lint request =>
    request.path :: request.output.toList ++ request.schemaOptions.filterMap fun option =>
      match Settings.parseOption option with
      | .ok (_, path) => some path
      | .error _ => none
  | .detect path => [path]
  | .listVariants => []

/-- The places that names lead to one after the other. -/
def placesAlong (place : List String) : List String → List (List String)
  | [] => []
  | name :: names => FileTree.next place name :: placesAlong (FileTree.next place name) names

/-- The path from the root to a place. -/
def rootedPath (place : List String) : String := "/" ++ "/".intercalate place

/-- Add what stands at a place to a tree; a directory cannot be read as a file, and some files cannot be read. -/
def readPlace (tree : FileTree) (place : List String) : IO FileTree := do
  try
    let content ← IO.FS.readBinFile (rootedPath place)
    return { tree with files := FileTree.putFile place content tree.files }
  catch
    | .inappropriateType .. => return { tree with directories := tree.directories ++ [place] }
    | .noFileOrDirectory .. => return tree
    | e => return { tree with
        files := FileTree.putFile place ByteArray.empty tree.files
        unreadable := (place, toString e) :: tree.unreadable }

/-- The files and directories on the way to paths. -/
def readTree (paths : List FilePath) : IO FileTree := do
  let workingDirectory := (FilePath.ofText (← IO.currentDir).toString).names
  let tree := FileTree.empty workingDirectory
  (paths.flatMap fun p => placesAlong (tree.origin p) p.names).eraseDups.foldlM readPlace tree

/-- Make the directories and write the files of a tree that are not in an older one. -/
def writeChanges (old new : FileTree) : IO Unit := do
  for place in new.directories do
    if !old.directories.contains place then IO.FS.createDirAll (rootedPath place)
  for (place, content) in new.files do
    if old.files.lookup place != some content then
      IO.FS.createDirAll (rootedPath place.dropLast)
      IO.FS.writeBinFile (rootedPath place) content

/-- The columns of the console: what the environment says, or eighty. -/
def consoleColumns : IO Nat := do
  return ((← IO.getEnv "COLUMNS").bind String.toNat?).getD 80

/-- Run a command line on the files of the working directory. -/
def execute (arguments : List String) : IO UInt32 := do
  let tree ← readTree (((Command.ofWords arguments).map Command.paths).getD [])
  let outcome := (Kit.standard (← consoleColumns)).run arguments tree
  writeChanges tree outcome.tree
  for line in outcome.lines do
    IO.println line
  if outcome.fault.isSome then IO.eprintln "The command ended with a fault"
  return UInt32.ofNat outcome.exitCode

end ApiLint.CommandLine

/-- Lint, detect or list, as the command line asks. -/
def main (arguments : List String) : IO UInt32 := ApiLint.CommandLine.execute arguments
