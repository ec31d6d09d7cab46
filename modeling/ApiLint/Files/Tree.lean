import ApiLint.Files.Path

/-!
# File trees

Files and directories by their places, which are the names on the way to them from the root.  A path is
followed from the working directory, or from the root if it starts with a slash; double dots lead back to
the directory above, and from the root to the root.  A path has less than 4096 bytes, and every name in it
at most 255.

A change to a tree that fails may have made directories before, so its outcome holds a tree in any case.
-/

namespace ApiLint

/-- Why a file could not be read or written. -/
inductive FileError where
  | notFound
  | isDirectory
  | notDirectory
  /-- A directory was to be made where a file is. -/
  | exists
  /-- The path or a name in it is too long. -/
  | tooLong
  /-- The path holds the NUL character. -/
  | hasNul
deriving DecidableEq

/-- What a path leads to. -/
inductive FileEntry where
  | file (content : ByteArray)
  | directory

/-- Files with their contents, and directories, by the names on the way to them. -/
structure FileTree where
  workingDirectory : List String
  files : List (List String × ByteArray)
  directories : List (List String)
  /-- The places of files that cannot be read, with the words of the system.  A file that is written anew can. -/
  unreadable : List (List String × String) := []

namespace FileTree

/-- The tree that holds nothing but a working directory. -/
def empty (workingDirectory : List String) : FileTree where
  workingDirectory
  files := []
  directories := []

/-- What stands at a place; all places on the way to something are directories. -/
def entry? (t : FileTree) (place : List String) : Option FileEntry :=
  match t.files.lookup place with
  | some content => some (.file content)
  | none =>
    if place.isPrefixOf t.workingDirectory || t.directories.contains place
        || t.files.any (fun f => place.isPrefixOf f.1) then
      some .directory
    else none

/-- Is there a directory at a place? -/
def isDirectory (t : FileTree) (place : List String) : Bool :=
  match t.entry? place with
  | some .directory => true
  | _ => false

/-- The place that a name leads to from another one. -/
def next (place : List String) (name : String) : List String :=
  if name = ".." then place.dropLast else place ++ [name]

/-- The place that paths are followed from. -/
def origin (t : FileTree) (p : FilePath) : List String := if p.slashes = 0 then t.workingDirectory else []

/-- What is wrong with a path whatever stands there. -/
def pathFault? (p : FilePath) : Option FileError :=
  if p.hasNul then some .hasNul else if 4096 ≤ p.text.utf8ByteSize then some .tooLong else none

/-- Has a name too many bytes? -/
def isTooLong (name : String) : Bool := 255 < name.utf8ByteSize

/-- The place that names lead to from another one; all places on the way must be directories. -/
def walk (t : FileTree) (place : List String) : List String → Except FileError (List String)
  | [] => .ok place
  | name :: names =>
    match t.entry? place with
    | none => .error .notFound
    | some (.file _) => .error .notDirectory
    | some .directory => if isTooLong name then .error .tooLong else walk t (next place name) names

/-- The place of a path. -/
def place (t : FileTree) (p : FilePath) : Except FileError (List String) :=
  match pathFault? p with
  | some e => .error e
  | none => t.walk (t.origin p) p.names

/-- The content of a file, whether or not it can be read. -/
def read (t : FileTree) (p : FilePath) : Except FileError ByteArray :=
  match t.place p with
  | .error e => .error e
  | .ok place =>
    match t.entry? place with
    | some (.file content) => .ok content
    | some .directory => .error .isDirectory
    | none => .error .notFound

/-- The content of a file, if the path leads to one; a path that is too long leads to an error. -/
def file? (t : FileTree) (p : FilePath) : Except FileError (Option ByteArray) :=
  match t.read p with
  | .ok content => .ok (some content)
  | .error .tooLong => .error .tooLong
  | .error _ => .ok none

/-- The outcome of a change to a tree. -/
abbrev Change := EStateM.Result FileError FileTree Unit

/-- Put a content in the place of a file. -/
def putFile (place : List String) (content : ByteArray) :
    List (List String × ByteArray) → List (List String × ByteArray)
  | [] => [(place, content)]
  | (p, c) :: rest => if p = place then (p, content) :: rest else (p, c) :: putFile place content rest

/-- The tree with a file at a place, which can be read whatever was there before. -/
def withFile (t : FileTree) (place : List String) (content : ByteArray) : FileTree :=
  { t with
    files := putFile place content t.files
    unreadable := t.unreadable.filter fun f => f.1 ≠ place }

/-- Create or replace a file in a directory that is there. -/
def write (t : FileTree) (p : FilePath) (content : ByteArray) : Change :=
  match t.place p with
  | .error e => .error e t
  | .ok place =>
    if t.isDirectory place then .error .isDirectory t
    else .ok () (t.withFile place content)

/-- Make the directories that names lead to one after the other from a place, unless they are there. -/
def makeAlong (t : FileTree) (place : List String) : List String → Change
  | [] => .ok () t
  | name :: names =>
    let place := next place name
    if isTooLong name then .error .tooLong t
    else
      match t.entry? place with
      | some .directory => makeAlong t place names
      | some (.file _) => .error (if names.isEmpty then .exists else .notDirectory) t
      | none => makeAlong { t with directories := t.directories ++ [place] } place names

/-- Make a directory and all directories on the way to it, unless they are there. -/
def makeDirectories (t : FileTree) (p : FilePath) : Change :=
  match pathFault? p with
  | some e => .error e t
  | none => t.makeAlong (t.origin p) p.names

/-- The names that lead from the working directory to a place below it. -/
def below? (t : FileTree) (place : List String) : Option (List String) :=
  if t.workingDirectory.isPrefixOf place then some (place.drop t.workingDirectory.length) else none

/-- The paths of all files below the working directory, in order. -/
def paths (t : FileTree) : List String :=
  (t.files.filterMap fun f => (t.below? f.1).map "/".intercalate).mergeSort fun a b => a ≤ b

end FileTree

end ApiLint
