import ApiLint.Files.Tree
import ApiLint.Text.Quoted

/-!
# Access to files

A program asks two things of the files: whether a path leads to one, and what it holds.  The first question may
end with a fault, and the second one may be refused in the words of the system.
-/

namespace ApiLint

/-- What the files answer; the faults of asking are of any kind. -/
structure FileAccess (ε : Type) where
  /-- Does a path lead to a file? -/
  isFile : FilePath → Except ε Bool
  /-- The content of a file, or the words in which it is refused. -/
  read : FilePath → Except String ByteArray

/-- The words of the system for an error at a path. -/
def FileError.words (p : FilePath) : FileError → String
  | .notFound => "[Errno 2] No such file or directory: " ++ Text.quoted p.text
  | .exists => "[Errno 17] File exists: " ++ Text.quoted p.text
  | .notDirectory => "[Errno 20] Not a directory: " ++ Text.quoted p.text
  | .isDirectory => "[Errno 21] Is a directory: " ++ Text.quoted p.text
  | .tooLong => "[Errno 36] File name too long: " ++ Text.quoted p.text
  | .hasNul => "embedded null byte"

namespace FileTree

/-- The words in which a file cannot be read, if it cannot. -/
def refusal? (t : FileTree) (p : FilePath) : Option String :=
  match t.place p with
  | .ok place => t.unreadable.lookup place
  | .error _ => none

/-- The answers of a tree. -/
def access (t : FileTree) : FileAccess FileError where
  isFile p :=
    match t.file? p with
    | .ok content? => .ok content?.isSome
    | .error e => .error e
  read p :=
    match t.refusal? p with
    | some words => .error words
    | none =>
      match t.read p with
      | .ok content => .ok content
      | .error e => .error (e.words p)

/-- Does a path lead to a file that can be read and holds a content? -/
structure Holds (t : FileTree) (p : FilePath) (content : ByteArray) : Prop where
  isFile : t.access.isFile p = .ok true
  read : t.access.read p = .ok content

end FileTree

end ApiLint
