import ApiLint.Files.Access
import ApiLint.Load.Readers

/-!
# Loading documents

A document is JSON or YAML according to its suffix; any other text is tried as JSON first and, if that is
malformed, as YAML.  Faults of the file or of its form are reported as such; a well-formed text may still
hold a value that does not exist, which is a fault of another kind.
-/

namespace ApiLint

/-- Why a file yields no document. -/
inductive DocumentError where
  | notFound (path : FilePath)
  | unreadable (path : FilePath) (words : String)
  | undecodable (path : FilePath) (fault : Text.Utf8Fault)
  | json (fault : Json.Fault)
  | yaml (words : Option String)
deriving DecidableEq

/-- A heading with the words of a library behind it, as far as they are known. -/
def withWords (heading : String) : Option String → String
  | some words => heading ++ ": " ++ words
  | none => heading

/-- The wording of a document error. -/
def DocumentError.message : DocumentError → String
  | .notFound path => "File not found: " ++ path.text
  | .unreadable path words => "Cannot read " ++ path.text ++ ": " ++ words
  | .undecodable path fault => "Cannot read " ++ path.text ++ ": " ++ fault.message
  | .json fault => "Cannot parse document: " ++ fault.message
  | .yaml words => withWords "Cannot parse document" words

/-- A fault met while loading a document that is none of the file's form. -/
inductive LoadFaultOf (ε φ : Type) where
  | file (error : ε)
  | value (fault : ValueFaultOf φ)
deriving DecidableEq

namespace Readers

variable {V φ ε : Type} (readers : Readers V φ)

/-- Read a document with a suffix. -/
def parseDocument (text suffix : String) : Except (Reported DocumentError (ValueFaultOf φ)) V :=
  let readYaml := (readers.readYaml text).mapError (Reported.map DocumentError.yaml id)
  match TextForm.ofSuffix suffix with
  | .json => (readers.readJson text).mapError (Reported.map .json id)
  | .yaml => readYaml
  | .either =>
    match readers.readJson text with
    | .error (.error _) => readYaml
    | answer => answer.mapError (Reported.map .json id)

/-- Load a document from a file. -/
def loadDocument (files : FileAccess ε) (p : FilePath) :
    Except (Reported DocumentError (LoadFaultOf ε φ)) V :=
  match files.isFile p with
  | .error e => .error (.fault (.file e))
  | .ok false => .error (.error (.notFound p))
  | .ok true =>
    match files.read p with
    | .error words => .error (.error (.unreadable p words))
    | .ok content =>
      match decodeFile content with
      | .error fault => .error (.error (.undecodable p fault))
      | .ok text => (readers.parseDocument text p.suffix).mapError (Reported.map id .value)

end Readers

/-! ## Nodes from a tree -/

/-- A fault met while loading a document from a tree. -/
abbrev LoadFault := LoadFaultOf FileError Yaml.ReadError

/-- Read a document with a suffix as a node. -/
def parseDocument (text suffix : String) : Except (Reported DocumentError ValueFault) Node :=
  Readers.standard.parseDocument text suffix

/-- Load a document as a node from a file of a tree. -/
def FileTree.loadDocument (t : FileTree) (p : FilePath) : Except (Reported DocumentError LoadFault) Node :=
  Readers.standard.loadDocument t.access p

end ApiLint
