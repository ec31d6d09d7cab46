import ApiLint.Load.Document
import ApiLint.Schema.Compiled

/-!
# Loading schemas

A schema file is YAML if its suffix says so and JSON otherwise, and holds an object.  A JSON file is decoded as a
whole; a YAML file is given to the library as it is, which may come to an error before all bytes are decoded.
-/

namespace ApiLint

/-- Why a file yields no schema. -/
inductive SchemaFileError where
  | notFound (path : FilePath)
  | unreadable (path : FilePath) (words : String)
  | json (path : FilePath) (fault : Json.Fault)
  | yaml (path : FilePath) (words : Option String)
  | notObject (path : FilePath)
  /-- The object violates the schema of its draft, in the words of the library. -/
  | invalid (words : Option String)
deriving DecidableEq

/-- The wording of a schema file error. -/
def SchemaFileError.message : SchemaFileError → String
  | .notFound path => "Schema file not found: " ++ path.text
  | .unreadable path words => "Cannot read schema " ++ path.text ++ ": " ++ words
  | .json path fault => "Cannot read schema " ++ path.text ++ ": " ++ fault.message
  | .yaml path words => withWords ("Cannot read schema " ++ path.text) words
  | .notObject path => "Schema " ++ path.text ++ " must be a JSON object"
  | .invalid words => withWords "Invalid JSON Schema" words

/-- Faults met while loading a schema that are not faults of the file's form. -/
inductive SchemaFileFaultOf (ε φ σ : Type) where
  | file (error : ε)
  | value (fault : ValueFaultOf φ)
  | undecodable (fault : Text.Utf8Fault)
  | schema (fault : σ)
deriving DecidableEq

/-- A fault met in the bytes of a YAML file. -/
def SchemaFileFaultOf.ofStream {ε φ σ : Type} : StreamFault φ → SchemaFileFaultOf ε φ σ
  | .undecodable fault => .undecodable fault
  | .value fault => .value (.yaml fault)

namespace Readers

variable {V φ ε σ : Type} (readers : Readers V φ)

/-- Read the bytes of a JSON file as a schema. -/
def readJsonSchema (p : FilePath) (content : ByteArray) :
    Except (Reported SchemaFileError (SchemaFileFaultOf ε φ σ)) V :=
  match decodeFile content with
  | .error fault => .error (.fault (.undecodable fault))
  | .ok text => (readers.readJson text).mapError (Reported.map (.json p) .value)

/-- Read the bytes of a YAML file as a schema. -/
def readYamlSchema (p : FilePath) (content : ByteArray) :
    Except (Reported SchemaFileError (SchemaFileFaultOf ε φ σ)) V :=
  (readers.yamlFile content).mapError (Reported.map (.yaml p) .ofStream)

/-- Read the bytes of a file with a path as a schema. -/
def readSchema (p : FilePath) (content : ByteArray) :
    Except (Reported SchemaFileError (SchemaFileFaultOf ε φ σ)) V :=
  if TextForm.ofSuffix p.suffix = .yaml then readers.readYamlSchema p content
  else readers.readJsonSchema p content

/-- Load the object of a schema file. -/
def loadSchema (files : FileAccess ε) (p : FilePath) :
    Except (Reported SchemaFileError (SchemaFileFaultOf ε φ σ)) V :=
  match files.isFile p with
  | .error e => .error (.fault (.file e))
  | .ok false => .error (.error (.notFound p))
  | .ok true =>
    match files.read p with
    | .error words => .error (.error (.unreadable p words))
    | .ok content =>
      match readers.readSchema p content with
      | .error e => .error e
      | .ok x => if readers.isObject x then .ok x else .error (.error (.notObject p))

/--
Load a schema file as a checker.  A library makes checkers from values: it refuses a value, or ends with a fault of
another kind.
-/
def compileSchema {C : Type} (compile : V → Except (Reported (Option String) σ) C)
    (files : FileAccess ε) (p : FilePath) :
    Except (Reported SchemaFileError (SchemaFileFaultOf ε φ σ)) C :=
  match readers.loadSchema files p with
  | .error e => .error e
  | .ok schema => (compile schema).mapError (Reported.map .invalid .schema)

end Readers

/-! ## Schemas from a tree -/

/-- A fault met while loading a schema from a tree. -/
abbrev SchemaFileFault := SchemaFileFaultOf FileError Yaml.ReadError Schema.Fault

/-- Take a value as a schema; why it cannot be one is not said. -/
def Schema.Compiled.compile (schema : Node) : Except (Reported (Option String) Fault) Compiled :=
  match ofNode schema with
  | .ok c => .ok c
  | .error .invalidSchema => .error (.error none)
  | .error (.fault fault) => .error (.fault fault)

namespace FileTree

/-- Load the object of a schema file of a tree. -/
def loadSchema (t : FileTree) (p : FilePath) : Except (Reported SchemaFileError SchemaFileFault) Node :=
  Readers.standard.loadSchema t.access p

/-- Load a schema file of a tree as a schema ready for use. -/
def compileSchema (t : FileTree) (p : FilePath) :
    Except (Reported SchemaFileError SchemaFileFault) Schema.Compiled :=
  Readers.standard.compileSchema Schema.Compiled.compile t.access p

end FileTree

end ApiLint
