import ApiLint.Json.Reader
import ApiLint.Text.Utf8
import ApiLint.Yaml.Reader

/-!
# Readers of texts

JSON is read as it is defined.  YAML is read by a library that is taken as it comes: it gives values of a kind of
its own, refuses a text in words, or ends with a fault of another kind.  A library may be given a text, or a file
that it decodes piece by piece while it reads.

The standard readers give nodes.  A value that holds itself and a set are no nodes, so they count as faults there, and
half of a surrogate pair is no character, so it is replaced.  They follow a JSON text however deeply it is nested, and
they read a YAML file only after all of it was decoded.
-/

namespace ApiLint

/-- An error that is reported, or another fault. -/
inductive Reported (ε : Type) (φ : Type) where
  | error (e : ε)
  | fault (f : φ)
deriving DecidableEq

/-- Word the error anew, or place the fault. -/
def Reported.map {ε ε' φ φ' : Type} (word : ε → ε') (place : φ → φ') : Reported ε φ → Reported ε' φ'
  | .error e => .error (word e)
  | .fault f => .fault (place f)

/-- A text in order cannot be given a value; the faults of YAML are of any kind. -/
inductive ValueFaultOf (φ : Type) where
  | numeral (error : LongNumeral)
  /-- The text is nested more deeply than the interpreter can follow. -/
  | tooDeep
  | yaml (error : φ)
deriving DecidableEq

/-- The bytes of a file are not UTF-8 where they are read, or they cannot be given a value. -/
inductive StreamFault (φ : Type) where
  | undecodable (fault : Text.Utf8Fault)
  | value (fault : φ)
deriving DecidableEq

/-- The forms of texts. -/
inductive TextForm where
  | json
  | yaml
  /-- JSON if it is that, else YAML. -/
  | either
deriving DecidableEq

namespace TextForm

/-- The form of documents with a suffix, which may have capital letters. -/
def ofSuffix (suffix : String) : TextForm :=
  let suffix := suffix.toList.map Char.toLower
  if suffix = ".json".toList then .json
  else if suffix = ".yaml".toList ∨ suffix = ".yml".toList then .yaml
  else .either

end TextForm

/-- The text of a file, every line ended by a line feed. -/
def decodeFile (content : ByteArray) : Except Text.Utf8Fault String :=
  match Text.decodeUtf8 content with
  | .ok s => .ok (String.ofList (Text.unifyNewlines s.toList))
  | .error fault => .error fault

/-! ## Readers -/

/-- How texts become values. -/
structure Readers (V φ : Type) where
  /-- The value of a JSON text, which says as much as its node and perhaps more. -/
  ofJson : String → Node → V
  /-- Is a JSON text nested more deeply than the interpreter can follow? -/
  isTooDeep : String → Bool
  /-- What the library makes of a YAML text. -/
  yamlText : String → Except (Reported (Option String) φ) V
  /-- What it makes of the bytes of a YAML file. -/
  yamlFile : ByteArray → Except (Reported (Option String) (StreamFault φ)) V
  /-- Is a value an object? -/
  isObject : V → Bool

namespace Readers

variable {V φ : Type} (readers : Readers V φ)

/-- Read a JSON text. -/
def readJson (text : String) : Except (Reported Json.Fault (ValueFaultOf φ)) V :=
  if readers.isTooDeep text then .error (.fault .tooDeep)
  else
    match Json.read text with
    | .ok x => .ok (readers.ofJson text x)
    | .error (.longNumeral e) => .error (.fault (.numeral e))
    | .error (.malformed fault) => .error (.error fault)

/-- Read a YAML text. -/
def readYaml (text : String) : Except (Reported (Option String) (ValueFaultOf φ)) V :=
  (readers.yamlText text).mapError (Reported.map id .yaml)

end Readers

/-! ## The standard readers -/

/-- What a YAML text cannot be given a value for. -/
abbrev ValueFault := ValueFaultOf Yaml.ReadError

/-- The wording of the faults that have one. -/
def ValueFault.message? : ValueFault → Option String
  | .numeral e => some e.message
  | .tooDeep => some "maximum recursion depth exceeded while decoding a JSON document"
  | .yaml e => e.message?

/-- Read a YAML text as a node. -/
def Yaml.readText (text : String) : Except (Reported (Option String) ReadError) Node :=
  match read text with
  | .ok x => .ok x
  | .error (.malformed _) => .error (.error none)
  | .error e => .error (.fault e)

/-- Read the bytes of a YAML file as a node, after all of them were decoded. -/
def Yaml.readBytes (content : ByteArray) :
    Except (Reported (Option String) (StreamFault ReadError)) Node :=
  match decodeFile content with
  | .error fault => .error (.fault (.undecodable fault))
  | .ok text => (readText text).mapError (Reported.map id .value)

/-- The readers that give nodes, however deeply a text is nested. -/
@[reducible]
def Readers.standard : Readers Node Yaml.ReadError where
  ofJson _ x := x
  isTooDeep _ := false
  yamlText := Yaml.readText
  yamlFile := Yaml.readBytes
  isObject x := x.map?.isSome

end ApiLint
