import ApiLint.Json.Descent
import ApiLint.Load.SchemaFile
import ApiLint.Yaml.Faults

/-!
# What loading promises

Loading ends with a value or with an error of its own.  Whatever reads the texts and wherever the files are, the
promise is kept unless the question for the file ends with a fault, or reading what the file holds does: a JSON text
that is too deep or comes to an integer that is too long, a fault of the YAML library, or for a JSON schema bytes
that are not UTF-8.
-/

namespace ApiLint

/-! ## Outcomes -/

/-- Loading a document ends with a value or a document error. -/
inductive IsDocumentOutcome {V φ : Type} : Except (Reported DocumentError φ) V → Prop where
  | value (x : V) : IsDocumentOutcome (.ok x)
  | error (e : DocumentError) : IsDocumentOutcome (.error (.error e))

namespace Readers

variable {V φ χ : Type} (readers : Readers V φ)

/-- Loading a schema ends with an object or a schema file error. -/
inductive IsSchemaOutcome : Except (Reported SchemaFileError χ) V → Prop where
  | object (x : V) (hobject : readers.isObject x = true) : IsSchemaOutcome (.ok x)
  | error (e : SchemaFileError) : IsSchemaOutcome (.error (.error e))

/-! ## What breaks the promise -/

/-- A JSON text is too deep, or reading it comes to an integer that is too long. -/
def JsonFaults (text : String) : Prop := readers.isTooDeep text = true ∨ Json.ComesToLongInteger text

/-- The library ends with a fault on a YAML text. -/
def YamlFaults (text : String) : Prop := ∃ fault, readers.yamlText text = .error (.fault fault)

/-- Reading a text of a form ends with a fault.  A text that is not JSON may be YAML. -/
def Faults (text : String) : TextForm → Prop
  | .json => readers.JsonFaults text
  | .yaml => readers.YamlFaults text
  | .either =>
    readers.JsonFaults text ∨ (∃ fault, Json.read text = .error (.malformed fault)) ∧ readers.YamlFaults text

/-- Reading the bytes of a schema file ends with a fault. -/
inductive SchemaFaults (p : FilePath) (content : ByteArray) : Prop where
  | yaml (hform : TextForm.ofSuffix p.suffix = .yaml) {fault : StreamFault φ}
      (hfault : readers.yamlFile content = .error (.fault fault))
  | undecodable (hform : TextForm.ofSuffix p.suffix ≠ .yaml) {fault : Text.Utf8Fault}
      (hcontent : decodeFile content = .error fault)
  | json (hform : TextForm.ofSuffix p.suffix ≠ .yaml) {text : String}
      (hcontent : decodeFile content = .ok text) (hfaults : readers.JsonFaults text)

end Readers

/-! ## Faults of trees and of YAML texts -/

/-- A path is too long, or it leads through directories to a name that is. -/
inductive FileTree.MeetsLongName (t : FileTree) (p : FilePath) : Prop where
  | path (hnul : p.hasNul = false) (hlong : 4096 ≤ p.text.utf8ByteSize)
  | name (hnul : p.hasNul = false) {before : List String} {name : String} {after : List String}
      (hnames : p.names = before ++ name :: after)
      (hdirectories : ∀ start, start <+: before → t.isDirectory (start.foldl FileTree.next (t.origin p)) = true)
      (hlong : 255 < name.utf8ByteSize)

namespace Yaml

/-- Does a fault mean that a value does not exist, while the text is in order? -/
def ReadError.isOfValue : ReadError → Bool
  | .malformed _ | .endless | .unordered => false
  | _ => true

/--
A text holds a value that does not exist.  Reading the tree comes to an escape that names a character beyond the last
one, or to the number of a version with too many digits; or of all faults of the tree the one that counts is such.
-/
inductive HoldsFault (text : String) : Prop where
  | character {code : Nat} (hcode : 0x110000 ≤ code)
      (htree : Tree.ofTokens (tokens text.toList) = .error (.noSuchCharacter code))
  | version {digits : Nat} (hlong : digitLimit < digits)
      (htree : Tree.ofTokens (tokens text.toList) = .error (.longNumeral (.toRead digits)))
  | made {tree : Tree} {fault : LevelFault} (htree : Tree.ofTokens (tokens text.toList) = .ok (some tree))
      (hcounts : Counts fault ((Content.ofTree tree).faults 0)) (he : fault.error.isOfValue = true)

end Yaml

end ApiLint
