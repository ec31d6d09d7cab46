import ApiLint.Lint.Registry
import ApiLint.Load.SchemaFile

/-!
# Settings

Which schema file checks which description format, and whether findings count as a failure.  Settings are
read from options of the form `VARIANT=PATH`: the first mention of a format gives its position, the last
one its path.
-/

namespace ApiLint

/-- Why an option cannot be used. -/
inductive SettingsError where
  | badOption (option : String)
  | unknownVariant (name : String)
deriving DecidableEq

/-- The wording of a settings error. -/
def SettingsError.message : SettingsError → String
  | .badOption option => "Expected VARIANT=PATH for schema option, got '" ++ option ++ "'"
  | .unknownVariant name =>
    "Unknown schema variant '" ++ name ++ "'. Available: "
      ++ (Node.list (Variant.all.map fun v => .str v.tag)).literal

namespace Variant

/-- The format that a name, trimmed of blanks, is the tag of. -/
def ofName (name : String) : Except SettingsError Variant :=
  match ofTag? (Text.trim name) with
  | some v => .ok v
  | none => .error (.unknownVariant name)

end Variant

/-- Schema files by format, and whether findings count as a failure. -/
structure Settings where
  schemaPaths : List (Variant × FilePath)
  failOnFindings : Bool
deriving DecidableEq

namespace Settings

/-- No schemas; findings count as a failure. -/
def default : Settings := ⟨[], true⟩

/-- Read an option: a format and a path around the first equals sign. -/
def parseOption (option : String) : Except SettingsError (Variant × FilePath) :=
  let cs := option.toList
  match cs.dropWhile (· != '=') with
  | [] => .error (.badOption option)
  | _ :: rest =>
    let path := Text.trimChars rest
    if path.isEmpty then .error (.badOption option)
    else
      match Variant.ofName (String.ofList (cs.takeWhile (· != '='))) with
      | .ok v => .ok (v, .ofText (String.ofList path))
      | .error e => .error e

/-- Put a path in the place of its format, or at the end. -/
def putPath (v : Variant) (p : FilePath) : List (Variant × FilePath) → List (Variant × FilePath)
  | [] => [(v, p)]
  | (w, q) :: rest => if w = v then (w, p) :: rest else (w, q) :: putPath v p rest

/-- Read options one after the other onto paths that are there. -/
def putOptions (paths : List (Variant × FilePath)) :
    List String → Except SettingsError (List (Variant × FilePath))
  | [] => .ok paths
  | option :: options =>
    match parseOption option with
    | .error e => .error e
    | .ok (v, p) => putOptions (putPath v p paths) options

/-- The settings that options make; the first one that cannot be used is the error. -/
def ofOptions (options : List String) (failOnFindings : Bool) : Except SettingsError Settings :=
  match putOptions [] options with
  | .ok schemaPaths => .ok { schemaPaths, failOnFindings }
  | .error e => .error e

/-- Load all schema files. -/
def loadAll {ε C : Type} (load : FilePath → Except ε C) :
    List (Variant × FilePath) → Except ε (List (Variant × C))
  | [] => .ok []
  | (v, p) :: rest =>
    match load p with
    | .error e => .error e
    | .ok checker =>
      match loadAll load rest with
      | .ok checkers => .ok ((v, checker) :: checkers)
      | .error e => .error e

/-- The validators of all schema files. -/
def registry (s : Settings) (t : FileTree) :
    Except (Reported SchemaFileError SchemaFileFault) Registry :=
  (loadAll t.compileSchema s.schemaPaths).map fun checkers =>
    checkers.map fun (v, c) => (v, c.validator)

end Settings

end ApiLint
