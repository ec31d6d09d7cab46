import ApiLint.Load.Promise
import ApiLint.Proofs.Files.Tree
import ApiLint.Proofs.Json.Descent
import ApiLint.Proofs.Load.Document
import ApiLint.Proofs.Yaml.Faults
import ApiLint.Proofs.Yaml.Tree

/-!
# When loading keeps its promise

Loading ends with a fault that is none of the loader's own errors in two ways: asking for the file ends with one, or
reading what it holds does.  This is so whatever reads the texts; for the standard readers it is known besides which
paths and which YAML texts these are.

Main results:

- Theorem `isFile_eq_error_iff`: a path leads to an error exactly if it is or meets a name that is too long.
- Theorem `standard_yamlFaults_iff`: the standard reader ends with a fault exactly on a text that holds a value that
  does not exist or is no node.
- Theorem `loads_iff`: documents and schemas are loaded or refused exactly if no fault is met.
-/

namespace ApiLint

/-! ## Following a path -/

namespace FileTree

variable {t : FileTree} {p : FilePath}

/-- A step on a way meets a name that is too long, or a later step does. -/
theorem walk_cons_eq_tooLong_iff {place names : List String} {name : String} :
    t.walk place (name :: names) = .error .tooLong ↔
      t.isDirectory place = true ∧
        (255 < name.utf8ByteSize ∨ t.walk (next place name) names = .error .tooLong) := by
  rw [walk, isDirectory]
  cases t.entry? place with
  | none => simp
  | some entry =>
      cases entry with
      | file content => simp
      | directory => by_cases hlong : 255 < name.utf8ByteSize <;> simp [isTooLong, hlong]

/-- A way ends at a name that is too long exactly if directories lead to one. -/
theorem walk_eq_tooLong_iff {place names : List String} :
    t.walk place names = .error .tooLong ↔
      ∃ before name after, names = before ++ name :: after ∧
        (∀ start, start <+: before → t.isDirectory (start.foldl next place) = true) ∧
        255 < name.utf8ByteSize := by
  induction names generalizing place with
  | nil => simp [walk]
  | cons n names ih =>
      rw [walk_cons_eq_tooLong_iff, ih]
      constructor
      · rintro ⟨hplace, hlong | ⟨before, name, after, rfl, hbefore, hlong⟩⟩
        · refine ⟨[], n, names, rfl, fun start hstart => ?_, hlong⟩
          rw [List.prefix_nil.mp hstart]
          exact hplace
        · refine ⟨n :: before, name, after, rfl, fun start hstart => ?_, hlong⟩
          rcases List.prefix_cons_iff.mp hstart with rfl | ⟨more, rfl, hmore⟩
          · exact hplace
          · exact hbefore more hmore
      · rintro ⟨before, name, after, hnames, hbefore, hlong⟩
        refine ⟨hbefore [] List.nil_prefix, ?_⟩
        cases before with
        | nil =>
            obtain ⟨rfl, -⟩ := List.cons.inj hnames
            exact .inl hlong
        | cons m before =>
            obtain ⟨rfl, rfl⟩ := List.cons.inj hnames
            refine .inr ⟨before, name, after, rfl, fun start hstart => ?_, hlong⟩
            exact hbefore (n :: start) ((List.prefix_cons_inj n).mpr hstart)

/-- A path is too long, or it meets a name that is, exactly if following it says so. -/
theorem place_eq_tooLong_iff : t.place p = .error .tooLong ↔ t.MeetsLongName p := by
  rw [place, pathFault?]
  by_cases hnul : p.hasNul = true
  · rw [if_pos hnul]
    refine ⟨nofun, ?_⟩
    rintro (⟨hnone, -⟩ | ⟨hnone, -, -, -⟩) <;> rw [hnul] at hnone <;> cases hnone
  · rw [if_neg hnul]
    rw [Bool.not_eq_true] at hnul
    by_cases hlong : 4096 ≤ p.text.utf8ByteSize
    · rw [if_pos hlong]
      exact iff_of_true rfl (.path hnul hlong)
    · rw [if_neg hlong]
      dsimp only
      rw [walk_eq_tooLong_iff]
      constructor
      · rintro ⟨before, name, after, hnames, hbefore, hname⟩
        exact .name hnul hnames hbefore hname
      · rintro (⟨-, hlong'⟩ | ⟨-, hnames, hbefore, hname⟩)
        · exact absurd hlong' hlong
        · exact ⟨_, _, _, hnames, hbefore, hname⟩

/-- A path leads to an error exactly if it is too long or meets a name that is. -/
theorem file?_eq_error_iff {e : FileError} :
    t.file? p = .error e ↔ e = .tooLong ∧ t.MeetsLongName p := by
  rw [← place_eq_tooLong_iff, file?, read]
  cases t.place p with
  | error e' => cases e' <;> simp [eq_comm]
  | ok place =>
      cases hentry : t.entry? place with
      | none => simp [hentry]
      | some entry => cases entry <;> simp [hentry]

/-- So does the question whether it leads to a file. -/
theorem isFile_eq_error_iff {e : FileError} :
    t.access.isFile p = .error e ↔ e = .tooLong ∧ t.MeetsLongName p := by
  rw [← file?_eq_error_iff]
  simp only [access]
  cases t.file? p <;> simp

end FileTree

/-! ## Reading YAML -/

namespace Yaml

/-- A text is refused for a value exactly if it holds one that does not exist. -/
theorem holdsFault_iff {text : String} :
    HoldsFault text ↔ ∃ e, read text = .error e ∧ e.isOfValue = true := by
  constructor
  · rintro (⟨-, htree⟩ | ⟨-, htree⟩ | ⟨htree, hcounts, he⟩)
    · exact ⟨_, by rw [read, htree], rfl⟩
    · exact ⟨_, by rw [read, htree], rfl⟩
    · refine ⟨_, ?_, he⟩
      rw [read, htree]
      dsimp only
      rw [Tree.toNode, (made_eq_error_iff 0 _).mpr hcounts]
  · rintro ⟨e, hread, he⟩
    rw [read] at hread
    cases htree : Tree.ofTokens (tokens text.toList) with
    | error e' =>
        rw [htree] at hread
        cases hread
        -- Of the faults of the text, malformed text is none of a value.
        cases Tree.isOfText_of_ofTokens_eq_error htree with
        | malformed problem => cases he
        | character hcode => exact .character hcode htree
        | version hlong => exact .version hlong htree
    | ok tree? =>
        rw [htree] at hread
        cases tree? with
        | none => cases hread
        | some tree =>
            dsimp only at hread
            rw [Tree.toNode] at hread
            split at hread
            · cases hread
            · rename_i fault hmade
              cases hread
              exact .made htree ((made_eq_error_iff 0 _).mp hmade) he

/-- So the standard reader ends with a fault exactly on such a text, and where a value is no node. -/
theorem standard_yamlFaults_iff {text : String} :
    Readers.standard.YamlFaults text ↔
      HoldsFault text ∨ ∃ e, read text = .error e ∧ e.isLate = true := by
  rw [holdsFault_iff, Readers.YamlFaults]
  change (∃ fault, readText text = .error (.fault fault)) ↔ _
  rw [readText]
  cases read text with
  | ok x => simp
  | error e => cases e <;> simp [ReadError.isOfValue, ReadError.isLate]

end Yaml

/-! ## Reading a text of a form -/

namespace Readers

variable {V φ ε σ : Type} {readers : Readers V φ} {text : String}

/-- A JSON text is read with a fault exactly if it is too deep or comes to an integer that is too long. -/
theorem readJson_eq_fault_iff :
    (∃ fault, readers.readJson text = .error (.fault fault)) ↔ readers.JsonFaults text := by
  rw [JsonFaults, ← Json.read_eq_longNumeral_iff, readJson]
  cases readers.isTooDeep text with
  | true => simp
  | false =>
      cases Json.read text with
      | ok x => simp
      | error e => cases e <;> simp

/-- A text that is not JSON is refused as such, unless it is too deep. -/
theorem readJson_eq_error_iff {fault : Json.Fault} :
    readers.readJson text = .error (.error fault) ↔
      readers.isTooDeep text = false ∧ Json.read text = .error (.malformed fault) := by
  rw [readJson]
  cases readers.isTooDeep text with
  | true => simp
  | false =>
      cases Json.read text with
      | ok x => simp
      | error e => cases e <;> simp

/-- Wording errors anew and placing faults keeps what is a fault. -/
theorem mapError_eq_fault_iff {α ε' φ' : Type} {word : ε → ε'} {place : φ → φ'}
    {answer : Except (Reported ε φ) α} :
    (∃ fault, answer.mapError (Reported.map word place) = .error (.fault fault)) ↔
      ∃ fault, answer = .error (.fault fault) := by
  cases answer with
  | ok a => exact iff_of_false (fun ⟨_, h⟩ => nomatch h) (fun ⟨_, h⟩ => nomatch h)
  | error e =>
      cases e with
      | error e => exact iff_of_false (fun ⟨_, h⟩ => nomatch h) (fun ⟨_, h⟩ => nomatch h)
      | fault fault => exact iff_of_true ⟨place fault, rfl⟩ ⟨fault, rfl⟩

/-- A YAML text is read with a fault exactly if the library ends with one. -/
theorem readYaml_eq_fault_iff :
    (∃ fault, readers.readYaml text = .error (.fault fault)) ↔ readers.YamlFaults text :=
  mapError_eq_fault_iff

/-- A document is read with a fault exactly if reading a text of its form ends with one. -/
theorem parseDocument_eq_fault_iff {suffix : String} :
    (∃ fault, readers.parseDocument text suffix = .error (.fault fault)) ↔
      readers.Faults text (.ofSuffix suffix) := by
  rw [parseDocument]
  cases TextForm.ofSuffix suffix with
  | json => exact mapError_eq_fault_iff.trans readJson_eq_fault_iff
  | yaml => exact mapError_eq_fault_iff.trans readYaml_eq_fault_iff
  | either =>
      rw [Faults, ← readJson_eq_fault_iff]
      cases hjson : readers.readJson text with
      | ok x =>
          have hnone : ¬∃ fault, Json.read text = .error (.malformed fault) := by
            rintro ⟨fault, hfault⟩
            rw [readJson, hfault] at hjson
            split at hjson <;> cases hjson
          dsimp only
          rw [mapError_eq_fault_iff]
          simp [hnone]
      | error e =>
          cases e with
          | fault fault =>
              dsimp only
              rw [mapError_eq_fault_iff]
              simp
          | error fault =>
              have hsome : ∃ fault, Json.read text = .error (.malformed fault) :=
                ⟨fault, (readJson_eq_error_iff.mp hjson).2⟩
              dsimp only
              rw [mapError_eq_fault_iff, readYaml_eq_fault_iff]
              simp [hsome]

/-- The bytes of a schema file are read with a fault exactly as `SchemaFaults` says. -/
theorem readSchema_eq_fault_iff {p : FilePath} {content : ByteArray} :
    (∃ fault : SchemaFileFaultOf ε φ σ, readers.readSchema p content = .error (.fault fault)) ↔
      readers.SchemaFaults p content := by
  rw [readSchema]
  by_cases hform : TextForm.ofSuffix p.suffix = .yaml
  · rw [if_pos hform, readYamlSchema, mapError_eq_fault_iff]
    constructor
    · rintro ⟨fault, hfault⟩
      exact .yaml hform hfault
    · rintro (⟨-, hfault⟩ | ⟨hnot, -⟩ | ⟨hnot, -, -⟩)
      · exact ⟨_, hfault⟩
      · exact absurd hform hnot
      · exact absurd hform hnot
  · rw [if_neg hform, readJsonSchema]
    cases hcontent : decodeFile content with
    | error fault => exact iff_of_true ⟨_, rfl⟩ (.undecodable hform hcontent)
    | ok text =>
        dsimp only
        rw [mapError_eq_fault_iff, readJson_eq_fault_iff]
        constructor
        · exact .json hform hcontent
        · rintro (⟨hyaml, -⟩ | ⟨-, hcontent'⟩ | ⟨-, hcontent', hfaults⟩)
          · exact absurd hyaml hform
          · cases hcontent.symm.trans hcontent'
          · cases hcontent.symm.trans hcontent'
            exact hfaults

/-! ## Loading -/

variable {files : FileAccess ε} {p : FilePath}

/-- A document is loaded with a fault exactly if asking for the file or reading its text ends with one. -/
theorem loadDocument_eq_fault_iff :
    (∃ fault, readers.loadDocument files p = .error (.fault fault)) ↔
      (∃ e, files.isFile p = .error e) ∨ ∃ content text, files.isFile p = .ok true ∧
        files.read p = .ok content ∧ decodeFile content = .ok text ∧
        readers.Faults text (.ofSuffix p.suffix) := by
  rw [loadDocument]
  cases files.isFile p with
  | error e => simp
  | ok isFile =>
      cases isFile with
      | false => simp
      | true =>
          cases files.read p with
          | error words => simp
          | ok content =>
              dsimp only
              cases htext : decodeFile content with
              | error fault => simp [htext]
              | ok text =>
                  dsimp only
                  rw [mapError_eq_fault_iff, parseDocument_eq_fault_iff]
                  simp [htext]

/-- A schema is loaded with a fault exactly if asking for the file or reading its bytes ends with one. -/
theorem loadSchema_eq_fault_iff :
    (∃ fault : SchemaFileFaultOf ε φ σ, readers.loadSchema files p = .error (.fault fault)) ↔
      (∃ e, files.isFile p = .error e) ∨ ∃ content, files.isFile p = .ok true ∧
        files.read p = .ok content ∧ readers.SchemaFaults p content := by
  rw [loadSchema]
  cases files.isFile p with
  | error e => simp
  | ok isFile =>
      cases isFile with
      | false => simp
      | true =>
          cases files.read p with
          | error words => simp
          | ok content =>
              simp only [Except.ok.injEq, exists_eq_left', true_and, reduceCtorEq, exists_false, false_or]
              rw [← readSchema_eq_fault_iff (ε := ε) (σ := σ)]
              cases (readers.readSchema p content : Except (Reported _ (SchemaFileFaultOf ε φ σ)) V) with
              | error e => simp
              | ok x => by_cases hobject : readers.isObject x = true <;> simp [hobject]

/-- A schema that is loaded is an object. -/
theorem isObject_of_loadSchema {x : V}
    (h : (readers.loadSchema files p : Except (Reported _ (SchemaFileFaultOf ε φ σ)) V) = .ok x) :
    readers.isObject x = true := by
  rw [loadSchema] at h
  split at h
  · cases h
  · cases h
  · split at h
    · cases h
    · split at h
      · cases h
      · rename_i y _
        cases hobject : readers.isObject y with
        | false =>
            rw [hobject] at h
            cases h
        | true =>
            rw [hobject] at h
            cases h
            exact hobject

/-- An outcome of loading a document is one that callers know exactly if it is no fault. -/
theorem isDocumentOutcome_iff {answer : Except (Reported DocumentError φ) V} :
    IsDocumentOutcome answer ↔ ¬∃ fault, answer = .error (.fault fault) := by
  constructor
  · rintro ⟨⟩ <;> simp
  · intro h
    match answer with
    | .ok x => exact .value x
    | .error (.error e) => exact .error e
    | .error (.fault fault) => exact absurd ⟨fault, rfl⟩ h

/-- So is one of loading a schema whose values are objects. -/
theorem isSchemaOutcome_iff {χ : Type} {answer : Except (Reported SchemaFileError χ) V}
    (hobject : ∀ x, answer = .ok x → readers.isObject x = true) :
    readers.IsSchemaOutcome answer ↔ ¬∃ fault, answer = .error (.fault fault) := by
  constructor
  · rintro ⟨⟩ <;> simp
  · intro h
    match answer with
    | .ok x => exact .object x (hobject x rfl)
    | .error (.error e) => exact .error e
    | .error (.fault fault) => exact absurd ⟨fault, rfl⟩ h

/--
Whatever reads the texts and wherever the files are: loading a document ends with a value or a document error, and
loading a schema with an object or a schema file error, exactly if asking whether the path leads to a file ends with no
fault and, where it leads to one that can be read, reading what the file holds ends with none.
-/
theorem loads_iff (readers : Readers V φ) (files : FileAccess ε) (p : FilePath) :
    (IsDocumentOutcome (readers.loadDocument files p) ↔
      (∀ e, files.isFile p ≠ .error e) ∧ ∀ content text, files.isFile p = .ok true →
        files.read p = .ok content → decodeFile content = .ok text →
        ¬readers.Faults text (.ofSuffix p.suffix)) ∧
    (readers.IsSchemaOutcome
        (readers.loadSchema files p : Except (Reported _ (SchemaFileFaultOf ε φ σ)) V) ↔
      (∀ e, files.isFile p ≠ .error e) ∧ ∀ content, files.isFile p = .ok true →
        files.read p = .ok content → ¬readers.SchemaFaults p content) := by
  constructor
  · rw [isDocumentOutcome_iff, loadDocument_eq_fault_iff]
    simp only [not_or, not_exists, not_and, ne_eq]
  · rw [isSchemaOutcome_iff fun x => isObject_of_loadSchema, loadSchema_eq_fault_iff]
    simp only [not_or, not_exists, not_and, ne_eq]

/-- A document whose text is read with a fault breaks the promise. -/
theorem not_isDocumentOutcome_of_faults {content : ByteArray} {form : TextForm} (hfile : files.isFile p = .ok true)
    (hread : files.read p = .ok content) (htext : decodeFile content = .ok text)
    (hform : TextForm.ofSuffix p.suffix = form) (hfaults : readers.Faults text form) :
    ¬IsDocumentOutcome (readers.loadDocument files p) := by
  rw [isDocumentOutcome_iff, not_not]
  refine loadDocument_eq_fault_iff.mpr (.inr ⟨content, text, hfile, hread, htext, ?_⟩)
  rwa [hform]

end Readers

namespace FileTree

/-! ### Files that are neither loaded nor refused -/

/-- A tree with one file, in the working directory. -/
def single (name : String) (content : ByteArray) : FileTree where
  workingDirectory := ["work"]
  files := [(["work", name], content)]
  directories := []

/-- An integer with one digit too many. -/
def tooManyOnes : String := String.ofList (List.replicate (digitLimit + 1) '1')

/-- The integer is long. -/
theorem comesToLongInteger_tooManyOnes : Json.ComesToLongInteger tooManyOnes := by
  have htext : tooManyOnes.toList = List.replicate (digitLimit + 1) '1' := String.toList_ofList
  refine ⟨_, .here _, [], List.replicate (digitLimit + 1) '1', [], ?_, .inl rfl, ?_, ?_, ?_, nofun⟩
  · rw [htext, List.nil_append, List.append_nil]
    rfl
  · exact List.all_replicate.trans (by decide)
  · decide
  · rw [List.length_replicate]
    exact Nat.lt_succ_self _

/-- A fault is there whatever is done with values. -/
theorem eq_error_of_map {α β χ : Type} {answer : Except χ α} {f : α → β} {e : χ}
    (h : answer.map f = .error e) : answer = .error e := by
  cases answer with
  | ok a => cases h
  | error e => exact congrArg Except.error (Except.error.inj h)

/-- A date in the thirteenth month does not exist. -/
theorem yamlFaults_monthThirteen : Readers.standard.YamlFaults "2001-13-45" := by
  have hmade : (Yaml.readText "2001-13-45").map (fun _ => ()) = .error (.fault (.calendar .month)) := by
    decide +kernel
  exact ⟨.calendar .month, eq_error_of_map hmade⟩

/-- Bytes that are not UTF-8, a date that does not exist and an integer that is too long break the promise. -/
theorem not_isOutcome_single :
    ¬Readers.standard.IsSchemaOutcome ((single "a.json" ⟨#[0xff]⟩).loadSchema ⟨0, ["a.json"]⟩) ∧
      ¬IsDocumentOutcome ((single "a.yaml" "2001-13-45".toUTF8).loadDocument ⟨0, ["a.yaml"]⟩) ∧
      ¬IsDocumentOutcome ((single "a.json" tooManyOnes.toUTF8).loadDocument ⟨0, ["a.json"]⟩) := by
  have hjson : TextForm.ofSuffix (FilePath.suffix ⟨0, ["a.json"]⟩) = .json := by decide
  have hyaml : TextForm.ofSuffix (FilePath.suffix ⟨0, ["a.yaml"]⟩) = .yaml := by decide
  refine ⟨?_, ?_, ?_⟩
  · have hcontent : decodeFile ⟨#[0xff]⟩ = .error ⟨.invalidStart, 0, [0xff]⟩ := by cbv
    rw [loadSchema, Readers.isSchemaOutcome_iff fun x => Readers.isObject_of_loadSchema, not_not]
    refine Readers.loadSchema_eq_fault_iff.mpr (.inr ⟨_, rfl, rfl, .undecodable ?_ hcontent⟩)
    rw [hjson]
    decide
  · have htext : decodeFile "2001-13-45".toUTF8 = .ok "2001-13-45" := decodeFile_toUTF8 (by decide)
    exact Readers.not_isDocumentOutcome_of_faults rfl rfl htext hyaml yamlFaults_monthThirteen
  · have htext : decodeFile tooManyOnes.toUTF8 = .ok tooManyOnes := by
      apply decodeFile_toUTF8
      rw [tooManyOnes, String.toList_ofList]
      intro hmem
      exact absurd (List.eq_of_mem_replicate hmem) (by decide)
    exact Readers.not_isDocumentOutcome_of_faults rfl rfl htext hjson (.inr comesToLongInteger_tooManyOnes)

end FileTree

end ApiLint
