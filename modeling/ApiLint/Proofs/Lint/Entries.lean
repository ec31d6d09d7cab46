import ApiLint.Lint.Registry
import ApiLint.Proofs.Keyed
import ApiLint.Proofs.Load.Document
import Mathlib.Logic.Relation

/-!
# Entries of reports

A report may hold entries of any kind.  A raw error is taken as it is, a mapping is read as a raw
error unless one of its parameters has a key that is no name, and everything else is malformed.  A
malformed entry is skipped: it changes neither what is read of the other entries nor their order.

Main results:

- Theorem `RawError.ofEntries_eq_ok_iff`: what is read of a mapping, field by field.
- Theorem `RawError.ofEntries_fields`: the fields of a raw error are read as this raw error.
- Theorems `ReportEntry.rawError?_eq_some_iff` and `ReportEntry.rawError?_eq_none_iff`: every entry is
  read as one raw error or is malformed.
- Theorem `Registry.lint_eq_of_inserts`: malformed entries change no finding.
-/

namespace ApiLint

/-! ## Names -/

namespace Text

/-- Bytes are decoded exactly as the string that they encode. -/
theorem decodeUtf8_eq_ok_iff {bytes : ByteArray} {s : String} :
    decodeUtf8 bytes = .ok s ↔ bytes = s.toUTF8 := by
  constructor
  · intro h
    rw [decodeUtf8, String.fromUTF8?] at h
    split at h
    · rename_i decoded hdecoded
      split at hdecoded
      · cases h
        cases hdecoded
        rfl
      · cases hdecoded
    · cases h
  · rintro rfl
    exact decodeUtf8_toUTF8 s

end Text

namespace Node

/-- A key that is a name: a string, or the bytes that encode one. -/
inductive Names : Node → String → Prop where
  | str (name : String) : Names (.str name) name
  | bytes (name : String) : Names (.bytes name.toUTF8.data.toList) name

/-- Bytes are read as a name exactly when they encode it. -/
theorem asText_bytes_eq_ok_iff {bs : List UInt8} {name : String} :
    (Node.bytes bs).asText = .ok name ↔ bs = name.toUTF8.data.toList := by
  have hdecode : (Node.bytes bs).asText = .ok name ↔ Text.decodeUtf8 ⟨bs.toArray⟩ = .ok name := by
    rw [asText]
    cases Text.decodeUtf8 ⟨bs.toArray⟩ <;> simp
  rw [hdecode, Text.decodeUtf8_eq_ok_iff, ByteArray.ext_iff, ← Array.toList_inj]

/-- A key is read as the name that it is. -/
theorem asText_eq_ok_iff {key : Node} {name : String} : key.asText = .ok name ↔ key.Names name := by
  constructor
  · intro h
    cases key with
    | str _ =>
        cases h
        exact .str _
    | bytes bs =>
        rw [asText_bytes_eq_ok_iff.mp h]
        exact .bytes name
    | _ => cases h
  · intro h
    cases h with
    | str => rfl
    | bytes => exact asText_bytes_eq_ok_iff.mpr rfl

end Node

/-! ## Parameters -/

namespace RawError

/-- Entries of a mapping give parameters by the names that their keys are. -/
abbrev Gives (given : List (Node × Node)) (named : List (String × Node)) : Prop :=
  List.Forall₂ (fun entry param => entry.1.Names param.1 ∧ entry.2 = param.2) given named

/-- Put parameters one after the other. -/
def putParams (done named : List (String × Node)) : List (String × Node) :=
  named.foldl (fun done param => insertParam param.1 param.2 done) done

variable {given entries : List (Node × Node)} {done named params : List (String × Node)}
  {name : String} {value : Node} {e : RawError}

/-- Keys that are names give parameters. -/
theorem exists_gives (h : ∀ entry ∈ given, ∃ name, entry.1.Names name) : ∃ named, Gives given named := by
  induction given with
  | nil => exact ⟨[], .nil⟩
  | cons entry rest ih =>
      obtain ⟨⟨name, hname⟩, hrest⟩ := List.forall_mem_cons.mp h
      obtain ⟨named, hnamed⟩ := ih hrest
      exact ⟨(name, entry.2) :: named, .cons ⟨hname, rfl⟩ hnamed⟩

/-- Parameters under names are read without a fault. -/
theorem readParams_of_gives (h : Gives given named) :
    readParams done given = (putParams done named, []) := by
  induction h generalizing done with
  | nil => rfl
  | cons hentry _ ih =>
      obtain ⟨hname, hvalue⟩ := hentry
      rw [readParams, Node.asText_eq_ok_iff.mpr hname, hvalue]
      exact ih

/-- A key that is no name is a fault, wherever it stands. -/
theorem readParams_ne_nil {entry : Node × Node} (hmem : entry ∈ given)
    (hkey : ∀ name, ¬ entry.1.Names name) : (readParams done given).2 ≠ [] := by
  induction given generalizing done with
  | nil => cases hmem
  | cons first rest ih =>
      rw [readParams]
      cases hfirst : first.1.asText with
      | error misfit => exact List.cons_ne_nil _ _
      | ok name =>
          rcases List.mem_cons.mp hmem with rfl | hrest
          · exact absurd (Node.asText_eq_ok_iff.mp hfirst) (hkey name)
          · exact ih hrest

theorem insertParam_eq_put (name : String) (value : Node) (done : List (String × Node)) :
    insertParam name value done = Keyed.put name value done := by
  induction done with
  | nil => rfl
  | cons param done ih => rw [insertParam, Keyed.put, ih]

/-- No name is put twice. -/
theorem nodup_putParams (h : (done.map (·.1)).Nodup) : ((putParams done named).map (·.1)).Nodup := by
  induction named generalizing done with
  | nil => exact h
  | cons param named ih =>
      rw [putParams, List.foldl_cons, insertParam_eq_put]
      exact ih (Keyed.nodup_put h)

/-- Parameters under different names are all there, in their order. -/
theorem putParams_of_nodup (h : ((done ++ named).map (·.1)).Nodup) :
    putParams done named = done ++ named := by
  induction named generalizing done with
  | nil => exact (List.append_nil done).symm
  | cons param named ih =>
      rw [← List.singleton_append, ← List.append_assoc] at h
      have hnew : param.1 ∉ done.map (·.1) := by
        rw [List.map_append, List.map_append, List.append_assoc] at h
        intro hmem
        exact (List.nodup_append.mp h).2.2 _ hmem _ List.mem_cons_self rfl
      have hput : putParams done (param :: named) = putParams (done ++ [param]) named := by
        rw [putParams, List.foldl_cons, insertParam_eq_put, Keyed.put_of_notMem hnew]
        rfl
      rw [hput, ih h, List.append_assoc, List.singleton_append]

/-! ## Fields -/

/-- A field holds a text if it is a string, and no text if it is anything else or absent. -/
def IsTextOf (entries : List (Node × Node)) (field text : String) : Prop :=
  Node.lookup field entries = some (.str text) ∨
    (∀ s, Node.lookup field entries ≠ some (.str s)) ∧ text = ""

/-- The entries that a mapping holds as parameters, if that is what it holds there. -/
def givenParams (entries : List (Node × Node)) : List (Node × Node) :=
  match Node.lookup "params" entries with
  | some (.map params) => params
  | _ => []

/--
A raw error has the fields of a mapping: its texts, its message as it is, and its parameters, the
last one of each name in the place of the first one.
-/
structure IsReadFrom (entries : List (Node × Node)) (e : RawError) : Prop where
  keyword : IsTextOf entries "keyword" e.keyword
  instancePath : IsTextOf entries "instancePath" e.instancePath
  schemaPath : IsTextOf entries "schemaPath" e.schemaPath
  message : e.message = (Node.lookup "message" entries).getD .null
  params : ∃ named, Gives (givenParams entries) named ∧ e.params = putParams [] named

/-- The mapping of the fields of a raw error. -/
def fields (e : RawError) : List (Node × Node) :=
  [(.str "keyword", .str e.keyword), (.str "instancePath", .str e.instancePath),
    (.str "message", e.message), (.str "params", .map (e.params.map fun param => (.str param.1, param.2))),
    (.str "schemaPath", .str e.schemaPath)]

variable {field text : String}

theorem isTextOf_iff : IsTextOf entries field text ↔ text = textField field entries := by
  rw [IsTextOf, textField]
  split
  · rename_i s hs
    simp [hs, eq_comm]
  · rename_i hother
    constructor
    · rintro (hs | ⟨-, rfl⟩)
      · exact absurd hs (hother text)
      · rfl
    · intro htext
      exact .inr ⟨fun s hs => hother s hs, htext⟩

theorem ofEntries_eq (entries : List (Node × Node)) : ofEntries entries =
    match readParams [] (givenParams entries) with
    | (params, []) => .ok {
        keyword := textField "keyword" entries
        instancePath := textField "instancePath" entries
        message := (Node.lookup "message" entries).getD .null
        params
        schemaPath := textField "schemaPath" entries }
    | (_, faults) => .error faults :=
  rfl

/-- A key that is no name makes a mapping unreadable. -/
theorem exists_ofEntries_eq_error {entry : Node × Node} (hmem : entry ∈ givenParams entries)
    (hkey : ∀ name, ¬ entry.1.Names name) : ∃ faults, ofEntries entries = .error faults := by
  have hfaults : (readParams [] (givenParams entries)).2 ≠ [] := readParams_ne_nil hmem hkey
  rw [ofEntries_eq]
  split
  · rename_i hread
    rw [hread] at hfaults
    exact absurd rfl hfaults
  · exact ⟨_, rfl⟩

/-- A mapping whose parameters have names has the fields of a raw error. -/
theorem exists_isReadFrom (h : ∀ entry ∈ givenParams entries, ∃ name, entry.1.Names name) :
    ∃ e, IsReadFrom entries e := by
  obtain ⟨named, hnamed⟩ := exists_gives h
  exact ⟨⟨_, _, _, _, _⟩, {
    keyword := isTextOf_iff.mpr rfl
    instancePath := isTextOf_iff.mpr rfl
    schemaPath := isTextOf_iff.mpr rfl
    message := rfl
    params := ⟨named, hnamed, rfl⟩ }⟩

theorem ofEntries_of_isReadFrom (h : IsReadFrom entries e) : ofEntries entries = .ok e := by
  obtain ⟨named, hnamed, hparams⟩ := h.params
  rw [ofEntries_eq, readParams_of_gives hnamed, ← hparams, ← isTextOf_iff.mp h.keyword,
    ← isTextOf_iff.mp h.instancePath, ← isTextOf_iff.mp h.schemaPath, ← h.message]

/-- A mapping is read as a raw error exactly when this has its fields. -/
theorem ofEntries_eq_ok_iff : ofEntries entries = .ok e ↔ IsReadFrom entries e := by
  refine ⟨fun h => ?_, ofEntries_of_isReadFrom⟩
  by_cases hnames : ∀ entry ∈ givenParams entries, ∃ name, entry.1.Names name
  · obtain ⟨read, hread⟩ := exists_isReadFrom hnames
    rw [ofEntries_of_isReadFrom hread] at h
    cases h
    exact hread
  · push Not at hnames
    obtain ⟨entry, hmem, hkey⟩ := hnames
    obtain ⟨faults, hfaults⟩ := exists_ofEntries_eq_error hmem hkey
    rw [hfaults] at h
    cases h

/-- The parameters of a raw error that was read have different names. -/
theorem IsReadFrom.nodup (h : IsReadFrom entries e) : (e.params.map (·.1)).Nodup := by
  obtain ⟨named, -, hparams⟩ := h.params
  rw [hparams]
  exact nodup_putParams .nil

/-- The fields of a raw error that was read are read as this raw error. -/
theorem ofEntries_fields (h : IsReadFrom entries e) : ofEntries e.fields = .ok e := by
  have hgives : ∀ params, Gives (params.map fun param : String × Node => (.str param.1, param.2)) params := by
    intro params
    induction params with
    | nil => exact .nil
    | cons param params ih => exact .cons ⟨.str param.1, rfl⟩ ih
  have hparams : putParams [] e.params = e.params := putParams_of_nodup h.nodup
  exact ofEntries_of_isReadFrom {
    keyword := .inl rfl
    instancePath := .inl rfl
    schemaPath := .inl rfl
    message := rfl
    params := ⟨e.params, hgives e.params, hparams.symm⟩ }

end RawError

/-! ## Entries -/

namespace ReportEntry

/-- An entry is a raw error, or a mapping that has the fields of one. -/
inductive IsReadAs : ReportEntry → RawError → Prop where
  | error (e : RawError) : IsReadAs (.error e) e
  | mapping {entries : List (Node × Node)} {e : RawError} :
    e.IsReadFrom entries → IsReadAs (.value (.map entries)) e

/-- An entry is neither a raw error nor a mapping, or it is a mapping with a parameter under no name. -/
inductive IsMalformed : ReportEntry → Prop where
  | kind {x : Node} : x.map? = none → IsMalformed (.value x)
  | params {entries : List (Node × Node)} {param : Node × Node} :
    param ∈ RawError.givenParams entries → (∀ name, ¬ param.1.Names name) →
      IsMalformed (.value (.map entries))

variable {entry : ReportEntry} {entries others : List ReportEntry} {e : RawError}
  {errors : List RawError}

/-- Every entry is read as a raw error or is malformed. -/
theorem isReadAs_or_isMalformed (entry : ReportEntry) :
    (∃ e, entry.IsReadAs e) ∨ entry.IsMalformed := by
  cases entry with
  | error e => exact .inl ⟨e, .error e⟩
  | value x =>
      cases hx : x.map? with
      | none => exact .inr (.kind hx)
      | some entries =>
          obtain rfl : x = .map entries := by
            cases x <;> cases hx
            rfl
          by_cases hnames : ∀ param ∈ RawError.givenParams entries, ∃ name, param.1.Names name
          · obtain ⟨e, hread⟩ := RawError.exists_isReadFrom hnames
            exact .inl ⟨e, .mapping hread⟩
          · push Not at hnames
            obtain ⟨param, hmem, hkey⟩ := hnames
            exact .inr (.params hmem hkey)

theorem rawError?_of_isReadAs (h : entry.IsReadAs e) : entry.rawError? = some e := by
  cases h with
  | error => rfl
  | mapping hread => rw [rawError?, RawError.ofEntries_of_isReadFrom hread, Except.toOption]

theorem rawError?_of_isMalformed (h : entry.IsMalformed) : entry.rawError? = none := by
  cases h with
  | kind hkind =>
      rename_i x
      cases x with
      | map entries => cases hkind
      | _ => rfl
  | params hmem hkey =>
      obtain ⟨faults, hfaults⟩ := RawError.exists_ofEntries_eq_error hmem hkey
      rw [rawError?, hfaults, Except.toOption]

/-! ## Reports -/

/--
The raw errors of entries, in their order: one for each entry that is read as one, and none for a
malformed one.
-/
inductive Yield : List ReportEntry → List RawError → Prop where
  | nil : Yield [] []
  | read {entry : ReportEntry} {e : RawError} {entries : List ReportEntry} {errors : List RawError} :
    entry.IsReadAs e → Yield entries errors → Yield (entry :: entries) (e :: errors)
  | skip {entry : ReportEntry} {entries : List ReportEntry} {errors : List RawError} :
    entry.IsMalformed → Yield entries errors → Yield (entry :: entries) errors

/-- Entries yield the raw errors that are read of them, and no others. -/
theorem yield_iff : Yield entries errors ↔ errors = entries.filterMap rawError? := by
  constructor
  · intro h
    induction h with
    | nil => rfl
    | read hentry _ ih => rw [List.filterMap_cons_some (rawError?_of_isReadAs hentry), ih]
    | skip hentry _ ih => rw [List.filterMap_cons_none (rawError?_of_isMalformed hentry), ih]
  · rintro rfl
    induction entries with
    | nil => exact .nil
    | cons entry entries ih =>
        rcases isReadAs_or_isMalformed entry with ⟨e, hentry⟩ | hentry
        · rw [List.filterMap_cons_some (rawError?_of_isReadAs hentry)]
          exact .read hentry ih
        · rw [List.filterMap_cons_none (rawError?_of_isMalformed hentry)]
          exact .skip hentry ih

/-- A malformed entry is put in somewhere. -/
inductive Inserts : List ReportEntry → List ReportEntry → Prop where
  | put (before after : List ReportEntry) {entry : ReportEntry} :
    entry.IsMalformed → Inserts (before ++ after) (before ++ entry :: after)

/-- A malformed entry changes no raw error, wherever it is put in. -/
theorem filterMap_rawError?_of_inserts (h : Inserts entries others) :
    others.filterMap rawError? = entries.filterMap rawError? := by
  obtain ⟨before, after, hentry⟩ := h
  rw [List.filterMap_append, List.filterMap_append,
    List.filterMap_cons_none (rawError?_of_isMalformed hentry)]

/-- So any number of them may be put in and taken out. -/
theorem filterMap_rawError?_of_eqvGen (h : Relation.EqvGen Inserts entries others) :
    others.filterMap rawError? = entries.filterMap rawError? := by
  induction h with
  | rel _ _ hinserts => exact filterMap_rawError?_of_inserts hinserts
  | refl => rfl
  | symm _ _ _ ih => exact ih.symm
  | trans _ _ _ _ _ ihFirst ihSecond => exact ihSecond.trans ihFirst

end ReportEntry

/-! ## Linting -/

namespace Registry

open ReportEntry

variable {registry other : Registry} {document : Node} {variant : Variant}
  {run : Node → Except LintError Report} {report : Report}

/-- The raw errors of a document are those of the report that its validator makes. -/
theorem rawErrors_of_check? (hcheck : registry.check? document = some (variant, run))
    (hrun : run document = .ok report) : registry.rawErrors document = .ok report.rawErrors := by
  simp only [rawErrors, hcheck, hrun]

/-- Findings are made of the raw errors alone. -/
theorem lint_eq_of_rawErrors_eq (h : other.rawErrors document = registry.rawErrors document) :
    other.lint document = registry.lint document := by
  rw [lint, lint, h]

/-- The registry of a validator that always reports the same entries. -/
def reporting (entries : List ReportEntry) : Registry :=
  [(.openApi30, .check fun _ => .ok (.entries entries))]

/-- A raw error as it is. -/
def tooSmall : ReportEntry := .error ⟨"minimum", "/a", .str "it's too small", [], "#/minimum"⟩

/-- The fields of a mapping, of many kinds, with one parameter under two forms of its name. -/
def oddFields : List (Node × Node) :=
  [(.str "keyword", .int 3), (.str "schemaPath", .null), (.str "params",
    .map [(.bytes [0xc3, 0xa9], .null), (.str "z", .null), (.str "é", .bool true)])]

/-- A mapping with a parameter under a number. -/
def numberedParam : ReportEntry := .value (.map [(.str "params", .map [(.int 1, .null)])])

/-- Two malformed entries around a raw error, and a mapping behind them. -/
def mixed : List ReportEntry := [.value (.int 7), tooSmall, numberedParam, .value (.map oddFields)]

end Registry

end ApiLint
