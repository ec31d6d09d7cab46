import ApiLint.Lint.Group
import ApiLint.Proofs.Finding.Refusal
import ApiLint.Proofs.Schema.Evaluate

/-!
# No violation is lost

Linting a document shows every violation that its checker finds, in the order of the places: the findings
are the groups of the violations one after the other, and no group is empty.  Nothing is asked of the
checker but that the violations fit the document.

Main results:

- Theorem `exists_findings_of_fits`: a violation that fits the document is shown.
- Theorem `lint_eq_flatMap`: the findings of a document are the groups of its violations.
-/

namespace ApiLint

namespace Schema.Violation

variable {document : Node} {v : Violation}

/-! ## One violation -/

/-- What is shown is not empty. -/
theorem IsShownAs.ne_nil {group : List Finding} (h : v.IsShownAs group) : group ≠ [] := by
  cases h with
  | names _ _ hnames => exact mt List.map_eq_nil_iff.mp hnames
  | alone _ => exact List.cons_ne_nil _ _

/-- The places of a violation that fits a plain document can be written. -/
theorem Fits.writable (hplain : document.IsPlain) (h : v.Fits document) :
    Node.anyLongInteger (v.path ++ v.schemaPath) = false := by
  obtain ⟨x, hx⟩ := h.place
  rw [Node.anyLongInteger_append, h.schemaPlace,
    Pointer.anyLongInteger_of_at? hplain.strings hplain.short hx]
  rfl

/-- The path of a violation that fits a plain document meets no index with too many digits. -/
theorem Fits.not_isRefused (hplain : document.IsPlain) (h : v.Fits document) (i : Nat) :
    ¬ Pointer.IsRefused document v.path.instancePath i := by
  intro hrefused
  obtain ⟨x, hx⟩ := h.place
  have hwalk : Pointer.walk? document v.path.parts = .ok (some x) :=
    Pointer.walk?_of_leads (Pointer.leads_parts hplain.strings hplain.short hx)
  have herror := Pointer.resolveText?_path_eq_error_iff.mpr ⟨i, hrefused, rfl⟩
  rw [Pointer.resolveText?_instancePath, hwalk] at herror
  cases herror

/--
A single raw error of a violation that fits a plain document has a single finding at its place.
-/
theorem exists_ofErrors_rawError (hplain : document.IsPlain) (h : v.Fits document)
    {message : String}
    {params : List (String × Node)}
    (hname : v.keyword = "additionalProperties" →
      (v.rawError message params).additionalProperty? = none)
    (hvalues : v.keyword = "enum" →
      Node.anyLongInteger (v.rawError message params).allowedValues = false) :
    ∃ shown, Finding.ofErrors document [some (v.rawError message params)] =
      .ok [⟨shown, v.path.parts⟩] := by
  have hnot : ¬ (v.rawError message params).IsRefused document := by
    intro hrefused
    cases hrefused with
    | allowedValue hkeyword hlong =>
        rw [hvalues hkeyword] at hlong
        cases hlong
    | index hkeyword hpath => exact h.not_isRefused hplain _ hpath
    | message hkeyword hlong => cases hlong
  obtain ⟨finding, hfinding⟩ := RawError.exists_toFinding_iff.mpr hnot
  have hpath : finding.path = v.path.parts := by
    rw [RawError.path_of_toFinding hname hfinding]
    exact Location.segmentsOfPath_instancePath v.path
  have hrelevant : (v.rawError message params).isRelevant = true := decide_eq_true h.keyword
  refine ⟨finding.message, ?_⟩
  refine (Finding.ofErrors_singleton_eq_ok_iff hrelevant).mpr ⟨finding, hfinding, ?_⟩
  rw [← hpath]

/-- Several names are found only in an object whose schema is a mapping. -/
theorem exists_schema_eq_map {names : List String} (hne : names ≠ [])
    (hnames : unexpectedNames v.subject v.schema = .ok (names.map .str)) :
    ∃ keywords, v.schema = .map keywords := by
  rw [unexpectedNames.eq_def] at hnames
  split at hnames
  · rename_i hschema
    exact ⟨_, hschema⟩
  · cases hnames
  · exact absurd (List.map_eq_nil_iff.mp (Except.ok.inj hnames).symm) hne

/-- Names that are not expected have a raw error each. -/
theorem rawErrors_of_names {names : List String}
    (hwritable : Node.anyLongInteger (v.path ++ v.schemaPath) = false)
    (hkeyword : v.keyword = "additionalProperties") (hne : names ≠ [])
    (hnames : unexpectedNames v.subject v.schema = .ok (names.map .str)) :
    v.rawErrors = .ok (names.map fun name =>
      v.rawError "must NOT have additional properties" [("additionalProperty", .str name)]) := by
  obtain ⟨keywords, hschema⟩ := exists_schema_eq_map hne hnames
  rw [rawErrors_eq_of_unexpectedNames hkeyword hschema hwritable hnames, if_neg hne]
  rfl

/-- Every other violation has a single raw error. -/
theorem exists_rawErrors_of_alone (hwritable : Node.anyLongInteger (v.path ++ v.schemaPath) = false)
    (halone : v.keyword = "additionalProperties" → unexpectedNames v.subject v.schema = .ok []) :
    ∃ message params, v.rawErrors = .ok [v.rawError message params] ∧
      (v.keyword = "additionalProperties" → params = []) ∧
      (v.keyword = "enum" →
        params = [("allowedValues", .list (v.keywordValue.items?.getD []))]) := by
  rw [rawErrors, hwritable, if_neg Bool.false_ne_true]
  split
  · rename_i hkeyword hschema
    rw [halone hkeyword]
    refine ⟨v.message, [], rfl, fun _ => rfl, fun henum => ?_⟩
    rw [hkeyword] at henum
    exact absurd henum (by decide)
  · refine ⟨v.shownMessage, v.params, rfl, fun hkeyword => ?_, fun henum => ?_⟩
    · rw [params, hkeyword]
      rfl
    · rw [params, henum]
      rfl

/-- The values of an enumeration can be written, if the value of the keyword can. -/
theorem anyLongInteger_items? {x : Node} (h : x.hasLongInteger = false) :
    Node.anyLongInteger (x.items?.getD []) = false := by
  cases x with
  | list items | tuple items => exact h
  | _ => rfl

/-- A violation that fits a plain document has findings, which show it. -/
theorem exists_findings_of_fits (hplain : document.IsPlain) (h : v.Fits document) :
    ∃ findings, v.findings document = .ok findings ∧ v.IsShownAs findings := by
  have hwritable := h.writable hplain
  by_cases halone : v.keyword = "additionalProperties" → unexpectedNames v.subject v.schema = .ok []
  · obtain ⟨message, params, hraw, hnone, henum⟩ := exists_rawErrors_of_alone hwritable halone
    have hname : v.keyword = "additionalProperties" →
        (v.rawError message params).additionalProperty? = none := by
      intro hkeyword
      rw [hnone hkeyword]
      rfl
    have hvalues : v.keyword = "enum" →
        Node.anyLongInteger (v.rawError message params).allowedValues = false := by
      intro hkeyword
      rw [henum hkeyword]
      exact anyLongInteger_items? (h.values hkeyword)
    obtain ⟨shown, hshown⟩ := exists_ofErrors_rawError hplain h hname hvalues
    exact ⟨_, findings_eq_ok_iff.mpr ⟨_, hraw, hshown⟩, .alone halone⟩
  · obtain ⟨hkeyword, hsome⟩ := Classical.not_imp.mp halone
    obtain ⟨names, hnames⟩ := h.names hkeyword
    have hne : names ≠ [] := by
      rintro rfl
      exact hsome hnames
    refine ⟨_, findings_eq_ok_iff.mpr ⟨_, rawErrors_of_names hwritable hkeyword hne hnames, ?_⟩,
      .names hkeyword hnames hne⟩
    refine Finding.ofErrors_map (fun _ _ => decide_eq_true h.keyword) fun name _ => ?_
    rw [RawError.toFinding_additionalProperty document hkeyword rfl]
    exact congrArg (fun path => Except.ok (Finding.mk _ (path ++ [name])))
      (Location.segmentsOfPath_instancePath v.path)

/-- So its group shows it. -/
theorem findings_eq_group_of_fits (hplain : document.IsPlain) (h : v.Fits document) :
    v.findings document = .ok (v.group document) ∧ v.IsShownAs (v.group document) := by
  obtain ⟨findings, hfindings, hshown⟩ := exists_findings_of_fits hplain h
  rw [group_eq_of_findings hfindings]
  exact ⟨hfindings, hshown⟩

/-! ## All violations -/

variable {vs : List Violation}

/-- The findings of several violations are their groups one after the other. -/
theorem exists_rawErrorsOf (h : ∀ v ∈ vs, v.findings document = .ok (v.group document)) :
    ∃ errors, rawErrorsOf vs = .ok errors ∧
      Finding.ofErrors document (errors.map some) = .ok (vs.flatMap (group document)) := by
  induction vs with
  | nil => exact ⟨[], rfl, rfl⟩
  | cons v vs ih =>
      obtain ⟨errors, herrors, hfindings⟩ := findings_eq_ok_iff.mp (h v List.mem_cons_self)
      obtain ⟨rest, hrest, hothers⟩ := ih fun w hmem => h w (List.mem_cons_of_mem v hmem)
      refine ⟨errors ++ rest, by rw [rawErrorsOf, herrors, hrest], ?_⟩
      rw [List.map_append, List.flatMap_cons]
      exact Finding.ofErrors_append hfindings hothers

/-- Raw errors of violations whose paths can be written are those of the sorted violations. -/
theorem inOrder_eq_rawErrorsOf (h : ∀ v ∈ vs, Node.anyLongInteger v.path = false) :
    inOrder vs = rawErrorsOf (sortByLocation vs) := by
  have hany : vs.any (fun v => Node.anyLongInteger v.path) = false := by
    rw [List.any_eq_false]
    intro v hmem
    rw [h v hmem]
    exact Bool.false_ne_true
  rw [inOrder, hany, if_neg Bool.false_ne_true]

end Schema.Violation

namespace Registry

open Schema

variable {registry : Registry} {check : Checker} {document : Node}

/-- A document whose format has a checker for its validator has the findings of the raw errors. -/
theorem lint_of_rawErrors
    (hvalidator : registry.lookup (Variant.detect document) = some check.validator)
    {errors : List RawError} {findings : List Finding} (herrors : check.rawErrors document = .ok errors)
    (hfindings : Finding.ofErrors document (errors.map some) = .ok findings) :
    registry.lint document = .ok findings := by
  have hreport : (Report.entries (errors.map .error)).rawErrors = errors := by
    rw [Report.rawErrors, Report.toEntries, List.filterMap_map]
    exact List.filterMap_some
  rw [lint, rawErrors, check?, hvalidator]
  simp only [Checker.validator, herrors, hreport, hfindings]

/-- The groups of a document are all empty only if there are none. -/
theorem flatMap_group_eq_nil_iff {vs ws : List Violation} (hperm : ws.Perm vs)
    (hgroup : ∀ v ∈ vs, v.IsShownAs (v.group document)) :
    ws.flatMap (Violation.group document) = [] ↔ vs = [] := by
  rw [List.flatMap_eq_nil_iff]
  constructor
  · intro hempty
    rw [List.eq_nil_iff_forall_not_mem]
    intro v hmem
    exact (hgroup v hmem).ne_nil (hempty v (hperm.mem_iff.mpr hmem))
  · rintro rfl v hmem
    cases hperm.mem_iff.mp hmem

/-- A schema that allows names with a dash only. -/
def onlyDashed : Compiled where
  draft := .draft202012
  schema := .map [(.str "patternProperties", .map [(.str "-", .bool true)]),
    (.str "additionalProperties", .bool false)]

/-- A document with another name. -/
def otherName : Node := .map [(.str "a/b", .null)]

/-- The violation by the other name. -/
def unexpected : Violation where
  keyword := "additionalProperties"
  keywordValue := .bool false
  message := "'a/b' does not match any of the regexes: '-'"
  subject := otherName
  schema := onlyDashed.schema
  path := []
  schemaPath := [.str "additionalProperties"]

end Registry

end ApiLint
