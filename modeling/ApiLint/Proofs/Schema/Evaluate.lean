import ApiLint.Proofs.Schema.Names
import ApiLint.Schema.Evaluate

/-!
# All violations fit

A check descends through a schema with a bound on its depth.  At each depth every keyword reports
violations that fit the value, provided that checks of less depth do; so all violations of a
document fit it.

Main results:

- Theorem `ensures_outcome`: what a keyword reports fits the value.
- Theorem `EntriesEnsure.ensures_evaluate`: what the entries of all schemas ensure, a check of any
  depth ensures.
- Theorem `ensures_evaluate`: what a check of any depth reports fits the value.
- Theorem `Compiled.fits_of_checker`: what a schema finds in a plain document fits it.
-/

namespace ApiLint.Schema

open Outcome Violation

/-! ## Keywords -/

/-- What a keyword reports fits the value. -/
theorem Site.ensures_outcome {site : Site} (hsound : site.IsSound)
    (hnames : site.keyword = "additionalProperties" →
      ∃ names : List String,
        unexpectedNames site.subject (.map site.entries) = .ok (names.map .str)) :
    site.outcome.Ensures (Fits site.subject) := by
  -- Conditions report nothing, and enumerations show their values; all others only name themselves.
  by_cases hif : site.keyword = "if"
  · simp only [outcome, hif]
    exact ensures_conditional hsound
  by_cases henum : site.keyword = "enum"
  · simp only [outcome, henum]
    exact ensures_enum fun hvalue message => ensures_reportAs message hif (fun _ => hvalue) hnames
  have hreport : ∀ message, (site.report message).Ensures (Fits site.subject) :=
    fun message => ensures_reportAs message hif (fun h => absurd h henum) hnames
  have hcount : ∀ keyword value message, keyword = "maxContains" ∨ keyword = "minContains" →
      (site.reportAs keyword value message).Ensures (Fits site.subject) := by
    rintro keyword value message (rfl | rfl)
    · exact ensures_reportAs message (by decide) (fun h => absurd h (by decide))
        fun h => absurd h (by decide)
    · exact ensures_reportAs message (by decide) (fun h => absurd h (by decide))
        fun h => absurd h (by decide)
  exact ensures_outcome_of_descends (descends_of_isSound hsound hreport) hreport hcount
    (fun h => absurd h henum) fun h => absurd h hif

/-! ## Entries of a schema -/

/-- A keyword of a schema with checks of a given depth. -/
def siteAt (depth : Nat) (setting : Setting) (draft : Draft) (entries : List (Node × Node))
    (subject : Node)
    (keyword : String) (value : Node) : Site where
  draft
  keyword
  value
  entries
  subject
  root := setting.root
  untilFirst := setting.untilFirst
  assertsFormats := setting.assertsFormats
  check schema subject := evaluate depth setting draft schema subject
  checkFully schema subject :=
    evaluate depth { setting with untilFirst := false } draft schema subject
  isSatisfied schema subject :=
    match Draft.ofSchema draft schema with
    | .error fault => .error fault
    | .ok inner => (evaluate depth { setting with untilFirst := true } inner schema subject).isValid

/-- What an entry of a schema demands; what is no keyword demands nothing. -/
def entryOutcome (depth : Nat) (setting : Setting) (draft : Draft) (entries : List (Node × Node))
    (subject : Node) : Node × Node → Outcome
  | (.str keyword, value) =>
    if draft.hasKeyword keyword then
      let site := siteAt depth setting draft entries subject keyword value
      if isVisible keyword then site.outcome.map (·.under none (some (.str keyword)))
      else site.outcome
    else .valid
  | _ => .valid

variable {depth : Nat} {setting : Setting} {outer draft : Draft} {entries : List (Node × Node)}
  {subject : Node}

/-- A schema that is a mapping demands what its entries demand, one after the other. -/
theorem evaluate_map (hdraft : Draft.ofSchema outer (.map entries) = .ok draft) :
    evaluate (depth + 1) setting outer (.map entries) subject =
      Outcome.forEach setting.untilFirst (entryOutcome depth setting draft entries subject)
        (effectiveEntries outer entries) := by
  simp only [evaluate, hdraft]
  congr 1
  funext entry
  obtain ⟨key, value⟩ := entry
  cases key <;> rfl

/-- Every entry that counts stands in the schema. -/
theorem mem_of_mem_effectiveEntries {entry : Node × Node}
    (hmem : entry ∈ effectiveEntries outer entries) :
    entry ∈ entries := by
  rw [effectiveEntries] at hmem
  split at hmem
  · exact hmem
  · split at hmem
    · exact hmem
    · exact hmem
    · rename_i reference _ hlookup
      rw [List.mem_singleton.mp hmem]
      exact Node.mem_of_lookup hlookup

/-- Where another keyword than a reference counts, all entries do. -/
theorem effectiveEntries_eq_of_mem {keyword : String} {value : Node} (hne : keyword ≠ "$ref")
    (hmem : (.str keyword, value) ∈ effectiveEntries outer entries) :
    effectiveEntries outer entries = entries := by
  rw [effectiveEntries] at hmem ⊢
  split
  · rfl
  · rename_i hbeside
    rw [if_neg hbeside] at hmem
    split
    · rfl
    · rfl
    · rename_i reference hnull hlookup
      rw [hlookup] at hmem
      split at hmem
      · rename_i heq
        cases heq
      · rename_i heq
        cases heq
        exact absurd rfl hnull
      · rename_i heq
        cases heq
        have hkey := congrArg Prod.fst (List.mem_singleton.mp hmem)
        cases hkey
        exact absurd rfl hne

/-- An entry without a fault belongs to a keyword without a fault. -/
theorem fault_siteAt {keyword : String} {value : Node} (hkeyword : draft.hasKeyword keyword = true)
    (h : (entryOutcome depth setting draft entries subject (.str keyword, value)).fault = none) :
    (siteAt depth setting draft entries subject keyword value).outcome.fault = none := by
  rw [entryOutcome, if_pos hkeyword] at h
  dsimp only at h
  split at h
  · exact h
  · exact h

/-- Beside `additionalProperties` without a fault, the names of an object can be searched. -/
theorem isSearchable_of_fault {value : Node} {items : List (Node × Node)}
    (huntil : setting.untilFirst = false)
    (hfault : (Outcome.forEach false (entryOutcome depth setting draft entries (.map items))
      (effectiveEntries outer entries)).fault = none)
    (hmem : (.str "additionalProperties", value) ∈ effectiveEntries outer entries) :
    IsSearchable entries items := by
  rw [effectiveEntries_eq_of_mem (by decide) hmem] at hfault
  have hsibling : ∀ {keyword : String} {value : Node}, draft.hasKeyword keyword = true →
      Node.lookup keyword entries = some value →
        (siteAt depth setting draft entries (.map items) keyword value).outcome.fault = none :=
    fun hkeyword hlookup =>
      fault_siteAt hkeyword (Outcome.fault_of_mem_forEach hfault (Node.mem_of_lookup hlookup))
  constructor
  · intro value hlookup
    exact Site.exists_map_of_properties rfl (hsibling (by cases draft <;> decide) hlookup)
  · intro value hlookup
    exact Site.exists_map_of_patternProperties rfl huntil
      (hsibling (by cases draft <;> decide) hlookup)

/-- Beside `additionalProperties` without a fault, the unexpected names can be found. -/
theorem exists_unexpectedNames_of_fault {value : Node} (huntil : setting.untilFirst = false)
    (hplain : subject.IsPlain)
    (hfault : (Outcome.forEach false (entryOutcome depth setting draft entries subject)
      (effectiveEntries outer entries)).fault = none)
    (hmem : (.str "additionalProperties", value) ∈ effectiveEntries outer entries) :
    ∃ names : List String, unexpectedNames subject (.map entries) = .ok (names.map .str) := by
  cases subject with
  | map items => exact exists_unexpectedNames hplain (isSearchable_of_fault huntil hfault hmem)
  | _ => exact ⟨[], rfl⟩

/-! ## Schemas -/

/-- A schema that nothing satisfies reports a violation at the root of the value. -/
theorem ensures_refused (subject : Node) :
    (refused subject).Ensures fun v => v.Fits subject ∧ v.path = [] := by
  refine Site.ensures_showing fun _ text => ensures_one ⟨?_, rfl⟩
  exact {
    place := ⟨subject, rfl⟩
    keyword := (by decide : "None" ≠ "if")
    values := fun h => absurd h (by decide : "None" ≠ "enum")
    names := fun h => absurd h (by decide : "None" ≠ "additionalProperties")
    schemaPlace := rfl }

/-- A schema that is true or false reports a violation at the root of the value, if any. -/
theorem ensures_evaluate_bool (depth : Nat) (setting : Setting) (draft : Draft) (b : Bool)
    (subject : Node) :
    (evaluate depth setting draft (.bool b) subject).Ensures
      fun v => v.Fits subject ∧ v.path = [] := by
  cases depth with
  | zero => exact ensures_fail _
  | succ depth =>
      cases b with
      | true => exact ensures_valid
      | false => exact ensures_refused subject

/-- The keywords of a schema are sound, if checks of less depth are. -/
theorem isSound_siteAt {keyword : String} {value : Node} (hroot : setting.root.size < leastLong)
    (hcheck : ∀ schema x, schema.size ≤ setting.root.size → x.IsPlain →
      (evaluate depth setting draft schema x).Ensures (Fits x))
    (hsize : (Node.map entries).size ≤ setting.root.size) (hplain : subject.IsPlain)
    (hmem : (.str keyword, value) ∈ entries) :
    (siteAt depth setting draft entries subject keyword value).IsSound where
  subject := hplain
  entries := hsize
  value := Nat.le_trans (Node.size_le_of_mem hmem) hsize
  root := hroot
  check := hcheck
  refuse b x := (ensures_evaluate_bool depth setting draft b x).mono fun _ h => h.2

/-- What an entry of a schema reports fits the value, if checks of less depth do. -/
theorem ensures_entryOutcome {entry : Node × Node} (hroot : setting.root.size < leastLong)
    (hcheck : ∀ schema x, schema.size ≤ setting.root.size → x.IsPlain →
      (evaluate depth setting draft schema x).Ensures (Fits x))
    (hsize : (Node.map entries).size ≤ setting.root.size) (hplain : subject.IsPlain)
    (hmem : entry ∈ entries)
    (hnames : entry.1 = .str "additionalProperties" →
      ∃ names : List String, unexpectedNames subject (.map entries) = .ok (names.map .str)) :
    (entryOutcome depth setting draft entries subject entry).Ensures (Fits subject) := by
  obtain ⟨key, value⟩ := entry
  cases key with
  | str keyword =>
      refine ensures_ite (fun _ => ?_) fun _ => ensures_valid
      have hsite : (siteAt depth setting draft entries subject keyword value).outcome.Ensures
          (Fits subject) :=
        Site.ensures_outcome (isSound_siteAt hroot hcheck hsize hplain hmem)
          fun h => hnames (congrArg Node.str h)
      exact ensures_ite (fun _ => ensures_map (hsite.mono fun _ h => h.beside rfl)) fun _ => hsite
  | _ => exact ensures_valid

/--
Provided that checks of less depth ensure a property, so do the entries of every schema.  The names
of one entry depend on the others, so the whole search must be without a fault.
-/
def EntriesEnsure (setting : Setting) (condition : Node → Node → Prop) (P : Node → Violation → Prop) :
    Prop :=
  ∀ depth outer draft entries subject, condition (.map entries) subject →
    (∀ schema x, condition schema x → (evaluate depth setting draft schema x).Ensures (P x)) →
      (Outcome.forEach false (entryOutcome depth setting draft entries subject)
        (effectiveEntries outer entries)).fault = none →
        ∀ entry ∈ effectiveEntries outer entries,
          (entryOutcome depth setting draft entries subject entry).Ensures (P subject)

/-- What the entries of all schemas ensure, a check of any depth ensures. -/
theorem EntriesEnsure.ensures_evaluate {condition : Node → Node → Prop} {P : Node → Violation → Prop}
    {setting : Setting} (hentries : EntriesEnsure setting condition P)
    (huntil : setting.untilFirst = false) (hrefused : ∀ subject, (refused subject).Ensures (P subject))
    (depth : Nat) (outer : Draft) {schema subject : Node} (h : condition schema subject) :
    (evaluate depth setting outer schema subject).Ensures (P subject) := by
  induction depth generalizing outer schema subject with
  | zero => exact ensures_fail _
  | succ depth ih =>
      cases schema with
      | bool b =>
          cases b with
          | true => exact ensures_valid
          | false => exact hrefused subject
      | map entries =>
          cases hdraft : Draft.ofSchema outer (.map entries) with
          | error fault =>
              simp only [evaluate, hdraft]
              exact ensures_fail fault
          | ok draft =>
              rw [evaluate_map hdraft, huntil]
              intro hfault
              have hchecks := hentries depth outer draft entries subject h (fun _ _ => ih draft) hfault
              exact ensures_forEach hchecks hfault
      | _ =>
          simp only [evaluate]
          split
          · exact ensures_fail _
          · rename_i heq
            cases heq
          · exact ensures_fail _

/-- What a check reports fits the value, whatever its depth. -/
theorem ensures_evaluate (depth : Nat) {setting : Setting} (hroot : setting.root.size < leastLong)
    (huntil : setting.untilFirst = false) (outer : Draft) {schema subject : Node}
    (hsize : schema.size ≤ setting.root.size) (hplain : subject.IsPlain) :
    (evaluate depth setting outer schema subject).Ensures (Fits subject) := by
  have hentries : EntriesEnsure setting
      (fun schema x => schema.size ≤ setting.root.size ∧ x.IsPlain) Fits := by
    rintro depth outer draft entries subject ⟨hsize, hplain⟩ hcheck hfault ⟨key, value⟩ hmem
    refine ensures_entryOutcome hroot (fun schema x hx hp => hcheck schema x ⟨hx, hp⟩) hsize hplain
      (mem_of_mem_effectiveEntries hmem) fun hkey => ?_
    obtain rfl : key = .str "additionalProperties" := hkey
    exact exists_unexpectedNames_of_fault huntil hplain hfault hmem
  have hrefused : ∀ subject, (refused subject).Ensures (Fits subject) :=
    fun subject => (ensures_refused subject).mono fun _ h => h.1
  exact hentries.ensures_evaluate huntil hrefused depth outer ⟨hsize, hplain⟩

/-- What a schema finds in a plain document fits it. -/
theorem Compiled.fits_of_checker {c : Compiled} {document : Node} {vs : List Violation}
    (hsize : c.schema.size < leastLong) (hplain : document.IsPlain)
    (h : c.checker document = .ok vs) : ∀ v ∈ vs, v.Fits document :=
  fun _ hmem => (ensures_evaluate _ hsize rfl c.draft (Nat.le_refl _) hplain).of_all h hmem

end ApiLint.Schema
