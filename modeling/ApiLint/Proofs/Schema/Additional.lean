import ApiLint.Proofs.Pattern.Join
import ApiLint.Proofs.Schema.Counted
import ApiLint.Schema.Joined

/-!
# Properties that are not allowed

A violation of `additionalProperties` is split into one raw error for each name that was counted as
additional exactly when the patterns of the schema mean the same, joined to one text, as they do one
by one.  They do when none of them reaches beyond itself and they are not the empty pattern alone.

Main results:

- Theorem `IsSearchable.additionalNames_eq`: what a schema counts as additional.
- Theorem `IsSearchable.unexpectedNames_eq`: what is found again when raw errors are made.
- Theorem `Violation.Counts.names_eq`: what a violation that a schema finds stands for.
- Theorem `rawErrors_eq_additional_iff`: when the raw errors are those of the names that were
  counted.
-/

namespace ApiLint.Schema

variable {keywords entries : List (Node × Node)} {keys names texts : List String} {key text : String}

/-! ## Patterns -/

theorem read_of_readPattern {p : Pattern} (h : Site.readPattern text = .ok p) :
    Pattern.read text = .ok p := by
  simp only [Site.readPattern] at h
  cases hread : Pattern.read text with
  | ok q =>
      rw [hread] at h
      cases h
      rfl
  | error e =>
      rw [hread] at h
      cases e <;> cases h

/-- What can be looked for in a string is the text of a pattern. -/
theorem exists_read_of_isFound {found : Bool} (h : Site.isFound (.str text) (.str key) = .ok found) :
    ∃ p, Pattern.read text = .ok p ∧ p.foundIn key = found := by
  rw [Site.isFound.eq_def] at h
  dsimp only at h
  cases hpattern : Site.readPattern text with
  | ok p =>
      rw [hpattern] at h
      cases h
      exact ⟨p, read_of_readPattern hpattern, rfl⟩
  | error fault =>
      rw [hpattern] at h
      cases h

theorem meets_of_isFound {found : Bool} (h : Site.isFound (.str text) (.str key) = .ok found) :
    meets text key = found := by
  obtain ⟨p, hread, hfound⟩ := exists_read_of_isFound h
  rw [meets, hread]
  exact hfound

theorem any_meets_of_anyFound {found : Bool} (h : anyFound (.str key) (texts.map .str) = .ok found) :
    texts.any (meets · key) = found := by
  induction texts with
  | nil =>
      cases h
      rfl
  | cons text texts ih =>
      rw [List.map_cons, anyFound] at h
      cases hfound : Site.isFound (.str text) (.str key) with
      | error fault =>
          rw [hfound] at h
          cases h
      | ok first =>
          rw [hfound] at h
          rw [List.any_cons, meets_of_isFound hfound]
          cases first with
          | true =>
              cases h
              rfl
          | false => exact ih h

/-- Patterns that can be read have patterns to them. -/
theorem exists_forall₂_read (h : ∀ text ∈ texts, ∃ p, Pattern.read text = .ok p) :
    ∃ patterns, List.Forall₂ (fun text p => Pattern.read text = .ok p) texts patterns := by
  induction texts with
  | nil => exact ⟨[], .nil⟩
  | cons text texts ih =>
      obtain ⟨p, hp⟩ := h text List.mem_cons_self
      obtain ⟨patterns, hpatterns⟩ := ih fun other hmem => h other (List.mem_cons_of_mem text hmem)
      exact ⟨p :: patterns, .cons hp hpatterns⟩

theorem any_meets_of_forall₂ {patterns : List Pattern}
    (h : List.Forall₂ (fun text p => Pattern.read text = .ok p) texts patterns) :
    texts.any (meets · key) = patterns.any fun p => p.foundIn key := by
  induction h with
  | nil => rfl
  | cons hread _ ih => rw [List.any_cons, List.any_cons, ih, meets, hread]

/-- Texts joined to one are empty only if there are none or the empty one alone. -/
theorem intercalate_bar_ne_empty (hne : text :: texts ≠ [""]) :
    "|".intercalate (text :: texts) ≠ "" := by
  intro h
  have hchars := congrArg String.toList h
  rw [Pattern.toList_intercalate_bar] at hchars
  cases texts with
  | nil =>
      rw [Pattern.barred, List.flatMap_nil, List.append_nil] at hchars
      exact hne (by rw [String.toList_inj.mp hchars])
  | cons other texts => simp [Pattern.barred] at hchars

/-- Portable patterns mean the same joined as one by one, but for the empty one alone. -/
theorem meetsJoined_eq_any (hread : ∀ text ∈ texts, ∃ p, Pattern.read text = .ok p)
    (hportable : ∀ text ∈ texts, Pattern.isPortable text.toList = true) (hne : texts ≠ [""]) :
    meetsJoined texts key = texts.any (meets · key) := by
  cases texts with
  | nil => rfl
  | cons text texts =>
      obtain ⟨patterns, hpatterns⟩ := exists_forall₂_read hread
      obtain ⟨p, hp, hfound⟩ := Pattern.exists_read_intercalate hportable hpatterns
      have hjoined : ("|".intercalate (text :: texts)).isEmpty = false := by
        rw [Bool.eq_false_iff, ne_eq, String.isEmpty_iff]
        exact intercalate_bar_ne_empty hne
      rw [any_meets_of_forall₂ hpatterns, ← hfound key, meetsJoined, hjoined, meets, hp]
      rfl

/-! ## Tests of names -/

/-- Among strings a test keeps those that it answers yes to. -/
theorem Site.eq_filter_of_filterNames {test : Node → Except Fault Bool} {keep : String → Bool}
    (hkeep : ∀ key answer, test (.str key) = .ok answer → answer = keep key) {kept : List Node}
    (h : filterNames test (keys.map .str) = .ok kept) : kept = (keys.filter keep).map .str := by
  induction keys generalizing kept with
  | nil =>
      cases h
      rfl
  | cons key keys ih =>
      obtain ⟨answer, rest, htest, hrest, rfl⟩ := filterNames_cons_eq_ok_iff.mp h
      rw [ih hrest, hkeep key answer htest, List.filter_cons]
      cases keep key <;> rfl

theorem eq_of_isAdditional {answer : Bool}
    (h : Site.isAdditional (.map (entriesOf "properties" keywords)) ("|".intercalate texts) (.str key) =
      .ok answer) :
    answer = (!declares keywords key && !meetsJoined texts key) := by
  rw [Site.isAdditional, Site.holds, Node.lookupKey_str] at h
  rw [declares, meetsJoined]
  cases hdeclared : (Node.lookup key (entriesOf "properties" keywords)).isSome with
  | true =>
      rw [hdeclared] at h
      cases h
      rfl
  | false =>
      rw [hdeclared] at h
      cases hempty : ("|".intercalate texts).isEmpty with
      | true =>
          simp only [hempty] at h
          cases h
          rfl
      | false =>
          simp only [hempty] at h
          cases hfound : Site.isFound (.str ("|".intercalate texts)) (.str key) with
          | error fault =>
              rw [hfound] at h
              cases h
          | ok found =>
              rw [hfound] at h
              cases h
              rw [meets_of_isFound hfound]
              rfl

theorem eq_of_isUnexpected {answer : Bool}
    (h : isUnexpected (.map (entriesOf "properties" keywords)) (texts.map .str) (.str key) =
      .ok answer) :
    answer = (!declares keywords key && !texts.any (meets · key)) := by
  rw [isUnexpected, Site.holds, Node.lookupKey_str] at h
  rw [declares]
  cases hdeclared : (Node.lookup key (entriesOf "properties" keywords)).isSome with
  | true =>
      rw [hdeclared] at h
      cases h
      rfl
  | false =>
      rw [hdeclared] at h
      cases hany : anyFound (.str key) (texts.map .str) with
      | error fault =>
          rw [hany] at h
          cases h
      | ok found =>
          rw [hany] at h
          cases h
          rw [any_meets_of_anyFound hany]
          rfl

/-! ## Keywords beside -/

theorem mapM_str? (texts : List String) : (texts.map Node.str).mapM Node.str? = some texts := by
  induction texts with
  | nil => rfl
  | cons text texts ih =>
      rw [List.map_cons, List.mapM_cons, ih]
      rfl

theorem getD_lookup_eq_map {keyword : String}
    (h : ∀ value, Node.lookup keyword keywords = some value → ∃ table, value = .map table) :
    (Node.lookup keyword keywords).getD (.map []) = .map (entriesOf keyword keywords) := by
  rw [entriesOf]
  cases hlookup : Node.lookup keyword keywords with
  | none => rfl
  | some value =>
      obtain ⟨table, rfl⟩ := h value hlookup
      rfl

namespace IsSearchable

variable (hsearchable : IsSearchable keywords entries) (hkeys : entries.map (·.1) = keys.map .str)
  (hne : keys ≠ [])

include hsearchable hkeys hne

/-- All patterns can be looked for in some string, so they are texts that can be read. -/
theorem exists_read {pattern : Node × Node} (hmem : pattern ∈ entriesOf "patternProperties" keywords) :
    ∃ text p, pattern.1 = .str text ∧ Pattern.read text = .ok p := by
  obtain ⟨key, hkey⟩ := List.exists_mem_of_ne_nil keys hne
  have hname : Node.str key ∈ entries.map (·.1) := hkeys ▸ List.mem_map_of_mem hkey
  obtain ⟨entry, hentry, hstr⟩ := List.mem_map.mp hname
  obtain ⟨found, hfound⟩ := hsearchable.exists_isFound hmem hentry
  obtain ⟨text, htext⟩ := Site.exists_str_of_isFound hfound
  rw [htext, hstr] at hfound
  obtain ⟨p, hp, -⟩ := exists_read_of_isFound hfound
  exact ⟨text, p, htext, hp⟩

theorem map_patterns :
    (entriesOf "patternProperties" keywords).map (·.1) = (patternTexts keywords).map .str := by
  have hstr : ∀ x ∈ (entriesOf "patternProperties" keywords).map (·.1), ∃ text, x = .str text := by
    intro x hmem
    obtain ⟨pattern, hpattern, rfl⟩ := List.mem_map.mp hmem
    obtain ⟨text, -, htext, -⟩ := hsearchable.exists_read hkeys hne hpattern
    exact ⟨text, htext⟩
  obtain ⟨texts, htexts⟩ := exists_eq_map_str hstr
  have hread : (texts.map Node.str).filterMap Node.str? = texts := by
    rw [List.filterMap_map]
    exact List.filterMap_some
  have hsame : patternTexts keywords = texts := by
    rw [← hread, ← htexts, List.filterMap_map]
    rfl
  rw [htexts, hsame]

theorem exists_read_of_mem_patternTexts (hmem : text ∈ patternTexts keywords) :
    ∃ p, Pattern.read text = .ok p := by
  have hname : Node.str text ∈ (entriesOf "patternProperties" keywords).map (·.1) := by
    rw [hsearchable.map_patterns hkeys hne]
    exact List.mem_map_of_mem hmem
  obtain ⟨pattern, hpattern, hstr⟩ := List.mem_map.mp hname
  obtain ⟨text', p, htext, hp⟩ := hsearchable.exists_read hkeys hne hpattern
  cases hstr.symm.trans htext
  exact ⟨p, hp⟩

theorem joinedPatterns_eq {site : Site} (hsite : site.entries = keywords) :
    site.joinedPatterns = .ok ("|".intercalate (patternTexts keywords)) := by
  have hnames := hsearchable.map_patterns hkeys hne
  rw [Site.joinedPatterns, Site.sibling?, hsite]
  rw [entriesOf] at hnames
  cases hlookup : Node.lookup "patternProperties" keywords with
  | none =>
      rw [patternTexts, entriesOf, hlookup]
      rfl
  | some value =>
      obtain ⟨patterns, rfl, -⟩ := hsearchable.patterns value hlookup
      rw [hlookup] at hnames
      have hnames : patterns.map (·.1) = (patternTexts keywords).map .str := hnames
      dsimp only [Node.elements?]
      rw [hnames, mapM_str?]

/-! ## Both ways of deciding -/

/-- What a schema counts as additional. -/
theorem additionalNames_eq {site : Site} (hsite : site.entries = keywords) {kept : List Node}
    (h : site.additionalNames entries = .ok kept) :
    kept = (additionalKeys keywords keys).map .str := by
  rw [Site.additionalNames, hsearchable.joinedPatterns_eq hkeys hne hsite, Site.sibling?, hsite,
    getD_lookup_eq_map hsearchable.properties, hkeys] at h
  exact Site.eq_filter_of_filterNames (fun key answer => eq_of_isAdditional) h

/-- What is found again when raw errors are made. -/
theorem unexpectedNames_eq :
    unexpectedNames (.map entries) (.map keywords) = .ok ((keys.filter fun key =>
      !declares keywords key && !(patternTexts keywords).any (meets · key)).map .str) := by
  obtain ⟨kept, hkept, -⟩ := hsearchable.exists_among
  rw [hkept]
  rw [unexpectedNames, hsearchable.keywordOr_patterns, hsearchable.keywordOr_properties] at hkept
  dsimp only at hkept
  rw [hsearchable.map_patterns hkeys hne, hkeys] at hkept
  rw [Site.eq_filter_of_filterNames (fun key answer => eq_of_isUnexpected) hkept]

end IsSearchable

/-! ## Raw errors -/

/-- Two tests keep the same of a list exactly when they agree on all of it. -/
theorem filter_eq_filter_iff {keep keep' : String → Bool} :
    keys.filter keep = keys.filter keep' ↔ ∀ key ∈ keys, keep key = keep' key := by
  constructor
  · intro h key hmem
    have hiff : key ∈ keys.filter keep ↔ key ∈ keys.filter keep' := by rw [h]
    simp only [List.mem_filter, hmem, true_and] at hiff
    exact Bool.eq_iff_iff.mpr hiff
  · exact List.filter_congr

/-- The patterns mean the same both ways exactly when both ways of deciding keep the same names. -/
theorem joinsAlike_iff_filter_eq :
    JoinsAlike keywords keys ↔
      (keys.filter fun key => !declares keywords key && !(patternTexts keywords).any (meets · key)) =
        additionalKeys keywords keys := by
  rw [additionalKeys, filter_eq_filter_iff]
  refine forall₂_congr fun key _ => ?_
  cases declares keywords key with
  | true => simp
  | false =>
      cases meetsJoined (patternTexts keywords) key <;>
        cases (patternTexts keywords).any (meets · key) <;> decide

/-- Raw errors of different names differ. -/
theorem Violation.additional_injective (v : Violation) : Function.Injective v.additional := by
  intro name name' h
  have hparams := congrArg RawError.params h
  simpa [additional, rawError] using hparams

/-- The raw error without a name is that of no name. -/
theorem Violation.rawError_ne_additional (v : Violation) (message name : String) :
    v.rawError message [] ≠ v.additional name := by
  intro h
  have hparams := congrArg RawError.params h
  simp [additional, rawError] at hparams

/--
The raw errors of a violation are those of some names exactly when its places can be written and
these are the names that are found again.
-/
theorem Violation.rawErrors_eq_map_additional_iff {v : Violation} {found : List String}
    (hkeyword : v.keyword = "additionalProperties") (hschema : v.schema = .map keywords)
    (hfound : unexpectedNames v.subject v.schema = .ok (found.map .str)) (hne : names ≠ []) :
    v.rawErrors = .ok (names.map v.additional) ↔
      Node.anyLongInteger (v.path ++ v.schemaPath) = false ∧ found = names := by
  cases hplace : Node.anyLongInteger (v.path ++ v.schemaPath) with
  | true => simp [rawErrors, hplace]
  | false =>
      rw [rawErrors_eq_of_unexpectedNames hkeyword hschema hplace hfound, Except.ok.injEq]
      by_cases hnone : found = []
      · -- Without names there is a single raw error, which shows none.
        subst hnone
        rw [if_pos rfl]
        constructor
        · intro herrors
          obtain ⟨name, others, rfl⟩ := List.exists_cons_of_ne_nil hne
          exact absurd (List.cons.inj herrors).1 (v.rawError_ne_additional v.message name)
        · rintro ⟨-, rfl⟩
          exact absurd rfl hne
      · rw [if_neg hnone, (List.map_injective_iff.mpr v.additional_injective).eq_iff]
        exact (and_iff_right rfl).symm

/-- The names that a check of a schema counts among string keys are those that the joined patterns leave. -/
theorem Violation.Counts.names_eq {v : Violation} {names : List Node}
    (h : v.Counts keywords entries names) (hkeys : entries.map (·.1) = keys.map .str) :
    names = (additionalKeys keywords keys).map .str := by
  obtain ⟨site, hsite, hcounted⟩ := h.counted
  have hne : keys ≠ [] := by
    rintro rfl
    obtain ⟨name, hname⟩ := List.exists_mem_of_ne_nil names h.ne_nil
    have hkey := Site.mem_of_mem_additionalNames hcounted hname
    rw [hkeys] at hkey
    cases hkey
  exact h.searchable.additionalNames_eq hkeys hne hsite hcounted

/-- The keywords of a schema that allows no properties but those that a pattern meets. -/
def keywordsMet (pattern : String) : List (Node × Node) :=
  [(.str "patternProperties", .map [(.str pattern, .bool true)]),
    (.str "additionalProperties", .bool false)]

/-- A schema of these keywords. -/
def onlyMet (pattern : String) : Compiled where
  draft := .draft202012
  schema := .map (keywordsMet pattern)

/-- The violation of such a schema by an object with one other property. -/
def notMet (pattern : String) : Violation where
  keyword := "additionalProperties"
  keywordValue := .bool false
  message := "'a' does not match any of the regexes: '" ++ pattern ++ "'"
  subject := .map [(.str "a", .int 1)]
  schema := (onlyMet pattern).schema
  path := []
  schemaPath := [.str "additionalProperties"]

-- Behind other patterns the group of a back-reference has another number.
example : ¬ JoinsAlike [(.str "patternProperties", .map [(.str "^(a|b)-\\1$", .bool true),
    (.str "^(c|d)-\\1$", .bool true)])] ["c-c"] := by
  decide +kernel

-- Flags at the start count for the patterns behind as well.
example : ¬ JoinsAlike [(.str "patternProperties", .map [(.str "(?i)^x-", .bool true),
    (.str "^ext$", .bool true)])] ["EXT"] := by
  decide +kernel

end ApiLint.Schema
