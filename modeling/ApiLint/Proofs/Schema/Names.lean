import ApiLint.Proofs.Schema.Descend
import ApiLint.Schema.Joined

/-!
# Names that are not expected

The names of an object that its schema does not expect are found again when a violation is reported.
That cannot fail, because the keywords `properties` and `patternProperties` beside it would have
failed before.

Main results:

- Theorem `exists_unexpectedNames`: the unexpected names of a plain object are strings and can be
  found.
- Theorems `exists_map_of_properties` and `exists_map_of_patternProperties`: what the keywords
  beside tell.
-/

namespace ApiLint.Schema

namespace Site

/-! ## Tests of names -/

/-- Names can be filtered by a test that fails on none of them. -/
theorem exists_filterNames {test : Node → Except Fault Bool} {names : List Node}
    (h : ∀ name ∈ names, ∃ keep, test name = .ok keep) :
    ∃ kept, filterNames test names = .ok kept := by
  induction names with
  | nil => exact ⟨[], rfl⟩
  | cons first rest ih =>
      obtain ⟨keep, hkeep⟩ := h first List.mem_cons_self
      obtain ⟨kept, hkept⟩ := ih fun name hmem => h name (List.mem_cons_of_mem first hmem)
      exact ⟨_, filterNames_cons_eq_ok_iff.mpr ⟨keep, kept, hkeep, hkept, rfl⟩⟩

variable {site : Site} {entries : List (Node × Node)}

/-! ## Keywords without a fault -/

/-- The keyword `properties` on an object has no fault only if its value is a mapping. -/
theorem exists_map_of_properties (hsubject : site.subject = .map entries)
    (h : site.properties.fault = none) : ∃ declared, site.value = .map declared := by
  rw [properties, hsubject] at h
  dsimp only at h
  cases hvalue : site.value with
  | map declared => exact ⟨declared, rfl⟩
  | _ =>
      rw [hvalue] at h
      cases h

/-- So has `patternProperties`, all of whose patterns can be looked for in all names. -/
theorem exists_map_of_patternProperties (hsubject : site.subject = .map entries)
    (huntil : site.untilFirst = false) (h : site.patternProperties.fault = none) :
    ∃ patterns, site.value = .map patterns ∧
      ∀ pattern ∈ patterns, ∀ entry ∈ entries, ∃ found, isFound pattern.1 entry.1 = .ok found := by
  rw [patternProperties, hsubject] at h
  dsimp only at h
  cases hvalue : site.value with
  | map patterns =>
      rw [hvalue, forEntries, forEach, huntil] at h
      refine ⟨patterns, rfl, fun pattern hpattern entry hentry => ?_⟩
      have hnames := Outcome.fault_of_mem_forEach h hpattern
      rw [forEach, huntil] at hnames
      have hfound := Outcome.fault_of_mem_forEach hnames hentry
      cases hresult : isFound pattern.1 entry.1 with
      | ok found => exact ⟨found, rfl⟩
      | error fault =>
          rw [hresult] at hfound
          cases hfound
  | _ =>
      rw [hvalue] at h
      cases h

end Site

/-! ## Unexpected names -/

variable {entries keywords declared patterns : List (Node × Node)} {name : Node}

/-- What a schema declares and all of its patterns can be looked for in the names of an object. -/
structure IsSearchable (keywords entries : List (Node × Node)) : Prop where
  properties : ∀ value, Node.lookup "properties" keywords = some value →
    ∃ declared, value = .map declared
  patterns : ∀ value, Node.lookup "patternProperties" keywords = some value →
    ∃ patterns, value = .map patterns ∧ ∀ pattern ∈ patterns, ∀ entry ∈ entries,
      ∃ found, Site.isFound pattern.1 entry.1 = .ok found

/-- A keyword that is a mapping if it is there counts as its entries. -/
theorem keywordOr_eq_map {keyword : String}
    (h : ∀ value, Node.lookup keyword keywords = some value → ∃ table, value = .map table) :
    keywordOr keyword keywords = .map (entriesOf keyword keywords) := by
  rw [keywordOr, entriesOf]
  cases hlookup : Node.lookup keyword keywords with
  | none => rfl
  | some value =>
      obtain ⟨table, rfl⟩ := h value hlookup
      cases table <;> rfl

theorem IsSearchable.keywordOr_properties (hsearchable : IsSearchable keywords entries) :
    keywordOr "properties" keywords = .map (entriesOf "properties" keywords) :=
  keywordOr_eq_map hsearchable.properties

theorem IsSearchable.keywordOr_patterns (hsearchable : IsSearchable keywords entries) :
    keywordOr "patternProperties" keywords = .map (entriesOf "patternProperties" keywords) :=
  keywordOr_eq_map fun value hlookup => (hsearchable.patterns value hlookup).imp fun _ h => h.1

/-- Every pattern can be looked for in every name. -/
theorem IsSearchable.exists_isFound (hsearchable : IsSearchable keywords entries)
    {pattern : Node × Node} (hmem : pattern ∈ entriesOf "patternProperties" keywords)
    {entry : Node × Node} (hentry : entry ∈ entries) :
    ∃ found, Site.isFound pattern.1 entry.1 = .ok found := by
  rw [entriesOf] at hmem
  cases hlookup : Node.lookup "patternProperties" keywords with
  | none =>
      rw [hlookup] at hmem
      cases hmem
  | some value =>
      obtain ⟨patterns, rfl, hfound⟩ := hsearchable.patterns value hlookup
      rw [hlookup] at hmem
      exact hfound pattern hmem entry hentry

/-- Patterns that can be looked for in a name can be looked for one after the other. -/
theorem exists_anyFound {patterns : List Node}
    (h : ∀ pattern ∈ patterns, ∃ found, Site.isFound pattern name = .ok found) :
    ∃ found, anyFound name patterns = .ok found := by
  induction patterns with
  | nil => exact ⟨false, rfl⟩
  | cons first rest ih =>
      obtain ⟨found, hfound⟩ := h first List.mem_cons_self
      rw [anyFound, hfound]
      cases found with
      | true => exact ⟨true, rfl⟩
      | false => exact ih fun pattern hmem => h pattern (List.mem_cons_of_mem first hmem)

theorem exists_isUnexpected
    (h : ∀ pattern ∈ patterns, ∃ found, Site.isFound pattern.1 name = .ok found) :
    ∃ keep, isUnexpected (.map declared) (patterns.map (·.1)) name = .ok keep := by
  rw [isUnexpected, Site.holds]
  cases (Node.lookupKey name declared).isSome with
  | true => exact ⟨false, rfl⟩
  | false =>
      have hany : ∃ found, anyFound name (patterns.map (·.1)) = .ok found := by
        refine exists_anyFound fun pattern hmem => ?_
        obtain ⟨entry, hentry, rfl⟩ := List.mem_map.mp hmem
        exact h entry hentry
      obtain ⟨found, hfound⟩ := hany
      exact ⟨!found, by rw [hfound]⟩

/-- Nodes that are strings are the strings of a list of texts. -/
theorem exists_eq_map_str {xs : List Node} (h : ∀ x ∈ xs, ∃ s, x = .str s) :
    ∃ names : List String, xs = names.map .str := by
  induction xs with
  | nil => exact ⟨[], rfl⟩
  | cons x xs ih =>
      obtain ⟨s, rfl⟩ := h x List.mem_cons_self
      obtain ⟨names, rfl⟩ := ih fun y hmem => h y (List.mem_cons_of_mem _ hmem)
      exact ⟨s :: names, rfl⟩

/-- The unexpected names of an object can be found, and are among its names. -/
theorem IsSearchable.exists_among (hsearchable : IsSearchable keywords entries) :
    ∃ kept, unexpectedNames (.map entries) (.map keywords) = .ok kept ∧
      ∀ name ∈ kept, name ∈ entries.map (·.1) := by
  have hkept : ∃ kept, Site.filterNames (isUnexpected (.map (entriesOf "properties" keywords))
      ((entriesOf "patternProperties" keywords).map (·.1))) (entries.map (·.1)) = .ok kept := by
    refine Site.exists_filterNames fun name hmem => ?_
    obtain ⟨entry, hentry, rfl⟩ := List.mem_map.mp hmem
    exact exists_isUnexpected fun pattern hpattern => hsearchable.exists_isFound hpattern hentry
  obtain ⟨kept, hkept⟩ := hkept
  refine ⟨kept, ?_, fun name hmem => Site.mem_of_mem_filterNames hkept hmem⟩
  rw [unexpectedNames, hsearchable.keywordOr_patterns, hsearchable.keywordOr_properties]
  exact hkept

/-- The unexpected names of a plain object are strings and can be found. -/
theorem exists_unexpectedNames (hplain : (Node.map entries).IsPlain)
    (hsearchable : IsSearchable keywords entries) :
    ∃ names : List String,
      unexpectedNames (.map entries) (.map keywords) = .ok (names.map .str) := by
  obtain ⟨kept, hkept, hamong⟩ := hsearchable.exists_among
  have hstrings : ∀ x ∈ kept, ∃ s, x = .str s := by
    intro x hmem
    obtain ⟨entry, hentry, rfl⟩ := List.mem_map.mp (hamong x hmem)
    exact (hplain.entry hentry).1
  obtain ⟨names, rfl⟩ := exists_eq_map_str hstrings
  exact ⟨names, hkept⟩

/-! ## Raw errors -/

/-- The raw errors of a violation whose names are found again. -/
theorem Violation.rawErrors_eq_of_unexpectedNames {v : Violation} {found : List String}
    (hkeyword : v.keyword = "additionalProperties") (hschema : v.schema = .map keywords)
    (hplace : Node.anyLongInteger (v.path ++ v.schemaPath) = false)
    (hfound : unexpectedNames v.subject v.schema = .ok (found.map .str)) :
    v.rawErrors =
      .ok (if found = [] then [v.rawError v.message []] else found.map v.additional) := by
  rw [hschema] at hfound
  simp only [rawErrors, hplace, hkeyword, hschema, hfound]
  cases found with
  | nil => rfl
  | cons first rest =>
      rw [if_neg (List.cons_ne_nil first rest)]
      change Except.ok (((first :: rest).map Node.str).map fun name =>
        v.rawError "must NOT have additional properties" [("additionalProperty", name)]) = _
      rw [List.map_map]
      rfl

end ApiLint.Schema
