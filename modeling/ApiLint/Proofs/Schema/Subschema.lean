import ApiLint.Proofs.Schema.Report

/-!
# Keywords that descend

Some keywords check parts of the value, or the value itself, against subschemas.  Each ensures what
the descents that it makes ensure, and what its own reports ensure if it has any; which descents
these are is said here once.

Main results:

- Theorems `ensures_properties_of_descend`, `ensures_items_of_descend` and the others: which
  descents a keyword makes.
- Theorem `ensures_outcome_of_descends`: what holds of all reports and of the keywords that descend
  holds of every keyword.
-/

namespace ApiLint.Schema.Site

open Outcome

variable {P : Violation → Prop} {site : Site}

/-! ## Arrays -/

theorem ensures_itemsFrom_of_descend {start : Nat} {xs : List Node}
    (h : ∀ index x, (index, x) ∈ indexed start (xs.drop start) →
      (site.descend site.value x (some index) none).Ensures P) :
    (site.itemsFrom start xs).Ensures P :=
  ensures_forEach fun _ hmem => h _ _ hmem

theorem ensures_itemsByPosition_of_descend {xs : List Node}
    (h : ∀ schemas, site.value.elements? = some schemas →
      ∀ index x schema, ((index, x), schema) ∈ (indexed 0 xs).zip schemas →
        (site.descend schema x (some index) (some index)).Ensures P) :
    (site.itemsByPosition xs).Ensures P := by
  rw [itemsByPosition]
  cases hschemas : site.value.elements? with
  | none => exact ensures_fail _
  | some schemas => exact ensures_forEach fun _ hmem => h schemas hschemas _ _ _ hmem

section Items

variable (hreport : ∀ message, (site.report message).Ensures P)
  (hfrom : ∀ xs start, site.subject = .list xs → (site.itemsFrom start xs).Ensures P)
  (hposition : ∀ xs, site.subject = .list xs → (site.itemsByPosition xs).Ensures P)

include hposition in
theorem ensures_leadingItems_of_descend : site.leadingItems.Ensures P := by
  rw [leadingItems]
  split
  · exact hposition _ ‹_›
  · exact ensures_valid

include hreport hfrom hposition in
theorem ensures_items_of_descend : site.items.Ensures P := by
  rw [items]
  split
  · refine ensures_ofExcept fun start _ => ensures_ite (fun _ => ensures_valid) fun _ => ?_
    split
    · exact ensures_reportExtraItems hreport _ _
    · exact hfrom _ _ ‹_›
  · exact hposition _ ‹_›
  · exact hfrom _ _ ‹_›
  · exact hfrom _ _ ‹_›
  · exact hposition _ ‹_›
  · exact ensures_valid

include hreport hfrom in
theorem ensures_additionalItems_of_descend : site.additionalItems.Ensures P := by
  rw [additionalItems]
  split
  · exact ensures_valid
  · exact ensures_valid
  · refine ensures_ofExcept fun start _ => ?_
    split
    · exact hfrom _ start ‹_›
    · exact ensures_ite (fun _ => ensures_valid) fun _ => ensures_reportTooMuch hreport _ _ _
  · exact ensures_valid

end Items

/-! ## Objects -/

theorem ensures_properties_of_descend
    (h : ∀ entries declared, site.subject = .map entries → site.value = .map declared →
      ∀ name schema x, (name, schema) ∈ declared → Node.lookupKey name entries = some x →
        (site.descend schema x (some name) (some name)).Ensures P) :
    site.properties.Ensures P := by
  rw [properties]
  split
  · rename_i entries hsubject
    refine ensures_forEntries fun declared hvalue entry hmem => ?_
    dsimp only
    split
    · rename_i x hlookup
      exact h entries declared hsubject hvalue _ _ x hmem hlookup
    · exact ensures_valid
  · exact ensures_valid

theorem ensures_patternProperties_of_descend
    (h : ∀ entries patterns, site.subject = .map entries → site.value = .map patterns →
      ∀ pattern schema name x found, (pattern, schema) ∈ patterns → (name, x) ∈ entries →
        isFound pattern name = .ok found →
          (site.descend schema x (some name) (some pattern)).Ensures P) :
    site.patternProperties.Ensures P := by
  rw [patternProperties]
  split
  · rename_i entries hsubject
    refine ensures_forEntries fun patterns hvalue entry hmem => ensures_forEach fun item hitem => ?_
    refine ensures_ofExcept fun found hfound => ensures_ite (fun _ => ?_) fun _ => ensures_valid
    exact h entries patterns hsubject hvalue _ _ _ _ found hmem hitem hfound
  · exact ensures_valid

theorem ensures_propertyNames_of_descend
    (h : ∀ entries, site.subject = .map entries → ∀ name x, (name, x) ∈ entries →
      (site.descend site.value name none none).Ensures P) :
    site.propertyNames.Ensures P := by
  rw [propertyNames]
  split
  · rename_i entries hsubject
    exact ensures_forEach fun _ hmem => h entries hsubject _ _ hmem
  · exact ensures_valid

/-- Additional names are reported only if there are any. -/
theorem ensures_additionalProperties_of_descend
    (hreport : ∀ entries extras, site.subject = .map entries →
      site.additionalNames entries = .ok extras → extras ≠ [] →
        ∀ message, (site.report message).Ensures P)
    (h : ∀ entries extras, site.subject = .map entries →
      site.additionalNames entries = .ok extras → ∀ name ∈ extras,
        (site.descend site.value ((Node.lookupKey name entries).getD .null) (some name) none).Ensures P) :
    site.additionalProperties.Ensures P := by
  rw [additionalProperties]
  split
  · rename_i entries hsubject
    refine ensures_ofExcept fun extras hextras => ?_
    split
    · exact ensures_forEach fun name hmem => h entries extras hsubject hextras name hmem
    · refine ensures_ite (fun _ => ensures_valid) fun hfails => ?_
      have hne : extras ≠ [] := by
        rintro rfl
        exact hfails (Bool.or_true _)
      exact ensures_reportAdditional (hreport entries extras hsubject hextras hne) extras
  · exact ensures_valid

theorem ensures_dependencies_of_descend (hreport : ∀ message, (site.report message).Ensures P)
    (h : ∀ entries demands, site.subject = .map entries → site.value = .map demands →
      ∀ name demand x, (name, demand) ∈ demands → Node.lookupKey name entries = some x →
        (site.descend demand site.subject none (some name)).Ensures P) (asNames : Node → Bool) :
    (site.dependencies asNames).Ensures P := by
  rw [dependencies]
  split
  · rename_i entries hsubject
    refine ensures_forEntries fun demands hvalue entry hmem => ?_
    refine ensures_ite (fun _ => ensures_valid) fun hthere => ensures_ite (fun _ => ?_) fun _ => ?_
    · exact ensures_needed hreport _ _ _
    · rw [Option.isNone_iff_eq_none] at hthere
      obtain ⟨x, hlookup⟩ := Option.ne_none_iff_exists'.mp hthere
      exact h entries demands hsubject hvalue _ _ x hmem hlookup
  · exact ensures_valid

/-! ## Combinations -/

theorem ensures_allOf_of_descend
    (h : ∀ schemas, site.value.elements? = some schemas → ∀ index schema,
      (index, schema) ∈ indexed 0 schemas →
        (site.descend schema site.subject none (some index)).Ensures P) :
    site.allOf.Ensures P := by
  rw [allOf]
  split
  · exact ensures_fail _
  · rename_i schemas hschemas
    exact ensures_forEach fun _ hmem => h schemas hschemas _ _ hmem

theorem ensures_conditional_of_descend
    (h : ∀ branch schema, site.sibling? branch = some schema →
      (site.descend schema site.subject none (some (.str branch))).Ensures P) :
    site.conditional.Ensures P := by
  refine ensures_ofExcept fun satisfied _ => ?_
  dsimp only
  split
  · rename_i schema hsibling
    exact h _ schema hsibling
  · exact ensures_valid

theorem ensures_reference_of_descend
    (h : ∀ schema, follow site.root site.value = .ok schema →
      (site.descendFreely schema site.subject none none).Ensures P) :
    site.reference.Ensures P :=
  ensures_ofExcept h

/-! ## All keywords -/

/-- What the keywords that descend into subschemas report has a property. -/
structure Descends (site : Site) (P : Violation → Prop) : Prop where
  reference : site.reference.Ensures P
  additionalItems : site.additionalItems.Ensures P
  additionalProperties : site.additionalProperties.Ensures P
  allOf : site.allOf.Ensures P
  dependencies : ∀ asNames, (site.dependencies asNames).Ensures P
  items : site.items.Ensures P
  leadingItems : site.leadingItems.Ensures P
  patternProperties : site.patternProperties.Ensures P
  properties : site.properties.Ensures P
  propertyNames : site.propertyNames.Ensures P

/-- What holds of all reports and of the keywords that descend holds of every keyword. -/
theorem ensures_outcome_of_descends (hdescends : site.Descends P)
    (hreport : ∀ message, (site.report message).Ensures P)
    (hcount : ∀ keyword value message, keyword = "maxContains" ∨ keyword = "minContains" →
      (site.reportAs keyword value message).Ensures P)
    (henum : site.keyword = "enum" → site.enum.Ensures P)
    (hconditional : site.keyword = "if" → site.conditional.Ensures P) :
    site.outcome.Ensures P := by
  rw [outcome]
  split
  · exact hdescends.reference
  · exact hdescends.reference
  · exact hdescends.additionalItems
  · exact hdescends.additionalProperties
  · exact hdescends.allOf
  · exact ensures_anyOf hreport
  · exact ensures_const hreport
  · exact ensures_contains hreport hcount
  · exact hdescends.dependencies _
  · exact hdescends.dependencies _
  · exact hdescends.dependencies _
  · rename_i hkeyword
    exact henum hkeyword
  · exact ensures_bound hreport _ _
  · exact ensures_bound hreport _ _
  · exact ensures_format hreport
  · rename_i hkeyword
    exact hconditional hkeyword
  · exact hdescends.items
  · exact ensures_sizeBound hreport _ _ _ _ _
  · exact ensures_sizeBound hreport _ _ _ _ _
  · exact ensures_sizeBound hreport _ _ _ _ _
  · exact ensures_ite (fun _ => ensures_bound hreport _ _) fun _ => ensures_bound hreport _ _
  · exact ensures_sizeBound hreport _ _ _ _ _
  · exact ensures_sizeBound hreport _ _ _ _ _
  · exact ensures_sizeBound hreport _ _ _ _ _
  · exact ensures_ite (fun _ => ensures_bound hreport _ _) fun _ => ensures_bound hreport _ _
  · exact ensures_multipleOf hreport
  · exact ensures_not hreport
  · exact ensures_oneOf hreport
  · exact ensures_pattern hreport
  · exact hdescends.patternProperties
  · exact hdescends.leadingItems
  · exact hdescends.properties
  · exact hdescends.propertyNames
  · exact ensures_required hreport
  · exact ensures_type hreport
  · exact ensures_unevaluatedItems hreport
  · exact ensures_unevaluatedProperties hreport
  · exact ensures_uniqueItems hreport
  · exact ensures_valid

end ApiLint.Schema.Site
