import ApiLint.Proofs.Schema.Fit
import ApiLint.Proofs.Schema.Subschema

/-!
# What violations keep on their way up

A property that no move changes passes from the violations of subschemas to those of the schema that
holds them.  So whatever the value is, a property of all violations needs to be looked at only where
they are reported.

Main results:

- Theorem `Carries.descends`: every keyword that descends passes the property on.
- Theorem `Carries.ensures_outcome`: a keyword ensures what its own reports and its subschemas
  ensure.
-/

namespace ApiLint.Schema.Site

open Outcome

variable {P : Violation → Prop} {site : Site}

/-- The violations of subschemas have a property, and no move takes it from them. -/
structure Carries (site : Site) (P : Violation → Prop) : Prop where
  under : ∀ {v : Violation} (path schemaPath : Option Node), P v → P (v.under path schemaPath)
  check : ∀ schema x, (site.check schema x).Ensures P

namespace Carries

variable (hcarries : site.Carries P) (hreport : ∀ message, (site.report message).Ensures P)

include hcarries

/-! ## Subschemas -/

theorem descendFreely (schema x : Node) (path schemaPath : Option Node) :
    (site.descendFreely schema x path schemaPath).Ensures P := by
  refine ensures_descendFreely (fun b hb => ?_) ?_
  · exact hcarries.check schema x
  · exact (hcarries.check schema x).mono fun v h => hcarries.under path schemaPath h

theorem descend (schema x : Node) (path schemaPath : Option Node) :
    (site.descend schema x path schemaPath).Ensures P :=
  ensures_descend fun _ => hcarries.descendFreely schema x path schemaPath

/-! ## Keywords -/

theorem itemsFrom (start : Nat) (xs : List Node) : (site.itemsFrom start xs).Ensures P :=
  ensures_itemsFrom_of_descend fun index x _ => hcarries.descend _ x (some index) none

theorem itemsByPosition (xs : List Node) : (site.itemsByPosition xs).Ensures P :=
  ensures_itemsByPosition_of_descend fun _ _ index x schema _ =>
    hcarries.descend schema x (some index) (some index)

/-- Additional names are reported only if there are any. -/
theorem additionalProperties
    (hreport : ∀ entries extras, site.subject = .map entries →
      site.additionalNames entries = .ok extras → extras ≠ [] →
        ∀ message, (site.report message).Ensures P) : site.additionalProperties.Ensures P :=
  ensures_additionalProperties_of_descend hreport fun _ _ _ _ name _ =>
    hcarries.descend _ _ (some name) none

theorem conditional : site.conditional.Ensures P :=
  ensures_conditional_of_descend fun branch schema _ =>
    hcarries.descend schema _ none (some (.str branch))

include hreport in
/-- Every keyword that descends passes the property on. -/
theorem descends : site.Descends P where
  reference := ensures_reference_of_descend fun schema _ => hcarries.descendFreely schema _ _ _
  additionalItems := ensures_additionalItems_of_descend hreport fun _ _ _ => hcarries.itemsFrom _ _
  additionalProperties := hcarries.additionalProperties fun _ _ _ _ _ => hreport
  allOf := ensures_allOf_of_descend fun _ _ _ _ _ => hcarries.descend _ _ _ _
  dependencies := by
    apply ensures_dependencies_of_descend hreport
    intros
    exact hcarries.descend _ _ _ _
  items := ensures_items_of_descend hreport (fun _ _ _ => hcarries.itemsFrom _ _)
    fun _ _ => hcarries.itemsByPosition _
  leadingItems := ensures_leadingItems_of_descend fun _ _ => hcarries.itemsByPosition _
  patternProperties := by
    apply ensures_patternProperties_of_descend
    intros
    exact hcarries.descend _ _ _ _
  properties := by
    apply ensures_properties_of_descend
    intros
    exact hcarries.descend _ _ _ _
  propertyNames := ensures_propertyNames_of_descend fun _ _ _ _ _ => hcarries.descend _ _ _ _

/--
A keyword ensures what its reports ensure, where a report of `additionalProperties` may rely on
additional names.
-/
theorem ensures_outcome
    (hother : ∀ keyword value message, keyword ≠ "additionalProperties" →
      (site.reportAs keyword value message).Ensures P)
    (hextras : ∀ entries extras, site.subject = .map entries →
      site.additionalNames entries = .ok extras → extras ≠ [] →
        ∀ message, (site.report message).Ensures P) : site.outcome.Ensures P := by
  by_cases hkeyword : site.keyword = "additionalProperties"
  · simp only [outcome, hkeyword]
    exact hcarries.additionalProperties hextras
  · have hreport : ∀ message, (site.report message).Ensures P :=
      fun message => hother _ _ message hkeyword
    refine ensures_outcome_of_descends (hcarries.descends hreport) hreport ?_
      (fun _ => ensures_enum fun _ => hreport) fun _ => hcarries.conditional
    rintro keyword value message (rfl | rfl)
    · exact hother _ _ message (by decide)
    · exact hother _ _ message (by decide)

end Carries

end ApiLint.Schema.Site
