import ApiLint.Proofs.Schema.Outcome
import ApiLint.Schema.Keyword

/-!
# Keywords that look at one value only

Most keywords report violations of their own and descend into no subschema, so all that they ensure
is what holds of such a report.

Main results:

- Theorem `ensures_enum`: an enumeration is reported only with values that can be written.
- Theorems `ensures_type`, `ensures_bound` and the others: what holds of all reports holds of the
  keyword.
-/

namespace ApiLint.Schema.Site

open Outcome

variable {P : Violation → Prop} {site : Site}

/-! ## Values -/

/-- The values of an enumeration are shown with a violation, so all of them can be written. -/
theorem ensures_enum
    (hreport : site.value.hasLongInteger = false → ∀ message, (site.report message).Ensures P) :
    site.enum.Ensures P := by
  rw [enum]
  cases site.value.elements? with
  | none => exact ensures_fail _
  | some allowed =>
      refine ensures_ite (fun _ => ensures_showing fun hvalue _ => ?_) fun _ => ensures_valid
      exact ensures_reportSubject (hreport hvalue) _

variable (hreport : ∀ message, (site.report message).Ensures P)

include hreport

theorem ensures_const : site.const.Ensures P :=
  ensures_ite (fun _ => ensures_valid) fun _ => ensures_showing fun _ _ => hreport _

theorem ensures_type : site.type.Ensures P := by
  rw [type]
  split
  · exact ensures_fail _
  · refine ensures_ofExcept fun found _ => ensures_ite (fun _ => ensures_valid) fun _ => ?_
    exact ensures_showingAll fun _ => ensures_reportSubject hreport _

/-! ## Numbers and sizes -/

theorem ensures_bound (fails : Quantity → Quantity → Bool) (relation : String) :
    (site.bound fails relation).Ensures P := by
  rw [bound]
  cases number? site.subject with
  | none => exact ensures_valid
  | some x =>
      cases site.value.quantity? with
      | none => exact ensures_fail _
      | some limit => exact ensures_reportShowing hreport _ _ _

theorem ensures_multipleOf : site.multipleOf.Ensures P := by
  rw [multipleOf]
  cases number? site.subject with
  | none => exact ensures_valid
  | some x => exact ensures_ofExcept fun _ _ => ensures_reportShowing hreport _ _ _

theorem ensures_sizeBound (size? : Node → Option Nat) (fails : Quantity → Quantity → Bool)
    (special : Rat) (specialWording wording : String) :
    (site.sizeBound size? fails special specialWording wording).Ensures P := by
  rw [sizeBound]
  cases size? site.subject with
  | none => exact ensures_valid
  | some n =>
      cases site.value.quantity? with
      | none => exact ensures_fail _
      | some limit => exact ensures_reportIf hreport _ _

theorem ensures_uniqueItems : site.uniqueItems.Ensures P := by
  rw [uniqueItems]
  cases site.subject with
  | list items => exact ensures_reportIf hreport _ _
  | _ => exact ensures_valid

/-! ## Texts -/

theorem ensures_pattern : site.pattern.Ensures P := by
  rw [pattern]
  cases site.subject with
  | str s => exact ensures_ofExcept fun _ _ => ensures_reportShowing hreport _ _ _
  | _ => exact ensures_valid

theorem ensures_format : site.format.Ensures P := by
  rw [format]
  split
  · split
    · exact ensures_valid
    · exact ensures_ite (fun _ => ensures_fail _) fun _ => ensures_reportSubject hreport _
    · exact ensures_fail _
  · exact ensures_valid

/-! ## Combinations -/

theorem ensures_anyOf : site.anyOf.Ensures P := by
  rw [anyOf]
  cases site.value.elements? with
  | none => exact ensures_fail _
  | some schemas => exact ensures_ofExcept fun _ _ => ensures_reportIf hreport _ _

theorem ensures_oneOf : site.oneOf.Ensures P := by
  rw [oneOf]
  cases site.value.elements? with
  | none => exact ensures_fail _
  | some schemas =>
      refine ensures_ofExcept fun found _ => ?_
      cases found with
      | none => exact ensures_reportSubject hreport _
      | some satisfied =>
          refine ensures_ofExcept fun more _ => ensures_ite (fun _ => ensures_valid) fun _ => ?_
          exact ensures_showingAll fun _ => ensures_reportSubject hreport _

theorem ensures_not : site.not.Ensures P :=
  ensures_ofExcept fun _ _ => ensures_reportShowing hreport _ _ _

/-! ## Items -/

theorem ensures_reportExtraItems (start : Nat) (items : List Node) :
    (site.reportExtraItems start items).Ensures P :=
  ensures_showing fun _ _ => hreport _

theorem ensures_unevaluatedItems : site.unevaluatedItems.Ensures P := by
  rw [unevaluatedItems]
  cases site.subject with
  | list items =>
      refine ensures_ofExcept fun _ _ => ensures_ite (fun _ => ensures_valid) fun _ => ?_
      exact ensures_reportTooMuch hreport _ _ _
  | _ => exact ensures_valid

/--
How many items satisfy a subschema is reported under the keyword or under one of the two counts.
-/
theorem ensures_contains
    (hcount : ∀ keyword value message, keyword = "maxContains" ∨ keyword = "minContains" →
      (site.reportAs keyword value message).Ensures P) : site.contains.Ensures P := by
  rw [contains]
  split
  · refine ensures_ofExcept fun count _ => ensures_ite (fun _ => ?_) fun _ => ?_
    · exact ensures_showing fun _ _ => hcount _ _ _ (.inl rfl)
    · refine ensures_ofExcept fun isTooFew _ => ensures_ite (fun _ => ensures_valid) fun _ => ?_
      refine ensures_ite (fun _ => ensures_reportSubject hreport _) fun _ => ?_
      exact ensures_showing fun _ _ => hcount _ _ _ (.inr rfl)
  · refine ensures_ofExcept fun found _ => ensures_ite (fun _ => ensures_valid) fun _ => ?_
    exact ensures_showing fun _ _ => hreport _
  · exact ensures_valid

/-! ## Entries -/

omit hreport in
theorem ensures_unlessThere {name : Node} {entries : List (Node × Node)} {outcome : Outcome}
    (h : outcome.Ensures P) : (unlessThere name entries outcome).Ensures P :=
  ensures_ite (fun _ => ensures_fail _) fun _ => ensures_ite (fun _ => ensures_valid) fun _ => h

theorem ensures_required : site.required.Ensures P := by
  rw [required]
  cases site.subject with
  | map entries =>
      refine ensures_forElements fun _ _ name _ => ensures_unlessThere ?_
      exact ensures_showing fun _ _ => hreport _
  | _ => exact ensures_valid

theorem ensures_needed (entries : List (Node × Node)) (name needs : Node) :
    (site.needed entries name needs).Ensures P := by
  refine ensures_forElements fun _ _ other _ => ensures_unlessThere ?_
  exact ensures_showing fun _ _ => ensures_showing fun _ _ => hreport _

theorem ensures_reportAdditional (extras : List Node) :
    (site.reportAdditional extras).Ensures P := by
  rw [reportAdditional]
  cases site.sibling? "patternProperties" with
  | none => exact ensures_reportTooMuch hreport _ _ _
  | some patterns =>
      dsimp only
      split
      · exact ensures_showingAll fun _ => ensures_showingAll fun _ => hreport _
      · exact ensures_fail _

theorem ensures_unevaluatedProperties : site.unevaluatedProperties.Ensures P := by
  rw [unevaluatedProperties]
  cases site.subject with
  | map entries =>
      refine ensures_ofExcept fun extras _ => ensures_ite (fun _ => ensures_valid) fun _ => ?_
      split
      · exact ensures_reportTooMuch hreport _ _ _
      · exact ensures_reportTooMuch hreport _ _ _
  | _ => exact ensures_valid

end ApiLint.Schema.Site
