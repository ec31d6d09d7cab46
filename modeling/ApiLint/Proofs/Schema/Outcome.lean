import ApiLint.Schema.Site

/-!
# What outcomes ensure

A property of violations is carried through the ways in which outcomes are put together.  Nothing is
said of an outcome with a fault, since its violations are never reported.

Main results:

- Theorem `ensures_forEach`: outcomes one after the other ensure what each of them ensures.
- Theorem `fault_of_mem_forEach`: when all violations are wanted, an outcome without a fault is one
  of outcomes without faults.
-/

namespace ApiLint.Schema

namespace Outcome

/-- Without a fault, all violations have a property. -/
def Ensures (P : Violation → Prop) (o : Outcome) : Prop :=
  o.fault = none → ∀ v ∈ o.violations, P v

variable {P Q : Violation → Prop} {α : Type}

/-! ## Single outcomes -/

theorem ensures_valid : valid.Ensures P := by
  intro _ v hmem
  cases hmem

theorem ensures_fail (fault : Fault) : (fail fault).Ensures P := by
  intro hfault
  cases hfault

theorem ensures_one {v : Violation} (h : P v) : (one v).Ensures P := by
  intro _ w hmem
  rw [List.mem_singleton.mp hmem]
  exact h

theorem Ensures.mono {o : Outcome} (h : o.Ensures P) (himp : ∀ v, P v → Q v) : o.Ensures Q :=
  fun hfault v hmem => himp v (h hfault v hmem)

theorem Ensures.and {o : Outcome} (hleft : o.Ensures P) (hright : o.Ensures Q) :
    o.Ensures fun v => P v ∧ Q v :=
  fun hfault v hmem => ⟨hleft hfault v hmem, hright hfault v hmem⟩

/-- Violations are given out only without a fault, so all of them have the property. -/
theorem Ensures.of_all {o : Outcome} (h : o.Ensures P) {vs : List Violation} (hall : o.all = .ok vs)
    {v : Violation} (hmem : v ∈ vs) : P v := by
  rw [all] at hall
  split at hall
  · cases hall
  · rename_i hfault
    cases hall
    exact h hfault v hmem

theorem ensures_map {o : Outcome} {f : Violation → Violation} (h : o.Ensures fun v => P (f v)) :
    (o.map f).Ensures P := by
  intro hfault v hmem
  obtain ⟨w, hw, rfl⟩ := List.mem_map.mp hmem
  exact h hfault w hw

theorem ensures_ofExcept {f : α → Outcome} {result : Except Fault α}
    (h : ∀ a, result = .ok a → (f a).Ensures P) : (ofExcept f result).Ensures P := by
  cases result with
  | error fault => exact ensures_fail fault
  | ok a => exact h a rfl

theorem ensures_ite {condition : Prop} [Decidable condition] {first second : Outcome}
    (hfirst : condition → first.Ensures P) (hsecond : ¬ condition → second.Ensures P) :
    (if condition then first else second).Ensures P := by
  by_cases h : condition
  · rw [if_pos h]
    exact hfirst h
  · rw [if_neg h]
    exact hsecond h

/-! ## Outcomes one after the other -/

variable {f : α → Outcome} {x : α} {xs : List α} {untilFirst : Bool}

/-- The search goes on, or it has ended with the first outcome. -/
theorem forEach_cons (untilFirst : Bool) (f : α → Outcome) (x : α) (xs : List α) :
    forEach untilFirst f (x :: xs) =
      if (f x).isOver untilFirst then f x
      else
        ⟨(f x).violations ++ (forEach untilFirst f xs).violations,
          (forEach untilFirst f xs).fault⟩ :=
  rfl

/-- An outcome that does not end the search has no fault. -/
theorem fault_of_not_isOver {o : Outcome} (h : ¬ o.isOver untilFirst = true) : o.fault = none := by
  rw [isOver, Bool.or_eq_true, not_or] at h
  exact Option.not_isSome_iff_eq_none.mp h.1

/-- Outcomes one after the other ensure what each of them ensures. -/
theorem ensures_forEach (h : ∀ x ∈ xs, (f x).Ensures P) : (forEach untilFirst f xs).Ensures P := by
  induction xs with
  | nil => exact ensures_valid
  | cons x xs ih =>
      have hfirst : (f x).Ensures P := h x List.mem_cons_self
      have hrest : (forEach untilFirst f xs).Ensures P :=
        ih fun y hmem => h y (List.mem_cons_of_mem x hmem)
      rw [forEach_cons]
      refine ensures_ite (fun _ => hfirst) fun hgoes hfault v hmem => ?_
      rcases List.mem_append.mp hmem with hv | hv
      · exact hfirst (fault_of_not_isOver hgoes) v hv
      · exact hrest hfault v hv

/-- When all violations are wanted, only a fault ends the search. -/
theorem isOver_false {o : Outcome} : o.isOver false = o.fault.isSome :=
  Bool.or_false _

/-- When all violations are wanted, no fault at the end means no fault on the way. -/
theorem fault_of_mem_forEach (h : (forEach false f xs).fault = none) (hmem : x ∈ xs) :
    (f x).fault = none := by
  induction xs with
  | nil => cases hmem
  | cons y ys ih =>
      rw [forEach_cons, isOver_false] at h
      cases hfault : (f y).fault with
      | some fault =>
          rw [hfault, if_pos Option.isSome_some, hfault] at h
          cases h
      | none =>
          rw [hfault, if_neg (by decide)] at h
          rcases List.mem_cons.mp hmem with rfl | hrest
          · exact hfault
          · exact ih h hrest

end Outcome

namespace Site

variable {P : Violation → Prop} {site : Site} {α : Type}

/-! ## Showing values -/

/-- A value that is shown can be written. -/
theorem ensures_showing {x : Node} {use : String → Outcome}
    (h : x.hasLongInteger = false → ∀ text, (use text).Ensures P) : (showing x use).Ensures P := by
  rw [showing, Node.literal?]
  cases hlong : x.hasLongInteger with
  | true => exact Outcome.ensures_fail _
  | false => exact h hlong _

theorem ensures_showingAll {xs : List Node} {use : String → Outcome}
    (h : ∀ text, (use text).Ensures P) : (showingAll xs use).Ensures P :=
  Outcome.ensures_ite (fun _ => Outcome.ensures_fail _) fun _ => h _

variable (hreport : ∀ message, (site.report message).Ensures P)

include hreport

theorem ensures_reportSubject (message : String) : (site.reportSubject message).Ensures P :=
  ensures_showing fun _ _ => hreport _

theorem ensures_reportIf (fails : Bool) (message : String) :
    (site.reportIf fails message).Ensures P :=
  Outcome.ensures_ite (fun _ => ensures_reportSubject hreport message)
    fun _ => Outcome.ensures_valid

theorem ensures_reportShowing (fails : Bool) (message : String) (x : Node) :
    (site.reportShowing fails message x).Ensures P :=
  Outcome.ensures_ite (fun _ => ensures_showing fun _ _ => ensures_reportSubject hreport _)
    fun _ => Outcome.ensures_valid

theorem ensures_reportTooMuch (wording : String) (extras : List Node) (ending : String) :
    (site.reportTooMuch wording extras ending).Ensures P :=
  ensures_showingAll fun _ => hreport _

omit hreport

/-! ## Going through elements -/

theorem ensures_forElements {x : Node} {f : Node → Outcome}
    (h : ∀ xs, x.elements? = some xs → ∀ y ∈ xs, (f y).Ensures P) :
    (site.forElements x f).Ensures P := by
  rw [forElements]
  cases hxs : x.elements? with
  | none => exact Outcome.ensures_fail _
  | some xs => exact Outcome.ensures_forEach (h xs hxs)

theorem ensures_forEntries {x : Node} {f : Node × Node → Outcome}
    (h : ∀ entries, x = .map entries → ∀ entry ∈ entries, (f entry).Ensures P) :
    (site.forEntries x f).Ensures P := by
  cases x with
  | map entries => exact Outcome.ensures_forEach (h entries rfl)
  | _ => exact Outcome.ensures_fail _

end Site

end ApiLint.Schema
