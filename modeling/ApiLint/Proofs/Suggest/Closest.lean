import ApiLint.Proofs.Suggest.Ranking

/-!
# The first closest candidate

Ranking is stable, so the candidate that stands first is the earliest one among the closest.  It is
suggested if it is the only allowed value or closer to the value found than to the empty text; then it
has a character in common with the value, which is less than twice as long.

Main results:

- Theorem `exists_split_of_rank_eq_cons`: the first candidate is the earliest closest one.
- Theorem `IsFirstClosest.eq`: there is only one such string.
- Theorem `bestMatch?_eq_some_iff`: what is suggested.
- Theorem `bestMatch?_isFirstClosest`: that, and what it says about the value.
-/

namespace ApiLint.Candidate

/-- Is a string the earliest one among the allowed strings that are closest to a value? -/
def IsFirstClosest (value : String) (allowed : List Node) (s : String) : Prop :=
  ∃ before after : List Node, allowed = before ++ .str s :: after ∧
    (∀ other, .str other ∈ before → editDistance value s < editDistance value other) ∧
    ∀ other, .str other ∈ after → editDistance value s ≤ editDistance value other

variable {value s : String} {allowed : List Node}

/-! ## The head of a ranking -/

/-- The head of sorted candidates is the earliest one of the closest. -/
theorem exists_split_of_mergeSort_eq_cons {scored others : List Candidate} {best : Candidate}
    (h : scored.mergeSort precedes = best :: others) :
    ∃ before after : List Candidate, scored = before ++ best :: after ∧
      (∀ c ∈ before, best.weight < c.weight) ∧ ∀ c ∈ after, best.weight ≤ c.weight := by
  induction scored generalizing best others with
  | nil =>
      rw [List.mergeSort_nil] at h
      cases h
  | cons c scored ih =>
      obtain ⟨closer, farther, hall, hrest, hcloser⟩ :=
        List.mergeSort_cons precedes_trans precedes_total c scored
      cases closer with
      | nil =>
          -- Nothing later is closer, so this candidate stays in front of all of them.
          rw [hall, List.nil_append] at h
          obtain ⟨rfl, rfl⟩ := List.cons.inj h
          have hleast : ∀ d ∈ scored, c.weight ≤ d.weight := by
            intro d hmem
            exact weight_le_of_mergeSort_eq_cons hall (List.mem_cons_of_mem c hmem)
          exact ⟨[], scored, rfl, by simp, hleast⟩
      | cons d closer =>
          -- The head is the one of the later candidates, and it is closer than this one.
          rw [hall, List.cons_append] at h
          obtain ⟨rfl, rfl⟩ := List.cons.inj h
          obtain ⟨before, after, rfl, hbefore, hafter⟩ := ih hrest
          have hfirst : d.weight < c.weight := by
            have hnot : (!precedes c d) = true := hcloser d List.mem_cons_self
            simpa using hnot
          refine ⟨c :: before, after, rfl, ?_, hafter⟩
          intro e hmem
          rcases List.mem_cons.mp hmem with rfl | hmem
          · exact hfirst
          · exact hbefore e hmem

/-- An allowed string is scored by its distance. -/
theorem mem_score_of_mem (hmem : .str s ∈ allowed) :
    (⟨s, editDistance value s⟩ : Candidate) ∈ score value allowed :=
  List.mem_filterMap.mpr ⟨.str s, hmem, rfl⟩

/-- The first candidate is the earliest one of the closest allowed strings. -/
theorem isFirstClosest_of_rank_eq_cons {best : Candidate} {others : List Candidate}
    (h : rank value allowed = best :: others) :
    best.weight = editDistance value best.value ∧ IsFirstClosest value allowed best.value := by
  obtain ⟨scoredBefore, scoredAfter, hscore, hbefore, hafter⟩ := exists_split_of_mergeSort_eq_cons h
  obtain ⟨before, rest, rfl, rfl, hrest⟩ := List.filterMap_eq_append_iff.mp hscore
  obtain ⟨skipped, x, after, rfl, hskipped, hx, rfl⟩ := List.filterMap_eq_cons_iff.mp hrest
  cases x with
  | str s =>
      cases hx
      refine ⟨rfl, before ++ skipped, after, by rw [List.append_assoc], ?_, ?_⟩
      · intro other hmem
        rcases List.mem_append.mp hmem with hmem | hmem
        · exact hbefore _ (mem_score_of_mem hmem)
        · cases hskipped _ hmem
      · intro other hmem
        exact hafter _ (mem_score_of_mem hmem)
  | _ => cases hx

/-- There is at most one earliest string among the closest. -/
theorem IsFirstClosest.eq {s' : String} (h : IsFirstClosest value allowed s)
    (h' : IsFirstClosest value allowed s') : s = s' := by
  obtain ⟨before, after, rfl, hbefore, hafter⟩ := h
  obtain ⟨before', after', heq, hbefore', hafter'⟩ := h'
  -- If one of them stands before the other, it is both closer and not closer.
  rcases List.append_eq_append_iff.mp heq with ⟨between, rfl, hrest⟩ | ⟨between, rfl, hrest⟩
  · cases between with
    | nil => exact Node.str.inj (List.cons.inj hrest).1
    | cons x between =>
        obtain ⟨rfl, rfl⟩ := List.cons.inj hrest
        have hcloser : editDistance value s' < editDistance value s := hbefore' s (by simp)
        have hnot : editDistance value s ≤ editDistance value s' := hafter s' (by simp)
        omega
  · cases between with
    | nil => exact (Node.str.inj (List.cons.inj hrest).1).symm
    | cons x between =>
        obtain ⟨rfl, rfl⟩ := List.cons.inj hrest
        have hcloser : editDistance value s < editDistance value s' := hbefore s' (by simp)
        have hnot : editDistance value s' ≤ editDistance value s := hafter' s (by simp)
        omega

/-! ## Suggestions -/

/-- What is suggested is the earliest one of the closest strings, if it is close enough. -/
theorem bestMatch?_eq_some_iff :
    bestMatch? value allowed = some s ↔
      IsFirstClosest value allowed s ∧ (allowed.length = 1 ∨ editDistance value s < s.length) := by
  cases hrank : rank value allowed with
  | nil =>
      have hnone : ¬IsFirstClosest value allowed s := by
        rintro ⟨before, after, rfl, -⟩
        have hmem : (⟨s, editDistance value s⟩ : Candidate) ∈ rank value (before ++ .str s :: after) :=
          mem_rank_iff.mpr ⟨s, by simp, rfl⟩
        rw [hrank] at hmem
        cases hmem
      simp only [bestMatch?, hrank, hnone, false_and, reduceCtorEq]
  | cons best others =>
      obtain ⟨hweight, hfirst⟩ := isFirstClosest_of_rank_eq_cons hrank
      simp only [bestMatch?, hrank, hweight, Option.ite_none_right_eq_some, Option.some.injEq]
      constructor
      · rintro ⟨hclose, rfl⟩
        exact ⟨hfirst, hclose⟩
      · rintro ⟨hs, hclose⟩
        obtain rfl : best.value = s := hfirst.eq hs
        exact ⟨hclose, rfl⟩

/-- A string that is closer to a value than to the empty text has a character in common with it. -/
theorem exists_common_of_editDistance_lt (h : editDistance value s < s.length) :
    ∃ c, c ∈ value.toList ∧ c ∈ s.toList := by
  by_contra hnone
  have hdisjoint : value.toList.Disjoint s.toList := by
    intro c hvalue hs
    exact hnone ⟨c, hvalue, hs⟩
  have hfar : s.length ≤ editDistance value s := length_le_editDistance_of_disjoint hdisjoint
  omega

/-- A value is less than twice as long as a string that is closer to it than to the empty text. -/
theorem length_lt_of_editDistance_lt (h : editDistance value s < s.length) :
    value.length < 2 * s.length := by
  have hfar : value.length ≤ editDistance value s + s.length := length_le_editDistance_add_length value s
  omega

/-- The first closest string is suggested, and of several allowed values never a total rewrite. -/
theorem bestMatch?_isFirstClosest (value : String) (allowed : List Node) :
    (∀ s, bestMatch? value allowed = some s ↔
      IsFirstClosest value allowed s ∧ (allowed.length = 1 ∨ editDistance value s < s.length)) ∧
    ∀ s, 2 ≤ allowed.length → bestMatch? value allowed = some s →
      (∃ c, c ∈ value.toList ∧ c ∈ s.toList) ∧ value.length < 2 * s.length := by
  refine ⟨fun s => bestMatch?_eq_some_iff, ?_⟩
  intro s hseveral hbest
  have hclose : editDistance value s < s.length := by
    rcases (bestMatch?_eq_some_iff.mp hbest).2 with hone | hclose
    · omega
    · exact hclose
  exact ⟨exists_common_of_editDistance_lt hclose, length_lt_of_editDistance_lt hclose⟩

/-- Of two strings that are equally close the earlier one is suggested, after a value that is none. -/
theorem bestMatch?_isFirstClosest_tie :
    bestMatch? "heade" [.null, .str "header", .str "headed"] = some "header" ∧
      (∃ c, c ∈ "heade".toList ∧ c ∈ "header".toList) ∧ "heade".length < 2 * "header".length := by
  obtain ⟨hiff, hclose⟩ := bestMatch?_isFirstClosest "heade" [.null, .str "header", .str "headed"]
  have hfirst : IsFirstClosest "heade" [.null, .str "header", .str "headed"] "header" := by
    refine ⟨[.null], [.str "headed"], rfl, by simp, ?_⟩
    intro other hmem
    obtain rfl : other = "headed" := by simpa using hmem
    decide
  have hbest := (hiff "header").mpr ⟨hfirst, .inr (by decide)⟩
  exact ⟨hbest, hclose "header" (by decide) hbest⟩

end ApiLint.Candidate
