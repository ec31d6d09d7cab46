import ApiLint.Proofs.Suggest.EditDistance
import ApiLint.Suggest.Ranking

/-!
# Laws of suggestions

A candidate is ranked by its distance from the value found, so a value that is itself allowed stands
first.

Main results:

- Theorem `bestMatch?_of_mem`: among several allowed values, one of them is its own best match.
- Theorem `bestMatch?_singleton`: the only allowed value is always suggested.
-/

namespace ApiLint.Candidate

variable {value : String} {allowed : List Node}

/-- The candidates are the allowed strings with their distances. -/
theorem mem_rank_iff {c : Candidate} :
    c ∈ rank value allowed ↔ ∃ s, .str s ∈ allowed ∧ c = ⟨s, editDistance value s⟩ := by
  rw [rank, List.mem_mergeSort, score, List.mem_filterMap]
  constructor
  · rintro ⟨x, hmem, hx⟩
    cases x with
    | str s =>
        cases hx
        exact ⟨s, hmem, rfl⟩
    | _ => cases hx
  · rintro ⟨s, hmem, rfl⟩
    exact ⟨.str s, hmem, rfl⟩

/-! ## The order of candidates -/

/-- Is a candidate at least as close as another one? -/
abbrev precedes (a b : Candidate) : Bool := a.weight ≤ b.weight

theorem precedes_trans (a b c : Candidate) (hab : precedes a b = true) (hbc : precedes b c = true) :
    precedes a c = true := by
  rw [decide_eq_true_iff] at hab hbc ⊢
  exact Nat.le_trans hab hbc

theorem precedes_total (a b : Candidate) : (precedes a b || precedes b a) = true := by
  rw [Bool.or_eq_true, decide_eq_true_iff, decide_eq_true_iff]
  exact Nat.le_total a.weight b.weight

/-- Nothing is closer than the head of sorted candidates. -/
theorem weight_le_of_mergeSort_eq_cons {scored others : List Candidate} {best c : Candidate}
    (h : scored.mergeSort precedes = best :: others) (hmem : c ∈ scored) : best.weight ≤ c.weight := by
  have hsorted : (scored.mergeSort precedes).Pairwise fun a b => precedes a b = true :=
    List.pairwise_mergeSort precedes_trans precedes_total scored
  have hmem' : c ∈ scored.mergeSort precedes := List.mem_mergeSort.mpr hmem
  rw [h] at hsorted hmem'
  rcases List.mem_cons.mp hmem' with rfl | hlater
  · exact Nat.le_refl _
  · exact of_decide_eq_true (List.rel_of_pairwise_cons hsorted hlater)

/-- Nothing is closer than the first candidate. -/
theorem weight_le_of_rank_eq_cons {best : Candidate} {others : List Candidate}
    (h : rank value allowed = best :: others) {c : Candidate} (hmem : c ∈ rank value allowed) :
    best.weight ≤ c.weight :=
  weight_le_of_mergeSort_eq_cons h (List.mem_mergeSort.mp hmem)

/-! ## Values that are allowed -/

/-- A value that is itself allowed is the first candidate. -/
theorem exists_rank_eq_cons (hmem : .str value ∈ allowed) :
    ∃ others, rank value allowed = ⟨value, 0⟩ :: others := by
  have hself : (⟨value, 0⟩ : Candidate) ∈ rank value allowed :=
    mem_rank_iff.mpr ⟨value, hmem, by rw [editDistance_eq_zero_iff.mpr rfl]⟩
  cases hrank : rank value allowed with
  | nil =>
      rw [hrank] at hself
      cases hself
  | cons best others =>
      have hzero : best.weight = 0 := Nat.le_zero.mp (weight_le_of_rank_eq_cons hrank hself)
      have hbest : best ∈ rank value allowed := hrank ▸ List.mem_cons_self
      obtain ⟨s, -, rfl⟩ := mem_rank_iff.mp hbest
      obtain rfl : value = s := editDistance_eq_zero_iff.mp hzero
      exact ⟨others, by rw [editDistance_eq_zero_iff.mpr rfl]⟩

/-- Among several allowed values, one of them is its own best match, unless it is empty. -/
theorem bestMatch?_of_mem (hmem : .str value ∈ allowed) (hseveral : allowed.length ≠ 1) :
    bestMatch? value allowed = if 0 < value.length then some value else none := by
  obtain ⟨others, hrank⟩ := exists_rank_eq_cons hmem
  simp only [bestMatch?, hrank, hseveral, false_or]

/-- The only allowed value is always suggested. -/
theorem bestMatch?_singleton (value s : String) : bestMatch? value [.str s] = some s := by
  have hrank : rank value [.str s] = [⟨s, editDistance value s⟩] := List.mergeSort_singleton _
  rw [bestMatch?, hrank]
  exact if_pos (.inl rfl)

end ApiLint.Candidate
