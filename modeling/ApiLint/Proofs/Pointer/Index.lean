import ApiLint.Pointer.Reading
import ApiLint.Pointer.Resolve
import ApiLint.Proofs.Number.Numeral

/-!
# Laws of indices

A segment is taken for an index exactly when it names one, and then the item is found unless the
numeral has too many digits to be read.

Main results:

- Theorem `indexDigits?_eq_some_iff`: the digits found in a segment are the canonical numerals.
- Theorem `item?_cases`: what comes of looking for the item that a segment names.
-/

namespace ApiLint.Pointer

open Text

/-! ## The digits of an index -/

/-- The digits of a canonical numeral are found in it, also before a line feed. -/
theorem indexDigits?_toDigits (i : Nat) {rest : List Char} (hrest : rest = [] ∨ rest = ['\n']) :
    indexDigits? (Nat.toDigits 10 i ++ rest) = some (Nat.toDigits 10 i) := by
  have hdigits : ∀ c ∈ Nat.toDigits 10 i, isAsciiDigit c = true :=
    fun c hc => isAsciiDigit_of_mem_toDigits hc
  have htake : rest.takeWhile isAsciiDigit = [] := by
    rcases hrest with rfl | rfl <;> rfl
  have hdrop : rest.dropWhile isAsciiDigit = rest := by
    rcases hrest with rfl | rfl <;> rfl
  unfold indexDigits?
  rw [List.takeWhile_append_of_pos hdigits, List.dropWhile_append_of_pos hdigits, htake, hdrop,
    List.append_nil]
  simp only [if_pos hrest]
  by_cases hzero : i = 0
  · subst hzero
    rfl
  · obtain ⟨c, cs, heq, hne⟩ := toDigits_eq_cons_of_pos (Nat.pos_of_ne_zero hzero)
    rw [heq]
    split
    · contradiction
    · rename_i hcons
      exact absurd (List.cons.inj hcons).1 hne
    · rename_i hcons
      exact absurd (List.cons.inj hcons).1 hne
    · rfl

/-- The digits found in a segment are the canonical numerals, which end it but for one line feed. -/
theorem indexDigits?_eq_some_iff {key digits : List Char} :
    indexDigits? key = some digits ↔
      ∃ i, digits = Nat.toDigits 10 i ∧ (key = digits ∨ key = digits ++ ['\n']) := by
  constructor
  · intro h
    have hsplit : key.takeWhile isAsciiDigit ++ key.dropWhile isAsciiDigit = key :=
      List.takeWhile_append_dropWhile
    have hall : ∀ c ∈ key.takeWhile isAsciiDigit, isAsciiDigit c = true :=
      fun c hc => List.all_eq_true.mp List.all_takeWhile c hc
    unfold indexDigits? at h
    generalize key.takeWhile isAsciiDigit = front at h hsplit hall
    generalize key.dropWhile isAsciiDigit = rest at h hsplit
    by_cases hrest : rest = [] ∨ rest = ['\n']
    · have hkey : key = front ∨ key = front ++ ['\n'] := by
        rcases hrest with rfl | rfl
        · exact .inl (by rw [← hsplit, List.append_nil])
        · exact .inr hsplit.symm
      simp only [if_pos hrest] at h
      split at h
      · cases h
      · cases h
        exact ⟨0, (Nat.toDigits_zero 10).symm, hkey⟩
      · cases h
      · rename_i hnil hzero hleading
        cases h
        cases digits with
        | nil => exact absurd rfl hnil
        | cons c cs =>
            have hne : c ≠ '0' := by
              rintro rfl
              exact hleading cs rfl
            exact ⟨numeral (c :: cs), (toDigits_numeral hne hall).symm, hkey⟩
    · simp only [if_neg hrest] at h
      cases h
  · rintro ⟨i, rfl, hkey⟩
    rcases hkey with rfl | rfl
    · simpa using indexDigits?_toDigits i (.inl rfl)
    · exact indexDigits?_toDigits i (.inr rfl)

/-- A text that names an index names no other one. -/
theorem IsIndex.unique {text : String} {i j : Nat} (hi : IsIndex text i) (hj : IsIndex text j) :
    i = j := by
  have hfound : ∀ {k}, IsIndex text k → indexDigits? text.toList = some (Nat.toDigits 10 k) :=
    fun hk => indexDigits?_eq_some_iff.mpr ⟨_, rfl, hk⟩
  exact toDigits_injective (Option.some.inj ((hfound hi).symm.trans (hfound hj)))

/-! ## The item that a segment names -/

variable {items : List Node} {key : String} {i : Nat}

/-- An index that can be read names the item at it. -/
theorem item?_of_isIndex (h : IsIndex key i) (hi : i < leastLong) :
    item? items key = .ok items[i]? := by
  have hdigits : indexDigits? key.toList = some (Nat.toDigits 10 i) :=
    indexDigits?_eq_some_iff.mpr ⟨i, rfl, h⟩
  have hshort : ¬ digitLimit < (Nat.toDigits 10 i).length := by
    rw [digitLimit_lt_length_toDigits_iff]
    omega
  simp only [item?, hdigits, numeralWithin, if_neg hshort, numeral_toDigits]

/-- An index with too many digits is refused with their number. -/
theorem item?_of_long (h : IsIndex key i) (hi : leastLong ≤ i) :
    item? items key = .error (.toRead (Nat.toDigits 10 i).length) := by
  have hdigits : indexDigits? key.toList = some (Nat.toDigits 10 i) :=
    indexDigits?_eq_some_iff.mpr ⟨i, rfl, h⟩
  simp only [item?, hdigits, numeralWithin, if_pos (digitLimit_lt_length_toDigits_iff.mpr hi)]

/-- Any other text names nothing in a sequence. -/
theorem item?_of_not_isIndex (h : ∀ i, ¬ IsIndex key i) : item? items key = .ok none := by
  have hnone : indexDigits? key.toList = none := by
    rw [Option.eq_none_iff_forall_ne_some]
    intro digits hdigits
    obtain ⟨i, rfl, hkey⟩ := indexDigits?_eq_some_iff.mp hdigits
    exact h i hkey
  simp only [item?, hnone]

/-- All that can come of looking for the item that a segment names. -/
theorem item?_cases (items : List Node) (key : String) :
    (∃ i, IsIndex key i ∧ i < leastLong ∧ item? items key = .ok items[i]?) ∨
      (∃ i, IsIndex key i ∧ leastLong ≤ i ∧
        item? items key = .error (.toRead (Nat.toDigits 10 i).length)) ∨
      item? items key = .ok none := by
  by_cases hindex : ∃ i, IsIndex key i
  · obtain ⟨i, hi⟩ := hindex
    rcases Nat.lt_or_ge i leastLong with hshort | hlong
    · exact .inl ⟨i, hi, hshort, item?_of_isIndex hi hshort⟩
    · exact .inr (.inl ⟨i, hi, hlong, item?_of_long hi hlong⟩)
  · exact .inr (.inr (item?_of_not_isIndex (not_exists.mp hindex)))

end ApiLint.Pointer
