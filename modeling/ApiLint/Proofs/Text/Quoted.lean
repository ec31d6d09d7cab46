import ApiLint.Text.Quoted
import Mathlib.Tactic.SplitIfs

/-!
# Laws of quoted texts

Between single quotes a character stands for itself, unless it is a single quote, a backslash or
unprintable; then an escape stands for it, which is longer.  So a text is shown as it is exactly when
it needs no escape, and whatever it holds, it is shown in a single line.

Main results:

- Theorem `exists_quotedChar`: what stands for a character that needs an escape.
- Theorem `shownChars_eq_self_iff`: when a text is shown as it is.
- Theorem `lineFeed_notMem_shownChars`: a shown text is a single line.
-/

namespace ApiLint.Text

/-- A character stands for itself between single quotes. -/
def IsPlain (c : Char) : Prop := c ≠ '\'' ∧ c ≠ '\\' ∧ isPrintable c = true
deriving Decidable

/-- What a text shows between single quotes. -/
def shownChars (cs : List Char) : List Char := cs.flatMap (quotedChar '\'')

variable {c : Char} {cs : List Char}

theorem quotedChar_of_isPlain (h : IsPlain c) : quotedChar '\'' c = [c] := by
  obtain ⟨hquote, hslash, hprintable⟩ := h
  have hcontrol : c ≠ '\n' ∧ c ≠ '\r' ∧ c ≠ '\t' := by
    refine ⟨?_, ?_, ?_⟩ <;> rintro rfl <;> exact absurd hprintable (by decide)
  simp [quotedChar, hquote, hslash, hcontrol, hprintable]

theorem lineFeed_notMem_hexadecimal (n width : Nat) : '\n' ∉ hexadecimal n width := by
  have hdigit : ∀ k < 16, Nat.digitChar k ≠ '\n' := by decide
  induction width generalizing n with
  | zero => exact List.not_mem_nil
  | succ width ih =>
      rw [hexadecimal, List.mem_append, not_or, List.mem_singleton]
      exact ⟨ih (n / 16), (hdigit _ (Nat.mod_lt n (by decide))).symm⟩

/-- Any other character is escaped, in the same line. -/
theorem exists_quotedChar (h : ¬ IsPlain c) :
    ∃ first rest, quotedChar '\'' c = '\\' :: first :: rest ∧ '\n' ∉ first :: rest := by
  have hletter : ∀ (letter : Char) (width : Nat), letter ≠ '\n' →
      '\n' ∉ letter :: hexadecimal c.toNat width := by
    intro letter width hne
    rw [List.mem_cons, not_or]
    exact ⟨hne.symm, lineFeed_notMem_hexadecimal c.toNat width⟩
  rw [quotedChar]
  split_ifs with hself hfeed hreturn htab hprintable hbyte hunit
  · refine ⟨c, [], rfl, fun hmem => ?_⟩
    obtain rfl := List.mem_singleton.mp hmem
    exact absurd hself (by decide)
  · exact ⟨'n', [], rfl, by decide⟩
  · exact ⟨'r', [], rfl, by decide⟩
  · exact ⟨'t', [], rfl, by decide⟩
  · refine absurd ⟨?_, ?_, hprintable⟩ h <;> rintro rfl <;> exact hself rfl
  · exact ⟨'x', _, rfl, hletter 'x' 2 (by decide)⟩
  · exact ⟨'u', _, rfl, hletter 'u' 4 (by decide)⟩
  · exact ⟨'U', _, rfl, hletter 'U' 8 (by decide)⟩

/-- What a text shows is a single line. -/
theorem lineFeed_notMem_shownChars (cs : List Char) : '\n' ∉ shownChars cs := by
  intro hmem
  obtain ⟨c, -, hc⟩ := List.mem_flatMap.mp hmem
  by_cases hplain : IsPlain c
  · rw [quotedChar_of_isPlain hplain] at hc
    obtain rfl := List.mem_singleton.mp hc
    exact absurd hplain.2.2 (by decide)
  · obtain ⟨first, rest, hquoted, hline⟩ := exists_quotedChar hplain
    rw [hquoted, List.mem_cons] at hc
    exact hc.elim (by decide) hline

/-- A text shows at least as many characters as it has. -/
theorem length_le_length_shownChars (cs : List Char) : cs.length ≤ (shownChars cs).length := by
  induction cs with
  | nil => exact Nat.le_refl 0
  | cons c cs ih =>
      have hpos : 1 ≤ (quotedChar '\'' c).length := by
        by_cases hplain : IsPlain c
        · simp [quotedChar_of_isPlain hplain]
        · obtain ⟨first, rest, hquoted, -⟩ := exists_quotedChar hplain
          simp [hquoted]
      have hshown : shownChars (c :: cs) = quotedChar '\'' c ++ shownChars cs := List.flatMap_cons
      rw [hshown, List.length_append, List.length_cons]
      omega

/-- A text shows itself exactly when all its characters stand for themselves. -/
theorem shownChars_eq_self_iff : shownChars cs = cs ↔ ∀ c ∈ cs, IsPlain c := by
  induction cs with
  | nil => simp [shownChars]
  | cons c cs ih =>
      have hshown : shownChars (c :: cs) = quotedChar '\'' c ++ shownChars cs := List.flatMap_cons
      rw [hshown, List.forall_mem_cons, ← ih]
      by_cases hplain : IsPlain c
      · rw [quotedChar_of_isPlain hplain, List.singleton_append, List.cons.injEq]
        simp [hplain]
      · -- An escape is longer than its character, and nothing behind it makes up for that.
        obtain ⟨first, rest, hquoted, -⟩ := exists_quotedChar hplain
        refine iff_of_false (fun heq => ?_) fun hboth => hplain hboth.1
        have hlength := congrArg List.length heq
        have hrest := length_le_length_shownChars cs
        rw [hquoted] at hlength
        simp only [List.length_append, List.length_cons] at hlength
        omega

/-- Other quotes than single ones are used only for a text that holds a single one. -/
theorem quoteFor_cases (cs : List Char) :
    quoteFor cs = '\'' ∨ (quoteFor cs = '"' ∧ '\'' ∈ cs) := by
  rw [quoteFor]
  split_ifs with hquotes
  · rw [Bool.and_eq_true] at hquotes
    exact .inr ⟨rfl, List.contains_iff_mem.mp hquotes.1⟩
  · exact .inl rfl

end ApiLint.Text
