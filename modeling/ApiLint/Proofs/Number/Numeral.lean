import ApiLint.Number.Numeral
import Mathlib.Algebra.Order.Ring.Nat
import Mathlib.Tactic.Tauto

/-!
# Laws of decimal numerals

The canonical numeral of a natural number is `Nat.toDigits 10`: ASCII digits without a needless zero
in front.  Reading undoes writing, and writing undoes the reading of every canonical numeral.  Numerals
are compared as texts from their first digits on, which is the order of their numbers only among numerals
with equally many digits.

Main results:

- Theorem `numeral_toDigits`: a canonical numeral is read as its number.
- Theorem `toDigits_numeral`: digits that do not start with a zero are the canonical numeral of what
  they are read as.
- Theorem `toDigits_lt_toDigits_iff`: when the numeral of a smaller number comes first as a text.
-/

namespace ApiLint.Text

/-- An ASCII digit by its code point. -/
theorem isAsciiDigit_iff {c : Char} : isAsciiDigit c = true ↔ 48 ≤ c.toNat ∧ c.toNat ≤ 57 := by
  rw [isAsciiDigit, Bool.and_eq_true, decide_eq_true_iff, decide_eq_true_iff]
  exact Iff.rfl

/-- Canonical numerals are made of ASCII digits. -/
theorem isAsciiDigit_of_mem_toDigits {c : Char} {n : Nat} (h : c ∈ Nat.toDigits 10 n) :
    isAsciiDigit c = true := by
  have hdigit : c.isDigit = true := Nat.isDigit_of_mem_toDigits (by decide) (by decide) h
  rw [Char.isDigit, Bool.and_eq_true, decide_eq_true_iff, decide_eq_true_iff] at hdigit
  exact isAsciiDigit_iff.mpr hdigit

/-- A canonical numeral is read as its number. -/
theorem numeral_toDigits (n : Nat) : numeral (Nat.toDigits 10 n) = n :=
  Nat.ofDigitChars_ten_toDigits

/-- Different numbers have different numerals. -/
theorem toDigits_injective {m n : Nat} (h : Nat.toDigits 10 m = Nat.toDigits 10 n) : m = n := by
  rw [← numeral_toDigits m, h, numeral_toDigits]

/-- An ASCII digit is the digit of its value. -/
theorem digitChar_of_isAsciiDigit {c : Char} (h : isAsciiDigit c = true) :
    Nat.digitChar (c.toNat - '0'.toNat) = c := by
  have hrange := isAsciiDigit_iff.mp h
  have hzero : '0'.toNat = 48 := rfl
  apply Char.toNat_inj.mp
  rw [Nat.toNat_digitChar_of_lt_ten (by omega)]
  omega

/-- Digits after the numeral of a positive number continue it. -/
theorem toDigits_append_digits {n : Nat} (hn : 0 < n) {digits : List Char}
    (hdigits : ∀ c ∈ digits, isAsciiDigit c = true) :
    Nat.toDigits 10 n ++ digits
      = Nat.toDigits 10 (digits.foldl (fun n c => 10 * n + (c.toNat - '0'.toNat)) n) := by
  induction digits generalizing n with
  | nil => rw [List.append_nil, List.foldl_nil]
  | cons c cs ih =>
      have hc : isAsciiDigit c = true := hdigits c List.mem_cons_self
      have hrange := isAsciiDigit_iff.mp hc
      have hzero : '0'.toNat = 48 := rfl
      have hlt : c.toNat - '0'.toNat < 10 := by omega
      have hstep := Nat.toDigits_append_toDigits (b := 10) (by decide) hn hlt
      rw [Nat.toDigits_of_lt_base hlt, digitChar_of_isAsciiDigit hc] at hstep
      rw [List.foldl_cons, ← ih (by omega) fun d hd => hdigits d (List.mem_cons_of_mem _ hd),
        ← hstep, List.append_assoc, List.singleton_append]

/-- Digits that do not start with a zero are the canonical numeral of what they are read as. -/
theorem toDigits_numeral {c : Char} {cs : List Char} (hne : c ≠ '0')
    (hdigits : ∀ d ∈ c :: cs, isAsciiDigit d = true) :
    Nat.toDigits 10 (numeral (c :: cs)) = c :: cs := by
  have hc : isAsciiDigit c = true := hdigits c List.mem_cons_self
  have hrange := isAsciiDigit_iff.mp hc
  have hzero : '0'.toNat = 48 := rfl
  have hcode : c.toNat ≠ 48 := fun h => hne (Char.toNat_inj.mp h)
  have hpos : 0 < c.toNat - '0'.toNat := by omega
  have happend := toDigits_append_digits hpos fun d hd => hdigits d (List.mem_cons_of_mem c hd)
  rw [Nat.toDigits_of_lt_base (by omega), digitChar_of_isAsciiDigit hc,
    List.singleton_append] at happend
  rw [numeral, List.foldl_cons, Nat.mul_zero, Nat.zero_add]
  exact happend.symm

/-- The numeral of a positive number starts with another digit than zero. -/
theorem toDigits_eq_cons_of_pos {n : Nat} (hn : 0 < n) :
    ∃ c cs, Nat.toDigits 10 n = c :: cs ∧ c ≠ '0' := by
  induction n using Nat.strongRecOn with
  | ind n ih =>
      rw [Nat.toDigits_eq_if (by decide)]
      by_cases hlt : n < 10
      · rw [if_pos hlt]
        exact ⟨_, _, rfl, fun h => by rw [Nat.digitChar_eq_zero] at h; omega⟩
      · rw [if_neg hlt]
        obtain ⟨c, cs, heq, hne⟩ := ih (n / 10) (by omega) (by omega)
        exact ⟨c, cs ++ [_], by rw [heq, List.cons_append], hne⟩

/--
A canonical numeral has more than some digits exactly when its number reaches the power of ten.
-/
theorem lt_length_toDigits_iff {n k : Nat} (hk : 0 < k) :
    k < (Nat.toDigits 10 n).length ↔ Nat.pow 10 k ≤ n := by
  rw [← Nat.not_le, Nat.length_toDigits_le_iff (by decide) hk, Nat.not_lt]
  exact Iff.rfl

/-- A canonical numeral has too many digits exactly when its number is too large. -/
theorem digitLimit_lt_length_toDigits_iff {n : Nat} :
    digitLimit < (Nat.toDigits 10 n).length ↔ leastLong ≤ n := by
  unfold leastLong
  exact lt_length_toDigits_iff (Nat.zero_lt_succ 4299)

/-! ## Numerals as texts -/

variable {i j k m n : Nat}

/-- Behind texts of one length, the order is decided by these texts if they differ. -/
theorem append_lt_append_iff {cs ds front back : List Char} (h : cs.length = ds.length) :
    cs ++ front < ds ++ back ↔ cs < ds ∨ cs = ds ∧ front < back := by
  induction cs generalizing ds with
  | nil =>
      obtain rfl : ds = [] := List.eq_nil_of_length_eq_zero h.symm
      simp
  | cons c cs ih =>
      cases ds with
      | nil => cases h
      | cons d ds =>
          rw [List.cons_append, List.cons_append, List.cons_lt_cons_iff, ih (Nat.succ.inj h),
            List.cons_lt_cons_iff, List.cons.injEq]
          tauto

/-- The numeral of a number with several digits is that of its tenth and one more digit. -/
theorem toDigits_of_ten_le (h : 10 ≤ n) :
    Nat.toDigits 10 n = Nat.toDigits 10 (n / 10) ++ [Nat.digitChar (n % 10)] :=
  Nat.toDigits_of_base_le (by decide) h

/-- Digits are ordered like their values. -/
theorem digitChar_lt_digitChar (hm : m < 10) (hn : n < 10) (h : m < n) :
    Nat.digitChar m < Nat.digitChar n := by
  rw [Char.lt_def, UInt32.lt_iff_toNat_lt]
  change (Nat.digitChar m).toNat < (Nat.digitChar n).toNat
  rw [Nat.toNat_digitChar_of_lt_ten hm, Nat.toNat_digitChar_of_lt_ten hn]
  omega

/-- A number has at least as many digits as a smaller one. -/
theorem length_toDigits_le (h : i ≤ j) :
    (Nat.toDigits 10 i).length ≤ (Nat.toDigits 10 j).length := by
  have hpos : 0 < (Nat.toDigits 10 j).length := Nat.length_toDigits_pos
  have hj : j < 10 ^ (Nat.toDigits 10 j).length :=
    (Nat.length_toDigits_le_iff (by decide) hpos).mp le_rfl
  exact (Nat.length_toDigits_le_iff (by decide) hpos).mpr (Nat.lt_of_le_of_lt h hj)

/-- Of numerals with equally many digits that of the smaller number comes first. -/
theorem toDigits_lt_toDigits (hlength : (Nat.toDigits 10 m).length = (Nat.toDigits 10 n).length)
    (h : m < n) : Nat.toDigits 10 m < Nat.toDigits 10 n := by
  induction n using Nat.strongRecOn generalizing m with
  | ind n ih =>
      by_cases hn : n < 10
      · rw [Nat.toDigits_of_lt_base hn, Nat.toDigits_of_lt_base (by omega), List.cons_lt_cons_iff]
        exact .inl (digitChar_lt_digitChar (by omega) hn h)
      · have hm : 10 ≤ m := by
          by_contra hm
          rw [Nat.toDigits_of_lt_base (b := 10) (by omega), toDigits_of_ten_le (by omega),
            List.length_append] at hlength
          have hpos : 0 < (Nat.toDigits 10 (n / 10)).length := Nat.length_toDigits_pos
          simp only [List.length_cons, List.length_nil] at hlength
          omega
        have hn' : 10 ≤ n := Nat.not_lt.mp hn
        rw [toDigits_of_ten_le hm, toDigits_of_ten_le hn', List.length_append, List.length_append]
          at hlength
        rw [toDigits_of_ten_le hm, toDigits_of_ten_le hn']
        have hshorter : (Nat.toDigits 10 (m / 10)).length = (Nat.toDigits 10 (n / 10)).length :=
          Nat.add_right_cancel hlength
        rw [append_lt_append_iff hshorter]
        rcases Nat.lt_or_eq_of_le (Nat.div_le_div_right h.le : m / 10 ≤ n / 10) with hlt | heq
        · exact .inl (ih (n / 10) (by omega) hshorter hlt)
        · refine .inr ⟨by rw [heq], List.cons_lt_cons_iff.mpr (.inl ?_)⟩
          exact digitChar_lt_digitChar (by omega) (by omega) (by omega)

/-- The first digits of a numeral are those of the number without its last ones. -/
theorem exists_toDigits_eq_append (h : k < (Nat.toDigits 10 n).length) :
    ∃ last, Nat.toDigits 10 n = Nat.toDigits 10 (n / 10 ^ k) ++ last ∧ last.length = k := by
  induction k with
  | zero => exact ⟨[], by rw [pow_zero, Nat.div_one, List.append_nil], rfl⟩
  | succ k ih =>
      obtain ⟨last, hlast, hlength⟩ := ih (by omega)
      have hten : 10 ≤ n / 10 ^ k := by
        by_contra hten
        rw [hlast, List.length_append, Nat.toDigits_of_lt_base (b := 10) (by omega), hlength,
          List.length_singleton] at h
        omega
      rw [toDigits_of_ten_le hten, Nat.div_div_eq_div_mul, ← pow_succ, List.append_assoc] at hlast
      exact ⟨_, hlast, by rw [List.length_append, hlength, List.length_singleton, Nat.add_comm]⟩

/--
Does a number not exceed the one that the first digits of a larger number make, as many of them as it has
itself?
-/
def PrecedesAsText (i j : Nat) : Prop :=
  i ≤ j / 10 ^ ((Nat.toDigits 10 j).length - (Nat.toDigits 10 i).length)

instance (i j : Nat) : Decidable (PrecedesAsText i j) :=
  inferInstanceAs (Decidable (i ≤ j / 10 ^ _))

/--
The numeral of a smaller number comes first as a text exactly when the first digits of the larger one do not
make a number below it.
-/
theorem toDigits_lt_toDigits_iff (h : i < j) :
    Nat.toDigits 10 i < Nat.toDigits 10 j ↔ PrecedesAsText i j := by
  unfold PrecedesAsText
  have hle : (Nat.toDigits 10 i).length ≤ (Nat.toDigits 10 j).length := length_toDigits_le h.le
  have hpos : 0 < (Nat.toDigits 10 i).length := Nat.length_toDigits_pos
  obtain ⟨last, hlast, hlength⟩ := exists_toDigits_eq_append
    (k := (Nat.toDigits 10 j).length - (Nat.toDigits 10 i).length) (n := j) (by omega)
  generalize hcut : (Nat.toDigits 10 j).length - (Nat.toDigits 10 i).length = cut at hlast hlength ⊢
  have hfirst : (Nat.toDigits 10 i).length = (Nat.toDigits 10 (j / 10 ^ cut)).length := by
    have hsum := congrArg List.length hlast
    rw [List.length_append] at hsum
    omega
  have hcompare : Nat.toDigits 10 i < Nat.toDigits 10 j ↔
      Nat.toDigits 10 i < Nat.toDigits 10 (j / 10 ^ cut) ∨
        Nat.toDigits 10 i = Nat.toDigits 10 (j / 10 ^ cut) ∧ [] < last := by
    rw [hlast, ← append_lt_append_iff hfirst, List.append_nil]
  rw [hcompare]
  constructor
  · rintro (hlt | ⟨heq, -⟩)
    · by_contra hnot
      exact List.lt_asymm hlt (toDigits_lt_toDigits hfirst.symm (Nat.not_le.mp hnot))
    · exact (toDigits_injective heq).le
  · intro hprecedes
    rcases Nat.lt_or_eq_of_le hprecedes with hlt | heq
    · exact .inl (toDigits_lt_toDigits hfirst hlt)
    · refine .inr ⟨by rw [← heq], ?_⟩
      -- Without digits left over the two numbers would be the same.
      cases last with
      | nil =>
          obtain rfl : cut = 0 := hlength.symm
          rw [pow_zero, Nat.div_one] at heq
          omega
      | cons c cs => exact List.nil_lt_cons c cs

end ApiLint.Text
