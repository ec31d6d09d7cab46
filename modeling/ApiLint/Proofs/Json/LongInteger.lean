import ApiLint.Json.Descent
import ApiLint.Number.IntegerText
import ApiLint.Proofs.Json.RoundTrip

/-!
# Integers with too many digits in JSON

What is left of a text after a string, a number or a word was read is an end of that text.  A number is refused
for its digits exactly if it is an integer, with neither a fraction nor an exponent, that has too many of
them; and no string is refused for digits.

Main results:

- Theorem `suffix_of_readWord`: what is left after a word or a number is an end of the text.
- Theorem `readWord_eq_longNumeral_iff`: what stops at a word or a number is an integer with too many digits.
-/

namespace ApiLint.Json

variable {cs rest opening : List Char}

/-! ## What is left of a text -/

/-- Blanks are at the start of a text. -/
theorem skipBlanks_suffix (cs : List Char) : skipBlanks cs <:+ cs := List.dropWhile_suffix _

/-- What is behind a mark that blanks stand before is an end of the text. -/
theorem suffix_of_skipBlanks {cs more : List Char} {c : Char} (h : skipBlanks cs = c :: more) : more <:+ cs :=
  (List.suffix_cons c more).trans (h ▸ skipBlanks_suffix cs)

/-- What is left behind a first piece is left behind the pieces after it. -/
theorem exists_of_consPiece {p : Piece} {step : Step (List Piece)} {ps : List Piece}
    (h : consPiece p step = .ok (ps, rest)) : ∃ more, step = .ok (more, rest) := by
  rw [consPiece.eq_def] at h
  split at h
  · cases h
    exact ⟨_, rfl⟩
  · cases h

/-- What is left after a string is an end of the text. -/
theorem suffix_of_readPieces {ps : List Piece} (h : readPieces opening cs = .ok (ps, rest)) :
    rest <:+ cs := by
  fun_induction readPieces opening cs generalizing ps with
  | case2 =>
      cases h
      exact List.suffix_cons _ _
  | case4 a b c d n head tail hunit ih =>
      obtain ⟨more, hmore⟩ := exists_of_consPiece h
      exact (ih hmore).trans (List.suffix_append ['\\', 'u', a, b, c, d] _)
  | case7 c cs hunit hu x hx ih =>
      obtain ⟨more, hmore⟩ := exists_of_consPiece h
      exact (ih hmore).trans (List.suffix_append ['\\', c] _)
  | case10 c cs _ _ _ _ _ _ ih =>
      obtain ⟨more, hmore⟩ := exists_of_consPiece h
      exact (ih hmore).trans (List.suffix_cons c _)
  | _ => cases h

theorem suffix_of_readString {s : String} (h : readString opening cs = .ok (s, rest)) :
    rest <:+ cs := by
  rw [readString] at h
  split at h
  · rename_i hpieces
    cases h
    exact suffix_of_readPieces hpieces
  · cases h

theorem suffix_of_integerPart? {whole : List Char} (h : integerPart? cs = some (whole, rest)) :
    rest <:+ cs := by
  rw [integerPart?.eq_def] at h
  split at h
  · cases h
    exact List.suffix_cons _ _
  · split at h
    · cases h
    · cases h
      exact List.dropWhile_suffix _

theorem fractionPart_suffix (cs : List Char) : (fractionPart cs).2 <:+ cs := by
  rw [fractionPart.eq_def]
  split
  · rename_i more
    split
    · exact List.suffix_rfl
    · exact (List.dropWhile_suffix _).trans (List.suffix_cons _ _)
  · exact List.suffix_rfl

/-- An exponent has its digits after a sign, if there is one. -/
theorem exponentPart_cons {e : Char} (he : e ∈ ['e', 'E']) (more : List Char) :
    exponentPart (e :: more) =
      if (spanDigits (Text.splitSign more).2).1 = [] then (none, e :: more)
      else
        let n := Int.ofNat (Text.numeral (spanDigits (Text.splitSign more).2).1)
        (some (if (Text.splitSign more).1 then -n else n), (spanDigits (Text.splitSign more).2).2) := by
  have he' : (e == 'e' || e == 'E') = true := by simpa using he
  unfold exponentPart
  simp only [he', if_true]
  split
  · rename_i rest
    rcases hspan : spanDigits rest with ⟨_ | ⟨d, digits⟩, after⟩ <;> simp [Text.splitSign, hspan]
  · rename_i rest
    rcases hspan : spanDigits rest with ⟨_ | ⟨d, digits⟩, after⟩ <;> simp [Text.splitSign, hspan]
  · rename_i hplus hminus
    have hsign : Text.splitSign more = (false, more) := by
      rw [Text.splitSign.eq_def]
      split
      · exact absurd rfl (hminus _)
      · exact absurd rfl (hplus _)
      · rfl
    rcases hspan : spanDigits more with ⟨_ | ⟨d, digits⟩, after⟩ <;> simp [hsign, hspan]

/-- A character that is no letter of an exponent starts none. -/
theorem exponentPart_of_notMem {c : Char} (hc : c ∉ ['e', 'E']) (more : List Char) :
    exponentPart (c :: more) = (none, c :: more) := by
  have hc' : (c == 'e' || c == 'E') = false := by simpa using hc
  simp only [exponentPart, hc', Bool.false_eq_true, if_false]

/-- A sign is at the start of a text. -/
theorem splitSign_suffix (cs : List Char) : (Text.splitSign cs).2 <:+ cs := by
  rw [Text.splitSign.eq_def]
  split
  · exact List.suffix_cons _ _
  · exact List.suffix_cons _ _
  · exact List.suffix_rfl

theorem exponentPart_suffix (cs : List Char) : (exponentPart cs).2 <:+ cs := by
  cases cs with
  | nil => exact List.suffix_rfl
  | cons c more =>
      by_cases hc : c ∈ ['e', 'E']
      · rw [exponentPart_cons hc]
        split
        · exact List.suffix_rfl
        · exact (List.dropWhile_suffix _).trans ((splitSign_suffix more).trans (List.suffix_cons _ _))
      · simp [exponentPart_of_notMem hc]

/-- A number is read after a sign, if there is one. -/
theorem exists_unsigned (cs : List Char) :
    ∃ negative unsigned, (cs = unsigned ∧ unsigned.head? ≠ some '-' ∨ cs = '-' :: unsigned) ∧
      readNumber cs =
        match integerPart? unsigned with
        | none => .error (.malformed .value cs)
        | some (whole, afterWhole) =>
          if (fractionPart afterWhole).1.isEmpty && (exponentPart (fractionPart afterWhole).2).1.isNone then
            match Text.numeralWithin whole with
            | .error e => .error (.longNumeral e)
            | .ok n =>
              .ok (.int (if negative then -Int.ofNat n else Int.ofNat n),
                (exponentPart (fractionPart afterWhole).2).2)
          else
            .ok (.float (Binary64.ofDecimal negative
              (Text.numeral (whole ++ (fractionPart afterWhole).1))
              ((exponentPart (fractionPart afterWhole).2).1.getD 0
                - Int.ofNat (fractionPart afterWhole).1.length)),
              (exponentPart (fractionPart afterWhole).2).2) := by
  by_cases hminus : cs.head? = some '-'
  · obtain ⟨more, rfl⟩ := List.head?_eq_some_iff.mp hminus
    exact ⟨true, more, .inr rfl, rfl⟩
  · refine ⟨false, cs, .inl ⟨rfl, hminus⟩, ?_⟩
    unfold readNumber
    split
    rename_i heq
    split at heq
    · exact absurd rfl hminus
    · cases heq
      rfl

theorem suffix_of_readNumber {x : Node} (h : readNumber cs = .ok (x, rest)) : rest <:+ cs := by
  obtain ⟨negative, unsigned, hsign, hread⟩ := exists_unsigned cs
  have hunsigned : unsigned <:+ cs := by
    rcases hsign with ⟨rfl, -⟩ | rfl
    · exact List.suffix_rfl
    · exact List.suffix_cons _ _
  rw [hread] at h
  split at h
  · cases h
  · rename_i whole afterWhole hwhole
    have hrest : (exponentPart (fractionPart afterWhole).2).2 <:+ cs :=
      (exponentPart_suffix _).trans ((fractionPart_suffix _).trans
        ((suffix_of_integerPart? hwhole).trans hunsigned))
    split at h
    · split at h
      · cases h
      · cases h
        exact hrest
    · cases h
      exact hrest

theorem suffix_of_readWord {x : Node} (h : readWord cs = .ok (x, rest)) : rest <:+ cs := by
  rw [readWord.eq_def] at h
  split at h
  · cases h
    exact List.suffix_append ['n', 'u', 'l', 'l'] _
  · cases h
    exact List.suffix_append ['t', 'r', 'u', 'e'] _
  · cases h
    exact List.suffix_append ['f', 'a', 'l', 's', 'e'] _
  · cases h
    exact List.suffix_append ['N', 'a', 'N'] _
  · cases h
    exact List.suffix_append ['I', 'n', 'f', 'i', 'n', 'i', 't', 'y'] _
  · cases h
    exact List.suffix_append ['-', 'I', 'n', 'f', 'i', 'n', 'i', 't', 'y'] _
  · exact suffix_of_readNumber h

/-! ## Integers with too many digits -/

/-- Digits in front of no digit are all digits at the start. -/
theorem spanDigits_of_not_goesOn {digits : List Char} (hdigits : digits.all Text.isAsciiDigit = true)
    (hrest : ¬GoesOn rest) : spanDigits (digits ++ rest) = (digits, rest) := by
  have hnone : ∀ d ∈ rest.head?, Text.isAsciiDigit d ≠ true := by
    intro d hd hdigit
    obtain ⟨more, rfl⟩ := List.head?_eq_some_iff.mp hd
    exact hrest (.digit hdigit)
  have htake : rest.takeWhile Text.isAsciiDigit = [] := by
    cases rest with
    | nil => rfl
    | cons d more => exact List.takeWhile_cons_of_neg (hnone d rfl)
  have hdrop : rest.dropWhile Text.isAsciiDigit = rest := by
    cases rest with
    | nil => rfl
    | cons d more => exact List.dropWhile_cons_of_neg (hnone d rfl)
  rw [List.all_eq_true] at hdigits
  rw [spanDigits, List.takeWhile_append_of_pos hdigits, List.dropWhile_append_of_pos hdigits, htake,
    hdrop, List.append_nil]

/-- Without a digit at the start there are no digits. -/
theorem spanDigits_eq_nil (h : ∀ d more, cs = d :: more → Text.isAsciiDigit d = false) :
    spanDigits cs = ([], cs) := by
  cases cs with
  | nil => rfl
  | cons d more => simp [spanDigits, h d more rfl]

theorem fractionPart_of_not_goesOn (h : ¬GoesOn cs) : fractionPart cs = ([], cs) := by
  rw [fractionPart.eq_def]
  split
  · rename_i more
    have hnone : ∀ d after, more = d :: after → Text.isAsciiDigit d = false := by
      rintro d after rfl
      exact Bool.eq_false_iff.mpr fun hd => h (.fraction hd)
    rw [spanDigits_eq_nil hnone]
  · rfl

/-- Without a fraction nothing is taken. -/
theorem fractionPart_snd (h : (fractionPart cs).1 = []) : (fractionPart cs).2 = cs := by
  rw [fractionPart.eq_def] at h ⊢
  split at h
  · split at h
    · rfl
    · rename_i hnone
      rw [← Prod.eta (spanDigits _), h] at hnone
      exact absurd rfl (hnone _)
  · rfl

theorem exponentPart_of_not_goesOn (h : ¬GoesOn cs) : exponentPart cs = (none, cs) := by
  cases cs with
  | nil => rfl
  | cons e more =>
      by_cases he : e ∈ ['e', 'E']
      · have hnone : spanDigits (Text.splitSign more).2 = ([], (Text.splitSign more).2) := by
          apply spanDigits_eq_nil
          intro d after hmore
          refine Bool.eq_false_iff.mpr fun hd => h ?_
          rw [Text.splitSign.eq_def] at hmore
          split at hmore
          · obtain rfl : _ = d :: after := hmore
            exact .signed he (by decide) hd
          · obtain rfl : _ = d :: after := hmore
            exact .signed he (by decide) hd
          · obtain rfl : _ = d :: after := hmore
            exact .exponent he hd
        rw [exponentPart_cons he, hnone, if_pos rfl]
      · exact exponentPart_of_notMem he more

/-- What goes on with a number has a digit, a fraction or an exponent. -/
theorem not_goesOn (hdigit : ∀ d more, cs = d :: more → Text.isAsciiDigit d = false)
    (hfraction : (fractionPart cs).1 = []) (hexponent : (exponentPart cs).1 = none) : ¬GoesOn cs := by
  have hspan : ∀ {d : Char} (more : List Char), Text.isAsciiDigit d = true →
      spanDigits (d :: more) = (d :: (spanDigits more).1, (spanDigits more).2) := by
    intro d more hd
    rw [spanDigits, List.takeWhile_cons_of_pos hd, List.dropWhile_cons_of_pos hd, spanDigits]
  intro h
  cases h with
  | digit hd => exact Bool.false_ne_true ((hdigit _ _ rfl).symm.trans hd)
  | fraction hd =>
      rw [fractionPart, hspan _ hd] at hfraction
      cases hfraction
  | @exponent e d more he hd =>
      have hsign : Text.splitSign (d :: more) = (false, d :: more) := by
        rw [Text.splitSign.eq_def]
        split
        · rename_i heq
          exact absurd ((List.cons.inj heq).1 ▸ hd) (by decide)
        · rename_i heq
          exact absurd ((List.cons.inj heq).1 ▸ hd) (by decide)
        · rfl
      rw [exponentPart_cons he, hsign, hspan _ hd] at hexponent
      cases hexponent
  | @signed e s d more he hs hd =>
      have hsign : (Text.splitSign (s :: d :: more)).2 = d :: more := by
        rcases List.mem_cons.mp hs with rfl | hs
        · rfl
        · cases List.mem_singleton.mp hs
          rfl
      rw [exponentPart_cons he, hsign, hspan _ hd] at hexponent
      cases hexponent

/-- Digits that do not start with a zero are the whole number before the point. -/
theorem integerPart?_append {digits : List Char} (hdigits : digits.all Text.isAsciiDigit = true)
    (hzero : digits.head? ≠ some '0') (hne : digits ≠ []) (hrest : ¬GoesOn rest) :
    integerPart? (digits ++ rest) = some (digits, rest) := by
  obtain ⟨d, more, rfl⟩ := List.exists_cons_of_ne_nil hne
  rw [integerPart?.eq_def]
  split
  · rename_i heq
    exact absurd (congrArg some (List.cons.inj heq).1) hzero
  · rw [spanDigits_of_not_goesOn hdigits hrest]

/-- A whole number of several digits is all the digits at the start, and the first one is not a zero. -/
theorem of_integerPart?_eq_some {whole : List Char} (h : integerPart? cs = some (whole, rest))
    (hlong : 1 < whole.length) :
    cs = whole ++ rest ∧ whole.all Text.isAsciiDigit = true ∧ whole.head? ≠ some '0' ∧
      ∀ d more, rest = d :: more → Text.isAsciiDigit d = false := by
  rw [integerPart?.eq_def] at h
  split at h
  · cases h
    exact absurd hlong (Nat.lt_irrefl 1)
  · rename_i hzero
    split at h
    · cases h
    · obtain ⟨rfl, rfl⟩ := Prod.mk.inj (Option.some.inj h)
      refine ⟨List.takeWhile_append_dropWhile.symm, List.all_takeWhile, ?_, ?_⟩
      · intro hhead
        cases cs with
        | nil => cases hhead
        | cons c cs =>
            by_cases hc : Text.isAsciiDigit c = true
            · rw [List.takeWhile_cons_of_pos hc] at hhead
              exact hzero cs (by rw [Option.some.inj hhead])
            · rw [List.takeWhile_cons_of_neg hc] at hhead
              cases hhead
      · intro d more hrest
        have hdrop := List.head?_dropWhile_not Text.isAsciiDigit cs
        rw [hrest] at hdrop
        simpa using hdrop

/-- A number that is refused is an integer with too many digits. -/
theorem startsWithLongInteger_of_readNumber {e : LongNumeral}
    (he : readNumber cs = .error (.longNumeral e)) : StartsWithLongInteger cs := by
  obtain ⟨negative, unsigned, hsign, hread⟩ := exists_unsigned cs
  rw [hread] at he
  split at he
  · cases he
  · rename_i whole afterWhole hwhole
    split at he
    · rename_i hinteger
      rw [Bool.and_eq_true, List.isEmpty_iff, Option.isNone_iff_eq_none] at hinteger
      obtain ⟨hfraction, hexponent⟩ := hinteger
      have hlong : digitLimit < whole.length := by
        refine Nat.lt_of_not_le fun hshort => ?_
        rw [Text.numeralWithin, if_neg (Nat.not_lt.mpr hshort)] at he
        cases he
      obtain ⟨rfl, hdigits, hzero, hend⟩ :=
        of_integerPart?_eq_some hwhole (Nat.lt_trans (by decide) hlong)
      rw [fractionPart_snd hfraction] at hexponent
      have hafter := not_goesOn hend hfraction hexponent
      rcases hsign with ⟨rfl, -⟩ | rfl
      · exact ⟨[], whole, afterWhole, rfl, .inl rfl, hdigits, hzero, hlong, hafter⟩
      · exact ⟨['-'], whole, afterWhole, rfl, .inr rfl, hdigits, hzero, hlong, hafter⟩
    · cases he

/-- An integer with too many digits is refused. -/
theorem StartsWithLongInteger.readNumber_eq (h : StartsWithLongInteger cs) :
    ∃ e, readNumber cs = .error (.longNumeral e) := by
  obtain ⟨sign, digits, after, hcs, hsign', hdigits, hzero, hlong, hafter⟩ := h
  obtain ⟨negative, unsigned, hsign, hread⟩ := exists_unsigned cs
  have hne : digits ≠ [] := List.ne_nil_of_length_pos (Nat.lt_trans (by decide) hlong)
  have hminus : (digits ++ after).head? ≠ some '-' := by
    obtain ⟨d, more, rfl⟩ := List.exists_cons_of_ne_nil hne
    intro hhead
    have hd := List.all_eq_true.mp hdigits d List.mem_cons_self
    rw [Option.some.inj hhead] at hd
    exact absurd hd (by decide)
  -- Both ways to take a minus sign away agree, because the digits start with none.
  have hunsigned : unsigned = digits ++ after := by
    rcases hsign with ⟨rfl, hhead⟩ | rfl
    · rcases hsign' with rfl | rfl
      · exact hcs
      · rw [hcs] at hhead
        exact absurd rfl hhead
    · rcases hsign' with rfl | rfl
      · rw [List.nil_append] at hcs
        rw [← hcs] at hminus
        exact absurd rfl hminus
      · exact (List.cons.inj hcs).2
  rw [hunsigned, integerPart?_append hdigits hzero hne hafter] at hread
  simp only [fractionPart_of_not_goesOn hafter, exponentPart_of_not_goesOn hafter,
    Text.numeralWithin, if_pos hlong] at hread
  exact ⟨_, hread⟩

/-- An integer starts with a digit, or with a minus sign in front of one. -/
theorem StartsWithLongInteger.exists_digit (h : StartsWithLongInteger cs) :
    ∃ d more, Text.isAsciiDigit d = true ∧ (cs = d :: more ∨ cs = '-' :: d :: more) := by
  obtain ⟨sign, digits, after, rfl, hsign, hdigits, -, hlong, -⟩ := h
  obtain ⟨d, more, rfl⟩ :=
    List.exists_cons_of_ne_nil (List.ne_nil_of_length_pos (Nat.lt_trans (by decide) hlong))
  refine ⟨d, more ++ after, List.all_eq_true.mp hdigits d List.mem_cons_self, ?_⟩
  rcases hsign with rfl | rfl
  · exact .inl rfl
  · exact .inr rfl

/-- A text that starts with an integer starts with no other character. -/
theorem StartsWithLongInteger.head?_ne (h : StartsWithLongInteger cs) {c : Char}
    (hminus : c ≠ '-') (hdigit : Text.isAsciiDigit c = false) : cs.head? ≠ some c := by
  obtain ⟨d, more, hd, rfl | rfl⟩ := h.exists_digit
  · intro heq
    rw [Option.some.inj heq, hdigit] at hd
    cases hd
  · intro heq
    exact hminus (Option.some.inj heq).symm

/-- A word or a number is refused exactly if it is an integer with too many digits. -/
theorem readWord_eq_longNumeral_iff :
    (∃ e, readWord cs = .error (.longNumeral e)) ↔ StartsWithLongInteger cs := by
  constructor
  · rintro ⟨e, he⟩
    rw [readWord.eq_def] at he
    split at he
    case h_7 => exact startsWithLongInteger_of_readNumber he
    all_goals cases he
  · intro h
    have hword : readWord cs = readNumber cs := by
      obtain ⟨d, more, hd, rfl | rfl⟩ := h.exists_digit
      · refine readWord_eq_readNumber (notMem_of_isAsciiDigit hd _ rfl) ?_
        rintro rfl
        exact absurd hd (by decide)
      · refine readWord_eq_readNumber (by decide) fun _ heq => ?_
        rw [Option.some.inj heq] at hd
        exact absurd hd (by decide)
    rw [hword]
    exact h.readNumber_eq

/-- A string that is not read is malformed. -/
theorem readString_ne_longNumeral (e : LongNumeral) :
    readString opening cs ≠ .error (.longNumeral e) := by
  have hpieces : ∀ cs, readPieces opening cs ≠ .error (.longNumeral e) := by
    intro cs h
    have hcons : ∀ {p : Piece} {step : Step (List Piece)},
        consPiece p step = .error (.longNumeral e) → step = .error (.longNumeral e) := by
      intro p step hstep
      rw [consPiece.eq_def] at hstep
      split at hstep
      · cases hstep
      · exact hstep
    fun_induction readPieces opening cs with
    | case4 a b c d n head tail hunit ih => exact ih (hcons h)
    | case7 c cs hunit hu x hx ih => exact ih (hcons h)
    | case10 c cs _ _ _ _ _ _ ih => exact ih (hcons h)
    | _ => cases h
  intro h
  rw [readString] at h
  split at h
  · cases h
  · rename_i herror
    exact hpieces cs (herror.trans (congrArg Except.error (Except.error.inj h)))

end ApiLint.Json
