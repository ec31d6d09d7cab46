import ApiLint.Json.Reader
import ApiLint.Json.Writer
import ApiLint.Proofs.Number.Numeral

/-!
# Laws of JSON strings and integers

A written string is read back whatever characters it holds, since everything that would end it or be
refused inside it is written as an escape.  A written integer is read back where the text after it
does not continue it.

Main results:

- Theorem `readString_stringChars`: a string is read back, and reading stops behind its quote.
- Theorem `readNumber_toString`: an integer is read back.
-/

namespace ApiLint.Json

/-! ## Hexadecimal digits -/

/-- A hexadecimal digit is read as its value. -/
theorem hexValue?_hexDigit (n : Nat) : Text.hexValue? (Text.hexDigit n) = some (n % 16) := by
  have hall : ∀ m < 16, Text.hexValue? (Nat.digitChar m) = some m := by decide
  exact hall (n % 16) (Nat.mod_lt n (by decide))

/-- Four hexadecimal digits are read as the unit that they were written for. -/
theorem unit?_hexDigits {n : Nat} (hn : n < 0x10000) :
    unit? (Text.hexDigit (n / 16 / 16 / 16)) (Text.hexDigit (n / 16 / 16))
      (Text.hexDigit (n / 16)) (Text.hexDigit n) = some n := by
  simp only [unit?, hexValue?_hexDigit, Option.bind_eq_bind, Option.bind_some, Option.pure_def,
    Option.some.injEq]
  omega

/-! ## Strings -/

/--
The characters that a letter after a backslash stands for, besides the quote and the backslash.
-/
def isLettered (c : Char) : Bool :=
  c = '\n' || c = '\r' || c = '\t' || c = '\x08' || c = '\x0c'

/-- The piece that a character is written as: a control character without a letter is a unit. -/
def pieceOf (c : Char) : Piece := if c < ' ' ∧ ¬ isLettered c then .unit c.toNat else .char c

/-- A control character has a small code point. -/
theorem toNat_lt_of_lt_space {c : Char} (h : c < ' ') : c.toNat < 32 := h

variable (opening : List Char) {c : Char} {rest : List Char}

/-- A letter after a backslash is read as what it stands for. -/
theorem readPieces_shortEscape {letter : Char} (h : shortEscape? letter = some c) (rest : List Char) :
    readPieces opening ('\\' :: letter :: rest) = consPiece (.char c) (readPieces opening rest) := by
  have hu : letter ≠ 'u' := by
    rintro rfl
    cases h
  rw [readPieces.eq_def]
  split
  · rename_i heq
    cases heq
  · rename_i heq
    cases heq
  · rename_i heq
    cases heq
  · rename_i heq
    cases heq
    exact absurd rfl hu
  · rename_i heq
    cases heq
    exact absurd rfl hu
  · rename_i heq
    cases heq
    rw [h]
  · rename_i hnot heq
    cases heq
    exact absurd rfl (hnot letter rest rfl)

/-- Four hexadecimal digits are read as a unit, unless nothing follows them. -/
theorem readPieces_unit {n : Nat} (hn : n < 0x10000) (hrest : rest ≠ []) :
    readPieces opening ('\\' :: 'u' :: Text.hexadecimal n 4 ++ rest) =
      consPiece (.unit n) (readPieces opening rest) := by
  obtain ⟨d, more, rfl⟩ := List.exists_cons_of_ne_nil hrest
  simp only [Text.hexadecimal, List.nil_append, List.cons_append]
  rw [readPieces.eq_def]
  simp only [unit?_hexDigits hn]

/-- A character that is neither special nor a control character is read as itself. -/
theorem readPieces_char (hquote : c ≠ '"') (hbackslash : c ≠ '\\') (hcontrol : ¬ c < ' ')
    (rest : List Char) :
    readPieces opening (c :: rest) = consPiece (.char c) (readPieces opening rest) := by
  rw [readPieces.eq_def]
  split
  · rename_i heq
    cases heq
  · rename_i heq
    cases heq
    exact absurd rfl hquote
  · rename_i heq
    cases heq
    exact absurd rfl hbackslash
  · rename_i heq
    cases heq
    exact absurd rfl hbackslash
  · rename_i heq
    cases heq
    exact absurd rfl hbackslash
  · rename_i heq
    cases heq
    exact absurd rfl hbackslash
  · rename_i heq
    cases heq
    rw [if_neg hcontrol]

/-- A written character is read as its piece. -/
theorem readPieces_escapedChar (c : Char) (hrest : rest ≠ []) :
    readPieces opening (escapedChar c ++ rest) = consPiece (pieceOf c) (readPieces opening rest) := by
  have hshort : ∀ {letter}, shortEscape? letter = some c → pieceOf c = .char c →
      readPieces opening (['\\', letter] ++ rest) = consPiece (pieceOf c) (readPieces opening rest) := by
    intro letter hletter hpiece
    rw [hpiece]
    exact readPieces_shortEscape opening hletter rest
  by_cases hspecial : c ∈ ['"', '\\', '\n', '\r', '\t', '\x08', '\x0c']
  · simp only [List.mem_cons, List.not_mem_nil, or_false] at hspecial
    rcases hspecial with rfl | rfl | rfl | rfl | rfl | rfl | rfl <;> exact hshort rfl rfl
  · simp only [List.mem_cons, List.not_mem_nil, or_false, not_or] at hspecial
    obtain ⟨hquote, hbackslash, hline, hreturn, htab, hback, hpage⟩ := hspecial
    have hletter : isLettered c = false := by simp [isLettered, hline, hreturn, htab, hback, hpage]
    by_cases hcontrol : c < ' '
    · have hwritten : escapedChar c = '\\' :: 'u' :: Text.hexadecimal c.toNat 4 := by
        simp [escapedChar, hquote, hbackslash, hline, hreturn, htab, hback, hpage, hcontrol]
      have hsmall : c.toNat < 32 := toNat_lt_of_lt_space hcontrol
      rw [hwritten, readPieces_unit opening (by omega) hrest, pieceOf,
        if_pos ⟨hcontrol, by simp [hletter]⟩]
    · have hwritten : escapedChar c = [c] := by
        simp [escapedChar, hquote, hbackslash, hline, hreturn, htab, hback, hpage, hcontrol]
      rw [hwritten, pieceOf, if_neg fun h => hcontrol h.1]
      exact readPieces_char opening hquote hbackslash hcontrol rest

/-- Written characters before a quote are read as their pieces. -/
theorem readPieces_flatMap_escapedChar (cs rest : List Char) :
    readPieces opening (cs.flatMap escapedChar ++ '"' :: rest) = .ok (cs.map pieceOf, rest) := by
  induction cs with
  | nil => simp [readPieces]
  | cons c cs ih =>
      rw [List.flatMap_cons, List.append_assoc, readPieces_escapedChar opening c (by simp), ih]
      rfl

/-- The unit of a control character is that character. -/
theorem unitChar_toNat {c : Char} (h : c < ' ') : unitChar c.toNat = c := by
  have hsmall : c.toNat < 32 := toNat_lt_of_lt_space h
  rw [unitChar, if_neg, Char.ofNat_toNat]
  simp only [isHighSurrogate, isLowSurrogate, Bool.or_eq_true, Bool.and_eq_true, decide_eq_true_eq]
  omega

/-- The pieces of characters are put together to the same characters. -/
theorem joinPieces_map_pieceOf (cs : List Char) : joinPieces (cs.map pieceOf) = cs := by
  induction cs with
  | nil => rfl
  | cons c cs ih =>
      rw [List.map_cons]
      by_cases hunit : c < ' ' ∧ ¬ isLettered c
      · have hchar := unitChar_toNat hunit.1
        have hsmall : c.toNat < 32 := toNat_lt_of_lt_space hunit.1
        have hhigh : isHighSurrogate c.toNat = false := by
          simp only [isHighSurrogate, Bool.and_eq_false_iff, decide_eq_false_iff_not]
          omega
        rw [pieceOf, if_pos hunit]
        cases hrest : cs.map pieceOf with
        | nil =>
            rw [List.map_eq_nil_iff.mp hrest]
            simp [joinPieces, hchar]
        | cons piece pieces =>
            rw [hrest] at ih
            cases piece with
            | char d => rw [joinPieces, hchar, ← ih, joinPieces]
            | unit m =>
                rw [joinPieces, hhigh, hchar, ih]
                rfl
      · rw [pieceOf, if_neg hunit, joinPieces, ih]

/--
A written string is read back behind its opening quote, and reading stops behind its closing one.
-/
theorem readString_stringChars (s : String) (rest : List Char) :
    readString opening (s.toList.flatMap escapedChar ++ '"' :: rest) = .ok (s, rest) := by
  rw [readString, readPieces_flatMap_escapedChar]
  simp only [joinPieces_map_pieceOf, String.ofList_toList]

/-- A written character has no carriage return in it. -/
theorem notMem_escapedChar (c : Char) : '\r' ∉ escapedChar c := by
  have hdigit : ∀ n, '\r' ≠ Text.hexDigit n := by
    intro n heq
    have hvalue := hexValue?_hexDigit n
    rw [← heq] at hvalue
    cases hvalue
  by_cases hreturn : c = '\r'
  · subst hreturn
    decide
  · unfold escapedChar
    repeat' split
    all_goals simp [Text.hexadecimal, hdigit, Ne.symm hreturn]

/-! ## Integers -/

/-- A text that does not go on with a number that ends before it. -/
def EndsNumber (rest : List Char) : Prop :=
  ∀ c, rest.head? = some c → Text.isAsciiDigit c = false ∧ c ≠ '.' ∧ c ≠ 'e' ∧ c ≠ 'E'

/-- An integer that is not long has few enough digits. -/
theorem natAbs_lt_leastLong {n : Int} (h : isLongInteger n = false) : n.natAbs < leastLong := by
  have hpow : ∀ {m k : Nat}, m.log2 < k → m < Nat.pow 10 k := by
    intro m k hlog
    have hbinary : m < 2 ^ k := by
      rcases Nat.eq_zero_or_pos m with rfl | hpos
      · exact Nat.two_pow_pos k
      · exact (Nat.log2_lt (Nat.ne_of_gt hpos)).mp hlog
    exact Nat.lt_of_lt_of_le hbinary (Nat.pow_le_pow_left (by decide) k)
  rw [isLongInteger, Bool.and_eq_false_iff, decide_eq_false_iff_not, decide_eq_false_iff_not] at h
  rcases h with hlog | hlong
  · unfold leastLong
    exact hpow (Nat.lt_of_not_le hlog)
  · exact Nat.lt_of_not_le hlong

variable {rest : List Char}

/-- Digits before a text that starts with no digit are all the digits at the start. -/
theorem spanDigits_append {digits : List Char} (hdigits : ∀ c ∈ digits, Text.isAsciiDigit c = true)
    (hrest : EndsNumber rest) : spanDigits (digits ++ rest) = (digits, rest) := by
  have htake : rest.takeWhile Text.isAsciiDigit = [] := by
    cases rest with
    | nil => rfl
    | cons c rest => rw [List.takeWhile_cons_of_neg (by rw [(hrest c rfl).1]; decide)]
  have hdrop : rest.dropWhile Text.isAsciiDigit = rest := by
    cases rest with
    | nil => rfl
    | cons c rest => rw [List.dropWhile_cons_of_neg (by rw [(hrest c rfl).1]; decide)]
  rw [spanDigits, List.takeWhile_append_of_pos hdigits, List.dropWhile_append_of_pos hdigits, htake,
    hdrop, List.append_nil]

/-- A canonical numeral is the whole number before the point. -/
theorem integerPart?_toDigits (m : Nat) (hrest : EndsNumber rest) :
    integerPart? (Nat.toDigits 10 m ++ rest) = some (Nat.toDigits 10 m, rest) := by
  rcases Nat.eq_zero_or_pos m with rfl | hpos
  · rfl
  · obtain ⟨c, cs, hdigits, hne⟩ := Text.toDigits_eq_cons_of_pos hpos
    have hspan := spanDigits_append (fun d hd => Text.isAsciiDigit_of_mem_toDigits (n := m) hd) hrest
    rw [hdigits] at hspan ⊢
    rw [integerPart?.eq_def]
    split
    · rename_i heq
      exact absurd (List.cons.inj heq).1 hne
    · rw [hspan]

/-- Nothing of a number stands behind it. -/
theorem fractionPart_of_endsNumber (hrest : EndsNumber rest) : fractionPart rest = ([], rest) := by
  rw [fractionPart.eq_def]
  split
  · exact absurd rfl (hrest '.' rfl).2.1
  · rfl

theorem exponentPart_of_endsNumber (hrest : EndsNumber rest) : exponentPart rest = (none, rest) := by
  cases rest with
  | nil => rfl
  | cons c rest =>
      obtain ⟨-, -, hsmall, hcapital⟩ := hrest c rfl
      simp [exponentPart, hsmall, hcapital]

/-- A numeral that is not too long is read as its number. -/
theorem numeralWithin_toDigits {m : Nat} (hm : m < leastLong) :
    Text.numeralWithin (Nat.toDigits 10 m) = .ok m := by
  have hlimit : ¬ digitLimit < (Nat.toDigits 10 m).length := by
    rw [Text.digitLimit_lt_length_toDigits_iff]
    exact Nat.not_le.mpr hm
  rw [Text.numeralWithin, if_neg hlimit, Text.numeral_toDigits]

/-- A canonical numeral is read as an integer, if it is not refused for its length. -/
theorem readNumber_toDigits {m : Nat} (hm : Text.numeralWithin (Nat.toDigits 10 m) = .ok m)
    (hrest : EndsNumber rest) : readNumber (Nat.toDigits 10 m ++ rest) = .ok (.int m, rest) := by
  have hsign : ∀ cs, Nat.toDigits 10 m ++ rest ≠ '-' :: cs := by
    intro cs heq
    obtain ⟨c, digits, hdigits⟩ := List.exists_cons_of_ne_nil (Nat.toDigits_ne_nil (n := m) (b := 10))
    have hdigit : Text.isAsciiDigit c = true :=
      Text.isAsciiDigit_of_mem_toDigits (hdigits ▸ List.mem_cons_self)
    rw [hdigits] at heq
    rw [(List.cons.inj heq).1] at hdigit
    exact absurd hdigit (by decide)
  unfold readNumber
  split
  rename_i heq
  split at heq
  · rename_i hcs
    exact absurd hcs (hsign _)
  · cases heq
    simp only [integerPart?_toDigits m hrest, fractionPart_of_endsNumber hrest,
      exponentPart_of_endsNumber hrest, hm]
    rfl

/-- Behind a minus sign it is read as the opposite. -/
theorem readNumber_neg_toDigits {m : Nat} (hm : Text.numeralWithin (Nat.toDigits 10 m) = .ok m)
    (hrest : EndsNumber rest) :
    readNumber ('-' :: (Nat.toDigits 10 m ++ rest)) = .ok (.int (-m), rest) := by
  unfold readNumber
  simp only [integerPart?_toDigits m hrest, fractionPart_of_endsNumber hrest,
    exponentPart_of_endsNumber hrest, hm]
  rfl

/--
The text of an integer is the numeral of its magnitude, behind a minus sign if it is negative.
-/
theorem toList_toString_int (n : Int) :
    (toString n).toList =
      if n < 0 then '-' :: Nat.toDigits 10 n.natAbs else Nat.toDigits 10 n.natAbs := by
  cases n with
  | ofNat m => simp [toString, Int.repr, Nat.toList_repr]
  | negSucc m => simp [toString, Int.repr, Nat.toList_repr, Int.negSucc_lt_zero]

/-- A written integer is read back. -/
theorem readNumber_toString {n : Int} (hn : isLongInteger n = false) (hrest : EndsNumber rest) :
    readNumber ((toString n).toList ++ rest) = .ok (.int n, rest) := by
  have hwithin := numeralWithin_toDigits (natAbs_lt_leastLong hn)
  rw [toList_toString_int]
  by_cases hneg : n < 0
  · have hopposite : -(n.natAbs : Int) = n := by omega
    rw [if_pos hneg, List.cons_append, readNumber_neg_toDigits hwithin hrest, hopposite]
  · have hsame : (n.natAbs : Int) = n := by omega
    rw [if_neg hneg, readNumber_toDigits hwithin hrest, hsame]

end ApiLint.Json
