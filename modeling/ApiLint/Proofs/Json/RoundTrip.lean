import ApiLint.Proofs.Json.Text
import ApiLint.Proofs.Node.Shape

/-!
# Reading undoes writing

A document of nothing but null, booleans, integers, strings, arrays and mappings with string keys is
written as a text that is read as the same document, in one line and over several lines.  The text
of a part is read in front of any text that does not go on with a number, so the parts of a document
can be taken one by one.

Main results:

- Theorem `readsAs_valueChars?`: the text of a part is read as that part.
- Theorem `ReadsAs.read_eq`: a text that is read as a part is a whole text of it.
- Theorem `read_write?`: the text of a document is read as that document.
-/

namespace ApiLint.Json

/-! ## Blanks -/

/-- Nothing but spaces and line feeds. -/
def AreBlank (cs : List Char) : Prop := ∀ c ∈ cs, c = ' ' ∨ c = '\n'

/-- Blanks have no carriage return. -/
theorem AreBlank.notMem {blanks : List Char} (hblanks : AreBlank blanks) : '\r' ∉ blanks := by
  intro hmem
  simpa using hblanks _ hmem

/-- A layout with nothing between the parts that counts. -/
structure Layout.IsBlank (layout : Layout) : Prop where
  colon : ∃ blanks, layout.colon = ':' :: blanks ∧ AreBlank blanks
  lineBreak : ∀ depth, AreBlank (layout.lineBreak depth)

theorem isBlank_compact : compact.IsBlank where
  colon := ⟨[], rfl, by simp [AreBlank]⟩
  lineBreak := by simp [AreBlank, compact]

theorem isBlank_indented : indented.IsBlank where
  colon := ⟨[' '], rfl, by simp [AreBlank]⟩
  lineBreak := by
    intro depth c hc
    rcases List.mem_cons.mp hc with rfl | hc
    · exact .inr rfl
    · exact .inl (List.eq_of_mem_replicate hc)

theorem Layout.IsBlank.notMem_colon {layout : Layout} (h : layout.IsBlank) :
    '\r' ∉ layout.colon := by
  obtain ⟨blanks, hcolon, hblanks⟩ := h.colon
  simp [hcolon, hblanks.notMem]

variable {layout : Layout} {depth : Nat} {blanks cs rest : List Char} {c : Char}

/-- Blanks are skipped, and nothing behind them. -/
theorem skipBlanks_append (hblanks : AreBlank blanks) (hc : isBlank c = false) (cs : List Char) :
    skipBlanks (blanks ++ c :: cs) = c :: cs := by
  have hall : ∀ d ∈ blanks, isBlank d = true := by
    intro d hd
    rcases hblanks d hd with rfl | rfl <;> rfl
  rw [skipBlanks, List.dropWhile_append_of_pos hall, List.dropWhile_cons_of_neg (by simp [hc])]

/-- Nothing but a few characters goes on with a number. -/
theorem endsNumber_cons (hdigit : Text.isAsciiDigit c = false) (hother : c ∉ ['.', 'e', 'E']) :
    EndsNumber (c :: cs) := by
  intro d hd
  cases hd
  simp only [List.mem_cons, List.not_mem_nil, or_false, not_or] at hother
  exact ⟨hdigit, hother⟩

/-- Blanks do not go on with a number. -/
theorem endsNumber_append (hblanks : AreBlank blanks) (hrest : EndsNumber rest) :
    EndsNumber (blanks ++ rest) := by
  cases blanks with
  | nil => exact hrest
  | cons d blanks =>
      rcases hblanks d List.mem_cons_self with rfl | rfl <;> exact endsNumber_cons rfl (by decide)

/-! ## Texts that are read as a value -/

/-- A text that is read as a value wherever nothing behind it goes on with a number. -/
structure ReadsAs (cs : List Char) (x : Node) : Prop where
  /-- Neither a blank nor the end of an array nor a byte order mark. -/
  start : ∃ c more, cs = c :: more ∧ isBlank c = false ∧ c ∉ [']', '\ufeff']
  /-- No carriage return, which the reader of a file would replace. -/
  noReturn : '\r' ∉ cs
  reads : ∀ {fuel rest}, cs.length ≤ fuel → EndsNumber rest →
    readValue fuel (cs ++ rest) = .ok (x, rest)

/-- A text that starts like no string, array or mapping is read as a word. -/
theorem readValue_eq_readWord (hc : c ∉ ['"', '[', '\x7b']) (fuel : Nat) (cs : List Char) :
    readValue (fuel + 1) (c :: cs) = readWord (c :: cs) := by
  simp only [List.mem_cons, List.not_mem_nil, or_false, not_or] at hc
  rw [readValue.eq_def]
  split
  · rename_i heq
    cases heq
  · rename_i heq
    cases heq
    exact absurd rfl hc.1
  · rename_i heq
    cases heq
    exact absurd rfl hc.2.1
  · rename_i heq
    cases heq
    exact absurd rfl hc.2.2
  · rfl

/-- A text that starts like no word is read as a number. -/
theorem readWord_eq_readNumber (hc : c ∉ ['n', 't', 'f', 'N', 'I'])
    (hsign : c = '-' → cs.head? ≠ some 'I') : readWord (c :: cs) = readNumber (c :: cs) := by
  simp only [List.mem_cons, List.not_mem_nil, or_false, not_or] at hc
  obtain ⟨hnull, htrue, hfalse, hnan, hinfinity⟩ := hc
  rw [readWord.eq_def]
  split
  · rename_i heq
    exact absurd (List.cons.inj heq).1 hnull
  · rename_i heq
    exact absurd (List.cons.inj heq).1 htrue
  · rename_i heq
    exact absurd (List.cons.inj heq).1 hfalse
  · rename_i heq
    exact absurd (List.cons.inj heq).1 hnan
  · rename_i heq
    exact absurd (List.cons.inj heq).1 hinfinity
  · rename_i heq
    obtain ⟨hminus, hmore⟩ := List.cons.inj heq
    exact absurd (by rw [hmore]; rfl) (hsign hminus)
  · rfl

/-- A digit is none of the characters that are not digits. -/
theorem notMem_of_isAsciiDigit (hc : Text.isAsciiDigit c = true) (others : List Char)
    (hothers : others.any Text.isAsciiDigit = false) : c ∉ others := by
  intro hmem
  exact List.any_eq_false.mp hothers c hmem hc

/-- A digit is no blank. -/
theorem isBlank_of_isAsciiDigit (hc : Text.isAsciiDigit c = true) : isBlank c = false := by
  have hnot := notMem_of_isAsciiDigit hc [' ', '\t', '\n', '\r'] rfl
  simpa [isBlank, and_assoc] using hnot

/-- The text of an integer starts with a digit, or with a minus sign and a digit. -/
theorem exists_digit_of_toString (n : Int) :
    ∃ c more, Text.isAsciiDigit c = true ∧
      ((toString n).toList = c :: more ∨ (toString n).toList = '-' :: c :: more) := by
  obtain ⟨c, more, hdigits⟩ :=
    List.exists_cons_of_ne_nil (Nat.toDigits_ne_nil (n := n.natAbs) (b := 10))
  have hdigit : Text.isAsciiDigit c = true :=
    Text.isAsciiDigit_of_mem_toDigits (hdigits ▸ List.mem_cons_self)
  refine ⟨c, more, hdigit, ?_⟩
  rw [toList_toString_int, hdigits]
  by_cases hneg : n < 0
  · rw [if_pos hneg]
    exact .inr rfl
  · rw [if_neg hneg]
    exact .inl rfl

/-- The text of an integer has no carriage return. -/
theorem notMem_toString_int (n : Int) : '\r' ∉ (toString n).toList := by
  have hdigits : '\r' ∉ Nat.toDigits 10 n.natAbs := by
    intro hmem
    exact absurd (Text.isAsciiDigit_of_mem_toDigits hmem) (by decide)
  rw [toList_toString_int]
  split
  · simpa using hdigits
  · exact hdigits

/-- The text of an integer without too many digits is read as that integer. -/
theorem readsAs_int {n : Int} (hn : isLongInteger n = false) :
    ReadsAs (toString n).toList (.int n) := by
  obtain ⟨c, more, hdigit, htext⟩ := exists_digit_of_toString n
  have hnot := notMem_of_isAsciiDigit hdigit
  refine ⟨?_, notMem_toString_int n, ?_⟩
  · rcases htext with htext | htext
    · exact ⟨c, more, htext, isBlank_of_isAsciiDigit hdigit, hnot _ rfl⟩
    · exact ⟨'-', c :: more, htext, rfl, by decide⟩
  · intro fuel rest hfuel hrest
    have hread := readNumber_toString hn hrest
    rw [← hread]
    rcases htext with htext | htext
    · rw [htext, List.length_cons] at hfuel
      obtain ⟨fuel, rfl⟩ := Nat.exists_eq_add_one_of_ne_zero (by omega : fuel ≠ 0)
      rw [htext, List.cons_append, readValue_eq_readWord (hnot _ rfl)]
      apply readWord_eq_readNumber (hnot _ rfl)
      rintro rfl
      cases hdigit
    · rw [htext, List.length_cons] at hfuel
      obtain ⟨fuel, rfl⟩ := Nat.exists_eq_add_one_of_ne_zero (by omega : fuel ≠ 0)
      rw [htext, List.cons_append, readValue_eq_readWord (by decide)]
      apply readWord_eq_readNumber (by decide)
      rintro - heq
      obtain rfl : c = 'I' := by simpa using heq
      cases hdigit

/-- A word is read as its value if it is read so as a word. -/
theorem readsAs_word {word : List Char} {x : Node} (hstart : c ∉ ['"', '[', '\x7b', ']', '\ufeff', '\r'])
    (hblank : isBlank c = false) (hreturn : '\r' ∉ word)
    (hread : ∀ rest, readWord (c :: (word ++ rest)) = .ok (x, rest)) : ReadsAs (c :: word) x where
  start := by
    refine ⟨c, word, rfl, hblank, ?_⟩
    intro hmem
    exact hstart (List.mem_append_right ['"', '[', '\x7b'] (List.mem_append_left ['\r'] hmem))
  noReturn := by
    intro hmem
    rcases List.mem_cons.mp hmem with rfl | hmem
    · exact hstart (by decide)
    · exact hreturn hmem
  reads := by
    intro fuel rest hfuel _
    rw [List.length_cons] at hfuel
    obtain ⟨fuel, rfl⟩ := Nat.exists_eq_add_one_of_ne_zero (by omega : fuel ≠ 0)
    have hword : c ∉ ['"', '[', '\x7b'] := by
      intro hmem
      exact hstart (List.mem_append_left [']', '\ufeff', '\r'] hmem)
    rw [List.cons_append, readValue_eq_readWord hword, hread]

/-- The text of a string is read as that string. -/
theorem readsAs_str (s : String) : ReadsAs (stringChars s) (.str s) where
  start := ⟨'"', _, rfl, rfl, by decide⟩
  noReturn := by
    simp [stringChars, notMem_escapedChar]
  reads := by
    intro fuel rest hfuel _
    obtain ⟨fuel, rfl⟩ := Nat.exists_eq_add_one_of_ne_zero (n := fuel) (by
      simp [stringChars] at hfuel
      omega)
    simp only [stringChars, List.append_assoc, List.cons_append, List.nil_append, readValue,
      readString_stringChars]

/-! ## Arrays -/

/-- The texts of the items after one that has been read, in front of the end of the array. -/
structure ItemsFollow (cs : List Char) (xs : List Node) : Prop where
  noReturn : '\r' ∉ cs
  reads : ∀ {first x}, ReadsAs first x → ∀ {fuel done blanks rest}, AreBlank blanks →
    first.length + cs.length < fuel →
      readItems fuel done (first ++ (cs ++ (blanks ++ ']' :: rest))) =
        .ok (.list (done.reverse ++ x :: xs), rest)

theorem itemsFollow_nil : ItemsFollow [] [] where
  noReturn := List.not_mem_nil
  reads := by
    intro first x hx fuel done blanks rest hblanks hfuel
    obtain ⟨fuel, rfl⟩ := Nat.exists_eq_add_one_of_ne_zero (by omega : fuel ≠ 0)
    have hend : EndsNumber (blanks ++ ']' :: rest) :=
      endsNumber_append hblanks (endsNumber_cons rfl (by decide))
    rw [List.nil_append, readItems, hx.reads (by omega) hend]
    simp only [skipBlanks_append hblanks (c := ']') rfl, List.reverse_cons]

theorem itemsFollow_cons {item others between : List Char} {y : Node} {ys : List Node}
    (hitem : ReadsAs item y) (hothers : ItemsFollow others ys) (hbetween : AreBlank between) :
    ItemsFollow (',' :: between ++ item ++ others) (y :: ys) where
  noReturn := by simp [hbetween.notMem, hitem.noReturn, hothers.noReturn]
  reads := by
    intro first x hx fuel done blanks rest hblanks hfuel
    simp only [List.length_append, List.length_cons] at hfuel
    obtain ⟨fuel, rfl⟩ := Nat.exists_eq_add_one_of_ne_zero (by omega : fuel ≠ 0)
    have hread := @hothers.reads _ _ hitem fuel (x :: done) _ rest hblanks (by omega)
    obtain ⟨c, more, rfl, hc, -⟩ := hitem.start
    simp only [List.append_assoc, List.cons_append] at hread ⊢
    rw [readItems, hx.reads (by omega) (endsNumber_cons rfl (by decide))]
    have hcomma : ∀ cs, skipBlanks (',' :: cs) = ',' :: cs := fun _ => rfl
    simp only [hcomma, skipBlanks_append hbetween hc, hread, List.reverse_cons, List.append_assoc,
      List.cons_append, List.nil_append]

/-- An array that does not end at once is read item by item. -/
theorem readValue_array (hblanks : AreBlank blanks) (hc : isBlank c = false) (hend : c ≠ ']')
    (fuel : Nat) (cs : List Char) :
    readValue (fuel + 1) ('[' :: (blanks ++ c :: cs)) = readItems fuel [] (c :: cs) := by
  rw [readValue, skipBlanks_append hblanks hc]
  split
  · rename_i heq
    exact absurd (List.cons.inj heq).1 hend
  · rfl

theorem readsAs_nil : ReadsAs ['[', ']'] (.list []) where
  start := ⟨'[', _, rfl, rfl, by decide⟩
  noReturn := by decide
  reads := by
    intro fuel rest hfuel _
    obtain ⟨fuel, rfl⟩ := Nat.exists_eq_add_of_lt (by exact hfuel : 1 < fuel)
    rfl

/-- The text of an array is read as that array. -/
theorem readsAs_list {first others between last : List Char} {x : Node} {xs : List Node}
    (hfirst : ReadsAs first x) (hothers : ItemsFollow others xs) (hbetween : AreBlank between)
    (hlast : AreBlank last) :
    ReadsAs ('[' :: between ++ first ++ others ++ last ++ [']']) (.list (x :: xs)) where
  start := ⟨'[', _, rfl, rfl, by decide⟩
  noReturn := by
    simp [hbetween.notMem, hlast.notMem, hfirst.noReturn, hothers.noReturn]
  reads := by
    intro fuel rest hfuel _
    simp only [List.length_append, List.length_cons, List.length_nil] at hfuel
    obtain ⟨fuel, rfl⟩ := Nat.exists_eq_add_one_of_ne_zero (by omega : fuel ≠ 0)
    have hread := @hothers.reads _ _ hfirst fuel [] _ rest hlast (by omega)
    obtain ⟨c, more, rfl, hc, hend⟩ := hfirst.start
    simp only [List.append_assoc, List.cons_append, List.nil_append] at hread ⊢
    rw [readValue_array hbetween hc (List.ne_of_not_mem_cons hend), hread]
    rfl

/-! ## Mappings -/

/-- A new key is put at the end. -/
theorem insertEntry_of_new {s : String} {entries : List (Node × Node)}
    (hnew : ∀ entry ∈ entries, entry.1 ≠ .str s) (x : Node) :
    Node.insertEntry (.str s) x entries = entries ++ [(.str s, x)] := by
  induction entries with
  | nil => rfl
  | cons entry entries ih =>
      rw [List.forall_mem_cons] at hnew
      rw [Node.insertEntry, if_neg (mt Node.str_equiv_iff.mp hnew.1), ih hnew.2, List.cons_append]

/-- Keys that are strings and not repeated are pairwise different. -/
theorem pairwise_keys {entries : List (Node × Node)} (hstrings : Node.keysAreStrings entries = true)
    (hdistinct : Node.keysAreDistinct entries = true) :
    entries.Pairwise fun a b => a.1 ≠ b.1 := by
  induction entries with
  | nil => exact .nil
  | cons entry entries ih =>
      obtain ⟨s, hs⟩ := Node.exists_str_of_mem hstrings List.mem_cons_self
      obtain ⟨key, x⟩ := entry
      obtain rfl : key = .str s := hs
      rw [Node.keysAreDistinct, Bool.and_eq_true] at hdistinct
      rw [Node.keysAreStrings, List.all_cons, Bool.and_eq_true] at hstrings
      refine .cons ?_ (ih hstrings.2 hdistinct.2)
      rintro ⟨other, y⟩ hmem rfl
      have hfound := Node.lookupKey_of_mem hdistinct.2 hmem
      rw [hfound] at hdistinct
      cases hdistinct.1

/-- In front of an entry all keys differ from its own. -/
theorem forall_ne_of_pairwise {done entries : List (Node × Node)} {entry : Node × Node}
    (hkeys : (done ++ entry :: entries).Pairwise fun a b => a.1 ≠ b.1) :
    ∀ other ∈ done, other.1 ≠ entry.1 := by
  intro other hother
  exact (List.pairwise_append.mp hkeys).2.2 other hother entry List.mem_cons_self

/-- Blanks in front of a string are skipped. -/
theorem skipBlanks_append_stringChars (hblanks : AreBlank blanks) (s : String) (cs : List Char) :
    skipBlanks (blanks ++ (stringChars s ++ cs)) = stringChars s ++ cs :=
  skipBlanks_append hblanks rfl _

/-- The texts of the entries after one that has been read, in front of the end of the mapping. -/
structure EntriesFollow (layout : Layout) (cs : List Char) (entries : List (Node × Node)) : Prop where
  noReturn : '\r' ∉ cs
  reads : ∀ {name first x}, ReadsAs first x → ∀ {fuel done blanks rest}, AreBlank blanks →
    first.length + cs.length + 1 < fuel →
      ((done ++ (.str name, x) :: entries).Pairwise fun a b => a.1 ≠ b.1) →
        readEntries fuel done
            (stringChars name ++ (layout.colon ++ (first ++ (cs ++ (blanks ++ '\x7d' :: rest))))) =
          .ok (.map (done ++ (.str name, x) :: entries), rest)

/-- What entries are when some have been read, with the text behind the last of them. -/
def entriesBehind (fuel : Nat) (done : List (Node × Node)) (rest : List Char) : Step Node :=
  match skipBlanks rest with
  | '\x7d' :: after => .ok (.map done, after)
  | ',' :: after => readEntries fuel done (skipBlanks after)
  | after => .error (.malformed .comma after)

/-- Reading an entry goes on behind its value. -/
theorem readEntries_eq (hlayout : layout.IsBlank) {name : String} {first : List Char} {x : Node}
    (hfirst : ReadsAs first x) {fuel : Nat} (hfuel : first.length ≤ fuel) (hrest : EndsNumber rest)
    {done : List (Node × Node)} (hnew : ∀ entry ∈ done, entry.1 ≠ .str name) :
    readEntries (fuel + 1) done (stringChars name ++ (layout.colon ++ (first ++ rest))) =
      entriesBehind fuel (done ++ [(.str name, x)]) rest := by
  obtain ⟨blanks, hcolon, hblanks⟩ := hlayout.colon
  obtain ⟨c, more, hstart, hc, -⟩ := hfirst.start
  have hskip : skipBlanks (blanks ++ (first ++ rest)) = first ++ rest := by
    rw [hstart, List.cons_append]
    exact skipBlanks_append hblanks hc _
  have hmark : ∀ cs, skipBlanks (':' :: cs) = ':' :: cs := fun _ => rfl
  simp only [hcolon, stringChars, List.append_assoc, List.cons_append, List.nil_append, readEntries,
    readString_stringChars, hmark, hskip, hfirst.reads hfuel hrest, insertEntry_of_new hnew]
  rfl

theorem entriesFollow_nil (hlayout : layout.IsBlank) : EntriesFollow layout [] [] where
  noReturn := List.not_mem_nil
  reads := by
    intro name first x hx fuel done blanks rest hblanks hfuel hkeys
    obtain ⟨fuel, rfl⟩ := Nat.exists_eq_add_one_of_ne_zero (by omega : fuel ≠ 0)
    have hend : EndsNumber (blanks ++ '\x7d' :: rest) :=
      endsNumber_append hblanks (endsNumber_cons rfl (by decide))
    rw [List.nil_append, readEntries_eq hlayout hx (by omega) hend (forall_ne_of_pairwise hkeys)]
    simp only [entriesBehind, skipBlanks_append hblanks (c := '\x7d') rfl]

theorem entriesFollow_cons (hlayout : layout.IsBlank) {name : String}
    {value others between : List Char} {y : Node} {entries : List (Node × Node)}
    (hvalue : ReadsAs value y) (hothers : EntriesFollow layout others entries)
    (hbetween : AreBlank between) :
    EntriesFollow layout
      (',' :: between ++ stringChars name ++ layout.colon ++ value ++ others)
      ((.str name, y) :: entries) where
  noReturn := by
    simp [hbetween.notMem, hlayout.notMem_colon, (readsAs_str name).noReturn, hvalue.noReturn,
      hothers.noReturn]
  reads := by
    intro firstName first x hx fuel done blanks rest hblanks hfuel hkeys
    simp only [List.length_append, List.length_cons] at hfuel
    obtain ⟨fuel, rfl⟩ := Nat.exists_eq_add_one_of_ne_zero (by omega : fuel ≠ 0)
    have hmore : (done ++ [(.str firstName, x)]) ++ (.str name, y) :: entries =
        done ++ (.str firstName, x) :: (.str name, y) :: entries := by simp
    have hread := @hothers.reads name _ _ hvalue fuel (done ++ [(.str firstName, x)]) _ rest hblanks
      (by omega) (by rwa [hmore])
    rw [hmore] at hread
    simp only [List.append_assoc, List.cons_append] at hread ⊢
    rw [readEntries_eq hlayout hx (by omega) (endsNumber_cons rfl (by decide))
      (forall_ne_of_pairwise hkeys)]
    have hcomma : ∀ cs, skipBlanks (',' :: cs) = ',' :: cs := fun _ => rfl
    simp only [entriesBehind, hcomma, skipBlanks_append_stringChars hbetween, hread]

theorem readsAs_empty : ReadsAs ['\x7b', '\x7d'] (.map []) where
  start := ⟨'\x7b', _, rfl, rfl, by decide⟩
  noReturn := by decide
  reads := by
    intro fuel rest hfuel _
    obtain ⟨fuel, rfl⟩ := Nat.exists_eq_add_of_lt (by exact hfuel : 1 < fuel)
    rfl

/-- The text of a mapping is read as that mapping. -/
theorem readsAs_map (hlayout : layout.IsBlank) {name : String}
    {first others between last : List Char} {x : Node} {entries : List (Node × Node)}
    (hfirst : ReadsAs first x) (hothers : EntriesFollow layout others entries)
    (hbetween : AreBlank between) (hlast : AreBlank last)
    (hkeys : ((Node.str name, x) :: entries).Pairwise fun a b => a.1 ≠ b.1) :
    ReadsAs
      ('\x7b' :: between ++ stringChars name ++ layout.colon ++ first ++ others ++ last ++ ['\x7d'])
      (.map ((.str name, x) :: entries)) where
  start := ⟨'\x7b', _, rfl, rfl, by decide⟩
  noReturn := by
    simp [hbetween.notMem, hlast.notMem, hlayout.notMem_colon, (readsAs_str name).noReturn,
      hfirst.noReturn, hothers.noReturn]
  reads := by
    intro fuel rest hfuel _
    simp only [List.length_append, List.length_cons, List.length_nil] at hfuel
    obtain ⟨fuel, rfl⟩ := Nat.exists_eq_add_one_of_ne_zero (by omega : fuel ≠ 0)
    have hname : 0 < (stringChars name).length := Nat.zero_lt_succ _
    have hread := @hothers.reads name _ _ hfirst fuel [] _ rest hlast (by omega) hkeys
    simp only [List.append_assoc, List.cons_append, List.nil_append] at hread ⊢
    rw [readValue, skipBlanks_append_stringChars hbetween]
    exact hread

/-! ## Documents -/

mutual

/-- The text of a part of a document is read as that part. -/
theorem readsAs_valueChars? (hlayout : layout.IsBlank) (depth : Nat) :
    ∀ {x : Node}, x.everywhere Node.isJsonPart = true →
      ∃ cs, valueChars? layout depth x = some cs ∧ ReadsAs cs x
  | .null, _ => ⟨_, rfl, readsAs_word (by decide) rfl (by decide) fun _ => rfl⟩
  | .bool true, _ => ⟨_, rfl, readsAs_word (by decide) rfl (by decide) fun _ => rfl⟩
  | .bool false, _ => ⟨_, rfl, readsAs_word (by decide) rfl (by decide) fun _ => rfl⟩
  | .int n, h => ⟨_, rfl, readsAs_int (by simpa [Node.everywhere, Node.isJsonPart] using h)⟩
  | .str s, _ => ⟨_, rfl, readsAs_str s⟩
  | .list [], _ => ⟨_, rfl, readsAs_nil⟩
  | .map [], _ => ⟨_, rfl, readsAs_empty⟩
  | .list (x :: xs), h => by
      simp only [Node.everywhere, Node.inItems, Bool.and_eq_true] at h
      obtain ⟨first, hfirst, hreads⟩ := readsAs_valueChars? hlayout (depth + 1) h.2.1
      obtain ⟨others, hothers, hfollow⟩ := itemsFollow_itemsChars? hlayout (depth + 1) h.2.2
      refine ⟨_, by rw [valueChars?, hfirst, hothers]; rfl, ?_⟩
      exact readsAs_list hreads hfollow (hlayout.lineBreak _) (hlayout.lineBreak _)
  | .map ((key, x) :: entries), h => by
      simp only [Node.everywhere, Node.inValues, Node.isJsonPart, Bool.and_eq_true] at h
      obtain ⟨⟨hstrings, hdistinct⟩, hx, hentries⟩ := h
      obtain ⟨s, hs⟩ := Node.exists_str_of_mem hstrings List.mem_cons_self
      obtain rfl : key = .str s := hs
      have hkeys := pairwise_keys hstrings hdistinct
      rw [Node.keysAreStrings, List.all_cons, Bool.and_eq_true] at hstrings
      obtain ⟨first, hfirst, hreads⟩ := readsAs_valueChars? hlayout (depth + 1) hx
      obtain ⟨others, hothers, hfollow⟩ :=
        entriesFollow_entriesChars? hlayout (depth + 1) hstrings.2 hentries
      refine ⟨_, by rw [valueChars?, entryName?, hfirst, hothers]; rfl, ?_⟩
      exact readsAs_map hlayout hreads hfollow (hlayout.lineBreak _) (hlayout.lineBreak _) hkeys

/-- The texts of further items are read behind an item. -/
theorem itemsFollow_itemsChars? (hlayout : layout.IsBlank) (depth : Nat) :
    ∀ {xs : List Node}, Node.inItems Node.isJsonPart xs = true →
      ∃ cs, itemsChars? layout depth xs = some cs ∧ ItemsFollow cs xs
  | [], _ => ⟨_, rfl, itemsFollow_nil⟩
  | x :: xs, h => by
      simp only [Node.inItems, Bool.and_eq_true] at h
      obtain ⟨item, hitem, hreads⟩ := readsAs_valueChars? hlayout depth h.1
      obtain ⟨others, hothers, hfollow⟩ := itemsFollow_itemsChars? hlayout depth h.2
      refine ⟨_, by rw [itemsChars?, hitem, hothers]; rfl, ?_⟩
      exact itemsFollow_cons hreads hfollow (hlayout.lineBreak _)

/-- The texts of further entries are read behind an entry. -/
theorem entriesFollow_entriesChars? (hlayout : layout.IsBlank) (depth : Nat) :
    ∀ {entries : List (Node × Node)}, Node.keysAreStrings entries = true →
      Node.inValues Node.isJsonPart entries = true →
        ∃ cs, entriesChars? layout depth entries = some cs ∧ EntriesFollow layout cs entries
  | [], _, _ => ⟨_, rfl, entriesFollow_nil hlayout⟩
  | (key, x) :: entries, hstrings, h => by
      simp only [Node.inValues, Bool.and_eq_true] at h
      obtain ⟨s, hs⟩ := Node.exists_str_of_mem hstrings List.mem_cons_self
      obtain rfl : key = .str s := hs
      rw [Node.keysAreStrings, List.all_cons, Bool.and_eq_true] at hstrings
      obtain ⟨value, hvalue, hreads⟩ := readsAs_valueChars? hlayout depth h.1
      obtain ⟨others, hothers, hfollow⟩ :=
        entriesFollow_entriesChars? hlayout depth hstrings.2 h.2
      refine ⟨_, by rw [entriesChars?, entryName?, hvalue, hothers]; rfl, ?_⟩
      exact entriesFollow_cons hlayout hreads hfollow (hlayout.lineBreak _)

end

/-- A text that is read as a value on its own is a whole text of that value. -/
theorem ReadsAs.read_eq {x : Node} (h : ReadsAs cs x) : read (String.ofList cs) = .ok x := by
  obtain ⟨c, more, rfl, hblank, hmark⟩ := h.start
  have hskip : skipBlanks (c :: more) = c :: more :=
    skipBlanks_append (by simp [AreBlank] : AreBlank []) hblank more
  have hread : readValue (2 * (c :: more).length + 2) (c :: more) = .ok (x, []) := by
    have hall := @h.reads (2 * (c :: more).length + 2) [] (by omega) (by simp [EndsNumber])
    rwa [List.append_nil] at hall
  have htext : readText (c :: more) = .ok x := by
    rw [readText.eq_def]
    split
    · rename_i heq
      obtain rfl := (List.cons.inj heq).1
      exact absurd (by decide) hmark
    · simp only [hskip, hread]
      rfl
  rw [read, String.toList_ofList, htext]

/-- A document is written as a text without carriage returns that is read as that document. -/
theorem read_write? (hlayout : layout.IsBlank) {x : Node} (hx : x.isJson = true) :
    ∃ text, write? layout x = some text ∧ '\r' ∉ text.toList ∧ read text = .ok x := by
  obtain ⟨cs, hcs, hreads⟩ := readsAs_valueChars? hlayout 0 hx
  exact ⟨String.ofList cs, by rw [write?, hcs]; rfl, by simpa using hreads.noReturn, hreads.read_eq⟩

end ApiLint.Json
