import ApiLint.Pointer.Segment

/-!
# Laws of pointer segments

Writing a segment removes every slash from it, and reading undoes writing.  Therefore a text in
which written segments follow one another, each after a slash, can be split again into the same
segments.

Main results:

- Theorem `unescapeChars_escapeChars`: reading a written segment gives the segment back.
- Theorem `unescapeChars_eq_self`: what is read without a tilde and a slash was written as it is.
- Theorem `splitAt_append_separator`: a text is split at each separator on its own.
- Theorem `splitAt_flatMap_cons`: splitting undoes joining for parts without the separator.
- Theorem `flatMap_splitAt`: joining undoes splitting.
-/

namespace ApiLint.Segment

/-! ## Replacements -/

/-- A character that cannot start the pair is copied. -/
theorem replacePair_cons_of_ne {first second replacement c : Char} (hc : c ≠ first)
    (cs : List Char) :
    replacePair first second replacement (c :: cs) =
      c :: replacePair first second replacement cs := by
  cases cs with
  | nil => rfl
  | cons d ds => simp [replacePair, hc]

/-- The pair is replaced where it stands. -/
theorem replacePair_pair (first second replacement : Char) (cs : List Char) :
    replacePair first second replacement (first :: second :: cs)
      = replacement :: replacePair first second replacement cs := by
  simp [replacePair]

/-- The first character of the pair is copied when another one than the second follows. -/
theorem replacePair_first_of_ne {first second replacement d : Char} (hd : d ≠ second)
    (cs : List Char) :
    replacePair first second replacement (first :: d :: cs)
      = first :: replacePair first second replacement (d :: cs) := by
  simp [replacePair, hd]

/-- A text that starts like the pair starts so afterwards, or with the replacement. -/
theorem exists_replacePair_first (first second replacement : Char) (cs : List Char) :
    ∃ c rest, replacePair first second replacement (first :: cs) = c :: rest ∧
      (c = first ∨ c = replacement) := by
  cases cs with
  | nil => exact ⟨first, [], rfl, .inl rfl⟩
  | cons d cs =>
      by_cases hd : d = second
      · subst hd
        exact ⟨_, _, replacePair_pair first d replacement cs, .inr rfl⟩
      · exact ⟨_, _, replacePair_first_of_ne hd cs, .inl rfl⟩

theorem expandChar_cons (single first second c : Char) (cs : List Char) :
    expandChar single first second (c :: cs)
      = (if c = single then [first, second] else [c]) ++ expandChar single first second cs := by
  simp [expandChar]

/-! ## Reading what was written -/

/--
Putting the slashes back leaves the tildes as they were written: after every tilde stands a zero, so
the pair of a slash arises only where a slash was.
-/
theorem replacePair_slash_escapeChars (cs : List Char) :
    replacePair '~' '1' '/' (escapeChars cs) = expandChar '~' '~' '0' cs := by
  induction cs with
  | nil => rfl
  | cons c cs ih =>
      unfold escapeChars at ih ⊢
      by_cases htilde : c = '~'
      · subst htilde
        simp only [expandChar_cons, if_true, List.cons_append, List.nil_append]
        rw [if_neg (by decide), if_neg (by decide)]
        simp only [List.cons_append, List.nil_append]
        rw [replacePair_first_of_ne (by decide), replacePair_cons_of_ne (by decide), ih]
      · rw [expandChar_cons '~', if_neg htilde, List.singleton_append, expandChar_cons '/']
        by_cases hslash : c = '/'
        · subst hslash
          rw [if_pos rfl, List.cons_append, List.singleton_append, replacePair_pair, ih]
        · rw [if_neg hslash, List.singleton_append, replacePair_cons_of_ne htilde, ih]

/-- Putting the tildes back gives the text that they were expanded in. -/
theorem replacePair_expandChar (cs : List Char) :
    replacePair '~' '0' '~' (expandChar '~' '~' '0' cs) = cs := by
  induction cs with
  | nil => rfl
  | cons c cs ih =>
      rw [expandChar_cons]
      by_cases htilde : c = '~'
      · subst htilde
        rw [if_pos rfl, List.cons_append, List.singleton_append, replacePair_pair, ih]
      · rw [if_neg htilde, List.singleton_append, replacePair_cons_of_ne htilde, ih]

/-- Reading a written segment gives the segment back. -/
@[simp]
theorem unescapeChars_escapeChars (cs : List Char) : unescapeChars (escapeChars cs) = cs := by
  unfold unescapeChars
  rw [replacePair_slash_escapeChars, replacePair_expandChar]

/-- A written segment holds no slash. -/
theorem slash_notMem_escapeChars (cs : List Char) : '/' ∉ escapeChars cs := by
  intro hmem
  unfold escapeChars expandChar at hmem
  obtain ⟨c, -, hc⟩ := List.mem_flatMap.mp hmem
  by_cases hslash : c = '/'
  · rw [if_pos hslash] at hc
    exact absurd hc (by decide)
  · rw [if_neg hslash, List.mem_singleton] at hc
    exact hslash hc.symm

/-! ## Character by character -/

theorem escapeChars_tilde (cs : List Char) :
    escapeChars ('~' :: cs) = '~' :: '0' :: escapeChars cs := by
  simp [escapeChars, expandChar]

theorem escapeChars_slash (cs : List Char) :
    escapeChars ('/' :: cs) = '~' :: '1' :: escapeChars cs := by
  simp [escapeChars, expandChar]

theorem escapeChars_cons_of_ne {c : Char} (htilde : c ≠ '~') (hslash : c ≠ '/') (cs : List Char) :
    escapeChars (c :: cs) = c :: escapeChars cs := by
  simp [escapeChars, expandChar, htilde, hslash]

theorem unescapeChars_tilde_zero (cs : List Char) :
    unescapeChars ('~' :: '0' :: cs) = '~' :: unescapeChars cs := by
  unfold unescapeChars
  rw [replacePair_first_of_ne (d := '0') (by decide),
    replacePair_cons_of_ne (c := '0') (by decide), replacePair_pair]

theorem unescapeChars_tilde_one (cs : List Char) :
    unescapeChars ('~' :: '1' :: cs) = '/' :: unescapeChars cs := by
  unfold unescapeChars
  rw [replacePair_pair, replacePair_cons_of_ne (by decide)]

theorem unescapeChars_cons_of_ne {c : Char} (htilde : c ≠ '~') (cs : List Char) :
    unescapeChars (c :: cs) = c :: unescapeChars cs := by
  unfold unescapeChars
  rw [replacePair_cons_of_ne htilde, replacePair_cons_of_ne htilde]

/-- A tilde is read as a tilde or a slash, with what follows it or without. -/
theorem exists_unescapeChars_tilde (cs : List Char) :
    ∃ c rest, unescapeChars ('~' :: cs) = c :: rest ∧ (c = '~' ∨ c = '/') := by
  obtain ⟨c, rest, hfirst, hc⟩ := exists_replacePair_first '~' '1' '/' cs
  rw [unescapeChars, hfirst]
  rcases hc with rfl | rfl
  · obtain ⟨d, more, hsecond, hd⟩ := exists_replacePair_first '~' '0' '~' rest
    exact ⟨d, more, hsecond, .inl (or_self_iff.mp hd)⟩
  · exact ⟨_, _, replacePair_cons_of_ne (by decide) rest, .inr rfl⟩

/-- What is read without a tilde and a slash was written as it is. -/
theorem unescapeChars_eq_self {cs : List Char} (htilde : '~' ∉ unescapeChars cs)
    (hslash : '/' ∉ unescapeChars cs) : unescapeChars cs = cs := by
  induction cs with
  | nil => rfl
  | cons c cs ih =>
      by_cases hc : c = '~'
      · subst hc
        obtain ⟨d, rest, hread, hd⟩ := exists_unescapeChars_tilde cs
        rw [hread] at htilde hslash
        rcases hd with rfl | rfl
        · exact absurd List.mem_cons_self htilde
        · exact absurd List.mem_cons_self hslash
      · rw [unescapeChars_cons_of_ne hc, List.mem_cons, not_or] at htilde hslash
        rw [unescapeChars_cons_of_ne hc, ih htilde.2 hslash.2]

/-! ## Splitting -/

/-- Splitting leaves at least one part. -/
theorem exists_splitAt_eq_cons (separator : Char) (cs : List Char) :
    ∃ part parts, splitAt separator cs = part :: parts := by
  cases cs with
  | nil => exact ⟨[], [], rfl⟩
  | cons c cs =>
      rw [splitAt]
      split
      · exact ⟨_, _, rfl⟩
      · split <;> exact ⟨_, _, rfl⟩

/-- Another character than the separator goes to the first part of what follows. -/
theorem splitAt_cons_of_ne {separator c : Char} (hc : c ≠ separator) {cs part : List Char}
    {parts : List (List Char)} (h : splitAt separator cs = part :: parts) :
    splitAt separator (c :: cs) = (c :: part) :: parts := by
  rw [splitAt, if_neg hc, h]

theorem splitAt_separator (separator : Char) (cs : List Char) :
    splitAt separator (separator :: cs) = [] :: splitAt separator cs := by
  rw [splitAt, if_pos rfl]

/-- The parts before a separator and those behind it are the parts of the whole text. -/
theorem splitAt_append_separator (separator : Char) (cs ds : List Char) :
    splitAt separator (cs ++ separator :: ds) = splitAt separator cs ++ splitAt separator ds := by
  induction cs with
  | nil => exact splitAt_separator separator ds
  | cons c cs ih =>
      by_cases hc : c = separator
      · subst hc
        rw [List.cons_append, splitAt_separator, splitAt_separator, ih, List.cons_append]
      · obtain ⟨part, parts, hparts⟩ := exists_splitAt_eq_cons separator cs
        rw [hparts, List.cons_append] at ih
        rw [List.cons_append, splitAt_cons_of_ne hc ih, splitAt_cons_of_ne hc hparts,
          List.cons_append]

/-- A text without the separator is one part. -/
theorem splitAt_of_notMem {separator : Char} {part : List Char} (h : separator ∉ part) :
    splitAt separator part = [part] := by
  induction part with
  | nil => rfl
  | cons c cs ih =>
      rw [List.mem_cons, not_or] at h
      rw [splitAt, if_neg (Ne.symm h.1), ih h.2]

/-- Splitting undoes joining for parts without the separator. -/
theorem splitAt_flatMap_cons {separator : Char} (part : List Char) (parts : List (List Char))
    (h : ∀ p ∈ part :: parts, separator ∉ p) :
    splitAt separator (part ++ parts.flatMap (separator :: ·)) = part :: parts := by
  have hpart : splitAt separator part = [part] := splitAt_of_notMem (h part List.mem_cons_self)
  induction parts generalizing part with
  | nil => rw [List.flatMap_nil, List.append_nil, hpart]
  | cons next parts ih =>
      have hothers : ∀ p ∈ next :: parts, separator ∉ p := fun p hp => h p (List.mem_cons_of_mem _ hp)
      rw [List.flatMap_cons, List.cons_append, splitAt_append_separator, hpart,
        ih next hothers (splitAt_of_notMem (hothers next List.mem_cons_self)), List.singleton_append]

/-- Joining undoes splitting. -/
theorem flatMap_splitAt (separator : Char) (cs : List Char) :
    (splitAt separator cs).flatMap (separator :: ·) = separator :: cs := by
  induction cs with
  | nil => rfl
  | cons c cs ih =>
      by_cases hc : c = separator
      · subst hc
        rw [splitAt_separator, List.flatMap_cons, ih, List.singleton_append]
      · obtain ⟨part, parts, hparts⟩ := exists_splitAt_eq_cons separator cs
        rw [hparts, List.flatMap_cons, List.cons_append] at ih
        rw [splitAt_cons_of_ne hc hparts, List.flatMap_cons, List.cons_append, List.cons_append,
          (List.cons.inj ih).2]

/-- No part holds the separator. -/
theorem notMem_of_mem_splitAt {separator : Char} {cs p : List Char}
    (h : p ∈ splitAt separator cs) : separator ∉ p := by
  induction cs generalizing p with
  | nil =>
      rw [List.mem_singleton.mp h]
      exact List.not_mem_nil
  | cons c cs ih =>
      by_cases hc : c = separator
      · subst hc
        rw [splitAt_separator] at h
        rcases List.mem_cons.mp h with rfl | hrest
        · exact List.not_mem_nil
        · exact ih hrest
      · obtain ⟨part, parts, hparts⟩ := exists_splitAt_eq_cons separator cs
        rw [hparts] at ih
        rw [splitAt_cons_of_ne hc hparts] at h
        rcases List.mem_cons.mp h with rfl | hrest
        · rw [List.mem_cons, not_or]
          exact ⟨Ne.symm hc, ih List.mem_cons_self⟩
        · exact ih (List.mem_cons_of_mem part hrest)

/-- The first part starts like the text, unless that starts with the separator. -/
theorem head?_of_splitAt {separator d : Char} {cs part : List Char} {parts : List (List Char)}
    (h : splitAt separator cs = part :: parts) (hd : d ≠ separator) (hhead : cs.head? = some d) :
    part.head? = some d := by
  cases cs with
  | nil => cases hhead
  | cons c cs =>
      obtain rfl : c = d := by simpa using hhead
      obtain ⟨front, others, hrest⟩ := exists_splitAt_eq_cons separator cs
      rw [splitAt_cons_of_ne hd hrest] at h
      rw [← (List.cons.inj h).1]
      rfl

end ApiLint.Segment
