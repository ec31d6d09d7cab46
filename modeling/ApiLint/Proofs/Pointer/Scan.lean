import ApiLint.Proofs.Pointer.Segment

/-!
# Segments in one pass

A segment is a row of marks: escapes, and characters that start none.  The marks are determined by the
segment, since a tilde before a zero or a one always belongs to an escape.  Reading replaces first the
escapes of slashes and then those of tildes; because a slash is never part of an escape, and a tilde that
starts none is not followed by a zero afterwards either, this gives the meanings of the marks one after
the other.

Main results:

- Theorem `isScan_iff`: a segment is read as one row of marks.
- Theorem `unescapeChars_eq_decode`: two replacements are one pass.
- Theorem `unescape_eq_decode`: both for a segment as a text.
-/

namespace ApiLint.Segment

/-! ## Marks -/

/-- Does a text start with a digit that makes an escape of a tilde before it? -/
def ContinuesEscape (cs : List Char) : Prop := cs.head? = some '0' ∨ cs.head? = some '1'

/--
Are these the marks of a segment?  Written one behind the other they are the segment, and no tilde that
stands alone could start an escape with what follows it.
-/
structure IsScan (cs : List Char) (row : List Mark) : Prop where
  written : row.flatMap Mark.written = cs
  greedy : ∀ before after, row = before ++ .plain '~' :: after →
    ¬ ContinuesEscape (after.flatMap Mark.written)

variable {c : Char} {cs : List Char} {mark : Mark} {row : List Mark}

theorem marks_slash (cs : List Char) : marks ('~' :: '1' :: cs) = .slash :: marks cs := by
  rw [marks]

theorem marks_tilde (cs : List Char) : marks ('~' :: '0' :: cs) = .tilde :: marks cs := by
  rw [marks]

/-- A character that starts no escape is a mark of its own. -/
theorem marks_plain (h : c = '~' → ¬ ContinuesEscape cs) : marks (c :: cs) = .plain c :: marks cs := by
  rw [marks]
  · rintro rest rfl rfl
    exact h rfl (.inr rfl)
  · rintro rest rfl rfl
    exact h rfl (.inl rfl)

/-- The first mark of a segment is found first. -/
theorem marks_written_append (h : mark = .plain '~' → ¬ ContinuesEscape cs) :
    marks (mark.written ++ cs) = mark :: marks cs := by
  cases mark with
  | slash => exact marks_slash cs
  | tilde => exact marks_tilde cs
  | plain c => exact marks_plain fun hc => h (by rw [hc])

/-- A mark in front keeps a row of marks one if a tilde alone does not meet a digit of an escape. -/
theorem isScan_cons_iff :
    IsScan cs (mark :: row) ↔
      ∃ rest, cs = mark.written ++ rest ∧ (mark = .plain '~' → ¬ ContinuesEscape rest) ∧
        IsScan rest row := by
  constructor
  · rintro ⟨rfl, hgreedy⟩
    refine ⟨row.flatMap Mark.written, rfl, fun hmark => hgreedy [] row (by rw [hmark]; rfl), rfl, ?_⟩
    rintro before after rfl
    exact hgreedy (mark :: before) after rfl
  · rintro ⟨_, rfl, hfirst, rfl, hgreedy⟩
    refine ⟨rfl, fun before after hrow => ?_⟩
    cases before with
    | nil =>
        obtain ⟨hmark, rfl⟩ := List.cons.inj hrow
        exact hfirst hmark
    | cons _ before =>
        obtain ⟨-, rfl⟩ := List.cons.inj hrow
        exact hgreedy before after rfl

/-- A row of marks is what the pass finds. -/
theorem marks_of_isScan (h : IsScan cs row) : marks cs = row := by
  induction row generalizing cs with
  | nil =>
      obtain ⟨rfl, -⟩ := h
      rfl
  | cons mark row ih =>
      obtain ⟨rest, rfl, hfirst, hrest⟩ := isScan_cons_iff.mp h
      rw [marks_written_append hfirst, ih hrest]

/-- The pass finds a row of marks. -/
theorem isScan_marks (cs : List Char) : IsScan cs (marks cs) := by
  fun_induction marks cs with
  | case1 rest ih => exact isScan_cons_iff.mpr ⟨rest, rfl, by rintro ⟨⟩, ih⟩
  | case2 rest ih => exact isScan_cons_iff.mpr ⟨rest, rfl, by rintro ⟨⟩, ih⟩
  | case3 c rest hone hzero ih =>
      refine isScan_cons_iff.mpr ⟨rest, rfl, ?_, ih⟩
      rintro ⟨⟩ (hhead | hhead)
      · obtain ⟨more, rfl⟩ := List.head?_eq_some_iff.mp hhead
        exact hzero more rfl rfl
      · obtain ⟨more, rfl⟩ := List.head?_eq_some_iff.mp hhead
        exact hone more rfl rfl
  | case4 => exact ⟨rfl, by simp⟩

/-- A segment is read as one row of marks and as no other. -/
theorem isScan_iff : IsScan cs row ↔ marks cs = row :=
  ⟨marks_of_isScan, fun h => h ▸ isScan_marks cs⟩

/-! ## Reading -/

/-- A tilde that starts no escape is read as it is, and what follows it is read on its own. -/
theorem unescapeChars_tilde_alone (h : ¬ ContinuesEscape cs) :
    unescapeChars ('~' :: cs) = '~' :: unescapeChars cs := by
  cases cs with
  | nil => rfl
  | cons d cs =>
      have hzero : d ≠ '0' := by
        rintro rfl
        exact h (.inl rfl)
      have hone : d ≠ '1' := by
        rintro rfl
        exact h (.inr rfl)
      unfold unescapeChars
      rw [replacePair_first_of_ne hone]
      -- The first replacement puts no zero behind the tilde: a character other than a tilde is copied,
      -- and from a tilde comes a tilde or a slash.
      by_cases hd : d = '~'
      · subst hd
        obtain ⟨e, rest, hfirst, he⟩ := exists_replacePair_first '~' '1' '/' cs
        rw [hfirst, replacePair_first_of_ne (by rcases he with rfl | rfl <;> decide)]
      · rw [replacePair_cons_of_ne hd, replacePair_first_of_ne hzero]

/-- The first mark of a segment is read as its meaning. -/
theorem unescapeChars_written_append (h : mark = .plain '~' → ¬ ContinuesEscape cs) :
    unescapeChars (mark.written ++ cs) = mark.meaning :: unescapeChars cs := by
  cases mark with
  | slash => exact unescapeChars_tilde_one cs
  | tilde => exact unescapeChars_tilde_zero cs
  | plain c =>
      by_cases hc : c = '~'
      · subst hc
        exact unescapeChars_tilde_alone (h rfl)
      · exact unescapeChars_cons_of_ne hc cs

/-- Marks are read as their meanings. -/
theorem unescapeChars_of_isScan (h : IsScan cs row) : unescapeChars cs = row.map Mark.meaning := by
  induction row generalizing cs with
  | nil =>
      obtain ⟨rfl, -⟩ := h
      rfl
  | cons mark row ih =>
      obtain ⟨rest, rfl, hfirst, hrest⟩ := isScan_cons_iff.mp h
      rw [unescapeChars_written_append hfirst, ih hrest, List.map_cons]

/-- Two replacements, one after the other, are one pass. -/
theorem unescapeChars_eq_decode (cs : List Char) : unescapeChars cs = decode cs :=
  unescapeChars_of_isScan (isScan_marks cs)

/--
Reading a segment by two replacements is reading it in one pass.  The pass cuts the segment into escapes and
characters that start none, in the only way there is, and gives one character for each of them; so nothing
that a replacement puts in is read once more.
-/
theorem unescape_eq_decode (s : String) :
    unescape s = String.ofList (decode s.toList) ∧
      ∀ row, IsScan s.toList row ↔ marks s.toList = row :=
  ⟨by rw [unescape, unescapeChars_eq_decode], fun _ => isScan_iff⟩

/-- Neither an escaped tilde before a one nor a tilde before an escaped slash makes another escape. -/
example : decode "~01~~10~".toList = "~1~/0~".toList := by decide

end ApiLint.Segment
