import ApiLint.Console.Verbatim
import ApiLint.Proofs.Pointer.Segment
import Mathlib.Data.List.TakeWhile
import Mathlib.Tactic.SplitIfs

/-!
# What is left of a text on lines

The words of a text are put on lines one after the other, so the lines that are filled are the text again,
cut into pieces.  A line may be too long only by blanks at its end, and nothing else is cut off afterwards.
So wrapping a text loses, and adds, nothing but blanks.

Main results:

- Theorem `text_put`: a word that is put on the lines comes after the text that is on them.
- Theorem `fits_put`: no line gets too long but for blanks at its end.
- Theorem `inked_layOut`: wrapping keeps the characters that are not blank.
-/

namespace ApiLint.Console

variable {cs word line : List Char} {room : Nat}

/-! ## Narrow characters -/

/-- Does every character take one column? -/
def IsEven (cs : List Char) : Prop := ∀ c ∈ cs, columns c = 1

theorem IsEven.append {ds : List Char} (hcs : IsEven cs) (hds : IsEven ds) : IsEven (cs ++ ds) := by
  intro c hmem
  rcases List.mem_append.mp hmem with hc | hc
  · exact hcs c hc
  · exact hds c hc

/-- Characters of one column are neither joined nor made wide. -/
theorem ne_of_columns_eq_one {c : Char} (h : columns c = 1) : c ≠ joiner ∧ c ≠ emojiMark := by
  constructor
  · rintro rfl
    exact absurd h (by decide)
  · rintro rfl
    exact absurd h (by decide)

/-- Narrow characters take as many columns as there are. -/
theorem width_of_isEven (h : IsEven cs) : width cs = cs.length := by
  have hafter : ∀ last, widthAfter last cs = cs.length := by
    induction cs with
    | nil => exact fun last => rfl
    | cons c rest ih =>
        intro last
        have hc : columns c = 1 := h c List.mem_cons_self
        obtain ⟨hjoiner, hmark⟩ := ne_of_columns_eq_one hc
        rw [widthAfter.eq_def]
        dsimp only
        rw [if_neg hjoiner, if_neg hmark, if_neg (by omega), hc,
          ih fun d hd => h d (List.mem_cons_of_mem c hd), List.length_cons, Nat.add_comm]
  exact hafter none

/-- Narrow characters are clusters of their own. -/
theorem clusters_of_isEven (h : IsEven cs) : clusters cs = cs.map fun c => ⟨[c], 1⟩ := by
  have hafter : ∀ done last, clustersAfter done last cs = done.reverse ++ cs.map fun c => ⟨[c], 1⟩ := by
    induction cs with
    | nil => exact fun done last => by rw [clustersAfter, List.map_nil, List.append_nil]
    | cons c rest ih =>
        intro done last
        have hc : columns c = 1 := h c List.mem_cons_self
        obtain ⟨hjoiner, hmark⟩ := ne_of_columns_eq_one hc
        rw [clustersAfter.eq_def]
        dsimp only
        rw [if_neg fun hboth => hjoiner hboth.1, if_neg fun hboth => hmark hboth.1, if_neg (by omega),
          ih fun d hd => h d (List.mem_cons_of_mem c hd), hc]
        simp
  rw [clusters, hafter]
  rfl

/-! ## Blanks at the end -/

/-- A text is itself without the blanks at its end, and those blanks. -/
theorem trimEnd_append (cs : List Char) :
    trimEnd cs ++ (cs.reverse.takeWhile Text.isBlank).reverse = cs := by
  rw [trimEnd, ← List.reverse_append, List.takeWhile_append_dropWhile, List.reverse_reverse]

/-- What comes at the end of a text makes it longer by no more than what is not trimmed from it. -/
theorem length_trimEnd_append_le (line word : List Char) :
    (trimEnd (line ++ word)).length ≤ line.length + (trimEnd word).length := by
  rw [trimEnd, trimEnd, List.length_reverse, List.length_reverse, List.reverse_append]
  rw [List.dropWhile_append]
  split_ifs with hblank
  · have := (List.dropWhile_sublist (p := Text.isBlank) (l := line.reverse)).length_le
    rw [List.length_reverse] at this
    omega
  · rw [List.length_append, List.length_reverse]
    omega

theorem length_trimEnd_le (cs : List Char) : (trimEnd cs).length ≤ cs.length := by
  have := length_trimEnd_append_le cs []
  simpa [trimEnd] using this

/-! ## Words -/

/-- The words of a text are the text, unless all of it is blank. -/
theorem flatten_wordsAfter (word cs : List Char) (h : ¬ (word ++ cs).all Text.isBlank) :
    (wordsAfter word cs).flatten = word.reverse ++ cs := by
  induction cs generalizing word with
  | nil =>
      rw [wordsAfter, if_neg (by simpa using h)]
      simp
  | cons c rest ih =>
      rw [wordsAfter]
      split_ifs with hstart
      · have hc : ¬ ([c] ++ rest).all Text.isBlank := by simp [hstart.1]
        rw [List.flatten_cons, ih [c] hc]
        rfl
      · have hc : ¬ (c :: word ++ rest).all Text.isBlank := by
          simp only [List.all_append, List.all_cons] at h ⊢
          grind
        rw [ih (c :: word) hc]
        simp

/-- A text is blank if it has no words. -/
theorem flatten_words (h : ¬ cs.all Text.isBlank) : (words cs).flatten = cs :=
  flatten_wordsAfter [] cs h

/-- A blank text has no words. -/
theorem wordsAfter_of_blank (h : (word ++ cs).all Text.isBlank) : wordsAfter word cs = [] := by
  induction cs generalizing word with
  | nil => rw [wordsAfter, if_pos (by simpa using h)]
  | cons c rest ih =>
      have hblank : word.all Text.isBlank = true ∧ Text.isBlank c = true ∧ rest.all Text.isBlank = true := by
        simpa using h
      rw [wordsAfter, if_neg fun hstart => hstart.1 hblank.2.1]
      exact ih (by simp [hblank])

/-- What is trimmed from the end of a blank text is all of it. -/
theorem trimEnd_of_blank (h : cs.all Text.isBlank) : trimEnd cs = [] := by
  have hall : ∀ c ∈ cs.reverse, Text.isBlank c = true := fun c hmem =>
    List.all_eq_true.mp h c (List.mem_reverse.mp hmem)
  rw [trimEnd, List.dropWhile_eq_nil_iff.mpr hall, List.reverse_nil]

/-! ## Chopping words -/

/-- Chopping a word makes lines of the word, and no line is too long. -/
theorem chopAfter_singles (hroom : 0 < room) (hline : line.length ≤ room) (h : line ++ cs ≠ []) :
    (chopAfter room line line.length (cs.map fun c => ⟨[c], 1⟩)).flatten = line ++ cs ∧
      ∀ part ∈ chopAfter room line line.length (cs.map fun c => ⟨[c], 1⟩), part.length ≤ room := by
  induction cs generalizing line with
  | nil =>
      have hne : line.length ≠ 0 := by simpa using h
      rw [List.map_nil, chopAfter, if_neg hne]
      simpa using hline
  | cons c rest ih =>
      rw [List.map_cons, chopAfter]
      split_ifs with hfull
      · obtain ⟨hflatten, hparts⟩ := @ih [c] hroom (by simp)
        rw [List.length_singleton] at hflatten hparts
        refine ⟨by rw [List.flatten_cons, hflatten]; rfl, ?_⟩
        intro part hmem
        rcases List.mem_cons.mp hmem with rfl | hrest
        · exact hline
        · exact hparts part hrest
      · have hroomy : ¬ room < line.length + 1 := hfull
        have hlonger : (line ++ [c]).length = line.length + 1 := by simp
        obtain ⟨hflatten, hparts⟩ := @ih (line ++ [c]) (by omega) (by simp)
        rw [hlonger] at hflatten hparts
        exact ⟨by rw [hflatten]; simp, hparts⟩

/-- Chopping a narrow word makes lines of the word, and no line is too long. -/
theorem chop_of_isEven (heven : IsEven word) (hroom : 0 < room) (hne : word ≠ []) :
    (chop room word).flatten = word ∧ ∀ part ∈ chop room word, part.length ≤ room := by
  rw [chop, clusters_of_isEven heven]
  exact @chopAfter_singles word [] room hroom (Nat.zero_le room) hne

/-! ## Filling lines -/

namespace Filling

variable {f : Filling}

/-- The text that is on the lines. -/
def text (f : Filling) : List Char := f.done.reverse.flatten ++ f.line

/-- Is no line too long but for blanks at its end, and is the column where the line at hand ends? -/
structure Fits (room : Nat) (f : Filling) : Prop where
  done : ∀ line ∈ f.done, (trimEnd line).length ≤ room
  line : (trimEnd f.line).length ≤ room
  column : f.column = f.line.length
  even : IsEven f.line

/-- The last one of new lines stays at hand. -/
theorem startWith_append (first : List (List Char)) (last : List Char) :
    f.startWith (first ++ [last]) =
      ⟨first.reverse ++ (if f.isFresh then f.done else f.line :: f.done), last, width last⟩ := by
  rw [startWith, List.reverse_append]
  rfl

/-- New lines come after the text that is on the lines. -/
theorem text_startWith (first : List (List Char)) (last : List Char) :
    (f.startWith (first ++ [last])).text = f.text ++ (first ++ [last]).flatten := by
  rw [startWith_append, text, text]
  split_ifs with hfresh
  · rw [isFresh, Bool.and_eq_true, List.isEmpty_iff, List.isEmpty_iff] at hfresh
    simp [hfresh.1, hfresh.2]
  · simp

/-- New lines fit if none of them is too long. -/
theorem fits_startWith {first : List (List Char)} {last : List Char} (hfits : Fits room f)
    (hlines : ∀ line ∈ first ++ [last], (trimEnd line).length ≤ room) (hlast : IsEven last) :
    Fits room (f.startWith (first ++ [last])) := by
  have hbefore : ∀ line ∈ if f.isFresh then f.done else f.line :: f.done, (trimEnd line).length ≤ room := by
    intro line hmem
    split_ifs at hmem
    · exact hfits.done line hmem
    · rcases List.mem_cons.mp hmem with rfl | hdone
      · exact hfits.line
      · exact hfits.done line hdone
  rw [startWith_append]
  refine ⟨fun line hmem => ?_, hlines last (by simp), width_of_isEven hlast, hlast⟩
  rcases List.mem_append.mp hmem with hfirst | hdone
  · exact hlines line (List.mem_append_left _ (List.mem_reverse.mp hfirst))
  · exact hbefore line hdone

/-- A word goes on the line at hand if it has room there, or else on new lines. -/
theorem put_cases (hfits : Fits room f) (heven : IsEven word) (hroom : 0 < room) :
    (f.put .fold room word = ⟨f.done, f.line ++ word, f.column + width word⟩ ∧
        f.line.length + (trimEnd word).length ≤ room) ∨
      ∃ first last, f.put .fold room word = f.startWith (first ++ [last]) ∧ (first ++ [last]).flatten = word ∧
        ∀ line ∈ first ++ [last], (trimEnd line).length ≤ room := by
  have hneeded : width (trimEnd word) = (trimEnd word).length :=
    width_of_isEven fun c hc => heven c (by
      rw [← trimEnd_append word]
      exact List.mem_append_left _ hc)
  rw [put, hneeded, hfits.column]
  split_ifs with hthere hlong hempty
  · exact .inl ⟨rfl, hthere⟩
  · have hne : word ≠ [] := by
      rintro rfl
      exact absurd hlong (by simp [trimEnd])
    obtain ⟨hflatten, hparts⟩ := chop_of_isEven heven hroom hne
    have hlines : chop room word ≠ [] := by
      intro hnone
      rw [hnone] at hflatten
      exact hne hflatten.symm
    have heq := List.dropLast_concat_getLast hlines
    refine .inr ⟨(chop room word).dropLast, (chop room word).getLast hlines, by rw [heq], by rw [heq, hflatten],
      fun line hmem => ?_⟩
    rw [heq] at hmem
    exact (length_trimEnd_le line).trans (hparts line hmem)
  · omega
  · exact .inr ⟨[], word, rfl, by simp, by simpa using Nat.le_of_not_lt hlong⟩

/-- A word that is put on the lines comes after the text that is on them. -/
theorem text_put (hfits : Fits room f) (heven : IsEven word) (hroom : 0 < room) :
    (f.put .fold room word).text = f.text ++ word := by
  rcases put_cases hfits heven hroom with ⟨hput, -⟩ | ⟨first, last, hput, hflatten, -⟩
  · rw [hput, text, text, List.append_assoc]
  · rw [hput, text_startWith, hflatten]

/-- No line gets too long but for blanks at its end. -/
theorem fits_put (hfits : Fits room f) (heven : IsEven word) (hroom : 0 < room) :
    Fits room (f.put .fold room word) := by
  rcases put_cases hfits heven hroom with ⟨hput, hthere⟩ | ⟨first, last, hput, hflatten, hlines⟩
  · rw [hput]
    refine ⟨hfits.done, (length_trimEnd_append_le f.line word).trans hthere, ?_, hfits.even.append heven⟩
    rw [hfits.column, width_of_isEven heven, List.length_append]
  · have hlast : IsEven last := fun c hc => heven c (by
      rw [← hflatten]
      simp [hc])
    rw [hput]
    exact fits_startWith hfits hlines hlast

/-- Words that are put on the lines come one after the other, and no line gets too long. -/
theorem text_and_fits_foldl (ws : List (List Char)) (hfits : Fits room f) (heven : ∀ word ∈ ws, IsEven word)
    (hroom : 0 < room) :
    (ws.foldl (put .fold room) f).text = f.text ++ ws.flatten ∧ Fits room (ws.foldl (put .fold room) f) := by
  induction ws generalizing f with
  | nil => simpa using hfits
  | cons word ws ih =>
      have hword := heven word List.mem_cons_self
      obtain ⟨htext, hrest⟩ := ih (fits_put hfits hword hroom) fun other hmem =>
        heven other (List.mem_cons_of_mem word hmem)
      rw [List.foldl_cons]
      refine ⟨?_, hrest⟩
      rw [htext, text_put hfits hword hroom, List.flatten_cons, List.append_assoc]

end Filling

/-- A blank text is a line of its own. -/
theorem fill_of_blank (overflow : Overflow) (room : Nat) (h : cs.all Text.isBlank = true) :
    fill overflow room cs = [cs] := by
  have hnone : words cs = [] := @wordsAfter_of_blank cs [] h
  rw [fill, hnone]

/-- Any other text is put on lines word by word. -/
theorem fill_of_words (overflow : Overflow) (room : Nat) (h : ¬ cs.all Text.isBlank) :
    fill overflow room cs =
      (((words cs).foldl (Filling.put overflow room) ⟨[], [], 0⟩).line ::
        ((words cs).foldl (Filling.put overflow room) ⟨[], [], 0⟩).done).reverse := by
  rw [fill]
  split
  · rename_i hnone
    have hflatten := flatten_words h
    rw [hnone] at hflatten
    exact absurd (by rw [← hflatten]; rfl) h
  · rfl

/-- The words of a narrow text are narrow. -/
theorem isEven_of_mem_words (h : ¬ cs.all Text.isBlank) (heven : IsEven cs) (hword : word ∈ words cs) :
    IsEven word := fun c hc => heven c (by
  rw [← flatten_words h]
  exact List.mem_flatten_of_mem hword hc)

/-- The lines that a text fills are the text, and none is too long but for blanks at its end. -/
theorem flatten_fill (heven : IsEven cs) (hroom : 0 < room) :
    (fill .fold room cs).flatten = cs ∧ ∀ line ∈ fill .fold room cs, (trimEnd line).length ≤ room := by
  by_cases hblank : cs.all Text.isBlank = true
  · rw [fill_of_blank .fold room hblank]
    simp [trimEnd_of_blank hblank]
  · have hstart : Filling.Fits room ⟨[], [], 0⟩ :=
      ⟨fun line hmem => absurd hmem List.not_mem_nil, Nat.zero_le room, rfl,
        fun c hmem => absurd hmem List.not_mem_nil⟩
    obtain ⟨htext, hfits⟩ := Filling.text_and_fits_foldl (words cs) hstart
      (fun word => isEven_of_mem_words hblank heven) hroom
    rw [flatten_words hblank] at htext
    rw [fill_of_words .fold room hblank]
    refine ⟨by simpa [Filling.text] using htext, fun line hmem => ?_⟩
    rcases List.mem_cons.mp (List.mem_reverse.mp hmem) with rfl | hdone
    · exact hfits.line
    · exact hfits.done line hdone

/-! ## Cutting lines -/

theorem inked_flatMap {α : Type} (xs : List α) (f : α → List Char) :
    inked (xs.flatMap f) = xs.flatMap fun x => inked (f x) :=
  List.filter_flatMap ..

/-- Blanks leave nothing. -/
theorem inked_of_blank (h : ∀ c ∈ cs, Text.isBlank c = true) : inked cs = [] :=
  List.filter_eq_nil_iff.mpr fun c hmem => by simp [h c hmem]

/-- Nothing but blanks is dropped from a line. -/
theorem inked_dropExcess (room : Nat) (line : List Char) : inked (dropExcess room line) = inked line := by
  have hsplit := trimEnd_append line
  have hlength := congrArg List.length hsplit
  rw [List.length_append, List.length_reverse] at hlength
  rw [dropExcess]
  generalize hkept : line.length - min (line.reverse.takeWhile Text.isBlank).length (line.length - room) = kept
  have hrest : inked (line.drop kept) = [] := by
    refine inked_of_blank fun c hmem => ?_
    rw [← hsplit, List.drop_append, List.drop_eq_nil_of_le (by omega), List.nil_append] at hmem
    exact List.mem_takeWhile_imp (List.mem_reverse.mp (List.mem_of_mem_drop hmem))
  have hwhole := inked_append (line.take kept) (line.drop kept)
  rw [List.take_append_drop, hrest, List.append_nil] at hwhole
  exact hwhole.symm

/-- A line is as long as there is room, or it has nothing at its end that can be dropped. -/
theorem length_dropExcess (room : Nat) (line : List Char) :
    (dropExcess room line).length = max (trimEnd line).length (min line.length room) := by
  have hlength := congrArg List.length (trimEnd_append line)
  rw [List.length_append, List.length_reverse] at hlength
  rw [dropExcess, List.length_take]
  omega

theorem isEven_dropExcess (heven : IsEven line) : IsEven (dropExcess room line) := fun c hc =>
  heven c (List.mem_of_mem_take hc)

/-- A line that is not too long is not cut. -/
theorem cut_of_length_le (overflow : Overflow) (heven : IsEven line) (hle : line.length ≤ room) :
    cut overflow room line = line := by
  rw [cut.eq_def, if_pos]
  rwa [width_of_isEven heven]

/-- A line that is too long only by blanks at its end is cut by nothing but blanks. -/
theorem cut_dropExcess (overflow : Overflow) (heven : IsEven line) (hfits : (trimEnd line).length ≤ room) :
    cut overflow room (dropExcess room line) = dropExcess room line := by
  refine cut_of_length_le overflow (isEven_dropExcess heven) ?_
  rw [length_dropExcess]
  omega

/-! ## Tabs and line feeds -/

/-- The parts between blank separators have all that is not blank. -/
theorem flatMap_inked_splitAt {separator : Char} (h : Text.isBlank separator = true) (cs : List Char) :
    (Segment.splitAt separator cs).flatMap inked = inked cs := by
  have hcons : ∀ part, inked (separator :: part) = inked part := fun part =>
    List.filter_cons_of_neg (by simp [h])
  have hjoined := congrArg inked (Segment.flatMap_splitAt separator cs)
  rw [hcons, inked_flatMap] at hjoined
  simpa only [hcons] using hjoined

/-- The parts between separators hold characters of the text, and none of them is the separator. -/
theorem mem_and_ne_of_mem_splitAt {separator c : Char} {part : List Char}
    (hpart : part ∈ Segment.splitAt separator cs) (hc : c ∈ part) : c ∈ cs ∧ c ≠ separator := by
  have hne : c ≠ separator := by
    rintro rfl
    exact Segment.notMem_of_mem_splitAt hpart hc
  have hmem : c ∈ separator :: cs := by
    rw [← Segment.flatMap_splitAt separator cs]
    exact List.mem_flatMap_of_mem hpart (List.mem_cons_of_mem separator hc)
  exact ⟨(List.mem_cons.mp hmem).resolve_left hne, hne⟩

/-- Parts of a line with blanks between them have nothing else that is not blank. -/
theorem inked_fillTabs (column : Nat) (parts : List (List Char)) :
    inked (fillTabs column parts) = parts.flatMap inked := by
  have hblanks (n : Nat) : inked (List.replicate n ' ') = [] :=
    inked_of_blank fun c hmem => by rw [(List.mem_replicate.mp hmem).2]; decide
  induction parts generalizing column with
  | nil => rfl
  | cons part rest ih =>
      cases rest with
      | nil => simp [fillTabs]
      | cons next rest =>
          have hone : inked [' '] = [] := hblanks 1
          rw [fillTabs]
          · simp only [inked_append, hblanks, hone, ih, List.flatMap_cons, List.append_nil]
          · exact fun hnone => absurd hnone (List.cons_ne_nil next rest)

/-- Parts of narrow characters with blanks between them are narrow. -/
theorem isEven_fillTabs (column : Nat) {parts : List (List Char)} (h : ∀ part ∈ parts, IsEven part) :
    IsEven (fillTabs column parts) := by
  have hblanks (n : Nat) : IsEven (List.replicate n ' ') := fun c hmem => by
    rw [(List.mem_replicate.mp hmem).2]
    decide
  induction parts generalizing column with
  | nil => exact fun c hmem => absurd hmem List.not_mem_nil
  | cons part rest ih =>
      have hpart := h part List.mem_cons_self
      cases rest with
      | nil => exact hpart
      | cons next rest =>
          rw [fillTabs]
          · exact ((hpart.append (hblanks 1)).append (hblanks _)).append
              (ih _ fun other hmem => h other (List.mem_cons_of_mem part hmem))
          · exact fun hnone => absurd hnone (List.cons_ne_nil next rest)

/-- The lines of a narrow text are narrow once their tabs are filled up. -/
theorem isEven_expandTabs (hnarrow : IsNarrow cs) (hline : line ∈ Segment.splitAt '\n' cs) :
    IsEven (expandTabs line) := by
  refine isEven_fillTabs 0 fun part hpart c hc => ?_
  obtain ⟨hc, htab⟩ := mem_and_ne_of_mem_splitAt hpart hc
  obtain ⟨hc, hfeed⟩ := mem_and_ne_of_mem_splitAt hline hc
  exact ((hnarrow c hc).resolve_left hfeed).resolve_left htab

/-! ## Whole texts -/

/-- Wrapping a line keeps the characters that are not blank. -/
theorem flatMap_inked_fill (heven : IsEven cs) (hroom : 0 < room) :
    ((fill .fold room cs).flatMap fun line => inked (cut .fold room (dropExcess room line))) = inked cs := by
  obtain ⟨hflatten, hfits⟩ := flatten_fill heven hroom
  have hlines : ∀ line ∈ fill .fold room cs,
      inked (cut .fold room (dropExcess room line)) = inked line := by
    intro line hmem
    have hline : IsEven line := fun c hc => heven c (by
      rw [← hflatten]
      exact List.mem_flatten_of_mem hmem hc)
    rw [cut_dropExcess .fold hline (hfits line hmem), inked_dropExcess]
  calc (fill .fold room cs).flatMap (fun line => inked (cut .fold room (dropExcess room line)))
      = (fill .fold room cs).flatMap inked := by
        rw [List.flatMap_def, List.flatMap_def, List.map_congr_left hlines]
    _ = inked (fill .fold room cs).flatten := by
        rw [← List.flatMap_id, inked_flatMap]
        rfl
    _ = inked cs := by rw [hflatten]

/-- Wrapping a text keeps the characters that are not blank, in their order, and adds none. -/
theorem inked_layOut (hnarrow : IsNarrow cs) (hroom : 0 < room) :
    inked (layOut .fold room cs).flatten = inked cs := by
  have hline : ∀ line ∈ Segment.splitAt '\n' cs,
      ((fill .fold room (expandTabs line)).flatMap fun part => inked (cut .fold room (dropExcess room part))) =
        inked line := by
    intro line hmem
    rw [flatMap_inked_fill (isEven_expandTabs hnarrow hmem) hroom, expandTabs, inked_fillTabs,
      flatMap_inked_splitAt (by decide)]
  calc inked (layOut .fold room cs).flatten
      = (Segment.splitAt '\n' cs).flatMap fun line => (fill .fold room (expandTabs line)).flatMap fun part =>
          inked (cut .fold room (dropExcess room part)) := by
        rw [← List.flatMap_id, inked_flatMap, layOut, List.flatMap_assoc]
        simp only [List.flatMap_map, id]
    _ = (Segment.splitAt '\n' cs).flatMap inked := by
        rw [List.flatMap_def, List.flatMap_def, List.map_congr_left hline]
    _ = inked cs := flatMap_inked_splitAt (by decide) cs

end ApiLint.Console
