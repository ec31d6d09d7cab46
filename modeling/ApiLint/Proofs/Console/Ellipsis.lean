import ApiLint.Proofs.Console.Wrap

/-!
# Words that are too long for a line

Where long words are not folded, a word that is wider than a line stays alone on its line, and an ellipsis takes the
place of what has no room.  Any other word is put on the lines as if long words were folded.  So a text that has no
ellipsis of its own has all of its characters on the lines just if every word has room.

Main results:

- Theorem `layOut_ellipsis_of_hasRoom`: where every word has room, nothing is cut.
- Theorem `isEven_and_length_le_of_mem_layOut`: no line is too long.
- Theorem `inked_layOut_ellipsis_iff`: when the characters of a text are kept.
-/

namespace ApiLint.Console

variable {cs word other line : List Char} {room : Nat} {f : Filling}

/-! ## Words that have room -/

/-- A word that has room is put on the lines the same way whether or not long words are folded. -/
theorem put_ellipsis_of_le (h : width (trimEnd word) ≤ room) :
    f.put .ellipsis room word = f.put .fold room word := by
  rw [Filling.put, Filling.put]
  simp only [if_neg (Nat.not_lt.mpr h)]

/-- So are several words. -/
theorem foldl_put_ellipsis_of_le {ws : List (List Char)} (h : ∀ word ∈ ws, width (trimEnd word) ≤ room)
    (f : Filling) : ws.foldl (Filling.put .ellipsis room) f = ws.foldl (Filling.put .fold room) f := by
  induction ws generalizing f with
  | nil => rfl
  | cons word ws ih =>
      rw [List.foldl_cons, List.foldl_cons, put_ellipsis_of_le (h word List.mem_cons_self),
        ih fun other hmem => h other (List.mem_cons_of_mem word hmem)]

/-- A line whose words have room is filled the same way. -/
theorem fill_ellipsis_of_le (h : ∀ word ∈ words cs, width (trimEnd word) ≤ room) :
    fill .ellipsis room cs = fill .fold room cs := by
  by_cases hblank : cs.all Text.isBlank = true
  · rw [fill_of_blank .ellipsis room hblank, fill_of_blank .fold room hblank]
  · rw [fill_of_words .ellipsis room hblank, fill_of_words .fold room hblank, foldl_put_ellipsis_of_le h]

/-- Where every word has room, nothing is cut. -/
theorem layOut_ellipsis_of_hasRoom (hnarrow : IsNarrow cs) (hroom : 0 < room) (h : HasRoom room cs) :
    layOut .ellipsis room cs = layOut .fold room cs := by
  have hline : ∀ line ∈ Segment.splitAt '\n' cs,
      (fill .ellipsis room (expandTabs line)).map (fun part => cut .ellipsis room (dropExcess room part)) =
        (fill .fold room (expandTabs line)).map fun part => cut .fold room (dropExcess room part) := by
    intro line hmem
    have heven := isEven_expandTabs hnarrow hmem
    obtain ⟨hflatten, hfits⟩ := flatten_fill heven hroom
    rw [fill_ellipsis_of_le (h line hmem)]
    refine List.map_congr_left fun part hpart => ?_
    have hpartEven : IsEven part := fun c hc => heven c (by
      rw [← hflatten]
      exact List.mem_flatten_of_mem hpart hc)
    rw [cut_dropExcess .ellipsis hpartEven (hfits part hpart),
      cut_dropExcess .fold hpartEven (hfits part hpart)]
  rw [layOut, layOut, List.flatMap_def, List.flatMap_def, List.map_congr_left hline]

/-! ## Lengths of lines -/

/-- A word comes after the text that is on the lines, however long it is. -/
theorem text_put_ellipsis : (f.put .ellipsis room word).text = f.text ++ word := by
  have hstart := @Filling.text_startWith f [] word
  rw [List.nil_append, List.flatten_cons, List.flatten_nil, List.append_nil] at hstart
  rw [Filling.put]
  split_ifs
  · simp [Filling.text]
  · exact hstart
  · simp [Filling.text]
  · exact hstart

/-- The lines that a text fills are the text. -/
theorem flatten_fill_ellipsis (room : Nat) (cs : List Char) : (fill .ellipsis room cs).flatten = cs := by
  have hfoldl : ∀ (ws : List (List Char)) (f : Filling),
      (ws.foldl (Filling.put .ellipsis room) f).text = f.text ++ ws.flatten := by
    intro ws
    induction ws with
    | nil => exact fun f => (List.append_nil _).symm
    | cons word ws ih =>
        intro f
        rw [List.foldl_cons, ih, text_put_ellipsis, List.flatten_cons, List.append_assoc]
  by_cases hblank : cs.all Text.isBlank = true
  · rw [fill_of_blank .ellipsis room hblank]
    simp
  · have htext := hfoldl (words cs) ⟨[], [], 0⟩
    rw [flatten_words hblank] at htext
    rw [fill_of_words .ellipsis room hblank]
    simpa [Filling.text] using htext

/-- Of single characters as many are taken as there is room for. -/
theorem takeClusters_singles (room : Nat) (cs : List Char) :
    takeClusters room (cs.map fun c => ⟨[c], 1⟩) = cs.take room := by
  induction cs generalizing room with
  | nil => simp [takeClusters]
  | cons c cs ih =>
      cases room with
      | zero => rfl
      | succ room =>
          rw [List.map_cons, takeClusters, if_neg (Nat.succ_ne_zero room), if_pos (Nat.le_add_left 1 room),
            Nat.add_sub_cancel, ih]
          rfl

/-- Of a line that is too long an ellipsis ends what is left. -/
theorem cut_ellipsis_of_lt (heven : IsEven line) (hlong : room < line.length) :
    cut .ellipsis room line = line.take (room - 1) ++ ['…'] := by
  have hwidth : width line = line.length := width_of_isEven heven
  rw [cut, if_neg (by omega)]
  rw [fitTo, if_neg (by omega), clusters_of_isEven heven, takeClusters_singles]

/-- A line is no longer than it may be once it is cut. -/
theorem isEven_and_length_cut_le (heven : IsEven line) (hroom : 0 < room) :
    IsEven (cut .ellipsis room line) ∧ (cut .ellipsis room line).length ≤ room := by
  by_cases hlong : room < line.length
  · have hellipsis : IsEven ['…'] := by
      intro c hc
      rw [List.mem_singleton.mp hc]
      decide +kernel
    have hkept : IsEven (line.take (room - 1)) := fun c hc => heven c (List.mem_of_mem_take hc)
    rw [cut_ellipsis_of_lt heven hlong]
    refine ⟨hkept.append hellipsis, ?_⟩
    rw [List.length_append, List.length_take, List.length_singleton]
    omega
  · rw [cut_of_length_le .ellipsis heven (Nat.not_lt.mp hlong)]
    exact ⟨heven, Nat.not_lt.mp hlong⟩

/-- No line that a narrow text is laid out on is too long. -/
theorem isEven_and_length_le_of_mem_layOut (hnarrow : IsNarrow cs) (hroom : 0 < room)
    (hline : line ∈ layOut .ellipsis room cs) : IsEven line ∧ line.length ≤ room := by
  obtain ⟨whole, hwhole, hline⟩ := List.mem_flatMap.mp hline
  obtain ⟨part, hpart, rfl⟩ := List.mem_map.mp hline
  have hpartEven : IsEven part := fun c hc => isEven_expandTabs hnarrow hwhole c (by
    rw [← flatten_fill_ellipsis room (expandTabs whole)]
    exact List.mem_flatten_of_mem hpart hc)
  exact isEven_and_length_cut_le (isEven_dropExcess hpartEven) hroom

/-! ## Words that have no room -/

/-- Is a word one of the lines, and if it is on the one at hand, does nothing fit behind it? -/
def IsAlone (room : Nat) (word : List Char) (f : Filling) : Prop :=
  word ∈ f.done ∨ (f.line = word ∧ room < f.column)

/-- A line that is started comes after the one at hand. -/
theorem isAlone_startWith (hne : word ≠ []) (h : IsAlone room word f) :
    IsAlone room word (f.startWith [other]) := by
  rw [← List.nil_append [other], Filling.startWith_append]
  refine .inl ?_
  rw [List.reverse_nil, List.nil_append]
  rcases h with hdone | ⟨rfl, -⟩
  · have hstarted : f.isFresh = false := by simp [Filling.isFresh, List.ne_nil_of_mem hdone]
    rw [if_neg (by simp [hstarted])]
    exact List.mem_cons_of_mem f.line hdone
  · have hstarted : f.isFresh = false := by simp [Filling.isFresh, hne]
    rw [if_neg (by simp [hstarted])]
    exact List.mem_cons_self

/-- A word that is alone stays alone. -/
theorem isAlone_put (hne : word ≠ []) (h : IsAlone room word f) (other : List Char) :
    IsAlone room word (f.put .ellipsis room other) := by
  rw [Filling.put]
  split_ifs with hthere hlong hempty
  · exact .inl (h.resolve_right fun hat => by omega)
  · exact isAlone_startWith hne h
  · exact .inl (h.resolve_right fun hat => by omega)
  · exact isAlone_startWith hne h

/-- A word that has no room is put on a line alone. -/
theorem isAlone_put_self (heven : IsEven word) (hlong : room < width (trimEnd word)) (f : Filling) :
    IsAlone room word (f.put .ellipsis room word) := by
  have hwidth : width (trimEnd word) ≤ width word := by
    have htrimmed : IsEven (trimEnd word) := fun c hc => heven c (by
      rw [← trimEnd_append word]
      exact List.mem_append_left _ hc)
    rw [width_of_isEven heven, width_of_isEven htrimmed]
    exact length_trimEnd_le word
  rw [Filling.put]
  rw [if_neg (by omega), if_pos hlong, ← List.nil_append [word], Filling.startWith_append]
  exact .inr ⟨rfl, hlong.trans_le hwidth⟩

/-- A word that has no room is one of the lines. -/
theorem mem_fill_ellipsis (heven : IsEven cs) (hword : word ∈ words cs)
    (hlong : room < width (trimEnd word)) : word ∈ fill .ellipsis room cs := by
  have hne : word ≠ [] := by
    rintro rfl
    exact absurd hlong (Nat.not_lt_zero room)
  have hstays : ∀ (ws : List (List Char)) (f : Filling), IsAlone room word f →
      IsAlone room word (ws.foldl (Filling.put .ellipsis room) f) := by
    intro ws
    induction ws with
    | nil => exact fun f h => h
    | cons other ws ih => exact fun f h => ih _ (isAlone_put hne h other)
  have hblank : ¬ cs.all Text.isBlank := by
    intro hblank
    have hnone : words cs = [] := @wordsAfter_of_blank cs [] hblank
    rw [hnone] at hword
    cases hword
  obtain ⟨before, behind, hwords⟩ := List.append_of_mem hword
  have halone : IsAlone room word ((words cs).foldl (Filling.put .ellipsis room) ⟨[], [], 0⟩) := by
    rw [hwords, List.foldl_append, List.foldl_cons]
    exact hstays behind _ (isAlone_put_self (isEven_of_mem_words hblank heven hword) hlong _)
  rw [fill_of_words .ellipsis room hblank, List.mem_reverse, List.mem_cons]
  rcases halone with hdone | ⟨hline, -⟩
  · exact .inr hdone
  · exact .inl hline.symm

/-- Where a word has no room, there is an ellipsis. -/
theorem ellipsis_mem_layOut (hnarrow : IsNarrow cs) (h : ¬ HasRoom room cs) :
    '…' ∈ (layOut .ellipsis room cs).flatten := by
  obtain ⟨line, hline, word, hword, hlong⟩ : ∃ line ∈ Segment.splitAt '\n' cs,
      ∃ word ∈ words (expandTabs line), room < width (trimEnd word) := by
    simpa [HasRoom] using h
  have heven := isEven_expandTabs hnarrow hline
  have hpart := mem_fill_ellipsis heven hword hlong
  have hwordEven : IsEven word := fun c hc => heven c (by
    rw [← flatten_fill_ellipsis room (expandTabs line)]
    exact List.mem_flatten_of_mem hpart hc)
  have htrimmed : width (trimEnd word) = (trimEnd word).length := width_of_isEven fun c hc =>
    hwordEven c (by
      rw [← trimEnd_append word]
      exact List.mem_append_left _ hc)
  have hdropped : room < (dropExcess room word).length := by
    rw [length_dropExcess]
    omega
  refine List.mem_flatten_of_mem (List.mem_flatMap_of_mem hline (List.mem_map_of_mem hpart)) ?_
  rw [cut_ellipsis_of_lt (isEven_dropExcess hwordEven) hdropped]
  simp

/-- A text that has no ellipsis of its own keeps its characters just if every word has room. -/
theorem inked_layOut_ellipsis_iff (hnarrow : IsNarrow cs) (hroom : 0 < room) (hnone : '…' ∉ cs) :
    inked (layOut .ellipsis room cs).flatten = inked cs ↔ HasRoom room cs := by
  constructor
  · intro hinked
    by_contra h
    have hmem : '…' ∈ inked (layOut .ellipsis room cs).flatten :=
      List.mem_filter.mpr ⟨ellipsis_mem_layOut hnarrow h, by decide⟩
    rw [hinked] at hmem
    exact hnone (List.mem_filter.mp hmem).1
  · intro h
    rw [layOut_ellipsis_of_hasRoom hnarrow hroom h, inked_layOut hnarrow hroom]

end ApiLint.Console
