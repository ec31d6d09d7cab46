import ApiLint.Proofs.Console.Escape
import ApiLint.Proofs.Console.Style

/-!
# What the console shows of a text

Whether a markup can be shown depends on its tags alone, and what it shows on its runs of plain text.  A text
that is escaped brings no tags with it, so it can be shown wherever it stands; it is shown as it is if it is
tidy and few enough backslashes stand at its end.  A text that is not escaped must have no tag either.

Main results:

- Theorem `visible_between_iff`: an escaped text between two tags.
- Theorem `visible_escape_iff`: an escaped text on its own.
- Theorem `visible_behind_iff`: a text behind two tags that is not escaped.
-/

namespace ApiLint.Markup

open Console

variable {markup : String} {word front back cs tail : List Char} {n : Nat}

/-! ## What the console shows -/

/-- The open styles, last first, after tags. -/
def changeAll (styles : List Opening) : List (List Char) → Except Fault (List Opening)
  | [] => .ok styles
  | body :: rest =>
    match Change.ofTag body with
    | .error fault => .error fault
    | .ok change =>
      match change.apply styles with
      | .ok styles => changeAll styles rest
      | .error fault => .error fault

/-- The characters of a piece, with emoji in place of their codes. -/
def seen : Piece → List Char
  | .text cs => Emoji.replaceCodes cs
  | .tag _ => []

/-- Whether pieces can be shown depends on their tags, and what they show on their texts. -/
theorem shown_eq (styles : List Opening) (ps : List Piece) :
    shown styles ps = (changeAll styles (tags ps)).map fun _ => ps.flatMap seen := by
  induction ps generalizing styles with
  | nil => rfl
  | cons p ps ih =>
      cases p with
      | text cs =>
          rw [shown, ih, tags_text]
          cases changeAll styles (tags ps) <;> rfl
      | tag body =>
          rw [shown, tags_tag, changeAll]
          cases Change.ofTag body with
          | error fault => rfl
          | ok change =>
              dsimp only
              cases change.apply styles with
              | error fault => rfl
              | ok styles => exact ih styles

/-- Without codes, texts are shown as they are. -/
theorem filter_flatMap_seen {ps : List Piece} (hps : ∀ cs, Piece.text cs ∈ ps →
    Emoji.replaceCodes cs = cs ∧ ∀ c ∈ cs, isDropped c = false) :
    (ps.flatMap seen).filter (fun c => !isDropped c) = plain ps := by
  induction ps with
  | nil => rfl
  | cons p ps ih =>
      rw [List.flatMap_cons, List.filter_append, ih fun cs hmem => hps cs (List.mem_cons_of_mem p hmem)]
      cases p with
      | text cs =>
          obtain ⟨hsame, hkept⟩ := hps cs List.mem_cons_self
          have hfilter : cs.filter (fun c => !isDropped c) = cs :=
            List.filter_eq_self.mpr fun c hc => by rw [hkept c hc]; rfl
          rw [seen, hsame, hfilter, plain_text]
      | tag body => rfl

/-- Can the tags of a markup be followed? -/
def IsFollowed (cs : List Char) : Prop := ∃ styles, changeAll [] (tags (pieces [] 0 cs)) = .ok styles

/-- A markup can be shown if its tags can be followed. -/
theorem exists_visible (h : IsFollowed markup.toList) : ∃ cs, visible markup = .ok cs := by
  obtain ⟨styles, hstyles⟩ := h
  rw [visible, render, shown_eq, hstyles]
  exact ⟨_, rfl⟩

/-- Without codes, the console shows the plain text of a markup. -/
theorem visible_eq_ok_iff (hcodeless : IsCodeless markup) :
    visible markup = .ok cs ↔ IsFollowed markup.toList ∧ plain (pieces [] 0 markup.toList) = cs := by
  rw [visible, render, shown_eq, IsFollowed]
  cases changeAll [] (tags (pieces [] 0 markup.toList)) with
  | error fault => simp [Except.map]
  | ok styles => simp [Except.map, filter_flatMap_seen hcodeless]

/-! ## Texts without codes -/

/-- Where a blank stands between any two colons, none of them starts a code. -/
theorem replaceCodes_of_isCodeFree (h : Emoji.IsCodeFree cs) : Emoji.replaceCodes cs = cs := by
  induction cs with
  | nil => rw [Emoji.replaceCodes]
  | cons c rest ih =>
      have hrest : Emoji.IsCodeFree rest :=
        List.IsChain.infix h ((List.suffix_cons c rest).filter _).isInfix
      rw [Emoji.replaceCodes]
      by_cases hcolon : c = ':'
      · rw [if_pos hcolon]
        split
        · rename_i after hafter
          -- No colon and no blank stands before the next colon, so the two are neighbours.
          have hbody : (rest.takeWhile Emoji.isInCode).filter (fun c => c == ':' || Text.isBlank c) = [] := by
            refine List.filter_eq_nil_iff.mpr fun d hd => ?_
            have hin := List.mem_takeWhile_imp hd
            simpa [Emoji.isInCode] using hin
          have hsplit := List.takeWhile_append_dropWhile (p := Emoji.isInCode) (l := rest)
          rw [hafter] at hsplit
          rw [Emoji.IsCodeFree, Emoji.codeMarks, hcolon, ← hsplit, List.filter_cons_of_pos (by decide),
            List.filter_append, hbody, List.nil_append, List.filter_cons_of_pos (by decide),
            List.isChain_cons_cons] at h
          exact absurd ⟨rfl, rfl⟩ h.1
        · rw [ih hrest]
      · rw [if_neg hcolon, ih hrest]

/--
Reading a markup makes no characters: what holds of all that was read and of all that is left holds of
the texts in it.
-/
theorem forall_mem_of_mem_pieces {P : Char → Prop} {run : List Char} (hrun : ∀ c ∈ run, P c)
    (hslash : n ≠ 0 → P '\\') (htail : ∀ c ∈ tail, P c)
    (hpiece : Piece.text cs ∈ pieces run n tail) : ∀ c ∈ cs, P c := by
  have hslashes : ∀ {n k : Nat}, (n ≠ 0 → P '\\') → k ≤ n → ∀ c ∈ List.replicate k '\\', P c := by
    intro n k hslash hk c hmem
    obtain ⟨hne, rfl⟩ := List.mem_replicate.mp hmem
    exact hslash (by omega)
  induction n, tail using markup_induction generalizing run with
  | nil n =>
      rw [pieces_nil, List.mem_singleton, Piece.text.injEq] at hpiece
      subst hpiece
      exact List.forall_mem_append.mpr ⟨by simpa using hrun, hslashes hslash (Nat.le_refl n)⟩
  | backslash n rest ih =>
      obtain ⟨hfirst, hrest⟩ := List.forall_mem_cons.mp htail
      rw [pieces_backslash] at hpiece
      exact ih hrun (fun _ => hfirst) hrest hpiece
  | tag n body after hnot htag ih =>
      obtain ⟨hopen, htail⟩ := List.forall_mem_cons.mp htail
      obtain ⟨hbody, htail⟩ := List.forall_mem_append.mp htail
      obtain ⟨hclose, hafter⟩ := List.forall_mem_cons.mp htail
      rw [pieces_tag (htag after)] at hpiece
      simp only [List.mem_cons] at hpiece
      rcases hpiece with hread | hread | hread | hread
      · obtain rfl := Piece.text.inj hread
        simpa using hrun
      · obtain rfl := Piece.text.inj hread
        exact hslashes hslash (Nat.div_le_self n 2)
      · split_ifs at hread
        obtain rfl := Piece.text.inj hread
        rw [List.cons_append, List.forall_mem_cons, List.forall_mem_append, List.forall_mem_singleton]
        exact ⟨hopen, hbody, hclose⟩
      · exact ih (List.forall_mem_nil P) (absurd rfl) hafter hread
  | bracket n rest hnone ih =>
      obtain ⟨hopen, hrest⟩ := List.forall_mem_cons.mp htail
      rw [pieces_bracket hnone] at hpiece
      refine ih ?_ (absurd rfl) hrest hpiece
      rw [List.cons_append, List.forall_mem_cons, List.forall_mem_append]
      exact ⟨hopen, hslashes hslash (Nat.sub_le n 1), hrun⟩
  | char n c rest hbackslash hopen ih =>
      obtain ⟨hfirst, hrest⟩ := List.forall_mem_cons.mp htail
      rw [pieces_char hbackslash hopen] at hpiece
      refine ih ?_ (absurd rfl) hrest hpiece
      rw [List.cons_append, List.forall_mem_cons, List.forall_mem_append]
      exact ⟨hfirst, hslashes hslash (Nat.le_refl n), hrun⟩

theorem mem_of_mem_pieces (hpiece : Piece.text cs ∈ pieces [] 0 tail) : ∀ c ∈ cs, c ∈ tail :=
  forall_mem_of_mem_pieces (List.forall_mem_nil _) (absurd rfl) (fun _ hmem => hmem) hpiece

/-- Reading a markup puts no colons side by side: those of a text in it, with the blanks, stand together there. -/
theorem codeMarks_of_mem_pieces {run : List Char} (hpiece : Piece.text cs ∈ pieces run n tail) :
    Emoji.codeMarks cs <:+: Emoji.codeMarks (run.reverse ++ tail) := by
  have hslashes (k : Nat) : Emoji.codeMarks (List.replicate k '\\') = [] :=
    List.filter_eq_nil_iff.mpr fun c hc => by rw [(List.mem_replicate.mp hc).2]; decide
  induction n, tail using markup_induction generalizing run with
  | nil n =>
      rw [pieces_nil, List.mem_singleton, Piece.text.injEq] at hpiece
      have hmarks : Emoji.codeMarks cs = Emoji.codeMarks (run.reverse ++ []) := by
        rw [hpiece, Emoji.codeMarks_append, hslashes, List.append_nil, List.append_nil]
      exact hmarks ▸ List.infix_rfl
  | backslash n rest ih =>
      rw [pieces_backslash] at hpiece
      have hrest := ih hpiece
      rwa [Emoji.codeMarks_append, ← Emoji.codeMarks_cons_of_eq_false (c := '\\') (by decide) rest,
        ← Emoji.codeMarks_append] at hrest
  | tag n body after hnot htag ih =>
      rw [pieces_tag (htag after)] at hpiece
      simp only [List.mem_cons] at hpiece
      have hwhole : Emoji.codeMarks (run.reverse ++ '[' :: (body ++ ']' :: after)) =
          Emoji.codeMarks run.reverse ++ (Emoji.codeMarks body ++ Emoji.codeMarks after) := by
        rw [Emoji.codeMarks_append, Emoji.codeMarks_cons_of_eq_false (by decide), Emoji.codeMarks_append,
          Emoji.codeMarks_cons_of_eq_false (by decide)]
      rw [hwhole]
      rcases hpiece with hread | hread | hread | hread
      · rw [Piece.text.inj hread]
        exact (List.prefix_append _ _).isInfix
      · rw [Piece.text.inj hread, hslashes]
        exact List.nil_infix
      · split_ifs at hread
        rw [Piece.text.inj hread, List.cons_append, Emoji.codeMarks_cons_of_eq_false (by decide),
          Emoji.codeMarks_append, Emoji.codeMarks_cons_of_eq_false (by decide)]
        exact ⟨Emoji.codeMarks run.reverse, Emoji.codeMarks after, by simp [Emoji.codeMarks]⟩
      · refine (ih hread).trans ?_
        exact ((List.suffix_append _ _).trans (List.suffix_append _ _)).isInfix
  | bracket n rest hnone ih =>
      rw [pieces_bracket hnone] at hpiece
      have hrest := ih hpiece
      have hsame : Emoji.codeMarks (('[' :: List.replicate (n - 1) '\\' ++ run).reverse ++ rest) =
          Emoji.codeMarks (run.reverse ++ '[' :: rest) := by
        rw [List.cons_append, List.reverse_cons, List.reverse_append, List.reverse_replicate]
        simp only [Emoji.codeMarks_append, hslashes, List.append_assoc]
        rw [List.append_cancel_left_eq, ← Emoji.codeMarks_append]
        rfl
      rwa [hsame] at hrest
  | char n c rest hbackslash hopen ih =>
      rw [pieces_char hbackslash hopen] at hpiece
      have hrest := ih hpiece
      have hsame : Emoji.codeMarks ((c :: List.replicate n '\\' ++ run).reverse ++ rest) =
          Emoji.codeMarks (run.reverse ++ c :: rest) := by
        rw [List.cons_append, List.reverse_cons, List.reverse_append, List.reverse_replicate]
        simp only [Emoji.codeMarks_append, hslashes, List.append_assoc]
        rw [List.append_cancel_left_eq, ← Emoji.codeMarks_append]
        rfl
      rwa [hsame] at hrest

/-- A text in a markup without codes is shown as it is if none of its characters is left out. -/
theorem replaceCodes_and_kept (hfree : Emoji.IsCodeFree tail) (hkept : ∀ c ∈ tail, isDropped c = false)
    (hpiece : Piece.text cs ∈ pieces [] 0 tail) :
    Emoji.replaceCodes cs = cs ∧ ∀ c ∈ cs, isDropped c = false := by
  have hfree' : Emoji.IsCodeFree cs := List.IsChain.infix hfree (codeMarks_of_mem_pieces hpiece)
  exact ⟨replaceCodes_of_isCodeFree hfree', fun c hc => hkept c (mem_of_mem_pieces hpiece c hc)⟩

/-- A markup with a blank between any two colons holds no codes. -/
theorem isCodeless_of_isCodeFree (hfree : Emoji.IsCodeFree markup.toList)
    (hkept : ∀ c ∈ markup.toList, isDropped c = false) : IsCodeless markup := fun _ hpiece =>
  replaceCodes_and_kept hfree hkept hpiece

/-! ## Between two tags -/

/-- Is the text free of opening brackets and backslashes? -/
def IsUnmarked (cs : List Char) : Prop := ∀ c ∈ cs, c ≠ '\\' ∧ c ≠ '['

instance : Decidable (IsUnmarked cs) := List.decidableBAll _ cs

/-- A text without opening brackets and backslashes is read as it is. -/
theorem pieces_append {run : List Char} (hfront : IsUnmarked front) :
    pieces run 0 (front ++ tail) = pieces (front.reverse ++ run) 0 tail := by
  induction front generalizing run with
  | nil => rfl
  | cons c front ih =>
      obtain ⟨hslash, hopen⟩ := hfront c List.mem_cons_self
      rw [List.cons_append, pieces_char hslash hopen, ih fun d hd => hfront d (List.mem_cons_of_mem c hd)]
      simp

/-- Is the text a tag that opens a style, and the same with a slash one that closes it? -/
structure IsStyleWord (word : List Char) : Prop where
  opens : ∀ tail, tagBody? (word ++ ']' :: tail) = some (word, tail)
  closes : ∀ tail, tagBody? ('/' :: (word ++ ']' :: tail)) = some ('/' :: word, tail)
  pairs : ∃ name, Change.ofTag word = .ok (.opening ⟨name, []⟩) ∧
    Change.ofTag ('/' :: word) = .ok (.closing name)

/-- A style that is opened and closed changes nothing. -/
theorem changeAll_pair (hword : IsStyleWord word) (bodies : List (List Char)) :
    changeAll [] (word :: ('/' :: word) :: bodies) = changeAll [] bodies := by
  obtain ⟨name, hopen, hclose⟩ := hword.pairs
  simp [changeAll, hopen, hclose, Change.apply, closeNamed, Opening.close, Except.map]

/-- A style that is opened can be left open. -/
theorem exists_changeAll_single (hword : IsStyleWord word) :
    ∃ styles, changeAll [] [word] = .ok styles := by
  obtain ⟨name, hopen, -⟩ := hword.pairs
  exact ⟨[⟨name, []⟩], by simp [changeAll, hopen, Change.apply]⟩

/-- A text between two tags of a word, with a text before and one after them. -/
def between (word front cs back : List Char) : List Char :=
  front ++ '[' :: (word ++ ']' :: (cs ++ '[' :: '/' :: (word ++ ']' :: back)))

/-- Reading an escaped text between two tags. -/
theorem alike_pieces_between (hword : IsStyleWord word) (hfront : IsUnmarked front)
    (hback : IsUnmarked back) :
    Alike (pieces [] 0 (between word front (escapeChars cs) back))
      (.text front :: .tag word :: .text (settled 0 cs) ::
        .text (List.replicate (backslashesWritten cs / 2) '\\') ::
        (if backslashesWritten cs % 2 = 1 then .text ('[' :: '/' :: (word ++ [']'])) else .tag ('/' :: word)) ::
        [.text back]) := by
  have hescaped := @alike_pieces_escapeChars cs ('[' :: '/' :: (word ++ ']' :: back)) rfl
  have hlast : pieces [] 0 back = [.text back] := by
    have hread := @pieces_append back [] [] hback
    simpa using hread
  rw [pieces_tag (hword.closes back), hlast] at hescaped
  rw [between, pieces_append hfront, pieces_tag (hword.opens _)]
  exact ⟨by simp [hescaped.1], by simp [hescaped.2]⟩

/-- The tags around an escaped text can be followed, whatever the text. -/
theorem isFollowed_between (hword : IsStyleWord word) (hfront : IsUnmarked front)
    (hback : IsUnmarked back) :
    IsFollowed (between word front (escapeChars cs) back) := by
  rw [IsFollowed, (alike_pieces_between hword hfront hback).2]
  split_ifs
  · exact exists_changeAll_single hword
  · exact ⟨[], changeAll_pair hword []⟩

/-- The backslashes that a tag leaves before it are those at the end of a text if there is at most one. -/
theorem backslashes_before_tag_iff :
    List.replicate (backslashesWritten cs / 2) '\\' ++
        (if backslashesWritten cs % 2 = 1 then '[' :: '/' :: (word ++ [']']) else []) =
      List.replicate (backslashesAtEnd 0 cs) '\\' ↔ backslashesAtEnd 0 cs ≤ 1 := by
  rw [backslashesWritten]
  by_cases hone : backslashesAtEnd 0 cs = 1
  · rw [if_pos hone, hone]
    simp
  · rw [if_neg hone]
    split_ifs with hodd
    · refine iff_of_false (fun heq => ?_) (by omega)
      have hclosing : ']' ∈ List.replicate (backslashesAtEnd 0 cs) '\\' := by
        rw [← heq]
        simp
      exact absurd (List.mem_replicate.mp hclosing).2 (by decide)
    · rw [List.append_nil, List.replicate_inj]
      simp
      omega

/-- An escaped text between two tags is shown as it is if it is tidy and ends with one backslash at most. -/
theorem visible_between_iff (hword : IsStyleWord word) (hfront : IsUnmarked front)
    (hback : IsUnmarked back)
    (hmarkup : markup.toList = between word front (escapeChars cs) back)
    (hcodeless : IsCodeless markup) :
    visible markup = .ok (front ++ (cs ++ back)) ↔ IsTidy cs ∧ backslashesAtEnd 0 cs ≤ 1 := by
  have hfollowed : IsFollowed markup.toList := hmarkup ▸ isFollowed_between hword hfront hback
  have hplain : plain (pieces [] 0 markup.toList) = front ++ (settled 0 cs ++
      (List.replicate (backslashesWritten cs / 2) '\\' ++
        (if backslashesWritten cs % 2 = 1 then '[' :: '/' :: (word ++ [']']) else []) ++ back)) := by
    rw [hmarkup, (alike_pieces_between hword hfront hback).1]
    split_ifs <;> simp
  rw [visible_eq_ok_iff hcodeless, and_iff_right hfollowed, hplain, List.append_cancel_left_eq,
    settled_zero_append_eq_iff, List.append_cancel_right_eq, backslashes_before_tag_iff]

/-! ## Alone -/

/-- An escaped text is read as one run of plain text. -/
theorem alike_pieces_escape (cs : List Char) :
    Alike (pieces [] 0 (escapeChars cs))
      [.text (settled 0 cs ++ List.replicate (backslashesWritten cs) '\\')] := by
  have hread := @alike_pieces_escapeChars cs [] rfl
  rw [List.append_nil, pieces_nil] at hread
  exact ⟨by simp [hread.1], by simp [hread.2]⟩

/-- An escaped text has no tags to follow. -/
theorem isFollowed_escape (s : String) : IsFollowed (escape s).toList := by
  rw [IsFollowed, escape, String.toList_ofList, (alike_pieces_escape s.toList).2]
  exact ⟨[], rfl⟩

/-- An escaped text is shown as it is if it is tidy and does not end with a single backslash. -/
theorem visible_escape_iff {s : String} (hcodeless : IsCodeless (escape s)) :
    visible (escape s) = .ok s.toList ↔ IsTidy s.toList ∧ backslashesAtEnd 0 s.toList ≠ 1 := by
  have hdoubled : List.replicate (backslashesWritten s.toList) '\\' =
      List.replicate (backslashesAtEnd 0 s.toList) '\\' ↔ backslashesAtEnd 0 s.toList ≠ 1 := by
    rw [backslashesWritten, List.replicate_inj]
    split_ifs with hone <;> simp [hone]
  have hiff := @settled_zero_append_eq_iff s.toList
    (List.replicate (backslashesWritten s.toList) '\\') []
  rw [List.append_nil, List.append_nil, hdoubled] at hiff
  rw [visible_eq_ok_iff hcodeless, and_iff_right (isFollowed_escape s), ← hiff, escape,
    String.toList_ofList, (alike_pieces_escape s.toList).1]
  simp

/-! ## Behind two tags, not escaped -/

/-- A text without a tag is escaped by nothing. -/
theorem escapeTags_of_not_hasTag (h : ¬ HasTag cs) : escapeTags n cs = List.replicate n '\\' ++ cs := by
  induction cs generalizing n with
  | nil => simp
  | cons c rest ih =>
      rw [hasTag_cons_iff, not_or] at h
      obtain ⟨hfirst, hrest⟩ := h
      by_cases hslash : c = '\\'
      · rw [hslash, escapeTags_backslash, ih hrest, List.replicate_succ', List.append_assoc]
        rfl
      · by_cases hopen : c = '['
        · have hnone : tagBody? rest = none := by
            rw [← Option.not_isSome_iff_eq_none]
            exact fun hsome => hfirst ⟨hopen, hsome⟩
          rw [hopen, escapeTags_bracket hnone, ih hrest]
          rfl
        · rw [escapeTags_char hslash hopen, ih hrest]
          rfl

/-- A text without a tag is read as one run of plain text. -/
theorem alike_pieces_of_not_hasTag (h : ¬ HasTag cs) :
    Alike (pieces [] 0 cs) [.text (settled 0 cs ++ List.replicate (backslashesAtEnd 0 cs) '\\')] := by
  have hread := @alike_pieces_escapeTags cs [] 0 rfl
  rw [List.append_nil, pieces_nil, escapeTags_of_not_hasTag h] at hread
  exact ⟨by simpa using hread.1, by simpa using hread.2⟩

/--
Reading a text gives no more characters, blanks apart, and fewer where it holds a tag: the tag is left out, or one
backslash before it.
-/
theorem length_inked_plain_pieces :
    (inked (plain (pieces [] n cs))).length ≤ n + (inked cs).length ∧
      (HasTag cs → (inked (plain (pieces [] n cs))).length < n + (inked cs).length) := by
  have hslashes (k : Nat) : (inked (List.replicate k '\\')).length = k := by
    have hall : inked (List.replicate k '\\') = List.replicate k '\\' :=
      List.filter_eq_self.mpr fun c hc => by rw [(List.mem_replicate.mp hc).2]; decide
    rw [hall, List.length_replicate]
  have hsign {c : Char} (hc : Text.isBlank c = false) (xs : List Char) : inked (c :: xs) = c :: inked xs :=
    List.filter_cons_of_pos (by simp [hc])
  induction n, cs using markup_induction with
  | nil n =>
      refine ⟨by simp [hslashes], ?_⟩
      rintro ⟨rest, hsuffix, -⟩
      cases List.suffix_nil.mp hsuffix
  | backslash n rest ih =>
      have htag : HasTag ('\\' :: rest) → HasTag rest := fun h =>
        (hasTag_cons_iff.mp h).resolve_left fun hfirst => absurd hfirst.1 (by decide)
      rw [pieces_backslash, hsign (by decide), List.length_cons]
      refine ⟨by omega, fun h => ?_⟩
      have hrest := ih.2 (htag h)
      omega
  | tag n body after hnot htag ih =>
      have hshorter : (inked (plain (pieces [] n ('[' :: (body ++ ']' :: after))))).length <
          n + (inked ('[' :: (body ++ ']' :: after))).length := by
        rw [pieces_tag (htag after)]
        split_ifs <;>
          simp [inked_append, hslashes, hsign (c := '[') (by decide), hsign (c := ']') (by decide)] <;> omega
      exact ⟨hshorter.le, fun _ => hshorter⟩
  | bracket n rest hnone ih =>
      have htag : HasTag ('[' :: rest) → HasTag rest := fun h =>
        (hasTag_cons_iff.mp h).resolve_left fun hfirst => by simp [hnone] at hfirst
      have hone : (inked ['[']).length = 1 := by decide
      rw [pieces_bracket hnone, (alike_pieces_run _).1, hsign (by decide)]
      simp only [plain_text, List.append_nil, List.reverse_cons, List.reverse_replicate, inked_append,
        List.length_append, List.length_cons, hslashes, hone]
      refine ⟨by omega, fun h => ?_⟩
      have hrest := ih.2 (htag h)
      omega
  | char n c rest hslash hopen ih =>
      have htag : HasTag (c :: rest) → HasTag rest := fun h =>
        (hasTag_cons_iff.mp h).resolve_left fun hfirst => hopen hfirst.1
      have hone : inked (c :: rest) = inked [c] ++ inked rest := inked_append [c] rest
      rw [pieces_char hslash hopen, (alike_pieces_run _).1, hone]
      simp only [plain_text, List.append_nil, List.reverse_cons, List.reverse_replicate, inked_append,
        List.length_append, hslashes]
      refine ⟨by omega, fun h => ?_⟩
      have hrest := ih.2 (htag h)
      omega

/-- The text is read as it is if it holds no tag and is tidy. -/
theorem plain_pieces_eq_iff : plain (pieces [] 0 cs) = cs ↔ ¬ HasTag cs ∧ IsTidy cs := by
  by_cases htag : HasTag cs
  · refine iff_of_false (fun heq => ?_) (fun hboth => hboth.1 htag)
    have hlt := (@length_inked_plain_pieces cs 0).2 htag
    rw [heq, Nat.zero_add] at hlt
    exact Nat.lt_irrefl _ hlt
  · have hiff := @settled_zero_append_eq_iff cs (List.replicate (backslashesAtEnd 0 cs) '\\') []
    rw [List.append_nil, List.append_nil] at hiff
    rw [(alike_pieces_of_not_hasTag htag).1, plain_text, plain_nil, List.append_nil, hiff]
    simp [htag]

/-- A text that is not escaped, behind two tags. -/
theorem pieces_behind (hword : IsStyleWord word) (hfront : IsUnmarked front) :
    pieces [] 0 (between word [] front cs) =
      .text [] :: .text [] :: .tag word :: .text front :: .text [] :: .tag ('/' :: word) :: pieces [] 0 cs := by
  rw [between, List.nil_append, pieces_tag (hword.opens _), pieces_append hfront,
    pieces_tag (hword.closes cs)]
  simp

/-- A text without a tag brings none to those before it. -/
theorem isFollowed_behind (hword : IsStyleWord word) (hfront : IsUnmarked front)
    (htag : ¬ HasTag cs) : IsFollowed (between word [] front cs) := by
  rw [IsFollowed, pieces_behind hword hfront]
  simp only [tags_text, tags_tag, (alike_pieces_of_not_hasTag htag).2, tags_nil]
  exact ⟨[], changeAll_pair hword []⟩

/-- A text behind two tags that is not escaped is shown as it is if it holds no tag and is tidy. -/
theorem visible_behind_iff (hword : IsStyleWord word) (hfront : IsUnmarked front)
    (hmarkup : markup.toList = between word [] front cs) (hcodeless : IsCodeless markup) :
    visible markup = .ok (front ++ cs) ↔ ¬ HasTag cs ∧ IsTidy cs := by
  have hplain : plain (pieces [] 0 markup.toList) = front ++ plain (pieces [] 0 cs) := by
    rw [hmarkup, pieces_behind hword hfront]
    rfl
  have hfollowed : ¬ HasTag cs ∧ IsTidy cs → IsFollowed markup.toList := fun hboth =>
    hmarkup ▸ isFollowed_behind hword hfront hboth.1
  rw [visible_eq_ok_iff hcodeless, hplain, List.append_cancel_left_eq, plain_pieces_eq_iff]
  exact and_iff_right_of_imp hfollowed

/-- A text without codes brings none to a label that holds none. -/
theorem isCodeless_behind (hword : IsStyleWord word) (hfront : IsUnmarked front)
    (hlabel : Emoji.IsCodeFree front) (hkeptLabel : ∀ c ∈ front, isDropped c = false)
    (hmarkup : markup.toList = between word [] front cs) (hfree : Emoji.IsCodeFree cs)
    (hkept : ∀ c ∈ cs, isDropped c = false) : IsCodeless markup := by
  intro text hpiece
  rw [hmarkup, pieces_behind hword hfront] at hpiece
  simp only [List.mem_cons, Piece.text.injEq, reduceCtorEq, false_or] at hpiece
  have hempty : Emoji.replaceCodes [] = [] ∧ ∀ c ∈ ([] : List Char), isDropped c = false :=
    ⟨by rw [Emoji.replaceCodes], List.forall_mem_nil _⟩
  rcases hpiece with rfl | rfl | rfl | rfl | hrest
  · exact hempty
  · exact hempty
  · exact ⟨replaceCodes_of_isCodeFree hlabel, hkeptLabel⟩
  · exact hempty
  · exact replaceCodes_and_kept hfree hkept hrest

end ApiLint.Markup
