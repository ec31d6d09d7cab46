import ApiLint.Console.Verbatim
import Mathlib.Tactic.SplitIfs

/-!
# Escaped texts on the console

Escaping puts backslashes before the tags of a text, and reading the markup takes them away again, whatever
comes after it.  What escaping does not undo is what reading does to other backslashes: one just before a
bracket that starts no tag is left out, and those at the end of the text may meet a tag that follows.

Main results:

- Theorem `pieces_escapeTags`: an escaped text is read as one run of plain text.
- Theorem `settled_append_eq_iff`: when that run is the text.
-/

namespace ApiLint.Markup

variable {run cs rest body after tail : List Char} {n : Nat}

/-! ## Tags -/

/-- A text up to a closing bracket may be followed by anything. -/
theorem untilClosing?_eq_some (h : untilClosing? cs = some (body, after)) :
    cs = body ++ ']' :: after ∧ '[' ∉ body ∧
      ∀ tail, untilClosing? (body ++ ']' :: tail) = some (body, tail) := by
  induction cs generalizing body with
  | nil => cases h
  | cons c rest ih =>
      rw [untilClosing?] at h
      split_ifs at h with hclose hopen
      · cases h
        exact ⟨by rw [hclose]; rfl, List.not_mem_nil, fun tail => rfl⟩
      · cases hrest : untilClosing? rest with
        | none =>
            rw [hrest] at h
            cases h
        | some found =>
            rw [hrest] at h
            cases h
            obtain ⟨heq, hnot, htail⟩ := ih hrest
            refine ⟨by rw [heq]; rfl, by simp [Ne.symm hopen, hnot], fun tail => ?_⟩
            rw [List.cons_append, untilClosing?, if_neg hclose, if_neg hopen, htail]

/-- The body of a tag may be followed by anything. -/
theorem tagBody?_eq_some (h : tagBody? cs = some (body, after)) :
    cs = body ++ ']' :: after ∧ '[' ∉ body ∧
      ∀ tail, tagBody? (body ++ ']' :: tail) = some (body, tail) := by
  cases cs with
  | nil => cases h
  | cons c rest =>
      rw [tagBody?] at h
      split_ifs at h with hstart
      obtain ⟨heq, hnot, htail⟩ := untilClosing?_eq_some h
      refine ⟨heq, hnot, fun tail => ?_⟩
      cases body with
      | nil =>
          obtain rfl : c = ']' := (List.cons.inj heq).1
          exact absurd hstart (by decide)
      | cons d body =>
          obtain rfl : c = d := (List.cons.inj heq).1
          rw [List.cons_append, tagBody?, if_pos hstart]
          exact htail tail

/-- No tag starts where no bracket closes. -/
theorem tagBody?_eq_none (h : untilClosing? cs = none) : tagBody? cs = none := by
  cases cs with
  | nil => rfl
  | cons c rest =>
      rw [tagBody?]
      split_ifs
      · exact h
      · rfl

/-! ## Steps of escaping and reading -/

@[simp]
theorem escapeTags_nil : escapeTags n [] = List.replicate n '\\' := by
  rw [escapeTags]

@[simp]
theorem escapeTags_backslash : escapeTags n ('\\' :: rest) = escapeTags (n + 1) rest := by
  rw [escapeTags, if_pos rfl]

theorem escapeTags_tag (h : tagBody? rest = some (body, after)) :
    escapeTags n ('[' :: rest) =
      List.replicate (2 * n + 1) '\\' ++ ('[' :: body ++ ']' :: escapeTags 0 after) := by
  rw [escapeTags, if_neg (by decide), if_pos rfl]
  split
  · rename_i found
    rw [h] at found
    cases found
    rfl
  · rename_i found
    rw [h] at found
    cases found

theorem escapeTags_bracket (h : tagBody? rest = none) :
    escapeTags n ('[' :: rest) = List.replicate n '\\' ++ '[' :: escapeTags 0 rest := by
  rw [escapeTags, if_neg (by decide), if_pos rfl]
  split
  · rename_i found
    rw [h] at found
    cases found
  · rfl

theorem escapeTags_char {c : Char} (hslash : c ≠ '\\') (hopen : c ≠ '[') :
    escapeTags n (c :: rest) = List.replicate n '\\' ++ c :: escapeTags 0 rest := by
  rw [escapeTags, if_neg hslash, if_neg hopen]

@[simp]
theorem pieces_nil : pieces run n [] = [.text (run.reverse ++ List.replicate n '\\')] := by
  rw [pieces]

@[simp]
theorem pieces_backslash : pieces run n ('\\' :: rest) = pieces run (n + 1) rest := by
  rw [pieces, if_pos rfl]

theorem pieces_tag (h : tagBody? rest = some (body, after)) :
    pieces run n ('[' :: rest) =
      .text run.reverse :: .text (List.replicate (n / 2) '\\') ::
        (if n % 2 = 1 then .text ('[' :: body ++ [']']) else .tag body) :: pieces [] 0 after := by
  rw [pieces, if_neg (by decide), if_pos rfl]
  split
  · rename_i found
    rw [h] at found
    cases found
    rfl
  · rename_i found
    rw [h] at found
    cases found

theorem pieces_bracket (h : tagBody? rest = none) :
    pieces run n ('[' :: rest) = pieces ('[' :: List.replicate (n - 1) '\\' ++ run) 0 rest := by
  rw [pieces, if_neg (by decide), if_pos rfl]
  split
  · rename_i found
    rw [h] at found
    cases found
  · rfl

theorem pieces_char {c : Char} (hslash : c ≠ '\\') (hopen : c ≠ '[') :
    pieces run n (c :: rest) = pieces (c :: List.replicate n '\\' ++ run) 0 rest := by
  rw [pieces, if_neg hslash, if_neg hopen]

/-- Backslashes are counted. -/
theorem pieces_replicate (k : Nat) :
    pieces run n (List.replicate k '\\' ++ cs) = pieces run (n + k) cs := by
  induction k generalizing n with
  | zero => rfl
  | succ k ih =>
      rw [List.replicate_succ, List.cons_append, pieces_backslash, ih]
      congr 1
      omega

/--
Markup is read from left to right: after so many backslashes it ends, or it goes on with a backslash, a tag,
another bracket or another character.
-/
theorem markup_induction {motive : Nat → List Char → Prop}
    (nil : ∀ n, motive n [])
    (backslash : ∀ n rest, motive (n + 1) rest → motive n ('\\' :: rest))
    (tag : ∀ n body after, '[' ∉ body → (∀ tail, tagBody? (body ++ ']' :: tail) = some (body, tail)) →
      motive 0 after → motive n ('[' :: (body ++ ']' :: after)))
    (bracket : ∀ n rest, tagBody? rest = none → motive 0 rest → motive n ('[' :: rest))
    (char : ∀ n c rest, c ≠ '\\' → c ≠ '[' → motive 0 rest → motive n (c :: rest))
    (n : Nat) (cs : List Char) : motive n cs := by
  induction n, cs using escapeTags.induct with
  | case1 n => exact nil n
  | case2 n rest ih => exact backslash n rest ih
  | case3 n rest body after hfound _ ih =>
      obtain ⟨rfl, hnot, htail⟩ := tagBody?_eq_some hfound
      exact tag n body after hnot htail ih
  | case4 n rest hfound _ ih => exact bracket n rest hfound ih
  | case5 n c rest hslash hopen ih => exact char n c rest hslash hopen ih

/-! ## What pieces show -/

/-- The characters of the texts among pieces. -/
def plain (ps : List Piece) : List Char :=
  ps.flatMap fun
    | .text cs => cs
    | .tag _ => []

/-- The tags among pieces. -/
def tags (ps : List Piece) : List (List Char) :=
  ps.filterMap fun
    | .text _ => none
    | .tag body => some body

section

variable {ps qs : List Piece}

@[simp]
theorem plain_nil : plain [] = [] := rfl

@[simp]
theorem plain_text : plain (.text cs :: ps) = cs ++ plain ps := rfl

@[simp]
theorem plain_tag : plain (.tag body :: ps) = plain ps := rfl

@[simp]
theorem tags_nil : tags [] = [] := rfl

@[simp]
theorem tags_text : tags (.text cs :: ps) = tags ps := rfl

@[simp]
theorem tags_tag : tags (.tag body :: ps) = body :: tags ps := rfl

/-- Do pieces have the same characters and the same tags? -/
def Alike (ps qs : List Piece) : Prop := plain ps = plain qs ∧ tags ps = tags qs

theorem Alike.symm (h : Alike ps qs) : Alike qs ps := ⟨h.1.symm, h.2.symm⟩

theorem Alike.trans {rs : List Piece} (h : Alike ps qs) (h' : Alike qs rs) : Alike ps rs :=
  ⟨h.1.trans h'.1, h.2.trans h'.2⟩

/-- Pieces that are alike stay alike behind the same text. -/
theorem Alike.behind (cs : List Char) (h : Alike ps qs) : Alike (.text cs :: ps) (.text cs :: qs) :=
  ⟨by simp [h.1], by simp [h.2]⟩

/-- A run that goes on after another one stands behind it. -/
theorem alike_append_run (more run : List Char) :
    Alike (.text (more ++ run).reverse :: ps) (.text run.reverse :: .text (more ++ []).reverse :: ps) := by
  simp [Alike]

end

/-- A run of plain text that was read before is the start of the text. -/
theorem alike_pieces_run (run : List Char) :
    Alike (pieces run n cs) (.text run.reverse :: pieces [] n cs) := by
  induction n, cs using markup_induction generalizing run with
  | nil n => simp [Alike]
  | backslash n rest ih => simpa using ih run
  | tag n body after hnot htail ih => simp [Alike, pieces_tag (htail after)]
  | bracket n rest hnone ih =>
      rw [pieces_bracket hnone, pieces_bracket hnone]
      exact ((ih _).trans (alike_append_run _ run)).trans ((ih _).behind run.reverse).symm
  | char n c rest hslash hopen ih =>
      rw [pieces_char hslash hopen, pieces_char hslash hopen]
      exact ((ih _).trans (alike_append_run (c :: _) run)).trans ((ih _).behind run.reverse).symm

/-! ## Reading escaped texts -/

/--
What reading leaves of an escaped text, where so many backslashes were read just before it: all but a
backslash just before a bracket that starts no tag, and the backslashes at the end.
-/
def settled (backslashes : Nat) : List Char → List Char
  | [] => []
  | c :: rest =>
    if c = '\\' then settled (backslashes + 1) rest
    else if c = '[' ∧ tagBody? rest = none then
      List.replicate (backslashes - 1) '\\' ++ '[' :: settled 0 rest
    else List.replicate backslashes '\\' ++ c :: settled 0 rest

/-- The body of a tag is left as it is. -/
theorem settled_body (hnot : '[' ∉ body) :
    settled n (body ++ ']' :: after) = List.replicate n '\\' ++ (body ++ ']' :: settled 0 after) := by
  induction body generalizing n with
  | nil =>
      rw [List.nil_append, settled, if_neg (by decide), if_neg (by simp)]
      rfl
  | cons c body ih =>
      have hbody : '[' ∉ body := fun hmem => hnot (List.mem_cons_of_mem c hmem)
      have hopen : ¬ (c = '[' ∧ tagBody? (body ++ ']' :: after) = none) := by
        rintro ⟨rfl, -⟩
        exact hnot List.mem_cons_self
      rw [List.cons_append, settled]
      split_ifs with hslash
      · rw [ih hbody, hslash, List.replicate_succ', List.append_assoc]
        rfl
      · rw [ih hbody]
        rfl

/-- Only what comes after a tag counts for the backslashes at the end. -/
theorem backslashesAtEnd_body (body : List Char) :
    backslashesAtEnd n (body ++ ']' :: after) = backslashesAtEnd 0 after := by
  induction body generalizing n with
  | nil => rw [List.nil_append, backslashesAtEnd, if_neg (by decide)]
  | cons c body ih =>
      rw [List.cons_append, backslashesAtEnd]
      split_ifs
      · exact ih
      · exact ih

/-- No tag is closed behind backslashes if none is closed after them. -/
theorem untilClosing?_replicate (htail : untilClosing? tail = none) :
    untilClosing? (List.replicate n '\\' ++ tail) = none := by
  induction n with
  | zero => exact htail
  | succ n ih =>
      rw [List.replicate_succ, List.cons_append, untilClosing?, if_neg (by decide), if_neg (by decide), ih]

/-- No tag is closed behind backslashes before an opening bracket. -/
theorem untilClosing?_replicate_bracket :
    untilClosing? (List.replicate n '\\' ++ '[' :: tail) = none :=
  untilClosing?_replicate rfl

/-- A text that closes no bracket closes none when it is escaped. -/
theorem untilClosing?_escapeTags (htail : untilClosing? tail = none) (h : untilClosing? cs = none) :
    untilClosing? (escapeTags n cs ++ tail) = none := by
  induction n, cs using markup_induction with
  | nil n =>
      rw [escapeTags_nil]
      exact untilClosing?_replicate htail
  | backslash n rest ih =>
      rw [escapeTags_backslash]
      refine ih ?_
      rw [untilClosing?, if_neg (by decide), if_neg (by decide)] at h
      cases hrest : untilClosing? rest with
      | none => rfl
      | some found =>
          rw [hrest] at h
          cases h
  | tag n body after hnot htag ih =>
      rw [escapeTags_tag (htag after), List.append_assoc]
      exact untilClosing?_replicate_bracket
  | bracket n rest hnone ih =>
      rw [escapeTags_bracket hnone, List.append_assoc]
      exact untilClosing?_replicate_bracket
  | char n c rest hslash hopen ih =>
      rw [escapeTags_char hslash hopen, List.append_assoc]
      refine untilClosing?_replicate ?_
      rw [untilClosing?] at h
      split_ifs at h with hclose
      cases hrest : untilClosing? rest with
      | some found =>
          rw [hrest] at h
          cases h
      | none => rw [List.cons_append, untilClosing?, if_neg hclose, if_neg hopen, ih hrest]

/-- No tag starts with a backslash. -/
theorem tagBody?_replicate (hpos : 0 < n) : tagBody? (List.replicate n '\\' ++ tail) = none := by
  cases n with
  | zero => exact absurd hpos (Nat.lt_irrefl 0)
  | succ n => rfl

/-- What is escaped after a backslash starts with one, and so it starts no tag. -/
theorem tagBody?_escapeTags_of_pos (hpos : 0 < n) : tagBody? (escapeTags n cs ++ tail) = none := by
  induction n, cs using markup_induction with
  | nil n =>
      rw [escapeTags_nil]
      exact tagBody?_replicate hpos
  | backslash n rest ih =>
      rw [escapeTags_backslash]
      exact ih n.succ_pos
  | tag n body after hnot htag _ =>
      rw [escapeTags_tag (htag after), List.append_assoc]
      exact tagBody?_replicate (Nat.succ_pos _)
  | bracket n rest hnone _ =>
      rw [escapeTags_bracket hnone, List.append_assoc]
      exact tagBody?_replicate hpos
  | char n c rest hslash hopen _ =>
      rw [escapeTags_char hslash hopen, List.append_assoc]
      exact tagBody?_replicate hpos

/-- A text that starts no tag starts none when it is escaped. -/
theorem tagBody?_escapeTags (htail : untilClosing? tail = none) (h : tagBody? cs = none) :
    tagBody? (escapeTags 0 cs ++ tail) = none := by
  cases cs with
  | nil =>
      rw [escapeTags_nil]
      exact tagBody?_eq_none htail
  | cons c rest =>
      rw [tagBody?] at h
      split_ifs at h with hstart
      · exact tagBody?_eq_none (untilClosing?_escapeTags htail h)
      · by_cases hslash : c = '\\'
        · rw [hslash, escapeTags_backslash]
          exact tagBody?_escapeTags_of_pos Nat.one_pos
        · by_cases hopen : c = '['
          · subst hopen
            cases htag : tagBody? rest with
            | none =>
                rw [escapeTags_bracket htag]
                rfl
            | some found =>
                rw [escapeTags_tag htag]
                rfl
          · rw [escapeTags_char hslash hopen, List.replicate_zero, List.nil_append, List.cons_append,
              tagBody?, if_neg hstart]

/-- Reading an escaped text gives the text, but for what reading leaves out of it. -/
theorem alike_pieces_escapeTags (htail : untilClosing? tail = none) :
    Alike (pieces [] 0 (escapeTags n cs ++ tail))
      (.text (settled n cs) :: pieces [] (backslashesAtEnd n cs) tail) := by
  induction n, cs using markup_induction with
  | nil n =>
      rw [escapeTags_nil, pieces_replicate, Nat.zero_add]
      exact ⟨rfl, rfl⟩
  | backslash n rest ih =>
      rw [escapeTags_backslash]
      exact ih
  | tag n body after hnot htag ih =>
      have hescaped : escapeTags n ('[' :: (body ++ ']' :: after)) ++ tail =
          List.replicate (2 * n + 1) '\\' ++ '[' :: (body ++ ']' :: (escapeTags 0 after ++ tail)) := by
        simp [escapeTags_tag (htag after)]
      have hhalf : (2 * n + 1) / 2 = n := by omega
      have hodd : (2 * n + 1) % 2 = 1 := by omega
      have hsettled : settled n ('[' :: (body ++ ']' :: after)) =
          List.replicate n '\\' ++ '[' :: (body ++ ']' :: settled 0 after) := by
        rw [settled, if_neg (by decide), if_neg (by simp [htag after]), settled_body hnot]
        rfl
      rw [hescaped, pieces_replicate, Nat.zero_add, pieces_tag (htag _), hhalf, if_pos hodd, hsettled,
        backslashesAtEnd, if_neg (by decide), backslashesAtEnd_body]
      exact ⟨by simp [ih.1], by simp [ih.2]⟩
  | bracket n rest hnone ih =>
      have hescaped : escapeTags n ('[' :: rest) ++ tail =
          List.replicate n '\\' ++ '[' :: (escapeTags 0 rest ++ tail) := by
        simp [escapeTags_bracket hnone]
      have hsettled : settled n ('[' :: rest) = List.replicate (n - 1) '\\' ++ '[' :: settled 0 rest := by
        rw [settled, if_neg (by decide), if_pos ⟨rfl, hnone⟩]
      rw [hescaped, pieces_replicate, Nat.zero_add, pieces_bracket (tagBody?_escapeTags htail hnone),
        hsettled, backslashesAtEnd, if_neg (by decide)]
      obtain ⟨hplain, htags⟩ := (alike_pieces_run _).trans (ih.behind _)
      exact ⟨by rw [hplain]; simp, by rw [htags]; simp⟩
  | char n c rest hslash hopen ih =>
      have hescaped : escapeTags n (c :: rest) ++ tail =
          List.replicate n '\\' ++ c :: (escapeTags 0 rest ++ tail) := by
        simp [escapeTags_char hslash hopen]
      have hsettled : settled n (c :: rest) = List.replicate n '\\' ++ c :: settled 0 rest := by
        rw [settled, if_neg hslash, if_neg fun hboth => hopen hboth.1]
      rw [hescaped, pieces_replicate, Nat.zero_add, pieces_char hslash hopen, hsettled, backslashesAtEnd,
        if_neg hslash]
      obtain ⟨hplain, htags⟩ := (alike_pieces_run _).trans (ih.behind _)
      exact ⟨by rw [hplain]; simp, by rw [htags]; simp⟩

/-! ## Texts that come out as they went in -/

/-- Backslashes before a character are tidy unless it is a bracket that starts no tag. -/
theorem isTidy_replicate_append_iff {c : Char} (hslash : c ≠ '\\') :
    IsTidy (List.replicate n '\\' ++ c :: rest) ↔
      (0 < n → c = '[' → (tagBody? rest).isSome) ∧ IsTidy rest := by
  induction n with
  | zero => simp [isTidy_cons_iff, hslash]
  | succ n ih =>
      rw [List.replicate_succ, List.cons_append, isTidy_cons_iff, ih]
      cases n with
      | zero => simp
      | succ n => simp [List.replicate_succ]

/-- Backslashes alone are tidy. -/
theorem isTidy_replicate : IsTidy (List.replicate n '\\') := by
  intro rest hsuffix
  have hmem : '[' ∈ List.replicate n '\\' := hsuffix.subset (by simp)
  rw [List.mem_replicate] at hmem
  exact absurd hmem.2 (by decide)

/-- What is left of a text is the text if it is tidy and its last backslashes come after it. -/
theorem settled_append_eq_iff {xs ys : List Char} :
    settled n cs ++ xs = List.replicate n '\\' ++ cs ++ ys ↔
      IsTidy (List.replicate n '\\' ++ cs) ∧
        xs = List.replicate (backslashesAtEnd n cs) '\\' ++ ys := by
  induction cs generalizing n with
  | nil => simp [settled, backslashesAtEnd, isTidy_replicate]
  | cons c rest ih =>
      have hback := @ih 0
      rw [List.replicate_zero, List.nil_append] at hback
      rw [settled, backslashesAtEnd]
      split_ifs with hslash hbracket
      · have hcons : List.replicate n '\\' ++ c :: rest = List.replicate (n + 1) '\\' ++ rest := by
          rw [hslash, List.replicate_succ', List.append_assoc]
          rfl
        rw [hcons, ih]
      · rw [isTidy_replicate_append_iff hslash]
        cases n with
        | zero => simp [hback, hbracket.1]
        | succ n =>
            rw [Nat.add_sub_cancel, List.replicate_succ', List.append_assoc, List.append_assoc,
              List.append_assoc, List.append_cancel_left_eq]
            simp [hbracket]
      · have htag : 0 < n → c = '[' → (tagBody? rest).isSome := fun _ hopen =>
          Option.isSome_iff_ne_none.mpr fun hnone => hbracket ⟨hopen, hnone⟩
        rw [isTidy_replicate_append_iff hslash, and_iff_right htag, List.append_assoc, List.append_assoc,
          List.append_cancel_left_eq, List.cons_append, List.cons_append, List.cons.injEq,
          and_iff_right rfl, hback]

/-- The same where no backslash was read before. -/
theorem settled_zero_append_eq_iff {xs ys : List Char} :
    settled 0 cs ++ xs = cs ++ ys ↔
      IsTidy cs ∧ xs = List.replicate (backslashesAtEnd 0 cs) '\\' ++ ys :=
  settled_append_eq_iff

/-! ## Escaping a whole text -/

/-- A text that goes on behind another character ends with none but that character and its own end. -/
theorem getLast?_append_cons_ne {c d : Char} {front back : List Char} (hc : c ≠ d)
    (hback : back.getLast? ≠ some d) : (front ++ c :: back).getLast? ≠ some d := by
  rw [List.getLast?_append, List.getLast?_cons]
  cases hlast : back.getLast? with
  | none => simpa using hc
  | some last =>
      rw [hlast] at hback
      simpa using hback

/-- An escaped text ends with as many backslashes as the text. -/
theorem exists_escapeTags_eq_append (n : Nat) (cs : List Char) :
    ∃ front, escapeTags n cs = front ++ List.replicate (backslashesAtEnd n cs) '\\' ∧
      front.getLast? ≠ some '\\' := by
  induction n, cs using markup_induction with
  | nil n => exact ⟨[], by simp [backslashesAtEnd], by simp⟩
  | backslash n rest ih =>
      rw [escapeTags_backslash]
      exact ih
  | tag n body after hnot htag ih =>
      obtain ⟨front, heq, hlast⟩ := ih
      refine ⟨List.replicate (2 * n + 1) '\\' ++ ('[' :: body ++ ']' :: front), ?_, ?_⟩
      · rw [escapeTags_tag (htag after), heq, backslashesAtEnd, if_neg (by decide), backslashesAtEnd_body]
        simp
      · rw [List.cons_append, ← List.cons_append, ← List.append_assoc]
        exact getLast?_append_cons_ne (by decide) hlast
  | bracket n rest hnone ih =>
      obtain ⟨front, heq, hlast⟩ := ih
      refine ⟨List.replicate n '\\' ++ '[' :: front, ?_, ?_⟩
      · rw [escapeTags_bracket hnone, heq, backslashesAtEnd, if_neg (by decide)]
        simp
      · exact getLast?_append_cons_ne (by decide) hlast
  | char n c rest hslash hopen ih =>
      obtain ⟨front, heq, hlast⟩ := ih
      refine ⟨List.replicate n '\\' ++ c :: front, ?_, ?_⟩
      · rw [escapeTags_char hslash hopen, heq, backslashesAtEnd, if_neg hslash]
        simp
      · exact getLast?_append_cons_ne hslash hlast

/-- A single backslash at the end of a text is what its escaped text ends with. -/
theorem endsWithBackslash_eq {front : List Char} (hlast : front.getLast? ≠ some '\\') :
    endsWithBackslash (front ++ List.replicate n '\\') = decide (n = 1) := by
  rw [List.getLast?_eq_head?_reverse] at hlast
  rw [endsWithBackslash, List.reverse_append, List.reverse_replicate]
  cases hreverse : front.reverse with
  | nil =>
      match n with
      | 0 => rfl
      | 1 => rfl
      | n + 2 => rfl
  | cons c cs =>
      have hc : c ≠ '\\' := by
        rintro rfl
        rw [hreverse] at hlast
        exact hlast rfl
      match n with
      | 0 => simp [hc]
      | 1 => simp [hc]
      | n + 2 => rfl

/-- The backslashes at the end of an escaped text: a single one is doubled. -/
def backslashesWritten (cs : List Char) : Nat :=
  if backslashesAtEnd 0 cs = 1 then 2 else backslashesAtEnd 0 cs

/-- Reading a text that was escaped, with what comes after it. -/
theorem alike_pieces_escapeChars (htail : untilClosing? tail = none) :
    Alike (pieces [] 0 (escapeChars cs ++ tail))
      (.text (settled 0 cs) :: pieces [] (backslashesWritten cs) tail) := by
  obtain ⟨front, heq, hlast⟩ := exists_escapeTags_eq_append 0 cs
  have hends : endsWithBackslash (escapeTags 0 cs) = decide (backslashesAtEnd 0 cs = 1) := by
    rw [heq, endsWithBackslash_eq hlast]
  by_cases hone : backslashesAtEnd 0 cs = 1
  · have hescaped : escapeChars cs ++ tail = escapeTags 0 cs ++ '\\' :: tail := by
      simp [escapeChars, hends, hone]
    have hread := @alike_pieces_escapeTags cs ('\\' :: tail) 0 (untilClosing?_replicate (n := 1) htail)
    rw [hescaped, backslashesWritten, if_pos hone]
    rwa [hone, pieces_backslash] at hread
  · have hescaped : escapeChars cs = escapeTags 0 cs := by
      simp [escapeChars, hends, hone]
    rw [hescaped, backslashesWritten, if_neg hone]
    exact alike_pieces_escapeTags htail

end ApiLint.Markup
