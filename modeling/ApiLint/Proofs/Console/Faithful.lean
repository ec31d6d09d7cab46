import ApiLint.Proofs.Console.Table
import ApiLint.Proofs.Console.Verbatim

/-!
# The standard printer is faithful

Whether a markup can be printed depends on its tags alone, and escaping leaves none that could not be followed.  What is
printed is what the markup shows, wrapped.  So the lines have a text of narrow characters without codes of emoji if the
markup shows it, and a tag that is not escaped is missed there: what is left of it is shorter than the text.

Main results:

- Theorem `shows_iff`: the lines of a markup have what it shows.
- Theorem `shows_labelled_iff`: a text that is not escaped is shown exactly when no tag stands in it.
- Theorem `Printer.isFaithful_standard`: the standard printer is faithful.
-/

namespace ApiLint.Console

open Markup

variable {columns : Nat} {cs front back : List Char} {markup text : String}

/-! ## Narrow and ordinary characters -/

/-- A character that is left out takes no column. -/
theorem isDropped_of_columns_eq_one {c : Char} (h : Console.columns c = 1) : isDropped c = false := by
  rw [Bool.eq_false_iff]
  intro hdropped
  simp only [isDropped, Bool.or_eq_true, beq_iff_eq] at hdropped
  rw [Console.columns, if_neg (by omega), if_pos (by omega)] at h
  cases h

/-- None of the characters of a narrow text is left out. -/
theorem IsNarrow.isDropped (h : IsNarrow cs) : ∀ c ∈ cs, isDropped c = false := by
  intro c hc
  rcases h c hc with rfl | rfl | hone
  · rfl
  · rfl
  · exact isDropped_of_columns_eq_one hone

theorem IsNarrow.append (hfront : IsNarrow front) (hcs : IsNarrow cs) : IsNarrow (front ++ cs) :=
  List.forall_mem_append.mpr ⟨hfront, hcs⟩

namespace IsOrdinary

theorem append (hfront : IsOrdinary front) (hcs : IsOrdinary cs) : IsOrdinary (front ++ cs) :=
  List.forall_mem_append.mpr ⟨hfront, hcs⟩

theorem isUnmarked (h : IsOrdinary cs) : IsUnmarked cs := fun c hc => ⟨(h c hc).1, (h c hc).2.1⟩

theorem isNarrow (h : IsOrdinary cs) : IsNarrow cs := fun c hc => .inr (.inr (h c hc).2.2.2)

theorem colon_notMem (h : IsOrdinary cs) : ':' ∉ cs := fun hmem => (h ':' hmem).2.2.1 rfl

end IsOrdinary

/-! ## Codes -/

/-- A text without colons holds no codes. -/
theorem isCodeFree_of_notMem (h : ':' ∉ cs) : Emoji.IsCodeFree cs :=
  List.Pairwise.isChain (List.pairwise_of_forall_mem_list fun c hc _ _ (hboth : c = ':' ∧ _) =>
    h (hboth.1 ▸ (List.mem_filter.mp hc).1))

/-- A text without colons brings no codes to a text behind it. -/
theorem isCodeFree_append_left (hfront : ':' ∉ front) (h : Emoji.IsCodeFree cs) :
    Emoji.IsCodeFree (front ++ cs) := by
  rw [Emoji.IsCodeFree, Emoji.codeMarks_append]
  refine (isCodeFree_of_notMem hfront).append h fun c hc d _ hboth => hfront ?_
  exact hboth.1 ▸ (List.mem_filter.mp (List.mem_of_getLast? hc)).1

/-- A text without colons brings no codes to a text before it. -/
theorem isCodeFree_append_right (h : Emoji.IsCodeFree cs) (hback : ':' ∉ back) :
    Emoji.IsCodeFree (cs ++ back) := by
  rw [Emoji.IsCodeFree, Emoji.codeMarks_append]
  refine List.IsChain.append h (isCodeFree_of_notMem hback) fun c _ d hd hboth => hback ?_
  exact hboth.2 ▸ (List.mem_filter.mp (List.mem_of_mem_head? hd)).1

/-! ## Escaping -/

/-- Escaping puts nothing but backslashes into a text. -/
theorem filter_escapeTags {p : Char → Bool} (hp : p '\\' = false) (n : Nat) (cs : List Char) :
    (escapeTags n cs).filter p = cs.filter p := by
  have hslashes (k : Nat) : (List.replicate k '\\').filter p = [] :=
    List.filter_eq_nil_iff.mpr fun c hc => by simp [(List.mem_replicate.mp hc).2, hp]
  induction n, cs using markup_induction with
  | nil n => rw [escapeTags_nil, hslashes, List.filter_nil]
  | backslash n rest ih => rw [escapeTags_backslash, ih, List.filter_cons_of_neg (by simp [hp])]
  | tag n body after hnot htag ih =>
      rw [escapeTags_tag (htag after)]
      simp only [List.filter_append, List.filter_cons, hslashes, ih, List.nil_append, List.cons_append]
  | bracket n rest hnone ih =>
      rw [escapeTags_bracket hnone, List.filter_append, hslashes, List.nil_append, List.filter_cons,
        List.filter_cons, ih]
  | char n c rest hslash hopen ih =>
      rw [escapeTags_char hslash hopen, List.filter_append, hslashes, List.nil_append, List.filter_cons,
        List.filter_cons, ih]

theorem filter_escapeChars {p : Char → Bool} (hp : p '\\' = false) (cs : List Char) :
    (escapeChars cs).filter p = cs.filter p := by
  have hlast : ['\\'].filter p = [] := List.filter_cons_of_neg (by simp [hp])
  rw [escapeChars]
  split
  · rw [List.filter_append, hlast, List.append_nil, filter_escapeTags hp]
  · exact filter_escapeTags hp 0 cs

/-- Escaping brings no codes to a text. -/
theorem isCodeFree_escapeChars (h : Emoji.IsCodeFree cs) : Emoji.IsCodeFree (escapeChars cs) := by
  have hmarks : Emoji.codeMarks (escapeChars cs) = Emoji.codeMarks cs := filter_escapeChars (by decide) cs
  rwa [Emoji.IsCodeFree, hmarks]

/-- Escaping brings no characters to a text that are left out. -/
theorem isDropped_of_mem_escapeChars (h : ∀ c ∈ cs, isDropped c = false) :
    ∀ c ∈ escapeChars cs, isDropped c = false := by
  have hnone : (escapeChars cs).filter isDropped = [] := by
    rw [filter_escapeChars (by decide), List.filter_eq_nil_iff]
    exact fun c hc => by simp [h c hc]
  exact fun c hc => Bool.eq_false_iff.mpr (List.filter_eq_nil_iff.mp hnone c hc)

/-! ## Words of styles -/

/-- The words of styles open a style, and a slash before them closes it. -/
theorem isStyleWord_of_mem {style : String} (h : style ∈ styleWords) : IsStyleWord style.toList := by
  have hnamed : ∀ s ∈ styleWords, Style.split s.toList = [s] ∧ (Style.small s).toList.head? ≠ some '#' ∧
      argument? "color" (Style.small s).toList = none ∧
      argument? "rgb" (Style.small s).toList = none := by decide
  have hword : ∀ s ∈ styleWords, '=' ∉ s.toList ∧ s.toList.head? ≠ some '/' ∧
      Text.trimChars s.toList = s.toList ∧ s.toList ≠ [] := by decide
  obtain ⟨hsplit, hnumber, hcolor, hmixed⟩ := hnamed style h
  obtain ⟨hsign, hslash, htrim, hne⟩ := hword style h
  obtain ⟨name, hname⟩ := exists_styleName style.toList style hsplit hnumber hcolor hmixed
  refine ⟨?_, ?_, name, ofTag_of_styleName hname hsign hslash,
    ofTag_slash_of_styleName hname hsign htrim hne⟩
  · simp only [styleWords, List.mem_cons, List.not_mem_nil, or_false] at h
    rcases h with rfl | rfl | rfl | rfl <;> exact fun tail => rfl
  · simp only [styleWords, List.mem_cons, List.not_mem_nil, or_false] at h
    rcases h with rfl | rfl | rfl | rfl <;> exact fun tail => rfl

theorem isOrdinary_of_mem_styleWords {style : String} (h : style ∈ styleWords) : IsOrdinary style.toList := by
  revert style
  decide

/-- A markup in a style stands between two tags. -/
theorem toList_styled (style before markup behind : String) :
    (styled style before markup behind).toList =
      between style.toList before.toList markup.toList behind.toList := by
  have hopen : "[".toList = ['['] ∧ "]".toList = [']'] ∧ "[/".toList = ['[', '/'] := by decide
  simp [styled, between, hopen]

/-- What stands between two tags holds no codes if it had none alone. -/
theorem isCodeless_between {style : String} (hstyle : style ∈ styleWords) (hfront : IsOrdinary front)
    (hback : IsOrdinary back) (hfree : Emoji.IsCodeFree cs) (hkept : ∀ c ∈ cs, isDropped c = false)
    (hmarkup : markup.toList = between style.toList front cs back) : IsCodeless markup := by
  have hword := isOrdinary_of_mem_styleWords hstyle
  have hparts : between style.toList front cs back =
      (front ++ '[' :: (style.toList ++ [']'])) ++ (cs ++ '[' :: '/' :: (style.toList ++ ']' :: back)) := by
    simp [between]
  have hcolon : ':' ∉ front ++ '[' :: (style.toList ++ [']']) ∧
      ':' ∉ '[' :: '/' :: (style.toList ++ ']' :: back) := by
    simp [hfront.colon_notMem, hback.colon_notMem, hword.colon_notMem]
  refine isCodeless_of_isCodeFree ?_ ?_
  · rw [hmarkup, hparts]
    exact isCodeFree_append_left hcolon.1 (isCodeFree_append_right hfree hcolon.2)
  · have hsigns : isDropped '[' = false ∧ isDropped ']' = false ∧ isDropped '/' = false := by decide
    rw [hmarkup, between]
    simp only [List.forall_mem_append, List.forall_mem_cons]
    exact ⟨hfront.isNarrow.isDropped, hsigns.1, hword.isNarrow.isDropped, hsigns.2.1, hkept, hsigns.1,
      hsigns.2.2, hword.isNarrow.isDropped, hsigns.2.1, hback.isNarrow.isDropped⟩

/-! ## What is printed -/

/-- A markup whose tags can be followed can be printed. -/
theorem canPrint_of_isFollowed (h : IsFollowed markup.toList) :
    (Printer.standard columns).CanPrint markup := by
  obtain ⟨cs, hcs⟩ := exists_visible h
  refine ⟨(layOut .fold columns cs).map String.ofList, ?_⟩
  change print columns markup = _
  rw [print, hcs]

/-- The lines of a markup have a text if the characters that it shows are those of the text, but for blanks. -/
theorem shows_iff (hcolumns : 0 < columns) (hvisible : visible markup = .ok cs) (hnarrow : IsNarrow cs) :
    (Printer.standard columns).Shows markup text ↔ inked cs = inked text.toList := by
  have hprint : print columns markup = .ok ((layOut .fold columns cs).map String.ofList) := by
    rw [print, hvisible]
  have hflat : ((layOut .fold columns cs).map String.ofList).flatMap String.toList =
      (layOut .fold columns cs).flatten := by
    rw [List.flatMap_map, List.flatMap_def]
    simp
  have hlines : HasText ((layOut .fold columns cs).map String.ofList) text ↔ inked cs = inked text.toList := by
    rw [HasText, hflat, inked_layOut hnarrow hcolumns]
  constructor
  · rintro ⟨lines, hprinted, htext⟩
    obtain rfl : (layOut .fold columns cs).map String.ofList = lines :=
      Except.ok.inj (hprint.symm.trans hprinted)
    exact hlines.mp htext
  · exact fun h => ⟨_, hprint, hlines.mpr h⟩

/-! ## Between tags -/

/-- Words are shown. -/
theorem visible_words {style words : String} (hstyle : style ∈ styleWords) (hwords : IsOrdinary words.toList) :
    visible (styled style "" words "") = .ok words.toList := by
  have hmarkup := toList_styled style "" words ""
  have hempty : ¬ HasTag [] ∧ IsTidy [] := by simp [HasTag, IsTidy]
  have hcodeless := isCodeless_between hstyle (List.forall_mem_nil _) (List.forall_mem_nil _)
    (isCodeFree_of_notMem hwords.colon_notMem) hwords.isNarrow.isDropped hmarkup
  simpa using (visible_behind_iff (isStyleWord_of_mem hstyle) hwords.isUnmarked hmarkup hcodeless).mpr hempty

/-- So is an escaped text. -/
theorem visible_escaped {style before text behind : String} (hstyle : style ∈ styleWords)
    (hbefore : IsOrdinary before.toList) (hbehind : IsOrdinary behind.toList) (hplain : IsPlain text.toList)
    (hend : backslashesAtEnd 0 text.toList ≤ 1) :
    visible (styled style before (escape text) behind) = .ok (before ++ text ++ behind).toList := by
  have hmarkup := toList_styled style before (escape text) behind
  rw [escape, String.toList_ofList] at hmarkup
  have hcodeless := isCodeless_between hstyle hbefore hbehind (isCodeFree_escapeChars hplain.2.1)
    (isDropped_of_mem_escapeChars hplain.1.isDropped) hmarkup
  have hshown := (visible_between_iff (isStyleWord_of_mem hstyle) hbefore.isUnmarked hbehind.isUnmarked hmarkup
    hcodeless).mpr ⟨hplain.2.2, hend⟩
  rw [escape, hshown, String.toList_append, String.toList_append, List.append_assoc]

/-! ## Behind tags -/

section

variable {style label : String}

/-- The label and the text behind it. -/
theorem toList_labelled (style label text : String) :
    (styled style "" (label ++ ":") (" " ++ text)).toList =
      between style.toList [] (label.toList ++ [':']) (' ' :: text.toList) := by
  have hsigns : ":".toList = [':'] ∧ " ".toList = [' '] := ⟨rfl, rfl⟩
  rw [toList_styled, String.toList_append, String.toList_append, hsigns.1, hsigns.2]
  rfl

theorem isUnmarked_label (hlabel : IsOrdinary label.toList) : IsUnmarked (label.toList ++ [':']) :=
  List.forall_mem_append.mpr ⟨hlabel.isUnmarked, List.forall_mem_singleton.mpr (by decide)⟩

/-- A blank before a text makes no difference to its tags. -/
theorem hasTag_blank_iff : HasTag (' ' :: cs) ↔ HasTag cs := by simp [hasTag_cons_iff]

/-- A markup with a label shows the label and what is read of the text behind it. -/
theorem visible_labelled_iff (hstyle : style ∈ styleWords) (hlabel : IsOrdinary label.toList)
    (hplain : IsPlain text.toList) :
    visible (styled style "" (label ++ ":") (" " ++ text)) = .ok cs ↔
      IsFollowed (styled style "" (label ++ ":") (" " ++ text)).toList ∧
        label.toList ++ ':' :: plain (pieces [] 0 (' ' :: text.toList)) = cs := by
  have hword := isStyleWord_of_mem hstyle
  have hmarkup := toList_labelled style label text
  have hnarrowLabel : IsNarrow (label.toList ++ [':']) := hlabel.isNarrow.append (by decide)
  have hfreeLabel : Emoji.IsCodeFree (label.toList ++ [':']) :=
    isCodeFree_append_left hlabel.colon_notMem (by decide)
  have hnarrow : IsNarrow ([' '] ++ text.toList) := IsNarrow.append (by decide) hplain.1
  have hfree : Emoji.IsCodeFree ([' '] ++ text.toList) := isCodeFree_append_left (by decide) hplain.2.1
  have hcodeless := isCodeless_behind hword (isUnmarked_label hlabel) hfreeLabel hnarrowLabel.isDropped hmarkup
    hfree hnarrow.isDropped
  rw [visible_eq_ok_iff hcodeless, hmarkup, pieces_behind hword (isUnmarked_label hlabel)]
  simp

/-- The tags of a text that holds none can be followed behind a label. -/
theorem isFollowed_labelled (hstyle : style ∈ styleWords) (hlabel : IsOrdinary label.toList)
    (htag : ¬ HasTag text.toList) : IsFollowed (styled style "" (label ++ ":") (" " ++ text)).toList := by
  rw [toList_labelled]
  exact isFollowed_behind (isStyleWord_of_mem hstyle) (isUnmarked_label hlabel)
    (hasTag_blank_iff.not.mpr htag)

/-- A text without a tag behind a label can be printed. -/
theorem canPrint_labelled (hstyle : style ∈ styleWords) (hlabel : IsOrdinary label.toList)
    (htag : ¬ HasTag text.toList) :
    (Printer.standard columns).CanPrint (styled style "" (label ++ ":") (" " ++ text)) :=
  canPrint_of_isFollowed (isFollowed_labelled hstyle hlabel htag)

/-- What is read of a narrow text is narrow. -/
theorem isNarrow_plain_pieces (h : IsNarrow cs) : IsNarrow (plain (pieces [] 0 cs)) := by
  intro c hc
  obtain ⟨piece, hpiece, hc⟩ := List.mem_flatMap.mp hc
  cases piece with
  | tag body => cases hc
  | text part => exact h c (mem_of_mem_pieces hpiece c hc)

/-- A label and a colon make no difference to which characters are the same behind them. -/
theorem inked_behind_label_eq_iff {before ds es : List Char} :
    inked (before ++ ':' :: ds) = inked (before ++ ':' :: es) ↔ inked ds = inked es := by
  have hcolon (fs : List Char) : inked (before ++ ':' :: fs) = (inked before ++ [':']) ++ inked fs := by
    rw [inked_append, List.append_assoc]
    rfl
  rw [hcolon, hcolon, List.append_cancel_left_eq]

/-- What is read of a plain text has all its characters just if the text holds no tag. -/
theorem inked_plain_pieces_eq_iff (hplain : IsPlain text.toList) :
    inked (plain (pieces [] 0 (' ' :: text.toList))) = inked (' ' :: text.toList) ↔
      ¬ HasTag text.toList := by
  constructor
  · intro hsame htag
    have hlt := (@length_inked_plain_pieces (' ' :: text.toList) 0).2 (hasTag_blank_iff.mpr htag)
    rw [hsame, Nat.zero_add] at hlt
    exact Nat.lt_irrefl _ hlt
  · intro htag
    rw [plain_pieces_eq_iff.mpr]
    refine ⟨hasTag_blank_iff.not.mpr htag, ?_⟩
    rw [isTidy_cons_iff]
    exact ⟨fun heq => absurd heq (by decide), hplain.2.2⟩

/-- The lines have the text just if it holds no tag. -/
theorem shows_labelled_iff (hcolumns : 0 < columns) (hstyle : style ∈ styleWords)
    (hlabel : IsOrdinary label.toList) (hplain : IsPlain text.toList) :
    (Printer.standard columns).Shows (styled style "" (label ++ ":") (" " ++ text))
      (label ++ ": " ++ text) ↔ ¬ HasTag text.toList := by
  have htext : (label ++ ": " ++ text).toList = label.toList ++ ':' :: ' ' :: text.toList := by
    have hsign : ": ".toList = [':', ' '] := rfl
    simp [hsign]
  have hnarrow : IsNarrow (label.toList ++ ([':'] ++ plain (pieces [] 0 (' ' :: text.toList)))) :=
    hlabel.isNarrow.append (IsNarrow.append (by decide)
      (isNarrow_plain_pieces (IsNarrow.append (show IsNarrow [' '] by decide) hplain.1)))
  have hshows : ∀ ds, visible (styled style "" (label ++ ":") (" " ++ text)) = .ok ds →
      ((Printer.standard columns).Shows (styled style "" (label ++ ":") (" " ++ text))
        (label ++ ": " ++ text) ↔ ¬ HasTag text.toList) := by
    intro ds hvisible
    obtain ⟨-, rfl⟩ := (visible_labelled_iff hstyle hlabel hplain).mp hvisible
    rw [shows_iff hcolumns hvisible hnarrow, htext, inked_behind_label_eq_iff,
      inked_plain_pieces_eq_iff hplain]
  constructor
  · intro hshown
    cases hvisible : visible (styled style "" (label ++ ":") (" " ++ text)) with
    | error fault =>
        obtain ⟨lines, hprinted, -⟩ := hshown
        change print columns _ = _ at hprinted
        rw [print, hvisible] at hprinted
        cases hprinted
    | ok ds => exact (hshows ds hvisible).mp hshown
  · intro htag
    have hfollowed := isFollowed_labelled hstyle hlabel htag
    exact (hshows _ ((visible_labelled_iff hstyle hlabel hplain).mpr ⟨hfollowed, rfl⟩)).mpr htag

end

/-! ## In tables -/

/-- Ordinary words show themselves. -/
theorem visible_ordinary (h : IsOrdinary text.toList) : visible text = .ok text.toList := by
  have hpieces : pieces [] 0 text.toList = [.text text.toList] := by
    have hread := @pieces_append text.toList [] [] h.isUnmarked
    simpa using hread
  have hcodeless : IsCodeless text :=
    isCodeless_of_isCodeFree (isCodeFree_of_notMem h.colon_notMem) h.isNarrow.isDropped
  rw [visible_eq_ok_iff hcodeless, IsFollowed, hpieces]
  simp [changeAll]

/-- A row of texts that are shown is read. -/
theorem readRow_map {f : String → String} {shown : String → List Char} {row : List String}
    (h : ∀ text ∈ row, visible (f text) = .ok (shown text)) :
    Table.readRow (row.map f) = .ok (row.map shown) := by
  induction row with
  | nil => rfl
  | cons text row ih =>
      obtain ⟨hfirst, hrest⟩ := List.forall_mem_cons.mp h
      rw [List.map_cons, Table.readRow, hfirst, ih hrest]
      rfl

/-- So are rows. -/
theorem readRows_map {f : String → String} {shown : String → List Char} {rows : List (List String)}
    (h : ∀ row ∈ rows, ∀ text ∈ row, visible (f text) = .ok (shown text)) :
    Table.readRows (rows.map (List.map f)) = .ok (rows.map (List.map shown)) := by
  induction rows with
  | nil => rfl
  | cons row rows ih =>
      obtain ⟨hfirst, hrest⟩ := List.forall_mem_cons.mp h
      rw [List.map_cons, Table.readRows, readRow_map hfirst, ih hrest]
      rfl

/-- A table of escaped texts is drawn from what they show. -/
theorem print_mapRows_escape {t : Table} {shown : String → List Char} (htitle : IsOrdinary t.title.toList)
    (hheaders : ∀ header ∈ t.headers, IsOrdinary header.toList)
    (h : ∀ row ∈ t.rows, ∀ text ∈ row, visible (escape text) = .ok (shown text)) :
    Table.print columns (t.mapRows escape) = .ok (Table.draw columns t.title.toList
      (t.headers.map String.toList) (t.rows.map (List.map shown))) := by
  have hread : Table.readRow t.headers = .ok (t.headers.map String.toList) := by
    have hmap := @readRow_map id String.toList t.headers fun header hmem =>
      visible_ordinary (hheaders header hmem)
    rwa [List.map_id] at hmap
  rw [Table.print, Table.mapRows]
  dsimp only
  rw [visible_ordinary htitle, hread, readRows_map h]

/-- An escaped text in a cell is shown. -/
theorem visible_escape_of_isPlain (hplain : IsPlain text.toList) (hend : backslashesAtEnd 0 text.toList ≠ 1) :
    visible (escape text) = .ok text.toList := by
  refine (visible_escape_iff (isCodeless_of_isCodeFree ?_ ?_)).mpr ⟨hplain.2.2, hend⟩
  · rw [escape, String.toList_ofList]
    exact isCodeFree_escapeChars hplain.2.1
  · rw [escape, String.toList_ofList]
    exact isDropped_of_mem_escapeChars hplain.1.isDropped

/-- A table whose words have room is printed on lines that have its rows. -/
theorem showsRows_standard {t : Table} (htitle : IsOrdinary t.title.toList)
    (hheaders : ∀ header ∈ t.headers, IsOrdinary header.toList) (h : (Printer.Scope.standard columns).table t) :
    (Printer.standard columns).ShowsRows (t.mapRows escape) t.rows := by
  obtain ⟨hplain, hroom⟩ := h
  refine ⟨_, print_mapRows_escape htitle hheaders fun row hrow text htext =>
    visible_escape_of_isPlain (hplain row hrow text htext).1 (hplain row hrow text htext).2, ?_⟩
  have hrows : t.rows = (t.rows.map (List.map String.toList)).map (List.map String.ofList) := by
    simp [List.map_map, Function.comp_def]
  conv => rhs; rw [hrows]
  refine Table.hasRows_draw_of_hasRoom _ (List.forall_mem_map.mpr fun row hrow => ?_)
  rw [List.forall₂_map_right_iff]
  obtain ⟨hlength, hcell⟩ := List.forall₂_iff_zip.mp (hroom row hrow)
  refine List.forall₂_iff_zip.mpr ⟨hlength, fun hmem => ?_⟩
  obtain ⟨hwide, hfits⟩ := hcell hmem
  exact ⟨hwide, (hplain row hrow _ (List.of_mem_zip hmem).2).1.1, hfits⟩

/-! ## The printer -/

/-- The standard printer is faithful. -/
theorem Printer.isFaithful_standard (hcolumns : 0 < columns) :
    (Printer.standard columns).IsFaithful (.standard columns) where
  words style hstyle words hwords :=
    (shows_iff hcolumns (visible_words hstyle hwords) hwords.isNarrow).mpr rfl
  canPrint_escaped style hstyle before text behind hbefore hbehind := by
    refine canPrint_of_isFollowed ?_
    have htext : ((Printer.standard columns).escape text).toList = escapeChars text.toList :=
      String.toList_ofList
    rw [toList_styled, htext]
    exact isFollowed_between (isStyleWord_of_mem hstyle) hbefore.isUnmarked hbehind.isUnmarked
  escaped style hstyle before text behind hbefore hbehind htext := by
    obtain ⟨hplain, hend⟩ := htext
    refine (shows_iff hcolumns (visible_escaped hstyle hbefore hbehind hplain hend) ?_).mpr rfl
    rw [String.toList_append, String.toList_append]
    exact (hbefore.isNarrow.append hplain.1).append hbehind.isNarrow
  canPrint_plain _ hstyle _ _ hlabel htag := canPrint_labelled hstyle hlabel htag
  plain _ hstyle _ _ hlabel htext := shows_labelled_iff hcolumns hstyle hlabel htext
  canPrint_table t htitle hheaders := by
    choose shown hshown using fun text => exists_visible (isFollowed_escape text)
    exact ⟨_, print_mapRows_escape htitle hheaders fun _ _ text _ => hshown text⟩
  table _ htitle hheaders ht := showsRows_standard htitle hheaders ht

end ApiLint.Console
