import ApiLint.Console.Faithful
import ApiLint.Proofs.Console.Ellipsis

/-!
# What is left of a table on lines

Each line of a row is drawn from one part for each column, and a part is as wide as its column.  So the columns stand
in the same place on all lines, and what stands in one of them, line after line, is what its cell was laid out on.
That is the cell itself if every word has room, and else an ellipsis shows that something is cut.

Main results:

- Theorem `exists_slices`: lines drawn from parts have the parts in columns.
- Theorem `hasRows_draw`: a drawn table has what its cells were laid out on.
- Theorem `hasRows_draw_of_hasRoom`: a drawn table has its cells if they have room.
-/

namespace ApiLint.Console

/-! ## Columns -/

/-- The columns of some widths, side by side with an edge between them, where the first one starts at a column. -/
def columnsFrom (start : Nat) : List Nat → List Column
  | [] => []
  | w :: ws => ⟨start, w⟩ :: columnsFrom (start + w + 1) ws

/-- No column starts before the first one does. -/
theorem le_start_of_mem_columnsFrom {start : Nat} {widths : List Nat} {column : Column}
    (h : column ∈ columnsFrom start widths) : start ≤ column.start := by
  induction widths generalizing start with
  | nil => cases h
  | cons w ws ih =>
      rw [columnsFrom, List.mem_cons] at h
      rcases h with rfl | hrest
      · exact Nat.le_refl start
      · have := ih hrest
        omega

/-- The columns stand side by side. -/
theorem pairwise_columnsFrom (start : Nat) (widths : List Nat) :
    (columnsFrom start widths).Pairwise fun c d => c.start + c.size ≤ d.start := by
  induction widths generalizing start with
  | nil => exact List.Pairwise.nil
  | cons w ws ih =>
      rw [columnsFrom, List.pairwise_cons]
      refine ⟨fun column hmem => ?_, ih _⟩
      have := le_start_of_mem_columnsFrom hmem
      dsimp only
      omega

namespace Table

/-! ## Lines drawn from parts -/

/-- Are the edges as wide as they look? -/
structure Edges.IsNarrow (edges : Edges) : Prop where
  left : columns edges.left = 1
  inner : columns edges.inner = 1

variable {α : Type} {edges : Edges}

/-- What stands between the first edge of a line and its end. -/
def partsLine (edges : Edges) (parts : List (List Char)) : List Char :=
  [edges.inner].intercalate parts ++ [edges.right]

/-- The last part stands before the right edge. -/
theorem partsLine_singleton (part : List Char) : partsLine edges [part] = part ++ [edges.right] := by
  rw [partsLine, List.intercalate_singleton]

/-- Any other part stands before an inner edge. -/
theorem partsLine_cons_cons (part next : List Char) (rest : List (List Char)) :
    partsLine edges (part :: next :: rest) = part ++ [edges.inner] ++ partsLine edges (next :: rest) := by
  rw [partsLine, partsLine, List.intercalate_cons_cons, List.append_assoc]

/--
Lines that are drawn from parts have the parts in columns, if all parts of a column are as wide as it is.  The induction
is on the columns: a column stands behind all that is drawn before it.
-/
theorem exists_slices (hedges : edges.IsNarrow) (count : Nat) (size : α → Nat) (part : α → Nat → List Char)
    (xs : List α) (hparts : ∀ x ∈ xs, ∀ i, IsEven (part x i) ∧ (part x i).length = size x)
    (start : Nat) (before : Nat → List Char) (hbefore : ∀ i, IsEven (before i) ∧ (before i).length = start) :
    List.Forall₂ (fun x column => ∃ slices : List Slice,
        ((List.range count).map fun i =>
          String.ofList (before i ++ partsLine edges (xs.map fun x => part x i))) = slices.map Slice.line ∧
        (∀ s ∈ slices, column.Takes s) ∧ slices.flatMap Slice.inside = (List.range count).flatMap (part x))
      xs (columnsFrom start (xs.map size)) := by
  induction xs generalizing start before with
  | nil => exact .nil
  | cons x xs ih =>
      have hpart := hparts x List.mem_cons_self
      obtain ⟨behind, hbehind⟩ : ∃ behind : Nat → List Char, ∀ i,
          partsLine edges ((x :: xs).map fun x => part x i) = part x i ++ behind i := by
        cases xs with
        | nil => exact ⟨fun i => [edges.right], fun i => partsLine_singleton _⟩
        | cons y ys =>
            exact ⟨fun i => [edges.inner] ++ partsLine edges ((y :: ys).map fun x => part x i),
              fun i => (partsLine_cons_cons _ _ _).trans (List.append_assoc ..)⟩
      rw [List.map_cons, columnsFrom]
      refine .cons ⟨(List.range count).map fun i => ⟨before i, part x i, behind i⟩, ?_, ?_, ?_⟩ ?_
      · rw [List.map_map]
        refine List.map_congr_left fun i _ => ?_
        rw [hbehind, ← List.append_assoc]
        rfl
      · intro s hmem
        obtain ⟨i, -, rfl⟩ := List.mem_map.mp hmem
        exact ⟨(width_of_isEven (hbefore i).1).trans (hbefore i).2,
          (width_of_isEven (hpart i).1).trans (hpart i).2⟩
      · rw [List.flatMap_map]
      · cases xs with
        | nil => exact .nil
        | cons y ys =>
            have hinner : IsEven [edges.inner] := fun c hc => by rw [List.mem_singleton.mp hc, hedges.inner]
            have hrest := ih (fun z hz => hparts z (List.mem_cons_of_mem x hz))
              (start + size x + 1) (fun i => before i ++ part x i ++ [edges.inner]) fun i => by
                refine ⟨((hbefore i).1.append (hpart i).1).append hinner, ?_⟩
                rw [List.length_append, List.length_append, (hbefore i).2, (hpart i).2]
                rfl
            simpa only [List.map_cons, partsLine_cons_cons, List.append_assoc] using hrest

/-! ## Rows -/

/-- The part of a line that is drawn of a text. -/
def textPart (w : Nat) (text : List Char) : List Char := ' ' :: padTo (w - padding) text ++ [' ']

/-- A part is as wide as its column. -/
theorem isEven_and_length_textPart {w : Nat} {text : List Char} (hw : padding < w) (heven : IsEven text)
    (hle : text.length ≤ w - padding) :
    IsEven (textPart w text) ∧ (textPart w text).length = w := by
  have hblanks (n : Nat) : IsEven (List.replicate n ' ') := fun c hmem => by
    rw [(List.mem_replicate.mp hmem).2]
    decide
  have hpad : textPart w text =
      List.replicate 1 ' ' ++ (text ++ List.replicate (w - padding - text.length) ' ') ++
        List.replicate 1 ' ' := by
    rw [textPart, padTo, width_of_isEven heven]
    rfl
  rw [hpad]
  refine ⟨((hblanks 1).append (heven.append (hblanks _))).append (hblanks 1), ?_⟩
  simp only [List.length_append, List.length_replicate]
  rw [padding] at hw hle ⊢
  omega

/-- Nothing but blanks is drawn besides a text. -/
theorem inked_textPart (w : Nat) (text : List Char) : inked (textPart w text) = inked text := by
  have hblanks (n : Nat) : inked (List.replicate n ' ') = [] :=
    inked_of_blank fun c hmem => by rw [(List.mem_replicate.mp hmem).2]; decide
  have hpad : textPart w text =
      List.replicate 1 ' ' ++ (text ++ List.replicate (w - padding - width text) ' ') ++
        List.replicate 1 ' ' := rfl
  simp only [hpad, inked_append, hblanks, List.nil_append, List.append_nil]

/-- Lines that are taken one by one, as many as there are or more, are all of them. -/
theorem flatMap_range_getD {lines : List (List Char)} {count : Nat} (h : lines.length ≤ count) :
    ((List.range count).flatMap fun i => lines[i]?.getD []) = lines.flatten := by
  induction lines generalizing count with
  | nil => simp
  | cons line lines ih =>
      cases count with
      | zero => cases h
      | succ count =>
          rw [List.range_succ_eq_map, List.flatMap_cons, List.flatMap_map]
          have hrest := ih (Nat.le_of_succ_le_succ h)
          simpa using hrest

/-- A row has as many lines as any of its cells is laid out on. -/
theorem le_foldl_max {n : Nat} {ns : List Nat} (h : n ∈ ns) (least : Nat) : n ≤ ns.foldl max least := by
  induction ns generalizing least with
  | nil => cases h
  | cons m ns ih =>
      have hleast : ∀ (ns : List Nat) (least : Nat), least ≤ ns.foldl max least := by
        intro ns
        induction ns with
        | nil => exact fun least => Nat.le_refl least
        | cons m ns ih => exact fun least => (Nat.le_max_left least m).trans (ih _)
      rcases List.mem_cons.mp h with rfl | hrest
      · exact (Nat.le_max_right least n).trans (hleast ns _)
      · exact ih hrest _

/-- What a cell is laid out on in a column. -/
def laidOut (w : Nat) (cell : List Char) : List (List Char) := layOut .ellipsis (w - padding) cell

/-- The part of a line of a row that is drawn of a cell. -/
def cellPart (p : Nat × List Char) (i : Nat) : List Char := textPart p.1 ((laidOut p.1 p.2)[i]?.getD [])

/-- The part of a line is as wide as the column, also where the cell has no more lines. -/
theorem isEven_and_length_cellPart {p : Nat × List Char} (hwide : padding < p.1)
    (hnarrow : Console.IsNarrow p.2) (i : Nat) : IsEven (cellPart p i) ∧ (cellPart p i).length = p.1 := by
  have htext : IsEven ((laidOut p.1 p.2)[i]?.getD []) ∧
      ((laidOut p.1 p.2)[i]?.getD []).length ≤ p.1 - padding := by
    cases hline : (laidOut p.1 p.2)[i]? with
    | none => exact ⟨fun c hc => absurd hc List.not_mem_nil, Nat.zero_le _⟩
    | some line =>
        exact isEven_and_length_le_of_mem_layOut hnarrow (Nat.sub_pos_of_lt hwide)
          (List.mem_of_getElem? hline)
  exact isEven_and_length_textPart hwide htext.1 htext.2

/-- All parts that are drawn of a cell have the characters of what it is laid out on. -/
theorem inked_flatMap_cellPart {p : Nat × List Char} {count : Nat} (h : (laidOut p.1 p.2).length ≤ count) :
    inked ((List.range count).flatMap (cellPart p)) = inked (laidOut p.1 p.2).flatten := by
  calc inked ((List.range count).flatMap (cellPart p))
      = (List.range count).flatMap fun i => inked (cellPart p i) := inked_flatMap _ _
    _ = inked ((List.range count).flatMap fun i => (laidOut p.1 p.2)[i]?.getD []) := by
        rw [inked_flatMap]
        simp only [cellPart, inked_textPart]
    _ = inked (laidOut p.1 p.2).flatten := by rw [flatMap_range_getD h]

/-- The parts of a line are drawn of the lines that the cells are laid out on. -/
theorem zipWith_textPart (widths : List Nat) (cells : List (List Char)) (i : Nat) :
    List.zipWith textPart widths ((List.zipWith laidOut widths cells).map fun lines => lines[i]?.getD []) =
      (widths.zip cells).map fun p => cellPart p i := by
  induction widths generalizing cells with
  | nil => rfl
  | cons w ws ih =>
      cases cells with
      | nil => rfl
      | cons cell cells =>
          rw [List.zipWith_cons_cons, List.map_cons, List.zipWith_cons_cons, ih]
          rfl

/-- The lines of a row are drawn of the parts of its cells, until all cells are drawn. -/
theorem exists_rowLines_eq (edges : Edges) (widths : List Nat) (cells : List (List Char)) :
    ∃ count : Nat, (∀ p ∈ widths.zip cells, (laidOut p.1 p.2).length ≤ count) ∧
      rowLines edges widths cells = (List.range count).map fun i =>
        String.ofList ([edges.left] ++ partsLine edges ((widths.zip cells).map fun p => cellPart p i)) := by
  refine ⟨((List.zipWith laidOut widths cells).map List.length).foldl max 1, fun p hp => ?_, ?_⟩
  · refine le_foldl_max (List.mem_map_of_mem ?_) 1
    rw [← List.map_uncurry_zip_eq_zipWith]
    exact List.mem_map_of_mem (f := Function.uncurry laidOut) hp
  · refine List.map_congr_left fun i _ => ?_
    rw [← zipWith_textPart]
    rfl

/-- The lines of a row have, in each column, a text that has the characters of what its cell is laid out on. -/
theorem hasRow_rowLines (hedges : edges.IsNarrow) {widths : List Nat} {cells : List (List Char)}
    (text : Nat × List Char → String)
    (hcells : List.Forall₂ (fun w cell => padding < w ∧ Console.IsNarrow cell ∧
      inked (laidOut w cell).flatten = inked (text (w, cell)).toList) widths cells) :
    HasRow (columnsFrom 1 widths) (rowLines edges widths cells) ((widths.zip cells).map text) := by
  obtain ⟨hlength, hcell⟩ := List.forall₂_iff_zip.mp hcells
  obtain ⟨count, hcount, hlines⟩ := exists_rowLines_eq edges widths cells
  have hedge (_ : Nat) : IsEven [edges.left] ∧ [edges.left].length = 1 :=
    ⟨fun c hc => by rw [List.mem_singleton.mp hc, hedges.left], rfl⟩
  have hslices := exists_slices hedges count Prod.fst cellPart (widths.zip cells)
    (fun p hp => isEven_and_length_cellPart (hcell hp).1 (hcell hp).2.1) 1 _ hedge
  have hfacts : ∀ p ∈ widths.zip cells, (laidOut p.1 p.2).length ≤ count ∧
      inked (laidOut p.1 p.2).flatten = inked (text p).toList := fun p hp =>
    ⟨hcount p hp, (hcell hp).2.2⟩
  rw [List.map_fst_zip hlength.le] at hslices
  rw [HasRow, List.forall₂_map_left_iff]
  refine List.Forall₂.imp ?_ ((List.forall₂_and_left _ _).mpr ⟨hfacts, hslices⟩)
  rintro p column ⟨⟨hle, htext⟩, slices, hdrawn, htakes, hinside⟩
  refine ⟨slices, hlines.trans hdrawn, htakes, ?_⟩
  rw [hinside, inked_flatMap_cellPart hle, htext]

/-! ## Whole tables -/

variable {columns : Nat} {headers : List (List Char)} {rows : List (List (List Char))}

/-- The edges of the rows below the headers are narrow. -/
theorem isNarrow_rowEdges : Edges.IsNarrow ⟨'│', '│', '│'⟩ := ⟨by decide +kernel, by decide +kernel⟩

/-- A drawn table has, row by row, what its cells are laid out on. -/
theorem hasRows_draw (title : List Char)
    (hcells : ∀ row ∈ rows, List.Forall₂ (fun w cell => padding < w ∧ Console.IsNarrow cell)
      (columnWidths columns headers rows) row) :
    HasRows (draw columns title headers rows) (rows.map fun row =>
      ((columnWidths columns headers rows).zip row).map fun p => String.ofList (laidOut p.1 p.2).flatten) := by
  refine ⟨_, pairwise_columnsFrom 1 (columnWidths columns headers rows), _,
    rows.map (rowLines ⟨'│', '│', '│'⟩ (columnWidths columns headers rows)), _, rfl, ?_⟩
  rw [List.forall₂_map_left_iff, List.forall₂_map_right_iff, List.forall₂_same]
  intro row hmem
  refine hasRow_rowLines isNarrow_rowEdges _ ((hcells row hmem).imp fun w cell hcell => ?_)
  exact ⟨hcell.1, hcell.2, by rw [String.toList_ofList]⟩

/-- A drawn table has its cells, row by row, if their words have room. -/
theorem hasRows_draw_of_hasRoom (title : List Char)
    (hcells : ∀ row ∈ rows, List.Forall₂ (fun w cell => padding < w ∧ Console.IsNarrow cell ∧
      HasRoom (w - padding) cell) (columnWidths columns headers rows) row) :
    HasRows (draw columns title headers rows) (rows.map (List.map String.ofList)) := by
  refine ⟨_, pairwise_columnsFrom 1 (columnWidths columns headers rows), _,
    rows.map (rowLines ⟨'│', '│', '│'⟩ (columnWidths columns headers rows)), _, rfl, ?_⟩
  rw [List.forall₂_map_left_iff, List.forall₂_map_right_iff, List.forall₂_same]
  intro row hmem
  have hrow : row.map String.ofList =
      ((columnWidths columns headers rows).zip row).map fun p => String.ofList p.2 := by
    conv_lhs => rw [← List.map_snd_zip (hcells row hmem).length_eq.ge, List.map_map]
    rfl
  rw [hrow]
  refine hasRow_rowLines isNarrow_rowEdges _ ((hcells row hmem).imp fun w cell hcell => ?_)
  obtain ⟨hwide, hnarrow, hroom⟩ := hcell
  refine ⟨hwide, hnarrow, ?_⟩
  rw [laidOut, layOut_ellipsis_of_hasRoom hnarrow (Nat.sub_pos_of_lt hwide) hroom,
    inked_layOut hnarrow (Nat.sub_pos_of_lt hwide), String.toList_ofList]

-- The last word has no room in its column.
example : draw 18 "Found".toList ["At".toList, "What".toList] [["a".toList, "is unexpected".toList]] =
    ["      Found       ",
      "┏━━━━┳━━━━━━━━━━━┓",
      "┃ At ┃ What      ┃",
      "┡━━━━╇━━━━━━━━━━━┩",
      "│ a  │ is        │",
      "│    │ unexpect… │",
      "└────┴───────────┘"] := by
  decide +kernel

end Table

end ApiLint.Console
