import ApiLint.Proofs.Json.Text
import ApiLint.Proofs.Lint.Order
import ApiLint.Proofs.Number.Numeral

/-!
# Raw errors below the items of a sequence

Places are compared as texts, and so are the indices in them.  Below the items of one sequence raw errors
therefore stand in the order of the numerals as texts, which is the order of the items only as long as no
numeral goes on where a greater one has another digit: item 10 comes before item 2.

Main results:

- Theorem `parts_lt_parts_iff`: the order of two places below items of one sequence.
- Theorem `standsBefore_of_lt`: a block of raw errors stands before another one if its place is before.
- Theorem `inOrder_standsBefore_iff`: when raw errors stand in the order of the items.
-/

namespace ApiLint

/-- Does one block of raw errors stand before another one among others? -/
def StandsBefore (first second errors : List RawError) : Prop :=
  ∃ before between after, errors = before ++ first ++ between ++ second ++ after

namespace Location

variable {sequence place other : Location} {i j : Nat}

/-- The text of an index is its numeral. -/
theorem toList_display_index (i : Nat) : (Node.int i).display.toList = Nat.toDigits 10 i := by
  have hnumeral := Json.toList_toString_int i
  rwa [if_neg (by omega)] at hnumeral

/-- Behind the same texts the first one that differs decides. -/
theorem append_cons_lt_append_cons_iff {front rest more : List String} {s t : String} (h : s ≠ t) :
    front ++ s :: rest < front ++ t :: more ↔ s < t := by
  induction front with
  | nil =>
      rw [List.nil_append, List.nil_append, List.cons_lt_cons_iff, or_iff_left (fun hsame => h hsame.1)]
  | cons text front ih =>
      rw [List.cons_append, List.cons_append, List.cons_lt_cons_iff, ih, and_iff_right rfl,
        or_iff_right (String.lt_irrefl text)]

/-- Places below items of one sequence are in the order of the texts of the indices. -/
theorem parts_lt_parts_iff_of_ne (hi : sequence ++ [.int i] <+: place)
    (hj : sequence ++ [.int j] <+: other) (hne : i ≠ j) :
    place.parts < other.parts ↔ Nat.toDigits 10 i < Nat.toDigits 10 j := by
  obtain ⟨rest, rfl⟩ := hi
  obtain ⟨more, rfl⟩ := hj
  have htexts : (Node.int i).display ≠ (Node.int j).display := by
    intro htext
    rw [← String.toList_inj, toList_display_index, toList_display_index] at htext
    exact hne (Text.toDigits_injective htext)
  have hparts : ∀ (k : Nat) (below : Location), parts (sequence ++ [.int k] ++ below) =
      sequence.parts ++ (Node.int k).display :: below.parts := by
    intro k below
    simp only [parts, List.map_append, List.map_cons, List.append_assoc, List.singleton_append]
  rw [hparts, hparts, append_cons_lt_append_cons_iff htexts, String.lt_iff,
    toList_display_index, toList_display_index]

/-- A place below an item comes before one below a later item if its index does so as a text. -/
theorem parts_lt_parts_iff (hi : sequence ++ [.int i] <+: place)
    (hj : sequence ++ [.int j] <+: other) (hij : i < j) :
    place.parts < other.parts ↔ Text.PrecedesAsText i j := by
  rw [parts_lt_parts_iff_of_ne hi hj hij.ne, Text.toDigits_lt_toDigits_iff hij]

/-- Otherwise it comes behind it. -/
theorem parts_lt_parts_of_not_precedesAsText (hi : sequence ++ [.int i] <+: place)
    (hj : sequence ++ [.int j] <+: other) (hij : i < j) (h : ¬ Text.PrecedesAsText i j) :
    other.parts < place.parts := by
  rw [parts_lt_parts_iff_of_ne hj hi hij.ne']
  rw [← Text.toDigits_lt_toDigits_iff hij, List.not_lt] at h
  by_contra hnot
  exact hij.ne (Text.toDigits_injective (List.le_antisymm (List.not_lt.mp hnot) h))

end Location

namespace Schema.Violation

variable {v w : Violation} {vs : List Violation} {errors : List RawError}

/-- The raw errors of sorted violations are sorted by their places. -/
theorem pairwise_flatMap_block (h : vs.Pairwise fun a b => ¬ b.path.parts < a.path.parts) :
    (vs.flatMap block).Pairwise fun e f => ¬ f.place < e.place := by
  induction h with
  | nil => exact .nil
  | @cons v vs hall _ ih =>
      rw [List.flatMap_cons, List.pairwise_append]
      refine ⟨List.pairwise_of_forall_mem_list fun e he f hf => ?_, ih, fun e he f hf => ?_⟩
      · rw [place_of_mem_block he, place_of_mem_block hf]
        exact List.lt_irrefl _
      · rw [place_of_mem_block he]
        exact forall_place_of_block (P := fun place => ¬ place < v.path.parts) hall f hf

/-- Of two violations at different places the one with the earlier place comes first. -/
theorem standsBefore_of_lt (hv : v ∈ vs) (hw : w ∈ vs) (h : v.path.parts < w.path.parts) :
    StandsBefore v.block w.block ((sortByLocation vs).flatMap block) := by
  obtain ⟨before, after, hsplit⟩ :=
    List.append_of_mem ((perm_sortByLocation vs).mem_iff.mpr hv)
  have hpairwise := pairwise_sortByLocation vs
  have hmem : w ∈ before ++ v :: after := hsplit ▸ (perm_sortByLocation vs).mem_iff.mpr hw
  rw [hsplit, List.pairwise_append] at hpairwise
  obtain ⟨-, -, hordered⟩ := hpairwise
  rcases List.mem_append.mp hmem with hbefore | hafter
  · exact absurd h (hordered w hbefore v List.mem_cons_self)
  · rcases List.mem_cons.mp hafter with rfl | hafter
    · exact absurd h (List.lt_irrefl _)
    · obtain ⟨between, later, rfl⟩ := List.append_of_mem hafter
      refine ⟨before.flatMap block, between.flatMap block, later.flatMap block, ?_⟩
      rw [hsplit]
      simp only [List.flatMap_append, List.flatMap_cons, List.append_assoc]

/-- A violation at a later place does not come first. -/
theorem not_standsBefore_of_lt (hv : v.rawErrors = .ok v.block) (hw : w.rawErrors = .ok w.block)
    (h : w.path.parts < v.path.parts) :
    ¬ StandsBefore v.block w.block ((sortByLocation vs).flatMap block) := by
  rintro ⟨before, between, after, hsplit⟩
  obtain ⟨e, he⟩ := List.exists_mem_of_ne_nil _ (place_of_rawErrors hv).1
  obtain ⟨f, hf⟩ := List.exists_mem_of_ne_nil _ (place_of_rawErrors hw).1
  have hpairwise := pairwise_flatMap_block (pairwise_sortByLocation vs)
  rw [hsplit, List.pairwise_append, List.pairwise_append] at hpairwise
  obtain ⟨⟨-, -, hordered⟩, -, -⟩ := hpairwise
  apply hordered e (by simp [he]) f hf
  rwa [(place_of_rawErrors hv).2 e he, (place_of_rawErrors hw).2 f hf]

variable {sequence : Location} {i j : Nat}

/--
Of two violations at or below items of one sequence the one below the earlier item is reported first exactly
when everything can be reported and the index of the earlier item comes first as a text, too.  If it does not,
the violations are reported the other way round.
-/
theorem inOrder_standsBefore_iff (hv : v ∈ vs) (hw : w ∈ vs)
    (hi : sequence ++ [.int i] <+: v.path) (hj : sequence ++ [.int j] <+: w.path) (hij : i < j) :
    ((∃ errors, inOrder vs = .ok errors ∧ StandsBefore v.block w.block errors) ↔
      (∀ u ∈ vs, u.rawErrors = .ok u.block) ∧ Text.PrecedesAsText i j) ∧
    (¬ Text.PrecedesAsText i j → ∀ errors, inOrder vs = .ok errors →
      StandsBefore w.block v.block errors) := by
  refine ⟨⟨?_, ?_⟩, ?_⟩
  · rintro ⟨errors, herrors, hbefore⟩
    obtain ⟨hall, rfl⟩ := inOrder_eq_ok_iff.mp herrors
    refine ⟨hall, ?_⟩
    by_contra hnot
    exact not_standsBefore_of_lt (hall v hv) (hall w hw)
      (Location.parts_lt_parts_of_not_precedesAsText hi hj hij hnot) hbefore
  · rintro ⟨hall, hprecedes⟩
    exact ⟨_, inOrder_eq_ok_iff.mpr ⟨hall, rfl⟩,
      standsBefore_of_lt hv hw ((Location.parts_lt_parts_iff hi hj hij).mpr hprecedes)⟩
  · intro hnot errors herrors
    obtain ⟨-, rfl⟩ := inOrder_eq_ok_iff.mp herrors
    exact standsBefore_of_lt hw hv
      (Location.parts_lt_parts_of_not_precedesAsText hi hj hij hnot)

/-- Two violations by their paths. -/
theorem exists_of_map_path_eq {p q : Location} (h : vs.map (·.path) = [p, q]) :
    ∃ v w, vs = [v, w] ∧ v.path = p ∧ w.path = q := by
  obtain ⟨v, rest, rfl, hv, hrest⟩ := List.map_eq_cons_iff.mp h
  obtain ⟨w, last, rfl, hw, hlast⟩ := List.map_eq_cons_iff.mp hrest
  rw [List.map_eq_nil_iff.mp hlast]
  exact ⟨v, w, rfl, hv, hw⟩

end Schema.Violation

namespace Schema.Compiled

open Violation

/-- A schema for a table whose cells are texts. -/
def textCells : Compiled where
  draft := .draft202012
  schema := .map [(.str "properties", .map [(.str "rows", .map [
    (.str "items", .map [(.str "items", .map [(.str "type", .str "string")])])])])]

/-- A table with a number in row 1 and another one in row 10. -/
def elevenRows : Node := .map [(.str "rows", .list
  ([.list [], .list [.str "a", .int 5]] ++ List.replicate 8 (.list []) ++ [.list [.int 6]]))]

/-- What it violates. -/
def wrongCells : List Violation := (textCells.checker elevenRows).toOption.getD []

/-- The number in row 1 is reported before the one in row 10. -/
theorem inOrder_standsBefore_iff_rows : ∃ v ∈ wrongCells, ∃ w ∈ wrongCells,
    v.path = [.str "rows", .int 1, .int 1] ∧ w.path = [.str "rows", .int 10, .int 0] ∧
      ∃ errors, textCells.rawErrors elevenRows = .ok errors ∧ StandsBefore v.block w.block errors := by
  have hrun : textCells.checker elevenRows = .ok wrongCells := rfl
  have hpaths : wrongCells.map (·.path) =
      [[.str "rows", .int 1, .int 1], [.str "rows", .int 10, .int 0]] := rfl
  have hplain : elevenRows.IsPlain := by
    constructor <;> decide +kernel
  have hsize : textCells.schema.size < leastLong := by decide +kernel
  obtain ⟨v, w, hvw, hvpath, hwpath⟩ := exists_of_map_path_eq hpaths
  have hv : v ∈ wrongCells := hvw ▸ List.mem_cons_self
  have hw : w ∈ wrongCells := hvw ▸ List.mem_cons_of_mem v List.mem_cons_self
  have hall : ∀ u ∈ wrongCells, u.rawErrors = .ok u.block := fun u hmem =>
    rawErrors_eq_block_of_fits hplain (fits_of_checker hsize hplain hrun u hmem)
  have hi : [Node.str "rows"] ++ [.int (1 : Nat)] <+: v.path := hvpath ▸ ⟨[.int 1], rfl⟩
  have hj : [Node.str "rows"] ++ [.int (10 : Nat)] <+: w.path := hwpath ▸ ⟨[.int 0], rfl⟩
  have hiff := (inOrder_standsBefore_iff hv hw hi hj (by decide)).1
  obtain ⟨errors, herrors, hbefore⟩ := hiff.mpr ⟨hall, by decide⟩
  exact ⟨v, hv, w, hw, hvpath, hwpath, errors, (rawErrors_eq_inOrder hrun).trans herrors, hbefore⟩

/-- A schema for a list of texts. -/
def texts : Compiled where
  draft := .draft202012
  schema := .map [(.str "items", .map [(.str "type", .str "string")])]

/-- A list with numbers as items 2 and 10. -/
def elevenItems : Node :=
  .list ([.str "", .str "", .int 5] ++ List.replicate 7 (.str "") ++ [.int 6])

/-- What it violates. -/
def wrongItems : List Violation := (texts.checker elevenItems).toOption.getD []

/-- Item 10 is reported before item 2. -/
theorem inOrder_tenBeforeTwo :
    texts.checker elevenItems = .ok wrongItems ∧
      ∃ v ∈ wrongItems, ∃ w ∈ wrongItems, v.path = [.int 2] ∧ w.path = [.int 10] ∧
        ∃ errors, texts.rawErrors elevenItems = .ok errors ∧ ¬ StandsBefore v.block w.block errors := by
  have hrun : texts.checker elevenItems = .ok wrongItems := rfl
  have hpaths : wrongItems.map (·.path) = [[.int 2], [.int 10]] := rfl
  have hplain : elevenItems.IsPlain := by
    constructor <;> decide +kernel
  have hsize : texts.schema.size < leastLong := by decide +kernel
  obtain ⟨v, w, hvw, hvpath, hwpath⟩ := exists_of_map_path_eq hpaths
  have hv : v ∈ wrongItems := hvw ▸ List.mem_cons_self
  have hw : w ∈ wrongItems := hvw ▸ List.mem_cons_of_mem v List.mem_cons_self
  have hall : ∀ u ∈ wrongItems, u.rawErrors = .ok u.block := fun u hmem =>
    rawErrors_eq_block_of_fits hplain (fits_of_checker hsize hplain hrun u hmem)
  have hlt : w.path.parts < v.path.parts := by
    rw [hvpath, hwpath]
    decide +kernel
  have herrors := inOrder_eq_ok_iff.mpr ⟨hall, rfl⟩
  exact ⟨hrun, v, hv, w, hw, hvpath, hwpath, _, (rawErrors_eq_inOrder hrun).trans herrors,
    not_standsBefore_of_lt (hall v hv) (hall w hw) hlt⟩

end Schema.Compiled

end ApiLint
