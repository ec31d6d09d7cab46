import ApiLint.Suggest.EditDistance
import Mathlib.Data.List.Basic

/-!
# Cells of the distance table

A row of the table belongs to a beginning of the first text.  Each of its cells is the value of the
plain recursion on the beginnings that meet there; the recursion takes their characters from the
end, so that it runs on the reversed beginnings.

Main results:

- Theorem `lastCell_eq_cost`: the last cell of the last row is the value of the recursion.
- Theorem `distance_eq_cost`: so is the distance, also where no rows are needed.
- Theorem `editDistance_eq_zero_iff`: only equal strings have no distance.
- Theorem `length_le_editDistance_of_disjoint`: strings without a common character are far apart.
-/

namespace ApiLint.EditDistance

/-! ## The plain recursion -/

/-- The least cost of turning one reversed text into another one, character by character. -/
def cost : List Char → List Char → Nat
  | [], target => target.length
  | source, [] => source.length
  | c :: source, t :: target =>
    min (min (cost source (t :: target) + 1) (cost (c :: source) target + 1))
      (cost source target + if c = t then 0 else 1)
termination_by source target => source.length + target.length

@[simp]
theorem cost_nil_left (target : List Char) : cost [] target = target.length := by
  rw [cost]

@[simp]
theorem cost_nil_right (source : List Char) : cost source [] = source.length := by
  cases source with
  | nil => rw [cost_nil_left]
  | cons c source => rw [cost]; exact List.cons_ne_nil c source

theorem cost_cons_cons (c t : Char) (source target : List Char) :
    cost (c :: source) (t :: target) =
      min (min (cost source (t :: target) + 1) (cost (c :: source) target + 1))
        (cost source target + if c = t then 0 else 1) := by
  rw [cost]

/-- Only equal texts cost nothing. -/
theorem cost_eq_zero_iff {source target : List Char} :
    cost source target = 0 ↔ source = target := by
  induction source generalizing target with
  | nil =>
      rw [cost_nil_left, List.length_eq_zero_iff]
      exact eq_comm
  | cons c source ih =>
      cases target with
      | nil => simp
      | cons t target =>
          -- Only the diagonal step can be free.
          have hdiagonal :
              cost (c :: source) (t :: target) = 0 ↔ cost source target = 0 ∧ c = t := by
            rw [cost_cons_cons]
            by_cases hchar : c = t
            · rw [if_pos hchar, and_iff_left hchar]
              omega
            · rw [if_neg hchar, iff_false_right fun h => hchar h.2]
              omega
          rw [hdiagonal, ih, List.cons.injEq]
          exact and_comm

/-- A text costs at least what it is longer than the other one. -/
theorem length_le_cost_add_length (source target : List Char) :
    source.length ≤ cost source target + target.length := by
  induction source, target using cost.induct with
  | case1 target => exact Nat.zero_le _
  | case2 source hne => simp
  | case3 c source t target ihdelete ihinsert ihdiagonal =>
      rw [cost_cons_cons]
      simp only [List.length_cons] at ihdelete ihinsert ⊢
      omega

/-- Texts without a common character cost at least the length of the second one. -/
theorem length_le_cost_of_disjoint {source target : List Char} (h : source.Disjoint target) :
    target.length ≤ cost source target := by
  induction source, target using cost.induct with
  | case1 target => simp
  | case2 source hne => exact Nat.zero_le _
  | case3 c source t target ihdelete ihinsert ihdiagonal =>
      have hchar : c ≠ t := by
        rintro rfl
        exact h List.mem_cons_self List.mem_cons_self
      have hsource : source.Disjoint (t :: target) := List.disjoint_of_disjoint_cons_left h
      have hdelete : (t :: target).length ≤ cost source (t :: target) := ihdelete hsource
      have hinsert : target.length ≤ cost (c :: source) target :=
        ihinsert (List.disjoint_of_disjoint_cons_right h)
      have hdiagonal : target.length ≤ cost source target :=
        ihdiagonal (List.disjoint_of_disjoint_cons_right hsource)
      rw [cost_cons_cons, if_neg hchar]
      simp only [List.length_cons] at hdelete ⊢
      omega

/-! ## Rows -/

/--
The cells of a row to the right of the one at a beginning `done`; both beginnings are reversed.
-/
def laterCells (source done : List Char) : List Char → List Nat
  | [] => []
  | t :: target => cost source (t :: done) :: laterCells source (t :: done) target

/-- The row of a reversed beginning of the first text. -/
def row (source target : List Char) : List Nat := cost source [] :: laterCells source [] target

/-- The cells of the first row are the lengths of the beginnings. -/
theorem laterCells_nil_left (done target : List Char) :
    laterCells [] done target = List.range' (done.length + 1) target.length := by
  induction target generalizing done with
  | nil => rfl
  | cons t target ih =>
      rw [laterCells, cost_nil_left, ih, List.length_cons, List.length_cons, List.range'_succ]

theorem firstRow_eq_row (target : List Char) : firstRow target = row [] target := by
  rw [firstRow, row, laterCells_nil_left, cost_nil_left, List.range_eq_range', List.range'_succ]
  rfl

/-- The new cells come from the old ones as the recursion says. -/
theorem nextCells_laterCells (c : Char) (source done target : List Char) :
    nextCells c (cost (c :: source) done) (cost source done) target
        (laterCells source done target) =
      laterCells (c :: source) done target := by
  induction target generalizing done with
  | nil => rfl
  | cons t target ih =>
      rw [laterCells, nextCells, ← cost_cons_cons, ih, ← laterCells]

/-- One more character of the first text leads to the next row. -/
theorem nextRow_row (c : Char) (source target : List Char) :
    nextRow target (row source target) c = row (c :: source) target := by
  have hleft : cost source [] + 1 = cost (c :: source) [] := by
    rw [cost_nil_right, cost_nil_right, List.length_cons]
  rw [row, nextRow, hleft, nextCells_laterCells, ← row]

/-- All characters of a text lead to the row of the whole text. -/
theorem foldl_nextRow_row (text source target : List Char) :
    text.foldl (nextRow target) (row source target) = row (text.reverse ++ source) target := by
  induction text generalizing source with
  | nil => rfl
  | cons c text ih =>
      rw [List.foldl_cons, nextRow_row, ih, List.reverse_cons, List.append_assoc,
        List.singleton_append]

/-- The last cell of a row belongs to the whole second text. -/
theorem getLastD_cons_laterCells (source done target : List Char) (default : Nat) :
    (cost source done :: laterCells source done target).getLastD default =
      cost source (target.reverse ++ done) := by
  induction target generalizing done default with
  | nil => rfl
  | cons t target ih =>
      rw [laterCells, List.getLastD_cons, ih, List.reverse_cons, List.append_assoc,
        List.singleton_append]

/-- The last cell of the last row is the value of the recursion. -/
theorem lastCell_eq_cost (source target : List Char) :
    lastCell source target = cost source.reverse target.reverse := by
  rw [lastCell, firstRow_eq_row, foldl_nextRow_row, row, getLastD_cons_laterCells, List.append_nil,
    List.append_nil]

/-- The distance is the value of the recursion, also where no rows are needed. -/
theorem distance_eq_cost (source target : List Char) :
    distance source target = cost source.reverse target.reverse := by
  unfold distance
  split_ifs with heq hsource htarget
  · rw [heq, cost_eq_zero_iff.mpr rfl]
  · rw [List.isEmpty_iff.mp hsource, List.reverse_nil, cost_nil_left, List.length_reverse]
  · rw [List.isEmpty_iff.mp htarget, List.reverse_nil, cost_nil_right, List.length_reverse]
  · exact lastCell_eq_cost source target

end ApiLint.EditDistance

namespace ApiLint

/-- A string is at least as far from another one as it is longer. -/
theorem length_le_editDistance_add_length (a b : String) :
    a.length ≤ editDistance a b + b.length := by
  have hcost := EditDistance.length_le_cost_add_length a.toList.reverse b.toList.reverse
  rw [← EditDistance.distance_eq_cost, List.length_reverse, List.length_reverse] at hcost
  exact hcost

/-- Strings without a common character are at least as far apart as the second one is long. -/
theorem length_le_editDistance_of_disjoint {a b : String} (h : a.toList.Disjoint b.toList) :
    b.length ≤ editDistance a b := by
  have hreverse : a.toList.reverse.Disjoint b.toList.reverse := by
    simpa only [List.disjoint_reverse_left, List.disjoint_reverse_right] using h
  have hcost := EditDistance.length_le_cost_of_disjoint hreverse
  rw [← EditDistance.distance_eq_cost, List.length_reverse] at hcost
  exact hcost

/-- Only equal strings have no distance. -/
theorem editDistance_eq_zero_iff {a b : String} : editDistance a b = 0 ↔ a = b := by
  rw [editDistance, EditDistance.distance_eq_cost, EditDistance.cost_eq_zero_iff, List.reverse_inj,
    String.toList_inj]

end ApiLint
