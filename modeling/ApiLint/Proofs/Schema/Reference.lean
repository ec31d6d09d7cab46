import ApiLint.Proofs.Node.Size
import ApiLint.Schema.Reference

/-!
# Where references lead

A reference leads into the schema as a whole, so what it leads to is no larger.

Main results:

- Theorem `size_le_of_anchored?`: an anchor names a part of the schema.
- Theorem `size_le_of_follow`: a reference leads to a part of the schema.
-/

namespace ApiLint.Schema

open Node

variable {name : String} {x y root schema : Node}

/-! ## Anchors -/

mutual

/-- The schema that declares an anchor is a part of the one it was looked for in. -/
theorem size_le_of_anchoredIn? : ∀ {x : Node}, anchoredIn? name x = some y → y.size ≤ x.size
  | .map entries, h => by
      have hlift : y.size ≤ sizeEntries entries → y.size ≤ (Node.map entries).size := by
        rw [size]
        omega
      rw [anchoredIn?, Option.or_eq_some_iff] at h
      rcases h with h | ⟨-, h⟩
      · exact hlift (size_le_of_anchoredInEntries? h)
      rw [Option.or_eq_some_iff] at h
      rcases h with h | ⟨-, h⟩
      · exact hlift (size_le_of_anchoredInArrays? h)
      rw [Option.or_eq_some_iff] at h
      rcases h with h | ⟨-, h⟩
      · exact hlift (size_le_of_anchoredInTables? h)
      · split at h
        · cases h
          exact Nat.le_refl _
        · cases h

theorem size_le_of_anchoredInEntries? :
    ∀ {entries : List (Node × Node)}, anchoredInEntries? name entries = some y →
      y.size ≤ sizeEntries entries
  | (key, value) :: rest, h => by
      rw [anchoredInEntries?, Option.or_eq_some_iff] at h
      rw [sizeEntries]
      rcases h with h | ⟨-, h⟩
      · split at h
        · have hle := size_le_of_anchoredIn? h
          omega
        · cases h
      · have hle := size_le_of_anchoredInEntries? h
        omega

theorem size_le_of_anchoredInArrays? :
    ∀ {entries : List (Node × Node)}, anchoredInArrays? name entries = some y →
      y.size ≤ sizeEntries entries
  | (key, value) :: rest, h => by
      rw [anchoredInArrays?, Option.or_eq_some_iff] at h
      rw [sizeEntries]
      rcases h with h | ⟨-, h⟩
      · split at h
        · have hle := size_le_of_anchoredInList? h
          omega
        · cases h
      · have hle := size_le_of_anchoredInArrays? h
        omega

theorem size_le_of_anchoredInTables? :
    ∀ {entries : List (Node × Node)}, anchoredInTables? name entries = some y →
      y.size ≤ sizeEntries entries
  | (key, value) :: rest, h => by
      rw [anchoredInTables?, Option.or_eq_some_iff] at h
      rw [sizeEntries]
      rcases h with h | ⟨-, h⟩
      · split at h
        · have hle := size_le_of_anchoredInTable? h
          omega
        · cases h
      · have hle := size_le_of_anchoredInTables? h
        omega

theorem size_le_of_anchoredInList? : ∀ {x : Node}, anchoredInList? name x = some y → y.size ≤ x.size
  | .list items, h => by
      rw [anchoredInList?] at h
      have hle := size_le_of_anchoredAmong? h
      rw [size]
      omega

theorem size_le_of_anchoredInTable? : ∀
    {x : Node}, anchoredInTable? name x = some y → y.size ≤ x.size
  | .map entries, h => by
      rw [anchoredInTable?] at h
      have hle := size_le_of_anchoredAmongValues? h
      rw [size]
      omega

theorem size_le_of_anchoredAmong? :
    ∀ {xs : List Node}, anchoredAmong? name xs = some y → y.size ≤ sizeItems xs
  | x :: xs, h => by
      rw [anchoredAmong?, Option.or_eq_some_iff] at h
      rw [sizeItems]
      rcases h with h | ⟨-, h⟩
      · have hle := size_le_of_anchoredIn? h
        omega
      · have hle := size_le_of_anchoredAmong? h
        omega

theorem size_le_of_anchoredAmongValues? :
    ∀ {entries : List (Node × Node)}, anchoredAmongValues? name entries = some y →
      y.size ≤ sizeEntries entries
  | (key, value) :: rest, h => by
      rw [anchoredAmongValues?, Option.or_eq_some_iff] at h
      rw [sizeEntries]
      rcases h with h | ⟨-, h⟩
      · have hle := size_le_of_anchoredIn? h
        omega
      · have hle := size_le_of_anchoredAmongValues? h
        omega

end

/-- An anchor names a part of the schema. -/
theorem size_le_of_anchored? (h : anchored? name root = some schema) : schema.size ≤ root.size := by
  rw [anchored?] at h
  split at h
  · exact size_le_of_anchoredIn? h
  · cases h

/-! ## Pointers -/

theorem mem_of_itemAt? {α : Type} {items : List α} {index : Int} {item : α}
    (h : itemAt? items index = some item) : item ∈ items := by
  rw [itemAt?] at h
  split at h
  · exact List.mem_of_getElem? h
  · split at h
    · cases h
    · exact List.mem_of_getElem? h

/-- A step of a pointer leads to a part. -/
theorem size_le_of_referenceStep {segment : List Char} (h : referenceStep x segment = .ok y) :
    y.size ≤ x.size := by
  have helements : ∀ {items : List Node}, x.elements? = some items →
      sequenceStep items segment = .ok y → y.size ≤ x.size := by
    intro items hitems hstep
    rw [sequenceStep] at hstep
    split at hstep
    · cases hstep
    · split at hstep
      · rename_i found hfound
        cases hstep
        exact size_le_of_mem_elements? hitems (mem_of_itemAt? hfound)
      · cases hstep
  rw [referenceStep.eq_def] at h
  split at h
  · split at h
    · rename_i found hfound
      cases h
      exact size_le_of_lookup hfound
    · cases h
  · split at h
    · rename_i items hitems
      exact helements hitems h
    · cases h

/-- So do several steps. -/
theorem size_le_of_foldlM_referenceStep {segments : List (List Char)}
    (h : segments.foldlM referenceStep x = .ok y) : y.size ≤ x.size := by
  induction segments generalizing x with
  | nil =>
      cases h
      exact Nat.le_refl _
  | cons segment segments ih =>
      rw [List.foldlM_cons] at h
      cases hstep : referenceStep x segment with
      | error fault =>
          rw [hstep] at h
          cases h
      | ok next =>
          rw [hstep] at h
          exact Nat.le_trans (ih h) (size_le_of_referenceStep hstep)

/-! ## References -/

theorem size_le_of_followFragment {fragment : List Char}
    (h : followFragment root fragment = .ok schema) :
    schema.size ≤ root.size := by
  rw [followFragment.eq_def] at h
  split at h
  · cases h
    exact Nat.le_refl _
  · exact size_le_of_foldlM_referenceStep h
  · split at h
    · rename_i found hfound
      cases h
      exact size_le_of_anchored? hfound
    · cases h

/-- A reference leads to a part of the schema. -/
theorem size_le_of_follow (h : follow root x = .ok schema) : schema.size ≤ root.size := by
  cases x with
  | str reference =>
      rw [follow, followText] at h
      split at h
      · split at h
        · cases h
          exact Nat.le_refl _
        · cases h
      · split at h
        · exact size_le_of_followFragment h
        · split at h
          · exact size_le_of_followFragment h
          · cases h
  | _ => cases h

end ApiLint.Schema
