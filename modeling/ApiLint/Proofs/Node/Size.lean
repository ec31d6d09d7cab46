import ApiLint.Proofs.Node.Shape

/-!
# Sizes of parts

A node is at least as large as each of its items, keys and values, so whatever is reached from a
node by going down is no larger.

Main results:

- Theorem `size_le_of_mem_elements?`: what going through a node yields is no larger than the node.
- Theorem `length_lt_size`: a node with items or entries is larger than their number.
-/

namespace ApiLint.Node

variable {x y : Node} {xs : List Node} {entries : List (Node × Node)}

theorem size_pos (x : Node) : 0 < x.size := by
  cases x <;> simp only [size] <;> omega

/-! ## Items -/

theorem size_le_sizeItems (hmem : x ∈ xs) : x.size ≤ sizeItems xs := by
  induction xs with
  | nil => cases hmem
  | cons y ys ih =>
      rw [sizeItems]
      rcases List.mem_cons.mp hmem with rfl | hrest
      · exact Nat.le_add_right _ _
      · exact Nat.le_add_left_of_le (ih hrest)

theorem length_le_sizeItems (xs : List Node) : xs.length ≤ sizeItems xs := by
  induction xs with
  | nil => exact Nat.le_refl 0
  | cons x xs ih =>
      have hpos := size_pos x
      rw [List.length_cons, sizeItems]
      omega

/-! ## Entries -/

theorem size_add_size_le_sizeEntries {entry : Node × Node} (hmem : entry ∈ entries) :
    entry.1.size + entry.2.size ≤ sizeEntries entries := by
  induction entries with
  | nil => cases hmem
  | cons first rest ih =>
      obtain ⟨key, value⟩ := first
      rw [sizeEntries]
      rcases List.mem_cons.mp hmem with rfl | hrest
      · exact Nat.le_add_right _ _
      · exact Nat.le_add_left_of_le (ih hrest)

theorem length_le_sizeEntries (entries : List (Node × Node)) :
    entries.length ≤ sizeEntries entries := by
  induction entries with
  | nil => exact Nat.le_refl 0
  | cons entry rest ih =>
      obtain ⟨key, value⟩ := entry
      have hpos := size_pos key
      rw [List.length_cons, sizeEntries]
      omega

/-- A value is no larger than the mapping that it stands in. -/
theorem size_le_of_mem {entry : Node × Node} (hmem : entry ∈ entries) :
    entry.2.size ≤ (map entries).size := by
  have hentry := size_add_size_le_sizeEntries hmem
  rw [size]
  omega

/-- So is a value that is looked up. -/
theorem size_le_of_lookup {name : String} (h : lookup name entries = some x) :
    x.size ≤ (map entries).size :=
  size_le_of_mem (mem_of_lookup h)

/-! ## Elements -/

/-- What going through a node yields is no larger than the node. -/
theorem size_le_of_mem_elements? (h : x.elements? = some xs) (hmem : y ∈ xs) : y.size ≤ x.size := by
  cases x with
  | list items | tuple items =>
      cases h
      rw [size]
      exact Nat.le_add_left_of_le (size_le_sizeItems hmem)
  | map entries =>
      cases h
      obtain ⟨entry, hentry, rfl⟩ := List.mem_map.mp hmem
      have hle := size_add_size_le_sizeEntries hentry
      rw [size]
      omega
  | str s =>
      cases h
      obtain ⟨c, -, rfl⟩ := List.mem_map.mp hmem
      exact Nat.le_refl _
  | bytes bs =>
      cases h
      obtain ⟨b, -, rfl⟩ := List.mem_map.mp hmem
      exact Nat.le_refl _
  | _ => cases h

/--
A node with items or entries is larger than their number; the elements of others have no parts.
-/
theorem length_lt_size (h : x.elements? = some xs) :
    xs.length < x.size ∨ ∀ y ∈ xs, (∃ s, y = .str s) ∨ ∃ n, y = .int n := by
  cases x with
  | list items | tuple items =>
      cases h
      have hle := length_le_sizeItems xs
      rw [size]
      exact .inl (by omega)
  | map entries =>
      cases h
      have hle := length_le_sizeEntries entries
      rw [size, List.length_map]
      exact .inl (by omega)
  | str s =>
      cases h
      refine .inr fun y hmem => ?_
      obtain ⟨c, -, rfl⟩ := List.mem_map.mp hmem
      exact .inl ⟨_, rfl⟩
  | bytes bs =>
      cases h
      refine .inr fun y hmem => ?_
      obtain ⟨b, -, rfl⟩ := List.mem_map.mp hmem
      exact .inr ⟨_, rfl⟩
  | _ => cases h

end ApiLint.Node
