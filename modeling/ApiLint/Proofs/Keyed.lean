import Mathlib.Data.List.Nodup

/-!
# Values under keys

Parameters, schema files and the files of a tree are lists of values under keys.  A value that is put
under a key takes the place of the one that is there, or comes last, so the keys stay as they are or
get one more.

Main results:

- Theorem `map_fst_put`: the keys afterwards.
- Theorem `mem_put_iff`: the values afterwards.
- Theorems `lookup_put` and `lookup_map`: what is found under each key.
-/

namespace ApiLint.Keyed

variable {κ α : Type} [DecidableEq κ] {k other : κ} {v w : α} {entries : List (κ × α)}

/-- Put a value under a key: in place if the key is there, else at the end. -/
def put (k : κ) (v : α) : List (κ × α) → List (κ × α)
  | [] => [(k, v)]
  | (other, w) :: rest => if other = k then (other, v) :: rest else (other, w) :: put k v rest

/-! ## Keys and values -/

/-- A key that is there changes no key, and a new one comes last. -/
theorem map_fst_put (k : κ) (v : α) (entries : List (κ × α)) :
    (put k v entries).map (·.1) =
      if k ∈ entries.map (·.1) then entries.map (·.1) else entries.map (·.1) ++ [k] := by
  induction entries with
  | nil => rfl
  | cons entry entries ih =>
      obtain ⟨other, w⟩ := entry
      rw [put]
      by_cases hother : other = k
      · subst hother
        simp
      · rw [if_neg hother, List.map_cons, ih]
        by_cases hmem : k ∈ entries.map (·.1)
        · simp [hmem]
        · simp [hmem, Ne.symm hother]

theorem mem_map_fst_put : other ∈ (put k v entries).map (·.1) ↔
    other = k ∨ other ∈ entries.map (·.1) := by
  rw [map_fst_put]
  split
  · rename_i hold
    refine ⟨.inr, fun hmem => hmem.elim (fun hsame => ?_) id⟩
    rwa [hsame]
  · rw [List.mem_append, List.mem_singleton, or_comm]

/-- A value under a new key comes last. -/
theorem put_of_notMem (h : k ∉ entries.map (·.1)) : put k v entries = entries ++ [(k, v)] := by
  induction entries with
  | nil => rfl
  | cons entry entries ih =>
      rw [List.map_cons, List.mem_cons, not_or] at h
      rw [put, if_neg (Ne.symm h.1), ih h.2, List.cons_append]

/-- No key is there twice afterwards, if none was before. -/
theorem nodup_put (h : (entries.map (·.1)).Nodup) : ((put k v entries).map (·.1)).Nodup := by
  rw [map_fst_put]
  split
  · exact h
  · rename_i hnew
    rw [← List.concat_eq_append]
    exact h.concat hnew

/-- The value that is put is there afterwards, and those under all other keys stay. -/
theorem mem_put_iff (hnodup : (entries.map (·.1)).Nodup) :
    (other, w) ∈ put k v entries ↔ (other = k ∧ w = v) ∨ (other ≠ k ∧ (other, w) ∈ entries) := by
  induction entries with
  | nil => simp [put]
  | cons entry entries ih =>
      obtain ⟨first, u⟩ := entry
      obtain ⟨hnew, hrest⟩ := List.nodup_cons.mp hnodup
      rw [put, List.mem_cons, Prod.mk.injEq]
      by_cases hfirst : first = k
      · subst hfirst
        -- The key is at the front, and at no other place.
        have hother : (other, w) ∈ entries → other ≠ first := by
          rintro hmem rfl
          exact hnew (List.mem_map.mpr ⟨_, hmem, rfl⟩)
        rw [if_pos rfl, List.mem_cons, Prod.mk.injEq]
        constructor
        · exact Or.imp_right fun hmem => ⟨hother hmem, .inr hmem⟩
        · exact Or.imp_right fun ⟨hne, hmem⟩ => hmem.resolve_left fun hsame => hne hsame.1
      · rw [if_neg hfirst, List.mem_cons, Prod.mk.injEq, ih hrest]
        constructor
        · rintro (⟨rfl, rfl⟩ | hput | ⟨hne, hmem⟩)
          · exact .inr ⟨hfirst, .inl ⟨rfl, rfl⟩⟩
          · exact .inl hput
          · exact .inr ⟨hne, .inr hmem⟩
        · rintro (hput | ⟨hne, hsame | hmem⟩)
          · exact .inr (.inl hput)
          · exact .inl hsame
          · exact .inr (.inr ⟨hne, hmem⟩)

/-! ## Looking up -/

variable [BEq κ]

omit [DecidableEq κ] in
/-- Values that are changed one by one are found under the same keys. -/
theorem lookup_map {β : Type} (f : α → β) (entries : List (κ × α)) (k : κ) :
    (entries.map fun entry => (entry.1, f entry.2)).lookup k = (entries.lookup k).map f := by
  induction entries with
  | nil => rfl
  | cons entry entries ih =>
      rw [List.map_cons, List.lookup_cons, List.lookup_cons, ih]
      cases k == entry.1 <;> rfl

variable [LawfulBEq κ]

/-- A value is looked up behind another one if its key is not the first one. -/
theorem lookup_cons_eq (k : κ) (v : α) (entries : List (κ × α)) (other : κ) :
    ((k, v) :: entries).lookup other = if other = k then some v else entries.lookup other := by
  by_cases hother : other = k
  · simp [hother]
  · simp [List.lookup_cons, beq_false_of_ne hother, hother]

/-- The value that was put is found, and under all other keys what was found before. -/
theorem lookup_put (k other : κ) (v : α) (entries : List (κ × α)) :
    (put k v entries).lookup other = if other = k then some v else entries.lookup other := by
  induction entries with
  | nil => rw [put, lookup_cons_eq, List.lookup_nil]
  | cons entry entries ih =>
      obtain ⟨first, u⟩ := entry
      by_cases hfirst : first = k
      · subst hfirst
        rw [put, if_pos rfl, lookup_cons_eq, lookup_cons_eq]
        by_cases hother : other = first <;> simp [hother]
      · rw [put, if_neg hfirst, lookup_cons_eq, lookup_cons_eq, ih]
        by_cases hother : other = first
        · subst hother
          simp [hfirst]
        · simp [hother]

end ApiLint.Keyed
