import ApiLint.Yaml.Faults

/-!
# The fault that counts

Making a value combines the outcomes of its parts two by two, and of two faults it keeps one.  So the fault that is left
in the end is the one that counts among all faults: the first one on the outermost level.

Main results:

- Theorem `settles_firstFault`: what is kept of two faults counts among both lists.
- Theorem `made_eq_error_iff`: a value is not made exactly because of the fault that counts.
-/

namespace ApiLint.Yaml

/-! ## Overtaking -/

namespace LevelFault

variable {a b c : LevelFault}

/-- A fault that is not late overtakes late ones and those on inner levels. -/
theorem overtakes_iff : a.overtakes b = true ↔
    a.error.isLate = false ∧ (b.error.isLate = true ∨ a.level < b.level) := by
  simp [overtakes]

theorem overtakes_trans (hab : a.overtakes b = true) (hbc : b.overtakes c = true) :
    a.overtakes c = true := by
  rw [overtakes_iff] at *
  refine ⟨hab.1, ?_⟩
  rcases hab.2 with hlate | hlevel
  · rw [hbc.1] at hlate
    cases hlate
  · exact hbc.2.imp_right (Nat.lt_trans hlevel)

/-- What does not overtake a fault is overtaken by what overtakes that one. -/
theorem overtakes_of_not_overtakes (hab : a.overtakes b = true) (hcb : c.overtakes b = false) :
    a.overtakes c = true := by
  rw [← Bool.not_eq_true] at hcb
  rw [overtakes_iff] at *
  refine ⟨hab.1, ?_⟩
  by_cases hlate : c.error.isLate = true
  · exact .inl hlate
  · rw [Bool.not_eq_true] at hlate
    refine .inr ?_
    rcases hab.2 with hb | hlevel
    · exact absurd ⟨hlate, .inl hb⟩ hcb
    · exact Nat.lt_of_lt_of_le hlevel (Nat.le_of_not_lt fun h => hcb ⟨hlate, .inr h⟩)

/-- Not overtaking is passed on. -/
theorem not_overtakes_trans (hba : b.overtakes a = false) (hac : a.overtakes c = false) :
    b.overtakes c = false := by
  refine Bool.eq_false_iff.mpr fun hbc => ?_
  rw [overtakes_of_not_overtakes hbc hac] at hba
  cases hba

end LevelFault

/-! ## The fault that counts -/

variable {α β γ : Type} {fault : LevelFault} {faults : List LevelFault}

/-- One fault counts. -/
theorem counts_singleton (fault : LevelFault) : Counts fault [fault] :=
  ⟨[], [], rfl, nofun, nofun⟩

/-- No two faults count. -/
theorem Counts.unique {other : LevelFault} (h : Counts fault faults) (h' : Counts other faults) :
    fault = other := by
  obtain ⟨before, after, rfl, hbefore, hafter⟩ := h
  obtain ⟨before', after', heq, hbefore', hafter'⟩ := h'
  rcases List.append_eq_append_iff.mp heq with ⟨more, hmore, hrest⟩ | ⟨more, hmore, hrest⟩
  · cases more with
    | nil => exact (List.cons.inj hrest).1
    | cons f more =>
        obtain ⟨hsame, hlater⟩ := List.cons.inj hrest
        have hover := hbefore' fault (by rw [hmore, hsame]; simp)
        have hnot := hafter other (by rw [hlater]; simp)
        rw [hover] at hnot
        cases hnot
  · cases more with
    | nil => exact (List.cons.inj hrest).1.symm
    | cons f more =>
        obtain ⟨hsame, hlater⟩ := List.cons.inj hrest
        have hover := hbefore other (by rw [hmore, hsame]; simp)
        have hnot := hafter' fault (by rw [hlater]; simp)
        rw [hover] at hnot
        cases hnot

/-- A fault that overtakes the one that counts before it counts. -/
theorem Counts.append_of_overtakes {first second : LevelFault} {xs ys : List LevelFault}
    (hx : Counts first xs) (hy : Counts second ys) (h : second.overtakes first = true) :
    Counts second (xs ++ ys) := by
  obtain ⟨before, after, rfl, hbefore, hafter⟩ := hx
  obtain ⟨before', after', rfl, hbefore', hafter'⟩ := hy
  refine ⟨before ++ first :: after ++ before', after', by simp, ?_, hafter'⟩
  intro f hf
  rw [List.append_assoc, List.mem_append, List.cons_append, List.mem_cons, List.mem_append] at hf
  rcases hf with hf | rfl | hf | hf
  · exact LevelFault.overtakes_trans h (hbefore f hf)
  · exact h
  · exact LevelFault.overtakes_of_not_overtakes h (hafter f hf)
  · exact hbefore' f hf

/-- A fault that is not overtaken by the one that counts behind it counts. -/
theorem Counts.append_of_not_overtakes {first second : LevelFault} {xs ys : List LevelFault}
    (hx : Counts first xs) (hy : Counts second ys) (h : second.overtakes first = false) :
    Counts first (xs ++ ys) := by
  obtain ⟨before, after, rfl, hbefore, hafter⟩ := hx
  obtain ⟨before', after', rfl, hbefore', hafter'⟩ := hy
  refine ⟨before, after ++ (before' ++ second :: after'), by simp, hbefore, ?_⟩
  intro f hf
  rw [List.mem_append, List.mem_append, List.mem_cons] at hf
  rcases hf with hf | hf | rfl | hf
  · exact hafter f hf
  · refine Bool.eq_false_iff.mpr fun hover => ?_
    rw [LevelFault.overtakes_trans (hbefore' f hf) hover] at h
    cases h
  · exact h
  · exact LevelFault.not_overtakes_trans (hafter' f hf) h

/-! ## Making values -/

/-- An outcome goes with a list of faults: a value with none, a fault with those among which it counts. -/
def Settles (made : Made α) (faults : List LevelFault) : Prop :=
  match made with
  | .ok _ => faults = []
  | .error fault => Counts fault faults

theorem settles_faults (made : Made α) : Settles made made.faults := by
  cases made with
  | ok a => rfl
  | error fault => exact counts_singleton fault

theorem Settles.map {made : Made α} (h : Settles made faults) (f : α → β) :
    Settles (made.map f) faults := by
  cases made <;> exact h

/-- Of two outcomes the one that is kept goes with the faults of both. -/
theorem settles_firstFault (f : α → β → γ) {a : Made α} {b : Made β} {xs ys : List LevelFault}
    (ha : Settles a xs) (hb : Settles b ys) : Settles (firstFault f a b) (xs ++ ys) := by
  cases a with
  | ok a =>
      obtain rfl : xs = [] := ha
      cases b <;> exact hb
  | error first =>
      cases b with
      | ok b =>
          obtain rfl : ys = [] := hb
          rw [List.append_nil]
          exact ha
      | error second =>
          rw [firstFault]
          cases h : second.overtakes first with
          | true => exact Counts.append_of_overtakes ha hb h
          | false => exact Counts.append_of_not_overtakes ha hb h

/-- A tag that does not fit hides the faults of what is inside. -/
theorem Settles.withTag {made : Made α} (h : Settles made faults) (fit : TagFit) (level : Nat) :
    Settles (withTag fit level made) (faultsWithTag fit level faults) := by
  cases fit with
  | fits => exact h
  | crossed => exact counts_singleton _
  | scalar => exact counts_singleton _
  | unknown => exact counts_singleton _

mutual

/-- Making a value ends with the fault that counts. -/
theorem settles_made (level : Nat) : ∀ c : Content, Settles (made level c) (c.faults level)
  | .scalar number tag text isPlain => settles_faults (madeScalar level number tag text isPlain)
  | .sequence tag items =>
      ((settles_madeItems (level + 1) items).map Node.list).withTag (tagFit "seq" tag) level
  | .mapping tag entries => by
      have hentries := settles_madeEntries (level + 1) entries
      rw [made, Content.faults]
      by_cases hset : tag.isSet = true
      · -- That there is a set is a fault that overtakes none.
        rw [if_pos hset, if_pos hset]
        cases hmade : madeEntries (level + 1) entries with
        | ok done =>
            rw [hmade] at hentries
            have hnone : Content.entryFaults (level + 1) entries = [] := hentries
            rw [hnone]
            exact counts_singleton _
        | error fault =>
            rw [hmade] at hentries
            exact Counts.append_of_not_overtakes hentries (counts_singleton _) rfl
      · rw [if_neg hset, if_neg hset]
        exact (hentries.map Node.ofEntries).withTag _ level
  | .pairs entries => (settles_madePairs (level + 1) entries).map Node.list
  | .itself => counts_singleton _
  | .broken depth error => counts_singleton _
termination_by structural c => c

theorem settles_madeItems (level : Nat) :
    ∀ items, Settles (madeItems level items) (Content.itemFaults level items)
  | [] => rfl
  | c :: cs => settles_firstFault _ (settles_made level c) (settles_madeItems level cs)
termination_by structural items => items

theorem settles_madePairs (level : Nat) :
    ∀ entries, Settles (madePairs level entries) (Content.pairFaults level entries)
  | [] => rfl
  | (key, value) :: rest =>
      settles_firstFault _ (settles_firstFault _ (settles_made level key) (settles_made level value))
        (settles_madePairs level rest)
termination_by structural entries => entries

theorem settles_madeEntries (level : Nat) :
    ∀ entries, Settles (madeEntries level entries) (Content.entryFaults level entries)
  | [] => rfl
  | (.scalar number tag text isPlain, value) :: rest =>
      settles_firstFault _
        (settles_firstFault _ (settles_faults (madeScalar level number tag text isPlain))
          (settles_made level value))
        (settles_madeEntries level rest)
  | (.broken 0 _, _) :: _ => counts_singleton _
  | (.broken (_ + 1) _, _) :: _ => counts_singleton _
  | (.sequence _ _, _) :: _ => counts_singleton _
  | (.mapping _ _, _) :: _ => counts_singleton _
  | (.pairs _, _) :: _ => counts_singleton _
  | (.itself, _) :: _ => counts_singleton _
termination_by structural entries => entries

end

/-- A value is not made exactly because of the fault that counts. -/
theorem made_eq_error_iff (level : Nat) (c : Content) :
    made level c = .error fault ↔ Counts fault (c.faults level) := by
  have hsettles := settles_made level c
  cases hmade : made level c with
  | ok x =>
      rw [hmade] at hsettles
      have hnone : c.faults level = [] := hsettles
      refine ⟨nofun, ?_⟩
      rintro ⟨before, after, hfaults, -, -⟩
      rw [hnone] at hfaults
      simp at hfaults
  | error other =>
      rw [hmade] at hsettles
      exact ⟨fun h => Except.error.inj h ▸ hsettles, fun h => by rw [hsettles.unique h]⟩

end ApiLint.Yaml
