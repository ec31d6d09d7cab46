import ApiLint.Files.Access
import ApiLint.Proofs.Keyed

/-!
# Laws of file trees

Putting a content in the place of a file changes what stands at that place and nothing else, and
directories stay directories.  So a path that could be followed is followed to the same place
afterwards, and what was written at the end of it is read.

Main results:

- Theorem `lookup_putFile`: only the file that was put changes.
- Theorem `walk_of_directories`: a way stays open while its directories stay.
- Theorem `holds_of_write`: what was written is read.
-/

namespace ApiLint.FileTree

variable {place other : List String} {content : ByteArray} {files : List (List String × ByteArray)}

/-! ## Putting a file -/

theorem putFile_eq_put (place : List String) (content : ByteArray)
    (files : List (List String × ByteArray)) :
    putFile place content files = Keyed.put place content files := by
  induction files with
  | nil => rfl
  | cons file files ih => rw [putFile, Keyed.put, ih]

/-- A file that was put is the one that stands there, and all others are as before. -/
theorem lookup_putFile (place other : List String) (content : ByteArray)
    (files : List (List String × ByteArray)) :
    (putFile place content files).lookup other =
      if other = place then some content else files.lookup other := by
  rw [putFile_eq_put, Keyed.lookup_put]

/-- The places of files stay places of files. -/
theorem exists_mem_putFile {p : List String} {c : ByteArray} (hmem : (p, c) ∈ files) :
    ∃ c', (p, c') ∈ putFile place content files := by
  have hplace : p ∈ (putFile place content files).map (·.1) := by
    rw [putFile_eq_put, Keyed.mem_map_fst_put]
    exact .inr (List.mem_map.mpr ⟨_, hmem, rfl⟩)
  obtain ⟨⟨q, c'⟩, hmem', rfl⟩ := List.mem_map.mp hplace
  exact ⟨c', hmem'⟩

variable {t t' : FileTree} {p : FilePath}

/-! ## Entries and ways -/

/-- A directory stands where there is no file, and where something leads through. -/
theorem isDirectory_iff :
    t.isDirectory place = true ↔
      t.files.lookup place = none ∧
        (place.isPrefixOf t.workingDirectory = true ∨ place ∈ t.directories ∨
          ∃ file ∈ t.files, place.isPrefixOf file.1 = true) := by
  unfold isDirectory entry?
  cases t.files.lookup place with
  | some content => simp
  | none =>
      have hwhere : (place.isPrefixOf t.workingDirectory || t.directories.contains place
            || t.files.any fun f => place.isPrefixOf f.1) = true ↔
          place.isPrefixOf t.workingDirectory = true ∨ place ∈ t.directories ∨
            ∃ file ∈ t.files, place.isPrefixOf file.1 = true := by
        simp only [Bool.or_eq_true, List.contains_iff_mem, List.any_eq_true, or_assoc]
      rw [← hwhere]
      dsimp only
      generalize (place.isPrefixOf t.workingDirectory || t.directories.contains place
        || t.files.any fun f => place.isPrefixOf f.1) = leads
      cases leads <;> simp

/-- Directories stay directories when a file is put where there is none. -/
theorem isDirectory_withFile (hplace : t.isDirectory place = false) (content : ByteArray)
    {q : List String} (hq : t.isDirectory q = true) :
    (t.withFile place content).isDirectory q = true := by
  have hne : q ≠ place := by
    rintro rfl
    rw [hplace] at hq
    cases hq
  rw [isDirectory_iff] at hq ⊢
  obtain ⟨hfile, hwhere⟩ := hq
  refine ⟨by rw [withFile, lookup_putFile, if_neg hne, hfile], ?_⟩
  rcases hwhere with hworking | hmade | ⟨⟨p, c⟩, hmem, hprefix⟩
  · exact .inl hworking
  · exact .inr (.inl hmade)
  · obtain ⟨c', hmem'⟩ : ∃ c', (p, c') ∈ putFile place content t.files := exists_mem_putFile hmem
    exact .inr (.inr ⟨(p, c'), hmem', hprefix⟩)

/-- A step on a way starts at a directory and has a short name. -/
theorem walk_cons_eq_ok_iff {name : String} {names : List String} :
    t.walk other (name :: names) = .ok place ↔
      t.isDirectory other = true ∧ isTooLong name = false ∧
        t.walk (next other name) names = .ok place := by
  rw [walk, isDirectory]
  cases t.entry? other with
  | none => simp
  | some entry =>
      cases entry with
      | file content => simp
      | directory => cases htoo : isTooLong name <;> simp

/-- A way stays open while its directories stay. -/
theorem walk_of_directories (hstay : ∀ q, t.isDirectory q = true → t'.isDirectory q = true)
    {names : List String} (hwalk : t.walk other names = .ok place) :
    t'.walk other names = .ok place := by
  induction names generalizing other with
  | nil => exact hwalk
  | cons name names ih =>
      rw [walk_cons_eq_ok_iff] at hwalk ⊢
      exact ⟨hstay other hwalk.1, hwalk.2.1, ih hwalk.2.2⟩

/-! ## Writing a file -/

/-- Writing puts a file at the place that the path leads to, where no directory stands. -/
theorem write_eq_ok_iff :
    t.write p content = .ok () t' ↔
      ∃ place, t.place p = .ok place ∧ t.isDirectory place = false ∧
        t' = t.withFile place content := by
  rw [write]
  cases t.place p with
  | error e => simp
  | ok place =>
      cases hplace : t.isDirectory place with
      | true => simp [hplace]
      | false =>
          simp only [hplace, Bool.false_eq_true, if_false, EStateM.Result.ok.injEq, true_and,
            Except.ok.injEq, exists_eq_left']
          exact eq_comm

/-- A path leads to the same place after something was written. -/
theorem place_of_write (hplace : t.place p = .ok place) (hfree : t.isDirectory place = false)
    (content : ByteArray) :
    (t.withFile place content).place p = .ok place := by
  unfold FileTree.place at hplace ⊢
  cases hfault : pathFault? p with
  | some e =>
      rw [hfault] at hplace
      cases hplace
  | none =>
      rw [hfault] at hplace
      exact walk_of_directories (fun q => isDirectory_withFile hfree content) hplace

/-- What was written is read. -/
theorem holds_of_write (hwrite : t.write p content = .ok () t') : t'.Holds p content := by
  obtain ⟨place, hplace, hfree, rfl⟩ := write_eq_ok_iff.mp hwrite
  have hwritten := place_of_write hplace hfree content
  have hentry : FileTree.entry? (t.withFile place content) place = some (.file content) := by
    rw [ entry?, withFile, lookup_putFile, if_pos rfl]
  have hread : (t.withFile place content).read p = .ok content := by
    rw [FileTree.read, hwritten]
    simp only [hentry]
  have hreadable : (t.withFile place content).refusal? p = none := by
    rw [refusal?, hwritten]
    refine List.lookup_eq_none_iff.mpr fun f hmem => ?_
    have hother : f.1 ≠ place := of_decide_eq_true (List.mem_filter.mp hmem).2
    exact bne_iff_ne.mpr hother.symm
  constructor
  · simp only [access, file?, hread]
    rfl
  · simp only [access, hreadable, hread]

/-- Whether something can be written at a path does not depend on what it is. -/
theorem exists_write_eq_ok (hwrite : t.write p content = .ok () t') (content' : ByteArray) :
    ∃ t'', t.write p content' = .ok () t'' := by
  obtain ⟨place, hplace, hfree, -⟩ := write_eq_ok_iff.mp hwrite
  exact ⟨_, write_eq_ok_iff.mpr ⟨place, hplace, hfree, rfl⟩⟩

end ApiLint.FileTree
