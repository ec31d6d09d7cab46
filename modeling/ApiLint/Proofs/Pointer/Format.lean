import ApiLint.Proofs.Pointer.Location
import Mathlib.Data.Set.Basic
import Mathlib.Data.Set.Operations

/-!
# The format of instance paths

Splitting a path and building it again changes nothing exactly when the path is well-formed: a text
without a slash at its start was never built, and a tilde that starts no escape would be written as
one.  So paths and lists of texts are two forms of the same thing.

Main results:

- Theorem `escapeChars_unescapeChars`: writing undoes reading for a segment whose tildes all start
  escapes.
- Theorem `pathOfSegments_segmentsOfPath_iff`: building undoes splitting exactly for well-formed
  paths.
- Theorem `instancePath_segmentsOfPath`: both directions, with the paths that are ever written.
-/

namespace ApiLint

namespace Pointer

/-! ## Tildes that start escapes -/

variable {c : Char} {cs ds : List Char}

theorem tildesEscape_nil : TildesEscape [] := by
  intro before after h
  simp at h

/--
Every tilde starts an escape when the first character does, should it be one, and the others do.
-/
theorem tildesEscape_cons_iff :
    TildesEscape (c :: cs) ↔
      (c = '~' → cs.head? = some '0' ∨ cs.head? = some '1') ∧ TildesEscape cs := by
  constructor
  · intro h
    constructor
    · rintro rfl
      exact h [] cs rfl
    · intro before after hcs
      exact h (c :: before) after (by rw [hcs, List.cons_append])
  · rintro ⟨hfirst, hrest⟩ before after hcs
    cases before with
    | nil =>
        obtain ⟨rfl, rfl⟩ := List.cons.inj hcs
        exact hfirst rfl
    | cons b before => exact hrest before after (List.cons.inj hcs).2

/-- Texts whose tildes all start escapes can be joined. -/
theorem TildesEscape.append (hcs : TildesEscape cs) (hds : TildesEscape ds) :
    TildesEscape (cs ++ ds) := by
  induction cs with
  | nil => exact hds
  | cons c cs ih =>
      rw [tildesEscape_cons_iff] at hcs
      rw [List.cons_append, tildesEscape_cons_iff]
      refine ⟨fun hc => ?_, ih hcs.2⟩
      cases cs with
      | nil => simpa using hcs.1 hc
      | cons d cs => exact hcs.1 hc

end Pointer

namespace Segment

open Pointer

/-! ## Segments whose tildes all start escapes -/

/-- Every tilde of a written segment starts an escape. -/
theorem tildesEscape_escapeChars (cs : List Char) : TildesEscape (escapeChars cs) := by
  induction cs with
  | nil => exact tildesEscape_nil
  | cons c cs ih =>
      by_cases htilde : c = '~'
      · subst htilde
        rw [escapeChars_tilde, tildesEscape_cons_iff, tildesEscape_cons_iff]
        exact ⟨fun _ => .inl rfl, fun h => absurd h (by decide), ih⟩
      · by_cases hslash : c = '/'
        · subst hslash
          rw [escapeChars_slash, tildesEscape_cons_iff, tildesEscape_cons_iff]
          exact ⟨fun _ => .inr rfl, fun h => absurd h (by decide), ih⟩
        · rw [escapeChars_cons_of_ne htilde hslash, tildesEscape_cons_iff]
          exact ⟨fun h => absurd h htilde, ih⟩

/-- Writing undoes reading for a text between slashes whose tildes all start escapes. -/
theorem escapeChars_unescapeChars {cs : List Char} (hslash : '/' ∉ cs)
    (htildes : TildesEscape cs) : escapeChars (unescapeChars cs) = cs := by
  -- An escape is two characters long, so the induction is on the length.
  induction hlength : cs.length using Nat.strongRecOn generalizing cs with
  | ind n ih =>
      cases cs with
      | nil => rfl
      | cons c cs =>
          rw [List.length_cons] at hlength
          rw [List.mem_cons, not_or] at hslash
          rw [tildesEscape_cons_iff] at htildes
          by_cases htilde : c = '~'
          · subst htilde
            cases cs with
            | nil => simpa using htildes.1 rfl
            | cons d cs =>
                rw [List.length_cons] at hlength
                rw [List.mem_cons, not_or] at hslash
                have hrest : TildesEscape cs := (tildesEscape_cons_iff.mp htildes.2).2
                have hread : escapeChars (unescapeChars cs) = cs :=
                  ih cs.length (by omega) hslash.2.2 hrest rfl
                rcases htildes.1 rfl with hd | hd
                · obtain rfl : d = '0' := by simpa using hd
                  rw [unescapeChars_tilde_zero, escapeChars_tilde, hread]
                · obtain rfl : d = '1' := by simpa using hd
                  rw [unescapeChars_tilde_one, escapeChars_slash, hread]
          · rw [unescapeChars_cons_of_ne htilde, escapeChars_cons_of_ne htilde (Ne.symm hslash.1),
              ih cs.length (by omega) hslash.2 htildes.2 rfl]

/-- An escape stays in one part, because no slash belongs to it. -/
theorem tildesEscape_of_mem_splitAt {cs p : List Char} (htildes : TildesEscape cs)
    (h : p ∈ splitAt '/' cs) : TildesEscape p := by
  induction cs generalizing p with
  | nil =>
      rw [List.mem_singleton.mp h]
      exact tildesEscape_nil
  | cons c cs ih =>
      rw [tildesEscape_cons_iff] at htildes
      by_cases hc : c = '/'
      · subst hc
        rw [splitAt_separator] at h
        rcases List.mem_cons.mp h with rfl | hrest
        · exact tildesEscape_nil
        · exact ih htildes.2 hrest
      · obtain ⟨part, parts, hparts⟩ := exists_splitAt_eq_cons '/' cs
        rw [hparts] at ih
        rw [splitAt_cons_of_ne hc hparts] at h
        rcases List.mem_cons.mp h with rfl | hrest
        · rw [tildesEscape_cons_iff]
          refine ⟨fun htilde => ?_, ih htildes.2 List.mem_cons_self⟩
          exact (htildes.1 htilde).imp (head?_of_splitAt hparts (by decide))
            (head?_of_splitAt hparts (by decide))
        · exact ih htildes.2 (List.mem_cons_of_mem part hrest)

end Segment

namespace Location

open Pointer

/-! ## Whole paths -/

/-- A path that was built is well-formed. -/
theorem isWellFormed_pathOfSegments (segments : List String) :
    IsWellFormed (pathOfSegments segments) := by
  cases segments with
  | nil => exact .inl rfl
  | cons first others =>
      refine .inr ⟨?_, ?_⟩
      · rw [toList_pathOfSegments]
        rfl
      · rw [toList_pathOfSegments, List.flatMap_map]
        induction first :: others with
        | nil => exact tildesEscape_nil
        | cons s segments ih =>
            rw [List.flatMap_cons, List.cons_append, tildesEscape_cons_iff]
            exact ⟨fun h => absurd h (by decide), (Segment.tildesEscape_escapeChars _).append ih⟩

/-- Building undoes splitting for a well-formed path. -/
theorem pathOfSegments_segmentsOfPath {path : String} (h : IsWellFormed path) :
    pathOfSegments (segmentsOfPath path) = path := by
  rcases h with rfl | ⟨hhead, htildes⟩
  · rfl
  · cases hpath : path.toList with
    | nil =>
        rw [hpath] at hhead
        cases hhead
    | cons c rest =>
        rw [hpath] at hhead htildes
        obtain rfl : c = '/' := by simpa using hhead
        have hrest : TildesEscape rest := (tildesEscape_cons_iff.mp htildes).2
        have hparts : ∀ p ∈ Segment.splitAt '/' rest,
            Segment.escapeChars (Segment.unescapeChars p) = p := fun p hp =>
          Segment.escapeChars_unescapeChars (Segment.notMem_of_mem_splitAt hp)
            (Segment.tildesEscape_of_mem_splitAt hrest hp)
        have hsame : ((Segment.splitAt '/' rest).map
            fun p => String.ofList (Segment.unescapeChars p)).map
              (fun s => Segment.escapeChars s.toList) = Segment.splitAt '/' rest := by
          rw [List.map_map]
          refine List.map_congr_left (g := id) (fun p hp => ?_) |>.trans (List.map_id _)
          rw [Function.comp_apply, String.toList_ofList, hparts p hp, id]
        rw [← String.toList_inj, toList_pathOfSegments, segmentsOfPath_of_toList hpath, hpath, hsame,
          Segment.flatMap_splitAt]

/-- Building undoes splitting exactly for well-formed paths. -/
theorem pathOfSegments_segmentsOfPath_iff {path : String} :
    pathOfSegments (segmentsOfPath path) = path ↔ IsWellFormed path := by
  constructor
  · intro h
    rw [← h]
    exact isWellFormed_pathOfSegments _
  · exact pathOfSegments_segmentsOfPath

/-- The instance path of names is built from their texts. -/
theorem instancePath_map_str (names : List String) :
    instancePath (names.map .str) = pathOfSegments names := by
  have hparts : parts (names.map .str) = names := by
    rw [parts, List.map_map]
    exact List.map_id names
  rw [instancePath, hparts]

/--
Instance paths and lists of texts are two forms of the same thing: splitting undoes building for
every list, and building undoes splitting exactly for well-formed paths.  So different lists have
different paths, and the paths that are ever built are the well-formed ones.
-/
theorem instancePath_segmentsOfPath :
    (∀ names : List String, segmentsOfPath (instancePath (names.map .str)) = names) ∧
      (∀ path : String,
        instancePath ((segmentsOfPath path).map .str) = path ↔ IsWellFormed path) ∧
      Function.Injective (fun names : List String => instancePath (names.map .str)) ∧
      Set.range (fun names : List String => instancePath (names.map .str))
        = {path | IsWellFormed path} := by
  simp only [instancePath_map_str]
  refine ⟨segmentsOfPath_pathOfSegments, fun _ => pathOfSegments_segmentsOfPath_iff,
    fun _ _ h => pathOfSegments_injective h, ?_⟩
  ext path
  rw [Set.mem_range, Set.mem_ofPred_eq]
  constructor
  · rintro ⟨names, rfl⟩
    exact isWellFormed_pathOfSegments names
  · intro h
    exact ⟨segmentsOfPath path, pathOfSegments_segmentsOfPath h⟩

end Location

end ApiLint
