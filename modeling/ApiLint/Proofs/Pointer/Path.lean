import ApiLint.Pointer.Path
import ApiLint.Pointer.Reading
import ApiLint.Pointer.Resolve
import ApiLint.Proofs.Pointer.Segment

/-!
# Laws of instance paths

An instance path can be split into the texts that it was built from, whatever characters they hold.
Behind a number sign it is a pointer, which is resolved by a walk along the same texts.

Main results:

- Theorem `segmentsOfPath_pathOfSegments`: splitting a path undoes building it.
- Theorem `segmentsOfPath_append`: a path behind another one has its own segments.
- Theorem `resolveText?_path`: resolving a path is walking along its segments.
-/

namespace ApiLint.Location

/-- The segments of a text that starts with a slash. -/
theorem segmentsOfPath_of_toList {path : String} {c : Char} {rest : List Char}
    (h : path.toList = c :: rest) :
    segmentsOfPath path
      = (Segment.splitAt '/' rest).map fun s => String.ofList (Segment.unescapeChars s) := by
  rw [segmentsOfPath, h]

/-- The characters of a path: every text written behind a slash. -/
theorem toList_pathOfSegments (segments : List String) :
    (pathOfSegments segments).toList
      = (segments.map fun s => Segment.escapeChars s.toList).flatMap ('/' :: ·) := by
  rw [pathOfSegments, String.toList_ofList, List.flatMap_map]

/-- Splitting a path undoes building it. -/
@[simp]
theorem segmentsOfPath_pathOfSegments (segments : List String) :
    segmentsOfPath (pathOfSegments segments) = segments := by
  have hchars := toList_pathOfSegments segments
  cases segments with
  | nil =>
      rw [segmentsOfPath, hchars]
      rfl
  | cons first others =>
      rw [List.map_cons, List.flatMap_cons, List.cons_append] at hchars
      have hslash : ∀ p ∈ Segment.escapeChars first.toList ::
          others.map fun s => Segment.escapeChars s.toList, '/' ∉ p := by
        intro p hp
        rw [← List.map_cons (f := fun s : String => Segment.escapeChars s.toList)] at hp
        obtain ⟨s, -, rfl⟩ := List.mem_map.mp hp
        exact Segment.slash_notMem_escapeChars s.toList
      rw [segmentsOfPath_of_toList hchars, Segment.splitAt_flatMap_cons _ _ hslash, List.map_cons,
        List.map_map]
      simp [Function.comp_def]

/-- Different lists of texts have different paths. -/
theorem pathOfSegments_injective {first second : List String}
    (h : pathOfSegments first = pathOfSegments second) : first = second := by
  rw [← segmentsOfPath_pathOfSegments first, h, segmentsOfPath_pathOfSegments]

/-- The segments of the instance path of a location are the texts of its parts. -/
@[simp]
theorem segmentsOfPath_instancePath (location : Location) :
    segmentsOfPath location.instancePath = location.parts :=
  segmentsOfPath_pathOfSegments location.parts

end ApiLint.Location

namespace ApiLint.Pointer

/-- The characters of a path behind a number sign. -/
theorem toList_fragment (path : String) : ("#" ++ path).toList = '#' :: path.toList := by
  rw [String.toList_append]
  rfl

/-- A path that was built is empty or starts with a slash. -/
theorem isRooted_pathOfSegments (segments : List String) :
    isRooted (Location.pathOfSegments segments) = true := by
  rw [isRooted, Location.toList_pathOfSegments]
  cases segments <;> rfl

/-- A path that is empty or starts with a slash is empty or a slash with a text behind it. -/
theorem isRooted_cases {path : String} (h : isRooted path = true) :
    path = "" ∨ ∃ rest, path.toList = '/' :: rest := by
  rw [isRooted] at h
  cases hpath : path.toList with
  | nil => exact .inl (String.toList_eq_nil_iff.mp hpath)
  | cons c rest =>
      rw [hpath, List.head?_cons, Option.all_some, decide_eq_true_iff] at h
      exact .inr ⟨rest, by rw [h]⟩

/-- Such paths one behind the other are such a path. -/
theorem isRooted_append {path more : String} (hpath : isRooted path = true)
    (hmore : isRooted more = true) : isRooted (path ++ more) = true := by
  rcases isRooted_cases hpath with rfl | ⟨rest, hrest⟩
  · rwa [String.empty_append]
  · rw [isRooted, String.toList_append, hrest]
    rfl

/-- A path behind another one has its own segments. -/
theorem segmentsOfPath_append {path more : String} (hpath : isRooted path = true)
    (hmore : isRooted more = true) :
    Location.segmentsOfPath (path ++ more) =
      Location.segmentsOfPath path ++ Location.segmentsOfPath more := by
  rcases isRooted_cases hpath with rfl | ⟨rest, hrest⟩
  · rw [String.empty_append]
    rfl
  · rcases isRooted_cases hmore with rfl | ⟨others, hothers⟩
    · rw [String.append_empty]
      exact (List.append_nil _).symm
    · have hboth : (path ++ more).toList = '/' :: (rest ++ '/' :: others) := by
        rw [String.toList_append, hrest, hothers, List.cons_append]
      rw [Location.segmentsOfPath_of_toList hboth, Location.segmentsOfPath_of_toList hrest,
        Location.segmentsOfPath_of_toList hothers, Segment.splitAt_append_separator, List.map_append]

/-- Resolving a path that is empty or starts with a slash is walking along its segments. -/
theorem resolveText?_path (root : Node) {path : String} (hrooted : isRooted path = true) :
    resolveText? root ("#" ++ path) = walk? root (Location.segmentsOfPath path) := by
  rw [resolveText?, toList_fragment]
  rcases isRooted_cases hrooted with rfl | ⟨rest, hpath⟩
  · rfl
  · rw [hpath, Location.segmentsOfPath_of_toList hpath]
    rfl

/-- Any other path leads nowhere. -/
theorem resolveText?_path_of_not_rooted (root : Node) {path : String}
    (hrooted : isRooted path = false) : resolveText? root ("#" ++ path) = .ok none := by
  rw [isRooted] at hrooted
  rw [resolveText?, toList_fragment]
  cases hpath : path.toList with
  | nil =>
      rw [hpath] at hrooted
      cases hrooted
  | cons c rest =>
      rw [hpath, List.head?_cons, Option.all_some, decide_eq_false_iff_not] at hrooted
      split
      · rename_i heq
        cases heq
      · rename_i heq
        cases heq
      · rename_i heq
        exact absurd (List.cons.inj (List.cons.inj heq).2).1 hrooted
      · rfl

/-- Resolving the instance path of a location is walking along the texts of its parts. -/
theorem resolveText?_instancePath (root : Node) (location : Location) :
    resolveText? root ("#" ++ location.instancePath) = walk? root location.parts := by
  rw [Location.instancePath, resolveText?_path root (isRooted_pathOfSegments location.parts),
    Location.segmentsOfPath_pathOfSegments]

end ApiLint.Pointer
