import ApiLint.Proofs.Lint.Group

/-!
# Raw errors stand in the order of the tree

A place in a document is a list of texts, and violations are sorted by their places.  In that order what
is below a place follows it, and nothing else comes between.  All raw errors of a violation are at its
place, so they stand in the same order.

Main results:

- Theorem `exists_split_of_pairwise`: a list sorted by places is cut into what is before a place, at it,
  below it and after all that.
- Theorem `filter_sortByLocation`: sorting keeps the order of the violations at one place.
- Theorem `inOrder_standTogether`: the raw errors of any violations stand in the order of the tree.
-/

namespace ApiLint

namespace Location

/-! ## The order of places -/

variable {place low high other : List String}

/-- What is at a place or below it is not before it. -/
theorem not_lt_of_isPrefix (h : place <+: other) : ¬ other < place := by
  obtain ⟨below, rfl⟩ := h
  exact List.not_lt.mpr List.le_append_left

/-- Between a place and one below it there are only places below it. -/
theorem isPrefix_of_between (hlow : ¬ low < place) (hhigh : ¬ high < low) (h : place <+: high) :
    place <+: low := by
  induction place generalizing low high with
  | nil => exact List.nil_prefix
  | cons first place ih =>
      obtain ⟨below, rfl⟩ := h
      cases low with
      | nil => exact absurd (List.nil_lt_cons first place) hlow
      | cons text low =>
          rw [List.cons_lt_cons_iff, not_or, not_and] at hlow
          rw [List.cons_append, List.cons_lt_cons_iff, not_or, not_and] at hhigh
          -- The first text of the place in the middle lies between two equal texts.
          obtain rfl : text = first :=
            String.le_antisymm (String.not_lt.mp hhigh.1) (String.not_lt.mp hlow.1)
          obtain ⟨more, hmore⟩ := ih (hlow.2 rfl) (hhigh.2 rfl) (List.prefix_append place below)
          exact ⟨more, by rw [List.cons_append, hmore]⟩

/-! ## Lists sorted by places -/

variable {α : Type} {l : List α} {key : α → List String}

/-- If what holds of an element holds of all before it, then it holds of a first part of the list. -/
theorem filter_append_filter {p : α → Bool} (h : l.Pairwise fun a b => p b = true → p a = true) :
    l.filter p ++ l.filter (fun a => !p a) = l := by
  induction h with
  | nil => rfl
  | @cons a l hall _ ih =>
      cases ha : p a with
      | true => rw [List.filter_cons_of_pos ha, List.filter_cons_of_neg (by simp [ha]),
          List.cons_append, ih]
      | false =>
          have hnone : ∀ b ∈ l, ¬ p b = true := by
            intro b hmem hb
            rw [hall b hmem hb] at ha
            cases ha
          have hrest : ∀ b ∈ l, (!p b) = true := by
            intro b hmem
            rw [Bool.not_eq_true', Bool.eq_false_iff]
            exact hnone b hmem
          rw [List.filter_cons_of_neg (by simp [ha]), List.filter_cons_of_pos (by simp [ha]),
            List.filter_eq_nil_iff.mpr hnone, List.filter_eq_self.mpr hrest, List.nil_append]

/-- In a list sorted by places, what is at a place or below it stands in one piece. -/
theorem exists_append_filter_isPrefix (h : l.Pairwise fun a b => ¬ key b < key a)
    (place : List String) :
    ∃ before after, l = before ++ l.filter (fun a => place <+: key a) ++ after ∧
      ∀ a ∈ before ++ after, ¬ place <+: key a := by
  let behind := l.filter fun a => !decide (key a < place)
  have hbehind : l.filter (fun a => key a < place) ++ behind = l := by
    refine filter_append_filter (h.imp fun {a b} hab hb => ?_)
    rw [decide_eq_true_iff] at hb ⊢
    exact List.lt_of_le_of_lt (List.not_lt.mp hab) hb
  have hpiece : behind.filter (fun a => place <+: key a) ++
      behind.filter (fun a => !decide (place <+: key a)) = behind := by
    refine filter_append_filter ((h.filter _).imp_of_mem fun {a b} hmem _ hab hb => ?_)
    rw [decide_eq_true_iff] at hb ⊢
    have ha : ¬ key a < place := by simpa using (List.mem_filter.mp hmem).2
    exact isPrefix_of_between ha hab hb
  -- What is before the place is not below it, so nothing is cut off too much.
  have hsame : behind.filter (fun a => place <+: key a) = l.filter fun a => place <+: key a := by
    rw [List.filter_filter]
    refine List.filter_congr fun a _ => ?_
    by_cases ha : place <+: key a
    · rw [decide_eq_true ha, decide_eq_false (not_lt_of_isPrefix ha)]
      rfl
    · rw [decide_eq_false ha, Bool.false_and]
  refine ⟨l.filter fun a => key a < place, behind.filter fun a => !decide (place <+: key a), ?_, ?_⟩
  · rw [← hsame, List.append_assoc, hpiece, hbehind]
  · intro a hmem
    rcases List.mem_append.mp hmem with hmem | hmem
    · exact fun hprefix =>
        not_lt_of_isPrefix hprefix (of_decide_eq_true (List.mem_filter.mp hmem).2)
    · simpa using (List.mem_filter.mp hmem).2

/-- In this piece, what is at the place stands before what is below it. -/
theorem exists_filter_isPrefix_eq_append (h : l.Pairwise fun a b => ¬ key b < key a)
    (place : List String) :
    ∃ below, l.filter (fun a => place <+: key a) = l.filter (fun a => key a = place) ++ below ∧
      ∀ a ∈ below, place <+: key a ∧ key a ≠ place := by
  let piece := l.filter fun a => decide (place <+: key a)
  have hpiece : piece.filter (fun a => key a = place) ++
      piece.filter (fun a => !decide (key a = place)) = piece := by
    refine filter_append_filter ((h.filter _).imp_of_mem fun {a b} hmem _ hab hb => ?_)
    rw [decide_eq_true_iff] at hb ⊢
    have ha : place <+: key a := of_decide_eq_true (List.mem_filter.mp hmem).2
    rw [hb] at hab
    exact List.le_antisymm (List.not_lt.mp hab) (List.not_lt.mp (not_lt_of_isPrefix ha))
  have hsame : piece.filter (fun a => key a = place) = l.filter fun a => key a = place := by
    rw [List.filter_filter]
    refine List.filter_congr fun a _ => ?_
    by_cases ha : key a = place
    · rw [decide_eq_true ha, decide_eq_true (ha ▸ List.prefix_rfl)]
      rfl
    · rw [decide_eq_false ha, Bool.false_and]
  refine ⟨piece.filter fun a => !decide (key a = place), by rw [← hsame, hpiece], fun a hmem => ?_⟩
  obtain ⟨hmem, hne⟩ := List.mem_filter.mp hmem
  exact ⟨of_decide_eq_true (List.mem_filter.mp hmem).2, by simpa using hne⟩

/--
A list sorted by places is cut into what is before a place, what is at it, what is below it, and what is
after all that.
-/
theorem exists_split_of_pairwise (h : l.Pairwise fun a b => ¬ key b < key a) (place : List String) :
    ∃ before below after,
      l = before ++ (l.filter (fun a => key a = place) ++ below) ++ after ∧
      (∀ a ∈ below, place <+: key a ∧ key a ≠ place) ∧
      ∀ a ∈ before ++ after, ¬ place <+: key a := by
  obtain ⟨before, after, hsplit, hothers⟩ := exists_append_filter_isPrefix h place
  obtain ⟨below, hpiece, hbelow⟩ := exists_filter_isPrefix_eq_append h place
  exact ⟨before, below, after, by rw [← hpiece, ← hsplit], hbelow, hothers⟩

end Location

/-! ## Raw errors at a place -/

/-- The place of a raw error: the segments of its path. -/
def RawError.place (e : RawError) : List String := Location.segmentsOfPath e.instancePath

/--
Some raw errors stand together among others: they are at a place, those strictly below it follow them at
once, and no other raw error is at the place or below it.
-/
def StandTogether (place : List String) (here errors : List RawError) : Prop :=
  ∃ before below after, errors = before ++ (here ++ below) ++ after ∧
    (∀ e ∈ here, e.place = place) ∧
    (∀ e ∈ below, place <+: e.place ∧ e.place ≠ place) ∧
    ∀ e ∈ before ++ after, ¬ place <+: e.place

namespace Schema.Violation

variable {v : Violation} {vs : List Violation} {errors : List RawError}

/-- The raw errors of a violation, or none if they cannot be written. -/
def block (v : Violation) : List RawError := v.rawErrors.toOption.getD []

theorem block_of_rawErrors (h : v.rawErrors = .ok errors) : v.block = errors := by
  rw [block, h]
  rfl

/-- A raw error of a violation is at its place. -/
theorem place_rawError (v : Violation) (message : String) (params : List (String × Node)) :
    (v.rawError message params).place = v.path.parts :=
  Location.segmentsOfPath_instancePath v.path

/-- A violation with raw errors has a place that can be written. -/
theorem anyLongInteger_of_rawErrors (h : v.rawErrors = .ok errors) :
    Node.anyLongInteger v.path = false := by
  cases hlong : Node.anyLongInteger v.path with
  | false => rfl
  | true =>
      rw [rawErrors, Node.anyLongInteger_append, hlong, Bool.true_or, if_pos rfl] at h
      cases h

/-- A violation with raw errors has at least one, and all of them are at its place. -/
theorem place_of_rawErrors (h : v.rawErrors = .ok errors) :
    errors ≠ [] ∧ ∀ e ∈ errors, e.place = v.path.parts := by
  have hsingle : ∀ message params,
      (.ok [v.rawError message params] : Except Fault (List RawError)) = .ok errors →
      errors ≠ [] ∧ ∀ e ∈ errors, e.place = v.path.parts := by
    rintro message params ⟨⟩
    refine ⟨List.cons_ne_nil _ _, fun e hmem => ?_⟩
    rw [List.mem_singleton.mp hmem]
    exact place_rawError v message params
  rw [rawErrors] at h
  split at h
  · cases h
  · split at h
    · split at h
      · cases h
      · exact hsingle _ _ h
      · rename_i names hne _
        cases h
        refine ⟨mt List.map_eq_nil_iff.mp hne, fun e hmem => ?_⟩
        obtain ⟨name, -, rfl⟩ := List.mem_map.mp hmem
        exact place_rawError v _ _
    · exact hsingle _ _ h

/-- All raw errors in the block of a violation are at its place. -/
theorem place_of_mem_block {e : RawError} (h : e ∈ v.block) : e.place = v.path.parts := by
  cases hown : v.rawErrors with
  | error fault =>
      rw [block, hown] at h
      cases h
  | ok own =>
      rw [block_of_rawErrors hown] at h
      exact (place_of_rawErrors hown).2 e h

/-- What holds of the places of violations holds of the places of their raw errors. -/
theorem forall_place_of_block {P : List String → Prop} (h : ∀ v ∈ vs, P v.path.parts) :
    ∀ e ∈ vs.flatMap block, P e.place := by
  intro e he
  obtain ⟨v, hmem, hblock⟩ := List.mem_flatMap.mp he
  rw [place_of_mem_block hblock]
  exact h v hmem

/-- Violations have raw errors when each of them has; these are its block, one behind the other. -/
theorem rawErrorsOf_eq_ok_iff :
    rawErrorsOf vs = .ok errors ↔
      (∀ v ∈ vs, v.rawErrors = .ok v.block) ∧ vs.flatMap block = errors := by
  induction vs generalizing errors with
  | nil => simp [rawErrorsOf]
  | cons v vs ih =>
      rw [rawErrorsOf, List.forall_mem_cons, List.flatMap_cons]
      cases hown : v.rawErrors with
      | error e => simp
      | ok own =>
          rw [block_of_rawErrors hown]
          cases hrest : rawErrorsOf vs with
          | error e =>
              have hnone : ¬ ∀ w ∈ vs, w.rawErrors = .ok w.block := by
                intro hall
                rw [ih.mpr ⟨hall, rfl⟩] at hrest
                cases hrest
              simp [hnone]
          | ok rest =>
              obtain ⟨hall, hrest⟩ := ih.mp hrest
              rw [hrest, and_iff_right ⟨rfl, hall⟩, Except.ok.injEq]

/-! ## Violations sorted by their places -/

/-- Does a violation stand no later than another one? -/
abbrev precedes (a b : Violation) : Bool := !decide (b.path.parts < a.path.parts)

theorem precedes_iff {a b : Violation} :
    precedes a b = true ↔ ¬ b.path.parts < a.path.parts := by
  rw [Bool.not_eq_true', decide_eq_false_iff_not]

theorem precedes_trans (a b c : Violation) (hab : precedes a b = true) (hbc : precedes b c = true) :
    precedes a c = true := by
  rw [precedes_iff, List.not_lt] at hab hbc ⊢
  exact List.le_trans hab hbc

theorem precedes_total (a b : Violation) : (precedes a b || precedes b a) = true := by
  rw [Bool.or_eq_true, precedes_iff, precedes_iff, List.not_lt, List.not_lt]
  exact List.le_total a.path.parts b.path.parts

/-- Sorting loses nothing. -/
theorem perm_sortByLocation (vs : List Violation) : (sortByLocation vs).Perm vs :=
  List.mergeSort_perm vs precedes

/-- Sorted violations stand in the order of their places. -/
theorem pairwise_sortByLocation (vs : List Violation) :
    (sortByLocation vs).Pairwise fun a b => ¬ b.path.parts < a.path.parts :=
  (List.pairwise_mergeSort precedes_trans precedes_total vs).imp precedes_iff.mp

/-- Sorting keeps the order of the violations at one place. -/
theorem filter_sortByLocation (vs : List Violation) (place : List String) :
    (sortByLocation vs).filter (fun v => v.path.parts = place) =
      vs.filter fun v => v.path.parts = place := by
  have hequal : (vs.filter fun v => v.path.parts = place).Pairwise fun a b =>
      precedes a b = true := by
    refine List.pairwise_of_forall_mem_list fun a ha b hb => ?_
    have ha' : a.path.parts = place := by simpa using (List.mem_filter.mp ha).2
    have hb' : b.path.parts = place := by simpa using (List.mem_filter.mp hb).2
    rw [precedes_iff, ha', hb']
    exact List.lt_irrefl place
  -- A sorted sublist stays a sublist, and there is no more at the place than before.
  have hsublist : (vs.filter fun v => v.path.parts = place).Sublist
      ((sortByLocation vs).filter fun v => v.path.parts = place) := by
    have hkept := (List.sublist_mergeSort precedes_trans precedes_total hequal
      List.filter_sublist).filter fun v => v.path.parts = place
    simp only [List.filter_filter, Bool.and_self] at hkept
    exact hkept
  exact (hsublist.eq_of_length ((perm_sortByLocation vs).filter _).length_eq.symm).symm

/-- The raw errors of sorted violations stand together at every place. -/
theorem standTogether_sortByLocation (vs : List Violation) (place : List String) :
    StandTogether place ((vs.filter fun v => v.path.parts = place).flatMap block)
      ((sortByLocation vs).flatMap block) := by
  obtain ⟨before, below, after, hsplit, hbelow, hothers⟩ :=
    Location.exists_split_of_pairwise (pairwise_sortByLocation vs) place
  rw [filter_sortByLocation] at hsplit
  have hhere : ∀ v ∈ vs.filter fun v => v.path.parts = place, v.path.parts = place :=
    fun v hmem => of_decide_eq_true (List.mem_filter.mp hmem).2
  refine ⟨before.flatMap block, below.flatMap block, after.flatMap block, ?_,
    forall_place_of_block (P := (· = place)) hhere,
    forall_place_of_block (P := fun p => place <+: p ∧ p ≠ place) hbelow, ?_⟩
  · rw [hsplit]
    simp only [List.flatMap_append]
  · rw [← List.flatMap_append]
    exact forall_place_of_block (P := fun p => ¬ place <+: p) hothers

/-! ## The raw errors of a list of violations -/

/-- The raw errors of violations are their blocks in the order of the places. -/
theorem inOrder_eq_ok_iff :
    inOrder vs = .ok errors ↔
      (∀ v ∈ vs, v.rawErrors = .ok v.block) ∧ (sortByLocation vs).flatMap block = errors := by
  cases hlong : vs.any fun v => Node.anyLongInteger v.path with
  | true =>
      obtain ⟨v, hmem, hv⟩ := List.any_eq_true.mp hlong
      rw [inOrder, hlong, if_pos rfl]
      constructor
      · intro herrors
        cases herrors
      · rintro ⟨hall, -⟩
        rw [anyLongInteger_of_rawErrors (hall v hmem)] at hv
        cases hv
  | false =>
      have hpaths : ∀ v ∈ vs, Node.anyLongInteger v.path = false := fun v hmem =>
        Bool.eq_false_iff.mpr (List.any_eq_false.mp hlong v hmem)
      rw [inOrder_eq_rawErrorsOf hpaths, rawErrorsOf_eq_ok_iff]
      exact and_congr_left' (forall_congr' fun v => by rw [(perm_sortByLocation vs).mem_iff])

/-- A violation that fits a plain document has raw errors. -/
theorem rawErrors_eq_block_of_fits {document : Node} (hplain : document.IsPlain)
    (h : v.Fits document) : v.rawErrors = .ok v.block := by
  obtain ⟨findings, hfindings, -⟩ := exists_findings_of_fits hplain h
  obtain ⟨errors, herrors, -⟩ := findings_eq_ok_iff.mp hfindings
  rw [block_of_rawErrors herrors, herrors]

/--
The raw errors of any violations stand in the order of the tree.  They exist exactly when each violation has
some, as all do that fit a plain document.  Then each violation gives one block of raw errors at its place, no
block is lost or repeated, and for every place the blocks at it stand together in the order in which the
violations were found, right before what is below the place.
-/
theorem inOrder_standTogether (vs : List Violation) :
    ((∃ errors, inOrder vs = .ok errors) ↔ ∀ v ∈ vs, ∃ own, v.rawErrors = .ok own) ∧
    (∀ document : Node, document.IsPlain → (∀ v ∈ vs, v.Fits document) →
      ∃ errors, inOrder vs = .ok errors) ∧
    ∀ errors, inOrder vs = .ok errors →
      (∀ v ∈ vs, v.rawErrors = .ok v.block ∧ v.block ≠ [] ∧ ∀ e ∈ v.block, e.place = v.path.parts) ∧
      (∃ order : List Violation, order.Perm vs ∧ errors = order.flatMap block) ∧
      ∀ place, StandTogether place
        ((vs.filter fun v => v.path.parts = place).flatMap block) errors := by
  have hexists : (∀ v ∈ vs, v.rawErrors = .ok v.block) → ∃ errors, inOrder vs = .ok errors :=
    fun hall => ⟨_, inOrder_eq_ok_iff.mpr ⟨hall, rfl⟩⟩
  refine ⟨⟨?_, fun hall => hexists fun v hmem => ?_⟩,
    fun document hplain hfits => hexists fun v hmem => ?_, fun errors herrors => ?_⟩
  · rintro ⟨errors, herrors⟩ v hmem
    exact ⟨v.block, (inOrder_eq_ok_iff.mp herrors).1 v hmem⟩
  · obtain ⟨own, hown⟩ := hall v hmem
    rw [block_of_rawErrors hown, hown]
  · exact rawErrors_eq_block_of_fits hplain (hfits v hmem)
  · obtain ⟨hall, rfl⟩ := inOrder_eq_ok_iff.mp herrors
    exact ⟨fun v hmem => ⟨hall v hmem, place_of_rawErrors (hall v hmem)⟩,
      ⟨sortByLocation vs, perm_sortByLocation vs, rfl⟩, standTogether_sortByLocation vs⟩

end Schema.Violation

namespace Schema.Compiled

/-- The raw errors of a document are those of its violations. -/
theorem rawErrors_eq_inOrder {c : Compiled} {document : Node} {vs : List Violation}
    (h : c.checker document = .ok vs) : c.rawErrors document = Violation.inOrder vs := by
  rw [rawErrors, Checker.rawErrors, h]

/-- A schema of several depths. -/
def nested : Compiled where
  draft := .draft202012
  schema := .map [
    (.str "properties", .map [
      (.str "b", .map [(.str "type", .str "null"), (.str "enum", .list [.null])]),
      (.str "a!", .map [(.str "type", .str "null")]),
      (.str "a", .map [(.str "items", .map [(.str "type", .str "string")]), (.str "maxItems", .int 1)])]),
    (.str "maxProperties", .int 1)]

/-- A document that violates it at each of them. -/
def unordered : Node := .map [
  (.str "a", .list [.int 1, .str "x"]), (.str "a!", .int 0), (.str "b", .int 0)]

/-- What it violates. -/
def violated : List Violation := (nested.checker unordered).toOption.getD []

/-- The raw errors of a document that is violated at several depths stand together place by place. -/
theorem inOrder_standTogether_unordered :
    nested.checker unordered = .ok violated ∧
      violated.map (·.path.parts) = [["b"], ["b"], ["a!"], ["a", "0"], ["a"], []] ∧
      ∃ errors, nested.rawErrors unordered = .ok errors ∧ ∀ place, StandTogether place
          ((violated.filter fun v => v.path.parts = place).flatMap Violation.block) errors := by
  have hrun : nested.checker unordered = .ok violated := rfl
  have hplain : unordered.IsPlain := by
    constructor <;> decide +kernel
  have hsize : nested.schema.size < leastLong := by decide +kernel
  obtain ⟨-, hexists, hall⟩ := Violation.inOrder_standTogether violated
  obtain ⟨errors, herrors⟩ := hexists unordered hplain (fits_of_checker hsize hplain hrun)
  obtain ⟨-, -, htogether⟩ := hall errors herrors
  exact ⟨hrun, by decide +kernel, errors, (rawErrors_eq_inOrder hrun).trans herrors, htogether⟩

end Schema.Compiled

end ApiLint
