import ApiLint.Proofs.Schema.Fit
import ApiLint.Proofs.Schema.Reference
import ApiLint.Proofs.Schema.Subschema

/-!
# Keywords that go down

Some keywords check parts of the value, or the value itself, against subschemas.  Their violations
fit the value: each part lies below the value under the key or index that it is reported with, and
the subschema is part of the schema as a whole.

Main results:

- Theorem `descends_of_isSound`: the violations of each such keyword fit.
-/

namespace ApiLint.Schema.Site

open Outcome Violation

variable {site : Site} (hsound : site.IsSound)

/-! ## Items with their indices -/

/-- The items with their indices, from a given index on. -/
theorem exists_of_mem_indexed {index x : Node} {start : Nat} {xs : List Node}
    (h : (index, x) ∈ indexed start xs) : ∃ i, index = .int
    ((start + i : Nat) : Int) ∧ xs[i]? = some x := by
  induction xs generalizing start with
  | nil => cases h
  | cons y ys ih =>
      rcases List.mem_cons.mp h with heq | hrest
      · cases heq
        exact ⟨0, rfl, rfl⟩
      · obtain ⟨i, rfl, hget⟩ := ih hrest
        exact ⟨i + 1, by rw [Nat.add_right_comm, Nat.add_assoc], hget⟩

/-- An item lies below an array under its index. -/
theorem child?_list {xs : List Node} {i : Nat} {x : Node} (h : xs[i]? = some x) :
    (Node.list xs).child? (.int (i : Int)) = some x := by
  rw [Node.child?, if_neg (Int.not_lt.mpr (Int.natCast_nonneg i)), Int.toNat_natCast]
  exact h

/-! ## Names -/

/-- Only a pattern that is a text can be found. -/
theorem exists_str_of_isFound {pattern text : Node} {found : Bool}
    (h : isFound pattern text = .ok found) :
    ∃ p, pattern = .str p := by
  cases pattern with
  | str p => exact ⟨p, rfl⟩
  | _ => cases h

/-- Names are filtered one after the other, and the test must fail on none of them. -/
theorem filterNames_cons_eq_ok_iff {test : Node → Except Fault Bool} {first : Node}
    {rest kept : List Node} :
    filterNames test (first :: rest) = .ok kept ↔
      ∃ keep others, test first = .ok keep ∧ filterNames test rest = .ok others ∧
        kept = if keep then first :: others else others := by
  rw [filterNames]
  cases test first with
  | error fault => simp
  | ok keep =>
      cases filterNames test rest with
      | error fault => simp
      | ok others => simp [eq_comm]

/-- Names that satisfy a test are among the names tested. -/
theorem mem_of_mem_filterNames {test : Node → Except Fault Bool} {names kept : List Node}
    (h : filterNames test names = .ok kept) {name : Node} (hmem : name ∈ kept) : name ∈ names := by
  induction names generalizing kept with
  | nil =>
      cases h
      exact hmem
  | cons first rest ih =>
      obtain ⟨keep, others, -, hrest, rfl⟩ := filterNames_cons_eq_ok_iff.mp h
      cases keep with
      | false => exact List.mem_cons_of_mem first (ih hrest hmem)
      | true =>
          rcases List.mem_cons.mp hmem with rfl | hother
          · exact List.mem_cons_self
          · exact List.mem_cons_of_mem first (ih hrest hother)

/-- Additional names are names of entries. -/
theorem mem_of_mem_additionalNames {entries : List (Node × Node)} {names : List Node}
    (h : site.additionalNames entries = .ok names) {name : Node} (hmem : name ∈ names) :
    name ∈ entries.map (·.1) := by
  rw [additionalNames] at h
  split at h
  · cases h
  · exact mem_of_mem_filterNames h hmem

include hsound

/-- The value of another keyword is part of the schema. -/
theorem IsSound.size_le_of_sibling? {name : String} {x : Node} (h : site.sibling? name = some x) :
    x.size ≤ site.root.size :=
  Nat.le_trans (Node.size_le_of_lookup h) hsound.entries

/-- So is an element of the value of the keyword. -/
theorem IsSound.size_le_of_mem_elements? {xs : List Node} {x : Node}
    (h : site.value.elements? = some xs)
    (hmem : x ∈ xs) : x.size ≤ site.root.size :=
  Nat.le_trans (Node.size_le_of_mem_elements? h hmem) hsound.value

/-- So is the value of an entry of the value of the keyword. -/
theorem IsSound.size_le_of_mem {entries : List (Node × Node)} {entry : Node × Node}
    (h : site.value = .map entries) (hmem : entry ∈ entries) : entry.2.size ≤ site.root.size := by
  refine Nat.le_trans (Node.size_le_of_mem hmem) ?_
  rw [← h]
  exact hsound.value

/-- A value that is a mapping is a plain one. -/
theorem IsSound.isPlain_map {entries : List (Node × Node)} (hsubject : site.subject = .map entries) :
    (Node.map entries).IsPlain := by
  rw [← hsubject]
  exact hsound.subject

/-! ## Arrays -/

theorem ensures_itemsFrom {xs : List Node} (hsubject : site.subject = .list xs) (start : Nat) :
    (site.itemsFrom start xs).Ensures (Fits site.subject) := by
  refine ensures_itemsFrom_of_descend fun index x hmem => ?_
  obtain ⟨i, rfl, hget⟩ := exists_of_mem_indexed hmem
  rw [List.getElem?_drop] at hget
  exact ensures_descend_below hsound hsound.value (hsubject ▸ child?_list hget) rfl

theorem ensures_itemsByPosition {xs : List Node} (hsubject : site.subject = .list xs) :
    (site.itemsByPosition xs).Ensures (Fits site.subject) := by
  refine ensures_itemsByPosition_of_descend fun schemas hschemas index x schema hmem => ?_
  obtain ⟨hindexed, hschema⟩ := List.of_mem_zip hmem
  obtain ⟨i, rfl, hget⟩ := exists_of_mem_indexed hindexed
  rw [Nat.zero_add]
  have hchild : site.subject.child? (.int (i : Int)) = some x := hsubject ▸ child?_list hget
  have hindex : (Node.int (i : Int)).hasLongInteger = false :=
    Pointer.hasLongInteger_of_child? hsound.subject.strings hsound.subject.short hchild
  exact ensures_descend_below hsound (hsound.size_le_of_mem_elements? hschemas hschema) hchild
    (Node.anyLongInteger_toList hindex)

/-! ## Objects -/

theorem ensures_properties : site.properties.Ensures (Fits site.subject) := by
  refine ensures_properties_of_descend fun entries declared hsubject hvalue => ?_
  intro name schema x hmem hlookup
  have hplain := hsound.isPlain_map hsubject
  obtain ⟨s, rfl⟩ := hplain.exists_str_of_lookupKey hlookup
  have hsize : schema.size ≤ site.root.size := hsound.size_le_of_mem hvalue hmem
  exact ensures_descend_below hsound hsize (hsubject ▸ hlookup) rfl

theorem ensures_patternProperties : site.patternProperties.Ensures (Fits site.subject) := by
  refine ensures_patternProperties_of_descend fun entries patterns hsubject hvalue => ?_
  intro pattern schema name x found hmem hitem hfound
  have hplain := hsound.isPlain_map hsubject
  obtain ⟨-, hchild⟩ := hplain.entry hitem
  obtain ⟨p, rfl⟩ := exists_str_of_isFound hfound
  exact ensures_descend_below hsound (hsound.size_le_of_mem hvalue hmem) (hsubject ▸ hchild) rfl

theorem ensures_propertyNames : site.propertyNames.Ensures (Fits site.subject) := by
  refine ensures_propertyNames_of_descend fun entries hsubject name x hmem => ?_
  have hplain := hsound.isPlain_map hsubject
  obtain ⟨⟨s, rfl⟩, -⟩ := hplain.entry hmem
  exact ensures_descend_name hsound hsound.value s

theorem ensures_additionalProperties
    (hreport : ∀ message, (site.report message).Ensures (Fits site.subject)) :
    site.additionalProperties.Ensures (Fits site.subject) := by
  refine ensures_additionalProperties_of_descend (fun _ _ _ _ _ => hreport) ?_
  intro entries extras hsubject hextras name hmem
  have hplain := hsound.isPlain_map hsubject
  obtain ⟨entry, hentry, rfl⟩ := List.mem_map.mp (mem_of_mem_additionalNames hextras hmem)
  obtain ⟨-, hchild⟩ := hplain.entry hentry
  have hlookup : Node.lookupKey entry.1 entries = some entry.2 := hchild
  rw [hlookup]
  exact ensures_descend_below hsound hsound.value (hsubject ▸ hchild) rfl

theorem ensures_dependencies
    (hreport : ∀ message, (site.report message).Ensures (Fits site.subject))
    (asNames : Node → Bool) : (site.dependencies asNames).Ensures (Fits site.subject) := by
  refine ensures_dependencies_of_descend hreport (fun entries demands hsubject hvalue => ?_) asNames
  intro name demand x hmem hlookup
  have hplain := hsound.isPlain_map hsubject
  obtain ⟨s, rfl⟩ := hplain.exists_str_of_lookupKey hlookup
  exact ensures_descend_beside hsound (hsound.size_le_of_mem hvalue hmem) rfl

/-! ## Combinations -/

theorem ensures_allOf : site.allOf.Ensures (Fits site.subject) := by
  refine ensures_allOf_of_descend fun schemas hschemas index schema hmem => ?_
  obtain ⟨i, rfl, hget⟩ := exists_of_mem_indexed hmem
  rw [Nat.zero_add]
  have hschema : schema ∈ schemas := List.mem_of_getElem? hget
  rcases Node.length_lt_size hschemas with hlength | hleaf
  · have hi : i < leastLong := by
      have hlt := (List.getElem?_eq_some_iff.mp hget).1
      have hvalue := hsound.value
      have hroot := hsound.root
      omega
    exact ensures_descend_beside hsound (hsound.size_le_of_mem_elements? hschemas hschema)
      (Node.anyLongInteger_toList (Node.hasLongInteger_of_lt hi))
  · -- Characters and bytes are no schemas.
    refine ensures_descend fun hfault => ?_
    rcases hleaf schema hschema with ⟨s, rfl⟩ | ⟨n, rfl⟩
    · cases hdraft : site.draft <;> rw [hdraft] at hfault <;> cases hfault
    · cases hdraft : site.draft <;> rw [hdraft] at hfault <;> cases hfault

theorem ensures_conditional : site.conditional.Ensures (Fits site.subject) :=
  ensures_conditional_of_descend fun _ _ hsibling =>
    ensures_descend_beside hsound (hsound.size_le_of_sibling? hsibling) rfl

theorem ensures_reference : site.reference.Ensures (Fits site.subject) :=
  ensures_reference_of_descend fun _ hschema =>
    ensures_descendFreely_beside hsound (size_le_of_follow hschema) rfl

/-! ## All of them -/

/-- What the keywords that descend report fits the value. -/
theorem descends_of_isSound
    (hreport : ∀ message, (site.report message).Ensures (Fits site.subject)) :
    site.Descends (Fits site.subject) where
  reference := ensures_reference hsound
  additionalItems := ensures_additionalItems_of_descend hreport fun _ start hsubject =>
    ensures_itemsFrom hsound hsubject start
  additionalProperties := ensures_additionalProperties hsound hreport
  allOf := ensures_allOf hsound
  dependencies := ensures_dependencies hsound hreport
  items := ensures_items_of_descend hreport
    (fun _ start hsubject => ensures_itemsFrom hsound hsubject start)
    fun _ hsubject => ensures_itemsByPosition hsound hsubject
  leadingItems :=
    ensures_leadingItems_of_descend fun _ hsubject => ensures_itemsByPosition hsound hsubject
  patternProperties := ensures_patternProperties hsound
  properties := ensures_properties hsound
  propertyNames := ensures_propertyNames hsound

end ApiLint.Schema.Site
